import MqttSnClient.Lib.DeltaQueue

/-! Requests that wait for an answer, each with the number of ticks it has waited: a bounded
book of them, the operations on it, and what becomes of a request that was accepted. -/
namespace Ledger
open DeltaQueue

variable {α ε κ : Type*}

/-- A request and the ticks since it was accepted. -/
structure Entry (α : Type*) where
  request : α
  age : ℕ

def Entry.older (e : Entry α) : Entry α := { e with age := e.age + 1 }

/-- The requests that wait, oldest first, and the places left for more. -/
structure Book (α : Type*) where
  pending : List (Entry α)
  free : ℕ

/-- What can happen to a book. A request that is lost takes its place with it. -/
inductive Op (α ε : Type*)
  | accept (a : α)
  | answer (a : α) (e : ε)
  | lose (a : α)
  | tick (out : List α)
  | close (out : List α)
  | renew (n : ℕ)

/-- Who runs out at a tick: who has waited for `limit` ticks already, and of those who have
waited for one tick less the first one. -/
def expire (limit : ℕ) : List (Entry α) → List (Entry α) × List (Entry α)
  | [] => ([], [])
  | e :: es =>
    if limit ≤ e.age then (e :: (expire limit es).1, (expire limit es).2)
    else if e.age + 1 = limit then ([e], es)
    else ([], e :: es)

/-- The operations. An answer goes to the oldest request of its key. -/
inductive Step (limit : ℕ) (key : α → κ) : Book α → Op α ε → Book α → Prop
  | accept {es n} (a : α) : Step limit key ⟨es, n + 1⟩ (.accept a) ⟨es ++ [⟨a, 0⟩], n⟩
  | answer {xs e ys n} (h : ∀ x ∈ xs, key x.request ≠ key e.request) (err : ε) :
      Step limit key ⟨xs ++ e :: ys, n⟩ (.answer e.request err) ⟨xs ++ ys, n + 1⟩
  | lose {xs e ys n} (h : ∀ x ∈ xs, key x.request ≠ key e.request) :
      Step limit key ⟨xs ++ e :: ys, n⟩ (.lose e.request) ⟨xs ++ ys, n⟩
  | tick {es n} : Step limit key ⟨es, n⟩ (.tick ((expire limit es).1.map Entry.request))
      ⟨(expire limit es).2.map Entry.older, n + (expire limit es).1.length⟩
  | close {es n} : Step limit key ⟨es, n⟩ (.close (es.map Entry.request)) ⟨[], n + es.length⟩
  | renew {n} (m : ℕ) : Step limit key ⟨[], n⟩ (.renew m) ⟨[], m⟩

inductive Steps (limit : ℕ) (key : α → κ) : Book α → List (Op α ε) → Book α → Prop
  | nil {b} : Steps limit key b [] b
  | cons {b b' b'' op ops} (h : Step limit key b op b') (hs : Steps limit key b' ops b'') :
      Steps limit key b (op :: ops) b''

/-- What an operation takes on. -/
def Op.accepted : Op α ε → List α
  | .accept a => [a]
  | .answer .. | .lose _ | .tick _ | .close _ | .renew _ => []

/-- What an operation answers, be it with a timeout. -/
def Op.answered : Op α ε → List α
  | .answer a _ => [a]
  | .tick out => out
  | .accept _ | .lose _ | .close _ | .renew _ => []

/-- What an operation drops without an answer. -/
def Op.dropped : Op α ε → List α
  | .lose a => [a]
  | .close out => out
  | .accept _ | .answer .. | .tick _ | .renew _ => []

def Book.requests (b : Book α) : List α := b.pending.map Entry.request

section

variable {limit : ℕ} {key : α → κ} {b b' b'' : Book α} {op : Op α ε} {ops ops' : List (Op α ε)}

theorem Steps.single (h : Step limit key b op b') : Steps limit key b [op] b' := .cons h .nil

theorem Steps.append (h : Steps limit key b ops b') (h' : Steps limit key b' ops' b'') :
    Steps limit key b (ops ++ ops') b'' := by
  induction h with
  | nil => exact h'
  | cons hs _ ih => exact .cons hs (ih h')

theorem expire_split (limit : ℕ) (es : List (Entry α)) :
    (expire limit es).1 ++ (expire limit es).2 = es := by
  induction es with
  | nil => rfl
  | cons e es ih =>
    unfold expire
    split_ifs
    · rw [List.cons_append, ih]
    · rfl
    · rfl

/-- Nothing is answered twice and nothing vanishes: what was waiting or is taken on is
answered, dropped or still waiting. -/
theorem Step.balance (h : Step limit key b op b') :
    (b.requests : Multiset α) + op.accepted = op.answered + op.dropped + b'.requests := by
  cases h with
  | accept a =>
    simp only [Book.requests, Op.accepted, Op.answered, Op.dropped, List.map_append, List.map_cons,
      List.map_nil]
    exact Multiset.coe_eq_coe.mpr (by simp)
  | answer h err =>
    simp only [Book.requests, Op.accepted, Op.answered, Op.dropped, List.map_append, List.map_cons]
    exact Multiset.coe_eq_coe.mpr (by simp)
  | lose h =>
    simp only [Book.requests, Op.accepted, Op.answered, Op.dropped, List.map_append, List.map_cons]
    exact Multiset.coe_eq_coe.mpr (by simp)
  | @tick es n =>
    have holder : ((expire limit es).2.map Entry.older).map Entry.request =
        (expire limit es).2.map Entry.request := by
      rw [List.map_map]
      rfl
    simp only [Book.requests, Op.accepted, Op.answered, Op.dropped, holder, Multiset.coe_nil,
      add_zero, Multiset.coe_add]
    rw [← List.map_append, expire_split]
  | close => simp [Book.requests, Op.accepted, Op.answered, Op.dropped]
  | renew m => simp [Book.requests, Op.accepted, Op.answered, Op.dropped]

theorem Steps.balance (h : Steps limit key b ops b') :
    (b.requests : Multiset α) + ops.flatMap Op.accepted =
      ops.flatMap Op.answered + ops.flatMap Op.dropped + b'.requests := by
  induction h with
  | nil => simp
  | @cons b b' b'' op ops hs _ ih =>
    have hstep := hs.balance
    simp only [List.flatMap_cons, ← Multiset.coe_add]
    calc (b.requests : Multiset α) + (op.accepted + ops.flatMap Op.accepted)
        = op.answered + op.dropped + (b'.requests + ops.flatMap Op.accepted) := by
          rw [← add_assoc, hstep, add_assoc]
      _ = op.answered + ops.flatMap Op.answered +
            (op.dropped + ops.flatMap Op.dropped) + b''.requests := by
          rw [ih]
          abel

/-- The ages of a book: nobody waits for longer than `limit` ticks, and who came first has
waited longest. -/
structure Book.Aged (limit : ℕ) (b : Book α) : Prop where
  bound : ∀ e ∈ b.pending, e.age ≤ limit
  sorted : b.pending.Pairwise fun e e' => e'.age ≤ e.age

theorem Book.Aged.of_pending (h : b.Aged limit) (hp : b'.pending = b.pending) : b'.Aged limit := by
  constructor
  · rw [hp]
    exact h.bound
  · rw [hp]
    exact h.sorted

/-- At a tick only those run out who then have waited for `limit` ticks or one more, and nobody
stays who would then have waited for more than `limit`. -/
theorem expire_ages {es : List (Entry α)} (hbound : ∀ e ∈ es, e.age ≤ limit)
    (hsorted : es.Pairwise fun e e' => e'.age ≤ e.age) :
    (∀ e ∈ (expire limit es).1, limit ≤ e.age + 1) ∧
      ∀ e ∈ (expire limit es).2, e.age + 1 ≤ limit := by
  induction es with
  | nil => simp [expire]
  | cons e es ih =>
    obtain ⟨hfirst, hrest⟩ := List.pairwise_cons.mp hsorted
    have hle := hbound e List.mem_cons_self
    obtain ⟨hout, hstay⟩ := ih (fun e' he' => hbound e' (List.mem_cons_of_mem e he')) hrest
    unfold expire
    split_ifs with hlate hnow
    · refine ⟨fun e' he' => ?_, hstay⟩
      rcases List.mem_cons.mp he' with rfl | he'
      · omega
      · exact hout e' he'
    · refine ⟨fun e' he' => ?_, fun e' he' => ?_⟩
      · rw [List.mem_singleton.mp he', hnow]
      · have hage := hfirst e' he'
        omega
    · refine ⟨by simp, fun e' he' => ?_⟩
      rcases List.mem_cons.mp he' with rfl | he'
      · omega
      · have hage := hfirst e' he'
        omega

theorem Step.aged (h : Step limit key b op b') (hb : b.Aged limit) : b'.Aged limit := by
  obtain ⟨hbound, hsorted⟩ := hb
  cases h with
  | accept a =>
    refine ⟨fun e he => ?_, ?_⟩
    · rcases List.mem_append.mp he with he | he
      · exact hbound e he
      · rw [List.mem_singleton.mp he]
        exact Nat.zero_le limit
    · rw [List.pairwise_append]
      refine ⟨hsorted, List.pairwise_singleton _ _, fun e _ e' he' => ?_⟩
      rw [List.mem_singleton.mp he']
      exact Nat.zero_le e.age
  | @answer xs e ys n h err =>
    have hsub := (List.sublist_cons_self e ys).append_left xs
    exact ⟨fun e he => hbound e (hsub.subset he), hsorted.sublist hsub⟩
  | @lose xs e ys n h =>
    have hsub := (List.sublist_cons_self e ys).append_left xs
    exact ⟨fun e he => hbound e (hsub.subset he), hsorted.sublist hsub⟩
  | @tick es n =>
    have hstay := (expire_ages hbound hsorted).2
    have hsub : (expire limit es).2.Sublist es := by
      have happ := List.sublist_append_right (expire limit es).1 (expire limit es).2
      rwa [expire_split] at happ
    refine ⟨fun e he => ?_, ?_⟩
    · obtain ⟨e', he', rfl⟩ := List.mem_map.mp he
      exact hstay e' he'
    · rw [List.pairwise_map]
      exact (hsorted.sublist hsub).imp fun hle => Nat.succ_le_succ hle
  | close => exact ⟨by simp, List.Pairwise.nil⟩
  | renew m => exact ⟨by simp, List.Pairwise.nil⟩

theorem Steps.aged (h : Steps limit key b ops b') (hb : b.Aged limit) : b'.Aged limit := by
  induction h with
  | nil => exact hb
  | cons hs _ ih => exact ih (hs.aged hb)

/-- The time that an entry has left, with `unit` a tick. -/
def Entry.time (unit limit : ℕ) (e : Entry α) : α × ℕ := (e.request, unit * (limit - e.age))

theorem time_older {unit s : ℕ} (hunit : 0 < unit) {es : List (Entry α)} {q : List (α × ℕ)}
    (hq : left (s + unit) q = es.map (Entry.time unit limit)) :
    left s q = (es.map Entry.older).map (Entry.time unit limit) := by
  have hinj : Function.Injective fun e : α × ℕ => (e.1, e.2 + unit) := by
    rintro ⟨a, s⟩ ⟨b, t⟩ h
    simpa using h
  apply hinj.list_map
  have hshift := left_shift s unit q
  rw [← hshift, hq, List.map_map, List.map_map]
  apply List.map_congr_left
  intro e he
  have hmem : e.time unit limit ∈ left (s + unit) q := by
    rw [hq]
    exact List.mem_map.mpr ⟨e, he, rfl⟩
  have hleft : s + unit ≤ unit * (limit - e.age) := le_of_mem_left hmem
  have hage : e.age < limit := by
    by_contra hn
    rw [Nat.sub_eq_zero_of_le (Nat.le_of_not_lt hn), Nat.mul_zero] at hleft
    omega
  have hsucc : limit - e.age = limit - (e.age + 1) + 1 := by omega
  simp only [Function.comp_apply, Entry.time, Entry.older, Prod.mk.injEq, true_and]
  rw [hsucc, Nat.mul_add, Nat.mul_one]

/-- A tick on the queue of relative timeouts is a tick of the book. -/
theorem elapse_expire {unit : ℕ} (hunit : 0 < unit) {es : List (Entry α)} {q : List (α × ℕ)}
    (hq : left 0 q = es.map (Entry.time unit limit)) (hbound : ∀ e ∈ es, e.age ≤ limit) :
    (elapse unit q).1 = (expire limit es).1.map Entry.request ∧
      left 0 (elapse unit q).2 =
        ((expire limit es).2.map Entry.older).map (Entry.time unit limit) := by
  induction es generalizing q with
  | nil =>
    cases q with
    | nil => exact ⟨rfl, rfl⟩
    | cons e q => cases hq
  | cons e es ih =>
    cases q with
    | nil => cases hq
    | cons e' q =>
      obtain ⟨a, d⟩ := e'
      have hcons := hq
      rw [left, List.map_cons, List.cons.injEq, Entry.time, Prod.mk.injEq, Nat.zero_add] at hcons
      obtain ⟨⟨ha, hd⟩, hrest⟩ := hcons
      have hage := hbound e List.mem_cons_self
      unfold expire
      split_ifs with hlate hnow
      · -- no time left: the whole tick is there for those behind
        obtain rfl : d = 0 := by rw [hd, Nat.sub_eq_zero_of_le hlate, Nat.mul_zero]
        obtain ⟨hout, hstay⟩ := ih hrest fun e' he' => hbound e' (List.mem_cons_of_mem e he')
        rw [elapse, if_neg hunit.ne', if_pos (Nat.zero_le unit), Nat.sub_zero, hout, ha]
        exact ⟨rfl, hstay⟩
      · -- exactly a tick left: it is used up
        have hone : limit - e.age = 1 := by omega
        obtain rfl : d = unit := by rw [hd, hone, Nat.mul_one]
        have hstop : elapse 0 q = ([], q) := by
          cases q with
          | nil => rfl
          | cons e q => simp [elapse]
        rw [elapse, if_neg hunit.ne', if_pos le_rfl, Nat.sub_self, hstop, ha]
        exact ⟨rfl, time_older hunit (by rwa [Nat.zero_add])⟩
      · have hmore : unit < d := by
          have htwo : 2 ≤ limit - e.age := by omega
          have hmul := Nat.mul_le_mul_left unit htwo
          omega
        rw [elapse, if_neg hunit.ne', if_neg (Nat.not_le.mpr hmore)]
        refine ⟨rfl, time_older hunit ?_⟩
        rw [left, ← hq, left, Nat.zero_add, Nat.zero_add, Nat.add_sub_cancel' hmore.le]

end

end Ledger
