import MqttSnClient.Lib.Links
import MqttSnClient.Lib.DeltaQueue
import MqttSnClient.Mqtt.Requests

namespace Mqtt
open Links DeltaQueue

/-- What a request object knows of its request. -/
structure Pending where
  cb : Option RequestCb
  arg : ℕ
  pktId : UInt16
  deriving DecidableEq

def MqttRequest.pending (r : MqttRequest) : Pending := ⟨r.cb, r.arg, r.pktId⟩

def Pending.answer (p : Pending) (err : Err) : List Answer :=
  match p.cb with
  | some cb => [⟨cb, p.arg, err⟩]
  | none => []

namespace Requests

variable {rs rs' : Requests} {l xs ys : List Slot} {r : Slot} {n : ℕ}

def next (rs : Requests) (i : Slot) : Option Slot := (rs.reqList i).next

/-- The objects that `mqtt_create_request` may give out. -/
def unused (rs : Requests) : Finset Slot := Finset.univ.filter fun i => rs.next i = some i

/-- The requests of the objects in `l`, with their relative timeouts. -/
def queue (rs : Requests) (l : List Slot) : List (Pending × ℕ) :=
  l.map fun i => ((rs.reqList i).pending, (rs.reqList i).timeoutDiff.toNat)

/-- The queue consists of the objects in `l`, and its last entry runs out within the request
timeout. -/
structure Linked (rs : Requests) (l : List Slot) : Prop where
  chain : Chain rs.next rs.pendReqQueue l
  bound : total (rs.queue l) ≤ 30

theorem mem_unused {i : Slot} : i ∈ rs.unused ↔ rs.next i = some i := by
  simp [unused]

theorem queue_append : rs.queue (xs ++ ys) = rs.queue xs ++ rs.queue ys := List.map_append

theorem queue_congr (h : ∀ i ∈ l, rs'.reqList i = rs.reqList i) : rs'.queue l = rs.queue l := by
  apply List.map_congr_left
  intro i hi
  rw [h i hi]

theorem Linked.length_le (h : rs.Linked l) : l.length ≤ mqttReqMaxInFlight := by
  have hcard := h.chain.nodup.length_le_card
  rwa [Fintype.card_fin] at hcard

/-- An object in the queue is not unused. -/
theorem Linked.not_mem (h : rs.Linked l) (hr : r ∈ rs.unused) : r ∉ l := by
  intro hmem
  obtain ⟨xs, ys, rfl⟩ := List.append_of_mem hmem
  have hself : Chain rs.next (some r) ys := by
    have hsuffix := h.chain.suffix
    rwa [mem_unused.mp hr] at hsuffix
  obtain ⟨zs, rfl, -⟩ := chain_some.mp hself
  have hnodup := (List.nodup_append.mp h.chain.nodup).2.1
  exact (List.nodup_cons.mp hnodup).1 List.mem_cons_self

theorem next_setNext (i j : Slot) (v : Option Slot) :
    (rs.setNext i v).next j = if j = i then v else rs.next j := by
  by_cases h : j = i
  · subst h
    simp [next, setNext]
  · simp [next, setNext, h]

theorem setNext_next (i : Slot) (v : Option Slot) :
    (rs.setNext i v).next = Function.update rs.next i v := by
  funext j
  rw [next_setNext, Function.update_apply]

theorem setTimeoutDiff_next (i : Slot) (d : UInt16) : (rs.setTimeoutDiff i d).next = rs.next := by
  funext j
  by_cases h : j = i
  · subst h
    simp [next, setTimeoutDiff]
  · simp [next, setTimeoutDiff, h]

@[simp] theorem pending_setNext (i j : Slot) (v : Option Slot) :
    ((rs.setNext i v).reqList j).pending = (rs.reqList j).pending := by
  by_cases h : j = i
  · subst h
    simp [setNext, MqttRequest.pending]
  · simp [setNext, h]

@[simp] theorem timeoutDiff_setNext (i j : Slot) (v : Option Slot) :
    ((rs.setNext i v).reqList j).timeoutDiff = (rs.reqList j).timeoutDiff := by
  by_cases h : j = i
  · subst h
    simp [setNext]
  · simp [setNext, h]

@[simp] theorem pending_setTimeoutDiff (i j : Slot) (d : UInt16) :
    ((rs.setTimeoutDiff i d).reqList j).pending = (rs.reqList j).pending := by
  by_cases h : j = i
  · subst h
    simp [setTimeoutDiff, MqttRequest.pending]
  · simp [setTimeoutDiff, h]

/-- A link is not part of a request. -/
theorem queue_setNext (i : Slot) (v : Option Slot) : (rs.setNext i v).queue l = rs.queue l := by
  apply List.map_congr_left
  intro j _
  rw [pending_setNext, timeoutDiff_setNext]

theorem queue_setTimeoutDiff_of_notMem {d : UInt16} (hr : r ∉ l) :
    (rs.setTimeoutDiff r d).queue l = rs.queue l := by
  apply queue_congr
  intro i hi
  have hne : i ≠ r := fun he => hr (he ▸ hi)
  simp [setTimeoutDiff, hne]

theorem queue_setTimeoutDiff_self (d : UInt16) :
    (rs.setTimeoutDiff r d).queue [r] = [((rs.reqList r).pending, d.toNat)] := by
  simp [queue, setTimeoutDiff, MqttRequest.pending]

/-- `mqtt_create_request` gives out an unused object. -/
theorem create_some {pktId : UInt16} {cb : Option RequestCb} {arg : ℕ}
    (h : rs.mqttCreateRequest pktId cb arg = some (r, rs')) :
    r ∈ rs.unused ∧ rs'.pendReqQueue = rs.pendReqQueue ∧ rs'.reqList = Function.update rs.reqList r
      { rs.reqList r with next := none, cb := cb, arg := arg, pktId := pktId } := by
  unfold mqttCreateRequest at h
  split at h
  next n hfind =>
    cases h
    have hself := List.find?_some hfind
    rw [decide_eq_true_eq] at hself
    exact ⟨mem_unused.mpr hself, rfl, rfl⟩
  next => cases h

/-- It fails only when there is none. -/
theorem create_none {pktId : UInt16} {cb : Option RequestCb} {arg : ℕ} :
    rs.mqttCreateRequest pktId cb arg = none ↔ rs.unused = ∅ := by
  unfold mqttCreateRequest
  split
  next n hfind =>
    have hself := List.find?_some hfind
    rw [decide_eq_true_eq] at hself
    have hmem : n ∈ rs.unused := mem_unused.mpr hself
    simp only [reduceCtorEq, false_iff]
    intro hempty
    rw [hempty] at hmem
    exact Finset.notMem_empty n hmem
  next hfind =>
    simp only [true_iff]
    apply Finset.eq_empty_of_forall_notMem
    intro i hi
    have hself : (rs.reqList i).next = some i := mem_unused.mp hi
    exact List.find?_eq_none.mp hfind i (List.mem_finRange i) (by simpa using hself)

theorem append_walk {iter : Option Slot} (head : Option Slot) (t : UInt16)
    (h : Chain rs.next iter l)
    (hn : l.length ≤ n) :
    rs.appendWalk n iter head t =
      .ok (l.getLast?.or head, t + UInt16.ofNat (total (rs.queue l))) := by
  induction l generalizing n iter head t with
  | nil =>
    rw [show iter = none from h]
    cases n <;> simp [appendWalk, queue, total]
  | cons i l ih =>
    obtain ⟨rfl, hl⟩ := h
    rcases n with _ | n
    · simp at hn
    · have hrest := ih (some i) (t + (rs.reqList i).timeoutDiff) hl
        (Nat.le_of_succ_le_succ hn)
      have hstep : rs.appendWalk (n + 1) (some i) head t =
          rs.appendWalk n (rs.next i) (some i) (t + (rs.reqList i).timeoutDiff) := rfl
      have htotal : total (rs.queue (i :: l)) =
          (rs.reqList i).timeoutDiff.toNat + total (rs.queue l) := total_cons
      have hlast : (i :: l).getLast?.or head = l.getLast?.or (some i) := by
        cases l with
        | nil => rfl
        | cons j l => simp [List.getLast?_cons]
      rw [hstep, hrest, hlast, htotal, UInt16.ofNat_add, UInt16.ofNat_toNat, add_assoc]

theorem unused_setNext_self (i : Slot) : (rs.setNext i (some i)).unused = insert i rs.unused := by
  ext j
  rw [Finset.mem_insert, mem_unused, mem_unused, next_setNext]
  by_cases h : j = i
  · simp [h]
  · simp [h]

theorem unused_setNext_of_ne {i : Slot} {v : Option Slot} (hv : v ≠ some i) :
    (rs.setNext i v).unused = rs.unused.erase i := by
  ext j
  rw [Finset.mem_erase, mem_unused, mem_unused, next_setNext]
  by_cases h : j = i
  · simp [h, hv]
  · simp [h]

theorem unused_setTimeoutDiff (i : Slot) (d : UInt16) :
    (rs.setTimeoutDiff i d).unused = rs.unused := by
  ext j
  rw [mem_unused, mem_unused, setTimeoutDiff_next]

/-- What is left of the request timeout, in 16 bits. -/
theorem timeout_left {t : ℕ} (h : t ≤ 30) :
    (mqttReqTimeout - (0 + UInt16.ofNat t)).toNat = 30 - t := by
  rw [zero_add, mqttReqTimeout, UInt16.toNat_sub, UInt16.toNat_ofNat']
  simp only [UInt16.reduceToNat]
  omega

/-- `mqtt_append_request` puts the request at the end, with the whole timeout left. -/
theorem append_linked (h : rs.Linked l) (hr : r ∉ l) (hnext : rs.next r = none) :
    ∃ rs', rs.mqttAppendRequest r = .ok rs' ∧ rs'.Linked (l ++ [r]) ∧
      rs'.queue (l ++ [r]) = push 30 (rs.reqList r).pending (rs.queue l) ∧
      rs'.unused = rs.unused := by
  have hwalk := append_walk none 0 h.chain h.length_le
  have hleft := timeout_left h.bound
  generalize hd : mqttReqTimeout - (0 + UInt16.ofNat (total (rs.queue l))) = d at hleft
  have hq : (rs.setTimeoutDiff r d).queue (l ++ [r]) =
      push 30 (rs.reqList r).pending (rs.queue l) := by
    rw [queue_append, queue_setTimeoutDiff_of_notMem hr, queue_setTimeoutDiff_self, hleft, push]
  have hbound : total (push 30 (rs.reqList r).pending (rs.queue l)) ≤ 30 :=
    (total_push h.bound).le
  rcases List.eq_nil_or_concat l with rfl | ⟨xs, i, rfl⟩
  · refine ⟨{ rs.setTimeoutDiff r d with pendReqQueue := some r }, ?_, ⟨?_, ?_⟩, hq, ?_⟩
    · rw [mqttAppendRequest, hwalk]
      simp only [← hd]
      rfl
    · refine ⟨rfl, ?_⟩
      have hsame : (rs.setTimeoutDiff r d).next = rs.next := setTimeoutDiff_next r d
      exact (congrFun hsame r).trans hnext
    · exact hq ▸ hbound
    · exact unused_setTimeoutDiff r d
  · rw [List.concat_eq_append] at *
    have hi : i ∉ rs.unused := fun hi => h.not_mem hi (by simp)
    have hir : some r ≠ some i := fun he => hr (by simp [Option.some.inj he])
    refine ⟨(rs.setTimeoutDiff r d).setNext i (some r), ?_, ⟨?_, ?_⟩, ?_, ?_⟩
    · rw [mqttAppendRequest, hwalk]
      simp only [← hd, List.getLast?_append, List.getLast?_singleton, Option.some_or]
      rfl
    · rw [setNext_next, setTimeoutDiff_next, List.append_assoc]
      exact h.chain.snoc hr hnext
    · rw [queue_setNext, hq]
      exact hbound
    · rw [queue_setNext, hq]
    · rw [unused_setNext_of_ne hir, unused_setTimeoutDiff, Finset.erase_eq_of_notMem hi]

/-- The search of `mqtt_take_request` that finds nothing. -/
theorem take_walk_none {id : UInt16} {iter : Option Slot} (prev : Option Slot)
    (h : Chain rs.next iter l)
    (hn : l.length ≤ n) (hid : ∀ i ∈ l, (rs.reqList i).pktId ≠ id) :
    rs.takeWalk id n iter prev = .ok (l.getLast?.or prev, none) := by
  induction l generalizing n iter prev with
  | nil =>
    rw [show iter = none from h]
    cases n <;> rfl
  | cons i l ih =>
    obtain ⟨rfl, hl⟩ := h
    rcases n with _ | n
    · simp at hn
    · have hrest := ih (some i) hl (Nat.le_of_succ_le_succ hn)
        fun j hj => hid j (List.mem_cons_of_mem i hj)
      rw [takeWalk, if_neg (hid i List.mem_cons_self)]
      refine hrest.trans ?_
      simp [List.getLast?_cons]

/-- The search that stops at the first match, with the entry before it. -/
theorem take_walk_some {id : UInt16} {iter : Option Slot} (prev : Option Slot)
    (h : Chain rs.next iter (xs ++ r :: ys)) (hn : xs.length < n)
    (hxs : ∀ i ∈ xs, (rs.reqList i).pktId ≠ id) (hid : (rs.reqList r).pktId = id) :
    rs.takeWalk id n iter prev = .ok (xs.getLast?.or prev, some r) := by
  induction xs generalizing n iter prev with
  | nil =>
    rcases n with _ | n
    · simp at hn
    · obtain ⟨rfl, -⟩ := h
      rw [takeWalk, if_pos hid]
      rfl
  | cons i xs ih =>
    obtain ⟨rfl, hl⟩ := h
    rcases n with _ | n
    · simp at hn
    · have hrest := ih (some i) hl (Nat.lt_of_succ_lt_succ hn)
        fun j hj => hxs j (List.mem_cons_of_mem i hj)
      rw [takeWalk, if_neg (hxs i List.mem_cons_self)]
      refine hrest.trans ?_
      simp [List.getLast?_cons]

/-- `mqtt_take_request` without a match changes nothing. -/
theorem take_none {id : UInt16} (h : rs.Linked l)
    (hid : ∀ i ∈ l, (rs.reqList i).pktId ≠ id) : rs.mqttTakeRequest id = .ok (none, rs) := by
  rw [mqttTakeRequest, take_walk_none none h.chain h.length_le hid]
  rfl

/-- The queue without `r`, as far as the links go. -/
def unlinked (rs : Requests) (xs : List Slot) (r : Slot) : Requests :=
  match xs.getLast? with
  | none => { rs with pendReqQueue := rs.next r }
  | some prev => rs.setNext prev (rs.next r)

theorem chain_unlinked (h : Chain rs.next rs.pendReqQueue (xs ++ r :: ys)) :
    Chain (rs.unlinked xs r).next (rs.unlinked xs r).pendReqQueue (xs ++ ys) := by
  rcases List.eq_nil_or_concat xs with rfl | ⟨zs, i, rfl⟩
  · exact h.2
  · rw [List.concat_eq_append] at *
    have hlast : rs.unlinked (zs ++ [i]) r = rs.setNext i (rs.next r) := by simp [unlinked]
    rw [List.append_assoc] at h ⊢
    rw [hlast, setNext_next]
    exact h.unlink

theorem queue_unlinked : (rs.unlinked xs r).queue l = rs.queue l := by
  unfold unlinked
  split
  · rfl
  · exact queue_setNext _ _

@[simp] theorem pending_unlinked (j : Slot) :
    ((rs.unlinked xs r).reqList j).pending = (rs.reqList j).pending := by
  unfold unlinked
  split
  · rfl
  · exact pending_setNext _ _ _

@[simp] theorem timeoutDiff_unlinked (j : Slot) :
    ((rs.unlinked xs r).reqList j).timeoutDiff = (rs.reqList j).timeoutDiff := by
  unfold unlinked
  split
  · rfl
  · exact timeoutDiff_setNext _ _ _

/-- The two objects that take part in an unlinking differ from what they link to. -/
theorem Linked.unused_unlinked (h : rs.Linked (xs ++ r :: ys)) :
    (rs.unlinked xs r).unused = rs.unused := by
  rcases List.eq_nil_or_concat xs with rfl | ⟨zs, i, rfl⟩
  · rfl
  · rw [List.concat_eq_append] at *
    have hlast : rs.unlinked (zs ++ [i]) r = rs.setNext i (rs.next r) := by simp [unlinked]
    have hi : i ∉ rs.unused := fun hi => h.not_mem hi (by simp)
    have hself : rs.next r ≠ some i := by
      intro he
      have hsuffix := h.chain.suffix
      rw [he] at hsuffix
      obtain ⟨ws, rfl, -⟩ := chain_some.mp hsuffix
      have hnodup := h.chain.nodup
      simp [List.nodup_append] at hnodup
    rw [hlast, unused_setNext_of_ne hself, Finset.erase_eq_of_notMem hi]

/-- The last step of `mqtt_take_request`, on an object that is out of the queue. -/
theorem Linked.cut (h : rs.Linked l) (hr : r ∉ l) (hu : r ∉ rs.unused) :
    (rs.setNext r none).Linked l ∧ (rs.setNext r none).queue l = rs.queue l ∧
      (rs.setNext r none).unused = rs.unused := by
  have hq : (rs.setNext r none).queue l = rs.queue l := queue_setNext r none
  refine ⟨⟨?_, ?_⟩, hq, ?_⟩
  · rw [setNext_next]
    apply h.chain.congr
    intro i hi
    apply Function.update_of_ne
    rintro rfl
    exact hr hi
  · rw [hq]
    exact h.bound
  · rw [unused_setNext_of_ne (by simp), Finset.erase_eq_of_notMem hu]

/-- The first request of an id, where there is one. -/
theorem first_with_id {id : UInt16} (h : ∃ i ∈ l, (rs.reqList i).pktId = id) :
    ∃ xs r ys, l = xs ++ r :: ys ∧ (∀ i ∈ xs, (rs.reqList i).pktId ≠ id) ∧
      (rs.reqList r).pktId = id := by
  obtain ⟨i, hi, hid⟩ := h
  have hfound : (l.find? fun i => (rs.reqList i).pktId = id).isSome := by
    rw [List.find?_isSome]
    exact ⟨i, hi, by simpa using hid⟩
  obtain ⟨r, hr⟩ := Option.isSome_iff_exists.mp hfound
  obtain ⟨hmatch, xs, ys, hsplit, hxs⟩ := List.find?_eq_some_iff_append.mp hr
  exact ⟨xs, r, ys, hsplit, by simpa using hxs, by simpa using hmatch⟩

/-- The queue without `r`, whose time goes to the entry behind it. -/
def mended (rs : Requests) (xs : List Slot) (r : Slot) : Requests :=
  match rs.next r with
  | some next => (rs.unlinked xs r).setTimeoutDiff next
    (((rs.unlinked xs r).reqList next).timeoutDiff + ((rs.unlinked xs r).reqList r).timeoutDiff)
  | none => rs.unlinked xs r

/-- `mqtt_take_request` takes the first match out of the queue. -/
theorem take_some {id : UInt16} (h : rs.Linked (xs ++ r :: ys))
    (hxs : ∀ i ∈ xs, (rs.reqList i).pktId ≠ id) (hid : (rs.reqList r).pktId = id) :
    ∃ rs', rs.mqttTakeRequest id = .ok (some r, rs') ∧ rs'.Linked (xs ++ ys) ∧
      rs'.queue (xs ++ ys) = remove (fun p => p.pktId = id) (rs.queue (xs ++ r :: ys)) ∧
      rs'.unused = rs.unused ∧ (rs'.reqList r).pending = (rs.reqList r).pending := by
  have hnodup := h.chain.nodup
  have hwalk := take_walk_some (n := mqttReqMaxInFlight) none h.chain
    (by have := h.length_le; simp at this; omega) hxs hid
  have hchain := chain_unlinked h.chain
  have hunused := h.unused_unlinked
  have hru : r ∉ rs.unused := fun hu => h.not_mem hu (by simp)
  have hrl : r ∉ xs ++ ys := by
    rw [List.nodup_append, List.nodup_cons] at hnodup
    simp only [List.mem_append, not_or]
    exact ⟨fun hx => hnodup.2.2 r hx r (by simp) rfl, hnodup.2.1.1⟩
  have hremove : remove (fun p => p.pktId = id) (rs.queue (xs ++ r :: ys)) =
      rs.queue xs ++ addHead (rs.reqList r).timeoutDiff.toNat (rs.queue ys) := by
    rw [queue_append]
    apply remove_first
    · intro e he
      obtain ⟨i, hi, rfl⟩ := List.mem_map.mp he
      exact decide_eq_false (hxs i hi)
    · exact decide_eq_true hid
  have hbound := (total_remove_le (p := fun p => p.pktId = id) _).trans h.bound
  rw [hremove] at hbound
  have hlinks : rs.mqttTakeRequest id = .ok (some r, (rs.mended xs r).setNext r none) := by
    rw [mqttTakeRequest, hwalk, Option.or_none, mended, unlinked]
    cases xs.getLast? with
    | none => rfl
    | some i => rfl
  cases ys with
  | nil =>
    have hnext : rs.next r = none := h.chain.suffix
    have hlinked : (rs.unlinked xs r).Linked (xs ++ []) := by
      refine ⟨hchain, ?_⟩
      rw [queue_unlinked, queue_append]
      exact hbound
    obtain ⟨hcut, hq, hu⟩ := hlinked.cut hrl (by rwa [hunused])
    rw [hlinks, mended, hnext]
    refine ⟨_, rfl, hcut, ?_, hu.trans hunused, ?_⟩
    · rw [hq, queue_unlinked, hremove, queue_append]
      rfl
    · simp
  | cons j ys =>
    have hnext : rs.next r = some j := h.chain.suffix.1
    have hjl : j ∉ xs ∧ j ∉ ys := by
      simp only [List.nodup_append, List.nodup_cons] at hnodup
      exact ⟨fun hx => hnodup.2.2 j hx j (by simp) rfl, hnodup.2.1.2.1⟩
    rw [mended, hnext] at hlinks
    dsimp only at hlinks
    generalize hd : ((rs.unlinked xs r).reqList j).timeoutDiff +
      ((rs.unlinked xs r).reqList r).timeoutDiff = d at hlinks
    have hsum : d.toNat = (rs.reqList j).timeoutDiff.toNat + (rs.reqList r).timeoutDiff.toNat := by
      have hle : total (rs.queue xs ++ ((rs.reqList j).pending, (rs.reqList j).timeoutDiff.toNat +
        (rs.reqList r).timeoutDiff.toNat) :: rs.queue ys) ≤ 30 := hbound
      rw [total_append, total_cons] at hle
      rw [← hd, timeoutDiff_unlinked, timeoutDiff_unlinked, UInt16.toNat_add]
      exact Nat.mod_eq_of_lt (by omega)
    have hqueue : ((rs.unlinked xs r).setTimeoutDiff j d).queue (xs ++ j :: ys) =
        remove (fun p => p.pktId = id) (rs.queue (xs ++ r :: j :: ys)) := by
      rw [hremove, ← List.singleton_append, queue_append, queue_append,
        queue_setTimeoutDiff_of_notMem hjl.1, queue_setTimeoutDiff_of_notMem hjl.2,
        queue_setTimeoutDiff_self, queue_unlinked, queue_unlinked, hsum, pending_unlinked]
      rfl
    have hlinked : ((rs.unlinked xs r).setTimeoutDiff j d).Linked (xs ++ j :: ys) := by
      refine ⟨?_, ?_⟩
      · rw [setTimeoutDiff_next]
        exact hchain
      · rw [hqueue, hremove]
        exact hbound
    have hsame : ((rs.unlinked xs r).setTimeoutDiff j d).unused = rs.unused :=
      (unused_setTimeoutDiff j d).trans hunused
    obtain ⟨hcut, hq, hu⟩ := hlinked.cut hrl (by rwa [hsame])
    rw [hlinks]
    exact ⟨_, rfl, hcut, hq.trans hqueue, hu.trans hsame, by simp⟩

/-- `mqtt_delete_request` on an object that is out of the queue makes it unused. -/
theorem delete_linked (h : rs.Linked l) (hr : r ∉ l) :
    (rs.mqttDeleteRequest r).Linked l ∧ (rs.mqttDeleteRequest r).queue l = rs.queue l ∧
      (rs.mqttDeleteRequest r).unused = insert r rs.unused := by
  have hq : (rs.setNext r (some r)).queue l = rs.queue l := queue_setNext r (some r)
  refine ⟨⟨?_, ?_⟩, hq, unused_setNext_self r⟩
  · rw [mqttDeleteRequest, setNext_next]
    apply h.chain.congr
    intro i hi
    apply Function.update_of_ne
    rintro rfl
    exact hr hi
  · rw [mqttDeleteRequest, hq]
    exact h.bound

/-- The head of the queue goes, as when it has run out. -/
theorem pop_linked (h : rs.Linked (r :: l)) :
    ({ rs with pendReqQueue := rs.next r } : Requests).Linked l ∧ r ∉ l := by
  refine ⟨⟨h.chain.2, ?_⟩, (List.nodup_cons.mp h.chain.nodup).1⟩
  have hbound := h.bound
  have hcons : total (rs.queue (r :: l)) =
      (rs.reqList r).timeoutDiff.toNat + total (rs.queue l) := total_cons
  have hsame : ({ rs with pendReqQueue := rs.next r } : Requests).queue l = rs.queue l := rfl
  rw [hsame]
  omega

theorem popped_time {t : UInt8} {d : UInt16} (h : d.toNat ≤ t.toNat) :
    (t - d.toUInt8).toNat = t.toNat - d.toNat := by
  have ht := t.toNat_lt
  rw [UInt8.toNat_sub, UInt16.toNat_toUInt8]
  omega

theorem shortened_time {t : UInt8} {d : UInt16} (h : t.toNat < d.toNat) :
    (d - t.toUInt16).toNat = d.toNat - t.toNat := by
  have hd := d.toNat_lt
  rw [UInt16.toNat_sub, UInt8.toNat_toUInt16]
  omega

theorem elapse_loop_empty {t : UInt8} (h : rs.pendReqQueue = none) :
    elapseLoop n t rs = .ok (rs, []) := by
  rw [elapseLoop.eq_def]
  simp only [h]

theorem elapse_loop_over {t : UInt8} (ht : t.toNat = 0) : elapseLoop n t rs = .ok (rs, []) := by
  have htz : t = 0 := UInt8.toNat_inj.mp ht
  rw [elapseLoop.eq_def]
  cases h : rs.pendReqQueue with
  | none => simp only [h]
  | some r => simp only [h, htz, if_true]

theorem elapse_loop_keep {t : UInt8} (h : rs.pendReqQueue = some r) (ht : 0 < t.toNat)
    (hlt : t.toNat < (rs.reqList r).timeoutDiff.toNat) : elapseLoop n t rs =
      .ok (rs.setTimeoutDiff r ((rs.reqList r).timeoutDiff - t.toUInt16), []) := by
  have htz : t ≠ 0 := fun he => ht.ne' (by rw [he]; rfl)
  rw [elapseLoop.eq_def]
  simp only [h, htz, if_false, ge_iff_le, if_neg (Nat.not_le.mpr hlt)]

theorem elapse_loop_pop {t : UInt8} (h : rs.pendReqQueue = some r) (ht : 0 < t.toNat)
    (hge : (rs.reqList r).timeoutDiff.toNat ≤ t.toNat) {rs' : Requests} {answers : List Answer}
    (hrest : elapseLoop n (t - (rs.reqList r).timeoutDiff.toUInt8)
      (mqttDeleteRequest r { rs with pendReqQueue := rs.next r }) = .ok (rs', answers)) :
    elapseLoop (n + 1) t rs = .ok (rs', (rs.reqList r).answer .timeout ++ answers) := by
  have htz : t ≠ 0 := fun he => ht.ne' (by rw [he]; rfl)
  rw [next] at hrest
  rw [elapseLoop.eq_def]
  simp only [h, htz, if_false, ge_iff_le, if_pos hge, hrest]
  rfl

/-- `mqtt_request_time_elapsed` lets the time pass for the queue. -/
theorem elapse_linked {t : UInt8} (h : rs.Linked l) (hn : l.length ≤ n) :
    ∃ rs' xs ys, elapseLoop n t rs =
        .ok (rs', (elapse t.toNat (rs.queue l)).1.flatMap fun p => p.answer .timeout) ∧
      l = xs ++ ys ∧ rs'.Linked ys ∧ rs'.queue ys = (elapse t.toNat (rs.queue l)).2 ∧
      rs'.unused = rs.unused ∪ xs.toFinset := by
  induction l generalizing rs n t with
  | nil =>
    have hnone : rs.pendReqQueue = none := h.chain
    exact ⟨rs, [], [], elapse_loop_empty hnone, rfl, h, rfl, by simp⟩
  | cons r l ih =>
    have hsome : rs.pendReqQueue = some r := h.chain.1
    have hqueue : rs.queue (r :: l) =
        ((rs.reqList r).pending, (rs.reqList r).timeoutDiff.toNat) :: rs.queue l := rfl
    rcases Nat.eq_zero_or_pos t.toNat with ht | ht
    · rw [ht, hqueue, elapse, if_pos rfl]
      exact ⟨rs, [], r :: l, elapse_loop_over ht, rfl, h, rfl, by simp⟩
    rcases Nat.lt_or_ge t.toNat (rs.reqList r).timeoutDiff.toNat with hlt | hge
    · -- some time is left for the head, and it has used up all that passed
      have hleft := shortened_time hlt
      have hr : r ∉ l := (List.nodup_cons.mp h.chain.nodup).1
      have hq : (rs.setTimeoutDiff r ((rs.reqList r).timeoutDiff - t.toUInt16)).queue (r :: l) =
          (elapse t.toNat (rs.queue (r :: l))).2 := by
        rw [hqueue, elapse, if_neg ht.ne', if_neg (Nat.not_le.mpr hlt), ← List.singleton_append,
          queue_append, queue_setTimeoutDiff_of_notMem hr, queue_setTimeoutDiff_self, hleft]
        rfl
      refine ⟨_, [], r :: l, ?_, rfl, ⟨?_, ?_⟩, hq, by rw [unused_setTimeoutDiff]; simp⟩
      · rw [hqueue, elapse, if_neg ht.ne', if_neg (Nat.not_le.mpr hlt)]
        exact elapse_loop_keep hsome ht hlt
      · rw [setTimeoutDiff_next]
        exact h.chain
      · rw [hq]
        exact (total_elapse_le _ _).trans h.bound
    · -- the head has run out, and the rest of the time goes to those behind it
      obtain ⟨hpop, hr⟩ := pop_linked h
      obtain ⟨hdel, hq, hu⟩ := delete_linked hpop hr
      rcases n with _ | n
      · simp at hn
      obtain ⟨rs', xs, ys, hrun, hl, hys, hqys, huys⟩ :=
        ih (t := t - (rs.reqList r).timeoutDiff.toUInt8) hdel (Nat.le_of_succ_le_succ hn)
      rw [hq, popped_time hge] at hrun hqys
      have hstep : elapse t.toNat (rs.queue (r :: l)) =
          ((rs.reqList r).pending ::
              (elapse (t.toNat - (rs.reqList r).timeoutDiff.toNat) (rs.queue l)).1,
            (elapse (t.toNat - (rs.reqList r).timeoutDiff.toNat) (rs.queue l)).2) := by
        rw [hqueue, elapse, if_neg ht.ne', if_pos hge]
      rw [hstep]
      refine ⟨rs', r :: xs, ys, ?_, by rw [hl, List.cons_append], hys, hqys, ?_⟩
      · exact elapse_loop_pop hsome ht hge hrun
      · rw [huys, hu]
        ext i
        simp [unused, next]
        tauto

theorem clear_loop {iter : Option Slot} (h : Chain rs.next iter l) (hn : l.length ≤ n) :
    ∃ rs', clearLoop n iter rs = .ok rs' ∧ rs'.unused = rs.unused ∪ l.toFinset := by
  induction l generalizing rs n iter with
  | nil =>
    rw [show iter = none from h]
    refine ⟨rs, ?_, by simp⟩
    cases n <;> rfl
  | cons i l ih =>
    have hi : i ∉ l := (List.nodup_cons.mp h.nodup).1
    obtain ⟨rfl, hl⟩ := h
    rcases n with _ | n
    · simp at hn
    have hrest : Chain (rs.mqttDeleteRequest i).next (rs.next i) l := by
      rw [mqttDeleteRequest, setNext_next]
      apply hl.congr
      intro j hj
      apply Function.update_of_ne
      rintro rfl
      exact hi hj
    obtain ⟨rs', hrun, hu⟩ := ih hrest (Nat.le_of_succ_le_succ hn)
    refine ⟨rs', hrun, ?_⟩
    rw [hu, mqttDeleteRequest, unused_setNext_self]
    ext j
    simp

/-- `mqtt_clear_requests` makes all objects of the queue unused. -/
theorem clear_linked (h : rs.Linked l) :
    ∃ rs', rs.mqttClearRequests = .ok rs' ∧ rs'.Linked [] ∧
      rs'.unused = rs.unused ∪ l.toFinset := by
  obtain ⟨rs', hrun, hu⟩ := clear_loop h.chain h.length_le
  refine ⟨{ rs' with pendReqQueue := none }, ?_, ⟨rfl, by simp [queue, total]⟩, hu⟩
  rw [mqttClearRequests, hrun]
  rfl

end Requests

end Mqtt
