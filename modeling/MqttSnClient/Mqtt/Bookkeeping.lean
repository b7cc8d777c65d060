import MqttSnClient.Lib.Ledger
import MqttSnClient.Mqtt.Lifecycle

/-! The request objects of the client as a book of requests with their ages: every run of the
client is one of the book, with the same answers, and a request ages by the cyclic timer of a
connected client only. -/
namespace Mqtt
open Requests Ledger DeltaQueue Relation Outcome

/-- What a request is answered other than a timeout. -/
abbrev Reply := { err : Err // err ≠ .timeout }

/-- What an operation on the book tells the application. -/
def told : Op Pending Reply → List Upcall
  | .accept p => [.requestReturned p.cb p.arg .ok]
  | .answer p err => (p.answer err).map Upcall.request
  | .tick out => (out.flatMap fun p => p.answer .timeout).map Upcall.request
  | .lose _ | .close _ | .renew _ => []

def isTick : Op Pending Reply → Bool
  | .tick _ => true
  | .accept _ | .answer .. | .lose _ | .close _ | .renew _ => false

/-- What an operation does to the requests; that time passes is none of it. A renewal sets up all
request objects. -/
def deed : Op Pending Reply → Option Deed
  | .accept _ => some .accept
  | .answer .. => some .answer
  | .lose _ => some .lose
  | .tick _ => none
  | .close _ => some .close
  | .renew n => if n = mqttReqMaxInFlight then some .renew else none

/-- The operation is a deed that the event may do. -/
def Event.Permits (e : Event) (op : Op Pending Reply) : Prop :=
  ∃ d, deed op = some d ∧ e.may d = true

/-- The requests are those of the book: the time that each has left goes with its age, and the
unused objects are the free places. -/
structure Booked (rs : Requests) (l : List Slot) (b : Book Pending) : Prop where
  linked : rs.Linked l
  times : left 0 (rs.queue l) = b.pending.map (Entry.time mqttCyclicTimerInterval 6)
  aged : b.Aged 6
  free : rs.unused.card = b.free

variable {net : Net} {c : Prop} {e : Event} {k : ℕ} {w w' : World} {rs rs' : Requests}
  {l : List Slot} {b : Book Pending} {r : Slot}

theorem Booked.requests (h : Booked rs l b) :
    b.requests = l.map fun i => (rs.reqList i).pending := by
  have hfst := congrArg (List.map Prod.fst) h.times
  rw [left_fst, List.map_map] at hfst
  have hqueue : (rs.queue l).map Prod.fst = l.map fun i => (rs.reqList i).pending := by
    rw [queue, List.map_map]
    rfl
  exact hfst.symm.trans hqueue

theorem Booked.length (h : Booked rs l b) : b.pending.length = l.length := by
  have hlen := congrArg List.length h.requests
  rwa [Book.requests, List.length_map, List.length_map] at hlen

theorem Booked.accept (h : Booked rs l b) {p : Pending} {rs₁ : Requests}
    (hcreate : rs.mqttCreateRequest p.pktId p.cb p.arg = some (r, rs₁))
    (happend : rs₁.mqttAppendRequest r = .ok rs') :
    ∃ b', Step 6 Pending.pktId b (.accept p : Op Pending Reply) b' ∧ Booked rs' (l ++ [r]) b' := by
  obtain ⟨hr, hl, hqueue, hnext, hpending, hunused, hfree⟩ := created h.linked hcreate
  obtain ⟨rs₂, happ, hl', hqueue', hunused'⟩ := append_linked hl hr hnext
  rw [happ] at happend
  cases happend
  obtain ⟨es, n⟩ := b
  have hcard := Finset.card_erase_of_mem hfree
  rw [← hunused, ← hunused', h.free] at hcard
  have hpos := Finset.card_pos.mpr ⟨r, hfree⟩
  rw [h.free] at hpos
  obtain ⟨m, rfl⟩ : ∃ m, n = m + 1 := ⟨n - 1, by simp only at hpos; omega⟩
  have hstep : Step 6 Pending.pktId ⟨es, m + 1⟩ (.accept p : Op Pending Reply)
      ⟨es ++ [⟨p, 0⟩], m⟩ := .accept p
  refine ⟨_, hstep, hl', ?_, hstep.aged h.aged, hcard⟩
  rw [hqueue', hpending, left_push hl.bound, hqueue, h.times, List.map_append]
  rfl

/-- An object that is given back at once leaves everything as it was. -/
theorem Booked.refuse (h : Booked rs l b) {p : Pending} {rs₁ : Requests}
    (hcreate : rs.mqttCreateRequest p.pktId p.cb p.arg = some (r, rs₁)) :
    Booked (rs₁.mqttDeleteRequest r) l b := by
  obtain ⟨hr, hl, hqueue, -, -, hunused, hfree⟩ := created h.linked hcreate
  obtain ⟨hl', hqueue', hunused'⟩ := delete_linked hl hr
  refine ⟨hl', ?_, h.aged, ?_⟩
  · rw [hqueue', hqueue]
    exact h.times
  · rw [hunused', hunused, Finset.insert_erase hfree, h.free]

/-- A request that `mqtt_take_request` takes is the oldest of its id. -/
theorem Booked.take (h : Booked rs l b) {pktId : UInt16}
    (htake : rs.mqttTakeRequest pktId = .ok (some r, rs')) :
    ∃ es e es' l', b.pending = es ++ e :: es' ∧ e.request = (rs'.reqList r).pending ∧
      (∀ x ∈ es, x.request.pktId ≠ e.request.pktId) ∧ Booked rs' l' ⟨es ++ es', b.free⟩ ∧
        r ∉ l' ∧ r ∉ rs'.unused := by
  obtain ⟨xs, ys, rfl, hbefore, hid, hl', hqueue, hunused, hpending, hr⟩ := taken h.linked htake
  have hrequests := h.requests
  rw [Book.requests, List.map_append, List.map_cons] at hrequests
  obtain ⟨es, rest, hsplit, hes, hrest⟩ := List.map_eq_append_iff.mp hrequests
  obtain ⟨e, es', rfl, he, -⟩ := List.map_eq_cons_iff.mp hrest
  have hkey : e.request.pktId = pktId := by
    rw [he]
    exact hid
  have hkeys : ∀ x ∈ es, x.request.pktId ≠ pktId := by
    intro x hx
    have hmem : x.request ∈ xs.map fun i => (rs.reqList i).pending := by
      rw [← hes]
      exact List.mem_map.mpr ⟨x, hx, rfl⟩
    obtain ⟨i, hi, hxi⟩ := List.mem_map.mp hmem
    rw [← hxi]
    exact hbefore i hi
  refine ⟨es, e, es', xs ++ ys, hsplit, he.trans hpending.symm, ?_, ⟨hl', ?_, ?_, ?_⟩, hr, ?_⟩
  · intro x hx
    rw [hkey]
    exact hkeys x hx
  · have herase : (es ++ e :: es').eraseP (fun x => x.request.pktId = pktId) = es ++ es' := by
      rw [List.eraseP_append_right _ (by simpa using hkeys), List.eraseP_cons_of_pos]
      simpa using hkey
    calc left 0 (rs'.queue (xs ++ ys))
        = (left 0 (rs.queue (xs ++ r :: ys))).eraseP (fun x => x.1.pktId = pktId) := by
          rw [hqueue, left_remove]
      _ = ((es ++ e :: es').eraseP fun x => x.request.pktId = pktId).map
            (Entry.time mqttCyclicTimerInterval 6) := by
          rw [h.times, hsplit, List.eraseP_map]
          rfl
      _ = (es ++ es').map (Entry.time mqttCyclicTimerInterval 6) := by rw [herase]
  · have hsub := (List.sublist_cons_self e es').append_left es
    rw [← hsplit] at hsub
    exact ⟨fun x hx => h.aged.bound x (hsub.subset hx), h.aged.sorted.sublist hsub⟩
  · rw [hunused, h.free]
  · rw [hunused]
    exact fun hu => h.linked.not_mem hu (by simp)

theorem Booked.answer (h : Booked rs l b) {pktId : UInt16} (err : Reply)
    (htake : rs.mqttTakeRequest pktId = .ok (some r, rs')) :
    ∃ b' l', Step 6 Pending.pktId b (.answer (rs'.reqList r).pending err) b' ∧
      Booked (rs'.mqttDeleteRequest r) l' b' := by
  obtain ⟨es, e, es', l', hsplit, he, hkeys, hbooked, hr, hused⟩ := h.take htake
  obtain ⟨hlinked, hqueue, hunused⟩ := delete_linked hbooked.linked hr
  obtain ⟨ps, n⟩ := b
  obtain rfl : ps = es ++ e :: es' := hsplit
  refine ⟨⟨es ++ es', n + 1⟩, l', ?_, hlinked, ?_, hbooked.aged.of_pending rfl, ?_⟩
  · rw [← he]
    exact .answer hkeys err
  · rw [hqueue]
    exact hbooked.times
  · rw [hunused, Finset.card_insert_of_notMem hused, hbooked.free]

/-- A request that is lost does not. -/
theorem Booked.lose (h : Booked rs l b) {pktId : UInt16}
    (htake : rs.mqttTakeRequest pktId = .ok (some r, rs')) :
    ∃ b' l', Step 6 Pending.pktId b (.lose (rs'.reqList r).pending : Op Pending Reply) b' ∧
      Booked rs' l' b' := by
  obtain ⟨es, e, es', l', hsplit, he, hkeys, hbooked, -⟩ := h.take htake
  obtain ⟨ps, n⟩ := b
  obtain rfl : ps = es ++ e :: es' := hsplit
  refine ⟨⟨es ++ es', n⟩, l', ?_, hbooked⟩
  rw [← he]
  exact .lose hkeys

/-- All requests are dropped and all of them free their places. -/
theorem Booked.close (h : Booked rs l b) (hclear : rs.mqttClearRequests = .ok rs') :
    ∃ b', Step 6 Pending.pktId b (.close b.requests : Op Pending Reply) b' ∧ Booked rs' [] b' := by
  obtain ⟨rs₁, hrun, hl, hunused⟩ := clear_linked h.linked
  rw [hrun] at hclear
  cases hclear
  have hdisjoint : Disjoint rs.unused l.toFinset := by
    rw [Finset.disjoint_left]
    intro i hi hmem
    exact h.linked.not_mem hi (List.mem_toFinset.mp hmem)
  have hcard := Finset.card_union_of_disjoint hdisjoint
  rw [← hunused, h.free, List.toFinset_card_of_nodup h.linked.chain.nodup, ← h.length] at hcard
  obtain ⟨es, n⟩ := b
  exact ⟨⟨[], n + es.length⟩, .close, hl, rfl, ⟨by simp, List.Pairwise.nil⟩, hcard⟩

theorem Booked.tick (h : Booked rs l b) {answers : List Answer}
    (helapse : rs.mqttRequestTimeElapsed (UInt8.ofNat mqttCyclicTimerInterval) =
      .ok (rs', answers)) :
    ∃ b' l' out, Step 6 Pending.pktId b (.tick out : Op Pending Reply) b' ∧ Booked rs' l' b' ∧
      answers = out.flatMap fun p => p.answer .timeout := by
  obtain ⟨rs₁, xs, ys, hrun, rfl, hl, hqueue, hunused⟩ :=
    elapse_linked (t := UInt8.ofNat mqttCyclicTimerInterval) h.linked h.linked.length_le
  rw [mqttRequestTimeElapsed, hrun] at helapse
  cases helapse
  have hpos : 0 < mqttCyclicTimerInterval := by decide
  obtain ⟨hout, hstay⟩ := elapse_expire hpos h.times h.aged.bound
  have hunit : (UInt8.ofNat mqttCyclicTimerInterval).toNat = mqttCyclicTimerInterval := rfl
  rw [hunit] at hqueue ⊢
  obtain ⟨es, n⟩ := b
  have hstep : Step 6 Pending.pktId ⟨es, n⟩
      (.tick ((expire 6 es).1.map Entry.request) : Op Pending Reply)
      ⟨(expire 6 es).2.map Entry.older, n + (expire 6 es).1.length⟩ := .tick
  refine ⟨_, ys, _, hstep, ⟨hl, hqueue ▸ hstay, hstep.aged h.aged, ?_⟩, by rw [hout]⟩
  -- as many objects become unused as requests run out
  have hdisjoint : Disjoint rs.unused xs.toFinset := by
    rw [Finset.disjoint_left]
    intro i hi hmem
    exact h.linked.not_mem hi (List.mem_append_left ys (List.mem_toFinset.mp hmem))
  have hnodup := (List.nodup_append.mp h.linked.chain.nodup).1
  have hsplit := congrArg List.length
    (elapse_split mqttCyclicTimerInterval (rs.queue (xs ++ ys)))
  rw [List.length_append, ← hqueue, hout, List.length_map, List.length_map, List.length_map,
    queue, queue, List.length_map, List.length_map, List.length_append] at hsplit
  have hsum : (expire 6 es).1.length + ys.length = xs.length + ys.length := hsplit
  have hlen : xs.length = (expire 6 es).1.length := by omega
  rw [hunused, Finset.card_union_of_disjoint hdisjoint, List.toFinset_card_of_nodup hnodup, hlen,
    h.free]

theorem filter_told (op : Op Pending Reply) : (told op).filter Upcall.books = told op := by
  apply List.filter_eq_self.mpr
  intro u hu
  cases op with
  | accept p =>
    rw [List.mem_singleton.mp hu]
    rfl
  | answer p err =>
    obtain ⟨a, -, rfl⟩ := List.mem_map.mp hu
    rfl
  | tick out =>
    obtain ⟨a, -, rfl⟩ := List.mem_map.mp hu
    rfl
  | lose p => cases hu
  | close out => cases hu
  | renew n => cases hu

/-- From one world to another as from one book to another: the operations on the book tell the
application what the client tells it. -/
structure Kept (w : World) (b : Book Pending) (ops : List (Op Pending Reply)) (w' : World)
    (b' : Book Pending) : Prop where
  steps : Steps 6 Pending.pktId b ops b'
  booked : ∃ l, Booked w'.client.requests l b'
  log : w'.log.filter Upcall.books = w.log.filter Upcall.books ++ ops.flatMap told

theorem Kept.trans {w₁ w₂ : World} {b₁ b₂ : Book Pending} {ops ops' : List (Op Pending Reply)}
    (h : Kept w b ops w₁ b₁) (h' : Kept w₁ b₁ ops' w₂ b₂) : Kept w b (ops ++ ops') w₂ b₂ := by
  refine ⟨h.steps.append h'.steps, h'.booked, ?_⟩
  rw [h'.log, h.log, List.append_assoc, List.flatMap_append]

theorem kept_of (hb : Booked w'.client.requests l b)
    (hlog : w'.log.filter Upcall.books = w.log.filter Upcall.books) : Kept w b [] w' b := by
  refine ⟨.nil, ⟨l, hb⟩, ?_⟩
  rw [hlog, List.flatMap_nil, List.append_nil]

theorem kept_self (hb : Booked w.client.requests l b)
    (hreq : w'.client.requests = w.client.requests)
    (hlog : w'.log.filter Upcall.books = w.log.filter Upcall.books) : Kept w b [] w' b := by
  rw [← hreq] at hb
  exact kept_of hb hlog

theorem kept_single {op : Op Pending Reply} {b' : Book Pending}
    (hstep : Step 6 Pending.pktId b op b') (hb : Booked w'.client.requests l b')
    (hlog : w'.log = w.log ++ told op) : Kept w b [op] w' b' := by
  refine ⟨.single hstep, ⟨l, hb⟩, ?_⟩
  rw [hlog, List.filter_append, filter_told, List.flatMap_singleton]

/-- All objects of a client that was wiped are unused. -/
theorem booked_wiped (cb : Bool) (arg : ℕ) (info : ConnectInfo) :
    Booked (wiped cb arg info).requests [] ⟨[], 4⟩ := by
  have hcard : MqttClient.zero.requests.mqttInitRequests.unused.card = 4 := by decide
  exact ⟨linked_wiped cb arg info, rfl, ⟨by simp, List.Pairwise.nil⟩, hcard⟩

theorem dialed (net : Net) (cb : Bool) (arg : ℕ) (info : ConnectInfo)
    (hd : w.client.connState = .tcpDisconnected) :
    (mqttClientConnect net cb arg info w).1.client.requests = (wiped cb arg info).requests ∧
      (mqttClientConnect net cb arg info w).1.log = w.log := by
  rcases connect_cases net cb arg info hd with ⟨n, hw, -⟩ | ⟨r, -, -, hw⟩
  · rw [hw]
    exact ⟨rfl, rfl⟩
  · rw [hw]
    exact ⟨rfl, rfl⟩

theorem permits_single {op : Op Pending Reply} {d : Deed} (hop : deed op = some d)
    (hmay : e.may d = true) : ∀ op' ∈ [op], e.Permits op' := by
  intro op' hop'
  rw [List.mem_singleton.mp hop']
  exact ⟨d, hop, hmay⟩

/-- An elementary change of the client is an operation on the book that the event may do, or
none. -/
theorem Act.kept (ha : Act net c e k w w') (h : Inv c k w) (hb : Booked w.client.requests l b) :
    ∃ ops b', Kept w b ops w' b' ∧ ∀ op ∈ ops, e.Permits op := by
  cases ha with
  | quiet hq =>
    obtain ⟨us, hlog, hus⟩ := hq.log
    refine ⟨[], b, kept_self hb hq.requests ?_, by simp⟩
    have hnone : us.filter Upcall.books = [] := by
      rw [List.filter_eq_nil_iff]
      intro u hu
      simp [hus u hu]
    rw [hlog, List.filter_append, hnone, List.append_nil]
  | queue rb hp => exact ⟨[], b, kept_self hb rfl rfl, by simp⟩
  | send hs =>
    obtain ⟨-, rfl⟩ := output_send_world hs
    exact ⟨[], b, kept_self hb rfl rfl, by simp⟩
  | accept p hconn hc hap =>
    obtain ⟨b', hstep, hb'⟩ := hb.accept hc hap
    exact ⟨[.accept p], b', kept_single hstep hb' rfl, permits_single rfl May.may⟩
  | refuse p hc =>
    refine ⟨[], b, kept_of (hb.refuse hc) rfl, by simp⟩
  | answer pktId err herr ht =>
    obtain ⟨b', l', hstep, hb'⟩ := hb.answer ⟨err, herr⟩ ht
    exact ⟨[_], b', kept_single hstep hb' rfl, permits_single rfl May.may⟩
  | lose pktId ht =>
    obtain ⟨b', l', hstep, hb'⟩ := hb.lose ht
    refine ⟨[_], b', kept_single hstep hb' ?_, permits_single rfl May.may⟩
    simp [told, World.withRequests]
  | close hcl =>
    obtain ⟨b', hstep, hb'⟩ := hb.close hcl
    refine ⟨[_], b', kept_single hstep hb' ?_, permits_single rfl May.may⟩
    simp [told, World.withRequests]
  | dial cb arg info hd hshort =>
    obtain ⟨l', hl', hidle⟩ := h.linked
    have hnil : l = [] := by rw [hb.linked.chain.unique hl'.chain, hidle hd]
    have hempty : b.pending = [] := by
      rw [← List.length_eq_zero_iff, hb.length, hnil, List.length_nil]
    obtain ⟨es, n⟩ := b
    obtain rfl : es = [] := hempty
    obtain ⟨hreq, hlog⟩ := dialed net cb arg info hd
    refine ⟨[.renew 4], ⟨[], 4⟩, kept_single (l := []) (.renew 4) ?_ ?_,
      permits_single rfl May.may⟩
    · rw [hreq]
      exact booked_wiped cb arg info
    · rw [hlog, told, List.append_nil]
  | up hk hp => exact ⟨[], b, kept_self hb rfl rfl, by simp⟩
  | accepted hs => exact ⟨[], b, kept_self hb rfl rfl, by simp⟩

theorem Acts.kept (ha : Acts net c e k w w') (h : Inv c k w) (hb : Booked w.client.requests l b) :
    ∃ ops b', Kept w b ops w' b' ∧ ∀ op ∈ ops, e.Permits op := by
  induction ha with
  | refl => exact ⟨[], b, kept_self hb rfl rfl, by simp⟩
  | tail hacts hact ih =>
    obtain ⟨ops, b₁, hkept, hops⟩ := ih
    obtain ⟨l₁, hb₁⟩ := hkept.booked
    obtain ⟨ops', b₂, hkept', hops'⟩ := hact.kept (Acts.inv hacts h) hb₁
    refine ⟨ops ++ ops', b₂, hkept.trans hkept', fun op hop => ?_⟩
    rcases List.mem_append.mp hop with hop | hop
    · exact hops op hop
    · exact hops' op hop

/-- The ticks of the book that a step makes: one if it is the cyclic timer of a client that is
connected. -/
def Event.ticks : Event → World → ℕ
  | .tick, w => if w.client.connState = .mqttConnected then 1 else 0
  | .connect .., _ | .publish .., _ | .subUnsub .., _ | .setInpub .., _ | .disconnect, _
  | .connected _, _ | .recv .., _ | .sent, _ | .poll, _ | .error, _ => 0

theorem Ticked.kept (ht : Ticked w w') (hb : Booked w.client.requests l b) :
    ∃ ops b', Kept w b ops w' b' ∧ ops.length = Event.tick.ticks w ∧
      ∀ op ∈ ops, isTick op = true := by
  rcases ht with ⟨hs, rfl⟩ | ⟨hs, rs, answers, he, rfl⟩
  · exact ⟨[], b, kept_self hb rfl rfl, (if_neg hs).symm, by simp⟩
  · obtain ⟨b', l', out, hstep, hb', rfl⟩ := hb.tick he
    exact ⟨[_], b', kept_single hstep hb' rfl, (if_pos hs).symm, by simp [isTick]⟩

theorem Event.Begins.kept (he : e.Begins w w') (hb : Booked w.client.requests l b) :
    ∃ ops b', Kept w b ops w' b' ∧ ops.length = e.ticks w ∧ ∀ op ∈ ops, isTick op = true := by
  cases e with
  | tick => exact Ticked.kept he hb
  | _ =>
    obtain rfl : w' = w := he
    exact ⟨[], b, kept_self hb rfl rfl, rfl, by simp⟩

theorem Event.Begins.inv (he : e.Begins w w') (h : Inv c k w) : Inv c k w' := by
  cases e with
  | tick => exact Ticked.inv he h
  | _ =>
    obtain rfl : w' = w := he
    exact h

/-- One event on the client and on the book: first time passes, where it does, and then the
event does what it may. The book is that of the requests before and after, and the client
tells the application of requests what the operations tell it. -/
structure EventKept (net : Net) (e : Event) (w : World) (b : Book Pending)
    (ticks ops : List (Op Pending Reply)) (w' : World) (b' : Book Pending) : Prop where
  step : Mqtt.step net w e = .ok w'
  before : ∃ l, Booked w.client.requests l b
  steps : Steps 6 Pending.pktId b (ticks ++ ops) b'
  after : ∃ l, Booked w'.client.requests l b'
  log : w'.log.filter Upcall.books = w.log.filter Upcall.books ++ (ticks ++ ops).flatMap told
  time : ticks.length = e.ticks w ∧ ∀ op ∈ ticks, isTick op = true
  permits : ∀ op ∈ ops, e.Permits op

theorem StepDone.kept (hstep : step net w e = .ok w') (h : StepDone net c e w w')
    (hb : Booked w.client.requests l b) : ∃ ticks ops b', EventKept net e w b ticks ops w' b' := by
  obtain ⟨-, k, n, n', w₀, w₁, hinv, hbegins, hacts, rfl⟩ := h
  obtain ⟨ticks, b₀, hkept, hlength, hticks⟩ := hbegins.kept (w := { w with timers := n }) hb
  obtain ⟨l₀, hb₀⟩ := hkept.booked
  obtain ⟨ops, b₁, hkept', hops⟩ := Acts.kept hacts (hbegins.inv hinv) hb₀
  have hboth := hkept.trans hkept'
  have hsame : e.ticks { w with timers := n } = e.ticks w := by cases e <;> rfl
  exact ⟨ticks, ops, b₁, hstep, ⟨l, hb⟩, hboth.steps, hboth.booked, hboth.log,
    ⟨hlength.trans hsame, hticks⟩, hops⟩

/-- A run of the client and the book along it, event by event. -/
inductive BookRun (net : Net) : World → Book Pending → List Event → World → Book Pending → Prop
  | nil (w : World) (b : Book Pending) : BookRun net w b [] w b
  | cons {w w₁ w' : World} {b b₁ b' : Book Pending} {e : Event} {es : List Event}
      {ticks ops : List (Op Pending Reply)} (h : EventKept net e w b ticks ops w₁ b₁)
      (hs : BookRun net w₁ b₁ es w' b') : BookRun net w b (e :: es) w' b'

theorem run_kept {es : List Event} (h : Inv False 0 w) (hb : Booked w.client.requests l b)
    (hrun : Runs.run (step net) w es = .ok w') : ∃ b', BookRun net w b es w' b' := by
  induction es generalizing w l b with
  | nil =>
    cases hrun
    exact ⟨b, .nil _ b⟩
  | cons e es ih =>
    obtain ⟨w₁, hstep, hrest⟩ := Runs.run_cons_ok.mp hrun
    have hdone := (step_post e h fun hf => hf.elim).result hstep
    obtain ⟨ticks, ops, b₁, hkept⟩ := StepDone.kept hstep hdone hb
    obtain ⟨l₁, hb₁⟩ := hkept.after
    obtain ⟨b', hrun'⟩ := ih hdone.1 hb₁ hrest
    exact ⟨b', .cons hkept hrun'⟩

/-- All the operations of a run, one after the other. -/
theorem BookRun.ops {es : List Event} {b' : Book Pending} (h : BookRun net w b es w' b')
    (hb : Booked w.client.requests l b) : ∃ ops l', Steps 6 Pending.pktId b ops b' ∧
      Booked w'.client.requests l' b' ∧
      w'.log.filter Upcall.books = w.log.filter Upcall.books ++ ops.flatMap told := by
  induction h generalizing l with
  | nil => exact ⟨[], l, .nil, hb, by rw [List.flatMap_nil, List.append_nil]⟩
  | cons h _ ih =>
    obtain ⟨l₁, hb₁⟩ := h.after
    obtain ⟨ops, l', hsteps, hb', hlog⟩ := ih hb₁
    have hboth := h.steps.append hsteps
    refine ⟨_, l', hboth, hb', ?_⟩
    rw [hlog, h.log, List.append_assoc, ← List.flatMap_append]

/-- A new client has no request objects before it connects. -/
theorem booked_new : Booked mqttClientNew.client.requests [] ⟨[], 0⟩ := by
  have hcard : MqttClient.zero.requests.unused.card = 0 := by decide
  exact ⟨⟨rfl, by simp [queue, total]⟩, rfl, ⟨by simp, List.Pairwise.nil⟩, hcard⟩

/-- In every run, event by event, the requests are those of a bounded book whose operations
tell the application exactly what the client tells it about requests. A tick passes on the book
exactly when the cyclic timer finds the client connected, and before anything else. -/
theorem run_requests {es : List Event} (h : Runs.run (step net) mqttClientNew es = .ok w) :
    ∃ b, BookRun net mqttClientNew ⟨[], 0⟩ es w b :=
  run_kept (inv_new False) booked_new h

theorem subscribing_times_out : Post (fun w => w.log.filter Upcall.books =
    [.requestReturned (some .mqttSubRequestCb) 0 .ok, .request ⟨.mqttSubRequestCb, 0, .timeout⟩])
    (fun _ => False)
    (Runs.run (step openNet) mqttClientNew (subscribing ++ List.replicate 6 .tick)) := by
  decide +kernel

/-- The subscription of the new connection waits for six ticks and is told of its timeout. -/
theorem run_requests_timeout : ∃ w,
    Runs.run (step openNet) mqttClientNew (subscribing ++ List.replicate 6 .tick) = .ok w ∧
    w.log.filter Upcall.books = [.requestReturned (some .mqttSubRequestCb) 0 .ok,
      .request ⟨.mqttSubRequestCb, 0, .timeout⟩] ∧
    ∃ b, BookRun openNet mqttClientNew ⟨[], 0⟩ (subscribing ++ List.replicate 6 .tick) w b := by
  obtain ⟨w, hrun, htold⟩ := subscribing_times_out.ok
  exact ⟨w, hrun, htold, run_requests hrun⟩

/-- The callback of a request that was accepted, with its argument. -/
def acceptedCall : Upcall → Option (RequestCb × ℕ)
  | .requestReturned (some cb) arg .ok => some (cb, arg)
  | _ => none

/-- The callback of a request that has got its answer. -/
def answeredCall : Upcall → Option (RequestCb × ℕ)
  | .request a => some (a.cb, a.arg)
  | _ => none

def Pending.call (p : Pending) : Option (RequestCb × ℕ) := p.cb.map fun cb => (cb, p.arg)

theorem answer_call (p : Pending) (err : Err) :
    ((p.answer err).map Upcall.request).filterMap answeredCall = [p].filterMap Pending.call := by
  obtain ⟨cb, arg, pktId⟩ := p
  cases cb <;> rfl

theorem answer_accepts (as : List Answer) :
    (as.map Upcall.request).filterMap acceptedCall = [] := by
  rw [List.filterMap_map, List.filterMap_eq_nil_iff]
  intro a _
  rfl

theorem told_accepted (op : Op Pending Reply) :
    (told op).filterMap acceptedCall = op.accepted.filterMap Pending.call := by
  cases op with
  | accept p =>
    obtain ⟨cb, arg, pktId⟩ := p
    cases cb <;> rfl
  | answer p err => exact answer_accepts _
  | tick out => exact answer_accepts _
  | lose p => rfl
  | close out => rfl
  | renew n => rfl

theorem told_answered (op : Op Pending Reply) :
    (told op).filterMap answeredCall = op.answered.filterMap Pending.call := by
  cases op with
  | accept p => rfl
  | answer p err => exact answer_call p err
  | tick out =>
    simp only [told, Op.answered]
    induction out with
    | nil => rfl
    | cons p out ih =>
      have hone := answer_call p .timeout
      rw [List.flatMap_cons, List.map_append, List.filterMap_append, ih, hone,
        ← List.filterMap_append, List.singleton_append]
  | lose p => rfl
  | close out => rfl
  | renew n => rfl

/-- What the operations tell is all that a log has to say about requests. -/
theorem log_calls {f : Upcall → Option (RequestCb × ℕ)} {g : Op Pending Reply → List Pending}
    {log : List Upcall} {ops : List (Op Pending Reply)}
    (hlog : log.filter Upcall.books = ops.flatMap told)
    (hf : ∀ u : Upcall, u.books = false → f u = none)
    (hg : ∀ op, (told op).filterMap f = (g op).filterMap Pending.call) :
    log.filterMap f = (ops.flatMap g).filterMap Pending.call := by
  have hbooks : (log.filter Upcall.books).filterMap f = log.filterMap f := by
    rw [List.filterMap_filter]
    apply List.filterMap_congr
    intro u _
    cases hu : u.books with
    | true => rfl
    | false => exact (hf u hu).symm
  rw [← hbooks, hlog, List.filterMap_flatMap, List.filterMap_flatMap]
  congr 1
  exact funext hg

theorem accepted_books (u : Upcall) (hu : u.books = false) : acceptedCall u = none := by
  unfold acceptedCall
  split
  · cases hu
  · rfl

theorem answered_books (u : Upcall) (hu : u.books = false) : answeredCall u = none := by
  unfold answeredCall
  split
  · cases hu
  · rfl

/-- In every run a request callback is called at most once for each time that its request was
accepted, and not yet for those that are still in the queue. -/
theorem run_answers {es : List Event} (h : Runs.run (step net) mqttClientNew es = .ok w) :
    ∃ l, w.client.requests.Linked l ∧
      (w.log.filterMap answeredCall : Multiset (RequestCb × ℕ)) +
        (l.filterMap fun i => (w.client.requests.reqList i).pending.call) ≤
          w.log.filterMap acceptedCall := by
  obtain ⟨b, hkept⟩ := run_kept (inv_new False) booked_new h
  obtain ⟨ops, l, hsteps, hb, hlog⟩ := hkept.ops booked_new
  have haccepted : w.log.filterMap acceptedCall = _ :=
    log_calls hlog accepted_books told_accepted
  have hanswered : w.log.filterMap answeredCall = _ :=
    log_calls hlog answered_books told_answered
  have hpending : (l.filterMap fun i => (w.client.requests.reqList i).pending.call) =
      b.requests.filterMap Pending.call := by
    rw [hb.requests, List.filterMap_map]
    rfl
  have hbalance : ((ops.flatMap Op.accepted).filterMap Pending.call : Multiset (RequestCb × ℕ)) =
      (ops.flatMap Op.answered).filterMap Pending.call +
        (ops.flatMap Op.dropped).filterMap Pending.call + b.requests.filterMap Pending.call := by
    have hmap := congrArg (Multiset.filterMap Pending.call) hsteps.balance
    simpa only [Multiset.filterMap_add, Multiset.filterMap_coe, Book.requests, List.map_nil,
      List.filterMap_nil, Multiset.coe_nil, zero_add] using hmap
  refine ⟨l, hb.linked, ?_⟩
  rw [haccepted, hanswered, hpending, hbalance]
  -- the rest was dropped without an answer
  exact add_le_add_left (Multiset.le_add_right _ _) _

theorem subscribing_answered : Post (fun w =>
    w.log.filterMap acceptedCall = [(.mqttSubRequestCb, 0)] ∧
      w.log.filterMap answeredCall = [(.mqttSubRequestCb, 0)]) (fun _ => False)
    (Runs.run (step openNet) mqttClientNew
      (subscribing ++ [.tick, .recv (some subackPbuf) .ok])) := by
  decide +kernel

/-- The subscription of the new connection is accepted, waits for a tick and is answered. -/
theorem run_answers_subscribed : ∃ w,
    Runs.run (step openNet) mqttClientNew
      (subscribing ++ [.tick, .recv (some subackPbuf) .ok]) = .ok w ∧
    w.log.filterMap acceptedCall = [(.mqttSubRequestCb, 0)] ∧
    w.log.filterMap answeredCall = [(.mqttSubRequestCb, 0)] ∧
    ∃ l, w.client.requests.Linked l ∧
      (w.log.filterMap answeredCall : Multiset (RequestCb × ℕ)) +
        (l.filterMap fun i => (w.client.requests.reqList i).pending.call) ≤
          w.log.filterMap acceptedCall := by
  obtain ⟨w, hrun, haccepted, hanswered⟩ := subscribing_answered.ok
  exact ⟨w, hrun, haccepted, hanswered, run_answers hrun⟩

end Mqtt
