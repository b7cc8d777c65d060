import MqttSnClient.Mqtt.System
import MqttSnClient.Mqtt.Packets
import MqttSnClient.Mqtt.Pool

namespace Mqtt
open Requests MqttRingbuf

/-- The states in which the cyclic timer runs. -/
def ConnState.live : ConnState → Bool
  | .tcpDisconnected | .tcpConnecting => false
  | .mqttConnecting | .mqttConnected => true

/-- The callbacks that go with a state. -/
def ConnState.pcb : ConnState → Pcb
  | .tcpDisconnected => .closed
  | .tcpConnecting => .connecting
  | .mqttConnecting | .mqttConnected => .established

/-- A message that may follow a CONNECT. -/
def Packet.Later (p : Packet) : Prop :=
  p.WellFormed ∧ ∀ clientId keepAlive will, p ≠ .connect clientId keepAlive will

/-- An upcall that tells of a request: it was accepted, or it has got its answer. -/
def Upcall.books : Upcall → Bool
  | .request _ => true
  | .requestReturned _ _ err => err = .ok
  | .connection _ | .publish .. | .data .. | .connectReturned _ => false

/-- Everything that the connection, its output and its requests depend on is as it was. -/
structure Quiet (w w' : World) : Prop where
  requests : w'.client.requests = w.client.requests
  output : w'.client.output = w.client.output
  connState : w'.client.connState = w.client.connState
  conn : w'.client.conn = w.client.conn
  timers : w'.timers = w.timers
  pcb : w'.pcb = w.pcb
  wire : w'.wire = w.wire
  log : ∃ us, w'.log = w.log ++ us ∧ ∀ u ∈ us, u.books = false

theorem Quiet.of_log {w w' : World} (requests : w'.client.requests = w.client.requests)
    (output : w'.client.output = w.client.output)
    (connState : w'.client.connState = w.client.connState)
    (conn : w'.client.conn = w.client.conn) (timers : w'.timers = w.timers)
    (pcb : w'.pcb = w.pcb) (wire : w'.wire = w.wire) (log : w'.log = w.log) : Quiet w w' :=
  ⟨requests, output, connState, conn, timers, pcb, wire, [], by simp [log], by simp⟩

theorem Quiet.tell {w : World} {u : Upcall} (h : u.books = false) : Quiet w (w.tell u) :=
  ⟨rfl, rfl, rfl, rfl, rfl, rfl, rfl, [u], rfl, by simp [h]⟩

/-- The remaining length of the CONNECT does not wrap. -/
def ConnectInfo.Short (info : ConnectInfo) : Prop :=
  info.packet.body.length ≤ maxRemainingLength

/-- What may happen to the requests, besides that time passes. -/
inductive Deed
  | accept
  | answer
  | lose
  | close
  | renew
  deriving DecidableEq

/-- What an event may do to the requests. -/
def Event.may : Event → Deed → Bool
  | .connect .., .renew => true
  | .publish .., .accept | .subUnsub .., .accept => true
  | .disconnect, .close => true
  | .recv (some _) .ok, _ => true
  | .recv none _, .close | .recv none _, .renew => true
  | .sent, .answer => true
  | .error, .close | .error, .renew | .tick, .close | .tick, .renew => true
  | .connect .., _ | .publish .., _ | .subUnsub .., _ | .setInpub .., _ | .disconnect, _
  | .connected _, _ | .recv .., _ | .sent, _ | .poll, _ | .error, _ | .tick, _ => false

class May (e : Event) (d : Deed) : Prop where
  may : e.may d = true

instance {cb arg info} : May (.connect cb arg info) .renew := ⟨rfl⟩
instance {topic payload n qos retain cb arg} :
    May (.publish topic payload n qos retain cb arg) .accept := ⟨rfl⟩
instance {topic qos cb arg sub} : May (.subUnsub topic qos cb arg sub) .accept := ⟨rfl⟩
instance : May .disconnect .close := ⟨rfl⟩
instance {p d} : May (.recv (some p) .ok) d := ⟨rfl⟩
instance {err} : May (.recv none err) .close := ⟨rfl⟩
instance {err} : May (.recv none err) .renew := ⟨rfl⟩
instance : May .sent .answer := ⟨rfl⟩
instance : May .error .close := ⟨rfl⟩
instance : May .error .renew := ⟨rfl⟩
instance : May .tick .close := ⟨rfl⟩
instance : May .tick .renew := ⟨rfl⟩

/-- The elementary changes within event `e`. With `c` the application keeps the bounds that the
code does not check, and `k` timers are being handled. -/
inductive Act (net : Net) (c : Prop) (e : Event) (k : ℕ) : World → World → Prop
  | quiet {w w'} (h : Quiet w w') : Act net c e k w w'
  | queue {w} (rb : MqttRingbuf) (h : c → ∃ p : Packet, p.Later ∧
      rb.queued = w.client.output.queued ++ p.encode ∧
      rb.queued.length ≤ mqttOutputRingbufSize) : Act net c e k w { w with client.output := rb }
  | send {w w'} (h : w.outputSend net = .ok w') : Act net c e k w w'
  | accept {w r rs rs'} [May e .accept] (p : Pending)
      (hconn : w.client.connState ≠ .tcpDisconnected)
      (hc : w.client.requests.mqttCreateRequest p.pktId p.cb p.arg = some (r, rs))
      (ha : rs.mqttAppendRequest r = .ok rs') :
      Act net c e k w ((w.withRequests rs').tell (.requestReturned p.cb p.arg .ok))
  | refuse {w r rs} (p : Pending)
      (hc : w.client.requests.mqttCreateRequest p.pktId p.cb p.arg = some (r, rs)) :
      Act net c e k w (w.withRequests (rs.mqttDeleteRequest r))
  | answer {w r rs} [May e .answer] (pktId : UInt16) (err : Err) (herr : err ≠ .timeout)
      (h : w.client.requests.mqttTakeRequest pktId = .ok (some r, rs)) :
      Act net c e k w (w.answered (rs.mqttDeleteRequest r) ((rs.reqList r).answer err))
  | lose {w r rs} [May e .lose] (pktId : UInt16)
      (h : w.client.requests.mqttTakeRequest pktId = .ok (some r, rs)) :
      Act net c e k w (w.withRequests rs)
  | close {w rs} [May e .close] (h : w.client.requests.mqttClearRequests = .ok rs) :
      Act net c e k w { w.withRequests rs with
        client.conn := false
        client.connState := .tcpDisconnected
        pcb := .closed
        timers := w.timers - 1 }
  | dial {w} [May e .renew] (cb : Bool) (arg : ℕ) (info : ConnectInfo)
      (h : w.client.connState = .tcpDisconnected) (hc : c → info.Short) :
      Act net c e k w (mqttClientConnect net cb arg info w).1
  | up {w} (hk : k = 0) (h : w.pcb = .connecting) :
      Act net c e k w { w with
        client.msgIdx := 0
        client.connState := .mqttConnecting
        client.cyclicTick := 0
        pcb := .established
        timers := w.timers + 1 }
  | accepted {w} (h : w.client.connState = .mqttConnecting) :
      Act net c e k w { w with client.cyclicTick := 0, client.connState := .mqttConnected }

/-- What holds between any two elementary changes. -/
structure Inv (c : Prop) (k : ℕ) (w : World) : Prop where
  linked : ∃ l, w.client.requests.Linked l ∧ (w.client.connState = .tcpDisconnected → l = [])
  conn : w.client.conn = true ↔ w.client.connState ≠ .tcpDisconnected
  pcb : w.pcb = w.client.connState.pcb
  timers : w.timers = if w.client.connState.live then 1 - k else 0
  room : c → w.client.output.queued.length ≤ mqttOutputRingbufSize
  stream : c → w.client.conn = true → ∃ (info : ConnectInfo) (ps : List Packet),
    w.wire ++ w.client.output.queued = (info.packet :: ps).flatMap Packet.encode ∧
      info.packet.WellFormed ∧ ∀ p ∈ ps, p.Later

theorem Inv.congr {c : Prop} {k : ℕ} {w w' : World} (h : Inv c k w)
    (requests : w'.client.requests = w.client.requests)
    (output : w'.client.output = w.client.output)
    (connState : w'.client.connState = w.client.connState)
    (conn : w'.client.conn = w.client.conn) (timers : w'.timers = w.timers)
    (pcb : w'.pcb = w.pcb) (wire : w'.wire = w.wire) : Inv c k w' := by
  obtain ⟨h1, h2, h3, h4, h5, h6⟩ := h
  constructor
  · rw [requests, connState]
    exact h1
  · rw [conn, connState]
    exact h2
  · rw [pcb, connState]
    exact h3
  · rw [timers, connState]
    exact h4
  · rw [output]
    exact h5
  · rw [conn, wire, output]
    exact h6

/-- The queue has changed, but the connection has not. -/
theorem Inv.withRequests {c : Prop} {k : ℕ} {w : World} {rs : Requests} {l : List Slot}
    (h : Inv c k w) (hl : rs.Linked l) (hconn : w.client.connState = .tcpDisconnected → l = []) :
    Inv c k (w.withRequests rs) :=
  ⟨⟨l, hl, hconn⟩, h.conn, h.pcb, h.timers, h.room, h.stream⟩

theorem Quiet.inv {c : Prop} {k : ℕ} {w w' : World} (hq : Quiet w w') (h : Inv c k w) :
    Inv c k w' :=
  h.congr hq.requests hq.output hq.connState hq.conn hq.timers hq.pcb hq.wire

theorem output_send_world {net : Net} {w w' : World} (h : w.outputSend net = .ok w') :
    w.client.conn = true ∧ w' = { w with
      client.output := (mqttOutputSend (net.send w.sends) w.client.output).1
      wire := w.wire ++ (mqttOutputSend (net.send w.sends) w.client.output).2
      sends := w.sends + 1 } := by
  unfold World.outputSend at h
  split_ifs at h with hconn
  cases h
  exact ⟨by simpa using hconn, rfl⟩

/-- The remaining length that the code computes is that of the message. -/
theorem remaining_length_eq {info : ConnectInfo} {r : UInt16}
    (h : info.remainingLength = some r) : r.toNat = info.packet.body.length := by
  unfold ConnectInfo.remainingLength at h
  unfold ConnectInfo.packet ConnectInfo.asWill
  cases hw : info.will with
  | none =>
    simp only [hw, Option.bind_eq_bind, Option.bind_some] at h
    split_ifs at h with h1 h2
    cases h
    simp only [Packet.body, Packet.willBytes, Option.map_none, List.length_append, length_be16,
      length_str, List.length_cons, List.length_nil, UInt16.toNat_ofNat', protocolName]
    omega
  | some tm =>
    simp only [hw] at h
    split_ifs at h with h1 h2 h3 h4
    all_goals simp only [Option.bind_eq_bind, Option.bind_some, Option.bind_none] at h
    all_goals try cases h
    split_ifs at h with h5
    cases h
    simp only [Packet.body, Packet.willBytes, Option.map_some, List.length_append, length_be16,
      length_str, List.length_cons, List.length_nil, UInt16.toNat_ofNat', protocolName]
    omega

/-- `mqtt_client_connect` on a client that is not connected: it wipes the client, and either
stops there or opens a connection with a CONNECT in the ring. -/
theorem connect_cases (net : Net) (cb : Bool) (arg : ℕ) (info : ConnectInfo) {w : World}
    (h : w.client.connState = .tcpDisconnected) :
    (∃ n, (mqttClientConnect net cb arg info w).1 =
        { w with client := wiped cb arg info, dials := n } ∧
      (mqttClientConnect net cb arg info w).2 ≠ .ok) ∨
    (∃ r, r.toNat = info.packet.body.length ∧
      mqttOutputCheckSpace (wiped cb arg info).output r = true ∧
      mqttClientConnect net cb arg info w = ({ w with
        client := { wiped cb arg info with
          conn := true
          connState := .tcpConnecting
          output := appendConnect info r (wiped cb arg info).output }
        dials := w.dials + 1
        pcb := .connecting
        wire := [] }, .ok)) := by
  unfold mqttClientConnect
  simp only [h, ne_eq, not_true_eq_false, if_false]
  cases hr : info.remainingLength with
  | none => exact .inl ⟨w.dials, rfl, by simp⟩
  | some r =>
    have hlen := remaining_length_eq hr
    by_cases hspace : mqttOutputCheckSpace (wiped cb arg info).output r = true
    · by_cases hnew : (net.dial w.dials).tcpNew = true
      · by_cases hbind : (net.dial w.dials).tcpBind = .ok
        · by_cases hcon : (net.dial w.dials).tcpConnect = .ok
          · right
            refine ⟨r, hlen, hspace, ?_⟩
            simp [hspace, hnew, hbind, hcon]
          · left
            exact ⟨w.dials + 1, by simp [hspace, hnew, hbind, hcon]⟩
        · left
          exact ⟨w.dials + 1, by simp [hspace, hnew, hbind]⟩
      · left
        exact ⟨w.dials + 1, by simp [hspace, hnew]⟩
    · left
      exact ⟨w.dials, by simp [hspace]⟩

theorem queued_wiped (cb : Bool) (arg : ℕ) (info : ConnectInfo) :
    (wiped cb arg info).output.queued = [] := by
  simp [queued, wiped, MqttClient.zero, mqttRingbufLen]

theorem linked_wiped (cb : Bool) (arg : ℕ) (info : ConnectInfo) :
    (wiped cb arg info).requests.Linked [] := ⟨rfl, by simp [queue, DeltaQueue.total]⟩

/-- An object that was just given out is not in the queue, and its links lead nowhere. -/
theorem created {rs rs' : Requests} {l : List Slot} {r : Slot} {p : Pending} (h : rs.Linked l)
    (hc : rs.mqttCreateRequest p.pktId p.cb p.arg = some (r, rs')) :
    r ∉ l ∧ rs'.Linked l ∧ rs'.queue l = rs.queue l ∧ rs'.next r = none ∧
      (rs'.reqList r).pending = p ∧ rs'.unused = rs.unused.erase r ∧ r ∈ rs.unused := by
  obtain ⟨hr, hpend, hlist⟩ := create_some hc
  have hrl := h.not_mem hr
  have hother : ∀ i, i ≠ r → rs'.reqList i = rs.reqList i := by
    intro i hi
    rw [hlist, Function.update_of_ne hi]
  have hself : rs'.reqList r = { rs.reqList r with
      next := none, cb := p.cb, arg := p.arg, pktId := p.pktId } := by
    rw [hlist, Function.update_self]
  have hq : rs'.queue l = rs.queue l := queue_congr fun i hi => hother i fun he => hrl (he ▸ hi)
  refine ⟨hrl, ⟨?_, ?_⟩, hq, ?_, ?_, ?_, hr⟩
  · rw [hpend]
    apply h.chain.congr
    intro i hi
    rw [next, next, hother i fun he => hrl (he ▸ hi)]
  · rw [hq]
    exact h.bound
  · rw [next, hself]
  · rw [hself]
    rfl
  · ext i
    rw [Finset.mem_erase, mem_unused, mem_unused, next, next]
    by_cases hi : i = r
    · subst hi
      simp [hself]
    · rw [hother i hi]
      exact ⟨fun hn => ⟨hi, hn⟩, And.right⟩

/-- Where `mqtt_take_request` found the request that it took. -/
theorem taken {rs rs' : Requests} {l : List Slot} {r : Slot} {pktId : UInt16} (h : rs.Linked l)
    (ht : rs.mqttTakeRequest pktId = .ok (some r, rs')) :
    ∃ xs ys, l = xs ++ r :: ys ∧ (∀ i ∈ xs, (rs.reqList i).pktId ≠ pktId) ∧
      (rs.reqList r).pktId = pktId ∧ rs'.Linked (xs ++ ys) ∧
      rs'.queue (xs ++ ys) = DeltaQueue.remove (fun p => p.pktId = pktId) (rs.queue l) ∧
      rs'.unused = rs.unused ∧ (rs'.reqList r).pending = (rs.reqList r).pending ∧
      r ∉ xs ++ ys := by
  by_cases hall : ∀ i ∈ l, (rs.reqList i).pktId ≠ pktId
  · rw [take_none h hall] at ht
    cases ht
  · push Not at hall
    obtain ⟨xs, r', ys, rfl, hbefore, hid'⟩ := first_with_id hall
    obtain ⟨rs₁, htake, hl', hq, hu, hp⟩ := take_some h hbefore hid'
    rw [htake] at ht
    cases ht
    have hnodup := h.chain.nodup
    rw [List.nodup_append, List.nodup_cons] at hnodup
    refine ⟨xs, ys, rfl, hbefore, hid', hl', hq, hu, hp, ?_⟩
    simp only [List.mem_append, not_or]
    exact ⟨fun hx => hnodup.2.2 r hx r (by simp) rfl, hnodup.2.1.1⟩

theorem Act.inv {net : Net} {c : Prop} {e : Event} {k : ℕ} {w w' : World} (ha : Act net c e k w w')
    (h : Inv c k w) : Inv c k w' := by
  cases ha with
  | quiet hq => exact hq.inv h
  | queue rb hp =>
    refine ⟨h.linked, h.conn, h.pcb, h.timers, fun hc => ?_, fun hc hconn => ?_⟩
    · obtain ⟨p, -, -, hroom⟩ := hp hc
      exact hroom
    · obtain ⟨p, hlater, hqueued, -⟩ := hp hc
      obtain ⟨info, ps, hstream, hinfo, hps⟩ := h.stream hc hconn
      refine ⟨info, ps ++ [p], ?_, hinfo, ?_⟩
      · calc w.wire ++ rb.queued = (w.wire ++ w.client.output.queued) ++ p.encode := by
              rw [hqueued, List.append_assoc]
          _ = (info.packet :: (ps ++ [p])).flatMap Packet.encode := by
              rw [hstream, ← List.cons_append, List.flatMap_append, List.flatMap_singleton]
      · intro p' hp'
        rcases List.mem_append.mp hp' with hp' | hp'
        · exact hps p' hp'
        · rw [List.mem_singleton.mp hp']
          exact hlater
  | send hs =>
    obtain ⟨hconn, rfl⟩ := output_send_world hs
    have hkeep := output_send_keeps (net.send w.sends) w.client.output
    refine ⟨h.linked, h.conn, h.pcb, h.timers, fun hc => ?_, fun hc hconn => ?_⟩
    · have hlen := congrArg List.length hkeep
      rw [List.length_append] at hlen
      have hroom := h.room hc
      simp only
      omega
    · obtain ⟨info, ps, hstream, hps⟩ := h.stream hc hconn
      refine ⟨info, ps, ?_, hps⟩
      rw [List.append_assoc, hkeep]
      exact hstream
  | accept p hconn hc hap =>
    obtain ⟨l, hl, -⟩ := h.linked
    obtain ⟨hr, hl', -, hnext, -⟩ := created hl hc
    obtain ⟨rs', happ, hl'', -⟩ := append_linked hl' hr hnext
    rw [happ] at hap
    cases hap
    have hinv := h.withRequests hl'' fun hd => absurd hd hconn
    exact hinv.congr rfl rfl rfl rfl rfl rfl rfl
  | refuse p hc =>
    obtain ⟨l, hl, hidle⟩ := h.linked
    obtain ⟨hr, hl', -⟩ := created hl hc
    exact h.withRequests (delete_linked hl' hr).1 hidle
  | answer pktId err herr ht =>
    obtain ⟨l, hl, hidle⟩ := h.linked
    obtain ⟨xs, ys, rfl, -, -, hl', -, -, -, hr⟩ := taken hl ht
    have hinv := h.withRequests (delete_linked hl' hr).1 fun hd => by simpa using hidle hd
    exact hinv.congr rfl rfl rfl rfl rfl rfl rfl
  | lose pktId ht =>
    obtain ⟨l, hl, hidle⟩ := h.linked
    obtain ⟨xs, ys, rfl, -, -, hl', -⟩ := taken hl ht
    exact h.withRequests hl' fun hd => by simpa using hidle hd
  | close hcl =>
    obtain ⟨l, hl, -⟩ := h.linked
    obtain ⟨rs', hrun, hl', -⟩ := clear_linked hl
    rw [hrun] at hcl
    cases hcl
    refine ⟨⟨[], hl', fun _ => rfl⟩, by simp, rfl, ?_, h.room, fun _ hconn => by cases hconn⟩
    have ht := h.timers
    simp only [ConnState.live]
    split_ifs at ht <;> simp <;> omega
  | dial cb arg info hd hshort =>
    rcases connect_cases net cb arg info hd with
      ⟨n, hw, -⟩ | ⟨r, hlen, hspace, hw⟩
    · have hp := h.pcb
      have ht := h.timers
      rw [hd] at hp ht
      rw [hw]
      exact ⟨⟨[], linked_wiped cb arg info, fun _ => rfl⟩, ⟨by simp [wiped, MqttClient.zero],
        fun hn => absurd rfl hn⟩, hp, ht, fun _ => by simp [queued_wiped, mqttOutputRingbufSize],
        fun _ hconn => by cases hconn⟩
    · have ht := h.timers
      rw [hd] at ht
      rw [hw]
      have hwrites : c → (appendConnect info r (wiped cb arg info).output).queued =
          info.packet.encode ∧ info.packet.encode.length ≤ mqttOutputRingbufSize := by
        intro hc
        have hexact := (check_space_exact _ r (by rw [hlen]; exact hshort hc)
          (by simp [queued_wiped, mqttOutputRingbufSize])).mp hspace
        rw [queued_wiped, hlen, ← Packet.length_encode, List.length_nil, Nat.zero_add] at hexact
        have hq := writes_connect info hlen (wiped cb arg info).output
          (by rw [queued_wiped]; simpa using hexact)
        rw [queued_wiped, List.nil_append] at hq
        exact ⟨hq, hexact⟩
      refine ⟨⟨[], linked_wiped cb arg info, fun _ => rfl⟩, by simp, rfl, ht, fun hc => ?_,
        fun hc _ => ⟨info, [], ?_, ?_, by simp⟩⟩
      · simp only [(hwrites hc).1]
        exact (hwrites hc).2
      · simp [(hwrites hc).1]
      · exact ⟨hshort hc, trivial⟩
  | up hk hp =>
    have hstate : w.client.connState = .tcpConnecting := by
      have hpcb := h.pcb
      rw [hp] at hpcb
      cases hs : w.client.connState <;> simp [hs, ConnState.pcb] at hpcb ⊢
    have ht := h.timers
    have hconn := h.conn
    rw [hstate] at ht hconn
    obtain ⟨l, hl, -⟩ := h.linked
    refine ⟨⟨l, hl, by simp⟩, by simpa using hconn, rfl, ?_, h.room, h.stream⟩
    simp only [ConnState.live] at ht ⊢
    simp [ht, hk]
  | accepted hs =>
    have ht := h.timers
    have hp := h.pcb
    have hconn := h.conn
    rw [hs] at ht hp hconn
    obtain ⟨l, hl, -⟩ := h.linked
    exact ⟨⟨l, hl, by simp⟩, by simpa using hconn, hp, ht, h.room, h.stream⟩

/-- What the cyclic timer does with the requests before anything else: on a client that is
connected, those that have waited too long are answered. -/
def Ticked (w w' : World) : Prop :=
  (w.client.connState ≠ .mqttConnected ∧ w' = w) ∨ (w.client.connState = .mqttConnected ∧
    ∃ rs answers, w.client.requests.mqttRequestTimeElapsed (UInt8.ofNat mqttCyclicTimerInterval) =
      .ok (rs, answers) ∧ w' = w.answered rs answers)

theorem Ticked.connState {w w' : World} (ht : Ticked w w') :
    w'.client.connState = w.client.connState := by
  rcases ht with ⟨-, rfl⟩ | ⟨-, rs, answers, -, rfl⟩
  · rfl
  · rfl

theorem Ticked.inv {c : Prop} {k : ℕ} {w w' : World} (ht : Ticked w w') (h : Inv c k w) :
    Inv c k w' := by
  rcases ht with ⟨-, rfl⟩ | ⟨-, rs, answers, he, rfl⟩
  · exact h
  · obtain ⟨l, hl, hidle⟩ := h.linked
    obtain ⟨rs', xs, ys, hrun, hsplit, hl', -⟩ := elapse_linked hl hl.length_le
    rw [mqttRequestTimeElapsed, hrun] at he
    cases he
    have hinv := h.withRequests hl' fun hd => by
      rw [hidle hd] at hsplit
      exact (List.append_eq_nil_iff.mp hsplit.symm).2
    exact hinv.congr rfl rfl rfl rfl rfl rfl rfl

end Mqtt
