import MqttSnClient.Mqtt.Reception

namespace Mqtt
open MqttRingbuf Outcome Relation

/-- The bounds of its calls that the application has to keep, since the code does not check
them: the remaining length does not wrap, and the quality of service has two bits. -/
def Event.Bounded : Event → Prop
  | .connect _ _ info => info.Short
  | .publish topic payload payloadLength qos _ _ _ => qos ≤ 2 ∧
    publishLen topic payloadLength qos ≤ maxRemainingLength ∧
      (payload = none → payloadLength = 0)
  | .subUnsub topic _ _ _ sub => subUnsubLen topic sub ≤ maxRemainingLength
  | .setInpub .. | .disconnect | .connected _ | .recv .. | .sent | .poll | .error | .tick => True

/-- How an event may fault. -/
def Event.MayFault : Event → Fault → Prop
  | .publish _ payload payloadLength _ _ _ _, f => Overread payload payloadLength f
  | .recv .., f => ServerFault f
  | .connect .., _ | .subUnsub .., _ | .setInpub .., _ | .disconnect, _ | .connected _, _
  | .sent, _ | .poll, _ | .error, _ | .tick, _ => False

/-- How a step begins: the cyclic timer first looks after the requests. -/
def Event.Begins : Event → World → World → Prop
  | .tick, w, w₀ => Ticked w w₀
  | .connect .., w, w₀ | .publish .., w, w₀ | .subUnsub .., w, w₀ | .setInpub .., w, w₀
  | .disconnect, w, w₀ | .connected _, w, w₀ | .recv .., w, w₀ | .sent, w, w₀ | .poll, w, w₀
  | .error, w, w₀ => w₀ = w

/-- A step is a chain of elementary changes; the timer that it handles is out of the list in
the meantime. -/
def StepDone (net : Net) (c : Prop) (e : Event) (w w' : World) : Prop :=
  Inv c 0 w' ∧ ∃ k n n' w₀ w₁, Inv c k { w with timers := n } ∧
    e.Begins { w with timers := n } w₀ ∧ Acts net c e k w₀ w₁ ∧ w' = { w₁ with timers := n' }

variable {net : Net} {c : Prop} {e : Event} {w w' : World}

theorem step_done (h : Inv c 0 w) (he : e.Begins w w) (ha : Acts net c e 0 w w') :
    StepDone net c e w w' := ⟨ha.inv h, 0, w.timers, w'.timers, w, w', h, he, ha, rfl⟩

/-- The cyclic timer is due only while the connection is up. -/
theorem timer_live (h : Inv c 0 w) (ht : w.timers > 0) :
    w.client.connState.live = true ∧ w.timers = 1 := by
  have htimers := h.timers
  split_ifs at htimers with hlive
  · exact ⟨hlive, htimers⟩
  · omega

theorem tick_post (h : Inv c 0 w) (ht : w.timers > 0) (E : Fault → Prop) :
    Post (StepDone net c .tick w) E (mqttCyclicTimer net { w with timers := w.timers - 1 }) := by
  obtain ⟨hlive, hone⟩ := timer_live h ht
  have h1 : Inv c 1 { w with timers := w.timers - 1 } := by
    refine ⟨h.linked, h.conn, h.pcb, ?_, h.room, h.stream⟩
    rw [if_pos hlive, hone]
  refine (cyclic_timer_post net (e := .tick) (E := E) h1 hlive).mono ?_ fun _ he => he
  rintro w' ⟨w₀, w₁, hticked, hacts, rfl⟩
  have h2 := hacts.inv (hticked.inv h1)
  refine ⟨⟨h2.linked, h2.conn, h2.pcb, ?_, h2.room, h2.stream⟩, 1, w.timers - 1, _, w₀, w₁, h1,
    hticked, hacts, rfl⟩
  simp only [Nat.sub_zero]

/-- An event that needs a callback or a timer. -/
theorem guarded_post {p : Prop} [Decidable p] {x : Except Fault World} {E : Fault → Prop}
    (h : Inv c 0 w) (he : ¬ p → e.Begins w w) (hx : p → Post (StepDone net c e w) E x) :
    Post (StepDone net c e w) E (if p then x else .ok w) := by
  split_ifs with hp
  · exact hx hp
  · exact step_done h (he hp) .refl

/-- One event keeps the invariant, and faults only as it may. -/
theorem step_post (e : Event) (h : Inv c 0 w) (he : c → e.Bounded) :
    Post (StepDone net c e w) e.MayFault (step net w e) := by
  have hacts {e : Event} (hb : e.Begins w w) {x : Except Fault World} {E : Fault → Prop}
      (hx : Post (fun w' => Acts net c e 0 w w') E x) : Post (StepDone net c e w) E x :=
    hx.mono (fun w' ha => step_done h hb ha) fun _ hf => hf
  cases e with
  | connect cb arg info => exact step_done h rfl (connect_acts net cb arg info he)
  | publish topic payload payloadLength qos retain cb arg =>
    exact hacts (by rfl) (publish_post net h topic payload payloadLength qos retain cb arg he)
  | subUnsub topic qos cb arg sub =>
    exact hacts (by rfl) (sub_unsub_post net h topic qos cb arg sub he)
  | setInpub pubCb dataCb arg =>
    exact step_done h rfl (.single (.quiet (.of_log rfl rfl rfl rfl rfl rfl rfl rfl)))
  | disconnect => exact hacts (by rfl) (disconnect_post net h)
  | connected err =>
    exact guarded_post h (fun _ => rfl) fun hp => hacts (by rfl) (connect_post net h hp err)
  | recv p err =>
    refine guarded_post h (fun _ => rfl) fun hp => ?_
    cases p with
    | none => exact hacts (by rfl) (gone_post net h err)
    | some p =>
      by_cases herr : err = .ok
      · subst herr
        exact hacts (by rfl) (recv_post net h hp p.bytes)
      · have hdrop : mqttTcpRecvCb net (some p.bytes) err w = .ok w := if_pos herr
        exact hacts (by rfl) (hdrop ▸ .refl)
  | sent => exact guarded_post h (fun _ => rfl) fun _ => hacts (by rfl) (sent_post net h)
  | poll => exact guarded_post h (fun _ => rfl) fun _ => hacts (by rfl) (poll_post net h)
  | error => exact guarded_post h (fun _ => rfl) fun _ => hacts (by rfl) (err_post net h)
  | tick =>
    refine guarded_post h (fun hno => .inl ⟨fun hs => hno ?_, rfl⟩) fun ht => tick_post h ht _
    have htimers := h.timers
    rw [hs] at htimers
    exact htimers ▸ Nat.one_pos

theorem inv_new (c : Prop) : Inv c 0 mqttClientNew := by
  have hlinked : mqttClientNew.client.requests.Linked [] :=
    ⟨rfl, by simp [Requests.queue, DeltaQueue.total]⟩
  have hqueued : mqttClientNew.client.output.queued = [] := by
    simp [queued, mqttClientNew, MqttClient.zero, mqttRingbufLen]
  refine ⟨⟨[], hlinked, fun _ => rfl⟩, by simp [mqttClientNew, MqttClient.zero], rfl, rfl,
    fun _ => by simp [hqueued, mqttOutputRingbufSize], fun _ hconn => ?_⟩
  cases hconn

theorem run_post (es : List Event) (hes : ∀ e ∈ es, c → e.Bounded) :
    Post (Inv c 0) (fun f => ∃ es₁ e es₂ t, es = es₁ ++ e :: es₂ ∧
      Runs.run (step net) mqttClientNew es₁ = .ok t ∧ step net t e = .error f ∧ e.MayFault f)
      (Runs.run (step net) mqttClientNew es) := by
  apply post_run (D := fun e => c → e.Bounded) (fun w e h he => ?_) (inv_new c) hes
  exact (step_post e h he).mono (fun w' hw' => hw'.1) fun _ hf => hf

/-- A net that takes whatever it is given. -/
def openNet : Net := ⟨fun _ => ⟨1000, true, 1000, true⟩, fun _ => ⟨true, .ok, .ok⟩⟩

theorem segment_short {bs : List UInt8} (h : bs.length < 8) : bs.length < 2 ^ 16 := by omega

def connackPbuf : Pbuf := ⟨[0x20, 2, 0, 0], segment_short (Nat.lt_of_sub_eq_succ rfl)⟩

def subackPbuf : Pbuf := ⟨[0x90, 3, 0, 1, 0], segment_short (Nat.lt_of_sub_eq_succ rfl)⟩

/-- A connection up to the first subscription, which its callback makes. -/
def subscribing : List Event :=
  [.connect true 0 exampleInfo, .connected .ok, .recv (some connackPbuf) .ok]

/-- In every run the client has a pcb while it is connected, the pcb has the callbacks of its
state, and exactly one cyclic timer runs, from the TCP connection on. -/
theorem run_lifecycle {es : List Event} (h : Runs.run (step net) mqttClientNew es = .ok w) :
    (w.client.conn = true ↔ w.client.connState ≠ .tcpDisconnected) ∧
      w.pcb = w.client.connState.pcb ∧
      w.timers = if w.client.connState.live then 1 else 0 := by
  have hinv := (run_post (c := False) es fun _ _ hf => hf.elim).result h
  exact ⟨hinv.conn, hinv.pcb, hinv.timers⟩

theorem run_lifecycle_open : ∃ w,
    Runs.run (step openNet) mqttClientNew [.connect true 0 exampleInfo, .connected .ok] = .ok w ∧
      (w.client.conn = true ↔ w.client.connState ≠ .tcpDisconnected) ∧
      w.pcb = w.client.connState.pcb ∧
      w.timers = if w.client.connState.live then 1 else 0 := by
  have hrun : Runs.run (step openNet) mqttClientNew
      [.connect true 0 exampleInfo, .connected .ok] = .ok _ := rfl
  exact ⟨_, hrun, run_lifecycle hrun⟩

/-- A run faults in a publish whose payload is too short or on what the server sends: no loop
runs for ever and nothing is sent without a pcb. -/
theorem run_fault {es : List Event} {f : Fault}
    (h : Runs.run (step net) mqttClientNew es = .error f) :
    ∃ es₁ e es₂ t, es = es₁ ++ e :: es₂ ∧ Runs.run (step net) mqttClientNew es₁ = .ok t ∧
      step net t e = .error f ∧ e.MayFault f :=
  (run_post (c := False) es fun _ _ hf => hf.elim).fault h

/-- A publish of two bytes from a payload of one. -/
theorem run_fault_overread : ∃ es₁ e es₂ t,
    [.connect true 0 exampleInfo, .publish printPayload (some [0]) 2 0 0 none 0] = es₁ ++ e :: es₂ ∧
      Runs.run (step openNet) mqttClientNew es₁ = .ok t ∧ step openNet t e = .error .overread ∧
        e.MayFault .overread := by
  have hrun : Runs.run (step openNet) mqttClientNew
      [.connect true 0 exampleInfo, .publish printPayload (some [0]) 2 0 0 none 0] =
        .error .overread := rfl
  exact run_fault hrun

/-- In every run that keeps the bounds, what TCP took on this connection and what is still in
the ring are a CONNECT and then whole well formed messages. -/
theorem run_stream {es : List Event} (hes : ∀ e ∈ es, e.Bounded)
    (h : Runs.run (step net) mqttClientNew es = .ok w) (hconn : w.client.conn = true) :
    ∃ (info : ConnectInfo) (ps : List Packet),
      w.wire ++ w.client.output.queued = (info.packet :: ps).flatMap Packet.encode ∧
        info.packet.WellFormed ∧ ∀ p ∈ ps, p.Later :=
  ((run_post (c := True) es fun e he _ => hes e he).result h).stream trivial hconn

/-- A net that takes at most 100 bytes at once. -/
def slowNet : Net := ⟨fun _ => ⟨100, true, 0, true⟩, fun _ => ⟨true, .ok, .ok⟩⟩

/-- Two messages that TCP takes in parts; the second goes round the end of the ring. -/
def wrapping : List Event :=
  [.connect true 0 exampleInfo, .connected .ok,
    .publish printPayload (some (List.replicate 200 7)) 200 0 0 none 0,
    .publish printPayload (some (List.replicate 60 8)) 60 0 0 none 0]

theorem wrapping_waits : Post (fun w => w.client.conn = true ∧ w.wire.length = 223 ∧
    cell w.client.output.put < cell w.client.output.get) (fun _ => False)
    (Runs.run (step slowNet) mqttClientNew wrapping) := by
  decide +kernel

theorem run_stream_wrapping : ∃ w,
    Runs.run (step slowNet) mqttClientNew wrapping = .ok w ∧
      cell w.client.output.put < cell w.client.output.get ∧
      ∃ (info : ConnectInfo) (ps : List Packet),
        w.wire ++ w.client.output.queued = (info.packet :: ps).flatMap Packet.encode ∧
          info.packet.WellFormed ∧ ∀ p ∈ ps, p.Later := by
  obtain ⟨w, hrun, hconn, -, hwrap⟩ := wrapping_waits.ok
  have hes : ∀ e ∈ wrapping, e.Bounded := by
    have hlong : publishLen printPayload 200 0 ≤ maxRemainingLength := by decide
    have hshort : publishLen printPayload 60 0 ≤ maxRemainingLength := by decide
    simp [wrapping, Event.Bounded, example_short, hlong, hshort]
  exact ⟨w, hrun, hwrap, run_stream hes hrun hconn⟩

end Mqtt
