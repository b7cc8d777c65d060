import MqttSnClient.Lib.Outcome
import MqttSnClient.Mqtt.Acts

/-! Every function of the client is a chain of elementary changes, and only a payload that is too
short makes one of them fault. -/
namespace Mqtt
open Bytes Requests MqttRingbuf Outcome Relation

abbrev Acts (net : Net) (c : Prop) (e : Event) (k : ℕ) : World → World → Prop :=
  ReflTransGen (Act net c e k)

section

variable {net : Net} {c : Prop} {e : Event} {k : ℕ} {w w' : World} {E : Fault → Prop}

theorem Acts.inv (ha : Acts net c e k w w') (h : Inv c k w) : Inv c k w' := by
  induction ha with
  | refl => exact h
  | tail _ hstep ih => exact hstep.inv ih

theorem Acts.quiet (h : Quiet w w') : Acts net c e k w w' := .single (.quiet h)

/-- An upcall that does not tell of a request. -/
theorem Acts.tell {u : Upcall} (h : Acts net c e k w w') (hu : u.books = false) :
    Acts net c e k w (w'.tell u) := h.tail (.quiet (Quiet.tell hu))

variable (net)

/-- A connection has a pcb to send on. -/
theorem output_send_ok (h : Inv c k w) (hconn : w.client.connState ≠ .tcpDisconnected) :
    ∃ w', w.outputSend net = .ok w' ∧ w' = { w with
      client.output := (mqttOutputSend (net.send w.sends) w.client.output).1
      wire := w.wire ++ (mqttOutputSend (net.send w.sends) w.client.output).2
      sends := w.sends + 1 } := by
  have htrue := h.conn.mpr hconn
  refine ⟨_, ?_, rfl⟩
  unfold World.outputSend
  rw [htrue]
  rfl

theorem output_send_post (h : Inv c k w) (hconn : w.client.connState ≠ .tcpDisconnected) :
    Post (fun w' => Acts net c e k w w') E (w.outputSend net) := by
  obtain ⟨w', hsend, -⟩ := output_send_ok net h hconn
  rw [hsend]
  exact .single (.send hsend)

/-- A message in the ring and its request in the queue, and whatever of it TCP takes. -/
theorem accept_post [May e .accept] (h : Inv c k w) (hconn : w.client.connState ≠ .tcpDisconnected)
    {r : Slot}
    {rs : Requests} (p : Pending)
    (hcreate : w.client.requests.mqttCreateRequest p.pktId p.cb p.arg = some (r, rs))
    {f : MqttRingbuf → MqttRingbuf} (hf : c → ∃ q : Packet, q.Later ∧
      (f w.client.output).queued = w.client.output.queued ++ q.encode ∧
      (f w.client.output).queued.length ≤ mqttOutputRingbufSize) :
    Post (fun a => Acts net c e k w (a.1.tell (.requestReturned p.cb p.arg a.2))) E
      (do
        let rs ← rs.mqttAppendRequest r
        let w ← ((w.withOutput f).withRequests rs).outputSend net
        .ok (w, .ok)) := by
  obtain ⟨l, hl, -⟩ := h.linked
  obtain ⟨hr, hl', -, hnext, -⟩ := created hl hcreate
  obtain ⟨rs', happ, -⟩ := append_linked hl' hr hnext
  have hqueue : Act net c e k w (w.withOutput f) := .queue (f w.client.output) hf
  obtain ⟨w₁, hsend, hw₁⟩ := output_send_ok net (hqueue.inv h) hconn
  have hsend' : ((w.withOutput f).withRequests rs').outputSend net =
      .ok (w₁.withRequests rs') := by
    unfold World.outputSend at hsend ⊢
    rw [hw₁]
    rw [if_neg (by simpa [World.withOutput, World.withRequests] using h.conn.mpr hconn)]
    rfl
  rw [happ]
  change Post _ _ (((w.withOutput f).withRequests rs').outputSend net >>= fun w =>
    Except.ok (w, Err.ok))
  rw [hsend']
  have haccept : Act net c e k w₁
      ((w₁.withRequests rs').tell (.requestReturned p.cb p.arg .ok)) := by
    have hsame : w₁.client.connState = w.client.connState ∧
        w₁.client.requests = w.client.requests := by
      rw [hw₁]
      exact ⟨rfl, rfl⟩
    rw [← hsame.1] at hconn
    rw [← hsame.2] at hcreate
    exact .accept p hconn hcreate happ
  exact ((ReflTransGen.single hqueue).tail (.send hsend)).tail haccept

end

theorem generated_ne_zero (seq : UInt16) : msgGeneratePacketId seq ≠ 0 := by
  unfold msgGeneratePacketId
  split_ifs with h
  · rw [h]
    decide
  · exact h

/-- The length checks of the API, on a message whose remaining length does not wrap. -/
theorem ring_room {rb : MqttRingbuf} {r : UInt16} {f : MqttRingbuf → MqttRingbuf} {q : Packet}
    (hroom : rb.queued.length ≤ mqttOutputRingbufSize)
    (hspace : mqttOutputCheckSpace rb r = true) (hlen : r.toNat = q.body.length)
    (hq : q.Later) (hf : Writes f q.encode) : q.Later ∧
      (f rb).queued = rb.queued ++ q.encode ∧ (f rb).queued.length ≤ mqttOutputRingbufSize := by
  have hexact := (check_space_exact rb r (by rw [hlen]; exact hq.1.1) hroom).mp hspace
  rw [hlen, ← Packet.length_encode] at hexact
  have hqueued := hf rb hexact
  refine ⟨hq, hqueued, ?_⟩
  rw [hqueued, List.length_append]
  exact hexact

section

variable (net : Net) {c : Prop} {e : Event} {k : ℕ} {w : World} {E : Fault → Prop}

theorem later_subscribe (sub : Bool) (topic : CString) (qos : UInt8) {pktId : UInt16}
    (hid : pktId ≠ 0) (hlen : subUnsubLen topic sub ≤ maxRemainingLength) :
    ∃ q : Packet, q.Later ∧ q.body.length = subUnsubLen topic sub ∧
      ∀ r : UInt16, r.toNat = q.body.length →
        Writes (appendSubUnsub topic qos sub pktId r) q.encode := by
  cases sub with
  | true =>
    have hbody : (Packet.subscribe pktId topic (min qos 2)).body.length =
        subUnsubLen topic true := by
      simp only [Packet.body, List.length_append, length_be16, length_str, List.length_singleton,
        subUnsubLen, if_true]
      omega
    have hqos : min qos 2 ≤ 2 := by
      rw [UInt8.min_def]
      split_ifs with hle
      · exact hle
      · exact UInt8.le_refl 2
    exact ⟨.subscribe pktId topic (min qos 2), ⟨⟨hbody ▸ hlen, hid, hqos⟩, by simp⟩, hbody,
      fun r hr => writes_subscribe topic qos pktId hr⟩
  | false =>
    have hbody : (Packet.unsubscribe pktId topic).body.length = subUnsubLen topic false := by
      simp only [Packet.body, List.length_append, length_be16, length_str, subUnsubLen,
        Bool.false_eq_true, if_false]
      omega
    -- the quality of service is not part of an UNSUBSCRIBE
    exact ⟨.unsubscribe pktId topic, ⟨⟨hbody ▸ hlen, hid⟩, by simp⟩, hbody,
      fun r hr => writes_unsubscribe topic qos pktId hr⟩

/-- A call that reports its result, on a client that is connected. -/
theorem send_request_post [May e .accept] (h : Inv c k w)
    (hconn : w.client.connState ≠ .tcpDisconnected)
    (pktId : UInt16) (cb : Option RequestCb) (arg : ℕ) (r : UInt16)
    (append : Except Fault (MqttRingbuf → MqttRingbuf))
    (hc : Post (fun f => c → ∃ q : Packet, q.Later ∧ r.toNat = q.body.length ∧
      Writes f q.encode) E append) :
    Post (fun a => Acts net c e k w (a.1.tell (.requestReturned cb arg a.2))) E
      (sendRequest net pktId cb arg r append w) := by
  have hrefl : Acts net c e k w w := .refl
  unfold sendRequest
  cases hcreate : w.client.requests.mqttCreateRequest pktId cb arg with
  | none => exact Acts.tell hrefl rfl
  | some created =>
    obtain ⟨slot, rs⟩ := created
    by_cases hspace : mqttOutputCheckSpace w.client.output r = true
    · simp only [hspace, Bool.not_true, Bool.false_eq_true, if_false]
      apply hc.bind
      intro f hf
      refine accept_post net h hconn ⟨cb, arg, pktId⟩ hcreate fun hcc => ?_
      obtain ⟨q, hq, hlen, hw⟩ := hf hcc
      exact ⟨q, ring_room (h.room hcc) hspace hlen hq hw⟩
    · simp only [hspace]
      exact Acts.tell (.single (.refuse ⟨cb, arg, pktId⟩ hcreate)) rfl

/-- `mqtt_sub_unsub`. -/
theorem sub_unsub_post [May e .accept] (h : Inv c k w) (topic : CString) (qos : UInt8)
    (cb : Option RequestCb)
    (arg : ℕ) (sub : Bool) (hc : c → subUnsubLen topic sub ≤ maxRemainingLength) :
    Post (fun w' => Acts net c e k w w') E (subUnsubCall net topic qos cb arg sub w) := by
  have hrefl : Acts net c e k w w := .refl
  unfold subUnsubCall mqttSubUnsub
  split_ifs with h1 h2 h3
  · exact Acts.tell hrefl rfl
  · exact Acts.tell hrefl rfl
  · exact Acts.tell hrefl rfl
  · have hquiet : Quiet w { w with client.pktIdSeq := msgGeneratePacketId w.client.pktIdSeq } :=
      .of_log rfl rfl rfl rfl rfl rfl rfl rfl
    have hsend := send_request_post net (e := e) (E := E) (hquiet.inv h) h3
      (msgGeneratePacketId w.client.pktIdSeq) cb arg (UInt16.ofNat (subUnsubLen topic sub))
      (.ok _) fun hcc => by
        obtain ⟨q, hq, hbody, hwrites⟩ :=
          later_subscribe sub topic qos (generated_ne_zero w.client.pktIdSeq) (hc hcc)
        have hlen := (toNat_ofNat_length (hc hcc)).trans hbody.symm
        exact ⟨q, hq, hlen, hwrites _ hlen⟩
    exact hsend.bind fun a ha => ReflTransGen.head (.quiet hquiet) ha

def publishLen (topic : CString) (payloadLength : UInt16) (qos : UInt8) : ℕ :=
  2 + topic.strlen + payloadLength.toNat + (if qos > 0 then 2 else 0)

/-- The payload is shorter than the length that the caller gives for it. -/
def Overread (payload : Option (List UInt8)) (payloadLength : UInt16) (f : Fault) : Prop :=
  f = .overread ∧ ∃ data, payload = some data ∧ data.length < payloadLength.toNat

theorem payload_post {payload : Option (List UInt8)} {payloadLength : UInt16} :
    Post (fun data => (payload = none → payloadLength = 0) → data.length = payloadLength.toNat)
      (Overread payload payloadLength) (payloadBytes payload payloadLength) := by
  cases payload with
  | none => exact fun hnull => by simp [hnull rfl]
  | some payload =>
    simp only [payloadBytes]
    split_ifs with hshort
    · exact ⟨rfl, payload, rfl, hshort⟩
    · exact fun _ => by simp; omega

theorem qos_pos (qos : UInt8) : qos > 0 ↔ qos.toNat ≠ 0 := by
  rw [gt_iff_lt, UInt8.lt_iff_toNat_lt, UInt8.toNat_zero]
  omega

theorem later_publish (topic : CString) (retain : UInt8) {qos : UInt8}
    {pktId payloadLength : UInt16}
    {data : List UInt8} (hqos : qos ≤ 2) (hid : qos > 0 → pktId ≠ 0)
    (hdata : data.length = payloadLength.toNat)
    (hlen : publishLen topic payloadLength qos ≤ maxRemainingLength) :
    (Packet.publish topic data qos.toNat (retain.toNat % 2 = 1) pktId).Later ∧
      (Packet.publish topic data qos.toNat (retain.toNat % 2 = 1) pktId).body.length =
        publishLen topic payloadLength qos := by
  have hbody : (Packet.publish topic data qos.toNat (retain.toNat % 2 = 1) pktId).body.length =
      publishLen topic payloadLength qos := by
    by_cases hzero : qos.toNat = 0
    · simp [Packet.body, hdata, publishLen, qos_pos, hzero]
      omega
    · simp [Packet.body, hdata, publishLen, qos_pos, hzero]
      omega
  refine ⟨⟨⟨hbody ▸ hlen, hqos, ?_⟩, by simp⟩, hbody⟩
  by_cases h : qos > 0
  · exact .inr (hid h)
  · exact .inl (by simpa [qos_pos] using h)

theorem publish_length {topic : CString} {payloadLength : UInt16} {qos : UInt8}
    (h : publishLen topic payloadLength qos ≤ maxRemainingLength) :
    (UInt16.ofNat (2 + topic.strlen + payloadLength.toNat) + (if qos > 0 then 2 else 0)).toNat =
      publishLen topic payloadLength qos := by
  unfold publishLen maxRemainingLength at *
  split_ifs at h ⊢
  · rw [UInt16.toNat_add, UInt16.toNat_ofNat']
    simp only [UInt16.reduceToNat]
    omega
  · rw [add_zero, UInt16.toNat_ofNat']
    omega

/-- `mqtt_publish`. -/
theorem publish_post [May e .accept] (h : Inv c k w) (topic : CString)
    (payload : Option (List UInt8))
    (payloadLength : UInt16) (qos retain : UInt8) (cb : Option RequestCb) (arg : ℕ)
    (hc : c → qos ≤ 2 ∧ publishLen topic payloadLength qos ≤ maxRemainingLength ∧
      (payload = none → payloadLength = 0)) :
    Post (fun w' => Acts net c e k w w') (Overread payload payloadLength)
      (publishCall net topic payload payloadLength qos retain cb arg w) := by
  have hrefl : Acts net c e k w w := .refl
  unfold publishCall mqttPublish
  by_cases h1 : w.client.connState = .tcpDisconnected
  · rw [if_pos h1]
    exact hrefl.tell rfl
  rw [if_neg h1]
  by_cases h2 : topic.strlen > 0xFFFF - 2
  · rw [if_pos h2]
    exact hrefl.tell rfl
  rw [if_neg h2]
  by_cases h3 : 2 + topic.strlen + payloadLength.toNat > 0xFFFF
  · simp only [if_pos h3]
    exact hrefl.tell rfl
  simp only [if_neg h3]
  have hquiet (seq : UInt16) :
      Quiet w (if qos > 0 then { w with client.pktIdSeq := seq } else w) := by
    split_ifs
    · exact .of_log rfl rfl rfl rfl rfl rfl rfl rfl
    · exact .of_log rfl rfl rfl rfl rfl rfl rfl rfl
  generalize hid : (if qos > 0 then msgGeneratePacketId w.client.pktIdSeq else 0) = pktId
  generalize hr : UInt16.ofNat (2 + topic.strlen + payloadLength.toNat) +
    (if qos > 0 then 2 else 0) = r
  have happend : Post (fun f => c → ∃ q : Packet, q.Later ∧ r.toNat = q.body.length ∧
      Writes f q.encode) (Overread payload payloadLength)
      (appendPublish topic qos retain pktId r <$> payloadBytes payload payloadLength) := by
    rw [map_eq_pure_bind]
    apply payload_post.bind
    intro data hdata hcc
    obtain ⟨hqos, hlen, hnull⟩ := hc hcc
    have hne : qos > 0 → pktId ≠ 0 := by
      intro hpos
      rw [← hid, if_pos hpos]
      exact generated_ne_zero _
    obtain ⟨hlater, hbody⟩ := later_publish topic retain hqos hne (hdata hnull) hlen
    have hsame : r.toNat = _ := (hr ▸ publish_length hlen).trans hbody.symm
    exact ⟨_, hlater, hsame, writes_publish topic data retain _ hqos hsame⟩
  have hsend := send_request_post net (e := e) ((hquiet pktId).inv h)
    ((hquiet pktId).connState ▸ h1) pktId cb arg r _ happend
  exact hsend.bind fun a ha => ReflTransGen.head (.quiet (hquiet pktId)) ha

/-- `pub_ack_rec_rel_response`. -/
theorem response_post (h : Inv c k w) (hconn : w.client.connState ≠ .tcpDisconnected)
    {msg qos : UInt8} {pktId : UInt16} {q : Packet} (hq : q.Later)
    (hcontrol : controlByte msg 0 qos 0 = q.control) (hbody : q.body = be16 pktId) :
    Post (fun a => Acts net c e k w a.1) E (pubAckRecRelResponse net msg pktId qos w) := by
  unfold pubAckRecRelResponse
  split_ifs with hspace
  · have hqueue : Act net c e k w (w.withOutput fun rb =>
        mqttOutputAppendU16 pktId (mqttOutputAppendFixedHeader msg 0 qos 0 2 rb)) := by
      apply Act.queue
      intro hcc
      exact ⟨q, ring_room (h.room hcc) hspace (by rw [hbody]; rfl) hq
        (writes_response pktId hcontrol hbody)⟩
    have hsend := output_send_post net (e := e) (E := E) (hqueue.inv h) hconn
    exact hsend.bind fun a ha => ReflTransGen.head hqueue ha
  · exact ReflTransGen.refl

/-- The connection options of the application make a short CONNECT. -/
theorem example_short : exampleInfo.Short := by
  unfold ConnectInfo.Short
  decide

/-- `mqtt_client_connect`. -/
theorem connect_acts [May e .renew] (cb : Bool) (arg : ℕ) (info : ConnectInfo)
    (hc : c → info.Short) :
    Acts net c e k w (connectCall net cb arg info w) := by
  unfold connectCall
  apply Acts.tell
  · by_cases hd : w.client.connState = .tcpDisconnected
    · exact .single (.dial cb arg info hd hc)
    · rw [mqttClientConnect, if_pos hd]
  · rfl

/-- `mqtt_connection_cb` on a new connection. -/
theorem connection_post [May e .accept] (h : Inv c k w) {status : MqttConnectionStatus}
    (hs : status = mqttConnectAccepted) :
    Post (fun w' => Acts net c e k w w') E (mqttConnectionCb net status w) := by
  have htell : Acts net c e k w (w.tell (.connection status)) := Acts.tell .refl rfl
  unfold mqttConnectionCb
  simp only [if_pos hs]
  have hset : Acts net c e k w (mqttSetInpubCallback true true
      (w.tell (.connection status)).client.connectArg (w.tell (.connection status))) :=
    htell.tail (.quiet (.of_log rfl rfl rfl rfl rfl rfl rfl rfl))
  have hsub := sub_unsub_post net (e := e) (E := E) (hset.inv h) printPayload 1
    (some .mqttSubRequestCb) (w.tell (.connection status)).client.connectArg true
    fun _ => by decide
  exact hsub.mono (fun w' hw' => hset.trans hw') fun _ he => he

/-- Whoever is told that the connection is gone connects again. -/
theorem connection_again {reason : MqttConnectionStatus} (hr : reason ≠ mqttConnectAccepted) :
    mqttConnectionCb net reason w = .ok (exampleDoConnect net (w.tell (.connection reason))) :=
  if_neg hr

theorem again_acts [May e .renew] (reason : MqttConnectionStatus) :
    Acts net c e k w (exampleDoConnect net (w.tell (.connection reason))) :=
  ReflTransGen.trans (Acts.tell .refl rfl)
    (connect_acts net true 0 exampleInfo fun _ => example_short)

/-- What `mqtt_close` leaves before it tells the application. -/
def World.closed (rs : Requests) (w : World) : World :=
  { w.withRequests rs with
    client.conn := false
    client.connState := .tcpDisconnected
    pcb := .closed
    timers := w.timers - 1 }

/-- `mqtt_close`, on a client whose pcb may already be gone or whose state may already be
set. -/
theorem close_eq (conn : Bool) (connState : ConnState) (pcb : Pcb)
    (reason : MqttConnectionStatus) {rs : Requests}
    (hclear : w.client.requests.mqttClearRequests = .ok rs)
    (hpcb : conn = false → pcb = .closed) :
    mqttClose net reason
        { w with client.conn := conn, client.connState := connState, pcb := pcb } =
      if connState = .tcpDisconnected then .ok (w.closed rs)
      else if w.client.connectCb then mqttConnectionCb net reason (w.closed rs)
      else .ok (w.closed rs) := by
  have htcp : closeTcp { w with client.conn := conn, client.connState := connState, pcb := pcb } =
      { w with client.conn := false, client.connState := connState, pcb := .closed } := by
    cases conn with
    | true => rfl
    | false =>
      rw [hpcb rfl]
      rfl
  unfold mqttClose
  rw [htcp]
  simp only [hclear]
  change notifyClosed net reason _ = _
  unfold notifyClosed
  by_cases hs : connState = .tcpDisconnected
  · subst hs
    rfl
  · rw [if_neg hs]
    exact if_neg hs

theorem close_parts_post [May e .close] [May e .renew] (h : Inv c k w) (conn : Bool)
    (connState : ConnState) (pcb : Pcb) {reason : MqttConnectionStatus}
    (hr : reason ≠ mqttConnectAccepted) (hpcb : conn = false → pcb = .closed) :
    Post (fun w' => Acts net c e k w w') E (mqttClose net reason
      { w with client.conn := conn, client.connState := connState, pcb := pcb }) := by
  obtain ⟨l, hl, -⟩ := h.linked
  obtain ⟨rs, hclear, -⟩ := clear_linked hl
  have hclose : Acts net c e k w (w.closed rs) := .single (.close hclear)
  rw [close_eq net conn connState pcb reason hclear hpcb, connection_again net hr]
  split_ifs
  · exact hclose
  · exact hclose.trans (again_acts net reason)
  · exact hclose

theorem Inv.pcb_closed (h : Inv c k w) (hconn : w.client.conn = false) : w.pcb = .closed := by
  have hstate : w.client.connState = .tcpDisconnected := by
    by_contra hn
    rw [h.conn.mpr hn] at hconn
    cases hconn
  rw [h.pcb, hstate]
  rfl

/-- `mqtt_close`. -/
theorem close_post [May e .close] [May e .renew] (h : Inv c k w)
    {reason : MqttConnectionStatus} (hr : reason ≠ mqttConnectAccepted) :
    Post (fun w' => Acts net c e k w w') E (mqttClose net reason w) :=
  close_parts_post net h w.client.conn w.client.connState w.pcb hr h.pcb_closed

/-- `mqtt_disconnect`. -/
theorem disconnect_post [May e .close] (h : Inv c k w) :
    Post (fun w' => Acts net c e k w w') E (mqttDisconnect net w) := by
  unfold mqttDisconnect
  split_ifs with hs
  · exact ReflTransGen.refl
  · obtain ⟨l, hl, -⟩ := h.linked
    obtain ⟨rs, hclear, -⟩ := clear_linked hl
    have hpcb : w.client.conn = false → w.pcb = .closed := by
      intro hconn
      rw [h.conn.mpr hs] at hconn
      cases hconn
    -- the state is set already, so nobody is told
    have heq : mqttClose net (.code 0) { w with client.connState := .tcpDisconnected } = _ :=
      close_eq net w.client.conn .tcpDisconnected w.pcb (.code 0) hclear hpcb
    rw [heq, if_pos rfl]
    exact .single (.close hclear)

/-- `mqtt_tcp_err_cb`. -/
theorem err_post [May e .close] [May e .renew] (h : Inv c k w) :
    Post (fun w' => Acts net c e k w w') E (mqttTcpErrCb net { w with pcb := .closed }) :=
  close_parts_post net h false w.client.connState .closed (by decide) fun _ => rfl

theorem ping_acts (h : Inv c k w) : Acts net c e k w (pingTurn w) := by
  unfold pingTurn
  split_ifs with hdue hspace
  · refine ReflTransGen.tail (b := w.withOutput
      (mqttOutputAppendFixedHeader mqttMsgTypePingreq 0 0 0 0)) (.single ?_) ?_
    · apply Act.queue
      intro hcc
      exact ⟨.pingreq, ring_room (h.room hcc) hspace rfl ⟨⟨by decide, trivial⟩, by simp⟩
        writes_pingreq⟩
    · exact .quiet (.of_log rfl rfl rfl rfl rfl rfl rfl rfl)
  · exact .refl
  · exact .single (.quiet (.of_log rfl rfl rfl rfl rfl rfl rfl rfl))

/-- A client that connects again is not connected yet. -/
theorem connect_not_live (hs : w.client.connState = .tcpDisconnected) (cb : Bool) (arg : ℕ)
    (info : ConnectInfo) : (connectCall net cb arg info w).client.connState.live = false := by
  unfold connectCall
  rcases connect_cases net cb arg info hs with
    ⟨n, hw, -⟩ | ⟨r, -, -, hw⟩
  · simp only [hw]
    rfl
  · rw [hw]
    rfl

/-- A connection that was closed is not up, whatever the application does about it. -/
theorem close_not_live [May e .close] [May e .renew] (h : Inv c k w) {reason : MqttConnectionStatus}
    (hr : reason ≠ mqttConnectAccepted) :
    Post (fun w' => Acts net c e k w w' ∧ w'.client.connState.live = false) E
      (mqttClose net reason w) := by
  have hacts := close_post net (e := e) (E := E) h hr
  obtain ⟨l, hl, -⟩ := h.linked
  obtain ⟨rs, hclear, -⟩ := clear_linked hl
  have heq : mqttClose net reason w = _ := close_eq net w.client.conn w.client.connState w.pcb
    reason hclear h.pcb_closed
  rw [heq] at hacts ⊢
  rw [connection_again net hr] at hacts ⊢
  split_ifs at hacts ⊢
  · exact ⟨hacts, rfl⟩
  · exact ⟨hacts, connect_not_live net rfl true 0 exampleInfo⟩
  · exact ⟨hacts, rfl⟩

/-- The timer goes on as long as the connection does. -/
def TurnDone (net : Net) (c : Prop) (e : Event) (k : ℕ) (w : World) (r : World × Bool) : Prop :=
  Acts net c e k w r.1 ∧ r.1.client.connState.live = r.2

theorem timeout_not_accepted : MqttConnectionStatus.mqttConnectTimeout ≠ mqttConnectAccepted := by
  decide

/-- The timer in the state `MQTT_CONNECTING`. -/
theorem connecting_turn_post [May e .close] [May e .renew] (h : Inv c k w)
    (hs : w.client.connState = .mqttConnecting) :
    Post (TurnDone net c e k w) E (connectingTurn net w) := by
  have hquiet : Quiet w { w with client.cyclicTick := w.client.cyclicTick + 1 } :=
    .of_log rfl rfl rfl rfl rfl rfl rfl rfl
  unfold connectingTurn
  dsimp only
  split_ifs
  · have hclose := close_not_live net (e := e) (E := E) (hquiet.inv h)
      timeout_not_accepted
    exact hclose.bind fun w' hw' => ⟨ReflTransGen.head (.quiet hquiet) hw'.1, hw'.2⟩
  · refine ⟨Acts.quiet hquiet, ?_⟩
    simp only [hs]
    rfl

theorem ping_conn_state (w : World) : (pingTurn w).client.connState = w.client.connState := by
  unfold pingTurn
  split_ifs <;> rfl

theorem keep_alive_post [May e .close] [May e .renew] (h : Inv c k w)
    (hs : w.client.connState = .mqttConnected) :
    Post (TurnDone net c e k w) E (keepAliveTurn net w) := by
  have hquiet : Quiet w { w with client.serverWatchdog := w.client.serverWatchdog + 1 } :=
    .of_log rfl rfl rfl rfl rfl rfl rfl rfl
  have hinv : Inv c k { w with client.serverWatchdog := w.client.serverWatchdog + 1 } :=
    hquiet.inv h
  unfold keepAliveTurn
  dsimp only
  split_ifs
  · apply (close_not_live net (e := e) hinv timeout_not_accepted).bind
    rintro w' ⟨hw', hlive⟩
    refine ⟨(ReflTransGen.head (.quiet hquiet) hw').trans (ping_acts net (hw'.inv hinv)), ?_⟩
    rw [ping_conn_state]
    exact hlive
  · refine ⟨ReflTransGen.head (.quiet hquiet) (ping_acts net hinv), ?_⟩
    rw [ping_conn_state]
    simp only [hs]
    rfl

/-- The timer in the state `MQTT_CONNECTED`, after its first step. -/
theorem connected_turn_post [May e .close] [May e .renew] (h : Inv c k w)
    (hs : w.client.connState = .mqttConnected) :
    ∃ w₀, Ticked w w₀ ∧ Post (TurnDone net c e k w₀) E (connectedTurn net w) := by
  obtain ⟨l, hl, -⟩ := h.linked
  obtain ⟨rs, xs, ys, hrun, -⟩ := elapse_linked (t := UInt8.ofNat mqttCyclicTimerInterval) hl
    hl.length_le
  have hticked : Ticked w (w.answered rs _) := .inr ⟨hs, rs, _, hrun, rfl⟩
  refine ⟨_, hticked, ?_⟩
  unfold connectedTurn
  rw [mqttRequestTimeElapsed, hrun]
  change Post _ _ (if w.client.keepAlive > 0 then keepAliveTurn net _ else Except.ok (_, true))
  split_ifs
  · exact keep_alive_post net (hticked.inv h) hs
  · refine ⟨.refl, ?_⟩
    simp only [hticked.connState, hs]
    rfl

/-- The timer of a connection that is up, after its first step. -/
theorem timer_turn_post [May e .close] [May e .renew] (h : Inv c k w)
    (hlive : w.client.connState.live = true) :
    ∃ w₀, Ticked w w₀ ∧ Post (TurnDone net c e k w₀) E (timerTurn net w) := by
  unfold timerTurn
  cases hs : w.client.connState with
  | tcpDisconnected => simp [hs, ConnState.live] at hlive
  | tcpConnecting => simp [hs, ConnState.live] at hlive
  | mqttConnecting =>
    refine ⟨w, .inl ⟨?_, rfl⟩, connecting_turn_post net h hs⟩
    rw [hs]
    decide
  | mqttConnected => exact connected_turn_post net h hs

/-- `mqtt_cyclic_timer`. -/
theorem cyclic_timer_post [May e .close] [May e .renew] (h : Inv c 1 w)
    (hlive : w.client.connState.live = true) :
    Post (fun w' => ∃ w₀ w₁, Ticked w w₀ ∧ Acts net c e 1 w₀ w₁ ∧
      w' = { w₁ with timers := if w₁.client.connState.live then 1 else 0 }) E
      (mqttCyclicTimer net w) := by
  obtain ⟨w₀, hticked, hturn⟩ := timer_turn_post net (e := e) (E := E) h hlive
  unfold mqttCyclicTimer
  apply hturn.bind
  rintro r ⟨hacts, hr⟩
  refine ⟨w₀, r.1, hticked, hacts, ?_⟩
  have ht := (hacts.inv (hticked.inv h)).timers
  cases hb : r.2 with
  | true =>
    rw [hr, hb] at ht ⊢
    simp at ht ⊢
    rw [ht]
  | false =>
    rw [hr, hb] at ht ⊢
    simp at ht ⊢
    rw [← ht]

end

end Mqtt
