import MqttSnClient.Mqtt.Effects

namespace Mqtt
open Memory Requests MqttRingbuf Outcome Relation

/-- What the server can bring about: data for which no callback is set, a topic whose length
wraps, and a length of more than five bytes. -/
def ServerFault (f : Fault) : Prop := f = .nullCall ∨ f = .outOfBounds ∨ f = .shift

section

variable (net : Net) {c : Prop} {e : Event} {k : ℕ} {w : World} {E : Fault → Prop}

/-- The state of the connection and what the parser has stored are as they were. -/
structure Steady (w w' : World) : Prop where
  connState : w'.client.connState = w.client.connState
  msgIdx : w'.client.msgIdx = w.client.msgIdx
  rxBuffer : w'.client.rxBuffer = w.client.rxBuffer

theorem steady_refl (w : World) : Steady w w := ⟨rfl, rfl, rfl⟩

theorem output_send_steady : Post (Steady w) (fun _ => True) (w.outputSend net) := by
  unfold World.outputSend
  split_ifs
  · trivial
  · exact ⟨rfl, rfl, rfl⟩

theorem send_request_steady {pktId : UInt16} {cb : Option RequestCb} {arg : ℕ} {r : UInt16}
    {append : Except Fault (MqttRingbuf → MqttRingbuf)} :
    Post (fun a => Steady w a.1) (fun _ => True) (sendRequest net pktId cb arg r append w) := by
  unfold sendRequest
  split
  · exact steady_refl w
  · split_ifs
    · exact ⟨rfl, rfl, rfl⟩
    · apply Post.bind (P := fun _ => True)
      · cases append <;> trivial
      intro f _
      apply Post.bind (P := fun _ => True)
      · cases mqttAppendRequest _ _ <;> trivial
      intro rs _
      apply (output_send_steady net).bind
      intro w' hw'
      exact ⟨hw'.connState, hw'.msgIdx, hw'.rxBuffer⟩

theorem accepted_steady {status : MqttConnectionStatus} (hs : status = mqttConnectAccepted) :
    Post (Steady w) (fun _ => True) (mqttConnectionCb net status w) := by
  unfold mqttConnectionCb
  dsimp only
  rw [if_pos hs]
  unfold subUnsubCall mqttSubUnsub
  split_ifs
  · exact ⟨rfl, rfl, rfl⟩
  · exact ⟨rfl, rfl, rfl⟩
  · exact ⟨rfl, rfl, rfl⟩
  · apply (send_request_steady net).bind
    intro a ha
    exact ⟨ha.connState, ha.msgIdx, ha.rxBuffer⟩

/-- A chain of elementary changes that leaves the connection up. -/
def UpDone (net : Net) (c : Prop) (e : Event) (k : ℕ) (w w' : World) : Prop :=
  Acts net c e k w w' ∧ w'.client.connState.live = true

variable {net}

theorem UpDone.trans {w₁ w₂ : World} (h : Acts net c e k w w₁) (h' : UpDone net c e k w₁ w₂) :
    UpDone net c e k w w₂ := ⟨ReflTransGen.trans h h'.1, h'.2⟩

theorem up_quiet {w' : World} (hlive : w.client.connState.live = true) (h : Quiet w w') :
    UpDone net c e k w w' := ⟨Acts.quiet h, by rw [h.connState, hlive]⟩

theorem up_reset (hlive : w.client.connState.live = true) :
    UpDone net c e k w { w with client.msgIdx := 0 } :=
  up_quiet hlive (.of_log rfl rfl rfl rfl rfl rfl rfl rfl)

variable (net)

theorem live_connected (hlive : w.client.connState.live = true) :
    w.client.connState ≠ .tcpDisconnected := by
  intro hs
  rw [hs] at hlive
  cases hlive

theorem connack_post [May e .accept] (h : Inv c k w) (hlive : w.client.connState.live = true)
    (hdr : ℕ) :
    Post (fun a => UpDone net c e k w a.1) E (connackReceived net hdr w) := by
  unfold connackReceived
  dsimp only
  split_ifs with hs hacc hcb
  · have hact : Act net c e k w
        { w with client.cyclicTick := 0, client.connState := .mqttConnected } := .accepted hs
    have hconn := (connection_post net (e := e) (E := E) (hact.inv h) hacc).and
      (accepted_steady net hacc)
    apply hconn.bind
    rintro w' ⟨hacts, hstate⟩
    refine ⟨ReflTransGen.head hact hacts, ?_⟩
    simp only [hstate.connState]
    rfl
  · exact ⟨.single (.accepted hs), rfl⟩
  · exact ⟨.refl, hlive⟩
  · exact ⟨.refl, hlive⟩

theorem response_steady {msg qos : UInt8} {pktId : UInt16} :
    Post (fun a => Steady w a.1) (fun _ => True) (pubAckRecRelResponse net msg pktId qos w) := by
  unfold pubAckRecRelResponse
  split_ifs
  · apply (output_send_steady net).bind
    intro w' hw'
    exact ⟨hw'.connState, hw'.msgIdx, hw'.rxBuffer⟩
  · exact steady_refl w

/-- An answer by id, on a connection that is up. -/
theorem response_up (h : Inv c k w) (hlive : w.client.connState.live = true) {msg qos : UInt8}
    {pktId : UInt16} {q : Packet} (hq : q.Later)
    (hcontrol : controlByte msg 0 qos 0 = q.control) (hbody : q.body = be16 pktId) :
    Post (fun a => UpDone net c e k w a.1) E (pubAckRecRelResponse net msg pktId qos w) := by
  have hpost := (response_post net (e := e) (E := E) h (live_connected hlive) hq hcontrol hbody).and
    (response_steady net)
  exact hpost.mono (fun a ha => ⟨ha.1, by rw [ha.2.connState, hlive]⟩) fun _ he => he

theorem tell_topic_quiet (hdr topicLen : ℕ) (totLen : UInt32) :
    Quiet w (tellTopic hdr topicLen totLen w) := by
  unfold tellTopic
  split_ifs
  · exact Quiet.tell rfl
  · exact .of_log rfl rfl rfl rfl rfl rfl rfl rfl

/-- The topic of a PUBLISH is told, and nothing else happens. -/
theorem publish_topic_post (hlive : w.client.connState.live = true) (hdr length : ℕ)
    (remaining : UInt32) (qos : UInt8) :
    Post (fun a => ∀ b, a = some b → UpDone net c e k w b.1) ServerFault
      (publishTopic hdr length remaining qos w) := by
  unfold publishTopic
  dsimp only
  split_ifs
  · rintro b ⟨⟩
  · exact .inr (.inl rfl)
  · rintro b ⟨⟩
    refine UpDone.trans (Acts.quiet ?_) (up_quiet ?_ (tell_topic_quiet _ _ _))
    · exact .of_log rfl rfl rfl rfl rfl rfl rfl rfl
    · exact hlive

/-- The answer to a PUBLISH is a well formed message of its own. -/
theorem publish_response (qos : UInt8) (pktId : UInt16) : ∃ q : Packet, q.Later ∧
    controlByte (if qos = 1 then mqttMsgTypePuback else mqttMsgTypePubrec) 0 0 0 = q.control ∧
      q.body = be16 pktId := by
  by_cases h : qos = 1
  · rw [if_pos h]
    exact ⟨.puback pktId, ⟨⟨by simp [Packet.body, maxRemainingLength], trivial⟩, by simp⟩, rfl, rfl⟩
  · rw [if_neg h]
    exact ⟨.pubrec pktId, ⟨⟨by simp [Packet.body, maxRemainingLength], trivial⟩, by simp⟩, rfl, rfl⟩

theorem publish_answer_post (h : Inv c k w) (hlive : w.client.connState.live = true)
    (remaining : UInt32) (qos : UInt8) :
    Post (fun w' => UpDone net c e k w w') E (publishAnswer net remaining qos w) := by
  unfold publishAnswer
  by_cases hlast : remaining = 0 ∧ qos > 0
  · rw [if_pos hlast]
    obtain ⟨q, hq, hcontrol, hbody⟩ := publish_response qos w.client.inpubPktId
    have hup := response_up net (e := e) (E := E) h hlive hq hcontrol hbody
    apply hup.bind
    intro a ha
    exact ha
  · rw [if_neg hlast]
    exact ⟨.refl, hlive⟩

theorem publish_data_post (h : Inv c k w) (hlive : w.client.connState.live = true)
    (hdr offset length : ℕ) (remaining : UInt32) (qos : UInt8) :
    Post (fun w' => UpDone net c e k w w') ServerFault
      (publishData net hdr offset length remaining qos w) := by
  have htell (data : List UInt8) (flags : UInt8) :
      UpDone net c e k w (w.tell (.data w.client.inpubArg data flags)) :=
    up_quiet hlive (Quiet.tell rfl)
  unfold publishData
  dsimp only
  split_ifs
  · exact .inl rfl
  all_goals first
    | exact ⟨.refl, hlive⟩
    | exact (publish_answer_post net (e := e) ((htell _ _).1.inv h) (htell _ _).2 remaining
        qos).mono (fun w' hw' => UpDone.trans (htell _ _).1 hw') fun _ he => he

theorem publish_received_post (h : Inv c k w) (hlive : w.client.connState.live = true)
    (hdr length : ℕ) (remaining : UInt32) :
    Post (fun a => UpDone net c e k w a.1) ServerFault
      (publishReceived net hdr length remaining w) := by
  unfold publishReceived
  dsimp only
  split_ifs
  · apply (publish_topic_post net (e := e) (c := c) (k := k) hlive hdr length remaining _).bind
    intro start hstart
    cases start with
    | none => exact ⟨.refl, hlive⟩
    | some b =>
      have hb := hstart b rfl
      apply (publish_data_post net (e := e) (hb.1.inv h) hb.2 hdr _ _ remaining _).bind
      intro w' hw'
      exact hw'.trans hb.1
  · exact (publish_data_post net (e := e) h hlive hdr 0 length remaining _).bind fun w' hw' => hw'

/-- What a request is answered is never a timeout. -/
theorem reply_answer (pktType : UInt8) (r : MqttRequest) (result : UInt8) :
    ∃ err, err ≠ .timeout ∧ (if pktType = mqttMsgTypeSuback then mqttIncommingSuback r result
      else r.answer .ok) = r.answer err := by
  by_cases h : pktType = mqttMsgTypeSuback
  · rw [if_pos h]
    by_cases hres : result < 3
    · exact ⟨.ok, by decide, by rw [mqttIncommingSuback, if_pos hres]⟩
    · exact ⟨.abrt, by decide, by rw [mqttIncommingSuback, if_neg hres]⟩
  · rw [if_neg h]
    exact ⟨.ok, by decide, rfl⟩

/-- A reply to a request; a SUBACK that is too short loses the request object. -/
theorem reply_post [May e .answer] [May e .lose] (h : Inv c k w)
    (hlive : w.client.connState.live = true) (pktType : UInt8)
    (pktId : UInt16) (hdr length : ℕ) :
    Post (fun a => UpDone net c e k w a.1) E (replyReceived pktType pktId hdr length w) := by
  obtain ⟨l, hl, -⟩ := h.linked
  unfold replyReceived
  by_cases hall : ∀ i ∈ l, (w.client.requests.reqList i).pktId ≠ pktId
  · rw [take_none hl hall]
    exact ⟨.refl, hlive⟩
  · push Not at hall
    obtain ⟨xs, r, ys, rfl, hbefore, hid⟩ := first_with_id hall
    obtain ⟨rs, htake, -⟩ := take_some hl hbefore hid
    rw [htake]
    change Post _ _ (if pktType = mqttMsgTypeSuback ∧ length < 3 then _ else _)
    by_cases hshort : pktType = mqttMsgTypeSuback ∧ length < 3
    · rw [if_pos hshort]
      exact ⟨.single (.lose pktId htake), hlive⟩
    · rw [if_neg hshort]
      obtain ⟨err, herr, hanswer⟩ := reply_answer pktType (rs.reqList r)
        (w.client.rxBuffer (hdr + 2))
      have hact : Act net c e k w (w.answered _ _) := .answer pktId err herr htake
      rw [← hanswer] at hact
      exact ⟨.single hact, hlive⟩

section

variable [May e .accept] [May e .answer] [May e .lose]

/-- What `mqtt_message_received` leaves: a connection that is still up. -/
theorem message_received_post (h : Inv c k w) (hlive : w.client.connState.live = true)
    (hdr length : ℕ) (remaining : UInt32) :
    Post (fun a => UpDone net c e k w a.1) ServerFault
      (mqttMessageReceived net hdr length remaining w) := by
  have hrefl : UpDone net c e k w w := ⟨.refl, hlive⟩
  unfold mqttMessageReceived
  dsimp only
  by_cases hconnack : mqttCtlPacketType (w.client.rxBuffer 0) = mqttMsgTypeConnack
  · rw [if_pos hconnack]
    exact connack_post net h hlive hdr
  rw [if_neg hconnack]
  by_cases hping : mqttCtlPacketType (w.client.rxBuffer 0) = mqttMsgTypePingresp
  · rw [if_pos hping]
    exact hrefl
  rw [if_neg hping]
  by_cases hpublish : mqttCtlPacketType (w.client.rxBuffer 0) = mqttMsgTypePublish
  · rw [if_pos hpublish]
    exact publish_received_post net (e := e) h hlive hdr length remaining
  rw [if_neg hpublish]
  by_cases hzero : rxU16 w.client hdr = 0
  · rw [if_pos hzero]
    exact hrefl
  rw [if_neg hzero]
  by_cases hrec : mqttCtlPacketType (w.client.rxBuffer 0) = mqttMsgTypePubrec
  · rw [if_pos hrec]
    have hlater : (Packet.pubrel (rxU16 w.client hdr)).Later :=
      ⟨⟨by simp [Packet.body, maxRemainingLength], hzero⟩, by simp⟩
    have hcontrol : controlByte mqttMsgTypePubrel 0 1 0 =
        (Packet.pubrel (rxU16 w.client hdr)).control := rfl
    have hup := response_up net (e := e) (E := ServerFault) h hlive hlater hcontrol rfl
    exact hup.bind fun a ha => ha
  rw [if_neg hrec]
  by_cases hrel : mqttCtlPacketType (w.client.rxBuffer 0) = mqttMsgTypePubrel
  · rw [if_pos hrel]
    have hlater : (Packet.pubcomp (rxU16 w.client hdr)).Later :=
      ⟨⟨by simp [Packet.body, maxRemainingLength], hzero⟩, by simp⟩
    have hcontrol : controlByte mqttMsgTypePubcomp 0 0 0 =
        (Packet.pubcomp (rxU16 w.client hdr)).control := rfl
    have hup := response_up net (e := e) (E := ServerFault) h hlive hlater hcontrol rfl
    exact hup.bind fun a ha => ha
  rw [if_neg hrel]
  split_ifs
  · exact reply_post net h hlive _ _ _ _
  · exact hrefl

/-- The loop of the parser never looks behind the bytes that it has stored. -/
def Paced (w : World) (l : Locals) : Prop :=
  l.fixedHdrIdx ≤ 6 ∧ (l.header → l.fixedHdrIdx ≤ w.client.msgIdx.toNat)

/-- The turns that may pass before the loop takes the next byte. -/
def owed (w : World) (l : Locals) : ℕ :=
  if l.header then (if l.fixedHdrIdx < w.client.msgIdx.toNat then 7 - l.fixedHdrIdx else 0)
  else if l.msgRemLen = 0 then 1 else 0

theorem owed_start (w : World) : Paced w ⟨0, 0, 0⟩ ∧ owed w ⟨0, 0, 0⟩ ≤ 7 := by
  refine ⟨⟨by simp, by simp⟩, ?_⟩
  unfold owed
  split_ifs <;> omega

/-- A message ends: the parser starts again. -/
theorem paced_reset (w : World) (r : UInt32) (b : UInt8) :
    Paced { w with client.msgIdx := 0 } ⟨0, r, b⟩ ∧
      owed { w with client.msgIdx := 0 } ⟨0, r, b⟩ = 0 := by
  refine ⟨⟨by simp, by simp⟩, ?_⟩
  simp [owed, Locals.header]

theorem owed_header {l : Locals} (hl : l.header) :
    owed w l = if l.fixedHdrIdx < w.client.msgIdx.toNat then 7 - l.fixedHdrIdx else 0 := if_pos hl

theorem owed_body {l : Locals} (hl : ¬ l.header) : owed w l = if l.msgRemLen = 0 then 1 else 0 :=
  if_neg hl

/-- Any message: no claim about it. -/
theorem any_post {α : Type*} (x : Except Fault α) : Post (fun _ => True) (fun _ => True) x := by
  cases x <;> trivial

theorem header_byte_done (h : Inv c k w) (hlive : w.client.connState.live = true) (l : Locals)
    (b : UInt8) (input : List UInt8) :
    Post (fun r => UpDone net c e k w r.1) ServerFault (headerByte net w l b input) := by
  have hrefl : UpDone net c e k w w := ⟨.refl, hlive⟩
  unfold headerByte
  dsimp only
  generalize addLength l.msgRemLen b (l.fixedHdrIdx + 1) = r
  split_ifs
  · exact hrefl
  · exact .inr (.inr rfl)
  · exact hrefl
  · apply (message_received_post net (e := e) h hlive _ 0 0).bind
    rintro a ⟨hacts, hup⟩
    exact UpDone.trans hacts (up_reset hup)
  · exact hrefl

theorem header_byte_paced {l : Locals} (b : UInt8) (input : List UInt8)
    (hidx : l.fixedHdrIdx + 1 ≤ w.client.msgIdx.toNat) (hsix : l.fixedHdrIdx ≤ 6) :
    Post (fun r => Paced r.1 r.2.1 ∧ r.2.2 = input ∧ owed r.1 r.2.1 ≤ 6 - l.fixedHdrIdx ∧
      (w.client.msgIdx.toNat = l.fixedHdrIdx + 1 → owed r.1 r.2.1 = 0)) (fun _ => True)
      (headerByte net w l b input) := by
  unfold headerByte
  dsimp only
  by_cases hfirst : l.fixedHdrIdx + 1 < 2
  · rw [if_pos hfirst]
    have hheader : (Locals.mk (l.fixedHdrIdx + 1) l.msgRemLen b).header := .inl hfirst
    refine ⟨⟨by simp only; omega, fun _ => hidx⟩, rfl, ?_, fun hnew => ?_⟩
    all_goals simp only [owed_header hheader]
    all_goals split_ifs <;> omega
  rw [if_neg hfirst]
  by_cases hshift : (l.fixedHdrIdx + 1 - 2) * 7 ≥ 32
  · rw [if_pos hshift]
    trivial
  rw [if_neg hshift]
  generalize addLength l.msgRemLen b (l.fixedHdrIdx + 1) = r
  by_cases hmore : b &&& 0x80 ≠ 0
  · rw [if_pos hmore]
    have hheader : (Locals.mk (l.fixedHdrIdx + 1) r b).header := .inr hmore
    refine ⟨⟨by simp only; omega, fun _ => hidx⟩, rfl, ?_, fun hnew => ?_⟩
    all_goals simp only [owed_header hheader]
    all_goals split_ifs <;> omega
  rw [if_neg hmore]
  by_cases hempty : r = 0
  · rw [if_pos hempty]
    apply (any_post _).bind
    intro a _
    obtain ⟨hpaced, howed⟩ := paced_reset a.1 r b
    exact ⟨hpaced, rfl, by simp only [howed]; omega, fun _ => howed⟩
  · rw [if_neg hempty]
    have hbody : ¬ (Locals.mk (l.fixedHdrIdx + 1)
        (r + UInt32.ofNat (l.fixedHdrIdx + 1) - w.client.msgIdx) b).header := by
      rintro (hlt | hb)
      · exact hfirst hlt
      · exact hmore hb
    refine ⟨⟨by simp only; omega, fun hh => absurd hh hbody⟩, rfl, ?_, fun hnew => ?_⟩
    all_goals simp only [owed_body hbody]
    · split_ifs <;> omega
    · apply if_neg
      -- nothing of the body is in the buffer yet
      have hsame : UInt32.ofNat (l.fixedHdrIdx + 1) = w.client.msgIdx := by
        rw [← hnew, UInt32.ofNat_toNat]
      rw [hsame, UInt32.add_sub_cancel]
      exact hempty

theorem header_turn_done (h : Inv c k w) (hlive : w.client.connState.live = true) (l : Locals)
    (input : List UInt8) :
    Post (fun r => UpDone net c e k w r.1) ServerFault (headerTurn net w l input) := by
  unfold headerTurn
  split_ifs
  · exact header_byte_done net (e := e) h hlive l _ input
  · have hstore : Quiet w (w.storeRx (input.headD 0)) := .of_log rfl rfl rfl rfl rfl rfl rfl rfl
    have hup : UpDone net c e k w (w.storeRx (input.headD 0)) := up_quiet hlive hstore
    exact (header_byte_done net (e := e) (hstore.inv h) hup.2 l _ input.tail).mono
      (fun r hr => UpDone.trans hup.1 hr) fun _ he => he

theorem store_next {l : Locals} (b : UInt8) (hsame : w.client.msgIdx.toNat = l.fixedHdrIdx)
    (hsix : l.fixedHdrIdx ≤ 6) : (w.storeRx b).client.msgIdx.toNat = l.fixedHdrIdx + 1 := by
  simp only [World.storeRx, UInt32.toNat_add, UInt32.reduceToNat, hsame]
  omega

theorem header_turn_paced {l : Locals} (b : UInt8) (input : List UInt8) (hpaced : Paced w l)
    (hl : l.header) :
    Post (fun r => Paced r.1 r.2.1 ∧
      r.2.2.length + owed r.1 r.2.1 < (b :: input).length + owed w l) (fun _ => True)
      (headerTurn net w l (b :: input)) := by
  obtain ⟨hsix, hidx⟩ := hpaced
  have hidx := hidx hl
  unfold headerTurn
  by_cases hold : l.fixedHdrIdx < w.client.msgIdx.toNat
  · rw [if_pos hold]
    have howed : owed w l = 7 - l.fixedHdrIdx := by rw [owed, if_pos hl, if_pos hold]
    refine (header_byte_paced net _ (b :: input) hold hsix).mono ?_ fun _ he => he
    rintro r ⟨hp, hin, hle, -⟩
    refine ⟨hp, ?_⟩
    rw [hin, howed]
    omega
  · rw [if_neg hold]
    have hnext := store_next (w := w) (l := l) b (by omega) hsix
    refine (header_byte_paced net b input hnext.ge hsix).mono ?_ fun _ he => he
    rintro r ⟨hp, hin, -, hzero⟩
    refine ⟨hp, ?_⟩
    rw [hin, hzero hnext, List.length_cons]
    omega

/-- The body is copied behind the header and inside the buffer. -/
theorem cpy_start_bounds {fixedHdrIdx : ℕ} (h : fixedHdrIdx ≤ 6) (msgIdx : UInt32) :
    fixedHdrIdx ≤ cpyStart fixedHdrIdx msgIdx ∧
      cpyStart fixedHdrIdx msgIdx < mqttVarHeaderBufferLen := by
  have hmod := Nat.mod_lt (msgIdx - UInt32.ofNat fixedHdrIdx).toNat
    (show mqttVarHeaderBufferLen - fixedHdrIdx > 0 by simp only [mqttVarHeaderBufferLen]; omega)
  unfold cpyStart
  omega

theorem body_end_done (h : Inv c k w) (hlive : w.client.connState.live = true) (l : Locals)
    (full : Bool) (length : ℕ) (r : UInt32) (input : List UInt8) :
    Post (fun a => UpDone net c e k w a.1) ServerFault (bodyEnd net w l full length r input) := by
  unfold bodyEnd
  by_cases hcall : r = 0 ∨ full = true
  · rw [if_pos hcall]
    apply (message_received_post net (e := e) h hlive l.fixedHdrIdx length r).bind
    intro a ha
    split_ifs
    · exact ha
    · exact UpDone.trans ha.1 (up_reset ha.2)
    · exact ha
  · rw [if_neg hcall]
    exact ⟨.refl, hlive⟩

theorem body_turn_done (h : Inv c k w) (hlive : w.client.connState.live = true) (l : Locals)
    (input : List UInt8) :
    Post (fun r => UpDone net c e k w r.1) ServerFault (bodyTurn net w l input) := by
  have hquiet (start : ℕ) (data : List UInt8) : Quiet w (w.copyRx start data) :=
    .of_log rfl rfl rfl rfl rfl rfl rfl rfl
  exact (body_end_done net (e := e) ((hquiet _ _).inv h) hlive l _ _ _ _).mono
    (fun r hr => UpDone.trans (Acts.quiet (hquiet _ _)) hr) fun _ he => he

/-- The end of a turn leaves the loop in the body, or at the start of the next message. -/
theorem body_end_paced {l : Locals} (full : Bool) (length : ℕ) (r : UInt32) (input : List UInt8)
    (hsix : l.fixedHdrIdx ≤ 6) (hl : ¬ l.header) :
    Post (fun a => a.2.2.2 = mqttConnectAccepted → Paced a.1 a.2.1 ∧ a.2.2.1 = input ∧
      owed a.1 a.2.1 = 0) (fun _ => True) (bodyEnd net w l full length r input) := by
  have howed {w' : World} (hr : r ≠ 0) : owed w' ⟨l.fixedHdrIdx, r, l.b⟩ = 0 := by
    have hbody : ¬ (Locals.mk l.fixedHdrIdx r l.b).header := hl
    rw [owed_body hbody]
    exact if_neg hr
  have hstay (w' : World) (hr : r ≠ 0) : Paced w' ⟨l.fixedHdrIdx, r, l.b⟩ ∧ input = input ∧
      owed w' ⟨l.fixedHdrIdx, r, l.b⟩ = 0 := ⟨⟨hsix, fun hh => absurd hh hl⟩, rfl, howed hr⟩
  unfold bodyEnd
  by_cases hcall : r = 0 ∨ full = true
  · rw [if_pos hcall]
    apply (any_post _).bind
    intro a _
    by_cases hstop : a.2 ≠ mqttConnectAccepted
    · rw [if_pos hstop]
      exact fun ha => absurd ha hstop
    rw [if_neg hstop]
    by_cases hend : r = 0
    · rw [if_pos hend]
      obtain ⟨hp, hzero⟩ := paced_reset a.1 r l.b
      exact fun _ => ⟨hp, rfl, hzero⟩
    · rw [if_neg hend]
      exact fun _ => hstay a.1 hend
  · rw [if_neg hcall]
    exact fun _ => hstay w fun hend => hcall (.inl hend)

theorem body_turn_paced {l : Locals} (b : UInt8) (input : List UInt8) (hpaced : Paced w l)
    (hl : ¬ l.header) :
    Post (fun r => r.2.2.2 = mqttConnectAccepted → Paced r.1 r.2.1 ∧
      r.2.2.1.length + owed r.1 r.2.1 < (b :: input).length + owed w l) (fun _ => True)
      (bodyTurn net w l (b :: input)) := by
  have hspace := (cpy_start_bounds hpaced.1 w.client.msgIdx).2
  refine (body_end_paced net _ _ _ _ hpaced.1 hl).mono ?_ fun _ he => he
  intro r hr ha
  obtain ⟨hp, hin, hzero⟩ := hr ha
  refine ⟨hp, ?_⟩
  -- a turn that takes no byte only ends the message
  rw [hin, hzero, owed_body hl, List.length_drop, List.length_cons]
  split_ifs with hrem
  · omega
  · have hpos : 0 < l.msgRemLen.toNat :=
      Nat.pos_of_ne_zero fun h0 => hrem (UInt32.toNat_inj.mp h0)
    omega

/-- The loop of the parser ends, whatever the server sends. -/
theorem parse_loop_post {n : ℕ} (h : Inv c k w) (hlive : w.client.connState.live = true)
    {l : Locals} {input : List UInt8} (hpaced : Paced w l) (hn : input.length + owed w l ≤ n) :
    Post (fun a => UpDone net c e k w a.1) ServerFault (parseLoop net n w l input) := by
  induction n generalizing w l input with
  | zero =>
    obtain rfl : input = [] := List.length_eq_zero_iff.mp (by omega)
    exact ⟨.refl, hlive⟩
  | succ n ih =>
    cases input with
    | nil => exact ⟨.refl, hlive⟩
    | cons b input =>
      unfold parseLoop
      by_cases hl : l.header
      · rw [if_pos hl]
        have hturn := (header_turn_done net (e := e) h hlive l (b :: input)).and
          (header_turn_paced net b input hpaced hl)
        apply hturn.bind
        rintro r ⟨hdone, hp, hless⟩
        refine (ih (hdone.1.inv h) hdone.2 hp (by omega)).mono ?_ fun _ he => he
        exact fun a ha => UpDone.trans hdone.1 ha
      · rw [if_neg hl]
        have hturn := (body_turn_done net (e := e) h hlive l (b :: input)).and
          (body_turn_paced net b input hpaced hl)
        apply hturn.bind
        rintro r ⟨hdone, hnext⟩
        by_cases hstop : r.2.2.2 ≠ mqttConnectAccepted
        · rw [if_pos hstop]
          exact hdone
        · rw [if_neg hstop]
          obtain ⟨hp, hless⟩ := hnext (not_not.mp hstop)
          refine (ih (hdone.1.inv h) hdone.2 hp (by omega)).mono ?_ fun _ he => he
          exact fun a ha => UpDone.trans hdone.1 ha

/-- `mqtt_parse_incoming`. -/
theorem parse_post (h : Inv c k w) (hlive : w.client.connState.live = true) (p : List UInt8) :
    Post (fun a => UpDone net c e k w a.1) ServerFault (mqttParseIncoming net p w) := by
  obtain ⟨hpaced, howed⟩ := owed_start w
  exact parse_loop_post net (e := e) h hlive hpaced (by omega)

end

theorem established_live (h : Inv c k w) (hp : w.pcb = .established) :
    w.client.connState.live = true := by
  have hpcb := h.pcb
  rw [hp] at hpcb
  cases hs : w.client.connState with
  | tcpDisconnected => simp [hs, ConnState.pcb] at hpcb
  | tcpConnecting => simp [hs, ConnState.pcb] at hpcb
  | mqttConnecting => rfl
  | mqttConnected => rfl

theorem refused_post [May e .close] [May e .renew] (h : Inv c k w) (status : MqttConnectionStatus) :
    Post (fun w' => Acts net c e k w w') E (closeRefused net (w, status)) := by
  unfold closeRefused
  split_ifs with hr
  · exact close_post net h hr
  · exact ReflTransGen.refl

theorem fed_acts (w : World) : Acts net c e k w (feedWatchdog w) := by
  unfold feedWatchdog
  split_ifs
  · exact .single (.quiet (.of_log rfl rfl rfl rfl rfl rfl rfl rfl))
  · exact .refl

/-- `mqtt_tcp_recv_cb` with received bytes. -/
theorem recv_post [∀ d, May e d] (h : Inv c k w) (hp : w.pcb = .established) (p : List UInt8) :
    Post (fun w' => Acts net c e k w w') ServerFault (mqttTcpRecvCb net (some p) .ok w) := by
  have hlive := established_live h hp
  unfold mqttTcpRecvCb
  dsimp only
  rw [if_neg fun hne => hne rfl]
  apply (parse_post net (e := e) h hlive p).bind
  rintro a ⟨hacts, -⟩
  apply (refused_post net (e := e) (hacts.inv h) a.2).bind
  intro w' hw'
  exact (ReflTransGen.trans hacts hw').trans (fed_acts net w')

/-- `mqtt_tcp_recv_cb` when the server has closed the connection. -/
theorem gone_post [May e .close] [May e .renew] (h : Inv c k w) (err : Err) :
    Post (fun w' => Acts net c e k w w') E (mqttTcpRecvCb net none err w) :=
  close_post net h (by decide)

theorem answered_nil (w : World) : w.answered w.client.requests [] = w := by
  unfold World.answered World.withRequests
  rw [List.map_nil, List.append_nil]

theorem answered_trans (w : World) (rs rs' : Requests) (xs ys : List Answer) :
    (w.answered rs xs).answered rs' ys = w.answered rs' (xs ++ ys) := by
  unfold World.answered World.withRequests
  rw [List.map_append, List.append_assoc]

/-- The loop of `mqtt_tcp_sent_cb` answers the publishes without acknowledgement. -/
theorem qos0_post [May e .answer] {n : ℕ} {l : List Slot} (hl : w.client.requests.Linked l)
    (hn : l.length < n) :
    Post (fun a => Acts net c e k w (w.answered a.1 a.2)) E
      (qos0Loop n w.client.requests) := by
  induction n generalizing w l with
  | zero => omega
  | succ n ih =>
    unfold qos0Loop
    by_cases hall : ∀ i ∈ l, (w.client.requests.reqList i).pktId ≠ 0
    · rw [take_none hl hall]
      change Acts net c e k w (w.answered w.client.requests [])
      rw [answered_nil]
    · push Not at hall
      obtain ⟨xs, r, ys, rfl, hbefore, hid⟩ := first_with_id hall
      obtain ⟨rs, htake, -⟩ := take_some hl hbefore hid
      obtain ⟨xs', ys', hsplit, -, -, hl', -, -, -, hr⟩ := taken hl htake
      have hact : Act net c e k w (w.answered _ _) := .answer 0 .ok (by decide) htake
      have hlen := congrArg List.length hsplit
      simp only [List.length_append, List.length_cons] at hlen hn
      have hrest := ih (w := w.answered (rs.mqttDeleteRequest r) ((rs.reqList r).answer .ok))
        (delete_linked hl' hr).1 (by rw [List.length_append]; omega)
      rw [htake]
      apply hrest.bind
      intro a ha
      rw [answered_trans] at ha
      exact ReflTransGen.head hact ha

/-- `mqtt_tcp_sent_cb`. -/
theorem sent_post [May e .answer] (h : Inv c k w) :
    Post (fun w' => Acts net c e k w w') E (mqttTcpSentCb net w) := by
  unfold mqttTcpSentCb
  split_ifs with hs
  · have hquiet : Quiet w { w with client.cyclicTick := 0, client.serverWatchdog := 0 } :=
      .of_log rfl rfl rfl rfl rfl rfl rfl rfl
    obtain ⟨l, hl, -⟩ := h.linked
    have hloop := qos0_post net (c := c) (e := e) (k := k) (E := E) (n := mqttReqMaxInFlight + 1)
      (w := { w with client.cyclicTick := 0, client.serverWatchdog := 0 }) hl
      (Nat.lt_succ_of_le hl.length_le)
    apply hloop.bind
    intro a ha
    have hacts := ReflTransGen.head (.quiet hquiet) ha
    have hsend := output_send_post net (e := e) (E := E) (Acts.inv hacts h) (by
      simp only [World.answered, World.withRequests, hs]
      decide)
    exact hsend.mono (fun w' hw' => hacts.trans hw') fun _ he => he
  · exact ReflTransGen.refl

/-- `mqtt_tcp_poll_cb`. -/
theorem poll_post (h : Inv c k w) :
    Post (fun w' => Acts net c e k w w') E (mqttTcpPollCb net w) := by
  unfold mqttTcpPollCb
  split_ifs with hs
  · exact output_send_post net (e := e) h (by rw [hs]; decide)
  · exact ReflTransGen.refl

/-- `mqtt_tcp_connect_cb`. -/
theorem connect_post (h : Inv c 0 w) (hp : w.pcb = .connecting) (err : Err) :
    Post (fun w' => Acts net c e 0 w w') E (mqttTcpConnectCb net err w) := by
  unfold mqttTcpConnectCb
  split_ifs
  · exact ReflTransGen.refl
  · have hup : Act net c e 0 w _ := .up rfl hp
    have hsend := output_send_post net (e := e) (E := E) (hup.inv h) nofun
    exact hsend.mono (fun w' hw' => ReflTransGen.head hup hw') fun _ he => he

end

end Mqtt
