import MqttSnClient.Records
import MqttSnClient.Acknowledgement

namespace MqttSnClient
open Memory Bytes

/-- A request whose datagram may be sent again. -/
inductive Request
  | connect (clientId : CString) (keepalive : UInt16) (flags : UInt8)
  | publish (topicId : UInt16) (topicType : UInt8) (data : DataPtr) (dataLen : UInt16) (qos : Int8)
      (retain dup : UInt8)
  | subscribeName (topicName : CString) (qos : Int8) (dup : UInt8)
  | subscribeId (topicId : UInt16) (qos : Int8) (dup : UInt8)

namespace Request

def flags : Request → UInt8
  | .connect _ _ flags => flags
  | .publish _ topicType _ _ qos retain dup => publishFlags topicType qos retain dup
  | .subscribeName _ qos dup => mqttSnTopicTypeNormal ||| qosFlags qos ||| dupFlag dup
  | .subscribeId _ qos dup => mqttSnTopicTypePredefined ||| qosFlags qos ||| dupFlag dup

/-- The datagram of a request with the given flags and message id. -/
def datagram (env : Env) (flags : UInt8) (messageId : UInt16) : Request → List UInt8
  | .connect clientId keepalive _ => connectMsg clientId keepalive flags
  | .publish topicId _ data dataLen _ _ _ =>
    publishMsg flags topicId messageId (data.read env dataLen.toNat)
  | .subscribeName topicName _ _ =>
    subscribeMsg mqttSnTypeSubscribe flags messageId topicName.bytes
  | .subscribeId topicId _ _ => subscribeMsg mqttSnTypeSubscribe flags messageId (le16 topicId)

/-- The datagram is that of the request up to DUP and the message id. -/
def Repeated (env : Env) (r : Request) (data : List UInt8) : Prop :=
  ∃ flags messageId, data = r.datagram env flags messageId ∧
    flags ||| mqttSnFlagDup = r.flags ||| mqttSnFlagDup

/-- What the retry timer of a request calls. -/
def serves : Request → Callback × Arg
  | .connect _ _ _ => (.sendConnectCb, .client)
  | .publish _ _ _ _ _ _ _ => (.publishTimeoutCb, .publishinfor)
  | .subscribeName _ _ _ => (.subscribeTimeoutCb, .subscribeInfor)
  | .subscribeId _ _ _ => (.subscribeTimeoutIdCb, .subscribeInfor)

end Request

/-- The timers that a request arms. After a congestion the publish callback is armed with
another pointer. -/
def retries : List (Callback × Arg) :=
  [(.sendConnectCb, .client), (.publishTimeoutCb, .publishinfor),
    (.subscribeTimeoutCb, .subscribeInfor), (.subscribeTimeoutIdCb, .subscribeInfor)]

def retryCallbacks : List Callback :=
  [.sendConnectCb, .publishTimeoutCb, .subscribeTimeoutCb, .subscribeTimeoutIdCb]

/-- The history of the requests: for each slot the request that its timer was last armed
for, the last PUBLISH that was sent, and the requests that wrote the two records. -/
structure Stamps where
  slot : ℕ → Option Request
  lastPublish : Option Request
  publish : Option Request
  subscribe : Option Request

/-- After `MQTTClientInit` the first slot waits for the CONNACK. -/
def bootStamps : Stamps where
  slot := Function.update (fun _ => none) 0 (some (.connect lwipTest 60 mqttSnFlagClean))
  lastPublish := none
  publish := none
  subscribe := none

/-- A timer is added to the table `s` for the request `r`. -/
def stampFree (s : Timer Callback Arg) (r : Option Request) (slot : ℕ → Option Request) :
    ℕ → Option Request :=
  match s.freeSlot with
  | some num => Function.update slot num r
  | none => slot

def Stamps.arm (s : Timer Callback Arg) (r : Option Request) (g : Stamps) : Stamps :=
  { g with slot := stampFree s r g.slot }

/-- The PUBACK that waits for its handler reports a congestion and will be accepted. -/
def World.congested (env : Env) (w : World) : Bool :=
  w.headFrame.any fun fr =>
    let d := memcpy env.inputdata 0 fr
    d 1 = mqttSnTypePuback ∧ w.client.status = .connected ∧
      u16At d 4 = w.client.inpubPktId .publish ∧ d 6 = mqttSnRejectedCongestion

/-- The history after a callback. A callback that sends again arms its timer for the
request that the expired one was armed for. -/
def stampCallback (num : ℕ) (cb : Callback) (arg : Arg) (env : Env) (w : World) (g : Stamps) :
    Stamps :=
  match cb with
  | .sendConnectCb =>
    if w.client.status = .connected then g else g.arm w.systime (g.slot num)
  | .publishTimeoutCb =>
    let g' := { g with lastPublish := g.slot num }
    if arg = .publishinfor then
      if w.publishinfor.qos = 1 then g'.arm w.systime (g.slot num) else g'
    -- the client is sent as if it were a record, and may end up in the record
    else if w.client.asPubInfor.qos = 1 then
      Stamps.arm w.systime (g.slot num) { g' with publish := none }
    else g'
  | .subscribeTimeoutCb | .subscribeTimeoutIdCb =>
    if w.subscribeInfor.qos = 1 then g.arm w.systime (g.slot num) else g
  | .press .puback =>
    if w.congested env then g.arm (timerCancelByID timerIdOfPublish w.systime) g.lastPublish else g
  | _ => g

def trackStamps (w : World) (e : Event) (_ : World) (g : Stamps) : Stamps :=
  match e.action with
  | .recv _ _ _ => g
  | .visit num now _ =>
    if timerDue num now w then
      stampCallback num (w.systime.timerT num).timerCallback (w.systime.timerT num).arg e.env w g
    else g
  | .app (.sendConnect clientId keepalive flags) =>
    g.arm w.systime (some (.connect clientId keepalive flags))
  | .app (.sendPublish topicId topicType data dataLen qos retain dup) =>
    let r := some (.publish topicId topicType (.app data) dataLen qos retain dup)
    if qos = 1 then Stamps.arm w.systime r { g with lastPublish := r, publish := r }
    else { g with lastPublish := r }
  | .app (.sendSubscribeTopicName topicName qos dup) =>
    let r := some (.subscribeName topicName qos dup)
    if qos = 1 then Stamps.arm w.systime r { g with subscribe := r } else g
  | .app (.sendSubscribeTopicId topicId qos dup) =>
    let r := some (.subscribeId topicId qos dup)
    if qos = 1 then Stamps.arm w.systime r { g with subscribe := r } else g
  | .app _ => g

/-- An expiring timer finds what it needs of its request: a CONNECT is the one that the
callback is written for, with flags that the uninitialised byte happens to give; a PUBLISH or
SUBSCRIBE is the last one that wrote its record, the topic type of the PUBLISH is not seen in
its flags, and the topic name leaves room for its terminator. -/
def FindsRequest (s : World × Stamps) (e : Event) : Prop :=
  match e.action with
  | .visit num now _ => timerDue num now s.1 = true →
    match (s.1.systime.timerT num).timerCallback with
    | .sendConnectCb => s.1.client.status ≠ .connected →
        ∃ flags, s.2.slot num = some (.connect lwipTest 60 flags) ∧
          e.env.flag ||| mqttSnFlagClean ||| mqttSnFlagDup = flags ||| mqttSnFlagDup
    | .publishTimeoutCb => (s.1.systime.timerT num).arg = .publishinfor ∧
        s.2.slot num = s.2.publish ∧
        ∀ topicId topicType data dataLen qos retain dup,
          s.2.slot num = some (.publish topicId topicType data dataLen qos retain dup) →
            topicType ||| publishFlags 0 1 retain 1 = publishFlags 0 1 retain 1
    | .subscribeTimeoutCb => s.2.slot num = s.2.subscribe ∧
        ∀ topicName qos dup, s.2.slot num = some (.subscribeName topicName qos dup) →
          topicName.strlen < mqttSnMaxTopicLength
    | .subscribeTimeoutIdCb => s.2.slot num = s.2.subscribe
    | _ => True
  | _ => True

/-- A due retry callback returns, and what it sends repeats the request of its timer. -/
def RepeatsRequest (topics : Topics) (s : World × Stamps) (e : Event) : Prop :=
  ∀ num now valid, e.action = .visit num now valid → timerDue num now s.1 = true →
    (s.1.systime.timerT num).timerCallback ∈ retryCallbacks →
      ∃ r w' new, s.2.slot num = some r ∧ step topics s.1 e = .ok w' ∧
        w'.sent = s.1.sent ++ new ∧ ∀ pk ∈ new, r.Repeated e.env pk.data

/-- Every retry timer is stamped with a request of its kind. -/
def StampsFit (s : Timer Callback Arg) (slot : ℕ → Option Request) : Prop :=
  ∀ j t, s.live j = some t → (t.timerCallback, t.arg) ∈ retries →
    ∃ r, slot j = some r ∧ r.serves = (t.timerCallback, t.arg)

/-- The record is the one that the request wrote. -/
def PubInfor.Holds (p : PubInfor) : Request → Prop
  | .publish topicId _ data dataLen qos retain _ =>
    p.data = data ∧ p.dataLenth = dataLen ∧ p.topicId = topicId ∧ p.qos = 1 ∧ p.dup = 1 ∧
      p.retain = retain ∧ qos = 1 ∧ dataLen.toNat ≤ mqttSnMaxPayloadLength
  | _ => False

def SubInfor.Holds (s : SubInfor) : Request → Prop
  | .subscribeName topicName qos _ => s.qos = 1 ∧ s.dup = 1 ∧ qos = 1 ∧
      topicName.strlen ≤ mqttSnMaxTopicLength ∧
      memcpy s.subscri 0 (topicName.bytes ++ [0]) = s.subscri
  | .subscribeId topicId qos _ => s.qos = 1 ∧ s.dup = 1 ∧ qos = 1 ∧ s.topicId = topicId
  | _ => False

/-- The records hold the requests that wrote them; none writes the topic type. -/
structure RecordsHold (w : World) (g : Stamps) : Prop where
  topicType : w.publishinfor.topicType = 0
  publish : ∀ r, g.publish = some r → w.publishinfor.Holds r
  subscribe : ∀ r, g.subscribe = some r → w.subscribeInfor.Holds r

/-- What carries this through a run. -/
structure StampInv (s : World × Stamps) : Prop extends RecordsHold s.1 s.2 where
  sound : Sound s.1
  slots : StampsFit s.1.systime s.2.slot

namespace StampsFit

variable {s s' : Timer Callback Arg} {slot : ℕ → Option Request}

theorem frame (h : StampsFit s slot)
    (hlive : ∀ {j t}, s'.live j = some t → (t.timerCallback, t.arg) ∈ retries →
      s.live j = some t) : StampsFit s' slot :=
  fun j t ht hr => h j t (hlive ht hr) hr

/-- A timer that is added is stamped with the request it is added for. -/
theorem arm (h : StampsFit s slot) (hs : s.Wf) {r : Option Request} {cb : Callback}
    {arg : Arg} (hr : (cb, arg) ∈ retries → ∃ q, r = some q ∧ q.serves = (cb, arg))
    (tick timeout : UInt32) (mode timerID : UInt8) :
    StampsFit (timerAdd tick mode timeout cb arg timerID s).2 (stampFree s r slot) := by
  intro j t ht hmem
  rcases live_timerAdd_freeSlot hs tick mode timeout cb arg timerID with
    ⟨hfree, hadd⟩ | ⟨num, hfree, hlive⟩
  · rw [hadd] at ht
    simp only [stampFree, hfree]
    exact h j t ht hmem
  · simp only [stampFree, hfree]
    rw [hlive] at ht
    by_cases hj : j = num
    · subst hj
      rw [Function.update_self] at ht ⊢
      cases ht
      exact hr hmem
    · rw [Function.update_of_ne hj] at ht ⊢
      exact h j t ht hmem

end StampsFit

theorem dupFlag_or (d : UInt8) : dupFlag d ||| mqttSnFlagDup = mqttSnFlagDup := by
  unfold dupFlag
  split_ifs <;> rfl

/-- The retry of a PUBLISH differs from it in DUP only, if the topic type is not seen. -/
theorem publishFlags_again {topicType : UInt8} {retain : UInt8} (dup : UInt8)
    (h : topicType ||| publishFlags 0 1 retain 1 = publishFlags 0 1 retain 1) :
    publishFlags 0 1 retain 1 ||| mqttSnFlagDup =
      publishFlags topicType 1 retain dup ||| mqttSnFlagDup := by
  have hsplit : ∀ tt d, publishFlags tt 1 retain d ||| mqttSnFlagDup =
      tt ||| (qosFlags 1 ||| (if retain ≠ 0 then mqttSnFlagRetain else 0) ||| mqttSnFlagDup) := by
    intro tt d
    rw [publishFlags, ← dupFlag_or d]
    ac_rfl
  have hfull : publishFlags 0 1 retain 1 =
      qosFlags 1 ||| (if retain ≠ 0 then mqttSnFlagRetain else 0) ||| mqttSnFlagDup := by
    simp [publishFlags, dupFlag]
  rw [hsplit, hsplit, ← hfull, h, UInt8.zero_or]

variable {topics : Topics} {env : Env} {w u : World} {g : Stamps}

theorem mqttSnSendConnect_record {tick : UInt32} {clientId : CString} {keepalive : UInt16}
    {flags : UInt8} (h : mqttSnSendConnect tick clientId keepalive flags w = .ok u) :
    u.sent = w.sent ++ [⟨myIp4Addr 192 168 45 119, 10000, connectMsg clientId keepalive flags⟩] ∧
      u.systime = (timerAdd tick timerModeSingle 4000 .sendConnectCb .client timerIdOfConncet
        w.systime).2 ∧ u.publishinfor = w.publishinfor ∧ u.subscribeInfor = w.subscribeInfor := by
  simp only [mqttSnSendConnect] at h
  split_ifs at h
  cases h
  exact ⟨rfl, rfl, rfl, rfl⟩

/-- What the four callbacks send when they find their request. -/
theorem connect_expires (hst : w.client.status ≠ .connected) (env : Env) :
    ∃ u, mqttSnSendConnectCb env w = .ok u ∧ u.sent = w.sent ++ [⟨myIp4Addr 192 168 45 119, 10000,
      connectMsg lwipTest 60 (env.flag ||| mqttSnFlagClean)⟩] := by
  have hlen : ¬lwipTest.strlen > mqttSnMaxClientIdLength := by decide
  unfold mqttSnSendConnectCb mqttSnSendConnect
  rw [if_neg hst, if_neg hlen]
  exact ⟨_, rfl, rfl⟩

theorem publish_expires {p : PubInfor} {topicId : UInt16} {topicType : UInt8} {data : DataPtr}
    {dataLen : UInt16} {qos : Int8} {retain dup : UInt8}
    (h : p.Holds (.publish topicId topicType data dataLen qos retain dup)) (env : Env)
    (w : World) :
    ∃ u, mqttSnClientPublishTimeoutCb env p w = .ok u ∧ u.sent = w.sent ++ [⟨w.remoteIp,
      w.remotePort, publishMsg (publishFlags p.topicType 1 retain 1) topicId w.client.pktId
        (data.read env dataLen.toNat)⟩] := by
  obtain ⟨rfl, rfl, rfl, hqos, hdup, rfl, -, hlen⟩ := h
  have hone : (1 : Int8).toUInt8 = 1 := rfl
  unfold mqttSnClientPublishTimeoutCb
  rw [hqos, hdup, hone]
  obtain ⟨u, hu⟩ := mqttSnSendPublish_fits hlen env p.topicId p.topicType p.data 1 p.retain 1 w
  exact ⟨u, hu, (mqttSnSendPublish_record hu).1⟩

/-- A recorded name that leaves room for its terminator is found again. -/
theorem SubInfor.Holds.topicName {s : SubInfor} {topicName : CString} {qos : Int8} {dup : UInt8}
    (h : s.Holds (.subscribeName topicName qos dup))
    (hlen : topicName.strlen < mqttSnMaxTopicLength) : s.topicName = some topicName := by
  obtain ⟨-, -, -, -, hmem⟩ := h
  have hroom : (topicName.bytes ++ [0]).length ≤ mqttSnMaxTopicLength := by
    rw [List.length_append, List.length_singleton]
    exact hlen
  have hsplit := slice_memcpy_zero s.subscri (topicName.bytes ++ [0]) hroom
  rw [hmem] at hsplit
  rw [SubInfor.topicName, hsplit, List.append_assoc, List.append_assoc, List.singleton_append]
  exact CString.ofMemory_stored _ _

theorem subscribe_expires {topicName : CString} {qos : Int8} {dup : UInt8}
    (h : w.subscribeInfor.Holds (.subscribeName topicName qos dup))
    (hlen : topicName.strlen < mqttSnMaxTopicLength) (env : Env) :
    ∃ u, mqttSnClientSubscribeTimeoutCb env w = .ok u ∧ u.sent = w.sent ++ [⟨w.remoteIp,
      w.remotePort, subscribeMsg mqttSnTypeSubscribe
        (mqttSnTopicTypeNormal ||| qosFlags 1 ||| dupFlag 1) w.client.pktId topicName.bytes⟩] := by
  have hone : (1 : Int8).toUInt8 = 1 := rfl
  have hname := h.topicName hlen
  obtain ⟨hqos, hdup, -, hle, -⟩ := h
  unfold mqttSnClientSubscribeTimeoutCb
  rw [hname]
  dsimp only
  rw [hqos, hdup, hone]
  obtain ⟨u, hu⟩ := mqttSnSendSubscribeTopicName_fits hle env 1 1 w
  exact ⟨u, hu, (mqttSnSendSubscribeTopicName_record hu).1⟩

theorem subscribe_id_expires {topicId : UInt16} {qos : Int8} {dup : UInt8}
    (h : w.subscribeInfor.Holds (.subscribeId topicId qos dup)) (env : Env) :
    (mqttSnClientSubscribeTimeoutIdCb env w).sent = w.sent ++ [⟨w.remoteIp, w.remotePort,
      subscribeMsg mqttSnTypeSubscribe (mqttSnTopicTypePredefined ||| qosFlags 1 ||| dupFlag 1)
        w.client.pktId (le16 topicId)⟩] := by
  obtain ⟨hqos, hdup, -, rfl⟩ := h
  have hsent := (mqttSnSendSubscribeTopicId_record env w.subscribeInfor.topicId
    w.subscribeInfor.qos w.subscribeInfor.dup.toUInt8 w).1
  rw [hqos, hdup] at hsent
  unfold mqttSnClientSubscribeTimeoutIdCb
  rw [hqos, hdup, hsent]
  rfl

/-- A due timer whose callback returns is visited without a fault. -/
theorem visit_sent (hw : Sound w) {num : ℕ} {now : UInt32} (valid : num < maxTimerNum)
    (hdue : timerDue num now w = true) {cb : Callback} {arg : Arg}
    (hcb : (w.systime.timerT num).timerCallback = cb) (harg : (w.systime.timerT num).arg = arg)
    (hu : runCallback topics env cb arg w = .ok u) :
    ∃ w', step topics w ⟨.visit num now valid, env⟩ = .ok w' ∧ w'.sent = u.sent := by
  rw [← hcb, ← harg] at hu
  obtain ⟨t, s, -, -, -, -, -, -, hvisit, -, -⟩ := timerVisit_due hw valid hdue hu
  exact ⟨_, hvisit, rfl⟩

/-- A retry timer that finds its request sends it again. -/
theorem StampInv.repeats {s : World × Stamps} {e : Event} (h : StampInv s)
    (hc : FindsRequest s e) : RepeatsRequest topics s e := by
  obtain ⟨w, g⟩ := s
  obtain ⟨action, env⟩ := e
  intro num now valid haction hdue hretry
  obtain rfl : action = .visit num now valid := haction
  have hw : Sound w := h.sound
  have hdue : timerDue num now w = true := hdue
  have hlive := timerDue_live hw.timers_wf valid hdue
  have hfit : ∀ {cb arg}, (w.systime.timerT num).timerCallback = cb →
      (w.systime.timerT num).arg = arg → (cb, arg) ∈ retries →
      ∃ r, g.slot num = some r ∧ r.serves = (cb, arg) := by
    rintro cb arg rfl rfl hin
    exact h.slots num (w.systime.timerT num).untimed hlive hin
  have hcond := hc hdue
  -- it is enough to say what the callback sends
  have hone : ∀ {cb arg r pk}, (w.systime.timerT num).timerCallback = cb →
      (w.systime.timerT num).arg = arg → g.slot num = some r → r.Repeated env pk.data →
      (∃ u, runCallback topics env cb arg w = .ok u ∧ u.sent = w.sent ++ [pk]) →
      ∃ r w' new, g.slot num = some r ∧
        step topics w ⟨.visit num now valid, env⟩ = .ok w' ∧ w'.sent = w.sent ++ new ∧
          ∀ pk ∈ new, r.Repeated env pk.data := by
    rintro cb arg r pk hcb harg hr hrep ⟨u, hu, hsent⟩
    obtain ⟨w', hstep, hw'⟩ := visit_sent hw valid hdue hcb harg hu
    exact ⟨r, w', [pk], hr, hstep, hw'.trans hsent, fun q hq => by
      rw [List.mem_singleton.mp hq]
      exact hrep⟩
  have hkind : (w.systime.timerT num).timerCallback ∈ retryCallbacks := hretry
  simp only [retryCallbacks, List.mem_cons, List.not_mem_nil, or_false] at hkind
  rcases hkind with hcb | hcb | hcb | hcb
  · have harg := timerDue_arg hw valid hdue hcb rfl
    obtain ⟨r, hr, hserves⟩ := hfit hcb harg (by decide)
    by_cases hst : w.client.status = .connected
    · have hrun : runCallback topics env .sendConnectCb .client w = .ok w := by
        show mqttSnSendConnectCb env w = .ok w
        rw [mqttSnSendConnectCb, if_pos hst]
      obtain ⟨w', hstep, hw'⟩ := visit_sent hw valid hdue hcb harg hrun
      exact ⟨r, w', [], hr, hstep, by rw [hw', List.append_nil], by simp⟩
    · simp only [hcb] at hcond
      obtain ⟨flags, hslot, hflags⟩ := hcond hst
      exact hone hcb harg hslot ⟨_, 0, rfl, hflags⟩ (connect_expires hst env)
  · simp only [hcb] at hcond
    obtain ⟨harg, hown, htype⟩ := hcond
    obtain ⟨r, hr, hserves⟩ := hfit hcb harg (by decide)
    have hholds := h.publish r (hown ▸ hr)
    cases r with
    | publish topicId topicType data dataLen qos retain dup =>
      have hqos : qos = 1 := hholds.2.2.2.2.2.2.1
      have hflags := publishFlags_again dup (htype _ _ _ _ _ _ _ hr)
      refine hone hcb harg hr ⟨_, w.client.pktId, rfl, ?_⟩ (publish_expires hholds env w)
      have htt : w.publishinfor.topicType = 0 := h.topicType
      rw [htt, Request.flags, hqos]
      exact hflags
    | _ => cases hserves
  · have harg := timerDue_arg hw valid hdue hcb rfl
    simp only [hcb] at hcond
    obtain ⟨hown, hroom⟩ := hcond
    obtain ⟨r, hr, hserves⟩ := hfit hcb harg (by decide)
    have hholds := h.subscribe r (hown ▸ hr)
    cases r with
    | subscribeName topicName qos dup =>
      have hqos : qos = 1 := hholds.2.2.1
      refine hone hcb harg hr ⟨_, w.client.pktId, rfl, ?_⟩
        (subscribe_expires hholds (hroom _ _ _ hr) env)
      simp only [Request.flags, hqos, UInt8.or_assoc, dupFlag_or]
    | _ => cases hserves
  · have harg := timerDue_arg hw valid hdue hcb rfl
    simp only [hcb] at hcond
    obtain ⟨r, hr, hserves⟩ := hfit hcb harg (by decide)
    have hholds := h.subscribe r (hcond ▸ hr)
    cases r with
    | subscribeId topicId qos dup =>
      have hqos : qos = 1 := hholds.2.2.1
      refine hone hcb harg hr ⟨_, w.client.pktId, rfl, ?_⟩
        ⟨_, rfl, subscribe_id_expires hholds env⟩
      simp only [Request.flags, hqos, UInt8.or_assoc, dupFlag_or]
    | _ => cases hserves

theorem RecordsHold.frame {w' : World} {g' : Stamps} (h : RecordsHold w g)
    (hpub : w'.publishinfor = w.publishinfor) (hsub : w'.subscribeInfor = w.subscribeInfor)
    (hgp : g'.publish = g.publish) (hgs : g'.subscribe = g.subscribe) : RecordsHold w' g' := by
  refine ⟨hpub ▸ h.topicType, fun r hr => ?_, fun r hr => ?_⟩
  · rw [hpub]
    exact h.publish r (hgp ▸ hr)
  · rw [hsub]
    exact h.subscribe r (hgs ▸ hr)

/-- A SUBSCRIBE that is written to the record holds there. -/
theorem RecordsHold.subscribed {w' : World} {g' : Stamps} {q : Request} (h : RecordsHold w g)
    (hpub : w'.publishinfor = w.publishinfor) (hsub : w'.subscribeInfor.Holds q)
    (hgp : g'.publish = g.publish) (hgs : g'.subscribe = some q) : RecordsHold w' g' := by
  refine ⟨hpub ▸ h.topicType, fun r hr => ?_, fun r hr => ?_⟩
  · rw [hpub]
    exact h.publish r (hgp ▸ hr)
  · obtain rfl := Option.some.inj (hgs.symm.trans hr)
    exact hsub

theorem retries_callback {cb : Callback} {arg : Arg} (h : (cb, arg) ∈ retries) :
    cb ∈ retryCallbacks := by
  simp only [retries, List.mem_cons, Prod.mk.injEq, List.not_mem_nil, or_false] at h
  rcases h with ⟨rfl, -⟩ | ⟨rfl, -⟩ | ⟨rfl, -⟩ | ⟨rfl, -⟩ <;> decide

/-- A callback that arms no retry timer leaves the stamps right. -/
theorem StampsFit.callback_frame {slot : ℕ → Option Request} (h : StampsFit w.systime slot)
    (hw : Sound w) {cb : Callback} {arg : Arg} (hrun : runCallback topics env cb arg w = .ok u)
    (harms : ∀ cb' ∈ retryCallbacks, cb' ∉ cb.arms) : StampsFit u.systime slot :=
  h.frame fun hv hmem => runCallback_live_old hw hrun hv (harms _ (retries_callback hmem))

theorem StampsFit.puback (h : StampsFit w.systime g.slot) (hw : Sound w) {num : ℕ} {arg : Arg}
    (hpress : apiPubackPress env w = .ok u) :
    StampsFit u.systime (stampCallback num (.press .puback) arg env w g).slot := by
  simp only [stampCallback]
  split_ifs with hcong
  -- the timer that a congestion arms is none of a request
  · simp only [World.congested, Option.any_eq_true, decide_eq_true_eq] at hcong
    obtain ⟨fr, hhead, htype, hst, hmid, hcode⟩ := hcong
    have hcancel : StampsFit (timerCancelByID timerIdOfPublish w.systime) g.slot := by
      refine h.frame fun {j t} ht _ => ?_
      rw [live_timerCancelByID hw.timers_wf] at ht
      by_cases hj : j = findTimerIndexbyID timerIdOfPublish w.systime
      · rw [hj, Function.update_self] at ht
        cases ht
      · rwa [Function.update_of_ne hj] at ht
    have hwf := timerCancelByID_wf hw.timers_wf timerIdOfPublish
    rcases press_frame hw hpress with ⟨fr', hhead', -, -, hbody⟩ | ⟨hno, -⟩
    · obtain rfl := Option.some.inj (hhead.symm.trans hhead')
      rw [if_pos ⟨htype, hst, hmid⟩] at hbody
      rw [if_neg (by rw [hcode]; decide), if_pos hcode] at hbody
      cases hbody
      exact hcancel.arm hwf (fun hmem => absurd hmem (by decide)) _ _ _ _
    · exact absurd (hno fr hhead) (by decide)
  · refine h.frame fun {j t} ht hmem => ?_
    by_cases hcb : t.timerCallback = .publishTimeoutCb
    · refine ((apiPubackPress_timers hpress).origin hw.timers_wf ht).resolve_right fun harg => ?_
      rw [hcb, show t.arg = .client from harg] at hmem
      exact absurd hmem (by decide)
    · apply (apiPubackPress_acts hpress).live_old (hw.consumed env).timers_wf ht
      simpa using hcb

section Callbacks

variable {num : ℕ} {r : Request}

/-- The CONNECT that is sent again stays the request of its slot. -/
theorem StampInv.connect_callback (h : StampInv (w, g)) (hr : g.slot num = some r)
    (hserves : r.serves = (.sendConnectCb, .client)) (hsend : mqttSnSendConnectCb env w = .ok u) :
    StampsFit u.systime (stampCallback num .sendConnectCb .client env w g).slot ∧
      RecordsHold u (stampCallback num .sendConnectCb .client env w g) := by
  have hw : Sound w := h.sound
  have hslots : StampsFit w.systime g.slot := h.slots
  have hrec : RecordsHold w g := h.toRecordsHold
  simp only [stampCallback]
  rcases mqttSnSendConnectCb_ok hsend with ⟨hst, rfl⟩ | ⟨hst, hsend⟩
  · rw [if_pos hst]
    exact ⟨hslots, hrec⟩
  · obtain ⟨-, hsys, hpub, hsub⟩ := mqttSnSendConnect_record hsend
    rw [if_neg hst, hsys]
    exact ⟨hslots.arm hw.timers_wf (fun _ => ⟨r, hr, hserves⟩) _ _ _ _,
      hrec.frame hpub hsub rfl rfl⟩

/-- The PUBLISH that is sent again is the recorded one, and is recorded as it was. -/
theorem StampInv.publish_callback (h : StampInv (w, g)) (hr : g.slot num = some r)
    (hserves : r.serves = (.publishTimeoutCb, .publishinfor)) (hown : g.slot num = g.publish)
    (hrun : runCallback topics env .publishTimeoutCb .publishinfor w = .ok u) :
    StampsFit u.systime (stampCallback num .publishTimeoutCb .publishinfor env w g).slot ∧
      RecordsHold u (stampCallback num .publishTimeoutCb .publishinfor env w g) := by
  have hw : Sound w := h.sound
  have hslots : StampsFit w.systime g.slot := h.slots
  have hrec : RecordsHold w g := h.toRecordsHold
  have hholds := hrec.publish r (hown ▸ hr)
  obtain ⟨hqos, hdup⟩ : w.publishinfor.qos = 1 ∧ w.publishinfor.dup = 1 := by
    cases r with
    | publish topicId topicType data dataLen qos retain dup =>
      exact ⟨hholds.2.2.2.1, hholds.2.2.2.2.1⟩
    | _ => cases hserves
  have hsend : mqttSnClientPublishTimeoutCb env w.publishinfor w = .ok u := hrun
  have hsame := publish_again hqos hdup rfl hsend
  have hsub := (runCallback_touches hrun).same .subscribeInfor (by decide)
  obtain ⟨-, ⟨-, -, hsys⟩ | ⟨hno, -⟩⟩ := mqttSnSendPublish_record hsend
  · simp only [stampCallback, if_true, if_pos hqos]
    rw [hsys]
    exact ⟨hslots.arm hw.timers_wf (fun _ => ⟨r, hr, hserves⟩) _ _ _ _,
      hrec.frame hsame hsub rfl rfl⟩
  · exact absurd hqos hno

/-- The SUBSCRIBE to a name that is sent again is the recorded one. -/
theorem StampInv.subscribe_callback (h : StampInv (w, g)) (hr : g.slot num = some r)
    (hserves : r.serves = (.subscribeTimeoutCb, .subscribeInfor))
    (hown : g.slot num = g.subscribe)
    (hrun : runCallback topics env .subscribeTimeoutCb .subscribeInfor w = .ok u) :
    StampsFit u.systime (stampCallback num .subscribeTimeoutCb .subscribeInfor env w g).slot ∧
      RecordsHold u (stampCallback num .subscribeTimeoutCb .subscribeInfor env w g) := by
  have hw : Sound w := h.sound
  have hslots : StampsFit w.systime g.slot := h.slots
  have hrec : RecordsHold w g := h.toRecordsHold
  have hholds := hrec.subscribe r (hown ▸ hr)
  obtain ⟨hqos, hdup⟩ : w.subscribeInfor.qos = 1 ∧ w.subscribeInfor.dup = 1 := by
    cases r with
    | subscribeName topicName qos dup => exact ⟨hholds.1, hholds.2.1⟩
    | _ => cases hserves
  have hsend : mqttSnClientSubscribeTimeoutCb env w = .ok u := hrun
  have hsame := subscribe_again hqos hdup hsend
  have hpub := (runCallback_touches hrun).same .publishinfor (by decide)
  simp only [stampCallback, if_pos hqos]
  obtain ⟨_, -, hsend⟩ := mqttSnClientSubscribeTimeoutCb_ok hsend
  obtain ⟨-, -, ⟨-, -, hsys⟩ | ⟨hno, -⟩⟩ := mqttSnSendSubscribeTopicName_record hsend
  · rw [hsys]
    exact ⟨hslots.arm hw.timers_wf (fun _ => ⟨r, hr, hserves⟩) _ _ _ _,
      hrec.frame hpub hsame rfl rfl⟩
  · exact absurd hqos hno

/-- The SUBSCRIBE to a topic id that is sent again is the recorded one. -/
theorem StampInv.subscribe_id_callback (h : StampInv (w, g)) (hr : g.slot num = some r)
    (hserves : r.serves = (.subscribeTimeoutIdCb, .subscribeInfor))
    (hown : g.slot num = g.subscribe)
    (hrun : runCallback topics env .subscribeTimeoutIdCb .subscribeInfor w = .ok u) :
    StampsFit u.systime (stampCallback num .subscribeTimeoutIdCb .subscribeInfor env w g).slot ∧
      RecordsHold u (stampCallback num .subscribeTimeoutIdCb .subscribeInfor env w g) := by
  have hw : Sound w := h.sound
  have hslots : StampsFit w.systime g.slot := h.slots
  have hrec : RecordsHold w g := h.toRecordsHold
  have hholds := hrec.subscribe r (hown ▸ hr)
  obtain ⟨hqos, hdup⟩ : w.subscribeInfor.qos = 1 ∧ w.subscribeInfor.dup = 1 := by
    cases r with
    | subscribeId topicId qos dup => exact ⟨hholds.1, hholds.2.1⟩
    | _ => cases hserves
  have hpub := (runCallback_touches hrun).same .publishinfor (by decide)
  obtain rfl := runCallback_subscribeId hrun
  have hsame : (mqttSnClientSubscribeTimeoutIdCb env w).subscribeInfor = w.subscribeInfor :=
    subscribe_id_again hqos hdup
  simp only [stampCallback, if_pos hqos]
  obtain ⟨-, ⟨-, -, hsys⟩ | ⟨hno, -⟩⟩ := mqttSnSendSubscribeTopicId_record env
    w.subscribeInfor.topicId w.subscribeInfor.qos w.subscribeInfor.dup.toUInt8 w
  · rw [mqttSnClientSubscribeTimeoutIdCb, hsys]
    exact ⟨hslots.arm hw.timers_wf (fun _ => ⟨r, hr, hserves⟩) _ _ _ _,
      hrec.frame hpub hsame rfl rfl⟩
  · exact absurd hqos hno

/-- A callback keeps the stamps and the records right, where those that send again find
their request. -/
theorem StampInv.callback (h : StampInv (w, g)) {t : SwTimer Callback Arg}
    (ht : w.systime.live num = some t)
    (hpublish : t.timerCallback = .publishTimeoutCb →
      t.arg = .publishinfor ∧ g.slot num = g.publish)
    (hsubscribe : t.timerCallback = .subscribeTimeoutCb ∨
      t.timerCallback = .subscribeTimeoutIdCb → g.slot num = g.subscribe)
    (hrun : runCallback topics env t.timerCallback t.arg w = .ok u) :
    StampsFit u.systime (stampCallback num t.timerCallback t.arg env w g).slot ∧
      RecordsHold u (stampCallback num t.timerCallback t.arg env w g) := by
  have hw : Sound w := h.sound
  have hrec : RecordsHold w g := h.toRecordsHold
  have hslots : StampsFit w.systime g.slot := h.slots
  have hfit : (t.timerCallback, t.arg) ∈ retries →
      ∃ r, g.slot num = some r ∧ r.serves = (t.timerCallback, t.arg) := h.slots num t ht
  have hmem := (hw.timers_ok _ _ ht).arg_mem
  -- the other callbacks arm no retry timer and leave the records alone
  have hother : ∀ cb, runCallback topics env cb t.arg w = .ok u →
      (∀ cb' ∈ retryCallbacks, cb' ∉ cb.arms) → Field.publishinfor ∉ cb.changes →
        Field.subscribeInfor ∉ cb.changes → StampsFit u.systime g.slot ∧ RecordsHold u g :=
    fun cb hrun harms hpub hsub => ⟨hslots.callback_frame hw hrun harms,
      hrec.frame ((runCallback_touches hrun).same .publishinfor hpub)
        ((runCallback_touches hrun).same .subscribeInfor hsub) rfl rfl⟩
  cases hcb : t.timerCallback with
  | sendConnectCb =>
    rw [hcb] at hrun hfit hmem
    have harg := List.mem_singleton.mp hmem
    rw [harg] at hfit ⊢
    obtain ⟨r, hr, hserves⟩ := hfit (by decide)
    exact h.connect_callback hr hserves (runCallback_connect hrun)
  | publishTimeoutCb =>
    obtain ⟨harg, hown⟩ := hpublish hcb
    rw [hcb, harg] at hrun hfit
    rw [harg]
    obtain ⟨r, hr, hserves⟩ := hfit (by decide)
    exact h.publish_callback hr hserves hown hrun
  | subscribeTimeoutCb =>
    rw [hcb] at hrun hfit hmem
    have harg := List.mem_singleton.mp hmem
    rw [harg] at hrun hfit ⊢
    obtain ⟨r, hr, hserves⟩ := hfit (by decide)
    exact h.subscribe_callback hr hserves (hsubscribe (Or.inl hcb)) hrun
  | subscribeTimeoutIdCb =>
    rw [hcb] at hrun hfit hmem
    have harg := List.mem_singleton.mp hmem
    rw [harg] at hrun hfit ⊢
    obtain ⟨r, hr, hserves⟩ := hfit (by decide)
    exact h.subscribe_id_callback hr hserves (hsubscribe (Or.inr hcb)) hrun
  | press api =>
    rw [hcb] at hrun
    cases api with
    | puback =>
      refine ⟨hslots.puback hw (runCallback_press hrun), ?_⟩
      have hpub := (runCallback_touches hrun).same .publishinfor (by decide)
      have hsub := (runCallback_touches hrun).same .subscribeInfor (by decide)
      simp only [stampCallback]
      split_ifs
      · exact hrec.frame hpub hsub rfl rfl
      · exact hrec.frame hpub hsub rfl rfl
    | _ => exact hother _ hrun (by decide) (by decide) (by decide)
  | _ =>
    rw [hcb] at hrun
    exact hother _ hrun (by decide) (by decide) (by decide)

end Callbacks

theorem StampInv.app (h : StampInv (w, g)) {call : AppCall}
    (hrun : runAppCall env call w = .ok u) :
    StampsFit u.systime (trackStamps w ⟨.app call, env⟩ u g).slot ∧
      RecordsHold u (trackStamps w ⟨.app call, env⟩ u g) := by
  have hw : Sound w := h.sound
  have hrec : RecordsHold w g := h.toRecordsHold
  have hslots : StampsFit w.systime g.slot := h.slots
  have hother : (∀ cb' ∈ retryCallbacks, cb' ∉ call.arms) → Field.publishinfor ∉ call.changes →
      Field.subscribeInfor ∉ call.changes → StampsFit u.systime g.slot ∧ RecordsHold u g :=
    fun harms hpub hsub => ⟨hslots.frame fun hv hmem =>
        (runAppCall_acts hrun).live_old hw.timers_wf hv (harms _ (retries_callback hmem)),
      hrec.frame ((runAppCall_touches hrun).same .publishinfor hpub)
        ((runAppCall_touches hrun).same .subscribeInfor hsub) rfl rfl⟩
  cases call with
  | sendConnect clientId keepalive flags =>
    obtain ⟨-, hsys, hpub, hsub⟩ := mqttSnSendConnect_record hrun
    simp only [trackStamps]
    rw [hsys]
    refine ⟨hslots.arm hw.timers_wf ?_ _ _ _ _, hrec.frame hpub hsub rfl rfl⟩
    exact fun _ => ⟨_, rfl, rfl⟩
  | sendPublish topicId topicType data dataLen qos retain dup =>
    have hsub := (runAppCall_touches hrun).same .subscribeInfor (by simp [AppCall.changes])
    have hlen : dataLen.toNat ≤ mqttSnMaxPayloadLength := by
      by_contra hgt
      have hbad := hrun
      simp only [runAppCall, mqttSnSendPublish] at hbad
      rw [if_pos (Nat.lt_of_not_le hgt)] at hbad
      cases hbad
    simp only [trackStamps]
    obtain ⟨-, ⟨hqos, hpub, hsys⟩ | ⟨hqos, hpub, hsys⟩⟩ := mqttSnSendPublish_record hrun
    · rw [if_pos hqos, hsys]
      refine ⟨StampsFit.arm hslots hw.timers_wf ?_ _ _ _ _, ?_⟩
      · exact fun _ => ⟨_, rfl, rfl⟩
      refine ⟨hpub ▸ hrec.topicType, fun r hr => ?_, fun r hr => ?_⟩
      · obtain rfl := Option.some.inj hr
        rw [hpub]
        exact ⟨rfl, rfl, rfl, rfl, rfl, rfl, hqos, hlen⟩
      · rw [hsub]
        exact hrec.subscribe r hr
    · rw [if_neg hqos, hsys]
      exact ⟨hslots, hrec.frame hpub hsub rfl rfl⟩
  | sendSubscribeTopicName topicName qos dup =>
    have hpub := (runAppCall_touches hrun).same .publishinfor (by simp [AppCall.changes])
    simp only [trackStamps]
    obtain ⟨-, hlen, ⟨hqos, hsub, hsys⟩ | ⟨hqos, hsub, hsys⟩⟩ :=
      mqttSnSendSubscribeTopicName_record hrun
    · rw [if_pos hqos, hsys]
      refine ⟨StampsFit.arm hslots hw.timers_wf ?_ _ _ _ _, hrec.subscribed hpub ?_ rfl rfl⟩
      · exact fun _ => ⟨_, rfl, rfl⟩
      · rw [hsub]
        exact ⟨rfl, rfl, hqos, hlen, memcpy_idem _ _ _⟩
    · rw [if_neg hqos, hsys]
      exact ⟨hslots, hrec.frame hpub hsub rfl rfl⟩
  | sendSubscribeTopicId topicId qos dup =>
    have hpub := (runAppCall_touches hrun).same .publishinfor (by simp [AppCall.changes])
    cases hrun
    simp only [trackStamps]
    obtain ⟨-, ⟨hqos, hsub, hsys⟩ | ⟨hqos, hsub, hsys⟩⟩ :=
      mqttSnSendSubscribeTopicId_record env topicId qos dup w
    · rw [if_pos hqos, hsys]
      refine ⟨StampsFit.arm hslots hw.timers_wf ?_ _ _ _ _, hrec.subscribed hpub ?_ rfl rfl⟩
      · exact fun _ => ⟨_, rfl, rfl⟩
      · rw [hsub]
        exact ⟨rfl, rfl, hqos, u16At_le16 _ _ _ rfl rfl⟩
    · rw [if_neg hqos, hsys]
      exact ⟨hslots, hrec.frame hpub hsub rfl rfl⟩
  | _ =>
    exact hother (by simp [retryCallbacks, AppCall.arms]) (by simp [AppCall.changes])
      (by simp [AppCall.changes])

theorem stamp_step (s : World × Stamps) (e : Event) (s' : World × Stamps) (h : StampInv s)
    (hc : FindsRequest s e) (htracked : Runs.tracked (step topics) trackStamps s e = .ok s') :
    StampInv s' := by
  obtain ⟨w, g⟩ := s
  obtain ⟨w', g'⟩ := s'
  obtain ⟨action, env⟩ := e
  obtain ⟨hstep, rfl⟩ := Runs.tracked_ok.mp htracked
  have hw : Sound w := h.sound
  have hrec : RecordsHold w g := h.toRecordsHold
  have hslots : StampsFit w.systime g.slot := h.slots
  suffices hinv : StampsFit w'.systime (trackStamps w ⟨action, env⟩ w' g).slot ∧
      RecordsHold w' (trackStamps w ⟨action, env⟩ w' g) from
    ⟨hinv.2, sound_step hw hstep, hinv.1⟩
  cases action with
  | recv p addr port =>
    cases hstep
    have hrecv := udpServerRecvCb_received env p addr port w
    refine ⟨hslots.frame fun {j t} ht hmem => ?_,
      hrec.frame (hrecv.touches.same .publishinfor List.not_mem_nil)
        (hrecv.touches.same .subscribeInfor List.not_mem_nil) rfl rfl⟩
    -- the only timers it arms dispatch a frame
    obtain ⟨rx, b, gw, s, heq, hacts⟩ := hrecv
    rw [heq] at ht
    refine (hacts.origin hw.timers_wf ht).resolve_right fun hdisp => ?_
    obtain ⟨-, api, hapi⟩ := hdisp
    have hretry := retries_callback hmem
    rw [hapi] at hretry
    simp [retryCallbacks] at hretry
  | app call => exact h.app hstep
  | visit num now valid =>
    rcases timerVisit_ok hw valid hstep with
      ⟨hnot, rfl⟩ | ⟨t, u, s, hdue, ht, -, hrun, -, -, rfl, -, hlive⟩
    · have hsame : trackStamps w' ⟨.visit num now valid, env⟩ w' g = g := by
        simp only [trackStamps, hnot]
        rfl
      rw [hsame]
      exact ⟨hslots, hrec⟩
    · obtain ⟨-, -, hcb, harg⟩ := live_running hw.timers_wf ht
      have hdue' : timerDue num now (w, g).1 = true := hdue
      have hcond := hc hdue'
      simp only [hcb, harg] at hcond
      have hafter := h.callback ht
        (fun hkind => by
          rw [hkind] at hcond
          exact ⟨hcond.1, hcond.2.1⟩)
        (fun hkind => by
          rcases hkind with hkind | hkind <;> rw [hkind] at hcond
          · exact hcond.1
          · exact hcond) hrun
      have htrack : trackStamps w ⟨.visit num now valid, env⟩ { u with systime := s } g =
          stampCallback num t.timerCallback t.arg env w g := by
        simp only [trackStamps, if_pos hdue, hcb, harg]
      rw [htrack]
      exact ⟨hafter.1.frame fun hv _ => visit_live hlive hv, hafter.2.frame rfl rfl rfl rfl⟩

/-- In every run in which expiring timers find their requests, each of them sends again the
request that it was armed for. -/
theorem retries_repeat_requests (hinit : mqttClientInit env (startup topics) = .ok w)
    (es : List Event)
    (hc : Runs.Meets (Runs.tracked (step topics) trackStamps) FindsRequest (w, bootStamps) es) :
    Runs.Meets (Runs.tracked (step topics) trackStamps) (RepeatsRequest topics)
      (w, bootStamps) es := by
  have hboot := mqttClientInit_booted hinit
  have hslots : StampsFit w.systime bootStamps.slot := by
    intro j t ht hmem
    rw [hboot.live_eq] at ht
    rcases (bootTimers_ok ht).1 with ⟨rfl, hcb⟩ | ⟨-, hcb⟩
    · cases ht
      exact ⟨_, rfl, rfl⟩
    · have hretry := retries_callback hmem
      rw [hcb] at hretry
      exact absurd hretry (by decide)
  have hrec : RecordsHold w bootStamps := by
    refine ⟨?_, nofun, nofun⟩
    rw [hboot.eq_startup]
    rfl
  have hstart : StampInv (w, bootStamps) := ⟨hrec, hboot.sound, hslots⟩
  exact Runs.meets_of_meets (J := StampInv) stamp_step (fun s e hs hc => hs.repeats hc) hstart hc

/-- A PUBLISH with QoS 1 is sent, and its timer expires. -/
def expiryEvents (topicType : UInt8) : List Event :=
  [⟨.app (.sendPublish 5 topicType (fun _ => 0) 1 1 0 0), quietEnv⟩,
    ⟨.visit 2 20000 two_lt_maxTimerNum, quietEnv⟩]

/-- A PUBLISH to a normal topic finds its record. -/
theorem retries_repeat_requests_normal :
    Runs.Meets (Runs.tracked (step topiclist) trackStamps) (RepeatsRequest topiclist)
      (bootWorld, bootStamps) (expiryEvents mqttSnTopicTypeNormal) := by
  refine retries_repeat_requests bootWorld_init _ ?_
  refine ⟨trivial, fun s hs => ?_⟩
  cases hs
  refine ⟨fun _ => ⟨rfl, rfl, ?_⟩, fun _ _ => trivial⟩
  intro topicId topicType data dataLen qos retain dup hr
  cases hr
  decide

/-- The retry of a PUBLISH to a predefined topic is one to a normal topic. -/
theorem retry_loses_topic_type :
    ¬∀ (topics : Topics) (env : Env) (w : World) (es : List Event),
      mqttClientInit env (startup topics) = .ok w →
        Runs.Meets (Runs.tracked (step topics) trackStamps) (RepeatsRequest topics)
          (w, bootStamps) es := by
  intro h
  have hall := h topiclist quietEnv bootWorld (expiryEvents mqttSnTopicTypePredefined)
    bootWorld_init
  have hlast := (hall.2 _ rfl).1
  obtain ⟨r, w', new, hr, hstep, hsent, hrep⟩ :=
    hlast 2 20000 (by decide) rfl (by decide) (by decide)
  cases hr
  cases hstep
  have hnew : [(⟨0, 0, [8, mqttSnTypePublish, 0xA0, 5, 0, 2, 0, 0]⟩ : Packet)] = new :=
    congrArg (List.drop 2) hsent
  obtain ⟨flags, mid, hdata, hflags⟩ := hrep _ (hnew ▸ List.mem_singleton_self _)
  have hbyte : some 0xA0 = some flags := congrArg (fun d : List UInt8 => d[2]?) hdata
  obtain rfl := Option.some.inj hbyte
  exact absurd hflags (by decide)

end MqttSnClient
