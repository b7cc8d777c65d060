import MqttSnClient.Connecting
import MqttSnClient.Registration
import MqttSnClient.Records
import MqttSnClient.Footprint

namespace MqttSnClient
open Memory Bytes

/-- `registertopicfinsh`; a topic that is registering counts as done. -/
def registertopicfinsh (m : TopicMap) : Bool := m.toppiclist.all fun t => t.status ≠ .unregister

/-- `GetTopicID`, which returns a signed number and -1 where it finds nothing. -/
def getTopicID (topic : CString) (m : TopicMap) : Int16 :=
  match m.toppiclist.find? fun t => topic = t.topicName ∧ t.status = .registered with
  | some t => t.topicId.toInt16
  | none => -1

/-- A read of `topiclist`; behind its end it is undefined. -/
def topicAt (i : ℕ) : Except Fault CString :=
  match topiclist.names[i]? with
  | some name => .ok name
  | none => .error .undefined

def helloMsg : CString := .ofChars "Hello FMSH Power everyone".toList (by decide)

/-- The client and the counter `flag` of `TASK_TIMER_Test`. -/
structure Task where
  world : World
  flag : UInt32

/-- The first branch of `TASK_TIMER_Test` on its counter. -/
def testSubscribe (env : Env) (s : Task) : Except Fault Task :=
  if s.flag = 0 then do
    let w ← mqttSnSendSubscribeTopicName env (← topicAt 1) 0 0 s.world
    .ok { world := w, flag := 1 }
  else .ok s

/-- The second branch, which finds the counter that the first one leaves. -/
def testPublish (env : Env) (s : Task) : Except Fault Task :=
  if s.flag < 15 then do
    let topicId := (getTopicID (← topicAt 0) s.world.topicMap).toUInt16
    let w ← mqttSnSendPublish env topicId mqttSnTopicTypeNormal (.app (asArray helloMsg.bytes))
      (UInt16.ofNat helloMsg.strlen) 1 1 0 s.world
    let s : Task := { world := w, flag := s.flag + 1 }
    if s.flag = 10 then
      let w ← mqttSnSendUnsubscribeTopicName (← topicAt 1) s.world
      .ok { s with world := w }
    else .ok s
  else if s.flag = 15 then
    .ok { world := mqttSnSendDisconnectTopicId 0 s.world, flag := s.flag + 1 }
  else .ok s

def testBody (env : Env) (s : Task) : Except Fault Task := testSubscribe env s >>= testPublish env

def testDue (systick : UInt32) (w : World) : Bool :=
  systick % 10000 = 0 && registertopicfinsh w.topicMap

/-- The part of an iteration that follows `TimerCheck`. -/
def testTurn (systick : UInt32) (env : Env) (s : Task) : Except Fault Task :=
  if testDue systick s.world then testBody env s else .ok s

/-- One iteration of the loop of `TASK_TIMER_Test`. -/
def taskIteration (systick : UInt32) (env : ℕ → Env) (s : Task) : Except Fault Task := do
  let w ← timerCheck topiclist systick env s.world
  testTurn systick (env maxTimerNum) { s with world := w }

/-- What can happen next in the program: something of the client's own, or the end of an
iteration. The receive callback comes between any two of them. -/
inductive TaskEvent
  | client (e : Event) (own : ∀ call, e.action ≠ .app call)
  | test (systick : UInt32) (env : Env)

def taskStep (s : Task) : TaskEvent → Except Fault Task
  | .client e _ => do
    let w ← step topiclist s.world e
    .ok { s with world := w }
  | .test systick env => testTurn systick env s

theorem visit_own {num : ℕ} {now : UInt32} {h : num < maxTimerNum} (call : AppCall) :
    Action.visit num now h ≠ .app call := Action.noConfusion

theorem recv_own {p : Pbuf} {addr : UInt32} {port : UInt16} (call : AppCall) :
    Action.recv p addr port ≠ .app call := Action.noConfusion

/-- `TimerCheck` reaches a slot. -/
def TaskEvent.visit (num : Fin maxTimerNum) (systick : UInt32) (env : Env) : TaskEvent :=
  .client ⟨.visit num systick num.isLt, env⟩ visit_own

def TaskEvent.recv (p : Pbuf) (addr : UInt32) (port : UInt16) (env : Env) : TaskEvent :=
  .client ⟨.recv p addr port, env⟩ recv_own

def taskEvents (systick : UInt32) (env : ℕ → Env) : List TaskEvent :=
  (List.finRange maxTimerNum).map (fun num => .visit num systick (env num)) ++
    [.test systick (env maxTimerNum)]

/-- The turns of `TimerCheck` leave the counter alone. -/
theorem run_visits (systick : UInt32) (env : ℕ → Env) (nums : List (Fin maxTimerNum))
    (s : Task) :
    Runs.run taskStep s (nums.map fun num => .visit num systick (env num)) =
      (Runs.run (step topiclist) s.world (nums.map fun num : Fin maxTimerNum =>
        ⟨.visit num systick num.isLt, env num⟩)).map fun w => { s with world := w } := by
  induction nums generalizing s with
  | nil => rfl
  | cons num nums ih =>
    simp only [List.map_cons, Runs.run, taskStep, TaskEvent.visit]
    cases step topiclist s.world ⟨.visit num systick num.isLt, env num⟩ with
    | ok w => exact ih { s with world := w }
    | error f => rfl

theorem taskIteration_eq_run (systick : UInt32) (env : ℕ → Env) (s : Task) :
    taskIteration systick env s = Runs.run taskStep s (taskEvents systick env) := by
  have hpass := run_visits systick env (List.finRange maxTimerNum) s
  rw [taskIteration, timerCheck_eq_run, taskEvents, Runs.run_append, hpass, passEvents]
  cases Runs.run (step topiclist) s.world ((List.finRange maxTimerNum).map
      fun num : Fin maxTimerNum => ⟨.visit num systick num.isLt, env num⟩) with
  | error f => rfl
  | ok w =>
    show testTurn systick (env maxTimerNum) { s with world := w } =
      Runs.run taskStep { s with world := w } [.test systick (env maxTimerNum)]
    simp only [Runs.run, taskStep]
    cases testTurn systick (env maxTimerNum) { s with world := w } <;> rfl

/-- The types that the client may send only while it is connected. -/
def requestTypes : List UInt8 :=
  [mqttSnTypeRegister, mqttSnTypePublish, mqttSnTypeSubscribe, mqttSnTypeUnsubscribe,
    mqttSnTypePingreq]

def newlySent (w w' : World) : List Packet := w'.sent.drop w.sent.length

/-- The step handles the CONNACK that the client waits for. -/
def acceptsConnack (w : World) : TaskEvent → Bool
  | .client ⟨.visit num now _, _⟩ _ => timerDue num now w &&
      (w.systime.timerT num).timerCallback = .press .connack && w.client.status = .connecting &&
      w.headFrame = some [3, mqttSnTypeConnack, 0]
  | _ => false

def processesDisconnect (w : World) : TaskEvent → Bool
  | .client ⟨.visit num now _, _⟩ _ => timerDue num now w &&
      (w.systime.timerT num).timerCallback = .press .disconnet &&
      w.headFrame.any fun fr =>
        fr[0]? = some (UInt8.ofNat fr.length) && fr[1]? = some mqttSnTypeDisconnect
  | _ => false

/-- Whether a DISCONNECT was sent or handled after the last CONNACK. -/
def trackClosed (s : Task) (e : TaskEvent) (s' : Task) (closed : Bool) : Bool :=
  !acceptsConnack s.world e && (closed || processesDisconnect s.world e ||
    (newlySent s.world s'.world).any fun pk => pk.cmd = mqttSnTypeDisconnect)

/-- TaskRequests are sent in a step that finds and leaves the client connected, and the client
is not connected after a DISCONNECT until the next CONNACK. -/
def PhaseSafe (s : Task × Bool) (_ : TaskEvent) (s' : Task × Bool) : Prop :=
  (∀ pk ∈ newlySent s.1.world s'.1.world, pk.cmd ∈ requestTypes →
      s.1.world.client.status = .connected ∧ s'.1.world.client.status = .connected) ∧
    (s'.2 = true → s'.1.world.client.status ≠ .connected)

/-- The callback sends a request whatever the status is. -/
def RetriesRequest (w : World) : Callback → Prop
  | .sendRegisterCb => ∃ i t, Registering w.topicMap i t
  | .pingreqTimeoutCb => w.client.pingReqResLostNum + 1 ≤ mqttSnCilentNadv
  | .publishTimeoutCb | .subscribeTimeoutCb | .subscribeTimeoutIdCb => True
  | _ => False

/-- A retry runs only while the client is connected; so does the task while it counts to 15,
and there, where it sends the DISCONNECT, the client is not connected any more. -/
def InPhase (s : Task × Bool) : TaskEvent → Prop
  | .client ⟨.visit num now _, _⟩ _ => timerDue num now s.1.world = true →
      RetriesRequest s.1.world (s.1.world.systime.timerT num).timerCallback →
        s.1.world.client.status = .connected
  | .client _ _ => True
  | .test systick _ => testDue systick s.1.world = true →
      (s.1.flag < 15 → s.1.world.client.status = .connected) ∧
        (s.1.flag = 15 → s.1.world.client.status ≠ .connected)

theorem newlySent_of_append {w w' : World} {new : List Packet} (h : w'.sent = w.sent ++ new) :
    newlySent w w' = new := by
  rw [newlySent, h, List.drop_left]

theorem newlySent_self (w : World) : newlySent w w = [] := List.drop_length

/-- The datagrams of a step have the types that it may send. -/
theorem Touches.newlySent_cmd {F : List Field} {T : List UInt8} {w w' : World}
    (h : Touches F T w w') {pk : Packet} (hpk : pk ∈ newlySent w w') : pk.cmd ∈ T := by
  obtain ⟨new, hnew, hcmd⟩ := h.emits
  rw [newlySent_of_append hnew] at hpk
  exact hcmd pk hpk

variable {env : Env} {cb : Callback} {arg : Arg} {w u : World}

/-- The ping is sent again, or after the last loss a DISCONNECT goes out. -/
theorem ping_cases (env : Env) (w : World) :
    (w.client.pingReqResLostNum + 1 ≤ mqttSnCilentNadv ∧
        (mqttSnClientPingreqTimeoutCb env w).client.status = w.client.status ∧
        ∃ pk, newlySent w (mqttSnClientPingreqTimeoutCb env w) = [pk] ∧
          pk.cmd = mqttSnTypePingreq) ∨
      ¬w.client.pingReqResLostNum + 1 ≤ mqttSnCilentNadv ∧
        (mqttSnClientPingreqTimeoutCb env w).client.status = .disconnecting ∧
        ∃ pk, newlySent w (mqttSnClientPingreqTimeoutCb env w) = [pk] ∧
          pk.cmd = mqttSnTypeDisconnect := by
  simp only [mqttSnClientPingreqTimeoutCb]
  split_ifs with hlost
  · exact Or.inl ⟨hlost, rfl, ⟨_, _, [_, _] ++ _⟩, newlySent_of_append rfl, rfl⟩
  · exact Or.inr ⟨hlost, rfl, ⟨_, _, [_, _] ++ _⟩, newlySent_of_append rfl, rfl⟩

/-- While the client is not connected, the tick sends nothing. -/
theorem mqttSnClientCyclic_silent (hst : w.client.status ≠ .connected)
    (h : mqttSnClientCyclic env topiclist w = .ok u) : newlySent w u = [] := by
  rcases mqttSnClientCyclic_ok h with ⟨-, rfl⟩ | ⟨hconnected, -⟩
  · exact newlySent_self w
  · exact absurd hconnected hst

/-- A callback that retries in phase sends its requests while the client is connected. -/
theorem callback_requests (h : runCallback topiclist env cb arg w = .ok u)
    (hphase : RetriesRequest w cb → w.client.status = .connected) {pk : Packet}
    (hpk : pk ∈ newlySent w u) (hreq : pk.cmd ∈ requestTypes) :
    w.client.status = .connected ∧ u.client.status = .connected := by
  have htouch := runCallback_touches h
  have hcmd := htouch.newlySent_cmd hpk
  -- a callback that leaves the status alone has sent while it was what it is now
  have hkeep : Field.status ∉ cb.changes → w.client.status = .connected →
      w.client.status = .connected ∧ u.client.status = .connected :=
    fun hno hst => ⟨hst, (htouch.same .status hno).trans hst⟩
  cases cb with
  | null => cases arg <;> cases h
  | press api =>
    exfalso
    revert hreq
    cases api <;> simp only [Callback.emits, List.mem_singleton, List.not_mem_nil] at hcmd <;>
      rw [hcmd] <;> decide
  | sendConnectCb =>
    exfalso
    rw [List.mem_singleton.mp hcmd] at hreq
    revert hreq
    decide
  | sendRegisterCb =>
    by_cases hany : ∃ i t, Registering w.topicMap i t
    · exact hkeep (by decide) (hphase hany)
    · have hsend := runCallback_register h
      rw [mqttSnSendRegisterCb_none fun hi => hany ⟨_, _, hi⟩] at hsend
      cases hsend
      rw [newlySent_self] at hpk
      cases hpk
  | pingreqTimeoutCb =>
    obtain rfl := runCallback_pingTimeout h
    rcases ping_cases env w with ⟨hlost, hst, -⟩ | ⟨-, -, sent, hsent, hdis⟩
    · exact ⟨hphase hlost, hst.trans (hphase hlost)⟩
    · rw [hsent, List.mem_singleton] at hpk
      rw [hpk, hdis] at hreq
      exact absurd hreq (by decide)
  | publishTimeoutCb => exact hkeep (by decide) (hphase trivial)
  | subscribeTimeoutCb => exact hkeep (by decide) (hphase trivial)
  | subscribeTimeoutIdCb => exact hkeep (by decide) (hphase trivial)
  | cyclicCb =>
    have hcyc := runCallback_cyclic h
    by_cases hst : w.client.status = .connected
    · exact hkeep (by decide) hst
    · rw [mqttSnClientCyclic_silent hst hcyc] at hpk
      cases hpk

/-- A callback that sends DISCONNECT leaves the client not connected. -/
theorem callback_disconnects (h : runCallback topiclist env cb arg w = .ok u) {pk : Packet}
    (hpk : pk ∈ newlySent w u) (hdis : pk.cmd = mqttSnTypeDisconnect) :
    u.client.status ≠ .connected := by
  have hcmd := (runCallback_touches h).newlySent_cmd hpk
  rw [hdis] at hcmd
  by_cases hping : cb = .pingreqTimeoutCb
  · subst hping
    obtain rfl := runCallback_pingTimeout h
    rcases ping_cases env w with ⟨-, -, sent, hsent, hreq⟩ | ⟨-, hst, -⟩
    · rw [hsent, List.mem_singleton] at hpk
      rw [hpk, hreq] at hdis
      cases hdis
    · rw [hst]
      decide
  · exfalso
    revert hcmd
    cases cb with
    | press api => cases api <;> decide
    | pingreqTimeoutCb => exact absurd rfl hping
    | _ => decide

/-- A DISCONNECT that is handled ends the connection. -/
theorem apiDisconnetPress_ends (hw : Sound w) {fr : List UInt8} (hhead : w.headFrame = some fr)
    (htype : fr[1]? = some mqttSnTypeDisconnect) (h : apiDisconnetPress env w = .ok u) :
    u.client.status = .notconnect := by
  rcases press_frame hw h with ⟨fr', hhead', -, -, hbody⟩ | ⟨hno, -⟩
  · obtain rfl := Option.some.inj (hhead.symm.trans hhead')
    obtain ⟨hlen, hone⟩ := List.getElem?_eq_some_iff.mp htype
    have hread := memcpy_inside env.inputdata 0 fr 1 hlen
    rw [Nat.zero_add] at hread
    rw [if_pos (hread.trans hone)] at hbody
    cases hbody
    rfl
  · cases hno fr hhead

/-- What the program keeps of the client: the client is sound, its topics are in order, what
it may publish again fits into a datagram, and no timer repeats a SUBSCRIBE. -/
structure TaskWorld (w : World) : Prop where
  sound : Sound w
  bound : TopicsBound topiclist w
  payload : w.publishinfor.dataLenth.toNat ≤ mqttSnMaxPayloadLength
  keepAlive : w.client.keepAlive.toNat ≤ mqttSnMaxPayloadLength
  subscribed : ∀ i t, w.systime.live i = some t →
    t.timerCallback ≠ .subscribeTimeoutCb ∧ t.timerCallback ≠ .subscribeTimeoutIdCb

theorem mqttSnSendPublish_payload {topicId : UInt16} {topicType : UInt8} {data : DataPtr}
    {dataLen : UInt16} {qos : Int8} {retain dup : UInt8}
    (h : mqttSnSendPublish env topicId topicType data dataLen qos retain dup w = .ok u)
    (hw : w.publishinfor.dataLenth.toNat ≤ mqttSnMaxPayloadLength) :
    u.publishinfor.dataLenth.toNat ≤ mqttSnMaxPayloadLength := by
  simp only [mqttSnSendPublish] at h
  split_ifs at h with hlong
  · cases h
    exact not_lt.mp hlong
  · cases h
    exact hw

theorem runCallback_payload (h : runCallback topiclist env cb arg w = .ok u)
    (hw : w.publishinfor.dataLenth.toNat ≤ mqttSnMaxPayloadLength) :
    u.publishinfor.dataLenth.toNat ≤ mqttSnMaxPayloadLength := by
  by_cases hpub : cb = .publishTimeoutCb
  · subst hpub
    cases arg with
    | publishinfor => exact mqttSnSendPublish_payload h hw
    | client => exact mqttSnSendPublish_payload h hw
    | _ => cases h
  · have hsame : u.publishinfor = w.publishinfor := by
      apply (runCallback_touches h).same .publishinfor
      cases cb with
      | press api => cases api <;> decide
      | publishTimeoutCb => exact absurd rfl hpub
      | _ => decide
    rw [hsame]
    exact hw

theorem runCallback_keepAlive (h : runCallback topiclist env cb arg w = .ok u)
    (hw : w.client.keepAlive.toNat ≤ mqttSnMaxPayloadLength) :
    u.client.keepAlive.toNat ≤ mqttSnMaxPayloadLength := by
  by_cases hconn : cb = .sendConnectCb
  · subst hconn
    rcases mqttSnSendConnectCb_ok (runCallback_connect h) with ⟨-, rfl⟩ | ⟨-, hsend⟩
    · exact hw
    · rw [(mqttSnSendConnect_watch hsend).2.1]
      decide
  · have hsame : u.client.keepAlive = w.client.keepAlive := by
      apply (runCallback_leaves h).same .keepAlive
      cases cb with
      | press api => cases api <;> decide
      | sendConnectCb => exact absurd rfl hconn
      | _ => decide
    rw [hsame]
    exact hw

/-- A callback that is no retry of a SUBSCRIBE arms none. -/
theorem arms_no_subscribe {cb cb' : Callback} (hsub : cb' = .subscribeTimeoutCb ∨
    cb' = .subscribeTimeoutIdCb) (h : cb' ∈ cb.arms) : cb = cb' := by
  rcases hsub with rfl | rfl
  all_goals
    revert h
    cases cb with
    | press api => cases api <;> decide
    | _ => decide

theorem TaskWorld.step {e : Event} (hw : TaskWorld w) (hown : ∀ call, e.action ≠ .app call)
    (h : step topiclist w e = .ok u) : TaskWorld u := by
  obtain ⟨hsound, hbound⟩ := topicsBound_step w e u ⟨hw.sound, hw.bound⟩
    (fun name => hown (.sendRegister name)) h
  obtain ⟨action, env⟩ := e
  cases action with
  | app call => exact absurd rfl (hown call)
  | recv p addr port =>
    cases h
    obtain ⟨rx, b, g, s, heq, hs⟩ := udpServerRecvCb_received env p addr port w
    refine ⟨hsound, hbound, ?_, ?_, ?_⟩
    · rw [heq]
      exact hw.payload
    · rw [heq]
      exact hw.keepAlive
    · intro i t ht
      rw [heq] at ht
      rcases hs.origin hw.sound.timers_wf ht with hold | ⟨-, api, hnew⟩
      · exact hw.subscribed i t hold
      · rw [hnew]
        exact ⟨Callback.noConfusion, Callback.noConfusion⟩
  | visit num now hnum =>
    rcases timerVisit_ok hw.sound hnum h with
      ⟨-, rfl⟩ | ⟨t, v, s, -, ht, -, hrun, -, -, rfl, -, hlive⟩
    · exact hw
    have hpayload := runCallback_payload hrun hw.payload
    have hkeepAlive := runCallback_keepAlive hrun hw.keepAlive
    refine ⟨hsound, hbound, hpayload, hkeepAlive, ?_⟩
    intro i t' ht'
    have hv := visit_live hlive ht'
    have hold : ∀ {cb'}, t'.timerCallback = cb' → cb' ∉ t.timerCallback.arms →
        w.systime.live i = some t' := by
      rintro _ rfl hno
      exact runCallback_live_old hw.sound hrun hv hno
    have hkind := hw.subscribed num t ht
    constructor
    · intro hsub
      have hno := fun hmem => hkind.1 (arms_no_subscribe (Or.inl rfl) hmem)
      exact (hw.subscribed i t' (hold hsub hno)).1 hsub
    · intro hsub
      have hno := fun hmem => hkind.2 (arms_no_subscribe (Or.inr rfl) hmem)
      exact (hw.subscribed i t' (hold hsub hno)).2 hsub

/-- What the requests of the task do: the status stays, nothing but these types is sent, and
no timer but the one of PUBLISH is armed. -/
structure TaskRequests (w w' : World) : Prop where
  touches : Touches [.pktId, .pending .publish, .pending .subscaribe, .pending .unsubscaribe,
    .publishinfor, .subscribeInfor]
    [mqttSnTypePublish, mqttSnTypeSubscribe, mqttSnTypeUnsubscribe] w w'
  acts : Acts [.publishTimeoutCb] [] w w'
  leaves : Leaves [] w w'
  payload : w.publishinfor.dataLenth.toNat ≤ mqttSnMaxPayloadLength →
    w'.publishinfor.dataLenth.toNat ≤ mqttSnMaxPayloadLength

theorem TaskRequests.refl (w : World) : TaskRequests w w := ⟨.refl w, .refl w, .refl w, id⟩

theorem TaskRequests.trans {w w' w'' : World} (h : TaskRequests w w') (h' : TaskRequests w' w'') :
    TaskRequests w w'' :=
  ⟨h.touches.trans h'.touches, h.acts.trans h'.acts, h.leaves.trans h'.leaves,
    fun hw => h'.payload (h.payload hw)⟩

theorem TaskRequests.taskWorld (h : TaskRequests w u) (hw : TaskWorld w) : TaskWorld u := by
  refine ⟨hw.sound.acts h.acts, hw.bound.touches h.touches (by decide) (by decide) (by decide),
    h.payload hw.payload, ?_, ?_⟩
  · rw [show u.client.keepAlive = w.client.keepAlive from
      h.leaves.same .keepAlive List.not_mem_nil]
    exact hw.keepAlive
  · intro i t ht
    by_cases hpub : t.timerCallback = .publishTimeoutCb
    · rw [hpub]
      exact ⟨Callback.noConfusion, Callback.noConfusion⟩
    · refine hw.subscribed i t (h.acts.live_old hw.sound.timers_wf ht ?_)
      rwa [List.mem_singleton]

/-- A SUBSCRIBE with QoS 0 has no timer. -/
theorem mqttSnSendSubscribeTopicName_requests {topicName : CString} {dup : UInt8}
    (h : mqttSnSendSubscribeTopicName env topicName 0 dup w = .ok u) : TaskRequests w u := by
  refine ⟨(mqttSnSendSubscribeTopicName_touches h).mono (by decide) (by decide), ?_,
    mqttSnSendSubscribeTopicName_leaves h, ?_⟩
  · simp only [mqttSnSendSubscribeTopicName] at h
    split_ifs at h with _ hqos
    · exact absurd hqos (by decide)
    · cases h
      exact .same rfl rfl rfl
  · have hsame := (mqttSnSendSubscribeTopicName_touches h).same .publishinfor (by decide)
    rw [show u.publishinfor = w.publishinfor from hsame]
    exact id

theorem mqttSnSendUnsubscribeTopicName_requests {topicName : CString}
    (h : mqttSnSendUnsubscribeTopicName topicName w = .ok u) : TaskRequests w u := by
  refine ⟨(mqttSnSendUnsubscribeTopicName_touches h).mono (by decide) (by decide),
    mqttSnSendUnsubscribeTopicName_acts h, mqttSnSendUnsubscribeTopicName_leaves h, ?_⟩
  have hsame := (mqttSnSendUnsubscribeTopicName_touches h).same .publishinfor (by decide)
  rw [show u.publishinfor = w.publishinfor from hsame]
  exact id

theorem mqttSnSendPublish_requests {topicId : UInt16} {topicType : UInt8} {data : DataPtr}
    {dataLen : UInt16} {qos : Int8} {retain dup : UInt8}
    (h : mqttSnSendPublish env topicId topicType data dataLen qos retain dup w = .ok u) :
    TaskRequests w u :=
  ⟨(mqttSnSendPublish_touches h).mono (by decide) (by decide), mqttSnSendPublish_acts h,
    mqttSnSendPublish_leaves h, mqttSnSendPublish_payload h⟩

/-- The datagrams of two steps. -/
theorem TaskRequests.newlySent_append {w w' w'' : World} (h : TaskRequests w w')
    (h' : TaskRequests w' w'') :
    newlySent w w'' = newlySent w w' ++ newlySent w' w'' := by
  obtain ⟨new, hnew, -⟩ := h.touches.emits
  obtain ⟨new', hnew', -⟩ := h'.touches.emits
  rw [newlySent_of_append hnew, newlySent_of_append hnew',
    newlySent_of_append (by rw [hnew', hnew, List.append_assoc])]

theorem Touches.no_publish {F : List Field} {T : List UInt8} (h : Touches F T w u)
    (hT : mqttSnTypePublish ∉ T) : ∀ pk ∈ newlySent w u, pk.cmd ≠ mqttSnTypePublish := by
  intro pk hpk hcmd
  exact hT (hcmd ▸ h.newlySent_cmd hpk)

theorem no_publish_self (w : World) : ∀ pk ∈ newlySent w w, pk.cmd ≠ mqttSnTypePublish := by
  intro pk hpk
  rw [newlySent_self] at hpk
  cases hpk

/-- While the counter is below 15, an iteration that is due publishes once, with what
`GetTopicID` returns for the first topic. -/
theorem testBody_steps {s s' : Task} (hflag : s.flag < 15) (h : testBody env s = .ok s') :
    ∃ v u, TaskRequests s.world v ∧ (∀ pk ∈ newlySent s.world v, pk.cmd ≠ mqttSnTypePublish) ∧
      mqttSnSendPublish env (getTopicID topiclist.names[0] v.topicMap).toUInt16
        mqttSnTopicTypeNormal (.app (asArray helloMsg.bytes)) (UInt16.ofNat helloMsg.strlen) 1 1 0
        v = .ok u ∧
      TaskRequests u s'.world ∧
      ∀ pk ∈ newlySent u s'.world, pk.cmd ≠ mqttSnTypePublish := by
  obtain ⟨v, hv, h⟩ := Runs.bind_ok.mp h
  have hfirst : TaskRequests s.world v.world ∧ v.flag < 15 ∧
      ∀ pk ∈ newlySent s.world v.world, pk.cmd ≠ mqttSnTypePublish := by
    unfold testSubscribe at hv
    split_ifs at hv
    · obtain ⟨name, -, hv⟩ := Runs.bind_ok.mp hv
      obtain ⟨u, hsub, hv⟩ := Runs.bind_ok.mp hv
      cases hv
      exact ⟨mqttSnSendSubscribeTopicName_requests hsub, by show (1 : UInt32) < 15; decide,
        (mqttSnSendSubscribeTopicName_touches hsub).no_publish (by decide)⟩
    · cases hv
      exact ⟨.refl _, hflag, no_publish_self _⟩
  obtain ⟨hsub, hlow, hnone⟩ := hfirst
  unfold testPublish at h
  rw [if_pos hlow] at h
  obtain ⟨name, hname, h⟩ := Runs.bind_ok.mp h
  cases hname
  obtain ⟨u, hpub, h⟩ := Runs.bind_ok.mp h
  refine ⟨v.world, u, hsub, hnone, hpub, ?_⟩
  dsimp only at h
  split_ifs at h
  · obtain ⟨second, -, h⟩ := Runs.bind_ok.mp h
    obtain ⟨x, hunsub, h⟩ := Runs.bind_ok.mp h
    cases h
    exact ⟨mqttSnSendUnsubscribeTopicName_requests hunsub,
      (mqttSnSendUnsubscribeTopicName_touches hunsub).no_publish (by decide)⟩
  · cases h
    exact ⟨.refl _, no_publish_self _⟩

/-- The requests of the task, of which one is the PUBLISH. -/
theorem testBody_counting {s s' : Task} (hflag : s.flag < 15) (h : testBody env s = .ok s') :
    TaskRequests s.world s'.world ∧
      ∃ pk ∈ newlySent s.world s'.world, pk.cmd = mqttSnTypePublish := by
  obtain ⟨v, u, hsub, -, hpub, hlast, -⟩ := testBody_steps hflag h
  have hreq := mqttSnSendPublish_requests hpub
  have hsent := newlySent_of_append (mqttSnSendPublish_record hpub).1
  refine ⟨(hsub.trans hreq).trans hlast, ?_⟩
  rw [(hsub.trans hreq).newlySent_append hlast, hsub.newlySent_append hreq, hsent]
  exact ⟨_, List.mem_append_left _ (List.mem_append_right _ (List.mem_singleton_self _)), rfl⟩

/-- The PUBLISH of the task carries what `GetTopicID` returns for the first topic. -/
theorem testBody_publishes {s s' : Task} (hflag : s.flag < 15) (h : testBody env s = .ok s')
    {pk : Packet} (hpk : pk ∈ newlySent s.world s'.world) (hcmd : pk.cmd = mqttSnTypePublish) :
    u16At (asArray pk.data) 3 = (getTopicID topiclist.names[0] s.world.topicMap).toUInt16 := by
  obtain ⟨v, u, hsub, hbefore, hpub, hlast, hafter⟩ := testBody_steps hflag h
  have hreq := mqttSnSendPublish_requests hpub
  have hmap : v.topicMap = s.world.topicMap := hsub.touches.same .topicMap (by decide)
  rw [(hsub.trans hreq).newlySent_append hlast, hsub.newlySent_append hreq,
    newlySent_of_append (mqttSnSendPublish_record hpub).1] at hpk
  rcases List.mem_append.mp hpk with hpk | hpk
  · rcases List.mem_append.mp hpk with hpk | hpk
    · exact absurd hcmd (hbefore pk hpk)
    · rw [List.mem_singleton.mp hpk, ← hmap]
      exact u16At_le16 _ 3 _ rfl rfl
  · exact absurd hcmd (hafter pk hpk)

theorem testBody_disconnects {s : Task} (hflag : s.flag = 15) :
    testBody env s = .ok { world := mqttSnSendDisconnectTopicId 0 s.world, flag := s.flag + 1 } := by
  obtain ⟨w, flag⟩ := s
  cases hflag
  rfl

theorem testBody_done {s : Task} (hflag : 15 < s.flag) : testBody env s = .ok s := by
  have hzero : s.flag ≠ 0 := by
    intro h
    rw [h] at hflag
    exact absurd hflag (by decide)
  have hbelow : ¬s.flag < 15 := UInt32.not_lt.mpr (UInt32.le_of_lt hflag)
  have hne : s.flag ≠ 15 := by
    intro h
    rw [h] at hflag
    exact absurd hflag (by decide)
  have hfirst : testSubscribe env s = .ok s := if_neg hzero
  rw [testBody, hfirst]
  show testPublish env s = .ok s
  rw [testPublish, if_neg hbelow, if_neg hne]

theorem mqttSnSendPublish_sends {dataLen : UInt16} (hlen : dataLen.toNat ≤ mqttSnMaxPayloadLength)
    (env : Env) (topicId : UInt16) (topicType : UInt8) (data : DataPtr) (qos : Int8)
    (retain dup : UInt8) (w : World) :
    ∃ u, mqttSnSendPublish env topicId topicType data dataLen qos retain dup w = .ok u ∧
      ∃ pk ∈ newlySent w u, pk.cmd = mqttSnTypePublish := by
  obtain ⟨u, hu⟩ : ∃ u, mqttSnSendPublish env topicId topicType data dataLen qos retain dup w =
      .ok u := by
    simp only [mqttSnSendPublish]
    rw [if_neg (not_lt.mpr hlen)]
    split_ifs
    · exact ⟨_, rfl⟩
    · exact ⟨_, rfl⟩
  refine ⟨u, hu, ?_⟩
  rw [newlySent_of_append (mqttSnSendPublish_record hu).1]
  exact ⟨_, List.mem_singleton_self _, rfl⟩

theorem testSubscribe_returns (env : Env) (s : Task) : ∃ v, testSubscribe env s = .ok v := by
  unfold testSubscribe
  split_ifs
  · exact ⟨_, rfl⟩
  · exact ⟨_, rfl⟩

theorem testPublish_returns (env : Env) (s : Task) : ∃ s', testPublish env s = .ok s' := by
  unfold testPublish
  split_ifs
  · have hshort : (UInt16.ofNat helloMsg.strlen).toNat ≤ mqttSnMaxPayloadLength := by decide
    obtain ⟨u, hu, -⟩ := mqttSnSendPublish_sends hshort env
      (getTopicID topiclist.names[0] s.world.topicMap).toUInt16 mqttSnTopicTypeNormal
      (.app (asArray helloMsg.bytes)) 1 1 0 s.world
    have hfirst : topicAt 0 = .ok topiclist.names[0] := rfl
    by_cases hten : s.flag + 1 = 10
    -- the tenth message is followed by the UNSUBSCRIBE
    · obtain ⟨x, hx⟩ : ∃ x, mqttSnSendUnsubscribeTopicName topiclist.names[1] u = .ok x :=
        ⟨_, rfl⟩
      refine ⟨{ world := x, flag := s.flag + 1 }, Runs.bind_ok.mpr ⟨_, hfirst, ?_⟩⟩
      refine Runs.bind_ok.mpr ⟨u, hu, ?_⟩
      dsimp only
      rw [if_pos hten]
      exact Runs.bind_ok.mpr ⟨topiclist.names[1], rfl, Runs.bind_ok.mpr ⟨x, hx, rfl⟩⟩
    · refine ⟨{ world := u, flag := s.flag + 1 }, Runs.bind_ok.mpr ⟨_, hfirst, ?_⟩⟩
      exact Runs.bind_ok.mpr ⟨u, hu, if_neg hten⟩
  · exact ⟨_, rfl⟩
  · exact ⟨_, rfl⟩

theorem testBody_returns (env : Env) (s : Task) : ∃ s', testBody env s = .ok s' := by
  obtain ⟨v, hv⟩ := testSubscribe_returns env s
  obtain ⟨s', hs'⟩ := testPublish_returns env v
  exact ⟨s', Runs.bind_ok.mpr ⟨v, hv, hs'⟩⟩

/-- Out of phase, a retry that is due sends a request. -/
theorem retry_sends (env : Env) (hw : TaskWorld w) (hreq : RetriesRequest w cb)
    (harg : arg ∈ cb.takes)
    (hsub : cb ≠ .subscribeTimeoutCb ∧ cb ≠ .subscribeTimeoutIdCb) :
    ∃ u, runCallback topiclist env cb arg w = .ok u ∧
      ∃ pk ∈ newlySent w u, pk.cmd ∈ requestTypes := by
  cases cb with
  | sendRegisterCb =>
    obtain rfl := List.mem_singleton.mp harg
    obtain ⟨i, t, hi⟩ := hreq
    obtain ⟨name, hname⟩ : ∃ name, topiclist.names[i]? = some name := by
      rw [← hw.bound.names, List.getElem?_map, hi.1]
      exact ⟨_, rfl⟩
    have hone : mqttSnSendRegisterCb env topiclist w = _ :=
      mqttSnSendRegisterCb_one hi (fun hj => hw.bound.unique hj hi) hname
    have hfits := topiclist.fits name (List.mem_of_getElem? hname)
    refine ⟨_, hone.trans (if_neg (by omega)),
      ⟨w.remoteIp, w.remotePort, registerMsg w.client.pktId name⟩, ?_,
      by simp [Packet.cmd, registerMsg, requestTypes]⟩
    rw [newlySent_of_append rfl]
    exact List.mem_singleton_self _
  | pingreqTimeoutCb =>
    obtain rfl := List.mem_singleton.mp harg
    rcases ping_cases env w with ⟨-, -, pk, hsent, hcmd⟩ | ⟨hno, -⟩
    · refine ⟨_, rfl, pk, ?_, ?_⟩
      · rw [hsent]
        exact List.mem_singleton_self pk
      · rw [hcmd]
        decide
    · exact absurd hreq hno
  | publishTimeoutCb =>
    -- from either record the datagram is short enough
    have hsend : ∀ p : PubInfor, p.dataLenth.toNat ≤ mqttSnMaxPayloadLength →
        ∃ u, mqttSnClientPublishTimeoutCb env p w = .ok u ∧
          ∃ pk ∈ newlySent w u, pk.cmd ∈ requestTypes := by
      intro p hp
      obtain ⟨u, hu, pk, hpk, hcmd⟩ := mqttSnSendPublish_sends hp env p.topicId p.topicType p.data
        p.qos p.retain p.dup.toUInt8 w
      refine ⟨u, hu, pk, hpk, ?_⟩
      rw [hcmd]
      decide
    cases arg with
    | publishinfor => exact hsend w.publishinfor hw.payload
    | client => exact hsend w.client.asPubInfor hw.keepAlive
    | _ => exact absurd harg (by decide)
  | subscribeTimeoutCb => exact absurd rfl hsub.1
  | subscribeTimeoutIdCb => exact absurd rfl hsub.2
  | _ => exact hreq.elim

/-- What carries the phases through a run. -/
structure PhaseInv (s : Task × Bool) : Prop extends TaskWorld s.1.world where
  closed : s.2 = true → s.1.world.client.status ≠ .connected

/-- A step is safe if its requests go out while the client is connected and the history
variable is set only where it is not. -/
theorem phase_done {s s' : Task × Bool} {e : TaskEvent} (hw : TaskWorld s'.1.world)
    (hreq : ∀ pk ∈ newlySent s.1.world s'.1.world, pk.cmd ∈ requestTypes →
      s.1.world.client.status = .connected ∧ s'.1.world.client.status = .connected)
    (hclosed : s'.2 = true → s'.1.world.client.status ≠ .connected) :
    PhaseInv s' ∧ PhaseSafe s e s' :=
  ⟨⟨hw, hclosed⟩, hreq, hclosed⟩

theorem client_phase {s s' : Task × Bool} {e : Event} {own : ∀ call, e.action ≠ .app call}
    (h : PhaseInv s) (hc : InPhase s (.client e own))
    (hstep : Runs.tracked taskStep trackClosed s (.client e own) = .ok s') :
    PhaseInv s' ∧ PhaseSafe s (.client e own) s' := by
  obtain ⟨⟨w, flag⟩, closed⟩ := s
  obtain ⟨s', closed'⟩ := s'
  obtain ⟨hs', rfl⟩ := Runs.tracked_ok.mp hstep
  obtain ⟨u, hu, hs'⟩ := Runs.bind_ok.mp hs'
  cases hs'
  have hw : TaskWorld w := h.toTaskWorld
  have hnext := hw.step own hu
  obtain ⟨action, env⟩ := e
  cases action with
  | app call => exact absurd rfl (own call)
  | recv p addr port =>
    cases hu
    obtain ⟨rx, b, g, t, heq, -⟩ := udpServerRecvCb_received env p addr port w
    have hsilent : newlySent w (udpServerRecvCb env p addr port w).2 = [] := by
      rw [heq]
      exact newlySent_self w
    refine phase_done hnext (fun pk hpk => ?_) fun hcl => ?_
    · rw [hsilent] at hpk
      cases hpk
    · simp only [trackClosed, acceptsConnack, processesDisconnect, hsilent] at hcl
      have hst := h.closed (by simpa using hcl)
      rw [heq]
      exact hst
  | visit num now hnum =>
    rcases timerVisit_ok hw.sound hnum hu with
      ⟨hdue, rfl⟩ | ⟨t, v, x, hdue, ht, -, hrun, -, -, rfl, -, -⟩
    · refine phase_done hnext (fun pk hpk => ?_) fun hcl => ?_
      · rw [newlySent_self] at hpk
        cases hpk
      · simp only [trackClosed, acceptsConnack, processesDisconnect, hdue, newlySent_self] at hcl
        exact h.closed (by simpa using hcl)
    have hkind := (live_running hw.sound.timers_wf ht).2.2.1
    have hphase : RetriesRequest w t.timerCallback → w.client.status = .connected := by
      intro hreq
      apply hc hdue
      rw [hkind]
      exact hreq
    have hsafe : ∀ pk ∈ newlySent w v, pk.cmd ∈ requestTypes →
        w.client.status = .connected ∧ v.client.status = .connected :=
      fun pk hpk hreq => callback_requests hrun hphase hpk hreq
    refine phase_done hnext hsafe fun hcl hst => ?_
    have hst : v.client.status = .connected := hst
    simp only [trackClosed, acceptsConnack, processesDisconnect, hdue, hkind, Bool.true_and,
      Bool.and_eq_true, Bool.not_eq_true', Bool.or_eq_true] at hcl
    obtain ⟨hno, (hold | hproc) | hsent⟩ := hcl
    -- a connection that was closed is opened only by a CONNACK
    · obtain ⟨hcb, hconn, hhead⟩ := connected_origin hw.sound hrun (h.closed hold) hst
      simp [hcb, hconn, hhead] at hno
    · obtain ⟨hcb, hhead⟩ := hproc
      have hcb : t.timerCallback = .press .disconnet := by simpa using hcb
      obtain ⟨fr, hfr, htype⟩ := (Option.any_eq_true _ _).mp hhead
      rw [Bool.and_eq_true, decide_eq_true_eq, decide_eq_true_eq] at htype
      rw [hcb] at hrun
      rw [apiDisconnetPress_ends hw.sound hfr htype.2 (runCallback_press hrun)] at hst
      cases hst
    · obtain ⟨pk, hpk, hcmd⟩ := List.any_eq_true.mp hsent
      exact callback_disconnects hrun hpk (by simpa using hcmd) hst

theorem mqttSnSendDisconnectTopicId_sends (duration : UInt16) (w : World) :
    ∃ pk, newlySent w (mqttSnSendDisconnectTopicId duration w) = [pk] ∧
      pk.cmd = mqttSnTypeDisconnect := by
  refine ⟨⟨_, _, _⟩, newlySent_of_append rfl, ?_⟩
  simp only [Packet.cmd]
  split_ifs <;> rfl

theorem TaskWorld.disconnects (hw : TaskWorld w) (duration : UInt16) :
    TaskWorld (mqttSnSendDisconnectTopicId duration w) :=
  ⟨hw.sound.acts (Acts.same (K := []) (C := []) rfl rfl rfl),
    hw.bound.touches (mqttSnSendDisconnectTopicId_touches duration w) (by decide) (by decide)
      (by decide), hw.payload, hw.keepAlive, hw.subscribed⟩

theorem flag_cases (flag : UInt32) : flag < 15 ∨ flag = 15 ∨ 15 < flag := by
  by_cases hlow : flag < 15
  · exact Or.inl hlow
  · by_cases heq : flag = 15
    · exact Or.inr (Or.inl heq)
    · exact Or.inr (Or.inr (UInt32.lt_of_le_of_ne (UInt32.not_lt.mp hlow) (Ne.symm heq)))

theorem test_phase {s s' : Task × Bool} {systick : UInt32} {env : Env} (h : PhaseInv s)
    (hc : InPhase s (.test systick env))
    (hstep : Runs.tracked taskStep trackClosed s (.test systick env) = .ok s') :
    PhaseInv s' ∧ PhaseSafe s (.test systick env) s' := by
  obtain ⟨s, closed⟩ := s
  obtain ⟨s', closed'⟩ := s'
  obtain ⟨hs', rfl⟩ := Runs.tracked_ok.mp hstep
  have hw : TaskWorld s.world := h.toTaskWorld
  have hstay : trackClosed s (.test systick env) s closed = true →
      s.world.client.status ≠ .connected := by
    intro hcl
    simp only [trackClosed, acceptsConnack, processesDisconnect, newlySent_self] at hcl
    exact h.closed (by simpa using hcl)
  have hnone : ∀ pk ∈ newlySent s.world s.world, pk.cmd ∈ requestTypes →
      s.world.client.status = .connected ∧ s.world.client.status = .connected := by
    intro pk hpk
    rw [newlySent_self] at hpk
    cases hpk
  have hturn : testTurn systick env s = .ok s' := hs'
  unfold testTurn at hturn
  split_ifs at hturn with hdue
  · obtain ⟨hcount, hend⟩ := hc hdue
    rcases flag_cases s.flag with hflag | hflag | hflag
    · obtain ⟨hreq, -⟩ := testBody_counting hflag hturn
      have hsame : s'.world.client.status = s.world.client.status :=
        hreq.touches.same .status (by decide)
      have hst := hcount hflag
      refine phase_done (hreq.taskWorld hw) (fun _ _ _ => ⟨hst, hsame.trans hst⟩) fun hcl => ?_
      -- no DISCONNECT is among the requests
      have hno : (newlySent s.world s'.world).any (fun pk => pk.cmd = mqttSnTypeDisconnect) =
          false := by
        rw [List.any_eq_false]
        intro pk hpk hcmd
        have hmem := hreq.touches.newlySent_cmd hpk
        rw [of_decide_eq_true hcmd] at hmem
        exact absurd hmem (by decide)
      simp only [trackClosed, acceptsConnack, processesDisconnect, hno] at hcl
      exact absurd hst (h.closed (by simpa using hcl))
    · rw [testBody_disconnects hflag] at hturn
      cases hturn
      have hst := hend hflag
      obtain ⟨pk, hsent, hcmd⟩ := mqttSnSendDisconnectTopicId_sends 0 s.world
      refine phase_done (hw.disconnects 0) (fun pk' hpk hreq => ?_) fun _ => hst
      have hpk : pk' ∈ newlySent s.world (mqttSnSendDisconnectTopicId 0 s.world) := hpk
      rw [hsent, List.mem_singleton] at hpk
      rw [hpk, hcmd] at hreq
      exact absurd hreq (by decide)
    · rw [testBody_done hflag] at hturn
      cases hturn
      exact phase_done hw hnone hstay
  · cases hturn
    exact phase_done hw hnone hstay

theorem phase_step (s : Task × Bool) (e : TaskEvent) (s' : Task × Bool) (h : PhaseInv s)
    (hc : InPhase s e) (hstep : Runs.tracked taskStep trackClosed s e = .ok s') :
    PhaseInv s' ∧ PhaseSafe s e s' := by
  cases e with
  | client e own => exact client_phase h hc hstep
  | test systick env => exact test_phase h hc hstep

/-- A step that is out of phase sends a request too late, or closes the connection and
leaves the client connected. -/
theorem phase_step_breaks (s : Task × Bool) (e : TaskEvent) (h : PhaseInv s)
    (hc : ¬InPhase s e) :
    ∃ s', Runs.tracked taskStep trackClosed s e = .ok s' ∧ ¬PhaseSafe s e s' := by
  obtain ⟨s, closed⟩ := s
  have hw : TaskWorld s.world := h.toTaskWorld
  cases e with
  | client e own =>
    obtain ⟨action, env⟩ := e
    cases action with
    | app call => exact absurd rfl (own call)
    | recv p addr port => exact absurd trivial hc
    | visit num now hnum =>
      simp only [InPhase, Classical.not_imp] at hc
      obtain ⟨hdue, hreq, hst⟩ := hc
      have hlive := timerDue_live hw.sound.timers_wf hnum hdue
      have harg := timerDue_arg_mem hw.sound hnum hdue
      have hsub := hw.subscribed num (s.world.systime.timerT num).untimed hlive
      obtain ⟨u, hu, pk, hpk, hcmd⟩ := retry_sends env hw hreq harg hsub
      obtain ⟨t, x, -, -, -, -, -, -, hvisit, -⟩ := timerVisit_due hw.sound hnum hdue hu
      have hstep : taskStep s (.client ⟨.visit num now hnum, env⟩ own) =
          .ok { s with world := { u with systime := x } } :=
        Runs.bind_ok.mpr ⟨_, hvisit, rfl⟩
      refine ⟨_, Runs.tracked_ok.mpr ⟨hstep, rfl⟩, fun hsafe => hst (hsafe.1 pk hpk hcmd).1⟩
  | test systick env =>
    simp only [InPhase, Classical.not_imp, not_and_or] at hc
    obtain ⟨hdue, ⟨hflag, hst⟩ | ⟨hflag, hst⟩⟩ := hc
    · obtain ⟨s', hs'⟩ := testBody_returns env s
      obtain ⟨-, pk, hpk, hcmd⟩ := testBody_counting hflag hs'
      have hstep : taskStep s (.test systick env) = .ok s' := (if_pos hdue).trans hs'
      refine ⟨_, Runs.tracked_ok.mpr ⟨hstep, rfl⟩, fun hsafe => hst (hsafe.1 pk hpk ?_).1⟩
      rw [hcmd]
      decide
    · have hstep : taskStep s (.test systick env) =
          .ok { world := mqttSnSendDisconnectTopicId 0 s.world, flag := s.flag + 1 } :=
        (if_pos hdue).trans (testBody_disconnects hflag)
      obtain ⟨pk, hsent, hcmd⟩ := mqttSnSendDisconnectTopicId_sends 0 s.world
      refine ⟨_, Runs.tracked_ok.mpr ⟨hstep, rfl⟩, fun hsafe => hsafe.2 ?_ (not_not.mp hst)⟩
      simp [trackClosed, acceptsConnack, hsent, hcmd]

theorem Booted.phaseInv {w : World} (h : Booted topiclist w) :
    PhaseInv (⟨w, 0⟩, false) where
  sound := h.sound
  bound := h.topicsBound
  payload := by
    show w.publishinfor.dataLenth.toNat ≤ _
    rw [h.eq_startup]
    exact Nat.zero_le _
  keepAlive := by
    show w.client.keepAlive.toNat ≤ _
    rw [h.eq_startup]
    exact (by decide : (60 : UInt16).toNat ≤ mqttSnMaxPayloadLength)
  subscribed := by
    intro i t ht
    have ht : w.systime.live i = some t := ht
    rw [h.live_eq] at ht
    rcases (bootTimers_ok ht).1 with ⟨-, hcb⟩ | ⟨-, hcb⟩ <;> rw [hcb] <;> decide
  closed := fun hcl => Bool.noConfusion hcl

/-- A run of the program keeps to the phases of the protocol exactly when all its steps meet
the condition. -/
theorem phase_safe_iff {env : Env} {w : World}
    (hinit : mqttClientInit env (startup topiclist) = .ok w) (es : List TaskEvent) :
    Runs.EachStep (Runs.tracked taskStep trackClosed) PhaseSafe (⟨w, 0⟩, false) es ↔
      Runs.Meets (Runs.tracked taskStep trackClosed) InPhase (⟨w, 0⟩, false) es :=
  Runs.eachStep_iff_meets (J := PhaseInv) (fun s e s' h hc hs => (phase_step s e s' h hc hs).1)
    (fun s e s' h hc hs => (phase_step s e s' h hc hs).2) phase_step_breaks
    (mqttClientInit_booted hinit).phaseInv

/-- The gateway accepts the connection, and the next tick registers the first topic. -/
def connectedEvents : List TaskEvent :=
  [.recv (datagram [3, mqttSnTypeConnack, 0]) 0 10000 quietEnv,
    .visit ⟨2, two_lt_maxTimerNum⟩ 200 quietEnv, .visit ⟨1, one_lt_maxTimerNum⟩ 2000 quietEnv]

theorem phase_safe_connected :
    Runs.EachStep (Runs.tracked taskStep trackClosed) PhaseSafe (⟨bootWorld, 0⟩, false)
      connectedEvents := by
  refine (phase_safe_iff bootWorld_init _).mpr ⟨trivial, fun s hs => ?_⟩
  cases hs
  refine ⟨fun _ hreq => hreq.elim, fun s hs => ?_⟩
  cases hs
  exact ⟨fun _ hreq => hreq.elim, fun _ _ => trivial⟩

/-- The gateway ends the connection, and then the timer of the REGISTER expires. -/
def outlivingEvents : List TaskEvent :=
  connectedEvents ++ [.recv (datagram [2, mqttSnTypeDisconnect]) 0 10000 quietEnv,
    .visit ⟨2, two_lt_maxTimerNum⟩ 2200 quietEnv]

/-- The REGISTER is sent again after the connection was closed. -/
theorem register_outlives_connection :
    ¬∀ (env : Env) (w : World) (es : List TaskEvent),
      mqttClientInit env (startup topiclist) = .ok w →
        Runs.EachStep (Runs.tracked taskStep trackClosed) PhaseSafe (⟨w, 0⟩, false) es := by
  intro h
  have hlast := h quietEnv bootWorld
    (outlivingEvents ++ [.visit ⟨0, zero_lt_maxTimerNum⟩ 20000 quietEnv]) bootWorld_init
    outlivingEvents (.visit ⟨0, zero_lt_maxTimerNum⟩ 20000 quietEnv) [] _ _ rfl rfl rfl
  revert hlast
  simp only [PhaseSafe]
  decide +kernel

end MqttSnClient
