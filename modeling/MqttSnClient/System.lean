import MqttSnClient.Handlers
import MqttSnClient.Lib.Runs

namespace MqttSnClient
open Memory Bytes

/-- `CmdConfirm`; 1 means that the type is refused. -/
def cmdConfirm (cmd : UInt8) : UInt8 :=
  if cmd ≤ 0x1D then if cmd ≠ 0x03 ∧ cmd ≠ 0x11 ∧ cmd ≠ 0x19 then 0 else 1 else 1

/-- A received datagram, whole in one buffer, with the memory that follows it. -/
structure Pbuf where
  payload : ℕ → UInt8
  totLen : UInt16

def Pbuf.bytes (p : Pbuf) : List UInt8 := slice p.payload 0 p.totLen.toNat

/-- The type of a datagram, as the receive callback reads it. -/
def Pbuf.cmd (p : Pbuf) : UInt8 := if p.payload 0 = 0x01 then p.payload 3 else p.payload 1

inductive RecvOutcome
  | cmdRefused
  | noRoom
  | importRefused
  | buffRefused
  | noHandler
  | timerEmpty
  | scheduled (num : ℕ)
  deriving DecidableEq

/-- `mqtt_sn_socket_incomm_cb`. A datagram without a handler is dropped by reading one
frame, which is the oldest one. -/
def mqttSnSocketIncommCb (env : Env) (addr : UInt32) (port : UInt16) (cmd : UInt8) (w : World) :
    RecvOutcome × World :=
  let w := { w with gw := { addr := addr, port := port } }
  match getAPIFUN cmd with
  | some api =>
    let r := timerAdd (env.tick 0) timerModeSingle 100 (.press api) .gw 0 w.systime
    (if r.1 = some errorTimerAddEmpty then .timerEmpty else .scheduled (r.1.getD 0).toNat,
      { w with systime := r.2 })
  | none => (.noHandler, w.consumed (nextFrame env w))

/-- `UdpServer_recv_cb`. -/
def udpServerRecvCb (env : Env) (p : Pbuf) (addr : UInt32) (port : UInt16) (w : World) :
    RecvOutcome × World :=
  let w := { w with remotePort := port, remoteIp := addr }
  if cmdConfirm p.cmd ≠ 0 then (.cmdRefused, w) else
  let rx := w.client.rxBuffer
  if getSpaceofpktinput rx.wPtr rx.rPtr rx.ring ≠ 0 ∧
      buffSpaceget w.buffBody > p.totLen.toNat then
    -- the length is cut to the byte that the parameter holds
    let r := writeClientImportindex (UInt8.ofNat p.totLen.toNat) rx
    let w := { w with client := { w.client with rxBuffer := r.2 } }
    if r.1 ≠ 0 then (.importRefused, w) else
    let r := writeBUFF (some p.bytes) p.totLen.toNat w.buffBody
    let w := { w with buffBody := r.2 }
    if r.1 ≠ errorNone then (.buffRefused, w)
    else mqttSnSocketIncommCb env addr port p.cmd w
  else (.noRoom, w)

/-- A callback called by `TimerCheck`. Calling a null pointer, or giving a callback a
pointer that it does not expect, is undefined, save that the publish callback can be
given the client. -/
def runCallback (topics : Topics) (env : Env) (cb : Callback) (arg : Arg) (w : World) :
    Except Fault World :=
  match cb, arg with
  | .press api, .gw => api.func env w.gw w
  | .sendConnectCb, .client => mqttSnSendConnectCb env w
  | .sendRegisterCb, .client => mqttSnSendRegisterCb env topics w
  | .pingreqTimeoutCb, .client => .ok (mqttSnClientPingreqTimeoutCb env w)
  | .publishTimeoutCb, .publishinfor => mqttSnClientPublishTimeoutCb env w.publishinfor w
  | .publishTimeoutCb, .client => mqttSnClientPublishTimeoutCb env w.client.asPubInfor w
  | .subscribeTimeoutCb, .subscribeInfor => mqttSnClientSubscribeTimeoutCb env w
  | .subscribeTimeoutIdCb, .subscribeInfor => .ok (mqttSnClientSubscribeTimeoutIdCb env w)
  | .cyclicCb, .null => mqttSnClientCyclic env topics w
  | _, _ => .error .undefined

/-- Whether `TimerCheck` runs the timer of a slot. -/
def timerDue (num : ℕ) (nowtimetick : UInt32) (w : World) : Bool :=
  let t := w.systime.timerT num
  t.runing && isTimeOut t.prevTick nowtimetick t.timeOut

/-- One turn of the loop of `TimerCheck`. -/
def timerVisit (topics : Topics) (num : ℕ) (nowtimetick : UInt32) (env : Env) (w : World) :
    Except Fault World :=
  if timerDue num nowtimetick w then do
    let t := w.systime.timerT num
    let w ← runCallback topics env t.timerCallback t.arg w
    if (w.systime.timerT num).loop = timerModeLoop then
      .ok { w with systime := (timerReload env.reload num w.systime).2 }
    else .ok { w with systime := timerStopDel num w.systime }
  else .ok w

/-- `TimerCheck`. -/
def timerCheck (topics : Topics) (nowtimetick : UInt32) (env : ℕ → Env) (w : World) :
    Except Fault World :=
  (List.range maxTimerNum).foldlM (fun w num => timerVisit topics num nowtimetick (env num) w) w

inductive AppCall
  | sendConnect (clientId : CString) (keepalive : UInt16) (flags : UInt8)
  | sendRegister (topicName : CString)
  | sendWilltopic (topicName : CString)
  | sendWillMSG (topicName : CString)
  | sendPingreq (mode : UInt8)
  | sendDisconnect (duration : UInt16)
  | sendDisconnectTopicId (duration : UInt16)
  | getgatewayInfo (remotePort : UInt16)
  | sendPublish (topicId : UInt16) (topicType : UInt8) (data : ℕ → UInt8) (dataLen : UInt16)
      (qos : Int8) (retain dup : UInt8)
  | sendPublishack (messageId topicId : UInt16) (returnCode : UInt8)
  | sendSubscribeTopicName (topicName : CString) (qos : Int8) (dup : UInt8)
  | sendSubscribeTopicId (topicId : UInt16) (qos : Int8) (dup : UInt8)
  | sendUnsubscribeTopicName (topicName : CString)
  | sendUnsubscribeTopicId (topicId : UInt16)

def runAppCall (env : Env) (call : AppCall) (w : World) : Except Fault World :=
  match call with
  | .sendConnect clientId keepalive flags =>
    mqttSnSendConnect (env.tick 0) clientId keepalive flags w
  | .sendRegister topicName => mqttSnSendRegister (env.tick 0) topicName w
  | .sendWilltopic topicName => mqttSnSendWilltopic topicName w
  | .sendWillMSG topicName => mqttSnSendWillMSG topicName w
  | .sendPingreq mode => .ok (mqttSnSendPingreq (env.tick 0) mode w)
  | .sendDisconnect duration => .ok (mqttSnSendDisconnect duration w)
  | .sendDisconnectTopicId duration => .ok (mqttSnSendDisconnectTopicId duration w)
  | .getgatewayInfo remotePort => .ok (mqttSnGetgatewayInfo remotePort w)
  | .sendPublish topicId topicType data dataLen qos retain dup =>
    mqttSnSendPublish env topicId topicType (.app data) dataLen qos retain dup w
  | .sendPublishack messageId topicId returnCode =>
    .ok (mqttSnSendPublishack messageId topicId returnCode w)
  | .sendSubscribeTopicName topicName qos dup =>
    mqttSnSendSubscribeTopicName env topicName qos dup w
  | .sendSubscribeTopicId topicId qos dup => .ok (mqttSnSendSubscribeTopicId env topicId qos dup w)
  | .sendUnsubscribeTopicName topicName => mqttSnSendUnsubscribeTopicName topicName w
  | .sendUnsubscribeTopicId topicId => .ok (mqttSnSendUnsubscribeTopicId topicId w)

/-- What can happen next: a datagram arrives, `TimerCheck` reaches a slot, or the
application calls the client. The receive callback runs in an interrupt, so it can come
between two turns of the loop of `TimerCheck`. -/
inductive Action
  | recv (p : Pbuf) (addr : UInt32) (port : UInt16)
  | visit (num : ℕ) (nowtimetick : UInt32) (valid : num < maxTimerNum)
  | app (call : AppCall)

theorem zero_lt_maxTimerNum : 0 < maxTimerNum := by decide

theorem one_lt_maxTimerNum : 1 < maxTimerNum := by decide

theorem two_lt_maxTimerNum : 2 < maxTimerNum := by decide

structure Event where
  action : Action
  env : Env

def step (topics : Topics) (w : World) (e : Event) : Except Fault World :=
  match e.action with
  | .recv p addr port => .ok (udpServerRecvCb e.env p addr port w).2
  | .visit num nowtimetick _ => timerVisit topics num nowtimetick e.env w
  | .app call => runAppCall e.env call w

/-- The globals after `TimerInit` and `TopicInitConfig`. -/
def startup (topics : Topics) : World where
  client :=
    { cyclicTick := 0, keepAlive := 0, serverWatchdog := 0, pingReqResLostNum := 0
      clientID := fun _ => 0, pktId := 0, inpubPktId := fun _ => 0, status := .notconnect
      rxBuffer := importZero }
  gwList := gwListZero
  gw := { addr := 0, port := 0 }
  publishinfor :=
    { data := .raw 0, dataLenth := 0, topicId := 0, topicType := 0, qos := 0, dup := 0, retain := 0 }
  subscribeInfor := { subscri := fun _ => 0, qos := 0, dup := 0 }
  topicMap := topicInitConfig topics
  systime := timerInit
  buffBody := { buffInit with buffInited := 0 }
  remoteIp := 0
  remotePort := 0
  sent := []

/-- `MQTTClientInit`, from the zeroed client. -/
def mqttClientInit (env : Env) (w : World) : Except Fault World := do
  let w := { w with client := { w.client with pktId := 1 }, buffBody := buffInit }
  let w ← mqttSnSendConnect (env.tick 0) lwipTest 60 (0 ||| mqttSnFlagClean) w
  .ok (addTimer (env.tick 1) timerModeLoop 1000 .cyclicCb .null 0 w)

/-- The turns of a pass of `TimerCheck` as events. -/
def passEvents (nowtimetick : UInt32) (env : ℕ → Env) : List Event :=
  (List.finRange maxTimerNum).map fun num : Fin maxTimerNum =>
    ⟨.visit num nowtimetick num.isLt, env num⟩

/-- A pass of `TimerCheck` is the run of its turns. -/
theorem timerCheck_eq_run (topics : Topics) (nowtimetick : UInt32) (env : ℕ → Env) (w : World) :
    timerCheck topics nowtimetick env w =
      Runs.run (step topics) w (passEvents nowtimetick env) := by
  have hfold : ∀ (nums : List (Fin maxTimerNum)) (w : World),
      (nums.map Fin.val).foldlM
          (fun w num => timerVisit topics num nowtimetick (env num) w) w =
        Runs.run (step topics) w
          (nums.map fun num : Fin maxTimerNum =>
            ⟨.visit num nowtimetick num.isLt, env num⟩) := by
    intro nums
    induction nums with
    | nil => exact fun _ => rfl
    | cons num nums ih =>
      intro w
      simp only [List.map_cons, List.foldlM_cons, Runs.run, step]
      cases timerVisit topics num nowtimetick (env num) w with
      | ok u => exact ih u
      | error e => rfl
  unfold timerCheck passEvents
  rw [← hfold, List.map_coe_finRange_eq_range]

/-- A state that the client reaches after its initialisation. -/
def Reachable (topics : Topics) (w : World) : Prop :=
  ∃ env w0 es, mqttClientInit env (startup topics) = .ok w0 ∧
    Runs.run (step topics) w0 es = .ok w

end MqttSnClient
