import MqttSnClient.Sends

namespace MqttSnClient
open Bytes

/-- The next frame of the receive queues as a handler obtains it: its queued length,
the array that it was read into, the result of `ReadBUFF` and both queues afterwards. -/
structure Frame where
  freamlenth : UInt8
  inputdata : ℕ → UInt8
  result : ℤ
  rxBuffer : ImportBuff
  buffBody : LoopBuff

def nextFrame (env : Env) (w : World) : Frame :=
  let r := readClientImportindex w.client.rxBuffer
  let d := readBUFF (some env.inputdata) r.1.toNat w.buffBody
  { freamlenth := r.1, inputdata := d.2.1.getD env.inputdata, result := d.1
    rxBuffer := r.2, buffBody := d.2.2 }

/-- The world without the frame that was read. -/
def World.consumed (w : World) (f : Frame) : World :=
  { w with client := { w.client with rxBuffer := f.rxBuffer }, buffBody := f.buffBody }

/-- What all handlers but three do: they read one frame, act on the timer table (`pre`),
and run `body` when the frame could be read and its first byte is its length. Where it
is not, the debug build stops in `while(1)`. -/
def press (pre : World → World) (fits : UInt8 → Bool)
    (body : (ℕ → UInt8) → World → Except Fault World) (env : Env) (w : World) :
    Except Fault World :=
  let f := nextFrame env w
  let w := pre (w.consumed f)
  if f.result = errorNone ∧ fits f.freamlenth then
    if f.inputdata 0 = f.freamlenth then body f.inputdata w else .error .hang
  else .ok w

def appendGateway (gwinfor : GwInfor) (gwid : UInt8) (keepalive : UInt16) (w : World) :
    Except Fault World :=
  match gwListappend w.client.cyclicTick gwinfor.addr gwinfor.port gwid keepalive w.gwList with
  | some r => .ok { w with gwList := r.2 }
  | none => .error .undefined

/-- `api_gwinfo_press`, which tests for the type of a SEARCHGW. -/
def apiGwinfoPress (gwinfor : GwInfor) : Env → World → Except Fault World :=
  press id (fun _ => true) fun inputdata w =>
    if inputdata 1 = mqttSnTypeSearchgw then appendGateway gwinfor (inputdata 2) 900 w else .ok w

/-- `api_advertise_press`; the first byte of the duration is shifted out. -/
def apiAdvertisePress (gwinfor : GwInfor) : Env → World → Except Fault World :=
  press id (fun _ => true) fun inputdata w =>
    if inputdata 1 = mqttSnTypeAdvertise then
      let keepalive := (inputdata 3).toUInt16 >>> 8 ||| (inputdata 4).toUInt16
      appendGateway gwinfor (inputdata 2) keepalive w
    else .ok w

/-- `api_connack_press`: the connect timer is cancelled before the frame is read. -/
def apiConnackPress : Env → World → Except Fault World :=
  press (cancelTimer timerIdOfConncet) (fun freamlenth => freamlenth = 3) fun inputdata w =>
    if inputdata 1 = mqttSnTypeConnack ∧ inputdata 2 = 0 ∧ w.client.status = .connecting then
      .ok (mqttSnGetgatewayInfo 10000 { w with client := { w.client with status := .connected } })
    else .ok w

/-- What `api_willtopicreq_press` and `api_willmsgreq` share. -/
def willReqPress (type : UInt8) (send : CString → World → Except Fault World) (env : Env) :
    World → Except Fault World :=
  press (reloadTimer (env.tick 0) timerIdOfConncet) (fun _ => true)
    (fun inputdata w =>
      if inputdata 1 = type ∧ w.client.status = .connecting then send lwipTest w else .ok w) env

def apiWilltopicreqPress : Env → World → Except Fault World :=
  willReqPress mqttSnTypeWilltopicreq mqttSnSendWilltopic

def apiWillmsgreq : Env → World → Except Fault World :=
  willReqPress mqttSnTypeWillmsgreq mqttSnSendWillMSG

/-- `api_pingres_press`. -/
def apiPingresPress : Env → World → Except Fault World :=
  press id (fun _ => true) fun inputdata w =>
    if inputdata 1 = mqttSnTypePingresp ∧ w.client.status = .connected then
      let c := { w.client with serverWatchdog := w.client.keepAlive, pingReqResLostNum := 0 }
      .ok (cancelTimer timerIdOfPingreq { w with client := c })
    else .ok w

/-- `api_pingreq_press`. -/
def apiPingreqPress : Env → World → Except Fault World :=
  press id (fun _ => true) fun inputdata w =>
    if inputdata 1 = mqttSnTypePingreq ∧ w.client.status = .connected then
      .ok (mqttSnClientSendData [2, mqttSnTypePingresp] w)
    else .ok w

/-- `api_regack_press`. -/
def apiRegackPress (env : Env) : World → Except Fault World :=
  press id (fun _ => true)
    (fun inputdata w =>
      if inputdata 1 = mqttSnTypeRegack ∧ w.client.status = .connected ∧
          u16At inputdata 4 = w.client.inpubPktId .reggister then
        let w := cancelTimer timerIdOfRegister w
        if inputdata 6 = mqttSnAccepted then
          .ok { w with topicMap := (topicidRegistered (u16At inputdata 2) w.topicMap).2 }
        else if inputdata 6 = mqttSnRejectedCongestion then
          .ok (addTimer (env.tick 0) timerModeSingle (5*60*1000) .sendRegisterCb .client
            timerIdOfRegister w)
        else
          .ok (addTimer (env.tick 0) timerModeSingle (60*1000) .sendRegisterCb .client
            timerIdOfRegister w)
      else .ok w) env

/-- `api_puback_press`. After a congestion the publish callback is armed with the
address of the client where it expects a publish record. -/
def apiPubackPress (env : Env) : World → Except Fault World :=
  press id (fun _ => true)
    (fun inputdata w =>
      if inputdata 1 = mqttSnTypePuback ∧ w.client.status = .connected ∧
          u16At inputdata 4 = w.client.inpubPktId .publish then
        let pending := Function.update w.client.inpubPktId .publish 0
        let w := { w with client := { w.client with inpubPktId := pending } }
        let w := cancelTimer timerIdOfPublish w
        if inputdata 6 = mqttSnAccepted then .ok w
        else if inputdata 6 = mqttSnRejectedCongestion then
          .ok (addTimer (env.tick 0) timerModeSingle (5*60*1000) .publishTimeoutCb .client
            timerIdOfPublish w)
        else if inputdata 6 = mqttSnRejectedInvalid then
          .ok { w with topicMap := (topicidUnregister (u16At inputdata 2) w.topicMap).2 }
        else .ok w
      else .ok w) env

/-- `api_publish_press`. -/
def apiPublishPress : Env → World → Except Fault World :=
  press id (fun _ => true) fun inputdata w =>
    if inputdata 1 = mqttSnTypePublish ∧ inputdata 2 &&& mqttSnFlagQos1 ≠ 0 then
      .ok (mqttSnSendPublishack (u16At inputdata 5) (u16At inputdata 3) 0 w)
    else .ok w

/-- `api_pubcomp_press`, `api_pubrec_press` and `api_pubrel_press` only print their
names; the frame stays in the queues. -/
def apiPubcompPress (w : World) : Except Fault World := .ok w
def apiPubrecPress (w : World) : Except Fault World := .ok w
def apiPubrelPress (w : World) : Except Fault World := .ok w

/-- `api_suback_press`: it looks for a timer ID that no request arms. -/
def apiSubackPress : Env → World → Except Fault World :=
  press id (fun _ => true) fun inputdata w =>
    if inputdata 1 = mqttSnTypeSuback ∧ u16At inputdata 5 = w.client.inpubPktId .subscaribe then
      .ok (cancelTimer timerIdOfSubscribe w)
    else .ok w

/-- `api_unsuback_press`. -/
def apiUnsubackPress : Env → World → Except Fault World :=
  press id (fun _ => true) fun _ w => .ok w

/-- `api_disconnet_press`. -/
def apiDisconnetPress : Env → World → Except Fault World :=
  press id (fun _ => true) fun inputdata w =>
    if inputdata 1 = mqttSnTypeDisconnect then
      let w := cancelTimer timerIdOfDisconncet w
      .ok { w with client := { w.client with status := .notconnect } }
    else .ok w

/-- The function that a row of `g_api_table` names. -/
def Api.func (api : Api) (env : Env) (gwinfor : GwInfor) : World → Except Fault World :=
  match api with
  | .advertise => apiAdvertisePress gwinfor env
  | .gwinfo => apiGwinfoPress gwinfor env
  | .connack => apiConnackPress env
  | .willtopicreq => apiWilltopicreqPress env
  | .willmsgreq => apiWillmsgreq env
  | .regack => apiRegackPress env
  | .puback => apiPubackPress env
  | .pubcomp => apiPubcompPress
  | .pubrec => apiPubrecPress
  | .pubrel => apiPubrelPress
  | .suback => apiSubackPress env
  | .unsuback => apiUnsubackPress env
  | .disconnet => apiDisconnetPress env
  | .pingres => apiPingresPress env
  | .pingreq => apiPingreqPress env
  | .publish => apiPublishPress env

/-- `g_api_table`. -/
def gApiTable : List (UInt8 × Api) :=
  [(mqttSnTypeAdvertise, .advertise), (mqttSnTypeGwinfo, .gwinfo), (mqttSnTypeConnack, .connack),
    (mqttSnTypeWilltopicreq, .willtopicreq), (mqttSnTypeWillmsgreq, .willmsgreq),
    (mqttSnTypeRegack, .regack), (mqttSnTypePuback, .puback), (mqttSnTypePubcomp, .pubcomp),
    (mqttSnTypePubrec, .pubrec), (mqttSnTypePubrel, .pubrel), (mqttSnTypeSuback, .suback),
    (mqttSnTypeUnsuback, .unsuback), (mqttSnTypeDisconnect, .disconnet),
    (mqttSnTypePingresp, .pingres), (mqttSnTypePingreq, .pingreq), (mqttSnTypePublish, .publish)]

/-- `getAPIFUN`. -/
def getAPIFUN (cmd : UInt8) : Option Api :=
  (gApiTable.find? fun row => row.1 = cmd).map Prod.snd

end MqttSnClient
