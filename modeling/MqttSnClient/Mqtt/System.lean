import MqttSnClient.Mqtt.Receiver

namespace Mqtt
open Bytes

/-- A pbuf chain; `tot_len` has 16 bits. -/
structure Pbuf where
  bytes : List UInt8
  totLen : bytes.length < 2 ^ 16

/-- A call of the application, a callback of TCP, or the cyclic timer. -/
inductive Event
  | connect (cb : Bool) (arg : ℕ) (info : ConnectInfo)
  | publish (topic : CString) (payload : Option (List UInt8)) (payloadLength : UInt16)
      (qos retain : UInt8) (cb : Option RequestCb) (arg : ℕ)
  | subUnsub (topic : CString) (qos : UInt8) (cb : Option RequestCb) (arg : ℕ) (sub : Bool)
  | setInpub (pubCb dataCb : Bool) (arg : ℕ)
  | disconnect
  | connected (err : Err)
  | recv (p : Option Pbuf) (err : Err)
  | sent
  | poll
  | error
  | tick

/-- One event. A callback that is not registered on the pcb is not called, and a tick needs
a timer that is due. -/
def step (net : Net) (w : World) : Event → Except Fault World
  | .connect cb arg info => .ok (connectCall net cb arg info w)
  | .publish topic payload payloadLength qos retain cb arg =>
    publishCall net topic payload payloadLength qos retain cb arg w
  | .subUnsub topic qos cb arg sub => subUnsubCall net topic qos cb arg sub w
  | .setInpub pubCb dataCb arg => .ok (mqttSetInpubCallback pubCb dataCb arg w)
  | .disconnect => mqttDisconnect net w
  | .connected err =>
    if w.pcb = .connecting then mqttTcpConnectCb net err w else .ok w
  | .recv p err =>
    if w.pcb = .established then mqttTcpRecvCb net (p.map Pbuf.bytes) err w else .ok w
  | .sent => if w.pcb = .established then mqttTcpSentCb net w else .ok w
  | .poll => if w.pcb = .established then mqttTcpPollCb net w else .ok w
  | .error => if w.pcb ≠ .closed then mqttTcpErrCb net { w with pcb := .closed } else .ok w
  | .tick =>
    if w.timers > 0 then mqttCyclicTimer net { w with timers := w.timers - 1 } else .ok w

/-- `mqtt_client_new`. -/
def mqttClientNew : World where
  client := .zero
  timers := 0
  pcb := .closed
  wire := []
  log := []
  sends := 0
  dials := 0

def Reachable (net : Net) (w : World) : Prop := ∃ es, Runs.run (step net) mqttClientNew es = .ok w

end Mqtt
