import MqttSnClient.Buff
import MqttSnClient.ImportIndex
import MqttSnClient.Timers
import MqttSnClient.TopicMap
import MqttSnClient.GwList

namespace MqttSnClient
open Memory Bytes

def mqttSnMaxPacketLength : ℕ := 255
def mqttSnMaxPayloadLength : ℕ := mqttSnMaxPacketLength - 7
def mqttSnMaxClientIdLength : ℕ := 23

def mqttSnTypeAdvertise : UInt8 := 0x00
def mqttSnTypeSearchgw : UInt8 := 0x01
def mqttSnTypeGwinfo : UInt8 := 0x02
def mqttSnTypeConnect : UInt8 := 0x04
def mqttSnTypeConnack : UInt8 := 0x05
def mqttSnTypeWilltopicreq : UInt8 := 0x06
def mqttSnTypeWilltopic : UInt8 := 0x07
def mqttSnTypeWillmsgreq : UInt8 := 0x08
def mqttSnTypeWillmsg : UInt8 := 0x09
def mqttSnTypeRegister : UInt8 := 0x0A
def mqttSnTypeRegack : UInt8 := 0x0B
def mqttSnTypePublish : UInt8 := 0x0C
def mqttSnTypePuback : UInt8 := 0x0D
def mqttSnTypePubcomp : UInt8 := 0x0E
def mqttSnTypePubrec : UInt8 := 0x0F
def mqttSnTypePubrel : UInt8 := 0x10
def mqttSnTypeSubscribe : UInt8 := 0x12
def mqttSnTypeSuback : UInt8 := 0x13
def mqttSnTypeUnsubscribe : UInt8 := 0x14
def mqttSnTypeUnsuback : UInt8 := 0x15
def mqttSnTypePingreq : UInt8 := 0x16
def mqttSnTypePingresp : UInt8 := 0x17
def mqttSnTypeDisconnect : UInt8 := 0x18

def mqttSnAccepted : UInt8 := 0x00
def mqttSnRejectedCongestion : UInt8 := 0x01
def mqttSnRejectedInvalid : UInt8 := 0x02

def mqttSnTopicTypeNormal : UInt8 := 0x00
def mqttSnTopicTypePredefined : UInt8 := 0x01

def mqttSnFlagDup : UInt8 := 0x80
def mqttSnFlagQos0 : UInt8 := 0x00
def mqttSnFlagQos1 : UInt8 := 0x20
def mqttSnFlagQos2 : UInt8 := 0x40
def mqttSnFlagQosN1 : UInt8 := 0x60
def mqttSnFlagQosMask : UInt8 := 0x60
def mqttSnFlagRetain : UInt8 := 0x10
def mqttSnFlagClean : UInt8 := 0x04

def mqttSnProtocolId : UInt8 := 0x01
def weakup : UInt8 := 1

def timerIdOfPingreq : UInt8 := 1
def timerIdOfConncet : UInt8 := 2
def timerIdOfRegister : UInt8 := 3
def timerIdOfPublish : UInt8 := 4
def timerIdOfDisconncet : UInt8 := 5
def timerIdOfSubscribe : UInt8 := 6

/-- `MQTTSNSTATUS_T`. -/
inductive Status
  | notconnect
  | connecting
  | connected
  | disconnecting
  | disconnected
  deriving DecidableEq

/-- The enumeration is stored in one byte. -/
def Status.byte : Status → UInt8
  | .notconnect => 0
  | .connecting => 1
  | .connected => 2
  | .disconnecting => 3
  | .disconnected => 4

/-- `PACK_PENDING_LIST`. -/
inductive PackPending
  | reggister
  | publish
  | subscaribe
  | unsubscaribe
  deriving DecidableEq

/-- `MQTT_SN_Client_t`. The gateway list it points to is `World.gwList`. -/
structure Client where
  cyclicTick : UInt32
  keepAlive : UInt16
  serverWatchdog : UInt16
  pingReqResLostNum : UInt8
  clientID : ℕ → UInt8
  pktId : UInt16
  inpubPktId : PackPending → UInt16
  status : Status
  rxBuffer : ImportBuff

/-- `MQTT_SN_GWInfor_t`. -/
structure GwInfor where
  addr : UInt32
  port : UInt16

/-- Where the payload of a PUBLISH is: in a buffer of the application, which leaves
it alone while the client may send it again, or at an address. -/
inductive DataPtr
  | app (bytes : ℕ → UInt8)
  | raw (addr : UInt32)

/-- `MQTT_SN_pub_infor_t`. -/
structure PubInfor where
  data : DataPtr
  dataLenth : UInt16
  topicId : UInt16
  topicType : UInt8
  qos : Int8
  dup : Int8
  retain : UInt8

/-- `MQTT_SN_sub_infor_t`; `subscri` is the memory of the union of a topic id and a
topic name. -/
structure SubInfor where
  subscri : ℕ → UInt8
  qos : Int8
  dup : Int8

/-- The handlers of `g_api_table`. -/
inductive Api
  | advertise
  | gwinfo
  | connack
  | willtopicreq
  | willmsgreq
  | regack
  | puback
  | pubcomp
  | pubrec
  | pubrel
  | suback
  | unsuback
  | disconnet
  | pingres
  | pingreq
  | publish
  deriving DecidableEq

/-- The functions that are given to `TimerAdd`. -/
inductive Callback
  | null
  | press (api : Api)
  | sendConnectCb
  | sendRegisterCb
  | pingreqTimeoutCb
  | publishTimeoutCb
  | subscribeTimeoutCb
  | subscribeTimeoutIdCb
  | cyclicCb
  deriving DecidableEq, Inhabited

/-- The pointers that are given to `TimerAdd`. -/
inductive Arg
  | null
  | gw
  | client
  | publishinfor
  | subscribeInfor
  deriving DecidableEq, Inhabited

/-- A datagram handed to the socket, with its destination. -/
structure Packet where
  addr : UInt32
  port : UInt16
  data : List UInt8
  deriving DecidableEq

structure World where
  client : Client
  gwList : GwList
  gw : GwInfor
  publishinfor : PubInfor
  subscribeInfor : SubInfor
  topicMap : TopicMap
  systime : Timer Callback Arg
  buffBody : LoopBuff
  remoteIp : UInt32
  remotePort : UInt16
  sent : List Packet

/-- Why a step has no result: a `while(1)`, or behaviour that C leaves undefined. -/
inductive Fault
  | hang
  | undefined
  deriving DecidableEq

/-- What a step reads besides the state: the tick, call by call and when a loop timer
is reloaded, the stack memory of `inputdata` and `flag`, and the memory at an address. -/
structure Env where
  tick : ℕ → UInt32
  reload : UInt32
  inputdata : ℕ → UInt8
  flag : UInt8
  mem : UInt32 → UInt8

def DataPtr.read (env : Env) (len : ℕ) : DataPtr → List UInt8
  | .app bytes => slice bytes 0 len
  | .raw addr => slice (fun i => env.mem (addr + UInt32.ofNat i)) 0 len

/-- `My_IP4_ADDR`, as the number that `htonl` makes of the four bytes. -/
def myIp4Addr (a b c d : UInt8) : UInt32 :=
  a.toUInt32 + 0x100 * b.toUInt32 + 0x10000 * c.toUInt32 + 0x1000000 * d.toUInt32

/-- `SockSendDataStream`. -/
def sockSendDataStream (addr : UInt32) (remotePort : UInt16) (datatosend : List UInt8)
    (w : World) : World :=
  { w with sent := w.sent ++ [⟨addr, remotePort, datatosend⟩] }

/-- `MQTTSNClientSendData`: `udp_send` addresses the remote end stored in the socket. -/
def mqttSnClientSendData (datatosend : List UInt8) (w : World) : World :=
  sockSendDataStream w.remoteIp w.remotePort datatosend w

/-- A call of `TimerAdd` whose result is ignored, as all callers do. -/
def addTimer (tick : UInt32) (mode : UInt8) (timeout : UInt32) (cb : Callback) (arg : Arg)
    (timerID : UInt8) (w : World) : World :=
  { w with systime := (timerAdd tick mode timeout cb arg timerID w.systime).2 }

def cancelTimer (timerID : UInt8) (w : World) : World :=
  { w with systime := timerCancelByID timerID w.systime }

def reloadTimer (tick : UInt32) (timerID : UInt8) (w : World) : World :=
  { w with systime := timerReloadByID tick timerID w.systime }

/-- The next packet id, remembered as the pending one of its kind. -/
def Client.takePktId (kind : PackPending) (c : Client) : Client :=
  { c with pktId := c.pktId + 1, inpubPktId := Function.update c.inpubPktId kind c.pktId }

/-- `memcpy` of a client id with its terminator. The terminator of an id that fills
the array falls on the low byte of `pkt_id`. -/
def Client.storeClientID (clientId : CString) (c : Client) : Client :=
  { c with
    clientID := memcpy c.clientID 0 (clientId.bytes ++ [0])
    pktId := if clientId.strlen = mqttSnMaxClientIdLength then c.pktId &&& 0xFF00 else c.pktId }

/-- The characters that `strlen` counts from the start of `clientID`. It reads on into
the fields that follow while it finds no zero; after `MqttSN_Status` stands a padding byte. -/
def Client.clientIDChars (c : Client) : List UInt8 :=
  (slice c.clientID 0 mqttSnMaxClientIdLength ++ le16 c.pktId ++ le16 (c.inpubPktId .reggister) ++
    le16 (c.inpubPktId .publish) ++ le16 (c.inpubPktId .subscaribe) ++
    le16 (c.inpubPktId .unsubscaribe) ++ [c.status.byte]).takeWhile (· ≠ 0)

end MqttSnClient
