import MqttSnClient.Lib.Memory
import MqttSnClient.Lib.Bytes

/-! The output ring of `mqtt.c`: two free-running 16-bit indices into 256 bytes, the
helpers that append to it, and the sender that hands its bytes to TCP. -/
namespace Mqtt
open Memory

def mqttOutputRingbufSize : ℕ := 256

/-- `mqtt_ringbuf_t`. -/
structure MqttRingbuf where
  put : UInt16
  get : UInt16
  buf : ℕ → UInt8

namespace MqttRingbuf

/-- `MQTT_RINGBUF_IDX_MASK` applied to an index. -/
def cell (idx : UInt16) : ℕ := (idx &&& 255).toNat

def mqttRingbufPut (rb : MqttRingbuf) (item : UInt8) : MqttRingbuf :=
  { rb with buf := Function.update rb.buf (cell rb.put) item, put := rb.put + 1 }

def mqttRingbufLen (rb : MqttRingbuf) : ℕ := (rb.put - rb.get).toNat

/-- Computed in `int`: negative once the ring has overflowed. -/
def mqttRingbufFree (rb : MqttRingbuf) : ℤ := mqttOutputRingbufSize - rb.mqttRingbufLen

def mqttRingbufLinearReadLength (rb : MqttRingbuf) : ℕ :=
  min rb.mqttRingbufLen (mqttOutputRingbufSize - cell rb.get)

def mqttRingbufAdvanceGetIdx (rb : MqttRingbuf) (len : ℕ) : MqttRingbuf :=
  { rb with get := rb.get + UInt16.ofNat len }

/-- The bytes that `tcp_write` copies from `mqtt_ringbuf_get_ptr`. -/
def linear (rb : MqttRingbuf) (len : ℕ) : List UInt8 := slice rb.buf (cell rb.get) len

end MqttRingbuf

open MqttRingbuf

/-- What TCP answers during one call of `mqtt_output_send`: the space in its buffer and
whether `tcp_write` takes the bytes, each of them asked at most twice. -/
structure SendAnswer where
  sndbuf : UInt16
  write : Bool
  sndbuf' : UInt16
  write' : Bool

/-- `mqtt_output_send`, with the bytes that `tcp_write` took. -/
def mqttOutputSend (tcp : SendAnswer) (rb : MqttRingbuf) : MqttRingbuf × List UInt8 :=
  let ringbufLinLen := rb.mqttRingbufLinearReadLength
  let sndbuf := tcp.sndbuf.toNat
  if sndbuf = 0 ∨ ringbufLinLen = 0 then (rb, []) else
  let sendLen := min sndbuf ringbufLinLen
  let wrap : Bool := ringbufLinLen < sndbuf && ringbufLinLen < rb.mqttRingbufLen
  if !tcp.write then (rb, []) else
  let taken := rb.linear sendLen
  let rb := rb.mqttRingbufAdvanceGetIdx sendLen
  if !wrap then (rb, taken) else
  let sendLen := min tcp.sndbuf'.toNat rb.mqttRingbufLinearReadLength
  if !tcp.write' then (rb, taken) else
  (rb.mqttRingbufAdvanceGetIdx sendLen, taken ++ rb.linear sendLen)

def mqttOutputAppendU8 (value : UInt8) (rb : MqttRingbuf) : MqttRingbuf := rb.mqttRingbufPut value

def mqttOutputAppendU16 (value : UInt16) (rb : MqttRingbuf) : MqttRingbuf :=
  (rb.mqttRingbufPut (value >>> 8).toUInt8).mqttRingbufPut (value &&& 0xff).toUInt8

def mqttOutputAppendBuf (data : List UInt8) (rb : MqttRingbuf) : MqttRingbuf :=
  data.foldl mqttRingbufPut rb

/-- `mqtt_output_append_string`; `length` is the length of `str` in all calls. -/
def mqttOutputAppendString (str : List UInt8) (length : UInt16) (rb : MqttRingbuf) : MqttRingbuf :=
  str.foldl mqttRingbufPut
    ((rb.mqttRingbufPut (length >>> 8).toUInt8).mqttRingbufPut (length &&& 0xff).toUInt8)

/-- The loop that encodes the remaining length. A 16-bit number is gone after three turns. -/
def appendRemainingLength : ℕ → UInt16 → MqttRingbuf → MqttRingbuf
  | 0, _, rb => rb
  | n + 1, rLength, rb =>
    let rb := mqttOutputAppendU8
      ((rLength &&& 0x7f) ||| (if rLength ≥ 128 then 0x80 else 0)).toUInt8 rb
    let rLength := rLength >>> 7
    if rLength > 0 then appendRemainingLength n rLength rb else rb

def controlByte (msgType dup qos retain : UInt8) : UInt8 :=
  ((msgType &&& 0x0f) <<< 4) ||| ((dup &&& 1) <<< 3) ||| ((qos &&& 3) <<< 1) ||| (retain &&& 1)

def mqttOutputAppendFixedHeader (msgType dup qos retain : UInt8) (rLength : UInt16)
    (rb : MqttRingbuf) : MqttRingbuf :=
  appendRemainingLength 3 rLength (mqttOutputAppendU8 (controlByte msgType dup qos retain) rb)

/-- The loop that counts the bytes of the remaining length, in 16 bits. -/
def addLengthBytes : ℕ → UInt16 → UInt16 → UInt16
  | 0, _, totalLen => totalLen
  | n + 1, rLength, totalLen =>
    let totalLen := totalLen + 1
    let rLength := rLength >>> 7
    if rLength > 0 then addLengthBytes n rLength totalLen else totalLen

def mqttOutputCheckSpace (rb : MqttRingbuf) (rLength : UInt16) : Bool :=
  (addLengthBytes 3 rLength (1 + rLength)).toNat ≤ rb.mqttRingbufFree

end Mqtt
