import MqttSnClient.Lib.Runs

namespace Mqtt

/-- Why the code has no result: a call on a null pcb or through a null function pointer, a
write outside an array, a shift by 32 or more, a read behind the caller's payload, or a
loop over a chain that never ends. -/
inductive Fault
  | nullPcb
  | nullCall
  | outOfBounds
  | shift
  | overread
  | hang
  deriving DecidableEq

/-- `err_t`; what `tcp_bind` and `tcp_connect` report besides goes through as it is. -/
inductive Err
  | ok
  | mem
  | conn
  | val
  | arg
  | isconn
  | timeout
  | abrt
  | tcp (code : ℕ)
  deriving DecidableEq

def mqttReqMaxInFlight : ℕ := 4
def mqttReqTimeout : UInt16 := 30

/-- A pointer into `req_list`. -/
abbrev Slot := Fin mqttReqMaxInFlight

/-- The request callbacks of `MQTTClient.c`. -/
inductive RequestCb
  | mqttSubRequestCb
  | mqttPubRequestCb
  deriving DecidableEq

/-- `mqtt_request_t`; an object whose `next` points at itself is unused. -/
structure MqttRequest where
  next : Option Slot
  cb : Option RequestCb
  arg : ℕ
  pktId : UInt16
  timeoutDiff : UInt16
  deriving DecidableEq

/-- A request callback as the application sees it. -/
structure Answer where
  cb : RequestCb
  arg : ℕ
  err : Err
  deriving DecidableEq

/-- The fields `pend_req_queue` and `req_list` of the client. -/
structure Requests where
  pendReqQueue : Option Slot
  reqList : Slot → MqttRequest

namespace MqttRequest

/-- `if (r->cb != NULL) r->cb(r->arg, err)`. -/
def answer (r : MqttRequest) (err : Err) : List Answer :=
  match r.cb with
  | some cb => [⟨cb, r.arg, err⟩]
  | none => []

end MqttRequest

namespace Requests

def setNext (rs : Requests) (r : Slot) (next : Option Slot) : Requests :=
  { rs with reqList := Function.update rs.reqList r { rs.reqList r with next := next } }

def setTimeoutDiff (rs : Requests) (r : Slot) (diff : UInt16) : Requests :=
  { rs with reqList := Function.update rs.reqList r { rs.reqList r with timeoutDiff := diff } }

/-- `mqtt_create_request`: the first unused object. -/
def mqttCreateRequest (pktId : UInt16) (cb : Option RequestCb) (arg : ℕ) (rs : Requests) :
    Option (Slot × Requests) :=
  match (List.finRange mqttReqMaxInFlight).find? fun n => (rs.reqList n).next = some n with
  | some n =>
    let r := { rs.reqList n with next := none, cb := cb, arg := arg, pktId := pktId }
    some (n, { rs with reqList := Function.update rs.reqList n r })
  | none => none

/-- The walk of `mqtt_append_request` to the last entry, with the sum of the timeouts. The
`s16_t` sum is stored back into an unsigned field, so its sign is lost again. -/
def appendWalk (rs : Requests) : ℕ → Option Slot → Option Slot → UInt16 →
    Except Fault (Option Slot × UInt16)
  | _, none, head, timeBefore => .ok (head, timeBefore)
  | 0, some _, _, _ => .error .hang
  | n + 1, some iter, _, timeBefore =>
    rs.appendWalk n (rs.reqList iter).next (some iter) (timeBefore + (rs.reqList iter).timeoutDiff)

def mqttAppendRequest (r : Slot) (rs : Requests) : Except Fault Requests := do
  let (head, timeBefore) ← rs.appendWalk mqttReqMaxInFlight rs.pendReqQueue none 0
  let rs := rs.setTimeoutDiff r (mqttReqTimeout - timeBefore)
  match head with
  | none => .ok { rs with pendReqQueue := some r }
  | some head => .ok (rs.setNext head (some r))

def mqttDeleteRequest (r : Slot) (rs : Requests) : Requests := rs.setNext r (some r)

/-- The search of `mqtt_take_request`: the entry before the match, and the match. -/
def takeWalk (rs : Requests) (pktId : UInt16) : ℕ → Option Slot → Option Slot →
    Except Fault (Option Slot × Option Slot)
  | _, none, prev => .ok (prev, none)
  | 0, some _, _ => .error .hang
  | n + 1, some iter, prev =>
    if (rs.reqList iter).pktId = pktId then .ok (prev, some iter)
    else rs.takeWalk pktId n (rs.reqList iter).next (some iter)

def mqttTakeRequest (pktId : UInt16) (rs : Requests) : Except Fault (Option Slot × Requests) := do
  let (prev, iter) ← rs.takeWalk pktId mqttReqMaxInFlight rs.pendReqQueue none
  match iter with
  | none => .ok (none, rs)
  | some iter =>
    let next := (rs.reqList iter).next
    let rs := match prev with
      | none => { rs with pendReqQueue := next }
      | some prev => rs.setNext prev next
    let rs := match next with
      | some next =>
        rs.setTimeoutDiff next ((rs.reqList next).timeoutDiff + (rs.reqList iter).timeoutDiff)
      | none => rs
    .ok (some iter, rs.setNext iter none)

/-- The loop of `mqtt_request_time_elapsed`. The callbacks only print, so the queue that
is read again after each of them is the one that was left. -/
def elapseLoop : ℕ → UInt8 → Requests → Except Fault (Requests × List Answer)
  | n, t, rs =>
    match rs.pendReqQueue with
    | none => .ok (rs, [])
    | some r =>
      if t = 0 then .ok (rs, []) else
      let diff := (rs.reqList r).timeoutDiff
      if t.toNat ≥ diff.toNat then
        match n with
        | 0 => .error .hang
        | n + 1 => do
          let rest ← elapseLoop n (t - diff.toUInt8)
            (mqttDeleteRequest r { rs with pendReqQueue := (rs.reqList r).next })
          .ok (rest.1, (rs.reqList r).answer .timeout ++ rest.2)
      else .ok (rs.setTimeoutDiff r (diff - t.toUInt16), [])

def mqttRequestTimeElapsed (t : UInt8) (rs : Requests) : Except Fault (Requests × List Answer) :=
  elapseLoop mqttReqMaxInFlight t rs

def clearLoop : ℕ → Option Slot → Requests → Except Fault Requests
  | _, none, rs => .ok rs
  | 0, some _, _ => .error .hang
  | n + 1, some iter, rs => clearLoop n (rs.reqList iter).next (mqttDeleteRequest iter rs)

def mqttClearRequests (rs : Requests) : Except Fault Requests := do
  let rs ← clearLoop mqttReqMaxInFlight rs.pendReqQueue rs
  .ok { rs with pendReqQueue := none }

def mqttInitRequests (rs : Requests) : Requests :=
  { rs with reqList := fun n => { rs.reqList n with next := some n } }

end Requests

end Mqtt
