import MqttSnClient.Confinement

/-! The type of a datagram is read twice: by the receive callback, which knows two forms of the
length, and by the handler that it schedules, at a fixed offset. -/
namespace MqttSnClient
open Memory Bytes

/-- The size that a datagram declares, in its first byte or behind a first byte of 1. -/
def Pbuf.declared (p : Pbuf) : ℕ :=
  if p.payload 0 = 0x01 then 256 * (p.payload 1).toNat + (p.payload 2).toNat
  else (p.payload 0).toNat

/-- The datagram is as large as it declares, and holds the type behind its length. -/
structure Pbuf.WellFormed (p : Pbuf) : Prop where
  declared_eq : p.declared = p.totLen.toNat
  typed : p.payload 0 = 0x01 → 4 ≤ p.totLen.toNat

/-- The message of a datagram as the receive callback sees it, with the type at index 1 in
either form. -/
def Pbuf.message (p : Pbuf) : ℕ → UInt8 :=
  fun i => if p.payload 0 = 0x01 then p.payload (i + 2) else p.payload i

def Pbuf.messageSize (p : Pbuf) : ℕ :=
  if p.payload 0 = 0x01 then p.totLen.toNat - 2 else p.totLen.toNat

/-- The type that a handler tests for. The handler of UNSUBACK tests for none. -/
def Api.type : Api → Option UInt8
  | .advertise => some mqttSnTypeAdvertise
  | .gwinfo => some mqttSnTypeSearchgw
  | .connack => some mqttSnTypeConnack
  | .willtopicreq => some mqttSnTypeWilltopicreq
  | .willmsgreq => some mqttSnTypeWillmsgreq
  | .regack => some mqttSnTypeRegack
  | .puback => some mqttSnTypePuback
  | .suback => some mqttSnTypeSuback
  | .disconnet => some mqttSnTypeDisconnect
  | .pingres => some mqttSnTypePingresp
  | .pingreq => some mqttSnTypePingreq
  | .publish => some mqttSnTypePublish
  | .pubcomp | .pubrec | .pubrel | .unsuback => none

/-- What a handler does with the timers before it looks at the frame. -/
def Api.pre (env : Env) : Api → World → World
  | .connack => cancelTimer timerIdOfConncet
  | .willtopicreq | .willmsgreq => reloadTimer (env.tick 0) timerIdOfConncet
  | _ => id

/-- What a handler does once the frame has passed its tests of the length and the type. -/
def Api.acts (env : Env) (gwinfor : GwInfor) (inputdata : ℕ → UInt8) (w : World) :
    Api → Except Fault World
  | .advertise => appendGateway gwinfor (inputdata 2)
      ((inputdata 3).toUInt16 >>> 8 ||| (inputdata 4).toUInt16) w
  | .gwinfo => appendGateway gwinfor (inputdata 2) 900 w
  | .connack =>
    if inputdata 2 = 0 ∧ w.client.status = .connecting then
      .ok (mqttSnGetgatewayInfo 10000 { w with client := { w.client with status := .connected } })
    else .ok w
  | .willtopicreq =>
    if w.client.status = .connecting then mqttSnSendWilltopic lwipTest w else .ok w
  | .willmsgreq => if w.client.status = .connecting then mqttSnSendWillMSG lwipTest w else .ok w
  | .regack =>
    if w.client.status = .connected ∧ u16At inputdata 4 = w.client.inpubPktId .reggister then
      let w := cancelTimer timerIdOfRegister w
      if inputdata 6 = mqttSnAccepted then
        .ok { w with topicMap := (topicidRegistered (u16At inputdata 2) w.topicMap).2 }
      else if inputdata 6 = mqttSnRejectedCongestion then
        .ok (addTimer (env.tick 0) timerModeSingle (5*60*1000) .sendRegisterCb .client
          timerIdOfRegister w)
      else
        .ok (addTimer (env.tick 0) timerModeSingle (60*1000) .sendRegisterCb .client
          timerIdOfRegister w)
    else .ok w
  | .puback =>
    if w.client.status = .connected ∧ u16At inputdata 4 = w.client.inpubPktId .publish then
      let pending := Function.update w.client.inpubPktId .publish 0
      let w := { w with client := { w.client with inpubPktId := pending } }
      let w := cancelTimer timerIdOfPublish w
      if inputdata 6 = mqttSnAccepted then .ok w
      else if inputdata 6 = mqttSnRejectedCongestion then
        .ok (addTimer (env.tick 0) timerModeSingle (5*60*1000) .publishTimeoutCb .client
          timerIdOfPublish w)
      else if inputdata 6 = mqttSnRejectedInvalid then
        .ok { w with topicMap := (topicidUnregister (u16At inputdata 2) w.topicMap).2 }
      else .ok w
    else .ok w
  | .suback =>
    if u16At inputdata 5 = w.client.inpubPktId .subscaribe then
      .ok (cancelTimer timerIdOfSubscribe w)
    else .ok w
  | .disconnet =>
    let w := cancelTimer timerIdOfDisconncet w
    .ok { w with client := { w.client with status := .notconnect } }
  | .pingres =>
    if w.client.status = .connected then
      let c := { w.client with serverWatchdog := w.client.keepAlive, pingReqResLostNum := 0 }
      .ok (cancelTimer timerIdOfPingreq { w with client := c })
    else .ok w
  | .pingreq =>
    if w.client.status = .connected then
      .ok (mqttSnClientSendData [2, mqttSnTypePingresp] w)
    else .ok w
  | .publish =>
    if inputdata 2 &&& mqttSnFlagQos1 ≠ 0 then
      .ok (mqttSnSendPublishack (u16At inputdata 5) (u16At inputdata 3) 0 w)
    else .ok w
  | .pubcomp | .pubrec | .pubrel | .unsuback => .ok w

/-- The size of a message, in the short form, with all that its handler acts on. -/
def Api.fields : Api → ℕ
  | .advertise => 5
  | .gwinfo | .connack => 3
  | .regack | .puback | .suback | .publish => 7
  | _ => 2

/-- The message has all its fields; a CONNACK has nothing else. -/
def Pbuf.Complete (p : Pbuf) (api : Api) : Prop :=
  api.fields ≤ p.messageSize ∧ (api = .connack → p.messageSize = api.fields)

/-- A handler reads a datagram as the receive callback did: it gets to the type, finds the
message at the same indices, tests for the type that the datagram was dispatched on, and acts
on the message if this is complete. -/
structure AgreesWithDispatch (p : Pbuf) (api : Api) (env : Env) (w : World) : Prop where
  opens : api.func env w.gw w ≠ .error .hang
  reads : ∀ i, 1 ≤ i → i < p.messageSize → (nextFrame env w).inputdata i = p.message i
  tests : ∀ type ∈ api.type, type = p.cmd
  acts : p.Complete api → api.func env w.gw w =
    api.acts env w.gw (nextFrame env w).inputdata (api.pre env (w.consumed (nextFrame env w)))

variable {p : Pbuf} {api : Api} {env : Env} {w : World} {fr : List UInt8}

/-- A handler that reads a frame, by its parts. -/
theorem func_eq_press (h : api.consumes = true) (env : Env) (g : GwInfor) (w : World) :
    api.func env g w = press (api.pre env) api.fits (fun d u =>
      if (api.type.all fun type => d 1 = type) = true then api.acts env g d u else .ok u) env w := by
  have hbody {pre : World → World} {fits : UInt8 → Bool}
      {body body' : (ℕ → UInt8) → World → Except Fault World} (hsame : ∀ d u, body d u = body' d u) :
      press pre fits body env w = press pre fits body' env w := by
    rw [funext fun d => funext (hsame d)]
  cases api with
  | pubcomp | pubrec | pubrel => cases h
  | advertise | gwinfo | disconnet | unsuback =>
    simp only [Api.func, apiAdvertisePress, apiGwinfoPress, apiDisconnetPress, apiUnsubackPress]
    refine hbody fun d u => ?_
    simp [Api.type, Api.acts]
  | connack | willtopicreq | willmsgreq | regack | puback | suback | pingres | pingreq | publish =>
    simp only [Api.func, apiConnackPress, apiWilltopicreqPress, apiWillmsgreq, willReqPress,
      apiRegackPress, apiPubackPress, apiSubackPress, apiPingresPress, apiPingreqPress,
      apiPublishPress]
    refine hbody fun d u => ?_
    simp only [Api.type, Api.acts, Option.all_some, decide_eq_true_eq, ite_and]

namespace Pbuf

theorem message_cmd (p : Pbuf) : p.message 1 = p.cmd := rfl

/-- A datagram in the short form is one frame, and the message is the frame. -/
theorem short_frame (hp : 0 < p.totLen.toNat) (hwf : p.WellFormed) (hshort : p.payload 0 ≠ 0x01) :
    2 ≤ p.totLen.toNat ∧ p.messageSize = p.totLen.toNat ∧ p.frame.length = p.totLen.toNat ∧
      BeginsWithLenth p.frame ∧ ∀ i < p.totLen.toNat, p.frame.getD i 0 = p.message i := by
  have hdeclared := hwf.declared_eq
  rw [declared, if_neg hshort] at hdeclared
  have hbyte := (p.payload 0).toNat_lt
  have hone : (p.payload 0).toNat ≠ 1 := fun h => hshort (UInt8.toNat_inj.mp h)
  have hlen : p.frame.length = p.totLen.toNat := by
    rw [p.frame_length]
    exact Nat.mod_eq_of_lt (by omega)
  refine ⟨by omega, if_neg hshort, hlen, ?_, fun i hi => ?_⟩
  · rw [beginsWithLenth_iff (by omega), frame_getD (by omega), hlen, ← hdeclared,
      UInt8.ofNat_toNat]
  · rw [frame_getD (by omega), message, if_neg hshort]

end Pbuf

/-- Every row but that of GWINFO has a handler that tests for the type of the row, if it tests
for any. -/
theorem getAPIFUN_tests {cmd : UInt8} (hapi : getAPIFUN cmd = some api)
    (hgw : cmd ≠ mqttSnTypeGwinfo) : ∀ type ∈ api.type, type = cmd := by
  have hrows : ∀ row ∈ gApiTable, row.1 ≠ mqttSnTypeGwinfo → ∀ type ∈ row.2.type, type = row.1 := by
    decide +kernel
  exact hrows _ (getAPIFUN_mem hapi) hgw

/-- In the short form the handlers agree with the receive callback, that of GWINFO apart. -/
theorem short_agrees (hp : 0 < p.totLen.toNat) (hwf : p.WellFormed)
    (hapi : getAPIFUN p.cmd = some api) (hread : api.consumes = true)
    (hshort : p.payload 0 ≠ 0x01) (hgw : p.cmd ≠ mqttSnTypeGwinfo) (hw : Sound w)
    (hhead : w.headFrame = some p.frame) (env : Env) : AgreesWithDispatch p api env w := by
  obtain ⟨htwo, hsize, hlen, hbegins, hmessage⟩ := p.short_frame hp hwf hshort
  obtain ⟨-, -, hdata, -⟩ := nextFrame_some hw env hhead
  have hat : ∀ i < p.totLen.toNat, (nextFrame env w).inputdata i = p.message i := by
    intro i hi
    rw [hdata, memcpy_getD _ (by omega), hmessage i hi]
  have htests := getAPIFUN_tests hapi hgw
  refine ⟨?_, fun i _ hi => hat i (by omega), htests, fun hcomplete => ?_⟩
  · apply (func_returns_iff hw api w.gw).mpr
    intro fr hfr _
    rw [hhead, Option.some.injEq] at hfr
    rwa [← hfr]
  · have hfits : api.fits (UInt8.ofNat p.frame.length) = true := by
      cases api with
      | connack =>
        have hthree := hcomplete.2 rfl
        rw [hlen, ← hsize, hthree]
        decide
      | _ => rfl
    have htype : (api.type.all fun type => (nextFrame env w).inputdata 1 = type) = true := by
      rw [Option.all_eq_true]
      intro type htype
      rw [decide_eq_true_eq, hat 1 (by omega), htests type htype, p.message_cmd]
    rw [func_eq_press hread, press_eq hw hhead, if_pos hfits, if_pos hbegins, ← hdata, if_pos htype]

/-- The first byte of a datagram in the long form is not the length of its frame, unless this is
cut to one byte. -/
theorem long_disagrees (hp : p.totLen.toNat < maxBuffSize) (hzero : p.totLen.toNat % 256 ≠ 0)
    (hwf : p.WellFormed) (hapi : getAPIFUN p.cmd = some api) (hread : api.consumes = true)
    (hlong : p.payload 0 = 0x01) (hw : Sound w) (hhead : w.headFrame = some p.frame)
    (hstack : env.inputdata 1 ≠ p.cmd) : ¬AgreesWithDispatch p api env w := by
  rintro ⟨hopens, hreads, -, -⟩
  have hfour := hwf.typed hlong
  have hlen := p.frame_length
  have hsize : p.messageSize = p.totLen.toNat - 2 := if_pos hlong
  obtain ⟨-, -, hdata, -⟩ := nextFrame_some hw env hhead
  have hcmd := hreads 1 le_rfl (by omega)
  rw [hdata, p.message_cmd] at hcmd
  by_cases hone : p.frame.length = 1
  -- a frame of one byte begins with its length, but its type is what the stack held
  · rw [memcpy_outside _ _ _ _ (Or.inr (by omega))] at hcmd
    exact hstack hcmd
  · by_cases hchecks : api.checksLenth p.frame = true
    · have hbegins := (func_returns_iff hw api w.gw).mp hopens p.frame hhead hchecks
      rw [beginsWithLenth_iff (by omega), Pbuf.frame_getD (by omega), hlong] at hbegins
      have hnat := congrArg UInt8.toNat hbegins
      simp only [UInt8.toNat_ofNat', UInt8.reduceToNat] at hnat
      have hmod := Nat.mod_lt p.totLen.toNat (show 256 > 0 by decide)
      omega
    · -- a CONNACK, whose type is not where the length continues
      have hconnack : api = .connack := by
        cases api with
        | connack => rfl
        | pubcomp | pubrec | pubrel => cases hread
        | _ => exact absurd rfl hchecks
      rw [hconnack] at hapi
      have htype : p.cmd = mqttSnTypeConnack := getAPIFUN_type hapi (by decide)
      rw [memcpy_getD _ (by omega), Pbuf.frame_getD (by omega), htype] at hcmd
      have hdeclared := hwf.declared_eq
      rw [Pbuf.declared, if_pos hlong, hcmd] at hdeclared
      unfold maxBuffSize at hp
      simp only [mqttSnTypeConnack, UInt8.reduceToNat] at hdeclared
      omega

/-- A handler that reads a datagram which the receive callback has stored agrees with it, in
every state of the client and for every content of the stack, exactly if the datagram has the
short form and is not a GWINFO. -/
theorem dispatch_agrees_iff {v : World} (hv : Sound v) (hp : Stores v p) (hwf : p.WellFormed)
    (hapi : getAPIFUN p.cmd = some api) :
    (api.consumes = true → ∀ env w, Sound w → w.headFrame = some p.frame →
        AgreesWithDispatch p api env w) ↔
      (api.consumes = true → p.payload 0 ≠ 0x01 ∧ p.cmd ≠ mqttSnTypeGwinfo) := by
  have hpos : 0 < p.totLen.toNat := by
    apply Nat.pos_of_ne_zero
    intro hz
    apply hp.2.2
    rw [hz]
  refine forall_congr' fun hread => ⟨fun hagrees => ?_, fun hcond env w hw hhead => ?_⟩
  · have hlt := hp.short hv
    have hboot : Stores bootWorld p := ⟨hp.1, hlt, hp.2.2⟩
    have hw := (mqttClientInit_booted bootWorld_init).sound.stored hboot 0 0
    have hhead := bootWorld_headFrame hboot
    constructor
    · intro hlong
      refine long_disagrees hlt hp.2.2 hwf hapi hread hlong hw hhead ?_
        (hagrees (quietEnv.withInput fun _ => p.cmd + 1) _ hw hhead)
      show p.cmd + 1 ≠ p.cmd
      simp
    · intro hgw
      rw [hgw] at hapi
      cases hapi
      have htype := (hagrees quietEnv _ hw hhead).tests mqttSnTypeSearchgw rfl
      rw [hgw] at htype
      exact absurd htype (by decide)
  · exact short_agrees hpos hwf hapi hread hcond.1 hcond.2 hw hhead env

theorem dispatch_agrees_pingresp :
    AgreesWithDispatch (datagram [2, mqttSnTypePingresp]) .pingres quietEnv
      (bootWorld.stored (datagram [2, mqttSnTypePingresp]) 0 0) := by
  have hboot := (mqttClientInit_booted bootWorld_init).sound
  have hp : Stores bootWorld (datagram [2, mqttSnTypePingresp]) :=
    ⟨by decide, by decide, by decide⟩
  have hrow : getAPIFUN (datagram [2, mqttSnTypePingresp]).cmd = some .pingres := by decide
  have hagrees := (dispatch_agrees_iff hboot hp ⟨by decide, by decide⟩ hrow).mpr
    (fun _ => ⟨by decide, by decide⟩)
  exact hagrees rfl quietEnv _ (hboot.stored hp 0 0) (bootWorld_headFrame hp)

/-- The frame of a GWINFO is taken from the queues, and the list of gateways stays as it is. -/
theorem gwinfo_discarded (hw : Sound w) (hhead : w.headFrame = some fr)
    (hbegins : BeginsWithLenth fr) (htwo : 2 ≤ fr.length) (htype : fr.getD 1 0 = mqttSnTypeGwinfo)
    (env : Env) (g : GwInfor) : apiGwinfoPress g env w = .ok (w.consumed (nextFrame env w)) := by
  have hread : memcpy env.inputdata 0 fr 1 = mqttSnTypeGwinfo := by
    rw [memcpy_getD _ (by omega), htype]
  rw [apiGwinfoPress, press_eq hw hhead, if_pos rfl, if_pos hbegins, hread, if_neg (by decide)]
  rfl

def gwinfoDatagram : Pbuf := datagram [3, mqttSnTypeGwinfo, 7]

/-- It is complete, and its gateway does not come into the list. -/
theorem gwinfo_not_acted_on :
    ¬∀ v p api, Sound v → Stores v p → p.WellFormed → getAPIFUN p.cmd = some api →
      api.consumes = true → ∀ env w, Sound w → w.headFrame = some p.frame →
        AgreesWithDispatch p api env w := by
  intro h
  have hboot := (mqttClientInit_booted bootWorld_init).sound
  have hp : Stores bootWorld gwinfoDatagram := ⟨by decide, by decide, by decide⟩
  have hhead : (bootWorld.stored gwinfoDatagram 9 0).headFrame = some gwinfoDatagram.frame := by
    decide
  have hacts := (h bootWorld gwinfoDatagram .gwinfo hboot hp ⟨by decide, by decide⟩ (by decide) rfl
    quietEnv _ (hboot.stored hp 9 0) hhead).acts ⟨by decide, nofun⟩
  have hnone := gwinfo_discarded (hboot.stored hp 9 0) hhead (by decide) (by decide) (by decide)
    quietEnv (bootWorld.stored gwinfoDatagram 9 0).gw
  have hlist := congrArg (fun r : Except Fault World =>
    r.toOption.map fun u => u.gwList.gwListAvalidNum) (hnone.symm.trans hacts)
  exact absurd hlist (by decide)

end MqttSnClient
