import MqttSnClient.Boundaries

namespace MqttSnClient
open Memory Bytes

variable {topics : Topics} {env : Env} {w w' : World}

/-- The handler compares the first byte of a frame with its length. -/
def Api.checksLenth (api : Api) (fr : List UInt8) : Bool :=
  match api with
  | .pubcomp | .pubrec | .pubrel => false
  | .connack => fr.length = 3
  | _ => true

def BeginsWithLenth (fr : List UInt8) : Prop := fr[0]? = some (UInt8.ofNat fr.length)

instance (fr : List UInt8) : Decidable (BeginsWithLenth fr) := by
  unfold BeginsWithLenth
  infer_instance

theorem beginsWithLenth_iff {fr : List UInt8} (h : 0 < fr.length) :
    BeginsWithLenth fr ↔ fr.getD 0 0 = UInt8.ofNat fr.length := by
  rw [BeginsWithLenth, List.getElem?_eq_getElem h, Option.some.injEq, List.getD_eq_getElem fr 0 h]

/-- The handler that runs, if one does, finds no frame, or does not compare its length, or
finds one that begins with its length. -/
def FindsLenth (w : World) (e : Event) : Prop :=
  match e.action with
  | .visit num now _ => ∀ api fr, timerDue num now w = true →
      (w.systime.timerT num).timerCallback = .press api → w.headFrame = some fr →
      api.checksLenth fr = true → BeginsWithLenth fr
  | _ => True

section Returns

theorem ok_ne_hang (u : World) : (.ok u : Except Fault World) ≠ .error .hang := by
  intro h
  cases h

theorem mqttSnSendConnect_returns (tick : UInt32) (clientId : CString) (keepalive : UInt16)
    (flags : UInt8) : mqttSnSendConnect tick clientId keepalive flags w ≠ .error .hang := by
  simp only [mqttSnSendConnect]
  split_ifs <;> intro h <;> cases h

theorem mqttSnSendRegister_returns (tick : UInt32) (topicName : CString) :
    mqttSnSendRegister tick topicName w ≠ .error .hang := by
  simp only [mqttSnSendRegister]
  split_ifs <;> intro h <;> cases h

theorem mqttSnSendRegisterCb_returns : mqttSnSendRegisterCb env topics w ≠ .error .hang := by
  refine Runs.foldlM_error (fun u i => ?_) _ _
  unfold registerTurn
  split
  · split_ifs
    · exact mqttSnSendRegister_returns _ _
    · exact nofun
  · exact nofun

theorem mqttSnSendPublish_returns (topicId : UInt16) (topicType : UInt8) (data : DataPtr)
    (dataLen : UInt16) (qos : Int8) (retain dup : UInt8) :
    mqttSnSendPublish env topicId topicType data dataLen qos retain dup w ≠ .error .hang := by
  simp only [mqttSnSendPublish]
  split_ifs <;> intro h <;> cases h

theorem mqttSnSendSubscribeTopicName_returns (topicName : CString) (qos : Int8) (dup : UInt8) :
    mqttSnSendSubscribeTopicName env topicName qos dup w ≠ .error .hang := by
  simp only [mqttSnSendSubscribeTopicName]
  split_ifs <;> intro h <;> cases h

theorem mqttSnSendWilltopic_returns (topicName : CString) :
    mqttSnSendWilltopic topicName w ≠ .error .hang := by
  unfold mqttSnSendWilltopic
  split_ifs <;> intro h <;> cases h

theorem mqttSnSendWillMSG_returns (topicName : CString) :
    mqttSnSendWillMSG topicName w ≠ .error .hang := by
  unfold mqttSnSendWillMSG
  split_ifs <;> intro h <;> cases h

theorem mqttSnSendUnsubscribeTopicName_returns (topicName : CString) :
    mqttSnSendUnsubscribeTopicName topicName w ≠ .error .hang := by
  unfold mqttSnSendUnsubscribeTopicName
  split_ifs <;> intro h <;> cases h

theorem registeralltopic_returns : registeralltopic env topics w ≠ .error .hang := by
  unfold registeralltopic
  split_ifs
  · exact nofun
  · split
    · split
      · rename_i name _
        intro h
        cases hsend : mqttSnSendRegister (env.tick 0) name w with
        | ok u =>
          rw [hsend] at h
          cases h
        | error f =>
          rw [hsend] at h
          cases h
          exact mqttSnSendRegister_returns _ _ hsend
      · exact nofun
    · exact nofun

theorem mqttSnClientCyclic_returns : mqttSnClientCyclic env topics w ≠ .error .hang := by
  simp only [mqttSnClientCyclic]
  split_ifs
  · intro h
    cases hreg : registeralltopic env topics { w with
        client := { w.client with cyclicTick := w.client.cyclicTick + 1 }
        gwList := gwListupdata (w.client.cyclicTick + 1) w.gwList } with
    | ok u =>
      rw [hreg] at h
      simp only [bind, Except.bind] at h
      split_ifs at h
    | error f =>
      rw [hreg] at h
      cases h
      exact registeralltopic_returns hreg
  · exact ok_ne_hang _

theorem runAppCall_returns (call : AppCall) : runAppCall env call w ≠ .error .hang := by
  cases call with
  | sendConnect => exact mqttSnSendConnect_returns _ _ _ _
  | sendRegister => exact mqttSnSendRegister_returns _ _
  | sendWilltopic => exact mqttSnSendWilltopic_returns _
  | sendWillMSG => exact mqttSnSendWillMSG_returns _
  | sendPublish => exact mqttSnSendPublish_returns _ _ _ _ _ _ _
  | sendSubscribeTopicName => exact mqttSnSendSubscribeTopicName_returns _ _ _
  | sendUnsubscribeTopicName => exact mqttSnSendUnsubscribeTopicName_returns _
  | _ => exact nofun

end Returns

/-- A handler that finds a frame, as a function of the frame. -/
theorem press_eq {fr : List UInt8} (hw : Sound w) (hhead : w.headFrame = some fr)
    (pre : World → World) (fits : UInt8 → Bool)
    (body : (ℕ → UInt8) → World → Except Fault World) (env : Env) :
    press pre fits body env w =
      if fits (UInt8.ofNat fr.length) = true then
        if BeginsWithLenth fr then
          body (memcpy env.inputdata 0 fr) (pre (w.consumed (nextFrame env w)))
        else .error .hang
      else .ok (pre (w.consumed (nextFrame env w))) := by
  obtain ⟨hres, hlen, hdata, hpos⟩ := nextFrame_some hw env hhead
  have hfirst := memcpy_inside env.inputdata 0 fr 0 (by omega)
  rw [Nat.zero_add] at hfirst
  have hbegins : BeginsWithLenth fr ↔ fr[0] = UInt8.ofNat fr.length := by
    rw [BeginsWithLenth, List.getElem?_eq_getElem (by omega), Option.some.injEq]
  simp only [press, hres, hlen, hdata, hfirst, true_and, hbegins]

/-- A handler hangs exactly on a frame whose length it compares and that begins with another
byte. -/
theorem press_returns_iff (hw : Sound w) {pre : World → World} {fits : UInt8 → Bool}
    {body : (ℕ → UInt8) → World → Except Fault World} (hbody : ∀ d u, body d u ≠ .error .hang) :
    press pre fits body env w ≠ .error .hang ↔ ∀ fr, w.headFrame = some fr →
      fits (UInt8.ofNat fr.length) = true → BeginsWithLenth fr := by
  cases hhead : w.headFrame with
  | none =>
    have hres := nextFrame_none hw env hhead
    simp only [press, hres, false_and, if_false]
    exact ⟨fun _ _ hf => (by cases hf), fun _ => ok_ne_hang _⟩
  | some fr =>
    rw [press_eq hw hhead]
    simp only [Option.some.injEq, forall_eq']
    split_ifs with hfits heq
    · exact ⟨fun _ _ => heq, fun _ => hbody _ _⟩
    · exact ⟨fun h => absurd rfl h, fun h => absurd (h hfits) heq⟩
    · exact ⟨fun _ hf => absurd hf hfits, fun _ => ok_ne_hang _⟩

theorem appendGateway_returns (g : GwInfor) (gwid : UInt8) (keepalive : UInt16) :
    appendGateway g gwid keepalive w ≠ .error .hang := by
  unfold appendGateway
  split <;> intro h <;> cases h

/-- The test that a handler makes of the queued length before it looks at the frame. -/
def Api.fits : Api → UInt8 → Bool
  | .connack, freamlenth => freamlenth = 3
  | _, _ => true

/-- The handler compares the first byte of a frame with its length. -/
theorem checksLenth_eq {api : Api} {fr : List UInt8} (h : fr.length < 256) :
    api.checksLenth fr = (api.consumes && api.fits (UInt8.ofNat fr.length)) := by
  have hthree : UInt8.ofNat fr.length = 3 ↔ fr.length = 3 := by
    rw [← UInt8.toNat_inj, UInt8.toNat_ofNat', Nat.mod_eq_of_lt h]
    rfl
  cases api <;> simp [Api.checksLenth, Api.consumes, Api.fits, hthree]

/-- A handler that reads a frame hangs exactly on one that does not begin with its length. -/
theorem func_press_returns_iff (hw : Sound w) {api : Api} (h : api.consumes = true) (g : GwInfor) :
    api.func env g w ≠ .error .hang ↔ ∀ fr, w.headFrame = some fr →
      api.fits (UInt8.ofNat fr.length) = true → BeginsWithLenth fr := by
  cases api with
  | pubcomp | pubrec | pubrel => cases h
  | advertise | gwinfo =>
    simp only [Api.func, apiAdvertisePress, apiGwinfoPress]
    refine press_returns_iff hw fun d u => ?_
    split_ifs
    · exact appendGateway_returns _ _ _
    · exact nofun
  | willtopicreq =>
    simp only [Api.func, apiWilltopicreqPress, willReqPress]
    refine press_returns_iff hw fun d u => ?_
    split_ifs
    · exact mqttSnSendWilltopic_returns _
    · exact nofun
  | willmsgreq =>
    simp only [Api.func, apiWillmsgreq, willReqPress]
    refine press_returns_iff hw fun d u => ?_
    split_ifs
    · exact mqttSnSendWillMSG_returns _
    · exact nofun
  | unsuback =>
    simp only [Api.func, apiUnsubackPress]
    exact press_returns_iff hw fun d u => nofun
  | connack | regack | puback | suback | disconnet | pingres | pingreq | publish =>
    simp only [Api.func, apiConnackPress, apiRegackPress, apiPubackPress, apiSubackPress,
      apiDisconnetPress, apiPingresPress, apiPingreqPress, apiPublishPress]
    refine press_returns_iff hw fun d u => ?_
    split_ifs <;> intro h <;> cases h

theorem func_returns_iff (hw : Sound w) (api : Api) (g : GwInfor) :
    api.func env g w ≠ .error .hang ↔ ∀ fr, w.headFrame = some fr →
      api.checksLenth fr = true → BeginsWithLenth fr := by
  by_cases hc : api.consumes = true
  · rw [func_press_returns_iff hw hc]
    refine forall_congr' fun fr => forall_congr' fun hfr => ?_
    rw [checksLenth_eq (headFrame_length hfr).2, hc, Bool.true_and]
  · cases api with
    | pubcomp | pubrec | pubrel => exact ⟨fun _ _ _ => nofun, fun _ => nofun⟩
    | _ => exact absurd rfl hc

theorem runCallback_returns_iff (hw : Sound w) {cb : Callback} {arg : Arg}
    (harg : arg ∈ cb.takes) :
    runCallback topics env cb arg w ≠ .error .hang ↔ ∀ api fr, cb = .press api →
      w.headFrame = some fr → api.checksLenth fr = true → BeginsWithLenth fr := by
  cases cb with
  | press api =>
    obtain rfl : arg = .gw := List.mem_singleton.mp harg
    refine (func_returns_iff hw api w.gw).trans ?_
    constructor
    · rintro h api' fr ⟨⟩
      exact h fr
    · exact fun h fr => h api fr rfl
  | null => exact absurd harg List.not_mem_nil
  | _ =>
    refine ⟨fun _ _ _ => nofun, fun _ => ?_⟩
    unfold runCallback
    split
    · rename_i heq
      cases heq
    · unfold mqttSnSendConnectCb
      split_ifs
      · exact nofun
      · exact mqttSnSendConnect_returns _ _ _ _
    · exact mqttSnSendRegisterCb_returns
    · exact nofun
    · exact mqttSnSendPublish_returns _ _ _ _ _ _ _
    · exact mqttSnSendPublish_returns _ _ _ _ _ _ _
    · unfold mqttSnClientSubscribeTimeoutCb
      split
      · exact mqttSnSendSubscribeTopicName_returns _ _ _
      · exact nofun
    · exact nofun
    · exact mqttSnClientCyclic_returns
    · exact nofun

/-- The steps that return are those that find no frame of another length. -/
theorem step_returns_iff (hw : Sound w) (e : Event) :
    step topics w e ≠ .error .hang ↔ FindsLenth w e := by
  obtain ⟨action, env⟩ := e
  cases action with
  | recv p addr port => exact ⟨fun _ => trivial, fun _ => ok_ne_hang _⟩
  | app call => exact ⟨fun _ => trivial, fun _ => runAppCall_returns call⟩
  | visit num now hnum =>
    simp only [step, FindsLenth]
    by_cases hdue : timerDue num now w = true
    · have harg := timerDue_arg_mem hw hnum hdue
      have hvisit : timerVisit topics num now env w = .error .hang ↔
          runCallback topics env (w.systime.timerT num).timerCallback
            (w.systime.timerT num).arg w = .error .hang := by
        cases hu : runCallback topics env (w.systime.timerT num).timerCallback
            (w.systime.timerT num).arg w with
        | ok u =>
          obtain ⟨t, s, -, -, -, -, -, -, hrun, -⟩ := timerVisit_due hw hnum hdue hu
          rw [hrun]
          exact ⟨fun h => absurd h (ok_ne_hang _), fun h => absurd h (ok_ne_hang _)⟩
        | error f =>
          simp only [timerVisit, hdue, if_true, hu]
          rfl
      rw [Ne, hvisit]
      refine (runCallback_returns_iff hw harg).trans
        ⟨fun h api fr _ hcb => h api fr hcb, fun h api fr hcb => ?_⟩
      exact h api fr hdue hcb
    · rw [timerVisit, if_neg hdue]
      exact ⟨fun _ _ _ hd => absurd hd hdue, fun _ => ok_ne_hang _⟩

/-- A stored datagram begins with its length, and the queues take it as one frame. -/
def StoresOwnLenth (w : World) (e : Event) : Prop :=
  KeepsFrames w e ∧ match e.action with
    | .recv p _ _ => Stores w p → BeginsWithLenth p.bytes
    | _ => True

/-- The queues hold whole frames, each of which begins with its length. -/
structure OwnLenths (w : World) (frames : List (List UInt8)) : Prop where
  lenths : ImportView w.client.rxBuffer (frames.map fun fr => UInt8.ofNat fr.length)
  bytes : BuffView w.buffBody frames.flatten
  short : ∀ fr ∈ frames, fr.length ≤ 255
  begins : ∀ fr ∈ frames, BeginsWithLenth fr

namespace OwnLenths

variable {frames : List (List UInt8)}

theorem head (h : OwnLenths w frames) {fr : List UInt8} (hfr : w.headFrame = some fr) :
    BeginsWithLenth fr := by
  simp only [World.headFrame, h.lenths.queued_eq, h.bytes.queued_eq] at hfr
  cases frames with
  | nil => simp at hfr
  | cons x rest =>
    have hlen := h.short x (by simp)
    simp only [List.map_cons, List.headD_cons, List.flatten_cons, UInt8.toNat_ofNat',
      Nat.mod_eq_of_lt (show x.length < 2 ^ 8 by omega), List.take_left'] at hfr
    split_ifs at hfr
    cases hfr
    exact h.begins _ List.mem_cons_self

theorem consumed (h : OwnLenths w frames) (env : Env) :
    OwnLenths (w.consumed (nextFrame env w)) frames.tail := by
  cases frames with
  | nil =>
    obtain ⟨-, hrx, hb⟩ := nextFrame_empty env h.lenths.toImportRing h.bytes
    refine ⟨?_, ?_, by simp, by simp⟩
    · rw [show (w.consumed (nextFrame env w)).client.rxBuffer = w.client.rxBuffer from hrx]
      exact h.lenths
    · rw [show (w.consumed (nextFrame env w)).buffBody = w.buffBody from hb]
      exact h.bytes
  | cons x rest =>
    have hlen := h.short x (by simp)
    have hx : (UInt8.ofNat x.length).toNat = x.length := by
      rw [UInt8.toNat_ofNat', Nat.mod_eq_of_lt (by omega)]
    have hpos : 1 ≤ x.length := by
      have hne := h.lenths.nonzero (UInt8.ofNat x.length) (by simp)
      rcases Nat.eq_zero_or_pos x.length with hz | hz
      · rw [hz] at hne
        exact absurd rfl hne
      · exact hz
    have hbytes := h.bytes
    rw [List.flatten_cons] at hbytes
    have hfirst : 1 ≤ (UInt8.ofNat x.length).toNat := by omega
    have hwhole : (UInt8.ofNat x.length).toNat ≤ (x ++ rest.flatten).length := by
      rw [hx, List.length_append]
      omega
    obtain ⟨-, -, -, -, hdrop⟩ := nextFrame_ok env h.lenths.toImportRing hbytes hfirst hwhole
    rw [hx, List.drop_left] at hdrop
    exact ⟨(read_ok h.lenths).2, hdrop, fun fr hfr => h.short fr (List.mem_cons_of_mem x hfr),
      fun fr hfr => h.begins fr (List.mem_cons_of_mem x hfr)⟩

theorem acts {K : List Callback} {C : List UInt8} (h : OwnLenths w frames) (ha : Acts K C w w') :
    OwnLenths w' frames :=
  ⟨ha.rxBuffer ▸ h.lenths, ha.buffBody ▸ h.bytes, h.short, h.begins⟩

theorem fetched (h : OwnLenths w frames) (cb : Callback) (env : Env) :
    ∃ rest, OwnLenths (cb.fetched env w) rest := by
  unfold Callback.fetched
  split
  · split_ifs
    · exact ⟨_, h.consumed env⟩
    · exact ⟨_, h⟩
  · exact ⟨_, h⟩

/-- A stored datagram is one more frame. -/
theorem stored (h : OwnLenths w frames) {p : Pbuf} (hp : Stores w p) (hlen : p.totLen.toNat ≤ 255)
    (hroom : frames.length < mqttSnImportMax) (hbegins : BeginsWithLenth p.bytes) (addr : UInt32)
    (port : UInt16) : OwnLenths (w.stored p addr port) (frames ++ [p.bytes]) := by
  have hnz : p.lenth ≠ 0 := fun hz => hp.2.2 (p.lenth_eq_zero.mp hz)
  have hlenth : p.lenth = UInt8.ofNat p.bytes.length := by rw [p.bytes_length, Pbuf.lenth]
  refine ⟨?_, ?_, fun fr hfr => ?_, fun fr hfr => ?_⟩
  · rw [List.map_append, List.map_singleton, ← hlenth]
    exact (write_ok h.lenths hnz (by rwa [List.length_map])).2
  · rw [List.flatten_append, List.flatten_singleton]
    exact (stored_bytes h.bytes hp).2
  · rcases List.mem_append.mp hfr with hfr | hfr
    · exact h.short fr hfr
    · rw [List.mem_singleton.mp hfr, p.bytes_length]
      exact hlen
  · rcases List.mem_append.mp hfr with hfr | hfr
    · exact h.begins fr hfr
    · rwa [List.mem_singleton.mp hfr]

theorem dispatched (h : OwnLenths w frames) (env : Env) (addr : UInt32) (port : UInt16)
    (cmd : UInt8) : ∃ rest, OwnLenths (mqttSnSocketIncommCb env addr port cmd w).2 rest := by
  have hgw : OwnLenths { w with gw := { addr := addr, port := port } } frames :=
    ⟨h.lenths, h.bytes, h.short, h.begins⟩
  unfold mqttSnSocketIncommCb
  cases getAPIFUN cmd with
  | some api => exact ⟨frames, h.lenths, h.bytes, h.short, h.begins⟩
  | none => exact ⟨_, hgw.consumed env⟩

end OwnLenths

/-- What keeps the handlers from a `while(1)`. -/
def LenthsKept (w : World) : Prop := Sound w ∧ ∃ frames, OwnLenths w frames

theorem lenthsKept_step {e : Event} (hw : LenthsKept w) (hc : StoresOwnLenth w e)
    (h : step topics w e = .ok w') : LenthsKept w' := by
  obtain ⟨hsound, frames, hf⟩ := hw
  refine ⟨sound_step hsound h, ?_⟩
  unfold step at h
  split at h
  · rename_i p addr port haction
    cases h
    by_cases hp : Stores w p
    · simp only [StoresOwnLenth, KeepsFrames, haction] at hc
      obtain ⟨hlen, hroom⟩ := hc.1 hp
      rw [hf.lenths.queued_eq, List.length_map] at hroom
      rw [udpServerRecvCb_stores hsound hp]
      exact (hf.stored hp hlen hroom (hc.2 hp) addr port).dispatched _ _ _ _
    · obtain ⟨hrx, hb, -, -⟩ := udpServerRecvCb_refuses hsound hp e.env addr port
      exact ⟨frames, hrx ▸ hf.lenths, hb ▸ hf.bytes, hf.short, hf.begins⟩
  · rename_i num now hnum _
    rcases timerVisit_ok hsound hnum h with ⟨-, rfl⟩ | ⟨t, u, s, -, -, -, hu, -, -, rfl, -, -⟩
    · exact ⟨frames, hf⟩
    · obtain ⟨rest, hrest⟩ := hf.fetched t.timerCallback e.env
      have hfu := hrest.acts (runCallback_acts hu)
      exact ⟨rest, hfu.lenths, hfu.bytes, hfu.short, hfu.begins⟩
  · exact ⟨frames, hf.acts (runAppCall_acts h)⟩

theorem LenthsKept.finds (hw : LenthsKept w) (e : Event) : FindsLenth w e := by
  obtain ⟨-, frames, hf⟩ := hw
  unfold FindsLenth
  split
  · exact fun _ _ _ _ hfr _ => hf.head hfr
  · trivial

theorem Booted.lenthsKept (h : Booted topics w) : LenthsKept w := by
  refine ⟨h.sound, [], ?_, ?_, by simp, by simp⟩ <;> rw [h.eq_startup]
  · exact importZero_view
  · exact buffInit_view

/-- A run ends in a `while(1)` unless every handler that runs finds a frame that begins with its
length, which is so where every stored datagram begins with its own and is queued whole. -/
theorem handlers_return_iff (hinit : mqttClientInit env (startup topics) = .ok w)
    (es : List Event) :
    (Runs.run (step topics) w es ≠ .error .hang ↔ Runs.Meets (step topics) FindsLenth w es) ∧
      (Runs.Meets (step topics) StoresOwnLenth w es →
        Runs.Meets (step topics) FindsLenth w es) := by
  have hboot := mqttClientInit_booted hinit
  constructor
  · exact Runs.run_ne_error_iff (J := Sound) (fun _ _ _ hs h => sound_step hs h)
      (fun _ e hs => step_returns_iff hs e) hboot.sound
  · exact Runs.meets_of_meets (J := LenthsKept) (fun _ _ _ hw hc h => lenthsKept_step hw hc h)
      (fun _ e hw _ => hw.finds e) hboot.lenthsKept

theorem handlers_return_pingresp :
    Runs.run (step topiclist) bootWorld
      [⟨.recv (datagram [2, mqttSnTypePingresp]) 0 10000, quietEnv⟩,
        ⟨.visit 2 200 two_lt_maxTimerNum, quietEnv⟩] ≠ .error .hang := by
  obtain ⟨hreturns, hstores⟩ := handlers_return_iff bootWorld_init
    [⟨.recv (datagram [2, mqttSnTypePingresp]) 0 10000, quietEnv⟩,
      ⟨.visit 2 200 two_lt_maxTimerNum, quietEnv⟩]
  refine hreturns.mpr (hstores ⟨⟨fun _ => ⟨by decide, by decide⟩, fun _ => ?_⟩, fun _ _ => ?_⟩)
  · show BeginsWithLenth (datagram [2, mqttSnTypePingresp]).bytes
    decide
  · exact ⟨⟨trivial, trivial⟩, fun _ _ => trivial⟩

/-- Two bytes, the first of which is not 2, stop the client. -/
theorem wrong_lenth_hangs :
    ¬∀ (topics : Topics) (env : Env) (w : World) (es : List Event),
      mqttClientInit env (startup topics) = .ok w →
        Runs.run (step topics) w es ≠ .error .hang := by
  intro h
  refine h topiclist quietEnv bootWorld
    [⟨.recv (datagram [5, mqttSnTypePingresp]) 0 10000, quietEnv⟩,
      ⟨.visit 2 200 two_lt_maxTimerNum, quietEnv⟩] bootWorld_init ?_
  rfl

end MqttSnClient
