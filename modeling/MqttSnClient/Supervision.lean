import MqttSnClient.Connecting
import MqttSnClient.Registration
import MqttSnClient.Footprint

namespace MqttSnClient
open Memory Bytes

/-- A timer of the callback runs in one of the slots that `ok` allows. -/
def Timer.RunsIn (s : Timer Callback Arg) (ok : ℕ → Prop) (cb : Callback) : Prop :=
  ∃ i, i < maxTimerNum ∧ ok i ∧ (s.timerT i).runing = true ∧ (s.timerT i).timerCallback = cb

def Timer.Runs (s : Timer Callback Arg) : Callback → Prop := s.RunsIn fun _ => True

/-- A timer of the callback runs beside the one in the slot `num`. -/
def Timer.RunsBeside (s : Timer Callback Arg) (num : ℕ) : Callback → Prop := s.RunsIn (· ≠ num)

def World.Awaits (w : World) : Prop := ∃ i t, Registering w.topicMap i t

/-- The next tick registers a topic, if the client is connected then. -/
def World.Registers (w : World) : Prop :=
  ¬w.Awaits ∧ ∃ t ∈ w.topicMap.toppiclist, t.status = .unregister

def World.Watched (w : World) : Prop :=
  1 ≤ w.client.serverWatchdog ∧ w.client.serverWatchdog ≤ w.client.keepAlive

/-- A registration is retried, and a connected server is watched or asked. -/
structure Supervised (w : World) : Prop where
  register : w.Awaits → w.systime.Runs .sendRegisterCb
  server : w.client.status = .connected → w.Watched ∨ w.systime.Runs .pingreqTimeoutCb

/-- The application connects with a keep-alive of at least 1 and leaves the REGISTERs to the
client. -/
def KeepsAlive (e : Event) : Prop :=
  match e.action with
  | .app (.sendConnect _ keepalive _) => 1 ≤ keepalive
  | .app (.sendRegister _) => False
  | _ => True

/-- A slot is free, or another timer is there, whenever a timer has to be armed: by a retry,
whose own slot is in use while it runs, and by a tick, which may need two. -/
def FindsSlot (w : World) (e : Event) : Prop :=
  match e.action with
  | .visit num now _ => timerDue num now w = true →
    match (w.systime.timerT num).timerCallback with
    | .sendRegisterCb => w.Awaits →
        0 < w.systime.free ∨ w.systime.RunsBeside num .sendRegisterCb
    | .pingreqTimeoutCb => w.client.status = .connected →
        w.client.pingReqResLostNum + 1 ≤ mqttSnCilentNadv →
          w.Watched ∨ 0 < w.systime.free ∨ w.systime.RunsBeside num .pingreqTimeoutCb
    | .cyclicCb => w.client.status = .connected →
        (w.Registers → 0 < w.systime.free ∨ w.systime.Runs .sendRegisterCb) ∧
          (w.client.serverWatchdog = 1 →
            0 < w.systime.free ∧ (w.Registers → 1 < w.systime.free) ∨
              w.systime.Runs .pingreqTimeoutCb)
    | _ => True
  | _ => True

section Timers

variable {s : Timer Callback Arg} {ok : ℕ → Prop} {cb : Callback}

theorem runsIn_iff (hs : s.Wf) :
    s.RunsIn ok cb ↔ ∃ i t, ok i ∧ s.live i = some t ∧ t.timerCallback = cb := by
  constructor
  · rintro ⟨i, hi, hok, hrun, hcb⟩
    exact ⟨i, _, hok, live_of_runing hs hi hrun, hcb⟩
  · rintro ⟨i, t, hok, ht, hcb⟩
    obtain ⟨hi, hrun, hsame, -⟩ := live_running hs ht
    exact ⟨i, hi, hok, hrun, hsame.trans hcb⟩

/-- A callback whose live timers stay has a timer still. -/
theorem runs_of_kept {s' : Timer Callback Arg} (hs : s.Wf) (hs' : s'.Wf)
    (hkeep : ∀ {i t}, s.live i = some t → t.timerCallback = cb → s'.live i = some t)
    (h : s.Runs cb) : s'.Runs cb := by
  rw [Timer.Runs, runsIn_iff hs] at h
  rw [Timer.Runs, runsIn_iff hs']
  obtain ⟨i, t, -, ht, hcb⟩ := h
  exact ⟨i, t, trivial, hkeep ht hcb, hcb⟩

/-- After `TimerAdd` a timer of the callback runs if a slot was free or one ran before. -/
theorem runsIn_timerAdd (hs : s.Wf) (hfree : ∀ i, s.live i = none → ok i) (tick : UInt32)
    (mode : UInt8) (timeout : UInt32) (arg : Arg) (timerID : UInt8) :
    (timerAdd tick mode timeout cb arg timerID s).2.RunsIn ok cb ↔
      0 < s.free ∨ s.RunsIn ok cb := by
  rcases live_timerAdd hs tick mode timeout cb arg timerID with
    ⟨hfull, hadd⟩ | ⟨num, hnum, hnone, -, hwf, hlive⟩
  · rw [hadd, hfull]
    simp
  · have hpos := live_free_pos hs hnum hnone
    refine iff_of_true ?_ (Or.inl hpos)
    rw [runsIn_iff hwf]
    exact ⟨num, _, hfree num hnone, by rw [hlive, Function.update_self], rfl⟩

/-- The timers of other callbacks are the same. -/
theorem runsIn_timerAdd_other (hs : s.Wf) {cb' : Callback} (hne : cb' ≠ cb) (tick : UInt32)
    (mode : UInt8) (timeout : UInt32) (arg : Arg) (timerID : UInt8) :
    (timerAdd tick mode timeout cb arg timerID s).2.RunsIn ok cb' ↔ s.RunsIn ok cb' := by
  rcases live_timerAdd hs tick mode timeout cb arg timerID with
    ⟨-, hadd⟩ | ⟨num, -, hnone, -, hwf, hlive⟩
  · rw [hadd]
  rw [runsIn_iff hwf, runsIn_iff hs, hlive]
  constructor
  · rintro ⟨i, t, hok, ht, hcb⟩
    by_cases hi : i = num
    · rw [hi, Function.update_self] at ht
      rw [← Option.some.inj ht] at hcb
      exact absurd hcb.symm hne
    · rw [Function.update_of_ne hi] at ht
      exact ⟨i, t, hok, ht, hcb⟩
  · rintro ⟨i, t, hok, ht, hcb⟩
    refine ⟨i, t, hok, ?_, hcb⟩
    rw [Function.update_of_ne, ht]
    rintro rfl
    rw [hnone] at ht
    cases ht

theorem free_timerAdd (hs : s.Wf) (tick : UInt32) (mode : UInt8) (timeout : UInt32) (cb : Callback)
    (arg : Arg) (timerID : UInt8) :
    (timerAdd tick mode timeout cb arg timerID s).2.free = s.free - 1 := by
  rcases timerAdd_spec hs tick mode timeout cb arg timerID with ⟨hfull, hadd⟩ | ⟨num, -, -, -, hadd⟩
  · rw [hadd, hfull]
  · rw [hadd]
    rfl

/-- A timer that gives its slot back leaves those in the other slots. -/
theorem runs_update {s' : Timer Callback Arg} (hs : s.Wf) (hs' : s'.Wf) {num : ℕ}
    (hlive : s'.live = Function.update s.live num none) : s'.Runs cb ↔ s.RunsBeside num cb := by
  rw [Timer.Runs, Timer.RunsBeside, runsIn_iff hs, runsIn_iff hs', hlive]
  constructor
  · rintro ⟨i, t, -, ht, hcb⟩
    by_cases hi : i = num
    · rw [hi, Function.update_self] at ht
      cases ht
    · rw [Function.update_of_ne hi] at ht
      exact ⟨i, t, hi, ht, hcb⟩
  · rintro ⟨i, t, hi, ht, hcb⟩
    refine ⟨i, t, trivial, ?_, hcb⟩
    rw [Function.update_of_ne hi]
    exact ht

/-- Where the timer of the callback is cancelled and armed again, its slot is free for it. -/
theorem runs_rearm (hs : s.Wf) (cancelled timerID : UInt8) (tick : UInt32) (mode : UInt8)
    (timeout : UInt32) (arg : Arg) (h : s.Runs cb) :
    (timerAdd tick mode timeout cb arg timerID (timerCancelByID cancelled s)).2.Runs cb := by
  have hwf := timerCancelByID_wf hs cancelled
  have hcancel := live_timerCancelByID hs cancelled
  apply (runsIn_timerAdd hwf (fun _ _ => trivial) tick mode timeout arg timerID).mpr
  by_cases hhit : s.live (findTimerIndexbyID cancelled s) = none
  · right
    rw [Timer.Runs, runsIn_iff hs] at h
    rw [runsIn_iff hwf, hcancel, Function.update_eq_self_iff.mpr hhit.symm]
    exact h
  · left
    obtain ⟨t, ht⟩ := Option.ne_none_iff_exists'.mp hhit
    apply live_free_pos hwf (live_running hs ht).1
    rw [hcancel, Function.update_self]

/-- A timer of another callback runs beside the slot if it runs at all. -/
theorem runsBeside_of_ne (hs : s.Wf) {num : ℕ} {t : SwTimer Callback Arg}
    (ht : s.live num = some t) (hne : t.timerCallback ≠ cb) :
    s.RunsBeside num cb ↔ s.Runs cb := by
  rw [Timer.Runs, Timer.RunsBeside, runsIn_iff hs, runsIn_iff hs]
  constructor
  · rintro ⟨i, v, -, hv, hcb⟩
    exact ⟨i, v, trivial, hv, hcb⟩
  · rintro ⟨i, v, -, hv, hcb⟩
    refine ⟨i, v, ?_, hv, hcb⟩
    rintro rfl
    rw [Option.some.inj (ht.symm.trans hv)] at hne
    exact hne hcb

end Timers

variable {topics : Topics} {env : Env} {w u : World}

/-- The table after the timer of a REGISTER was asked for. -/
def armRegister (tick : UInt32) (s : Timer Callback Arg) : Timer Callback Arg :=
  (timerAdd tick timerModeSingle 10000 .sendRegisterCb .client timerIdOfRegister s).2

/-- The table after the timer of a PINGREQ was asked for. -/
def armPing (tick : UInt32) (s : Timer Callback Arg) : Timer Callback Arg :=
  (timerAdd tick timerModeSingle 10000 .pingreqTimeoutCb .client timerIdOfPingreq s).2

theorem mqttSnSendRegister_arms (tick : UInt32) {name : CString}
    (hname : name.strlen < mqttSnMaxTopicLength) (w : World) :
    ∃ u, mqttSnSendRegister tick name w = .ok u ∧ u.systime = armRegister tick w.systime ∧
      u.topicMap = w.topicMap := by
  simp only [mqttSnSendRegister]
  rw [if_neg (by omega)]
  exact ⟨_, rfl, rfl, rfl⟩

/-- A topic of the table is marked by its name. -/
theorem topicidRegistering_awaits {m : TopicMap} {i : ℕ} {t : TopicMapItem}
    (ht : m.toppiclist[i]? = some t) :
    ∃ j v, Registering (topicidRegistering t.topicName m).2 j v := by
  rcases changeFirst_spec (fun v => t.topicName = v.topicName)
    (fun v => { v with status := .registering }) m with ⟨k, v, hk, -, -, heq⟩ | ⟨hno, -⟩
  · refine ⟨k, { v with status := .registering }, ?_, rfl⟩
    rw [topicidRegistering, heq, modify_getElem?, if_pos rfl, hk]
    rfl
  · have hself := hno t (List.mem_of_getElem? ht)
    simp at hself

theorem awaits_iff_any :
    w.Awaits ↔ w.topicMap.toppiclist.any (fun t => t.status = .registering) := by
  rw [List.any_eq_true]
  constructor
  · rintro ⟨i, t, ht, hst⟩
    exact ⟨t, List.mem_of_getElem? ht, by simpa using hst⟩
  · rintro ⟨t, ht, hst⟩
    obtain ⟨i, hi⟩ := List.mem_iff_getElem?.mp ht
    exact ⟨i, t, hi, by simpa using hst⟩

theorem registeralltopic_idle (h : ¬w.Registers) : registeralltopic env topics w = .ok w := by
  unfold registeralltopic
  split_ifs with hany
  · rfl
  · have hnone : w.topicMap.toppiclist.findIdx? (fun t => t.status = .unregister) = none := by
      rw [List.findIdx?_eq_none_iff]
      intro t ht
      by_contra hst
      exact h ⟨fun hreg => hany (awaits_iff_any.mp hreg), t, ht, by simpa using hst⟩
    rw [hnone]

/-- A tick that registers sends a REGISTER and marks the topic, whether or not its timer found
a slot. -/
theorem registeralltopic_registers (env : Env)
    (hnames : w.topicMap.toppiclist.map TopicMapItem.topicName = topics.names)
    (h : w.Registers) :
    ∃ u, registeralltopic env topics w = .ok u ∧ u.systime = armRegister (env.tick 0) w.systime ∧
      u.Awaits := by
  obtain ⟨hno, t, ht, hst⟩ := h
  unfold registeralltopic
  rw [if_neg fun hany => hno (awaits_iff_any.mpr hany)]
  cases hfind : w.topicMap.toppiclist.findIdx? fun t => t.status = .unregister with
  | none =>
    have hall := List.findIdx?_eq_none_iff.mp hfind t ht
    simp [hst] at hall
  | some i =>
    obtain ⟨hi, -, -⟩ := List.findIdx?_eq_some_iff_getElem.mp hfind
    obtain ⟨v, hv⟩ : ∃ v, w.topicMap.toppiclist[i]? = some v := ⟨_, List.getElem?_eq_getElem hi⟩
    have hname : topics.names[i]? = some v.topicName := by
      rw [← hnames, List.getElem?_map, hv, Option.map_some]
    have hfits := topics.fits _ (List.mem_of_getElem? hname)
    obtain ⟨u, hu, hs, hmap⟩ := mqttSnSendRegister_arms (env.tick 0) hfits w
    refine ⟨{ u with topicMap := (topicidRegistering v.topicName u.topicMap).2 }, ?_, hs, ?_⟩
    · simp only [hname, hu]
      rfl
    · apply topicidRegistering_awaits
      rw [hmap]
      exact hv

/-- What a tick does while the client is connected. -/
theorem mqttSnClientCyclic_connected (env : Env) (hst : w.client.status = .connected)
    (hnames : w.topicMap.toppiclist.map TopicMapItem.topicName = topics.names) :
    ∃ u s, mqttSnClientCyclic env topics w = .ok u ∧
      u.client.serverWatchdog = w.client.serverWatchdog - 1 ∧
      (w.Registers ∧ s = armRegister (env.tick 0) w.systime ∧ u.Awaits ∨
        ¬w.Registers ∧ s = w.systime ∧ u.topicMap = w.topicMap) ∧
      u.systime = if w.client.serverWatchdog - 1 = 0 then armPing (env.tick 1) s else s := by
  obtain ⟨x, hx, hcases⟩ : ∃ x, registeralltopic env topics w.ticked = .ok x ∧
      (w.Registers ∧ x.systime = armRegister (env.tick 0) w.systime ∧ x.Awaits ∨
        ¬w.Registers ∧ x.systime = w.systime ∧ x.topicMap = w.topicMap) := by
    by_cases hreg : w.Registers
    · obtain ⟨x, hx, hs, hawaits⟩ := registeralltopic_registers env (w := w.ticked) hnames hreg
      exact ⟨x, hx, Or.inl ⟨hreg, hs, hawaits⟩⟩
    · exact ⟨w.ticked, registeralltopic_idle (w := w.ticked) hreg, Or.inr ⟨hreg, rfl, rfl⟩⟩
  have hleaves : Leaves [] w.ticked x := registeralltopic_leaves hx
  have hwd : x.client.serverWatchdog = w.client.serverWatchdog :=
    hleaves.same .serverWatchdog List.not_mem_nil
  have hcyc : mqttSnClientCyclic env topics w =
      if x.watchedDown.client.serverWatchdog = 0 then
        .ok (mqttSnSendPingreq (env.tick 1) weakup x.watchedDown)
      else .ok x.watchedDown := by
    simp only [mqttSnClientCyclic]
    rw [if_pos hst]
    show (registeralltopic env topics w.ticked >>= _) = _
    rw [hx]
    rfl
  have hzero : x.watchedDown.client.serverWatchdog = w.client.serverWatchdog - 1 :=
    congrArg (· - 1) hwd
  rw [hcyc, hzero]
  by_cases hping : w.client.serverWatchdog - 1 = 0
  · exact ⟨mqttSnSendPingreq (env.tick 1) weakup x.watchedDown, x.systime, if_pos hping, hzero,
      hcases, (if_pos hping).symm⟩
  · exact ⟨x.watchedDown, x.systime, if_neg hping, hzero, hcases, (if_neg hping).symm⟩

/-- The timers whose ID a callback does not cancel stay. -/
theorem runCallback_runs {cb cb' : Callback} {arg : Arg} (hw : Sound w)
    (h : runCallback topics env cb arg w = .ok u) (hC : cb'.armedID ∉ cb.cancels)
    (hruns : w.systime.Runs cb') : u.systime.Runs cb' := by
  have hu := (hw.fetched cb env).acts (runCallback_acts h)
  apply runs_of_kept hw.timers_wf hu.timers_wf _ hruns
  intro i v hv hcb
  apply runCallback_live_kept hw h hv
  rw [hcb]
  exact hC

/-- Only the tick makes a topic registering. -/
theorem awaits_origin {cb : Callback} {arg : Arg} (h : runCallback topics env cb arg w = .ok u)
    (hcb : cb ≠ .cyclicCb) (hu : u.Awaits) : w.Awaits := by
  obtain ⟨i, t, hi⟩ := hu
  by_cases hch : Field.topicMap ∈ cb.changes
  · cases cb with
    | press api =>
      cases api with
      | regack =>
        have hpress : apiRegackPress env w = .ok u := runCallback_press h
        rcases press_ok hpress with ⟨-, -, -, hbody⟩ | ⟨-, rfl⟩
        · split_ifs at hbody <;> cases hbody
          · exact ⟨i, t, registering_of_changeFirst (by simp) hi⟩
          all_goals exact ⟨i, t, hi⟩
        · exact ⟨i, t, hi⟩
      | puback =>
        have hpress : apiPubackPress env w = .ok u := runCallback_press h
        rcases apiPubackPress_topicMap hpress with hsame | ⟨topicid, hm⟩
        · exact ⟨i, t, hsame ▸ hi⟩
        · rw [hm] at hi
          exact ⟨i, t, registering_of_changeFirst (by simp) hi⟩
      | _ => exact absurd hch (by decide)
    | cyclicCb => exact absurd rfl hcb
    | _ => exact absurd hch (by decide)
  · have hsame : u.topicMap = w.topicMap := (runCallback_touches h).same .topicMap hch
    exact ⟨i, t, hsame ▸ hi⟩

/-- After the one topic that was registering is registered, none is. -/
theorem topicidRegistered_awaits {m : TopicMap} (topicid : UInt16)
    (hunique : ∀ {i j t v}, Registering m i t → Registering m j v → i = j) {i : ℕ}
    {t : TopicMapItem} : ¬Registering (topicidRegistered topicid m).2 i t := by
  intro hi
  have hold : Registering m i t := registering_of_changeFirst (by simp) hi
  rcases changeFirst_spec (fun t => t.status = .registering)
    (fun t => { t with status := .registered, topicId := topicid }) m with
    ⟨k, v, hk, hv, -, heq⟩ | ⟨hno, -⟩
  · obtain rfl := hunique hold ⟨hk, by simpa using hv⟩
    rw [Registering, topicidRegistered, heq, modify_getElem?, if_pos rfl, hk] at hi
    have hst := hi.2
    rw [← Option.some.inj hi.1] at hst
    cases hst
  · have hfirst := hno t (List.mem_of_getElem? hold.1)
    simp [hold.2] at hfirst

/-- The handler of REGACK leaves no topic registering, or leaves the retry armed. -/
theorem apiRegackPress_supervised (hw : Sound w) (hbound : TopicsBound topics w)
    (h : apiRegackPress env w = .ok u) (hruns : w.systime.Runs .sendRegisterCb)
    (hu : u.Awaits) : u.systime.Runs .sendRegisterCb := by
  rcases press_ok h with ⟨-, -, -, hbody⟩ | ⟨-, rfl⟩
  · split_ifs at hbody <;> cases hbody
    · obtain ⟨i, t, hi⟩ := hu
      exact absurd hi (topicidRegistered_awaits _ hbound.unique)
    · exact runs_rearm hw.timers_wf timerIdOfRegister timerIdOfRegister _ _ _ _ hruns
    · exact runs_rearm hw.timers_wf timerIdOfRegister timerIdOfRegister _ _ _ _ hruns
    · exact hruns
  · exact hruns

/-- The retry of a REGISTER asks for a timer once. -/
theorem mqttSnSendRegisterCb_arms (env : Env) (hbound : TopicsBound topics w) (h : w.Awaits) :
    ∃ u tick, mqttSnSendRegisterCb env topics w = .ok u ∧
      u.systime = armRegister tick w.systime ∧ u.topicMap = w.topicMap := by
  obtain ⟨i, t, hi⟩ := h
  obtain ⟨name, hname⟩ : ∃ name, topics.names[i]? = some name := by
    rw [← hbound.names, List.getElem?_map, hi.1]
    exact ⟨_, rfl⟩
  have hone : mqttSnSendRegisterCb env topics w = mqttSnSendRegister (env.tick i) name w :=
    mqttSnSendRegisterCb_one hi (fun hj => hbound.unique hj hi) hname
  have hfits := topics.fits name (List.mem_of_getElem? hname)
  obtain ⟨u, hu, hs, hmap⟩ := mqttSnSendRegister_arms (env.tick i) hfits w
  exact ⟨u, env.tick i, hone.trans hu, hs, hmap⟩

/-- A PINGRESP that is accepted sets the watchdog; another one changes nothing here. -/
theorem apiPingresPress_cases (h : apiPingresPress env w = .ok u) :
    (w.client.status = .connected ∧ u.client.serverWatchdog = w.client.keepAlive) ∨
      (u.client.serverWatchdog = w.client.serverWatchdog ∧ u.systime = w.systime) := by
  rcases press_ok h with ⟨-, -, -, hbody⟩ | ⟨-, rfl⟩
  · split_ifs at hbody with hacc <;> cases hbody
    · exact Or.inl ⟨hacc.2, rfl⟩
    · exact Or.inr ⟨rfl, rfl⟩
  · exact Or.inr ⟨rfl, rfl⟩

/-- What carries the supervision through a run: while the client is connecting, the watchdog
is set already. -/
structure SupervisionInv (topics : Topics) (w : World) : Prop extends Supervised w where
  sound : Sound w
  bound : TopicsBound topics w
  alive : 1 ≤ w.client.keepAlive
  connecting : w.client.status = .connecting → w.Watched

/-- The turn of `TimerCheck` that runs the timer `t` from `w` to `u` and leaves `s`. -/
structure Turn (topics : Topics) (env : Env) (w u : World) (num : ℕ)
    (t : SwTimer Callback Arg) (s : Timer Callback Arg) : Prop where
  live : w.systime.live num = some t
  run : runCallback topics env t.timerCallback t.arg w = .ok u
  sound : Sound u
  stay : u.systime.live num = some t
  wf : s.Wf
  left : s.live = if t.timerCallback = .cyclicCb then u.systime.live
    else Function.update u.systime.live num none

variable {num : ℕ} {t : SwTimer Callback Arg} {s : Timer Callback Arg}

/-- A one-shot timer leaves those of the other slots. -/
theorem Turn.runs_iff (h : Turn topics env w u num t s) (ht : t.timerCallback ≠ .cyclicCb)
    (cb : Callback) : s.Runs cb ↔ u.systime.RunsBeside num cb := by
  have hleft := h.left
  rw [if_neg ht] at hleft
  exact runs_update h.sound.timers_wf h.wf hleft

theorem Turn.runs_other (h : Turn topics env w u num t s) {cb : Callback}
    (hne : t.timerCallback ≠ cb) : s.Runs cb ↔ u.systime.Runs cb := by
  by_cases hcyc : t.timerCallback = .cyclicCb
  · have hleft := h.left
    rw [if_pos hcyc] at hleft
    rw [Timer.Runs, runsIn_iff h.wf, hleft, Timer.Runs, runsIn_iff h.sound.timers_wf]
  · rw [h.runs_iff hcyc, runsBeside_of_ne h.sound.timers_wf h.stay hne]

/-- A callback that asks for its own timer while it holds a slot finds one or loses it. -/
theorem Turn.runs_armed (h : Turn topics env w u num t s) (hw : Sound w) {cb : Callback}
    (hcb : t.timerCallback = cb) (hne : cb ≠ .cyclicCb) {tick timeout : UInt32} {arg : Arg}
    {timerID : UInt8}
    (hadd : u.systime = (timerAdd tick timerModeSingle timeout cb arg timerID w.systime).2) :
    s.Runs cb ↔ 0 < w.systime.free ∨ w.systime.RunsBeside num cb := by
  subst hcb
  rw [h.runs_iff hne, hadd]
  apply runsIn_timerAdd hw.timers_wf
  rintro i hnone rfl
  rw [h.live] at hnone
  cases hnone

/-- While the client is not connected, the tick changes the clock and the gateways only. -/
theorem mqttSnClientCyclic_idle (hst : w.client.status ≠ .connected)
    (h : mqttSnClientCyclic env topics w = .ok u) :
    u.topicMap = w.topicMap ∧ u.systime = w.systime ∧
      u.client.serverWatchdog = w.client.serverWatchdog := by
  rcases mqttSnClientCyclic_ok h with ⟨-, rfl⟩ | ⟨hconnected, -⟩
  · exact ⟨rfl, rfl, rfl⟩
  · exact absurd hconnected hst

theorem runs_armPing_register (hs : s.Wf) (tick : UInt32) :
    (armPing tick s).Runs .sendRegisterCb ↔ s.Runs .sendRegisterCb :=
  runsIn_timerAdd_other hs Callback.noConfusion _ _ _ _ _

theorem runs_armRegister_ping (hs : s.Wf) (tick : UInt32) :
    (armRegister tick s).Runs .pingreqTimeoutCb ↔ s.Runs .pingreqTimeoutCb :=
  runsIn_timerAdd_other hs Callback.noConfusion _ _ _ _ _

/-- A retry of the registration asks for its own timer and leaves the topics. -/
theorem Turn.register_again (h : Turn topics env w u num t s) (hw : SupervisionInv topics w)
    (hcb : t.timerCallback = .sendRegisterCb) (hawaits : w.Awaits) :
    (s.Runs .sendRegisterCb ↔
      0 < w.systime.free ∨ w.systime.RunsBeside num .sendRegisterCb) ∧
      u.topicMap = w.topicMap := by
  have hrun := h.run
  rw [hcb] at hrun
  obtain ⟨x, tick, hx, htimers, hmap⟩ := mqttSnSendRegisterCb_arms env hw.bound hawaits
  obtain rfl := Except.ok.inj (hx.symm.trans (runCallback_register hrun))
  exact ⟨h.runs_armed hw.sound hcb (by decide) htimers, hmap⟩

/-- The registration is retried after a turn if a slot was found. -/
theorem Turn.register (h : Turn topics env w u num t s) (hw : SupervisionInv topics w)
    (hregister : t.timerCallback = .sendRegisterCb → w.Awaits →
      0 < w.systime.free ∨ w.systime.RunsBeside num .sendRegisterCb)
    (hcyclic : t.timerCallback = .cyclicCb → w.client.status = .connected → w.Registers →
      0 < w.systime.free ∨ w.systime.Runs .sendRegisterCb) (hu : u.Awaits) :
    s.Runs .sendRegisterCb := by
  have hsound := hw.sound
  by_cases hcyc : t.timerCallback = .cyclicCb
  · have hrun := h.run
    rw [hcyc] at hrun
    have hcb := runCallback_cyclic hrun
    rw [h.runs_other (by rw [hcyc]; decide)]
    by_cases hst : w.client.status = .connected
    · obtain ⟨x, s', hx, -, hcases, htimers⟩ :=
        mqttSnClientCyclic_connected env hst hw.bound.names
      obtain rfl := Except.ok.inj (hx.symm.trans hcb)
      have hs' : s'.Wf ∧ s'.Runs .sendRegisterCb := by
        rcases hcases with ⟨hreg, rfl, -⟩ | ⟨-, rfl, hmap⟩
        · refine ⟨timerAdd_wf hsound.timers_wf _ _ _ _ _ _, ?_⟩
          exact (runsIn_timerAdd hsound.timers_wf (fun _ _ => trivial) _ _ _ _ _).mpr
            (hcyclic hcyc hst hreg)
        · refine ⟨hsound.timers_wf, hw.register ?_⟩
          obtain ⟨i, v, hi⟩ := hu
          exact ⟨i, v, hmap ▸ hi⟩
      rw [htimers]
      split_ifs
      · exact (runs_armPing_register hs'.1 _).mpr hs'.2
      · exact hs'.2
    · obtain ⟨hmap, htimers, -⟩ := mqttSnClientCyclic_idle hst hcb
      obtain ⟨i, v, hi⟩ := hu
      rw [htimers]
      exact hw.register ⟨i, v, hmap ▸ hi⟩
  have hawaits := awaits_origin h.run hcyc hu
  by_cases hown : t.timerCallback = .sendRegisterCb
  · exact (h.register_again hw hown hawaits).1.mpr (hregister hown hawaits)
  by_cases hack : t.timerCallback = .press .regack
  · have hrun := h.run
    rw [hack] at hrun
    rw [h.runs_other hown]
    exact apiRegackPress_supervised hsound hw.bound (runCallback_press hrun)
      (hw.register hawaits) hu
  · rw [h.runs_other hown]
    apply runCallback_runs hsound h.run _ (hw.register hawaits)
    cases hkind : t.timerCallback with
    | press api =>
      cases api <;> first | exact absurd hkind hack | decide
    | _ => decide

theorem watched_of_eq (hwd : u.client.serverWatchdog = w.client.serverWatchdog)
    (hka : u.client.keepAlive = w.client.keepAlive) : u.Watched ↔ w.Watched := by
  rw [World.Watched, World.Watched, hwd, hka]

/-- The watchdog counts down inside its range. -/
theorem watchdog_counts {wd keepalive : UInt16} (hpos : 1 ≤ wd) (hle : wd ≤ keepalive)
    (hne : wd ≠ 1) : 1 ≤ wd - 1 ∧ wd - 1 ≤ keepalive := by
  grind

theorem runCallback_keeps_watch {cb : Callback} {arg : Arg}
    (h : runCallback topics env cb arg w = .ok u) (hwd : Part.serverWatchdog ∉ cb.parts)
    (hka : Part.keepAlive ∉ cb.parts) : u.Watched ↔ w.Watched :=
  watched_of_eq ((runCallback_leaves h).same .serverWatchdog hwd)
    ((runCallback_leaves h).same .keepAlive hka)

/-- A tick that finds the watchdog at 1 needs a slot for the timer of the PINGREQ. -/
theorem cyclic_server (h : mqttSnClientCyclic env topics w = .ok u) (hw : SupervisionInv topics w)
    (hst : w.client.status = .connected)
    (hslot : w.client.serverWatchdog = 1 →
      0 < w.systime.free ∧ (w.Registers → 1 < w.systime.free) ∨
        w.systime.Runs .pingreqTimeoutCb) :
    u.Watched ∨ u.systime.Runs .pingreqTimeoutCb := by
  have hs := hw.sound.timers_wf
  obtain ⟨x, s, hx, hwd, hcases, htimers⟩ := mqttSnClientCyclic_connected env hst hw.bound.names
  obtain rfl := Except.ok.inj (hx.symm.trans h)
  have hka : x.client.keepAlive = w.client.keepAlive :=
    (mqttSnClientCyclic_leaves h).same .keepAlive (by decide)
  have hwf : s.Wf := by
    rcases hcases with ⟨-, rfl, -⟩ | ⟨-, rfl, -⟩
    · exact timerAdd_wf hs _ _ _ _ _ _
    · exact hs
  have hping : s.Runs .pingreqTimeoutCb ↔ w.systime.Runs .pingreqTimeoutCb := by
    rcases hcases with ⟨-, rfl, -⟩ | ⟨-, rfl, -⟩
    · exact runs_armRegister_ping hs _
    · exact Iff.rfl
  have harmed : (armPing (env.tick 1) s).Runs .pingreqTimeoutCb ↔
      0 < s.free ∨ s.Runs .pingreqTimeoutCb :=
    runsIn_timerAdd hwf (fun _ _ => trivial) _ _ _ _ _
  by_cases hrun : w.systime.Runs .pingreqTimeoutCb
  · right
    rw [htimers]
    split_ifs
    · exact harmed.mpr (Or.inr (hping.mpr hrun))
    · exact hping.mpr hrun
  have hwatched : w.Watched := (hw.server hst).resolve_right hrun
  by_cases hone : w.client.serverWatchdog = 1
  · right
    obtain ⟨hfree, hmore⟩ := (hslot hone).resolve_right hrun
    rw [htimers, hone, if_pos (by decide)]
    apply harmed.mpr
    left
    rcases hcases with ⟨hreg, rfl, -⟩ | ⟨-, rfl, -⟩
    · have hleft : (armRegister (env.tick 0) w.systime).free = w.systime.free - 1 :=
        free_timerAdd hs _ _ _ _ _ _
      have hmore := hmore hreg
      omega
    · exact hfree
  · left
    rw [World.Watched, hwd, hka]
    exact watchdog_counts hwatched.1 hwatched.2 hone

/-- The ping is sent again with a new timer, or the client disconnects. -/
theorem mqttSnClientPingreqTimeoutCb_cases (env : Env) (w : World) :
    (w.client.pingReqResLostNum + 1 ≤ mqttSnCilentNadv ∧
        (mqttSnClientPingreqTimeoutCb env w).systime = armPing (env.tick 0) w.systime ∧
        (mqttSnClientPingreqTimeoutCb env w).client.status = w.client.status) ∨
      ¬w.client.pingReqResLostNum + 1 ≤ mqttSnCilentNadv ∧
        (mqttSnClientPingreqTimeoutCb env w).client.status = .disconnecting := by
  simp only [mqttSnClientPingreqTimeoutCb]
  split_ifs with hlost
  · exact Or.inl ⟨hlost, rfl, rfl⟩
  · exact Or.inr ⟨hlost, rfl⟩

/-- A connected server is watched or asked after a turn if a slot was found. -/
theorem Turn.server (h : Turn topics env w u num t s) (hw : SupervisionInv topics w)
    (hping : t.timerCallback = .pingreqTimeoutCb → w.client.status = .connected →
      w.client.pingReqResLostNum + 1 ≤ mqttSnCilentNadv →
        w.Watched ∨ 0 < w.systime.free ∨ w.systime.RunsBeside num .pingreqTimeoutCb)
    (hcyclic : t.timerCallback = .cyclicCb → w.client.status = .connected →
      w.client.serverWatchdog = 1 →
        0 < w.systime.free ∧ (w.Registers → 1 < w.systime.free) ∨
          w.systime.Runs .pingreqTimeoutCb)
    (hu : u.client.status = .connected) : u.Watched ∨ s.Runs .pingreqTimeoutCb := by
  have hsound := hw.sound
  have hrun := h.run
  by_cases hst : w.client.status = .connected
  -- the session was opened by a CONNACK, which leaves the watchdog as CONNECT set it
  rotate_left
  · obtain ⟨hcb, hconn, -⟩ := connected_origin hsound hrun hst hu
    left
    rw [hcb] at hrun
    exact (runCallback_keeps_watch hrun (by decide) (by decide)).mpr (hw.connecting hconn)
  by_cases hown : t.timerCallback = .pingreqTimeoutCb
  · rw [hown] at hrun
    have hsame := runCallback_keeps_watch hrun (by decide) (by decide)
    obtain rfl := runCallback_pingTimeout hrun
    rcases mqttSnClientPingreqTimeoutCb_cases env w with ⟨hlost, htimers, -⟩ | ⟨-, hdis⟩
    · rcases hping hown hst hlost with hwatched | hfree
      · exact Or.inl (hsame.mpr hwatched)
      · right
        exact (h.runs_armed hsound hown (by decide) htimers).mpr hfree
    · rw [hdis] at hu
      cases hu
  rw [h.runs_other hown]
  by_cases hres : t.timerCallback = .press .pingres
  · rw [hres] at hrun
    have hka : u.client.keepAlive = w.client.keepAlive :=
      (runCallback_leaves hrun).same .keepAlive (by decide)
    rcases apiPingresPress_cases (runCallback_press hrun) with ⟨-, hset⟩ | ⟨hwd, htimers⟩
    · left
      rw [World.Watched, hset, hka]
      exact ⟨hw.alive, UInt16.le_refl _⟩
    · rw [watched_of_eq hwd hka, htimers]
      exact hw.server hst
  have hother : ∀ {cb}, t.timerCallback = cb → Part.serverWatchdog ∉ cb.parts →
      Part.keepAlive ∉ cb.parts → Callback.pingreqTimeoutCb.armedID ∉ cb.cancels →
        u.Watched ∨ u.systime.Runs .pingreqTimeoutCb := by
    rintro _ rfl hwd hka hC
    rw [runCallback_keeps_watch hrun hwd hka]
    exact (hw.server hst).imp_right (runCallback_runs hsound hrun hC)
  cases hkind : t.timerCallback with
  | cyclicCb =>
    rw [hkind] at hrun
    exact cyclic_server (runCallback_cyclic hrun) hw hst (hcyclic hkind hst)
  | sendConnectCb =>
    rw [hkind] at hrun
    have hsend := runCallback_connect hrun
    rw [mqttSnSendConnectCb, if_pos hst] at hsend
    cases hsend
    exact hw.server hst
  | press api =>
    cases api <;>
      first
      | exact absurd hkind hres
      | exact hother hkind (by decide) (by decide) (by decide)
  | _ => exact hother hkind (by decide) (by decide) (by decide)

theorem watched_of_connect {tick : UInt32} {clientId : CString} {keepalive : UInt16}
    {flags : UInt8} (h : mqttSnSendConnect tick clientId keepalive flags w = .ok u)
    (hpos : 1 ≤ keepalive) : 1 ≤ u.client.keepAlive ∧ u.Watched := by
  obtain ⟨-, hka, hwd⟩ := mqttSnSendConnect_watch h
  rw [World.Watched, hka, hwd]
  exact ⟨hpos, hpos, UInt16.le_refl _⟩

/-- While the client is connecting the watchdog stays as CONNECT set it. -/
theorem Turn.connecting (h : Turn topics env w u num t s) (hw : SupervisionInv topics w) :
    1 ≤ u.client.keepAlive ∧ (u.client.status = .connecting → u.Watched) := by
  have hrun := h.run
  by_cases hconn : t.timerCallback = .sendConnectCb
  · rw [hconn] at hrun
    rcases mqttSnSendConnectCb_ok (runCallback_connect hrun) with ⟨-, rfl⟩ | ⟨-, hsend⟩
    · exact ⟨hw.alive, hw.connecting⟩
    · obtain ⟨hka, hwatched⟩ := watched_of_connect hsend (by decide)
      exact ⟨hka, fun _ => hwatched⟩
  have hka : u.client.keepAlive = w.client.keepAlive := by
    apply (runCallback_leaves hrun).same .keepAlive
    cases hkind : t.timerCallback with
    | press api => cases api <;> decide
    | sendConnectCb => exact absurd hkind hconn
    | _ => decide
  rw [hka]
  refine ⟨hw.alive, fun hu => ?_⟩
  have hst := connecting_origin hw.sound hrun hconn hu
  have hwd : u.client.serverWatchdog = w.client.serverWatchdog := by
    by_cases hpart : Part.serverWatchdog ∈ t.timerCallback.parts
    · cases hkind : t.timerCallback with
      | cyclicCb =>
        rw [hkind] at hrun
        have hne : w.client.status ≠ .connected := by
          rw [hst]
          decide
        exact (mqttSnClientCyclic_idle hne (runCallback_cyclic hrun)).2.2
      | press api =>
        rw [hkind] at hrun hpart
        cases api with
        | pingres =>
          rcases apiPingresPress_cases (runCallback_press hrun) with ⟨hno, -⟩ | ⟨hsame, -⟩
          · rw [hst] at hno
            cases hno
          · exact hsame
        | _ => exact absurd hpart (by decide)
      | sendConnectCb => exact absurd hkind hconn
      | _ =>
        rw [hkind] at hpart
        exact absurd hpart (by decide)
    · exact (runCallback_leaves hrun).same .serverWatchdog hpart
  exact (watched_of_eq hwd hka).mpr (hw.connecting hst)

theorem timerVisit_turn {now : UInt32} {w' : World} (hw : Sound w) (hnum : num < maxTimerNum)
    (h : timerVisit topics num now env w = .ok w') :
    (timerDue num now w = false ∧ w' = w) ∨
      ∃ t u s, timerDue num now w = true ∧
        (w.systime.timerT num).timerCallback = t.timerCallback ∧
        Turn topics env w u num t s ∧ w' = { u with systime := s } := by
  rcases timerVisit_ok hw hnum h with
    hidle | ⟨t, u, s, hdue, ht, -, hrun, hu, hstay, rfl, hs, hlive⟩
  · exact Or.inl hidle
  · exact Or.inr ⟨t, u, s, hdue, (live_running hw.timers_wf ht).2.2.1,
      ⟨ht, hrun, hu, hstay, hs, hlive⟩, rfl⟩

/-- A datagram arms a handler timer at most and leaves what is supervised. -/
theorem SupervisionInv.recv {addr : UInt32} {port : UInt16} {w' : World}
    (hw : SupervisionInv topics w) (hsound : Sound w') (hbound : TopicsBound topics w')
    (h : Received addr port w w') : SupervisionInv topics w' := by
  obtain ⟨rx, b, g, s, heq, hs⟩ := h
  have hruns : ∀ {cb}, w.systime.Runs cb → s.Runs cb :=
    runs_of_kept hw.sound.timers_wf (hs.wf hw.sound.timers_wf)
      fun ht _ => hs.persists hw.sound.timers_wf ht id
  refine ⟨⟨?_, ?_⟩, hsound, hbound, ?_, ?_⟩
  · rw [heq]
    intro hawaits
    exact hruns (hw.register hawaits)
  · rw [heq]
    intro hst
    exact (hw.server hst).imp_right hruns
  · rw [heq]
    exact hw.alive
  · rw [heq]
    exact hw.connecting

/-- A call of the application keeps the timers, and only a CONNECT touches the watchdog. -/
theorem SupervisionInv.app {call : AppCall} {w' : World} (hw : SupervisionInv topics w)
    (hD : KeepsAlive ⟨.app call, env⟩) (hsound : Sound w') (hbound : TopicsBound topics w')
    (h : runAppCall env call w = .ok w') : SupervisionInv topics w' := by
  have htouch := runAppCall_touches h
  have hleaves := runAppCall_leaves h
  have hruns : ∀ {cb}, w.systime.Runs cb → w'.systime.Runs cb :=
    runs_of_kept hw.sound.timers_wf hsound.timers_wf
      fun ht _ => (runAppCall_acts h).live_kept hw.sound ht List.not_mem_nil
  have hregister : w'.Awaits → w'.systime.Runs .sendRegisterCb := by
    have hmap : w'.topicMap = w.topicMap := by
      apply htouch.same .topicMap
      cases call <;> simp [AppCall.changes]
    rintro ⟨i, t, hi⟩
    exact hruns (hw.register ⟨i, t, hmap ▸ hi⟩)
  cases call with
  | sendConnect clientId keepalive flags =>
    obtain ⟨hst, -⟩ := mqttSnSendConnect_watch h
    obtain ⟨halive, hwatched⟩ := watched_of_connect h hD
    refine ⟨⟨hregister, fun hconn => ?_⟩, hsound, hbound, halive, fun _ => hwatched⟩
    rw [hst] at hconn
    cases hconn
  | sendDisconnect duration =>
    cases h
    exact ⟨⟨hregister, Status.noConfusion⟩, hsound, hbound, hw.alive, Status.noConfusion⟩
  | _ =>
    have hst : w'.client.status = w.client.status :=
      htouch.same .status (by simp [AppCall.changes])
    have hka : w'.client.keepAlive = w.client.keepAlive :=
      hleaves.same .keepAlive List.not_mem_nil
    have hwatched : w'.Watched ↔ w.Watched :=
      watched_of_eq (hleaves.same .serverWatchdog List.not_mem_nil) hka
    refine ⟨⟨hregister, fun hconn => ?_⟩, hsound, hbound, hka ▸ hw.alive, fun hconn => ?_⟩
    · rw [hwatched]
      exact (hw.server (hst.symm.trans hconn)).imp_right hruns
    · rw [hwatched]
      exact hw.connecting (hst.symm.trans hconn)

theorem supervision_step (w : World) (e : Event) (w' : World) (hD : KeepsAlive e)
    (hw : SupervisionInv topics w) (hc : FindsSlot w e) (h : step topics w e = .ok w') :
    SupervisionInv topics w' := by
  have hown : ∀ name, e.action ≠ .app (.sendRegister name) := by
    intro name heq
    simp only [KeepsAlive, heq] at hD
  obtain ⟨hsound, hbound⟩ := topicsBound_step w e w' ⟨hw.sound, hw.bound⟩ hown h
  obtain ⟨action, env⟩ := e
  cases action with
  | recv p addr port =>
    cases h
    exact hw.recv hsound hbound (udpServerRecvCb_received env p addr port w)
  | app call => exact hw.app hD hsound hbound h
  | visit num now hnum =>
    rcases timerVisit_turn hw.sound hnum h with ⟨-, rfl⟩ | ⟨t, u, s, hdue, hkind, hturn, rfl⟩
    · exact hw
    have hc := hc hdue
    rw [hkind] at hc
    obtain ⟨halive, hconnecting⟩ := hturn.connecting hw
    refine ⟨⟨hturn.register hw ?_ ?_, hturn.server hw ?_ ?_⟩, hsound, hbound, halive, hconnecting⟩
    · intro hcb
      rw [hcb] at hc
      exact hc
    · intro hcb
      rw [hcb] at hc
      exact fun hst => (hc hst).1
    · intro hcb
      rw [hcb] at hc
      exact hc
    · intro hcb
      rw [hcb] at hc
      exact fun hst => (hc hst).2

/-- A turn with the outcome of its callback. -/
theorem turn_of_run {now : UInt32} (hw : Sound w) (hnum : num < maxTimerNum)
    (hdue : timerDue num now w = true)
    (hrun : runCallback topics env (w.systime.timerT num).timerCallback
      (w.systime.timerT num).arg w = .ok u) :
    ∃ t s, t.timerCallback = (w.systime.timerT num).timerCallback ∧
      Turn topics env w u num t s ∧
        timerVisit topics num now env w = .ok { u with systime := s } := by
  obtain ⟨t, s, ht, -, hcb, harg, hu, hstay, hvisit, hs, hleft⟩ := timerVisit_due hw hnum hdue hrun
  rw [← hcb, ← harg] at hrun
  exact ⟨t, s, hcb, ⟨ht, hrun, hu, hstay, hs, hleft⟩, hvisit⟩

/-- A retry of the registration that finds no slot is the last one. -/
theorem Turn.register_stalls (h : Turn topics env w u num t s) (hw : SupervisionInv topics w)
    (hcb : t.timerCallback = .sendRegisterCb) (hawaits : w.Awaits)
    (hno : ¬(0 < w.systime.free ∨ w.systime.RunsBeside num .sendRegisterCb)) :
    ¬Supervised { u with systime := s } := by
  intro hsup
  apply hno
  obtain ⟨hiff, hmap⟩ := h.register_again hw hcb hawaits
  apply hiff.mp
  obtain ⟨i, x, hi⟩ := hawaits
  exact hsup.register ⟨i, x, hmap.symm ▸ hi⟩

/-- A ping that is sent again and finds no slot is the last one. -/
theorem Turn.ping_stalls (h : Turn topics env w u num t s) (hw : SupervisionInv topics w)
    (hcb : t.timerCallback = .pingreqTimeoutCb) (hst : w.client.status = .connected)
    (hlost : w.client.pingReqResLostNum + 1 ≤ mqttSnCilentNadv)
    (hno : ¬(w.Watched ∨ 0 < w.systime.free ∨ w.systime.RunsBeside num .pingreqTimeoutCb)) :
    ¬Supervised { u with systime := s } := by
  intro hsup
  apply hno
  have hrun := h.run
  rw [hcb] at hrun
  have hwatch := runCallback_keeps_watch hrun (by decide) (by decide)
  obtain rfl := runCallback_pingTimeout hrun
  rcases mqttSnClientPingreqTimeoutCb_cases env w with ⟨-, htimers, hsame⟩ | ⟨hlast, -⟩
  · have hiff := h.runs_armed hw.sound hcb (by decide) htimers
    exact (hsup.server (hsame.trans hst)).imp hwatch.mp hiff.mp
  · exact absurd hlost hlast

/-- A tick that finds too few slots leaves a topic without its timer, or a server that it has
given up watching without a ping. -/
theorem Turn.cyclic_stalls (h : Turn topics env w u num t s) (hw : SupervisionInv topics w)
    (hcb : t.timerCallback = .cyclicCb) (hst : w.client.status = .connected)
    (hno : ¬((w.Registers → 0 < w.systime.free ∨ w.systime.Runs .sendRegisterCb) ∧
      (w.client.serverWatchdog = 1 → 0 < w.systime.free ∧ (w.Registers → 1 < w.systime.free) ∨
        w.systime.Runs .pingreqTimeoutCb))) :
    ¬Supervised { u with systime := s } := by
  intro hsup
  apply hno
  have hs := hw.sound.timers_wf
  have hrun := h.run
  rw [hcb] at hrun
  obtain ⟨v, s', hv, hwd, hcases, htimers⟩ := mqttSnClientCyclic_connected env hst hw.bound.names
  obtain rfl := Except.ok.inj (hv.symm.trans (runCallback_cyclic hrun))
  have hwf : s'.Wf := by
    rcases hcases with ⟨-, rfl, -⟩ | ⟨-, rfl, -⟩
    · exact timerAdd_wf hs _ _ _ _ _ _
    · exact hs
  refine ⟨fun hreg => ?_, fun hone => ?_⟩
  · rcases hcases with ⟨-, rfl, hawaits⟩ | ⟨hidle, -⟩
    · have hruns := (h.runs_other (by rw [hcb]; decide)).mp (hsup.register hawaits)
      have hregs : (armRegister (env.tick 0) w.systime).Runs .sendRegisterCb := by
        rw [htimers] at hruns
        split_ifs at hruns
        · exact (runs_armPing_register hwf _).mp hruns
        · exact hruns
      exact (runsIn_timerAdd hs (fun _ _ => trivial) _ _ _ _ _).mp hregs
    · exact absurd hreg hidle
  · have hsame : v.client.status = w.client.status :=
      (mqttSnClientCyclic_touches hv).same .status (by decide)
    rcases hsup.server (hsame.trans hst) with hset | hruns
    -- the watchdog has run out, so only a ping can supervise the server
    · have hzero : v.client.serverWatchdog = 0 := by
        rw [hwd, hone]
        rfl
      have hpos : 1 ≤ v.client.serverWatchdog := hset.1
      rw [hzero] at hpos
      exact absurd hpos (by decide)
    · have hping := (h.runs_other (by rw [hcb]; decide)).mp hruns
      rw [htimers, hone, if_pos (by decide)] at hping
      apply ((runsIn_timerAdd hwf (fun _ _ => trivial) _ _ _ _ _).mp hping).imp
      · intro hfree
        rcases hcases with ⟨hreg, rfl, -⟩ | ⟨hidle, rfl, -⟩
        · have hleft : (armRegister (env.tick 0) w.systime).free = w.systime.free - 1 :=
            free_timerAdd hs _ _ _ _ _ _
          exact ⟨by omega, fun _ => by omega⟩
        · exact ⟨hfree, fun hreg => absurd hreg hidle⟩
      · intro hold
        rcases hcases with ⟨-, rfl, -⟩ | ⟨-, rfl, -⟩
        · exact (runs_armRegister_ping hs _).mp hold
        · exact hold

/-- A turn that finds no slot where it needs one leaves the registration or the server
unsupervised. -/
theorem supervision_visit_breaks {now : UInt32} (hnum : num < maxTimerNum)
    (hw : SupervisionInv topics w) (hc : ¬FindsSlot w ⟨.visit num now hnum, env⟩) :
    ∃ w', timerVisit topics num now env w = .ok w' ∧ ¬Supervised w' := by
  simp only [FindsSlot, Classical.not_imp] at hc
  obtain ⟨hdue, hc⟩ := hc
  -- each of the three callbacks returns, so its turn is taken
  cases hkind : (w.systime.timerT num).timerCallback with
  | sendRegisterCb =>
    simp only [hkind, Classical.not_imp] at hc
    obtain ⟨u, -, hu, -⟩ := mqttSnSendRegisterCb_arms env hw.bound hc.1
    have hsend : runCallback topics env .sendRegisterCb .client w = .ok u := hu
    obtain ⟨t, s, hcb, hturn, hvisit⟩ :=
      turn_of_run hw.sound hnum hdue (timerDue_run hw.sound hnum hdue hkind rfl hsend)
    exact ⟨_, hvisit, hturn.register_stalls hw (hcb.trans hkind) hc.1 hc.2⟩
  | pingreqTimeoutCb =>
    simp only [hkind, Classical.not_imp] at hc
    have hping : runCallback topics env .pingreqTimeoutCb .client w =
        .ok (mqttSnClientPingreqTimeoutCb env w) := rfl
    obtain ⟨t, s, hcb, hturn, hvisit⟩ :=
      turn_of_run hw.sound hnum hdue (timerDue_run hw.sound hnum hdue hkind rfl hping)
    exact ⟨_, hvisit, hturn.ping_stalls hw (hcb.trans hkind) hc.1 hc.2.1 hc.2.2⟩
  | cyclicCb =>
    simp only [hkind, Classical.not_imp] at hc
    obtain ⟨u, -, hu, -⟩ := mqttSnClientCyclic_connected env hc.1 hw.bound.names
    have hcyc : runCallback topics env .cyclicCb .null w = .ok u := hu
    obtain ⟨t, s, hcb, hturn, hvisit⟩ :=
      turn_of_run hw.sound hnum hdue (timerDue_run hw.sound hnum hdue hkind rfl hcyc)
    exact ⟨_, hvisit, hturn.cyclic_stalls hw (hcb.trans hkind) hc.1 hc.2⟩
  | _ => simp [hkind] at hc

theorem supervision_step_breaks (w : World) (e : Event) (hw : SupervisionInv topics w)
    (hc : ¬FindsSlot w e) : ∃ w', step topics w e = .ok w' ∧ ¬Supervised w' := by
  obtain ⟨action, env⟩ := e
  cases action with
  | visit num now hnum => exact supervision_visit_breaks hnum hw hc
  | recv p addr port => exact absurd trivial hc
  | app call => exact absurd trivial hc

theorem Booted.supervisionInv (h : Booted topics w) : SupervisionInv topics w := by
  have hst : w.client.status = .connecting := by rw [h.eq_startup]
  have hka : w.client.keepAlive = 60 := by rw [h.eq_startup]
  have hwd : w.client.serverWatchdog = 60 := by rw [h.eq_startup]
  have hwatched : w.Watched := by
    rw [World.Watched, hwd, hka]
    decide
  refine ⟨⟨?_, fun _ => Or.inl hwatched⟩, h.sound, h.topicsBound, ?_, fun _ => hwatched⟩
  · rintro ⟨i, t, hi⟩
    exact absurd hi h.not_registering
  · rw [hka]
    decide

/-- In the runs of the program, the registration is retried and a connected server watched or
asked in every state exactly when every step finds the slots it needs. -/
theorem supervised_iff {env : Env} {w : World}
    (hinit : mqttClientInit env (startup topics) = .ok w) (es : List Event)
    (hes : ∀ e ∈ es, KeepsAlive e) :
    Runs.Always (step topics) Supervised w es ↔ Runs.Meets (step topics) FindsSlot w es :=
  Runs.always_iff_meets_of_mem (J := SupervisionInv topics) (fun _ h => h.toSupervised)
    supervision_step (fun w e _ hw hc => supervision_step_breaks w e hw hc) hes
    (mqttClientInit_booted hinit).supervisionInv

def acceptedEvents : List Event :=
  [⟨.recv (datagram [3, mqttSnTypeConnack, 0]) 0 10000, quietEnv⟩,
    ⟨.visit 2 200 two_lt_maxTimerNum, quietEnv⟩]

def tickEvent : Event := ⟨.visit 1 2000 one_lt_maxTimerNum, quietEnv⟩

theorem supervised_tick :
    Runs.Always (step topiclist) Supervised bootWorld (acceptedEvents ++ [tickEvent]) := by
  refine (supervised_iff bootWorld_init _ fun e he => ?_).mpr ⟨trivial, fun w hw => ?_⟩
  · simp only [acceptedEvents, tickEvent, List.cons_append, List.nil_append, List.mem_cons,
      List.not_mem_nil, or_false] at he
    rcases he with rfl | rfl | rfl <;> exact trivial
  · cases hw
    refine ⟨fun _ => trivial, fun w hw => ?_⟩
    cases hw
    refine ⟨fun _ _ => ⟨fun _ => Or.inl (by decide), fun hone => ?_⟩, fun _ _ => trivial⟩
    exact absurd hone (by decide)

/-- Nine datagrams between two ticks fill the table. -/
def fullEvents : List Event :=
  acceptedEvents ++
    List.replicate 9 ⟨.recv (datagram [2, mqttSnTypePingreq]) 0 10000, quietEnv⟩ ++ [tickEvent]

/-- The topic that the tick registers has no timer, and no tick will register one again. -/
theorem full_table_stalls_registration :
    ¬∀ (topics : Topics) (env : Env) (w : World) (es : List Event),
      mqttClientInit env (startup topics) = .ok w → (∀ e ∈ es, KeepsAlive e) →
        Runs.Always (step topics) Supervised w es := by
  intro h
  have hkeeps : ∀ e ∈ fullEvents, KeepsAlive e := by
    intro e he
    simp only [fullEvents, acceptedEvents, tickEvent, List.mem_append, List.mem_cons,
      List.not_mem_nil, or_false, List.mem_replicate] at he
    rcases he with ((rfl | rfl) | ⟨-, rfl⟩) | rfl <;> exact trivial
  have hlast := h topiclist quietEnv bootWorld fullEvents bootWorld_init hkeeps fullEvents [] _
    (List.append_nil _).symm rfl
  obtain ⟨i, hi, -, -, hcb⟩ := hlast.register ⟨0, _, rfl, rfl⟩
  revert hcb
  simp only [maxTimerNum] at hi
  interval_cases i <;> decide +kernel

end MqttSnClient
