import MqttSnClient.Records
import MqttSnClient.Acknowledgement

/-! Retransmission and its end. An expiry sends what the record of its kind holds, which is
the newest request of that kind; a ledger keeps all requests with the message id of their
last transmission and whether it has been acknowledged. -/
namespace MqttSnClient
open Memory Bytes

/-- A PUBLISH with QoS 1: what it wrote into the record, the message id of its most recent
transmission, and whether an accepting PUBACK with that id has been processed. -/
structure Publish where
  infor : PubInfor
  lastMid : UInt16
  acked : Bool

/-- A SUBSCRIBE with QoS 1, with the callback that sends it again. -/
structure Subscribe where
  infor : SubInfor
  callback : Callback
  lastMid : UInt16
  acked : Bool

def Publish.sentAgain (mid : UInt16) (r : Publish) : Publish := { r with lastMid := mid }

def Publish.settle (mid : UInt16) (r : Publish) : Publish :=
  if r.lastMid = mid then { r with acked := true } else r

/-- A callback of the other kind sends another SUBSCRIBE than the recorded one. -/
def Subscribe.sentAgain (callback : Callback) (mid : UInt16) (r : Subscribe) : Subscribe :=
  if r.callback = callback then { r with lastMid := mid } else r

def Subscribe.settle (mid : UInt16) (r : Subscribe) : Subscribe :=
  if r.lastMid = mid then { r with acked := true } else r

@[simp] theorem Publish.settle_infor (mid : UInt16) (r : Publish) :
    (r.settle mid).infor = r.infor := by
  unfold Publish.settle
  split_ifs <;> rfl

@[simp] theorem Subscribe.sentAgain_infor (cb : Callback) (mid : UInt16) (r : Subscribe) :
    (r.sentAgain cb mid).infor = r.infor := by
  unfold Subscribe.sentAgain
  split_ifs <;> rfl

@[simp] theorem Subscribe.sentAgain_callback (cb : Callback) (mid : UInt16) (r : Subscribe) :
    (r.sentAgain cb mid).callback = r.callback := by
  unfold Subscribe.sentAgain
  split_ifs <;> rfl

@[simp] theorem Subscribe.sentAgain_acked (cb : Callback) (mid : UInt16) (r : Subscribe) :
    (r.sentAgain cb mid).acked = r.acked := by
  unfold Subscribe.sentAgain
  split_ifs <;> rfl

@[simp] theorem Subscribe.settle_infor (mid : UInt16) (r : Subscribe) :
    (r.settle mid).infor = r.infor := by
  unfold Subscribe.settle
  split_ifs <;> rfl

@[simp] theorem Subscribe.settle_callback (mid : UInt16) (r : Subscribe) :
    (r.settle mid).callback = r.callback := by
  unfold Subscribe.settle
  split_ifs <;> rfl

structure Ledger where
  publishes : List Publish
  subscribes : List Subscribe

namespace Ledger

def publish (w w' : World) (g : Ledger) : Ledger :=
  { g with publishes := ⟨w'.publishinfor, w.client.pktId, false⟩ :: g.publishes }

def subscribe (callback : Callback) (w w' : World) (g : Ledger) : Ledger :=
  { g with subscribes := ⟨w'.subscribeInfor, callback, w.client.pktId, false⟩ :: g.subscribes }

def publishAgain (mid : UInt16) (g : Ledger) : Ledger :=
  { g with publishes := g.publishes.modifyHead (Publish.sentAgain mid) }

def subscribeAgain (callback : Callback) (mid : UInt16) (g : Ledger) : Ledger :=
  { g with subscribes := g.subscribes.modifyHead (Subscribe.sentAgain callback mid) }

def puback (g : Ledger) : Option UInt16 → Ledger
  | some mid => { g with publishes := g.publishes.map (Publish.settle mid) }
  | none => g

def suback (g : Ledger) : Option UInt16 → Ledger
  | some mid => { g with subscribes := g.subscribes.map (Subscribe.settle mid) }
  | none => g

end Ledger

/-- The message id of the accepting PUBACK that waits for its handler. -/
def World.pubackFound (env : Env) (w : World) : Option UInt16 :=
  w.headFrame.bind fun fr =>
    let d := memcpy env.inputdata 0 fr
    if d 1 = mqttSnTypePuback ∧ d 6 = mqttSnAccepted then some (u16At d 4) else none

def World.subackFound (env : Env) (w : World) : Option UInt16 :=
  w.headFrame.bind fun fr =>
    let d := memcpy env.inputdata 0 fr
    if d 1 = mqttSnTypeSuback then some (u16At d 5) else none

/-- The ledger after a callback. The publish callback given the client sends a PUBLISH of its
own, and records it if the byte read as its QoS is 1. -/
def trackCallback (cb : Callback) (arg : Arg) (env : Env) (w w' : World) (g : Ledger) : Ledger :=
  match cb with
  | .publishTimeoutCb =>
    if arg = .publishinfor then g.publishAgain w.client.pktId
    else if w.client.asPubInfor.qos = 1 then g.publish w w' else g
  | .subscribeTimeoutCb => g.subscribeAgain .subscribeTimeoutCb w.client.pktId
  | .subscribeTimeoutIdCb => g.subscribeAgain .subscribeTimeoutIdCb w.client.pktId
  | .press .puback => g.puback (w.pubackFound env)
  | .press .suback => g.suback (w.subackFound env)
  | _ => g

def trackLedger (w : World) (e : Event) (w' : World) (g : Ledger) : Ledger :=
  match e.action with
  | .recv _ _ _ => g
  | .visit num now _ =>
    if timerDue num now w then
      trackCallback (w.systime.timerT num).timerCallback (w.systime.timerT num).arg e.env w w' g
    else g
  | .app (.sendPublish _ _ _ _ qos _ _) => if qos = 1 then g.publish w w' else g
  | .app (.sendSubscribeTopicName _ qos _) =>
    if qos = 1 then g.subscribe .subscribeTimeoutCb w w' else g
  | .app (.sendSubscribeTopicId _ qos _) =>
    if qos = 1 then g.subscribe .subscribeTimeoutIdCb w w' else g
  | .app _ => g

/-- The slot `j` holds a running timer of this callback and argument. -/
def TimerRuns (w : World) (j : ℕ) (cb : Callback) (arg : Arg) : Prop :=
  j < maxTimerNum ∧ (w.systime.timerT j).runing = true ∧
    (w.systime.timerT j).timerCallback = cb ∧ (w.systime.timerT j).arg = arg

theorem timerRuns_of_live {w : World} (hs : w.systime.Wf) {j : ℕ} {t : SwTimer Callback Arg}
    (h : w.systime.live j = some t) : TimerRuns w j t.timerCallback t.arg :=
  live_running hs h

/-- The record holds the newest PUBLISH, and a timer that would send it finds it
unacknowledged. -/
structure PubInv (w : World) (ps : List Publish) : Prop where
  record : ∀ {r rest}, ps = r :: rest →
    w.publishinfor = r.infor ∧ r.infor.qos = 1 ∧ r.infor.dup = 1
  live : ∀ {j t}, w.systime.live j = some t → t.timerCallback = .publishTimeoutCb →
    t.arg = .publishinfor → ∃ r rest, ps = r :: rest ∧ r.acked = false

structure SubInv (w : World) (ss : List Subscribe) : Prop where
  record : ∀ {r rest}, ss = r :: rest →
    w.subscribeInfor = r.infor ∧ r.infor.qos = 1 ∧ r.infor.dup = 1
  live : ∀ {j t}, w.systime.live j = some t →
    t.timerCallback = .subscribeTimeoutCb ∨ t.timerCallback = .subscribeTimeoutIdCb →
      ∃ r rest, ss = r :: rest ∧ (r.callback = t.timerCallback → r.acked = false)

namespace PubInv

variable {w w' : World} {ps : List Publish}

theorem frame (h : PubInv w ps) (hrec : w'.publishinfor = w.publishinfor)
    (hlive : ∀ {j t}, w'.systime.live j = some t → t.timerCallback = .publishTimeoutCb →
      t.arg = .publishinfor → w.systime.live j = some t) : PubInv w' ps :=
  ⟨fun hps => hrec ▸ h.record hps, fun ht hcb harg => h.live (hlive ht hcb harg) hcb harg⟩

/-- A new request is not acknowledged. -/
theorem fresh (hqos : w'.publishinfor.qos = 1) (hdup : w'.publishinfor.dup = 1) (mid : UInt16) :
    PubInv w' (⟨w'.publishinfor, mid, false⟩ :: ps) := by
  refine ⟨fun hps => ?_, fun _ _ _ => ⟨_, _, rfl, rfl⟩⟩
  cases hps
  exact ⟨rfl, hqos, hdup⟩

theorem again (h : PubInv w ps) (hrec : w'.publishinfor = w.publishinfor)
    (hhead : ∃ r rest, ps = r :: rest ∧ r.acked = false) (mid : UInt16) :
    PubInv w' (ps.modifyHead (Publish.sentAgain mid)) := by
  obtain ⟨r, rest, rfl, hack⟩ := hhead
  have hr := h.record rfl
  refine ⟨fun hps => ?_, fun _ _ _ => ⟨r.sentAgain mid, rest, rfl, hack⟩⟩
  cases hps
  rw [hrec]
  exact hr

/-- An acknowledgement of the newest PUBLISH leaves no timer that would send it. -/
theorem ack (h : PubInv w ps) (hrec : w'.publishinfor = w.publishinfor)
    (hlive : ∀ {j t}, w'.systime.live j = some t → t.timerCallback = .publishTimeoutCb →
      t.arg = .publishinfor → w.systime.live j = some t) {mid : UInt16}
    (hnone : ∀ {r rest}, ps = r :: rest → r.lastMid = mid →
      ∀ {j t}, w'.systime.live j = some t → t.timerCallback = .publishTimeoutCb →
        t.arg ≠ .publishinfor) :
    PubInv w' (ps.map (Publish.settle mid)) := by
  cases ps with
  | nil => exact h.frame hrec hlive
  | cons r rest =>
    constructor
    · intro r' rest' hps
      obtain ⟨rfl, -⟩ := List.cons.inj hps
      rw [Publish.settle_infor, hrec]
      exact h.record rfl
    · intro j t ht hcb harg
      refine ⟨_, _, rfl, ?_⟩
      rw [Publish.settle, if_neg fun hmid => hnone rfl hmid ht hcb harg]
      obtain ⟨r', rest', hps, hack⟩ := h.live (hlive ht hcb harg) hcb harg
      cases hps
      exact hack

end PubInv

namespace SubInv

variable {w w' : World} {ss : List Subscribe}

theorem frame (h : SubInv w ss) (hrec : w'.subscribeInfor = w.subscribeInfor)
    (hlive : ∀ {j t}, w'.systime.live j = some t →
      t.timerCallback = .subscribeTimeoutCb ∨ t.timerCallback = .subscribeTimeoutIdCb →
        w.systime.live j = some t) : SubInv w' ss :=
  ⟨fun hss => hrec ▸ h.record hss, fun ht hcb => h.live (hlive ht hcb) hcb⟩

theorem fresh (hqos : w'.subscribeInfor.qos = 1) (hdup : w'.subscribeInfor.dup = 1)
    (cb : Callback) (mid : UInt16) :
    SubInv w' (⟨w'.subscribeInfor, cb, mid, false⟩ :: ss) := by
  refine ⟨fun hss => ?_, fun _ _ => ⟨_, _, rfl, fun _ => rfl⟩⟩
  cases hss
  exact ⟨rfl, hqos, hdup⟩

/-- A timer of the callback `cb` expires and is armed again. -/
theorem again (h : SubInv w ss) (hrec : w'.subscribeInfor = w.subscribeInfor) {cb : Callback}
    (hhead : ∃ r rest, ss = r :: rest ∧ (r.callback = cb → r.acked = false)) (mid : UInt16)
    (hlive : ∀ {j t}, w'.systime.live j = some t →
      t.timerCallback = .subscribeTimeoutCb ∨ t.timerCallback = .subscribeTimeoutIdCb →
        w.systime.live j = some t ∨ t.timerCallback = cb) :
    SubInv w' (ss.modifyHead (Subscribe.sentAgain cb mid)) := by
  obtain ⟨r, rest, rfl, hack⟩ := hhead
  constructor
  · intro r' rest' hss
    obtain ⟨rfl, -⟩ := List.cons.inj hss
    rw [Subscribe.sentAgain_infor, hrec]
    exact h.record rfl
  · intro j t ht hcb
    refine ⟨_, _, rfl, fun hsame => ?_⟩
    rw [Subscribe.sentAgain_callback] at hsame
    rw [Subscribe.sentAgain_acked]
    by_cases hr : r.callback = cb
    · exact hack hr
    · rcases hlive ht hcb with hold | hnew
      · obtain ⟨r', rest', hss, hack'⟩ := h.live hold hcb
        cases hss
        exact hack' hsame
      · exact absurd (hsame.trans hnew) hr

theorem ack (h : SubInv w ss) (hrec : w'.subscribeInfor = w.subscribeInfor)
    (hlive : ∀ {j t}, w'.systime.live j = some t →
      t.timerCallback = .subscribeTimeoutCb ∨ t.timerCallback = .subscribeTimeoutIdCb →
        w.systime.live j = some t) {mid : UInt16}
    (hnone : ∀ {r rest}, ss = r :: rest → r.lastMid = mid →
      ∀ {j t}, w'.systime.live j = some t →
        t.timerCallback = .subscribeTimeoutCb ∨ t.timerCallback = .subscribeTimeoutIdCb →
          t.timerCallback ≠ r.callback) :
    SubInv w' (ss.map (Subscribe.settle mid)) := by
  cases ss with
  | nil => exact h.frame hrec hlive
  | cons r rest =>
    constructor
    · intro r' rest' hss
      obtain ⟨rfl, -⟩ := List.cons.inj hss
      rw [Subscribe.settle_infor, hrec]
      exact h.record rfl
    · intro j t ht hcb
      refine ⟨_, _, rfl, fun hsame => ?_⟩
      rw [Subscribe.settle_callback] at hsame
      by_cases hmid : r.lastMid = mid
      · exact absurd hsame.symm (hnone rfl hmid ht hcb)
      · rw [Subscribe.settle, if_neg hmid]
        obtain ⟨r', rest', hss, hack⟩ := h.live (hlive ht hcb) hcb
        cases hss
        exact hack hsame

end SubInv

/-- What carries this through a run. -/
structure LedgerInv (s : World × Ledger) : Prop where
  sound : Sound s.1
  pub : PubInv s.1 s.2.publishes
  sub : SubInv s.1 s.2.subscribes

variable {topics : Topics} {env : Env} {w u w' : World} {g : Ledger}

theorem PubInv.callback_frame {ps : List Publish} (h : PubInv w ps) (hw : Sound w) {cb : Callback}
    {arg : Arg} (hrun : runCallback topics env cb arg w = .ok u)
    (hch : Field.publishinfor ∉ cb.changes) (harm : Callback.publishTimeoutCb ∉ cb.arms) :
    PubInv u ps := by
  refine h.frame ((runCallback_touches hrun).same .publishinfor hch) fun ht hcb _ => ?_
  exact runCallback_live_old hw hrun ht (hcb ▸ harm)

theorem SubInv.callback_frame {ss : List Subscribe} (h : SubInv w ss) (hw : Sound w)
    {cb : Callback} {arg : Arg} (hrun : runCallback topics env cb arg w = .ok u)
    (hch : Field.subscribeInfor ∉ cb.changes) (harm : Callback.subscribeTimeoutCb ∉ cb.arms)
    (hid : Callback.subscribeTimeoutIdCb ∉ cb.arms) : SubInv u ss := by
  refine h.frame ((runCallback_touches hrun).same .subscribeInfor hch) fun {j t} ht hcb => ?_
  refine runCallback_live_old hw hrun ht ?_
  rcases hcb with hcb | hcb
  · rwa [hcb]
  · rwa [hcb]

theorem LedgerInv.publish_callback (h : LedgerInv (w, g)) {num : ℕ} {t : SwTimer Callback Arg}
    (ht : w.systime.live num = some t) (hkind : t.timerCallback = .publishTimeoutCb)
    (hrun : runCallback topics env .publishTimeoutCb t.arg w = .ok u) :
    PubInv u (trackCallback .publishTimeoutCb t.arg env w u g).publishes ∧
      SubInv u (trackCallback .publishTimeoutCb t.arg env w u g).subscribes := by
  have hw : Sound w := h.sound
  have hsub : SubInv u g.subscribes :=
    h.sub.callback_frame hw hrun (by decide) (by decide) (by decide)
  by_cases harg : t.arg = .publishinfor
  -- the record is sent again
  · obtain ⟨r, rest, hps, hack⟩ := h.pub.live ht hkind harg
    obtain ⟨hrec, hqos, hdup⟩ := h.pub.record hps
    have hrec : w.publishinfor = r.infor := hrec
    rw [harg] at hrun
    have hsend : mqttSnClientPublishTimeoutCb env w.publishinfor w = .ok u := hrun
    have hsame := publish_again (hrec ▸ hqos) (hrec ▸ hdup) rfl hsend
    simp only [trackCallback, if_pos harg, Ledger.publishAgain]
    exact ⟨h.pub.again hsame ⟨r, rest, hps, hack⟩ _, hsub⟩
  -- the client is sent as if it were a record
  · have hclient : t.arg = .client := by
      have hmem := (hw.timers_ok num t ht).arg_mem
      rw [hkind] at hmem
      simpa [Callback.takes, harg] using hmem
    rw [hclient] at hrun
    have hsend : mqttSnClientPublishTimeoutCb env w.client.asPubInfor w = .ok u := hrun
    simp only [trackCallback, if_neg harg]
    obtain ⟨-, ⟨hqos, hrec, -⟩ | ⟨hqos, hrec, hsys⟩⟩ := mqttSnSendPublish_record hsend
    · rw [if_pos hqos]
      exact ⟨.fresh (by rw [hrec]; rfl) (by rw [hrec]; rfl) _, hsub⟩
    · rw [if_neg hqos]
      exact ⟨h.pub.frame hrec fun hlive _ _ => hsys ▸ hlive, hsub⟩

/-- The subscribe callbacks; `cb` is the one that expires. -/
theorem LedgerInv.subscribe_callback (h : LedgerInv (w, g)) {num : ℕ} {t : SwTimer Callback Arg}
    (ht : w.systime.live num = some t) {cb : Callback} (hkind : t.timerCallback = cb)
    (hcb : cb = .subscribeTimeoutCb ∨ cb = .subscribeTimeoutIdCb)
    (hrun : runCallback topics env cb t.arg w = .ok u) :
    PubInv u g.publishes ∧ SubInv u (g.subscribeAgain cb w.client.pktId).subscribes := by
  have hw : Sound w := h.sound
  obtain ⟨r, rest, hss, hack⟩ := h.sub.live ht (hkind ▸ hcb)
  obtain ⟨hrec, hqos, hdup⟩ := h.sub.record hss
  have hrec : w.subscribeInfor = r.infor := hrec
  have hpub : PubInv u g.publishes := by
    rcases hcb with rfl | rfl
    · exact h.pub.callback_frame hw hrun (by decide) (by decide)
    · exact h.pub.callback_frame hw hrun (by decide) (by decide)
  have hsame : u.subscribeInfor = w.subscribeInfor := by
    rcases hcb with rfl | rfl
    · exact subscribe_again (hrec ▸ hqos) (hrec ▸ hdup) (runCallback_subscribe hrun)
    · rw [runCallback_subscribeId hrun]
      exact subscribe_id_again (hrec ▸ hqos) (hrec ▸ hdup)
  refine ⟨hpub, h.sub.again hsame ⟨r, rest, hss, hkind ▸ hack⟩ _ fun {j v} hv _ => ?_⟩
  by_cases hsame : v.timerCallback = cb
  · exact Or.inr hsame
  · refine Or.inl (runCallback_live_old hw hrun hv ?_)
    rcases hcb with rfl | rfl <;> simpa [Callback.arms] using hsame

theorem LedgerInv.puback_callback (h : LedgerInv (w, g)) {arg : Arg}
    (hrun : runCallback topics env (.press .puback) arg w = .ok u)
    (hc : ∀ r rest, g.publishes = r :: rest → w.pubackFound env = some r.lastMid →
      ∀ j, TimerRuns w j .publishTimeoutCb .publishinfor →
        w.client.status = .connected ∧ r.lastMid = w.client.inpubPktId .publish ∧
          j = findTimerIndexbyID timerIdOfPublish w.systime) :
    PubInv u (g.puback (w.pubackFound env)).publishes := by
  have hw : Sound w := h.sound
  have hpress : apiPubackPress env w = .ok u := runCallback_press hrun
  have hrec := (runCallback_touches hrun).same .publishinfor (by decide)
  have hlive : ∀ {j v}, u.systime.live j = some v → v.timerCallback = .publishTimeoutCb →
      v.arg = .publishinfor → w.systime.live j = some v := by
    intro j v hv _ harg
    refine ((apiPubackPress_timers hpress).origin hw.timers_wf hv).resolve_right fun hclient => ?_
    rw [harg] at hclient
    cases hclient
  cases hfound : w.pubackFound env with
  | none => exact h.pub.frame hrec hlive
  | some mid =>
    refine h.pub.ack hrec hlive fun {r rest} hps hmid {j v} hv hcb harg => ?_
    have hold := hlive hv hcb harg
    have hruns := timerRuns_of_live hw.timers_wf hold
    rw [hcb, harg] at hruns
    obtain ⟨hst, hpend, hj⟩ := hc r rest hps (hfound.trans (by rw [hmid])) j hruns
    -- the handler accepts and has cancelled this very slot
    simp only [World.pubackFound, Option.bind_eq_some_iff] at hfound
    obtain ⟨fr, hhead, hfound⟩ := hfound
    split_ifs at hfound with hacc
    have hid := Option.some.inj hfound
    rcases press_frame hw hpress with ⟨fr', hhead', -, -, hbody⟩ | ⟨hno, -⟩
    · obtain rfl := Option.some.inj (hhead.symm.trans hhead')
      rw [if_pos ⟨hacc.1, hst, by rw [hid, ← hmid, hpend]; rfl⟩] at hbody
      simp only [if_pos hacc.2] at hbody
      cases hbody
      have hcancel : (timerCancelByID timerIdOfPublish w.systime).live j = some v := hv
      rw [live_timerCancelByID hw.timers_wf, ← hj, Function.update_self] at hcancel
      cases hcancel
    · exact absurd (hno fr hhead) (by decide)

theorem LedgerInv.suback_callback (h : LedgerInv (w, g)) {arg : Arg}
    (hrun : runCallback topics env (.press .suback) arg w = .ok u)
    (hc : ∀ r rest, g.subscribes = r :: rest → w.subackFound env = some r.lastMid →
      ∀ j, ¬TimerRuns w j r.callback .subscribeInfor) :
    SubInv u (g.suback (w.subackFound env)).subscribes := by
  have hw : Sound w := h.sound
  have hrec := (runCallback_touches hrun).same .subscribeInfor (by decide)
  have hlive : ∀ {j v}, u.systime.live j = some v →
      v.timerCallback = .subscribeTimeoutCb ∨ v.timerCallback = .subscribeTimeoutIdCb →
        w.systime.live j = some v :=
    fun hv _ => runCallback_live_old hw hrun hv (by simp [Callback.arms])
  cases hfound : w.subackFound env with
  | none => exact h.sub.frame hrec hlive
  | some mid =>
    refine h.sub.ack hrec hlive fun {r rest} hss hmid {j v} hv hcb hsame => ?_
    have hold := hlive hv hcb
    have hruns := timerRuns_of_live hw.timers_wf hold
    have harg : v.arg = .subscribeInfor := by
      have hmem := (hw.timers_ok j v hold).arg_mem
      rcases hcb with hcb | hcb <;> rw [hcb] at hmem <;> simpa [Callback.takes] using hmem
    rw [hsame, harg] at hruns
    exact hc r rest hss (hfound.trans (by rw [hmid])) j hruns

theorem LedgerInv.callback (h : LedgerInv (w, g)) {num : ℕ} {t : SwTimer Callback Arg}
    (ht : w.systime.live num = some t)
    (hrun : runCallback topics env t.timerCallback t.arg w = .ok u)
    (hpuback : t.timerCallback = .press .puback → ∀ r rest, g.publishes = r :: rest →
      w.pubackFound env = some r.lastMid → ∀ j, TimerRuns w j .publishTimeoutCb .publishinfor →
        w.client.status = .connected ∧ r.lastMid = w.client.inpubPktId .publish ∧
          j = findTimerIndexbyID timerIdOfPublish w.systime)
    (hsuback : t.timerCallback = .press .suback → ∀ r rest, g.subscribes = r :: rest →
      w.subackFound env = some r.lastMid → ∀ j, ¬TimerRuns w j r.callback .subscribeInfor) :
    PubInv u (trackCallback t.timerCallback t.arg env w u g).publishes ∧
      SubInv u (trackCallback t.timerCallback t.arg env w u g).subscribes := by
  have hw : Sound w := h.sound
  have hsub : ∀ cb, runCallback topics env cb t.arg w = .ok u →
      Field.subscribeInfor ∉ cb.changes → Callback.subscribeTimeoutCb ∉ cb.arms →
        Callback.subscribeTimeoutIdCb ∉ cb.arms → SubInv u g.subscribes :=
    fun _ hrun => h.sub.callback_frame hw hrun
  have hpub : ∀ cb, runCallback topics env cb t.arg w = .ok u →
      Field.publishinfor ∉ cb.changes → Callback.publishTimeoutCb ∉ cb.arms →
        PubInv u g.publishes := fun _ hrun => h.pub.callback_frame hw hrun
  cases hcb : t.timerCallback with
  | publishTimeoutCb =>
    rw [hcb] at hrun
    exact h.publish_callback ht hcb hrun
  | subscribeTimeoutCb =>
    rw [hcb] at hrun
    exact h.subscribe_callback ht hcb (Or.inl rfl) hrun
  | subscribeTimeoutIdCb =>
    rw [hcb] at hrun
    exact h.subscribe_callback ht hcb (Or.inr rfl) hrun
  | press api =>
    rw [hcb] at hrun
    cases api with
    | puback =>
      refine ⟨h.puback_callback hrun (hpuback hcb), ?_⟩
      have hkeep := hsub _ hrun (by decide) (by decide) (by decide)
      show SubInv u (g.puback (w.pubackFound env)).subscribes
      cases w.pubackFound env <;> exact hkeep
    | suback =>
      refine ⟨?_, h.suback_callback hrun (hsuback hcb)⟩
      have hkeep := hpub _ hrun (by decide) (by decide)
      show PubInv u (g.suback (w.subackFound env)).publishes
      cases w.subackFound env <;> exact hkeep
    | _ =>
      exact ⟨hpub _ hrun (by decide) (by decide), hsub _ hrun (by decide) (by decide) (by decide)⟩
  | _ =>
    rw [hcb] at hrun
    exact ⟨hpub _ hrun (by decide) (by decide), hsub _ hrun (by decide) (by decide) (by decide)⟩

theorem LedgerInv.app (h : LedgerInv (w, g)) {call : AppCall}
    (hrun : runAppCall env call w = .ok u) :
    PubInv u (trackLedger w ⟨.app call, env⟩ u g).publishes ∧
      SubInv u (trackLedger w ⟨.app call, env⟩ u g).subscribes := by
  have hw : Sound w := h.sound
  have hpub : Field.publishinfor ∉ call.changes → Callback.publishTimeoutCb ∉ call.arms →
      PubInv u g.publishes := fun hch harm =>
    h.pub.frame ((runAppCall_touches hrun).same .publishinfor hch) fun hv hcb _ =>
      (runAppCall_acts hrun).live_old hw.timers_wf hv (hcb ▸ harm)
  have hsub : Field.subscribeInfor ∉ call.changes → Callback.subscribeTimeoutCb ∉ call.arms →
      Callback.subscribeTimeoutIdCb ∉ call.arms → SubInv u g.subscribes := by
    intro hch harm hid
    refine h.sub.frame ((runAppCall_touches hrun).same .subscribeInfor hch) fun hv hcb => ?_
    refine (runAppCall_acts hrun).live_old hw.timers_wf hv ?_
    rcases hcb with hcb | hcb
    · rwa [hcb]
    · rwa [hcb]
  cases call with
  | sendPublish topicId topicType data dataLen qos retain dup =>
    have hkeep := hsub (by simp [AppCall.changes]) (by simp [AppCall.arms])
      (by simp [AppCall.arms])
    simp only [trackLedger]
    obtain ⟨-, ⟨hqos, hrec, -⟩ | ⟨hqos, hrec, hsys⟩⟩ := mqttSnSendPublish_record hrun
    · rw [if_pos hqos]
      exact ⟨.fresh (by rw [hrec]; rfl) (by rw [hrec]; rfl) _, hkeep⟩
    · rw [if_neg hqos]
      exact ⟨h.pub.frame hrec fun hv _ _ => hsys ▸ hv, hkeep⟩
  | sendSubscribeTopicName topicName qos dup =>
    have hkeep := hpub (by simp [AppCall.changes]) (by simp [AppCall.arms])
    simp only [trackLedger]
    obtain ⟨-, -, ⟨hqos, hrec, -⟩ | ⟨hqos, hrec, hsys⟩⟩ :=
      mqttSnSendSubscribeTopicName_record hrun
    · rw [if_pos hqos]
      exact ⟨hkeep, .fresh (by rw [hrec]; rfl) (by rw [hrec]; rfl) _ _⟩
    · rw [if_neg hqos]
      exact ⟨hkeep, h.sub.frame hrec fun hv _ => hsys ▸ hv⟩
  | sendSubscribeTopicId topicId qos dup =>
    have hkeep := hpub (by simp [AppCall.changes]) (by simp [AppCall.arms])
    cases hrun
    simp only [trackLedger]
    obtain ⟨-, ⟨hqos, hrec, -⟩ | ⟨hqos, hrec, hsys⟩⟩ :=
      mqttSnSendSubscribeTopicId_record env topicId qos dup w
    · rw [if_pos hqos]
      exact ⟨hkeep, .fresh (by rw [hrec]; rfl) (by rw [hrec]; rfl) _ _⟩
    · rw [if_neg hqos]
      exact ⟨hkeep, h.sub.frame hrec fun hv _ => hsys ▸ hv⟩
  | _ =>
    exact ⟨hpub (by simp [AppCall.changes]) (by simp [AppCall.arms]),
      hsub (by simp [AppCall.changes]) (by simp [AppCall.arms]) (by simp [AppCall.arms])⟩

end MqttSnClient
