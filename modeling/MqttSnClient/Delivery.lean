import MqttSnClient.Queues

/-! Delivery of datagrams. A datagram travels through three structures: its bytes and
its length wait in two queues, and the handler of its type waits in a timer slot. A history
of arrivals and of handler runs says which handler got which bytes. -/
namespace MqttSnClient
open Memory

/-- A datagram for which a handler was scheduled, with the slot of the handler's timer. -/
structure Arrival where
  num : ℕ
  bytes : List UInt8
  cmd : UInt8

def Arrival.lenth (a : Arrival) : UInt8 := UInt8.ofNat a.bytes.length

/-- A run of a handler: the bytes it obtained from the queues, if it obtained any, and the
datagram for which its timer was armed. -/
structure Handling where
  api : Api
  obtained : Option (List UInt8)
  arrival : Option Arrival

structure Delivery where
  scheduled : List Arrival
  waiting : List Arrival
  handled : List Handling

/-- The bytes that a handler obtains through `ReadClientImportindex` and `ReadBUFF`. -/
def Api.obtains (api : Api) (env : Env) (w : World) : Option (List UInt8) :=
  if api.consumes ∧ (nextFrame env w).result = errorNone then
    some (slice (nextFrame env w).inputdata 0 (nextFrame env w).freamlenth.toNat)
  else none

def trackDelivery (w : World) (e : Event) (_ : World) (g : Delivery) : Delivery :=
  match e.action with
  | .recv p addr port =>
    match (udpServerRecvCb e.env p addr port w).1 with
    | .scheduled num =>
      let a : Arrival := { num := num, bytes := p.bytes, cmd := p.cmd }
      { g with scheduled := g.scheduled ++ [a], waiting := g.waiting ++ [a] }
    | _ => g
  | .visit num now _ =>
    if timerDue num now w then
      match (w.systime.timerT num).timerCallback with
      | .press api =>
        let h : Handling :=
          { api := api, obtained := api.obtains e.env w
            arrival := g.waiting.find? fun a => a.num = num }
        { g with
          waiting := g.waiting.filter fun a => a.num ≠ num
          handled := g.handled ++ [h] }
      | _ => g
    else g
  | .app _ => g

/-- From 2 to 255 bytes, the first of which is their number, and a type with a handler. -/
structure WellFormed (p : Pbuf) : Prop where
  min : 2 ≤ p.totLen.toNat
  max : p.totLen.toNat ≤ 255
  head : p.payload 0 = p.lenth
  row : (getAPIFUN p.cmd).isSome

/-- A datagram that is stored finds a free timer slot and has a handler that reads it, and
handlers come due in the order of arrival. -/
def InOrder (s : World × Delivery) (e : Event) : Prop :=
  match e.action with
  | .recv p _ _ => WellFormed p ∧ (Stores s.1 p →
      0 < s.1.systime.free ∧ ∀ api, getAPIFUN p.cmd = some api → api.consumes)
  | .visit num now _ => timerDue num now s.1 →
      ∀ api, (s.1.systime.timerT num).timerCallback = .press api →
        ∃ a rest, s.2.waiting = a :: rest ∧ a.num = num
  | .app _ => True

/-- Every handler that ran was that of its datagram's type and obtained exactly the bytes of
that datagram; every datagram scheduled has been handled once or waits once; the queues
hold exactly the datagrams that wait, and the handler of each is armed. -/
structure Delivered (s : World × Delivery) : Prop where
  handled_right : ∀ h ∈ s.2.handled, ∃ a, h.arrival = some a ∧ getAPIFUN a.cmd = some h.api ∧
    h.obtained = some a.bytes
  accounted : s.2.scheduled.map some =
    s.2.handled.map Handling.arrival ++ s.2.waiting.map some
  lenths : queuedLenths s.1.client.rxBuffer = s.2.waiting.map Arrival.lenth
  bytes : queued s.1.buffBody = s.2.waiting.flatMap Arrival.bytes
  armed : ∀ a ∈ s.2.waiting, ∃ api, getAPIFUN a.cmd = some api ∧ a.num < maxTimerNum ∧
    (s.1.systime.timerT a.num).runing = true ∧
    (s.1.systime.timerT a.num).timerCallback = .press api

/-- What carries delivery through a run: besides, the waiting datagrams have different slots,
and every live handler timer is that of one of them. -/
structure DeliveryInv (s : World × Delivery) : Prop where
  sound : Sound s.1
  handled_right : ∀ h ∈ s.2.handled, ∃ a, h.arrival = some a ∧ getAPIFUN a.cmd = some h.api ∧
    h.obtained = some a.bytes
  accounted : s.2.scheduled.map some =
    s.2.handled.map Handling.arrival ++ s.2.waiting.map some
  lenths : ImportView s.1.client.rxBuffer (s.2.waiting.map Arrival.lenth)
  bytes : BuffView s.1.buffBody (s.2.waiting.flatMap Arrival.bytes)
  short : ∀ a ∈ s.2.waiting, a.bytes.length ≤ 255
  slots : (s.2.waiting.map Arrival.num).Nodup
  armed : ∀ a ∈ s.2.waiting, ∃ api t, getAPIFUN a.cmd = some api ∧ api.consumes ∧
    s.1.systime.live a.num = some t ∧ t.timerCallback = .press api
  owned : ∀ i t api, s.1.systime.live i = some t → t.timerCallback = .press api →
    ∃ a ∈ s.2.waiting, a.num = i

theorem DeliveryInv.delivered {s : World × Delivery} (h : DeliveryInv s) : Delivered s := by
  refine ⟨h.handled_right, h.accounted, h.lenths.queued_eq, h.bytes.queued_eq, ?_⟩
  intro a ha
  obtain ⟨api, t, hapi, -, ht, hcb⟩ := h.armed a ha
  obtain ⟨hi, hrun, hsame, -⟩ := live_running h.sound.timers_wf ht
  exact ⟨api, hapi, hi, hrun, hsame.trans hcb⟩

/-- No callback arms or cancels a handler's timer. -/
theorem arms_no_press (cb : Callback) (api : Api) : Callback.press api ∉ cb.arms := by
  cases cb with
  | press a => cases a <;> simp [Callback.arms]
  | _ => simp [Callback.arms]

theorem cancels_no_press (cb : Callback) : (0 : UInt8) ∉ cb.cancels := by
  cases cb with
  | press a => cases a <;> decide
  | _ => decide

theorem appArms_no_press (call : AppCall) (api : Api) : Callback.press api ∉ call.arms := by
  cases call <;> simp [AppCall.arms]

/-- So the client's activity leaves the live handler timers as they are. -/
theorem Acts.press_live {K : List Callback} {C : List UInt8} {w w' : World} (h : Acts K C w w')
    (hw : Sound w) (hK : ∀ api, Callback.press api ∉ K) (hC : (0 : UInt8) ∉ C) {i : ℕ}
    {t : SwTimer Callback Arg} {api : Api} (ht : t.timerCallback = .press api) :
    w'.systime.live i = some t ↔ w.systime.live i = some t := by
  constructor
  · intro hlive
    apply h.live_old hw.timers_wf hlive
    rw [ht]
    exact hK api
  · intro hlive
    apply h.live_kept hw hlive
    rw [ht]
    exact hC

/-- A free slot leaves room for one more waiting datagram. -/
theorem DeliveryInv.room {s : World × Delivery} (h : DeliveryInv s)
    (hfree : 0 < s.1.systime.free) : s.2.waiting.length < mqttSnImportMax := by
  obtain ⟨i, hi, hu⟩ : ∃ i < maxTimerNum, s.1.systime.live i = none := by
    by_contra hno
    push Not at hno
    have hzero : s.1.systime.free = 0 := by
      rw [h.sound.timers_wf.unused_iff]
      intro i hi
      by_contra hu
      refine hno i hi (live_eq_none.mpr (Timer.slot_eq_none.mpr fun _ => ?_))
      simpa using hu
    omega
  have hsub : (s.2.waiting.map Arrival.num).toFinset ⊆ (Finset.range maxTimerNum).erase i := by
    intro j hj
    obtain ⟨a, ha, rfl⟩ := List.mem_map.mp (List.mem_toFinset.mp hj)
    obtain ⟨api, t, -, -, ht, -⟩ := h.armed a ha
    refine Finset.mem_erase.mpr ⟨?_, ?_⟩
    · rintro rfl
      rw [hu] at ht
      cases ht
    · exact Finset.mem_range.mpr (live_running h.sound.timers_wf ht).1
  have hcard := Finset.card_le_card hsub
  rw [List.toFinset_card_of_nodup h.slots, List.length_map, Finset.card_erase_of_mem
    (Finset.mem_range.mpr hi), Finset.card_range] at hcard
  simp only [maxTimerNum, mqttSnImportMax] at *
  omega

/-- A step that changes neither the queues nor the live handler timers. -/
theorem DeliveryInv.frame {w w' : World} {g : Delivery} (h : DeliveryInv (w, g))
    (hsound : Sound w') (hrx : w'.client.rxBuffer = w.client.rxBuffer)
    (hb : w'.buffBody = w.buffBody)
    (hlive : ∀ i t api, t.timerCallback = .press api →
      (w'.systime.live i = some t ↔ w.systime.live i = some t)) :
    DeliveryInv (w', g) := by
  refine ⟨hsound, h.handled_right, h.accounted, ?_, ?_, h.short, h.slots, ?_, ?_⟩
  · show ImportView w'.client.rxBuffer _
    rw [hrx]
    exact h.lenths
  · show BuffView w'.buffBody _
    rw [hb]
    exact h.bytes
  · intro a ha
    obtain ⟨api, t, hapi, hcons, ht, hcb⟩ := h.armed a ha
    exact ⟨api, t, hapi, hcons, (hlive _ _ _ hcb).mpr ht, hcb⟩
  · intro i t api ht hcb
    exact h.owned i t api ((hlive _ _ _ hcb).mp ht) hcb

/-- A datagram is stored and scheduled behind the others. -/
theorem DeliveryInv.arrive {w w' : World} {g : Delivery} (h : DeliveryInv (w, g))
    (hsound : Sound w') {p : Pbuf} (hwf : WellFormed p) (hp : Stores w p) {api : Api}
    (hapi : getAPIFUN p.cmd = some api) (hcons : api.consumes = true) {addr : UInt32}
    {port : UInt16} {num : ℕ} (hfree : 0 < w.systime.free) (hnone : w.systime.live num = none)
    (hrx : w'.client.rxBuffer = (w.stored p addr port).client.rxBuffer)
    (hb : w'.buffBody = (w.stored p addr port).buffBody)
    (hlive : w'.systime.live = Function.update w.systime.live num (some (pressTimer api))) :
    DeliveryInv (w', { g with
      scheduled := g.scheduled ++ [⟨num, p.bytes, p.cmd⟩]
      waiting := g.waiting ++ [⟨num, p.bytes, p.cmd⟩] }) := by
  have hroom := h.room hfree
  have hnz : p.lenth ≠ 0 := fun hz => hp.2.2 (p.lenth_eq_zero.mp hz)
  have hother : ∀ {i t}, w.systime.live i = some t → i ≠ num := by
    rintro i t ht rfl
    rw [hnone] at ht
    cases ht
  refine ⟨hsound, h.handled_right, ?_, ?_, ?_, ?_, ?_, ?_, ?_⟩
  · simp only [List.map_append, h.accounted, List.append_assoc]
  · have hview := (write_ok h.lenths hnz (by simpa using hroom)).2
    have hlenth : (⟨num, p.bytes, p.cmd⟩ : Arrival).lenth = p.lenth := by
      simp only [Arrival.lenth, Pbuf.lenth, p.bytes_length]
    simp only [List.map_append, List.map_cons, List.map_nil, hlenth]
    exact hrx ▸ hview
  · have hview := (stored_bytes h.bytes hp).2
    simp only [List.flatMap_append, List.flatMap_cons, List.flatMap_nil, List.append_nil]
    exact hb ▸ hview
  · intro a ha
    rcases List.mem_append.mp ha with ha | ha
    · exact h.short a ha
    · rw [List.mem_singleton.mp ha]
      exact p.bytes_length.trans_le hwf.max
  · rw [List.map_append, List.nodup_append]
    refine ⟨h.slots, by simp, ?_⟩
    rintro i hi j hj rfl
    obtain ⟨a, ha, rfl⟩ := List.mem_map.mp hi
    obtain ⟨-, t, -, -, ht, -⟩ := h.armed a ha
    exact hother ht (by simpa using hj)
  · intro a ha
    rcases List.mem_append.mp ha with ha | ha
    · obtain ⟨api', t, hapi', hcons', ht, hcb⟩ := h.armed a ha
      refine ⟨api', t, hapi', hcons', ?_, hcb⟩
      simp only [hlive]
      rw [Function.update_of_ne (hother ht)]
      exact ht
    · rw [List.mem_singleton.mp ha]
      refine ⟨api, pressTimer api, hapi, hcons, ?_, rfl⟩
      simp only [hlive, Function.update_self]
  · intro i t api' ht hcb
    simp only [hlive] at ht
    by_cases hi : i = num
    · exact ⟨_, List.mem_append_right _ (List.mem_singleton_self _), hi.symm⟩
    · rw [Function.update_of_ne hi] at ht
      obtain ⟨a, ha, hnum⟩ := h.owned i t api' ht hcb
      exact ⟨a, List.mem_append_left _ ha, hnum⟩

/-- The frame at the head of the queues is that of the oldest datagram that waits. -/
theorem DeliveryInv.head_frame {w : World} {g : Delivery} {a : Arrival} {rest : List Arrival}
    (h : DeliveryInv (w, g)) (hwait : g.waiting = a :: rest) (env : Env) :
    ((nextFrame env w).result = errorNone ∧
        slice (nextFrame env w).inputdata 0 (nextFrame env w).freamlenth.toNat = a.bytes) ∧
      ImportView (nextFrame env w).rxBuffer (rest.map Arrival.lenth) ∧
      BuffView (nextFrame env w).buffBody (rest.flatMap Arrival.bytes) := by
  have hlenths := h.lenths
  have hbytes := h.bytes
  simp only [hwait, List.map_cons, List.flatMap_cons] at hlenths hbytes
  have hlen : a.lenth.toNat = a.bytes.length := by
    have hle := h.short a (by simp [hwait])
    simp only [Arrival.lenth, UInt8.toNat_ofNat']
    omega
  have hpos : a.lenth.toNat ≠ 0 :=
    fun hz => hlenths.nonzero _ (by simp) (UInt8.toNat_inj.mp hz)
  obtain ⟨hfl, hres, hdata, -, hdrop⟩ := nextFrame_ok env hlenths.toImportRing hbytes
    (by omega) (by rw [List.length_append]; omega)
  rw [hlen, List.take_left] at hdata
  rw [hlen, List.drop_left] at hdrop
  refine ⟨⟨hres, ?_⟩, (read_ok hlenths).2, hdrop⟩
  rw [hdata, hfl, hlen, slice_memcpy]

/-- The handler of the oldest datagram runs: it obtains the bytes of that datagram, which
leaves the queues, and its slot becomes free. -/
theorem DeliveryInv.handle {w u : World} {g : Delivery} {a : Arrival} {rest : List Arrival}
    (h : DeliveryInv (w, g)) (hwait : g.waiting = a :: rest) (hsound : Sound u) {env : Env}
    {api : Api} {t : SwTimer Callback Arg} (ht : w.systime.live a.num = some t)
    (hcb : t.timerCallback = .press api)
    (hrx : u.client.rxBuffer = (w.consumed (nextFrame env w)).client.rxBuffer)
    (hb : u.buffBody = (w.consumed (nextFrame env w)).buffBody)
    (hlive : ∀ i t api, t.timerCallback = .press api →
      (u.systime.live i = some t ↔ i ≠ a.num ∧ w.systime.live i = some t)) :
    DeliveryInv (u, { g with
      waiting := g.waiting.filter fun b => b.num ≠ a.num
      handled := g.handled ++ [⟨api, api.obtains env w,
        g.waiting.find? fun b => b.num = a.num⟩] }) := by
  obtain ⟨api', t', hapi, hcons, ht', hcb'⟩ := h.armed a (by simp [hwait])
  have hsame : api' = api := by
    rw [show t' = t from Option.some.inj (ht'.symm.trans ht), hcb] at hcb'
    cases hcb'
    rfl
  subst hsame
  have hslots := h.slots
  simp only [hwait, List.map_cons, List.nodup_cons] at hslots
  have hrest : g.waiting.filter (fun b => b.num ≠ a.num) = rest := by
    rw [hwait, List.filter_cons_of_neg (by simp), List.filter_eq_self]
    intro b hbm
    simp only [ne_eq, decide_eq_true_eq]
    intro heq
    exact hslots.1 (heq ▸ List.mem_map_of_mem hbm)
  have hfind : g.waiting.find? (fun b => b.num = a.num) = some a := by
    rw [hwait, List.find?_cons_of_pos (by simp)]
  obtain ⟨⟨hres, hdata⟩, himport, hdrop⟩ := h.head_frame hwait env
  have hobtains : api'.obtains env w = some a.bytes := by
    rw [Api.obtains, if_pos ⟨hcons, hres⟩, hdata]
  refine ⟨hsound, ?_, ?_, ?_, ?_, ?_, ?_, ?_, ?_⟩
  · intro e he
    rcases List.mem_append.mp he with he | he
    · exact h.handled_right e he
    · rw [List.mem_singleton.mp he]
      exact ⟨a, hfind, hapi, hobtains⟩
  · have hacc := h.accounted
    simp only [hwait, List.map_cons] at hacc
    simp only [hrest, hfind, List.map_append, List.map_cons, List.map_nil, hacc,
      List.append_assoc, List.singleton_append]
  · simp only [hrest]
    rw [hrx]
    exact himport
  · simp only [hrest]
    rw [hb]
    exact hdrop
  · simp only [hrest]
    intro b hbm
    exact h.short b (by simp [hwait, hbm])
  · simp only [hrest]
    exact hslots.2
  · simp only [hrest]
    intro b hbm
    obtain ⟨api'', v, hapi', hcons', hv, hcbv⟩ := h.armed b (by simp [hwait, hbm])
    refine ⟨api'', v, hapi', hcons', (hlive _ _ _ hcbv).mpr ⟨?_, hv⟩, hcbv⟩
    intro heq
    exact hslots.1 (heq ▸ List.mem_map_of_mem hbm)
  · simp only [hrest]
    intro i v api'' hv hcbv
    obtain ⟨hne, hold⟩ := (hlive _ _ _ hcbv).mp hv
    obtain ⟨b, hbm, rfl⟩ := h.owned i v api'' hold hcbv
    simp only [hwait] at hbm
    rcases List.mem_cons.mp hbm with rfl | hbm
    · exact absurd rfl hne
    · exact ⟨b, hbm, rfl⟩

theorem deliveryInv_recv {w : World} {g : Delivery} (h : DeliveryInv (w, g)) {p : Pbuf}
    (hwf : WellFormed p)
    (hc : Stores w p → 0 < w.systime.free ∧ ∀ api, getAPIFUN p.cmd = some api → api.consumes)
    (env : Env) (addr : UInt32) (port : UInt16) :
    DeliveryInv ((udpServerRecvCb env p addr port w).2,
      trackDelivery w ⟨.recv p addr port, env⟩ (udpServerRecvCb env p addr port w).2 g) := by
  have hw : Sound w := h.sound
  have hsound := udpServerRecvCb_sound hw env p addr port
  by_cases hp : Stores w p
  · obtain ⟨hfree, hcons⟩ := hc hp
    obtain ⟨api, hapi⟩ := Option.isSome_iff_exists.mp hwf.row
    obtain ⟨hrx, hb, hout⟩ := udpServerRecvCb_row hw hp hapi env addr port
    rcases hout with ⟨hfull, -⟩ | ⟨-, num, hnone, hsched, hlive⟩
    · omega
    · simp only [trackDelivery, hsched]
      exact h.arrive hsound hwf hp hapi (hcons api hapi) hfree hnone hrx hb hlive
  · obtain ⟨hrx, hb, hs, hno⟩ := udpServerRecvCb_refuses hw hp env addr port
    have hsame : trackDelivery w ⟨.recv p addr port, env⟩
        (udpServerRecvCb env p addr port w).2 g = g := by
      cases hout : (udpServerRecvCb env p addr port w).1 with
      | scheduled num => exact absurd hout (hno num)
      | cmdRefused | noRoom | importRefused | buffRefused | noHandler | timerEmpty =>
        simp only [trackDelivery, hout]
    rw [hsame]
    exact h.frame hsound hrx hb fun i t api _ => by rw [hs]

theorem deliveryInv_visit {topics : Topics} {w w' : World} {g : Delivery}
    (h : DeliveryInv (w, g)) {num : ℕ} {now : UInt32} (hnum : num < maxTimerNum) {env : Env}
    (hc : timerDue num now w → ∀ api, (w.systime.timerT num).timerCallback = .press api →
      ∃ a rest, g.waiting = a :: rest ∧ a.num = num)
    (hsound : Sound w') (hstep : timerVisit topics num now env w = .ok w') :
    DeliveryInv (w', trackDelivery w ⟨.visit num now hnum, env⟩ w' g) := by
  have hw : Sound w := h.sound
  rcases timerVisit_ok hw hnum hstep with
    ⟨hdue, rfl⟩ | ⟨t, u, s, hdue, ht, -, hrun, hu, hstay, rfl, -, hlive⟩
  · have hsame : trackDelivery w' ⟨.visit num now hnum, env⟩ w' g = g := by
      simp [trackDelivery, hdue]
    rw [hsame]
    exact h
  · have hcb := (live_running hw.timers_wf ht).2.2.1
    have hacts := runCallback_acts hrun
    have hpress : ∀ {i : ℕ} {v : SwTimer Callback Arg} {api : Api},
        v.timerCallback = .press api →
          (u.systime.live i = some v ↔ w.systime.live i = some v) := by
      intro i v api hv
      rw [hacts.press_live (hw.fetched _ env) (arms_no_press _) (cancels_no_press _) hv,
        fetched_systime]
    cases hkind : t.timerCallback with
    | press api =>
      rw [hkind] at hcb hlive hacts
      obtain ⟨a, rest, hwait, rfl⟩ := hc hdue api hcb
      have htrack : trackDelivery w ⟨.visit a.num now hnum, env⟩ { u with systime := s } g =
          { g with
            waiting := g.waiting.filter fun b => b.num ≠ a.num
            handled := g.handled ++ [⟨api, api.obtains env w,
              g.waiting.find? fun b => b.num = a.num⟩] } := by
        simp only [trackDelivery, hdue, if_true, hcb]
      rw [htrack]
      obtain ⟨api', t', -, hcons, ht', hkind'⟩ := h.armed a (by simp [hwait])
      have hsame : api' = api := by
        rw [show t' = t from Option.some.inj (ht'.symm.trans ht), hkind] at hkind'
        cases hkind'
        rfl
      rw [hsame] at hcons
      have hfetch : (Callback.press api).fetched env w = w.consumed (nextFrame env w) := by
        simp only [Callback.fetched, hcons, if_true]
      rw [hfetch] at hacts
      refine h.handle hwait hsound ht hkind hacts.rxBuffer hacts.buffBody fun i v api'' hv => ?_
      rw [if_neg (by simp)] at hlive
      simp only [hlive]
      by_cases hi : i = a.num
      · simp [hi]
      · rw [Function.update_of_ne hi, hpress hv]
        simp [hi]
    | null | sendConnectCb | sendRegisterCb | pingreqTimeoutCb | publishTimeoutCb
    | subscribeTimeoutCb | subscribeTimeoutIdCb | cyclicCb =>
      rw [hkind] at hcb hacts
      simp only [trackDelivery, hdue, if_true, hcb]
      refine h.frame hsound hacts.rxBuffer hacts.buffBody fun i v api hv => ?_
      rw [← hpress hv]
      simp only [hlive]
      by_cases hcyc : t.timerCallback = .cyclicCb
      · rw [if_pos hcyc]
      · rw [if_neg hcyc]
        by_cases hi : i = num
        -- the timer that leaves the slot is no handler's
        · subst hi
          rw [Function.update_self, hstay]
          simp only [false_iff, reduceCtorEq]
          rintro ⟨⟩
          rw [hkind] at hv
          cases hv
        · rw [Function.update_of_ne hi]

theorem deliveryInv_step {topics : Topics} (s : World × Delivery) (e : Event)
    (s' : World × Delivery) (h : DeliveryInv s) (hc : InOrder s e)
    (hstep : Runs.tracked (step topics) trackDelivery s e = .ok s') : DeliveryInv s' := by
  obtain ⟨w, g⟩ := s
  obtain ⟨w', g'⟩ := s'
  obtain ⟨action, env⟩ := e
  obtain ⟨hw, rfl⟩ := Runs.tracked_ok.mp hstep
  have hsound := sound_step h.sound hw
  cases action with
  | recv p addr port =>
    cases hw
    exact deliveryInv_recv h hc.1 hc.2 env addr port
  | visit num now valid => exact deliveryInv_visit h valid hc hsound hw
  | app call =>
    have hacts := runAppCall_acts hw
    exact h.frame hsound hacts.rxBuffer hacts.buffBody fun i t api ht =>
      hacts.press_live h.sound (appArms_no_press call) (by simp) ht

theorem Booted.delivery {topics : Topics} {w : World} (h : Booted topics w) :
    DeliveryInv (w, ⟨[], [], []⟩) := by
  refine ⟨h.sound, by simp, rfl, ?_, ?_, by simp, List.nodup_nil, by simp, ?_⟩
  · rw [h.eq_startup]
    exact importZero_view
  · rw [h.eq_startup]
    exact buffInit_view
  · intro i t api ht hcb
    simp only [h.live_eq] at ht
    rcases (bootTimers_ok ht).1 with ⟨-, hother⟩ | ⟨-, hother⟩
    · rw [hother] at hcb
      cases hcb
    · rw [hother] at hcb
      cases hcb

/-- In every run in which handlers come due in order, delivery is right in every state. -/
theorem delivered_in_order {topics : Topics} {env : Env} {w : World}
    (hinit : mqttClientInit env (startup topics) = .ok w) (es : List Event)
    (hc : Runs.Meets (Runs.tracked (step topics) trackDelivery) InOrder (w, ⟨[], [], []⟩) es) :
    Runs.Always (Runs.tracked (step topics) trackDelivery) Delivered (w, ⟨[], [], []⟩) es :=
  Runs.always_of_meets (fun _ h => h.delivered) deliveryInv_step
    (mqttClientInit_booted hinit).delivery hc

theorem three_lt_maxTimerNum : 3 < maxTimerNum := by decide

/-- A PINGRESP and a CONNACK arrive and wait together; their timers in the third and fourth slot
come due in this order. -/
def pingrespEvents : List Event :=
  [⟨.recv (datagram [2, mqttSnTypePingresp]) 0 10000, quietEnv⟩,
    ⟨.recv (datagram [3, mqttSnTypeConnack, 0]) 0 10000, quietEnv⟩,
    ⟨.visit 2 200 two_lt_maxTimerNum, quietEnv⟩,
    ⟨.visit 3 200 three_lt_maxTimerNum, quietEnv⟩]

theorem delivered_in_order_pingresp :
    Runs.Always (Runs.tracked (step topiclist) trackDelivery) Delivered (bootWorld, ⟨[], [], []⟩)
      pingrespEvents := by
  refine delivered_in_order bootWorld_init _ ⟨⟨?_, ?_⟩, fun s hs => ?_⟩
  · exact ⟨by decide, by decide, by decide, by decide⟩
  · intro _
    refine ⟨by decide, fun api hapi => ?_⟩
    cases hapi
    rfl
  cases hs
  refine ⟨⟨?_, ?_⟩, fun s hs => ?_⟩
  · exact ⟨by decide, by decide, by decide, by decide⟩
  · intro _
    refine ⟨by decide, fun api hapi => ?_⟩
    cases hapi
    rfl
  cases hs
  refine ⟨fun _ api _ => ⟨_, _, rfl, rfl⟩, fun s hs => ?_⟩
  cases hs
  exact ⟨fun _ api _ => ⟨_, _, rfl, rfl⟩, fun _ _ => trivial⟩

def GoodDatagrams (es : List Event) : Prop :=
  ∀ e ∈ es, ∀ p addr port, e.action = .recv p addr port → WellFormed p

/-- The handler of a PUBCOMP obtains nothing, and the datagram stays in the queues. -/
theorem pubcomp_undelivered :
    ¬∀ (topics : Topics) (env : Env) (w : World) (es : List Event),
      mqttClientInit env (startup topics) = .ok w → GoodDatagrams es →
        Runs.Always (Runs.tracked (step topics) trackDelivery) Delivered (w, ⟨[], [], []⟩) es := by
  intro h
  let es : List Event :=
    [⟨.recv (datagram [2, mqttSnTypePubcomp]) 0 10000, quietEnv⟩,
      ⟨.visit 2 200 two_lt_maxTimerNum, quietEnv⟩]
  have hgood : GoodDatagrams es := by
    intro e he p addr port hp
    simp only [es, List.mem_cons, List.not_mem_nil, or_false] at he
    rcases he with rfl | rfl
    · cases hp
      exact ⟨by decide, by decide, by decide, by decide⟩
    · cases hp
  have hend := h topiclist quietEnv bootWorld es bootWorld_init hgood es [] _
    (List.append_nil es).symm rfl
  have hlenths := hend.lenths
  exact absurd hlenths (by decide)

end MqttSnClient
