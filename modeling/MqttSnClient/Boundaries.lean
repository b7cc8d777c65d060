import MqttSnClient.Queues

namespace MqttSnClient
open Memory

/-- The queued lengths add up to the number of queued bytes. -/
def FramesInStep (w : World) : Prop :=
  lenthSum (queuedLenths w.client.rxBuffer) = (queued w.buffBody).length

/-- A datagram that is stored fits into the byte that its length is cut to, and finds
fewer than ten lengths queued. -/
def KeepsFrames (w : World) (e : Event) : Prop :=
  match e.action with
  | .recv p _ _ => Stores w p → p.totLen.toNat ≤ 255 ∧
      (queuedLenths w.client.rxBuffer).length < mqttSnImportMax
  | _ => True

/-- The queues hold frames: lengths that are not zero, and their bytes. -/
structure Framed (w : World) (ls q : List UInt8) : Prop where
  lenths : ImportView w.client.rxBuffer ls
  bytes : BuffView w.buffBody q
  sum_eq : lenthSum ls = q.length

theorem Framed.inStep {w : World} {ls q : List UInt8} (h : Framed w ls q) : FramesInStep w := by
  unfold FramesInStep
  rw [h.lenths.queued_eq, h.bytes.queued_eq, h.sum_eq]

/-- Taking the next frame keeps the rest framed. -/
theorem Framed.consumed {w : World} {ls q : List UInt8} (h : Framed w ls q) (env : Env) :
    ∃ ls' q', Framed (w.consumed (nextFrame env w)) ls' q' := by
  cases ls with
  | nil =>
    obtain ⟨-, hrx, hb⟩ := nextFrame_empty env h.lenths.toImportRing h.bytes
    refine ⟨[], q, ?_, ?_, h.sum_eq⟩
    · rw [show (w.consumed (nextFrame env w)).client.rxBuffer = w.client.rxBuffer from hrx]
      exact h.lenths
    · rw [show (w.consumed (nextFrame env w)).buffBody = w.buffBody from hb]
      exact h.bytes
  | cons x ls =>
    have hx : x.toNat ≠ 0 := fun hz => h.lenths.nonzero x (by simp) (UInt8.toNat_inj.mp hz)
    have hsum := h.sum_eq
    rw [lenthSum_cons] at hsum
    obtain ⟨-, -, -, -, hbytes⟩ := nextFrame_ok env h.lenths.toImportRing h.bytes (by omega)
      (by omega)
    refine ⟨ls, q.drop x.toNat, (read_ok h.lenths).2, hbytes, ?_⟩
    rw [List.length_drop]
    omega

theorem Framed.fetched {w : World} {ls q : List UInt8} (h : Framed w ls q) (cb : Callback)
    (env : Env) : ∃ ls' q', Framed (cb.fetched env w) ls' q' := by
  unfold Callback.fetched
  split
  · split_ifs
    · exact h.consumed env
    · exact ⟨ls, q, h⟩
  · exact ⟨ls, q, h⟩

theorem Framed.acts {w w' : World} {ls q : List UInt8} {K : List Callback} {C : List UInt8}
    (h : Framed w ls q) (ha : Acts K C w w') : Framed w' ls q :=
  ⟨ha.rxBuffer ▸ h.lenths, ha.buffBody ▸ h.bytes, h.sum_eq⟩

/-- A datagram that fits is framed behind the others. -/
theorem Framed.stored {w : World} {ls q : List UInt8} (h : Framed w ls q) {p : Pbuf}
    (hp : Stores w p) (hlen : p.totLen.toNat ≤ 255) (hls : ls.length < mqttSnImportMax)
    (addr : UInt32) (port : UInt16) :
    Framed (w.stored p addr port) (ls ++ [p.lenth]) (q ++ p.bytes) := by
  have hnz : p.lenth ≠ 0 := fun hz => hp.2.2 (p.lenth_eq_zero.mp hz)
  refine ⟨(write_ok h.lenths hnz hls).2, (stored_bytes h.bytes hp).2, ?_⟩
  rw [lenthSum_append, h.sum_eq, List.length_append, p.bytes_length, lenthSum_cons, p.lenth_toNat,
    lenthSum_nil]
  omega

theorem Framed.dispatched {w : World} {ls q : List UInt8} (h : Framed w ls q) (env : Env)
    (addr : UInt32) (port : UInt16) (cmd : UInt8) :
    ∃ ls' q', Framed (mqttSnSocketIncommCb env addr port cmd w).2 ls' q' := by
  unfold mqttSnSocketIncommCb
  cases getAPIFUN cmd with
  | some api => exact ⟨ls, q, h.lenths, h.bytes, h.sum_eq⟩
  | none =>
    have hgw : Framed { w with gw := { addr := addr, port := port } } ls q :=
      ⟨h.lenths, h.bytes, h.sum_eq⟩
    exact hgw.consumed env

/-- What carries the boundaries through a run. -/
def FramesKept (w : World) : Prop := Sound w ∧ ∃ ls q, Framed w ls q

theorem framesKept_step {topics : Topics} {w w' : World} {e : Event} (hw : FramesKept w)
    (hc : KeepsFrames w e) (h : step topics w e = .ok w') : FramesKept w' := by
  obtain ⟨hsound, ls, q, hf⟩ := hw
  refine ⟨sound_step hsound h, ?_⟩
  unfold step at h
  split at h
  · rename_i p addr port haction
    cases h
    by_cases hp : Stores w p
    · simp only [KeepsFrames, haction] at hc
      obtain ⟨hlen, hls⟩ := hc hp
      rw [hf.lenths.queued_eq] at hls
      rw [udpServerRecvCb_stores hsound hp]
      exact (hf.stored hp hlen hls addr port).dispatched _ _ _ _
    · obtain ⟨hrx, hb, -, -⟩ := udpServerRecvCb_refuses hsound hp e.env addr port
      exact ⟨ls, q, hrx ▸ hf.lenths, hb ▸ hf.bytes, hf.sum_eq⟩
  · rename_i num now hnum _
    rcases timerVisit_ok hsound hnum h with ⟨-, rfl⟩ | ⟨t, u, s, -, -, -, hu, -, -, rfl, -, -⟩
    · exact ⟨ls, q, hf⟩
    · obtain ⟨ls', q', hf'⟩ := hf.fetched t.timerCallback e.env
      have hfu := hf'.acts (runCallback_acts hu)
      exact ⟨ls', q', hfu.lenths, hfu.bytes, hfu.sum_eq⟩
  · exact ⟨ls, q, hf.acts (runAppCall_acts h)⟩

theorem not_inStep {w : World} {ls q : List UInt8} (hl : queuedLenths w.client.rxBuffer = ls)
    (hq : queued w.buffBody = q) (hne : lenthSum ls ≠ q.length) : ¬FramesInStep w := by
  rw [FramesInStep, hl, hq]
  exact hne

/-- Where the lengths fall short of the bytes, a handler does not make up for it. -/
theorem short_consumed {w : World} {x : UInt8} {ls q : List UInt8}
    (hl : ImportRing w.client.rxBuffer (x :: ls)) (hq : BuffView w.buffBody q) (hx : x ≠ 0)
    (hshort : lenthSum (x :: ls) < q.length) (env : Env) :
    ¬FramesInStep (w.consumed (nextFrame env w)) := by
  have hx0 : x.toNat ≠ 0 := fun hz => hx (UInt8.toNat_inj.mp hz)
  rw [lenthSum_cons] at hshort
  obtain ⟨-, -, -, hrx, hb⟩ := nextFrame_ok env hl hq (by omega) (by omega)
  refine not_inStep hrx.queued_eq hb.queued_eq ?_
  rw [List.length_drop]
  omega

/-- A datagram of more than 255 bytes is queued under a smaller length. -/
theorem long_breaks {w : World} {ls q : List UInt8} (hw : Sound w) (h : Framed w ls q)
    {p : Pbuf} (hp : Stores w p) (hlong : 255 < p.totLen.toNat)
    (hls : ls.length < mqttSnImportMax) (env : Env) (addr : UInt32) (port : UInt16) :
    ¬FramesInStep (udpServerRecvCb env p addr port w).2 := by
  have hnz : p.lenth ≠ 0 := fun hz => hp.2.2 (p.lenth_eq_zero.mp hz)
  have hrx : ImportView (w.stored p addr port).client.rxBuffer (ls ++ [p.lenth]) :=
    (write_ok h.lenths hnz hls).2
  have hb : BuffView (w.stored p addr port).buffBody (q ++ p.bytes) := (stored_bytes h.bytes hp).2
  have hshort : lenthSum (ls ++ [p.lenth]) < (q ++ p.bytes).length := by
    rw [lenthSum_append, List.length_append, p.bytes_length, h.sum_eq, lenthSum_cons, p.lenth_toNat,
      lenthSum_nil]
    omega
  rw [udpServerRecvCb_stores hw hp, mqttSnSocketIncommCb]
  cases getAPIFUN p.cmd with
  | some api =>
    exact not_inStep hrx.queued_eq hb.queued_eq hshort.ne
  | none =>
    cases hcons : ls ++ [p.lenth] with
    | nil => simp at hcons
    | cons x tl =>
      rw [hcons] at hrx hshort
      exact short_consumed (w := { w.stored p addr port with gw := { addr := addr, port := port } })
        hrx.toImportRing hb (hrx.nonzero x (by simp)) hshort env

/-- The eleventh length replaces the oldest one, whose bytes stay. -/
theorem overrun_breaks {w : World} {ls q : List UInt8} (hw : Sound w) (h : Framed w ls q)
    {p : Pbuf} (hp : Stores w p) (hls : ls.length = mqttSnImportMax) (env : Env) (addr : UInt32)
    (port : UInt16) : ¬FramesInStep (udpServerRecvCb env p addr port w).2 := by
  have hnz : p.lenth ≠ 0 := fun hz => hp.2.2 (p.lenth_eq_zero.mp hz)
  have hlen0 : p.lenth.toNat ≠ 0 := fun hz => hnz (UInt8.toNat_inj.mp hz)
  have hlenth := p.lenth_toNat
  have hb : BuffView (w.stored p addr port).buffBody (q ++ p.bytes) := (stored_bytes h.bytes hp).2
  obtain ⟨hnew, hhead, hempty⟩ := h.lenths.overrun hnz hls
  have hten := le_lenthSum h.lenths.nonzero
  rw [h.sum_eq, hls] at hten
  rw [udpServerRecvCb_stores hw hp, mqttSnSocketIncommCb]
  cases getAPIFUN p.cmd with
  | some api =>
    refine not_inStep hnew hb.queued_eq ?_
    rw [lenthSum_cons, List.length_append, p.bytes_length, ← h.sum_eq]
    cases ls with
    | nil => cases hls
    | cons x ls =>
      have hx : x.toNat ≠ 0 := fun hz => h.lenths.nonzero x (by simp) (UInt8.toNat_inj.mp hz)
      rw [List.tail_cons, lenthSum_cons]
      omega
  | none =>
    have hfits : p.lenth.toNat ≤ (q ++ p.bytes).length := by
      rw [List.length_append, p.bytes_length]
      omega
    have hread := readBUFF_ok hb env.inputdata (by omega) hfits
    rw [← hhead] at hread
    refine not_inStep hempty hread.2.2.queued_eq ?_
    rw [hhead, lenthSum_nil, List.length_drop, List.length_append, p.bytes_length]
    simp only [mqttSnImportMax] at hten
    omega

/-- The lengths and the bytes are in step in every state of a run exactly when every
datagram that is stored is short enough and finds room for its length. -/
theorem frames_in_step_iff {topics : Topics} {env : Env} {w : World}
    (hinit : mqttClientInit env (startup topics) = .ok w) (es : List Event) :
    Runs.Always (step topics) FramesInStep w es ↔ Runs.Meets (step topics) KeepsFrames w es := by
  have hboot := mqttClientInit_booted hinit
  have hstart : FramesKept w := by
    refine ⟨hboot.sound, [], [], ?_, ?_, rfl⟩ <;> rw [hboot.eq_startup]
    · exact importZero_view
    · exact buffInit_view
  apply Runs.always_iff_meets (J := FramesKept) (P := FramesInStep) (C := KeepsFrames)
  · rintro v ⟨-, ls, q, hf⟩
    exact hf.inStep
  · intro v e v' hv hc h
    exact framesKept_step hv hc h
  · rintro v ⟨action, env'⟩ ⟨hsound, ls, q, hf⟩ hn
    cases action with
    | recv p addr port =>
      refine ⟨_, rfl, ?_⟩
      simp only [KeepsFrames, hf.lenths.queued_eq, Classical.not_imp, not_and_or, Nat.not_le] at hn
      obtain ⟨hp, hlong | hfull⟩ := hn
      · rcases Nat.lt_or_ge ls.length mqttSnImportMax with hls | hls
        · exact long_breaks hsound hf hp hlong hls env' addr port
        · exact overrun_breaks hsound hf hp (le_antisymm hf.lenths.bound hls) env' addr port
      · exact overrun_breaks hsound hf hp (le_antisymm hf.lenths.bound (Nat.not_lt.mp hfull)) env'
          addr port
    | visit num now valid => exact absurd trivial hn
    | app call => exact absurd trivial hn
  · exact hstart

theorem frames_in_step_pingresp :
    Runs.Always (step topiclist) FramesInStep bootWorld
      [⟨.recv (datagram [2, mqttSnTypePingresp]) 0 10000, quietEnv⟩] :=
  (frames_in_step_iff bootWorld_init _).mpr
    ⟨fun _ => ⟨by decide, by decide⟩, fun _ _ => trivial⟩

/-- A PUBLISH of 300 bytes, with the length in its three-byte form. -/
def longPublish : Pbuf where
  payload := Bytes.asArray [1, 0x01, 0x2C, mqttSnTypePublish]
  totLen := 300

/-- It is queued under the length 44. -/
theorem long_publish_out_of_step :
    ¬∀ (topics : Topics) (env : Env) (w : World) (es : List Event),
      mqttClientInit env (startup topics) = .ok w →
        Runs.Always (step topics) FramesInStep w es := by
  intro h
  have hboot := mqttClientInit_booted bootWorld_init
  have hframed : Framed bootWorld [] [] := ⟨importZero_view, buffInit_view, rfl⟩
  have hrun := h topiclist quietEnv bootWorld [⟨.recv longPublish 0 10000, quietEnv⟩] bootWorld_init
  refine long_breaks hboot.sound hframed (p := longPublish) ⟨by decide, by decide, by decide⟩
    (by decide) (by decide) quietEnv 0 10000 ?_
  exact hrun [⟨.recv longPublish 0 10000, quietEnv⟩] [] _ rfl rfl

/-- The receive queues after the receive callback, where it has scheduled no handler, are
those before it. -/
def LeavesQueues (env : Env) (p : Pbuf) (addr : UInt32) (port : UInt16) (w : World) : Prop :=
  (∀ num, (udpServerRecvCb env p addr port w).1 ≠ .scheduled num) →
    queued (udpServerRecvCb env p addr port w).2.buffBody = queued w.buffBody ∧
      queuedLenths (udpServerRecvCb env p addr port w).2.client.rxBuffer =
        queuedLenths w.client.rxBuffer

/-- Every waiting frame is like the datagram, which is at most 255 bytes long and finds room for
its length: the frames have its length, and the waiting bytes repeat with that period up to the
end of the datagram. -/
structure DropsItself (w : World) (p : Pbuf) : Prop where
  short : p.totLen.toNat ≤ 255
  room : (queuedLenths w.client.rxBuffer).length < mqttSnImportMax
  same_lenth : ∀ x ∈ queuedLenths w.client.rxBuffer, x = p.lenth
  same_bytes : ∀ i < (queued w.buffBody).length,
    (queued w.buffBody ++ p.bytes)[i + p.totLen.toNat]? = (queued w.buffBody)[i]?

/-- The datagram is not stored, or a timer slot is free for its handler, or it has no
handler and dropping the oldest frame drops it. -/
def RefusalClean (w : World) (p : Pbuf) : Prop :=
  Stores w p → match getAPIFUN p.cmd with
    | some _ => 0 < w.systime.free
    | none => DropsItself w p

theorem queuedLenths_length (b : ImportBuff) :
    (queuedLenths b).length = (getAvalidofpktinput b.wPtr b.rPtr b.ring).toNat :=
  window_length _ _ _ _

theorem RxOk.importRing {b : ImportBuff} (h : RxOk b) (hring : b.ring = 0) :
    ImportRing b (queuedLenths b) := by
  have hclear : RingView mqttSnImportMax b.rPtr b.wPtr 0 b.buff _ :=
    RingView.of_clear h.rPtr_lt h.wPtr_lt
  rw [← hring] at hclear
  exact ⟨hclear⟩

theorem RxOk.full_length {b : ImportBuff} (hring : b.ring = 1) :
    (queuedLenths b).length = mqttSnImportMax := by
  rw [queuedLenths_length, hring]
  rfl

/-- A read leaves fewer than ten lengths. -/
theorem RxOk.read_length {b : ImportBuff} (h : RxOk b)
    (havail : ¬1 > toUint16 (getAvalidofpktinput b.wPtr b.rPtr b.ring)) :
    (queuedLenths (readClientImportindex b).2).length < mqttSnImportMax := by
  have hread := h.read
  rw [read_eq h.rPtr_lt havail] at hread ⊢
  have hring := hread.importRing rfl
  exact lt_of_le_of_ne hring.bound
    (mt hring.ring_iff.mpr (show (0 : UInt8) ≠ 1 by decide))

/-- A list to which an element is added at the end and one is taken from the front is the
same list only when all its elements are that one. -/
theorem rotate_eq {ls : List UInt8} {x y : UInt8} :
    ls ++ [y] = x :: ls ↔ x = y ∧ ∀ z ∈ ls, z = y := by
  induction ls generalizing x with
  | nil => simp [eq_comm]
  | cons a ls ih =>
    rw [List.cons_append, List.cons.injEq, ih, List.forall_mem_cons]
    constructor
    · rintro ⟨rfl, rfl, h⟩
      exact ⟨rfl, rfl, h⟩
    · rintro ⟨rfl, rfl, h⟩
      exact ⟨rfl, rfl, h⟩

/-- Taking from the front what was added at the end leaves a list that repeats with that
period. -/
theorem drop_period_iff {q d : List UInt8} {n : ℕ} (hd : d.length = n) :
    (∀ i < q.length, (q ++ d)[i + n]? = q[i]?) ↔ (q ++ d).drop n = q := by
  constructor
  · intro h
    apply List.ext_getElem?
    intro i
    rw [List.getElem?_drop, Nat.add_comm]
    by_cases hi : i < q.length
    · exact h i hi
    · have hend : (q ++ d).length ≤ i + n := by
        rw [List.length_append]
        omega
      rw [List.getElem?_eq_none hend, List.getElem?_eq_none (Nat.le_of_not_lt hi)]
  · intro h i _
    rw [Nat.add_comm, ← List.getElem?_drop, h]

/-- Where ten lengths are queued, a stored frame leaves them and a read takes one. -/
theorem full_not_restored {w : World} (hw : Sound w) (hring : w.client.rxBuffer.ring = 1)
    {p : Pbuf} (hnz : p.lenth ≠ 0) (env : Env) {v : World}
    (hrx : v.client.rxBuffer = (writeClientImportindex p.lenth w.client.rxBuffer).2) :
    queuedLenths (nextFrame env v).rxBuffer ≠ queuedLenths w.client.rxBuffer := by
  intro hls
  have hten := RxOk.full_length hring
  have hset : v.client.rxBuffer.ring = 1 := by
    rw [hrx, write_eq hnz hw.rx.wPtr_lt hw.rx.rPtr_lt]
    simp only [hring, ite_self]
  have havail : ¬1 > toUint16
      (getAvalidofpktinput v.client.rxBuffer.wPtr v.client.rxBuffer.rPtr
        v.client.rxBuffer.ring) := by
    rw [hset]
    exact avail_set _ _
  have hok : RxOk v.client.rxBuffer := hrx ▸ hw.rx.write _
  have hfewer := hok.read_length havail
  rw [show (nextFrame env v).rxBuffer = (readClientImportindex v.client.rxBuffer).2 from rfl]
    at hls
  rw [hls] at hfewer
  omega

/-- A frame of `x` bytes is taken: the queues are the same only if `x` is the added length. -/
theorem rotation_restores_iff {w : World} {p : Pbuf} {q : List UInt8} {x : UInt8}
    {tl : List UInt8} (hq : queued w.buffBody = q)
    (hroom : (queuedLenths w.client.rxBuffer).length < mqttSnImportMax)
    (hcons : queuedLenths w.client.rxBuffer ++ [p.lenth] = x :: tl)
    (hx : x.toNat ≤ (q ++ p.bytes).length) :
    ((q ++ p.bytes).drop x.toNat = q ∧ tl = queuedLenths w.client.rxBuffer) ↔
      DropsItself w p := by
  have hlenth := p.lenth_toNat
  constructor
  · rintro ⟨hbytes, rfl⟩
    obtain ⟨rfl, hsame⟩ := rotate_eq.mp hcons
    have hlen := congrArg List.length hbytes
    rw [List.length_drop, List.length_append, p.bytes_length] at hlen
    rw [List.length_append, p.bytes_length] at hx
    have hxlen : p.lenth.toNat = p.totLen.toNat := by omega
    have hlt := p.lenth.toNat_lt
    refine ⟨by omega, hroom, hsame, ?_⟩
    rw [drop_period_iff p.bytes_length, hq, ← hxlen]
    exact hbytes
  · intro h
    have hsame := rotate_eq.mpr ⟨rfl, h.same_lenth⟩
    rw [hcons] at hsame
    obtain ⟨rfl, rfl⟩ := List.cons.inj hsame
    have hbytes := (drop_period_iff p.bytes_length).mp h.same_bytes
    have hshort := h.short
    rw [hq] at hbytes
    rw [hlenth, Nat.mod_eq_of_lt (by omega)]
    exact ⟨hbytes, rfl⟩

/-- Storing a frame and dropping the oldest one changes nothing exactly in that case. -/
theorem drop_restores_iff {w : World} (hw : Sound w) {p : Pbuf} (hp : Stores w p) (env : Env)
    {v : World} (hrx : v.client.rxBuffer = (writeClientImportindex p.lenth w.client.rxBuffer).2)
    (hb : v.buffBody = (writeBUFF (some p.bytes) p.totLen.toNat w.buffBody).2) :
    (queued (nextFrame env v).buffBody = queued w.buffBody ∧
        queuedLenths (nextFrame env v).rxBuffer = queuedLenths w.client.rxBuffer) ↔
      DropsItself w p := by
  have hnz : p.lenth ≠ 0 := fun hz => hp.2.2 (p.lenth_eq_zero.mp hz)
  have hlenth := p.lenth_toNat
  have hpos := hp.2.2
  obtain ⟨q, hq⟩ := hw.buff
  have hv : BuffView v.buffBody (q ++ p.bytes) := hb ▸ (stored_bytes hq hp).2
  rcases hw.rx.ring_bit with hring | hring
  · have hls := hw.rx.importRing hring
    have hroom : (queuedLenths w.client.rxBuffer).length < mqttSnImportMax := by
      refine lt_of_le_of_ne hls.bound (mt hls.ring_iff.mpr ?_)
      rw [hring]
      decide
    have hvl : ImportRing v.client.rxBuffer (queuedLenths w.client.rxBuffer ++ [p.lenth]) :=
      hrx ▸ (hls.write hnz hroom).2
    cases hcons : queuedLenths w.client.rxBuffer ++ [p.lenth] with
    | nil => simp at hcons
    | cons x tl =>
      rw [hcons] at hvl
      by_cases hx : 1 ≤ x.toNat ∧ x.toNat ≤ (q ++ p.bytes).length
      · obtain ⟨-, -, -, htl, hdrop⟩ := nextFrame_ok env hvl hv hx.1 hx.2
        rw [hq.queued_eq, htl.queued_eq, hdrop.queued_eq]
        exact rotation_restores_iff hq.queued_eq hroom hcons hx.2
      -- the oldest length is zero or more than what is queued, so no byte is taken
      · obtain ⟨-, -, hstay⟩ := nextFrame_short env hvl hv hx
        rw [hq.queued_eq, hstay.queued_eq]
        constructor
        · rintro ⟨hbytes, -⟩
          have hlen := congrArg List.length hbytes
          rw [List.length_append, p.bytes_length] at hlen
          omega
        · intro h
          exfalso
          have hsame := rotate_eq.mpr ⟨rfl, h.same_lenth⟩
          rw [hcons] at hsame
          obtain ⟨rfl, rfl⟩ := List.cons.inj hsame
          have hshort := h.short
          apply hx
          rw [hlenth, List.length_append, p.bytes_length]
          omega
  · constructor
    · rintro ⟨-, hls⟩
      exact absurd hls (full_not_restored hw hring hnz env hrx)
    · intro h
      have hten := RxOk.full_length hring
      have hroom := h.room
      omega

/-- In every reachable state, a datagram for which no handler is scheduled leaves the
receive queues as they were exactly when its refusal is clean. -/
theorem refused_leaves_queues_iff {topics : Topics} {w : World} (hw : Reachable topics w)
    (env : Env) (p : Pbuf) (addr : UInt32) (port : UInt16) :
    LeavesQueues env p addr port w ↔ RefusalClean w p := by
  have hsound := hw.sound
  unfold LeavesQueues RefusalClean
  by_cases hp : Stores w p
  · cases hapi : getAPIFUN p.cmd with
    | some api =>
      obtain ⟨-, hb, hout⟩ := udpServerRecvCb_row hsound hp hapi env addr port
      simp only [hp, true_imp_iff]
      rcases hout with ⟨hfull, hempty⟩ | ⟨hfree, num, -, hsched, -⟩
      -- the frame stays in the queues without a handler
      · constructor
        · intro h
          exfalso
          obtain ⟨q, hq⟩ := hsound.buff
          obtain ⟨hbytes, -⟩ := h (by rw [hempty]; simp)
          rw [hb, show queued (w.stored p addr port).buffBody = q ++ p.bytes from
            (stored_bytes hq hp).2.queued_eq, hq.queued_eq] at hbytes
          have hlen := congrArg List.length hbytes
          have hpos := hp.2.2
          rw [List.length_append, p.bytes_length] at hlen
          omega
        · intro h
          omega
      · constructor
        · intro _
          exact hfree
        · intro _ hno
          exact absurd hsched (hno num)
    | none =>
      rw [udpServerRecvCb_stores hsound hp, mqttSnSocketIncommCb, hapi]
      simp only [hp, true_imp_iff]
      rw [← drop_restores_iff hsound hp env (v := { w.stored p addr port with
        gw := { addr := addr, port := port } }) rfl rfl]
      constructor
      · intro h
        exact h (by simp)
      · intro h _
        exact h
  · obtain ⟨hrx, hb, -, -⟩ := udpServerRecvCb_refuses hsound hp env addr port
    constructor
    · intro _ hstores
      exact absurd hstores hp
    · intro _ _
      rw [hrx, hb]
      exact ⟨rfl, rfl⟩

theorem bootWorld_reachable : Reachable topiclist bootWorld :=
  ⟨quietEnv, bootWorld, [], bootWorld_init, rfl⟩

/-- A CONNECT that arrives at empty queues is dropped without a trace. -/
theorem refused_leaves_queues_connect :
    LeavesQueues quietEnv (datagram [2, mqttSnTypeConnect]) 0 10000 bootWorld :=
  (refused_leaves_queues_iff bootWorld_reachable _ _ _ _).mpr fun _ =>
    ⟨by decide, by decide,
      fun x hx => absurd (show x ∈ ([] : List UInt8) from hx) List.not_mem_nil, by decide⟩

def pingrespWaiting : World :=
  (udpServerRecvCb quietEnv (datagram [2, mqttSnTypePingresp]) 0 10000 bootWorld).2

theorem pingrespWaiting_reachable : Reachable topiclist pingrespWaiting :=
  ⟨quietEnv, bootWorld, [⟨.recv (datagram [2, mqttSnTypePingresp]) 0 10000, quietEnv⟩],
    bootWorld_init, rfl⟩

/-- A CONNECT that arrives behind a PINGRESP is dropped by taking the PINGRESP. -/
theorem connect_takes_pingresp :
    ¬∀ (topics : Topics) (w : World), Reachable topics w →
      ∀ (env : Env) (p : Pbuf) (addr : UInt32) (port : UInt16), LeavesQueues env p addr port w := by
  intro h
  have hleaves := h topiclist pingrespWaiting pingrespWaiting_reachable quietEnv
    (datagram [3, mqttSnTypeConnect, 0]) 0 10000
  have hdropped : (udpServerRecvCb quietEnv (datagram [3, mqttSnTypeConnect, 0]) 0 10000
      pingrespWaiting).1 = .noHandler := by decide
  have hlenths := (hleaves (by rw [hdropped]; simp)).2
  exact absurd hlenths (by decide)

end MqttSnClient
