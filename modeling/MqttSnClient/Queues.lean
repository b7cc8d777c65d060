import MqttSnClient.Sound

namespace MqttSnClient
open Memory

/-- The receive callback writes the datagram into both queues: its type is not refused,
the byte ring has more room than it needs, and the byte that its length is cut to is not
zero. -/
def Stores (w : World) (p : Pbuf) : Prop :=
  cmdConfirm p.cmd = 0 ∧ p.totLen.toNat < buffSpaceget w.buffBody ∧ p.totLen.toNat % 256 ≠ 0

instance (w : World) (p : Pbuf) : Decidable (Stores w p) := by
  unfold Stores
  infer_instance

def Pbuf.lenth (p : Pbuf) : UInt8 := UInt8.ofNat p.totLen.toNat

theorem Pbuf.lenth_toNat (p : Pbuf) : p.lenth.toNat = p.totLen.toNat % 256 := by
  simp [Pbuf.lenth]

theorem Pbuf.lenth_eq_zero (p : Pbuf) : p.lenth = 0 ↔ p.totLen.toNat % 256 = 0 := by
  rw [← p.lenth_toNat, ← UInt8.toNat_inj]
  rfl

/-- The world with the datagram in both queues. -/
def World.stored (w : World) (p : Pbuf) (addr : UInt32) (port : UInt16) : World :=
  { w with
    remotePort := port, remoteIp := addr
    client := { w.client with rxBuffer := (writeClientImportindex p.lenth w.client.rxBuffer).2 }
    buffBody := (writeBUFF (some p.bytes) p.totLen.toNat w.buffBody).2 }

/-- The test of `GetSpaceofpktinput` never fails. -/
theorem RxOk.space_ne_zero {b : ImportBuff} (h : RxOk b) :
    getSpaceofpktinput b.wPtr b.rPtr b.ring ≠ 0 := by
  intro hz
  apply space_pos b.ring h.wPtr_lt h.rPtr_lt
  rw [hz]
  decide

theorem stored_bytes {w : World} {q : List UInt8} (hq : BuffView w.buffBody q) {p : Pbuf}
    (hp : Stores w p) :
    (writeBUFF (some p.bytes) p.totLen.toNat w.buffBody).1 = errorNone ∧
      BuffView (writeBUFF (some p.bytes) p.totLen.toNat w.buffBody).2 (q ++ p.bytes) := by
  have hroom := hp.2.1
  rw [hq.space] at hroom
  have hpos : 1 ≤ p.totLen.toNat := by
    rcases Nat.eq_zero_or_pos p.totLen.toNat with hz | hz
    · exact absurd (by rw [hz]) hp.2.2
    · exact hz
  have hwrite := writeBUFF_ok hq p.bytes_length.ge hpos hroom.le
  rwa [List.take_of_length_le p.bytes_length.le] at hwrite

/-- A length that is cut to zero is not queued. -/
theorem Pbuf.import_refused {p : Pbuf} (hz : p.totLen.toNat % 256 = 0) (b : ImportBuff) :
    (writeClientImportindex (UInt8.ofNat p.totLen.toNat) b).1 ≠ 0 := by
  have hlenth : UInt8.ofNat p.totLen.toNat = 0 := p.lenth_eq_zero.mpr hz
  rw [hlenth, write_zero]
  show (1 : UInt8) ≠ 0
  decide

/-- A datagram that is not stored leaves both queues and the timer table alone. -/
theorem udpServerRecvCb_refuses {w : World} (hw : Sound w) {p : Pbuf} (hp : ¬Stores w p)
    (env : Env) (addr : UInt32) (port : UInt16) :
    (udpServerRecvCb env p addr port w).2.client.rxBuffer = w.client.rxBuffer ∧
      (udpServerRecvCb env p addr port w).2.buffBody = w.buffBody ∧
      (udpServerRecvCb env p addr port w).2.systime = w.systime ∧
      ∀ num, (udpServerRecvCb env p addr port w).1 ≠ .scheduled num := by
  have hspace := hw.rx.space_ne_zero
  simp only [udpServerRecvCb]
  split_ifs with hcmd hroom himport hbuff
  · exact ⟨rfl, rfl, rfl, by simp⟩
  · refine ⟨?_, rfl, rfl, by simp⟩
    by_cases hz : UInt8.ofNat p.totLen.toNat = 0
    · rw [hz, write_zero]
    · exact absurd (by rw [write_eq hz hw.rx.wPtr_lt hw.rx.rPtr_lt]) himport
  · exact absurd ⟨not_not.mp hcmd, hroom.2, fun hz => himport (p.import_refused hz _)⟩ hp
  · exact absurd ⟨not_not.mp hcmd, hroom.2, fun hz => himport (p.import_refused hz _)⟩ hp
  · exact ⟨rfl, rfl, rfl, by simp⟩

/-- A datagram that is stored goes to the dispatcher. -/
theorem udpServerRecvCb_stores {w : World} (hw : Sound w) {p : Pbuf} (hp : Stores w p)
    (env : Env) (addr : UInt32) (port : UInt16) :
    udpServerRecvCb env p addr port w =
      mqttSnSocketIncommCb env addr port p.cmd (w.stored p addr port) := by
  obtain ⟨q, hq⟩ := hw.buff
  have hlenth : UInt8.ofNat p.totLen.toNat ≠ 0 := fun hz => hp.2.2 (p.lenth_eq_zero.mp hz)
  have himport := write_eq hlenth hw.rx.wPtr_lt hw.rx.rPtr_lt
  have hbuff := (stored_bytes hq hp).1
  simp only [udpServerRecvCb]
  rw [if_neg (not_not.mpr hp.1), if_pos ⟨hw.rx.space_ne_zero, hp.2.1⟩,
    if_neg (by rw [himport]; exact not_not.mpr rfl), if_neg (not_not.mpr hbuff)]
  rfl

/-- The sender of a datagram is recorded when it is stored, and only then. -/
theorem udpServerRecvCb_gw {w : World} (hw : Sound w) (env : Env) (p : Pbuf) (addr : UInt32)
    (port : UInt16) : (udpServerRecvCb env p addr port w).2.gw =
      if Stores w p then { addr := addr, port := port } else w.gw := by
  by_cases hp : Stores w p
  · rw [if_pos hp, udpServerRecvCb_stores hw hp, mqttSnSocketIncommCb]
    cases getAPIFUN p.cmd <;> rfl
  · rw [if_neg hp]
    simp only [udpServerRecvCb]
    split_ifs with hcmd hroom himport hbuff
    · rfl
    · rfl
    · rfl
    · exact absurd ⟨not_not.mp hcmd, hroom.2, fun hz => himport (p.import_refused hz _)⟩ hp
    · rfl

/-- The timer that dispatches a frame to a handler. -/
def pressTimer (api : Api) : SwTimer Callback Arg :=
  { loop := timerModeSingle, timeOut := 100, prevTick := 0, runing := true
    timerCallback := .press api, arg := .gw, timerID := 0 }

/-- A stored datagram with a handler stays in both queues. Its handler is scheduled in a
free slot, or, without one, not at all. -/
theorem udpServerRecvCb_row {w : World} (hw : Sound w) {p : Pbuf} (hp : Stores w p) {api : Api}
    (hapi : getAPIFUN p.cmd = some api) (env : Env) (addr : UInt32) (port : UInt16) :
    (udpServerRecvCb env p addr port w).2.client.rxBuffer =
        (w.stored p addr port).client.rxBuffer ∧
      (udpServerRecvCb env p addr port w).2.buffBody = (w.stored p addr port).buffBody ∧
      ((w.systime.free = 0 ∧ (udpServerRecvCb env p addr port w).1 = .timerEmpty) ∨
        0 < w.systime.free ∧ ∃ num, w.systime.live num = none ∧
          (udpServerRecvCb env p addr port w).1 = .scheduled num ∧
          (udpServerRecvCb env p addr port w).2.systime.live =
            Function.update w.systime.live num (some (pressTimer api))) := by
  rw [udpServerRecvCb_stores hw hp, mqttSnSocketIncommCb, hapi]
  refine ⟨rfl, rfl, ?_⟩
  have hsame : (w.stored p addr port).systime = w.systime := rfl
  simp only [hsame]
  rcases live_timerAdd hw.timers_wf (env.tick 0) timerModeSingle 100 (Callback.press api) Arg.gw 0
    with ⟨hfull, hadd⟩ | ⟨num, hnum, hnone, hadd, -, hlive⟩
  · exact Or.inl ⟨hfull, by rw [hadd, if_pos rfl]⟩
  · right
    have hne : (some (num : ℤ)) ≠ some errorTimerAddEmpty := by
      simp only [errorTimerAddEmpty, ne_eq, Option.some.injEq]
      omega
    refine ⟨live_free_pos hw.timers_wf hnum hnone, num, hnone, ?_, hlive⟩
    rw [hadd, if_neg hne]
    rfl

/-- A handler that finds a whole frame gets its bytes and removes them. -/
theorem nextFrame_ok {w : World} {x : UInt8} {ls q : List UInt8} (env : Env)
    (hl : ImportRing w.client.rxBuffer (x :: ls)) (hq : BuffView w.buffBody q)
    (h1 : 1 ≤ x.toNat) (h2 : x.toNat ≤ q.length) :
    (nextFrame env w).freamlenth = x ∧ (nextFrame env w).result = errorNone ∧
      (nextFrame env w).inputdata = memcpy env.inputdata 0 (q.take x.toNat) ∧
      ImportRing (nextFrame env w).rxBuffer ls ∧
      BuffView (nextFrame env w).buffBody (q.drop x.toNat) := by
  obtain ⟨hx, hring⟩ := hl.read
  have hread := readBUFF_ok hq env.inputdata h1 h2
  simp only [nextFrame, hx]
  exact ⟨trivial, hread.1, by rw [hread.2.1, Option.getD_some], hring, hread.2.2⟩

/-- A handler that finds no whole frame still takes a length. -/
theorem nextFrame_short {w : World} {x : UInt8} {ls q : List UInt8} (env : Env)
    (hl : ImportRing w.client.rxBuffer (x :: ls)) (hq : BuffView w.buffBody q)
    (h : ¬(1 ≤ x.toNat ∧ x.toNat ≤ q.length)) :
    (nextFrame env w).result ≠ errorNone ∧ ImportRing (nextFrame env w).rxBuffer ls ∧
      BuffView (nextFrame env w).buffBody q := by
  obtain ⟨hx, hring⟩ := hl.read
  have hread := readBUFF_refused hq (some env.inputdata) h
  simp only [nextFrame, hx, hread.2]
  exact ⟨hread.1, hring, hq⟩

theorem nextFrame_empty {w : World} {q : List UInt8} (env : Env)
    (hl : ImportRing w.client.rxBuffer []) (hq : BuffView w.buffBody q) :
    (nextFrame env w).result ≠ errorNone ∧
      (nextFrame env w).rxBuffer = w.client.rxBuffer ∧ (nextFrame env w).buffBody = w.buffBody := by
  have hread := readBUFF_refused hq (some env.inputdata) (n := (0 : UInt8).toNat)
    fun h => absurd h.1 (by decide)
  simp only [nextFrame, read_empty hl, hread.2]
  exact ⟨hread.1, trivial, trivial⟩

theorem RxOk.avail_bounds {b : ImportBuff} (h : RxOk b) :
    0 ≤ getAvalidofpktinput b.wPtr b.rPtr b.ring ∧
      getAvalidofpktinput b.wPtr b.rPtr b.ring ≤ mqttSnImportMax := by
  have hr := h.rPtr_lt
  have hw := h.wPtr_lt
  unfold getAvalidofpktinput validLenth
  simp only [mqttSnImportMax] at *
  split_ifs <;> omega

/-- The length read is the oldest one, or zero where none is queued. -/
theorem RxOk.read_head {b : ImportBuff} (h : RxOk b) :
    (readClientImportindex b).1 = (queuedLenths b).headD 0 := by
  obtain ⟨hlow, hhigh⟩ := h.avail_bounds
  by_cases havail : 1 > toUint16 (getAvalidofpktinput b.wPtr b.rPtr b.ring)
  · have hzero : getAvalidofpktinput b.wPtr b.rPtr b.ring = 0 := by
      simp only [toUint16, mqttSnImportMax] at *
      omega
    unfold queuedLenths readClientImportindex
    rw [hzero]
    rfl
  · have hpos : ∃ n, (getAvalidofpktinput b.wPtr b.rPtr b.ring).toNat = n + 1 := by
      refine Nat.exists_eq_succ_of_ne_zero fun hz => havail ?_
      simp only [toUint16, mqttSnImportMax] at *
      omega
    obtain ⟨n, hn⟩ := hpos
    rw [read_eq h.rPtr_lt havail, queuedLenths, hn, window_succ _ _ _ _ h.rPtr_lt]
    rfl

/-- The frame that the next handler obtains: as many of the oldest bytes as the oldest
length says, if there are so many. -/
def World.headFrame (w : World) : Option (List UInt8) :=
  let lenth := (queuedLenths w.client.rxBuffer).headD 0
  if 1 ≤ lenth.toNat ∧ lenth.toNat ≤ (queued w.buffBody).length then
    some ((queued w.buffBody).take lenth.toNat)
  else none

theorem headFrame_length {w : World} {fr : List UInt8} (h : w.headFrame = some fr) :
    1 ≤ fr.length ∧ fr.length < 256 := by
  simp only [World.headFrame] at h
  split_ifs at h with hlen
  cases h
  rw [List.length_take_of_le hlen.2]
  exact ⟨hlen.1, UInt8.toNat_lt _⟩

theorem nextFrame_some {w : World} (hw : Sound w) (env : Env) {fr : List UInt8}
    (h : w.headFrame = some fr) :
    (nextFrame env w).result = errorNone ∧ (nextFrame env w).freamlenth = UInt8.ofNat fr.length ∧
      (nextFrame env w).inputdata = memcpy env.inputdata 0 fr ∧ 1 ≤ fr.length := by
  obtain ⟨q, hq⟩ := hw.buff
  have hhead := hw.rx.read_head
  simp only [World.headFrame] at h
  split_ifs at h with hlen
  cases h
  rw [hq.queued_eq] at hlen ⊢
  have hread := readBUFF_ok hq env.inputdata hlen.1 hlen.2
  have htake := List.length_take_of_le hlen.2
  simp only [nextFrame, hhead, htake, UInt8.ofNat_toNat]
  exact ⟨hread.1, trivial, by rw [hread.2.1, Option.getD_some], hlen.1⟩

theorem nextFrame_none {w : World} (hw : Sound w) (env : Env) (h : w.headFrame = none) :
    (nextFrame env w).result ≠ errorNone := by
  obtain ⟨q, hq⟩ := hw.buff
  have hhead := hw.rx.read_head
  simp only [World.headFrame] at h
  split_ifs at h with hlen
  rw [hq.queued_eq] at hlen
  simp only [nextFrame, hhead]
  exact (readBUFF_refused hq (some env.inputdata) hlen).1

/-- How a handler that reads a frame ends, by the frame that waits for it. -/
theorem press_frame {w w' : World} (hw : Sound w) {pre : World → World} {fits : UInt8 → Bool}
    {body : (ℕ → UInt8) → World → Except Fault World} {env : Env}
    (h : press pre fits body env w = .ok w') :
    (∃ fr, w.headFrame = some fr ∧ fits (UInt8.ofNat fr.length) = true ∧
        fr[0]? = some (UInt8.ofNat fr.length) ∧
        body (memcpy env.inputdata 0 fr) (pre (w.consumed (nextFrame env w))) = .ok w') ∨
      (∀ fr, w.headFrame = some fr → fits (UInt8.ofNat fr.length) = false) ∧
        w' = pre (w.consumed (nextFrame env w)) := by
  cases hhead : w.headFrame with
  | some fr =>
    obtain ⟨hres, hlen, hdata, hpos⟩ := nextFrame_some hw env hhead
    rcases press_ok h with ⟨-, hfits, hfirst, hbody⟩ | ⟨hno, hw'⟩
    · left
      rw [hlen] at hfits hfirst
      rw [hdata] at hfirst hbody
      refine ⟨fr, rfl, hfits, ?_, hbody⟩
      have hcopy := memcpy_inside env.inputdata 0 fr 0 (by omega)
      rw [Nat.zero_add] at hcopy
      rw [List.getElem?_eq_getElem (by omega), ← hcopy, hfirst]
    · right
      refine ⟨?_, hw'⟩
      rintro fr' ⟨⟩
      rw [hlen] at hno
      simpa [hres] using hno
  | none =>
    rcases press_ok h with ⟨hres, -⟩ | ⟨-, hw'⟩
    · exact absurd hres (nextFrame_none hw env hhead)
    · exact Or.inr ⟨by simp, hw'⟩

/-- The sum of a list of queued lengths. -/
def lenthSum (ls : List UInt8) : ℕ := (ls.map UInt8.toNat).sum

@[simp] theorem lenthSum_nil : lenthSum [] = 0 := rfl

@[simp] theorem lenthSum_cons (x : UInt8) (ls : List UInt8) :
    lenthSum (x :: ls) = x.toNat + lenthSum ls := by
  simp [lenthSum]

@[simp] theorem lenthSum_append (ls ms : List UInt8) :
    lenthSum (ls ++ ms) = lenthSum ls + lenthSum ms := by
  simp [lenthSum]

theorem le_lenthSum {ls : List UInt8} (h : ∀ x ∈ ls, x ≠ 0) : ls.length ≤ lenthSum ls := by
  induction ls with
  | nil => exact le_rfl
  | cons x ls ih =>
    have hx : x.toNat ≠ 0 := fun hz => h x (by simp) (UInt8.toNat_inj.mp hz)
    have hls := ih fun y hy => h y (List.mem_cons_of_mem x hy)
    rw [lenthSum_cons, List.length_cons]
    omega

end MqttSnClient
