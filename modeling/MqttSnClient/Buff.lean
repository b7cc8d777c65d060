import MqttSnClient.Lib.Ring
import MqttSnClient.Lib.Fifo

namespace MqttSnClient
open Memory

def maxBuffSize : ℕ := 512
def errorNone : ℤ := 0
def errorOverFlowWrite : ℤ := -1
def errorOverFlowRead : ℤ := -2
def errorNotInitBuff : ℤ := -3
def errorDataIllegalOperat : ℤ := -4
def initBuffed : UInt8 := 1

/-- `loop_buff_t`. The cells past `maxBuffSize` are not part of the array. -/
structure LoopBuff where
  rPtr : ℕ
  wPtr : ℕ
  ring : UInt8
  buffInited : UInt8
  buff : ℕ → UInt8

/-- The value an `int` takes when it is stored in a `uint16_t`. -/
def toUint16 (x : ℤ) : ℕ := (x % 65536).toNat

/-- The macro `GetBuff_Valid_DataLenth`. -/
def getBuffValidDataLenth (wPtr rPtr : ℕ) (ring : UInt8) : ℤ :=
  validLenth maxBuffSize wPtr rPtr ring

def getBuffFreeDataLenth (wPtr rPtr : ℕ) (ring : UInt8) : ℤ :=
  maxBuffSize - getBuffValidDataLenth wPtr rPtr ring

def buffInit : LoopBuff :=
  { rPtr := 0, wPtr := 0, ring := 0, buffInited := initBuffed, buff := fun _ => 0 }

def buffSpaceget (b : LoopBuff) : ℕ := toUint16 (getBuffFreeDataLenth b.wPtr b.rPtr b.ring)

/-- `WriteBUFF`; `none` is the null pointer. -/
def writeBUFF (data : Option (List UInt8)) (lenth : ℕ) (b : LoopBuff) : ℤ × LoopBuff :=
  if b.buffInited ≠ initBuffed then (errorNotInitBuff, b) else
  match data with
  | none => (errorDataIllegalOperat, b)
  | some data =>
    if lenth = 0 then (errorDataIllegalOperat, b) else
    let spaceAvail := toUint16 (getBuffFreeDataLenth b.wPtr b.rPtr b.ring)
    if lenth > spaceAvail then (errorOverFlowWrite, b)
    else if b.wPtr ≥ b.rPtr then
      if maxBuffSize - b.wPtr ≥ lenth then
        let buff := memcpy b.buff b.wPtr (data.take lenth)
        let wPtr := (b.wPtr + lenth) % 65536
        if wPtr = maxBuffSize then
          (errorNone, { b with buff := buff, wPtr := 0, ring := if 0 = b.rPtr then 1 else b.ring })
        else (errorNone, { b with buff := buff, wPtr := wPtr })
      else
        -- the block is cut in two at the end of the array
        let lastptr := maxBuffSize - b.wPtr
        let buff := memcpy b.buff b.wPtr (data.take lastptr)
        let buff := memcpy buff 0 ((data.drop lastptr).take (lenth - lastptr))
        let wPtr := lenth - lastptr
        (errorNone,
          { b with buff := buff, wPtr := wPtr, ring := if wPtr = b.rPtr then 1 else b.ring })
    else
      let buff := memcpy b.buff b.wPtr (data.take lenth)
      let wPtr := (b.wPtr + lenth) % 65536
      (errorNone, { b with buff := buff, wPtr := wPtr, ring := if wPtr = b.rPtr then 1 else b.ring })

/-- `ReadBUFF` into the array `data`; `none` is the null pointer. -/
def readBUFF (data : Option (ℕ → UInt8)) (lenth : ℕ) (b : LoopBuff) :
    ℤ × Option (ℕ → UInt8) × LoopBuff :=
  if b.buffInited ≠ initBuffed then (errorNotInitBuff, data, b) else
  match data with
  | none => (errorDataIllegalOperat, none, b)
  | some data =>
    if lenth = 0 then (errorDataIllegalOperat, some data, b) else
    let availDataLenth := toUint16 (getBuffValidDataLenth b.wPtr b.rPtr b.ring)
    if availDataLenth < lenth then (errorOverFlowRead, some data, b) else
    let b := { b with ring := if b.ring = 1 then 0 else b.ring }
    if b.wPtr > b.rPtr then
      (errorNone, some (memcpy data 0 (slice b.buff b.rPtr lenth)),
        { b with rPtr := (b.rPtr + lenth) % 65536 })
    else if maxBuffSize - b.rPtr ≥ lenth then
      let rPtr := (b.rPtr + lenth) % 65536
      (errorNone, some (memcpy data 0 (slice b.buff b.rPtr lenth)),
        { b with rPtr := if rPtr = maxBuffSize then 0 else rPtr })
    else
      let lastptr := maxBuffSize - b.rPtr
      let data := memcpy data 0 (slice b.buff b.rPtr lastptr)
      (errorNone, some (memcpy data lastptr (slice b.buff 0 (lenth - lastptr))),
        { b with rPtr := lenth - lastptr })

/-- The bytes queued, oldest first. -/
def queued (b : LoopBuff) : List UInt8 :=
  window b.buff maxBuffSize b.rPtr (getBuffValidDataLenth b.wPtr b.rPtr b.ring).toNat

/-- The ring is initialised and holds the queue `q`. -/
structure BuffView (b : LoopBuff) (q : List UInt8) : Prop
    extends RingView maxBuffSize b.rPtr b.wPtr b.ring b.buff q where
  inited : b.buffInited = initBuffed

theorem BuffView.free {b : LoopBuff} {q : List UInt8} (h : BuffView b q) :
    toUint16 (getBuffFreeDataLenth b.wPtr b.rPtr b.ring) = maxBuffSize - q.length := by
  have hq := h.bound
  unfold getBuffFreeDataLenth toUint16
  rw [show getBuffValidDataLenth b.wPtr b.rPtr b.ring = q.length from h.valid]
  simp only [maxBuffSize] at *
  omega

theorem BuffView.avail {b : LoopBuff} {q : List UInt8} (h : BuffView b q) :
    toUint16 (getBuffValidDataLenth b.wPtr b.rPtr b.ring) = q.length := by
  have hq := h.bound
  unfold toUint16
  rw [show getBuffValidDataLenth b.wPtr b.rPtr b.ring = q.length from h.valid]
  simp only [maxBuffSize] at *
  omega

theorem BuffView.queued_eq {b : LoopBuff} {q : List UInt8} (h : BuffView b q) : queued b = q := by
  unfold queued
  rw [show getBuffValidDataLenth b.wPtr b.rPtr b.ring = q.length from h.valid,
    Int.toNat_natCast, h.cells_eq]

theorem buffInit_view : BuffView buffInit [] :=
  ⟨⟨by decide, by decide, rfl, rfl, rfl⟩, rfl⟩

theorem BuffView.space {b : LoopBuff} {q : List UInt8} (h : BuffView b q) :
    buffSpaceget b = maxBuffSize - q.length := h.free

/-- A block that fits is appended, in one copy or in two. -/
theorem writeBUFF_ok {b : LoopBuff} {q data : List UInt8} {n : ℕ} (h : BuffView b q)
    (hd : n ≤ data.length) (h1 : 1 ≤ n) (h2 : n ≤ maxBuffSize - q.length) :
    (writeBUFF (some data) n b).1 = errorNone ∧
      BuffView (writeBUFF (some data) n b).2 (q ++ data.take n) := by
  have hr := h.rPtr_lt
  have hw := h.wPtr_eq
  have hq := h.bound
  have htake : (data.take n).length = n := by simp [hd]
  have hfit : q.length + (data.take n).length ≤ maxBuffSize := by omega
  have hring : b.ring = 0 := by
    rw [h.ring_eq, if_neg (by omega)]
  have hcopy := h.copy (data.take n) hfit
  have hinit : ¬b.buffInited ≠ initBuffed := not_not_intro h.inited
  have hnz : ¬n = 0 := by omega
  have hspace : ¬n > toUint16 (getBuffFreeDataLenth b.wPtr b.rPtr b.ring) := by
    rw [h.free]
    omega
  unfold writeBUFF
  simp only [hinit, if_false, hnz, hspace]
  by_cases hwr : b.wPtr ≥ b.rPtr
  · rw [if_pos hwr]
    by_cases hstraight : maxBuffSize - b.wPtr ≥ n
    · have hno : (b.wPtr + n) % 65536 = b.wPtr + n := by
        simp only [maxBuffSize] at *
        omega
      rw [if_pos hstraight, hno]
      by_cases hend : b.wPtr + n = maxBuffSize
      -- the copy ends at the end of the array, so the writer wraps
      · rw [if_pos hend]
        refine ⟨rfl, h.append hfit ?_ ?_ (hcopy (by omega)), h.inited⟩ <;>
          simp only [htake, hring, maxBuffSize] at *
        · omega
        · split_ifs <;> first | rfl | omega
      · rw [if_neg hend]
        refine ⟨rfl, h.append hfit ?_ ?_ (hcopy (by omega)), h.inited⟩ <;>
          simp only [htake, hring, maxBuffSize] at *
        · omega
        · rw [if_neg (by omega)]
    -- the copy is cut in two
    · have hsplit := h.copy_split (data.take n) (maxBuffSize - b.wPtr) hfit (by omega)
        (by simp only [maxBuffSize] at *; omega)
      rw [List.take_take, List.drop_take, Nat.min_eq_left (by omega)] at hsplit
      rw [if_neg hstraight]
      refine ⟨rfl, h.append hfit ?_ ?_ hsplit, h.inited⟩ <;>
        simp only [htake, hring, maxBuffSize] at *
      · omega
      · split_ifs <;> first | rfl | omega
  -- the writer is behind the reader, so the free cells are in one piece
  · have hno : (b.wPtr + n) % 65536 = b.wPtr + n := by
      simp only [maxBuffSize] at *
      omega
    have hin : b.wPtr + (data.take n).length ≤ maxBuffSize := by
      simp only [maxBuffSize] at *
      omega
    rw [if_neg hwr, hno]
    refine ⟨rfl, h.append hfit ?_ ?_ (hcopy hin), h.inited⟩ <;>
      simp only [htake, hring, maxBuffSize] at *
    · omega
    · split_ifs <;> first | rfl | omega

theorem writeBUFF_refused {b : LoopBuff} {q : List UInt8} {n : ℕ} (h : BuffView b q)
    (data : Option (List UInt8)) (hn : ¬(1 ≤ n ∧ n ≤ maxBuffSize - q.length)) :
    (writeBUFF data n b).1 ≠ errorNone ∧ (writeBUFF data n b).2 = b := by
  have hinit : ¬b.buffInited ≠ initBuffed := not_not_intro h.inited
  unfold writeBUFF
  rw [if_neg hinit]
  cases data with
  | none => simp [errorDataIllegalOperat, errorNone]
  | some data =>
    by_cases hnz : n = 0
    · simp [hnz, errorDataIllegalOperat, errorNone]
    · have hspace : n > maxBuffSize - q.length := by omega
      simp [hnz, h.free, hspace, errorOverFlowWrite, errorNone]

theorem memcpy_twice (f : ℕ → UInt8) (xs ys : List UInt8) :
    memcpy (memcpy f 0 xs) xs.length ys = memcpy f 0 (xs ++ ys) := by
  funext i
  by_cases hi : xs.length ≤ i
  · simp only [memcpy, hi, if_true, Nat.zero_le, Nat.sub_zero, List.getElem?_append_right hi,
      List.getElem?_eq_none hi, Option.getD_none]
  · have hlt : i < xs.length := by omega
    simp only [memcpy, hi, if_false, Nat.zero_le, if_true, Nat.sub_zero,
      List.getElem?_append_left hlt]

/-- The `n` oldest bytes are delivered and removed. -/
theorem readBUFF_ok {b : LoopBuff} {q : List UInt8} {n : ℕ} (h : BuffView b q)
    (data : ℕ → UInt8) (h1 : 1 ≤ n) (h2 : n ≤ q.length) :
    (readBUFF (some data) n b).1 = errorNone ∧
      (readBUFF (some data) n b).2.1 = some (memcpy data 0 (q.take n)) ∧
      BuffView (readBUFF (some data) n b).2.2 (q.drop n) := by
  have hr := h.rPtr_lt
  have hw := h.wPtr_eq
  have hq := h.bound
  have hold := h.oldest h2
  have hinit : ¬b.buffInited ≠ initBuffed := not_not_intro h.inited
  have hnz : ¬n = 0 := by omega
  have havail : ¬toUint16 (getBuffValidDataLenth b.wPtr b.rPtr b.ring) < n := by
    rw [h.avail]
    omega
  have hring : (if b.ring = 1 then 0 else b.ring) =
      if q.length - n = maxBuffSize then (1 : UInt8) else 0 := by
    rw [h.ring_eq, if_neg (show ¬q.length - n = maxBuffSize by omega)]
    split_ifs <;> simp_all
  have hno : b.rPtr + n ≤ maxBuffSize → (b.rPtr + n) % 65536 = b.rPtr + n := by
    simp only [maxBuffSize] at *
    omega
  unfold readBUFF
  simp only [hinit, if_false, hnz, havail]
  by_cases hwr : b.wPtr > b.rPtr
  · have hin : b.rPtr + n < maxBuffSize := by
      simp only [maxBuffSize] at *
      omega
    rw [if_pos hwr, hno hin.le, ← window_eq_slice b.buff maxBuffSize b.rPtr n hin.le, hold]
    exact ⟨rfl, rfl, h.drop h2 (Nat.mod_eq_of_lt hin).symm hring, h.inited⟩
  · rw [if_neg hwr]
    by_cases hstraight : maxBuffSize - b.rPtr ≥ n
    · rw [if_pos hstraight, hno (by omega),
        ← window_eq_slice b.buff maxBuffSize b.rPtr n (by omega), hold]
      refine ⟨rfl, rfl, h.drop h2 ?_ hring, h.inited⟩
      by_cases hend : b.rPtr + n = maxBuffSize
      · rw [if_pos hend, hend, Nat.mod_self]
      · rw [if_neg hend, Nat.mod_eq_of_lt (by omega)]
    -- the two halves lie at the end and at the start of the array
    · rw [if_neg hstraight]
      have hlast : n = (maxBuffSize - b.rPtr) + (n - (maxBuffSize - b.rPtr)) := by omega
      have hhalves := window_add b.buff maxBuffSize b.rPtr (maxBuffSize - b.rPtr)
        (n - (maxBuffSize - b.rPtr))
      rw [← hlast, hold, Nat.add_sub_cancel' hr.le, Nat.mod_self,
        window_eq_slice b.buff maxBuffSize b.rPtr _ (by omega),
        window_eq_slice b.buff maxBuffSize 0 _ (by omega)] at hhalves
      have htwice := memcpy_twice data (slice b.buff b.rPtr (maxBuffSize - b.rPtr))
        (slice b.buff 0 (n - (maxBuffSize - b.rPtr)))
      rw [slice_length, ← hhalves] at htwice
      refine ⟨rfl, congrArg some htwice, h.drop h2 ?_ hring, h.inited⟩
      simp only [maxBuffSize] at *
      omega

theorem readBUFF_refused {b : LoopBuff} {q : List UInt8} {n : ℕ} (h : BuffView b q)
    (data : Option (ℕ → UInt8)) (hn : ¬(1 ≤ n ∧ n ≤ q.length)) :
    (readBUFF data n b).1 ≠ errorNone ∧ (readBUFF data n b).2 = (data, b) := by
  have hinit : ¬b.buffInited ≠ initBuffed := not_not_intro h.inited
  unfold readBUFF
  rw [if_neg hinit]
  cases data with
  | none => simp [errorDataIllegalOperat, errorNone]
  | some data =>
    by_cases hnz : n = 0
    · simp [hnz, errorDataIllegalOperat, errorNone]
    · have havail : q.length < n := by omega
      simp [hnz, h.avail, havail, errorOverFlowRead, errorNone]

/-- A call of the module with its arguments: `data` holds at least `lenth` bytes. -/
inductive BuffCall
  | write (data : List UInt8) (lenth : UInt16) (enough : lenth.toNat ≤ data.length)
  | read (data : ℕ → UInt8) (lenth : UInt16)

/-- What the caller of the byte queue asks for. -/
def BuffCall.op : BuffCall → Fifo.Op UInt8
  | .write data lenth _ => .push (data.take lenth.toNat)
  | .read _ lenth => .pop lenth.toNat

/-- The call on the ring, with the bytes found in the caller's array after a read. -/
def buffStep (b : LoopBuff) : BuffCall → Fifo.Reply UInt8 × LoopBuff
  | .write data lenth _ =>
    let r := writeBUFF (some data) lenth.toNat b
    (if r.1 = errorNone then .pushed else .refused, r.2)
  | .read data lenth =>
    let r := readBUFF (some data) lenth.toNat b
    (if r.1 = errorNone then .popped (slice (r.2.1.getD data) 0 lenth.toNat) else .refused, r.2.2)

theorem buffStep_refused {b : LoopBuff} {q : List UInt8} (h : BuffView b q) (c : BuffCall)
    (hc : (buffStep b c).1 = .refused) : (buffStep b c).2 = b := by
  cases c with
  | write data lenth enough =>
    by_cases hn : 1 ≤ lenth.toNat ∧ lenth.toNat ≤ maxBuffSize - q.length
    · simp [buffStep, (writeBUFF_ok h enough hn.1 hn.2).1] at hc
    · exact (writeBUFF_refused h (some data) hn).2
  | read data lenth =>
    by_cases hn : 1 ≤ lenth.toNat ∧ lenth.toNat ≤ q.length
    · simp [buffStep, (readBUFF_ok h data hn.1 hn.2).1] at hc
    · exact congrArg Prod.snd (readBUFF_refused h (some data) hn).2

/-- One call on the ring answers as the queue does and keeps the two together. -/
theorem buffStep_simulates (b : LoopBuff) (q : Fifo.Queue UInt8 maxBuffSize) (c : BuffCall)
    (h : BuffView b q.items) :
    (buffStep b c).1 = (q.step c.op).1 ∧ BuffView (buffStep b c).2 (q.step c.op).2.items := by
  cases c with
  | write data lenth enough =>
    have hlen : (data.take lenth.toNat).length = lenth.toNat := by simp [enough]
    by_cases hn : 1 ≤ lenth.toNat ∧ lenth.toNat ≤ maxBuffSize - q.items.length
    · obtain ⟨hret, hview⟩ := writeBUFF_ok h enough hn.1 hn.2
      obtain ⟨hreply, hitems⟩ := q.step_push_ok (data.take lenth.toNat)
        (by rw [hlen]; exact hn.1) (by rw [hlen]; exact hn.2)
      simp only [buffStep, BuffCall.op, hret, if_true, hreply, hitems]
      exact ⟨trivial, hview⟩
    · obtain ⟨hret, hsame⟩ := writeBUFF_refused h (some data) hn
      have hspec := q.step_push_refused (data.take lenth.toNat) (by rw [hlen]; exact hn)
      simp only [buffStep, BuffCall.op, hret, if_false, hsame, hspec]
      exact ⟨trivial, h⟩
  | read data lenth =>
    by_cases hn : 1 ≤ lenth.toNat ∧ lenth.toNat ≤ q.items.length
    · obtain ⟨hret, hdata, hview⟩ := readBUFF_ok h data hn.1 hn.2
      obtain ⟨hreply, hitems⟩ := q.step_pop_ok lenth.toNat hn.1 hn.2
      have hbytes := slice_memcpy data 0 (q.items.take lenth.toNat)
      rw [List.length_take, Nat.min_eq_left hn.2] at hbytes
      simp only [buffStep, BuffCall.op, hret, if_true, hdata, Option.getD_some, hbytes, hreply,
        hitems]
      exact ⟨trivial, hview⟩
    · obtain ⟨hret, hsame⟩ := readBUFF_refused h (some data) hn
      have hspec := q.step_pop_refused lenth.toNat hn
      simp only [buffStep, BuffCall.op, hret, if_false, hsame, hspec]
      exact ⟨trivial, h⟩

/-- Over every list of calls the module answers exactly as a byte queue of
capacity `maxBuffSize`, and a refused call leaves the ring as it was. -/
theorem buff_refines_fifo (calls : List BuffCall) :
    let b := Fifo.after buffStep buffInit calls
    let q := Fifo.after Fifo.Queue.step (Fifo.Queue.empty : Fifo.Queue UInt8 maxBuffSize)
      (calls.map BuffCall.op)
    Fifo.replies buffStep buffInit calls =
        Fifo.replies Fifo.Queue.step (Fifo.Queue.empty : Fifo.Queue UInt8 maxBuffSize)
          (calls.map BuffCall.op) ∧
      queued b = q.items ∧ buffSpaceget b = maxBuffSize - q.items.length ∧
      b.rPtr < maxBuffSize ∧ b.wPtr < maxBuffSize ∧
      (b.ring = 1 ↔ q.items.length = maxBuffSize) ∧
      ∀ c, (buffStep b c).1 = .refused → (buffStep b c).2 = b := by
  intro b q
  have hinit : BuffView buffInit (Fifo.Queue.empty : Fifo.Queue UInt8 maxBuffSize).items :=
    buffInit_view
  obtain ⟨hreplies, hview⟩ := Fifo.simulation_map (g := Fifo.Queue.step) (C := fun _ _ => True)
    (R := fun b (q : Fifo.Queue UInt8 maxBuffSize) => BuffView b q.items)
    (fun b q c h _ => buffStep_simulates b q c h) hinit
    (Fifo.allCalls_of_forall (fun _ _ => trivial) _ calls)
  exact ⟨hreplies, hview.queued_eq, hview.space, hview.rPtr_lt, hview.wPtr_lt, hview.ring_iff,
    fun c hc => buffStep_refused hview c hc⟩

end MqttSnClient
