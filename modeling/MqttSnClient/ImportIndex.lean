import MqttSnClient.Buff

/-! The queue of datagram lengths, `rx_buffer`. Its room is computed with the
macro of the byte ring, so it never reports to be full. -/
namespace MqttSnClient
open Memory

def mqttSnImportMax : ℕ := 10

/-- `Import_buff_t`. -/
structure ImportBuff where
  rPtr : ℕ
  wPtr : ℕ
  ring : UInt8
  buff : ℕ → UInt8

def importZero : ImportBuff := { rPtr := 0, wPtr := 0, ring := 0, buff := fun _ => 0 }

/-- The macro `GetAvalidofpktinput`. -/
def getAvalidofpktinput (wPtr rPtr : ℕ) (ring : UInt8) : ℤ :=
  validLenth mqttSnImportMax wPtr rPtr ring

/-- The macro `GetSpaceofpktinput`: it subtracts `GetBuff_Valid_DataLenth`, whose
size is that of the byte ring. -/
def getSpaceofpktinput (wPtr rPtr : ℕ) (ring : UInt8) : ℤ :=
  mqttSnImportMax - getBuffValidDataLenth wPtr rPtr ring

/-- `WriteClientImportindex`. -/
def writeClientImportindex (data : UInt8) (b : ImportBuff) : UInt8 × ImportBuff :=
  if data = 0 then (1, b) else
  let spaceAvail := toUint16 (getSpaceofpktinput b.wPtr b.rPtr b.ring)
  if 1 > spaceAvail then (1, b) else
  let buff := memcpy b.buff b.wPtr [data]
  let wPtr := (b.wPtr + 1) % 256
  let wPtr := if wPtr = mqttSnImportMax then 0 else wPtr
  (0, { b with buff := buff, wPtr := wPtr, ring := if wPtr = b.rPtr then 1 else b.ring })

/-- `ReadClientImportindex`. -/
def readClientImportindex (b : ImportBuff) : UInt8 × ImportBuff :=
  let dataAvail := toUint16 (getAvalidofpktinput b.wPtr b.rPtr b.ring)
  if 1 > dataAvail then (0, b) else
  let data := b.buff b.rPtr
  let rPtr := (b.rPtr + 1) % 256
  let rPtr := if rPtr = mqttSnImportMax then 0 else rPtr
  (data, { b with rPtr := rPtr, ring := if b.ring ≠ 0 then 0 else b.ring })

/-- The lengths queued, oldest first. -/
def queuedLenths (b : ImportBuff) : List UInt8 :=
  window b.buff mqttSnImportMax b.rPtr (getAvalidofpktinput b.wPtr b.rPtr b.ring).toNat

/-- The array holds the lengths `q`. -/
structure ImportRing (b : ImportBuff) (q : List UInt8) : Prop
    extends RingView mqttSnImportMax b.rPtr b.wPtr b.ring b.buff q

/-- The array holds the lengths `q`, none of them zero. -/
structure ImportView (b : ImportBuff) (q : List UInt8) : Prop extends ImportRing b q where
  nonzero : ∀ x ∈ q, x ≠ 0

theorem importZero_view : ImportView importZero [] :=
  ⟨⟨⟨by decide, by decide, rfl, rfl, rfl⟩⟩, by simp⟩

theorem ImportRing.avail {b : ImportBuff} {q : List UInt8} (h : ImportRing b q) :
    getAvalidofpktinput b.wPtr b.rPtr b.ring = q.length := h.valid

theorem ImportRing.queued_eq {b : ImportBuff} {q : List UInt8} (h : ImportRing b q) :
    queuedLenths b = q := by
  unfold queuedLenths
  rw [h.avail, Int.toNat_natCast, h.cells_eq]

/-- Whatever is queued, the room computed is not zero: the subtraction of a value
up to 512 from 10 is stored in an unsigned type. -/
theorem space_pos {wPtr rPtr : ℕ} (ring : UInt8) (hw : wPtr < mqttSnImportMax)
    (hr : rPtr < mqttSnImportMax) : ¬1 > toUint16 (getSpaceofpktinput wPtr rPtr ring) := by
  unfold getSpaceofpktinput getBuffValidDataLenth validLenth toUint16
  simp only [mqttSnImportMax, maxBuffSize] at *
  split_ifs <;> omega

/-- Both pointers step round the array. -/
theorem step_pointer {p : ℕ} (hp : p < mqttSnImportMax) :
    (if (p + 1) % 256 = mqttSnImportMax then 0 else (p + 1) % 256) = (p + 1) % mqttSnImportMax := by
  by_cases hend : (p + 1) % 256 = mqttSnImportMax
  · rw [if_pos hend]
    simp only [mqttSnImportMax] at *
    omega
  · rw [if_neg hend]
    simp only [mqttSnImportMax] at *
    omega

theorem write_zero (b : ImportBuff) : writeClientImportindex 0 b = (1, b) := rfl

theorem write_eq {b : ImportBuff} {data : UInt8} (hd : data ≠ 0) (hw : b.wPtr < mqttSnImportMax)
    (hr : b.rPtr < mqttSnImportMax) :
    writeClientImportindex data b =
      (0, { b with
        buff := memcpy b.buff b.wPtr [data]
        wPtr := (b.wPtr + 1) % mqttSnImportMax
        ring := if (b.wPtr + 1) % mqttSnImportMax = b.rPtr then 1 else b.ring }) := by
  unfold writeClientImportindex
  rw [if_neg hd]
  simp only [if_neg (space_pos b.ring hw hr), step_pointer hw]

theorem ImportRing.write {b : ImportBuff} {q : List UInt8} {data : UInt8} (h : ImportRing b q)
    (hd : data ≠ 0) (hq : q.length < mqttSnImportMax) :
    (writeClientImportindex data b).1 = 0 ∧
      ImportRing (writeClientImportindex data b).2 (q ++ [data]) := by
  have hr := h.rPtr_lt
  have hw := h.wPtr_eq
  have hwlt := h.wPtr_lt
  have hring : b.ring = 0 := by
    rw [h.ring_eq, if_neg (by omega)]
  have hcopy := h.copy [data] hq (by simpa using hwlt)
  rw [write_eq hd hwlt hr]
  refine ⟨rfl, ⟨h.append hq ?_ ?_ hcopy⟩⟩
  · rw [hw, Nat.mod_add_mod, List.length_singleton, Nat.add_assoc]
  · have hfull : (b.wPtr + 1) % mqttSnImportMax = b.rPtr ↔ q.length + 1 = mqttSnImportMax := by
      simp only [mqttSnImportMax] at *
      omega
    simp only [hring, List.length_singleton, hfull]

theorem write_ok {b : ImportBuff} {q : List UInt8} {data : UInt8} (h : ImportView b q)
    (hd : data ≠ 0) (hq : q.length < mqttSnImportMax) :
    (writeClientImportindex data b).1 = 0 ∧
      ImportView (writeClientImportindex data b).2 (q ++ [data]) := by
  obtain ⟨hret, hring⟩ := h.write hd hq
  refine ⟨hret, hring, fun x hx => ?_⟩
  rcases List.mem_append.mp hx with hx | hx
  · exact h.nonzero x hx
  · rw [List.mem_singleton.mp hx]
    exact hd

theorem read_eq {b : ImportBuff} (hr : b.rPtr < mqttSnImportMax)
    (h : ¬1 > toUint16 (getAvalidofpktinput b.wPtr b.rPtr b.ring)) :
    readClientImportindex b =
      (b.buff b.rPtr, { b with rPtr := (b.rPtr + 1) % mqttSnImportMax, ring := 0 }) := by
  have hring : (if b.ring ≠ 0 then 0 else b.ring) = 0 := by
    split_ifs with hz
    · rfl
    · exact not_not.mp hz
  unfold readClientImportindex
  simp only [if_neg h, step_pointer hr, hring]

theorem ImportRing.read {b : ImportBuff} {x : UInt8} {q : List UInt8}
    (h : ImportRing b (x :: q)) :
    (readClientImportindex b).1 = x ∧ ImportRing (readClientImportindex b).2 q := by
  have hr := h.rPtr_lt
  have hb := h.bound
  have hhead : b.buff b.rPtr = x := by
    have hcells := h.cells_eq
    rw [List.length_cons, window_succ _ _ _ _ hr] at hcells
    exact (List.cons.inj hcells).1
  have havail : ¬1 > toUint16 (getAvalidofpktinput b.wPtr b.rPtr b.ring) := by
    rw [h.avail]
    simp only [toUint16, List.length_cons, mqttSnImportMax] at *
    omega
  rw [read_eq hr havail]
  refine ⟨hhead, ⟨h.drop (n := 1) (by simp) rfl ?_⟩⟩
  rw [List.length_cons, if_neg]
  simp only [List.length_cons] at hb
  omega

theorem read_ok {b : ImportBuff} {x : UInt8} {q : List UInt8} (h : ImportView b (x :: q)) :
    (readClientImportindex b).1 = x ∧ ImportView (readClientImportindex b).2 q :=
  ⟨h.read.1, h.read.2, fun y hy => h.nonzero y (List.mem_cons_of_mem x hy)⟩

theorem read_empty {b : ImportBuff} (h : ImportRing b []) : readClientImportindex b = (0, b) := by
  have havail : 1 > toUint16 (getAvalidofpktinput b.wPtr b.rPtr b.ring) := by
    rw [h.avail]
    decide
  unfold readClientImportindex
  simp only [if_pos havail]

theorem avail_set (wPtr rPtr : ℕ) : ¬1 > toUint16 (getAvalidofpktinput wPtr rPtr 1) := by
  simp [getAvalidofpktinput, validLenth, toUint16, mqttSnImportMax]

/-- A length written to a full queue replaces the oldest one, and the next read empties
the queue, since both pointers have moved. -/
theorem ImportRing.overrun {b : ImportBuff} {q : List UInt8} {data : UInt8}
    (h : ImportRing b q) (hd : data ≠ 0) (hfull : q.length = mqttSnImportMax) :
    queuedLenths (writeClientImportindex data b).2 = data :: q.tail ∧
      (readClientImportindex (writeClientImportindex data b).2).1 = data ∧
      queuedLenths (readClientImportindex (writeClientImportindex data b).2).2 = [] := by
  have hr := h.rPtr_lt
  have hring : b.ring = 1 := h.ring_iff.mpr hfull
  have hw : b.wPtr = b.rPtr := by
    rw [h.wPtr_eq, hfull, Nat.add_mod_right, Nat.mod_eq_of_lt hr]
  have hwrite : (writeClientImportindex data b).2 = { b with
      buff := memcpy b.buff b.rPtr [data], wPtr := (b.rPtr + 1) % mqttSnImportMax, ring := 1 } := by
    rw [write_eq hd h.wPtr_lt hr, hw, hring, ite_self]
  have hhead : memcpy b.buff b.rPtr [data] b.rPtr = data := by
    simpa using memcpy_inside b.buff b.rPtr [data] 0 (by simp)
  have htail : window (memcpy b.buff b.rPtr [data]) mqttSnImportMax
      ((b.rPtr + 1) % mqttSnImportMax) 9 = q.tail := by
    have hcells : window b.buff mqttSnImportMax b.rPtr (9 + 1) = q := by
      have hten := h.cells_eq
      rw [hfull] at hten
      exact hten
    rw [window_succ _ _ _ _ hr] at hcells
    rw [← hcells, List.tail_cons]
    apply window_congr
    intro i hi
    apply memcpy_outside
    simp only [mqttSnImportMax, List.length_singleton] at *
    omega
  have hread := read_eq (b := { b with
    buff := memcpy b.buff b.rPtr [data], wPtr := (b.rPtr + 1) % mqttSnImportMax, ring := 1 })
    hr (avail_set _ _)
  rw [hwrite]
  refine ⟨?_, ?_, ?_⟩
  · calc queuedLenths { b with
          buff := memcpy b.buff b.rPtr [data], wPtr := (b.rPtr + 1) % mqttSnImportMax, ring := 1 }
        = window (memcpy b.buff b.rPtr [data]) mqttSnImportMax b.rPtr (9 + 1) := rfl
      _ = data :: q.tail := by rw [window_succ _ _ _ _ hr, hhead, htail]
  · rw [hread]
    exact hhead
  · rw [hread]
    unfold queuedLenths getAvalidofpktinput validLenth
    simp

/-- A call of the pair; a length of a stored datagram is not zero. -/
inductive ImportCall
  | write (len : UInt8) (pos : len ≠ 0)
  | read

def ImportCall.op : ImportCall → Fifo.Op UInt8
  | .write len _ => .push [len]
  | .read => .pop 1

def importStep (b : ImportBuff) : ImportCall → Fifo.Reply UInt8 × ImportBuff
  | .write len _ =>
    let r := writeClientImportindex len b
    (if r.1 = 0 then .pushed else .refused, r.2)
  | .read =>
    let r := readClientImportindex b
    (if r.1 = 0 then .refused else .popped [r.1], r.2)

/-- A write is made only when the queue has room. -/
def hasRoom (q : Fifo.Queue UInt8 mqttSnImportMax) : ImportCall → Prop
  | .write _ _ => q.items.length < mqttSnImportMax
  | .read => True

theorem importStep_simulates (b : ImportBuff) (q : Fifo.Queue UInt8 mqttSnImportMax)
    (c : ImportCall) (h : ImportView b q.items) (hc : hasRoom q c) :
    (importStep b c).1 = (q.step c.op).1 ∧ ImportView (importStep b c).2 (q.step c.op).2.items := by
  cases c with
  | write len pos =>
    have hroom : q.items.length < mqttSnImportMax := hc
    obtain ⟨hret, hview⟩ := write_ok h pos hroom
    obtain ⟨hreply, hitems⟩ := q.step_push_ok [len] (by simp)
      (by simp only [Fifo.Queue.space, List.length_singleton]; omega)
    simp only [importStep, ImportCall.op, hret, if_true, hreply, hitems]
    exact ⟨trivial, hview⟩
  | read =>
    cases hq : q.items with
    | nil =>
      have hread := read_empty (hq ▸ h).toImportRing
      have hspec := q.step_pop_refused 1 (by simp [hq])
      simp only [importStep, ImportCall.op, hread, if_true, hspec]
      exact ⟨trivial, h⟩
    | cons x xs =>
      have hx : x ≠ 0 := h.nonzero x (by simp [hq])
      obtain ⟨hret, hview⟩ := read_ok (hq ▸ h)
      obtain ⟨hreply, hitems⟩ := q.step_pop_ok 1 le_rfl (by simp [hq])
      simp only [importStep, ImportCall.op, hret, hx, if_false, hreply, hitems, hq]
      exact ⟨rfl, hview⟩

/-- A write to a full queue is accepted where the queue refuses it. -/
theorem importStep_overruns (b : ImportBuff) (q : Fifo.Queue UInt8 mqttSnImportMax)
    (c : ImportCall) (h : ImportView b q.items) (hc : ¬hasRoom q c) :
    (importStep b c).1 ≠ (q.step c.op).1 := by
  cases c with
  | write len pos =>
    have hfull : ¬q.items.length < mqttSnImportMax := hc
    have hspec := q.step_push_refused [len]
      (by simp only [Fifo.Queue.space, List.length_singleton]; omega)
    simp [importStep, ImportCall.op, hspec, write_eq pos h.wPtr_lt h.rPtr_lt]
  | read => exact absurd trivial hc

/-- The pair answers a list of calls as a queue of capacity `mqttSnImportMax`, holds
what that queue holds, and leaves the array alone when it refuses. -/
def ImportRefines (calls : List ImportCall) : Prop :=
  let b := Fifo.after importStep importZero calls
  let q := Fifo.after Fifo.Queue.step (Fifo.Queue.empty : Fifo.Queue UInt8 mqttSnImportMax)
    (calls.map ImportCall.op)
  Fifo.replies importStep importZero calls =
      Fifo.replies Fifo.Queue.step (Fifo.Queue.empty : Fifo.Queue UInt8 mqttSnImportMax)
        (calls.map ImportCall.op) ∧
    queuedLenths b = q.items ∧ b.rPtr < mqttSnImportMax ∧ b.wPtr < mqttSnImportMax ∧
    ∀ c, (importStep b c).1 = .refused → (importStep b c).2 = b

theorem importStep_refused {b : ImportBuff} (c : ImportCall)
    (hw : b.wPtr < mqttSnImportMax) (hr : b.rPtr < mqttSnImportMax) {q : List UInt8}
    (h : ImportView b q) (hc : (importStep b c).1 = .refused) : (importStep b c).2 = b := by
  cases c with
  | write len pos => simp [importStep, write_eq pos hw hr] at hc
  | read =>
    cases q with
    | nil => simp only [importStep, read_empty h.toImportRing]
    | cons x xs =>
      have hx : x ≠ 0 := h.nonzero x (by simp)
      simp [importStep, (read_ok h).1, hx] at hc

/-- The pair is a bounded queue over exactly those lists of calls in which no
length is written to a full queue. -/
theorem import_refines_fifo_iff (calls : List ImportCall) :
    ImportRefines calls ↔ Fifo.AllCalls Fifo.Queue.step ImportCall.op hasRoom
      (Fifo.Queue.empty : Fifo.Queue UInt8 mqttSnImportMax) calls := by
  have hzero : ImportView importZero (Fifo.Queue.empty : Fifo.Queue UInt8 mqttSnImportMax).items :=
    importZero_view
  constructor
  · intro h
    exact Fifo.allCalls_of_replies (g := Fifo.Queue.step)
      (R := fun b (q : Fifo.Queue UInt8 mqttSnImportMax) => ImportView b q.items)
      importStep_simulates importStep_overruns hzero h.1
  · intro h
    obtain ⟨hreplies, hview⟩ := Fifo.simulation_map (g := Fifo.Queue.step)
      (R := fun b (q : Fifo.Queue UInt8 mqttSnImportMax) => ImportView b q.items)
      importStep_simulates hzero h
    exact ⟨hreplies, hview.queued_eq, hview.rPtr_lt, hview.wPtr_lt,
      fun c hc => importStep_refused c hview.wPtr_lt hview.rPtr_lt hview hc⟩

/-- Eleven lengths in a row: the eleventh is accepted over the oldest. -/
theorem import_eleventh_write :
    ¬ImportRefines (List.replicate 11 (.write 2 (by decide))) := by
  intro h
  exact absurd h.1 (by decide)

end MqttSnClient
