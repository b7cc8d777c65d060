import MqttSnClient.Mqtt.Output
import MqttSnClient.Lib.Varint

namespace Mqtt
open Memory

namespace MqttRingbuf

variable {rb : MqttRingbuf}

theorem cell_eq (idx : UInt16) : cell idx = idx.toNat % mqttOutputRingbufSize := by
  have hmask := Nat.and_two_pow_sub_one_eq_mod idx.toNat 8
  calc cell idx = idx.toNat &&& 255 := UInt16.toNat_and idx 255
    _ = idx.toNat % mqttOutputRingbufSize := hmask

theorem cell_lt (idx : UInt16) : cell idx < mqttOutputRingbufSize := by
  rw [cell_eq]
  exact Nat.mod_lt _ (by decide)

/-- The bytes between `get` and `put`, the oldest first. -/
def queued (rb : MqttRingbuf) : List UInt8 :=
  window rb.buf mqttOutputRingbufSize (cell rb.get) rb.mqttRingbufLen

@[simp] theorem length_queued : rb.queued.length = rb.mqttRingbufLen := window_length _ _ _ _

/-- The index behind the last byte. -/
theorem cell_put : cell rb.put = (cell rb.get + rb.mqttRingbufLen) % mqttOutputRingbufSize := by
  have hput := rb.put.toNat_lt
  have hget := rb.get.toNat_lt
  rw [cell_eq, cell_eq, mqttRingbufLen, UInt16.toNat_sub, mqttOutputRingbufSize]
  omega

theorem len_put (x : UInt8) (h : rb.queued.length < mqttOutputRingbufSize) :
    (rb.mqttRingbufPut x).mqttRingbufLen = rb.mqttRingbufLen + 1 := by
  rw [length_queued] at h
  have hone : (rb.put + 1 - rb.get) = (rb.put - rb.get) + 1 := by
    rw [sub_eq_add_neg, sub_eq_add_neg, add_right_comm]
  simp only [mqttRingbufLen, mqttRingbufPut, mqttOutputRingbufSize] at h ⊢
  rw [hone, UInt16.toNat_add]
  exact Nat.mod_eq_of_lt (by simp only [UInt16.reduceToNat]; omega)

theorem queued_put (x : UInt8) (h : rb.queued.length < mqttOutputRingbufSize) :
    (rb.mqttRingbufPut x).queued = rb.queued ++ [x] := by
  have hlen := len_put x h
  rw [length_queued] at h
  unfold queued
  rw [hlen, window_add]
  congr 1
  · apply window_congr
    intro i hi
    apply Function.update_of_ne
    have hr := cell_lt rb.get
    have hget : (rb.mqttRingbufPut x).get = rb.get := rfl
    rw [cell_put, hget, wrap_index _ _ i hr (by omega), wrap_index _ _ _ hr (by omega)]
    split_ifs <;> omega
  · have hmod : cell rb.put % mqttOutputRingbufSize = cell rb.put :=
      Nat.mod_eq_of_lt (cell_lt rb.put)
    simp only [mqttRingbufPut, window, List.range_one, List.map_cons, List.map_nil, Nat.add_zero,
      ← cell_put, hmod, Function.update_self]

/-- A function that puts `xs` behind what the ring holds, whenever that fits. -/
def Writes (f : MqttRingbuf → MqttRingbuf) (xs : List UInt8) : Prop :=
  ∀ rb : MqttRingbuf, rb.queued.length + xs.length ≤ mqttOutputRingbufSize →
    (f rb).queued = rb.queued ++ xs

theorem writes_put (x : UInt8) : Writes (mqttOutputAppendU8 x) [x] :=
  fun _ h => queued_put x (Nat.lt_of_succ_le h)

theorem Writes.trans {f g : MqttRingbuf → MqttRingbuf} {xs ys : List UInt8} (hf : Writes f xs)
    (hg : Writes g ys) : Writes (fun rb => g (f rb)) (xs ++ ys) := by
  intro rb h
  rw [List.length_append, ← Nat.add_assoc] at h
  have hfirst := hf rb (by omega)
  have hroom : (f rb).queued.length + ys.length ≤ mqttOutputRingbufSize := by
    rw [hfirst, List.length_append]
    exact h
  calc (g (f rb)).queued = (f rb).queued ++ ys := hg _ hroom
    _ = rb.queued ++ (xs ++ ys) := by rw [hfirst, List.append_assoc]

theorem writes_id : Writes id [] := by
  intro rb _
  rw [id, List.append_nil]

theorem writes_buf (data : List UInt8) : Writes (mqttOutputAppendBuf data) data := by
  induction data with
  | nil => exact writes_id
  | cons x xs ih => exact (writes_put x).trans ih

end MqttRingbuf

open MqttRingbuf

/-- The two bytes of a 16-bit field, the high one first. -/
def be16 (v : UInt16) : List UInt8 := [UInt8.ofNat (v.toNat / 256), UInt8.ofNat (v.toNat % 256)]

@[simp] theorem length_be16 (v : UInt16) : (be16 v).length = 2 := rfl

theorem high_byte (v : UInt16) : (v >>> 8).toUInt8 = UInt8.ofNat (v.toNat / 256) := by
  apply UInt8.toNat_inj.mp
  simp [Nat.shiftRight_eq_div_pow]

theorem low_byte (v : UInt16) : (v &&& 0xff).toUInt8 = UInt8.ofNat (v.toNat % 256) := by
  apply UInt8.toNat_inj.mp
  have hmask := Nat.and_two_pow_sub_one_eq_mod v.toNat 8
  simp only [UInt16.toNat_toUInt8, UInt16.toNat_and, UInt8.toNat_ofNat']
  exact congrArg (· % 256) hmask

theorem writes_u16 (v : UInt16) : Writes (mqttOutputAppendU16 v) (be16 v) := by
  unfold mqttOutputAppendU16
  rw [high_byte, low_byte]
  exact (writes_put _).trans (writes_put _)

/-- A string with its length before it. -/
theorem writes_string (str : List UInt8) (length : UInt16) :
    Writes (mqttOutputAppendString str length) (be16 length ++ str) :=
  (writes_u16 length).trans (writes_buf str)

theorem shift_seven (v : UInt16) : (v >>> 7).toNat = v.toNat / 128 := by
  rw [UInt16.toNat_shiftRight]
  simp [Nat.shiftRight_eq_div_pow]

theorem shift_seven_pos (v : UInt16) : v >>> 7 > 0 ↔ 128 ≤ v.toNat := by
  rw [gt_iff_lt, UInt16.lt_iff_toNat_lt, shift_seven]
  simp only [UInt16.toNat_zero]
  omega

theorem length_byte (v : UInt16) : ((v &&& 0x7f) ||| (if v ≥ 128 then 0x80 else 0)).toUInt8 =
    UInt8.ofNat (if v.toNat < 128 then v.toNat else v.toNat % 128 + 128) := by
  apply UInt8.toNat_inj.mp
  have hmask := Nat.and_two_pow_sub_one_eq_mod v.toNat 7
  have hlow : (v &&& 0x7f).toNat = v.toNat % 128 := (UInt16.toNat_and v 0x7f).trans hmask
  have hge : v ≥ 128 ↔ 128 ≤ v.toNat := UInt16.le_iff_toNat_le
  simp only [UInt16.toNat_toUInt8, UInt16.toNat_or, hlow, UInt8.toNat_ofNat', hge]
  by_cases h : 128 ≤ v.toNat
  · have hor : 128 + v.toNat % 128 = 128 ||| v.toNat % 128 :=
      Nat.two_pow_add_eq_or_of_lt (i := 7) (Nat.mod_lt v.toNat (by decide)) 1
    rw [if_pos h, if_neg (by omega), Nat.or_comm]
    simp only [UInt16.reduceToNat]
    rw [← hor, Nat.add_comm]
  · rw [if_neg h, if_pos (by omega)]
    simp only [UInt16.toNat_zero, Nat.or_zero]
    omega

/-- The loop of the fixed header writes the encoding in base 128. -/
theorem writes_remaining_length {n : ℕ} (hn : 1 ≤ n) (rLength : UInt16)
    (h : rLength.toNat < 128 ^ n) :
    Writes (appendRemainingLength n rLength) (Varint.encode rLength.toNat) := by
  induction n generalizing rLength with
  | zero => omega
  | succ n ih =>
    have hbyte := length_byte rLength
    rcases Nat.lt_or_ge rLength.toNat 128 with hsmall | hlarge
    · rw [if_pos hsmall] at hbyte
      rw [Varint.encode_small hsmall]
      intro rb hroom
      simp only [appendRemainingLength, shift_seven_pos, if_neg (Nat.not_le.mpr hsmall), hbyte]
      exact writes_put _ rb hroom
    · rw [if_neg (Nat.not_lt.mpr hlarge)] at hbyte
      have hn : 1 ≤ n := by
        by_contra hzero
        rw [show n = 0 from by omega] at h
        omega
      have hdiv : (rLength >>> 7).toNat < 128 ^ n := by
        rw [shift_seven]
        apply Nat.div_lt_of_lt_mul
        rwa [pow_succ, Nat.mul_comm] at h
      have hrest := ih hn (rLength >>> 7) hdiv
      rw [Varint.encode_large hlarge, ← shift_seven]
      intro rb hroom
      simp only [appendRemainingLength, shift_seven_pos, if_pos hlarge, hbyte]
      exact (writes_put _).trans hrest rb hroom

theorem writes_fixed_header (msgType dup qos retain : UInt8) (rLength : UInt16) :
    Writes (mqttOutputAppendFixedHeader msgType dup qos retain rLength)
      (controlByte msgType dup qos retain :: Varint.encode rLength.toNat) := by
  have hlen := writes_remaining_length (n := 3) (by omega) rLength
    (Nat.lt_trans rLength.toNat_lt (by decide))
  exact (writes_put _).trans hlen

/-- The loop of the space check counts the bytes of that encoding. -/
theorem add_length_bytes {n : ℕ} (hn : 1 ≤ n) (rLength totalLen : UInt16)
    (h : rLength.toNat < 128 ^ n) :
    addLengthBytes n rLength totalLen =
      totalLen + UInt16.ofNat (Varint.encode rLength.toNat).length := by
  induction n generalizing rLength totalLen with
  | zero => omega
  | succ n ih =>
    rcases Nat.lt_or_ge rLength.toNat 128 with hsmall | hlarge
    · rw [Varint.encode_small hsmall]
      simp only [addLengthBytes, shift_seven_pos, if_neg (Nat.not_le.mpr hsmall)]
      rfl
    · have hn : 1 ≤ n := by
        by_contra hzero
        rw [show n = 0 from by omega] at h
        omega
      have hdiv : (rLength >>> 7).toNat < 128 ^ n := by
        rw [shift_seven]
        apply Nat.div_lt_of_lt_mul
        rwa [pow_succ, Nat.mul_comm] at h
      rw [Varint.encode_large hlarge, ← shift_seven, List.length_cons]
      simp only [addLengthBytes, shift_seven_pos, if_pos hlarge]
      rw [ih hn _ _ hdiv, UInt16.ofNat_add, add_assoc, add_comm 1]
      rfl

/-- The number of bytes of a message with `rLength` bytes behind the fixed header. -/
def messageLength (rLength : ℕ) : ℕ := 1 + (Varint.encode rLength).length + rLength

/-- The largest remaining length whose message has a length that fits 16 bits. -/
def maxRemainingLength : ℕ := 65531

theorem length_bytes_bounds (r : UInt16) :
    1 ≤ (Varint.encode r.toNat).length ∧ (Varint.encode r.toNat).length ≤ 3 :=
  ⟨Varint.encode_length_pos _, Varint.encode_length_le (by omega)
    (Nat.lt_trans r.toNat_lt (by decide))⟩

/-- The space check compares the length of the message, cut to 16 bits, with the free space. -/
theorem check_space_iff (rb : MqttRingbuf) (rLength : UInt16) :
    mqttOutputCheckSpace rb rLength = true ↔
      (messageLength rLength.toNat % 65536 : ℤ) ≤ rb.mqttRingbufFree := by
  unfold mqttOutputCheckSpace
  rw [decide_eq_true_eq, add_length_bytes (by omega) _ _ (Nat.lt_trans rLength.toNat_lt (by decide))]
  have hval : (1 + rLength + UInt16.ofNat (Varint.encode rLength.toNat).length).toNat =
      messageLength rLength.toNat % 65536 := by
    rw [messageLength, UInt16.toNat_add, UInt16.toNat_add, UInt16.toNat_ofNat']
    simp only [UInt16.reduceToNat]
    omega
  rw [hval]
  exact_mod_cast Iff.rfl

/-- A message whose remaining length does not wrap passes the check exactly when it fits. -/
theorem check_space_exact (rb : MqttRingbuf) (rLength : UInt16)
    (h : rLength.toNat ≤ maxRemainingLength) (hq : rb.queued.length ≤ mqttOutputRingbufSize) :
    mqttOutputCheckSpace rb rLength = true ↔
      rb.queued.length + messageLength rLength.toNat ≤ mqttOutputRingbufSize := by
  have hbounds := length_bytes_bounds rLength
  rw [length_queued] at hq ⊢
  rw [check_space_iff, mqttRingbufFree, messageLength]
  unfold maxRemainingLength at h
  omega

namespace MqttRingbuf

variable {rb : MqttRingbuf} {n : ℕ}

theorem linear_le : rb.mqttRingbufLinearReadLength ≤ rb.mqttRingbufLen := Nat.min_le_left _ _

/-- The bytes up to the end of the array are the oldest ones. -/
theorem linear_eq_take (hn : n ≤ rb.mqttRingbufLinearReadLength) :
    rb.linear n = rb.queued.take n := by
  have hcell := cell_lt rb.get
  have hlen : n ≤ rb.mqttRingbufLen := hn.trans linear_le
  have hend : cell rb.get + n ≤ mqttOutputRingbufSize := by
    have hmin := hn.trans (Nat.min_le_right _ _)
    omega
  have hsplit := window_take rb.buf mqttOutputRingbufSize (cell rb.get) n (rb.mqttRingbufLen - n)
  rw [Nat.add_sub_cancel' hlen, window_eq_slice _ _ _ _ hend] at hsplit
  exact hsplit.symm

theorem queued_advance (hn : n ≤ rb.mqttRingbufLen) :
    (rb.mqttRingbufAdvanceGetIdx n).queued = rb.queued.drop n := by
  have hput := rb.put.toNat_lt
  have hget := rb.get.toNat_lt
  have hlen : (rb.mqttRingbufAdvanceGetIdx n).mqttRingbufLen = rb.mqttRingbufLen - n := by
    simp only [mqttRingbufLen, mqttRingbufAdvanceGetIdx, UInt16.toNat_sub, UInt16.toNat_add,
      UInt16.toNat_ofNat'] at hn ⊢
    omega
  have hcell : cell (rb.mqttRingbufAdvanceGetIdx n).get =
      (cell rb.get + n) % mqttOutputRingbufSize := by
    simp only [cell_eq, mqttRingbufAdvanceGetIdx, UInt16.toNat_add, UInt16.toNat_ofNat',
      mqttOutputRingbufSize]
    omega
  have hdrop := window_drop rb.buf mqttOutputRingbufSize (cell rb.get) n (rb.mqttRingbufLen - n)
  rw [Nat.add_sub_cancel' hn] at hdrop
  unfold queued
  rw [hlen, hcell, hdrop]
  rfl

/-- One `tcp_write` of the oldest bytes. -/
theorem write_keeps (hn : n ≤ rb.mqttRingbufLinearReadLength) :
    rb.linear n ++ (rb.mqttRingbufAdvanceGetIdx n).queued = rb.queued := by
  rw [linear_eq_take hn, queued_advance (hn.trans linear_le), List.take_append_drop]

end MqttRingbuf

/-- What `mqtt_output_send` hands to TCP is what it takes from the front of the ring. -/
theorem output_send_keeps (tcp : SendAnswer) (rb : MqttRingbuf) :
    (mqttOutputSend tcp rb).2 ++ (mqttOutputSend tcp rb).1.queued = rb.queued := by
  have hfirst : rb.linear (min tcp.sndbuf.toNat rb.mqttRingbufLinearReadLength) ++
      (rb.mqttRingbufAdvanceGetIdx _).queued = rb.queued := write_keeps (Nat.min_le_right _ _)
  simp only [mqttOutputSend]
  split_ifs
  · rfl
  · rfl
  · exact hfirst
  · exact hfirst
  · rw [List.append_assoc, write_keeps (Nat.min_le_right _ _)]
    exact hfirst

end Mqtt
