import MqttSnClient.Mqtt.Segments

namespace Mqtt
open Memory Outcome

/-- The world with these bytes of a message stored. -/
def World.holding (w : World) (rx : ℕ → UInt8) (m : UInt32) : World :=
  { w with client.rxBuffer := rx, client.msgIdx := m }

/-- The application is told of a PUBLISH without a packet id. -/
def World.announced (w : World) (topic : List UInt8) (totLen : UInt32) : World :=
  World.tell { w with client.inpubPktId := 0 }
    (.publish w.client.inpubArg (topic.takeWhile (· ≠ 0)) totLen)

/-- The calls of the data callback for the parts of one payload. -/
def dataCalls (arg : ℕ) : List (List UInt8) → List Upcall
  | [] => []
  | [d] => [.data arg d mqttDataFlagLast]
  | d :: d' :: ds => .data arg d 0 :: dataCalls arg (d' :: ds)

theorem high_bit (b : UInt8) : b &&& 0x80 ≠ 0 ↔ 128 ≤ b.toNat := by
  have hall : ∀ n : Fin 256, UInt8.ofNat n.val &&& 0x80 ≠ 0 ↔ 128 ≤ n.val := by decide +kernel
  have hb := hall ⟨b.toNat, b.toNat_lt⟩
  rwa [UInt8.ofNat_toNat] at hb

theorem add_length_toNat {r : UInt32} {b : UInt8} {k : ℕ} (hk : k ≤ 3)
    (hr : r.toNat < 2 ^ (7 * k)) :
    (addLength r b (k + 2)).toNat = r.toNat + 2 ^ (7 * k) * (b.toNat % 128) := by
  have hlow : (b &&& 0x7f).toUInt32.toNat = b.toNat % 128 := by
    rw [UInt8.toNat_toUInt32, UInt8.toNat_and]
    exact Nat.and_two_pow_sub_one_eq_mod b.toNat 7
  have hshift : (UInt32.ofNat ((k + 2 - 2) * 7)).toNat % 32 = 7 * k := by
    rw [UInt32.toNat_ofNat']
    omega
  have hpow : 2 ^ (7 * k) ≤ 2 ^ 21 := Nat.pow_le_pow_right Nat.two_pos (by omega)
  have hlt : b.toNat % 128 < 128 := Nat.mod_lt _ (by omega)
  have hfit : b.toNat % 128 * 2 ^ (7 * k) < 2 ^ 32 := by
    calc b.toNat % 128 * 2 ^ (7 * k) ≤ 128 * 2 ^ 21 := Nat.mul_le_mul hlt.le hpow
      _ < 2 ^ 32 := by norm_num
  unfold addLength
  rw [UInt32.toNat_or, UInt32.toNat_shiftLeft, hlow, hshift, Nat.shiftLeft_eq,
    Nat.mod_eq_of_lt hfit, Nat.or_comm, ← Nat.shiftLeft_eq, ← Nat.shiftLeft_add_eq_or_of_lt hr,
    Nat.shiftLeft_eq]
  ring

theorem rx_u16 {c : MqttClient} {i : ℕ} {v : UInt16}
    (hhigh : c.rxBuffer i = UInt8.ofNat (v.toNat / 256))
    (hlow : c.rxBuffer (i + 1) = UInt8.ofNat (v.toNat % 256)) : rxU16 c i = v := by
  have hv := v.toNat_lt
  unfold rxU16
  rw [hhigh, hlow]
  apply UInt16.toNat_inj.mp
  simp only [UInt16.toNat_add, UInt16.toNat_shiftLeft, UInt8.toNat_toUInt16, UInt8.toNat_ofNat',
    Nat.shiftLeft_eq, UInt16.toNat_ofNat, Nat.reduceMod, Nat.reducePow]
  omega

section

variable (net : Net) {w : World} {rx : ℕ → UInt8} {m : UInt32}

/-- The parser reads the remaining length. -/
theorem read_length {bs : List UInt8} (hbs : Varint.Terminated bs) {k : ℕ}
    (hk : k + bs.length ≤ 4) {r : UInt32} (hr : r.toNat < 2 ^ (7 * k)) {b : UInt8}
    (hb : (Locals.mk (k + 1) r b).header) (hpos : 0 < r.toNat + 2 ^ (7 * k) * Varint.value bs)
    (input : List UInt8) : ∃ (rx' : ℕ → UInt8) (r' : UInt32) (b' : UInt8),
      (∀ i ≤ k, rx' i = rx i) ∧ b' &&& 0x80 = 0 ∧
      r'.toNat = r.toNat + 2 ^ (7 * k) * Varint.value bs ∧
      parsed net (w.holding rx (UInt32.ofNat (k + 1))) ⟨k + 1, r, b⟩ (bs ++ input) =
        parsed net (w.holding rx' (UInt32.ofNat (k + 1 + bs.length)))
          ⟨k + 1 + bs.length, r', b'⟩ input := by
  induction bs generalizing k rx r b with
  | nil => exact hbs.elim
  | cons c bs ih =>
    rw [List.length_cons] at hk
    have hidx : (w.holding rx (UInt32.ofNat (k + 1))).client.msgIdx.toNat = k + 1 := by
      change (UInt32.ofNat (k + 1)).toNat = k + 1
      rw [UInt32.toNat_ofNat']
      omega
    have hpaced : Paced (w.holding rx (UInt32.ofNat (k + 1))) ⟨k + 1, r, b⟩ :=
      ⟨by simp only; omega, fun _ => hidx.ge⟩
    have hstore : (w.holding rx (UInt32.ofNat (k + 1))).storeRx c =
        w.holding (Function.update rx (k + 1) c) (UInt32.ofNat (k + 1 + 1)) := by
      unfold World.storeRx
      rw [hidx, UInt32.ofNat_add (k + 1) 1]
      rfl
    have hold (i : ℕ) (hi : i ≤ k) : Function.update rx (k + 1) c i = rx i :=
      Function.update_of_ne (by omega) ..
    have hnext := add_length_toNat (b := c) (by omega) hr
    rw [List.cons_append, parsed_header net hpaced hb, header_turn_next net hidx, hstore]
    unfold headerByte
    simp only
    rw [if_neg (by omega), if_neg (by omega)]
    generalize addLength r c (k + 1 + 1) = r' at hnext
    by_cases hmore : c &&& 0x80 ≠ 0
    -- seven bits more, and the length goes on
    · rw [if_pos hmore]
      have hrest : Varint.Terminated bs := by
        cases bs with
        | nil => exact absurd ((high_bit c).mp hmore) (Nat.not_le.mpr hbs)
        | cons c' bs => exact hbs.2
      have hvalue : r'.toNat + 2 ^ (7 * (k + 1)) * Varint.value bs =
          r.toNat + 2 ^ (7 * k) * Varint.value (c :: bs) := by
        rw [hnext, Varint.value]
        ring
      have hfit : r'.toNat < 2 ^ (7 * (k + 1)) := by
        have hlt : c.toNat % 128 < 128 := Nat.mod_lt _ (by omega)
        rw [hnext]
        calc r.toNat + 2 ^ (7 * k) * (c.toNat % 128)
            < 2 ^ (7 * k) + 2 ^ (7 * k) * 127 :=
              Nat.add_lt_add_of_lt_of_le hr (Nat.mul_le_mul_left _ (by omega))
          _ = 2 ^ (7 * (k + 1)) := by ring
      obtain ⟨rx', r'', b', hkeep, hb', hr'', hrun⟩ := @ih (Function.update rx (k + 1) c) hrest
        (k + 1) (by omega) r' hfit c (.inr hmore) (hvalue ▸ hpos)
      refine ⟨rx', r'', b', fun i hi => ?_, hb', hr''.trans hvalue, ?_⟩
      · exact (hkeep i (by omega)).trans (hold i hi)
      · rw [List.length_cons, Nat.add_comm bs.length 1, ← Nat.add_assoc]
        exact hrun
    -- the last byte of the length; the header is not part of what is still to come
    · rw [if_neg hmore]
      obtain rfl : bs = [] := by
        cases bs with
        | nil => rfl
        | cons c' bs => exact absurd ((high_bit c).mpr hbs.1) hmore
      have hvalue : r'.toNat = r.toNat + 2 ^ (7 * k) * Varint.value [c] := by
        rw [hnext, Varint.value, Varint.value, Nat.mul_zero, Nat.add_zero]
      have hne : r' ≠ 0 := by
        rintro rfl
        rw [← hvalue] at hpos
        exact absurd hpos (lt_irrefl 0)
      rw [if_neg hne]
      refine ⟨Function.update rx (k + 1) c, r', c, hold, not_not.mp hmore, hvalue, ?_⟩
      have hsame : r' + UInt32.ofNat (k + 1 + 1) - UInt32.ofNat (k + 1 + 1) = r' :=
        UInt32.add_sub_cancel ..
      change parsed net _ ⟨_, r' + UInt32.ofNat (k + 1 + 1) - UInt32.ofNat (k + 1 + 1), c⟩ _ = _
      rw [hsame]
      rfl

theorem publish_data_told (hcb : w.client.dataCb = true) {f offset n : ℕ} (hn : 0 < n)
    (r : UInt32) : publishData net f offset n r 0 (w.holding rx m) =
      .ok ((w.tell (.data w.client.inpubArg (slice rx (f + offset) n)
        (if r = 0 then mqttDataFlagLast else 0))).holding rx m) := by
  simp [publishData, publishAnswer, World.holding, World.tell, hn, hcb]

theorem part_received (htype : mqttCtlPacketType (rx 0) = mqttMsgTypePublish)
    (hqos : mqttCtlPacketQos (rx 0) = 0) (hm : 128 < m.toNat) (hcb : w.client.dataCb = true)
    {f n : ℕ} (hn : 0 < n) (r : UInt32) :
    mqttMessageReceived net f n r (w.holding rx m) =
      .ok ((w.tell (.data w.client.inpubArg (slice rx f n)
        (if r = 0 then mqttDataFlagLast else 0))).holding rx m, mqttConnectAccepted) := by
  have hpart : publishData net f 0 n r 0 (w.holding rx m) = .ok _ := publish_data_told net hcb hn r
  have hlate : ¬ (w.holding rx m).client.msgIdx.toNat ≤ mqttVarHeaderBufferLen := hm.not_ge
  have hfirst : (w.holding rx m).client.rxBuffer 0 = rx 0 := rfl
  unfold mqttMessageReceived publishReceived
  simp only [hfirst, htype, hqos, if_neg hlate, hpart]
  rfl

theorem first_received (htype : mqttCtlPacketType (rx 0) = mqttMsgTypePublish)
    (hqos : mqttCtlPacketQos (rx 0) = 0) (hm : m.toNat ≤ 128) (hpub : w.client.pubCb = true)
    (hcb : w.client.dataCb = true) {f n : ℕ} (hspace : f + n ≤ 128) {t d : List UInt8}
    (hn : 2 + t.length + d.length = n) (hd : d ≠ [])
    (hbody : slice rx f n = be16 (UInt16.ofNat t.length) ++ t ++ d) (r : UInt32) :
    mqttMessageReceived net f n r (w.holding rx m) =
      .ok (((w.announced t (r + UInt32.ofNat d.length)).tell (.data w.client.inpubArg d
        (if r = 0 then mqttDataFlagLast else 0))).holding rx m, mqttConnectAccepted) := by
  have hpos := List.length_pos_of_ne_nil hd
  rw [← hn, Nat.add_assoc, slice_append, slice_append, List.append_assoc] at hbody
  -- the three fields, where the code looks for them
  obtain ⟨hlength, hrest⟩ := List.append_inj hbody (by simp)
  obtain ⟨ht, hdata⟩ := List.append_inj hrest (by simp)
  have hfield : rxU16 (w.holding rx m).client f = UInt16.ofNat t.length := by
    have hbytes := List.cons.inj (hlength : [rx (f + 0), rx (f + 1)] = _)
    exact rx_u16 hbytes.1 (List.cons.inj hbytes.2).1
  have hnat : (UInt16.ofNat t.length).toNat = t.length := by
    rw [UInt16.toNat_ofNat']
    omega
  have hafter : (2 + UInt16.ofNat t.length).toNat = 2 + t.length := by
    rw [UInt16.toNat_add, hnat]
    change (2 + t.length) % 2 ^ 16 = _
    omega
  have htopic : publishTopic f n r 0 (w.holding rx m) =
      .ok (some ((w.announced t (r + UInt32.ofNat d.length)).holding rx m, 2 + t.length)) := by
    -- a byte behind the topic is there, so the code may put its zero byte
    have hroom : ¬ 2 + t.length + topicRoom 0 > n := by
      change ¬ 2 + t.length + 1 > n
      omega
    have hinside : ¬ f + 2 + t.length ≥ mqttVarHeaderBufferLen := by
      change ¬ f + 2 + t.length ≥ 128
      omega
    have hleft : n - (2 + t.length) = d.length := by omega
    unfold publishTopic
    simp only [hfield, hafter, if_neg hroom, hnat, if_neg hinside]
    unfold tellTopic
    simp [World.holding, World.announced, World.tell, hpub, ht, inpubId, pktIdLen, hleft]
  have hmore : n - (2 + t.length) = d.length := by omega
  have hpart (w' : World) (hcb' : w'.client.dataCb = true) :
      publishData net f (2 + t.length) d.length r 0 (w'.holding rx m) =
        .ok ((w'.tell (.data w'.client.inpubArg d
          (if r = 0 then mqttDataFlagLast else 0))).holding rx m) := by
    rw [publish_data_told net hcb' hpos r, ← Nat.add_assoc, hdata]
  have hearly : (w.holding rx m).client.msgIdx.toNat ≤ mqttVarHeaderBufferLen := hm
  have hfirst : (w.holding rx m).client.rxBuffer 0 = rx 0 := rfl
  unfold mqttMessageReceived publishReceived
  simp only [hfirst, htype, hqos, if_pos hearly, htopic]
  change (publishData net f (2 + t.length) (n - (2 + t.length)) r 0
    ((w.announced t (r + UInt32.ofNat d.length)).holding rx m) >>= fun w' =>
      .ok (w', mqttConnectAccepted)) = _
  rw [hmore, hpart (w.announced t (r + UInt32.ofNat d.length)) hcb]
  rfl

theorem body_end_called {f length : ℕ} {b : UInt8} {full : Bool} {r : UInt32} {w' w₁ : World}
    {input : List UInt8} (hfull : r = 0 ∨ full = true)
    (hcall : mqttMessageReceived net f length r w' =
      .ok (w₁.holding rx m, mqttConnectAccepted)) :
    bodyEnd net w' ⟨f, r, b⟩ full length r input = if r = 0
      then .ok (w₁.holding rx 0, ⟨0, r, b⟩, input, mqttConnectAccepted)
      else .ok (w₁.holding rx m, ⟨f, r, b⟩, input, mqttConnectAccepted) := by
  have hacc : ¬ mqttConnectAccepted ≠ mqttConnectAccepted := fun hne => hne rfl
  unfold bodyEnd
  rw [if_pos hfull]
  simp only [hcall, bind, Except.bind, if_neg hacc]
  rfl

theorem cpy_start_part {f j : ℕ} (hwrap : f + j * (128 - f) < 2 ^ 32) :
    cpyStart f (UInt32.ofNat (f + j * (128 - f))) = f := by
  have hrest : j * (128 - f) < 2 ^ 32 := by omega
  unfold cpyStart
  rw [Nat.add_comm f, UInt32.ofNat_add, UInt32.add_sub_cancel, UInt32.toNat_ofNat',
    Nat.mod_eq_of_lt hrest]
  change j * (128 - f) % (128 - f) + f = f
  rw [Nat.mul_mod_left, Nat.zero_add]

theorem copy_rx_part {m : UInt32} {start n : ℕ} {data : List UInt8} (hn : data.length = n) :
    (w.holding rx m).copyRx start data =
      w.holding (memcpy rx start data) (m + UInt32.ofNat n) := by
  rw [← hn]
  rfl

/-- A turn of the loop on a part of the body that starts behind the fixed header. -/
theorem body_turn_started {f n : ℕ} {r : UInt32} {b : UInt8} {input : List UInt8}
    (hstart : cpyStart f m = f) (hr : r.toNat = input.length)
    (hn : n = min input.length (128 - f)) :
    bodyTurn net (w.holding rx m) ⟨f, r, b⟩ input =
      bodyEnd net (w.holding (memcpy rx f (input.take n)) (m + UInt32.ofNat n))
        ⟨f, r, b⟩ (n = 128 - f) n (r - UInt32.ofNat n) (input.drop n) := by
  have hcopied : (input.take n).length = n := by
    rw [List.length_take]
    omega
  have hmin : min (min input.length r.toNat) (128 - f) = n := by omega
  have hidx : (w.holding rx m).client.msgIdx = m := rfl
  have hbuffer : mqttVarHeaderBufferLen = 128 := rfl
  have hlength : f + n - f = n := by omega
  unfold bodyTurn
  simp only [hidx, hstart, hbuffer, hmin, copy_rx_part hcopied, hlength]

theorem parsed_part {f n : ℕ} {r : UInt32} {b : UInt8} {input : List UInt8} {w₁ : World}
    (htwo : 2 ≤ f) (hsix : f ≤ 6) (hb : b &&& 0x80 = 0) (hne : input ≠ [])
    (hr : r.toNat = input.length) (hn : n = min input.length (128 - f))
    (hstart : cpyStart f m = f)
    (hcall : mqttMessageReceived net f n (r - UInt32.ofNat n)
      (w.holding (memcpy rx f (input.take n)) (m + UInt32.ofNat n)) =
        .ok (w₁.holding (memcpy rx f (input.take n)) (m + UInt32.ofNat n), mqttConnectAccepted)) :
    parsed net (w.holding rx m) ⟨f, r, b⟩ input =
      if n = input.length then
        .ok (w₁.holding (memcpy rx f (input.take n)) 0, mqttConnectAccepted)
      else parsed net (w₁.holding (memcpy rx f (input.take n)) (m + UInt32.ofNat n))
        ⟨f, r - UInt32.ofNat n, b⟩ (input.drop n) := by
  have hl : ¬ (Locals.mk f r b).header := by
    rintro (hlt | hmore)
    · exact absurd hlt (Nat.not_lt.mpr htwo)
    · exact hmore hb
  have hpaced : Paced (w.holding rx m) ⟨f, r, b⟩ := ⟨hsix, fun hh => absurd hh hl⟩
  have hend : (r - UInt32.ofNat n = 0) ↔ n = input.length := by
    rw [← UInt32.toNat_inj, length_left (by omega), UInt32.toNat_zero]
    omega
  have hfull : r - UInt32.ofNat n = 0 ∨ decide (n = 128 - f) = true := by
    rw [hend, decide_eq_true_iff]
    omega
  have hturn := (body_turn_started net (b := b) hstart hr hn).trans
    (body_end_called net hfull hcall)
  obtain ⟨c, cs, rfl⟩ := List.exists_cons_of_ne_nil hne
  rw [parsed_body net hpaced hl, hturn]
  by_cases hlast : n = (c :: cs).length
  · have hdrop : (c :: cs).drop n = [] := List.drop_of_length_le hlast.ge
    rw [if_pos (hend.mpr hlast), if_pos hlast, hdrop]
    exact parsed_nil net _ _
  · rw [if_neg (fun hz => hlast (hend.mp hz)), if_neg hlast]
    rfl

theorem data_calls_cons (arg : ℕ) (d : List UInt8) {ds : List (List UInt8)} (hne : ds ≠ []) :
    dataCalls arg (d :: ds) = .data arg d 0 :: dataCalls arg ds := by
  cases ds with
  | nil => exact absurd rfl hne
  | cons d' ds => rfl

theorem first_kept {f : ℕ} (hf : 2 ≤ f) (rx : ℕ → UInt8) (xs : List UInt8) :
    memcpy rx f xs 0 = rx 0 := memcpy_outside _ _ _ _ (.inl (by omega))

theorem slice_taken (rx : ℕ → UInt8) (f : ℕ) {n : ℕ} {input : List UInt8}
    (hn : n ≤ input.length) : slice (memcpy rx f (input.take n)) f n = input.take n := by
  have hlength : (input.take n).length = n := List.length_take_of_le hn
  calc slice (memcpy rx f (input.take n)) f n
      = slice (memcpy rx f (input.take n)) f (input.take n).length := by rw [hlength]
    _ = input.take n := slice_memcpy rx f (input.take n)

/-- The parts of the payload that come after the first. -/
theorem read_parts {f j : ℕ} {r : UInt32} {b : UInt8} {input : List UInt8}
    (htype : mqttCtlPacketType (rx 0) = mqttMsgTypePublish)
    (hqos : mqttCtlPacketQos (rx 0) = 0) (hcb : w.client.dataCb = true)
    (htwo : 2 ≤ f) (hsix : f ≤ 6) (hb : b &&& 0x80 = 0) (hne : input ≠ [])
    (hr : r.toNat = input.length) (hlate : 128 ≤ f + j * (128 - f))
    (hwrap : f + j * (128 - f) + input.length < 2 ^ 32) : ∃ (ds : List (List UInt8)) (w' : World),
      ds ≠ [] ∧ ds.flatten = input ∧ w'.client.msgIdx = 0 ∧
      w'.log = w.log ++ dataCalls w.client.inpubArg ds ∧
      parsed net (w.holding rx (UInt32.ofNat (f + j * (128 - f)))) ⟨f, r, b⟩ input =
        .ok (w', mqttConnectAccepted) := by
  induction hlen : input.length using Nat.strong_induction_on generalizing input w rx r j with
  | _ len ih =>
    subst hlen
    obtain ⟨n, hn⟩ : ∃ n, n = min input.length (128 - f) := ⟨_, rfl⟩
    have hpos := List.length_pos_of_ne_nil hne
    have hlast : (r - UInt32.ofNat n).toNat = input.length - n := by
      rw [length_left (by omega), hr]
    have hkept := first_kept htwo rx (input.take n)
    have hidx : 128 < (UInt32.ofNat (f + j * (128 - f)) + UInt32.ofNat n).toNat := by
      rw [← UInt32.ofNat_add, UInt32.toNat_ofNat']
      omega
    have hcopied := slice_taken rx f (show n ≤ input.length by omega)
    have hcall := part_received net (hkept.symm ▸ htype) (hkept.symm ▸ hqos) hidx hcb (f := f)
      (n := n) (by omega) (r - UInt32.ofNat n)
    rw [hcopied] at hcall
    have hturn := parsed_part net htwo hsix hb hne hr hn (cpy_start_part (by omega)) hcall
    by_cases hwhole : n = input.length
    -- the last part: the parser goes to the start of the next message
    · have hzero : r - UInt32.ofNat n = 0 := by
        apply UInt32.toNat_inj.mp
        rw [hlast, UInt32.toNat_zero]
        omega
      rw [if_pos hwhole, hzero, if_pos rfl] at hturn
      refine ⟨[input], _, List.cons_ne_nil _ _, List.flatten_singleton, rfl, ?_, hturn⟩
      rw [List.take_of_length_le hwhole.ge]
      rfl
    · have hmore : ¬ r - UInt32.ofNat n = 0 := by
        intro hzero
        rw [hzero, UInt32.toNat_zero] at hlast
        omega
      have hsucc : f + j * (128 - f) + n = f + (j + 1) * (128 - f) := by
        rw [Nat.succ_mul]
        omega
      have hleft : (input.drop n).length = input.length - n := List.length_drop
      rw [if_neg hwhole, if_neg hmore, ← UInt32.ofNat_add, hsucc] at hturn
      have hdrop : input.drop n ≠ [] := by
        apply List.ne_nil_of_length_pos
        omega
      obtain ⟨ds, w', hds, hflat, hzero, hlog, hrun⟩ := ih (input.drop n).length (by omega)
        (j := j + 1) (w := w.tell (.data w.client.inpubArg (input.take n) 0)) (hkept.symm ▸ htype)
        (hkept.symm ▸ hqos) hcb hdrop (hlast.trans hleft.symm) (by omega) (by omega) rfl
      refine ⟨input.take n :: ds, w', List.cons_ne_nil _ _, ?_, hzero, ?_, hturn.trans hrun⟩
      · rw [List.flatten_cons, hflat, List.take_append_drop]
      · rw [hlog, data_calls_cons _ _ hds]
        exact List.append_assoc ..

/-- The body of a PUBLISH without a packet id. -/
def publishBody (topic payload : List UInt8) : List UInt8 :=
  be16 (UInt16.ofNat topic.length) ++ topic ++ payload

theorem length_publish_body (t d : List UInt8) :
    (publishBody t d).length = 2 + t.length + d.length := by
  rw [publishBody, List.length_append, List.length_append, length_be16]

theorem read_body {f : ℕ} {r : UInt32} {b : UInt8} {t d : List UInt8}
    (htype : mqttCtlPacketType (rx 0) = mqttMsgTypePublish)
    (hqos : mqttCtlPacketQos (rx 0) = 0) (hpub : w.client.pubCb = true)
    (hcb : w.client.dataCb = true) (htwo : 2 ≤ f) (hsix : f ≤ 6) (hb : b &&& 0x80 = 0)
    (hd : d ≠ []) (hr : r.toNat = (publishBody t d).length) (htopic : f + 2 + t.length < 128)
    (hwrap : f + (publishBody t d).length < 2 ^ 32) : ∃ (ds : List (List UInt8)) (w' : World),
      ds.flatten = d ∧ w'.client.msgIdx = 0 ∧
      w'.log = w.log ++ .publish w.client.inpubArg (t.takeWhile (· ≠ 0)) (UInt32.ofNat d.length) ::
        dataCalls w.client.inpubArg ds ∧
      parsed net (w.holding rx (UInt32.ofNat f)) ⟨f, r, b⟩ (publishBody t d) =
        .ok (w', mqttConnectAccepted) := by
  have hbody := length_publish_body t d
  have hpos := List.length_pos_of_ne_nil hd
  have hne : publishBody t d ≠ [] := by
    apply List.ne_nil_of_length_pos
    omega
  obtain ⟨n, hn⟩ : ∃ n, n = min (publishBody t d).length (128 - f) := ⟨_, rfl⟩
  obtain ⟨k, hk⟩ : ∃ k, n = 2 + t.length + k := ⟨n - (2 + t.length), by omega⟩
  have hlast : (r - UInt32.ofNat n).toNat = (publishBody t d).length - n := by
    rw [length_left (by omega), hr]
  have hkept := first_kept htwo rx ((publishBody t d).take n)
  have htake : (publishBody t d).take n = publishBody t (d.take k) := by
    have hfront : n = (be16 (UInt16.ofNat t.length) ++ t).length + k := by
      rw [hk, List.length_append, length_be16]
    rw [publishBody, hfront, List.take_length_add_append, publishBody]
  have hpart : (d.take k).length = k := by
    rw [List.length_take]
    omega
  have hcopied := (slice_taken rx f (n := n) (by omega)).trans htake
  have hidx : (UInt32.ofNat f + UInt32.ofNat n).toNat ≤ 128 := by
    rw [← UInt32.ofNat_add, UInt32.toNat_ofNat']
    omega
  have hsome : d.take k ≠ [] := by
    apply List.ne_nil_of_length_pos
    omega
  have htotal : r - UInt32.ofNat n + UInt32.ofNat (d.take k).length = UInt32.ofNat d.length := by
    have hrest : r - UInt32.ofNat n = UInt32.ofNat (d.length - k) := by
      apply UInt32.toNat_inj.mp
      rw [hlast, UInt32.toNat_ofNat']
      omega
    rw [hrest, hpart, ← UInt32.ofNat_add]
    congr 1
    omega
  have hcall := first_received net (hkept.symm ▸ htype) (hkept.symm ▸ hqos) hidx hpub hcb
    (f := f) (n := n) (by omega) (by omega) hsome hcopied (r - UInt32.ofNat n)
  rw [htotal] at hcall
  have hstart : cpyStart f (UInt32.ofNat f) = f := by
    have hzero := cpy_start_part (f := f) (j := 0) (by omega)
    rwa [Nat.zero_mul, Nat.add_zero] at hzero
  have hturn := parsed_part net htwo hsix hb hne hr hn hstart hcall
  -- the parts behind the first one start behind the header again
  by_cases hwhole : n = (publishBody t d).length
  · have hzero : r - UInt32.ofNat n = 0 := by
      apply UInt32.toNat_inj.mp
      rw [hlast, UInt32.toNat_zero]
      omega
    rw [if_pos hwhole, hzero, if_pos rfl] at hturn
    refine ⟨[d.take k], _, ?_, rfl, List.append_assoc .., hturn⟩
    rw [List.flatten_singleton]
    exact List.take_of_length_le (by omega)
  · have hmore : ¬ r - UInt32.ofNat n = 0 := by
      intro hzero
      rw [hzero, UInt32.toNat_zero] at hlast
      omega
    have hnext : f + n = f + 1 * (128 - f) := by omega
    have hrest : (publishBody t d).drop n = d.drop k := by
      have hfront : n = (be16 (UInt16.ofNat t.length) ++ t).length + k := by
        rw [hk, List.length_append, length_be16]
      rw [publishBody, hfront, List.drop_length_add_append]
    have hleft : (d.drop k).length = d.length - k := List.length_drop
    have hleftover : d.drop k ≠ [] := by
      apply List.ne_nil_of_length_pos
      omega
    rw [if_neg hwhole, if_neg hmore, ← UInt32.ofNat_add, hnext, hrest] at hturn
    obtain ⟨ds, w', hds, hflat, hzero, hlog, hrun⟩ := read_parts net
      (w := (w.announced t (UInt32.ofNat d.length)).tell
        (.data w.client.inpubArg (d.take k) 0)) (hkept.symm ▸ htype) (hkept.symm ▸ hqos) hcb htwo
      hsix hb (j := 1) hleftover
      (hlast.trans (by omega)) (by omega) (by omega)
    refine ⟨d.take k :: ds, w', ?_, hzero, ?_, hturn.trans hrun⟩
    · rw [List.flatten_cons, hflat, List.take_append_drop]
    · rw [hlog, data_calls_cons _ _ hds]
      exact (List.append_assoc ..).trans (List.append_assoc ..)

/-- A PUBLISH from the server with quality of service 0: the application is told its topic and
length once, then its payload, part by part, in order and whole. -/
theorem publish_delivered {control : UInt8} {t d : List UInt8}
    (htype : mqttCtlPacketType control = mqttMsgTypePublish)
    (hqos : mqttCtlPacketQos control = 0) (hidle : w.client.msgIdx = 0)
    (hpub : w.client.pubCb = true) (hcb : w.client.dataCb = true) (hd : d ≠ [])
    (hlength : (publishBody t d).length < 128 ^ 4)
    (htopic : 1 + (Varint.encode (publishBody t d).length).length + 2 + t.length < 128) :
    ∃ (ds : List (List UInt8)) (w' : World),
      mqttParseIncoming net
        (control :: (Varint.encode (publishBody t d).length ++ publishBody t d)) w =
          .ok (w', mqttConnectAccepted) ∧
      w'.log = w.log ++ .publish w.client.inpubArg (t.takeWhile (· ≠ 0)) (UInt32.ofNat d.length) ::
        dataCalls w.client.inpubArg ds ∧
      ds.flatten = d ∧ w'.client.msgIdx = 0 := by
  have hfour := Varint.encode_length_le (k := 4) (by omega) hlength
  have hone := Varint.encode_length_pos (publishBody t d).length
  have hbody := length_publish_body t d
  have hpos := List.length_pos_of_ne_nil hd
  have hvalue := Varint.value_encode (publishBody t d).length
  have hfirst : (Locals.mk 0 0 0).header := .inl Nat.two_pos
  have hheader : (Locals.mk 1 0 control).header := .inl Nat.one_lt_two
  have hidx : w.client.msgIdx.toNat = 0 := by rw [hidle, UInt32.toNat_zero]
  have hstore : w.storeRx control =
      w.holding (Function.update w.client.rxBuffer 0 control) (UInt32.ofNat (0 + 1)) := by
    unfold World.storeRx
    rw [hidx, hidle]
    rfl
  have hstep (input : List UInt8) : parsed net w ⟨0, 0, 0⟩ (control :: input) =
      parsed net (w.holding (Function.update w.client.rxBuffer 0 control) (UInt32.ofNat (0 + 1)))
        ⟨0 + 1, 0, control⟩ input := by
    rw [parsed_header net (tracks_idle hidle 0).paced hfirst, header_turn_next net hidx, hstore]
    rfl
  obtain ⟨rx, r, b, hkeep, hb, hr, hread⟩ := @read_length net w
    (Function.update w.client.rxBuffer 0 control) _
    (Varint.terminated_encode (publishBody t d).length) 0 (by omega) 0 (by norm_num) control
    hheader (by rw [hvalue]; omega) (publishBody t d)
  have hcontrol : rx 0 = control := (hkeep 0 le_rfl).trans (Function.update_self ..)
  have htotal : r.toNat = (publishBody t d).length := by
    rw [hr, hvalue, UInt32.toNat_zero, Nat.mul_zero, Nat.pow_zero, Nat.one_mul, Nat.zero_add]
  rw [← hcontrol] at htype hqos
  obtain ⟨ds, w', hflat, hzero, hlog, hrun⟩ := read_body net (w := w) htype hqos hpub hcb
    (f := 0 + 1 + (Varint.encode (publishBody t d).length).length) (by omega) (by omega) hb hd
    htotal (by omega) (by omega)
  refine ⟨ds, w', ?_, hlog, hflat, hzero⟩
  rw [parse_eq, hstep, hread, hrun]

end

/-- A payload that runs round the buffer twice. -/
theorem publish_delivered_round : ∃ w,
    Runs.run (step openNet) mqttClientNew [.connect true 0 exampleInfo, .connected .ok,
      .setInpub true true 7] = .ok w ∧
    ∃ (ds : List (List UInt8)) (w' : World),
      mqttParseIncoming openNet
        (0x30 :: (Varint.encode (publishBody [0x61] (List.replicate 300 5)).length ++
          publishBody [0x61] (List.replicate 300 5))) w = .ok (w', mqttConnectAccepted) ∧
      w'.log = w.log ++ .publish w.client.inpubArg ([0x61].takeWhile (· ≠ 0))
        (UInt32.ofNat (List.replicate 300 (5 : UInt8)).length) ::
          dataCalls w.client.inpubArg ds ∧
      ds.flatten = List.replicate 300 5 ∧ w'.client.msgIdx = 0 := by
  have hrun : Runs.run (step openNet) mqttClientNew [.connect true 0 exampleInfo, .connected .ok,
      .setInpub true true 7] = .ok _ := rfl
  have hlength : (publishBody [0x61] (List.replicate 300 5)).length = 303 := by
    rw [length_publish_body, List.length_replicate]
    rfl
  have htopic : 1 + (Varint.encode (publishBody [0x61] (List.replicate 300 5)).length).length +
      2 + 1 < 128 := by
    rw [hlength, Varint.encode_large (by omega), Varint.encode_small (by omega)]
    decide
  have hsome : List.replicate 300 (5 : UInt8) ≠ [] := by
    rw [ne_eq, List.replicate_eq_nil_iff]
    omega
  exact ⟨_, hrun, publish_delivered openNet rfl rfl rfl rfl rfl hsome (by rw [hlength]; omega)
    htopic⟩

end Mqtt
