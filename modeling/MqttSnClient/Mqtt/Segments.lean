import MqttSnClient.Mqtt.Lifecycle

namespace Mqtt
open Memory Outcome

section

variable (net : Net) {w : World} {l : Locals}

theorem parse_loop_nil (n : ℕ) (w : World) (l : Locals) :
    parseLoop net n w l [] = .ok (w, mqttConnectAccepted) := by
  cases n <;> rfl

theorem parse_loop_more {m n : ℕ} {input : List UInt8} (hpaced : Paced w l)
    (hm : input.length + owed w l ≤ m) (hmn : m ≤ n) :
    parseLoop net n w l input = parseLoop net m w l input := by
  induction m generalizing n w l input with
  | zero =>
    obtain rfl : input = [] := List.length_eq_zero_iff.mp (by omega)
    rw [parse_loop_nil, parse_loop_nil]
  | succ m ih =>
    cases input with
    | nil => rw [parse_loop_nil, parse_loop_nil]
    | cons b input =>
      obtain ⟨n, rfl⟩ : ∃ n', n = n' + 1 := ⟨n - 1, by omega⟩
      unfold parseLoop
      by_cases hl : l.header
      · rw [if_pos hl, if_pos hl]
        apply (header_turn_paced net b input hpaced hl).bind_congr
        rintro r ⟨hp, hless⟩
        exact ih hp (by omega) (by omega)
      · rw [if_neg hl, if_neg hl]
        apply (body_turn_paced net b input hpaced hl).bind_congr
        intro r hnext
        by_cases hstop : r.2.2.2 ≠ mqttConnectAccepted
        · rw [if_pos hstop, if_pos hstop]
        · rw [if_neg hstop, if_neg hstop]
          obtain ⟨hp, hless⟩ := hnext (not_not.mp hstop)
          exact ih hp (by omega) (by omega)

/-- The loop of the parser with as many turns as it needs. -/
def parsed (w : World) (l : Locals) (input : List UInt8) :
    Except Fault (World × MqttConnectionStatus) :=
  parseLoop net (input.length + owed w l) w l input

theorem parsed_nil (w : World) (l : Locals) :
    parsed net w l [] = .ok (w, mqttConnectAccepted) := parse_loop_nil net _ w l

theorem parse_eq (p : List UInt8) (w : World) :
    mqttParseIncoming net p w = parsed net w ⟨0, 0, 0⟩ p := by
  obtain ⟨hpaced, howed⟩ := owed_start w
  exact parse_loop_more net hpaced le_rfl (by omega)

theorem parsed_header (hpaced : Paced w l) (hl : l.header) (b : UInt8) (input : List UInt8) :
    parsed net w l (b :: input) =
      headerTurn net w l (b :: input) >>= fun r => parsed net r.1 r.2.1 r.2.2 := by
  obtain ⟨n, hn⟩ : ∃ n, (b :: input).length + owed w l = n + 1 :=
    ⟨input.length + owed w l, by rw [List.length_cons]; omega⟩
  rw [parsed, hn]
  unfold parseLoop
  rw [if_pos hl]
  apply (header_turn_paced net b input hpaced hl).bind_congr
  rintro r ⟨hp, hless⟩
  exact parse_loop_more net hp le_rfl (by omega)

theorem parsed_body (hpaced : Paced w l) (hl : ¬ l.header) (b : UInt8) (input : List UInt8) :
    parsed net w l (b :: input) = bodyTurn net w l (b :: input) >>= fun r =>
      if r.2.2.2 ≠ mqttConnectAccepted then .ok (r.1, r.2.2.2)
      else parsed net r.1 r.2.1 r.2.2.1 := by
  obtain ⟨n, hn⟩ : ∃ n, (b :: input).length + owed w l = n + 1 :=
    ⟨input.length + owed w l, by rw [List.length_cons]; omega⟩
  rw [parsed, hn]
  unfold parseLoop
  rw [if_neg hl]
  apply (body_turn_paced net b input hpaced hl).bind_congr
  intro r hnext
  by_cases hstop : r.2.2.2 ≠ mqttConnectAccepted
  · rw [if_pos hstop, if_pos hstop]
  · rw [if_neg hstop, if_neg hstop]
    obtain ⟨hp, hless⟩ := hnext (not_not.mp hstop)
    exact parse_loop_more net hp le_rfl (by omega)

/-- The remaining length as far as the first `n` bytes of the buffer give it. -/
def lengthTo (rx : ℕ → UInt8) : ℕ → UInt32
  | 0 => 0
  | n + 1 => if n = 0 then 0 else addLength (lengthTo rx n) (rx n) (n + 1)

theorem length_to_congr {rx rx' : ℕ → UInt8} {n : ℕ} (h : ∀ i < n, rx' i = rx i) :
    lengthTo rx' n = lengthTo rx n := by
  induction n with
  | zero => rfl
  | succ n ih =>
    rw [lengthTo, lengthTo, ih fun i hi => h i (by omega), h n (by omega)]

/-- The local variables of the parser are those that it would read back from the buffer. -/
structure Tracks (w : World) (l : Locals) : Prop where
  idx : l.fixedHdrIdx ≤ 6
  more : ∀ i, 1 ≤ i → i + 1 < l.fixedHdrIdx → w.client.rxBuffer i &&& 0x80 ≠ 0
  last : ∀ i, l.fixedHdrIdx = i + 1 → l.b = w.client.rxBuffer i
  start : l.header → w.client.msgIdx.toNat = l.fixedHdrIdx ∧
    l.msgRemLen = lengthTo w.client.rxBuffer l.fixedHdrIdx
  body : ¬ l.header → l.fixedHdrIdx ≤ w.client.msgIdx.toNat ∧
    lengthTo w.client.rxBuffer l.fixedHdrIdx ≠ 0 ∧ l.msgRemLen ≠ 0 ∧
      l.msgRemLen = lengthTo w.client.rxBuffer l.fixedHdrIdx + UInt32.ofNat l.fixedHdrIdx -
        w.client.msgIdx

theorem Tracks.paced (h : Tracks w l) : Paced w l := ⟨h.idx, fun hl => (h.start hl).1.ge⟩

theorem tracks_idle (hidle : w.client.msgIdx = 0) (b : UInt8) : Tracks w ⟨0, 0, b⟩ := by
  have hheader : (Locals.mk 0 0 b).header := .inl Nat.two_pos
  refine ⟨Nat.zero_le 6, by simp, by simp, fun _ => ⟨by simp [hidle], rfl⟩, fun hn => ?_⟩
  exact absurd hheader hn

/-- The local variables after `n` bytes of the buffer, all of them in the header. -/
def readBack (rx : ℕ → UInt8) (n : ℕ) : Locals := ⟨n, lengthTo rx n, rx (n - 1)⟩

theorem parsed_first (x y b : UInt8) (input : List UInt8) :
    parsed net w ⟨0, 0, x⟩ (b :: input) = parsed net w ⟨0, 0, y⟩ (b :: input) := by
  have hheader (z : UInt8) : (Locals.mk 0 0 z).header := .inl Nat.two_pos
  have hpaced (z : UInt8) : Paced w ⟨0, 0, z⟩ := ⟨Nat.zero_le 6, fun _ => Nat.zero_le _⟩
  rw [parsed_header net (hpaced x) (hheader x), parsed_header net (hpaced y) (hheader y)]
  rfl

/-- A byte of the header that is in the buffer already. -/
theorem parsed_old {j : ℕ} (hj : j < w.client.msgIdx.toNat) (hfive : j ≤ 5)
    (hheader : (readBack w.client.rxBuffer j).header) (b : UInt8) (input : List UInt8) :
    parsed net w (readBack w.client.rxBuffer j) (b :: input) =
      headerByte net w (readBack w.client.rxBuffer j) (w.client.rxBuffer j) (b :: input) >>=
        fun r => parsed net r.1 r.2.1 r.2.2 := by
  have hpaced : Paced w (readBack w.client.rxBuffer j) :=
    ⟨hfive.trans (Nat.le_succ 5), fun _ => hj.le⟩
  rw [parsed_header net hpaced hheader, headerTurn]
  congr 1
  exact if_pos hj

theorem parsed_old_more {j : ℕ} (hj : j < w.client.msgIdx.toNat) (hfive : j ≤ 5)
    (hheader : (readBack w.client.rxBuffer j).header)
    (hnext : j + 1 < 2 ∨ w.client.rxBuffer j &&& 0x80 ≠ 0) (b : UInt8) (input : List UInt8) :
    parsed net w (readBack w.client.rxBuffer j) (b :: input) =
      parsed net w (readBack w.client.rxBuffer (j + 1)) (b :: input) := by
  rw [parsed_old net hj hfive hheader]
  have hlength (h2 : ¬ j + 1 < 2) : addLength (lengthTo w.client.rxBuffer j)
      (w.client.rxBuffer j) (j + 1) = lengthTo w.client.rxBuffer (j + 1) := by
    rw [lengthTo, if_neg (by omega)]
  unfold headerByte
  by_cases h2 : j + 1 < 2
  · obtain rfl : j = 0 := by omega
    rfl
  · have hshift : ¬ (j + 1 - 2) * 7 ≥ 32 := by omega
    have hmore := hnext.resolve_left h2
    simp only [readBack, if_neg h2, if_neg hshift, hlength h2, if_pos hmore]
    rfl

theorem parsed_old_last {j : ℕ} (hj : j < w.client.msgIdx.toNat) (hfive : j ≤ 5)
    (hheader : (readBack w.client.rxBuffer j).header) (h2 : ¬ j + 1 < 2)
    (hlast : ¬ w.client.rxBuffer j &&& 0x80 ≠ 0)
    (hlength : lengthTo w.client.rxBuffer (j + 1) ≠ 0) (b : UInt8) (input : List UInt8) :
    parsed net w (readBack w.client.rxBuffer j) (b :: input) =
      parsed net w ⟨j + 1, lengthTo w.client.rxBuffer (j + 1) + UInt32.ofNat (j + 1) -
        w.client.msgIdx, w.client.rxBuffer j⟩ (b :: input) := by
  rw [parsed_old net hj hfive hheader]
  have hsame : addLength (lengthTo w.client.rxBuffer j) (w.client.rxBuffer j) (j + 1) =
      lengthTo w.client.rxBuffer (j + 1) := by
    rw [lengthTo, if_neg (by omega)]
  have hshift : ¬ (j + 1 - 2) * 7 ≥ 32 := by omega
  unfold headerByte
  simp only [readBack, if_neg h2, if_neg hshift, hsame, if_neg hlast, if_neg hlength]
  rfl

/-- A later segment takes the parser back to where the last one left it. -/
theorem replay (h : Tracks w l) (b : UInt8) (input : List UInt8) :
    parsed net w ⟨0, 0, 0⟩ (b :: input) = parsed net w l (b :: input) := by
  have hstored : l.fixedHdrIdx ≤ w.client.msgIdx.toNat := by
    by_cases hl : l.header
    · exact (h.start hl).1.ge
    · exact (h.body hl).1
  have hheader (j : ℕ) (hj : j < l.fixedHdrIdx) : (readBack w.client.rxBuffer j).header := by
    by_cases h2 : j < 2
    · exact .inl h2
    · exact .inr (h.more (j - 1) (by omega) (by omega))
  -- byte by byte, as long as the stored header goes on
  have hback (j : ℕ) (hj : j < l.fixedHdrIdx ∨ (j = l.fixedHdrIdx ∧ l.header)) :
      parsed net w ⟨0, 0, 0⟩ (b :: input) =
        parsed net w (readBack w.client.rxBuffer j) (b :: input) := by
    induction j with
    | zero => exact parsed_first net 0 _ b input
    | succ j ih =>
      have hsix := h.idx
      rw [ih (.inl (by omega))]
      apply parsed_old_more net (by omega) (by omega) (hheader j (by omega))
      by_cases h2 : j + 1 < 2
      · exact .inl h2
      · right
        rcases hj with hj | ⟨hj, hl⟩
        · exact h.more j (by omega) hj
        · rw [← h.last j hj.symm]
          exact hl.resolve_left (by omega)
  by_cases hl : l.header
  · rw [hback l.fixedHdrIdx (.inr ⟨rfl, hl⟩)]
    have hlength := (h.start hl).2
    obtain ⟨f, r, x⟩ := l
    cases f with
    | zero =>
      obtain rfl : r = 0 := hlength
      exact parsed_first net _ _ b input
    | succ f =>
      rw [readBack, ← hlength]
      have hx : x = w.client.rxBuffer f := h.last f rfl
      rw [hx]
      rfl
  -- the last byte of the header leaves what the message still lacks
  · obtain ⟨-, hlength, -, hrem⟩ := h.body hl
    have h2 : ¬ l.fixedHdrIdx < 2 := fun hlt => hl (.inl hlt)
    obtain ⟨j, hj⟩ : ∃ j, l.fixedHdrIdx = j + 1 := ⟨l.fixedHdrIdx - 1, by omega⟩
    have hsix := h.idx
    have hx := h.last j hj
    have hlast : ¬ w.client.rxBuffer j &&& 0x80 ≠ 0 := by
      rw [← hx]
      exact fun hb => hl (.inr hb)
    rw [hj] at hlength hrem h2
    rw [hback j (.inl (by omega)), parsed_old_last net (by omega) (by omega)
      (hheader j (by omega)) h2 hlast hlength, ← hrem, ← hj, ← hx]

/-- The parser stands at the start of a message. -/
theorem tracks_reset (w : World) {r : UInt32} (hr : r = 0) (b : UInt8) :
    Tracks { w with client.msgIdx := 0 } ⟨0, r, b⟩ := by
  subst hr
  exact tracks_idle rfl b

/-- One more byte of the header. -/
theorem header_byte_tracks (h : Tracks w l) (hl : l.header) (b : UInt8) (input : List UInt8) :
    Post (fun r => Tracks r.1 r.2.1 ∧ r.2.2 = input ∧
      r.1.client.msgIdx.toNat ≤ w.client.msgIdx.toNat + 1) (fun _ => True)
      (headerByte net (w.storeRx b) l b input) := by
  obtain ⟨hidx, hrem⟩ := h.start hl
  have hnext := store_next (w := w) (l := l) b hidx h.idx
  have hself : (w.storeRx b).client.rxBuffer l.fixedHdrIdx = b := by
    rw [← hidx]
    exact Function.update_self ..
  have hother (i : ℕ) (hi : i < l.fixedHdrIdx) :
      (w.storeRx b).client.rxBuffer i = w.client.rxBuffer i := by
    apply Function.update_of_ne
    omega
  have hmore (i : ℕ) (h1 : 1 ≤ i) (hi : i + 1 < l.fixedHdrIdx + 1) :
      (w.storeRx b).client.rxBuffer i &&& 0x80 ≠ 0 := by
    rw [hother i (by omega)]
    by_cases hlast : i + 1 = l.fixedHdrIdx
    · rw [← h.last i hlast.symm]
      exact hl.resolve_left (by omega)
    · exact h.more i h1 (by omega)
  have hlast (i : ℕ) (hi : l.fixedHdrIdx + 1 = i + 1) : b = (w.storeRx b).client.rxBuffer i := by
    rw [← Nat.succ.inj hi, hself]
  have hlength (h2 : ¬ l.fixedHdrIdx + 1 < 2) :
      lengthTo (w.storeRx b).client.rxBuffer (l.fixedHdrIdx + 1) =
        addLength l.msgRemLen b (l.fixedHdrIdx + 1) := by
    rw [lengthTo, if_neg (by omega), hself, length_to_congr hother, ← hrem]
  unfold headerByte
  dsimp only
  -- the cases are the branches of the source: first byte, a length that goes on, an empty
  -- message, a body
  by_cases h2 : l.fixedHdrIdx + 1 < 2
  · rw [if_pos h2]
    have hzero : l.fixedHdrIdx = 0 := by omega
    have hheader : (Locals.mk (l.fixedHdrIdx + 1) l.msgRemLen b).header := .inl h2
    refine ⟨⟨?_, hmore, hlast, fun _ => ⟨hnext, ?_⟩, fun hn => absurd hheader hn⟩, rfl, ?_⟩
    · simp only
      omega
    · simp only [hrem, hzero]
      rfl
    · simp only
      omega
  rw [if_neg h2]
  by_cases hshift : (l.fixedHdrIdx + 1 - 2) * 7 ≥ 32
  · rw [if_pos hshift]
    trivial
  rw [if_neg hshift]
  have hlen := hlength h2
  generalize addLength l.msgRemLen b (l.fixedHdrIdx + 1) = r at hlen
  by_cases hcont : b &&& 0x80 ≠ 0
  · rw [if_pos hcont]
    have hheader : (Locals.mk (l.fixedHdrIdx + 1) r b).header := .inr hcont
    refine ⟨⟨?_, hmore, hlast, fun _ => ⟨hnext, hlen.symm⟩, fun hn => absurd hheader hn⟩, rfl, ?_⟩
    · simp only
      omega
    · simp only
      omega
  rw [if_neg hcont]
  by_cases hempty : r = 0
  · rw [if_pos hempty]
    apply (any_post _).bind
    intro a _
    exact ⟨tracks_reset a.1 hempty b, rfl, by simp⟩
  · rw [if_neg hempty]
    have hsame : UInt32.ofNat (l.fixedHdrIdx + 1) = (w.storeRx b).client.msgIdx := by
      rw [← hnext, UInt32.ofNat_toNat]
    have hbody : ¬ (Locals.mk (l.fixedHdrIdx + 1)
        (r + UInt32.ofNat (l.fixedHdrIdx + 1) - (w.storeRx b).client.msgIdx) b).header := by
      rintro (hlt | hb)
      · exact h2 hlt
      · exact hcont hb
    refine ⟨⟨?_, hmore, hlast, fun hh => absurd hh hbody, fun _ => ⟨hnext.ge, ?_, ?_, ?_⟩⟩, rfl, ?_⟩
    · simp only
      omega
    · rw [hlen]
      exact hempty
    · simp only [hsame, UInt32.add_sub_cancel]
      exact hempty
    · simp only [hlen]
    · simp only
      omega

/-- What the parser has stored is as it was. -/
def Stored (w w' : World) : Prop :=
  w'.client.msgIdx = w.client.msgIdx ∧ w'.client.rxBuffer = w.client.rxBuffer

theorem stored_refl (w : World) : Stored w w := ⟨rfl, rfl⟩

theorem connack_stored (fixedHdrIdx : ℕ) :
    Post (fun a => Stored w a.1) (fun _ => True) (connackReceived net fixedHdrIdx w) := by
  unfold connackReceived
  dsimp only
  split_ifs with hs hacc hcb
  · apply (accepted_steady net hacc).bind
    intro w' hw'
    exact ⟨hw'.msgIdx, hw'.rxBuffer⟩
  · exact ⟨rfl, rfl⟩
  · exact stored_refl w
  · exact stored_refl w

theorem publish_data_stored (fixedHdrIdx payloadOffset length : ℕ) (remaining : UInt32)
    (qos : UInt8) : Post (Stored w) (fun _ => True)
      (publishData net fixedHdrIdx payloadOffset length remaining qos w) := by
  unfold publishData publishAnswer
  dsimp only
  generalize (if qos = 1 then mqttMsgTypePuback else mqttMsgTypePubrec) = msg
  split_ifs
  · trivial
  all_goals first
    | exact ⟨rfl, rfl⟩
    | exact (response_steady net).bind fun a ha => ⟨ha.msgIdx, ha.rxBuffer⟩

theorem publish_stored (fixedHdrIdx length : ℕ) (remaining : UInt32) :
    Post (fun a => Stored w a.1) (fun _ => True)
      (publishReceived net fixedHdrIdx length remaining w) := by
  have htopic (qos : UInt8) : Post (fun a => ∀ b, a = some b → Stored w b.1) (fun _ => True)
      (publishTopic fixedHdrIdx length remaining qos w) := by
    unfold publishTopic tellTopic
    dsimp only
    split_ifs
    · rintro b ⟨⟩
    · trivial
    all_goals
      rintro b ⟨⟩
      exact ⟨rfl, rfl⟩
  unfold publishReceived
  dsimp only
  split_ifs
  · apply (htopic _).bind
    intro start hstart
    cases start with
    | none => exact stored_refl w
    | some b =>
      have hb := hstart b rfl
      apply (publish_data_stored net fixedHdrIdx _ _ remaining _).bind
      intro w' hw'
      exact ⟨hw'.1.trans hb.1, hw'.2.trans hb.2⟩
  · exact (publish_data_stored net fixedHdrIdx 0 length remaining _).bind fun w' hw' => hw'

theorem reply_stored (pktType : UInt8) (pktId : UInt16) (fixedHdrIdx length : ℕ) :
    Post (fun a => Stored w a.1) (fun _ => True)
      (replyReceived pktType pktId fixedHdrIdx length w) := by
  unfold replyReceived
  apply (any_post _).bind
  intro taken _
  dsimp only
  split
  · exact ⟨rfl, rfl⟩
  · split_ifs
    · exact ⟨rfl, rfl⟩
    · exact ⟨rfl, rfl⟩
    · exact ⟨rfl, rfl⟩

/-- The answer to a message leaves what the parser has stored. -/
theorem message_stored (fixedHdrIdx length : ℕ) (remaining : UInt32) :
    Post (fun a => Stored w a.1) (fun _ => True)
      (mqttMessageReceived net fixedHdrIdx length remaining w) := by
  unfold mqttMessageReceived
  dsimp only
  split_ifs
  · exact connack_stored net fixedHdrIdx
  · exact stored_refl w
  · exact publish_stored net fixedHdrIdx length remaining
  · exact stored_refl w
  · exact (response_steady net).bind fun a ha => ⟨ha.msgIdx, ha.rxBuffer⟩
  · exact (response_steady net).bind fun a ha => ⟨ha.msgIdx, ha.rxBuffer⟩
  · exact reply_stored _ _ fixedHdrIdx length
  · exact stored_refl w

/-- Part of the body was copied, and more of it is to come. -/
theorem tracks_copied (h : Tracks w l) (hl : ¬ l.header) {w' : World} {n : ℕ}
    (hrx : ∀ i < l.fixedHdrIdx, w'.client.rxBuffer i = w.client.rxBuffer i)
    (hidx : w'.client.msgIdx = w.client.msgIdx + UInt32.ofNat n)
    (hwrap : w.client.msgIdx.toNat + n < 2 ^ 32) (hrem : l.msgRemLen - UInt32.ofNat n ≠ 0) :
    Tracks w' ⟨l.fixedHdrIdx, l.msgRemLen - UInt32.ofNat n, l.b⟩ := by
  obtain ⟨hle, hlength, -, hsame⟩ := h.body hl
  have hbody : ¬ (Locals.mk l.fixedHdrIdx (l.msgRemLen - UInt32.ofNat n) l.b).header := hl
  have hcongr := length_to_congr hrx
  refine ⟨h.idx, fun i h1 hi => ?_, fun i hi => ?_, fun hh => absurd hh hbody,
    fun _ => ⟨?_, ?_, hrem, ?_⟩⟩
  · rw [hrx i (by simp only at hi; omega)]
    exact h.more i h1 hi
  · rw [hrx i (by simp only at hi; omega)]
    exact h.last i hi
  · rw [hidx, UInt32.toNat_add, UInt32.toNat_ofNat']
    simp only
    omega
  · rw [hcongr]
    exact hlength
  · simp only [hcongr, hidx, hsame]
    grind

theorem Tracks.stored (h : Tracks w l) {w' : World} (hs : Stored w w') : Tracks w' l := by
  obtain ⟨hidx, hrx⟩ := hs
  refine ⟨h.idx, ?_, ?_, ?_, ?_⟩
  · rw [hrx]
    exact h.more
  · rw [hrx]
    exact h.last
  · rw [hidx, hrx]
    exact h.start
  · rw [hidx, hrx]
    exact h.body

theorem body_end_tracks {r : UInt32} (hstay : r ≠ 0 → Tracks w ⟨l.fixedHdrIdx, r, l.b⟩)
    (full : Bool) (length : ℕ) (input : List UInt8) :
    Post (fun a => a.2.2.2 = mqttConnectAccepted → Tracks a.1 a.2.1 ∧ a.2.2.1 = input ∧
      a.1.client.msgIdx.toNat ≤ w.client.msgIdx.toNat) (fun _ => True)
      (bodyEnd net w l full length r input) := by
  unfold bodyEnd
  by_cases hcall : r = 0 ∨ full = true
  · rw [if_pos hcall]
    apply (message_stored net l.fixedHdrIdx length r).bind
    intro a ha
    by_cases hstop : a.2 ≠ mqttConnectAccepted
    · rw [if_pos hstop]
      exact fun hacc => absurd hacc hstop
    rw [if_neg hstop]
    by_cases hend : r = 0
    · rw [if_pos hend]
      exact fun _ => ⟨tracks_reset a.1 hend l.b, rfl, by simp⟩
    · rw [if_neg hend]
      exact fun _ => ⟨(hstay hend).stored ha, rfl, by rw [ha.1]⟩
  · rw [if_neg hcall]
    exact fun _ => ⟨hstay fun hend => hcall (.inl hend), rfl, le_rfl⟩

theorem body_turn_tracks (h : Tracks w l) (hl : ¬ l.header) {p : List UInt8} (hne : p ≠ [])
    (hwrap : w.client.msgIdx.toNat + p.length < 2 ^ 32) :
    Post (fun r => r.2.2.2 = mqttConnectAccepted → Tracks r.1 r.2.1 ∧
      r.2.2.1.length < p.length ∧
      r.1.client.msgIdx.toNat + r.2.2.1.length ≤ w.client.msgIdx.toNat + p.length)
      (fun _ => True) (bodyTurn net w l p) := by
  obtain ⟨hstart, hspace⟩ := cpy_start_bounds h.idx w.client.msgIdx
  have hpos := List.length_pos_of_ne_nil hne
  have hrem : 0 < l.msgRemLen.toNat :=
    Nat.pos_of_ne_zero fun h0 => (h.body hl).2.2.1 (UInt32.toNat_inj.mp h0)
  unfold bodyTurn
  dsimp only
  generalize cpyStart l.fixedHdrIdx w.client.msgIdx = start at hstart hspace
  obtain ⟨n, hn⟩ : ∃ n, min (min p.length l.msgRemLen.toNat) (mqttVarHeaderBufferLen - start) = n :=
    ⟨_, rfl⟩
  have htake : (p.take n).length = n := by
    rw [List.length_take]
    omega
  have hidx : (w.copyRx start (p.take n)).client.msgIdx = w.client.msgIdx + UInt32.ofNat n := by
    rw [World.copyRx, htake]
  have hnat : (w.copyRx start (p.take n)).client.msgIdx.toNat = w.client.msgIdx.toNat + n := by
    rw [hidx, UInt32.toNat_add, UInt32.toNat_ofNat']
    omega
  have hrx (i : ℕ) (hi : i < l.fixedHdrIdx) :
      (w.copyRx start (p.take n)).client.rxBuffer i = w.client.rxBuffer i :=
    memcpy_outside _ _ _ _ (.inl (by omega))
  rw [hn]
  refine (body_end_tracks net (tracks_copied h hl hrx hidx (by omega)) _ _ _).mono ?_
    fun _ he => he
  intro r hr hacc
  obtain ⟨ht, hin, hle⟩ := hr hacc
  refine ⟨ht, ?_, ?_⟩
  · rw [hin, List.length_drop]
    omega
  · rw [hin, List.length_drop]
    omega

theorem header_turn_next (hidx : w.client.msgIdx.toNat = l.fixedHdrIdx) (b : UInt8)
    (input : List UInt8) :
    headerTurn net w l (b :: input) = headerByte net (w.storeRx b) l b input :=
  if_neg hidx.le.not_gt

theorem header_byte_append (w : World) (l : Locals) (b : UInt8) (input q : List UInt8) :
    headerByte net w l b (input ++ q) =
      headerByte net w l b input >>= fun r => .ok (r.1, r.2.1, r.2.2 ++ q) := by
  unfold headerByte
  dsimp only
  split_ifs
  · rfl
  · rfl
  · rfl
  · generalize mqttMessageReceived net (l.fixedHdrIdx + 1) 0 0 w = x
    cases x <;> rfl
  · rfl

theorem body_end_append (w : World) (l : Locals) (full : Bool) (length : ℕ) (r : UInt32)
    (input q : List UInt8) : bodyEnd net w l full length r (input ++ q) =
      bodyEnd net w l full length r input >>= fun a =>
        .ok (a.1, a.2.1, a.2.2.1 ++ q, a.2.2.2) := by
  unfold bodyEnd
  by_cases hcall : r = 0 ∨ full = true
  · rw [if_pos hcall, if_pos hcall]
    generalize mqttMessageReceived net l.fixedHdrIdx length r w = x
    cases x with
    | error e => rfl
    | ok a =>
      change (if a.2 ≠ mqttConnectAccepted then _ else _) = (if _ then _ else _) >>= _
      split_ifs <;> rfl
  · rw [if_neg hcall, if_neg hcall]
    rfl

/-- A turn that the segment does not cut short. -/
theorem body_turn_whole {p : List UInt8} (q : List UInt8)
    (hwhole : min l.msgRemLen.toNat
      (mqttVarHeaderBufferLen - cpyStart l.fixedHdrIdx w.client.msgIdx) ≤ p.length) :
    bodyTurn net w l (p ++ q) = bodyTurn net w l p >>= fun a =>
      .ok (a.1, a.2.1, a.2.2.1 ++ q, a.2.2.2) := by
  unfold bodyTurn
  dsimp only
  generalize cpyStart l.fixedHdrIdx w.client.msgIdx = start at hwhole
  obtain ⟨n, hn⟩ : ∃ n, min (min p.length l.msgRemLen.toNat) (mqttVarHeaderBufferLen - start) = n :=
    ⟨_, rfl⟩
  have hsame : min (min (p ++ q).length l.msgRemLen.toNat) (mqttVarHeaderBufferLen - start) = n := by
    rw [List.length_append]
    omega
  have hle : n ≤ p.length := by omega
  rw [hn, hsame, List.take_append_of_le_length hle, List.drop_append_of_le_length hle]
  exact body_end_append net _ l _ _ _ _ q

theorem cpy_start_add {fixedHdrIdx n : ℕ} {msgIdx : UInt32} (hle : fixedHdrIdx ≤ msgIdx.toNat)
    (hwrap : msgIdx.toNat + n < 2 ^ 32)
    (hspace : n < mqttVarHeaderBufferLen - cpyStart fixedHdrIdx msgIdx) :
    cpyStart fixedHdrIdx (msgIdx + UInt32.ofNat n) = cpyStart fixedHdrIdx msgIdx + n := by
  have hnat : (UInt32.ofNat fixedHdrIdx).toNat = fixedHdrIdx := by
    rw [UInt32.toNat_ofNat']
    omega
  have hsum : (msgIdx + UInt32.ofNat n).toNat = msgIdx.toNat + n := by
    rw [UInt32.toNat_add, UInt32.toNat_ofNat']
    omega
  have hsub (m : UInt32) (hm : fixedHdrIdx ≤ m.toNat) :
      (m - UInt32.ofNat fixedHdrIdx).toNat = m.toNat - fixedHdrIdx := by
    rw [UInt32.toNat_sub_of_le _ _ (by rwa [UInt32.le_iff_toNat_le, hnat]), hnat]
  unfold cpyStart at hspace ⊢
  rw [hsub _ hle] at hspace ⊢
  rw [hsub _ (by omega), hsum]
  have hmove : msgIdx.toNat + n - fixedHdrIdx = msgIdx.toNat - fixedHdrIdx + n := by omega
  have hsmall : n % (mqttVarHeaderBufferLen - fixedHdrIdx) = n := Nat.mod_eq_of_lt (by omega)
  rw [hmove, Nat.add_mod_of_add_mod_lt (by omega), hsmall]
  omega

theorem copy_rx_append (w : World) (start : ℕ) (xs ys : List UInt8) :
    (w.copyRx start xs).copyRx (start + xs.length) ys = w.copyRx start (xs ++ ys) := by
  simp only [World.copyRx, memcpy_append, List.length_append, UInt32.ofNat_add, UInt32.add_assoc]

theorem length_left {r : UInt32} {n : ℕ} (hn : n ≤ r.toNat) :
    (r - UInt32.ofNat n).toNat = r.toNat - n := by
  have hsmall := r.toNat_lt
  have hnat : (UInt32.ofNat n).toNat = n := by
    rw [UInt32.toNat_ofNat']
    omega
  have hle : UInt32.ofNat n ≤ r := by rwa [UInt32.le_iff_toNat_le, hnat]
  rw [UInt32.toNat_sub_of_le _ _ hle, hnat]

/-- A turn that the segment cuts short is ended by the next one. -/
theorem body_turn_part (h : Tracks w l) (hl : ¬ l.header) {p : List UInt8}
    (hwrap : w.client.msgIdx.toNat + p.length < 2 ^ 32)
    (hshort : p.length < min l.msgRemLen.toNat
      (mqttVarHeaderBufferLen - cpyStart l.fixedHdrIdx w.client.msgIdx)) :
    ∃ w₁ l₁, Tracks w₁ l₁ ∧ ¬ l₁.header ∧
      bodyTurn net w l p = .ok (w₁, l₁, [], mqttConnectAccepted) ∧
      ∀ q, bodyTurn net w l (p ++ q) = bodyTurn net w₁ l₁ q := by
  obtain ⟨hstart, hspace⟩ := cpy_start_bounds h.idx w.client.msgIdx
  have hnext := cpy_start_add (h.body hl).1 hwrap (by omega)
  have hrem : (l.msgRemLen - UInt32.ofNat p.length).toNat = l.msgRemLen.toNat - p.length :=
    length_left (by omega)
  have hmore : l.msgRemLen - UInt32.ofNat p.length ≠ 0 := by
    intro h0
    rw [h0] at hrem
    simp only [UInt32.toNat_zero] at hrem
    omega
  refine ⟨w.copyRx (cpyStart l.fixedHdrIdx w.client.msgIdx) p,
    ⟨l.fixedHdrIdx, l.msgRemLen - UInt32.ofNat p.length, l.b⟩, ?_, hl, ?_, fun q => ?_⟩
  · apply tracks_copied h hl _ rfl hwrap hmore
    intro i hi
    exact memcpy_outside _ _ _ _ (.inl (by omega))
  · unfold bodyTurn
    dsimp only
    generalize cpyStart l.fixedHdrIdx w.client.msgIdx = start at hshort
    have hall : min (min p.length l.msgRemLen.toNat) (mqttVarHeaderBufferLen - start) = p.length := by
      omega
    rw [hall, List.take_length, List.drop_length]
    unfold bodyEnd
    apply if_neg
    rw [decide_eq_true_iff]
    rintro (hend | hfull)
    · exact hmore hend
    · omega
  · have hidx : (w.copyRx (cpyStart l.fixedHdrIdx w.client.msgIdx) p).client.msgIdx =
        w.client.msgIdx + UInt32.ofNat p.length := rfl
    unfold bodyTurn
    dsimp only
    rw [hidx, hnext, hrem, List.length_append]
    generalize cpyStart l.fixedHdrIdx w.client.msgIdx = start at hshort
    obtain ⟨n, hn⟩ : ∃ n, min (min q.length (l.msgRemLen.toNat - p.length))
        (mqttVarHeaderBufferLen - (start + p.length)) = n := ⟨_, rfl⟩
    have hsum : min (min (p.length + q.length) l.msgRemLen.toNat)
        (mqttVarHeaderBufferLen - start) = p.length + n := by omega
    have hfull : (p.length + n = mqttVarHeaderBufferLen - start) =
        (n = mqttVarHeaderBufferLen - (start + p.length)) := by
      ext
      omega
    have hend : l.msgRemLen - UInt32.ofNat (p.length + n) =
        l.msgRemLen - UInt32.ofNat p.length - UInt32.ofNat n := by
      rw [UInt32.ofNat_add]
      grind
    rw [hn, hsum, List.take_length_add_append, List.drop_length_add_append, copy_rx_append, hend,
      Nat.add_assoc start]
    simp only [hfull]
    rfl

theorem parse_tracked (h : Tracks w l) (q : List UInt8) :
    mqttParseIncoming net q w = parsed net w l q := by
  rw [parse_eq]
  cases q with
  | nil => rw [parsed_nil, parsed_nil]
  | cons b q => exact replay net h b q

/-- What the parser does with the next segment, unless it has refused a message. -/
def nextSegment (q : List UInt8) (r : World × MqttConnectionStatus) :
    Except Fault (World × MqttConnectionStatus) :=
  if r.2 ≠ mqttConnectAccepted then .ok r else mqttParseIncoming net q r.1

theorem parsed_append {p : List UInt8} (h : Tracks w l) (q : List UInt8)
    (hwrap : w.client.msgIdx.toNat + p.length < 2 ^ 32) :
    parsed net w l (p ++ q) = parsed net w l p >>= nextSegment net q := by
  induction hp : p.length using Nat.strong_induction_on generalizing w l p with
  | _ n ih =>
    subst hp
    cases p with
    | nil =>
      -- nothing was read here, so the next segment is read as if it came first
      rw [parsed_nil, List.nil_append, ← parse_tracked net h]
      rfl
    | cons b p =>
      by_cases hl : l.header
      · have hb := header_byte_append net (w.storeRx b) l b p q
        rw [List.cons_append, parsed_header net h.paced hl, parsed_header net h.paced hl,
          header_turn_next net (h.start hl).1, header_turn_next net (h.start hl).1, hb,
          bind_assoc, bind_assoc]
        apply (header_byte_tracks net h hl b p).bind_congr
        rintro r ⟨ht, hin, hle⟩
        have hlength : (b :: p).length = r.2.2.length + 1 := by rw [hin, List.length_cons]
        change parsed net r.1 r.2.1 (r.2.2 ++ q) = _
        exact ih _ (by omega) ht (by omega) rfl
      -- behind the header the cut matters only where it ends a turn early
      by_cases hshort : (b :: p).length < min l.msgRemLen.toNat
          (mqttVarHeaderBufferLen - cpyStart l.fixedHdrIdx w.client.msgIdx)
      · obtain ⟨w₁, l₁, ht, hl₁, hpart, hrest⟩ := body_turn_part net h hl hwrap hshort
        have hp : parsed net w l (b :: p) = .ok (w₁, mqttConnectAccepted) := by
          rw [parsed_body net h.paced hl, hpart]
          exact parsed_nil net w₁ l₁
        have hnext : nextSegment net q (w₁, mqttConnectAccepted) = parsed net w₁ l₁ q := by
          rw [← parse_tracked net ht]
          exact if_neg fun hne => hne rfl
        rw [hp]
        apply Eq.trans _ hnext.symm
        cases q with
        | nil => rw [List.append_nil, hp, parsed_nil]
        | cons c q =>
          rw [List.cons_append, parsed_body net h.paced hl, ← List.cons_append, hrest,
            parsed_body net ht.paced hl₁]
      · rw [List.cons_append, parsed_body net h.paced hl, parsed_body net h.paced hl,
          ← List.cons_append, body_turn_whole net q (by omega), bind_assoc, bind_assoc]
        apply (body_turn_tracks net h hl (List.cons_ne_nil b p) hwrap).bind_congr
        intro r hr
        change (if r.2.2.2 ≠ mqttConnectAccepted then .ok (r.1, r.2.2.2)
          else parsed net r.1 r.2.1 (r.2.2.1 ++ q)) = (if r.2.2.2 ≠ mqttConnectAccepted
            then .ok (r.1, r.2.2.2) else parsed net r.1 r.2.1 r.2.2.1) >>= nextSegment net q
        by_cases hstop : r.2.2.2 ≠ mqttConnectAccepted
        · rw [if_pos hstop, if_pos hstop]
          exact (if_pos hstop).symm
        · rw [if_neg hstop, if_neg hstop]
          obtain ⟨ht, hless, hle⟩ := hr (not_not.mp hstop)
          exact ih _ hless ht (by omega) rfl

/-- The segments of a stream one after the other, up to a message that the parser refuses. -/
def parseSegments : List (List UInt8) → World → Except Fault (World × MqttConnectionStatus)
  | [], w => .ok (w, mqttConnectAccepted)
  | p :: ps, w => mqttParseIncoming net p w >>= fun r =>
    if r.2 ≠ mqttConnectAccepted then .ok r else parseSegments ps r.1

theorem parse_segments_last (ps : List (List UInt8)) (p : List UInt8) (w : World) :
    parseSegments net (ps ++ [p]) w = parseSegments net ps w >>= nextSegment net p := by
  induction ps generalizing w with
  | nil =>
    have hone : parseSegments net [p] w = mqttParseIncoming net p w >>= fun r =>
        if r.2 ≠ mqttConnectAccepted then .ok r else .ok (r.1, mqttConnectAccepted) := rfl
    have hnext : nextSegment net p (w, mqttConnectAccepted) = mqttParseIncoming net p w :=
      if_neg fun hne => hne rfl
    rw [List.nil_append, hone]
    apply Eq.trans _ hnext.symm
    generalize mqttParseIncoming net p w = x
    cases x with
    | error e => rfl
    | ok r =>
      change (if r.2 ≠ mqttConnectAccepted then _ else _) = _
      split_ifs with hstop
      · rfl
      · rw [← not_not.mp hstop]
  | cons p' ps ih =>
    have hcons (qs : List (List UInt8)) : parseSegments net (p' :: qs) w =
        mqttParseIncoming net p' w >>= fun r =>
          if r.2 ≠ mqttConnectAccepted then .ok r else parseSegments net qs r.1 := rfl
    rw [List.cons_append, hcons, hcons, bind_assoc]
    congr
    ext1 r
    by_cases hstop : r.2 ≠ mqttConnectAccepted
    · rw [if_pos hstop, if_pos hstop]
      exact (if_pos hstop).symm
    · rw [if_neg hstop, if_neg hstop, ih]

/-- Wherever TCP cuts the stream, the parser does what it does with the whole. -/
theorem parse_segments {ps : List (List UInt8)} (hidle : w.client.msgIdx = 0)
    (hlength : ps.flatten.length < 2 ^ 32) :
    parseSegments net ps w = mqttParseIncoming net ps.flatten w := by
  induction ps using List.reverseRecOn with
  | nil =>
    rw [parse_eq]
    exact (parsed_nil net w _).symm
  | append_singleton ps p ih =>
    have hidx : w.client.msgIdx.toNat = 0 := by rw [hidle, UInt32.toNat_zero]
    rw [List.flatten_append, List.flatten_singleton] at hlength ⊢
    rw [List.length_append] at hlength
    rw [parse_segments_last, ih (by omega), parse_eq, parse_eq,
      parsed_append net (tracks_idle hidle 0) p (by omega)]

end

/-- The CONNACK of a connection, in three segments. -/
theorem parse_segments_connack : ∃ w,
    Runs.run (step openNet) mqttClientNew [.connect true 0 exampleInfo, .connected .ok] = .ok w ∧
      w.client.msgIdx = 0 ∧ parseSegments openNet [[0x20], [2, 0], [0]] w =
        mqttParseIncoming openNet [0x20, 2, 0, 0] w := by
  have hrun : Runs.run (step openNet) mqttClientNew
      [.connect true 0 exampleInfo, .connected .ok] = .ok _ := rfl
  exact ⟨_, hrun, rfl, parse_segments openNet rfl (by decide)⟩

end Mqtt
