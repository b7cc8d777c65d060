import MqttSnClient.World
import MqttSnClient.Lib.Runs

namespace MqttSnClient
open Counting

/-- A change of the list. The guard of `gwListdel` lets the index `mqttGwListnumMax`
through, which is past the array and which the client never passes. -/
inductive GwStep
  | append (cyclicTick addr : UInt32) (port : UInt16) (gwid : UInt8) (gwkeepalive : UInt16)
  | updata (cyclicTick : UInt32)
  | del (index : ℕ) (valid : index ≠ mqttGwListnumMax)

def gwStep (l : GwList) : GwStep → Except Fault GwList
  | .append cyclicTick addr port gwid gwkeepalive =>
    match gwListappend cyclicTick addr port gwid gwkeepalive l with
    | some r => .ok r.2
    | none => .error .undefined
  | .updata cyclicTick => .ok (gwListupdata cyclicTick l)
  | .del index _ => .ok (gwListdel index l).2

def GwList.used (l : GwList) (i : ℕ) : Bool := (l.gwList i).gwUsedflag ≠ 0

/-- The count is that of the used entries. -/
def GwList.Counted (l : GwList) : Prop :=
  l.gwListAvalidNum.toNat = Nat.count (l.used ·) mqttGwListnumMax

/-- The count is that of the used entries, and these have different ids. -/
structure GwListOk (l : GwList) : Prop where
  num_eq : l.gwListAvalidNum.toNat = Nat.count (l.used ·) mqttGwListnumMax
  ids : ∀ i < mqttGwListnumMax, ∀ j < mqttGwListnumMax, l.used i = true → l.used j = true →
    (l.gwList i).gwID = (l.gwList j).gwID → i = j

/-- What follows for the operations: a search for a free entry that is reached finds one,
and a used entry can be deleted. -/
structure GwListSafe (l : GwList) : Prop extends GwListOk l where
  finds : ∀ cyclicTick addr port gwid gwkeepalive,
    gwListappend cyclicTick addr port gwid gwkeepalive l ≠ none
  deletes : ∀ i < mqttGwListnumMax, l.used i = true → (gwListdel i l).1 = 0
  num_le : l.gwListAvalidNum.toNat ≤ mqttGwListnumMax

/-- An advertisement of a gateway in the list finds it in the first entry, which is the one
that is overwritten. -/
def RefreshesFirst (l : GwList) : GwStep → Prop
  | .append _ _ _ gwid _ => l.gwListAvalidNum ≠ 0 →
      l.gwListAvalidNum.toNat ≠ mqttGwListnumMax →
        ∀ i < mqttGwListnumMax, l.used i = true → (l.gwList i).gwID = gwid → i = 0
  | _ => True

theorem GwList.used_set (l : GwList) (i : ℕ) (item : GwItem) :
    (l.set i item).used = Function.update l.used i (decide (item.gwUsedflag ≠ 0)) := by
  funext j
  by_cases hj : j = i
  · subst hj
    simp [GwList.used, GwList.set]
  · simp [GwList.used, GwList.set, hj]

namespace GwList.Counted

variable {l : GwList} {i : ℕ}

theorem used_of_zero (h : l.Counted) (hz : l.gwListAvalidNum = 0) (hi : i < mqttGwListnumMax) :
    l.used i = false := by
  have hcount : Nat.count (l.used ·) mqttGwListnumMax = 0 := by
    rw [← h, hz]
    rfl
  exact count_eq_zero.mp hcount i hi

/-- A list that is not full has a free entry, and the search finds one. -/
theorem finds_free (h : l.Counted) (hroom : l.gwListAvalidNum.toNat ≠ mqttGwListnumMax) :
    ∃ i < mqttGwListnumMax, l.used i = false ∧
      ((List.range mqttGwListnumMax).find? fun i => (l.gwList i).gwUsedflag = 0) = some i := by
  have hlt : Nat.count (l.used ·) mqttGwListnumMax < mqttGwListnumMax := by
    rw [← h]
    exact Nat.lt_of_le_of_ne (h ▸ Nat.count_le _) hroom
  obtain ⟨j, hj, hfree⟩ := exists_unmarked hlt
  cases hfind : (List.range mqttGwListnumMax).find? fun i => (l.gwList i).gwUsedflag = 0 with
  | some i =>
    have hmem := List.mem_range.mp (List.mem_of_find?_eq_some hfind)
    have hflag := List.find?_some hfind
    exact ⟨i, hmem, by simpa [GwList.used] using hflag, rfl⟩
  | none =>
    have hnone := List.find?_eq_none.mp hfind j (List.mem_range.mpr hj)
    have hflag : (l.gwList j).gwUsedflag = 0 := by simpa [GwList.used] using hfree
    exact absurd hflag (by simpa using hnone)

/-- An entry is overwritten by one with the same flag. -/
theorem keep (h : l.Counted) (item : GwItem)
    (hused : decide (item.gwUsedflag ≠ 0) = l.used i) :
    (l.set i item).used = l.used ∧ (l.set i item).Counted := by
  have hsame : (l.set i item).used = l.used := by
    rw [GwList.used_set, hused, Function.update_eq_self]
  refine ⟨hsame, ?_⟩
  rw [Counted, hsame]
  exact h

theorem used_drop (l : GwList) (i : ℕ) :
    GwList.used { l.set i { l.gwList i with gwUsedflag := 0 } with
      gwListAvalidNum := l.gwListAvalidNum - 1 } = Function.update l.used i false := by
  rw [show GwList.used { l.set i { l.gwList i with gwUsedflag := 0 } with
    gwListAvalidNum := l.gwListAvalidNum - 1 } =
      (l.set i { l.gwList i with gwUsedflag := 0 }).used from rfl, GwList.used_set]
  simp

theorem drop (h : l.Counted) (hi : i < mqttGwListnumMax) (hu : l.used i = true) :
    GwList.Counted { l.set i { l.gwList i with gwUsedflag := 0 } with
      gwListAvalidNum := l.gwListAvalidNum - 1 } := by
  have hcount := count_update l.used false hi
  have hnum : l.gwListAvalidNum.toNat = Nat.count (l.used ·) mqttGwListnumMax := h
  have hpos := count_pos hi hu
  rw [hu, Bool.toNat_false, Bool.toNat_true] at hcount
  rw [Counted, used_drop]
  show (l.gwListAvalidNum - 1).toNat = _
  have hone : (1 : UInt8) ≤ l.gwListAvalidNum := by
    rw [UInt8.le_iff_toNat_le]
    simp only [UInt8.reduceToNat]
    omega
  rw [UInt8.toNat_sub_of_le _ _ hone]
  simp only [UInt8.reduceToNat]
  omega

theorem del_used (h : l.Counted) (hi : i < mqttGwListnumMax) (hu : l.used i = true) :
    gwListdel i l = (0, { l.set i { l.gwList i with gwUsedflag := 0 } with
      gwListAvalidNum := l.gwListAvalidNum - 1 }) := by
  have hz : l.gwListAvalidNum ≠ 0 := by
    intro hz
    rw [h.used_of_zero hz hi] at hu
    cases hu
  have hflag : (l.gwList i).gwUsedflag ≠ 0 := by simpa [GwList.used] using hu
  rw [gwListdel, if_neg (Nat.not_lt.mpr hi.le), if_neg hz, if_pos hflag]

end GwList.Counted

namespace GwListOk

variable {l : GwList} {i : ℕ} {item : GwItem}

theorem num_le (h : GwListOk l) : l.gwListAvalidNum.toNat ≤ mqttGwListnumMax := by
  rw [h.num_eq]
  exact Nat.count_le _

theorem counted (h : GwListOk l) : l.Counted := h.num_eq

theorem used_of_zero (h : GwListOk l) (hz : l.gwListAvalidNum = 0) (hi : i < mqttGwListnumMax) :
    l.used i = false := h.counted.used_of_zero hz hi

/-- An entry is overwritten by one with the same flag and id. -/
theorem keep (h : GwListOk l) (hused : decide (item.gwUsedflag ≠ 0) = l.used i)
    (hid : item.gwID = (l.gwList i).gwID) : GwListOk (l.set i item) := by
  obtain ⟨hsame, hcounted⟩ := h.counted.keep item hused
  have hids : ∀ j, ((l.set i item).gwList j).gwID = (l.gwList j).gwID := by
    intro j
    by_cases hj : j = i
    · subst hj
      simp [GwList.set, hid]
    · simp [GwList.set, hj]
  refine ⟨hcounted, fun j hj k hk huj huk hjk => ?_⟩
  rw [hsame] at huj huk
  rw [hids, hids] at hjk
  exact h.ids j hj k hk huj huk hjk

/-- A free entry takes a gateway that is not in the list. -/
theorem fill (h : GwListOk l) (hi : i < mqttGwListnumMax) (hfree : l.used i = false)
    (hitem : item.gwUsedflag ≠ 0)
    (hnew : ∀ j < mqttGwListnumMax, l.used j = true → (l.gwList j).gwID ≠ item.gwID) :
    GwListOk { l.set i item with gwListAvalidNum := l.gwListAvalidNum + 1 } := by
  have hused : GwList.used { l.set i item with gwListAvalidNum := l.gwListAvalidNum + 1 } =
      Function.update l.used i true := by
    rw [show GwList.used { l.set i item with gwListAvalidNum := l.gwListAvalidNum + 1 } =
      (l.set i item).used from rfl, GwList.used_set, decide_eq_true hitem]
  refine ⟨?_, fun j hj k hk huj huk hjk => ?_⟩
  · have hcount := count_update l.used true hi
    have hnum := h.num_eq
    have hle := Nat.count_le (Function.update l.used i true ·) (n := mqttGwListnumMax)
    have hmax : mqttGwListnumMax = 3 := rfl
    rw [hfree, Bool.toNat_false, Bool.toNat_true] at hcount
    rw [hused]
    show (l.gwListAvalidNum + 1).toNat = _
    rw [UInt8.toNat_add]
    simp only [UInt8.reduceToNat]
    omega
  · rw [hused] at huj huk
    by_cases hji : j = i <;> by_cases hki : k = i
    · rw [hji, hki]
    · rw [Function.update_of_ne hki] at huk
      refine absurd ?_ (hnew k hk huk)
      simpa [GwList.set, hji, hki] using hjk.symm
    · rw [Function.update_of_ne hji] at huj
      refine absurd ?_ (hnew j hj huj)
      simpa [GwList.set, hji, hki] using hjk
    · rw [Function.update_of_ne hji] at huj
      rw [Function.update_of_ne hki] at huk
      refine h.ids j hj k hk huj huk ?_
      simpa [GwList.set, hji, hki] using hjk

theorem drop (h : GwListOk l) (hi : i < mqttGwListnumMax) (hu : l.used i = true) :
    GwListOk { l.set i { l.gwList i with gwUsedflag := 0 } with
      gwListAvalidNum := l.gwListAvalidNum - 1 } := by
  refine ⟨h.counted.drop hi hu, fun j hj k hk huj huk hjk => ?_⟩
  rw [GwList.Counted.used_drop] at huj huk
  have hji : j ≠ i := by
    rintro rfl
    simp at huj
  have hki : k ≠ i := by
    rintro rfl
    simp at huk
  rw [Function.update_of_ne hji] at huj
  rw [Function.update_of_ne hki] at huk
  refine h.ids j hj k hk huj huk ?_
  simpa [GwList.set, hji, hki] using hjk

theorem del (h : GwListOk l) (hi : i < mqttGwListnumMax) : GwListOk (gwListdel i l).2 := by
  unfold gwListdel
  split_ifs with hindex hz hu
  · exact h
  · exact h
  · exact h.drop hi (by simpa [GwList.used] using hu)
  · exact h

theorem deletes (h : GwListOk l) (hi : i < mqttGwListnumMax) (hu : l.used i = true) :
    (gwListdel i l).1 = 0 := by
  rw [h.counted.del_used hi hu]

theorem updataAt (h : GwListOk l) (hi : i < mqttGwListnumMax) (cyclicTick : UInt32) :
    GwListOk (gwListupdataAt cyclicTick l i) := by
  simp only [gwListupdataAt]
  split_ifs
  · refine GwListOk.del ?_ hi
    exact h.keep rfl rfl
  · exact h.keep rfl rfl
  · exact h

theorem updata (h : GwListOk l) (cyclicTick : UInt32) : GwListOk (gwListupdata cyclicTick l) := by
  unfold gwListupdata
  split_ifs
  · exact h
  · have hloop : ∀ is : List ℕ, (∀ i ∈ is, i < mqttGwListnumMax) → ∀ l, GwListOk l →
        GwListOk (is.foldl (gwListupdataAt cyclicTick) l) := by
      intro is
      induction is with
      | nil => exact fun _ l h => h
      | cons i is ih =>
        intro his l h
        exact ih (fun j hj => his j (List.mem_cons_of_mem i hj)) _
          (h.updataAt (his i List.mem_cons_self) cyclicTick)
    exact hloop _ (fun i hi => List.mem_range.mp hi) l h

/-- The search for a free entry is reached only while there is one. -/
theorem finds (h : GwListOk l) (cyclicTick addr : UInt32) (port : UInt16) (gwid : UInt8)
    (gwkeepalive : UInt16) : gwListappend cyclicTick addr port gwid gwkeepalive l ≠ none := by
  simp only [gwListappend]
  split_ifs with hz hfull
  · simp
  · simp
  · simp
  · obtain ⟨i, -, -, hfind⟩ := h.counted.finds_free hfull
    rw [hfind]
    simp

theorem append {l' : GwList} (h : GwListOk l) {cyclicTick addr : UInt32} {port : UInt16}
    {gwid : UInt8} {gwkeepalive : UInt16} {code : UInt8}
    (hc : RefreshesFirst l (.append cyclicTick addr port gwid gwkeepalive))
    (happend : gwListappend cyclicTick addr port gwid gwkeepalive l = some (code, l')) :
    GwListOk l' := by
  simp only [gwListappend] at happend
  split_ifs at happend with hz hfull hfound
  -- the list is empty
  · cases happend
    exact h.fill (by decide) (h.used_of_zero hz (by decide)) (by simp) fun j hj hu => by
      rw [h.used_of_zero hz hj] at hu
      cases hu
  · cases happend
    exact h
  -- the gateway is in the list, so it is in the first entry
  · cases happend
    obtain ⟨i, hi, hid, hflag⟩ := hfound
    have hu : l.used i = true := by simpa [GwList.used] using hflag
    obtain rfl := hc hz hfull i hi hu hid.symm
    exact h.keep (by simp [hu]) hid
  · split at happend
    · rename_i i hfind
      cases happend
      have hmem := List.mem_range.mp (List.mem_of_find?_eq_some hfind)
      have hflag := List.find?_some hfind
      refine h.fill hmem (by simpa [GwList.used] using hflag) (by simp) fun j hj hu hid => ?_
      exact hfound ⟨j, hj, hid.symm, by simpa [GwList.used] using hu⟩
    · cases happend

theorem safe (h : GwListOk l) : GwListSafe l :=
  { h with finds := h.finds, deletes := fun _ hi hu => h.deletes hi hu, num_le := h.num_le }

theorem zero : GwListOk gwListZero := by
  refine ⟨rfl, fun i _ j _ hu => ?_⟩
  cases hu

end GwListOk

/-- A step that refreshes an entry behind the first leaves two entries with its id. -/
theorem refresh_behind {l : GwList} {s : GwStep} (hc : ¬RefreshesFirst l s) :
    ∃ l', gwStep l s = .ok l' ∧ ¬GwListSafe l' := by
  cases s with
  | append cyclicTick addr port gwid gwkeepalive =>
    simp only [RefreshesFirst, not_forall] at hc
    obtain ⟨hz, hfull, i, hi, hu, hid, hne⟩ := hc
    have hflag : (l.gwList i).gwUsedflag ≠ 0 := by simpa [GwList.used] using hu
    have hfound : ∃ i < mqttGwListnumMax,
        gwid = (l.gwList i).gwID ∧ (l.gwList i).gwUsedflag ≠ 0 := ⟨i, hi, hid.symm, hflag⟩
    refine ⟨l.set 0 { gwAddr := addr, gwID := gwid, gwKeepalive := gwkeepalive, gwNadv := 0,
                      gwPort := port, gwUsedflag := 1, gwLasttime := cyclicTick }, ?_,
      fun h => hne ?_⟩
    · simp only [gwStep, gwListappend]
      rw [if_neg hz, if_neg hfull, if_pos hfound]
    · refine h.ids i hi 0 (by decide) ?_ ?_ ?_
      · simpa [GwList.used, GwList.set, hne] using hflag
      · simp [GwList.used, GwList.set]
      · simpa [GwList.set, hne] using hid
  | updata | del => exact absurd trivial hc

/-- Over every sequence of steps, the list is in order all along exactly when every refreshed
gateway stands in the first entry. -/
theorem gateways_safe_iff (steps : List GwStep) :
    Runs.Always gwStep GwListSafe gwListZero steps ↔
      Runs.Meets gwStep RefreshesFirst gwListZero steps := by
  refine Runs.always_iff_meets (J := GwListOk) (fun l h => h.safe) ?_
    (fun l s _ hc => refresh_behind hc) GwListOk.zero
  intro l s l' h hc hstep
  cases s with
  | append cyclicTick addr port gwid gwkeepalive =>
    simp only [gwStep] at hstep
    split at hstep
    · rename_i r hr
      cases hstep
      exact h.append hc hr
    · cases hstep
  | updata cyclicTick =>
    cases hstep
    exact h.updata cyclicTick
  | del index valid =>
    cases hstep
    rcases Nat.lt_or_gt_of_ne valid with hlt | hgt
    · exact h.del hlt
    · rw [gwListdel, if_pos hgt]
      exact h

/-- Gateways 1 and 2 are advertised, then gateway 2 again. -/
def readvertised : List GwStep :=
  [.append 0 1 10000 1 900, .append 0 2 10000 2 900, .append 0 2 10000 2 900]

theorem gateway_listed_twice :
    ¬∀ steps, Runs.Always gwStep GwListSafe gwListZero steps := by
  intro h
  have hlast := h readvertised readvertised [] _ rfl rfl
  exact absurd (hlast.ids 0 (by decide) 1 (by decide) (by decide) (by decide) (by decide))
    (by decide)

/-- The entry of a gateway that has just been heard. -/
def GwItem.heard (cyclicTick addr : UInt32) (port : UInt16) (gwid : UInt8)
    (gwkeepalive : UInt16) : GwItem where
  gwID := gwid
  gwNadv := 0
  gwPort := port
  gwKeepalive := gwkeepalive
  gwAddr := addr
  gwUsedflag := 1
  gwLasttime := cyclicTick

/-- The entry that is found for a gateway takes all that was heard of it. -/
theorem gwListappend_heard {l : GwList} {gwid : UInt8} {k : ℕ} (h : l.slotFor gwid = some k)
    (cyclicTick addr : UInt32) (port : UInt16) (gwkeepalive : UInt16) :
    ∃ l', gwListappend cyclicTick addr port gwid gwkeepalive l = some (0, l') ∧
      l'.gwList k = .heard cyclicTick addr port gwid gwkeepalive := by
  have hset (i : ℕ) (item : GwItem) : (l.set i item).gwList i = item := by
    simp only [GwList.set, Function.update_self]
  unfold GwList.slotFor at h
  unfold gwListappend
  split_ifs at h ⊢
  · cases h
    exact ⟨_, rfl, hset 0 _⟩
  · cases h
    exact ⟨_, rfl, hset 0 _⟩
  · rw [h]
    exact ⟨_, rfl, hset k _⟩

def GwList.Has (l : GwList) (gwid : UInt8) : Prop :=
  ∃ i < mqttGwListnumMax, l.used i = true ∧ (l.gwList i).gwID = gwid

/-- What an upsert does: the entry of this id is replaced, or else a free entry takes the
gateway, or else the list is full and stays as it is. -/
structure Upserts (l : GwList) (cyclicTick addr : UInt32) (port : UInt16) (gwid : UInt8)
    (gwkeepalive : UInt16) : Prop where
  refresh : ∀ i < mqttGwListnumMax, l.used i = true → (l.gwList i).gwID = gwid →
    gwListappend cyclicTick addr port gwid gwkeepalive l =
      some (0, l.set i (.heard cyclicTick addr port gwid gwkeepalive))
  insert : ¬l.Has gwid → (∃ i < mqttGwListnumMax, l.used i = false) →
    ∃ i < mqttGwListnumMax, l.used i = false ∧
      gwListappend cyclicTick addr port gwid gwkeepalive l =
        some (0, { l.set i (.heard cyclicTick addr port gwid gwkeepalive) with
          gwListAvalidNum := l.gwListAvalidNum + 1 })
  full : ¬l.Has gwid → (∀ i < mqttGwListnumMax, l.used i = true) →
    gwListappend cyclicTick addr port gwid gwkeepalive l = some (1, l)

section Upsert

variable {l : GwList} {cyclicTick addr : UInt32} {port : UInt16} {gwid : UInt8}
  {gwkeepalive : UInt16}

theorem GwList.has_iff : l.Has gwid ↔
    ∃ i < mqttGwListnumMax, gwid = (l.gwList i).gwID ∧ (l.gwList i).gwUsedflag ≠ 0 := by
  constructor
  · rintro ⟨i, hi, hu, hid⟩
    exact ⟨i, hi, hid.symm, by simpa [GwList.used] using hu⟩
  · rintro ⟨i, hi, hid, hu⟩
    exact ⟨i, hi, by simpa [GwList.used] using hu, hid.symm⟩

theorem GwListOk.full_iff (h : GwListOk l) :
    l.gwListAvalidNum.toNat = mqttGwListnumMax ↔ ∀ i < mqttGwListnumMax, l.used i = true := by
  rw [h.num_eq]
  constructor
  · intro hcount i hi
    by_contra hu
    rw [Bool.not_eq_true] at hu
    -- marking one more entry would count more entries than there are
    have hupd := count_update l.used true hi
    have hle := Nat.count_le (Function.update l.used i true ·) (n := mqttGwListnumMax)
    rw [hu, Bool.toNat_false, Bool.toNat_true] at hupd
    omega
  · intro hall
    by_contra hne
    have hlt : Nat.count (l.used ·) mqttGwListnumMax < mqttGwListnumMax :=
      Nat.lt_of_le_of_ne (Nat.count_le _) hne
    obtain ⟨i, hi, hfree⟩ := exists_unmarked hlt
    rw [hall i hi] at hfree
    cases hfree

theorem gwListappend_full (hfull : l.gwListAvalidNum.toNat = mqttGwListnumMax) :
    gwListappend cyclicTick addr port gwid gwkeepalive l = some (1, l) := by
  have hnz : l.gwListAvalidNum ≠ 0 := by
    intro hz
    rw [hz] at hfull
    cases hfull
  simp only [gwListappend]
  rw [if_neg hnz, if_pos hfull]

/-- In a list that is not full, a gateway of the list is written to the first entry. -/
theorem gwListappend_refresh (h : GwListOk l) (hhas : l.Has gwid)
    (hfull : l.gwListAvalidNum.toNat ≠ mqttGwListnumMax) :
    gwListappend cyclicTick addr port gwid gwkeepalive l =
      some (0, l.set 0 (.heard cyclicTick addr port gwid gwkeepalive)) := by
  have hnz : l.gwListAvalidNum ≠ 0 := by
    intro hz
    obtain ⟨i, hi, hu, -⟩ := hhas
    rw [h.used_of_zero hz hi] at hu
    cases hu
  simp only [gwListappend]
  rw [if_neg hnz, if_neg hfull, if_pos (GwList.has_iff.mp hhas)]
  rfl

/-- A new gateway takes a free entry. -/
theorem gwListappend_insert (h : GwListOk l) (hhas : ¬l.Has gwid)
    (hfull : l.gwListAvalidNum.toNat ≠ mqttGwListnumMax) :
    ∃ i < mqttGwListnumMax, l.used i = false ∧
      gwListappend cyclicTick addr port gwid gwkeepalive l =
        some (0, { l.set i (.heard cyclicTick addr port gwid gwkeepalive) with
          gwListAvalidNum := l.gwListAvalidNum + 1 }) := by
  simp only [gwListappend]
  by_cases hz : l.gwListAvalidNum = 0
  · have hpos : 0 < mqttGwListnumMax := by decide
    refine ⟨0, hpos, h.used_of_zero hz hpos, ?_⟩
    rw [if_pos hz]
    rfl
  · rw [if_neg hz, if_neg hfull, if_neg fun hfound => hhas (GwList.has_iff.mpr hfound)]
    obtain ⟨i, hi, hfree, hfind⟩ := h.counted.finds_free hfull
    rw [hfind]
    exact ⟨i, hi, hfree, rfl⟩

/-- Two different entries cannot both be the one that was written. -/
theorem GwListOk.set_ne (h : GwListOk l) {i : ℕ} (hi : i < mqttGwListnumMax)
    (hu : l.used i = true) (hid : (l.gwList i).gwID = gwid) (hne : i ≠ 0) :
    l.set 0 (.heard cyclicTick addr port gwid gwkeepalive) ≠
      l.set i (.heard cyclicTick addr port gwid gwkeepalive) := by
  intro heq
  have hfirst : l.gwList 0 = .heard cyclicTick addr port gwid gwkeepalive := by
    have hat := congrFun (congrArg GwList.gwList heq) 0
    simpa [GwList.set, Ne.symm hne] using hat.symm
  refine hne (h.ids i hi 0 (by decide) hu ?_ ?_)
  · simp [GwList.used, hfirst, GwItem.heard]
  · rw [hid, hfirst]
    rfl

end Upsert

/-- The list is updated as by an upsert exactly when the gateway is not in it, or stands in
the first entry of a list that is not full. -/
theorem upserts_iff {l : GwList} (h : GwListOk l) (cyclicTick addr : UInt32) (port : UInt16)
    (gwid : UInt8) (gwkeepalive : UInt16) :
    Upserts l cyclicTick addr port gwid gwkeepalive ↔
      ∀ i < mqttGwListnumMax, l.used i = true → (l.gwList i).gwID = gwid →
        i = 0 ∧ l.gwListAvalidNum.toNat ≠ mqttGwListnumMax := by
  constructor
  · intro hup i hi hu hid
    have hwrite := hup.refresh i hi hu hid
    have hfull : l.gwListAvalidNum.toNat ≠ mqttGwListnumMax := by
      intro hfull
      rw [gwListappend_full hfull] at hwrite
      simp at hwrite
    refine ⟨?_, hfull⟩
    rw [gwListappend_refresh h ⟨i, hi, hu, hid⟩ hfull] at hwrite
    by_contra hne
    have hset : l.set 0 (.heard cyclicTick addr port gwid gwkeepalive) =
        l.set i (.heard cyclicTick addr port gwid gwkeepalive) := by simpa using hwrite
    exact h.set_ne hi hu hid hne hset
  · intro hplace
    refine ⟨fun i hi hu hid => ?_, fun hhas hfree => ?_, fun hhas hall => ?_⟩
    · obtain ⟨rfl, hfull⟩ := hplace i hi hu hid
      exact gwListappend_refresh h ⟨0, hi, hu, hid⟩ hfull
    · apply gwListappend_insert h hhas
      intro hfull
      obtain ⟨i, hi, hu⟩ := hfree
      rw [h.full_iff.mp hfull i hi] at hu
      cases hu
    · exact gwListappend_full (h.full_iff.mpr hall)

def twoGateways : GwList where
  gwList := Function.update (Function.update gwListZero.gwList 0 (.heard 0 1 10000 1 900))
    1 (.heard 0 2 10000 2 900)
  gwListAvalidNum := 2

theorem twoGateways_ok : GwListOk twoGateways := by
  refine ⟨by decide, fun i hi j hj hui huj => ?_⟩
  have hall : ∀ i < mqttGwListnumMax, ∀ j < mqttGwListnumMax, twoGateways.used i = true →
      twoGateways.used j = true →
        (twoGateways.gwList i).gwID = (twoGateways.gwList j).gwID → i = j := by
    decide
  exact hall i hi j hj hui huj

/-- A gateway that is not in the list is inserted. -/
theorem upserts_third : Upserts twoGateways 5 3 10000 3 900 := by
  apply (upserts_iff twoGateways_ok 5 3 10000 3 900).mpr
  decide

/-- The second gateway is heard again, and overwrites the first. -/
theorem refresh_overwrites_first :
    ¬∀ l, GwListOk l → ∀ cyclicTick addr port gwid gwkeepalive,
      Upserts l cyclicTick addr port gwid gwkeepalive := by
  intro h
  have hup := h twoGateways twoGateways_ok 5 2 10000 2 900
  have hwrite := hup.refresh 1 (by decide) (by decide) (by decide)
  have hcode : gwListappend 5 2 10000 2 900 twoGateways =
      some (0, twoGateways.set 0 (.heard 5 2 10000 2 900)) := rfl
  rw [hcode] at hwrite
  exact absurd (Option.some.inj hwrite) fun heq => by
    have hat := congrArg (fun r : UInt8 × GwList => (r.2.gwList 1).gwLasttime) heq
    exact absurd hat (by decide)

end MqttSnClient
