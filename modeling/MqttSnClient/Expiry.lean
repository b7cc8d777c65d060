import MqttSnClient.Footprint
import MqttSnClient.Gateways
import MqttSnClient.Settings

/-! The expiry of gateways. An update treats the entries of the list one by one, so the ticks
after which an entry is removed depend on this entry alone. -/
namespace MqttSnClient
open Counting

/-- What an update of the list does to one entry. -/
def GwItem.updata (cyclicTick : UInt32) (g : GwItem) : GwItem :=
  if cyclicTick > g.gwLasttime + g.gwKeepalive.toUInt32 ∧ g.gwUsedflag ≠ 0 then
    if g.gwNadv + 1 > mqttSnCilentNadv then { g with gwNadv := g.gwNadv + 1, gwUsedflag := 0 }
    else { g with gwNadv := g.gwNadv + 1, gwLasttime := cyclicTick }
  else g

/-- The entry after the ticks that follow `cyclicTick`. -/
def GwItem.ticked (cyclicTick : UInt32) (g : GwItem) : ℕ → GwItem
  | 0 => g
  | n + 1 => (g.ticked cyclicTick n).updata (cyclicTick + UInt32.ofNat n + 1)

/-- The list after the ticks that follow `cyclicTick`. -/
def GwList.ticked (cyclicTick : UInt32) (l : GwList) : ℕ → GwList
  | 0 => l
  | n + 1 => gwListupdata (cyclicTick + UInt32.ofNat n + 1) (l.ticked cyclicTick n)

section Entries

variable {l : GwList} {i : ℕ}

/-- One turn of the loop changes the entry it stands at, and the count with it. -/
theorem gwListupdataAt_entry (h : l.Counted) (hi : i < mqttGwListnumMax) (cyclicTick : UInt32) :
    (gwListupdataAt cyclicTick l i).Counted ∧
      (gwListupdataAt cyclicTick l i).gwList =
        Function.update l.gwList i ((l.gwList i).updata cyclicTick) := by
  have hself : ∀ item : GwItem, (l.set i item).gwList i = item :=
    fun item => Function.update_self _ _ _
  simp only [gwListupdataAt, GwItem.updata]
  split_ifs with hlate hlost
  -- the last miss removes the entry
  · have hu : l.used i = true := by simpa [GwList.used] using hlate.2
    obtain ⟨hsame, hcounted⟩ := h.keep (i := i)
      { l.gwList i with gwNadv := (l.gwList i).gwNadv + 1 } rfl
    have hu' : (l.set i { l.gwList i with gwNadv := (l.gwList i).gwNadv + 1 }).used i = true := by
      rw [hsame, hu]
    rw [hcounted.del_used hi hu']
    refine ⟨hcounted.drop hi hu', ?_⟩
    simp only [hself]
    exact Function.update_idem _ _ _
  · have hkeep := h.keep (i := i)
      { l.gwList i with gwNadv := (l.gwList i).gwNadv + 1, gwLasttime := cyclicTick } rfl
    exact ⟨hkeep.2, rfl⟩
  · rw [Function.update_eq_self]
    exact ⟨h, rfl⟩

theorem gwListupdata_loop (cyclicTick : UInt32) {is : List ℕ} (hnodup : is.Nodup)
    (his : ∀ i ∈ is, i < mqttGwListnumMax) (h : l.Counted) :
    (is.foldl (gwListupdataAt cyclicTick) l).Counted ∧
      ∀ j, (is.foldl (gwListupdataAt cyclicTick) l).gwList j =
        if j ∈ is then (l.gwList j).updata cyclicTick else l.gwList j := by
  induction is generalizing l with
  | nil => exact ⟨h, fun j => rfl⟩
  | cons i is ih =>
    obtain ⟨hcounted, hentry⟩ := gwListupdataAt_entry h (his i List.mem_cons_self) cyclicTick
    obtain ⟨hi, hnodup⟩ := List.nodup_cons.mp hnodup
    obtain ⟨hend, hall⟩ := ih hnodup (fun j hj => his j (List.mem_cons_of_mem i hj)) hcounted
    refine ⟨hend, fun j => ?_⟩
    rw [List.foldl_cons, hall j, hentry]
    by_cases hji : j = i
    · subst hji
      rw [if_neg hi, Function.update_self, if_pos List.mem_cons_self]
    · rw [Function.update_of_ne hji]
      simp only [List.mem_cons, hji, false_or]

theorem GwItem.updata_unused {g : GwItem} (h : g.gwUsedflag = 0) (cyclicTick : UInt32) :
    g.updata cyclicTick = g := by
  unfold GwItem.updata
  rw [if_neg]
  rintro ⟨-, hused⟩
  exact hused h

/-- An update treats each entry by itself and keeps the count. -/
theorem gwListupdata_entries (h : l.Counted) (cyclicTick : UInt32) :
    (gwListupdata cyclicTick l).Counted ∧ ∀ j < mqttGwListnumMax,
      (gwListupdata cyclicTick l).gwList j = (l.gwList j).updata cyclicTick := by
  unfold gwListupdata
  split_ifs with hz
  · refine ⟨h, fun j hj => ?_⟩
    have hu := h.used_of_zero hz hj
    rw [GwItem.updata_unused (by simpa [GwList.used] using hu)]
  · obtain ⟨hcounted, hall⟩ := gwListupdata_loop cyclicTick List.nodup_range
      (fun i hi => List.mem_range.mp hi) h
    refine ⟨hcounted, fun j hj => ?_⟩
    rw [hall j, if_pos (List.mem_range.mpr hj)]

theorem GwList.ticked_entries (h : l.Counted) (cyclicTick : UInt32) (n : ℕ) :
    (l.ticked cyclicTick n).Counted ∧ ∀ j < mqttGwListnumMax,
      (l.ticked cyclicTick n).gwList j = (l.gwList j).ticked cyclicTick n := by
  induction n with
  | zero => exact ⟨h, fun j _ => rfl⟩
  | succ n ih =>
    obtain ⟨hcounted, hall⟩ := gwListupdata_entries ih.1 (cyclicTick + UInt32.ofNat n + 1)
    refine ⟨hcounted, fun j hj => ?_⟩
    rw [GwItem.ticked, ← ih.2 j hj]
    exact hall j hj

theorem gwListdel_counted (h : l.Counted) (hi : i < mqttGwListnumMax) :
    (gwListdel i l).2.Counted ∧ ∀ j, j ≠ i → (gwListdel i l).2.gwList j = l.gwList j := by
  cases hu : l.used i with
  | true =>
    rw [h.del_used hi hu]
    exact ⟨h.drop hi hu, fun j hj => Function.update_of_ne hj _ _⟩
  | false =>
    have hflag : ¬(l.gwList i).gwUsedflag ≠ 0 := by simpa [GwList.used] using hu
    have hsame : (gwListdel i l).2 = l := by
      unfold gwListdel
      split_ifs <;> rfl
    rw [hsame]
    exact ⟨h, fun _ _ => rfl⟩

/-- The removal of an entry changes no other entry, now or after any number of ticks. -/
theorem removal_apart (h : l.Counted) (hi : i < mqttGwListnumMax) {j : ℕ}
    (hj : j < mqttGwListnumMax) (hji : j ≠ i) (cyclicTick : UInt32) (m : ℕ) :
    ((gwListdel i l).2.ticked cyclicTick m).gwList j = (l.ticked cyclicTick m).gwList j := by
  obtain ⟨hcounted, hother⟩ := gwListdel_counted h hi
  rw [(GwList.ticked_entries hcounted cyclicTick m).2 j hj,
    (GwList.ticked_entries h cyclicTick m).2 j hj, hother j hji]

end Entries

/-- The update leaves alone what an entry says about its gateway. -/
def GwItem.SameGateway (g g' : GwItem) : Prop :=
  g'.gwID = g.gwID ∧ g'.gwAddr = g.gwAddr ∧ g'.gwPort = g.gwPort ∧
    g'.gwKeepalive = g.gwKeepalive

theorem GwItem.updata_sameGateway (cyclicTick : UInt32) (g : GwItem) :
    g.SameGateway (g.updata cyclicTick) := by
  unfold GwItem.updata
  split_ifs <;> exact ⟨rfl, rfl, rfl, rfl⟩

theorem GwItem.ticked_sameGateway (cyclicTick : UInt32) (g : GwItem) (n : ℕ) :
    g.SameGateway (g.ticked cyclicTick n) := by
  induction n with
  | zero => exact ⟨rfl, rfl, rfl, rfl⟩
  | succ n ih =>
    obtain ⟨hid, haddr, hport, hkeep⟩ :=
      (g.ticked cyclicTick n).updata_sameGateway (cyclicTick + UInt32.ofNat n + 1)
    exact ⟨hid.trans ih.1, haddr.trans ih.2.1, hport.trans ih.2.2.1, hkeep.trans ih.2.2.2⟩

/-- After `q` misses, the last one `r` ticks ago. -/
structure Missed (cyclicTick : UInt32) (k : ℕ) (g : GwItem) (q r : ℕ) : Prop where
  used : g.gwUsedflag ≠ 0
  nadv : g.gwNadv.toNat = q
  last : g.gwLasttime.toNat = cyclicTick.toNat + q * (k + 1)
  keepalive : g.gwKeepalive.toNat = k
  misses : q ≤ 3
  since : r ≤ k

/-- One tick: the entry waits, is missed once more, or is removed. -/
theorem Missed.step {cyclicTick : UInt32} {k q r : ℕ} {g : GwItem} (h : Missed cyclicTick k g q r)
    (hsmall : cyclicTick.toNat + (q * (k + 1) + r) + 1 + k < 2 ^ 32) :
    let g' := g.updata (cyclicTick + UInt32.ofNat (q * (k + 1) + r) + 1)
    if r < k then Missed cyclicTick k g' q (r + 1)
    else if q < 3 then Missed cyclicTick k g' (q + 1) 0
    else g'.gwUsedflag = 0 := by
  intro g'
  have hnow : (cyclicTick + UInt32.ofNat (q * (k + 1) + r) + 1).toNat =
      cyclicTick.toNat + (q * (k + 1) + r) + 1 := by
    simp only [UInt32.toNat_add, UInt32.toNat_ofNat', UInt32.reduceToNat]
    omega
  have hlimit : (g.gwLasttime + g.gwKeepalive.toUInt32).toNat =
      cyclicTick.toNat + q * (k + 1) + k := by
    rw [UInt32.toNat_add, UInt16.toNat_toUInt32, h.last, h.keepalive]
    omega
  have hlate : cyclicTick + UInt32.ofNat (q * (k + 1) + r) + 1 >
      g.gwLasttime + g.gwKeepalive.toUInt32 ↔ k ≤ r := by
    rw [gt_iff_lt, UInt32.lt_iff_toNat_lt, hnow, hlimit]
    omega
  have hnadv : (g.gwNadv + 1).toNat = q + 1 := by
    have hmisses := h.misses
    rw [UInt8.toNat_add, h.nadv]
    simp only [UInt8.reduceToNat]
    omega
  have hlost : g.gwNadv + 1 > mqttSnCilentNadv ↔ 3 ≤ q := by
    rw [gt_iff_lt, UInt8.lt_iff_toNat_lt, hnadv]
    simp only [mqttSnCilentNadv, UInt8.reduceToNat]
    omega
  have hg' : g' = g.updata (cyclicTick + UInt32.ofNat (q * (k + 1) + r) + 1) := rfl
  unfold GwItem.updata at hg'
  split_ifs with hwait hmore
  · rw [if_neg fun hc => absurd (hlate.mp hc.1) (by omega)] at hg'
    rw [hg']
    exact { h with since := hwait }
  · rw [if_pos ⟨hlate.mpr (by omega), h.used⟩, if_neg fun hc => absurd (hlost.mp hc) (by omega)]
      at hg'
    rw [hg']
    refine ⟨h.used, hnadv, ?_, h.keepalive, hmore, Nat.zero_le k⟩
    have hr : r = k := by
      have hsince := h.since
      omega
    rw [hnow, hr, Nat.succ_mul]
    omega
  · rw [if_pos ⟨hlate.mpr (by omega), h.used⟩, if_pos (hlost.mpr (by omega))] at hg'
    rw [hg']

/-- An entry is used for four times its keepalive and four ticks. -/
theorem GwItem.ticked_cases {cyclicTick : UInt32} {g : GwItem} {k : ℕ} (hused : g.gwUsedflag ≠ 0)
    (hnadv : g.gwNadv = 0) (hlast : g.gwLasttime = cyclicTick) (hkeep : g.gwKeepalive.toNat = k)
    {n : ℕ} (hsmall : cyclicTick.toNat + n + k < 2 ^ 32) :
    (∃ q r, n = q * (k + 1) + r ∧ Missed cyclicTick k (g.ticked cyclicTick n) q r) ∨
      4 * (k + 1) ≤ n ∧ (g.ticked cyclicTick n).gwUsedflag = 0 := by
  induction n with
  | zero =>
    refine Or.inl ⟨0, 0, by omega, hused, ?_, ?_, hkeep, by omega, Nat.zero_le k⟩
    · show g.gwNadv.toNat = 0
      rw [hnadv]
      rfl
    · show g.gwLasttime.toNat = _
      rw [hlast]
      omega
  | succ n ih =>
    rcases ih (by omega) with ⟨q, r, hn, hmissed⟩ | ⟨hn, hgone⟩
    · have hstep := hmissed.step (by omega)
      dsimp only at hstep
      rw [← hn] at hstep
      have hsince := hmissed.since
      have hmisses := hmissed.misses
      split_ifs at hstep with hwait hmore
      · exact Or.inl ⟨q, r + 1, by omega, hstep⟩
      · refine Or.inl ⟨q + 1, 0, ?_, hstep⟩
        rw [Nat.succ_mul]
        omega
      · refine Or.inr ⟨?_, hstep⟩
        obtain rfl : q = 3 := by omega
        omega
    · refine Or.inr ⟨by omega, ?_⟩
      rw [GwItem.ticked, GwItem.updata_unused hgone]
      exact hgone

theorem GwItem.ticked_used_iff {cyclicTick : UInt32} {g : GwItem} (hused : g.gwUsedflag ≠ 0)
    (hnadv : g.gwNadv = 0) (hlast : g.gwLasttime = cyclicTick) {n : ℕ}
    (hsmall : cyclicTick.toNat + n + g.gwKeepalive.toNat < 2 ^ 32) :
    (g.ticked cyclicTick n).gwUsedflag ≠ 0 ↔ n < 4 * (g.gwKeepalive.toNat + 1) := by
  rcases GwItem.ticked_cases hused hnadv hlast rfl hsmall with
    ⟨q, r, hn, hmissed⟩ | ⟨hn, hgone⟩
  · apply iff_of_true hmissed.used
    have hbound : q * (g.gwKeepalive.toNat + 1) ≤ 3 * (g.gwKeepalive.toNat + 1) :=
      Nat.mul_le_mul_right _ hmissed.misses
    have hsince := hmissed.since
    omega
  · exact iff_of_false (not_not.mpr hgone) (Nat.not_lt.mpr hn)

variable {topics : Topics} {env : Env} {w w' : World}

theorem mqttSnClientCyclic_gwList (h : mqttSnClientCyclic env topics w = .ok w') :
    w'.gwList = gwListupdata (w.client.cyclicTick + 1) w.gwList := by
  rcases mqttSnClientCyclic_ok h with ⟨-, rfl⟩ | ⟨-, u, hreg, hend⟩
  · rfl
  · have hu : Leaves [] w.ticked u := registeralltopic_leaves hreg
    have hsame := hu.same .gwList List.not_mem_nil
    rcases hend with ⟨-, rfl⟩ | ⟨-, rfl⟩ <;> exact hsame

/-- Nothing but the tick and the two handlers that append touches the list. -/
theorem runCallback_gwList {cb : Callback} {arg : Arg}
    (h : runCallback topics env cb arg w = .ok w') (hcyc : cb ≠ .cyclicCb)
    (hadvertise : cb ≠ .press .advertise) (hgwinfo : cb ≠ .press .gwinfo) :
    w'.gwList = w.gwList := by
  apply (runCallback_leaves h).same .gwList
  cases cb with
  | press api =>
    cases api with
    | advertise => exact absurd rfl hadvertise
    | gwinfo => exact absurd rfl hgwinfo
    | _ => decide
  | cyclicCb => exact absurd rfl hcyc
  | _ => decide

def Event.isTick (e : Event) (w : World) : Bool :=
  match e.action with
  | .visit num now _ => timerDue num now w && (w.systime.timerT num).timerCallback = .cyclicCb
  | _ => false

def trackTicks (w : World) (e : Event) (_ : World) (n : ℕ) : ℕ := if e.isTick w then n + 1 else n

/-- The step does not run a handler that calls `gwListappend`. -/
def NoAppend (s : World × ℕ) (e : Event) : Prop :=
  ∀ num now valid, e.action = .visit num now valid → timerDue num now s.1 = true →
    (s.1.systime.timerT num).timerCallback ≠ .press .advertise ∧
      (s.1.systime.timerT num).timerCallback ≠ .press .gwinfo

/-- After `s.2` ticks: an entry that was just heard is used while these are fewer than four
times its keepalive and four; no entry has changed its gateway; the removal of an entry makes
no difference to the others, in this state and after any further ticks; and the count is
right. -/
structure ExpiresOnTime (cyclicTick : UInt32) (l : GwList) (s : World × ℕ) : Prop where
  expires : ∀ i < mqttGwListnumMax, l.used i = true → (l.gwList i).gwNadv = 0 →
    (l.gwList i).gwLasttime = cyclicTick →
      cyclicTick.toNat + s.2 + (l.gwList i).gwKeepalive.toNat < 2 ^ 32 →
        (s.1.gwList.used i = true ↔ s.2 < 4 * ((l.gwList i).gwKeepalive.toNat + 1))
  gateway : ∀ i < mqttGwListnumMax, (l.gwList i).SameGateway (s.1.gwList.gwList i)
  removal : ∀ i < mqttGwListnumMax, ∀ j < mqttGwListnumMax, j ≠ i → ∀ m,
    ((gwListdel i s.1.gwList).2.ticked s.1.client.cyclicTick m).gwList j =
      (s.1.gwList.ticked s.1.client.cyclicTick m).gwList j
  counted : s.1.gwList.Counted

/-- The list of a run is that of its ticks. -/
structure TickedInv (cyclicTick : UInt32) (l : GwList) (s : World × ℕ) : Prop where
  now : s.1.client.cyclicTick = cyclicTick + UInt32.ofNat s.2
  list : s.1.gwList = l.ticked cyclicTick s.2

theorem TickedInv.expires {cyclicTick : UInt32} {l : GwList} {s : World × ℕ}
    (h : TickedInv cyclicTick l s) (hl : l.Counted) : ExpiresOnTime cyclicTick l s := by
  obtain ⟨hcounted, hentries⟩ := GwList.ticked_entries hl cyclicTick s.2
  refine ⟨fun i hi hu hnadv hlast hsmall => ?_, fun i hi => ?_, fun i hi j hj hji m => ?_, ?_⟩
  · have hflag : (l.gwList i).gwUsedflag ≠ 0 := by simpa [GwList.used] using hu
    rw [← GwItem.ticked_used_iff hflag hnadv hlast hsmall, ← hentries i hi, ← h.list]
    simp [GwList.used]
  · rw [h.list, hentries i hi]
    exact (l.gwList i).ticked_sameGateway cyclicTick s.2
  · rw [h.list]
    exact removal_apart hcounted hi hj hji _ m
  · rw [h.list]
    exact hcounted

theorem tickedInv_step {cyclicTick : UInt32} {l : GwList} (s : World × ℕ) (e : Event)
    (s' : World × ℕ) (h : TickedInv cyclicTick l s) (hc : NoAppend s e)
    (hstep : Runs.tracked (step topics) trackTicks s e = .ok s') : TickedInv cyclicTick l s' := by
  obtain ⟨w, n⟩ := s
  obtain ⟨w', n'⟩ := s'
  obtain ⟨hs', rfl⟩ := Runs.tracked_ok.mp hstep
  have hkeep : w'.client.cyclicTick = w.client.cyclicTick → w'.gwList = w.gwList →
      TickedInv cyclicTick l (w', n) := fun hnow hlist => ⟨hnow.trans h.now, hlist.trans h.list⟩
  obtain ⟨action, env⟩ := e
  cases action with
  | recv p addr port =>
    cases hs'
    obtain ⟨rx, b, g, t, heq, -⟩ := udpServerRecvCb_received env p addr port w
    apply hkeep
    · rw [heq]
    · rw [heq]
  | app call =>
    have hlist : w'.gwList = w.gwList := by
      apply (runAppCall_leaves hs').same .gwList
      cases call <;> simp [AppCall.parts]
    exact hkeep (runAppCall_cyclicTick hs') hlist
  | visit num now hnum =>
    have hvisit : timerVisit topics num now env w = .ok w' := hs'
    rcases timerVisit_runs hvisit with ⟨hidle, hsame⟩ | ⟨u, s, hdue, hrun, rfl⟩
    · have htick : Event.isTick ⟨.visit num now hnum, env⟩ w = false := by
        simp [Event.isTick, hidle]
      simp only [trackTicks, htick, Bool.false_eq_true, if_false]
      exact hkeep (by rw [hsame]) (by rw [hsame])
    · by_cases hcyc : (w.systime.timerT num).timerCallback = .cyclicCb
      · have htick : Event.isTick ⟨.visit num now hnum, env⟩ w = true := by
          simp [Event.isTick, hdue, hcyc]
        rw [hcyc] at hrun
        have hcb := runCallback_cyclic hrun
        have hnow := mqttSnClientCyclic_tick hcb
        simp only [trackTicks, htick, if_true]
        refine ⟨?_, ?_⟩
        · show u.client.cyclicTick = _
          rw [hnow, h.now, UInt32.ofNat_add, UInt32.add_assoc]
          rfl
        · show u.gwList = _
          rw [mqttSnClientCyclic_gwList hcb, h.now, h.list]
          rfl
      · have htick : Event.isTick ⟨.visit num now hnum, env⟩ w = false := by
          simp [Event.isTick, hcyc]
        simp only [trackTicks, htick, Bool.false_eq_true, if_false]
        obtain ⟨hadvertise, hgwinfo⟩ := hc num now hnum rfl hdue
        apply hkeep
        · show u.client.cyclicTick = w.client.cyclicTick
          exact runCallback_cyclicTick hrun hcyc
        · show u.gwList = w.gwList
          exact runCallback_gwList hrun hcyc hadvertise hgwinfo

/-- In every state of every run without `gwListappend`, from any state whose count is right,
the entries expire on time and apart from each other. -/
theorem gateways_expire (topics : Topics) {w : World} (hcount : w.gwList.Counted)
    (es : List Event)
    (hes : Runs.Meets (Runs.tracked (step topics) trackTicks) NoAppend (w, 0) es) :
    Runs.Always (Runs.tracked (step topics) trackTicks)
      (ExpiresOnTime w.client.cyclicTick w.gwList) (w, 0) es := by
  refine Runs.always_of_meets (J := TickedInv w.client.cyclicTick w.gwList)
    (fun s h => h.expires hcount) tickedInv_step ⟨?_, rfl⟩ hes
  exact (UInt32.add_zero _).symm

/-- Two gateways, the first of which keeps alive for no time. -/
def fadingGateways : GwList where
  gwList := Function.update (Function.update gwListZero.gwList 0 (.heard 0 1 10000 1 0))
    1 (.heard 0 2 10000 2 900)
  gwListAvalidNum := 2

def knowingWorld : World := { bootWorld with gwList := fadingGateways }

/-- As many ticks as the first gateway lasts, and one more. -/
def tickEvents : List Event :=
  [⟨.visit 1 2000 one_lt_maxTimerNum, quietEnv⟩, ⟨.visit 1 4000 one_lt_maxTimerNum, quietEnv⟩,
    ⟨.visit 1 6000 one_lt_maxTimerNum, quietEnv⟩, ⟨.visit 1 8000 one_lt_maxTimerNum, quietEnv⟩,
    ⟨.visit 1 10000 one_lt_maxTimerNum, quietEnv⟩]

theorem noAppend_visit {s : World × ℕ} {num : ℕ} {now : UInt32} {env : Env}
    (hnum : num < maxTimerNum) (hcb : (s.1.systime.timerT num).timerCallback = .cyclicCb) :
    NoAppend s ⟨.visit num now hnum, env⟩ := by
  intro num' now' valid he _
  cases he
  rw [hcb]
  decide

theorem gateways_expire_ticks :
    Runs.Always (Runs.tracked (step topiclist) trackTicks)
      (ExpiresOnTime knowingWorld.client.cyclicTick knowingWorld.gwList) (knowingWorld, 0)
      tickEvents := by
  have hcount : knowingWorld.gwList.Counted := by
    change fadingGateways.Counted
    unfold GwList.Counted
    decide
  refine gateways_expire topiclist hcount tickEvents ⟨noAppend_visit _ rfl, fun s hs => ?_⟩
  cases hs
  refine ⟨noAppend_visit _ rfl, fun s hs => ?_⟩
  cases hs
  refine ⟨noAppend_visit _ rfl, fun s hs => ?_⟩
  cases hs
  refine ⟨noAppend_visit _ rfl, fun s hs => ?_⟩
  cases hs
  exact ⟨noAppend_visit _ rfl, fun _ _ => trivial⟩

end MqttSnClient
