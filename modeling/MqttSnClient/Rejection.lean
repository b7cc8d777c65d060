import MqttSnClient.MainLoop

namespace MqttSnClient
open Memory Bytes

inductive TopicStep
  | registering (topic : CString)
  | registered (topicid : UInt16)
  | unregister (topicid : UInt16)

def topicStep (m : TopicMap) : TopicStep → Except Unit TopicMap
  | .registering topic => .ok (topicidRegistering topic m).2
  | .registered topicid => .ok (topicidRegistered topicid m).2
  | .unregister topicid => .ok (topicidUnregister topicid m).2

def TopicMapItem.Owns (t : TopicMapItem) (topicid : UInt16) : Prop :=
  t.status = .registered ∧ t.topicId = topicid

def TopicMap.Owned (m : TopicMap) (topicid : UInt16) : Prop :=
  ∃ t ∈ m.toppiclist, t.Owns topicid

instance (t : TopicMapItem) (topicid : UInt16) : Decidable (t.Owns topicid) :=
  inferInstanceAs (Decidable (t.status = .registered ∧ t.topicId = topicid))

instance (m : TopicMap) (topicid : UInt16) : Decidable (m.Owned topicid) :=
  inferInstanceAs (Decidable (∃ t ∈ m.toppiclist, t.Owns topicid))

/-- `registeralltopic` registers the topic `i` in every state with this map. -/
def TopicMap.RegistersNext (m : TopicMap) (topics : Topics) (i : ℕ) : Prop :=
  ∀ env w w', w.topicMap = m → registeralltopic env topics w = .ok w' →
    ∃ t, Registering w'.topicMap i t

/-- The rejection of a topic id unregisters the topic that owns it, and no other. -/
structure UnregistersOwner (m : TopicMap) (topicid : UInt16) : Prop where
  result : (topicidUnregister topicid m).1 = 0 ↔ m.Owned topicid
  owner : ∀ (i : ℕ) t, m.toppiclist[i]? = some t → t.Owns topicid →
    (topicidUnregister topicid m).2.toppiclist[i]? = some { t with status := .unregister }
  others : ∀ (i : ℕ) t, m.toppiclist[i]? = some t → ¬t.Owns topicid →
    (topicidUnregister topicid m).2.toppiclist[i]? = some t
  /-- Until a REGACK assigns the id, no topic owns it; what `GetTopicID` returns is then at
  most the number that stands for no topic. -/
  gone : ∀ es, (∀ e ∈ es, e ≠ .registered topicid) → Runs.Always topicStep
    (fun m' => ¬m'.Owned topicid ∧ ∀ topic,
      getTopicID topic m' = topicid.toInt16 → getTopicID topic m' = -1)
    (topicidUnregister topicid m).2 es
  /-- The owner is registered again as soon as it is the next one. -/
  again : ∀ (topics : Topics) (i : ℕ) t,
    m.toppiclist.map TopicMapItem.topicName = topics.names →
      m.toppiclist[i]? = some t → t.Owns topicid →
        (∀ {j u}, ¬Registering (topicidUnregister topicid m).2 j u) →
          (∀ j < i, ∀ u, (topicidUnregister topicid m).2.toppiclist[j]? = some u →
            u.status ≠ .unregister) →
            (topicidUnregister topicid m).2.RegistersNext topics i

/-- The first topic that stores the id is registered, and no other is registered with it. -/
def TopicMap.OwnerFirst (m : TopicMap) (topicid : UInt16) : Prop :=
  ∀ (i : ℕ) t, m.toppiclist[i]? = some t → t.topicId = topicid →
    (∀ j < i, ∀ u, m.toppiclist[j]? = some u → u.topicId ≠ topicid) →
      t.status = .registered ∧
        ∀ (j : ℕ) u, m.toppiclist[j]? = some u → u.Owns topicid → j = i

variable {m : TopicMap} {topicid : UInt16}

theorem mem_changeFirst {p : TopicMapItem → Bool} {f : TopicMapItem → TopicMapItem}
    {t : TopicMapItem} (h : t ∈ (changeFirst p f m).2.toppiclist) :
    t ∈ m.toppiclist ∨ ∃ u, t = f u := by
  obtain ⟨j, hj⟩ := List.mem_iff_getElem?.mp h
  rcases changeFirst_spec p f m with ⟨i, u, -, -, -, heq⟩ | ⟨-, heq⟩
  · rw [heq, modify_getElem?] at hj
    split_ifs at hj
    · obtain ⟨v, -, rfl⟩ := Option.map_eq_some_iff.mp hj
      exact Or.inr ⟨v, rfl⟩
    · exact Or.inl (List.mem_of_getElem? hj)
  · rw [heq] at h
    exact Or.inl h

theorem not_owned_changeFirst {p : TopicMapItem → Bool} {f : TopicMapItem → TopicMapItem}
    (hf : ∀ t, ¬(f t).Owns topicid) (h : ¬m.Owned topicid) :
    ¬(changeFirst p f m).2.Owned topicid := by
  rintro ⟨t, ht, hown⟩
  rcases mem_changeFirst ht with hmem | ⟨u, rfl⟩
  · exact h ⟨t, hmem, hown⟩
  · exact hf u hown

/-- Only a REGACK with this id gives it an owner. -/
theorem not_owned_step {e : TopicStep} {m' : TopicMap} (h : ¬m.Owned topicid)
    (he : e ≠ .registered topicid) (hstep : topicStep m e = .ok m') : ¬m'.Owned topicid := by
  cases e with
  | registering topic =>
    cases hstep
    exact not_owned_changeFirst (fun t hown => by cases hown.1) h
  | registered other =>
    cases hstep
    refine not_owned_changeFirst (fun t hown => he ?_) h
    rw [show other = topicid from hown.2]
  | unregister other =>
    cases hstep
    exact not_owned_changeFirst (fun t hown => by cases hown.1) h

/-- What `GetTopicID` returns is the id of a registered topic, or -1. -/
theorem getTopicID_owned {topic : CString} (h : ¬m.Owned topicid)
    (hid : getTopicID topic m = topicid.toInt16) : getTopicID topic m = -1 := by
  unfold getTopicID at hid ⊢
  split at hid
  · rename_i t hfind
    have hmem := List.mem_of_find?_eq_some hfind
    have hst := List.find?_some hfind
    have hsame : t.topicId = topicid := by
      have hback := congrArg Int16.toUInt16 hid
      simpa using hback
    have hreg : t.status = .registered := (of_decide_eq_true hst).2
    exact absurd ⟨t, hmem, hreg, hsame⟩ h
  · rfl

/-- An id without an owner keeps without one while no REGACK assigns it. -/
theorem not_owned_always (h : ¬m.Owned topicid) {es : List TopicStep}
    (hes : ∀ e ∈ es, e ≠ .registered topicid) :
    Runs.Always topicStep (fun m' => ¬m'.Owned topicid ∧ ∀ topic,
      getTopicID topic m' = topicid.toInt16 → getTopicID topic m' = -1) m es := by
  refine Runs.always_of_meets (J := fun m' : TopicMap => ¬m'.Owned topicid)
    (C := fun _ e => e ≠ .registered topicid) ?_ ?_ h (Runs.meets_of_mem hes)
  · intro m' hm'
    exact ⟨hm', fun _ => getTopicID_owned hm'⟩
  · intro m' e m'' hm' he hstep
    exact not_owned_step hm' he hstep

/-- The two outcomes of the search. -/
theorem topicidUnregister_cases (m : TopicMap) (topicid : UInt16) :
    (∃ i t, m.toppiclist[i]? = some t ∧ t.topicId = topicid ∧
        (∀ j < i, ∀ u, m.toppiclist[j]? = some u → u.topicId ≠ topicid) ∧
        (topicidUnregister topicid m).1 = 0 ∧
        ∀ j : ℕ, (topicidUnregister topicid m).2.toppiclist[j]? =
          if i = j then some { t with status := .unregister } else m.toppiclist[j]?) ∨
      (∀ t ∈ m.toppiclist, t.topicId ≠ topicid) ∧ topicidUnregister topicid m = (1, m) := by
  rcases changeFirst_spec (fun t => t.topicId = topicid)
    (fun t => { t with status := .unregister }) m with ⟨i, t, hi, ht, hlow, heq⟩ | ⟨hnone, heq⟩
  · refine Or.inl ⟨i, t, hi, of_decide_eq_true ht, fun j hj u hu => ?_, ?_, fun j => ?_⟩
    · exact of_decide_eq_false (hlow j hj u hu)
    · rw [topicidUnregister, heq]
    · rw [topicidUnregister, heq, modify_getElem?]
      split_ifs with hij
      · rw [← hij, hi, Option.map_some]
      · rfl
  · exact Or.inr ⟨fun t ht => of_decide_eq_false (hnone t ht), heq⟩

/-- With no topic registering, the first unregistered one is registered. -/
theorem registersNext_of_first {topics : Topics} {i : ℕ} {t : TopicMapItem}
    (hnames : m.toppiclist.map TopicMapItem.topicName = topics.names)
    (hi : m.toppiclist[i]? = some t) (hst : t.status = .unregister)
    (hnone : ∀ {j u}, ¬Registering m j u)
    (hlow : ∀ j < i, ∀ u, m.toppiclist[j]? = some u → u.status ≠ .unregister) :
    m.RegistersNext topics i := by
  rintro env w w' rfl hall
  have hname : topics.names[i]? = some t.topicName := by
    rw [← hnames, List.getElem?_map, hi, Option.map_some]
  have hidle : ∀ v ∈ w.topicMap.toppiclist, v.status ≠ .registering := by
    intro v hv hreg
    obtain ⟨j, hj⟩ := List.mem_iff_getElem?.mp hv
    exact hnone ⟨hj, hreg⟩
  have hfind : (w.topicMap.toppiclist.findIdx? fun t => t.status = .unregister) = some i := by
    obtain ⟨hlt, hget⟩ := List.getElem?_eq_some_iff.mp hi
    apply List.findIdx?_eq_some_iff_getElem.mpr
    refine ⟨hlt, by simp [hget, hst], fun j hj => ?_⟩
    have hother := hlow j hj _ (List.getElem?_eq_getElem (hj.trans hlt))
    simpa using hother
  rcases registeralltopic_ok hall with ⟨⟨v, hv, hreg⟩ | hno, rfl⟩ |
      ⟨-, j, name, u, hj, hjname, hsend, rfl⟩
  · exact absurd hreg (hidle v hv)
  · cases hname.symm.trans (hno i hfind)
  obtain rfl := Option.some.inj (hfind.symm.trans hj)
  obtain rfl := Option.some.inj (hname.symm.trans hjname)
  obtain ⟨hmap, -⟩ := mqttSnSendRegister_last hsend
  rcases changeFirst_spec (fun u => t.topicName = u.topicName)
    (fun u => { u with status := .registering }) w.topicMap with
      ⟨k, v, hk, hv, hbefore, heq⟩ | ⟨hno, -⟩
  -- no name occurs twice, so the topic that is marked is the one that was found
  · have hvname : t.topicName = v.topicName := of_decide_eq_true hv
    have hkname : topics.names[k]? = some t.topicName := by
      rw [← hnames, List.getElem?_map, hk, hvname, Option.map_some]
    have hlt := (List.getElem?_eq_some_iff.mp hkname).1
    obtain rfl := (List.getElem?_inj hlt topics.nodup).mp (hkname.trans hname.symm)
    refine ⟨{ v with status := .registering }, ?_, rfl⟩
    show (topicidRegistering t.topicName u.topicMap).2.toppiclist[k]? = _
    rw [hmap, topicidRegistering, heq, modify_getElem?, if_pos rfl, hk, Option.map_some]
  · have hself := hno t (List.mem_of_getElem? hi)
    exact absurd rfl (of_decide_eq_false hself)

/-- An id that no topic stores is rejected without effect. -/
theorem unregistersOwner_of_none (hno : ∀ t ∈ m.toppiclist, t.topicId ≠ topicid)
    (heq : topicidUnregister topicid m = (1, m)) : UnregistersOwner m topicid := by
  have hfree : ¬m.Owned topicid := by
    rintro ⟨t, ht, hown⟩
    exact hno t ht hown.2
  refine ⟨?_, fun i t hi ht => ?_, fun i t hi _ => ?_, fun es hes => ?_,
    fun topics i t _ hi ht => ?_⟩
  · have hone : ¬(1 : UInt8) = 0 := by decide
    rw [heq]
    exact iff_of_false hone hfree
  · exact absurd ⟨t, List.mem_of_getElem? hi, ht⟩ hfree
  · rw [heq]
    exact hi
  · rw [heq]
    exact not_owned_always hfree hes
  · exact absurd ⟨t, List.mem_of_getElem? hi, ht⟩ hfree

section First

variable {i : ℕ} {t : TopicMapItem}
  (hafter : ∀ j : ℕ, (topicidUnregister topicid m).2.toppiclist[j]? =
    if i = j then some { t with status := .unregister } else m.toppiclist[j]?)
  (hi : m.toppiclist[i]? = some t) (hzero : (topicidUnregister topicid m).1 = 0)

include hafter

/-- The topic that was changed is the only owner, since any other would stay one. -/
theorem UnregistersOwner.only (h : UnregistersOwner m topicid) {j : ℕ} {u : TopicMapItem}
    (hj : m.toppiclist[j]? = some u) (hu : u.Owns topicid) : j = i := by
  have hnil : ∀ e ∈ ([] : List TopicStep), e ≠ .registered topicid := by
    intro e he
    cases he
  have hgone := (Runs.always_nil.mp (h.gone [] hnil)).1
  by_contra hne
  refine hgone ⟨u, List.mem_of_getElem? (i := j) ?_, hu⟩
  rw [hafter, if_neg (Ne.symm hne), hj]

include hi hzero

theorem UnregistersOwner.registered (h : UnregistersOwner m topicid) : t.Owns topicid := by
  obtain ⟨u, hu, hown⟩ := h.result.mp hzero
  obtain ⟨j, hj⟩ := List.mem_iff_getElem?.mp hu
  obtain rfl := h.only hafter hj hown
  obtain rfl : t = u := Option.some.inj (hi.symm.trans hj)
  exact hown

theorem unregistersOwner_of_first (hown : t.Owns topicid)
    (honly : ∀ (j : ℕ) u, m.toppiclist[j]? = some u → u.Owns topicid → j = i) :
    UnregistersOwner m topicid := by
  have howner : ∀ (j : ℕ) u, m.toppiclist[j]? = some u → u.Owns topicid →
      (topicidUnregister topicid m).2.toppiclist[j]? =
        some { u with status := .unregister } := by
    intro j u hj hu
    obtain rfl := honly j u hj hu
    obtain rfl : t = u := Option.some.inj (hi.symm.trans hj)
    rw [hafter, if_pos rfl]
  have hfree : ¬(topicidUnregister topicid m).2.Owned topicid := by
    rintro ⟨u, hu, huown⟩
    obtain ⟨j, hj⟩ := List.mem_iff_getElem?.mp hu
    rw [hafter] at hj
    split_ifs at hj with hij
    · cases hj
      cases huown.1
    · exact hij (honly j u hj huown).symm
  refine ⟨⟨fun _ => ⟨t, List.mem_of_getElem? hi, hown⟩, fun _ => hzero⟩, howner, ?_,
    fun es hes => not_owned_always hfree hes, ?_⟩
  · intro j u hj hu
    have hij : i ≠ j := by
      rintro rfl
      obtain rfl : t = u := Option.some.inj (hi.symm.trans hj)
      exact hu hown
    rw [hafter, if_neg hij, hj]
  · intro topics j u hnames hj hu hnone hbefore
    refine registersNext_of_first ?_ (howner j u hj hu) rfl hnone hbefore
    rw [← hnames]
    exact changeFirst_names (f := fun t => { t with status := .unregister }) (fun _ => rfl) m

end First

/-- In every topic map and for every id: its rejection unregisters exactly its owner, if and
only if the owner is the first topic that stores the id, or no topic stores it. -/
theorem unregisters_owner_iff (m : TopicMap) (topicid : UInt16) :
    UnregistersOwner m topicid ↔ m.OwnerFirst topicid := by
  rcases topicidUnregister_cases m topicid with
    ⟨i, t, hi, ht, hlow, hzero, hafter⟩ | ⟨hno, heq⟩
  · constructor
    · intro h k v hk hv hbefore
      have hki : k = i := by
        rcases Nat.lt_trichotomy k i with hlt | heq | hgt
        · exact absurd hv (hlow k hlt v hk)
        · exact heq
        · exact absurd ht (hbefore i hgt t hi)
      subst hki
      obtain rfl : t = v := Option.some.inj (hi.symm.trans hk)
      exact ⟨(h.registered hafter hi hzero).1, fun j u hj hu => h.only hafter hj hu⟩
    · intro h
      obtain ⟨hreg, honly⟩ := h i t hi ht hlow
      exact unregistersOwner_of_first hafter hi hzero ⟨hreg, ht⟩ honly
  · apply iff_of_true (unregistersOwner_of_none hno heq)
    intro i t hi ht
    exact absurd ht (hno t (List.mem_of_getElem? hi))

/-- What a step of the client does to the topic map is a list of changes. -/
theorem step_topicSteps {topics : Topics} {e : Event} {w w' : World} (hw : Sound w)
    (h : step topics w e = .ok w') :
    ∃ es, Runs.run topicStep w.topicMap es = .ok w'.topicMap := by
  have hsame : w'.topicMap = w.topicMap →
      ∃ es, Runs.run topicStep w.topicMap es = .ok w'.topicMap := by
    intro heq
    refine ⟨[], ?_⟩
    rw [heq]
    rfl
  have hone : ∀ es : TopicStep, topicStep w.topicMap es = .ok w'.topicMap →
      ∃ es, Runs.run topicStep w.topicMap es = .ok w'.topicMap := by
    intro e he
    exact ⟨[e], Runs.run_cons_ok.mpr ⟨_, he, rfl⟩⟩
  obtain ⟨action, env⟩ := e
  cases action with
  | recv p addr port =>
    cases h
    exact hsame ((udpServerRecvCb_received env p addr port w).touches.same .topicMap
      List.not_mem_nil)
  | app call =>
    refine hsame ((runAppCall_touches h).same .topicMap ?_)
    cases call <;> simp [AppCall.changes]
  | visit num now hnum =>
    rcases timerVisit_ok hw hnum h with ⟨-, rfl⟩ | ⟨t, u, s, -, -, -, hrun, -, -, rfl, -, -⟩
    · exact hsame rfl
    have hmap : Field.topicMap ∉ t.timerCallback.changes → u.topicMap = w.topicMap :=
      (runCallback_touches hrun).same .topicMap
    cases hkind : t.timerCallback with
    | press api =>
      rw [hkind] at hrun hmap
      cases api with
      | regack =>
        have hpress : apiRegackPress env w = .ok u := runCallback_press hrun
        rcases apiRegackPress_topicMap hw hpress with heq | ⟨fr, -, -, heq⟩
        · exact hsame heq
        · exact hone (.registered _) (congrArg Except.ok heq.symm)
      | puback =>
        have hpress : apiPubackPress env w = .ok u := runCallback_press hrun
        rcases apiPubackPress_topicMap hpress with heq | ⟨topicid, heq⟩
        · exact hsame heq
        · exact hone (.unregister topicid) (congrArg Except.ok heq.symm)
      | _ => exact hsame (hmap (by decide))
    | cyclicCb =>
      rw [hkind] at hrun
      rcases mqttSnClientCyclic_topicMap (runCallback_cyclic hrun) with heq | ⟨name, heq⟩
      · exact hsame heq
      · exact hone (.registering name) (congrArg Except.ok heq.symm)
    | _ =>
      rw [hkind] at hmap
      exact hsame (hmap (by decide))

def firstTopic : CString := topiclist.names.headD lwipTest

/-- The first topic is registered with the id 5 and rejected, and is being registered again. -/
def rejectedOnce : List TopicStep :=
  [.registering firstTopic, .registered 5, .unregister 5, .registering firstTopic]

/-- A further rejection of the id stops this registration, though no topic owns the id. -/
theorem rejection_stops_registration :
    ¬∀ topics es, Runs.Always topicStep (fun m => ∀ topicid, UnregistersOwner m topicid)
      (topicInitConfig topics) es := by
  intro h
  have hlast := h topiclist rejectedOnce rejectedOnce [] _ rfl rfl 5
  have howned := hlast.result.mp (by decide)
  exact absurd howned (by decide)

end MqttSnClient

