import MqttSnClient.Queues
import MqttSnClient.Touches

/-! The registration of topics. `TopicidRegistered` is not told which topic a REGACK is
about; it takes the first one that is registering. That this is the right one rests on how
the topic map, the pending message id and the last REGISTER sent hang together. -/
namespace MqttSnClient
open Memory Bytes

/-- The last REGISTER sent. -/
def lastRegister (sent : List Packet) : Option (List UInt8) :=
  ((sent.filter fun pk => pk.cmd = mqttSnTypeRegister).getLast?).map Packet.data

/-- The item `t` of the map is registering. -/
def Registering (m : TopicMap) (i : ℕ) (t : TopicMapItem) : Prop :=
  m.toppiclist[i]? = some t ∧ t.status = .registering

/-- At most one topic is registering, and for that one the last REGISTER was sent, with the
message id that is pending. -/
structure TopicsBound (topics : Topics) (w : World) : Prop where
  names : w.topicMap.toppiclist.map TopicMapItem.topicName = topics.names
  unique : ∀ {i j t u}, Registering w.topicMap i t → Registering w.topicMap j u → i = j
  last : ∀ {i t}, Registering w.topicMap i t →
    lastRegister w.sent = some (registerMsg (w.client.inpubPktId .reggister) t.topicName)

/-- A topic becomes registered only when the handler of REGACK finds a REGACK that carries
the message id of the last REGISTER, which named this topic. The topic receives the id that
the REGACK carries, and no other topic changes. -/
def RegackBinds (w : World) (e : Event) (w' : World) : Prop :=
  ∀ i t', w'.topicMap.toppiclist[i]? = some t' → t'.status = .registered →
    w.topicMap.toppiclist[i]? ≠ some t' →
      ∃ num now valid fr t, e.action = .visit num now valid ∧ timerDue num now w = true ∧
        (w.systime.timerT num).timerCallback = .press .regack ∧ w.headFrame = some fr ∧
        Registering w.topicMap i t ∧
        lastRegister w.sent =
          some (registerMsg (u16At (memcpy e.env.inputdata 0 fr) 4) t.topicName) ∧
        t' = { t with status := .registered, topicId := u16At (memcpy e.env.inputdata 0 fr) 2 } ∧
        ∀ j, j ≠ i → w'.topicMap.toppiclist[j]? = w.topicMap.toppiclist[j]?

theorem lastRegister_append {sent new : List Packet}
    (h : ∀ pk ∈ new, pk.cmd ≠ mqttSnTypeRegister) :
    lastRegister (sent ++ new) = lastRegister sent := by
  have hnone : new.filter (fun pk => pk.cmd = mqttSnTypeRegister) = [] := by
    rw [List.filter_eq_nil_iff]
    intro pk hpk
    simpa using h pk hpk
  rw [lastRegister, List.filter_append, hnone, List.append_nil, lastRegister]

theorem lastRegister_snoc (sent : List Packet) {pk : Packet} (h : pk.cmd = mqttSnTypeRegister) :
    lastRegister (sent ++ [pk]) = some pk.data := by
  have hkeep : [pk].filter (fun pk => pk.cmd = mqttSnTypeRegister) = [pk] := by simp [h]
  rw [lastRegister, List.filter_append, hkeep, List.getLast?_concat, Option.map_some]

theorem Touches.lastRegister {F : List Field} {T : List UInt8} {w w' : World}
    (h : Touches F T w w') (hT : mqttSnTypeRegister ∉ T) :
    lastRegister w'.sent = lastRegister w.sent := by
  obtain ⟨new, hnew, hcmd⟩ := h.emits
  rw [hnew]
  exact lastRegister_append fun pk hpk heq => hT (heq ▸ hcmd pk hpk)

variable {topics : Topics} {env : Env} {w w' : World}

/-- What a step has to leave alone: no further topic is registering, and the pending id and
the last REGISTER are the same. -/
theorem TopicsBound.keep (h : TopicsBound topics w)
    (hnames : w'.topicMap.toppiclist.map TopicMapItem.topicName =
      w.topicMap.toppiclist.map TopicMapItem.topicName)
    (hreg : ∀ {i t}, Registering w'.topicMap i t → Registering w.topicMap i t)
    (hpend : w'.client.inpubPktId .reggister = w.client.inpubPktId .reggister)
    (hlast : lastRegister w'.sent = lastRegister w.sent) : TopicsBound topics w' := by
  refine ⟨hnames.trans h.names, fun hi hj => h.unique (hreg hi) (hreg hj), fun hi => ?_⟩
  rw [hlast, hpend]
  exact h.last (hreg hi)

theorem TopicsBound.touches {F : List Field} {T : List UInt8} (h : TopicsBound topics w)
    (ht : Touches F T w w') (hm : Field.topicMap ∉ F) (hp : Field.pending .reggister ∉ F)
    (hT : mqttSnTypeRegister ∉ T) : TopicsBound topics w' := by
  have hmap : w'.topicMap = w.topicMap := ht.same .topicMap hm
  exact h.keep (by rw [hmap]) (fun hi => hmap ▸ hi) (ht.same (.pending .reggister) hp)
    (ht.lastRegister hT)

/-- Unregistering a topic and registering it to the end make no topic registering. -/
theorem registering_of_changeFirst {p : TopicMapItem → Bool} {f : TopicMapItem → TopicMapItem}
    (hf : ∀ t, (f t).status ≠ .registering) {m : TopicMap} {i : ℕ} {t : TopicMapItem}
    (h : Registering (changeFirst p f m).2 i t) : Registering m i t := by
  rcases changeFirst_spec p f m with ⟨k, u, -, -, -, heq⟩ | ⟨-, heq⟩
  · rw [heq, Registering, modify_getElem?] at h
    obtain ⟨hget, hst⟩ := h
    split_ifs at hget
    · obtain ⟨v, -, rfl⟩ := Option.map_eq_some_iff.mp hget
      exact absurd hst (hf v)
    · exact ⟨hget, hst⟩
  · rwa [heq] at h

theorem TopicsBound.topic (h : TopicsBound topics w) {i : ℕ} {t : TopicMapItem} {name : CString}
    (ht : w.topicMap.toppiclist[i]? = some t) (hname : topics.names[i]? = some name) :
    t.topicName = name := by
  rw [← h.names, List.getElem?_map, ht] at hname
  exact Option.some.inj hname

/-- The topic marked as registering is the one named, as no name occurs twice. -/
theorem topicidRegistering_marks {m : TopicMap} {name : CString} {i : ℕ}
    (hnames : m.toppiclist.map TopicMapItem.topicName = topics.names)
    (hname : topics.names[i]? = some name) (hnone : ∀ {j t}, ¬Registering m j t) {j : ℕ}
    {t : TopicMapItem} (h : Registering (topicidRegistering name m).2 j t) :
    j = i ∧ t.topicName = name := by
  rcases changeFirst_spec (fun t => name = t.topicName)
    (fun t => { t with status := .registering }) m with ⟨k, v, hk, hv, -, heq⟩ | ⟨-, heq⟩
  · rw [Registering, topicidRegistering, heq, modify_getElem?] at h
    obtain ⟨hget, hst⟩ := h
    split_ifs at hget with hkj
    · subst hkj
      rw [hk, Option.map_some] at hget
      have hv : name = v.topicName := by simpa using hv
      have hki : topics.names[k]? = some name := by
        rw [← hnames, List.getElem?_map, hk, hv, Option.map_some]
      have hlt := (List.getElem?_eq_some_iff.mp hki).1
      refine ⟨(List.getElem?_inj hlt topics.nodup).mp (hki.trans hname.symm), ?_⟩
      rw [← Option.some.inj hget, hv]
    · exact absurd ⟨hget, hst⟩ hnone
  · rw [topicidRegistering, heq] at h
    exact absurd h hnone

/-- A REGISTER becomes the last one, with the id that it leaves pending. -/
theorem mqttSnSendRegister_last {tick : UInt32} {name : CString}
    (h : mqttSnSendRegister tick name w = .ok w') :
    w'.topicMap = w.topicMap ∧
      lastRegister w'.sent = some (registerMsg (w'.client.inpubPktId .reggister) name) := by
  simp only [mqttSnSendRegister] at h
  split_ifs at h
  cases h
  refine ⟨rfl, (lastRegister_snoc w.sent ?_).trans ?_⟩
  · simp [Packet.cmd, registerMsg]
  · rfl

theorem TopicsBound.turn (h : TopicsBound topics w) {i : ℕ}
    (hturn : registerTurn env topics w i = .ok w') : TopicsBound topics w' := by
  rcases registerTurn_ok hturn with rfl | ⟨name, t, hname, ht, hst, hsend⟩
  · exact h
  -- the topic named is the one that is registering
  · obtain ⟨hmap, hlast⟩ := mqttSnSendRegister_last hsend
    refine ⟨hmap ▸ h.names, fun hi hj => h.unique (hmap ▸ hi) (hmap ▸ hj), fun {j u} hj => ?_⟩
    have hj : Registering w.topicMap j u := hmap ▸ hj
    obtain rfl := h.unique hj ⟨ht, hst⟩
    have htu : t = u := Option.some.inj (ht.symm.trans hj.1)
    rw [hlast, ← htu, h.topic ht hname]

theorem registerTurn_idle {i : ℕ} (h : ∀ {t}, ¬Registering w.topicMap i t) :
    registerTurn env topics w i = .ok w := by
  unfold registerTurn
  split
  · rename_i name t hname ht
    exact if_neg fun hst => h ⟨ht, hst⟩
  · rfl

theorem mqttSnSendRegisterCb_none (h : ∀ {i t}, ¬Registering w.topicMap i t) :
    mqttSnSendRegisterCb env topics w = .ok w :=
  Runs.foldlM_stay fun _ _ => registerTurn_idle h

/-- Where one topic is registering, the callback sends the REGISTER of this topic. -/
theorem mqttSnSendRegisterCb_one {i : ℕ} {t : TopicMapItem} {name : CString}
    (hi : Registering w.topicMap i t) (hunique : ∀ {j u}, Registering w.topicMap j u → j = i)
    (hname : topics.names[i]? = some name) :
    mqttSnSendRegisterCb env topics w = mqttSnSendRegister (env.tick i) name w := by
  have hmem : i ∈ List.range topics.names.length :=
    List.mem_range.mpr (List.getElem?_eq_some_iff.mp hname).1
  obtain ⟨before, after, hsplit⟩ := List.append_of_mem hmem
  have hnodup := hsplit ▸ List.nodup_range (n := topics.names.length)
  have hturn : registerTurn env topics w i = mqttSnSendRegister (env.tick i) name w := by
    simp only [registerTurn, hname, hi.1, hi.2, if_true]
  have hidle : ∀ u : World, u.topicMap = w.topicMap → ∀ j, j ≠ i →
      registerTurn env topics u j = .ok u := by
    intro u hu j hj
    apply registerTurn_idle
    intro v hv
    exact hj (hunique (hu ▸ hv))
  have hbefore : before.foldlM (registerTurn env topics) w = .ok w := by
    apply Runs.foldlM_stay
    intro j hj
    apply hidle w rfl
    rintro rfl
    exact (List.nodup_append.mp hnodup).2.2 j hj j List.mem_cons_self rfl
  rw [mqttSnSendRegisterCb, hsplit, List.foldlM_append, hbefore]
  show (i :: after).foldlM (registerTurn env topics) w = _
  rw [List.foldlM_cons, hturn]
  cases hsend : mqttSnSendRegister (env.tick i) name w with
  | error f => rfl
  | ok u =>
    -- the map is the same after the send, so the other turns find nothing to do
    apply Runs.foldlM_stay
    intro j hj
    apply hidle u (mqttSnSendRegister_last hsend).1
    rintro rfl
    exact (List.nodup_cons.mp (List.nodup_append.mp hnodup).2.1).1 hj

theorem TopicsBound.sendRegisterCb (h : TopicsBound topics w)
    (hcb : mqttSnSendRegisterCb env topics w = .ok w') : TopicsBound topics w' :=
  Runs.foldlM_ok (R := fun a b => TopicsBound topics a → TopicsBound topics b)
    (fun _ ha => ha) (fun hab hbc ha => hbc (hab ha)) (fun hturn ha => ha.turn hturn) hcb h

/-- The tick registers a topic only when none is registering. -/
theorem TopicsBound.registerall (h : TopicsBound topics w)
    (hall : registeralltopic env topics w = .ok w') : TopicsBound topics w' := by
  rcases registeralltopic_ok hall with ⟨-, rfl⟩ | ⟨hidle, i, name, u, -, hname, hsend, rfl⟩
  · exact h
  · obtain ⟨hmap, hlast⟩ := mqttSnSendRegister_last hsend
    have hnone : ∀ {j t}, ¬Registering w.topicMap j t := by
      rintro j t ⟨hj, hst⟩
      exact hidle t (List.mem_of_getElem? hj) hst
    have hmarked : ∀ {j t}, Registering (topicidRegistering name u.topicMap).2 j t →
        j = i ∧ t.topicName = name :=
      topicidRegistering_marks (hmap ▸ h.names) hname (hmap ▸ hnone)
    refine ⟨?_, fun hi hj => (hmarked hi).1.trans (hmarked hj).1.symm, fun hj => ?_⟩
    · rw [← h.names, ← hmap]
      exact changeFirst_names (f := fun t => { t with status := .registering })
        (fun _ => rfl) u.topicMap
    · rw [(hmarked hj).2]
      exact hlast

theorem TopicsBound.cyclic (h : TopicsBound topics w)
    (hcyc : mqttSnClientCyclic env topics w = .ok w') : TopicsBound topics w' := by
  have hticked : TopicsBound topics w.ticked := ⟨h.names, h.unique, h.last⟩
  rcases mqttSnClientCyclic_ok hcyc with ⟨-, rfl⟩ | ⟨-, u, hreg, hend⟩
  · exact hticked
  · have hu := hticked.registerall hreg
    have hdown : TopicsBound topics u.watchedDown := ⟨hu.names, hu.unique, hu.last⟩
    rcases hend with ⟨-, rfl⟩ | ⟨-, rfl⟩
    · exact hdown
    · exact hdown.touches (mqttSnSendPingreq_touches (List.mem_singleton_self _) _ _)
        (List.not_mem_nil) (List.not_mem_nil) (by decide)

/-- What the handler of REGACK does to the topic map. -/
theorem apiRegackPress_topicMap (hw : Sound w) (h : apiRegackPress env w = .ok w') :
    w'.topicMap = w.topicMap ∨ ∃ fr, w.headFrame = some fr ∧
      u16At (memcpy env.inputdata 0 fr) 4 = w.client.inpubPktId .reggister ∧
      w'.topicMap = (topicidRegistered (u16At (memcpy env.inputdata 0 fr) 2) w.topicMap).2 := by
  rcases press_frame hw h with ⟨fr, hhead, -, -, hbody⟩ | ⟨-, rfl⟩
  · split_ifs at hbody with hacc
    · cases hbody
      exact Or.inr ⟨fr, hhead, hacc.2.2, rfl⟩
    all_goals
      cases hbody
      exact Or.inl rfl
  · exact Or.inl rfl

theorem apiPubackPress_topicMap (h : apiPubackPress env w = .ok w') :
    w'.topicMap = w.topicMap ∨
      ∃ topicid, w'.topicMap = (topicidUnregister topicid w.topicMap).2 := by
  rcases press_ok h with ⟨-, -, -, hbody⟩ | ⟨-, rfl⟩
  · split_ifs at hbody <;> cases hbody
    on_goal 3 => exact Or.inr ⟨_, rfl⟩
    all_goals exact Or.inl rfl
  · exact Or.inl rfl

theorem TopicsBound.changeFirst (h : TopicsBound topics w) {F : List Field} {T : List UInt8}
    (ht : Touches F T w w') (hp : Field.pending .reggister ∉ F) (hT : mqttSnTypeRegister ∉ T)
    {p : TopicMapItem → Bool} {f : TopicMapItem → TopicMapItem}
    (hf : ∀ t, (f t).status ≠ .registering) (hname : ∀ t, (f t).topicName = t.topicName)
    (hm : w'.topicMap = (changeFirst p f w.topicMap).2) : TopicsBound topics w' := by
  refine h.keep ?_ (fun hi => registering_of_changeFirst hf (hm ▸ hi))
    (ht.same (.pending .reggister) hp) (ht.lastRegister hT)
  rw [hm]
  exact changeFirst_names hname w.topicMap

/-- Every callback keeps the registration in order. -/
theorem TopicsBound.callback (hw : Sound w) (h : TopicsBound topics w) {cb : Callback} {arg : Arg}
    (hcb : runCallback topics env cb arg w = .ok w') : TopicsBound topics w' := by
  have ht := runCallback_touches hcb
  cases cb with
  | sendRegisterCb =>
    exact h.sendRegisterCb (runCallback_register hcb)
  | cyclicCb =>
    exact h.cyclic (runCallback_cyclic hcb)
  | press api =>
    cases api with
    | regack =>
      have hpress : apiRegackPress env w = .ok w' := runCallback_press hcb
      rcases apiRegackPress_topicMap hw hpress with hsame | ⟨fr, -, -, hm⟩
      · exact h.keep (by rw [hsame]) (fun hi => hsame ▸ hi)
          (ht.same (.pending .reggister) (by decide)) (ht.lastRegister (by decide))
      · refine h.changeFirst ht (by decide) (by decide) ?_ ?_ hm
        · simp
        · exact fun _ => rfl
    | puback =>
      have hpress : apiPubackPress env w = .ok w' := runCallback_press hcb
      rcases apiPubackPress_topicMap hpress with hsame | ⟨topicid, hm⟩
      · exact h.keep (by rw [hsame]) (fun hi => hsame ▸ hi)
          (ht.same (.pending .reggister) (by decide)) (ht.lastRegister (by decide))
      · refine h.changeFirst ht (by decide) (by decide) ?_ ?_ hm
        · simp
        · exact fun _ => rfl
    | _ => exact h.touches ht (by decide) (by decide) (by decide)
  | _ => exact h.touches ht (by decide) (by decide) (by decide)

theorem topicsBound_step (w : World) (e : Event) (w' : World)
    (hw : Sound w ∧ TopicsBound topics w) (hc : ∀ name, e.action ≠ .app (.sendRegister name))
    (h : step topics w e = .ok w') : Sound w' ∧ TopicsBound topics w' := by
  obtain ⟨action, env⟩ := e
  refine ⟨sound_step hw.1 h, ?_⟩
  cases action with
  | recv p addr port =>
    cases h
    exact hw.2.touches (udpServerRecvCb_received env p addr port w).touches List.not_mem_nil
      List.not_mem_nil List.not_mem_nil
  | visit num now valid =>
    rcases timerVisit_ok hw.1 valid h with ⟨-, rfl⟩ | ⟨t, u, s, -, -, -, hrun, -, -, rfl, -, -⟩
    · exact hw.2
    · have hu := hw.2.callback hw.1 hrun
      exact ⟨hu.names, hu.unique, hu.last⟩
  | app call =>
    have ht := runAppCall_touches h
    cases call with
    | sendRegister name => exact absurd rfl (hc name)
    | _ => exact hw.2.touches ht (by simp [AppCall.changes]) (by simp [AppCall.changes]) (by
        simp only [AppCall.emits]
        decide)

/-- A step that registers no topic to the end. -/
theorem regackBinds_of_eq {e : Event}
    (h : ∀ (i : ℕ) (t : TopicMapItem), w'.topicMap.toppiclist[i]? = some t →
      t.status = .registered → w.topicMap.toppiclist[i]? = some t) : RegackBinds w e w' :=
  fun i t hi hst hne => absurd (h i t hi hst) hne

/-- An item that a change makes something else than registered was so before. -/
theorem registered_of_changeFirst {p : TopicMapItem → Bool} {f : TopicMapItem → TopicMapItem}
    (hf : ∀ t, (f t).status ≠ .registered) {m : TopicMap} {i : ℕ} {t : TopicMapItem}
    (hi : (changeFirst p f m).2.toppiclist[i]? = some t) (hst : t.status = .registered) :
    m.toppiclist[i]? = some t := by
  rcases changeFirst_spec p f m with ⟨k, u, -, -, -, heq⟩ | ⟨-, heq⟩
  · rw [heq, modify_getElem?] at hi
    split_ifs at hi
    · obtain ⟨v, -, rfl⟩ := Option.map_eq_some_iff.mp hi
      exact absurd hst (hf v)
    · exact hi
  · rwa [heq] at hi

theorem registeralltopic_topicMap (h : registeralltopic env topics w = .ok w') :
    w'.topicMap = w.topicMap ∨ ∃ name, w'.topicMap = (topicidRegistering name w.topicMap).2 := by
  rcases registeralltopic_ok h with ⟨-, rfl⟩ | ⟨-, _, _, u, -, -, hsend, rfl⟩
  · exact Or.inl rfl
  · rw [← (mqttSnSendRegister_last hsend).1]
    exact Or.inr ⟨_, rfl⟩

theorem mqttSnClientCyclic_topicMap (h : mqttSnClientCyclic env topics w = .ok w') :
    w'.topicMap = w.topicMap ∨ ∃ name, w'.topicMap = (topicidRegistering name w.topicMap).2 := by
  rcases mqttSnClientCyclic_ok h with ⟨-, rfl⟩ | ⟨-, u, hreg, hend⟩
  · exact Or.inl rfl
  · have hu := registeralltopic_topicMap hreg
    rcases hend with ⟨-, rfl⟩ | ⟨-, rfl⟩ <;> exact hu

/-- Only the handler of REGACK registers a topic to the end. -/
theorem registered_origin {cb : Callback} {arg : Arg}
    (h : runCallback topics env cb arg w = .ok w') (hcb : cb ≠ .press .regack) {i : ℕ}
    {t : TopicMapItem} (hi : w'.topicMap.toppiclist[i]? = some t) (hst : t.status = .registered) :
    w.topicMap.toppiclist[i]? = some t := by
  by_cases hch : Field.topicMap ∈ cb.changes
  · cases cb with
    | press api =>
      cases api with
      | regack => exact absurd rfl hcb
      | puback =>
        have hpress : apiPubackPress env w = .ok w' := runCallback_press h
        rcases apiPubackPress_topicMap hpress with hsame | ⟨topicid, hm⟩
        · rwa [hsame] at hi
        · rw [hm] at hi
          exact registered_of_changeFirst (by simp) hi hst
      | _ => exact absurd hch (by decide)
    | cyclicCb =>
      rcases mqttSnClientCyclic_topicMap (runCallback_cyclic h) with hsame | ⟨name, hm⟩
      · rwa [hsame] at hi
      · rw [hm] at hi
        exact registered_of_changeFirst (by simp) hi hst
    | _ => exact absurd hch (by decide)
  · have hsame : w'.topicMap = w.topicMap := (runCallback_touches h).same .topicMap hch
    rwa [hsame] at hi

theorem regackBinds_step (w : World) (e : Event) (w' : World)
    (hw : Sound w ∧ TopicsBound topics w) (h : step topics w e = .ok w') : RegackBinds w e w' := by
  obtain ⟨action, env⟩ := e
  cases action with
  | recv p addr port =>
    cases h
    have hsame := (udpServerRecvCb_received env p addr port w).touches.same .topicMap
      List.not_mem_nil
    exact regackBinds_of_eq fun i t hi _ => hsame ▸ hi
  | app call =>
    have ht := runAppCall_touches h
    have hsame : w'.topicMap = w.topicMap := by
      refine ht.same .topicMap ?_
      cases call <;> simp [AppCall.changes]
    exact regackBinds_of_eq fun i t hi _ => hsame ▸ hi
  | visit num now valid =>
    rcases timerVisit_ok hw.1 valid h with
      ⟨-, rfl⟩ | ⟨t, u, s, hdue, ht, -, hrun, -, -, rfl, -, -⟩
    · exact regackBinds_of_eq fun i t hi _ => hi
    by_cases hkind : t.timerCallback = .press .regack
    · have hcb := (live_running hw.1.timers_wf ht).2.2.1.trans hkind
      rw [hkind] at hrun
      have hpress : apiRegackPress env w = .ok u := runCallback_press hrun
      intro i t' hi hst hne
      have hi : u.topicMap.toppiclist[i]? = some t' := hi
      rcases apiRegackPress_topicMap hw.1 hpress with hsame | ⟨fr, hhead, hid, hm⟩
      · exact absurd (hsame ▸ hi) hne
      · have hfirst := changeFirst_spec (fun t => t.status = .registering)
          (fun t => { t with
            status := .registered, topicId := u16At (memcpy env.inputdata 0 fr) 2 }) w.topicMap
        rw [topicidRegistered] at hm
        rcases hfirst with ⟨k, v, hk, hv, -, heq⟩ | ⟨-, heq⟩
        · rw [hm, heq, modify_getElem?] at hi
          split_ifs at hi with hki
          · subst hki
            rw [hk, Option.map_some] at hi
            have hreg : Registering w.topicMap k v := ⟨hk, by simpa using hv⟩
            refine ⟨num, now, valid, fr, v, rfl, hdue, hcb, hhead, hreg, ?_,
              (Option.some.inj hi).symm, fun j hj => ?_⟩
            · rw [hid]
              exact hw.2.last hreg
            · show u.topicMap.toppiclist[j]? = _
              rw [hm, heq, modify_getElem?, if_neg (Ne.symm hj)]
          · exact absurd hi hne
        · rw [hm, heq] at hi
          exact absurd hi hne
    · exact regackBinds_of_eq fun i t' hi hst => registered_origin hrun hkind hi hst

theorem Booted.topicMap_eq (h : Booted topics w) : w.topicMap = topicInitConfig topics := by
  rw [h.eq_startup]
  rfl

theorem Booted.not_registering (h : Booted topics w) {i : ℕ} {t : TopicMapItem} :
    ¬Registering w.topicMap i t := by
  rintro ⟨hi, hst⟩
  rw [h.topicMap_eq, topicInitConfig, List.getElem?_map] at hi
  obtain ⟨name, -, rfl⟩ := Option.map_eq_some_iff.mp hi
  cases hst

theorem Booted.topicsBound (h : Booted topics w) : TopicsBound topics w := by
  refine ⟨?_, fun hi => absurd hi h.not_registering, fun hi => absurd hi h.not_registering⟩
  rw [h.topicMap_eq, topicInitConfig, List.map_map]
  exact List.map_id' topics.names

/-- In every run without a REGISTER of the application's own, the registration is in order
in every state, and every REGACK that registers a topic binds the topic that it answers. -/
theorem topics_bound_to_registers (hinit : mqttClientInit env (startup topics) = .ok w)
    {es : List Event} (hes : ∀ e ∈ es, ∀ name, e.action ≠ .app (.sendRegister name)) :
    Runs.Always (step topics) (TopicsBound topics) w es ∧
      Runs.EachStep (step topics) RegackBinds w es := by
  have hboot := mqttClientInit_booted hinit
  have hstart : Sound w ∧ TopicsBound topics w := ⟨hboot.sound, hboot.topicsBound⟩
  have hmeets : Runs.Meets (step topics) (fun _ e => ∀ name, e.action ≠ .app (.sendRegister name))
      w es := Runs.meets_of_mem hes
  refine ⟨Runs.always_of_meets (fun _ h => h.2) topicsBound_step hstart hmeets, ?_⟩
  refine Runs.eachStep_of_meets (J := fun w => Sound w ∧ TopicsBound topics w)
    (fun s e s' hs hc h => ?_) hstart hmeets
  exact ⟨topicsBound_step s e s' hs hc h, regackBinds_step s e s' hs h⟩

/-- The gateway accepts the connection; at the next tick the first topic is registered, and
a REGACK gives it the id 5. -/
def registerEvents : List Event :=
  [⟨.recv (datagram [3, mqttSnTypeConnack, 0]) 0 10000, quietEnv⟩,
    ⟨.visit 2 200 two_lt_maxTimerNum, quietEnv⟩, ⟨.visit 1 2000 one_lt_maxTimerNum, quietEnv⟩,
    ⟨.recv (datagram [7, mqttSnTypeRegack, 5, 0, 1, 0, 0]) 0 10000, quietEnv⟩,
    ⟨.visit 2 200 two_lt_maxTimerNum, quietEnv⟩]

theorem topics_bound_to_registers_regack :
    Runs.Always (step topiclist) (TopicsBound topiclist) bootWorld registerEvents ∧
      Runs.EachStep (step topiclist) RegackBinds bootWorld registerEvents := by
  refine topics_bound_to_registers bootWorld_init fun e he name hname => ?_
  simp only [registerEvents, List.mem_cons, List.not_mem_nil, or_false] at he
  rcases he with rfl | rfl | rfl | rfl | rfl <;> cases hname

example : (Runs.run (step topiclist) bootWorld registerEvents).toOption.map
    (fun w : World => w.topicMap.toppiclist.map fun t : TopicMapItem => (t.topicId, t.status)) =
      some [(5, .registered), (0, .unregister)] := by decide +kernel

end MqttSnClient
