import MqttSnClient.MainLoop
import MqttSnClient.Repetition
import MqttSnClient.Settings

/-! The strings that the client keeps: the id it connects with, which a PINGREQ after a sleep
carries, and the topic name of a SUBSCRIBE that may have to be sent again. Both are stored with
their terminator into arrays that are sized for the characters alone. -/
namespace MqttSnClient
open Memory Bytes

def NoConnect (w : World) (e : Event) : Prop :=
  match e.action with
  | .recv _ _ _ => True
  | .visit num now _ => timerDue num now w = true →
      (w.systime.timerT num).timerCallback = .sendConnectCb → w.client.status = .connected
  | .app call => ∀ clientId keepalive flags, call ≠ .sendConnect clientId keepalive flags

/-- The application makes no SUBSCRIBE in this step. -/
def NoSubscribe (_ : World) (e : Event) : Prop :=
  ∀ call, e.action = .app call →
    (∀ topicName qos dup, call ≠ .sendSubscribeTopicName topicName qos dup) ∧
      ∀ topicId qos dup, call ≠ .sendSubscribeTopicId topicId qos dup

/-- A CONNECT changes no field of the client that it is not to set, and until the next one a
PINGREQ carries its client id. -/
def ClientIDKept (topics : Topics) (tick : UInt32) (clientId : CString) (keepalive : UInt16)
    (flags : UInt8) (w : World) : Prop :=
  ∃ w', mqttSnSendConnect tick clientId keepalive flags w = .ok w' ∧
    w'.client = { w.client with
      keepAlive := keepalive, serverWatchdog := keepalive, clientID := w'.client.clientID
      status := .connecting } ∧
    ∀ es u, Runs.Meets (step topics) NoConnect w' es → Runs.run (step topics) w' es = .ok u →
      ∀ now, newlySent u (mqttSnSendPingreq now weakup u) = [⟨u.remoteIp, u.remotePort,
        [UInt8.ofNat (2 + clientId.strlen), mqttSnTypePingreq] ++ clientId.bytes⟩]

/-- After a SUBSCRIBE with QoS 1, and until the application makes another one, the timeout
callback sends the same name again. -/
def TopicNameKept (topics : Topics) (env : Env) (topicName : CString) (dup : UInt8) (w : World) :
    Prop :=
  ∃ w', mqttSnSendSubscribeTopicName env topicName 1 dup w = .ok w' ∧
    ∀ es u, Runs.Meets (step topics) NoSubscribe w' es → Runs.run (step topics) w' es = .ok u →
      ∀ env', ∃ v, mqttSnClientSubscribeTimeoutCb env' u = .ok v ∧
        newlySent u v = [⟨u.remoteIp, u.remotePort, subscribeMsg mqttSnTypeSubscribe
          (mqttSnTopicTypeNormal ||| qosFlags 1 ||| dupFlag 1) u.client.pktId topicName.bytes⟩]

variable {topics : Topics} {env : Env} {w w' : World}

section ClientID

variable {clientId : CString}

/-- An id that leaves room for its terminator is found again, whatever the fields behind the
array hold. -/
theorem clientIDChars_stored {c : Client} {mem : ℕ → UInt8}
    (hid : c.clientID = memcpy mem 0 (clientId.bytes ++ [0]))
    (hlen : clientId.strlen < mqttSnMaxClientIdLength) : c.clientIDChars = clientId.bytes := by
  have hroom : (clientId.bytes ++ [0]).length ≤ mqttSnMaxClientIdLength := by
    rw [List.length_append, List.length_singleton]
    exact hlen
  unfold Client.clientIDChars
  rw [hid, slice_memcpy_zero _ _ hroom]
  simp only [List.append_assoc, List.singleton_append]
  exact clientId.takeWhile_stored _

/-- An id that fills the array goes on with `pkt_id`. -/
theorem clientIDChars_full {c : Client} {mem : ℕ → UInt8}
    (hid : c.clientID = memcpy mem 0 (clientId.bytes ++ [0]))
    (hlen : clientId.strlen = mqttSnMaxClientIdLength) (hpkt : c.pktId.toNat % 256 ≠ 0) :
    clientId.strlen < c.clientIDChars.length := by
  have hslice : slice c.clientID 0 mqttSnMaxClientIdLength = clientId.bytes := by
    rw [hid, ← hlen]
    exact slice_memcpy_left mem clientId.bytes [0]
  have hlow : UInt8.ofNat (c.pktId.toNat % 256) ≠ 0 := by
    intro hzero
    have hnat := congrArg UInt8.toNat hzero
    simp only [UInt8.toNat_ofNat', UInt8.reduceToNat] at hnat
    omega
  unfold Client.clientIDChars
  simp only [List.append_assoc]
  rw [hslice, clientId.takeWhile_append, List.length_append, le16, List.cons_append,
    List.takeWhile_cons_of_pos (by simpa using hlow), List.length_cons]
  exact Nat.lt_add_of_pos_right (Nat.succ_pos _)

/-- A step without a CONNECT leaves the client id. -/
theorem noConnect_clientID {e : Event} (hc : NoConnect w e) (h : step topics w e = .ok w') :
    w'.client.clientID = w.client.clientID := by
  obtain ⟨action, env⟩ := e
  cases action with
  | recv p addr port =>
    cases h
    obtain ⟨rx, b, g, t, heq, -⟩ := udpServerRecvCb_received env p addr port w
    rw [heq]
  | app call => exact (runAppCall_settled h hc).clientID
  | visit num now hnum =>
    have hvisit : timerVisit topics num now env w = .ok w' := h
    rcases timerVisit_runs hvisit with ⟨-, rfl⟩ | ⟨u, s, hdue, hrun, rfl⟩
    · rfl
    · show u.client.clientID = w.client.clientID
      by_cases hconn : (w.systime.timerT num).timerCallback = .sendConnectCb
      · have hstatus := hc hdue hconn
        rw [hconn] at hrun
        rcases mqttSnSendConnectCb_ok (runCallback_connect hrun) with ⟨-, rfl⟩ | ⟨hno, -⟩
        · rfl
        · exact absurd hstatus hno
      · by_cases hcyc : (w.systime.timerT num).timerCallback = .cyclicCb
        · rw [hcyc] at hrun
          exact (runCallback_keeps hrun).same .clientID (by decide)
        · exact (runCallback_settled hrun hconn hcyc).clientID

theorem pingreq_sent (tick : UInt32) (u : World) :
    newlySent u (mqttSnSendPingreq tick weakup u) = [⟨u.remoteIp, u.remotePort,
      [UInt8.ofNat (2 + u.client.clientIDChars.length), mqttSnTypePingreq] ++
        u.client.clientIDChars⟩] :=
  newlySent_of_append rfl

/-- The terminator clears the low byte of `pkt_id`, so the next message id ends in 1. -/
theorem pktId_cleared (v : UInt16) : ((v &&& 0xFF00) + 1).toNat % 256 = 1 := by
  have hlow : (v &&& 0xFF00).toNat % 2 ^ 8 = 0 := by
    rw [UInt16.toNat_and, Nat.and_mod_two_pow]
    exact Nat.and_zero _
  rw [UInt16.toNat_add]
  simp only [UInt16.reduceToNat]
  omega

/-- A REGISTER after an id of full length brings a 24th character. -/
theorem client_id_lost (hlen : clientId.strlen = mqttSnMaxClientIdLength) (topics : Topics)
    (tick : UInt32) (keepalive : UInt16) (flags : UInt8) (w : World) :
    ¬ClientIDKept topics tick clientId keepalive flags w := by
  rintro ⟨w', hconnect, -, hkept⟩
  have hid : w'.client.clientID = memcpy w.client.clientID 0 (clientId.bytes ++ [0]) ∧
      w'.client.pktId = w.client.pktId &&& 0xFF00 := by
    simp only [mqttSnSendConnect] at hconnect
    split_ifs at hconnect
    cases hconnect
    exact ⟨rfl, if_pos hlen⟩
  -- the message id that it takes leaves a low byte of 1 where the terminator was
  obtain ⟨u, hregister, hpkt⟩ : ∃ u, mqttSnSendRegister 0 lwipTest w' = .ok u ∧
      u.client.pktId = w'.client.pktId + 1 := ⟨_, rfl, rfl⟩
  have hstay := mqttSnSendRegister_settled hregister
  have hno : NoConnect w' ⟨.app (.sendRegister lwipTest), quietEnv⟩ := by
    intro clientId keepalive flags heq
    cases heq
  have hsent := hkept [⟨.app (.sendRegister lwipTest), quietEnv⟩] u ⟨hno, fun _ _ => trivial⟩
    (Runs.run_cons_ok.mpr ⟨u, hregister, rfl⟩) 0
  rw [pingreq_sent] at hsent
  have hchars := (List.append_inj (Packet.mk.inj (List.cons.inj hsent).1).2.2 rfl).2
  have hlong := clientIDChars_full (hstay.clientID.trans hid.1) hlen (by
    rw [hpkt, hid.2, pktId_cleared]
    exact Nat.one_ne_zero)
  rw [hchars] at hlong
  exact Nat.lt_irrefl _ hlong

theorem client_id_kept (hlen : clientId.strlen < mqttSnMaxClientIdLength) (topics : Topics)
    (tick : UInt32) (keepalive : UInt16) (flags : UInt8) (w : World) :
    ClientIDKept topics tick clientId keepalive flags w := by
  obtain ⟨w', hconnect, hclient⟩ : ∃ w', mqttSnSendConnect tick clientId keepalive flags w =
      .ok w' ∧ w'.client = { w.client with
        keepAlive := keepalive, serverWatchdog := keepalive
        clientID := memcpy w.client.clientID 0 (clientId.bytes ++ [0]), status := .connecting } := by
    refine ⟨_, if_neg (by omega), ?_⟩
    simp only [addTimer, sockSendDataStream, Client.storeClientID]
    rw [if_neg (by omega)]
  refine ⟨w', hconnect, by rw [hclient], fun es u hes hrun now => ?_⟩
  -- the array is what carries through the run; the fields behind it may change
  have hid : u.client.clientID = w'.client.clientID := by
    refine Runs.run_invariant (I := fun v => v.client.clientID = w'.client.clientID)
      (fun s e s' hs hc hstep => ?_) rfl hes hrun
    exact (noConnect_clientID hc hstep).trans hs
  rw [hclient] at hid
  rw [pingreq_sent, clientIDChars_stored hid hlen]
  rfl

end ClientID

section TopicName

variable {topicName : CString} {dup : UInt8}

/-- The record stays through a step in which the application does not subscribe: a timeout
callback writes what stands there. -/
theorem noSubscribe_holds {e : Event}
    (h : w.subscribeInfor.Holds (.subscribeName topicName 1 dup)) (hc : NoSubscribe w e)
    (hstep : step topics w e = .ok w') :
    w'.subscribeInfor.Holds (.subscribeName topicName 1 dup) := by
  suffices hsame : w'.subscribeInfor = w.subscribeInfor by
    rw [hsame]
    exact h
  obtain ⟨action, env⟩ := e
  cases action with
  | recv p addr port =>
    cases hstep
    obtain ⟨rx, b, g, t, heq, -⟩ := udpServerRecvCb_received env p addr port w
    rw [heq]
  | app call =>
    apply (runAppCall_touches hstep).same .subscribeInfor
    obtain ⟨hname, hid⟩ := hc call rfl
    cases call with
    | sendSubscribeTopicName topicName qos dup => exact absurd rfl (hname topicName qos dup)
    | sendSubscribeTopicId topicId qos dup => exact absurd rfl (hid topicId qos dup)
    | _ => simp [AppCall.changes]
  | visit num now hnum =>
    have hvisit : timerVisit topics num now env w = .ok w' := hstep
    rcases timerVisit_runs hvisit with ⟨-, rfl⟩ | ⟨u, s, -, hrun, rfl⟩
    · rfl
    · show u.subscribeInfor = w.subscribeInfor
      cases hcb : (w.systime.timerT num).timerCallback with
      -- either callback may stand in the table, whichever of the two requests armed it
      | subscribeTimeoutCb =>
        rw [hcb] at hrun
        exact subscribe_again h.1 h.2.1 (runCallback_subscribe hrun)
      | subscribeTimeoutIdCb =>
        rw [hcb] at hrun
        rw [runCallback_subscribeId hrun]
        exact subscribe_id_again h.1 h.2.1
      | press api =>
        apply (runCallback_touches hrun).same .subscribeInfor
        rw [hcb]
        cases api <;> simp [Callback.changes]
      | _ =>
        apply (runCallback_touches hrun).same .subscribeInfor
        rw [hcb]
        simp [Callback.changes]

theorem topic_name_kept (hlen : topicName.strlen < mqttSnMaxTopicLength) (topics : Topics)
    (env : Env) (dup : UInt8) (w : World) : TopicNameKept topics env topicName dup w := by
  obtain ⟨w', hsub⟩ := mqttSnSendSubscribeTopicName_fits hlen.le env 1 dup w
  have hholds : w'.subscribeInfor.Holds (.subscribeName topicName 1 dup) := by
    obtain ⟨-, -, ⟨-, hrec, -⟩ | ⟨hno, -⟩⟩ := mqttSnSendSubscribeTopicName_record hsub
    · rw [hrec]
      exact ⟨rfl, rfl, rfl, hlen.le, memcpy_idem _ _ _⟩
    · exact absurd rfl hno
  refine ⟨w', hsub, fun es u hes hrun env' => ?_⟩
  have hu := Runs.run_invariant (fun _ _ _ hs hc hstep => noSubscribe_holds hs hc hstep) hholds hes
    hrun
  obtain ⟨v, hv, hsent⟩ := subscribe_expires hu hlen env'
  exact ⟨v, hv, newlySent_of_append hsent⟩

/-- The QoS takes the place of the terminator of a name that fills the union. -/
theorem topic_name_lost (hlen : topicName.strlen = mqttSnMaxTopicLength) (topics : Topics)
    (env : Env) (dup : UInt8) (w : World) : ¬TopicNameKept topics env topicName dup w := by
  rintro ⟨w', hsub, hkept⟩
  obtain ⟨v, hv, -⟩ := hkept [] w' trivial rfl env
  obtain ⟨-, -, ⟨-, hrec, -⟩ | ⟨hno, -⟩⟩ := mqttSnSendSubscribeTopicName_record hsub
  · have hslice : slice w'.subscribeInfor.subscri 0 mqttSnMaxTopicLength = topicName.bytes := by
      rw [hrec, ← hlen]
      exact slice_memcpy_left w.subscribeInfor.subscri topicName.bytes [0]
    have hnone : w'.subscribeInfor.topicName = none := by
      rw [SubInfor.topicName, hslice, hrec, CString.ofMemory, if_neg]
      intro hmem
      rcases List.mem_append.mp hmem with hmem | hmem
      · exact topicName.nonul hmem
      · have hone : (0 : UInt8) ∈ [(1 : Int8).toUInt8, (1 : Int8).toUInt8] := hmem
        revert hone
        decide
    rw [mqttSnClientSubscribeTimeoutCb, hnone] at hv
    cases hv
  · exact hno rfl

end TopicName

/-- Of the client ids and the topic names that the arrays are sized for, those are read back
that leave room for the terminator. -/
theorem strings_read_back_iff (topics : Topics) (env : Env) (w : World) :
    (∀ tick clientId keepalive flags, 1 ≤ clientId.strlen →
      clientId.strlen ≤ mqttSnMaxClientIdLength →
        (ClientIDKept topics tick clientId keepalive flags w ↔
          clientId.strlen < mqttSnMaxClientIdLength)) ∧
      ∀ topicName dup, topicName.strlen ≤ mqttSnMaxTopicLength →
        (TopicNameKept topics env topicName dup w ↔ topicName.strlen < mqttSnMaxTopicLength) := by
  refine ⟨fun tick clientId keepalive flags _ hle => ⟨fun hkept => ?_, fun hlt => ?_⟩,
    fun topicName dup hle => ⟨fun hkept => ?_, fun hlt => ?_⟩⟩
  · apply hle.lt_of_ne
    intro hfull
    exact client_id_lost hfull topics tick keepalive flags w hkept
  · exact client_id_kept hlt topics tick keepalive flags w
  · apply hle.lt_of_ne
    intro hfull
    exact topic_name_lost hfull topics env dup w hkept
  · exact topic_name_kept hlt topics env dup w

/-- The id that the client connects with is read back, and its topic names are. -/
theorem strings_read_back_lwipTest :
    ClientIDKept topiclist 0 lwipTest 60 mqttSnFlagClean bootWorld ∧
      TopicNameKept topiclist quietEnv lwipTest 0 bootWorld := by
  obtain ⟨hid, hname⟩ := strings_read_back_iff topiclist quietEnv bootWorld
  exact ⟨(hid 0 lwipTest 60 mqttSnFlagClean (by decide) (by decide)).mpr (by decide),
    (hname lwipTest 0 (by decide)).mpr (by decide)⟩

def fullClientID : CString := .ofChars (List.replicate 23 'a') (by decide)

/-- It is not read back. -/
theorem full_client_id_lost :
    ¬∀ topics tick clientId keepalive flags w, 1 ≤ clientId.strlen →
      clientId.strlen ≤ mqttSnMaxClientIdLength →
        ClientIDKept topics tick clientId keepalive flags w := by
  intro h
  have hlen : fullClientID.strlen = mqttSnMaxClientIdLength := by decide
  apply client_id_lost hlen topiclist 0 60 mqttSnFlagClean bootWorld
  exact h topiclist 0 fullClientID 60 mqttSnFlagClean bootWorld (by decide) hlen.le

end MqttSnClient
