import MqttSnClient.Hanging

/-! Which bytes a datagram is judged by. The handlers overlay structs on a stack buffer that
the frame fills only in part, and the receive callback reads the type before it knows the
length; two runs that differ in that memory only may then end differently. -/
namespace MqttSnClient
open Memory Bytes

/-- The same environment with another content of the arrays `inputdata`. -/
def Env.withInput (env : Env) (f : ℕ → UInt8) : Env := { env with inputdata := f }

/-- The frame that a handler obtains of a datagram. -/
def Pbuf.frame (p : Pbuf) : List UInt8 := p.bytes.take p.lenth.toNat

/-- What is done to receive and to handle the datagram depends, in any state of the client,
neither on what `inputdata` held before nor on the memory behind the datagram. -/
structure OnlyReceived (p : Pbuf) : Prop where
  recv : ∀ w env f p' addr port, Sound w → p'.totLen = p.totLen → p'.bytes = p.bytes →
    (udpServerRecvCb (env.withInput f) p' addr port w).2 = (udpServerRecvCb env p addr port w).2
  handle : ∀ v w env f api, Sound v → Stores v p → Sound w → w.headFrame = some p.frame →
    getAPIFUN p.cmd = some api → api.func (env.withInput f) w.gw w = api.func env w.gw w

/-- The offset behind the last byte that a handler acts on in a frame that begins with its
length. A PUBLISH is only answered if it asks for it; nothing comes of a SUBACK, since no
timer has the ID that its handler cancels. -/
def Api.reads (fr : List UInt8) : Api → ℕ
  | .connack | .pubcomp | .pubrec | .pubrel | .suback | .unsuback => 0
  | .gwinfo | .willtopicreq | .willmsgreq | .disconnet | .pingres | .pingreq => 2
  | .advertise => 5
  | .regack | .puback => 7
  | .publish => if fr.getD 2 0 &&& mqttSnFlagQos1 = 0 then 3 else 7

/-- The datagram is never stored, or it holds its type and, if its frame begins with its
length, all that its handler acts on. -/
def SelfContained (p : Pbuf) : Prop :=
  p.totLen.toNat % 256 = 0 ∨ maxBuffSize ≤ p.totLen.toNat ∨
    (2 ≤ p.totLen.toNat ∧ (p.payload 0 = 0x01 → 4 ≤ p.totLen.toNat) ∧
      (BeginsWithLenth p.frame →
        ∀ api, getAPIFUN p.cmd = some api → api.reads p.frame ≤ p.frame.length))

variable {w : World} {env : Env} {f : ℕ → UInt8} {fr : List UInt8}

/-- What is read depends on the array only outside the frame. -/
theorem nextFrame_withInput (env : Env) (f : ℕ → UInt8) (w : World) :
    w.consumed (nextFrame (env.withInput f) w) = w.consumed (nextFrame env w) := by
  have hbuff : (nextFrame (env.withInput f) w).buffBody = (nextFrame env w).buffBody := by
    simp only [nextFrame, readBUFF]
    split_ifs <;> rfl
  simp only [World.consumed, hbuff]
  rfl

theorem Stores.short {p : Pbuf} (hw : Sound w) (h : Stores w p) : p.totLen.toNat < maxBuffSize := by
  obtain ⟨q, hq⟩ := hw.buff
  have hroom := h.2.1
  rw [hq.space] at hroom
  omega

/-- A datagram that is not stored leaves its sender in the socket and nothing else. -/
theorem udpServerRecvCb_unstored (hw : Sound w) {p : Pbuf} (hp : ¬Stores w p) (env : Env)
    (addr : UInt32) (port : UInt16) :
    (udpServerRecvCb env p addr port w).2 = { w with remotePort := port, remoteIp := addr } := by
  simp only [udpServerRecvCb]
  split_ifs with hcmd hroom himport hbuff
  · rfl
  · by_cases hz : UInt8.ofNat p.totLen.toNat = 0
    · rw [hz, write_zero]
    · exact absurd (by rw [write_eq hz hw.rx.wPtr_lt hw.rx.rPtr_lt]) himport
  · exact absurd ⟨not_not.mp hcmd, hroom.2, fun hz => himport (p.import_refused hz _)⟩ hp
  · exact absurd ⟨not_not.mp hcmd, hroom.2, fun hz => himport (p.import_refused hz _)⟩ hp
  · rfl

/-- The receive callback reads the type, the length and the bytes of a datagram. -/
theorem udpServerRecvCb_congr {p p' : Pbuf} (hcmd : p'.cmd = p.cmd) (hlen : p'.totLen = p.totLen)
    (hbytes : p'.bytes = p.bytes) (env : Env) (f : ℕ → UInt8) (addr : UInt32) (port : UInt16)
    (w : World) :
    udpServerRecvCb (env.withInput f) p' addr port w = udpServerRecvCb env p addr port w := by
  have hincomm : ∀ cmd v, mqttSnSocketIncommCb (env.withInput f) addr port cmd v =
      mqttSnSocketIncommCb env addr port cmd v := by
    intro cmd v
    unfold mqttSnSocketIncommCb
    cases getAPIFUN cmd with
    | some api => rfl
    | none => simp only [nextFrame_withInput]
  simp only [udpServerRecvCb, hcmd, hlen, hbytes, hincomm]

/-- The type stands among the received bytes. -/
theorem Pbuf.cmd_congr {p p' : Pbuf} (hlen : p'.totLen = p.totLen) (hbytes : p'.bytes = p.bytes)
    (htwo : 2 ≤ p.totLen.toNat) (hfour : p.payload 0 = 0x01 → 4 ≤ p.totLen.toNat) :
    p'.cmd = p.cmd := by
  have hat : ∀ i < p.totLen.toNat, p'.payload i = p.payload i := by
    intro i hi
    have hsame := congrArg (fun l : List UInt8 => l[i]?) hbytes
    simp only [Pbuf.bytes, hlen] at hsame
    rw [List.getElem?_eq_getElem (by simpa using hi), List.getElem?_eq_getElem (by simpa using hi)]
      at hsame
    simpa using hsame
  simp only [Pbuf.cmd, hat 0 (by omega), hat 1 (by omega)]
  split_ifs with hone
  · exact hat 3 (by have := hfour hone; omega)
  · rfl

theorem recv_confined {p : Pbuf} (h : SelfContained p) (hw : Sound w) {p' : Pbuf}
    (hlen : p'.totLen = p.totLen) (hbytes : p'.bytes = p.bytes) (env : Env) (f : ℕ → UInt8)
    (addr : UInt32) (port : UInt16) :
    (udpServerRecvCb (env.withInput f) p' addr port w).2 =
      (udpServerRecvCb env p addr port w).2 := by
  have hunstored : (∀ q : Pbuf, q.totLen = p.totLen → ¬Stores w q) →
      (udpServerRecvCb (env.withInput f) p' addr port w).2 =
        (udpServerRecvCb env p addr port w).2 := by
    intro hno
    rw [udpServerRecvCb_unstored hw (hno p' hlen), udpServerRecvCb_unstored hw (hno p rfl)]
  rcases h with hzero | hlong | ⟨htwo, hfour, -⟩
  · refine hunstored fun q hq hstores => hstores.2.2 ?_
    rw [hq]
    exact hzero
  · refine hunstored fun q hq hstores => ?_
    have hshort := hstores.short hw
    rw [hq] at hshort
    omega
  · rw [udpServerRecvCb_congr (p.cmd_congr hlen hbytes htwo hfour) hlen hbytes]

/-- The handlers agree on a frame if their bodies do. -/
theorem press_congr (hw : Sound w) (hhead : w.headFrame = some fr) (pre : World → World)
    (fits : UInt8 → Bool) (body : (ℕ → UInt8) → World → Except Fault World)
    (hbody : BeginsWithLenth fr → fits (UInt8.ofNat fr.length) = true →
      body (memcpy f 0 fr) (pre (w.consumed (nextFrame env w))) =
        body (memcpy env.inputdata 0 fr) (pre (w.consumed (nextFrame env w)))) :
    press pre fits body (env.withInput f) w = press pre fits body env w := by
  rw [press_eq hw hhead, press_eq hw hhead, nextFrame_withInput]
  split_ifs with hfits hb
  · exact hbody hb hfits
  · rfl
  · rfl

theorem memcpy_getD (f : ℕ → UInt8) {i : ℕ} (hi : i < fr.length) :
    memcpy f 0 fr i = fr.getD i 0 := by
  have hf := memcpy_inside f 0 fr i hi
  rw [Nat.zero_add] at hf
  rw [hf, List.getD_eq_getElem fr 0 hi]

theorem memcpy_frame (f g : ℕ → UInt8) {i : ℕ} (hi : i < fr.length) :
    memcpy f 0 fr i = memcpy g 0 fr i := by
  rw [memcpy_getD f hi, memcpy_getD g hi]

theorem u16At_frame (f g : ℕ → UInt8) {i : ℕ} (hi : i + 1 < fr.length) :
    u16At (memcpy f 0 fr) i = u16At (memcpy g 0 fr) i := by
  unfold u16At
  rw [memcpy_frame f g (by omega), memcpy_frame f g hi]

theorem reads_publish (h : Api.publish.reads fr ≤ fr.length) :
    3 ≤ fr.length ∧ (fr.getD 2 0 &&& mqttSnFlagQos1 ≠ 0 → 7 ≤ fr.length) := by
  simp only [Api.reads] at h
  split_ifs at h with hqos
  · exact ⟨h, fun hne => absurd hqos hne⟩
  · exact ⟨by omega, fun _ => h⟩

/-- A handler acts on the frame only, if that holds all it acts on. -/
theorem func_confined (hw : Sound w) (hhead : w.headFrame = some fr) (api : Api) (g : GwInfor)
    (hreads : BeginsWithLenth fr → api.reads fr ≤ fr.length)
    (htype : BeginsWithLenth fr → api = .gwinfo → fr.getD 1 0 = mqttSnTypeGwinfo) :
    api.func (env.withInput f) g w = api.func env g w := by
  have hat {i : ℕ} (hi : i < fr.length) := memcpy_frame f env.inputdata hi
  have hat16 {i : ℕ} (hi : i + 1 < fr.length) := u16At_frame f env.inputdata hi
  have htick : (env.withInput f).tick = env.tick := rfl
  cases api with
  | pubcomp | pubrec | pubrel => rfl
  | unsuback =>
    simp only [Api.func, apiUnsubackPress]
    exact press_congr hw hhead _ _ _ fun _ _ => rfl
  | connack =>
    simp only [Api.func, apiConnackPress]
    refine press_congr hw hhead _ _ _ fun _ hfits => ?_
    have hlen : fr.length = 3 := by
      have hnat := congrArg UInt8.toNat (of_decide_eq_true hfits)
      rw [UInt8.toNat_ofNat', Nat.mod_eq_of_lt (headFrame_length hhead).2] at hnat
      exact hnat
    simp only [hat (show 1 < fr.length by omega), hat (show 2 < fr.length by omega)]
  | suback =>
    simp only [Api.func, apiSubackPress]
    refine press_congr hw hhead _ _ _ fun _ _ => ?_
    have hv : Sound (id (w.consumed (nextFrame env w))) := hw.consumed env
    simp only [cancelTimer_subscribe hv, ite_self]
  | gwinfo =>
    simp only [Api.func, apiGwinfoPress]
    refine press_congr hw hhead _ _ _ fun hb _ => ?_
    have hlen : 2 ≤ fr.length := hreads hb
    -- the handler tests for another type than it is scheduled for
    have hne (d : ℕ → UInt8) : memcpy d 0 fr 1 ≠ mqttSnTypeSearchgw := by
      rw [memcpy_getD d (by omega), htype hb rfl]
      decide
    rw [if_neg (hne f), if_neg (hne env.inputdata)]
  | advertise =>
    simp only [Api.func, apiAdvertisePress]
    refine press_congr hw hhead _ _ _ fun hb _ => ?_
    have hlen : 5 ≤ fr.length := hreads hb
    simp only [hat (show 1 < fr.length by omega), hat (show 2 < fr.length by omega),
      hat (show 3 < fr.length by omega), hat (show 4 < fr.length by omega)]
  | regack | puback =>
    simp only [Api.func, apiRegackPress, apiPubackPress, htick]
    refine press_congr hw hhead _ _ _ fun hb _ => ?_
    have hlen : 7 ≤ fr.length := hreads hb
    simp only [hat (show 1 < fr.length by omega), hat (show 6 < fr.length by omega),
      hat16 (show 2 + 1 < fr.length by omega), hat16 (show 4 + 1 < fr.length by omega)]
  | publish =>
    simp only [Api.func, apiPublishPress]
    refine press_congr hw hhead _ _ _ fun hb _ => ?_
    obtain ⟨hlen, hseven⟩ := reads_publish (hreads hb)
    by_cases hqos : fr.getD 2 0 &&& mqttSnFlagQos1 = 0
    · have hflag (d : ℕ → UInt8) : ¬(memcpy d 0 fr 1 = mqttSnTypePublish ∧
          memcpy d 0 fr 2 &&& mqttSnFlagQos1 ≠ 0) := by
        rw [memcpy_getD d (show 2 < fr.length by omega)]
        exact fun hand => hand.2 hqos
      rw [if_neg (hflag f), if_neg (hflag env.inputdata)]
    · have hlen := hseven hqos
      simp only [hat (show 1 < fr.length by omega), hat (show 2 < fr.length by omega),
        hat16 (show 3 + 1 < fr.length by omega), hat16 (show 5 + 1 < fr.length by omega)]
  | willtopicreq | willmsgreq | disconnet | pingres | pingreq =>
    simp only [Api.func, apiWilltopicreqPress, apiWillmsgreq, willReqPress, apiDisconnetPress,
      apiPingresPress, apiPingreqPress, htick]
    refine press_congr hw hhead _ _ _ fun hb _ => ?_
    have hlen : 2 ≤ fr.length := hreads hb
    simp only [hat (show 1 < fr.length by omega)]

theorem getAPIFUN_mem {cmd : UInt8} {api : Api} (h : getAPIFUN cmd = some api) :
    (cmd, api) ∈ gApiTable := by
  obtain ⟨row, hrow, rfl⟩ := Option.map_eq_some_iff.mp h
  obtain rfl : row.1 = cmd := by simpa using List.find?_some hrow
  exact List.mem_of_find?_eq_some hrow

theorem getAPIFUN_type {cmd : UInt8} {api : Api} {type : UInt8} (h : getAPIFUN cmd = some api)
    (hrow : ∀ row ∈ gApiTable, row.2 = api → row.1 = type) : cmd = type :=
  hrow _ (getAPIFUN_mem h) rfl

/-- A type with a handler is not refused. -/
theorem getAPIFUN_confirmed {cmd : UInt8} {api : Api} (h : getAPIFUN cmd = some api) :
    cmdConfirm cmd = 0 := by
  have hall : ∀ row ∈ gApiTable, cmdConfirm row.1 = 0 := by decide
  exact hall _ (getAPIFUN_mem h)

namespace Pbuf

variable {p : Pbuf}

theorem frame_length (p : Pbuf) : p.frame.length = p.totLen.toNat % 256 := by
  have hmod := Nat.mod_le p.totLen.toNat 256
  rw [frame, List.length_take, p.bytes_length, p.lenth_toNat]
  omega

theorem frame_getD {i : ℕ} (hi : i < p.frame.length) : p.frame.getD i 0 = p.payload i := by
  have hlen := p.frame_length
  have hmod := Nat.mod_le p.totLen.toNat 256
  rw [List.getD_eq_getElem _ _ hi]
  simp [frame, bytes]

/-- A frame that begins with its length, and is long enough to, holds its type. -/
theorem frame_type (hb : BeginsWithLenth p.frame) (htwo : 2 ≤ p.frame.length) :
    p.frame.getD 1 0 = p.cmd := by
  have hlen := p.frame_length
  have hlt : p.totLen.toNat % 256 < 256 := Nat.mod_lt _ (by decide)
  have hfirst : p.payload 0 = UInt8.ofNat p.frame.length := by
    rw [beginsWithLenth_iff (by omega), frame_getD (by omega)] at hb
    exact hb
  have hne : p.payload 0 ≠ 0x01 := by
    rw [hfirst, ne_eq, ← UInt8.toNat_inj, UInt8.toNat_ofNat', Nat.mod_eq_of_lt (by omega)]
    show p.frame.length ≠ 1
    omega
  rw [frame_getD (by omega), cmd, if_neg hne]

end Pbuf

theorem handle_confined {p : Pbuf} (h : SelfContained p) {v : World} (hv : Sound v)
    (hp : Stores v p) (hw : Sound w) (hhead : w.headFrame = some p.frame) {api : Api}
    (hapi : getAPIFUN p.cmd = some api) :
    api.func (env.withInput f) w.gw w = api.func env w.gw w := by
  rcases h with hzero | hlong | ⟨-, -, hreads⟩
  · exact absurd hzero hp.2.2
  · exact absurd (hp.short hv) (Nat.not_lt.mpr hlong)
  · refine func_confined hw hhead api w.gw (fun hb => hreads hb api hapi) fun hb hgw => ?_
    have htwo := hreads hb api hapi
    rw [hgw] at hapi htwo
    rw [p.frame_type hb htwo]
    exact getAPIFUN_type hapi (by decide)

section Apart

/-- A content of `inputdata` with a type, and with a byte of its own at one place. -/
def inputs (type : UInt8) (i : ℕ) (b : UInt8) : ℕ → UInt8 :=
  Function.update (Function.update (fun _ => 0) 1 type) i b

theorem inputs_self {type : UInt8} {i : ℕ} (b : UInt8) (hi : fr.length ≤ i) :
    memcpy (inputs type i b) 0 fr i = b := by
  rw [memcpy_outside _ _ _ _ (Or.inr (by omega)), inputs, Function.update_self]

theorem inputs_other {type : UInt8} {i j : ℕ} (b b' : UInt8) (hj : j ≠ i) :
    memcpy (inputs type i b) 0 fr j = memcpy (inputs type i b') 0 fr j := by
  rcases Nat.lt_or_ge j fr.length with hlt | hge
  · exact memcpy_frame _ _ hlt
  · rw [memcpy_outside _ _ _ _ (Or.inr (by omega)), memcpy_outside _ _ _ _ (Or.inr (by omega)),
      inputs, inputs, Function.update_of_ne hj, Function.update_of_ne hj]

theorem inputs_type {type : UInt8} {i : ℕ} (b : UInt8) (hi : 1 ≠ i)
    (htype : 2 ≤ fr.length → fr.getD 1 0 = type) : memcpy (inputs type i b) 0 fr 1 = type := by
  rcases Nat.lt_or_ge 1 fr.length with hlt | hge
  · rw [memcpy_getD _ hlt, htype hlt]
  · rw [memcpy_outside _ _ _ _ (Or.inr (by omega)), inputs, Function.update_of_ne hi,
      Function.update_self]

/-- Two contents of `inputdata` on which the bodies of a handler differ. -/
theorem press_apart (hw : Sound w) (hhead : w.headFrame = some fr) (hb : BeginsWithLenth fr)
    {pre : World → World} {fits : UInt8 → Bool} {body : (ℕ → UInt8) → World → Except Fault World}
    (hfits : fits (UInt8.ofNat fr.length) = true)
    (hne : body (memcpy f 0 fr) (pre (w.consumed (nextFrame env w))) ≠
      body (memcpy env.inputdata 0 fr) (pre (w.consumed (nextFrame env w)))) :
    press pre fits body (env.withInput f) w ≠ press pre fits body env w := by
  rw [press_eq hw hhead, press_eq hw hhead, nextFrame_withInput, if_pos hfits, if_pos hb,
    if_pos hfits, if_pos hb]
  exact hne

/-- The handler ends differently for two contents of `inputdata`. -/
def Api.Leaks (api : Api) (w : World) : Prop :=
  ∃ env f, api.func (env.withInput f) w.gw w ≠ api.func env w.gw w

/-- A handler that does something exactly for one type, where the type is not received. -/
theorem type_apart (hw : Sound w) (hhead : w.headFrame = some fr) (hb : BeginsWithLenth fr)
    (hone : fr.length = 1) {pre : World → World} {type : UInt8} (htype : type ≠ 0)
    {body : (ℕ → UInt8) → World → Except Fault World}
    (hset : ∀ d, d 1 = type → body d (pre (w.consumed (nextFrame quietEnv w))) ≠
      .ok (pre (w.consumed (nextFrame quietEnv w))))
    (hclear : ∀ d, d 1 ≠ type → body d (pre (w.consumed (nextFrame quietEnv w))) =
      .ok (pre (w.consumed (nextFrame quietEnv w)))) :
    press pre (fun _ => true) body (quietEnv.withInput (inputs 0 1 type)) w ≠
      press pre (fun _ => true) body quietEnv w := by
  refine press_apart hw hhead hb rfl ?_
  have hzero : memcpy quietEnv.inputdata 0 fr 1 = 0 :=
    memcpy_outside _ _ _ _ (Or.inr (by omega))
  have hquiet : memcpy quietEnv.inputdata 0 fr 1 ≠ type := by
    rw [hzero]
    exact htype.symm
  have hsame : memcpy (inputs 0 1 type) 0 fr 1 = type := inputs_self type (by omega)
  rw [hclear _ hquiet]
  exact hset _ hsame

theorem willReqPress_apart (hw : Sound w) (hhead : w.headFrame = some fr) (hb : BeginsWithLenth fr)
    (hone : fr.length = 1) (hst : w.client.status = .connecting) {type : UInt8} (htype : type ≠ 0)
    {send : CString → World → Except Fault World}
    (hsend : ∀ u, send lwipTest u ≠ .ok u) :
    willReqPress type send (quietEnv.withInput (inputs 0 1 type)) w ≠
      willReqPress type send quietEnv w := by
  refine type_apart hw hhead hb hone htype (fun d hd => ?_) fun d hd => ?_
  · rw [if_pos ⟨hd, hst⟩]
    exact hsend _
  · exact if_neg fun hand => hd hand.1

/-- Handing over a datagram changes the state. -/
theorem sent_ne {u v : World} {pk : Packet} (h : v.sent = u.sent ++ [pk]) :
    (Except.ok v : Except Fault World) ≠ .ok u := by
  intro heq
  have hlen := congrArg (fun w : World => w.sent.length) (Except.ok.inj heq)
  simp only [h, List.length_append, List.length_singleton] at hlen
  omega

theorem mqttSnSendWilltopic_ne (u : World) : mqttSnSendWilltopic lwipTest u ≠ .ok u := by
  unfold mqttSnSendWilltopic
  rw [if_neg (by decide)]
  exact sent_ne rfl

theorem mqttSnSendWillMSG_ne (u : World) : mqttSnSendWillMSG lwipTest u ≠ .ok u := by
  unfold mqttSnSendWillMSG
  rw [if_neg (by decide)]
  exact sent_ne rfl

/-- The first gateway is written to the first entry. -/
theorem appendGateway_first {u : World} (hzero : u.gwList = gwListZero) (g : GwInfor) (gwid : UInt8)
    (keepalive : UInt16) : ∃ l, appendGateway g gwid keepalive u = .ok { u with gwList := l } ∧
      l.gwListAvalidNum = 1 ∧ (l.gwList 0).gwKeepalive = keepalive := by
  unfold appendGateway
  rw [hzero]
  exact ⟨_, rfl, rfl, rfl⟩

/-- What an unreceived type makes of a handler that acts on its type alone. -/
theorem type_leaks (hw : Sound w) (hhead : w.headFrame = some fr) (hb : BeginsWithLenth fr)
    (hone : fr.length = 1) {api : Api} (htwo : api.reads fr = 2) (hlist : w.gwList = gwListZero)
    (hwill : api = .willtopicreq ∨ api = .willmsgreq → w.client.status = .connecting)
    (hping : api = .pingreq ∨ api = .pingres ∨ api = .disconnet → w.client.status = .connected)
    (hlost : w.client.pingReqResLostNum ≠ 0) : api.Leaks w := by
  refine ⟨quietEnv, ?_⟩
  cases api with
  | willtopicreq =>
    exact ⟨_, willReqPress_apart hw hhead hb hone (hwill (Or.inl rfl)) (by decide)
      mqttSnSendWilltopic_ne⟩
  | willmsgreq =>
    exact ⟨_, willReqPress_apart hw hhead hb hone (hwill (Or.inr rfl)) (by decide)
      mqttSnSendWillMSG_ne⟩
  | gwinfo =>
    refine ⟨inputs 0 1 mqttSnTypeSearchgw, ?_⟩
    show apiGwinfoPress w.gw (quietEnv.withInput (inputs 0 1 mqttSnTypeSearchgw)) w ≠
      apiGwinfoPress w.gw quietEnv w
    unfold apiGwinfoPress
    refine type_apart hw hhead hb hone ?_ (fun d hd => ?_) fun d hd => if_neg hd
    · decide
    have hzero : (id (w.consumed (nextFrame quietEnv w))).gwList = gwListZero := hlist
    obtain ⟨l, happend, hnum, -⟩ := appendGateway_first hzero w.gw (d 2) 900
    rw [if_pos hd, happend]
    intro heq
    have hsame := congrArg (fun v : World => v.gwList.gwListAvalidNum) (Except.ok.inj heq)
    simp only [hnum, hzero] at hsame
    exact absurd hsame (by decide)
  | disconnet =>
    refine ⟨inputs 0 1 mqttSnTypeDisconnect, ?_⟩
    show apiDisconnetPress (quietEnv.withInput (inputs 0 1 mqttSnTypeDisconnect)) w ≠
      apiDisconnetPress quietEnv w
    unfold apiDisconnetPress
    refine type_apart hw hhead hb hone ?_ (fun d hd => ?_) fun d hd => if_neg hd
    · decide
    rw [if_pos hd]
    intro heq
    have hst := congrArg (fun v : World => v.client.status) (Except.ok.inj heq)
    have hconn : (id (w.consumed (nextFrame quietEnv w))).client.status = .connected :=
      hping (Or.inr (Or.inr rfl))
    rw [hconn] at hst
    cases hst
  | pingres =>
    refine ⟨inputs 0 1 mqttSnTypePingresp, ?_⟩
    show apiPingresPress (quietEnv.withInput (inputs 0 1 mqttSnTypePingresp)) w ≠
      apiPingresPress quietEnv w
    unfold apiPingresPress
    refine type_apart hw hhead hb hone ?_ (fun d hd => ?_) fun d hd => if_neg fun hand => hd hand.1
    · decide
    rw [if_pos ⟨hd, hping (Or.inr (Or.inl rfl))⟩]
    intro heq
    have hnum := congrArg (fun v : World => v.client.pingReqResLostNum) (Except.ok.inj heq)
    exact hlost hnum.symm
  | pingreq =>
    refine ⟨inputs 0 1 mqttSnTypePingreq, ?_⟩
    show apiPingreqPress (quietEnv.withInput (inputs 0 1 mqttSnTypePingreq)) w ≠
      apiPingreqPress quietEnv w
    unfold apiPingreqPress
    refine type_apart hw hhead hb hone ?_ (fun d hd => ?_) fun d hd => if_neg fun hand => hd hand.1
    · decide
    rw [if_pos ⟨hd, hping (Or.inl rfl)⟩]
    exact sent_ne rfl
  | publish =>
    simp only [Api.reads] at htwo
    split_ifs at htwo <;> cases htwo
  | _ => cases htwo

/-- The shift takes the only byte out. -/
theorem shifted_out (b : UInt8) : b.toUInt16 >>> 8 = 0 := by
  have hb := b.toNat_lt
  rw [← UInt16.toNat_inj, UInt16.toNat_shiftRight, UInt8.toNat_toUInt16]
  show b.toNat >>> 8 = 0
  rw [Nat.shiftRight_eq_div_pow]
  omega

theorem advertise_leaks (hw : Sound w) (hhead : w.headFrame = some fr) (hb : BeginsWithLenth fr)
    (hshort : fr.length < 5) (htype : 2 ≤ fr.length → fr.getD 1 0 = mqttSnTypeAdvertise)
    (hlist : w.gwList = gwListZero) : Api.advertise.Leaks w := by
  refine ⟨quietEnv.withInput (inputs mqttSnTypeAdvertise 4 0), inputs mqttSnTypeAdvertise 4 9, ?_⟩
  simp only [Api.func, apiAdvertisePress]
  refine press_apart hw hhead hb rfl ?_
  have hset (b : UInt8) : memcpy (inputs mqttSnTypeAdvertise 4 b) 0 fr 1 = mqttSnTypeAdvertise :=
    inputs_type b (by decide) htype
  have hfour (b : UInt8) : memcpy (inputs mqttSnTypeAdvertise 4 b) 0 fr 4 = b :=
    inputs_self b (by omega)
  simp only [Env.withInput, hset, hfour, shifted_out, if_true]
  generalize hu : id (w.consumed (nextFrame { quietEnv with
    inputdata := inputs mqttSnTypeAdvertise 4 0 } w)) = u
  have hzero : u.gwList = gwListZero := by
    rw [← hu]
    exact hlist
  obtain ⟨l, happend, -, hkeep⟩ := appendGateway_first hzero w.gw
    (memcpy (inputs mqttSnTypeAdvertise 4 9) 0 fr 2) (0 ||| (9 : UInt8).toUInt16)
  obtain ⟨l', happend', -, hkeep'⟩ := appendGateway_first hzero w.gw
    (memcpy (inputs mqttSnTypeAdvertise 4 0) 0 fr 2) (0 ||| (0 : UInt8).toUInt16)
  rw [happend, happend']
  intro heq
  have hsame := congrArg (fun v : World => (v.gwList.gwList 0).gwKeepalive) (Except.ok.inj heq)
  simp only [hkeep, hkeep'] at hsame
  exact absurd hsame (by decide)

theorem publish_leaks (hw : Sound w) (hhead : w.headFrame = some fr) (hb : BeginsWithLenth fr)
    (hshort : fr.length < Api.publish.reads fr)
    (htype : 2 ≤ fr.length → fr.getD 1 0 = mqttSnTypePublish) : Api.publish.Leaks w := by
  simp only [Api.reads] at hshort
  by_cases hflag : 3 ≤ fr.length
  -- the flags ask for an answer, which repeats a message id that is not received
  · have hqos : fr.getD 2 0 &&& mqttSnFlagQos1 ≠ 0 := by
      intro hqos
      rw [if_pos hqos] at hshort
      omega
    rw [if_neg hqos] at hshort
    refine ⟨quietEnv.withInput (inputs mqttSnTypePublish 6 0), inputs mqttSnTypePublish 6 1, ?_⟩
    simp only [Api.func, apiPublishPress]
    refine press_apart hw hhead hb rfl ?_
    have hset (b : UInt8) : memcpy (inputs mqttSnTypePublish 6 b) 0 fr 1 = mqttSnTypePublish :=
      inputs_type b (by decide) htype
    have htwo (b : UInt8) : memcpy (inputs mqttSnTypePublish 6 b) 0 fr 2 = fr.getD 2 0 :=
      memcpy_getD _ (by omega)
    have hsix (b : UInt8) : memcpy (inputs mqttSnTypePublish 6 b) 0 fr 6 = b :=
      inputs_self b (by omega)
    simp only [Env.withInput, hset, htwo, hqos, ne_eq, not_false_iff, and_self, if_true]
    intro heq
    have hsame := congrArg (fun v : World => v.sent.getLast?.map fun pk => pk.data.getD 5 0)
      (Except.ok.inj heq)
    simp [mqttSnSendPublishack, mqttSnClientSendData, sockSendDataStream, le16_u16At, hsix] at hsame
  · refine ⟨quietEnv.withInput (inputs mqttSnTypePublish 2 0), inputs mqttSnTypePublish 2 0x20, ?_⟩
    simp only [Api.func, apiPublishPress]
    refine press_apart hw hhead hb rfl ?_
    have hset (b : UInt8) : memcpy (inputs mqttSnTypePublish 2 b) 0 fr 1 = mqttSnTypePublish :=
      inputs_type b (by decide) htype
    have htwo (b : UInt8) : memcpy (inputs mqttSnTypePublish 2 b) 0 fr 2 = b :=
      inputs_self b (by omega)
    simp only [Env.withInput, hset, htwo]
    rw [if_pos ⟨trivial, by decide⟩, if_neg fun hand => hand.2 (by decide)]
    exact sent_ne rfl

/-- Arming a timer in a free slot changes the state. -/
theorem addTimer_ne {u v : World} (hs : u.systime.Wf) (hfree : 0 < u.systime.free)
    (hv : v.systime = u.systime) (tick timeout : UInt32) (mode : UInt8) (cb : Callback) (arg : Arg)
    (timerID : UInt8) :
    (Except.ok (addTimer tick mode timeout cb arg timerID u) : Except Fault World) ≠ .ok v := by
  intro heq
  have hsame := congrArg (fun w : World => w.systime.live) (Except.ok.inj heq)
  rcases live_timerAdd hs tick mode timeout cb arg timerID with
    ⟨hfull, -⟩ | ⟨j, -, hnone, -, -, hlive⟩
  · omega
  · have hslot := congrFun (hlive.symm.trans (hsame.trans (congrArg Timer.live hv))) j
    rw [Function.update_self, hnone] at hslot
    cases hslot

/-- A frame of fewer than seven bytes leaves the return code to the scratch space. -/
theorem inputs_returnCode {type : UInt8} (hshort : fr.length < 7)
    (htype : 2 ≤ fr.length → fr.getD 1 0 = type) (b : UInt8) :
    memcpy (inputs type 6 b) 0 fr 1 = type ∧ memcpy (inputs type 6 b) 0 fr 6 = b ∧
      u16At (memcpy (inputs type 6 b) 0 fr) 4 = u16At (memcpy (inputs type 6 0) 0 fr) 4 := by
  refine ⟨inputs_type b (by decide) htype, inputs_self b (by omega), ?_⟩
  unfold u16At
  rw [inputs_other b 0 (by decide), inputs_other b 0 (by decide)]

/-- Whether a timer is armed depends on a return code that is not received. -/
theorem regack_leaks (hw : Sound w) (hhead : w.headFrame = some fr) (hb : BeginsWithLenth fr)
    (hshort : fr.length < 7) (htype : 2 ≤ fr.length → fr.getD 1 0 = mqttSnTypeRegack)
    (hst : w.client.status = .connected)
    (hpending : w.client.inpubPktId .reggister =
      u16At (memcpy (inputs mqttSnTypeRegack 6 0) 0 fr) 4)
    (hfree : 0 < (timerCancelByID timerIdOfRegister w.systime).free) : Api.regack.Leaks w := by
  refine ⟨quietEnv.withInput (inputs mqttSnTypeRegack 6 0), inputs mqttSnTypeRegack 6 1, ?_⟩
  simp only [Api.func, apiRegackPress]
  refine press_apart hw hhead hb rfl ?_
  obtain ⟨hset, hsix, hmid⟩ := inputs_returnCode hshort htype 1
  obtain ⟨hset', hsix', -⟩ := inputs_returnCode hshort htype 0
  simp only [Env.withInput, hset, hset', hmid, hsix, hsix']
  rw [if_pos ⟨trivial, hst, hpending.symm⟩,
    if_neg (show ¬(1 : UInt8) = mqttSnAccepted by decide),
    if_pos (show (1 : UInt8) = mqttSnRejectedCongestion from rfl),
    if_pos ⟨trivial, hst, hpending.symm⟩, if_pos (show (0 : UInt8) = mqttSnAccepted from rfl)]
  refine addTimer_ne ?_ ?_ ?_ _ _ _ _ _ _
  · exact timerCancelByID_wf hw.timers_wf _
  · exact hfree
  · rfl

theorem puback_leaks (hw : Sound w) (hhead : w.headFrame = some fr) (hb : BeginsWithLenth fr)
    (hshort : fr.length < 7) (htype : 2 ≤ fr.length → fr.getD 1 0 = mqttSnTypePuback)
    (hst : w.client.status = .connected)
    (hpending : w.client.inpubPktId .publish =
      u16At (memcpy (inputs mqttSnTypePuback 6 0) 0 fr) 4)
    (hfree : 0 < (timerCancelByID timerIdOfPublish w.systime).free) : Api.puback.Leaks w := by
  refine ⟨quietEnv.withInput (inputs mqttSnTypePuback 6 0), inputs mqttSnTypePuback 6 1, ?_⟩
  simp only [Api.func, apiPubackPress]
  refine press_apart hw hhead hb rfl ?_
  obtain ⟨hset, hsix, hmid⟩ := inputs_returnCode hshort htype 1
  obtain ⟨hset', hsix', -⟩ := inputs_returnCode hshort htype 0
  simp only [Env.withInput, hset, hset', hmid, hsix, hsix']
  rw [if_pos ⟨trivial, hst, hpending.symm⟩,
    if_neg (show ¬(1 : UInt8) = mqttSnAccepted by decide),
    if_pos (show (1 : UInt8) = mqttSnRejectedCongestion from rfl),
    if_pos ⟨trivial, hst, hpending.symm⟩, if_pos (show (0 : UInt8) = mqttSnAccepted from rfl)]
  refine addTimer_ne ?_ ?_ ?_ _ _ _ _ _ _
  · exact timerCancelByID_wf hw.timers_wf _
  · exact hfree
  · rfl

theorem Sound.stored (hw : Sound w) {p : Pbuf} (hp : Stores w p) (addr : UInt32) (port : UInt16) :
    Sound (w.stored p addr port) := by
  obtain ⟨q, hq⟩ := hw.buff
  exact ⟨hw.timers_wf, hw.timers_ok, ⟨_, (stored_bytes hq hp).2⟩, hw.rx.write _⟩

theorem bootWorld_framed : Framed bootWorld [] [] := ⟨importZero_view, buffInit_view, rfl⟩

/-- A datagram that arrives first is the next frame. -/
theorem bootWorld_headFrame {p : Pbuf} (hp : Stores bootWorld p) :
    (bootWorld.stored p 0 0).headFrame = some p.frame := by
  have hnz : p.lenth ≠ 0 := fun hz => hp.2.2 (p.lenth_eq_zero.mp hz)
  have hls : queuedLenths (bootWorld.stored p 0 0).client.rxBuffer = [p.lenth] :=
    (write_ok bootWorld_framed.lenths hnz (by decide)).2.queued_eq
  have hq : queued (bootWorld.stored p 0 0).buffBody = p.bytes :=
    (stored_bytes bootWorld_framed.bytes hp).2.queued_eq
  have hlen := p.lenth_toNat
  have hmod := Nat.mod_le p.totLen.toNat 256
  have hpos := hp.2.2
  simp only [World.headFrame, hls, hq, List.headD_cons]
  rw [if_pos ⟨by omega, by rw [p.bytes_length]; omega⟩]
  rfl

/-- A state in which the handler of a datagram that was stored shows what it reads: the client
waits for what the datagram claims to be. -/
def probe (p : Pbuf) (api : Api) : World :=
  let v := bootWorld.stored p 0 0
  { v with client := { v.client with
      status := if api = .willtopicreq ∨ api = .willmsgreq then .connecting else .connected
      pingReqResLostNum := 1
      inpubPktId := fun kind =>
        let type := if kind = .reggister then mqttSnTypeRegack else mqttSnTypePuback
        u16At (memcpy (inputs type 6 0) 0 p.frame) 4 } }

theorem probe_sound {p : Pbuf} (hp : Stores bootWorld p) (api : Api) : Sound (probe p api) := by
  have hv := (mqttClientInit_booted bootWorld_init).sound.stored hp 0 0
  exact ⟨hv.timers_wf, hv.timers_ok, hv.buff, hv.rx⟩

theorem probe_leaks {p : Pbuf} (hp : Stores bootWorld p) {api : Api}
    (hapi : getAPIFUN p.cmd = some api) (hb : BeginsWithLenth p.frame)
    (hshort : p.frame.length < api.reads p.frame) : api.Leaks (probe p api) := by
  have hw := probe_sound hp api
  have hhead : (probe p api).headFrame = some p.frame := bootWorld_headFrame hp
  have hpos := (headFrame_length hhead).1
  cases api with
  | connack | pubcomp | pubrec | pubrel | suback | unsuback =>
    exact absurd hshort (by simp [Api.reads])
  | gwinfo | willtopicreq | willmsgreq | disconnet | pingres | pingreq =>
    have hone : p.frame.length = 1 := by
      simp only [Api.reads] at hshort
      omega
    exact type_leaks hw hhead hb hone rfl rfl (by simp [probe]) (by simp [probe])
      (show (1 : UInt8) ≠ 0 by decide)
  | advertise =>
    refine advertise_leaks hw hhead hb hshort (fun htwo => ?_) rfl
    rw [p.frame_type hb htwo]
    exact getAPIFUN_type hapi (by decide)
  | publish =>
    refine publish_leaks hw hhead hb hshort fun htwo => ?_
    rw [p.frame_type hb htwo]
    exact getAPIFUN_type hapi (by decide)
  | regack =>
    refine regack_leaks hw hhead hb hshort (fun htwo => ?_) rfl rfl ?_
    · rw [p.frame_type hb htwo]
      exact getAPIFUN_type hapi (by decide)
    · show 0 < (timerCancelByID timerIdOfRegister bootWorld.systime).free
      decide
  | puback =>
    refine puback_leaks hw hhead hb hshort (fun htwo => ?_) rfl rfl ?_
    · rw [p.frame_type hb htwo]
      exact getAPIFUN_type hapi (by decide)
    · show 0 < (timerCancelByID timerIdOfPublish bootWorld.systime).free
      decide

/-- The datagram with another byte behind its end. -/
def Pbuf.behind (p : Pbuf) (i : ℕ) (b : UInt8) : Pbuf :=
  { p with payload := Function.update p.payload i b }

theorem Pbuf.behind_bytes {p : Pbuf} {i : ℕ} (b : UInt8) (hi : p.totLen.toNat ≤ i) :
    (p.behind i b).bytes = p.bytes := by
  refine slice_congr _ _ _ _ fun j hj => ?_
  have hj : j < p.totLen.toNat := hj
  rw [Nat.zero_add]
  exact Function.update_of_ne (by omega) _ _

/-- Where the type is not received, it decides whether the sender is recorded. -/
theorem recv_leaks {p : Pbuf} (hzero : p.totLen.toNat % 256 ≠ 0)
    (hlen : p.totLen.toNat < maxBuffSize)
    (hshort : ¬(2 ≤ p.totLen.toNat ∧ (p.payload 0 = 0x01 → 4 ≤ p.totLen.toNat))) :
    ¬OnlyReceived p := by
  intro h
  have hw := (mqttClientInit_booted bootWorld_init).sound
  -- the byte that is taken for the type lies behind the datagram
  obtain ⟨i, hi, hcmd⟩ : ∃ i, p.totLen.toNat ≤ i ∧ ∀ b, (p.behind i b).cmd = b := by
    have hpos : 1 ≤ p.totLen.toNat := by omega
    by_cases hone : p.payload 0 = 0x01
    · have hfour : ¬4 ≤ p.totLen.toNat := fun hfour => hshort ⟨by omega, fun _ => hfour⟩
      refine ⟨3, by omega, fun b => ?_⟩
      have hfirst : (p.behind 3 b).payload 0 = 0x01 := hone
      rw [Pbuf.cmd, if_pos hfirst]
      simp [Pbuf.behind]
    · have htwo : ¬2 ≤ p.totLen.toNat := fun htwo => hshort ⟨htwo, fun heq => absurd heq hone⟩
      refine ⟨1, by omega, fun b => ?_⟩
      have hfirst : ¬(p.behind 1 b).payload 0 = 0x01 := hone
      rw [Pbuf.cmd, if_neg hfirst]
      simp [Pbuf.behind]
  have hrun (b : UInt8) := h.recv bootWorld quietEnv quietEnv.inputdata (p.behind i b) 1 0 hw rfl
    (Pbuf.behind_bytes b hi)
  have haccepted := congrArg World.gw (hrun mqttSnTypePingresp)
  have hrefused := congrArg World.gw (hrun 3)
  rw [udpServerRecvCb_gw hw, if_pos ⟨by rw [hcmd]; decide, hlen, hzero⟩] at haccepted
  rw [udpServerRecvCb_gw hw, if_neg fun hp => absurd hp.1 (by rw [hcmd]; decide)] at hrefused
  exact absurd (congrArg GwInfor.addr (haccepted.trans hrefused.symm)) (by decide)

end Apart

/-- What is received and handled depends on the received bytes only, in every state of the
client, exactly for the datagrams that are self-contained. -/
theorem only_received_iff (p : Pbuf) : OnlyReceived p ↔ SelfContained p := by
  constructor
  · intro h
    by_contra hno
    simp only [SelfContained, not_or] at hno
    obtain ⟨hzero, hlen, hshort⟩ := hno
    by_cases htype : 2 ≤ p.totLen.toNat ∧ (p.payload 0 = 0x01 → 4 ≤ p.totLen.toNat)
    · have hreads := fun hall => hshort ⟨htype.1, htype.2, hall⟩
      simp only [Classical.not_forall, imp_false, Nat.not_le] at hreads
      obtain ⟨hb, api, hapi, hlt⟩ := hreads
      have hp : Stores bootWorld p := by
        refine ⟨getAPIFUN_confirmed hapi, Nat.not_le.mp hlen, hzero⟩
      obtain ⟨env, f, hne⟩ := probe_leaks hp hapi hb hlt
      exact hne (h.handle bootWorld _ env f api (mqttClientInit_booted bootWorld_init).sound hp
        (probe_sound hp api) (bootWorld_headFrame hp) hapi)
    · exact recv_leaks hzero (Nat.not_le.mp hlen) htype h
  · intro h
    exact ⟨fun _ env f _ addr port hw hlen hbytes => recv_confined h hw hlen hbytes env f addr port,
      fun _ _ _ _ _ hv hp hw hhead hapi => handle_confined h hv hp hw hhead hapi⟩

def shortPublish : Pbuf := datagram [3, mqttSnTypePublish, mqttSnFlagQos1]

def shortPublishWaiting : World := (udpServerRecvCb quietEnv shortPublish 0 10000 bootWorld).2

theorem shortPublishWaiting_sound : Sound shortPublishWaiting :=
  udpServerRecvCb_sound (mqttClientInit_booted bootWorld_init).sound _ _ _ _

/-- It is answered with a topic id and a message id that it does not have. -/
theorem short_publish_answered : ¬∀ p, OnlyReceived p := by
  intro h
  have hsame := (h shortPublish).handle bootWorld shortPublishWaiting quietEnv (fun _ => 1) .publish
    (mqttClientInit_booted bootWorld_init).sound ⟨by decide, by decide, by decide⟩
    shortPublishWaiting_sound (by decide) (by decide)
  have hsent := congrArg (fun r : Except Fault World => r.toOption.map World.sent) hsame
  exact absurd hsent (by decide)

end MqttSnClient
