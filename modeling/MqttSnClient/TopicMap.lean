import MqttSnClient.Lib.Bytes

namespace MqttSnClient
open Bytes

def mqttSnMaxTopicLength : ℕ := 249

inductive TopicStatus
  | unregister
  | registering
  | registered
  deriving DecidableEq

/-- `topic_map_item_t`. -/
structure TopicMapItem where
  topicId : UInt16
  topicIdLenth : UInt8
  topicName : CString
  status : TopicStatus
  deriving DecidableEq

/-- `topic_map_t`. -/
structure TopicMap where
  registerednum : UInt8
  toppiclist : List TopicMapItem
  deriving DecidableEq

/-- A table of topic names that the client can be built with: no name occurs twice,
and each fits with its terminator into an item of the map. -/
structure Topics where
  names : List CString
  nodup : names.Nodup
  fits : ∀ name ∈ names, name.strlen < mqttSnMaxTopicLength

/-- The names the source is built with. -/
def topiclist : Topics where
  names := [.ofChars "FMSH_POWER_TEMP_702".toList (by decide),
    .ofChars "FMSH_POWER_HUMI_702".toList (by decide)]
  nodup := by decide
  fits := by decide

/-- `TopicInitConfig`, which finds the map zeroed at startup. -/
def topicInitConfig (topics : Topics) : TopicMap where
  registerednum := 0
  toppiclist := topics.names.map fun name =>
    { topicId := 0, topicIdLenth := UInt8.ofNat name.strlen, topicName := name
      status := .unregister }

/-- The loop of the three functions below: it changes the first item that passes the
test and returns 0, or it changes nothing and returns 1. -/
def changeFirst (p : TopicMapItem → Bool) (f : TopicMapItem → TopicMapItem) (m : TopicMap) :
    UInt8 × TopicMap :=
  match m.toppiclist.findIdx? p with
  | some i => (0, { m with toppiclist := m.toppiclist.modify i f })
  | none => (1, m)

def topicidRegistering (topic : CString) : TopicMap → UInt8 × TopicMap :=
  changeFirst (fun t => topic = t.topicName) fun t => { t with status := .registering }

def topicidUnregister (topicid : UInt16) : TopicMap → UInt8 × TopicMap :=
  changeFirst (fun t => t.topicId = topicid) fun t => { t with status := .unregister }

/-- `TopicidRegistered` is not told which topic it is about. -/
def topicidRegistered (topicid : UInt16) : TopicMap → UInt8 × TopicMap :=
  changeFirst (fun t => t.status = .registering)
    fun t => { t with status := .registered, topicId := topicid }

/-- Which item was changed, or that none passed the test. -/
theorem changeFirst_spec (p : TopicMapItem → Bool) (f : TopicMapItem → TopicMapItem)
    (m : TopicMap) :
    (∃ i t, m.toppiclist[i]? = some t ∧ p t = true ∧
        (∀ j < i, ∀ u, m.toppiclist[j]? = some u → p u = false) ∧
        changeFirst p f m = (0, { m with toppiclist := m.toppiclist.modify i f })) ∨
      (∀ t ∈ m.toppiclist, p t = false) ∧ changeFirst p f m = (1, m) := by
  cases hfind : m.toppiclist.findIdx? p with
  | some i =>
    left
    obtain ⟨hi, hp, hlow⟩ := List.findIdx?_eq_some_iff_getElem.mp hfind
    refine ⟨i, m.toppiclist[i], List.getElem?_eq_getElem hi, hp, ?_, ?_⟩
    · intro j hj u hu
      obtain ⟨hlt, rfl⟩ := List.getElem?_eq_some_iff.mp hu
      simpa using hlow j hj
    · simp only [changeFirst, hfind]
  | none =>
    right
    exact ⟨List.findIdx?_eq_none_iff.mp hfind, by simp only [changeFirst, hfind]⟩

/-- An item of the map after one item was changed. -/
theorem modify_getElem? (l : List TopicMapItem) (f : TopicMapItem → TopicMapItem) (i j : ℕ) :
    (l.modify i f)[j]? = if i = j then l[j]?.map f else l[j]? := by
  by_cases hij : i = j
  · subst hij
    simp
  · simp [hij]

theorem changeFirst_names {p : TopicMapItem → Bool} {f : TopicMapItem → TopicMapItem}
    (hf : ∀ t, (f t).topicName = t.topicName) (m : TopicMap) :
    (changeFirst p f m).2.toppiclist.map TopicMapItem.topicName =
      m.toppiclist.map TopicMapItem.topicName := by
  rcases changeFirst_spec p f m with ⟨i, t, -, -, -, h⟩ | ⟨-, h⟩
  · rw [h]
    apply List.ext_getElem?
    intro j
    rw [List.getElem?_map, List.getElem?_map, modify_getElem?]
    split_ifs
    · cases m.toppiclist[j]? with
      | none => rfl
      | some u => simp [hf u]
    · rfl
  · rw [h]

end MqttSnClient
