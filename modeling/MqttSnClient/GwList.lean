import Mathlib

namespace MqttSnClient

def mqttGwListnumMax : ℕ := 3
def mqttSnCilentNadv : UInt8 := 3

/-- `MQTT_SN_GwItem_t`. -/
structure GwItem where
  gwID : UInt8
  gwNadv : UInt8
  gwPort : UInt16
  gwKeepalive : UInt16
  gwAddr : UInt32
  gwUsedflag : UInt8
  gwLasttime : UInt32
  deriving DecidableEq, Inhabited

/-- `MQTT_SN_GwList_t`; entries past `mqttGwListnumMax` are not part of the array. -/
structure GwList where
  gwList : ℕ → GwItem
  gwListAvalidNum : UInt8

def gwListZero : GwList where
  gwList := fun _ => { gwID := 0, gwNadv := 0, gwPort := 0, gwKeepalive := 0, gwAddr := 0
                       gwUsedflag := 0, gwLasttime := 0 }
  gwListAvalidNum := 0

def GwList.set (l : GwList) (i : ℕ) (item : GwItem) : GwList :=
  { l with gwList := Function.update l.gwList i item }

/-- `gwListappend`. There is no result where the search for a free entry ends
without one, since `gwIndex` is then used unassigned. -/
def gwListappend (cyclicTick : UInt32) (addr : UInt32) (port : UInt16) (gwid : UInt8)
    (gwkeepalive : UInt16) (l : GwList) : Option (UInt8 × GwList) :=
  let gwlist : GwItem :=
    { gwAddr := addr, gwID := gwid, gwKeepalive := gwkeepalive, gwNadv := 0, gwPort := port
      gwUsedflag := 1, gwLasttime := cyclicTick }
  if l.gwListAvalidNum = 0 then
    some (0, { l.set 0 gwlist with gwListAvalidNum := l.gwListAvalidNum + 1 })
  else if l.gwListAvalidNum.toNat = mqttGwListnumMax then some (1, l)
  else if ∃ i < mqttGwListnumMax, gwid = (l.gwList i).gwID ∧ (l.gwList i).gwUsedflag ≠ 0 then
    -- the refreshed entry is written to index 0, wherever it was found
    some (0, l.set 0 gwlist)
  else match (List.range mqttGwListnumMax).find? fun i => (l.gwList i).gwUsedflag = 0 with
    | some gwIndex =>
      some (0, { l.set gwIndex gwlist with gwListAvalidNum := l.gwListAvalidNum + 1 })
    | none => none

/-- The entry that `gwListappend` writes for a gateway id, if it writes one. -/
def GwList.slotFor (gwid : UInt8) (l : GwList) : Option ℕ :=
  if l.gwListAvalidNum = 0 then some 0
  else if l.gwListAvalidNum.toNat = mqttGwListnumMax then none
  else if ∃ i < mqttGwListnumMax, gwid = (l.gwList i).gwID ∧ (l.gwList i).gwUsedflag ≠ 0 then
    some 0
  else (List.range mqttGwListnumMax).find? fun i => (l.gwList i).gwUsedflag = 0

/-- `gwListdel`. -/
def gwListdel (index : ℕ) (l : GwList) : UInt8 × GwList :=
  if index > mqttGwListnumMax then (1, l)
  else if l.gwListAvalidNum = 0 then (2, l)
  else if (l.gwList index).gwUsedflag ≠ 0 then
    let item := { l.gwList index with gwUsedflag := 0 }
    (0, { l.set index item with gwListAvalidNum := l.gwListAvalidNum - 1 })
  else (1, l)

/-- The body of the loop of `gwListupdata`. -/
def gwListupdataAt (cyclicTick : UInt32) (l : GwList) (i : ℕ) : GwList :=
  let item := l.gwList i
  if cyclicTick > item.gwLasttime + item.gwKeepalive.toUInt32 ∧ item.gwUsedflag ≠ 0 then
    let item := { item with gwNadv := item.gwNadv + 1 }
    if item.gwNadv > mqttSnCilentNadv then (gwListdel i (l.set i item)).2
    else l.set i { item with gwLasttime := cyclicTick }
  else l

/-- `gwListupdata`. -/
def gwListupdata (cyclicTick : UInt32) (l : GwList) : GwList :=
  if l.gwListAvalidNum = 0 then l
  else (List.range mqttGwListnumMax).foldl (gwListupdataAt cyclicTick) l

end MqttSnClient
