import MqttSnClient.World

namespace MqttSnClient
open Memory Bytes

/-- The datagram of `connect_packet_t`. -/
def connectMsg (clientId : CString) (keepalive : UInt16) (flags : UInt8) : List UInt8 :=
  [UInt8.ofNat (clientId.strlen + 6), mqttSnTypeConnect, flags, mqttSnProtocolId] ++
    le16 keepalive ++ clientId.bytes

/-- `mqtt_sn_send_connect`. The test of `gwListAvalidNum` cannot fail, so a CONNECT
goes out whether or not a gateway is known. -/
def mqttSnSendConnect (tick : UInt32) (clientId : CString) (keepalive : UInt16) (flags : UInt8)
    (w : World) : Except Fault World :=
  if clientId.strlen > mqttSnMaxClientIdLength then .error .undefined else
  let c := { w.client with keepAlive := keepalive, serverWatchdog := keepalive }
  let w := { w with client := c.storeClientID clientId }
  let w := sockSendDataStream (myIp4Addr 192 168 45 119) 10000
    (connectMsg clientId keepalive flags) w
  let w := { w with client := { w.client with status := .connecting } }
  .ok (addTimer tick timerModeSingle 4000 .sendConnectCb .client timerIdOfConncet w)

/-- The string literal that the client connects with and sends as its will. -/
def lwipTest : CString := .ofChars "lwip_test".toList (by decide)

/-- `mqtt_sn_send_connect_cb`; `flag` is read before it is written. -/
def mqttSnSendConnectCb (env : Env) (w : World) : Except Fault World :=
  if w.client.status = .connected then .ok w
  else mqttSnSendConnect (env.tick 0) lwipTest 60 (env.flag ||| mqttSnFlagClean) w

/-- The datagram of `register_packet_t`. -/
def registerMsg (messageId : UInt16) (topicName : CString) : List UInt8 :=
  [UInt8.ofNat (topicName.strlen + 6), mqttSnTypeRegister] ++ le16 0 ++ le16 messageId ++
    topicName.bytes

/-- `mqtt_sn_send_register`. -/
def mqttSnSendRegister (tick : UInt32) (topicName : CString) (w : World) : Except Fault World :=
  if topicName.strlen > mqttSnMaxTopicLength then .error .undefined else
  let messageId := w.client.pktId
  let w := { w with client := w.client.takePktId .reggister }
  let w := mqttSnClientSendData (registerMsg messageId topicName) w
  .ok (addTimer tick timerModeSingle 10000 .sendRegisterCb .client timerIdOfRegister w)

/-- One turn of the loop of `mqtt_sn_send_register_cb`. -/
def registerTurn (env : Env) (topics : Topics) (w : World) (i : ℕ) : Except Fault World :=
  match topics.names[i]?, w.topicMap.toppiclist[i]? with
  | some name, some t =>
    if t.status = .registering then mqttSnSendRegister (env.tick i) name w else .ok w
  | _, _ => .ok w

/-- `mqtt_sn_send_register_cb`. -/
def mqttSnSendRegisterCb (env : Env) (topics : Topics) (w : World) : Except Fault World :=
  (List.range topics.names.length).foldlM (registerTurn env topics) w

/-- `mqtt_sn_send_willtopic`; the array `willtopic` has 30 bytes. -/
def mqttSnSendWilltopic (topicName : CString) (w : World) : Except Fault World :=
  if topicName.strlen + 3 > 30 then .error .undefined else
  .ok (mqttSnClientSendData
    ([UInt8.ofNat (topicName.strlen + 3), mqttSnTypeWilltopic, 0] ++ topicName.bytes) w)

/-- `mqtt_sn_send_willMSG`. -/
def mqttSnSendWillMSG (topicName : CString) (w : World) : Except Fault World :=
  if topicName.strlen + 2 > 30 then .error .undefined else
  .ok (mqttSnClientSendData
    ([UInt8.ofNat (topicName.strlen + 2), mqttSnTypeWillmsg] ++ topicName.bytes) w)

/-- `mqtt_sn_send_disconnect`. -/
def mqttSnSendDisconnect (duration : UInt16) (w : World) : World :=
  let w := mqttSnClientSendData ([4, mqttSnTypeDisconnect] ++ le16 duration) w
  { w with client := { w.client with status := .disconnecting } }

/-- `mqtt_sn_send_disconnect_topic_id`, which leaves the status as it is. -/
def mqttSnSendDisconnectTopicId (duration : UInt16) (w : World) : World :=
  let length : UInt8 := if duration ≠ 0 then 4 else 2
  mqttSnClientSendData (([length, mqttSnTypeDisconnect] ++ le16 duration).take length.toNat) w

/-- `mqtt_sn_send_pingreq`. -/
def mqttSnSendPingreq (tick : UInt32) (mode : UInt8) (w : World) : World :=
  let chars := if mode = weakup then w.client.clientIDChars else []
  let w := mqttSnClientSendData ([UInt8.ofNat (2 + chars.length), mqttSnTypePingreq] ++ chars) w
  addTimer tick timerModeSingle 10000 .pingreqTimeoutCb .client timerIdOfPingreq w

/-- `mqtt_sn_client_pingreq_timeout_cb`. -/
def mqttSnClientPingreqTimeoutCb (env : Env) (w : World) : World :=
  let lost := w.client.pingReqResLostNum + 1
  let w := { w with client := { w.client with pingReqResLostNum := lost } }
  if lost ≤ mqttSnCilentNadv then mqttSnSendPingreq (env.tick 0) weakup w
  else mqttSnSendDisconnect 0 w

/-- The chain of tests on `qos` that PUBLISH and SUBSCRIBE share. -/
def qosFlags (qos : Int8) : UInt8 :=
  if qos = 0 then mqttSnFlagQos0
  else if qos = 1 then mqttSnFlagQos1
  else if qos = 2 then mqttSnFlagQos2
  else mqttSnFlagQosN1

def dupFlag (dup : UInt8) : UInt8 := if dup ≠ 0 then mqttSnFlagDup else 0

def publishFlags (topicType : UInt8) (qos : Int8) (retain dup : UInt8) : UInt8 :=
  qosFlags qos ||| (if retain ≠ 0 then mqttSnFlagRetain else 0) ||| dupFlag dup ||| topicType

/-- The datagram of `publish_packet_t`. -/
def publishMsg (flags : UInt8) (topicId messageId : UInt16) (data : List UInt8) : List UInt8 :=
  [UInt8.ofNat (data.length + 7), mqttSnTypePublish, flags] ++ le16 topicId ++ le16 messageId ++
    data

/-- `mqtt_sn_send_publish`. The topic type is not kept for the retry. -/
def mqttSnSendPublish (env : Env) (topicId : UInt16) (topicType : UInt8) (data : DataPtr)
    (dataLen : UInt16) (qos : Int8) (retain dup : UInt8) (w : World) : Except Fault World :=
  if dataLen.toNat > mqttSnMaxPayloadLength then .error .undefined else
  let messageId := w.client.pktId
  let w := { w with client := w.client.takePktId .publish }
  let w := mqttSnClientSendData (publishMsg (publishFlags topicType qos retain dup) topicId
    messageId (data.read env dataLen.toNat)) w
  if qos = 1 then
    let p := { w.publishinfor with
      data := data, dataLenth := dataLen, qos := qos, dup := 1, retain := retain, topicId := topicId }
    let w := { w with publishinfor := p }
    .ok (addTimer (env.tick 0) timerModeSingle 10000 .publishTimeoutCb .publishinfor
      timerIdOfPublish w)
  else .ok w

/-- `mqtt_sn_client_publish_timeout_cb`, given the record that its argument points to. -/
def mqttSnClientPublishTimeoutCb (env : Env) (p : PubInfor) (w : World) : Except Fault World :=
  mqttSnSendPublish env p.topicId p.topicType p.data p.dataLenth p.qos p.retain p.dup.toUInt8 w

/-- The start of `MQTT_SN_Client_t` read as an `MQTT_SN_pub_infor_t`. -/
def Client.asPubInfor (c : Client) : PubInfor where
  data := .raw c.cyclicTick
  dataLenth := c.keepAlive
  topicId := c.serverWatchdog
  topicType := c.pingReqResLostNum
  qos := (c.clientID 0).toInt8
  dup := (c.clientID 1).toInt8
  retain := c.clientID 2

/-- `mqtt_sn_send_publishack`, which sends the type of a SUBACK. -/
def mqttSnSendPublishack (messageId topicId : UInt16) (returnCode : UInt8) (w : World) : World :=
  mqttSnClientSendData ([7, mqttSnTypeSuback] ++ le16 topicId ++ le16 messageId ++ [returnCode]) w

/-- The datagram of `subscribe_packet_t`, with what the union holds. -/
def subscribeMsg (type flags : UInt8) (messageId : UInt16) (topic : List UInt8) : List UInt8 :=
  [UInt8.ofNat (topic.length + 5), type, flags] ++ le16 messageId ++ topic

/-- `mqtt_sn_send_subscribe_topic_name`. The terminator of a name that fills the
union falls on `qos`, which is written next. -/
def mqttSnSendSubscribeTopicName (env : Env) (topicName : CString) (qos : Int8) (dup : UInt8)
    (w : World) : Except Fault World :=
  if topicName.strlen > mqttSnMaxTopicLength then .error .undefined else
  let messageId := w.client.pktId
  let w := { w with client := w.client.takePktId .subscaribe }
  let w := mqttSnClientSendData (subscribeMsg mqttSnTypeSubscribe
    (mqttSnTopicTypeNormal ||| qosFlags qos ||| dupFlag dup) messageId topicName.bytes) w
  if qos = 1 then
    let s : SubInfor :=
      { subscri := memcpy w.subscribeInfor.subscri 0 (topicName.bytes ++ [0]), qos := qos, dup := 1 }
    let w := { w with subscribeInfor := s }
    .ok (addTimer (env.tick 0) timerModeSingle 10000 .subscribeTimeoutCb .subscribeInfor
      timerIdOfPublish w)
  else .ok w

/-- `mqtt_sn_send_subscribe_topic_id`. -/
def mqttSnSendSubscribeTopicId (env : Env) (topicId : UInt16) (qos : Int8) (dup : UInt8)
    (w : World) : World :=
  let messageId := w.client.pktId
  let w := { w with client := w.client.takePktId .subscaribe }
  let w := mqttSnClientSendData (subscribeMsg mqttSnTypeSubscribe
    (mqttSnTopicTypePredefined ||| qosFlags qos ||| dupFlag dup) messageId (le16 topicId)) w
  if qos = 1 then
    let s : SubInfor :=
      { subscri := memcpy w.subscribeInfor.subscri 0 (le16 topicId), qos := qos, dup := 1 }
    let w := { w with subscribeInfor := s }
    addTimer (env.tick 0) timerModeSingle 10000 .subscribeTimeoutIdCb .subscribeInfor
      timerIdOfPublish w
  else w

/-- The string at the start of the record. Where the record holds no zero byte, the
string and the copy of it run past their arrays. -/
def SubInfor.topicName (s : SubInfor) : Option CString :=
  CString.ofMemory (slice s.subscri 0 mqttSnMaxTopicLength ++ [s.qos.toUInt8, s.dup.toUInt8])

def SubInfor.topicId (s : SubInfor) : UInt16 := u16At s.subscri 0

/-- `mqtt_sn_client_subscribe_timeout_cb`. -/
def mqttSnClientSubscribeTimeoutCb (env : Env) (w : World) : Except Fault World :=
  match w.subscribeInfor.topicName with
  | some name => mqttSnSendSubscribeTopicName env name w.subscribeInfor.qos
      w.subscribeInfor.dup.toUInt8 w
  | none => .error .undefined

/-- `mqtt_sn_client_subscribe_timeout_id_cb`. -/
def mqttSnClientSubscribeTimeoutIdCb (env : Env) (w : World) : World :=
  mqttSnSendSubscribeTopicId env w.subscribeInfor.topicId w.subscribeInfor.qos
    w.subscribeInfor.dup.toUInt8 w

/-- `mqtt_sn_send_unsubscribe_topic_name`. -/
def mqttSnSendUnsubscribeTopicName (topicName : CString) (w : World) : Except Fault World :=
  if topicName.strlen > mqttSnMaxTopicLength then .error .undefined else
  let messageId := w.client.pktId
  let w := { w with client := w.client.takePktId .unsubscaribe }
  .ok (mqttSnClientSendData
    (subscribeMsg mqttSnTypeUnsubscribe mqttSnTopicTypeNormal messageId topicName.bytes) w)

/-- `mqtt_sn_send_unsubscribe_topic_id`. -/
def mqttSnSendUnsubscribeTopicId (topicId : UInt16) (w : World) : World :=
  let messageId := w.client.pktId
  let w := { w with client := w.client.takePktId .unsubscaribe }
  mqttSnClientSendData
    (subscribeMsg mqttSnTypeUnsubscribe mqttSnTopicTypePredefined messageId (le16 topicId)) w

/-- `mqtt_sn_getgateway_info`. -/
def mqttSnGetgatewayInfo (remotePort : UInt16) (w : World) : World :=
  sockSendDataStream (myIp4Addr 255 255 255 255) remotePort [0x02, mqttSnTypeSearchgw, 0x00] w

/-- `registeralltopic`. -/
def registeralltopic (env : Env) (topics : Topics) (w : World) : Except Fault World :=
  if w.topicMap.toppiclist.any fun t => t.status = .registering then .ok w
  else match w.topicMap.toppiclist.findIdx? fun t => t.status = .unregister with
    | some i =>
      match topics.names[i]? with
      | some name => do
        let w ← mqttSnSendRegister (env.tick 0) name w
        .ok { w with topicMap := (topicidRegistering name w.topicMap).2 }
      | none => .ok w
    | none => .ok w

/-- `mqtt_sn_client_cyclic`. -/
def mqttSnClientCyclic (env : Env) (topics : Topics) (w : World) : Except Fault World := do
  let w := { w with client := { w.client with cyclicTick := w.client.cyclicTick + 1 } }
  let w := { w with gwList := gwListupdata w.client.cyclicTick w.gwList }
  if w.client.status = .connected then
    let w ← registeralltopic env topics w
    let w := { w with client := { w.client with serverWatchdog := w.client.serverWatchdog - 1 } }
    if w.client.serverWatchdog = 0 then .ok (mqttSnSendPingreq (env.tick 1) weakup w) else .ok w
  else .ok w

end MqttSnClient
