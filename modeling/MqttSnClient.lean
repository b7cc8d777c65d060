import MqttSnClient.Lib.Memory
import MqttSnClient.Lib.Ring
import MqttSnClient.Lib.Counting
import MqttSnClient.Lib.Runs
import MqttSnClient.Lib.Fifo
import MqttSnClient.Lib.Bytes
import MqttSnClient.Buff
import MqttSnClient.ImportIndex
import MqttSnClient.Timers
import MqttSnClient.TopicMap
import MqttSnClient.GwList
import MqttSnClient.World
import MqttSnClient.Gateways
import MqttSnClient.Sends
import MqttSnClient.Handlers
import MqttSnClient.System
import MqttSnClient.Effects
import MqttSnClient.Sound
import MqttSnClient.Passes
import MqttSnClient.Queues
import MqttSnClient.Touches
import MqttSnClient.Footprint
import MqttSnClient.Boundaries
import MqttSnClient.Delivery
import MqttSnClient.Connecting
import MqttSnClient.Registration
import MqttSnClient.Acknowledgement
import MqttSnClient.Records
import MqttSnClient.Retransmission
import MqttSnClient.Repetition
import MqttSnClient.Encoding
import MqttSnClient.Hanging
import MqttSnClient.Senders
import MqttSnClient.Confinement
import MqttSnClient.MainLoop
import MqttSnClient.Supervision
import MqttSnClient.Rejection
import MqttSnClient.Publishing
import MqttSnClient.Deadlines
import MqttSnClient.Slots
import MqttSnClient.Settings
import MqttSnClient.Expiry
import MqttSnClient.Answers
import MqttSnClient.Strings
import MqttSnClient.Capacity
import MqttSnClient.Dispatch
import MqttSnClient.ByteOrder
import MqttSnClient.GivingUp
import MqttSnClient.Mqtt.Output
import MqttSnClient.Mqtt.Requests
import MqttSnClient.Mqtt.Client
import MqttSnClient.Mqtt.Receiver
import MqttSnClient.Mqtt.System
import MqttSnClient.Lib.Varint
import MqttSnClient.Mqtt.Ring
import MqttSnClient.Mqtt.Packets
import MqttSnClient.Lib.Outcome
import MqttSnClient.Lib.Links
import MqttSnClient.Lib.DeltaQueue
import MqttSnClient.Mqtt.Pool
import MqttSnClient.Mqtt.Acts
import MqttSnClient.Mqtt.Effects
import MqttSnClient.Mqtt.Reception
import MqttSnClient.Mqtt.Segments
import MqttSnClient.Mqtt.Incoming
import MqttSnClient.Mqtt.Lifecycle
import MqttSnClient.Mqtt.Bookkeeping
import MqttSnClient.Lib.Ledger
