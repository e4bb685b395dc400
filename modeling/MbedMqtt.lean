import MbedMqtt.Client.Acts
import MbedMqtt.Network.Script
import MbedMqtt.Network.Socket
import MbedMqtt.Client.Wait
import MbedMqtt.Client.Calls
import MbedMqtt.Client.Run
import MbedMqtt.Contract.Acknowledgement
import MbedMqtt.Contract.Framing
import MbedMqtt.Contract.ReadPacket
import MbedMqtt.Contract.Connect
import MbedMqtt.Library.Stretch
import MbedMqtt.Client.Conduct
import MbedMqtt.Contract.IncomingQoS2
import MbedMqtt.Client.Tenure
import MbedMqtt.Contract.NoLoss
import MbedMqtt.Client.Slot
import MbedMqtt.Contract.Inflight
import MbedMqtt.Contract.Retransmission
import MbedMqtt.Client.Sweep
import MbedMqtt.Contract.CleanSession
import MbedMqtt.Library.Layout
import MbedMqtt.Packet.Text
import MbedMqtt.Contract.PublishCodec
import MbedMqtt.Packet.SubscribeServer
import MbedMqtt.Contract.SubscribeCodec
import MbedMqtt.Packet.ConnectServer
import MbedMqtt.Contract.ConnectCodec
import MbedMqtt.Packet.Writer
import MbedMqtt.Contract.Extent
import MbedMqtt.Contract.PublishParse
import MbedMqtt.Contract.HandlerTable
import MbedMqtt.Contract.TopicMatch
import MbedMqtt.Client.Ping
import MbedMqtt.Contract.KeepAlive
import MbedMqtt.Client.Pairing
import MbedMqtt.Contract.Independence
import MbedMqtt.Contract.BuildSettings
import MbedMqtt.Packet.Reader
import MbedMqtt.Contract.Fragmentation
import MbedMqtt.Contract.ReaderAgreement
import MbedMqtt.Contract.Completeness
import MbedMqtt.Contract.SubackCodec
import MbedMqtt.Library.OrderedAssoc
import MbedMqtt.Gateway.Tree23
import MbedMqtt.Contract.Tree23
import MbedMqtt.Library.Fifo
import MbedMqtt.Library.KeyedOrder
import MbedMqtt.Gateway.Topic
import MbedMqtt.Gateway.TopicTable
import MbedMqtt.Gateway.Packet
import MbedMqtt.Gateway.Client
import MbedMqtt.Gateway.ConnectionHandler
import MbedMqtt.Gateway.PublishHandler
import MbedMqtt.Gateway.SubscribeHandler
import MbedMqtt.Gateway.PacketHandleTask
import MbedMqtt.Contract.PublishForward
import MbedMqtt.Contract.RegisterOrder
import MbedMqtt.Gateway.Effects
import MbedMqtt.Gateway.EventEffect
import MbedMqtt.Contract.SleepQueue
import MbedMqtt.Contract.HeldPing
import MbedMqtt.Library.LinkedList
import MbedMqtt.Gateway.TopicChain
import MbedMqtt.Contract.TopicsTable
import MbedMqtt.Gateway.Quiet
import MbedMqtt.Gateway.Trace
import MbedMqtt.Gateway.TopicIdMap
import MbedMqtt.Contract.WaitedTopics
import MbedMqtt.Gateway.MessageIdTable
import MbedMqtt.Contract.MessageIds
import MbedMqtt.Gateway.Identity
import MbedMqtt.Gateway.Aggregation
import MbedMqtt.Contract.AggregatedQoS2
import MbedMqtt.Gateway.Buffer
import MbedMqtt.Contract.TranslationSize
import MbedMqtt.Contract.SubscribePairing
import MbedMqtt.Gateway.Answers
import MbedMqtt.Contract.SingleAck
import MbedMqtt.Gateway.Adapter
import MbedMqtt.Gateway.Process
import MbedMqtt.Contract.BrokerLoss
import MbedMqtt.Contract.SecureSeparation
import MbedMqtt.Gateway.ClientRecvTask
import MbedMqtt.Contract.ForwarderRouting
import MbedMqtt.Contract.FullTopicTable
import MbedMqtt.Gateway.Receive
import MbedMqtt.Contract.GatewayPublishCodec
import MbedMqtt.Contract.ConnectEncoders
import MbedMqtt.Library.Fetch
import MbedMqtt.SNPacket.Wire
import MbedMqtt.SNPacket.Frame
import MbedMqtt.SNPacket.Publish
import MbedMqtt.SNPacket.Subscribe
import MbedMqtt.SNPacket.Connect
import MbedMqtt.SNPacket.Search
import MbedMqtt.Contract.SNShortCodec
import MbedMqtt.Contract.SNPublishCodec
import MbedMqtt.Contract.SNConnectCodec
import MbedMqtt.Contract.SNDeserializer
import MbedMqtt.Network.Datagram
import MbedMqtt.SNClient.State
import MbedMqtt.SNClient.Transport
import MbedMqtt.SNClient.Cycle
import MbedMqtt.SNClient.Wait
import MbedMqtt.SNClient.Commands
import MbedMqtt.SNClient.Calls
import MbedMqtt.Contract.DatagramDelivery
import MbedMqtt.Contract.SNPublishAck
import MbedMqtt.Contract.SNSubscribeOutcome
import MbedMqtt.Contract.SNHandlerLifecycle
import MbedMqtt.Network.Tap
import MbedMqtt.Contract.SendAccounting
import MbedMqtt.ClientC.State
import MbedMqtt.ClientC.Transport
import MbedMqtt.Contract.SenderAgreement
import MbedMqtt.Contract.TimedOutRead
import MbedMqtt.Contract.MatcherAgreement
import MbedMqtt.Contract.GatewayTopicMatch
import MbedMqtt.Packet.ServerWriter
import MbedMqtt.Contract.ServerWriters
import MbedMqtt.Packet.Slots
import MbedMqtt.Contract.Capacity
import MbedMqtt.Packet.ConnectReads
import MbedMqtt.Contract.ConnectValidation
import MbedMqtt.Packet.Signed
import MbedMqtt.Contract.LengthAgreement
import MbedMqtt.Contract.SizePrediction
import MbedMqtt.Contract.SNLengthField
import MbedMqtt.Contract.SNReadType
import MbedMqtt.Contract.FailureReports
import MbedMqtt.Contract.SNTopicDelivery
import MbedMqtt.Contract.TopicFidelity
import MbedMqtt.Contract.PredefinedSubscribe
import MbedMqtt.Contract.ClientLookup
import MbedMqtt.Gateway.ForwarderChain
import MbedMqtt.Contract.ForwarderErase
import MbedMqtt.Contract.RemainingLength
import MbedMqtt.Contract.SetMsgId
import MbedMqtt.Contract.Encapsulation
import MbedMqtt.Contract.LinkedContainers
import MbedMqtt.Contract.ClientChain
import MbedMqtt.Contract.LogFifo
import MbedMqtt.Contract.MsgIdAccessors
import MbedMqtt.Contract.PredefinedFile
import MbedMqtt.Contract.TopicIdMapRuns
import MbedMqtt.Contract.XBeeFraming
import MbedMqtt.Contract.PredefinedTopics
import MbedMqtt.ClientC.Run
import MbedMqtt.Contract.ClientCLink
import MbedMqtt.Contract.ClientCAccount
import MbedMqtt.Contract.ClientCPing
import MbedMqtt.Contract.ClientCReader
import MbedMqtt.Contract.ClientIsolation
import MbedMqtt.Contract.DownstreamConservation
import MbedMqtt.Contract.LinkStatus
import MbedMqtt.Contract.WillHandshake
import MbedMqtt.Contract.UpstreamOrder
import MbedMqtt.Contract.SNResend
import MbedMqtt.Contract.MbedOsClient
