import MbedMqtt.Gateway.Packet
import MbedMqtt.Library.Fifo

namespace MbedMqtt.MQTTSNGW

abbrev MAX_SAVED_PUBLISH : Nat := 20

abbrev Que := Fifo

inductive ClientStatus where
  | disconnected
  | tryConnecting
  | connecting
  | active
  | asleep
  | awake
  | lost
  deriving DecidableEq, Repr

inductive ClientType where
  | regular
  | forwarded
  | qosm1
  | aggregated
  | proxy
  | aggregater
  deriving DecidableEq, Repr

structure WaitREGACKPacket where
  msgId : UInt16
  packet : MQTTSNPacket
  deriving DecidableEq, Repr

structure WaitREGACKPacketList where
  list : List WaitREGACKPacket
  deriving DecidableEq, Repr

namespace WaitREGACKPacketList

def setPacket (waiting : WaitREGACKPacketList) (packet : MQTTSNPacket) (msgId : UInt16) :
    WaitREGACKPacketList :=
  ⟨waiting.list ++ [⟨msgId, packet⟩]⟩

def getPacket (waiting : WaitREGACKPacketList) (msgId : UInt16) : Option MQTTSNPacket :=
  (waiting.list.find? (·.msgId = msgId)).map (·.packet)

def erase (waiting : WaitREGACKPacketList) (msgId : UInt16) : WaitREGACKPacketList :=
  ⟨waiting.list.eraseP (·.msgId = msgId)⟩

def getCount (waiting : WaitREGACKPacketList) : UInt8 := UInt8.ofNat waiting.list.length

end WaitREGACKPacketList

structure Client where
  clientType : ClientType
  status : ClientStatus
  clientId : Bytes
  topics : Topics
  waitedPubTopicIdMap : TopicIdMap
  waitedSubTopicIdMap : TopicIdMap
  clientSleepPacketQue : Que MQTTGWPacket
  waitREGACKList : WaitREGACKPacketList
  connectData : Connect
  snMsgId : UInt8
  holdPingRequest : Bool
  waitWillMsgFlg : Bool
  sessionStatus : Bool
  deriving DecidableEq, Repr

namespace Client

def initial (clientType : ClientType) (clientId : Bytes) (topics : Topics) : Client where
  clientType := clientType
  status := .disconnected
  clientId := clientId
  topics := topics
  waitedPubTopicIdMap := .initial
  waitedSubTopicIdMap := .initial
  clientSleepPacketQue := ⟨MAX_SAVED_PUBLISH, []⟩
  waitREGACKList := ⟨[]⟩
  connectData := .zero
  snMsgId := 0
  holdPingRequest := false
  waitWillMsgFlg := false
  sessionStatus := false

def isActive (client : Client) : Bool := client.status = .active
def isSleep (client : Client) : Bool := client.status = .asleep
def isAwake (client : Client) : Bool := client.status = .awake
def isQoSm1 (client : Client) : Bool := client.clientType = .qosm1
def isQoSm1Proxy (client : Client) : Bool := client.clientType = .proxy
def isAggregated (client : Client) : Bool := client.clientType = .aggregated
def isAggregater (client : Client) : Bool := client.clientType = .aggregater

def isAdapter (client : Client) : Bool :=
  client.clientType = .proxy || client.clientType = .aggregater

def isConnectSendable (client : Client) : Bool :=
  !(client.status = .lost || client.status = .tryConnecting)

def disconnected (client : Client) : Client :=
  { client with status := .disconnected, waitWillMsgFlg := false }

def connectSended (client : Client) : Client := { client with status := .connecting }

def connackSended (client : Client) (rc : Nat) : Client :=
  if rc = MQTTSN_RC_ACCEPTED then { client with status := .active } else client.disconnected

def getNextSnMsgId (snMsgId : UInt8) : UInt8 :=
  if snMsgId + 1 = 0 then snMsgId + 1 + 1 else snMsgId + 1

def setClientSleepPacket (client : Client) (packet : MQTTGWPacket) : Client :=
  { client with clientSleepPacketQue := client.clientSleepPacketQue.post packet }

def updateActive (client : Client) : MQTTSNPacket → Client
  | .disconnect duration =>
      if duration ≠ 0 then { client with status := .asleep } else client.disconnected
  | _ => client

def updateSleeping (client : Client) : MQTTSNPacket → Client
  | .connect _ => { client with status := .active }
  | .disconnect _ => client.disconnected
  | .pingreq => { client with status := .awake }
  | .pingresp => { client with status := .asleep }
  | _ => client

def updateStatus (client : Client) (packet : MQTTSNPacket) : Client :=
  match client.status with
  | .active => client.updateActive packet
  | .asleep | .awake => client.updateSleeping packet
  | _ => client

end Client

structure Gateway where
  topics : Topics
  loginId : Option Bytes
  password : Option Bytes
  mqttVersion : Nat
  qosm1ProxyActive : Bool
  aggregaterActive : Bool
  deriving DecidableEq, Repr

structure Handled where
  client : Client
  clientSend : List MQTTSNPacket
  brokerSend : List MQTTGWPacket
  packetEvents : List MQTTGWPacket
  suspended : List MQTTSNPacket
  deriving DecidableEq, Repr

namespace Handled

def unchanged (client : Client) : Handled := ⟨client, [], [], [], []⟩
def toClient (client : Client) (packet : MQTTSNPacket) : Handled := ⟨client, [packet], [], [], []⟩
def toBroker (client : Client) (packet : MQTTGWPacket) : Handled := ⟨client, [], [packet], [], []⟩

end Handled

end MbedMqtt.MQTTSNGW
