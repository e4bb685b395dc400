import MbedMqtt.Client.State

namespace MbedMqtt.MQTTClientC

structure MQTTClient (τ : Type) where
  buf : Bytes
  keepAliveInterval : Nat
  lastSent : τ

structure Outcome (σ τ κ : Type) where
  rc : Int
  client : MQTTClient τ
  world : World σ τ κ

-- `beyond` is the memory behind `buf`
def MQTTClient.memory {τ : Type} (c : MQTTClient τ) (beyond : Nat → UInt8) (i : Nat) : UInt8 :=
  c.buf.getD i (beyond i)

def slice (memory : Nat → UInt8) (start len : Nat) : Bytes :=
  (List.range len).map fun i => memory (start + i)

-- the loop of the C++ client, without its step over a last separator
def isTopicMatched (topicFilter : Bytes) (topicName : MQTTString) : Bool :=
  topicScan topicFilter ((topicName.data.getD []).take topicName.len) = ([], [])

end MbedMqtt.MQTTClientC
