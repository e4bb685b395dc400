import MbedMqtt.Gateway.ClientRecvTask
import MbedMqtt.SNPacket.Subscribe

-- the gateway's MQTTSNPacket as the buffer it is: `_buf` is the memory from index 0 on
namespace MbedMqtt.MQTTSN.PacketBuffer

open MQTTSNGW

abbrev MQTTSN_ENCAPSULATED : UInt8 := 0xfe

def getType (bufLen : Int) : Fetch UInt8 UInt8 :=
  if bufLen = 0 then pure 0
  else do
    let length ← packetDecode bufLen 0
    Fetch.item length.lenlen

def getMsgId (bufLen : Int) : Fetch UInt8 Nat := do
  let type ← getType bufLen
  if type = MQTTSN_PUBLISH then do
    let length ← packetDecode bufLen 0
    readInt (length.lenlen + 4)
  else if type ∈ [MQTTSN_PUBACK, MQTTSN_REGISTER, MQTTSN_REGACK] then readInt 4
  else if type ∈ [MQTTSN_PUBREC, MQTTSN_PUBREL, MQTTSN_PUBCOMP, MQTTSN_UNSUBACK] then readInt 2
  else if type ∈ [MQTTSN_SUBSCRIBE, MQTTSN_UNSUBSCRIBE] then do
    let length ← packetDecode bufLen 0
    readInt (length.lenlen + 2)
  else if type = MQTTSN_SUBACK then readInt 5
  else pure 0

def writeMsgId (i : Int) (msgId : UInt16) : List (Int × UInt8) :=
  [(i, UInt8.ofNat (msgId.toNat / 256)), (i + 1, UInt8.ofNat (msgId.toNat % 256))]

def setMsgId (bufLen : Int) (msgId : UInt16) : Fetch UInt8 (List (Int × UInt8)) := do
  let type ← getType bufLen
  if type = MQTTSN_PUBLISH then do
    let length ← packetDecode bufLen 0
    pure (writeMsgId (length.lenlen + 4) msgId)
  else if type ∈ [MQTTSN_PUBACK, MQTTSN_REGISTER, MQTTSN_REGACK] then pure (writeMsgId 4 msgId)
  else if type ∈ [MQTTSN_PUBREC, MQTTSN_PUBREL, MQTTSN_PUBCOMP, MQTTSN_UNSUBACK] then
    pure (writeMsgId 2 msgId)
  else if type ∈ [MQTTSN_SUBSCRIBE, MQTTSN_UNSUBSCRIBE] then do
    let length ← packetDecode bufLen 0
    pure (writeMsgId (length.lenlen + 2) msgId)
  else if type = MQTTSN_SUBACK then pure (writeMsgId 5 msgId)
  else pure []

def setId (id : Int) (len : UInt8) : Fetch UInt8 WirelessNodeId := Fetch.copy id len.toNat

def desirialize (buf : Int) (len : UInt16) : Fetch UInt8 Bytes := Fetch.copy buf len.toNat

structure Encapsulation where
  header : Nat
  ctrl : UInt8
  id : WirelessNodeId
  mqttsn : Bytes
  deriving DecidableEq, Repr

-- the subtractions are cut to the width of the parameters they are passed as
def desirializeEncapsulated (len : UInt16) : Fetch UInt8 Encapsulation := do
  let ctrl ← Fetch.item 2
  let first ← Fetch.item 0
  let id ← setId 3 (first - 3)
  let mqttsn ← desirialize first.toNat (len - first.toUInt16)
  pure ⟨first.toNat, ctrl, id, mqttsn⟩

end MbedMqtt.MQTTSN.PacketBuffer
