import MbedMqtt.Packet.SubscribeServer
import MbedMqtt.Packet.Writer

namespace MbedMqtt

namespace Writer

def serializeConnack (buflen : Int) (connackRc sessionPresent : UInt8) :
    Int × List (Nat × UInt8) :=
  if buflen < 2 then tooShort
  else
    let w := start.writeChar (headerByte CONNACK 0 0 0)
    let w := w.packetEncode 2
    let w := w.writeChar (sessionPresent % 2)
    (w.writeChar connackRc).result

-- the loop of `MQTTPacket_encode` ends after one byte when the length is negative
def packetEncodeInt (w : Writer) (length : Int) : Writer :=
  if length < 0 then w.writeChar (MbedMqtt.writeChar (length.tmod 128))
  else w.packetEncode length.toNat

def serializeSuback (buflen : Int) (packetid : Nat) (count : Int) (grantedQoSs : List Int) :
    Int × List (Nat × UInt8) :=
  if buflen < 2 + count then tooShort
  else
    let w := start.writeChar (headerByte SUBACK 0 0 0)
    let w := w.packetEncodeInt (2 + count)
    let w := w.writeInt packetid
    ((List.range count.toNat).foldl
      (fun w i => w.writeChar (MbedMqtt.writeChar (grantedQoSs.getD i 0))) w).result

def serializeUnsuback (buflen : Int) (packetid : Nat) : Int × List (Nat × UInt8) :=
  if buflen < 2 then tooShort
  else
    let w := start.writeChar (headerByte UNSUBACK 0 0 0)
    let w := w.packetEncode 2
    (w.writeInt packetid).result

end Writer

def encodeInt (length : Int) : Bytes :=
  if length < 0 then [writeChar (length.tmod 128)] else packetEncode length.toNat

theorem encodeInt_length (length : Int) :
    (encodeInt length).length = (packetEncode length.toNat).length := by
  by_cases h : length < 0
  · rw [encodeInt, if_pos h, Int.toNat_of_nonpos h.le]
    rfl
  · rw [encodeInt, if_neg h]

namespace Wrote

variable {w : Writer} {bs : Bytes}

theorem packetEncodeInt (h : Wrote w bs) (length : Int) :
    Wrote (w.packetEncodeInt length) (bs ++ encodeInt length) := by
  rw [Writer.packetEncodeInt, encodeInt]
  split_ifs
  · exact h.writeChar _
  · exact h.packetEncode _

end Wrote

end MbedMqtt
