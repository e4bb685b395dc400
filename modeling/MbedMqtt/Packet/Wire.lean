import MbedMqtt.Library.Base128

namespace MbedMqtt

abbrev Bytes := List UInt8

inductive Build where
  | qos0
  | qos1
  | qos2
  deriving DecidableEq, Repr

structure Config where
  build : Build
  maxPacketSize : Nat
  maxMessageHandlers : Nat
  maxIncomingQoS2Messages : Nat
  charSigned : Bool
  deriving DecidableEq, Repr

def Config.standard (build : Build) : Config := ⟨build, 100, 5, 10, true⟩

def Config.qos1 (cfg : Config) : Bool := cfg.build ≠ .qos0
def Config.qos2 (cfg : Config) : Bool := cfg.build = .qos2

theorem Config.qos1_of_qos2 {cfg : Config} (h : cfg.qos2 = true) : cfg.qos1 = true := by
  simp_all [Config.qos1, Config.qos2]

inductive QoS where
  | QOS0
  | QOS1
  | QOS2
  | reserved
  deriving DecidableEq, Repr

def QoS.toInt : QoS → Nat
  | .QOS0 => 0
  | .QOS1 => 1
  | .QOS2 => 2
  | .reserved => 3

theorem QoS.toInt_lt (qos : QoS) : qos.toInt < 4 := by
  cases qos <;> decide

def QoS.ofInt : Nat → QoS
  | 0 => .QOS0
  | 1 => .QOS1
  | 2 => .QOS2
  | _ => .reserved

theorem QoS.ofInt_eq_QOS2 {n : Nat} : QoS.ofInt n = .QOS2 ↔ n = 2 := by
  constructor
  · intro h
    match n, h with
    | 2, _ => rfl
  · rintro rfl
    rfl

abbrev CONNECT : Nat := 1
abbrev CONNACK : Nat := 2
abbrev PUBLISH : Nat := 3
abbrev PUBACK : Nat := 4
abbrev PUBREC : Nat := 5
abbrev PUBREL : Nat := 6
abbrev PUBCOMP : Nat := 7
abbrev SUBSCRIBE : Nat := 8
abbrev SUBACK : Nat := 9
abbrev UNSUBSCRIBE : Nat := 10
abbrev UNSUBACK : Nat := 11
abbrev PINGREQ : Nat := 12
abbrev PINGRESP : Nat := 13
abbrev DISCONNECT : Nat := 14

abbrev SUCCESS : Int := 0
abbrev FAILURE : Int := -1
abbrev BUFFER_OVERFLOW : Int := -2
abbrev MQTTPACKET_BUFFER_TOO_SHORT : Int := -2

def headerByte (type dup qos retain : Nat) : UInt8 :=
  UInt8.ofNat (type % 16 * 16 + dup % 2 * 8 + qos % 4 * 2 + retain % 2)

def headerType (header : UInt8) : Nat := header.toNat / 16
def headerDup (header : UInt8) : Nat := header.toNat / 8 % 2
def headerQoS (header : UInt8) : Nat := header.toNat / 2 % 4
def headerRetain (header : UInt8) : Nat := header.toNat % 2

theorem headerByte_toNat (type dup qos retain : Nat) :
    (headerByte type dup qos retain).toNat =
      type % 16 * 16 + dup % 2 * 8 + qos % 4 * 2 + retain % 2 := by
  rw [headerByte, UInt8.toNat_ofNat']
  omega

@[simp] theorem headerType_headerByte (type dup qos retain : Nat) :
    headerType (headerByte type dup qos retain) = type % 16 := by
  rw [headerType, headerByte_toNat]
  omega

@[simp] theorem headerDup_headerByte (type dup qos retain : Nat) :
    headerDup (headerByte type dup qos retain) = dup % 2 := by
  rw [headerDup, headerByte_toNat]
  omega

@[simp] theorem headerQoS_headerByte (type dup qos retain : Nat) :
    headerQoS (headerByte type dup qos retain) = qos % 4 := by
  rw [headerQoS, headerByte_toNat]
  omega

@[simp] theorem headerRetain_headerByte (type dup qos retain : Nat) :
    headerRetain (headerByte type dup qos retain) = retain % 2 := by
  rw [headerRetain, headerByte_toNat]
  omega

def byteAt (buf : Bytes) (i : Nat) : UInt8 := buf.getD i 0

def packetType (packet : Bytes) : Nat := headerType (byteAt packet 0)

@[simp] theorem packetType_cons (header : UInt8) (rest : Bytes) :
    packetType (header :: rest) = headerType header := rfl

def Serializes (r : Int × Bytes) (type : Nat) : Prop :=
  0 < r.1 → r.1 = r.2.length ∧ packetType r.2 = type

theorem serializes_short (type : Nat) (r : Int × Bytes) {buflen needed : Nat} {header : UInt8}
    {rest : Bytes} (ht : headerType header = type)
    (h : r = if buflen < needed then (MQTTPACKET_BUFFER_TOO_SHORT, [])
      else (((header :: rest).length : Int), header :: rest)) : Serializes r type := by
  intro hpos
  subst h
  split at hpos
  · simp at hpos
  · rename_i hfit
    rw [if_neg hfit]
    exact ⟨rfl, ht⟩

def readInt (buf : Bytes) (i : Nat) : Nat :=
  256 * (byteAt buf i).toNat + (byteAt buf (i + 1)).toNat

theorem readInt_lt (buf : Bytes) (i : Nat) : readInt buf i < 65536 := by
  have h0 := (byteAt buf i).toNat_lt
  have h1 := (byteAt buf (i + 1)).toNat_lt
  unfold readInt
  omega

def readChar (charSigned : Bool) (b : UInt8) : Int :=
  if charSigned && 128 ≤ b.toNat then (b.toNat : Int) - 256 else b.toNat

def writeInt (anInt : Nat) : Bytes :=
  [UInt8.ofNat (anInt / 256), UInt8.ofNat (anInt % 256)]

def store (buf : Bytes) (offset : Nat) (bytes : Bytes) : Bytes :=
  buf.take offset ++ bytes ++ buf.drop (offset + bytes.length)

theorem store_zero (buf bytes : Bytes) : store buf 0 bytes = bytes ++ buf.drop bytes.length := by
  simp [store]

theorem store_append (front old bytes : Bytes) :
    store (front ++ old) front.length bytes = front ++ bytes ++ old.drop bytes.length := by
  simp [store, List.drop_append]

structure MQTTString where
  cstring : Option Bytes
  len : Nat
  data : Option Bytes
  deriving DecidableEq, Repr

def MQTTString.initializer : MQTTString := ⟨none, 0, none⟩

def MQTTString.ofCString (text : Bytes) : MQTTString := ⟨some text, 0, none⟩

def mqttstrlen (s : MQTTString) : Nat :=
  match s.cstring with
  | some text => text.length
  | none => s.len

def writeCString (text : Bytes) : Bytes := writeInt text.length ++ text

def writeMQTTString (s : MQTTString) : Bytes :=
  if 0 < s.len then writeInt s.len ++ (s.data.getD []).take s.len
  else match s.cstring with
    | some text => writeCString text
    | none => writeInt 0

def readMQTTLenString (buf : Bytes) (curdata enddata : Nat) : Option (MQTTString × Nat) :=
  if 1 < enddata - curdata then
    let len := readInt buf curdata
    if curdata + 2 + len ≤ enddata then
      some (⟨none, len, some ((buf.drop (curdata + 2)).take len)⟩, curdata + 2 + len)
    else none
  else none

def packetEncode (length : Nat) : Bytes := Base128.encode length

def maxNoOfRemainingLengthBytes : Nat := 4

def packetDecode {γ : Type} (getchar : γ → Option UInt8 × γ) (g : γ) : (Nat × Nat) × γ :=
  Base128.decode getchar maxNoOfRemainingLengthBytes 0 0 1 g

theorem packetDecode_bound {γ : Type} (getchar : γ → Option UInt8 × γ) (g : γ) :
    (packetDecode getchar g).1.2 < 268435456 := by
  have h := Base128.decode_bound getchar maxNoOfRemainingLengthBytes 0 0 1 g
  simp only [maxNoOfRemainingLengthBytes] at h
  simp only [packetDecode, maxNoOfRemainingLengthBytes]
  omega

theorem packetDecode_encode {γ : Type} {getchar : γ → Option UInt8 × γ} {n : Nat} {g g' : γ}
    (hn : n < 268435456) (hf : Base128.Feeds getchar (packetEncode n) g g') :
    packetDecode getchar g = (((packetEncode n).length, n), g') := by
  have h := Base128.decode_feeds 0 0 1 (by decide : 0 < maxNoOfRemainingLengthBytes)
    (by simpa [maxNoOfRemainingLengthBytes] using hn) hf
  simpa [packetDecode, packetEncode] using h

def bufchar (buf : Bytes) (bufptr : Nat) : Option UInt8 × Nat := (some (byteAt buf bufptr), bufptr + 1)

def decodeBuf (buf : Bytes) (start : Nat) : Nat × Nat := (packetDecode (bufchar buf) start).1

theorem decodeBuf_bound (buf : Bytes) (start : Nat) : (decodeBuf buf start).2 < 268435456 :=
  packetDecode_bound (bufchar buf) start

theorem bufchar_feeds (front bs tail : Bytes) :
    Base128.Feeds (bufchar (front ++ bs ++ tail)) bs front.length (front.length + bs.length) := by
  induction bs generalizing front with
  | nil => exact .nil _
  | cons b bs ih =>
    have hget : bufchar (front ++ b :: bs ++ tail) front.length = (some b, front.length + 1) := by
      simp [bufchar, byteAt]
    have hrest := ih (front ++ [b])
    exact .cons hget (by simpa [Nat.add_assoc, Nat.add_comm 1] using hrest)

theorem decodeBuf_encode (front tail : Bytes) {n : Nat} (hn : n < 268435456) :
    decodeBuf (front ++ packetEncode n ++ tail) front.length = ((packetEncode n).length, n) := by
  rw [decodeBuf, packetDecode_encode hn (bufchar_feeds front (packetEncode n) tail)]

theorem decodeBuf_encode_length (front tail : Bytes) {n : Nat} (hn : n < 34359738368) :
    (decodeBuf (front ++ packetEncode n ++ tail) front.length).1 = (packetEncode n).length := by
  have hlen : (packetEncode n).length ≤ maxNoOfRemainingLengthBytes + 1 :=
    Base128.encode_length_le (by decide) (by simpa [maxNoOfRemainingLengthBytes] using hn)
  have h := Base128.decode_length (Base128.encode_terminated n) hlen 0 0 1
    (bufchar_feeds front (packetEncode n) tail)
  rwa [Nat.zero_add] at h

def packetLen (remLen : Nat) : Nat :=
  let remLen := remLen + 1
  if remLen < 128 then remLen + 1
  else if remLen < 16384 then remLen + 2
  else if remLen < 2097151 then remLen + 3
  else remLen + 4

theorem lt_packetLen (remLen : Nat) : remLen + 1 < packetLen remLen := by
  rw [packetLen]
  split
  · omega
  · split
    · omega
    · split <;> omega

theorem packetLen_pos (remLen : Nat) : 0 < packetLen remLen :=
  Nat.zero_lt_of_lt (lt_packetLen remLen)

end MbedMqtt
