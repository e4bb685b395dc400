import MbedMqtt.Packet.Text
import MbedMqtt.Packet.Subscribe

namespace MbedMqtt

structure SubscribeFields where
  dup : Nat
  packetid : Nat
  count : Nat
  topicFilters : List MQTTString
  requestedQoSs : List Int
  deriving DecidableEq, Repr

def readSubscription (charSigned : Bool) (buf : Bytes) (enddata curdata : Nat) :
    Option ((MQTTString × Int) × Nat) :=
  match readMQTTLenString buf curdata enddata with
  | none => none
  | some (topicFilter, curdata) =>
      if enddata ≤ curdata then none
      else some ((topicFilter, readChar charSigned (byteAt buf curdata)), curdata + 1)

def deserializeSubscribe (charSigned : Bool) (_maxcount : Nat) (fields : SubscribeFields)
    (buf : Bytes) : Int × SubscribeFields :=
  let header := byteAt buf 0
  if headerType header ≠ SUBSCRIBE then (-1, fields)
  else
    let (rc, mylen) := decodeBuf buf 1
    let curdata := 1 + rc
    let enddata := curdata + mylen
    let (done, entries) :=
      readWhile (readSubscription charSigned buf enddata) enddata mylen (curdata + 2) []
    (if done then 1 else rc,
      { dup := headerDup header
        packetid := readInt buf curdata
        count := entries.length
        topicFilters := entries.map Prod.fst
        requestedQoSs := entries.map Prod.snd })

def writeChar (c : Int) : UInt8 := UInt8.ofNat (c % 256).toNat

def serializeSuback (buflen packetid : Nat) (grantedQoSs : List Int) : Int × Bytes :=
  if buflen < 2 + grantedQoSs.length then (MQTTPACKET_BUFFER_TOO_SHORT, [])
  else
    let packet := headerByte SUBACK 0 0 0 :: packetEncode (2 + grantedQoSs.length) ++
      writeInt packetid ++ grantedQoSs.map writeChar
    (packet.length, packet)

structure UnsubscribeFields where
  dup : Nat
  packetid : Nat
  count : Nat
  topicFilters : List MQTTString
  deriving DecidableEq, Repr

def readTopicFilter (buf : Bytes) (enddata curdata : Nat) : Option (MQTTString × Nat) :=
  readMQTTLenString buf curdata enddata

def deserializeUnsubscribe (_maxcount : Nat) (fields : UnsubscribeFields) (buf : Bytes) :
    Int × UnsubscribeFields :=
  let header := byteAt buf 0
  if headerType header ≠ UNSUBSCRIBE then (0, fields)
  else
    let (rc, mylen) := decodeBuf buf 1
    let curdata := 1 + rc
    let enddata := curdata + mylen
    let (done, entries) := readWhile (readTopicFilter buf enddata) enddata mylen (curdata + 2) []
    (if done then 1 else rc,
      { dup := headerDup header
        packetid := readInt buf curdata
        count := entries.length
        topicFilters := entries })

theorem readChar_small (charSigned : Bool) {n : Nat} (h : n < 128) :
    readChar charSigned (UInt8.ofNat n) = n := by
  have hn : (UInt8.ofNat n).toNat = n := by
    rw [UInt8.toNat_ofNat']
    omega
  simp [readChar, hn, show ¬128 ≤ n by omega]

def subscription (request : MQTTString × Nat) : Bytes :=
  writeCString request.1.text ++ [UInt8.ofNat request.2]

theorem subscription_length (request : MQTTString × Nat) :
    (subscription request).length = 2 + request.1.text.length + 1 := by
  simp [subscription, writeCString_length]

theorem readSubscription_laidAt (charSigned : Bool) {buf : Bytes} {request : MQTTString × Nat}
    {curdata enddata : Nat} (hlen : request.1.text.length ≤ 65535) (hqos : request.2 ≤ 2)
    (h : LaidAt buf curdata (subscription request))
    (hend : curdata + (subscription request).length ≤ enddata) :
    readSubscription charSigned buf enddata curdata =
      some ((MQTTString.ofLenString request.1.text, (request.2 : Int)),
        curdata + (subscription request).length) := by
  rw [subscription_length] at hend ⊢
  obtain ⟨htext, hqosAt⟩ := LaidAt.append.mp h
  rw [writeCString_length, ← Nat.add_assoc] at hqosAt
  have hbyte : byteAt buf (curdata + 2 + request.1.text.length) = UInt8.ofNat request.2 :=
    hqosAt.getD 0
  have hread := readMQTTLenString_laidAt enddata htext hlen (by omega)
  simp only [readSubscription, hread, hbyte]
  rw [if_neg (by omega), readChar_small charSigned (by omega)]
  simp only [Option.some.injEq, Prod.mk.injEq, true_and]
  omega

theorem readSubscription_size {charSigned : Bool} {buf : Bytes} {curdata enddata next : Nat}
    {entry : MQTTString × Int}
    (h : readSubscription charSigned buf enddata curdata = some (entry, next)) :
    curdata + (2 + entry.1.text.length + 1) ≤ next ∧ next ≤ enddata := by
  unfold readSubscription at h
  split at h
  · simp at h
  · rename_i topicFilter after hread
    obtain ⟨htext, -, hafter, -⟩ := readMQTTLenString_eq_some hread
    split at h
    · simp at h
    · simp only [Option.some.injEq, Prod.mk.injEq] at h
      obtain ⟨rfl, rfl⟩ := h
      simp only
      omega

theorem readTopicFilter_size {buf : Bytes} {curdata enddata next : Nat} {s : MQTTString}
    (h : readTopicFilter buf enddata curdata = some (s, next)) :
    curdata + (2 + s.text.length) ≤ next ∧ next ≤ enddata := by
  obtain ⟨htext, -, hnext, hle⟩ := readMQTTLenString_eq_some h
  exact ⟨by omega, hle⟩

end MbedMqtt
