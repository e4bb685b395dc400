import MbedMqtt.Packet.Wire

namespace MbedMqtt

def publishLength (qos : Nat) (topicName : MQTTString) (payloadlen : Nat) : Nat :=
  2 + mqttstrlen topicName + payloadlen + (if 0 < qos then 2 else 0)

def serializePublish (buflen dup qos retained packetid : Nat) (topicName : MQTTString)
    (payload : Bytes) : Int × Bytes :=
  let remLen := publishLength qos topicName payload.length
  if buflen < packetLen remLen then (MQTTPACKET_BUFFER_TOO_SHORT, [])
  else
    let packet := headerByte PUBLISH dup qos retained :: packetEncode remLen ++
      writeMQTTString topicName ++ (if 0 < qos then writeInt packetid else []) ++ payload
    (packet.length, packet)

theorem serializePublish_serializes (buflen dup qos retained packetid : Nat)
    (topicName : MQTTString) (payload : Bytes) :
    Serializes (serializePublish buflen dup qos retained packetid topicName payload) PUBLISH :=
  serializes_short PUBLISH _ (headerType_headerByte ..) rfl

theorem serializePublish_header {buflen dup qos retained packetid : Nat} {topicName : MQTTString}
    {payload packet : Bytes} (hpos : 0 < packet.length)
    (h : serializePublish buflen dup qos retained packetid topicName payload =
      ((packet.length : Int), packet)) :
    byteAt packet 0 = headerByte PUBLISH dup qos retained ∧ 0 < buflen := by
  unfold serializePublish at h
  simp only at h
  split at h
  · simp only [Prod.mk.injEq] at h
    rw [← h.2] at hpos
    simp at hpos
  · rename_i hfit
    simp only [Prod.mk.injEq] at h
    rw [← h.2]
    refine ⟨rfl, ?_⟩
    have hneed := packetLen_pos (publishLength qos topicName payload.length)
    omega

def serializeAck (buflen packettype dup packetid : Nat) : Int × Bytes :=
  if buflen < 4 then (MQTTPACKET_BUFFER_TOO_SHORT, [])
  else
    let packet := headerByte packettype dup (if packettype = PUBREL then 1 else 0) 0 ::
      packetEncode 2 ++ writeInt packetid
    (packet.length, packet)

def ackPacket (packettype packetid : Nat) : Bytes :=
  headerByte packettype 0 (if packettype = PUBREL then 1 else 0) 0 :: packetEncode 2 ++
    writeInt packetid

theorem ackPacket_length (packettype packetid : Nat) : (ackPacket packettype packetid).length = 4 := by
  have hlen : (packetEncode 2).length = 1 := by decide
  simp [ackPacket, writeInt, hlen]

theorem packetType_ackPacket {packettype : Nat} (packetid : Nat) (h : packettype < 16) :
    packetType (ackPacket packettype packetid) = packettype := by
  rw [ackPacket, List.cons_append, packetType_cons, headerType_headerByte, Nat.mod_eq_of_lt h]

theorem ackPacket_inj {packettype id id' : Nat} (hid : id < 65536) (hid' : id' < 65536)
    (h : ackPacket packettype id = ackPacket packettype id') : id = id' := by
  have htail : writeInt id = writeInt id' := List.append_cancel_left h
  simp only [writeInt, List.cons.injEq, and_true] at htail
  have h0 := congrArg UInt8.toNat htail.1
  have h1 := congrArg UInt8.toNat htail.2
  rw [UInt8.toNat_ofNat', UInt8.toNat_ofNat'] at h0 h1
  omega

theorem serializeAck_eq (buflen packettype packetid : Nat) :
    serializeAck buflen packettype 0 packetid =
      if buflen < 4 then (MQTTPACKET_BUFFER_TOO_SHORT, []) else (4, ackPacket packettype packetid) := by
  have hlen := ackPacket_length packettype packetid
  unfold ackPacket at hlen
  simp only [serializeAck]
  split
  · rfl
  · rw [hlen]
    rfl

structure PublishFields where
  dup : Nat
  qos : Nat
  retained : Nat
  packetid : Option Nat
  topicName : MQTTString
  payload : Bytes
  payloadlen : Int
  deriving DecidableEq, Repr

def deserializePublish (buf : Bytes) : Option PublishFields :=
  let header := byteAt buf 0
  if headerType header ≠ PUBLISH then none
  else
    let (rc, mylen) := decodeBuf buf 1
    let curdata := 1 + rc
    let enddata := curdata + mylen
    match readMQTTLenString buf curdata enddata with
    | none => none
    | some (topicName, curdata) =>
        let qos := headerQoS header
        let packetid := if 0 < qos then some (readInt buf curdata) else none
        let curdata := if 0 < qos then curdata + 2 else curdata
        some
          { dup := headerDup header
            qos := qos
            retained := headerRetain header
            packetid := packetid
            topicName := topicName
            payload := (buf.drop curdata).take (enddata - curdata)
            payloadlen := (enddata : Int) - curdata }

structure AckFields where
  packettype : Nat
  dup : Nat
  packetid : Nat
  deriving DecidableEq, Repr

def deserializeAck (packetid : Nat) (buf : Bytes) : Int × AckFields :=
  let header := byteAt buf 0
  let (rc, mylen) := decodeBuf buf 1
  if mylen < 2 then (rc, ⟨headerType header, headerDup header, packetid⟩)
  else (1, ⟨headerType header, headerDup header, readInt buf (1 + rc)⟩)

def framed (header : UInt8) (body : Bytes) : Bytes := header :: packetEncode body.length ++ body

theorem framed_length (header : UInt8) (body : Bytes) :
    (framed header body).length = 1 + (packetEncode body.length).length + body.length := by
  simp [framed]
  omega

theorem byteAt_framed (header : UInt8) (body tail : Bytes) :
    byteAt (framed header body ++ tail) 0 = header := by
  simp [byteAt, framed]

theorem decodeBuf_framed (header : UInt8) (body tail : Bytes) (hb : body.length < 268435456) :
    decodeBuf (framed header body ++ tail) 1 = ((packetEncode body.length).length, body.length) := by
  have h := decodeBuf_encode [header] (body ++ tail) hb
  simpa [framed] using h

theorem byteAt_framed_tail (header : UInt8) (body tail : Bytes) (i : Nat) :
    byteAt (framed header body ++ tail) (1 + (packetEncode body.length).length + i) =
      byteAt (body ++ tail) i := by
  have hdrop : (framed header body ++ tail).drop (1 + (packetEncode body.length).length) =
      body ++ tail := by
    rw [framed, Nat.add_comm, List.append_assoc, List.cons_append, List.drop_succ_cons]
    simp
  simp only [byteAt, List.getD_eq_getElem?_getD, ← hdrop, List.getElem?_drop]

theorem byteAt_framed_body (header : UInt8) (body tail : Bytes) (i : Nat) (hi : i < body.length) :
    byteAt (framed header body ++ tail) (1 + (packetEncode body.length).length + i) =
      byteAt body i := by
  rw [byteAt_framed_tail]
  simp [byteAt, List.getElem?_append_left hi]

theorem readInt_framed_at (header : UInt8) (body tail : Bytes) {i : Nat} (hi : i + 2 ≤ body.length) :
    readInt (framed header body ++ tail) (1 + (packetEncode body.length).length + i) =
      readInt body i := by
  have h0 := byteAt_framed_body header body tail i (by omega)
  have h1 := byteAt_framed_body header body tail (i + 1) (by omega)
  rw [← Nat.add_assoc] at h1
  simp only [readInt, h0, h1]

theorem readInt_framed (header : UInt8) (body tail : Bytes) (hb : 2 ≤ body.length) :
    readInt (framed header body ++ tail) (1 + (packetEncode body.length).length) =
      readInt body 0 := by
  have h := readInt_framed_at header body tail (i := 0) (by omega)
  rwa [Nat.add_zero] at h

theorem deserializePublish_eq_some {buf : Bytes} {fields : PublishFields}
    (h : deserializePublish buf = some fields) :
    headerType (byteAt buf 0) = PUBLISH ∧ fields.qos = headerQoS (byteAt buf 0) ∧
      ∃ topicName curdata,
        readMQTTLenString buf (1 + (decodeBuf buf 1).1) (1 + (decodeBuf buf 1).1 + (decodeBuf buf 1).2) =
          some (topicName, curdata) ∧
        fields.packetid = if 0 < headerQoS (byteAt buf 0) then some (readInt buf curdata) else none := by
  unfold deserializePublish at h
  simp only at h
  split at h
  · simp at h
  · rename_i htype
    refine ⟨not_not.mp htype, ?_⟩
    split at h
    · simp at h
    · rename_i topicName curdata hread
      simp only [Option.some.injEq] at h
      rw [← h]
      exact ⟨rfl, topicName, curdata, hread, rfl⟩

def idLength (header : UInt8) : Nat := if 0 < headerQoS header then 2 else 0

theorem drop_framed (header : UInt8) (body tail : Bytes) (k : Nat) :
    (framed header body ++ tail).drop (1 + (packetEncode body.length).length + k) =
      (body ++ tail).drop k := by
  rw [← List.drop_drop, framed, Nat.add_comm 1, List.append_assoc, List.cons_append,
    List.drop_succ_cons]
  simp

theorem take_drop_body (body tail : Bytes) {k n : Nat} (h : k + n ≤ body.length) :
    ((body ++ tail).drop k).take n = (body.drop k).take n := by
  rw [List.drop_append_of_le_length (by omega), List.take_append_of_le_length]
  rw [List.length_drop]
  omega

theorem take_rest_body (body tail : Bytes) (k : Nat) :
    ((body ++ tail).drop k).take (body.length - k) = body.drop k := by
  rcases Nat.le_total k body.length with h | h
  · rw [take_drop_body body tail (by omega)]
    exact List.take_of_length_le (by rw [List.length_drop])
  · rw [Nat.sub_eq_zero_of_le h, List.take_zero, List.drop_eq_nil_of_le h]

theorem deserializePublish_framed_eq {header : UInt8} {body : Bytes} (tail : Bytes)
    (hb : body.length < 268435456) :
    deserializePublish (framed header body ++ tail) =
      if headerType header = PUBLISH ∧ 2 ≤ body.length ∧ 2 + readInt body 0 ≤ body.length then
        some
          { dup := headerDup header
            qos := headerQoS header
            retained := headerRetain header
            packetid := if 0 < headerQoS header then
                some (readInt (framed header body ++ tail)
                  (1 + (packetEncode body.length).length + (2 + readInt body 0)))
              else none
            topicName := ⟨none, readInt body 0, some ((body.drop 2).take (readInt body 0))⟩
            payload := body.drop (2 + readInt body 0 + idLength header)
            payloadlen := (body.length : Int) - (2 + readInt body 0 + idLength header : Nat) }
      else none := by
  by_cases ht : headerType header = PUBLISH
  swap
  · rw [if_neg (fun h => ht h.1)]
    simp only [deserializePublish, byteAt_framed, ht, ne_eq, not_false_eq_true, if_true]
  by_cases h2 : 2 ≤ body.length
  swap
  · rw [if_neg (fun h => h2 h.2.1)]
    simp only [deserializePublish, byteAt_framed, ht, decodeBuf_framed header body tail hb,
      readMQTTLenString]
    rw [if_neg (by simp), if_neg (by omega)]
  have hint := readInt_framed header body tail h2
  by_cases hfit : 2 + readInt body 0 ≤ body.length
  swap
  · rw [if_neg (fun h => hfit h.2.2)]
    simp only [deserializePublish, byteAt_framed, ht, decodeBuf_framed header body tail hb,
      readMQTTLenString, hint]
    rw [if_neg (by simp), if_pos (by omega), if_neg (by omega)]
  rw [if_pos ⟨ht, h2, hfit⟩]
  simp only [deserializePublish, byteAt_framed, ht, decodeBuf_framed header body tail hb,
    readMQTTLenString, hint, idLength]
  rw [if_neg (by simp), if_pos (by omega), if_pos (by omega)]
  simp only [drop_framed]
  rw [take_drop_body body tail hfit]
  have hstart : 1 + (packetEncode body.length).length + 2 + readInt body 0 =
      1 + (packetEncode body.length).length + (2 + readInt body 0) := by omega
  have hcur : (if 0 < headerQoS header then
        1 + (packetEncode body.length).length + (2 + readInt body 0) + 2
      else 1 + (packetEncode body.length).length + (2 + readInt body 0)) =
      1 + (packetEncode body.length).length +
        (2 + readInt body 0 + if 0 < headerQoS header then 2 else 0) := by
    split <;> omega
  rw [hstart, hcur, drop_framed, Nat.add_sub_add_left, take_rest_body]
  generalize (if 0 < headerQoS header then 2 else 0) = k
  simp only [Option.some.injEq, PublishFields.mk.injEq, true_and]
  omega

theorem deserializePublish_packetid {header : UInt8} {body tail : Bytes} {fields : PublishFields}
    (hb : body.length < 268435456) (hlen : 2 + readInt body 0 + 2 ≤ body.length)
    (hq : 0 < headerQoS header)
    (h : deserializePublish (framed header body ++ tail) = some fields) :
    fields.packetid = some (readInt body (2 + readInt body 0)) := by
  rw [deserializePublish_framed_eq tail hb] at h
  split at h
  · rw [Option.some.injEq] at h
    rw [← h, ← readInt_framed_at header body tail hlen]
  · cases h

theorem deserializePublish_isSome {header : UInt8} {body : Bytes} (tail : Bytes)
    (hb : body.length < 268435456) (ht : headerType header = PUBLISH)
    (hlen : 2 + readInt body 0 ≤ body.length) :
    deserializePublish (framed header body ++ tail) ≠ none := by
  rw [deserializePublish_framed_eq tail hb, if_pos ⟨ht, by omega, hlen⟩]
  simp

def ackId (uninitialised : Nat) (body : Bytes) : Nat :=
  if 2 ≤ body.length then readInt body 0 else uninitialised

theorem deserializeAck_framed (packetid : Nat) (header : UInt8) (body tail : Bytes)
    (hb : body.length < 268435456) :
    deserializeAck packetid (framed header body ++ tail) =
      (1, ⟨headerType header, headerDup header, ackId packetid body⟩) := by
  unfold deserializeAck ackId
  rw [decodeBuf_framed header body tail hb, byteAt_framed]
  by_cases hlen : body.length < 2
  · have henc : (packetEncode body.length).length = 1 := by
      unfold packetEncode
      rw [Base128.encode_small (by omega)]
      rfl
    simp [hlen, henc, show ¬2 ≤ body.length by omega]
  · have hid := readInt_framed header body tail (by omega)
    simp [hlen, hid, show 2 ≤ body.length by omega]

end MbedMqtt
