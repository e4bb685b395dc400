import MbedMqtt.Contract.Fragmentation
import MbedMqtt.Contract.GatewayPublishCodec
import MbedMqtt.Gateway.TopicChain

namespace MbedMqtt.MQTTSNGW

section Leading

variable {buf other : Bytes}

theorem take_two (h : 2 ≤ buf.length) : buf.take 2 = writeInt (readInt buf 0) := by
  obtain ⟨b0, b1, rest, rfl⟩ : ∃ b0 b1 rest, buf = b0 :: b1 :: rest := by
    match buf, h with
    | b0 :: b1 :: rest, _ => exact ⟨b0, b1, rest, rfl⟩
  have h0 := b0.toNat_lt
  have h1 := b1.toNat_lt
  have hhigh : (256 * b0.toNat + b1.toNat) / 256 = b0.toNat := by omega
  have hlow : (256 * b0.toNat + b1.toNat) % 256 = b1.toNat := by omega
  simp [writeInt, readInt, byteAt, hhigh, hlow]

theorem readInt_congr (h : buf.take 2 = other.take 2) : readInt buf 0 = readInt other 0 := by
  have hbyte (l : Bytes) (k : Nat) (hk : k < 2) : byteAt (l.take 2) k = byteAt l k := by
    simp [byteAt, List.getElem?_take_of_lt hk]
  rw [readInt, readInt, ← hbyte buf 0 (by decide), ← hbyte buf 1 (by decide),
    ← hbyte other 0 (by decide), ← hbyte other 1 (by decide), h]

end Leading

-- a PUBLISH with a message id, its data at least as long as its topic and the id
structure NumberedPublish where
  packet : MQTTGWPacket
  type : packet.getType = PUBLISH
  qos : 0 < headerQoS packet.header
  remaining : packet.remainingLength = packet.data.length
  room : packet.getPUBLISH.topiclen + 4 ≤ packet.data.length

structure RewritesMsgId (packet : MQTTGWPacket) (m : UInt16) : Prop where
  msgId : (packet.setMsgId m).getPUBLISH.msgId = m.toNat
  header : (packet.setMsgId m).getPUBLISH.header = packet.getPUBLISH.header
  topic : (packet.setMsgId m).getPUBLISH.name = packet.getPUBLISH.name
  payload : (packet.setMsgId m).getPUBLISH.body = packet.getPUBLISH.body

namespace NumberedPublish

open MQTTGWPacket

variable (publish : NumberedPublish) (m : UInt16)

def topiclen : Nat := readInt publish.packet.data 0

theorem topiclen_room : publish.topiclen + 4 ≤ publish.packet.data.length := by
  have hroom := publish.room
  rwa [getPUBLISH_topiclen] at hroom

def written : Bytes :=
  store (store publish.packet.data publish.topiclen (writeInt m.toNat)) (publish.topiclen + 2)
    (writeInt m.toNat)

theorem setMsgId_eq :
    publish.packet.setMsgId m =
      ⟨publish.packet.header, publish.packet.remainingLength, publish.written m⟩ := by
  rw [MQTTGWPacket.setMsgId, if_pos publish.type, written, getPUBLISH_topiclen, topiclen]

theorem written_first : (store publish.packet.data publish.topiclen (writeInt m.toNat)).length =
    publish.packet.data.length := by
  have hroom := publish.topiclen_room
  exact store_length (by rw [writeInt_length]; omega)

theorem written_length : (publish.written m).length = publish.packet.data.length := by
  have hroom := publish.topiclen_room
  have hfirst := publish.written_first m
  rw [written, store_length (by rw [writeInt_length, hfirst]; omega), hfirst]

theorem written_laidAt : LaidAt (publish.written m) publish.topiclen (writeInt m.toNat) := by
  have hroom := publish.topiclen_room
  have hfirst := publish.written_first m
  have hlaid : LaidAt (store publish.packet.data publish.topiclen (writeInt m.toNat))
      publish.topiclen (writeInt m.toNat) := laidAt_store (by omega)
  refine laidAt_congr ?_ hlaid
  rw [writeInt_length]
  exact (store_take (Nat.le_refl _) (by omega)).symm

theorem name_bytes (packet : MQTTGWPacket) :
    packet.getPUBLISH.name.bytes = (packet.data.drop 2).take (readInt packet.data 0) := by
  simp only [Publish.name, getPUBLISH_topic, getPUBLISH_topiclen]

theorem msgId_numbered {packet : MQTTGWPacket} (hqos : 0 < headerQoS packet.header) :
    packet.getPUBLISH.msgId = readInt packet.data (2 + readInt packet.data 0) := by
  simp only [getPUBLISH, if_pos hqos]

theorem body_numbered {packet : MQTTGWPacket} (hqos : 0 < headerQoS packet.header) :
    packet.getPUBLISH.body = (packet.data.drop (4 + readInt packet.data 0)).take
      (packet.remainingLength - readInt packet.data 0 - 4).toNat := by
  simp only [Publish.body, getPUBLISH, if_pos hqos]

theorem front_of_name
    (h : (publish.packet.setMsgId m).getPUBLISH.name = publish.packet.getPUBLISH.name) :
    (publish.written m).take (2 + publish.topiclen) =
      publish.packet.data.take (2 + publish.topiclen) := by
  have hroom := publish.topiclen_room
  have hlength := publish.written_length m
  have hbytes : ((publish.written m).drop 2).take (readInt (publish.written m) 0) =
      (publish.packet.data.drop 2).take publish.topiclen := by
    have hname := congrArg TopicName.bytes h
    rw [name_bytes, name_bytes, setMsgId_eq] at hname
    exact hname
  have htopiclen : readInt (publish.written m) 0 = publish.topiclen := by
    have hsize := congrArg List.length hbytes
    simp only [List.length_take, List.length_drop, hlength] at hsize
    omega
  have hfront : (publish.written m).take 2 = publish.packet.data.take 2 := by
    rw [take_two (by omega), take_two (by omega), htopiclen, topiclen]
  rw [htopiclen] at hbytes
  rw [List.take_add, List.take_add, hfront, hbytes]

theorem laidAt_of_name
    (h : (publish.packet.setMsgId m).getPUBLISH.name = publish.packet.getPUBLISH.name) :
    LaidAt publish.packet.data publish.topiclen (writeInt m.toNat) := by
  refine laidAt_congr ?_ (publish.written_laidAt m)
  rw [writeInt_length, Nat.add_comm]
  exact publish.front_of_name m h

theorem rewrites_of_laidAt (h : LaidAt publish.packet.data publish.topiclen (writeInt m.toNat)) :
    RewritesMsgId publish.packet m := by
  have hin : publish.topiclen + 2 ≤ publish.packet.data.length := by
    have hroom := publish.topiclen_room
    omega
  -- the first of the two writes puts down what is there already
  have hdata : publish.written m =
      store publish.packet.data (publish.topiclen + 2) (writeInt m.toNat) := by
    rw [written, store_of_laidAt h]
  have hfront (n : Nat) (hn : n ≤ publish.topiclen + 2) :
      (publish.written m).take n = publish.packet.data.take n := by
    rw [hdata]
    exact store_take hn hin
  have htopiclen : readInt (publish.written m) 0 = publish.topiclen :=
    readInt_congr (hfront 2 (Nat.le_add_left 2 _))
  have hid : readInt (publish.written m) (2 + publish.topiclen) = m.toNat := by
    have hlaid : LaidAt (store publish.packet.data (publish.topiclen + 2) (writeInt m.toNat))
        (publish.topiclen + 2) (writeInt m.toNat) := laidAt_store hin
    rw [← hdata, Nat.add_comm] at hlaid
    rw [readInt_laidAt hlaid, Nat.mod_eq_of_lt m.toNat_lt]
  have hbody : (publish.written m).drop (4 + publish.topiclen) =
      publish.packet.data.drop (4 + publish.topiclen) := by
    rw [hdata]
    exact store_drop (by rw [writeInt_length]; omega) hin
  have hname : ((publish.written m).drop 2).take publish.topiclen =
      (publish.packet.data.drop 2).take publish.topiclen := by
    have hwhole := hfront (2 + publish.topiclen) (by omega)
    rw [List.take_add, List.take_add, hfront 2 (Nat.le_add_left 2 _)] at hwhole
    exact List.append_cancel_left hwhole
  constructor
  · rw [setMsgId_eq, msgId_numbered (by exact publish.qos), htopiclen]
    exact hid
  · rw [setMsgId_eq, getPUBLISH_header, getPUBLISH_header]
  · apply TopicName.bytes_inj.mp
    rw [setMsgId_eq, name_bytes, name_bytes, htopiclen]
    exact hname
  · rw [setMsgId_eq, body_numbered (by exact publish.qos), body_numbered publish.qos, htopiclen, hbody,
      topiclen]

theorem setMsgId_rewrites_iff : RewritesMsgId publish.packet m ↔
    LaidAt publish.packet.data publish.packet.getPUBLISH.topiclen (writeInt m.toNat) := by
  rw [getPUBLISH_topiclen]
  constructor
  · intro h
    exact publish.laidAt_of_name m h.topic
  · intro h
    exact publish.rewrites_of_laidAt m h

end NumberedPublish

-- QoS 1, topic "ab", message id 1, payload "x"
def publishAb : MQTTGWPacket := ⟨0x32, 7, [0, 2, 0x61, 0x62, 0, 1, 0x78]⟩

def NumberedPublish.ab : NumberedPublish where
  packet := publishAb
  type := by decide
  qos := by decide
  remaining := rfl
  room := by decide

-- 0x6162 is spelt "ab"
theorem setMsgId_rewrites_ab :
    LaidAt publishAb.data publishAb.getPUBLISH.topiclen (writeInt (0x6162 : UInt16).toNat) ∧
      RewritesMsgId publishAb 0x6162 := by
  have hspelt : LaidAt publishAb.data publishAb.getPUBLISH.topiclen
      (writeInt (0x6162 : UInt16).toNat) := ⟨[0, 1, 0x78], by decide⟩
  exact ⟨hspelt, (NumberedPublish.setMsgId_rewrites_iff .ab 0x6162).mpr hspelt⟩

theorem setMsgId_overwrites_topic :
    publishAb.getPUBLISH.name.bytes = [0x61, 0x62] ∧
      (publishAb.setMsgId 7).getPUBLISH.name.bytes = [0, 7] ∧
      ¬RewritesMsgId publishAb 7 := by
  refine ⟨by decide, by decide, ?_⟩
  intro h
  have htopic := congrArg TopicName.bytes h.topic
  revert htopic
  decide

end MbedMqtt.MQTTSNGW
