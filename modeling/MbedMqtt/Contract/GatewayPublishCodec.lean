import MbedMqtt.Gateway.Receive

namespace MbedMqtt.MQTTSNGW

section Recv

variable {ν : Type} {networkRecv : ν → UInt16 → NetworkRead × ν} {pending : ν → Bytes}

theorem recvPayload_whole (h : Delivers networkRecv pending) (header : UInt8) (len : Nat)
    {body rest : Bytes} {network : ν} (hpending : pending network = body ++ rest)
    (hlen : body.length < 65536) :
    (recvPayload networkRecv header len body.length network).rc = 1 + len + body.length ∧
      (recvPayload networkRecv header len body.length network).packet =
        ⟨header, body.length, body⟩ := by
  rw [recvPayload]
  split_ifs with hpos
  · have hn : (UInt16.ofNat body.length).toNat = body.length := by
      rw [UInt16.toNat_ofNat', Nat.mod_eq_of_lt hlen]
    have hread := h.read network (UInt16.ofNat body.length) (by rw [hn, hpending]; simp)
    rw [hn, hpending, List.take_left] at hread
    simp only [hread]
    rw [if_neg (by omega), if_neg (by simp), store_zero]
    simp
  · obtain rfl : body = [] := List.length_eq_zero_iff.mp (by omega)
    exact ⟨rfl, rfl⟩

theorem recvPayload_truncated (h : Delivers networkRecv pending) (header : UInt8) (len : Nat)
    {body rest : Bytes} {network : ν} (hpending : pending network = body ++ rest)
    (hlen : 65536 ≤ body.length) :
    (recvPayload networkRecv header len body.length network).rc = -2 := by
  have hn : (UInt16.ofNat body.length).toNat = body.length % 65536 := UInt16.toNat_ofNat'
  have hread := h.read network (UInt16.ofNat body.length) (by rw [hn, hpending]; simp; omega)
  rw [recvPayload, if_pos (by omega)]
  simp only [hread, hn]
  rw [if_neg (by omega), if_pos (by omega)]

theorem recv_framed (h : Delivers networkRecv pending) (c header : UInt8) {body rest : Bytes}
    {network : ν} (hpending : pending network = framed header body ++ rest)
    (hmax : body.length ≤ 2097151) :
    (body.length < 65536 →
      (MQTTGWPacket.recv networkRecv c network).rc = (framed header body).length ∧
        (MQTTGWPacket.recv networkRecv c network).packet = ⟨header, body.length, body⟩) ∧
    (65536 ≤ body.length → (MQTTGWPacket.recv networkRecv c network).rc = -2) := by
  rw [framed, List.cons_append, List.cons_append, List.append_assoc] at hpending
  obtain ⟨hread, hrest⟩ := h.byte hpending
  have htries : (packetEncode body.length).length ≤ MAX_NO_OF_REMAINING_LENGTH_BYTES :=
    Base128.encode_length_le (by decide) (Nat.lt_of_le_of_lt hmax (by decide))
  obtain ⟨network', hloop, hpending'⟩ :=
    h.recvRemainingLength (Base128.encode_terminated body.length) htries c 0 0 1 hrest
  have hvalue : Base128.value (packetEncode body.length) = body.length :=
    Base128.value_encode body.length
  rw [packetEncode] at hvalue
  simp only [Nat.zero_add, Nat.mul_one, hvalue] at hloop
  have hrecv : MQTTGWPacket.recv networkRecv c network =
      recvPayload networkRecv header (packetEncode body.length).length body.length network' := by
    simp only [MQTTGWPacket.recv, hread, hloop]
    rfl
  rw [hrecv]
  constructor
  · intro hlen
    obtain ⟨hrc, hpacket⟩ :=
      recvPayload_whole h header (packetEncode body.length).length hpending' hlen
    refine ⟨hrc.trans ?_, hpacket⟩
    rw [framed_length]
    push_cast
    rfl
  · exact recvPayload_truncated h header _ hpending'

end Recv

def publishIdentifier (pub : Publish) : Bytes :=
  if 0 < headerQoS pub.header then writeInt pub.msgId else []

def publishBody (pub : Publish) : Bytes :=
  MQTTGWPacket.publishFront pub ++ (publishIdentifier pub ++ pub.payload)

def publishSize (pub : Publish) : Nat :=
  2 + pub.topiclen + (if 0 < headerQoS pub.header then 2 else 0) + pub.payload.length

-- the topic and the payload hold as many bytes as the structure says
structure Publish.Held (pub : Publish) : Prop where
  topic : pub.topiclen ≤ pub.topic.length
  payload : pub.payloadlen = pub.payload.length
  msgId : pub.msgId < 65536

section Publish

open MQTTGWPacket

variable {pub : Publish}

theorem Publish.Held.body (h : pub.Held) : pub.body = pub.payload := by
  rw [Publish.body, h.payload, Int.toNat_natCast, List.take_length]

theorem publishBody_length (h : pub.Held) : (publishBody pub).length = publishSize pub := by
  rw [publishBody, List.length_append, List.length_append, publishFront_length h.topic,
    publishIdentifier, publishSize]
  split_ifs
  · rw [writeInt_length]
    omega
  · rw [List.length_nil]
    omega

theorem setPUBLISH_getPacketData (h : pub.Held) :
    (setPUBLISH pub).getPacketData = framed (setPUBLISH pub).header (publishBody pub) := by
  have hlength := publishBody_length h
  rw [publishSize] at hlength
  have hbody : (setPUBLISH pub).remainingLength = (publishBody pub).length ∧
      (setPUBLISH pub).data.take (publishBody pub).length = publishBody pub := by
    rcases Nat.eq_zero_or_pos (headerQoS pub.header) with hqos | hqos
    · obtain ⟨hdata, hlen⟩ := @setPUBLISH_plain pub (by omega)
      rw [if_neg (by omega)] at hlength
      refine ⟨by rw [hlen, h.payload]; omega, ?_⟩
      have hpart : publishBody pub = publishFront pub ++ pub.body := by
        rw [publishBody, publishIdentifier, if_neg (by omega), h.body, List.nil_append]
      rw [hdata, hpart, List.take_left]
    · obtain ⟨hdata, hlen⟩ := setPUBLISH_identified hqos
      rw [if_pos hqos] at hlength
      refine ⟨by rw [hlen, h.payload]; omega, ?_⟩
      have hwhole : (setPUBLISH pub).data = publishBody pub := by
        rw [hdata, publishBody, publishIdentifier, if_pos hqos, h.body, List.append_assoc]
      rw [hwhole, List.take_length]
  rw [getPacketData, hbody.1, Int.toNat_natCast, hbody.2]
  rfl

-- what a receiver sees of a PUBLISH
structure SamePublish (pub : Publish) (packet : MQTTGWPacket) : Prop where
  type : packet.getType = PUBLISH
  dup : headerDup packet.getPUBLISH.header = headerDup pub.header
  qos : headerQoS packet.getPUBLISH.header = headerQoS pub.header
  retain : headerRetain packet.getPUBLISH.header = headerRetain pub.header
  topic : packet.getPUBLISH.name = pub.name
  payload : packet.getPUBLISH.body = pub.payload
  msgId : 0 < headerQoS pub.header → packet.getPUBLISH.msgId = pub.msgId

theorem getPUBLISH_header (packet : MQTTGWPacket) : packet.getPUBLISH.header = packet.header := by
  simp only [getPUBLISH]
  split <;> rfl

theorem received_topiclen (pub : Publish) :
    readInt (publishBody pub) 0 = pub.topiclen := by
  have hfront : LaidAt (publishBody pub) 0 (publishFront pub) := List.prefix_append _ _
  rw [readInt_laidAt (LaidAt.append.mp hfront).1, Nat.mod_eq_of_lt pub.bounded]

theorem received_name (h : pub.Held) :
    ((publishBody pub).drop 2).take pub.topiclen = pub.topic.take pub.topiclen := by
  have hfront : LaidAt (publishBody pub) 0 (publishFront pub) := List.prefix_append _ _
  have hslice := (LaidAt.append.mp hfront).2.slice
  rw [List.length_take_of_le h.topic] at hslice
  exact hslice

theorem received_payload (h : pub.Held) :
    (publishBody pub).drop (2 + pub.topiclen + (publishIdentifier pub).length) = pub.payload := by
  rw [publishBody, ← publishFront_length h.topic, ← List.append_assoc, ← List.length_append,
    List.drop_left]

theorem received_msgId (h : pub.Held) (hqos : 0 < headerQoS pub.header) :
    readInt (publishBody pub) (2 + pub.topiclen) = pub.msgId := by
  have hlaid : LaidAt (publishBody pub) (2 + pub.topiclen) (writeInt pub.msgId) := by
    rw [publishBody, publishIdentifier, if_pos hqos, ← publishFront_length h.topic,
      ← List.append_assoc]
    exact LaidAt.within _ _ _
  rw [readInt_laidAt hlaid, Nat.mod_eq_of_lt h.msgId]

theorem samePublish_body (h : pub.Held) :
    SamePublish pub ⟨(setPUBLISH pub).header, (publishBody pub).length, publishBody pub⟩ where
  type := setPUBLISH_getType pub
  dup := by
    rw [getPUBLISH_header, setPUBLISH_header, headerDup_headerByte, headerDup, Nat.mod_mod]
  qos := by rw [getPUBLISH_header, setPUBLISH_qos]
  retain := by rw [getPUBLISH_header, setPUBLISH_retain]
  topic := by
    simp only [Publish.name, getPUBLISH_topiclen, getPUBLISH_topic, received_topiclen,
      TopicName.mk.injEq]
    exact received_name h
  payload := by
    have hlength := publishBody_length h
    have hpayload := received_payload h
    rw [publishSize] at hlength
    rw [publishIdentifier] at hpayload
    simp only [Publish.body, getPUBLISH, setPUBLISH_qos, received_topiclen]
    split_ifs at hlength hpayload ⊢ with hqos
    · rw [writeInt_length, Nat.add_right_comm] at hpayload
      simp only [hpayload]
      exact List.take_of_length_le (by omega)
    · simp only [List.length_nil, Nat.add_zero] at hpayload
      simp only [hpayload]
      exact List.take_of_length_le (by omega)
  msgId hqos := by
    simp only [getPUBLISH, setPUBLISH_qos, if_pos hqos, received_topiclen]
    exact received_msgId h hqos

variable {ν : Type} {networkRecv : ν → UInt16 → NetworkRead × ν} {pending : ν → Bytes}

structure ReadsBack (networkRecv : ν → UInt16 → NetworkRead × ν) (c : UInt8) (pub : Publish)
    (network : ν) : Prop where
  rc : (MQTTGWPacket.recv networkRecv c network).rc = (setPUBLISH pub).getPacketData.length
  same : SamePublish pub (MQTTGWPacket.recv networkRecv c network).packet

theorem readsBack_of_short (hd : Delivers networkRecv pending) (c : UInt8) (h : pub.Held)
    {network : ν} {rest : Bytes} (hpending : pending network = (setPUBLISH pub).getPacketData ++ rest)
    (hshort : publishSize pub < 65536) : ReadsBack networkRecv c pub network := by
  rw [setPUBLISH_getPacketData h] at hpending
  have hlength := publishBody_length h
  obtain ⟨hrc, hpacket⟩ := (recv_framed hd c _ hpending (by omega)).1 (by omega)
  refine ⟨?_, ?_⟩
  · rw [hrc, setPUBLISH_getPacketData h]
  · rw [hpacket]
    exact samePublish_body h

theorem not_readsBack_of_long (hd : Delivers networkRecv pending) (c : UInt8) (h : pub.Held)
    {network : ν} {rest : Bytes} (hpending : pending network = (setPUBLISH pub).getPacketData ++ rest)
    (hmax : publishSize pub ≤ 2097151) (hlong : 65536 ≤ publishSize pub) :
    ¬ReadsBack networkRecv c pub network := by
  intro hback
  have hrc := hback.rc
  rw [setPUBLISH_getPacketData h] at hpending
  have hlength := publishBody_length h
  rw [(recv_framed hd c _ hpending (by omega)).2 (by omega)] at hrc
  omega

theorem publish_readsBack_iff (hd : Delivers networkRecv pending) (c : UInt8) (h : pub.Held)
    {network : ν} {rest : Bytes} (hpending : pending network = (setPUBLISH pub).getPacketData ++ rest)
    (hmax : publishSize pub ≤ 2097151) :
    ReadsBack networkRecv c pub network ↔ publishSize pub < 65536 := by
  constructor
  · intro hback
    exact Nat.lt_of_not_le fun hlong => not_readsBack_of_long hd c h hpending hmax hlong hback
  · exact readsBack_of_short hd c h hpending

end Publish

def streamRecv (stream : Bytes) (n : UInt16) : NetworkRead × Bytes :=
  (⟨(stream.take n.toNat).length, stream.take n.toNat⟩, stream.drop n.toNat)

theorem streamRecv_delivers : Delivers streamRecv id where
  read stream n hn := by
    have hlen : (stream.take n.toNat).length = n.toNat := List.length_take_of_le hn
    rw [streamRecv, hlen]
    rfl
  rest _ _ _ := rfl

def publishHolding (header : UInt8) (topic : TopicName) (msgId : UInt16) (payload : Bytes) : Publish where
  header := header
  topic := topic.bytes
  topiclen := topic.bytes.length
  msgId := msgId.toNat
  payload := payload
  payloadlen := payload.length
  bounded := topic.bounded

theorem publishHolding_held (header : UInt8) (topic : TopicName) (msgId : UInt16) (payload : Bytes) :
    (publishHolding header topic msgId payload).Held := ⟨Nat.le_refl _, rfl, msgId.toNat_lt⟩

theorem publish_readsBack_iff_qos1 :
    let pub := publishHolding 0x32 ⟨[116], by decide⟩ 7 [104, 105]
    ReadsBack streamRecv 0 pub (MQTTGWPacket.setPUBLISH pub).getPacketData :=
  (publish_readsBack_iff streamRecv_delivers 0 (publishHolding_held 0x32 ⟨[116], by decide⟩ 7 [104, 105])
    (List.append_nil _).symm (by decide)).mpr (by decide)

def publishOf65536 : Publish := publishHolding 0x30 ⟨[116], by decide⟩ 0 (List.replicate 65533 97)

theorem publishOf65536_not_readsBack :
    ¬ReadsBack streamRecv 0 publishOf65536 (MQTTGWPacket.setPUBLISH publishOf65536).getPacketData := by
  have hsize : publishSize publishOf65536 = 65536 := by
    have hlength : publishOf65536.payload.length = 65533 := List.length_replicate
    rw [publishSize, hlength]
    rfl
  have hheld : publishOf65536.Held := publishHolding_held _ _ _ _
  exact not_readsBack_of_long streamRecv_delivers 0 hheld (List.append_nil _).symm
    (by omega) (by omega)

end MbedMqtt.MQTTSNGW
