import MbedMqtt.Packet.Text

namespace MbedMqtt

def publishBody (text : Bytes) (qos packetid : Nat) (payload : Bytes) : Bytes :=
  writeCString text ++ (if 0 < qos then writeInt packetid else []) ++ payload

theorem publishBody_length (text : Bytes) (qos packetid : Nat) (payload : Bytes) :
    (publishBody text qos packetid payload).length =
      2 + text.length + payload.length + (if 0 < qos then 2 else 0) := by
  simp only [publishBody, List.length_append, writeCString_length]
  split
  · rw [writeInt_length]
    omega
  · rw [List.length_nil]
    omega

theorem serializePublish_framed (buflen dup qos retained packetid : Nat) {topicName : MQTTString}
    (payload : Bytes) (hs : topicName.Single) :
    serializePublish buflen dup qos retained packetid topicName payload =
      if buflen < packetLen (publishLength qos topicName payload.length) then
        (MQTTPACKET_BUFFER_TOO_SHORT, [])
      else
        let packet := framed (headerByte PUBLISH dup qos retained)
          (publishBody topicName.text qos packetid payload)
        (packet.length, packet) := by
  have hlen : publishLength qos topicName payload.length =
      (publishBody topicName.text qos packetid payload).length := by
    rw [publishBody_length, publishLength, hs.strlen]
  simp only [serializePublish, framed, hlen]
  simp only [publishBody, hs.write, List.cons_append, List.append_assoc]

theorem deserializePublish_laidAt {buf text payload : Bytes} (qos : Nat) {n packetid : Nat}
    (ht : headerType (byteAt buf 0) = PUBLISH) (hq : headerQoS (byteAt buf 0) = qos)
    (hdec : decodeBuf buf 1 = (n, (publishBody text qos packetid payload).length))
    (h : LaidAt buf (1 + n) (publishBody text qos packetid payload)) (htext : text.length ≤ 65535)
    (hid : packetid < 65536) :
    deserializePublish buf =
      some
        { dup := headerDup (byteAt buf 0)
          qos := qos
          retained := headerRetain (byteAt buf 0)
          packetid := if 0 < qos then some packetid else none
          topicName := .ofLenString text
          payload := payload
          payloadlen := payload.length } := by
  have hlen := publishBody_length text qos packetid payload
  generalize hr : (publishBody text qos packetid payload).length = r at hdec hlen
  rw [publishBody, LaidAt.append, LaidAt.append, List.length_append, writeCString_length] at h
  obtain ⟨⟨hname, hnumber⟩, hpayload⟩ := h
  have hread := readMQTTLenString_laidAt (1 + n + r) hname htext (by omega)
  simp only [deserializePublish, ht, hdec, hread, hq, ne_eq, not_true_eq_false, if_false]
  have hslice := hpayload.slice
  by_cases hpos : 0 < qos
  · simp only [hpos, if_true, writeInt_length] at hlen hslice hnumber ⊢
    have hread : readInt buf (1 + n + 2 + text.length) = packetid := by
      rw [← Nat.add_assoc] at hnumber
      rw [readInt_laidAt hnumber, Nat.mod_eq_of_lt hid]
    have hstart : 1 + n + 2 + text.length + 2 = 1 + n + (2 + text.length + 2) := by omega
    have hextent : 1 + n + r - (1 + n + (2 + text.length + 2)) = payload.length := by omega
    have hpayloadlen : ((1 + n + r : Nat) : Int) - (1 + n + (2 + text.length + 2) : Nat) =
        payload.length := by omega
    rw [hread, hstart, hextent, hslice, hpayloadlen]
  · simp only [hpos, if_false, List.length_nil, Nat.add_zero] at hlen hslice ⊢
    have hstart : 1 + n + 2 + text.length = 1 + n + (2 + text.length) := by omega
    have hextent : 1 + n + r - (1 + n + (2 + text.length)) = payload.length := by omega
    have hpayloadlen : ((1 + n + r : Nat) : Int) - (1 + n + (2 + text.length) : Nat) =
        payload.length := by omega
    rw [hstart, hextent, hslice, hpayloadlen]

theorem publish_round_trip (buf : Bytes) (buflen : Nat) {dup qos retained packetid : Nat}
    {topicName : MQTTString} {payload : Bytes} (hdup : dup ≤ 1) (hqos : qos ≤ 2)
    (hretained : retained ≤ 1) (hid : packetid < 65536) (hs : topicName.Single)
    (htopic : topicName.text.length ≤ 65535)
    (hlen : publishLength qos topicName payload.length ≤ 268435455)
    (hrc : 0 < (serializePublish buflen dup qos retained packetid topicName payload).1) :
    ∃ fields,
      deserializePublish
          (store buf 0 (serializePublish buflen dup qos retained packetid topicName payload).2) =
        some fields ∧
      fields.dup = dup ∧ fields.qos = qos ∧ fields.retained = retained ∧
      fields.topicName.text = topicName.text ∧ fields.payload = payload ∧
      fields.payloadlen = payload.length ∧ (0 < qos → fields.packetid = some packetid) := by
  have hbody : (publishBody topicName.text qos packetid payload).length < 268435456 := by
    rw [publishLength, hs.strlen] at hlen
    rw [publishBody_length]
    omega
  rw [serializePublish_framed buflen dup qos retained packetid payload hs] at hrc ⊢
  split at hrc
  · simp at hrc
  · rename_i hfit
    rw [if_neg hfit]
    simp only [store_zero]
    have hheader (tail : Bytes) := byteAt_framed (headerByte PUBLISH dup qos retained)
      (publishBody topicName.text qos packetid payload) tail
    have hparse (tail : Bytes) := deserializePublish_laidAt qos
      (by rw [hheader tail]; exact headerType_headerByte ..)
      (by rw [hheader tail, headerQoS_headerByte]; omega)
      (decodeBuf_framed _ _ tail hbody) (laidAt_framed _ _ tail) htopic hid
    refine ⟨_, hparse _, ?_, rfl, ?_, text_ofLenString _, rfl, rfl, ?_⟩
    · simp only [hheader, headerDup_headerByte]
      omega
    · simp only [hheader, headerRetain_headerByte]
      omega
    · intro hpos
      rw [if_pos hpos]

theorem publish_round_trip_qos2 :
    ∃ fields,
      deserializePublish (store (List.replicate 100 0) 0
        (serializePublish 100 1 2 0 23 (.ofCString [109, 121]) [107, 107]).2) = some fields ∧
      fields.dup = 1 ∧ fields.qos = 2 ∧ fields.retained = 0 ∧
      fields.topicName.text = [109, 121] ∧ fields.payload = [107, 107] ∧
      fields.payloadlen = 2 ∧ (0 < 2 → fields.packetid = some 23) :=
  publish_round_trip (List.replicate 100 0) 100 (by decide) (by decide) (by decide) (by decide)
    (single_ofCString _) (by decide) (by decide) (by decide)

end MbedMqtt
