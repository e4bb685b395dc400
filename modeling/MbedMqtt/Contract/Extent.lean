import Mathlib.Data.List.Induction
import MbedMqtt.Packet.Writer
import MbedMqtt.Contract.PublishCodec
import MbedMqtt.Contract.SubscribeCodec
import MbedMqtt.Contract.ConnectCodec

namespace MbedMqtt

def written (r : Int × Bytes) : Int × List (Nat × UInt8) := (r.1, indexed r.2)

theorem written_if {buflen : Int} (needed : Nat) {packet : Bytes} {r : Int × List (Nat × UInt8)}
    (hpos : 0 < needed) (hw : r = ((packet.length : Int), indexed packet)) :
    (if buflen < needed then Writer.tooShort else r) =
      written (if buflen.toNat < needed then (MQTTPACKET_BUFFER_TOO_SHORT, [])
        else ((packet.length : Int), packet)) := by
  by_cases h : buflen < needed
  · rw [if_pos h, if_pos (by omega)]
    rfl
  · rw [if_neg h, if_neg (by omega), hw]
    rfl

theorem writer_serializePublish (buflen : Int) (dup qos retained packetid : Nat)
    {topicName : MQTTString} (payload : Bytes) (hs : topicName.Single) :
    Writer.serializePublish buflen dup qos retained packetid topicName payload =
      written (serializePublish buflen.toNat dup qos retained packetid topicName payload) := by
  have hname := ((Wrote.start.writeChar (headerByte PUBLISH dup qos retained)).packetEncode
    (publishLength qos topicName payload.length)).writeMQTTString hs
  have hpacket := (hname.ite (p := 0 < qos) _ fun _ => hname.writeInt packetid).copy payload
  exact written_if _ (packetLen_pos _) (by simpa using hpacket.result)

theorem writer_serializeAck (buflen : Int) (packettype dup packetid : Nat) :
    Writer.serializeAck buflen packettype dup packetid =
      written (serializeAck buflen.toNat packettype dup packetid) := by
  have hpacket := ((Wrote.start.writeChar
    (headerByte packettype dup (if packettype = PUBREL then 1 else 0) 0)).packetEncode 2).writeInt
    packetid
  exact written_if 4 (by decide) (by simpa using hpacket.result)

theorem writer_serializeZero (buflen : Int) (packettype : Nat) :
    Writer.serializeZero buflen packettype = written (serializeZero buflen.toNat packettype) := by
  have hpacket := (Wrote.start.writeChar (headerByte packettype 0 0 0)).packetEncode 0
  exact written_if 2 (by decide) (by simpa using hpacket.result)

theorem writer_serializeSubscribe (buflen : Int) (dup packetid : Nat)
    {topicFilters : List MQTTString} (requestedQoSs : List Nat)
    (hs : ∀ t ∈ topicFilters, t.Single) :
    Writer.serializeSubscribe buflen dup packetid topicFilters requestedQoSs =
      written (serializeSubscribe buflen.toNat dup packetid topicFilters requestedQoSs) := by
  have hid := ((Wrote.start.writeChar (headerByte SUBSCRIBE dup 1 0)).packetEncode
    (subscribeLength topicFilters)).writeInt packetid
  have hstep : ∀ tq ∈ topicFilters.zip requestedQoSs, ∀ {w bs}, Wrote w bs →
      Wrote ((w.writeMQTTString tq.1).writeChar (UInt8.ofNat tq.2))
        (bs ++ (writeMQTTString tq.1 ++ [UInt8.ofNat tq.2])) := by
    intro tq htq w bs h
    rw [← List.append_assoc]
    exact (h.writeMQTTString (hs tq.1 (List.of_mem_zip htq).1)).writeChar _
  have hpacket := hid.foldl
    (fun w (tq : MQTTString × Nat) => (w.writeMQTTString tq.1).writeChar (UInt8.ofNat tq.2))
    (fun tq => writeMQTTString tq.1 ++ [UInt8.ofNat tq.2]) hstep
  exact written_if _ (packetLen_pos _) (by simpa using hpacket.result)

theorem writer_serializeUnsubscribe (buflen : Int) (dup packetid : Nat)
    {topicFilters : List MQTTString} (hs : ∀ t ∈ topicFilters, t.Single) :
    Writer.serializeUnsubscribe buflen dup packetid topicFilters =
      written (serializeUnsubscribe buflen.toNat dup packetid topicFilters) := by
  have hid := ((Wrote.start.writeChar (headerByte UNSUBSCRIBE dup 1 0)).packetEncode
    (unsubscribeLength topicFilters)).writeInt packetid
  have hstep : ∀ t ∈ topicFilters, ∀ {w bs}, Wrote w bs →
      Wrote (w.writeMQTTString t) (bs ++ writeMQTTString t) :=
    fun t ht _ _ h => h.writeMQTTString (hs t ht)
  have hpacket := hid.foldl Writer.writeMQTTString writeMQTTString hstep
  exact written_if _ (packetLen_pos _) (by simpa using hpacket.result)

theorem writer_serializeConnect (buflen : Int) {options : ConnectData}
    (h : ConnectSingle options) :
    Writer.serializeConnect buflen options = written (serializeConnect buflen.toNat options) := by
  have hlength := (Wrote.start.writeChar (headerByte CONNECT 0 0 0)).packetEncode
    (connectLength options)
  have hname : Wrote
      (if options.mqttVersion = 4 then
        (((Writer.start.writeChar (headerByte CONNECT 0 0 0)).packetEncode
          (connectLength options)).writeCString [77, 81, 84, 84]).writeChar 4
      else (((Writer.start.writeChar (headerByte CONNECT 0 0 0)).packetEncode
          (connectLength options)).writeCString [77, 81, 73, 115, 100, 112]).writeChar 3)
      (([] ++ [headerByte CONNECT 0 0 0] ++ packetEncode (connectLength options)) ++
        protocolName options) := by
    unfold protocolName
    split
    · rw [← List.append_assoc]
      exact (hlength.writeCString _).writeChar 4
    · rw [← List.append_assoc]
      exact (hlength.writeCString _).writeChar 3
  have hclient := ((hname.writeChar (connectFlags options)).writeInt
    options.keepAliveInterval).writeMQTTString h.clientID
  have hwill := hclient.ite (p := options.willFlag = true)
    (writeMQTTString options.will.topicName ++ writeMQTTString options.will.message)
    fun _ => by
      rw [← List.append_assoc]
      exact (hclient.writeMQTTString h.topicName).writeMQTTString h.message
  have husername := hwill.ite (p := options.username.present = true) _
    fun _ => hwill.writeMQTTString h.username
  have hpacket := husername.ite (p := options.password.present = true) _
    fun _ => husername.writeMQTTString h.password
  exact written_if _ (packetLen_pos _) (by simpa using hpacket.result)

def applyWrites (buf : Bytes) (writes : List (Nat × UInt8)) : Bytes :=
  writes.foldl (fun buf write => buf.set write.1 write.2) buf

theorem applyWrites_indexed {buf packet : Bytes} (h : packet.length ≤ buf.length) :
    applyWrites buf (indexed packet) = store buf 0 packet := by
  induction packet using List.reverseRecOn with
  | nil => simp [applyWrites, indexed, store_zero]
  | append_singleton bs b ih =>
    rw [List.length_append, List.length_singleton] at h
    have hprefix := ih (by omega)
    have hrest : buf.drop bs.length = (buf.getD bs.length 0) :: buf.drop (bs.length + 1) := by
      rw [List.drop_eq_getElem_cons (by omega), List.getD_eq_getElem _ _ (by omega)]
    have hlast : indexed (bs ++ [b]) = indexed bs ++ [(bs.length, b)] := by
      rw [indexed_append]
      rfl
    rw [applyWrites] at hprefix ⊢
    rw [hlast, List.foldl_append, hprefix, store_zero, store_zero, hrest]
    simp

def Extent (buflen : Int) (r : Int × List (Nat × UInt8)) : Prop :=
  (0 < r.1 → r.1 ≤ buflen ∧ (∀ write ∈ r.2, (write.1 : Int) < r.1) ∧
    ∀ buf : Bytes, (buf.length : Int) = buflen →
      r.1 = 1 + (decodeBuf (applyWrites buf r.2) 1).1 + (decodeBuf (applyWrites buf r.2) 1).2) ∧
  (r.1 = MQTTPACKET_BUFFER_TOO_SHORT → r.2 = [])

theorem packetEncode_length_le {n : Nat} (h : n < 268435456) :
    1 + (packetEncode n).length + n ≤ packetLen n := by
  have hlen (tries : Nat) (htries : 0 < tries) (hn : n < 128 ^ tries) :
      (packetEncode n).length ≤ tries := Base128.encode_length_le htries hn
  unfold packetLen
  simp only
  split
  · have := hlen 1 (by decide) (by omega)
    omega
  · split
    · have := hlen 2 (by decide) (by omega)
      omega
    · split
      · have := hlen 3 (by decide) (by omega)
        omega
      · have := hlen 4 (by decide) (by omega)
        omega

theorem extent_framed (buflen : Int) {needed : Nat} (header : UInt8) (body : Bytes)
    (hbody : body.length < 268435456) (hneed : (framed header body).length ≤ needed) :
    Extent buflen (written (if buflen.toNat < needed then (MQTTPACKET_BUFFER_TOO_SHORT, [])
      else (((framed header body).length : Int), framed header body))) := by
  by_cases hshort : buflen.toNat < needed
  · rw [if_pos hshort]
    exact ⟨fun h => absurd h (by simp [written]), fun _ => rfl⟩
  · rw [if_neg hshort]
    have hlen := framed_length header body
    refine ⟨fun _ => ⟨?_, ?_, ?_⟩, fun h => ?_⟩
    · simp only [written]
      omega
    · intro write hw
      obtain ⟨i, hi, rfl⟩ := List.mem_map.mp hw
      exact Int.ofNat_lt.mpr (List.mem_range.mp hi)
    · intro buf hbuf
      simp only [written]
      rw [applyWrites_indexed (by omega), store_zero, decodeBuf_framed header body _ hbody]
      simp only
      omega
    · have hneg : ((framed header body).length : Int) = -2 := h
      omega

inductive SerializerCall where
  | connect (options : ConnectData)
  | publish (dup qos retained packetid : Nat) (topicName : MQTTString) (payload : Bytes)
  | subscribe (dup packetid : Nat) (requests : List (MQTTString × Nat))
  | unsubscribe (dup packetid : Nat) (topicFilters : List MQTTString)
  | ack (packettype dup packetid : Nat)
  | zero (packettype : Nat)
  deriving DecidableEq, Repr

namespace SerializerCall

def run (buflen : Int) : SerializerCall → Int × List (Nat × UInt8)
  | .connect options => Writer.serializeConnect buflen options
  | .publish dup qos retained packetid topicName payload =>
      Writer.serializePublish buflen dup qos retained packetid topicName payload
  | .subscribe dup packetid requests =>
      Writer.serializeSubscribe buflen dup packetid (requests.map Prod.fst) (requests.map Prod.snd)
  | .unsubscribe dup packetid topicFilters =>
      Writer.serializeUnsubscribe buflen dup packetid topicFilters
  | .ack packettype dup packetid => Writer.serializeAck buflen packettype dup packetid
  | .zero packettype => Writer.serializeZero buflen packettype

def remLen : SerializerCall → Nat
  | .connect options => connectLength options
  | .publish _ qos _ _ topicName payload => publishLength qos topicName payload.length
  | .subscribe _ _ requests => subscribeLength (requests.map Prod.fst)
  | .unsubscribe _ _ topicFilters => unsubscribeLength topicFilters
  | .ack _ _ _ => 2
  | .zero _ => 0

def Single : SerializerCall → Prop
  | .connect options => ConnectSingle options
  | .publish _ _ _ _ topicName _ => topicName.Single
  | .subscribe _ _ requests => ∀ r ∈ requests, r.1.Single
  | .unsubscribe _ _ topicFilters => ∀ t ∈ topicFilters, t.Single
  | .ack _ _ _ => True
  | .zero _ => True

end SerializerCall

theorem serializer_extent (buflen : Int) {call : SerializerCall} (hs : call.Single)
    (hlen : call.remLen ≤ 268435455) : Extent buflen (call.run buflen) := by
  have hfit {header : UInt8} {body : Bytes} {n : Nat} (hbody : body.length = n)
      (hn : n ≤ 268435455) : (framed header body).length ≤ packetLen n := by
    rw [framed_length, hbody]
    exact packetEncode_length_le (by omega)
  cases call with
  | connect options =>
    have hbody := connectBody_length hs
    simp only [SerializerCall.remLen] at hlen
    simp only [SerializerCall.run, writer_serializeConnect buflen hs, serializeConnect_framed _ hs]
    exact extent_framed buflen _ _ (by omega) (hfit hbody hlen)
  | publish dup qos retained packetid topicName payload =>
    simp only [SerializerCall.Single] at hs
    have hbody : (publishBody topicName.text qos packetid payload).length =
        publishLength qos topicName payload.length := by
      rw [publishBody_length, publishLength, hs.strlen]
    simp only [SerializerCall.remLen] at hlen
    simp only [SerializerCall.run, writer_serializePublish buflen _ _ _ _ _ hs,
      serializePublish_framed _ _ _ _ _ _ hs]
    exact extent_framed buflen _ _ (by omega) (hfit hbody hlen)
  | subscribe dup packetid requests =>
    have hbody := subscribeBody_length packetid hs
    have hfilters : ∀ t ∈ requests.map Prod.fst, t.Single := by
      intro t ht
      obtain ⟨r, hr, rfl⟩ := List.mem_map.mp ht
      exact hs r hr
    simp only [SerializerCall.remLen] at hlen
    simp only [SerializerCall.run, writer_serializeSubscribe buflen _ _ _ hfilters,
      serializeSubscribe_framed _ _ _ hs]
    exact extent_framed buflen _ _ (by omega) (hfit hbody hlen)
  | unsubscribe dup packetid topicFilters =>
    have hbody := unsubscribeBody_length packetid hs
    simp only [SerializerCall.remLen] at hlen
    simp only [SerializerCall.run, writer_serializeUnsubscribe buflen _ _ hs,
      serializeUnsubscribe_framed _ _ _ hs]
    exact extent_framed buflen _ _ (by omega) (hfit hbody hlen)
  | ack packettype dup packetid =>
    rw [SerializerCall.run, writer_serializeAck]
    exact extent_framed buflen
      (headerByte packettype dup (if packettype = PUBREL then 1 else 0) 0)
      (writeInt packetid) (by rw [writeInt_length]; decide)
      (by rw [framed_length, writeInt_length]; decide)
  | zero packettype =>
    rw [SerializerCall.run, writer_serializeZero]
    exact extent_framed buflen (headerByte packettype 0 0 0) [] (by decide)
      (by rw [framed_length]; decide)

theorem serializer_extent_exact_fit :
    Extent 18 ((SerializerCall.publish 0 1 0 9 (.ofCString [116]) (List.replicate 11 7)).run 18) :=
  serializer_extent 18 (single_ofCString _) (by decide)

end MbedMqtt
