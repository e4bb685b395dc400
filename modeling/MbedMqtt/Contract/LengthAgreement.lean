import Mathlib.Algebra.BigOperators.Group.List.Basic
import MbedMqtt.Contract.Extent
import MbedMqtt.Packet.Signed

namespace MbedMqtt

theorem Wrote.memcpyPast {w : Writer} {bs : Bytes} (h : Wrote w bs) (src : Bytes) (n : Nat) :
    Wrote (w.memcpy src n) (bs ++ (List.range n).map (byteAt src)) := by
  constructor
  · rw [Writer.memcpy, List.length_append, List.length_map, List.length_range, h.1]
  · simp only [Writer.memcpy, indexed_append, List.length_map, List.length_range, h.1, h.2]
    congr 1
    refine List.map_congr_left ?_
    intro i hi
    simp [byteAt, List.mem_range.mp hi]

theorem indexed_inj {bs cs : Bytes} (h : indexed bs = indexed cs) : bs = cs := by
  have hbytes (xs : Bytes) : (indexed xs).map Prod.snd = xs := by
    refine List.ext_getElem (by simp [indexed]) ?_
    intro i _ hi
    simp [indexed, byteAt, hi]
  rw [← hbytes bs, h, hbytes cs]

namespace Signed

namespace MQTTString

def bytes (s : MQTTString) : Bytes :=
  if 0 < s.len then writeInt s.len.toNat ++ (List.range s.len.toNat).map (byteAt (s.data.getD []))
  else match s.cstring with
    | some text => writeCString text
    | none => writeInt 0

-- what `MQTTstrlen` counts beyond the bytes that `writeMQTTString` writes
def surplus (s : MQTTString) : Int :=
  match s.cstring with
  | some text => if 0 < s.len then text.length - s.len else 0
  | none => if s.len < 0 then s.len else 0

theorem bytes_length (s : MQTTString) :
    (s.bytes.length : Int) = 2 + mqttstrlen s - s.surplus := by
  obtain ⟨cstring, len, data⟩ := s
  cases cstring with
  | some text =>
    simp only [bytes, mqttstrlen, surplus]
    split_ifs
    · simp only [List.length_append, writeInt_length, List.length_map, List.length_range]
      omega
    · simp only [writeCString, List.length_append, writeInt_length]
      omega
  | none =>
    simp only [bytes, mqttstrlen, surplus]
    split_ifs
    · omega
    · simp only [List.length_append, writeInt_length, List.length_map, List.length_range]
      omega
    · rw [writeInt_length]
      omega
    · rw [writeInt_length]
      omega

theorem wrote {w : Writer} {bs : Bytes} (h : Wrote w bs) (s : MQTTString) :
    Wrote (writeMQTTString w s) (bs ++ s.bytes) := by
  rw [writeMQTTString, bytes]
  split_ifs
  · rw [← List.append_assoc]
    exact (h.writeInt s.len.toNat).memcpyPast _ _
  · cases s.cstring with
    | some text => exact h.writeCString text
    | none => exact h.writeInt 0

end MQTTString

section Unsigned

variable {s : MQTTString}

theorem writeMQTTString_unsigned (w : Writer) (s : MQTTString) :
    writeMQTTString w s = w.writeMQTTString s.unsigned := by
  have hpos : 0 < s.len ↔ 0 < s.unsigned.len := by
    simp only [MQTTString.unsigned]
    omega
  simp only [writeMQTTString, Writer.writeMQTTString, hpos]
  rfl

theorem mqttstrlen_unsigned (h : 0 ≤ s.len) :
    mqttstrlen s = (MbedMqtt.mqttstrlen s.unsigned : Nat) := by
  rw [mqttstrlen, MbedMqtt.mqttstrlen, show s.unsigned.cstring = s.cstring from rfl]
  cases s.cstring with
  | some text => rfl
  | none => exact (Int.toNat_of_nonneg h).symm

theorem packetEncodeInt_cast (w : Writer) (n : Nat) : w.packetEncodeInt n = w.packetEncode n := by
  rw [Writer.packetEncodeInt, if_neg (by omega), Int.toNat_natCast]

namespace Call

def unsigned : Call → SerializerCall
  | .connect options => .connect options.unsigned
  | .publish dup qos retained packetid topicName payload =>
      .publish dup qos retained packetid topicName.unsigned payload
  | .subscribe dup packetid requests =>
      .subscribe dup packetid (requests.map fun r => (r.1.unsigned, r.2))
  | .unsubscribe dup packetid topicFilters =>
      .unsubscribe dup packetid (topicFilters.map (·.unsigned))

def strings : Call → List MQTTString
  | .connect options => [options.clientID, options.will.topicName, options.will.message,
      options.username, options.password]
  | .publish _ _ _ _ topicName _ => [topicName]
  | .subscribe _ _ requests => requests.map (·.1)
  | .unsubscribe _ _ topicFilters => topicFilters

end Call

theorem foldl_unsigned {α : Type} (count : α → Int) (count' : α → Nat) {xs : List α}
    (h : ∀ x ∈ xs, count x = count' x) (n : Nat) :
    xs.foldl (fun len x => len + count x) (n : Int) =
      (xs.foldl (fun len x => len + count' x) n : Nat) := by
  induction xs generalizing n with
  | nil => rfl
  | cons x xs ih =>
    rw [List.foldl_cons, List.foldl_cons, h x List.mem_cons_self,
      ← ih fun y hy => h y (List.mem_cons_of_mem x hy)]
    rfl

theorem remLen_unsigned {call : Call} (h : ∀ s ∈ call.strings, 0 ≤ s.len) :
    call.remLen = call.unsigned.remLen := by
  cases call with
  | connect options =>
    have hlen {s : MQTTString} (hs : s ∈ (Call.connect options).strings) :
        mqttstrlen s = (MbedMqtt.mqttstrlen s.unsigned : Nat) := mqttstrlen_unsigned (h s hs)
    have hclientID := hlen (s := options.clientID) (by simp [Call.strings])
    have htopicName := hlen (s := options.will.topicName) (by simp [Call.strings])
    have hmessage := hlen (s := options.will.message) (by simp [Call.strings])
    have husername := hlen (s := options.username) (by simp [Call.strings])
    have hpassword := hlen (s := options.password) (by simp [Call.strings])
    simp only [Call.remLen, Call.unsigned, SerializerCall.remLen, connectLength,
      MbedMqtt.connectLength, hclientID, htopicName, hmessage, husername, hpassword]
    push_cast
    rfl
  | publish dup qos retained packetid topicName payload =>
    simp only [Call.remLen, Call.unsigned, SerializerCall.remLen, publishLength,
      MbedMqtt.publishLength, mqttstrlen_unsigned (h topicName (by simp [Call.strings]))]
    push_cast
    rfl
  | subscribe dup packetid requests =>
    have hstep : ∀ r ∈ requests, 2 + mqttstrlen r.1 + 1 =
        ((2 + MbedMqtt.mqttstrlen r.1.unsigned + 1 : Nat) : Int) := by
      intro r hr
      rw [mqttstrlen_unsigned (h r.1 (List.mem_map_of_mem hr))]
      push_cast
      rfl
    have hfold := foldl_unsigned (fun r : MQTTString × Nat => 2 + mqttstrlen r.1 + 1)
      (fun r => 2 + MbedMqtt.mqttstrlen r.1.unsigned + 1) hstep 2
    simpa [Call.remLen, Call.unsigned, SerializerCall.remLen, subscribeLength,
      MbedMqtt.subscribeLength, List.foldl_map] using hfold
  | unsubscribe dup packetid topicFilters =>
    have hstep : ∀ t ∈ topicFilters, 2 + mqttstrlen t =
        ((2 + MbedMqtt.mqttstrlen t.unsigned : Nat) : Int) := by
      intro t ht
      rw [mqttstrlen_unsigned (h t ht)]
      push_cast
      rfl
    have hfold := foldl_unsigned (fun t => 2 + mqttstrlen t)
      (fun t => 2 + MbedMqtt.mqttstrlen t.unsigned) hstep 2
    simpa [Call.remLen, Call.unsigned, SerializerCall.remLen, unsubscribeLength,
      MbedMqtt.unsubscribeLength, List.foldl_map] using hfold

-- where no length is negative these are the serializers of `Writer`
theorem run_unsigned (buflen : Int) {call : Call} (h : ∀ s ∈ call.strings, 0 ≤ s.len) :
    call.run buflen = call.unsigned.run buflen := by
  have hlen := remLen_unsigned h
  cases call with
  | connect options =>
    simp only [Call.remLen, Call.unsigned, SerializerCall.remLen] at hlen
    simp only [Call.run, Call.unsigned, SerializerCall.run, serializeConnect,
      Writer.serializeConnect, hlen, packetLen_cast, packetEncodeInt_cast,
      writeMQTTString_unsigned]
    rfl
  | publish dup qos retained packetid topicName payload =>
    simp only [Call.remLen, Call.unsigned, SerializerCall.remLen] at hlen
    simp only [Call.run, Call.unsigned, SerializerCall.run, serializePublish,
      Writer.serializePublish, hlen, packetLen_cast, packetEncodeInt_cast,
      writeMQTTString_unsigned]
  | subscribe dup packetid requests =>
    simp only [Call.remLen, Call.unsigned, SerializerCall.remLen] at hlen
    simp only [Call.run, Call.unsigned, SerializerCall.run, serializeSubscribe,
      Writer.serializeSubscribe, hlen, packetLen_cast, packetEncodeInt_cast,
      writeMQTTString_unsigned, List.zip_map', List.foldl_map, List.map_map]
    rfl
  | unsubscribe dup packetid topicFilters =>
    simp only [Call.remLen, Call.unsigned, SerializerCall.remLen] at hlen
    simp only [Call.run, Call.unsigned, SerializerCall.run, serializeUnsubscribe,
      Writer.serializeUnsubscribe, hlen, packetLen_cast, packetEncodeInt_cast, List.foldl_map]
    simp only [← writeMQTTString_unsigned]

end Unsigned

def versionSurplus (version : Nat) : Int := if version = 3 ∨ version = 4 then 0 else -12

namespace Call

def surplus : Call → Int
  | .connect options =>
      versionSurplus options.mqttVersion + options.clientID.surplus +
        (if options.willFlag then
          options.will.topicName.surplus + options.will.message.surplus else 0) +
        (if options.username.present then options.username.surplus else 0) +
        (if options.password.present then options.password.surplus else 0)
  | .publish _ _ _ _ topicName _ => topicName.surplus
  | .subscribe _ _ requests => (requests.map (·.1.surplus)).sum
  | .unsubscribe _ _ topicFilters => (topicFilters.map (·.surplus)).sum

end Call

-- a packet is its header byte, what `MQTTPacket_encode` writes for the remaining length, and that
-- many bytes
def Framed (remLen : Int) (r : Int × List (Nat × UInt8)) : Prop :=
  r = Writer.tooShort ∨ ∃ header body,
    r.2 = indexed (header :: encodeInt remLen ++ body) ∧ (body.length : Int) = remLen

structure Writes (buflen remLen surplus : Int) (r : Int × List (Nat × UInt8)) (header : UInt8)
    (body : Bytes) : Prop where
  result : r = if buflen < packetLen remLen then Writer.tooShort
    else (((header :: encodeInt remLen ++ body).length : Int),
      indexed (header :: encodeInt remLen ++ body))
  length : (body.length : Int) = remLen - surplus

namespace Writes

variable {buflen remLen surplus : Int} {r : Int × List (Nat × UInt8)} {header : UInt8}
variable {body : Bytes}

theorem tooShort_iff (h : Writes buflen remLen surplus r header body) :
    r = Writer.tooShort ↔ buflen < packetLen remLen := by
  rw [h.result]
  split_ifs with hshort
  · exact iff_of_true rfl hshort
  · refine iff_of_false ?_ hshort
    intro hresult
    have hrc := congrArg Prod.fst hresult
    simp only [Writer.tooShort, MQTTPACKET_BUFFER_TOO_SHORT] at hrc
    omega

theorem framed_iff (h : Writes buflen remLen surplus r header body) :
    Framed remLen r ↔ buflen < packetLen remLen ∨ surplus = 0 := by
  have hlength := h.length
  rw [Framed, h.tooShort_iff]
  by_cases hshort : buflen < packetLen remLen
  · exact iff_of_true (.inl hshort) (.inl hshort)
  have hwritten : r.2 = indexed (header :: encodeInt remLen ++ body) := by
    rw [h.result, if_neg hshort]
  rw [or_iff_right hshort, or_iff_right hshort]
  constructor
  · rintro ⟨header', body', hindexed, hframed⟩
    have hbytes := indexed_inj (hwritten.symm.trans hindexed)
    have hbody : body = body' := List.append_cancel_left (List.cons.inj hbytes).2
    rw [← hbody] at hframed
    omega
  · intro hzero
    exact ⟨header, body, hwritten, by omega⟩

end Writes

theorem foldl_sum {α : Type} (f : α → Int) (xs : List α) (n : Int) :
    xs.foldl (fun len x => len + f x) n = n + (xs.map f).sum := by
  induction xs generalizing n with
  | nil => simp
  | cons x xs ih => rw [List.foldl_cons, ih, List.map_cons, List.sum_cons, add_assoc]

theorem flatMap_surplus {α : Type} (enc : α → Bytes) (counted surplus : α → Int)
    (h : ∀ x, ((enc x).length : Int) = counted x - surplus x) (xs : List α) :
    ((xs.flatMap enc).length : Int) = (xs.map counted).sum - (xs.map surplus).sum := by
  induction xs with
  | nil => rfl
  | cons x xs ih =>
    rw [List.flatMap_cons, List.length_append, List.map_cons, List.map_cons, List.sum_cons,
      List.sum_cons]
    have hx := h x
    omega

theorem serializePublish_writes (buflen : Int) (dup qos retained packetid : Nat)
    (topicName : MQTTString) (payload : Bytes) :
    ∃ header body, Writes buflen (publishLength qos topicName payload.length) topicName.surplus
      (serializePublish buflen dup qos retained packetid topicName payload) header body := by
  have hname := MQTTString.wrote ((Wrote.start.writeChar
    (headerByte PUBLISH dup qos retained)).packetEncodeInt
      (publishLength qos topicName payload.length)) topicName
  have hpacket := (hname.ite (p := 0 < qos) _ fun _ => hname.writeInt packetid).copy payload
  refine ⟨headerByte PUBLISH dup qos retained,
    topicName.bytes ++ (if 0 < qos then writeInt packetid else []) ++ payload, ?_, ?_⟩
  · refine if_congr Iff.rfl rfl ?_
    simpa using hpacket.result
  · have hbytes := topicName.bytes_length
    rw [publishLength]
    split_ifs
    · simp only [List.length_append, writeInt_length]
      omega
    · simp only [List.length_append, List.length_nil]
      omega

theorem serializeSubscribe_writes (buflen : Int) (dup packetid : Nat)
    (requests : List (MQTTString × Nat)) :
    ∃ header body, Writes buflen (subscribeLength requests) (requests.map (·.1.surplus)).sum
      (serializeSubscribe buflen dup packetid requests) header body := by
  have hid := ((Wrote.start.writeChar (headerByte SUBSCRIBE dup 1 0)).packetEncodeInt
    (subscribeLength requests)).writeInt packetid
  have hstep : ∀ r ∈ requests, ∀ w bs, Wrote w bs →
      Wrote ((writeMQTTString w r.1).writeChar (UInt8.ofNat r.2))
        (bs ++ (r.1.bytes ++ [UInt8.ofNat r.2])) := by
    intro r _ w bs h
    rw [← List.append_assoc]
    exact (MQTTString.wrote h r.1).writeChar _
  have hpacket := hid.foldl
    (fun w (r : MQTTString × Nat) => (writeMQTTString w r.1).writeChar (UInt8.ofNat r.2))
    (fun r => r.1.bytes ++ [UInt8.ofNat r.2]) hstep
  refine ⟨headerByte SUBSCRIBE dup 1 0, writeInt packetid ++
    requests.flatMap (fun r => r.1.bytes ++ [UInt8.ofNat r.2]), ?_, ?_⟩
  · refine if_congr Iff.rfl rfl ?_
    simpa using hpacket.result
  · have hrequests := flatMap_surplus (fun r : MQTTString × Nat => r.1.bytes ++ [UInt8.ofNat r.2])
      (fun r => 2 + mqttstrlen r.1 + 1) (·.1.surplus) (by
        intro r
        have hbytes := r.1.bytes_length
        rw [List.length_append, List.length_singleton]
        omega) requests
    rw [subscribeLength, foldl_sum, List.length_append, writeInt_length]
    omega

theorem serializeUnsubscribe_writes (buflen : Int) (dup packetid : Nat)
    (topicFilters : List MQTTString) :
    ∃ header body, Writes buflen (unsubscribeLength topicFilters) (topicFilters.map (·.surplus)).sum
      (serializeUnsubscribe buflen dup packetid topicFilters) header body := by
  have hid := ((Wrote.start.writeChar (headerByte UNSUBSCRIBE dup 1 0)).packetEncodeInt
    (unsubscribeLength topicFilters)).writeInt packetid
  have hstep : ∀ t ∈ topicFilters, ∀ w bs, Wrote w bs →
      Wrote (writeMQTTString w t) (bs ++ t.bytes) := fun t _ _ _ h => MQTTString.wrote h t
  have hpacket := hid.foldl writeMQTTString MQTTString.bytes hstep
  refine ⟨headerByte UNSUBSCRIBE dup 1 0, writeInt packetid ++
    topicFilters.flatMap MQTTString.bytes, ?_, ?_⟩
  · refine if_congr Iff.rfl rfl ?_
    simpa using hpacket.result
  · have hfilters := flatMap_surplus MQTTString.bytes (fun t => 2 + mqttstrlen t)
      (fun t => t.surplus) MQTTString.bytes_length topicFilters
    rw [unsubscribeLength, foldl_sum, List.length_append, writeInt_length]
    omega

def ConnectData.body (options : ConnectData) : Bytes :=
  protocolName options.unsigned ++ connectFlags options.unsigned ::
    writeInt options.keepAliveInterval ++ options.clientID.bytes ++
    (if options.willFlag = true then options.will.topicName.bytes ++ options.will.message.bytes
      else []) ++
    (if options.username.present = true then options.username.bytes else []) ++
    (if options.password.present = true then options.password.bytes else [])

theorem ConnectData.wrote_protocol {w : Writer} {bs : Bytes} (h : Wrote w bs)
    (options : ConnectData) :
    Wrote (if options.mqttVersion = 4 then (w.writeCString [77, 81, 84, 84]).writeChar 4
      else (w.writeCString [77, 81, 73, 115, 100, 112]).writeChar 3)
      (bs ++ protocolName options.unsigned) := by
  rw [protocolName, show options.unsigned.mqttVersion = options.mqttVersion from rfl]
  split_ifs
  · rw [← List.append_assoc]
    exact (h.writeCString _).writeChar 4
  · rw [← List.append_assoc]
    exact (h.writeCString _).writeChar 3

theorem protocolName_length (options : ConnectData) :
    ((protocolName options.unsigned).length : Int) + 3 =
      (if options.mqttVersion = 3 then 12 else if options.mqttVersion = 4 then 10 else 0) -
        versionSurplus options.mqttVersion := by
  rw [protocolName, versionSurplus, show options.unsigned.mqttVersion = options.mqttVersion from rfl]
  by_cases h3 : options.mqttVersion = 3
  · rw [h3]
    rfl
  · by_cases h4 : options.mqttVersion = 4
    · rw [h4]
      rfl
    · rw [if_neg h4, if_neg h3, if_neg h4, if_neg (by omega)]
      rfl

theorem ConnectData.body_length (options : ConnectData) :
    (options.body.length : Int) = connectLength options - (Call.connect options).surplus := by
  have hprotocol := protocolName_length options
  have hclientID := options.clientID.bytes_length
  have htopicName := options.will.topicName.bytes_length
  have hmessage := options.will.message.bytes_length
  have husername := options.username.bytes_length
  have hpassword := options.password.bytes_length
  have hwill : ((if options.willFlag = true then
      options.will.topicName.bytes ++ options.will.message.bytes else []).length : Int) =
        (if options.willFlag = true then
          mqttstrlen options.will.topicName + 2 + mqttstrlen options.will.message + 2 else 0) -
        (if options.willFlag = true then
          options.will.topicName.surplus + options.will.message.surplus else 0) := by
    split_ifs
    · rw [List.length_append]
      omega
    · rfl
  have hoptional (s : MQTTString) (hs : (s.bytes.length : Int) = 2 + mqttstrlen s - s.surplus) :
      ((if s.present = true then s.bytes else []).length : Int) =
        (if s.present = true then mqttstrlen s + 2 else 0) -
          (if s.present = true then s.surplus else 0) := by
    split_ifs
    · omega
    · rfl
  have huser := hoptional options.username husername
  have hpass := hoptional options.password hpassword
  simp only [ConnectData.body, connectLength, Call.surplus, List.length_append, List.length_cons,
    writeInt_length]
  omega

theorem serializeConnect_writes (buflen : Int) (options : ConnectData) :
    ∃ header body, Writes buflen (connectLength options) (Call.connect options).surplus
      (serializeConnect buflen options) header body := by
  have hprotocol := options.wrote_protocol
    ((Wrote.start.writeChar (headerByte CONNECT 0 0 0)).packetEncodeInt (connectLength options))
  have hclient := MQTTString.wrote ((hprotocol.writeChar (connectFlags options.unsigned)).writeInt
    options.keepAliveInterval) options.clientID
  have hwill := hclient.ite (p := options.willFlag = true)
    (options.will.topicName.bytes ++ options.will.message.bytes)
    fun _ => by
      rw [← List.append_assoc]
      exact MQTTString.wrote (MQTTString.wrote hclient options.will.topicName) options.will.message
  have husername := hwill.ite (p := options.username.present = true) _
    fun _ => MQTTString.wrote hwill options.username
  have hpacket := husername.ite (p := options.password.present = true) _
    fun _ => MQTTString.wrote husername options.password
  refine ⟨headerByte CONNECT 0 0 0, options.body, ?_, options.body_length⟩
  refine if_congr Iff.rfl rfl ?_
  simpa [ConnectData.body] using hpacket.result

theorem Call.writes (buflen : Int) (call : Call) :
    ∃ header body, Writes buflen call.remLen call.surplus (call.run buflen) header body := by
  cases call with
  | connect options => exact serializeConnect_writes buflen options
  | publish dup qos retained packetid topicName payload =>
    exact serializePublish_writes buflen dup qos retained packetid topicName payload
  | subscribe dup packetid requests => exact serializeSubscribe_writes buflen dup packetid requests
  | unsubscribe dup packetid topicFilters =>
    exact serializeUnsubscribe_writes buflen dup packetid topicFilters

theorem remainingLength_agrees_iff (buflen : Int) (call : Call) :
    Framed call.remLen (call.run buflen) ↔ buflen < packetLen call.remLen ∨ call.surplus = 0 := by
  obtain ⟨header, body, hwrites⟩ := call.writes buflen
  exact hwrites.framed_iff

def bothSet : MQTTString := ⟨some [0x61, 0x62], 1, some [0x63]⟩

def bothSetPublish : Call := .publish 0 0 0 0 bothSet []

-- the remaining length is 4, and 3 bytes follow it
theorem remainingLength_disagrees :
    bothSetPublish.run 10 = (5, [(0, 0x30), (1, 4), (2, 0), (3, 1), (4, 0x63)]) ∧
      ¬Framed bothSetPublish.remLen (bothSetPublish.run 10) := by
  refine ⟨by decide, ?_⟩
  rintro (hshort | ⟨header, body, hbytes, hlength⟩)
  · exact absurd hshort (by decide)
  · have hcount := congrArg List.length hbytes
    have hfield : (encodeInt bothSetPublish.remLen).length = 1 := by decide
    have hremaining : bothSetPublish.remLen = 4 := by decide
    rw [show (bothSetPublish.run 10).2.length = 5 from by decide, indexed, List.length_map,
      List.length_range, List.length_append, List.length_cons, hfield] at hcount
    omega

end Signed

end MbedMqtt
