import MbedMqtt.SNPacket.Connect

namespace MbedMqtt.MQTTSN

open MQTTSNGW

section ClientId

variable {clientID : MQTTString}

theorem mqttsnstrlen_single (h : clientID.Single) :
    mqttsnstrlen clientID = clientID.text.length := h.strlen

theorem writeMQTTSNString_single (h : clientID.Single) :
    writeMQTTSNString clientID =
      if clientID.cstring = none then clientID.text else writeCString clientID.text := by
  obtain ⟨cstring, len, data⟩ := clientID
  cases cstring with
  | some text =>
    obtain ⟨rfl, -⟩ : len = 0 ∧ data = none := h.cstring rfl
    rfl
  | none =>
    simp only [writeMQTTSNString, MQTTString.text, if_true]
    split_ifs with hpos
    · rfl
    · obtain rfl : len = 0 := by omega
      rfl

end ClientId

section Wire

variable {mem : Int → UInt8} {type : UInt8} {front : Bytes} {clientID : MQTTString} {length : Nat}

theorem lengthField_eq_iff (hsingle : clientID.Single)
    (hlength : length = front.length + 1 + mqttsnstrlen clientID)
    (hmem : LaidOut mem 0 (wire type length (front ++ writeMQTTSNString clientID))) :
    lengthField mem = (wire type length (front ++ writeMQTTSNString clientID)).length ↔
      clientID.cstring = none ∧ length ≠ 255 ∧ snPacketLen length ≤ 65535 := by
  obtain ⟨-, hfield⟩ := lengthField_wire (by omega) hmem
  have htotal := total_eq_snPacketLen length
  have hlarger : snPacketLen length ≤ lengthSize length + length := by
    rw [snPacketLen, lengthSize, snPacketLen]
    split_ifs <;> omega
  rw [mqttsnstrlen_single hsingle] at hlength
  simp only [hfield, wire, List.length_append, snPacketEncode_length, List.length_cons,
    writeMQTTSNString_single hsingle]
  split_ifs with hform
  · simp only [hform, true_and]
    rw [← htotal]
    omega
  · simp only [hform, false_and, iff_false, writeCString_length]
    omega

theorem framed_of_lengthField (hsingle : clientID.Single)
    (hlength : length = front.length + 1 + mqttsnstrlen clientID)
    (hmem : LaidOut mem 0 (wire type length (front ++ writeMQTTSNString clientID)))
    (hform : clientID.cstring = none) (hlong : length ≠ 255) (hmax : snPacketLen length ≤ 65535) :
    ∃ lenlen : Int, lenlen ≤ snPacketLen length ∧
      Framed mem type (front ++ clientID.text) lenlen (snPacketLen length) ∧
      lenlen + 1 + front.length + clientID.text.length = snPacketLen length := by
  rw [writeMQTTSNString_single hsingle, if_pos hform] at hmem
  rw [mqttsnstrlen_single hsingle] at hlength
  have htotal := (total_eq_snPacketLen length).mpr hlong
  exact ⟨lengthSize length, by omega, framed_wire (by omega) hmax hmem, by omega⟩

end Wire

def connectView (options : ConnectData) : ConnectFields (Option Bytes) :=
  ⟨options.cleansession.toNat, options.willFlag.toNat, options.duration.toNat,
    some options.clientID.text⟩

theorem readConnect_laidOut {mem : Int → UInt8} {curdata enddata : Int} {cstring : Option Bytes}
    {options : ConnectData} {text : Bytes} (type : UInt8)
    (h : LaidOut mem curdata
      ((flagsByte 0 options.cleansession.toNat options.willFlag.toNat 0 0 0 ::
        MQTTSN_PROTOCOL_VERSION :: writeInt options.duration.toNat) ++ text))
    (hend : curdata + 4 + text.length = enddata) :
    ((readConnect cstring type curdata enddata).value mem).map (ConnectFields.map (readBytes mem)) =
      some ⟨options.cleansession.toNat, options.willFlag.toNat, options.duration.toNat,
        some text⟩ := by
  rw [List.cons_append, List.cons_append, LaidOut.cons, LaidOut.cons, writeInt_append_laidOut,
    Int.add_assoc, Int.add_assoc] at h
  obtain ⟨hflags, hversion, (hduration : LaidOut mem (curdata + 2) _),
    (htext : LaidOut mem (curdata + 4) text)⟩ := h
  have hclean : options.cleansession.toNat % 2 = options.cleansession.toNat := by
    cases options.cleansession <;> rfl
  have hwill : options.willFlag.toNat % 2 = options.willFlag.toNat := by
    cases options.willFlag <;> rfl
  simp only [readConnect, Fetch.value_bind, Fetch.value_item, hversion,
    if_true, Fetch.value_pure, hflags, flagsCleanSession_flagsByte, flagsWill_flagsByte, hclean,
    hwill, readInt_uint16 hduration, Option.map_some, ConnectFields.map,
    readMQTTSNString_laidOut htext hend]

def ConnectRoundTrips (buflen : Nat) (options : ConnectData) : Prop :=
  RoundTrips (serializeConnect buflen options) fun mem rc =>
    rc ≤ buflen ∧ lengthField mem = rc ∧
      ∀ cstring, Returns mem (ConnectFields.map (readBytes mem)) (connectView options)
        (deserializeConnect cstring rc)

def PingreqRoundTrips (buflen : Nat) (clientid : MQTTString) : Prop :=
  RoundTrips (serializePingreq buflen clientid) fun mem rc =>
    rc ≤ buflen ∧ lengthField mem = rc ∧
      ∀ cstring, Returns mem (readBytes mem) (some clientid.text) (deserializePingreq cstring rc)

def RoundTripCondition (buflen length : Nat) (clientID : MQTTString) : Prop :=
  buflen < snPacketLen length ∨
    clientID.cstring = none ∧ length ≠ 255 ∧ snPacketLen length ≤ 65535

section RoundTrip

variable {buflen length : Nat} {type : UInt8} {clientID : MQTTString}
variable {reads : (Int → UInt8) → Int → Prop}

theorem roundTrips_iff (front : Bytes) (hsingle : clientID.Single)
    (hlength : length = front.length + 1 + mqttsnstrlen clientID)
    (hreads : ∀ (mem : Int → UInt8) (lenlen : Int), lenlen ≤ snPacketLen length →
      Framed mem type (front ++ clientID.text) lenlen (snPacketLen length) →
      lenlen + 1 + front.length + clientID.text.length = snPacketLen length →
      reads mem (snPacketLen length)) :
    RoundTrips (serialize buflen type length (front ++ writeMQTTSNString clientID))
        (fun mem rc => rc ≤ buflen ∧ lengthField mem = rc ∧ reads mem rc) ↔
      RoundTripCondition buflen length clientID := by
  refine roundTrips_serialize_iff fun hfit mem hmem => ?_
  have hfield := lengthField_eq_iff hsingle hlength hmem
  constructor
  · rintro ⟨-, h, -⟩
    exact hfield.mp h
  · intro hcondition
    obtain ⟨hform, hlong, hmax⟩ := hcondition
    have hrc := hfield.mpr ⟨hform, hlong, hmax⟩
    obtain ⟨lenlen, hle, hframed, hend⟩ :=
      framed_of_lengthField hsingle hlength hmem hform hlong hmax
    have hvalue := (lengthField_wire (by omega) hmem).2
    rw [Nat.mod_eq_of_lt (by omega)] at hvalue
    rw [← hrc, hvalue]
    exact ⟨by omega, rfl, hreads mem lenlen hle hframed hend⟩

end RoundTrip

theorem hasBytes_of_le {n lenlen field buflen : Int} (h : lenlen + n ≤ field) :
    hasBytes n ⟨lenlen, field⟩ buflen = true := by
  simp only [hasBytes, decide_eq_true_eq]
  omega

theorem connectRoundTrips_iff (buflen : Nat) {options : ConnectData}
    (hsingle : options.clientID.Single) :
    ConnectRoundTrips buflen options ↔
      RoundTripCondition buflen (5 + mqttsnstrlen options.clientID) options.clientID := by
  refine roundTrips_iff (flagsByte 0 options.cleansession.toNat options.willFlag.toNat 0 0 0 ::
    MQTTSN_PROTOCOL_VERSION :: writeInt options.duration.toNat) hsingle rfl ?_
  intro mem lenlen hle hframed hend cstring
  simp only [List.length_cons, writeInt_length] at hend
  exact hframed.returns hle (hasBytes_of_le (by omega)) rfl
    (readConnect_laidOut _ hframed.body (by omega))

theorem pingreqRoundTrips_iff (buflen : Nat) {clientid : MQTTString} (hsingle : clientid.Single) :
    PingreqRoundTrips buflen clientid ↔
      RoundTripCondition buflen (mqttsnstrlen clientid + 1) clientid := by
  refine roundTrips_iff [] hsingle (by rw [List.length_nil]; omega) ?_
  intro mem lenlen hle hframed hend cstring
  simp only [List.length_nil, List.nil_append] at hend hframed
  exact hframed.returns hle (hasBytes_of_le (by omega)) rfl
    (readString_laidOut _ hframed.body (by omega))

theorem connect_and_pingreq_roundTrip (buflen : Nat) :
    (∀ options : ConnectData, options.clientID.Single →
      (ConnectRoundTrips buflen options ↔
        RoundTripCondition buflen (5 + mqttsnstrlen options.clientID) options.clientID)) ∧
    (∀ clientid : MQTTString, clientid.Single →
      (PingreqRoundTrips buflen clientid ↔
        RoundTripCondition buflen (mqttsnstrlen clientid + 1) clientid)) :=
  ⟨fun _ => connectRoundTrips_iff buflen, fun _ => pingreqRoundTrips_iff buflen⟩

theorem connect_and_pingreq_roundTrip_lenString :
    ConnectRoundTrips 20 ⟨.ofLenString [97, 98], 60, true, false⟩ :=
  ((connect_and_pingreq_roundTrip 20).1 _ (single_ofLenString _)).mpr
    (.inr ⟨rfl, by decide, by decide⟩)

theorem connect_cstring_not_roundTrip :
    ¬ConnectRoundTrips 20 ⟨.ofCString [97, 98], 60, true, false⟩ := by
  rw [connectRoundTrips_iff 20 (single_ofCString _), RoundTripCondition]
  rintro (hshort | ⟨hform, -⟩)
  · exact absurd hshort (by decide)
  · cases hform

end MbedMqtt.MQTTSN
