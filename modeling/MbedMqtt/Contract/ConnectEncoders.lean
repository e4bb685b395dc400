import MbedMqtt.Contract.ConnectCodec
import MbedMqtt.Gateway.Buffer
import MbedMqtt.Gateway.ConnectionHandler

namespace MbedMqtt.MQTTSNGW

-- what handleConnect and handleWilltopic leave in a `Connect`
structure Connect.Filled (connect : Connect) : Prop where
  version : connect.version = 3 ∨ connect.version = 4
  willQoS : connect.will = false → connect.willQoS = .QOS0
  willRetain : connect.will = false → connect.willRetain = false

theorem prepareConnect_filled {gw : Gateway} {client : Client} {data : SNConnect}
    (h : gw.mqttVersion = 3 ∨ gw.mqttVersion = 4) :
    (MQTTSNConnectionHandler.prepareConnect gw client data).connectData.Filled := by
  simp only [MQTTSNConnectionHandler.prepareConnect]
  split_ifs <;> exact ⟨h, fun _ => rfl, fun _ => rfl⟩

def cStringIf (present : Bool) (text : Bytes) : MQTTString :=
  if present then .ofCString text else .initializer

def Connect.options (connect : Connect) (username password : Bytes) : ConnectData where
  mqttVersion := connect.version
  clientID := .ofCString connect.clientID
  keepAliveInterval := connect.keepAliveTimer
  cleansession := connect.cleanstart
  willFlag := connect.will
  will := ⟨.ofCString connect.willTopic, .ofCString connect.willMsg, connect.willRetain.toNat,
    connect.willQoS.toInt⟩
  username := cStringIf connect.username username
  password := cStringIf connect.password password

section CStrings

variable {present : Bool} {text : Bytes}

@[simp] theorem cStringIf_present : (cStringIf present text).present = present := by
  cases present <;> rfl

theorem cStringIf_single : (cStringIf present text).Single := by
  cases present with
  | false => exact ⟨fun _ => ⟨rfl, rfl⟩, fun _ => Nat.le_refl 0⟩
  | true => exact single_ofCString text

theorem optionalString_cStringIf :
    optionalString present (cStringIf present text) = if present then writeCString text else [] := by
  cases present <;> rfl

end CStrings

section Encoders

variable {connect : Connect} {username password : Bytes}

theorem Connect.Filled.single (h : connect.Filled) :
    ConnectSingle (connect.options username password) where
  version := h.version
  clientID := single_ofCString _
  topicName := single_ofCString _
  message := single_ofCString _
  username := cStringIf_single
  password := cStringIf_single

theorem Connect.Filled.flags (h : connect.Filled) :
    connectFlags (connect.options username password) = connect.flags := by
  have hqos : connect.willQoS.toInt % 4 = connect.willQoS.toInt :=
    Nat.mod_eq_of_lt connect.willQoS.toInt_lt
  have hretain : connect.willRetain.toNat % 2 = connect.willRetain.toNat :=
    Nat.mod_eq_of_lt connect.willRetain.toNat_lt
  simp only [connectFlags, Connect.options, Connect.flags, cStringIf_present, hqos, hretain]
  cases hwill : connect.will with
  | true => simp [Nat.add_assoc]
  | false => simp [h.willQoS hwill, h.willRetain hwill, QoS.toInt]

theorem protocolName_options (h : connect.Filled) :
    protocolName (connect.options username password) = MQTTGWPacket.protocol connect.version := by
  rcases h.version with hversion | hversion <;>
    simp [protocolName, Connect.options, hversion, MQTTGWPacket.protocol]

theorem setCONNECT_data (h : connect.Filled) :
    (MQTTGWPacket.setCONNECT connect (some username) (some password)).data =
      connectBody (connect.options username password) := by
  rw [connectBody, connectFields, h.flags, protocolName_options h]
  simp only [MQTTGWPacket.setCONNECT, if_pos h.version, willBytes, Connect.options,
    cStringIf_present, optionalString_cStringIf, text_ofCString, Option.getD_some,
    List.cons_append, List.append_assoc]
  rfl

theorem setCONNECT_remainingLength (h : connect.Filled) :
    (MQTTGWPacket.setCONNECT connect (some username) (some password)).remainingLength =
      (connectBody (connect.options username password)).length := by
  rw [connectBody_length h.single]
  obtain ⟨cleanstart, will, willQoS, willRetain, hasPassword, hasUsername, clientID, willTopic,
    willMsg, keepAliveTimer, version⟩ := connect
  obtain rfl | rfl : version = 3 ∨ version = 4 := h.version
  all_goals
    simp only [connectLength, Connect.options, MQTTGWPacket.setCONNECT, cStringIf_present]
    cases will <;> cases hasUsername <;> cases hasPassword <;>
      simp [writeCString_length, mqttstrlen, MQTTString.ofCString, cStringIf] <;> omega

theorem setCONNECT_getPacketData (h : connect.Filled) :
    (MQTTGWPacket.setCONNECT connect (some username) (some password)).getPacketData =
      framed (headerByte CONNECT 0 0 0) (connectBody (connect.options username password)) := by
  rw [MQTTGWPacket.getPacketData, setCONNECT_data h, setCONNECT_remainingLength h,
    Int.toNat_natCast, List.take_length]
  rfl

theorem connect_encoders_agree (buflen : Nat) (h : connect.Filled)
    (hfits : (serializeConnect buflen (connect.options username password)).1 ≠
      MQTTPACKET_BUFFER_TOO_SHORT) :
    (MQTTGWPacket.setCONNECT connect (some username) (some password)).getPacketData =
      (serializeConnect buflen (connect.options username password)).2 := by
  rw [setCONNECT_getPacketData h]
  rw [serializeConnect_framed buflen h.single] at hfits ⊢
  split_ifs at hfits ⊢ with hshort
  · exact absurd rfl hfits
  · rfl

end Encoders

theorem connect_encoders_agree_will :
    let connect : Connect :=
      ⟨true, true, .QOS1, true, false, true, [97], [116], [109], 60, 4⟩
    (MQTTGWPacket.setCONNECT connect (some [117]) (some [])).getPacketData =
      (serializeConnect 100 (connect.options [117] [])).2 :=
  connect_encoders_agree 100 ⟨.inr rfl, by decide, by decide⟩ (by decide)

end MbedMqtt.MQTTSNGW
