import MbedMqtt.Gateway.Client

namespace MbedMqtt.MQTTSNGW

def sendStoredPublish (client : Client) : Handled :=
  { Handled.unchanged { client with
      clientSleepPacketQue := { client.clientSleepPacketQue with items := [] } } with
    packetEvents := client.clientSleepPacketQue.items }

namespace MQTTSNConnectionHandler

def cleanSession (client : Client) : Client :=
  { client with
    waitedPubTopicIdMap := .initial
    waitedSubTopicIdMap := .initial
    topics := client.topics.eraseNormal
    sessionStatus := true }

def prepareConnect (gw : Gateway) (client : Client) (data : SNConnect) : Client :=
  let client := if client.isAdapter then client else client.disconnected
  let login := gw.loginId.isSome && gw.password.isSome
  let client := { client with
    connectData := { Connect.zero with
      clientID := client.clientId
      version := gw.mqttVersion
      keepAliveTimer := data.duration.toNat
      will := data.willFlag
      password := login
      username := login
      cleanstart := data.cleansession }
    sessionStatus := false }
  if data.cleansession then cleanSession client else client

def handleConnect (gw : Gateway) (client : Client) : Option SNConnect → Handled
  | none => .unchanged client
  | some data =>
      if client.isSleep || client.isAwake then
        { sendStoredPublish client with clientSend := [.connack MQTTSN_RC_ACCEPTED] }
      else
        let client := prepareConnect gw client data
        if data.willFlag then .toClient client .willtopicreq
        else .toBroker client (.setCONNECT client.connectData gw.loginId gw.password)

def handleWilltopic (client : Client) : Option SNWilltopic → Handled
  | none => .unchanged client
  | some data =>
      .toClient
        { client with
          connectData := { client.connectData with
            willTopic := cStr data.topic
            willQoS := data.qos
            willRetain := data.retain }
          waitWillMsgFlg := true }
        .willmsgreq

def handleWillmsg (gw : Gateway) (client : Client) (data : Option Bytes) : Handled :=
  if !client.waitWillMsgFlg then .unchanged client
  else if client.isConnectSendable then
    match data with
    | none => .unchanged client
    | some willmsg =>
        let connectData := { client.connectData with willMsg := cStr willmsg }
        .toBroker { client with connectData := connectData, waitWillMsgFlg := false }
          (.setCONNECT connectData gw.loginId gw.password)
  else .unchanged client

def handleDisconnect (client : Client) (duration : UInt16) : Handled :=
  { Handled.toClient client (.disconnect 0) with
    brokerSend := if duration = 0 then [.setHeader DISCONNECT] else [] }

def handleWillmsgupd (client : Client) : Handled :=
  .toClient client (.willmsgresp MQTTSN_RC_NOT_SUPPORTED)

def holdsPing (client : Client) : Bool :=
  (client.isSleep || client.isAwake) && !client.clientSleepPacketQue.items.isEmpty

def holdPing (client : Client) : Handled :=
  sendStoredPublish { client with holdPingRequest := true }

def handlePingreq (client : Client) : Handled :=
  if holdsPing client then holdPing client
  else .toBroker { client with holdPingRequest := false } (.setHeader PINGREQ)

end MQTTSNConnectionHandler

namespace MQTTSNAggregateConnectionHandler

open MQTTSNConnectionHandler

def handleConnect (client : Client) : Option SNConnect → Handled
  | none => .unchanged client
  | some data =>
      if client.isSleep || client.isAwake then
        { sendStoredPublish client with clientSend := [.connack MQTTSN_RC_ACCEPTED] }
      else
        let client := { client.disconnected with connectData := .zero, sessionStatus := false }
        let client := if data.cleansession then cleanSession client else client
        if data.willFlag then .toClient client .willtopicreq
        else
          { sendStoredPublish (client.connackSended MQTTSN_RC_ACCEPTED) with
            clientSend := [.connack MQTTSN_RC_ACCEPTED] }

def handleWillmsg (client : Client) (data : Option Bytes) : Handled :=
  if !client.waitWillMsgFlg then .unchanged client
  else if client.isConnectSendable then
    match data with
    | none => .unchanged client
    | some _ => { sendStoredPublish client with clientSend := [.connack MQTTSN_RC_ACCEPTED] }
  else .unchanged client

def handleDisconnect (client : Client) : Handled := .toClient client (.disconnect 0)

def handlePingreq (client : Client) : Handled :=
  if holdsPing client then holdPing client
  else
    { Handled.unchanged { client with holdPingRequest := false } with
      packetEvents := [.setHeader PINGRESP] }

end MQTTSNAggregateConnectionHandler

namespace MQTTGWConnectionHandler

abbrev MQTT_SERVER_UNAVAILABLE : Nat := 3

def returnCode : UInt8 → Nat
  | 0 => MQTTSN_RC_ACCEPTED
  | 1 => MQTTSN_RC_NOT_SUPPORTED
  | 2 => MQTTSN_RC_NOT_SUPPORTED
  | 3 => MQTTSN_RC_REJECTED_CONGESTED
  | 4 => MQTTSN_RC_NOT_SUPPORTED
  | 5 => MQTTSN_RC_NOT_SUPPORTED
  | _ => MQTT_SERVER_UNAVAILABLE

def handleConnack (client : Client) (packet : MQTTGWPacket) : Handled :=
  let rc := returnCode packet.getCONNACK
  .toClient (client.connackSended rc) (.connack rc)

def handlePingresp (client : Client) : Handled :=
  .toClient (client.updateStatus .pingresp) .pingresp

end MQTTGWConnectionHandler

end MbedMqtt.MQTTSNGW
