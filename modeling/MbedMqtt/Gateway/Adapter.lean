import MbedMqtt.Gateway.PacketHandleTask

namespace MbedMqtt.MQTTSNGW

abbrev QOSM1_PROXY_KEEPALIVE_DURATION : UInt16 := 900
abbrev QOSM1_PROXY_MAX_RETRY_CNT : Nat := 3

inductive AdapterType where
  | qosm1Proxy
  | aggregater
  deriving DecidableEq, Repr

inductive Channel where
  | plain
  | secure
  deriving DecidableEq, Repr

structure Timeup where
  response : Bool
  keepAlive : Bool
  deriving DecidableEq, Repr

structure Proxy where
  suspendedPacketEventQue : List Event
  isWaitingResp : Bool
  retryCnt : Nat
  deriving DecidableEq, Repr

namespace Proxy

def initial : Proxy := ⟨[], false, 0⟩

def connects (client : Client) (timeup : Timeup) : Bool :=
  client.status = .disconnected || (client.status = .connecting && timeup.response)

def pings (proxy : Proxy) (client : Client) (timeup : Timeup) : Bool :=
  (client.isActive && timeup.keepAlive) || (proxy.isWaitingResp && timeup.response)

def checkConnection (proxy : Proxy) (timeup : Timeup) (c : Nat) (client : Client) :
    Proxy × Client × List Event :=
  if connects client timeup then
    (proxy, client.connectSended,
      [.clientRecv c (.connect (some ⟨true, false, QOSM1_PROXY_KEEPALIVE_DURATION⟩))])
  else if proxy.pings client timeup then
    let retryCnt := proxy.retryCnt + 1
    ({ proxy with isWaitingResp := true, retryCnt := retryCnt },
      if retryCnt > QOSM1_PROXY_MAX_RETRY_CNT then client.disconnected else client,
      [.clientRecv c .pingreq])
  else (proxy, client, [])

def recv (proxy : Proxy) : MQTTSNPacket → Proxy × List Event
  | .connack rc =>
      if rc = MQTTSN_RC_ACCEPTED then
        ({ proxy with suspendedPacketEventQue := [], retryCnt := 0 }, proxy.suspendedPacketEventQue)
      else (proxy, [])
  | .pingresp => ({ proxy with isWaitingResp := false, retryCnt := 0 }, [])
  | _ => (proxy, [])

def savePacket (proxy : Proxy) (c : Nat) (packet : MQTTSNPacket) : Proxy :=
  { proxy with
    suspendedPacketEventQue := proxy.suspendedPacketEventQue ++ [.clientRecv c packet] }

end Proxy

structure Adapter where
  client : Nat
  clientSecure : Nat
  proxy : Proxy
  proxySecure : Proxy
  isSecure : Bool
  deriving DecidableEq, Repr

namespace Adapter

def setup (hasSecureConnection : Bool) (client clientSecure : Nat) : Adapter where
  client := client
  clientSecure := clientSecure
  proxy := .initial
  proxySecure := .initial
  isSecure := hasSecureConnection

def clientOf (adapter : Adapter) : Channel → Nat
  | .plain => adapter.client
  | .secure => adapter.clientSecure

def proxyOf (adapter : Adapter) : Channel → Proxy
  | .plain => adapter.proxy
  | .secure => adapter.proxySecure

def setProxy (adapter : Adapter) (proxy : Proxy) : Channel → Adapter
  | .plain => { adapter with proxy := proxy }
  | .secure => { adapter with proxySecure := proxy }

def getAdapterClient (adapter : Adapter) (isSecureNetwork : Bool) : Nat :=
  if isSecureNetwork then adapter.client else adapter.client

def savePacket (adapter : Adapter) (isSecureNetwork : Bool) (c : Nat) (packet : MQTTSNPacket) :
    Adapter :=
  if isSecureNetwork then { adapter with proxySecure := adapter.proxySecure.savePacket c packet }
  else { adapter with proxy := adapter.proxy.savePacket c packet }

def selected (adapter : Adapter) (isSecureNetwork : Bool) : Option Channel :=
  if isSecureNetwork && !adapter.isSecure then
    if adapter.isSecure then some .secure else none
  else some .plain

def recv (adapter : Adapter) (packet : MQTTSNPacket) (channel : Channel) : Adapter × List Event :=
  let received := (adapter.proxyOf channel).recv packet
  (adapter.setProxy received.1 channel, received.2)

structure Wiring where
  client : Nat
  clientSecure : Nat
  isSecure : Bool
  deriving DecidableEq, Repr

def wiring (adapter : Adapter) : Wiring := ⟨adapter.client, adapter.clientSecure, adapter.isSecure⟩

@[simp] theorem setProxy_wiring (adapter : Adapter) (proxy : Proxy) (channel : Channel) :
    (adapter.setProxy proxy channel).wiring = adapter.wiring := by
  cases channel <;> rfl

@[simp] theorem savePacket_wiring (adapter : Adapter) (isSecureNetwork : Bool) (c : Nat)
    (packet : MQTTSNPacket) :
    (adapter.savePacket isSecureNetwork c packet).wiring = adapter.wiring := by
  unfold savePacket
  split_ifs <;> rfl

theorem getAdapterClient_eq (adapter : Adapter) (isSecureNetwork : Bool) :
    adapter.getAdapterClient isSecureNetwork = adapter.client := ite_self _

theorem selected_plain {adapter : Adapter} (h : adapter.isSecure = true) (isSecureNetwork : Bool) :
    adapter.selected isSecureNetwork = some .plain := by
  simp [selected, h]

end Adapter

end MbedMqtt.MQTTSNGW
