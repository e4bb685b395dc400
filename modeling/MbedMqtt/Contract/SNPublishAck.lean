import MbedMqtt.Network.Script
import MbedMqtt.SNClient.Commands
import MbedMqtt.SNClient.Wait

namespace MbedMqtt.MQTTSN

open MQTTSNGW

variable {σ τ κ : Type}

-- PUBACK is none of the types that `MQTTSNDeserialize_ack` lets through
theorem puback_rejected {cfg : Config} {c : Client τ} {packet : Bytes}
    (h : Arrived cfg c MQTTSN_PUBACK packet) :
    ((deserializeAck cfg.maxPacketSize).value (c.memory cfg)).accepted = none := by
  have htype : isAck (c.memory cfg (lengthFieldSize (c.memory cfg))) = false := by
    rw [h.type]
    rfl
  simp only [deserializeAck, deserialize, Fetch.value_bind, h.decodes]
  split_ifs
  · simp only [Fetch.value_bind, Fetch.value_item, htype]
    rfl
  · rfl

def Failed (s : Session) (r : Outcome σ τ κ) : Prop :=
  r.rc = FAILURE ∧ r.client.isconnected = false ∧ r.client.inflightMsgid = s.inflightMsgid

theorem disconnectOnFailure_failed {s : Session} {r : Outcome σ τ κ} (hrc : r.rc = FAILURE)
    (hs : r.client.toSession = s) : Failed s (disconnectOnFailure r) := by
  have hne : r.rc ≠ SUCCESS := by rw [hrc]; decide
  have hid : r.client.inflightMsgid = s.inflightMsgid := congrArg Session.inflightMsgid hs
  rw [disconnectOnFailure, if_pos hne]
  exact ⟨hrc, rfl, hid⟩

variable [DatagramNetwork σ] [Timer τ κ]

theorem publishAck_fails (cfg : Config) (c : Client τ) (w : World σ κ) (timer : τ) :
    (publishAck cfg (waitfor cfg c w MQTTSN_PUBACK.toNat timer)).rc = FAILURE ∧
      (publishAck cfg (waitfor cfg c w MQTTSN_PUBACK.toNat timer)).client.toSession =
        c.toSession := by
  obtain ⟨ev, -, hsession, -, hresult⟩ := waitfor_wait cfg c w (.inr (.inl rfl)) timer
  rw [publishAck]
  rcases hresult with ⟨hmissed, -⟩ | ⟨hfound, pre, packet, -, -, harrived⟩
  · rw [if_neg hmissed]
    exact ⟨rfl, hsession⟩
  · rw [if_pos hfound, puback_rejected harrived]
    exact ⟨rfl, hsession⟩

theorem publishLen_fails {cfg : Config} (hqos1 : cfg.qos1 = true) (c : Client τ) (w : World σ κ)
    (len : Nat) (timer : τ) : Failed c.toSession (publishLen cfg c w len timer .QOS1) := by
  obtain ⟨⟨t, hclient⟩, -, hrc⟩ := sendPacket_sends c w len timer
  have hsession : (sendPacket c w len timer).client.toSession = c.toSession := by rw [hclient]
  unfold publishLen
  simp only
  split_ifs with hfailed hwaits
  · exact disconnectOnFailure_failed (hrc.resolve_left hfailed) hsession
  · obtain ⟨hack, hs⟩ := publishAck_fails cfg (sendPacket c w len timer).client
      (sendPacket c w len timer).world timer
    exact disconnectOnFailure_failed hack (hs.trans hsession)
  · exact absurd ⟨hqos1, trivial⟩ hwaits

theorem publish_fitting {cfg : Config} (hqos1 : cfg.qos1 = true) {c : Client τ} (w : World σ κ)
    {topic : TopicId} {payload : Bytes} (id : Nat) {retained : Bool} (hconnected : c.isconnected = true)
    (hfit : 0 < (MQTTSNGW.serializePublish cfg.maxPacketSize
      ⟨false, .QOS1, retained, UInt16.ofNat (getNext c.packetid), topic, payload⟩).rc) :
    ∃ c' len, (publish cfg c w topic payload id .QOS1 retained).toOutcome =
        publishLen cfg c' w.tick len (w.countdownMs c.commandTimeoutMs) .QOS1 ∧
      c'.inflightMsgid = if c.cleansession then c.inflightMsgid else getNext c.packetid := by
  have hid : c.publishId cfg id .QOS1 = getNext c.packetid := by simp [Session.publishId, hqos1]
  have hnumbered : c.numberedFor cfg .QOS1 = c.numbered := by simp [Session.numberedFor, hqos1]
  simp only [publish, hconnected, not_true_eq_false, if_false, hid, hnumbered, hfit.not_ge]
  refine ⟨_, _, rfl, ?_⟩
  cases hclean : c.cleansession
  · simp [Client.storeInflight, Session.numbered, Session.stored, hqos1, hclean]
  · simp [Client.storeInflight, Session.numbered, hclean]

def Completes (r : Outcome σ τ κ) : Prop :=
  r.rc = SUCCESS ∧ r.client.isconnected = true ∧ r.client.inflightMsgid = 0

theorem publish_qos1_never_completes (cfg : Config) (hqos1 : cfg.qos1 = true) (c : Client τ)
    (w : World σ κ) (topic : TopicId) (payload : Bytes) (id : Nat) (retained : Bool)
    (hconnected : c.isconnected = true)
    (hfit : 0 < (MQTTSNGW.serializePublish cfg.maxPacketSize
      ⟨false, .QOS1, retained, UInt16.ofNat (getNext c.packetid), topic, payload⟩).rc) :
    let r := (publish cfg c w topic payload id .QOS1 retained).toOutcome
    ¬Completes r ∧ r.rc = FAILURE ∧ r.client.isconnected = false ∧
      r.client.inflightMsgid = if c.cleansession then c.inflightMsgid else getNext c.packetid := by
  obtain ⟨c', len, hpublish, hinflight⟩ := publish_fitting hqos1 w id hconnected hfit
  obtain ⟨hrc, hdisconnected, hkept⟩ :=
    publishLen_fails hqos1 c' w.tick len (w.countdownMs c.commandTimeoutMs)
  simp only [hpublish]
  exact ⟨fun h => absurd (hrc.symm.trans h.1) (by decide), hrc, hdisconnected, hkept.trans hinflight⟩

def puback : Bytes := [7, MQTTSN_PUBACK, 0, 5, 0, 1, 0]

def publishing : Client OracleTimer :=
  { Client.construct (.standard .qos1) 30000 .oracle 0 false with isconnected := true }

theorem publish_qos1_never_completes_first :
    let r := (publish (.standard .qos1) publishing (.answered [puback] 9) ⟨.normal, .id 5⟩ [42] 0
      .QOS1 false).toOutcome
    ¬Completes r ∧ r.rc = FAILURE ∧ r.client.isconnected = false ∧ r.client.inflightMsgid = 1 :=
  publish_qos1_never_completes (.standard .qos1) rfl publishing (.answered [puback] 9)
    ⟨.normal, .id 5⟩ [42] 0 false rfl (by decide)

theorem puback_received_not_completed :
    let w := World.answered [puback] 9
    let r := publish (.standard .qos1) publishing w ⟨.normal, .id 5⟩ [42] 0 .QOS1 false
    r.id = 1 ∧ heard (w.since r.world) = [(MQTTSN_PUBACK, puback)] ∧
      (deserializePuback puback.length).value (memoryOf 0 puback) = ⟨1, some ⟨5, 1, 0⟩⟩ ∧
      ¬Completes r.toOutcome := by
  refine ⟨by decide, by decide, by decide, fun h => ?_⟩
  exact absurd h.1 (by decide)

end MbedMqtt.MQTTSN
