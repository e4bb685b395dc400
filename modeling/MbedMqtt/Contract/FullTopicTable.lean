import MbedMqtt.Gateway.PublishHandler

namespace MbedMqtt.MQTTSNGW

namespace Topics

variable {topics : Topics} {name : TopicName}

def Holds (topics : Topics) (name : TopicName) : Prop :=
  (topics.getTopicByName name).isSome = true ∨ ¬MAX_TOPIC_PAR_CLIENT ≤ topics.cnt

theorem add_eq_none_iff : (topics.add .normal name).2 = none ↔ ¬topics.Holds name := by
  rw [Holds, add, if_neg (by simp)]
  cases hknown : topics.getTopicByName name with
  | some topic => simp
  | none =>
    rcases Classical.em (MAX_TOPIC_PAR_CLIENT ≤ topics.cnt) with hfull | hroom
    · simp [addId_full hfull, hfull]
    · have hsome : (topics.addId name 0).2.isSome := addId_isSome hroom
      obtain ⟨topic, htopic⟩ := Option.isSome_iff_exists.mp hsome
      simp [htopic, hroom]

end Topics

def served (client : Client) : Bool := client.isActive || client.isAwake

-- no null `Topic` is used, and a name that cannot be stored is refused
def RegisterHandled (client : Client) (data : Option SNRegister) : Prop :=
  ∃ handled, MQTTSNPublishHandler.handleRegister client data = some handled ∧
    (served client = true → ∀ register ∈ data,
      (client.topics.add .normal register.topicName).2 = none →
        ∃ id rc, rc ≠ MQTTSN_RC_ACCEPTED ∧
          handled.clientSend = [.regack (some ⟨id, register.msgId, rc⟩)])

def addsTopic (client : Client) (pub : Publish) : Prop :=
  served client = true ∧ 2 < pub.topiclen ∧ client.topics.getTopicByName pub.name = none ∧
    client.topics.matchTopic .normal pub.name ≠ none

def PublishHandled (client : Client) (packet : MQTTGWPacket) : Prop :=
  ∃ handled, MQTTGWPublishHandler.handlePublish client packet = some handled ∧
    (addsTopic client packet.getPUBLISH →
      (client.topics.add .normal packet.getPUBLISH.name).2 = none →
        handled.clientSend = [] ∧ handled.client.topics = client.topics)

section Handlers

variable {client : Client}

theorem handleRegister_isSome_iff (data : Option SNRegister) :
    (MQTTSNPublishHandler.handleRegister client data).isSome = true ↔
      (served client = true → ∀ register ∈ data, client.topics.Holds register.topicName) := by
  cases data with
  | none => simp [MQTTSNPublishHandler.handleRegister]
  | some register =>
    simp only [MQTTSNPublishHandler.handleRegister, served, Option.mem_some_iff, forall_eq']
    split_ifs with hserved
    · have hnone := @Topics.add_eq_none_iff client.topics register.topicName
      rcases hadd : client.topics.add .normal register.topicName with ⟨topics, _ | topic⟩
      · rw [hadd] at hnone
        simpa [hserved] using hnone
      · rw [hadd] at hnone
        simpa [hserved] using hnone
    · simp [hserved]

theorem registerHandled_iff (data : Option SNRegister) :
    RegisterHandled client data ↔
      (served client = true → ∀ register ∈ data, client.topics.Holds register.topicName) := by
  rw [← handleRegister_isSome_iff]
  constructor
  · rintro ⟨handled, h, -⟩
    rw [h]
    rfl
  · intro h
    obtain ⟨handled, hhandled⟩ := Option.isSome_iff_exists.mp h
    refine ⟨handled, hhandled, fun hserved register hdata hnone => ?_⟩
    exact absurd ((handleRegister_isSome_iff data).mp h hserved register hdata)
      (Topics.add_eq_none_iff.mp hnone)

theorem handleAwake_isSome_iff (pub : Publish) :
    (MQTTGWPublishHandler.handleAwake client pub).isSome = true ↔
      (2 < pub.topiclen ∧ client.topics.getTopicByName pub.name = none ∧
        client.topics.matchTopic .normal pub.name ≠ none → client.topics.Holds pub.name) := by
  rw [MQTTGWPublishHandler.handleAwake]
  split_ifs with hshort
  · exact iff_of_true rfl fun hadds => absurd hadds.1 (Nat.not_lt.mpr hshort)
  have hlong : 2 < pub.topiclen := Nat.lt_of_not_le hshort
  cases hname : client.topics.getTopicByName pub.name with
  | some tp => simp
  | none =>
    cases hmatch : client.topics.matchTopic .normal pub.name with
    | none => simp
    | some filter =>
      have hnone := @Topics.add_eq_none_iff client.topics pub.name
      rcases hadd : client.topics.add .normal pub.name with ⟨topics, _ | topic⟩
      · rw [hadd] at hnone
        simpa [hlong] using hnone
      · rw [hadd] at hnone
        refine iff_of_true ?_ fun _ => not_not.mp (mt hnone.mpr (by simp))
        simp only
        split_ifs <;> rfl

theorem handlePublish_isSome_iff (packet : MQTTGWPacket) :
    (MQTTGWPublishHandler.handlePublish client packet).isSome = true ↔
      (addsTopic client packet.getPUBLISH → client.topics.Holds packet.getPUBLISH.name) := by
  rw [MQTTGWPublishHandler.handlePublish, addsTopic, served, Client.isActive, Client.isSleep,
    Client.isAwake]
  cases hstatus : client.status with
  | active | awake => simpa using handleAwake_isSome_iff packet.getPUBLISH
  | asleep | disconnected | tryConnecting | connecting | lost => simp

theorem publishHandled_iff (packet : MQTTGWPacket) :
    PublishHandled client packet ↔
      (addsTopic client packet.getPUBLISH → client.topics.Holds packet.getPUBLISH.name) := by
  rw [← handlePublish_isSome_iff]
  constructor
  · rintro ⟨handled, h, -⟩
    rw [h]
    rfl
  · intro h
    obtain ⟨handled, hhandled⟩ := Option.isSome_iff_exists.mp h
    refine ⟨handled, hhandled, fun hadds hnone => ?_⟩
    exact absurd ((handlePublish_isSome_iff packet).mp h hadds) (Topics.add_eq_none_iff.mp hnone)

theorem full_table_handled (client : Client) (data : Option SNRegister) (packet : MQTTGWPacket) :
    (RegisterHandled client data ↔
      (served client = true → ∀ register ∈ data, client.topics.Holds register.topicName)) ∧
    (PublishHandled client packet ↔
      (addsTopic client packet.getPUBLISH → client.topics.Holds packet.getPUBLISH.name)) :=
  ⟨registerHandled_iff data, publishHandled_iff packet⟩

end Handlers

def nameOf (n : Nat) : TopicName := ⟨[116, 111, 112, UInt8.ofNat n], by simp⟩

-- the table that REGISTERs of `n` different names leave
def registeredTopics (n : Nat) : Topics :=
  (List.range n).foldl (fun topics i => (topics.add .normal (nameOf (i + 1))).1) .initial

theorem fullTable_not_handled :
    let client := { Client.initial .regular [99] (registeredTopics 50) with status := .active }
    ¬RegisterHandled client (some ⟨0, 1, nameOf 51⟩) := by
  intro client
  rw [registerHandled_iff]
  intro h
  have hfull : ¬client.topics.Holds (nameOf 51) := by
    rw [← Topics.add_eq_none_iff]
    decide +kernel
  exact hfull (h rfl ⟨0, 1, nameOf 51⟩ rfl)

end MbedMqtt.MQTTSNGW
