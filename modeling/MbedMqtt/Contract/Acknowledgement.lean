import MbedMqtt.Client.Run
import MbedMqtt.Network.Script

namespace MbedMqtt

namespace Op

def reportsConnection : Op → Bool
  | .yield _ | .publish .. | .subscribe .. | .unsubscribe _ => true
  | _ => false

def ackType : Op → Option Nat
  | .publish _ _ _ .QOS1 _ => some PUBACK
  | .publish _ _ _ .QOS2 _ => some PUBCOMP
  | .subscribe .. => some SUBACK
  | .unsubscribe _ => some UNSUBACK
  | _ => none

def requestId (cfg : Config) (s : Session) : Op → Nat
  | .publish _ _ id qos _ => s.publishId cfg id qos
  | _ => getNext s.packetid

def waitsForAck (cfg : Config) : Op → Bool
  | .publish _ _ _ qos _ => (awaitedAck cfg qos).isSome
  | _ => true

end Op

def carries (id : Nat) (body : Bytes) : Prop := 2 ≤ body.length ∧ readInt body 0 = id

instance (id : Nat) (body : Bytes) : Decidable (carries id body) :=
  inferInstanceAs (Decidable (_ ∧ _))

def Acknowledged (ackType id : Nat) (packets : List (UInt8 × Bytes)) : Prop :=
  ∃ p ∈ packets, headerType p.1 = ackType ∧ carries id p.2

def AcksMatch (ackType id : Nat) (packets : List (UInt8 × Bytes)) : Prop :=
  ∀ p ∈ packets, headerType p.1 = ackType → carries id p.2

instance (ackType id : Nat) (packets : List (UInt8 × Bytes)) :
    Decidable (Acknowledged ackType id packets) :=
  inferInstanceAs (Decidable (∃ p ∈ packets, _))

instance (ackType id : Nat) (packets : List (UInt8 × Bytes)) :
    Decidable (AcksMatch ackType id packets) :=
  inferInstanceAs (Decidable (∀ p ∈ packets, _))

theorem Awaited.acknowledged_iff {ackType : Nat} {packets : List (UInt8 × Bytes)} {header : UInt8}
    {body : Bytes} (h : Awaited ackType packets header body) (id : Nat) :
    Acknowledged ackType id packets ↔ AcksMatch ackType id packets := by
  constructor
  · rintro ⟨p, hp, htype, hid⟩ q hq hqtype
    rw [h.unique hq hqtype, ← h.unique hp htype]
    exact hid
  · intro hall
    exact ⟨(header, body), h.mem, h.1, hall _ h.mem h.1⟩

theorem not_acknowledged_nil (ackType id : Nat) : ¬Acknowledged ackType id [] := by
  rintro ⟨p, hp, -⟩
  cases hp

variable {cfg : Config} {s t : Session} {rc : Int} {ev : List Event}

theorem Publishing.alive {packet : Bytes} {qos : QoS}
    (h : Publishing cfg packet qos s rc ev t) (hrc : rc = SUCCESS) :
    t.isconnected = (s.isconnected && allExpected cfg (heard ev)) := by
  cases h with
  | unsent => cases hrc
  | sent _ => simp [allExpected]
  | acked _ _ _ _ hl => simpa using hl
  | unacked _ _ => cases hrc

theorem Publishes.alive {topicName payload : Bytes} {id : Nat} {qos : QoS} {retained : Bool}
    (h : Publishes cfg s topicName payload id qos retained rc ev t) (hrc : rc = SUCCESS) :
    t.isconnected = (s.isconnected && allExpected cfg (heard ev)) := by
  cases h with
  | refused _ => cases hrc
  | unfit _ _ => cases hrc
  | handed _ _ _ _ hp => simpa using hp.alive hrc

theorem Requests.alive {request : Int × Bytes} {ackType : Nat} {topicFilter : Bytes}
    {mh : Option Nat} (h : Requests cfg request ackType topicFilter mh s rc ev t)
    (hrc : rc = SUCCESS) : t.isconnected = (s.isconnected && allExpected cfg (heard ev)) := by
  cases h with
  | refused _ => cases hrc
  | unfit _ _ => cases hrc
  | unsent _ _ => cases hrc
  | unacked _ _ _ => cases hrc
  | answered _ _ _ _ hl _ _ =>
    subst hrc
    simpa [Session.closeIf] using hl

theorem Runs.alive {op : Op} (h : Runs cfg s op rc ev t) (hop : op.reportsConnection = true)
    (hrc : rc = SUCCESS) : t.isconnected = (s.isconnected && allExpected cfg (heard ev)) := by
  cases h with
  | publish h => exact h.alive hrc
  | subscribe h => exact h.alive hrc
  | unsubscribe h => exact h.alive hrc
  | yield _ hl => exact hl hrc
  | connect _ => cases hop
  | disconnect _ => cases hop
  | setMessageHandler => cases hop
  | setDefaultMessageHandler => cases hop

theorem Requests.acknowledged_iff {request : Int × Bytes} {ackType : Nat} {topicFilter : Bytes}
    {mh : Option Nat} (h : Requests cfg request ackType topicFilter mh s rc ev t)
    (hrc : rc = SUCCESS) (id : Nat) :
    Acknowledged ackType id (heard ev) ↔ AcksMatch ackType id (heard ev) := by
  cases h with
  | refused _ => cases hrc
  | unfit _ _ => cases hrc
  | unsent _ _ => cases hrc
  | unacked _ _ _ => cases hrc
  | answered _ _ _ ha _ _ _ => exact ha.acknowledged_iff id

theorem awaitedAck_ackType {topicName payload : Bytes} {id : Nat} {qos : QoS} {retained : Bool}
    {ackType packetType : Nat} (h : awaitedAck cfg qos = some packetType)
    (hack : (Op.publish topicName payload id qos retained).ackType = some ackType) :
    packetType = ackType := by
  cases qos <;> simp_all [awaitedAck, Op.ackType]

theorem Runs.acknowledged_iff {op : Op} {ackType : Nat} (h : Runs cfg s op rc ev t)
    (hack : op.ackType = some ackType) (hrc : rc = SUCCESS) (id : Nat) :
    Acknowledged ackType id (heard ev) ↔
      op.waitsForAck cfg = true ∧ AcksMatch ackType id (heard ev) := by
  cases h with
  | publish h =>
    cases h with
    | refused _ => cases hrc
    | unfit _ _ => cases hrc
    | handed _ _ _ _ hp =>
      cases hp with
      | unsent => cases hrc
      | sent hnone =>
        simp only [Op.waitsForAck, hnone, Option.isSome_none, Bool.false_eq_true, false_and,
          iff_false]
        exact not_acknowledged_nil ackType id
      | acked _ hsome _ ha _ =>
        cases awaitedAck_ackType hsome hack
        simp only [Op.waitsForAck, hsome, Option.isSome_some, true_and]
        exact ha.acknowledged_iff id
      | unacked _ _ => cases hrc
  | subscribe h =>
    cases hack
    simpa [Op.waitsForAck] using h.acknowledged_iff hrc id
  | unsubscribe h =>
    cases hack
    simpa [Op.waitsForAck] using h.acknowledged_iff hrc id
  | connect _ => cases hack
  | yield _ _ => cases hack
  | disconnect _ => cases hack
  | setMessageHandler => cases hack
  | setDefaultMessageHandler => cases hack

variable {σ τ κ : Type} [Network σ] [Timer τ κ]

theorem success_isconnected_iff (cfg : Config) (c : Client τ) (w : World σ τ κ) (op : Op)
    (hop : op.reportsConnection = true) (hconn : c.isconnected = true)
    (hrc : (op.run cfg c w).rc = SUCCESS) :
    (op.run cfg c w).client.isconnected = true ↔
      ∀ p ∈ heard (w.since (op.run cfg c w).world), expected cfg (headerType p.1) = true := by
  obtain ⟨ev, hlog, hrun⟩ := run_runs cfg c w op
  rw [World.since_eq hlog, hrun.alive hop hrc, hconn, Bool.true_and]
  exact List.all_eq_true

def established (cfg : Config) : Client OracleTimer :=
  ((Op.connect { ConnectData.initializer with keepAliveInterval := 0 }).run cfg
    (.construct cfg 30000 .oracle) (.calm [32, 2, 0, 0] 4)).client

theorem success_isconnected_pingresp :
    ((Op.yield 1000).run (.standard .qos2) (established (.standard .qos2))
        (.calm [208, 0] 3)).rc = SUCCESS ∧
      ((Op.yield 1000).run (.standard .qos2) (established (.standard .qos2))
        (.calm [208, 0] 3)).client.isconnected = true :=
  ⟨by decide, (success_isconnected_iff (.standard .qos2) (established (.standard .qos2))
    (.calm [208, 0] 3) (.yield 1000) rfl (by decide) (by decide)).mpr (by decide)⟩

theorem success_disconnected_pingreq :
    (established (.standard .qos2)).isconnected = true ∧
      ((Op.yield 1000).run (.standard .qos2) (established (.standard .qos2))
        (.calm [192, 0] 3)).rc = SUCCESS ∧
      ((Op.yield 1000).run (.standard .qos2) (established (.standard .qos2))
        (.calm [192, 0] 3)).client.isconnected = false := by
  decide

theorem success_acknowledged_iff (cfg : Config) (c : Client τ) (w : World σ τ κ) (op : Op)
    (ackType : Nat) (hack : op.ackType = some ackType) (hrc : (op.run cfg c w).rc = SUCCESS) :
    Acknowledged ackType (op.requestId cfg c.toSession)
        (heard (w.since (op.run cfg c w).world)) ↔
      op.waitsForAck cfg = true ∧ AcksMatch ackType (op.requestId cfg c.toSession)
        (heard (w.since (op.run cfg c w).world)) := by
  obtain ⟨ev, hlog, hrun⟩ := run_runs cfg c w op
  rw [World.since_eq hlog]
  exact hrun.acknowledged_iff hack hrc _

theorem success_acknowledged_puback :
    ((Op.publish [116] [1] 0 .QOS1 false).run (.standard .qos2) (established (.standard .qos2))
        (.calm [64, 2, 0, 1] 3)).rc = SUCCESS ∧
      Acknowledged PUBACK 1 (heard ((World.calm [64, 2, 0, 1] 3).since
        ((Op.publish [116] [1] 0 .QOS1 false).run (.standard .qos2)
          (established (.standard .qos2)) (.calm [64, 2, 0, 1] 3)).world)) :=
  ⟨by decide, (success_acknowledged_iff (.standard .qos2) (established (.standard .qos2))
    (.calm [64, 2, 0, 1] 3) (.publish [116] [1] 0 .QOS1 false) PUBACK rfl (by decide)).mpr
      (by decide)⟩

theorem success_unacknowledged_puback :
    (Op.publish [116] [1] 0 .QOS1 false).requestId (.standard .qos2)
        (established (.standard .qos2)).toSession = 1 ∧
      ((Op.publish [116] [1] 0 .QOS1 false).run (.standard .qos2) (established (.standard .qos2))
        (.calm [64, 2, 0, 7] 3)).rc = SUCCESS ∧
      ¬Acknowledged PUBACK 1 (heard ((World.calm [64, 2, 0, 7] 3).since
        ((Op.publish [116] [1] 0 .QOS1 false).run (.standard .qos2)
          (established (.standard .qos2)) (.calm [64, 2, 0, 7] 3)).world)) := by
  decide

end MbedMqtt
