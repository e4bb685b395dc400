import MbedMqtt.Network.Script
import MbedMqtt.SNClient.Commands
import MbedMqtt.SNClient.Wait

namespace MbedMqtt.MQTTSN

open MQTTSNGW

variable {σ τ κ : Type} [DatagramNetwork σ] [Timer τ κ]

-- the PUBACK, PUBREC or REGACK that `cycle` answers a packet with, and the state it sends it in
inductive Acknowledges (cfg : Config) (c : Client τ) (w : World σ κ) :
    Nat → Client τ → World σ κ → Serialized → Prop
  | register {fields : RegisterFields Slice}
      (hfields : ((deserializeRegister cfg.maxPacketSize).value (c.memory cfg)).accepted =
        some fields) :
      Acknowledges cfg c w MQTTSN_REGISTER.toNat c w
        (serializeRegack cfg.maxPacketSize (UInt16.ofNat fields.topicid)
          (UInt16.ofNat fields.packetid) 0)
  | publish {fields : PublishFields Slice} {topic : TopicId} {msg : Message}
      (hfields : ((deserializePublish cfg.bitsSigned cfg.maxPacketSize).value
        (c.memory cfg)).accepted = some fields)
      (htopic : fields.topicid cfg (c.memory cfg) = topic)
      (hmsg : fields.message (c.memory cfg) = msg) (hbuild : cfg.qos1 = true)
      (hqos : msg.qos = .QOS1 ∨ msg.qos = .QOS2) :
      Acknowledges cfg c w MQTTSN_PUBLISH.toNat (cycleDeliver cfg c w topic msg).client
        (cycleDeliver cfg c w topic msg).world (publishReply cfg topic msg)

def SendFails (c : Client τ) (w : World σ κ) (reply : Serialized) (timer : τ) : Prop :=
  reply.rc ≤ 0 ∨
    (sendPacket (c.fillSendbuf reply.written) w reply.rc.toNat timer).rc = FAILURE

inductive CycleFails (cfg : Config) (c : Client τ) (w : World σ κ) (timer : τ) : Prop
  | read (hrc : (readPacket cfg c w).rc = FAILURE)
  | send {c' : Client τ} {w' : World σ κ} {reply : Serialized}
      (hreply : Acknowledges cfg (readPacket cfg c w).client (readPacket cfg c w).world
        (toUnsignedShort (readPacket cfg c w).rc) c' w' reply)
      (hsend : SendFails c' w' reply timer)

-- the states in which `yield` calls `cycle`
inductive YieldCycles (cfg : Config) (timer : τ) :
    Client τ → World σ κ → Client τ → World σ κ → Prop
  | here {c : Client τ} {w : World σ κ} (hexpired : ¬w.expired timer = true) :
      YieldCycles cfg timer c w c w.tick
  | later {c c' : Client τ} {w w' : World σ κ} (hexpired : ¬w.expired timer = true)
      (hrc : (cycle cfg c w.tick timer).rc ≠ FAILURE)
      (hrest : YieldCycles cfg timer (cycle cfg c w.tick timer).client
        (cycle cfg c w.tick timer).world c' w') : YieldCycles cfg timer c w c' w'

theorem cycleReply_fails {c : Client τ} {w : World σ κ} {reply : Serialized} {timer : τ}
    (h : SendFails c w reply timer) : (cycleReply c w reply timer).rc = 255 := by
  simp only [cycleReply]
  split_ifs with hlen
  · rfl
  · exact congrArg toUnsignedChar (h.resolve_left hlen)

theorem cycleSwitch_fails {cfg : Config} {packetType : Nat} {c c' : Client τ} {w w' : World σ κ}
    {reply : Serialized} {timer : τ} (hreply : Acknowledges cfg c w packetType c' w' reply)
    (hsend : SendFails c' w' reply timer) : (cycleSwitch cfg packetType c w timer).rc = 255 := by
  cases hreply with
  | register hfields =>
    rw [cycleSwitch, if_neg (by decide), if_pos rfl, cycleRegister, hfields]
    exact cycleReply_fails hsend
  | @publish fields topic msg hfields htopic hmsg hbuild hqos =>
    have hanswered : msg.qos ≠ .QOS0 := by
      rcases hqos with h | h <;> rw [h] <;> decide
    rw [cycleSwitch, if_neg (by decide), if_neg (by decide), if_pos rfl]
    simp only [cyclePublish, hfields, hbuild, if_true, htopic, hmsg, if_pos hanswered]
    exact cycleReply_fails hsend

-- FAILURE becomes 65535 as an unsigned short and 255 as an unsigned char
theorem cycle_fails_rc {cfg : Config} {c : Client τ} {w : World σ κ} {timer : τ}
    (h : CycleFails cfg c w timer) : (cycle cfg c w timer).rc = 255 := by
  have hrc : (cycle cfg c w timer).rc = _ := cycleExit_rc _ _
  rw [cycleKeepalive_rc] at hrc
  cases h with
  | read hread =>
    rw [hrc, hread, cycleSwitch_failure, if_pos rfl]
    rfl
  | send hreply hsend =>
    rw [hrc, cycleSwitch_fails hreply hsend]
    rfl

theorem cycle_ne_failure (cfg : Config) (c : Client τ) (w : World σ κ) (timer : τ) :
    (cycle cfg c w timer).rc ≠ FAILURE := by
  obtain ⟨ev, hturn⟩ := cycle_turn cfg c w timer
  simp only [FAILURE]
  rcases hturn.result with ⟨-, hrc⟩ | ⟨type, packet, -, -, hrc | ⟨-, hrc⟩⟩ <;> omega

theorem yieldLoop_success (cfg : Config) (timer : τ) (fuel : Nat) (c : Client τ) (w : World σ κ) :
    (yieldLoop cfg timer fuel c w).rc = SUCCESS := by
  induction fuel generalizing c w with
  | zero => rfl
  | succ fuel ih =>
    simp only [yieldLoop]
    split_ifs with hexpired hfailed
    · rfl
    · exact absurd hfailed (cycle_ne_failure cfg c w.tick timer)
    · exact ih _ _

theorem failures_reported_iff (cfg : Config) (c : Client τ) (w : World σ κ) :
    (∀ timer : τ, (CycleFails cfg c w timer → (cycle cfg c w timer).rc = FAILURE) ↔
      ¬CycleFails cfg c w timer) ∧
    ∀ timeoutMs : Nat,
      let timer : τ := w.countdownMs timeoutMs
      ((∃ c' w', YieldCycles cfg timer c w.tick c' w' ∧ CycleFails cfg c' w' timer) →
        (yield cfg c w timeoutMs).rc = FAILURE) ↔
      ¬∃ c' w', YieldCycles cfg timer c w.tick c' w' ∧ CycleFails cfg c' w' timer := by
  constructor
  · intro timer
    constructor
    · intro hreports hfails
      have hrc := cycle_fails_rc hfails
      rw [hreports hfails] at hrc
      exact absurd hrc (by decide)
    · intro hfine hfails
      exact absurd hfails hfine
  · intro timeoutMs timer
    constructor
    · intro hreports hfails
      have hrc : (yield cfg c w timeoutMs).rc = SUCCESS := yieldLoop_success cfg timer _ c w.tick
      rw [hreports hfails] at hrc
      exact absurd hrc (by decide)
    · intro hfine hfails
      exact absurd hfails hfine

def polling : Client OracleTimer := Client.construct (.standard .qos1) 30000 .oracle 0 false

theorem failures_unreported :
    let w := World.answered [] 3
    (cycle (.standard .qos1) polling w .oracle).rc = 255 ∧
    ¬(CycleFails (.standard .qos1) polling w .oracle →
      (cycle (.standard .qos1) polling w .oracle).rc = FAILURE) ∧
    (yield (.standard .qos1) polling w 1000).rc = SUCCESS ∧
    ¬((∃ c' w', YieldCycles (.standard .qos1) .oracle polling w.tick c' w' ∧
        CycleFails (.standard .qos1) c' w' .oracle) →
      (yield (.standard .qos1) polling w 1000).rc = FAILURE) := by
  have hread : (readPacket (.standard .qos1) polling (.answered [] 3)).rc = FAILURE := by decide
  have hagain : (readPacket (.standard .qos1) polling (World.answered [] 3).tick.tick).rc =
      FAILURE := by decide
  refine ⟨by decide, fun h => ?_, by decide, fun h => ?_⟩
  · exact absurd (h (.read hread)) (by decide)
  · exact absurd (h ⟨_, _, .here (by decide), .read hagain⟩) (by decide)

end MbedMqtt.MQTTSN
