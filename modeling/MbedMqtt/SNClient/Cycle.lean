import MbedMqtt.SNClient.Transport

namespace MbedMqtt.MQTTSN

open MQTTSNGW

def Parsed.accepted {α : Type} (parsed : Parsed α) : Option α :=
  if parsed.rc = 1 then parsed.fields else none

def toUnsignedShort (i : Int) : Nat := (i % 65536).toNat

def toUnsignedChar (i : Int) : Int := i % 256

structure Branch (σ τ κ : Type) extends Outcome σ τ κ where
  leave : Bool

def PublishFields.message (fields : PublishFields Slice) (mem : Int → UInt8) : Message where
  qos := .ofInt fields.qos
  retained := fields.retained
  dup := fields.dup.toNat
  id := fields.packetid
  payload := (fields.payload.items mem).getD []
  payloadlen := fields.payload.len

def PublishFields.topicid (cfg : Config) (fields : PublishFields Slice) (mem : Int → UInt8) :
    TopicId :=
  ⟨fields.type, fields.topic.data cfg mem⟩

def publishReply (cfg : Config) (topic : TopicId) (msg : Message) : Serialized :=
  match msg.qos with
  | .QOS1 => serializePuback cfg.maxPacketSize topic.data.idField (UInt16.ofNat msg.id) 0
  | .QOS2 => serializePubrec cfg.maxPacketSize (UInt16.ofNat msg.id)
  | _ => ⟨0, []⟩

section Deliver

variable {σ τ κ : Type}

def cycleDeliver (cfg : Config) (c : Client τ) (w : World σ κ) (topic : TopicId) (msg : Message) :
    Outcome σ τ κ :=
  if cfg.qos2 ∧ msg.qos = .QOS2 then
    if isQoS2msgidFree c.incomingQoS2messages msg.id then
      let (stored, table) := useQoS2msgid c.incomingQoS2messages msg.id
      let c := { c with incomingQoS2messages := table }
      if stored then deliverMessage cfg c w topic msg else ⟨SUCCESS, c, w⟩
    else ⟨SUCCESS, c, w⟩
  else deliverMessage cfg c w topic msg

end Deliver

variable {σ τ κ : Type} [DatagramNetwork σ] [Timer τ κ]

-- `rc` is an unsigned char, so the test `rc == FAILURE` after these sends is never true
def cycleReply (c : Client τ) (w : World σ κ) (reply : Serialized) (timer : τ) : Branch σ τ κ :=
  let c := c.fillSendbuf reply.written
  if reply.rc ≤ 0 then ⟨⟨toUnsignedChar FAILURE, c, w⟩, false⟩
  else
    let r := sendPacket c w reply.rc.toNat timer
    ⟨{ r with rc := toUnsignedChar r.rc }, false⟩

def cycleRegister (cfg : Config) (c : Client τ) (w : World σ κ) (timer : τ) : Branch σ τ κ :=
  match ((deserializeRegister cfg.maxPacketSize).value (c.memory cfg)).accepted with
  | none => ⟨⟨SUCCESS, c, w⟩, true⟩
  | some fields =>
      cycleReply c w (serializeRegack cfg.maxPacketSize (UInt16.ofNat fields.topicid)
        (UInt16.ofNat fields.packetid) 0) timer

-- without QoS 1 and 2 there is no `break`: a PUBLISH is handled as a PINGRESP too
def cyclePublish (cfg : Config) (c : Client τ) (w : World σ κ) (timer : τ) : Branch σ τ κ :=
  let mem := c.memory cfg
  match ((deserializePublish cfg.bitsSigned cfg.maxPacketSize).value mem).accepted with
  | none => ⟨⟨SUCCESS, c, w⟩, true⟩
  | some fields =>
      let topic := fields.topicid cfg mem
      let msg := fields.message mem
      let d := cycleDeliver cfg c w topic msg
      if cfg.qos1 then
        if msg.qos ≠ .QOS0 then cycleReply d.client d.world (publishReply cfg topic msg) timer
        else ⟨⟨SUCCESS, d.client, d.world⟩, false⟩
      else ⟨⟨SUCCESS, { d.client with pingOutstanding := false }, d.world⟩, false⟩

def cyclePubrec (cfg : Config) (c : Client τ) (w : World σ κ) (timer : τ) : Branch σ τ κ :=
  let (rc, ack) := MbedMqtt.deserializeAck w.uninitialised c.readbuf
  let w := w.pop
  if rc ≠ 1 then ⟨⟨toUnsignedChar FAILURE, c, w⟩, false⟩
  else
    let (len, written) := MbedMqtt.serializeAck cfg.maxPacketSize PUBREL 0 ack.packetid
    cycleReply c w ⟨len, written⟩ timer

def isAnswer (packetType : Nat) : Prop :=
  packetType = MQTTSN_CONNACK.toNat ∨ packetType = MQTTSN_PUBACK.toNat ∨
    packetType = MQTTSN_SUBACK.toNat ∨ packetType = MQTTSN_REGACK.toNat

instance (packetType : Nat) : Decidable (isAnswer packetType) :=
  inferInstanceAs (Decidable (_ ∨ _ ∨ _ ∨ _))

def cycleSwitch (cfg : Config) (packetType : Nat) (c : Client τ) (w : World σ κ) (timer : τ) :
    Branch σ τ κ :=
  if isAnswer packetType then ⟨⟨SUCCESS, c, w⟩, false⟩
  else if packetType = MQTTSN_REGISTER.toNat then cycleRegister cfg c w timer
  else if packetType = MQTTSN_PUBLISH.toNat then cyclePublish cfg c w timer
  else if cfg.qos2 ∧ packetType = MQTTSN_PUBREC.toNat then cyclePubrec cfg c w timer
  else if packetType = MQTTSN_PINGRESP.toNat then
    ⟨⟨SUCCESS, { c with pingOutstanding := false }, w⟩, false⟩
  else ⟨⟨SUCCESS, c, w⟩, false⟩

def sendPing (cfg : Config) (c : Client τ) (w : World σ κ) : Outcome σ τ κ :=
  if c.pingOutstanding then ⟨FAILURE, c, w⟩
  else
    let timer := w.countdownMs 1000
    let w := w.tick
    let s := serializePingreq cfg.maxPacketSize .initializer
    let c := c.fillSendbuf s.written
    if 0 < s.rc then
      let r := sendPacket c w s.rc.toNat timer
      if r.rc = SUCCESS then { r with client := { r.client with pingOutstanding := true } } else r
    else ⟨FAILURE, c, w⟩

def keepalive (cfg : Config) (c : Client τ) (w : World σ κ) : Outcome σ τ κ :=
  if c.duration = 0 then ⟨SUCCESS, c, w⟩
  else if w.expired c.lastSent then sendPing cfg c w.tick
  else if w.tick.expired c.lastReceived then sendPing cfg c w.tick.tick
  else ⟨FAILURE, c, w.tick.tick⟩

def cycleKeepalive (cfg : Config) (b : Branch σ τ κ) : Outcome σ τ κ :=
  if b.leave then b.toOutcome else { keepalive cfg b.client b.world with rc := b.rc }

def cycleExit (packetType : Nat) (r : Outcome σ τ κ) : Outcome σ τ κ :=
  if r.rc = SUCCESS then { r with rc := toUnsignedChar packetType } else r

def cycle (cfg : Config) (c : Client τ) (w : World σ κ) (timer : τ) : Outcome σ τ κ :=
  let p := readPacket cfg c w
  let packetType := toUnsignedShort p.rc
  cycleExit packetType (cycleKeepalive cfg (cycleSwitch cfg packetType p.client p.world timer))

def waitforLoop (cfg : Config) (packetType : Int) (timer : τ) :
    Nat → Int → Client τ → World σ κ → Outcome σ τ κ
  | 0, rc, c, w => ⟨rc, c, w⟩
  | fuel + 1, rc, c, w =>
      if w.expired timer then ⟨rc, c, w.tick⟩
      else
        let r := cycle cfg c w.tick timer
        if r.rc ≠ packetType then waitforLoop cfg packetType timer fuel r.rc r.client r.world
        else r

def waitfor (cfg : Config) (c : Client τ) (w : World σ κ) (packetType : Int) (timer : τ) :
    Outcome σ τ κ :=
  waitforLoop cfg packetType timer (w.clock.length + 1) FAILURE c w

-- what a step does besides reading: the session stays, and no packet is read
structure Silent (c : Client τ) (w : World σ κ) (c' : Client τ) (w' : World σ κ) : Prop where
  session : c'.toSession = c.toSession
  readbuf : c'.readbuf = c.readbuf
  log : ∃ ev, w'.log = w.log ++ ev ∧ heard ev = []
  clock : w'.clock.length ≤ w.clock.length

namespace Silent

variable {c c' c'' : Client τ} {w w' w'' : World σ κ}

omit [DatagramNetwork σ] [Timer τ κ]

theorem refl (c : Client τ) (w : World σ κ) : Silent c w c w :=
  ⟨rfl, rfl, ⟨[], by simp, rfl⟩, le_rfl⟩

theorem trans (h : Silent c w c' w') (h' : Silent c' w' c'' w'') : Silent c w c'' w'' := by
  obtain ⟨ev, hlog, hev⟩ := h.log
  obtain ⟨ev', hlog', hev'⟩ := h'.log
  refine ⟨h'.session.trans h.session, h'.readbuf.trans h.readbuf, ⟨ev ++ ev', ?_, ?_⟩,
    h'.clock.trans h.clock⟩
  · rw [hlog', hlog, List.append_assoc]
  · rw [heard_append, hev, hev']
    rfl

theorem tick (c : Client τ) (w : World σ κ) : Silent c w c w.tick :=
  ⟨rfl, rfl, ⟨[], by simp, rfl⟩, by simp [World.tick]⟩

theorem client (w : World σ κ) (hs : c'.toSession = c.toSession) (hr : c'.readbuf = c.readbuf) :
    Silent c w c' w :=
  ⟨hs, hr, ⟨[], by simp, rfl⟩, le_rfl⟩

end Silent

theorem sendPacket_silent (c : Client τ) (w : World σ κ) (length : Nat) (timer : τ) :
    Silent c w (sendPacket c w length timer).client (sendPacket c w length timer).world := by
  obtain ⟨⟨t, hclient⟩, hlog, -⟩ := sendPacket_sends c w length timer
  rw [hclient]
  exact ⟨rfl, rfl, hlog, sendPacket_clock c w length timer⟩

theorem cycleReply_silent (c : Client τ) (w : World σ κ) (reply : Serialized) (timer : τ) :
    Silent c w (cycleReply c w reply timer).client (cycleReply c w reply timer).world := by
  have hfill : Silent c w (c.fillSendbuf reply.written) w := .client w rfl rfl
  unfold cycleReply
  split_ifs
  · exact hfill
  · exact hfill.trans (sendPacket_silent _ w _ timer)

omit [DatagramNetwork σ] [Timer τ κ] in
theorem cycleDeliver_silent (cfg : Config) (c : Client τ) (w : World σ κ) (topic : TopicId)
    (msg : Message) :
    Silent c w (cycleDeliver cfg c w topic msg).client (cycleDeliver cfg c w topic msg).world := by
  have hdeliver (c : Client τ) :
      Silent c w (deliverMessage cfg c w topic msg).client
        (deliverMessage cfg c w topic msg).world :=
    ⟨rfl, rfl, ⟨_, rfl, rfl⟩, le_rfl⟩
  have htable (table : List Nat) : Silent c w { c with incomingQoS2messages := table } w :=
    .client w rfl rfl
  unfold cycleDeliver
  split_ifs with hqos hfree
  · simp only
    split_ifs
    · exact (htable _).trans (hdeliver _)
    · exact htable _
  · exact .refl c w
  · exact hdeliver c

theorem cyclePublish_silent (cfg : Config) (c : Client τ) (w : World σ κ) (timer : τ) :
    Silent c w (cyclePublish cfg c w timer).client (cyclePublish cfg c w timer).world := by
  simp only [cyclePublish]
  cases ((deserializePublish cfg.bitsSigned cfg.maxPacketSize).value (c.memory cfg)).accepted with
  | none => exact .refl c w
  | some fields =>
    have hd := cycleDeliver_silent cfg c w (fields.topicid cfg (c.memory cfg))
      (fields.message (c.memory cfg))
    simp only
    split_ifs
    · exact hd.trans (cycleReply_silent _ _ _ timer)
    · exact hd
    · exact hd.trans (.client _ rfl rfl)

theorem cycleRegister_silent (cfg : Config) (c : Client τ) (w : World σ κ) (timer : τ) :
    Silent c w (cycleRegister cfg c w timer).client (cycleRegister cfg c w timer).world := by
  unfold cycleRegister
  cases ((deserializeRegister cfg.maxPacketSize).value (c.memory cfg)).accepted with
  | none => exact .refl c w
  | some fields => exact cycleReply_silent c w _ timer

theorem cyclePubrec_silent (cfg : Config) (c : Client τ) (w : World σ κ) (timer : τ) :
    Silent c w (cyclePubrec cfg c w timer).client (cyclePubrec cfg c w timer).world := by
  have hpop : Silent c w c w.pop := ⟨rfl, rfl, ⟨[], by simp, rfl⟩, le_rfl⟩
  unfold cyclePubrec
  simp only
  split_ifs
  · exact hpop
  · exact hpop.trans (cycleReply_silent c w.pop _ timer)

theorem cycleSwitch_silent (cfg : Config) (packetType : Nat) (c : Client τ) (w : World σ κ)
    (timer : τ) : Silent c w (cycleSwitch cfg packetType c w timer).client
      (cycleSwitch cfg packetType c w timer).world := by
  unfold cycleSwitch
  split_ifs
  · exact .refl c w
  · exact cycleRegister_silent cfg c w timer
  · exact cyclePublish_silent cfg c w timer
  · exact cyclePubrec_silent cfg c w timer
  · exact .client w rfl rfl
  · exact .refl c w

theorem sendPing_silent (cfg : Config) (c : Client τ) (w : World σ κ) :
    Silent c w (sendPing cfg c w).client (sendPing cfg c w).world := by
  have hfill : Silent c w (c.fillSendbuf (serializePingreq cfg.maxPacketSize .initializer).written)
      w.tick := (Silent.tick c w).trans (.client _ rfl rfl)
  unfold sendPing
  split_ifs with hping
  · exact .refl c w
  simp only
  split_ifs
  · exact (hfill.trans (sendPacket_silent _ _ _ _)).trans (.client _ rfl rfl)
  · exact hfill.trans (sendPacket_silent _ _ _ _)
  · exact hfill

theorem keepalive_silent (cfg : Config) (c : Client τ) (w : World σ κ) :
    Silent c w (keepalive cfg c w).client (keepalive cfg c w).world := by
  have htick := Silent.tick c w
  have htwice := htick.trans (Silent.tick c w.tick)
  unfold keepalive
  split_ifs
  · exact .refl c w
  · exact htick.trans (sendPing_silent cfg c w.tick)
  · exact htwice.trans (sendPing_silent cfg c w.tick.tick)
  · exact htwice

theorem cycleKeepalive_silent (cfg : Config) (b : Branch σ τ κ) :
    Silent b.client b.world (cycleKeepalive cfg b).client (cycleKeepalive cfg b).world := by
  unfold cycleKeepalive
  split_ifs
  · exact .refl b.client b.world
  · exact keepalive_silent cfg b.client b.world

theorem cycle_silent (cfg : Config) (c : Client τ) (w : World σ κ) (timer : τ) :
    Silent (readPacket cfg c w).client (readPacket cfg c w).world (cycle cfg c w timer).client
      (cycle cfg c w timer).world := by
  have hswitch := cycleSwitch_silent cfg (toUnsignedShort (readPacket cfg c w).rc)
    (readPacket cfg c w).client (readPacket cfg c w).world timer
  have hkeep := hswitch.trans (cycleKeepalive_silent cfg _)
  unfold cycle
  simp only [cycleExit]
  split_ifs
  · exact hkeep
  · exact hkeep

end MbedMqtt.MQTTSN
