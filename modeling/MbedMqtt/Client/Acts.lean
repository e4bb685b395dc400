import MbedMqtt.Library.Chain
import MbedMqtt.Client.Commands

namespace MbedMqtt

theorem message_qos2 {header : UInt8} {body tail : Bytes} {fields : PublishFields} (g : Nat)
    (hf : deserializePublish (framed header body ++ tail) = some fields) :
    (fields.message g).qos = .QOS2 ↔ headerQoS header = 2 := by
  obtain ⟨-, hqos, -⟩ := deserializePublish_eq_some hf
  rw [byteAt_framed] at hqos
  rw [PublishFields.message, QoS.ofInt_eq_QOS2, hqos]

inductive Delivers (cfg : Config) (s : Session) (topicName : MQTTString) (msg : Message) :
    List Event → Session → Prop
  | plain (handlers : List Nat) (h : ¬(cfg.qos2 = true ∧ msg.qos = .QOS2)) :
      Delivers cfg s topicName msg [.delivered topicName msg handlers] s
  | fresh (handlers : List Nat) (hq : cfg.qos2 = true) (h2 : msg.qos = .QOS2)
      (hnew : msg.id ∉ s.incomingQoS2messages) (hroom : 0 ∈ s.incomingQoS2messages) :
      Delivers cfg s topicName msg [.delivered topicName msg handlers]
        { s with incomingQoS2messages := (useQoS2msgid s.incomingQoS2messages msg.id).2 }
  | duplicate (hq : cfg.qos2 = true) (h2 : msg.qos = .QOS2)
      (hold : msg.id ∈ s.incomingQoS2messages) : Delivers cfg s topicName msg [] s
  | overflow (hq : cfg.qos2 = true) (h2 : msg.qos = .QOS2)
      (hnew : msg.id ∉ s.incomingQoS2messages) (hfull : 0 ∉ s.incomingQoS2messages) :
      Delivers cfg s topicName msg [] s

inductive Replies (msg : Message) : List Event → Prop
  | silent : Replies msg []
  | puback (h : msg.qos = .QOS1) : Replies msg [.sent (ackPacket PUBACK msg.id)]
  | pubrec (h : msg.qos = .QOS2) : Replies msg [.sent (ackPacket PUBREC msg.id)]
  | noPuback (h : msg.qos = .QOS1) : Replies msg [.unsent (ackPacket PUBACK msg.id)]
  | noPubrec (h : msg.qos = .QOS2) : Replies msg [.unsent (ackPacket PUBREC msg.id)]

def Unread (header : UInt8) (body : Bytes) : Prop :=
  headerType header = PUBLISH →
    body.length < 268435456 ∧ ∃ tail, deserializePublish (framed header body ++ tail) = none

inductive CycleAct (cfg : Config) : Session → List Event → Session → Prop
  | heard (s : Session) {header : UInt8} {body : Bytes} (h : Unread header body) :
      CycleAct cfg s [.received header body] s
  | publish {s s' : Session} {header : UInt8} {body tail : Bytes} {fields : PublishFields}
      {g : Nat} {dev reply : List Event} (hb : body.length < 268435456)
      (hf : deserializePublish (framed header body ++ tail) = some fields)
      (hd : Delivers cfg s fields.topicName (fields.message g) dev s')
      (hr : Replies (fields.message g) reply) :
      CycleAct cfg s (.received header body :: (dev ++ reply)) s'
  | pubrec {s : Session} {header : UInt8} {body : Bytes} (id : Nat)
      (ht : headerType header = PUBREC) :
      CycleAct cfg s [.received header body, .sent (ackPacket PUBREL id)] s
  | unanswered {s : Session} {header : UInt8} {body : Bytes} {packettype : Nat} (id : Nat)
      (hh : headerType header = PUBREC ∨ headerType header = PUBREL)
      (ht : packettype = PUBREL ∨ packettype = PUBCOMP) :
      CycleAct cfg s [.received header body, .unsent (ackPacket packettype id)] s
  | release {s : Session} {header : UInt8} {body : Bytes} {id : Nat}
      (hq : cfg.qos2 = true) (ht : headerType header = PUBREL)
      (hid : 2 ≤ body.length → id = readInt body 0) :
      CycleAct cfg s [.received header body, .sent (ackPacket PUBCOMP id)]
        { s with incomingQoS2messages := freeQoS2msgid s.incomingQoS2messages id }
  | ping (s : Session) : CycleAct cfg s [.sent (headerByte PINGREQ 0 0 0 :: packetEncode 0)] s
  | noPing (s : Session) : CycleAct cfg s [.unsent (headerByte PINGREQ 0 0 0 :: packetEncode 0)] s
  | close (s : Session) : CycleAct cfg s [] (s.close cfg)

variable {σ τ κ : Type} [Network σ] [Timer τ κ]

theorem take_fillSendbuf (c : Client τ) (packet : Bytes) :
    (c.fillSendbuf packet).sendbuf.take packet.length = packet := by
  simp [Client.fillSendbuf, store_zero]

theorem sendPacket_fill (c : Client τ) (w : World σ τ κ) (packet : Bytes) (timer : τ) :
    ∃ t, (sendPacket (c.fillSendbuf packet) w packet.length timer).client =
        { c.fillSendbuf packet with lastSent := t } ∧
      ((sendPacket (c.fillSendbuf packet) w packet.length timer).rc = SUCCESS ∧
          (sendPacket (c.fillSendbuf packet) w packet.length timer).world.log =
            w.log ++ [.sent packet] ∨
        (sendPacket (c.fillSendbuf packet) w packet.length timer).rc = FAILURE ∧
          (sendPacket (c.fillSendbuf packet) w packet.length timer).world.log =
            w.log ++ [.unsent packet]) := by
  have h := sendPacket_cases (c.fillSendbuf packet) w packet.length timer
  rwa [take_fillSendbuf] at h

omit [Network σ] [Timer τ κ] in
theorem cycleDeliver_delivers (cfg : Config) (c : Client τ) (w : World σ τ κ)
    (topicName : MQTTString) (msg : Message) :
    ∃ dev, Delivers cfg c.toSession topicName msg dev
        (cycleDeliver cfg c w topicName msg).client.toSession ∧
      (cycleDeliver cfg c w topicName msg).world.log = w.log ++ dev := by
  unfold cycleDeliver
  split
  · rename_i h2
    split
    · rename_i hfree
      have hnew : msg.id ∉ c.incomingQoS2messages := by
        simpa [isQoS2msgidFree] using hfree
      rcases hstored : (useQoS2msgid c.incomingQoS2messages msg.id).1 with _ | _
      · have hfull : 0 ∉ c.incomingQoS2messages := SlotTable.fill_eq_false.mp hstored
        exact ⟨[], by simpa [hstored] using .overflow h2.1 h2.2 hnew hfull, by simp [hstored]⟩
      · have hroom : 0 ∈ c.incomingQoS2messages := by
          by_contra hn
          have := SlotTable.fill_eq_false (x := msg.id) |>.mpr hn
          simp [useQoS2msgid, this] at hstored
        refine ⟨[.delivered topicName msg (c.invoked topicName)], ?_, ?_⟩
        · simpa [hstored, deliverMessage] using
            Delivers.fresh (c.invoked topicName) h2.1 h2.2 hnew hroom
        · simp [hstored, deliverMessage, Session.invoked]
    · rename_i hfree
      have hold : msg.id ∈ c.incomingQoS2messages := by
        simpa [isQoS2msgidFree] using hfree
      exact ⟨[], .duplicate h2.1 h2.2 hold, by simp⟩
  · rename_i h
    exact ⟨_, .plain (c.invoked topicName) h, rfl⟩

omit [Network σ] [Timer τ κ] in
theorem cycleDeliver_client (cfg : Config) (c : Client τ) (w : World σ τ κ)
    (topicName : MQTTString) (msg : Message) :
    ∃ table, (cycleDeliver cfg c w topicName msg).client =
      { c with incomingQoS2messages := table } := by
  unfold cycleDeliver
  split
  · split
    · simp only
      split
      · exact ⟨_, rfl⟩
      · exact ⟨c.incomingQoS2messages, rfl⟩
    · exact ⟨c.incomingQoS2messages, rfl⟩
  · exact ⟨c.incomingQoS2messages, rfl⟩

def heard (events : List Event) : List (UInt8 × Bytes) :=
  events.filterMap fun
    | .received header body => some (header, body)
    | _ => none

@[simp] theorem heard_nil : heard [] = [] := rfl
@[simp] theorem heard_append (es fs : List Event) : heard (es ++ fs) = heard es ++ heard fs := by
  simp [heard]
@[simp] theorem heard_received (header : UInt8) (body : Bytes) (es : List Event) :
    heard (.received header body :: es) = (header, body) :: heard es := by
  simp [heard]
@[simp] theorem heard_sent (packet : Bytes) (es : List Event) :
    heard (.sent packet :: es) = heard es := by
  simp [heard]
@[simp] theorem heard_unsent (packet : Bytes) (es : List Event) :
    heard (.unsent packet :: es) = heard es := by
  simp [heard]
@[simp] theorem heard_delivered (topicName : MQTTString) (msg : Message) (handlers : List Nat)
    (es : List Event) : heard (.delivered topicName msg handlers :: es) = heard es := by
  simp [heard]

theorem mem_heard {events : List Event} {header : UInt8} {body : Bytes} :
    (header, body) ∈ heard events ↔ .received header body ∈ events := by
  simp only [heard, List.mem_filterMap]
  constructor
  · rintro ⟨e, he, h⟩
    cases e <;> simp at h
    obtain ⟨rfl, rfl⟩ := h
    exact he
  · intro h
    exact ⟨_, h, rfl⟩

theorem Delivers.heard_eq {cfg : Config} {s s' : Session} {topicName : MQTTString} {msg : Message}
    {dev : List Event} (h : Delivers cfg s topicName msg dev s') : heard dev = [] := by
  cases h <;> simp

theorem Delivers.session_eq {cfg : Config} {s s' : Session} {topicName : MQTTString}
    {msg : Message} {dev : List Event} (h : Delivers cfg s topicName msg dev s') :
    ∃ table, s' = { s with incomingQoS2messages := table } := by
  cases h <;> exact ⟨_, rfl⟩

theorem CycleAct.session_cases {cfg : Config} {s t : Session} {ev : List Event}
    (h : CycleAct cfg s ev t) :
    (∃ table, t = { s with incomingQoS2messages := table }) ∨ t = s.close cfg := by
  cases h with
  | publish _ _ hd _ => exact .inl hd.session_eq
  | close => exact .inr rfl
  | _ => exact .inl ⟨_, rfl⟩

end MbedMqtt
