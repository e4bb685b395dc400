import MbedMqtt.Client.Wait
import MbedMqtt.ClientC.Commands

namespace MbedMqtt.MQTTClientC

-- the types that `cycle` has a case for
def handled (packetType : Nat) : Bool :=
  packetType = 0 || packetType = CONNACK || packetType = PUBLISH || packetType = PUBACK ||
    packetType = PUBREC || packetType = PUBREL || packetType = PUBCOMP || packetType = SUBACK ||
    packetType = UNSUBACK || packetType = PINGRESP

def allHandled (packets : List (UInt8 × Bytes)) : Bool :=
  packets.all fun p => handled (headerType p.1)

@[simp] theorem allHandled_nil : allHandled [] = true := rfl
@[simp] theorem allHandled_append (ps qs : List (UInt8 × Bytes)) :
    allHandled (ps ++ qs) = (allHandled ps && allHandled qs) := by
  simp [allHandled]

-- what a call of sendPacket for `packet` leaves in the log
def Attempt (packet : Bytes) (ev : List Event) : Prop := ev = [.sent packet] ∨ ev = [.unsent packet]

theorem Attempt.heard_eq {packet : Bytes} {ev : List Event} (h : Attempt packet ev) :
    heard ev = [] := by
  rcases h with rfl | rfl
  · rfl
  · rfl

inductive Replied (bufSize : Nat) (msg : Message) : List Event → Prop
  | silent (h : bufSize < 4 ∨ msg.qos ≠ .QOS1 ∧ msg.qos ≠ .QOS2) : Replied bufSize msg []
  | puback {ev : List Event} (hsize : 4 ≤ bufSize) (h : msg.qos = .QOS1)
      (ha : Attempt (ackPacket PUBACK msg.id) ev) : Replied bufSize msg ev
  | pubrec {ev : List Event} (hsize : 4 ≤ bufSize) (h : msg.qos = .QOS2)
      (ha : Attempt (ackPacket PUBREC msg.id) ev) : Replied bufSize msg ev

def answerType (packetType : Nat) : Nat := if packetType = PUBREC then PUBREL else PUBCOMP

inductive Answered (bufSize : Nat) (s : Session) (header : UInt8) (body : Bytes) :
    List Event → Prop
  | publish {tail : Bytes} {fields : PublishFields} {g : Nat} {reply : List Event}
      (hf : deserializePublish (framed header body ++ tail) = some fields)
      (hr : Replied bufSize (fields.message g) reply) :
      Answered bufSize s header body
        (.delivered fields.topicName (fields.message g) (s.invoked fields.topicName) :: reply)
  | unread {tail : Bytes} (ht : headerType header = PUBLISH)
      (hf : deserializePublish (framed header body ++ tail) = none) :
      Answered bufSize s header body []
  | ack {g : Nat} {reply : List Event} (hsize : 4 ≤ bufSize)
      (ht : headerType header = PUBREC ∨ headerType header = PUBREL)
      (hr : Attempt (ackPacket (answerType (headerType header)) (ackId g body)) reply) :
      Answered bufSize s header body reply
  | cramped (hsize : bufSize < 4) (ht : headerType header = PUBREC ∨ headerType header = PUBREL) :
      Answered bufSize s header body []
  | other (h₁ : headerType header ≠ PUBLISH) (h₂ : headerType header ≠ PUBREC)
      (h₃ : headerType header ≠ PUBREL) : Answered bufSize s header body []

theorem Replied.heard_eq {bufSize : Nat} {msg : Message} {ev : List Event}
    (h : Replied bufSize msg ev) : heard ev = [] := by
  cases h with
  | silent => rfl
  | puback _ _ ha => exact ha.heard_eq
  | pubrec _ _ ha => exact ha.heard_eq

theorem Answered.heard_eq {bufSize : Nat} {s : Session} {header : UInt8} {body : Bytes}
    {ev : List Event} (h : Answered bufSize s header body ev) : heard ev = [] := by
  cases h with
  | publish _ hr => simpa using hr.heard_eq
  | ack _ _ hr => exact hr.heard_eq
  | _ => rfl

inductive Pings (s : Session) : List Event → Session → Prop
  | quiet : Pings s [] s
  | sent (h : s.pingOutstanding = false) :
      Pings s [.sent pingreqPacket] { s with pingOutstanding := true }
  | unsent (h : s.pingOutstanding = false) : Pings s [.unsent pingreqPacket] s

theorem Pings.heard_eq {s t : Session} {ev : List Event} (h : Pings s ev t) : heard ev = [] := by
  cases h <;> rfl

theorem Pings.isconnected {s t : Session} {ev : List Event} (h : Pings s ev t) :
    t.isconnected = s.isconnected := by
  cases h <;> rfl

def Session.after (s : Session) (header : UInt8) : Session :=
  if headerType header = PINGRESP then s.ponged else s

@[simp] theorem after_isconnected (s : Session) (header : UInt8) :
    (s.after header).isconnected = s.isconnected := by
  unfold Session.after
  split
  · rfl
  · rfl

inductive TurnAct (bufSize : Nat) (s : Session) : List Event → Session → Prop
  | idle {ev : List Event} {u t : Session} (hp : Pings s ev u) (ht : t = u ∨ t = u.close) :
      TurnAct bufSize s ev t
  | read {header : UInt8} {body : Bytes} {ev₁ ev₂ : List Event} {u t : Session}
      (hb : body.length < 268435456) (ha : Answered bufSize s header body ev₁)
      (hp : Pings (s.after header) ev₂ u) (ht : t = u ∨ t = u.close) :
      TurnAct bufSize s (.received header body :: (ev₁ ++ ev₂)) t

variable {σ τ κ : Type}

section

variable [Network σ] [Timer τ κ]

theorem sendLoop_log (timer : τ) (memory : Nat → UInt8) (length fuel sent : Nat)
    (w : World σ τ κ) : (sendLoop timer memory length fuel sent w).2.log = w.log := by
  induction fuel generalizing sent w with
  | zero => rfl
  | succ fuel ih =>
    simp only [sendLoop]
    split
    · split
      · rfl
      · split
        · rfl
        · rw [ih]
          rfl
    · rfl

theorem sendLoop_clock (timer : τ) (memory : Nat → UInt8) (length fuel sent : Nat)
    (w : World σ τ κ) :
    (sendLoop timer memory length fuel sent w).2.clock.length ≤ w.clock.length := by
  induction fuel generalizing sent w with
  | zero => exact le_rfl
  | succ fuel ih =>
    simp only [sendLoop]
    split
    · split
      · simp [World.tick]
      · split
        · simp [World.tick]
        · exact (ih _ _).trans (by simp [World.tick])
    · exact le_rfl

theorem send_cases (target : Target) (c : Client τ) (w : World σ τ κ) (length : Nat) (timer : τ) :
    ∃ t, (send target c w length timer).client = { c with lastSent := t } ∧
      ((send target c w length timer).rc = SUCCESS ∧
          (send target c w length timer).world.log = w.log ++ [.sent (c.buf.take length)] ∨
        (send target c w length timer).rc = FAILURE ∧
          (send target c w length timer).world.log = w.log ++ [.unsent (c.buf.take length)]) := by
  have hlog := sendLoop_log timer (c.memory target.beyond) length (w.clock.length + 1) 0 w
  simp only [send, sendPacket]
  split
  · exact ⟨_, rfl, .inl ⟨rfl, by simp [hlog]⟩⟩
  · exact ⟨c.lastSent, rfl, .inr ⟨rfl, by simp [hlog]⟩⟩

theorem send_clock (target : Target) (c : Client τ) (w : World σ τ κ) (length : Nat) (timer : τ) :
    (send target c w length timer).world.clock.length ≤ w.clock.length := by
  have hclock := sendLoop_clock timer (c.memory target.beyond) length (w.clock.length + 1) 0 w
  simp only [send, sendPacket, World.record]
  split
  · simp only [World.tick, List.length_tail]
    omega
  · exact hclock

theorem send_fill (target : Target) (c : Client τ) (w : World σ τ κ) (packet : Bytes) (timer : τ) :
    ∃ t, (send target (c.fillBuf packet) w packet.length timer).client =
        { c.fillBuf packet with lastSent := t } ∧
      ((send target (c.fillBuf packet) w packet.length timer).rc = SUCCESS ∧
          (send target (c.fillBuf packet) w packet.length timer).world.log =
            w.log ++ [.sent packet] ∨
        (send target (c.fillBuf packet) w packet.length timer).rc = FAILURE ∧
          (send target (c.fillBuf packet) w packet.length timer).world.log =
            w.log ++ [.unsent packet]) := by
  have h := send_cases target (c.fillBuf packet) w packet.length timer
  rwa [Client.take_fillBuf] at h

structure SwitchSpec (header : UInt8) (body : Bytes) (c : Client τ) (w : World σ τ κ)
    (b : Branch σ τ κ) (ev : List Event) : Prop where
  log : b.world.log = w.log ++ ev
  answered : Answered c.bufSize c.toSession header body ev
  session : b.client.toSession = c.toSession.after header
  bufSize : b.client.bufSize = c.bufSize
  readbuf : b.client.readbuf = c.readbuf
  result : handled (headerType header) = true ∧ (b.rc = SUCCESS ∨ b.rc = FAILURE ∧ b.leave = true) ∨
    handled (headerType header) = false ∧ b.rc = headerType header ∧ b.leave = true

theorem publishReply_cases (bufSize : Nat) (msg : Message) :
    (publishReply bufSize msg).1 ≤ 0 ∧ Replied bufSize msg [] ∨
      ∃ packet, publishReply bufSize msg = ((packet.length : Int), packet) ∧ 0 < packet.length ∧
        ∀ ev, Attempt packet ev → Replied bufSize msg ev := by
  unfold publishReply
  cases hq : msg.qos with
  | QOS0 => exact .inl ⟨by simp, .silent (.inr (by simp [hq]))⟩
  | reserved => exact .inl ⟨by simp, .silent (.inr (by simp [hq]))⟩
  | QOS1 =>
    simp only [serializeAck_eq]
    split
    · rename_i hsize
      exact .inl ⟨by simp, .silent (.inl hsize)⟩
    · rename_i hsize
      exact .inr ⟨_, rfl, by simp [ackPacket_length], fun ev ha => .puback (by omega) hq ha⟩
  | QOS2 =>
    simp only [serializeAck_eq]
    split
    · rename_i hsize
      exact .inl ⟨by simp, .silent (.inl hsize)⟩
    · rename_i hsize
      exact .inr ⟨_, rfl, by simp [ackPacket_length], fun ev ha => .pubrec (by omega) hq ha⟩

theorem after_of_ne {s : Session} {header : UInt8} {packetType : Nat}
    (ht : headerType header = packetType) (h : packetType ≠ PINGRESP) : s.after header = s := by
  rw [Session.after, if_neg (by rwa [ht])]

theorem cyclePublish_spec (target : Target) {header : UInt8} {body tail : Bytes} {c : Client τ}
    (w : World σ τ κ) (timer : τ) (hbuf : c.readbuf = framed header body ++ tail)
    (ht : headerType header = PUBLISH) :
    ∃ ev, SwitchSpec header body c w (cyclePublish target c w timer) ev := by
  have hexp : handled (headerType header) = true := by simp [handled, ht]
  have hafter : c.toSession.after header = c.toSession := after_of_ne ht (by decide)
  unfold cyclePublish
  cases hf : deserializePublish c.readbuf with
  | none =>
    rw [hbuf] at hf
    exact ⟨[], by simp, .unread ht hf, hafter.symm, rfl, rfl, .inl ⟨hexp, .inl rfl⟩⟩
  | some fields =>
    rw [hbuf] at hf
    generalize hmsg : fields.message w.uninitialised = msg
    have hact (reply : List Event) (hr : Replied c.bufSize msg reply) :
        Answered c.bufSize c.toSession header body
          (.delivered fields.topicName msg (c.invoked fields.topicName) :: reply) := by
      subst hmsg
      exact .publish hf hr
    simp only [hmsg]
    split
    · rcases publishReply_cases c.bufSize msg with ⟨hle, hr⟩ | ⟨packet, hp, hpos, hr⟩
      · rw [if_pos hle]
        exact ⟨_, rfl, hact [] hr, hafter.symm, rfl, rfl, .inl ⟨hexp, .inr ⟨rfl, rfl⟩⟩⟩
      · rw [hp, if_neg (by omega)]
        simp only [Int.toNat_natCast]
        obtain ⟨t, hcl, ⟨hrc, hlog⟩ | ⟨hrc, hlog⟩⟩ := send_fill target
          (deliverMessage c w.pop fields.topicName msg).client
          (deliverMessage c w.pop fields.topicName msg).world packet timer
        · refine ⟨_, ?_, hact _ (hr _ (.inl rfl)), ?_, ?_, ?_, .inl ⟨hexp, .inl hrc⟩⟩
          · rw [hlog]
            simp [deliverMessage]
          · rw [hcl, hafter]
            rfl
          · rw [hcl]
            rfl
          · rw [hcl]
            rfl
        · refine ⟨_, ?_, hact _ (hr _ (.inr rfl)), ?_, ?_, ?_,
            .inl ⟨hexp, .inr ⟨hrc, by simp [hrc]⟩⟩⟩
          · rw [hlog]
            simp [deliverMessage]
          · rw [hcl, hafter]
            rfl
          · rw [hcl]
            rfl
          · rw [hcl]
            rfl
    · rename_i hq
      have hq : msg.qos = .QOS0 := not_not.mp hq
      exact ⟨_, rfl, hact [] (.silent (.inr (by simp [hq]))), hafter.symm, rfl, rfl,
        .inl ⟨hexp, .inl rfl⟩⟩

theorem cycleAck_spec (target : Target) {header : UInt8} {body tail : Bytes} {c : Client τ}
    (w : World σ τ κ) (timer : τ) (hbuf : c.readbuf = framed header body ++ tail)
    (hb : body.length < 268435456)
    (ht : headerType header = PUBREC ∨ headerType header = PUBREL) :
    ∃ ev, SwitchSpec header body c w (cycleAck target (headerType header) c w timer) ev := by
  have hexp : handled (headerType header) = true := by
    rcases ht with ht | ht <;> simp [handled, ht]
  have hafter : c.toSession.after header = c.toSession := by
    rcases ht with ht | ht
    · exact after_of_ne ht (by decide)
    · exact after_of_ne ht (by decide)
  have htype : (if ((headerType header : Nat) : Int) = (PUBREC : Nat) then PUBREL else PUBCOMP) =
      answerType (headerType header) := by
    unfold answerType
    norm_cast
  unfold cycleAck
  rw [hbuf, deserializeAck_framed _ _ _ _ hb]
  simp only [htype, serializeAck_eq, ne_eq, not_true_eq_false, if_false]
  by_cases hsize : c.bufSize < 4
  · simp only [hsize, if_true]
    rw [if_pos (by decide)]
    exact ⟨[], by simp, .cramped hsize ht, hafter.symm, rfl, rfl, .inl ⟨hexp, .inr ⟨rfl, rfl⟩⟩⟩
  · simp only [hsize, if_false]
    rw [if_neg (by decide)]
    have hlen : (ackPacket (answerType (headerType header)) (ackId w.uninitialised body)).length =
        Int.toNat 4 := ackPacket_length _ _
    have hsend := send_fill target c w.pop
      (ackPacket (answerType (headerType header)) (ackId w.uninitialised body)) timer
    rw [hlen] at hsend
    obtain ⟨t, hcl, ⟨hrc, hlog⟩ | ⟨hrc, hlog⟩⟩ := hsend
    · rw [if_neg (not_not_intro hrc)]
      refine ⟨_, hlog, .ack (by omega) ht (.inl rfl), ?_, ?_, ?_, .inl ⟨hexp, .inl rfl⟩⟩
      · simp only [hcl, hafter, Client.fillBuf_toSession]
      · simp only [hcl, Client.fillBuf_bufSize]
      · simp only [hcl, Client.fillBuf_readbuf]
    · rw [if_pos (by rw [hrc]; decide)]
      refine ⟨_, hlog, .ack (by omega) ht (.inr rfl), ?_, ?_, ?_, .inl ⟨hexp, .inr ⟨rfl, rfl⟩⟩⟩
      · simp only [hcl, hafter, Client.fillBuf_toSession]
      · simp only [hcl, Client.fillBuf_bufSize]
      · simp only [hcl, Client.fillBuf_readbuf]

theorem cycleSwitch_spec (target : Target) {header : UInt8} {body tail : Bytes} {c : Client τ}
    (w : World σ τ κ) (timer : τ) (hbuf : c.readbuf = framed header body ++ tail)
    (hb : body.length < 268435456) :
    ∃ ev, SwitchSpec header body c w (cycleSwitch target (headerType header) c w timer) ev := by
  have hquiet {packetType : Nat} (ht : headerType header = packetType)
      (h₁ : packetType ≠ PUBLISH) (h₂ : packetType ≠ PUBREC) (h₃ : packetType ≠ PUBREL) :
      Answered c.bufSize c.toSession header body [] :=
    .other (ht ▸ h₁) (ht ▸ h₂) (ht ▸ h₃)
  unfold cycleSwitch
  simp only [Nat.cast_inj, Nat.cast_eq_zero]
  split
  · rename_i h
    have hexp : handled (headerType header) = true := by
      rcases h with h | h | h | h | h <;> simp [handled, h]
    refine ⟨[], by simp, ?_, ?_, rfl, rfl, .inl ⟨hexp, .inl rfl⟩⟩
    · rcases h with h | h | h | h | h <;> exact hquiet h (by decide) (by decide) (by decide)
    · rcases h with h | h | h | h | h <;> exact (after_of_ne h (by decide)).symm
  rename_i hnone
  split
  · rename_i h
    exact cyclePublish_spec target w timer hbuf h
  rename_i hpub
  split
  · rename_i h
    exact cycleAck_spec target w timer hbuf hb h
  rename_i hack
  have hother : Answered c.bufSize c.toSession header body [] :=
    .other hpub (fun h => hack (.inl h)) (fun h => hack (.inr h))
  split
  · rename_i h
    exact ⟨[], by simp, hother, (after_of_ne h (by decide)).symm, rfl, rfl,
      .inl ⟨by simp [handled, h], .inl rfl⟩⟩
  rename_i hcomp
  split
  · rename_i h
    refine ⟨[], by simp, hother, ?_, rfl, rfl, .inl ⟨by simp [handled, h], .inl rfl⟩⟩
    rw [Session.after, if_pos h]
    rfl
  rename_i hping
  have hexp : handled (headerType header) = false := by
    simp only [not_or] at hnone hack
    simp [handled, hnone, hpub, hack, hcomp, hping]
  exact ⟨[], by simp, hother, (after_of_ne rfl hping).symm, rfl, rfl, .inr ⟨hexp, rfl, rfl⟩⟩

structure PingSpec (c : Client τ) (w : World σ τ κ) (r : Result σ τ κ) (ev : List Event) :
    Prop where
  log : r.world.log = w.log ++ ev
  pings : Pings c.toSession ev r.client.toSession
  bufSize : r.client.bufSize = c.bufSize
  readbuf : r.client.readbuf = c.readbuf
  result : r.rc = SUCCESS ∨ r.rc = FAILURE

omit [Network σ] [Timer τ κ] in
theorem PingSpec.quiet (c : Client τ) (w : World σ τ κ) {rc : Int}
    (hrc : rc = SUCCESS ∨ rc = FAILURE) : PingSpec c w ⟨rc, c, w⟩ [] :=
  ⟨by simp, .quiet, rfl, rfl, hrc⟩

theorem sendPing_spec (target : Target) (c : Client τ) (w : World σ τ κ)
    (h : c.pingOutstanding = false) : ∃ ev, PingSpec c w (sendPing target c w) ev := by
  simp only [sendPing, serializePingreq_eq]
  by_cases hsize : c.bufSize < 2
  · simp only [hsize, if_true]
    rw [if_neg (by decide)]
    exact ⟨[], by simp, .quiet, rfl, rfl, .inl rfl⟩
  · simp only [hsize, if_false]
    rw [if_pos (by decide)]
    have hsend := send_fill target c w.tick pingreqPacket (w.countdownMs 1000)
    have hlen : pingreqPacket.length = Int.toNat 2 := by decide
    rw [hlen] at hsend
    obtain ⟨t, hcl, ⟨hrc, hlog⟩ | ⟨hrc, hlog⟩⟩ := hsend
    · rw [if_pos hrc]
      refine ⟨_, hlog, ?_, ?_, ?_, .inl hrc⟩
      · simp only [Client.onSession_toSession, hcl]
        exact .sent h
      · simp only [Client.onSession_bufSize, hcl, Client.fillBuf_bufSize]
      · simp only [Client.onSession_readbuf, hcl, Client.fillBuf_readbuf]
    · rw [if_neg (by rw [hrc]; decide)]
      refine ⟨_, hlog, ?_, ?_, ?_, .inr hrc⟩
      · simp only [hcl]
        exact .unsent h
      · simp only [hcl, Client.fillBuf_bufSize]
      · simp only [hcl, Client.fillBuf_readbuf]

theorem keepaliveDue_spec (target : Target) (c : Client τ) (w : World σ τ κ) :
    ∃ ev, PingSpec c w (keepaliveDue target c w) ev := by
  unfold keepaliveDue
  split
  · exact ⟨[], .quiet c w (.inr rfl)⟩
  · rename_i h
    exact sendPing_spec target c w (by simpa using h)

theorem keepalive_spec (target : Target) (c : Client τ) (w : World σ τ κ) :
    ∃ ev, PingSpec c w (keepalive target c w) ev := by
  unfold keepalive
  split
  · exact ⟨[], .quiet c w (.inl rfl)⟩
  · split
    · obtain ⟨ev, h⟩ := keepaliveDue_spec target c w.tick
      exact ⟨ev, h.log, h.pings, h.bufSize, h.readbuf, h.result⟩
    · split
      · obtain ⟨ev, h⟩ := keepaliveDue_spec target c w.tick.tick
        exact ⟨ev, h.log, h.pings, h.bufSize, h.readbuf, h.result⟩
      · exact ⟨[], by simp, .quiet, rfl, rfl, .inl rfl⟩

theorem cycleKeepalive_spec (target : Target) (b : Branch σ τ κ) :
    ∃ ev, (cycleKeepalive target b).world.log = b.world.log ++ ev ∧
      Pings b.client.toSession ev (cycleKeepalive target b).client.toSession ∧
      (cycleKeepalive target b).client.bufSize = b.client.bufSize ∧
      (cycleKeepalive target b).client.readbuf = b.client.readbuf ∧
      ((cycleKeepalive target b).rc = b.rc ∨
        b.leave = false ∧ (cycleKeepalive target b).rc = FAILURE) := by
  unfold cycleKeepalive
  split
  · exact ⟨[], by simp, .quiet, rfl, rfl, .inl rfl⟩
  · rename_i hleave
    obtain ⟨ev, h⟩ := keepalive_spec target b.client b.world
    simp only
    split
    · exact ⟨ev, h.log, h.pings, h.bufSize, h.readbuf, .inr ⟨by simpa using hleave, rfl⟩⟩
    · exact ⟨ev, h.log, h.pings, h.bufSize, h.readbuf, .inl rfl⟩

structure Turn (c : Client τ) (w : World σ τ κ) (r : Result σ τ κ) (ev : List Event) : Prop where
  log : r.world.log = w.log ++ ev
  act : TurnAct c.bufSize c.toSession ev r.client.toSession
  bufSize : r.client.bufSize = c.bufSize
  result : heard ev = [] ∧ r.rc ≤ 0 ∨
    ∃ header body tail, heard ev = [(header, body)] ∧ body.length < 268435456 ∧
      r.client.readbuf = framed header body ++ tail ∧ (r.rc = headerType header ∨ r.rc < 0)
  alive : 0 ≤ r.rc → r.client.isconnected = (c.isconnected && allHandled (heard ev))
  dead : r.rc < 0 → r.client.isconnected = false

omit [Network σ] [Timer τ κ] in
theorem cycleExit_failed (packetType : Int) {r : Result σ τ κ} (h : r.rc ≠ SUCCESS) :
    (cycleExit packetType r).rc = r.rc ∧ (cycleExit packetType r).world = r.world ∧
      (cycleExit packetType r).client.readbuf = r.client.readbuf ∧
      (cycleExit packetType r).client.bufSize = r.client.bufSize ∧
      (cycleExit packetType r).client.isconnected = false ∧
      ((cycleExit packetType r).client.toSession = r.client.toSession ∨
        (cycleExit packetType r).client.toSession = r.client.toSession.close) := by
  unfold cycleExit
  rw [if_neg h]
  split
  · exact ⟨rfl, rfl, rfl, rfl, r.client.toSession.close_isconnected, .inr rfl⟩
  · rename_i hc
    exact ⟨rfl, rfl, rfl, rfl, by simpa using hc, .inl rfl⟩

structure Received (c : Client τ) (w : World σ τ κ) (r : Result σ τ κ) (header : UInt8)
    (body : Bytes) : Prop where
  rc : r.rc = headerType header
  size : body.length < 268435456
  session : r.client.toSession = c.toSession
  bufSize : r.client.bufSize = c.bufSize
  readbuf : ∃ tail, r.client.readbuf = framed header body ++ tail
  log : r.world.log = w.log ++ [.received header body]

end

variable [Ipstack σ] [Timer τ κ]

theorem readPacket_cases (c : Client τ) (w : World σ τ κ) :
    (∃ header body, Received c w (readPacket c w) header body) ∨
    (readPacket c w).rc ≤ 0 ∧ (readPacket c w).world.log = w.log ∧
      (readPacket c w).client.toSession = c.toSession ∧
      (readPacket c w).client.bufSize = c.bufSize := by
  rcases hheader : Network.read w.net 1 with ⟨⟨rc, bytes⟩, net₁⟩
  have hle : rc ≤ 1 := by
    have h := Ipstack.read_le w.net 1
    rw [hheader] at h
    exact h
  by_cases hrc : rc = 1
  swap
  · have hneg : rc ≤ 0 := by omega
    exact .inr (by simp [readPacket, hheader, hrc, hneg])
  subst hrc
  have hone := Network.read_length w.net 1 (by simp [hheader])
  obtain ⟨header, rfl⟩ : ∃ b, bytes = [b] := by
    simp only [hheader] at hone
    exact List.length_eq_one_iff.mp (by omega)
  rcases hlength : decodePacket net₁ with ⟨⟨len, remLen⟩, net₂⟩
  have hbound : remLen < 268435456 := by simpa [hlength] using decodePacket_bound net₁
  by_cases hfit : 1 + (packetEncode remLen).length ≤ c.readbufSize ∧
      c.readbufSize - (1 + (packetEncode remLen).length) < remLen
  · exact .inr (by simp [readPacket, hheader, hlength, hfit])
  rcases hbody : readBody net₂ remLen with ⟨⟨rc, body⟩, net₃⟩
  by_cases hrc : rc = remLen
  swap
  · exact .inr (by simp [readPacket, hheader, hlength, hfit, hbody, hrc])
  subst hrc
  obtain rfl : remLen = body.length := by
    have h := readBody_length net₂ (congrArg (·.1.rc) hbody)
    simpa [hbody] using h.symm
  refine .inl ⟨header, body, ?_⟩
  simp only [readPacket, hheader, hlength, hbody, hfit, ne_eq, not_true_eq_false, if_false,
    store_framed, byteAt_framed, framed_body]
  split
  · exact ⟨rfl, hbound, rfl, rfl, ⟨_, rfl⟩, rfl⟩
  · exact ⟨rfl, hbound, rfl, rfl, ⟨_, rfl⟩, rfl⟩

omit [Ipstack σ] in
theorem cycleSwitch_idle [Network σ] (target : Target) {packetType : Int} (h : packetType ≤ 0)
    (c : Client τ) (w : World σ τ κ) (timer : τ) :
    cycleSwitch target packetType c w timer = ⟨⟨packetType, c, w⟩, packetType ≠ 0⟩ := by
  rcases h.eq_or_lt with rfl | hneg
  · simp [cycleSwitch]
  · have hne (n : Nat) : packetType ≠ n := by omega
    have hzero : packetType ≠ 0 := by omega
    simp only [cycleSwitch, hzero, hne, or_self, if_false, ne_eq, not_false_eq_true, decide_true]

theorem exit_isconnected {s u t : Session} {ev : List Event} (hp : Pings s ev u)
    (ht : t = u ∨ t = u.close) (hs : s.isconnected = false) : t.isconnected = false := by
  rcases ht with rfl | rfl
  · rw [hp.isconnected, hs]
  · exact u.close_isconnected

theorem cycle_turn_idle (target : Target) {c : Client τ} {w : World σ τ κ} (timer : τ)
    (hrc : (readPacket c w).rc ≤ 0) (hlog : (readPacket c w).world.log = w.log)
    (hs : (readPacket c w).client.toSession = c.toSession)
    (hsize : (readPacket c w).client.bufSize = c.bufSize) :
    ∃ ev, Turn c w (cycle target c w timer) ev := by
  unfold cycle
  simp only [cycleSwitch_idle target hrc]
  generalize readPacket c w = p at *
  obtain ⟨ev, hl, hp, hb, -, hres⟩ := cycleKeepalive_spec target ⟨p, p.rc ≠ 0⟩
  generalize hk : cycleKeepalive target ⟨p, p.rc ≠ 0⟩ = k at *
  simp only [hlog, hs, hsize] at hl hp hb
  by_cases hok : k.rc = SUCCESS
  · have hexit : cycleExit p.rc k = { k with rc := p.rc } := by simp [cycleExit, hok]
    rw [hexit]
    have hzero : p.rc = 0 := by
      rcases hres with hres | ⟨-, hres⟩
      · rw [← hres, hok]
      · simp [hok] at hres
    refine ⟨ev, hl, .idle hp (.inl rfl), hb, .inl ⟨hp.heard_eq, hrc⟩, fun _ => ?_, fun h => ?_⟩
    · simp [hp.heard_eq, hp.isconnected]
    · simp only [hzero] at h
      omega
  · obtain ⟨h1, h2, -, h4, h5, h6⟩ := cycleExit_failed p.rc hok
    have hneg : k.rc < 0 := by
      rcases hres with hres | ⟨-, hres⟩
      · have hne : p.rc ≠ 0 := fun h => hok (hres.trans h)
        simp only at hres
        omega
      · rw [hres]
        decide
    refine ⟨ev, by rw [h2, hl], .idle hp h6, by rw [h4, hb],
      .inl ⟨hp.heard_eq, by rw [h1]; omega⟩, fun h => ?_, fun _ => h5⟩
    rw [h1] at h
    omega

theorem cycle_turn_received (target : Target) {c : Client τ} {w : World σ τ κ} (timer : τ)
    {header : UInt8} {body : Bytes} (hread : Received c w (readPacket c w) header body) :
    ∃ ev, Turn c w (cycle target c w timer) ev := by
  obtain ⟨hrc, hb, hs, hsize, ⟨tail, hbuf⟩, hlog⟩ := hread
  unfold cycle
  generalize readPacket c w = p at *
  simp only [hrc]
  obtain ⟨ev₁, hsw⟩ := cycleSwitch_spec target p.world timer hbuf hb
  generalize cycleSwitch target (headerType header) p.client p.world timer = b at *
  obtain ⟨ev₂, hl, hp, hb₂, hr, hres⟩ := cycleKeepalive_spec target b
  generalize cycleKeepalive target b = k at *
  have hanswered := hsw.answered
  rw [hsize, hs] at hanswered
  rw [hsw.session, hs] at hp
  have hlog' : k.world.log = w.log ++ .received header body :: (ev₁ ++ ev₂) := by
    rw [hl, hsw.log, hlog]
    simp
  have hheard : heard (.received header body :: (ev₁ ++ ev₂)) = [(header, body)] := by
    simp [hanswered.heard_eq, hp.heard_eq]
  have hbs : k.client.bufSize = c.bufSize := by rw [hb₂, hsw.bufSize, hsize]
  have hbuf' : k.client.readbuf = framed header body ++ tail := by rw [hr, hsw.readbuf, hbuf]
  have hconn : k.client.isconnected = c.isconnected := by
    rw [hp.isconnected, after_isconnected]
  by_cases hok : k.rc = SUCCESS
  · have hexit : cycleExit (headerType header) k = { k with rc := headerType header } := by
      simp [cycleExit, hok]
    rw [hexit]
    have hexp : handled (headerType header) = true := by
      rcases hsw.result with ⟨hexp, -⟩ | ⟨hexp, hbrc, hleave⟩
      · exact hexp
      · rcases hres with hres | ⟨hno, -⟩
        · have hzero : headerType header = 0 := by
            rw [hres, hbrc] at hok
            exact_mod_cast hok
          simp [handled, hzero] at hexp
        · simp [hleave] at hno
    refine ⟨_, hlog', .read hb hanswered hp (.inl rfl), hbs,
      .inr ⟨header, body, tail, hheard, hb, hbuf', .inl rfl⟩, fun _ => ?_, fun h => ?_⟩
    · rw [hheard, hconn]
      simp [allHandled, hexp]
    · simp only at h
      omega
  · obtain ⟨h1, h2, h3, h4, h5, h6⟩ := cycleExit_failed (headerType header) hok
    have hcases : k.rc < 0 ∨
        k.rc = headerType header ∧ handled (headerType header) = false := by
      rcases hres with hres | ⟨-, hres⟩
      · rcases hsw.result with ⟨-, hb₁ | ⟨hb₁, -⟩⟩ | ⟨hexp, hb₁, -⟩
        · exact absurd (hres.trans hb₁) hok
        · exact .inl (by rw [hres, hb₁]; decide)
        · exact .inr ⟨hres.trans hb₁, hexp⟩
      · exact .inl (by rw [hres]; decide)
    refine ⟨_, by rw [h2, hlog'], .read hb hanswered hp h6, by rw [h4, hbs],
      .inr ⟨header, body, tail, hheard, hb, by rw [h3, hbuf'], ?_⟩, fun h => ?_, fun _ => h5⟩
    · rw [h1]
      exact hcases.symm.imp And.left id
    · rw [h1] at h
      rcases hcases with hneg | ⟨-, hexp⟩
      · omega
      · rw [h5, hheard]
        simp [allHandled, hexp]

theorem cycle_turn (target : Target) (c : Client τ) (w : World σ τ κ) (timer : τ) :
    ∃ ev, Turn c w (cycle target c w timer) ev := by
  rcases readPacket_cases c w with ⟨header, body, h⟩ | ⟨hrc, hlog, hs, hsize⟩
  · exact cycle_turn_received target timer h
  · exact cycle_turn_idle target timer hrc hlog hs hsize

end MbedMqtt.MQTTClientC
