import MbedMqtt.Client.Ping

namespace MbedMqtt

structure Storage where
  pubbuf : Bytes
  inflightLen : Nat
  inflightMsgid : Nat
  inflightQoS : QoS
  pubrel : Bool
  incomingQoS2messages : List Nat
  deriving DecidableEq, Repr

namespace Session

def storage (s : Session) : Storage :=
  ⟨s.pubbuf, s.inflightLen, s.inflightMsgid, s.inflightQoS, s.pubrel, s.incomingQoS2messages⟩

def withStorage (s : Session) (st : Storage) : Session :=
  { s with
    pubbuf := st.pubbuf
    inflightLen := st.inflightLen
    inflightMsgid := st.inflightMsgid
    inflightQoS := st.inflightQoS
    pubrel := st.pubrel
    incomingQoS2messages := st.incomingQoS2messages }

end Session

variable {σ τ κ : Type}

def Client.twin (c : Client τ) (st : Storage) : Client τ :=
  { c with toSession := c.toSession.withStorage st }

def World.timed (w : World σ τ κ) (p : τ) : World σ τ κ := { w with pingSent := p }

def Outcome.twin (r : Outcome σ τ κ) (st : Storage) (p : τ) : Outcome σ τ κ :=
  ⟨r.rc, r.client.twin st, r.world.timed p⟩

def Branch.twin (b : Branch σ τ κ) (st : Storage) (p : τ) : Branch σ τ κ :=
  ⟨b.toOutcome.twin st p, b.leave⟩

@[simp] theorem twin_storage (c : Client τ) : c.twin c.storage = c := rfl

namespace Client

variable (c : Client τ) (st : Storage)

@[simp] theorem twin_isconnected : (c.twin st).isconnected = c.isconnected := by cases c; rfl
@[simp] theorem twin_cleansession : (c.twin st).cleansession = c.cleansession := by cases c; rfl
@[simp] theorem twin_packetid : (c.twin st).packetid = c.packetid := by cases c; rfl
@[simp] theorem twin_messageHandlers : (c.twin st).messageHandlers = c.messageHandlers := by cases c; rfl
@[simp] theorem twin_commandTimeoutMs : (c.twin st).commandTimeoutMs = c.commandTimeoutMs := by cases c; rfl
@[simp] theorem twin_keepAliveInterval : (c.twin st).keepAliveInterval = c.keepAliveInterval := by cases c; rfl
@[simp] theorem twin_pingOutstanding : (c.twin st).pingOutstanding = c.pingOutstanding := by cases c; rfl
@[simp] theorem twin_lastSent : (c.twin st).lastSent = c.lastSent := by cases c; rfl
@[simp] theorem twin_lastReceived : (c.twin st).lastReceived = c.lastReceived := by cases c; rfl
@[simp] theorem twin_sendbuf : (c.twin st).sendbuf = c.sendbuf := by cases c; rfl
@[simp] theorem twin_readbuf : (c.twin st).readbuf = c.readbuf := by cases c; rfl
@[simp] theorem twin_fillSendbuf (packet : Bytes) :
    (c.twin st).fillSendbuf packet = (c.fillSendbuf packet).twin st := by cases c; rfl

end Client

namespace World

variable (w : World σ τ κ) (p : τ)

@[simp] theorem timed_net : (w.timed p).net = w.net := by cases w; rfl
@[simp] theorem timed_clock : (w.timed p).clock = w.clock := by cases w; rfl
@[simp] theorem timed_uninitialised : (w.timed p).uninitialised = w.uninitialised := by cases w; rfl
@[simp] theorem timed_tick : (w.timed p).tick = w.tick.timed p := by cases w; rfl
@[simp] theorem timed_pop : (w.timed p).pop = w.pop.timed p := by cases w; rfl
@[simp] theorem timed_countdownMs [Timer τ κ] (ms : Nat) :
    (w.timed p).countdownMs ms = w.countdownMs ms := by cases w; rfl
@[simp] theorem timed_expired [Timer τ κ] (timer : τ) :
    (w.timed p).expired timer = w.expired timer := by cases w; rfl

end World

namespace Outcome

variable (r : Outcome σ τ κ) (st : Storage) (p : τ)

@[simp] theorem twin_rc : (r.twin st p).rc = r.rc := by cases r; rfl
@[simp] theorem twin_client : (r.twin st p).client = r.client.twin st := by cases r; rfl
@[simp] theorem twin_world : (r.twin st p).world = r.world.timed p := by cases r; rfl

end Outcome

section Base

variable [Network σ] [Timer τ κ]

theorem sendLoop_timed (timer : τ) (packet : Bytes) (fuel sent : Nat) (w : World σ τ κ) (p : τ) :
    sendLoop timer packet fuel sent (w.timed p) =
      ((sendLoop timer packet fuel sent w).1, (sendLoop timer packet fuel sent w).2.timed p) := by
  induction fuel generalizing sent w with
  | zero => rfl
  | succ fuel ih =>
    simp only [sendLoop, World.timed_net]
    split
    · split
      · rfl
      · have hexp : ({ w.timed p with net := (Network.write w.net (packet.drop sent)).2 } :
            World σ τ κ).expired timer =
            ({ w with net := (Network.write w.net (packet.drop sent)).2 } : World σ τ κ).expired
              timer := rfl
        rw [hexp]
        split
        · rfl
        · exact ih _ ({ w with net := (Network.write w.net (packet.drop sent)).2 } :
            World σ τ κ).tick
    · rfl

theorem sendPacket_twin (c : Client τ) (w : World σ τ κ) (length : Nat) (timer : τ) (st : Storage)
    (p : τ) :
    sendPacket (c.twin st) (w.timed p) length timer = (sendPacket c w length timer).twin st p := by
  have hloop := sendLoop_timed timer (c.sendbuf.take length) (w.clock.length + 1) 0 w p
  simp only [sendPacket, Client.twin_sendbuf, Client.twin_keepAliveInterval, World.timed_clock, hloop]
  split
  · split
    · rfl
    · rfl
  · rfl

theorem readPacket_twin {cfg cfg' : Config} (hsize : cfg'.maxPacketSize = cfg.maxPacketSize)
    (c : Client τ) (w : World σ τ κ) (st : Storage) (p : τ) :
    readPacket cfg' (c.twin st) (w.timed p) = (readPacket cfg c w).twin st p := by
  simp only [readPacket, Client.twin_readbuf, Client.twin_keepAliveInterval, World.timed_net, hsize]
  split
  · rfl
  · split
    · rfl
    · split
      · rfl
      · split
        · rfl
        · rfl

theorem sendPacket_pingSent (c : Client τ) (w : World σ τ κ) (length : Nat) (timer : τ) :
    (sendPacket c w length timer).world.pingSent = w.pingSent :=
  congrArg (·.world.pingSent) (sendPacket_twin c w length timer c.storage w.pingSent)

theorem readPacket_pingSent (cfg : Config) (c : Client τ) (w : World σ τ κ) :
    (readPacket cfg c w).world.pingSent = w.pingSent :=
  congrArg (·.world.pingSent) (readPacket_twin (rfl : cfg.maxPacketSize = _) c w c.storage w.pingSent)

def Branch.timed (b : Branch σ τ κ) (p : τ) : Branch σ τ κ := b.twin b.client.storage p

omit [Network σ] [Timer τ κ] in
theorem cycleDeliver_timed (cfg : Config) (c : Client τ) (w : World σ τ κ) (topicName : MQTTString)
    (msg : Message) (p : τ) :
    cycleDeliver cfg c (w.timed p) topicName msg =
      (cycleDeliver cfg c w topicName msg).twin
        (cycleDeliver cfg c w topicName msg).client.storage p := by
  simp only [cycleDeliver]
  split
  · split
    · rcases useQoS2msgid c.incomingQoS2messages msg.id with ⟨stored, table⟩
      cases stored <;> rfl
    · rfl
  · rfl

theorem sendPacket_timed (c : Client τ) (w : World σ τ κ) (length : Nat) (timer p : τ) :
    sendPacket c (w.timed p) length timer =
      (sendPacket c w length timer).twin (sendPacket c w length timer).client.storage p := by
  obtain ⟨t, hcl, -⟩ := sendPacket_cases c w length timer
  have hst : (sendPacket c w length timer).client.storage = c.storage := by
    rw [hcl]
  rw [hst]
  exact sendPacket_twin c w length timer c.storage p

theorem cyclePublish_timed (cfg : Config) (c : Client τ) (w : World σ τ κ) (timer p : τ) :
    cyclePublish cfg c (w.timed p) timer = (cyclePublish cfg c w timer).timed p := by
  unfold cyclePublish
  cases deserializePublish c.readbuf with
  | none => rfl
  | some fields =>
    have hd := cycleDeliver_timed cfg c w.pop fields.topicName (fields.message w.uninitialised) p
    simp only [World.timed_uninitialised, World.timed_pop, hd]
    generalize cycleDeliver cfg c w.pop fields.topicName (fields.message w.uninitialised) = d
    generalize publishReply cfg (fields.message w.uninitialised) = reply
    simp only [Outcome.twin_client, Outcome.twin_world, twin_storage, sendPacket_timed]
    split
    · split
      · split
        · rfl
        · rfl
      · rfl
    · rfl

theorem cycleAck_timed (cfg : Config) (packetType : Int) (c : Client τ) (w : World σ τ κ)
    (timer p : τ) :
    cycleAck cfg packetType c (w.timed p) timer = (cycleAck cfg packetType c w timer).timed p := by
  simp only [cycleAck, World.timed_uninitialised, World.timed_pop]
  split
  · rfl
  · generalize serializeAck cfg.maxPacketSize _ 0 _ = reply
    split
    · rfl
    · have hsend := sendPacket_timed (c.fillSendbuf reply.2) w.pop reply.1.toNat timer p
      rw [hsend]
      generalize sendPacket (c.fillSendbuf reply.2) w.pop reply.1.toNat timer = r
      rw [Outcome.twin_rc]
      split
      · rfl
      · split <;> rfl

theorem cycleSwitch_timed (cfg : Config) (packetType : Int) (c : Client τ) (w : World σ τ κ)
    (timer p : τ) :
    cycleSwitch cfg packetType c (w.timed p) timer =
      (cycleSwitch cfg packetType c w timer).timed p := by
  simp only [cycleSwitch]
  split
  · rfl
  split
  · exact cyclePublish_timed cfg c w timer p
  split
  · exact cycleAck_timed cfg packetType c w timer p
  split
  · rfl
  split
  · rfl
  · rfl

theorem cycleSwitch_pingSent (cfg : Config) (packetType : Int) (c : Client τ) (w : World σ τ κ)
    (timer : τ) : (cycleSwitch cfg packetType c w timer).world.pingSent = w.pingSent :=
  congrArg (·.world.pingSent) (cycleSwitch_timed cfg packetType c w timer w.pingSent)

end Base

def awaiting (po : Bool) : List Event → Bool
  | [] => po
  | .sent packet :: ev => awaiting (po || packetType packet = PINGREQ) ev
  | .received header _ :: ev => awaiting (po && headerType header ≠ PINGRESP) ev
  | _ :: ev => awaiting po ev

def plainHeader (header : UInt8) : Bool :=
  headerType header = CONNACK || headerType header = SUBACK || headerType header = UNSUBACK ||
    headerType header = PINGRESP || headerType header = PUBLISH && headerQoS header = 0

def prompted (po : Bool) (header : UInt8) (body : Bytes) : Bool :=
  po && headerType header = PUBLISH && 2 ≤ body.length && 2 + readInt body 0 ≤ body.length

def plain (po : Bool) : List Event → Bool
  | [] => true
  | .sent packet :: ev => plain (po || packetType packet = PINGREQ) ev
  | .received header body :: ev =>
      plainHeader header && !prompted po header body &&
        plain (po && headerType header ≠ PINGRESP) ev
  | _ :: ev => plain po ev

theorem awaiting_append (po : Bool) (a b : List Event) :
    awaiting po (a ++ b) = awaiting (awaiting po a) b := by
  induction a generalizing po with
  | nil => rfl
  | cons e a ih => cases e <;> exact ih _

theorem plain_append (po : Bool) (a b : List Event) :
    plain po (a ++ b) = (plain po a && plain (awaiting po a) b) := by
  induction a generalizing po with
  | nil => rfl
  | cons e a ih => cases e <;> simp [plain, awaiting, ih, Bool.and_assoc]

theorem awaiting_mono {po po' : Bool} (h : po = true → po' = true) (ev : List Event) :
    awaiting po ev = true → awaiting po' ev = true := by
  induction ev generalizing po po' with
  | nil => exact h
  | cons e ev ih =>
    cases e with
    | sent packet =>
      apply ih
      rw [Bool.or_eq_true, Bool.or_eq_true]
      exact Or.imp_left h
    | received header body =>
      apply ih
      rw [Bool.and_eq_true, Bool.and_eq_true]
      exact And.imp_left h
    | delivered topicName message handlers => exact ih h
    | unsent packet => exact ih h

theorem plain_mono {po po' : Bool} (h : po = true → po' = true) (ev : List Event) :
    plain po' ev = true → plain po ev = true := by
  induction ev generalizing po po' with
  | nil => exact id
  | cons e ev ih =>
    cases e with
    | sent packet =>
      apply ih
      rw [Bool.or_eq_true, Bool.or_eq_true]
      exact Or.imp_left h
    | received header body =>
      simp only [plain, Bool.and_eq_true, Bool.not_eq_true']
      rintro ⟨⟨hplain, hprompt⟩, hrest⟩
      refine ⟨⟨hplain, ?_⟩, ih ?_ hrest⟩
      · cases po with
        | false => simp [prompted]
        | true => rwa [h rfl] at hprompt
      · rw [Bool.and_eq_true, Bool.and_eq_true]
        exact And.imp_left h
    | delivered topicName message handlers => exact ih h
    | unsent packet => exact ih h

theorem awaiting_held {ev : List Event}
    (h : ∀ header body, .received header body ∈ ev → headerType header ≠ PINGRESP) :
    awaiting true ev = true := by
  induction ev with
  | nil => rfl
  | cons e ev ih =>
    have hrest := ih fun header body hmem => h header body (List.mem_cons_of_mem e hmem)
    cases e with
    | sent packet => exact hrest
    | received header body =>
      simp only [awaiting, Bool.true_and, decide_eq_true (h header body List.mem_cons_self)]
      exact hrest
    | delivered topicName message handlers => exact hrest
    | unsent packet => exact hrest

def sentOf (type : Nat) : Event → Bool
  | .sent packet => packetType packet = type
  | _ => false

structure Elapsed (po : Bool) (w : World σ τ κ) (p : τ) (po₁ : Bool) (w₁ : World σ τ κ) (p₁ : τ) :
    Prop where
  log : w.log <+: w₁.log
  awaits : po₁ = true → awaiting po (w.since w₁) = true
  timer : w₁.pingSent = w.pingSent ∧ p₁ = p ∧ (po₁ = true → po = true) ∨
    p₁ = w₁.pingSent ∧ ∃ e ∈ w.since w₁, sentOf PINGREQ e = true

namespace Elapsed

variable {po po₁ po₂ : Bool} {w w₁ w₂ : World σ τ κ} {p p₁ p₂ : τ}

theorem since_append {w w₁ w₂ : World σ τ κ} (h : w.log <+: w₁.log) (h' : w₁.log <+: w₂.log) :
    w.since w₂ = w.since w₁ ++ w₁.since w₂ := by
  obtain ⟨ev, hev⟩ := h
  obtain ⟨ev', hev'⟩ := h'
  rw [World.since_eq hev.symm, World.since_eq hev'.symm, World.since_eq]
  rw [← hev', ← hev, List.append_assoc]

theorem refl (po : Bool) (w : World σ τ κ) (p : τ) : Elapsed po w p po w p where
  log := List.prefix_refl _
  awaits := by
    intro h
    rw [World.since_eq (List.append_nil _).symm]
    exact h
  timer := .inl ⟨rfl, rfl, id⟩

theorem trans (h : Elapsed po w p po₁ w₁ p₁) (k : Elapsed po₁ w₁ p₁ po₂ w₂ p₂) :
    Elapsed po w p po₂ w₂ p₂ where
  log := h.log.trans k.log
  awaits := by
    intro hpo
    rw [since_append h.log k.log, awaiting_append]
    exact awaiting_mono h.awaits _ (k.awaits hpo)
  timer := by
    rw [since_append h.log k.log]
    rcases k.timer with ⟨hping, hp, hpo⟩ | ⟨hp, e, he, hsent⟩
    · rcases h.timer with ⟨hping', hp', hpo'⟩ | ⟨hp', e, he, hsent⟩
      · exact .inl ⟨hping.trans hping', hp.trans hp', fun h => hpo' (hpo h)⟩
      · exact .inr ⟨by rw [hp, hp', hping], e, List.mem_append_left _ he, hsent⟩
    · exact .inr ⟨hp, e, List.mem_append_right _ he, hsent⟩

theorem near (h : Elapsed po w p po₁ w₁ p₁) (hp : po = true → p = w.pingSent) :
    po₁ = true → p₁ = w₁.pingSent := by
  intro hpo
  rcases h.timer with ⟨hping, rfl, hback⟩ | ⟨rfl, -⟩
  · rw [hping]
    exact hp (hback hpo)
  · rfl

theorem still {ev : List Event} (hping : w₁.pingSent = w.pingSent) (hlog : w₁.log = w.log ++ ev)
    (hpo : po₁ = true → po = true ∧
      ∀ header body, .received header body ∈ ev → headerType header ≠ PINGRESP) (p : τ) :
    Elapsed po w p po₁ w₁ p where
  log := ⟨ev, hlog.symm⟩
  awaits := by
    intro h
    obtain ⟨hpo, hev⟩ := hpo h
    rw [World.since_eq hlog, hpo]
    exact awaiting_held hev
  timer := .inl ⟨hping, rfl, fun h => (hpo h).1⟩

theorem drop (h : Elapsed po w p po₁ w₁ p₁) (hpo : po₂ = true → po₁ = true) :
    Elapsed po w p po₂ w₁ p₁ where
  log := h.log
  awaits := fun h₂ => h.awaits (hpo h₂)
  timer := by
    rcases h.timer with ⟨hping, hp, hback⟩ | hsent
    · exact .inl ⟨hping, hp, fun h₂ => hback (hpo h₂)⟩
    · exact .inr hsent

end Elapsed

structure Kin (cfg cfg' : Config) : Prop where
  sizes : cfg' = { cfg with build := cfg'.build }
  reference : cfg' ≠ cfg → cfg.build = .qos1

namespace Kin

variable {cfg cfg' : Config}

theorem refl (cfg : Config) : Kin cfg cfg := ⟨rfl, fun h => absurd rfl h⟩

theorem maxPacketSize (h : Kin cfg cfg') : cfg'.maxPacketSize = cfg.maxPacketSize := by
  rw [h.sizes]

theorem charSigned (h : Kin cfg cfg') : cfg'.charSigned = cfg.charSigned := by
  rw [h.sizes]

theorem qos1 (h : Kin cfg cfg') (hq : cfg'.qos1 = true) : cfg.qos1 = true := by
  by_cases heq : cfg' = cfg
  · rw [← heq]
    exact hq
  · simp [Config.qos1, h.reference heq]

end Kin

structure StoredAs (cfg cfg' : Config) (s : Session) (st : Storage) : Prop where
  same : cfg' = cfg → st = s.storage
  msgid : cfg'.qos1 = true → st.inflightMsgid = s.inflightMsgid

theorem StoredAs.congr {cfg cfg' : Config} {s t : Session} {st : Storage} (h : StoredAs cfg cfg' s st)
    (hst : t.storage = s.storage) : StoredAs cfg cfg' t st := by
  refine ⟨fun heq => (h.same heq).trans hst.symm, fun hq => (h.msgid hq).trans ?_⟩
  exact (congrArg Storage.inflightMsgid hst).symm

theorem closeSession_twin {cfg cfg' : Config} (hk : Kin cfg cfg') {c : Client τ} {st : Storage}
    (hh : StoredAs cfg cfg' c.toSession st) :
    ∃ st', (c.twin st).closeSession cfg' = (c.closeSession cfg).twin st' ∧
      StoredAs cfg cfg' (c.closeSession cfg).toSession st' := by
  refine ⟨((c.twin st).closeSession cfg').storage, ?_, ?_, ?_⟩
  · cases hc : c.cleansession <;>
      simp [Client.closeSession, Session.close, Client.twin, Session.withStorage,
        Session.cleanSession, Session.storage, hc]
  · rintro rfl
    rw [hh.same rfl, twin_storage]
  · intro hq
    have hq' := hk.qos1 hq
    have hid := hh.msgid hq
    cases hc : c.cleansession <;>
      simp [Client.closeSession, Session.close, Client.twin, Session.withStorage,
        Session.cleanSession, Session.storage, hc, hq, hq', hid]

def Twin (cfg cfg' : Config) (po : Bool) (w : World σ τ κ) (p : τ) (r r' : Outcome σ τ κ) : Prop :=
  ∃ st p₁, r' = r.twin st p₁ ∧ StoredAs cfg cfg' r.client.toSession st ∧
    Elapsed po w p r.client.pingOutstanding r.world p₁

end MbedMqtt
