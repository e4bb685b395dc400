import Mathlib.Data.List.Forall2
import MbedMqtt.Library.Stretch
import MbedMqtt.ClientC.Run

namespace MbedMqtt.MQTTClientC

def readable (p : UInt8 × Bytes) : Bool :=
  headerType p.1 = PUBLISH && 2 ≤ p.2.length && 2 + readInt p.2 0 ≤ p.2.length

-- the acknowledgement that a packet asks for
def answerOf (header : UInt8) : Option Nat :=
  if headerType header = PUBLISH then
    if headerQoS header = 1 then some PUBACK else if headerQoS header = 2 then some PUBREC else none
  else if headerType header = PUBREC then some PUBREL
  else if headerType header = PUBREL then some PUBCOMP
  else none

def answered (bufSize : Nat) (p : UInt8 × Bytes) : Bool :=
  4 ≤ bufSize && (answerOf p.1).isSome && (headerType p.1 ≠ PUBLISH || readable p)

-- where the packet holds its id
def idOffset (p : UInt8 × Bytes) : Nat :=
  if headerType p.1 = PUBLISH then 2 + readInt p.2 0 else 0

structure Delivers (p : UInt8 × Bytes) (d : MQTTString × Message) : Prop where
  topicName : d.1 = ⟨none, readInt p.2 0, some ((p.2.drop 2).take (readInt p.2 0))⟩
  qos : d.2.qos = .ofInt (headerQoS p.1)
  retained : d.2.retained = headerRetain p.1
  dup : d.2.dup = headerDup p.1
  payload : d.2.payload = p.2.drop (2 + readInt p.2 0 + idLength p.1)
  id : 0 < headerQoS p.1 → idOffset p + 2 ≤ p.2.length → d.2.id = readInt p.2 (idOffset p)

def Answers (p : UInt8 × Bytes) (packet : Bytes) : Prop :=
  ∃ type id, answerOf p.1 = some type ∧ packet = ackPacket type id ∧
    (idOffset p + 2 ≤ p.2.length → id = readInt p.2 (idOffset p))

def deliveries (log : List Event) : List (MQTTString × Message) :=
  log.filterMap fun
    | .delivered topicName message _ => some (topicName, message)
    | _ => none

def isAck (packetType : Nat) : Bool :=
  packetType = PUBACK || packetType = PUBREC || packetType = PUBREL || packetType = PUBCOMP

-- the acknowledgements handed to sendPacket, sent or not
def acknowledgements (log : List Event) : List Bytes :=
  log.filterMap fun
    | .sent packet => if isAck (packetType packet) then some packet else none
    | .unsent packet => if isAck (packetType packet) then some packet else none
    | _ => none

structure Accounts (bufSize : Nat) (log : List Event) : Prop where
  deliveries : List.Forall₂ Delivers ((heard log).filter readable) (deliveries log)
  acknowledgements :
    List.Forall₂ Answers ((heard log).filter (answered bufSize)) (acknowledgements log)

theorem deliveries_append (es fs : List Event) :
    deliveries (es ++ fs) = deliveries es ++ deliveries fs := by
  simp [deliveries]

theorem acknowledgements_append (es fs : List Event) :
    acknowledgements (es ++ fs) = acknowledgements es ++ acknowledgements fs := by
  simp [acknowledgements]

namespace Accounts

variable {bufSize : Nat} {es fs : List Event}

theorem nil (bufSize : Nat) : Accounts bufSize [] := ⟨.nil, .nil⟩

theorem append (h : Accounts bufSize es) (k : Accounts bufSize fs) :
    Accounts bufSize (es ++ fs) := by
  constructor
  · rw [heard_append, List.filter_append, deliveries_append]
    exact List.rel_append h.deliveries k.deliveries
  · rw [heard_append, List.filter_append, acknowledgements_append]
    exact List.rel_append h.acknowledgements k.acknowledgements

end Accounts

theorem Attempt.accounts {packet : Bytes} {ev : List Event} (bufSize : Nat) (h : Attempt packet ev)
    (htype : isAck (packetType packet) = false) : Accounts bufSize ev := by
  have hacks : acknowledgements ev = [] := by
    rcases h with rfl | rfl <;> simp [acknowledgements, htype]
  have hdel : deliveries ev = [] := by
    rcases h with rfl | rfl <;> rfl
  constructor
  · rw [h.heard_eq, hdel]
    exact .nil
  · rw [h.heard_eq, hacks]
    exact .nil

theorem Attempt.acknowledgements_eq {type id : Nat} {ev : List Event}
    (h : Attempt (ackPacket type id) ev) (htype : isAck type = true) (hlt : type < 16) :
    acknowledgements ev = [ackPacket type id] := by
  have hpacket : isAck (packetType (ackPacket type id)) = true := by
    rwa [packetType_ackPacket id hlt]
  rcases h with rfl | rfl <;> simp [acknowledgements, hpacket]

theorem Attempt.deliveries_eq {packet : Bytes} {ev : List Event} (h : Attempt packet ev) :
    deliveries ev = [] := by
  rcases h with rfl | rfl <;> rfl

theorem Pings.accounts {s t : Session} {ev : List Event} (bufSize : Nat) (h : Pings s ev t) :
    Accounts bufSize ev := by
  have hping : isAck (packetType pingreqPacket) = false := by decide
  cases h with
  | quiet => exact .nil bufSize
  | sent => exact Attempt.accounts bufSize (.inl rfl) hping
  | unsent => exact Attempt.accounts bufSize (.inr rfl) hping

theorem readable_iff {header : UInt8} {body : Bytes} (tail : Bytes) (hb : body.length < 268435456) :
    readable (header, body) = true ↔ deserializePublish (framed header body ++ tail) ≠ none := by
  rw [deserializePublish_framed_eq tail hb]
  simp only [readable, Bool.and_eq_true, decide_eq_true_eq, and_assoc]
  split <;> simp [*]

theorem delivers_of_parse {header : UInt8} {body tail : Bytes} {fields : PublishFields} (g : Nat)
    (hb : body.length < 268435456)
    (hf : deserializePublish (framed header body ++ tail) = some fields) :
    Delivers (header, body) (fields.topicName, fields.message g) := by
  have htype : headerType header = PUBLISH := by
    have h := (deserializePublish_eq_some hf).1
    rwa [byteAt_framed] at h
  have hid (hq : 0 < headerQoS header) (hlen : 2 + readInt body 0 + 2 ≤ body.length) :=
    deserializePublish_packetid hb hlen hq hf
  rw [deserializePublish_framed_eq tail hb] at hf
  split at hf
  · rw [Option.some.injEq] at hf
    constructor
    · rw [← hf]
    · rw [← hf]
      rfl
    · rw [← hf]
      rfl
    · rw [← hf]
      rfl
    · rw [← hf]
      rfl
    · simp only [idOffset, htype, if_true]
      intro hq hlen
      rw [PublishFields.message, hid hq hlen]
      rfl
  · cases hf

theorem answerOf_publish {header : UInt8} {type : Nat} (ht : headerType header = PUBLISH) :
    answerOf header = some type ↔
      headerQoS header = 1 ∧ type = PUBACK ∨ headerQoS header = 2 ∧ type = PUBREC := by
  rw [answerOf, if_pos ht]
  by_cases h1 : headerQoS header = 1
  · simp [h1, eq_comm]
  · by_cases h2 : headerQoS header = 2
    · simp [h2, eq_comm]
    · simp [h1, h2]

theorem ofInt_eq_QOS1 {n : Nat} : QoS.ofInt n = .QOS1 ↔ n = 1 := by
  constructor
  · intro h
    unfold QoS.ofInt at h
    split at h
    · cases h
    · rfl
    · cases h
    · cases h
  · rintro rfl
    rfl

theorem message_qos {header : UInt8} {body : Bytes} {topicName : MQTTString} {msg : Message}
    (h : Delivers (header, body) (topicName, msg)) :
    (msg.qos = .QOS1 ↔ headerQoS header = 1) ∧ (msg.qos = .QOS2 ↔ headerQoS header = 2) := by
  have hq : msg.qos = .ofInt (headerQoS header) := h.qos
  rw [hq]
  exact ⟨ofInt_eq_QOS1, QoS.ofInt_eq_QOS2⟩

-- a packet with at most one delivery and at most one acknowledgement
theorem Accounts.received {bufSize : Nat} {header : UInt8} {body : Bytes} {ev : List Event}
    (hq : heard ev = [])
    (hdel : List.Forall₂ Delivers (if readable (header, body) then [(header, body)] else [])
      (MQTTClientC.deliveries ev))
    (hack : List.Forall₂ Answers (if answered bufSize (header, body) then [(header, body)] else [])
      (MQTTClientC.acknowledgements ev)) :
    Accounts bufSize (.received header body :: ev) := by
  constructor
  · rw [heard_received, hq, List.filter_cons, List.filter_nil]
    exact hdel
  · rw [heard_received, hq, List.filter_cons, List.filter_nil]
    exact hack

theorem Replied.accounts {bufSize : Nat} {header : UInt8} {body : Bytes} {topicName : MQTTString}
    {msg : Message} {reply : List Event} {handlers : List Nat} (h : Replied bufSize msg reply)
    (hd : Delivers (header, body) (topicName, msg)) (ht : headerType header = PUBLISH)
    (hr : readable (header, body) = true) :
    Accounts bufSize (.received header body :: .delivered topicName msg handlers :: reply) := by
  obtain ⟨h1, h2⟩ := message_qos hd
  have hacked {type : Nat} {ev : List Event} (hsize : 4 ≤ bufSize) (hpos : 0 < headerQoS header)
      (ha : Attempt (ackPacket type msg.id) ev) (htype : isAck type = true) (hlt : type < 16)
      (hanswer : answerOf header = some type) :
      Accounts bufSize (.received header body :: .delivered topicName msg handlers :: ev) := by
    have hans : answered bufSize (header, body) = true := by
      simp [answered, hsize, hanswer, ht, hr]
    refine .received (by simpa using ha.heard_eq) ?_ ?_
    · rw [if_pos hr]
      simpa [deliveries, ha.deliveries_eq] using List.Forall₂.cons hd
        (ha.deliveries_eq ▸ List.Forall₂.nil : List.Forall₂ Delivers [] (deliveries ev))
    · rw [if_pos hans]
      have hacks := ha.acknowledgements_eq htype hlt
      have hlist : acknowledgements (.delivered topicName msg handlers :: ev) =
          [ackPacket type msg.id] := hacks
      rw [hlist]
      exact .cons ⟨type, msg.id, hanswer, rfl, hd.id hpos⟩ .nil
  cases h with
  | silent hno =>
    have hans : answered bufSize (header, body) = false := by
      rcases hno with hsize | ⟨hne1, hne2⟩
      · simp [answered, hsize]
      · have hanswer : answerOf header = none := by
          simp [answerOf, ht, mt h1.mpr hne1, mt h2.mpr hne2]
        simp [answered, hanswer]
    refine .received rfl ?_ ?_
    · rw [if_pos hr]
      exact .cons hd .nil
    · rw [hans]
      exact .nil
  | puback hsize hq ha =>
    have hq1 := h1.mp hq
    exact hacked hsize (by omega) ha rfl (by decide) ((answerOf_publish ht).mpr (.inl ⟨hq1, rfl⟩))
  | pubrec hsize hq ha =>
    have hq2 := h2.mp hq
    exact hacked hsize (by omega) ha rfl (by decide) ((answerOf_publish ht).mpr (.inr ⟨hq2, rfl⟩))

theorem Answered.accounts {bufSize : Nat} {s : Session} {header : UInt8} {body : Bytes}
    {ev : List Event} (h : Answered bufSize s header body ev) (hb : body.length < 268435456) :
    Accounts bufSize (.received header body :: ev) := by
  have hunread (hne : headerType header ≠ PUBLISH) : readable (header, body) = false := by
    simp [readable, hne]
  cases h with
  | publish hf hr =>
    have htype : headerType header = PUBLISH := by
      have h := (deserializePublish_eq_some hf).1
      rwa [byteAt_framed] at h
    have hread : readable (header, body) = true := (readable_iff _ hb).mpr (by rw [hf]; simp)
    exact hr.accounts (delivers_of_parse _ hb hf) htype hread
  | unread ht hf =>
    have hread : readable (header, body) = false := by
      rw [Bool.eq_false_iff, ne_eq, readable_iff _ hb]
      exact not_not_intro hf
    refine .received rfl ?_ ?_
    · rw [hread]
      exact .nil
    · rw [show answered bufSize (header, body) = false by simp [answered, ht, hread]]
      exact .nil
  | @ack g _ hsize ht hr =>
    have hne : headerType header ≠ PUBLISH := by
      rcases ht with ht | ht <;> simp [ht]
    have hanswer : answerOf header = some (answerType (headerType header)) := by
      rcases ht with ht | ht <;> simp [answerOf, answerType, ht]
    have htype : isAck (answerType (headerType header)) = true ∧
        answerType (headerType header) < 16 := by
      rcases ht with ht | ht <;> rw [ht] <;> decide
    refine .received hr.heard_eq ?_ ?_
    · rw [hunread hne, hr.deliveries_eq]
      exact .nil
    · rw [hr.acknowledgements_eq htype.1 htype.2,
        show answered bufSize (header, body) = true by simp [answered, hsize, hanswer, hne]]
      refine .cons ⟨_, ackId g body, hanswer, rfl, fun hlen => ?_⟩ .nil
      simp only [idOffset, hne, if_false, Nat.zero_add] at hlen ⊢
      rw [ackId, if_pos hlen]
  | cramped hsize ht =>
    have hne : headerType header ≠ PUBLISH := by
      rcases ht with ht | ht <;> simp [ht]
    refine .received rfl ?_ ?_
    · rw [hunread hne]
      exact .nil
    · rw [show answered bufSize (header, body) = false by simp [answered, hsize]]
      exact .nil
  | other hne h2 h3 =>
    refine .received rfl ?_ ?_
    · rw [hunread hne]
      exact .nil
    · rw [show answered bufSize (header, body) = false by simp [answered, answerOf, hne, h2, h3]]
      exact .nil

theorem Act.accounts {bufSize : Nat} {connecting : Prop} {s t : Session} {ev : List Event}
    (h : Act bufSize connecting s ev t) : Accounts bufSize ev := by
  cases h with
  | turn h =>
    cases h with
    | idle hp _ => exact hp.accounts bufSize
    | read hb ha hp _ => exact (ha.accounts hb).append (hp.accounts bufSize)
  | request h ha =>
    refine ha.accounts bufSize ?_
    simp only [isRequest, Bool.or_eq_true, decide_eq_true_eq] at h
    rcases h with (((h | h) | h) | h) | h <;> rw [h] <;> decide
  | _ => exact .nil bufSize

theorem acts_accounts {bufSize : Nat} {connecting : Prop} {s t : Session} {ev : List Event}
    (h : Chain (Act bufSize connecting) s ev t) : Accounts bufSize ev := by
  induction h with
  | nil => exact .nil bufSize
  | snoc _ hact ih => exact ih.append hact.accounts

def Attempts (packet : Bytes) (e : Event) : Prop := e = .sent packet ∨ e = .unsent packet

def justDelivered (id : Nat) (log : List Event) : Prop :=
  ∃ pre topicName message handlers, log = pre ++ [.delivered topicName message handlers] ∧
    message.id = id

-- a PUBLISH is acknowledged directly after its delivery
def DeliveredFirst (log : List Event) : Prop :=
  ∀ type id, type = PUBACK ∨ type = PUBREC → id < 65536 →
    Stretch.Justified (Attempts (ackPacket type id)) (justDelivered id) log

theorem DeliveredFirst.quiet {log : List Event} {e : Event} (h : DeliveredFirst log)
    (he : ∀ type id, type = PUBACK ∨ type = PUBREC → ¬Attempts (ackPacket type id) e) :
    DeliveredFirst (log ++ [e]) := by
  intro type id htype hid
  exact (h type id htype hid).concat fun hS => absurd hS (he type id htype)

theorem not_attempts_of_type {packet : Bytes} {e : Event} (he : e = .sent packet ∨ e = .unsent packet)
    (hne : packetType packet ≠ PUBACK ∧ packetType packet ≠ PUBREC) {type id : Nat}
    (htype : type = PUBACK ∨ type = PUBREC) : ¬Attempts (ackPacket type id) e := by
  have hpacket (h : packet = ackPacket type id) : False := by
    rw [h] at hne
    rcases htype with rfl | rfl
    · exact hne.1 (packetType_ackPacket id (by decide))
    · exact hne.2 (packetType_ackPacket id (by decide))
  rintro (h | h)
  · rcases he with rfl | rfl
    · exact hpacket (Event.sent.inj h)
    · cases h
  · rcases he with rfl | rfl
    · cases h
    · exact hpacket (Event.unsent.inj h)

theorem DeliveredFirst.attempt {log ev : List Event} {packet : Bytes} (h : DeliveredFirst log)
    (ha : Attempt packet ev) (hne : packetType packet ≠ PUBACK ∧ packetType packet ≠ PUBREC) :
    DeliveredFirst (log ++ ev) := by
  rcases ha with rfl | rfl
  · exact h.quiet fun _ _ htype => not_attempts_of_type (.inl rfl) hne htype
  · exact h.quiet fun _ _ htype => not_attempts_of_type (.inr rfl) hne htype

theorem DeliveredFirst.reply {log ev : List Event} {topicName : MQTTString} {msg : Message}
    {handlers : List Nat} {ackType : Nat}
    (h : DeliveredFirst (log ++ [.delivered topicName msg handlers])) (hid : msg.id < 65536)
    (hack : ackType = PUBACK ∨ ackType = PUBREC) (ha : Attempt (ackPacket ackType msg.id) ev) :
    DeliveredFirst (log ++ [.delivered topicName msg handlers] ++ ev) := by
  have hsame {type id : Nat} (htype : type = PUBACK ∨ type = PUBREC) (hlt : id < 65536)
      (heq : ackPacket ackType msg.id = ackPacket type id) : msg.id = id := by
    have ht := congrArg packetType heq
    rw [packetType_ackPacket _ (by rcases hack with rfl | rfl <;> decide),
      packetType_ackPacket _ (by rcases htype with rfl | rfl <;> decide)] at ht
    rw [ht] at heq
    exact ackPacket_inj hid hlt heq
  intro type id htype hlt
  rcases ha with rfl | rfl
  · refine (h type id htype hlt).concat fun hS => ⟨log, topicName, msg, handlers, rfl, ?_⟩
    rcases hS with hS | hS
    · exact hsame htype hlt (Event.sent.inj hS)
    · cases hS
  · refine (h type id htype hlt).concat fun hS => ⟨log, topicName, msg, handlers, rfl, ?_⟩
    rcases hS with hS | hS
    · cases hS
    · exact hsame htype hlt (Event.unsent.inj hS)

theorem Pings.deliveredFirst {s t : Session} {log ev : List Event} (h : Pings s ev t)
    (hlog : DeliveredFirst log) : DeliveredFirst (log ++ ev) := by
  have hping : packetType pingreqPacket ≠ PUBACK ∧ packetType pingreqPacket ≠ PUBREC := by decide
  cases h with
  | quiet => rwa [List.append_nil]
  | sent => exact hlog.attempt (.inl rfl) hping
  | unsent => exact hlog.attempt (.inr rfl) hping

theorem message_id_lt {header : UInt8} {body tail : Bytes} {fields : PublishFields} (g : Nat)
    (hf : deserializePublish (framed header body ++ tail) = some fields)
    (hq : 0 < headerQoS header) : (fields.message g).id < 65536 := by
  obtain ⟨-, -, topicName, curdata, -, hid⟩ := deserializePublish_eq_some hf
  rw [byteAt_framed, if_pos hq] at hid
  rw [PublishFields.message, hid]
  exact readInt_lt _ _

theorem Answered.deliveredFirst {bufSize : Nat} {s : Session} {header : UInt8} {body : Bytes}
    {log ev : List Event} (h : Answered bufSize s header body ev)
    (hb : body.length < 268435456) (hlog : DeliveredFirst log) :
    DeliveredFirst (log ++ .received header body :: ev) := by
  have hreceived : DeliveredFirst (log ++ [.received header body]) :=
    hlog.quiet fun _ _ _ => by rintro (h | h) <;> cases h
  rw [List.append_cons]
  cases h with
  | @publish tail fields g reply hf hr =>
    obtain ⟨h1, h2⟩ := message_qos (delivers_of_parse g hb hf)
    have hdelivered := hreceived.quiet
      (e := .delivered fields.topicName (fields.message g) (s.invoked fields.topicName))
      fun _ _ _ => by rintro (h | h) <;> cases h
    rw [List.append_cons]
    cases hr with
    | silent => simpa using hdelivered
    | puback _ hq ha =>
      have hq1 := h1.mp hq
      exact hdelivered.reply (message_id_lt g hf (by omega)) (.inl rfl) ha
    | pubrec _ hq ha =>
      have hq2 := h2.mp hq
      exact hdelivered.reply (message_id_lt g hf (by omega)) (.inr rfl) ha
  | ack _ ht hr =>
    refine hreceived.attempt hr ?_
    rw [packetType_ackPacket _ (by rcases ht with ht | ht <;> rw [ht] <;> decide)]
    rcases ht with ht | ht <;> rw [ht] <;> decide
  | _ => simpa using hreceived

theorem Act.deliveredFirst {bufSize : Nat} {connecting : Prop} {s t : Session}
    {log ev : List Event} (h : Act bufSize connecting s ev t) (hlog : DeliveredFirst log) :
    DeliveredFirst (log ++ ev) := by
  cases h with
  | turn h =>
    cases h with
    | idle hp _ => exact hp.deliveredFirst hlog
    | read hb ha hp _ =>
      have h := hp.deliveredFirst (ha.deliveredFirst hb hlog)
      rwa [List.append_assoc, List.cons_append] at h
  | request h ha =>
    refine hlog.attempt ha ?_
    simp only [isRequest, Bool.or_eq_true, decide_eq_true_eq] at h
    rcases h with (((h | h) | h) | h) | h <;> rw [h] <;> decide
  | _ => rwa [List.append_nil]

theorem acts_deliveredFirst {bufSize : Nat} {connecting : Prop} {s t : Session}
    {log ev : List Event} (h : Chain (Act bufSize connecting) s ev t)
    (hlog : DeliveredFirst log) : DeliveredFirst (log ++ ev) := by
  induction h with
  | nil => rwa [List.append_nil]
  | snoc _ hact ih =>
    rw [← List.append_assoc]
    exact hact.deliveredFirst ih

variable {σ τ κ : Type} [Ipstack σ] [Timer τ κ]

theorem run_accounts (c : Client τ) (commandTimeoutMs : Nat) (sendbuf : Bytes)
    (sendbufSize : Nat) (readbuf : Bytes) (readbufSize : Nat) (idle : τ)
    (calls : List (Call σ κ)) :
    Accounts sendbufSize (System.run
        (.start c commandTimeoutMs sendbuf sendbufSize readbuf readbufSize idle) calls).log ∧
      DeliveredFirst (System.run
        (.start c commandTimeoutMs sendbuf sendbufSize readbuf readbufSize idle) calls).log := by
  have hsteps : Steps (System.perform (σ := σ) (κ := κ)) (fun _ _ => True)
      (.start c commandTimeoutMs sendbuf sendbufSize readbuf readbufSize idle) calls :=
    Steps.of_forall fun _ _ => trivial
  refine (hsteps.invariant (I := fun y : System τ => y.client.bufSize = sendbufSize ∧
    Accounts sendbufSize y.log ∧ DeliveredFirst y.log) (fun {y call} _ h => ?_)
    ⟨rfl, .nil _, fun _ _ _ _ => Stretch.justified_nil⟩).2
  obtain ⟨hlog, hsize, hdone⟩ := perform_done y call
  have hacts := acts_accounts hdone.acts
  rw [h.1] at hacts
  rw [hlog]
  exact ⟨hsize.trans h.1, h.2.1.append hacts, acts_deliveredFirst hdone.acts h.2.2⟩

end MbedMqtt.MQTTClientC
