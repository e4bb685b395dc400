import MbedMqtt.Contract.Inflight

namespace MbedMqtt

def handedPackets (events : List Event) : List Bytes := events.filterMap Event.handed

def withDup : Bytes → Bytes
  | [] => []
  | header :: rest =>
      headerByte (headerType header) 1 (headerQoS header) (headerRetain header) :: rest

structure InFlight (s : Session) (id : Nat) (packet : Bytes) (qos : QoS) : Prop where
  msgid : s.inflightMsgid = id
  qos : s.inflightQoS = qos
  len : s.inflightLen = packet.length
  bytes : s.pubbuf.take packet.length = packet

def Accepts (events after : List Event) : Prop :=
  ∃ pre header body, events = pre ++ .received header body :: after ∧
    headerType header = CONNACK ∧ 2 ≤ body.length ∧ byteAt body 1 = 0 ∧
    ∀ e ∈ pre, handsPublish e = false

def Discipline (id : Nat) (packet : Bytes) (pubrec : Prop) (handed : List Bytes) : Prop :=
  (pubrec → ackPacket PUBREL id ∈ handed ∧ packet ∉ handed ∧ withDup packet ∉ handed) ∧
    (¬pubrec → withDup packet ∈ handed)

instance (id : Nat) (packet : Bytes) (pubrec : Prop) [Decidable pubrec] (handed : List Bytes) :
    Decidable (Discipline id packet pubrec handed) :=
  inferInstanceAs (Decidable (_ ∧ _))

def duplicates (packet : Bytes) : Prop :=
  packetType packet = PUBLISH ∧ headerDup (byteAt packet 0) = 1

theorem withDup_duplicates {packet : Bytes} (hlen : 0 < packet.length)
    (ht : packetType packet = PUBLISH) : duplicates (withDup packet) := by
  cases packet with
  | nil => simp at hlen
  | cons header rest =>
    rw [packetType_cons] at ht
    constructor
    · rw [withDup, packetType_cons, headerType_headerByte, ht]
      decide
    · exact headerDup_headerByte ..

variable {cfg : Config} {s t : Session} {ev after : List Event} {rc : Int}

theorem SessionAct.never_duplicates {allowed : Bool → Prop} (h : SessionAct cfg allowed s ev t) :
    ∀ packet ∈ handedPackets ev, ¬duplicates packet := by
  have hrequest {packet : Bytes} (h : isRequest packet) : ¬duplicates packet := by
    rintro ⟨ht, hdup⟩
    rcases h with (h | h | h | h) | ⟨-, h⟩ <;> simp_all
  cases h with
  | cycle h =>
    intro packet hmem hdup
    obtain ⟨e, he, hhanded⟩ := List.mem_filterMap.mp hmem
    have hno := h.hands_no_publish e he
    simp [handsPublish, hhanded, hdup.1] at hno
  | sent h => simpa [handedPackets, Event.handed] using hrequest h
  | unsent h => simpa [handedPackets, Event.handed] using hrequest h
  | _ => simp [handedPackets]

theorem handedPackets_append (es fs : List Event) :
    handedPackets (es ++ fs) = handedPackets es ++ handedPackets fs :=
  List.filterMap_append

theorem conduct_never_duplicates {allowed : Bool → Prop}
    (h : Chain (SessionAct cfg allowed) s ev t) :
    ∀ packet ∈ handedPackets ev, ¬duplicates packet := by
  induction h with
  | nil => simp [handedPackets]
  | snoc _ hact ih =>
    rw [handedPackets_append, List.forall_mem_append]
    exact ⟨ih, hact.never_duplicates⟩

theorem Publishing.hands {packet : Bytes} {qos : QoS} (h : Publishing cfg packet qos s rc ev t) :
    ∃ e rest, ev = e :: rest ∧ e.handed = some packet := by
  cases h with
  | unsent => exact ⟨_, _, rfl, rfl⟩
  | sent => exact ⟨_, _, rfl, rfl⟩
  | acked => exact ⟨_, _, rfl, rfl⟩
  | unacked => exact ⟨_, _, rfl, rfl⟩

theorem Accepts.received (h : Accepts ev after) : ∃ header body, .received header body ∈ ev := by
  obtain ⟨pre, header, body, rfl, -⟩ := h
  exact ⟨header, body, by simp⟩

theorem Accepts.suffix (h : Accepts ev after) : after <:+ ev := by
  obtain ⟨pre, header, body, rfl, -⟩ := h
  exact ⟨pre ++ [.received header body], by simp⟩

theorem Accepts.before_publish {es fs rest : List Event} {e : Event} {packet : Bytes}
    (h : Accepts (es ++ fs) after) (hfs : fs = e :: rest) (he : e.handed = some packet)
    (ht : packetType packet = PUBLISH) : fs <:+ after := by
  obtain ⟨pre, header, body, heq, -, -, -, hpre⟩ := h
  have hhands : handsPublish e = true := by simp [handsPublish, he, ht]
  have hne {b : List Event} : fs ≠ .received header body :: b := by
    rintro h
    rw [hfs, List.cons.injEq] at h
    rw [h.1] at he
    cases he
  rcases List.append_eq_append_iff.mp heq with ⟨c, hpre', hc⟩ | ⟨c, hes, hc⟩
  · cases c with
    | nil => exact absurd hc hne
    | cons d c =>
      rw [hfs, List.cons_append, List.cons.injEq] at hc
      have hno := hpre d (by rw [hpre']; simp)
      rw [← hc.1, hhands] at hno
      cases hno
  · cases c with
    | nil => exact absurd hc.symm hne
    | cons d c =>
      rw [List.cons_append, List.cons.injEq] at hc
      exact ⟨c, hc.2.symm⟩

theorem Connects.resends {options : ConnectData} {id : Nat} {packet : Bytes} {qos : QoS}
    (h : Connects cfg options s rc ev t) (hout : Outbound cfg s) (hq : cfg.qos1 = true)
    (hclean : options.cleansession = false) (hconn : s.isconnected = false) (hpos : 0 < id)
    (hsize : packet.length ≤ cfg.maxPacketSize) (hin : InFlight s id packet qos)
    (haccepts : Accepts ev after) : packet ∈ handedPackets after := by
  have hopt : Outbound cfg (s.configured options) := ⟨hout.pubrel, hout.publish⟩
  have hconf : Frozen s.inflight (s.configured options) := ⟨hclean, hconn, rfl⟩
  cases h with
  | already h => simp [hconn] at h
  | unfit =>
    obtain ⟨header, body, hmem⟩ := haccepts.received
    simp at hmem
  | unsent =>
    obtain ⟨header, body, hmem⟩ := haccepts.received
    simp at hmem
  | @answered request ev₁ ev₂ u v verdict rc _ _ htype hw _ hr =>
    have hu := (hconf.waits hw).inflight
    have hlen : u.inflightLen = packet.length := (congrArg Inflight.inflightLen hu).trans hin.len
    have hid : u.inflightMsgid = id := (congrArg Inflight.inflightMsgid hu).trans hin.msgid
    have hbuf : u.pubbuf = s.pubbuf := congrArg Inflight.pubbuf hu
    have houtu : Outbound cfg u := hopt.chain (hw.conduct : Chain (SessionAct cfg fun _ => True) _ _ _)
    obtain ⟨sendbuf, hpublish, -, hp⟩ := hr.publishing houtu hq (by omega)
    have hresent : u.resent cfg sendbuf = packet := by
      rw [resent_eq sendbuf (by omega), hlen, hbuf, hin.bytes]
      rw [hlen, hbuf, ← hin.bytes, List.length_take]
      exact Nat.min_le_right _ _
    rw [hresent] at hp hpublish
    obtain ⟨e, rest, hev, he⟩ := hp.hands
    rw [← List.cons_append] at haccepts
    obtain ⟨c, rfl⟩ := haccepts.before_publish hev he hpublish
    rw [handedPackets_append, hev]
    exact List.mem_append_right _ (by simp [handedPackets, he])

variable {σ τ κ : Type} [Network σ] [Timer τ κ]

theorem since_never_duplicates {y : System τ} (hout : Outbound cfg y.client.toSession)
    (calls : List (Call σ κ)) :
    ∀ packet ∈ handedPackets (y.since cfg calls), ¬duplicates packet := by
  induction calls generalizing y with
  | nil => simp [System.since, handedPackets]
  | cons call calls ih =>
    have hchain : Chain (SessionAct cfg fun _ => True) _ _ _ :=
      (y.perform_runs cfg call).2.conduct hout fun _ _ => trivial
    rw [System.since, handedPackets_append, List.forall_mem_append]
    exact ⟨conduct_never_duplicates hchain, ih (hout.chain hchain)⟩

theorem undisciplined {id : Nat} {packet : Bytes} {pubrec : Prop} {handed : List Bytes}
    (hresent : packet ∈ handed) (hdup : withDup packet ∉ handed) :
    ¬Discipline id packet pubrec handed := by
  rintro ⟨hrelease, hretry⟩
  by_cases hp : pubrec
  · exact (hrelease hp).2.1 hresent
  · exact hdup (hretry hp)

theorem retransmission_undisciplined (cfg : Config) (hq : cfg.qos2 = true) (commandTimeoutMs : Nat)
    (idle : τ) (before : List (Call σ κ)) (call : Call σ κ)
    (connected disconnected : List (Call σ κ)) (reconnect : Call σ κ) (later : List (Call σ κ))
    (y lost z : System τ) (id : Nat) (packet : Bytes) (qos : QoS) (options : ConnectData)
    (after : List Event) (hy : y = System.run cfg (.start cfg commandTimeoutMs idle) before)
    (hlost : lost = System.run cfg y (call :: connected))
    (hz : z = System.run cfg lost disconnected)
    (hpersistent : ∀ c ∈ before ++ call :: connected ++ disconnected ++ reconnect :: later,
      c.op.keepsSession = true)
    (hhanded : call.op.handed cfg y.client.toSession = some (id, packet, qos))
    (hdown : lost.client.isconnected = false ∧ z.client.isconnected = false)
    (hfits : packet.length ≤ cfg.maxPacketSize) (hin : InFlight z.client.toSession id packet qos)
    (hop : reconnect.op = .connect options)
    (haccepts : Accepts (z.events cfg reconnect) after) :
    ¬Discipline id packet (Acknowledged PUBREC id (heard (y.since cfg (call :: connected))))
      (handedPackets (after ++ (z.perform cfg reconnect).since cfg later)) := by
  obtain ⟨hqos, -, hlen, topicName, payload, id', retained, -, hid, hser⟩ :=
    Op.handed_publish hhanded
  have hq1 := cfg.qos1_of_qos2 hq
  have hpos : 0 < id := by
    rw [hid, Session.publishId, if_pos (by rw [hq1]; exact hqos)]
    exact getNext_pos _
  have ht : packetType packet = PUBLISH := by
    rw [packetType, (serializePublish_header hlen hser).1, headerType_headerByte]
    decide
  have hout : Outbound cfg z.client.toSession := by
    have hreached := reachable_outbound cfg commandTimeoutMs idle
      (before ++ call :: connected ++ disconnected)
    rwa [System.run, List.foldl_append, List.foldl_append, ← System.run, ← System.run, ← System.run,
      ← hy, ← hlost, ← hz] at hreached
  have hclean : options.cleansession = false := by
    refine keepsSession_connect (hpersistent reconnect ?_) options hop
    exact List.mem_append_right _ List.mem_cons_self
  have hresent : packet ∈ handedPackets after := by
    have hrun := (z.perform_runs cfg reconnect).2
    rw [hop] at hrun
    cases hrun with
    | connect h => exact h.resends hout hq1 hclean hdown.2 hpos hfits hin haccepts
  refine undisciplined ?_ ?_
  · rw [handedPackets_append]
    exact List.mem_append_left _ hresent
  · intro hmem
    refine since_never_duplicates hout (reconnect :: later) _ ?_ (withDup_duplicates hlen ht)
    rw [handedPackets_append] at hmem
    rw [System.since, handedPackets_append]
    obtain ⟨pre, hpre⟩ := haccepts.suffix
    rw [← hpre, handedPackets_append]
    rcases List.mem_append.mp hmem with hmem | hmem
    · exact List.mem_append_left _ (List.mem_append_right _ hmem)
    · exact List.mem_append_right _ hmem

def openSession : System OracleTimer :=
  System.run (.standard .qos2) (.start (.standard .qos2) 30000 .oracle) [connectCall]

def publishedThen (stream : Bytes) : System OracleTimer :=
  System.run (.standard .qos2) openSession [publishCall .QOS2 stream]

def pubrecHeard (stream : Bytes) : Prop :=
  Acknowledged PUBREC 1
    (heard (openSession.since (.standard .qos2) [publishCall .QOS2 stream]))

instance (stream : Bytes) : Decidable (pubrecHeard stream) :=
  inferInstanceAs (Decidable (Acknowledged ..))

def publishedPacket : Bytes := [52, 6, 0, 1, 116, 0, 1, 120]

def reconnectEvents (stream : Bytes) : List Event :=
  (publishedThen stream).events (.standard .qos2) connectCall

def acceptsSecond (events : List Event) : Bool :=
  match events with
  | e :: .received header body :: _ => !handsPublish e && headerType header = CONNACK &&
      2 ≤ body.length && byteAt body 1 = 0
  | _ => false

theorem acceptsSecond_accepts {events : List Event} (h : acceptsSecond events = true) :
    Accepts events (events.drop 2) := by
  unfold acceptsSecond at h
  split at h
  · rename_i e header body rest
    simp only [Bool.and_eq_true, Bool.not_eq_true', decide_eq_true_eq] at h
    obtain ⟨⟨⟨hhands, htype⟩, hlen⟩, hrc⟩ := h
    exact ⟨[e], header, body, rfl, htype, hlen, hrc, by simpa using hhands⟩
  · cases h

theorem retransmission_undisciplined_pubrec :
    ¬Discipline 1 publishedPacket (pubrecHeard [80, 2, 0, 1])
      (handedPackets ((reconnectEvents [80, 2, 0, 1]).drop 2 ++ [])) :=
  retransmission_undisciplined (.standard .qos2) rfl 30000 OracleTimer.oracle [connectCall]
    (publishCall .QOS2 [80, 2, 0, 1]) [] [] connectCall [] openSession _
    (publishedThen [80, 2, 0, 1]) 1 publishedPacket .QOS2 _ _ rfl rfl rfl (by decide) (by decide)
    (by decide) (by decide) ⟨by decide, by decide, by decide, by decide⟩ rfl
    (acceptsSecond_accepts (by decide))

theorem retransmission_republished :
    (pubrecHeard [80, 2, 0, 1] ∧
      InFlight (publishedThen [80, 2, 0, 1]).client.toSession 1 publishedPacket .QOS2 ∧
      Accepts (reconnectEvents [80, 2, 0, 1]) ((reconnectEvents [80, 2, 0, 1]).drop 2) ∧
      ¬Discipline 1 publishedPacket (pubrecHeard [80, 2, 0, 1])
        (handedPackets ((reconnectEvents [80, 2, 0, 1]).drop 2))) ∧
    ¬pubrecHeard [] ∧ InFlight (publishedThen []).client.toSession 1 publishedPacket .QOS2 ∧
      Accepts (reconnectEvents []) ((reconnectEvents []).drop 2) ∧
      ¬Discipline 1 publishedPacket (pubrecHeard [])
        (handedPackets ((reconnectEvents []).drop 2)) := by
  refine ⟨⟨by decide, ⟨?_, ?_, ?_, ?_⟩, acceptsSecond_accepts (by decide), by decide⟩,
    by decide, ⟨?_, ?_, ?_, ?_⟩, acceptsSecond_accepts (by decide), by decide⟩
  all_goals decide

end MbedMqtt
