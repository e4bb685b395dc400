import MbedMqtt.Library.Stretch
import MbedMqtt.Client.Conduct
import MbedMqtt.Network.Script

namespace MbedMqtt

open Stretch

def deliversQoS2 (id : Nat) : Event → Bool
  | .delivered _ message _ => message.qos = .QOS2 && message.id = id
  | _ => false

def Released (id : Nat) (r : List Event) : Prop :=
  ∃ header body, r = [.received header body, .sent (ackPacket PUBCOMP id)] ∧
    headerType header = PUBREL ∧ readInt body 0 = id

def wellFormed (p : UInt8 × Bytes) : Bool :=
  if headerType p.1 = PUBLISH then
    2 + readInt p.2 0 + (if 0 < headerQoS p.1 then 2 else 0) ≤ p.2.length
  else if headerType p.1 = PUBACK ∨ headerType p.1 = PUBREC ∨ headerType p.1 = PUBREL ∨
      headerType p.1 = PUBCOMP then 2 ≤ p.2.length
  else true

theorem wellFormed_pubrel {header : UInt8} {body : Bytes} (h : wellFormed (header, body) = true)
    (ht : headerType header = PUBREL) : 2 ≤ body.length := by
  simpa [wellFormed, ht] using h

structure Guard (s : Session) (log : List Event) : Prop where
  persistent : s.cleansession = false
  nodup : (SlotTable.entries 0 s.incomingQoS2messages).Nodup
  held : ∀ id, Pending (deliversQoS2 id) (Released id) log →
    id ≠ 0 ∧ id ∈ s.incomingQoS2messages
  once : ∀ id, AtMostOnce (deliversQoS2 id) (Released id) log

namespace Guard

variable {cfg : Config} {s t : Session} {log es : List Event}

theorem quiet (h : Guard s log) (ht : t.incomingQoS2messages = s.incomingQoS2messages)
    (hc : t.cleansession = false) (hes : ∀ e ∈ es, ∀ id, deliversQoS2 id e = false) :
    Guard t (log ++ es) where
  persistent := hc
  nodup := by
    rw [ht]
    exact h.nodup
  held id hp := by
    rw [ht]
    exact h.held id (hp.of_append fun e he => hes e he id)
  once id := (h.once id).append_quiet fun e he => hes e he id

theorem fresh (h : Guard s log) {topicName : MQTTString} {msg : Message} {handlers : List Nat}
    (hnew : msg.id ∉ s.incomingQoS2messages) (hroom : 0 ∈ s.incomingQoS2messages) :
    Guard { s with incomingQoS2messages := (useQoS2msgid s.incomingQoS2messages msg.id).2 }
      (log ++ [.delivered topicName msg handlers]) := by
  have hid : msg.id ≠ 0 := fun heq => hnew (heq ▸ hroom)
  refine ⟨h.persistent, SlotTable.fill_nodup hid hroom hnew h.nodup, fun id hp => ?_, fun id => ?_⟩
  · by_cases heq : id = msg.id
    · subst heq
      exact ⟨hid, (SlotTable.mem_fill hid hid hroom).mpr (.inl rfl)⟩
    · have hquiet : ∀ e ∈ [Event.delivered topicName msg handlers], deliversQoS2 id e = false := by
        simp [deliversQoS2, Ne.symm heq]
      obtain ⟨hne, hmem⟩ := h.held id (hp.of_append hquiet)
      exact ⟨hne, (SlotTable.mem_fill hid hne hroom).mpr (.inr hmem)⟩
  · by_cases heq : id = msg.id
    · subst heq
      exact (h.once msg.id).fresh fun hp => hnew (h.held _ hp).2
    · exact (h.once id).quiet (by simp [deliversQoS2, Ne.symm heq])

theorem released (h : Guard s log) {id : Nat} (hes : Released id es) :
    Guard { s with incomingQoS2messages := freeQoS2msgid s.incomingQoS2messages id }
      (log ++ es) := by
  have hquiet : ∀ e ∈ es, ∀ id', deliversQoS2 id' e = false := by
    obtain ⟨header, body, rfl, -⟩ := hes
    simp [deliversQoS2]
  refine ⟨h.persistent, SlotTable.vacate_nodup id h.nodup, fun id' hp => ?_,
    fun id' => (h.once id').append_quiet fun e he => hquiet e he id'⟩
  obtain ⟨hne, hmem⟩ := h.held id' (hp.of_append fun e he => hquiet e he id')
  have hother : id' ≠ id := by
    rintro rfl
    exact not_pending_release (fun e he => hquiet e he id') hes hp
  exact ⟨hne, (SlotTable.mem_vacate_of_ne hne hother).mpr hmem⟩

theorem delivers (h : Guard s log) (hq : cfg.qos2 = true) {topicName : MQTTString} {msg : Message}
    {dev : List Event} (hd : Delivers cfg s topicName msg dev t) : Guard t (log ++ dev) := by
  cases hd with
  | plain handlers hplain =>
    refine h.quiet rfl h.persistent ?_
    have hqos : msg.qos ≠ .QOS2 := fun hqos => hplain ⟨hq, hqos⟩
    simp [deliversQoS2, hqos]
  | fresh handlers _ _ hnew hroom => exact h.fresh hnew hroom
  | duplicate => simpa using h
  | overflow => simpa using h

theorem close (h : Guard s log) : Guard (s.close cfg) log := by
  rcases close_cases cfg s with ⟨-, heq⟩ | ⟨hclean, -⟩
  · rw [heq]
    exact ⟨h.persistent, h.nodup, h.held, h.once⟩
  · simp [h.persistent] at hclean

theorem cycleAct (h : Guard s log) (hq : cfg.qos2 = true)
    (hwell : ∀ p ∈ heard es, wellFormed p = true) (hact : CycleAct cfg s es t) :
    Guard t (log ++ es) := by
  cases hact with
  | heard => exact h.quiet rfl h.persistent (by simp [deliversQoS2])
  | @publish _ header body _ fields g dev reply _ _ hd hr =>
    have hreceived : Guard s (log ++ [.received header body]) :=
      h.quiet rfl h.persistent (by simp [deliversQoS2])
    have hdelivered := hreceived.delivers hq hd
    have hquiet : ∀ e ∈ reply, ∀ id, deliversQoS2 id e = false := by
      cases hr <;> simp [deliversQoS2]
    simpa using hdelivered.quiet rfl hdelivered.persistent hquiet
  | pubrec => exact h.quiet rfl h.persistent (by simp [deliversQoS2])
  | unanswered => exact h.quiet rfl h.persistent (by simp [deliversQoS2])
  | @release header body id _ ht hid =>
    have hlen := wellFormed_pubrel (hwell (header, body) (by simp)) ht
    exact h.released ⟨header, body, rfl, ht, (hid hlen).symm⟩
  | ping => exact h.quiet rfl h.persistent (by simp [deliversQoS2])
  | noPing => exact h.quiet rfl h.persistent (by simp [deliversQoS2])
  | close => simpa using h.close

theorem act (h : Guard s log) (hq : cfg.qos2 = true)
    (hwell : ∀ p ∈ heard es, wellFormed p = true)
    (hact : SessionAct cfg (· = false) s es t) : Guard t (log ++ es) := by
  cases hact with
  | cycle hact => exact h.cycleAct hq hwell hact
  | configured hclean => exact h.quiet rfl hclean (by simp)
  | acknowledged id =>
    exact h.quiet (acknowledge_incomingQoS2messages s id)
      ((acknowledge_cleansession s id).trans h.persistent) (by simp)
  | _ => exact h.quiet rfl h.persistent (by simp [deliversQoS2])

theorem conduct (h : Guard s log) (hq : cfg.qos2 = true)
    (hwell : ∀ p ∈ heard es, wellFormed p = true)
    (hchain : Chain (SessionAct cfg (· = false)) s es t) : Guard t (log ++ es) := by
  induction hchain with
  | nil => simpa using h
  | snoc _ hact ih =>
    simp only [heard_append, List.mem_append] at hwell
    rw [← List.append_assoc]
    exact (ih fun p hp => hwell p (.inl hp)).act hq (fun p hp => hwell p (.inr hp)) hact

theorem initial (cfg : Config) (commandTimeoutMs : Nat) {options : ConnectData}
    (hclean : options.cleansession = false) :
    Guard ((Session.initial cfg commandTimeoutMs).configured options) [] where
  persistent := hclean
  nodup := by
    simp [Session.configured, Session.initial, SlotTable.entries]
  held id hp := by
    obtain ⟨d, hd, -⟩ := hp.mem
    cases hd
  once id := atMostOnce_nil

end Guard

variable {σ τ κ : Type} [Network σ] [Timer τ κ]

def Op.keepsSession : Op → Bool
  | .connect options => !options.cleansession
  | _ => true

theorem keepsSession_connect {op : Op} (h : op.keepsSession = true) (options : ConnectData)
    (hop : op = .connect options) : options.cleansession = false := by
  subst hop
  simpa [Op.keepsSession] using h

structure Guarded (cfg : Config) (y : System τ) : Prop where
  outbound : Outbound cfg y.client.toSession
  guard : (∀ p ∈ heard y.log, wellFormed p = true) → Guard y.client.toSession y.log

theorem Guarded.perform {cfg : Config} (hq : cfg.qos2 = true) {y : System τ} (h : Guarded cfg y)
    {call : Call σ κ} (hcall : call.op.keepsSession = true) : Guarded cfg (y.perform cfg call) := by
  obtain ⟨hlog, hrun⟩ := y.perform_runs cfg call
  have hchain : Chain (SessionAct cfg (· = false)) _ _ _ := hrun.conduct h.outbound
    (keepsSession_connect hcall)
  refine ⟨h.outbound.chain hchain, fun hwell => ?_⟩
  rw [hlog] at hwell ⊢
  simp only [heard_append, List.mem_append] at hwell
  exact (h.guard fun p hp => hwell p (.inl hp)).conduct hq (fun p hp => hwell p (.inr hp)) hchain

theorem Guarded.start {cfg : Config} (hq : cfg.qos2 = true) (commandTimeoutMs : Nat) (idle : τ)
    {call : Call σ κ} {options : ConnectData} (hop : call.op = .connect options)
    (hclean : options.cleansession = false) :
    Guarded cfg ((System.start cfg commandTimeoutMs idle).perform cfg call) := by
  obtain ⟨hlog, hrun⟩ := (System.start cfg commandTimeoutMs idle).perform_runs cfg call
  have houtbound : Outbound cfg (System.start cfg commandTimeoutMs idle).client.toSession := by
    rw [System.start, Client.construct_toSession]
    exact Outbound.initial cfg commandTimeoutMs
  have hsession : (System.start cfg commandTimeoutMs idle).client.toSession =
      .initial cfg commandTimeoutMs := Client.construct_toSession cfg commandTimeoutMs idle
  rw [hop] at hrun
  rw [hsession] at hrun houtbound
  cases hrun with
  | connect hc =>
    have hchain : Chain (SessionAct cfg (· = false)) _ _ _ := hc.conduct_configured houtbound rfl
    have hconf : Outbound cfg ((Session.initial cfg commandTimeoutMs).configured options) :=
      ⟨houtbound.pubrel, houtbound.publish⟩
    refine ⟨hconf.chain hchain, fun hwell => ?_⟩
    rw [hlog] at hwell ⊢
    refine (Guard.initial cfg commandTimeoutMs hclean).conduct hq (fun p hp => hwell p ?_) hchain
    rw [heard_append]
    exact List.mem_append_right _ hp

theorem incoming_qos2_at_most_once (cfg : Config) (hq : cfg.qos2 = true) (commandTimeoutMs : Nat)
    (idle : τ) (first : Call σ κ) (calls : List (Call σ κ)) (options : ConnectData)
    (hfirst : first.op = .connect options)
    (hpersistent : ∀ call ∈ first :: calls, call.op.keepsSession = true)
    (hwell : ∀ p ∈ heard (System.run cfg (.start cfg commandTimeoutMs idle) (first :: calls)).log,
      wellFormed p = true) :
    (SlotTable.entries 0 (System.run cfg (.start cfg commandTimeoutMs idle)
        (first :: calls)).client.incomingQoS2messages).Nodup ∧
      ∀ id, id ≠ 0 → ∀ stretch,
        stretch <:+: (System.run cfg (.start cfg commandTimeoutMs idle) (first :: calls)).log →
        (∀ r, Released id r → ¬r <:+: stretch) → stretch.countP (deliversQoS2 id) ≤ 1 := by
  have hstart := Guarded.start hq commandTimeoutMs idle hfirst
    (keepsSession_connect (hpersistent first List.mem_cons_self) options hfirst)
  have hsteps : Steps (System.perform cfg) (fun _ call => call.op.keepsSession = true)
      ((System.start cfg commandTimeoutMs idle).perform cfg first) calls :=
    Steps.of_forall fun call hcall => hpersistent call (List.mem_cons_of_mem first hcall)
  have hrun : Guarded cfg (System.run cfg (.start cfg commandTimeoutMs idle) (first :: calls)) :=
    hsteps.invariant (fun hcall h => h.perform hq hcall) hstart
  have hguard := hrun.guard hwell
  exact ⟨hguard.nodup, fun id _ => hguard.once id⟩

def connectCall : Call Script Bool :=
  ⟨.connect { ConnectData.initializer with keepAliveInterval := 0, cleansession := false },
    ⟨[32, 2, 0, 0], [], []⟩, List.replicate 4 false, []⟩

def repeatedPublish : Call Script Bool :=
  ⟨.yield 1000, ⟨[52, 5, 0, 1, 116, 0, 7, 60, 5, 0, 1, 116, 0, 7], [], []⟩,
    List.replicate 9 false, []⟩

theorem incoming_qos2_repeated :
    (System.run (.standard .qos2) (.start (.standard .qos2) 30000 OracleTimer.oracle)
        [connectCall, repeatedPublish, repeatedPublish]).log.countP (deliversQoS2 7) = 1 ∧
      (SlotTable.entries 0 (System.run (.standard .qos2)
        (.start (.standard .qos2) 30000 OracleTimer.oracle)
        [connectCall, repeatedPublish, repeatedPublish]).client.incomingQoS2messages).Nodup :=
  ⟨by decide, (incoming_qos2_at_most_once (.standard .qos2) rfl 30000 OracleTimer.oracle connectCall
    [repeatedPublish, repeatedPublish] _ rfl (by decide) (by decide)).1⟩

end MbedMqtt
