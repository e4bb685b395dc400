import MbedMqtt.Contract.SleepQueue
import MbedMqtt.Gateway.Aggregation

namespace MbedMqtt.MQTTSNGW

open PacketHandleTask

namespace IdTable

def live (table : IdTable) (msgId : UInt16) : Nat := table.entries.countP (·.msgId = msgId)

variable {table : IdTable}

theorem live_erase (table : IdTable) (erased msgId : UInt16) :
    (table.erase erased).live msgId +
      (if (table.lookup erased).isSome ∧ erased = msgId then 1 else 0) = table.live msgId := by
  cases hfound : table.lookup erased with
  | none => simp [erase, hfound]
  | some elm =>
    have hid : elm.msgId = erased := by simpa using List.find?_some hfound
    obtain ⟨before, after, hsplit, hnone⟩ := List.find?_eq_some_iff_append.mp hfound |>.2
    have herase : table.entries.eraseP (·.msgId = erased) = before ++ after := by
      rw [hsplit, List.eraseP_append_right _ (by simpa using hnone),
        List.eraseP_cons_of_pos (by simp [hid])]
    simp only [live, erase, hfound, herase, Option.isSome_some, true_and]
    simp only [hsplit, List.countP_append, List.countP_cons, hid, decide_eq_true_eq]
    split_ifs <;> omega

theorem live_add (table : IdTable) (client : Nat) (clientMsgId msgId : UInt16)
    (hids : table.packetId ≠ 0xffff) :
    (table.addMessageIdTable client clientMsgId).1.live msgId =
      table.live msgId + (if (table.addMessageIdTable client clientMsgId).2 ≠ 0 ∧
        (table.addMessageIdTable client clientMsgId).2 = msgId then 1 else 0) := by
  have hnext : Client.getNextPacketId table.packetId ≠ 0 := by
    unfold Client.getNextPacketId
    split
    · decide
    · intro hzero
      exact hids (by grind)
  cases hrefuses : table.refuses client clientMsgId with
  | true => simp [addMessageIdTable, hrefuses]
  | false =>
    simp only [addMessageIdTable, hrefuses, live, List.countP_append, List.countP_singleton,
      decide_eq_true_eq, Bool.false_eq_true, if_false, ne_eq, hnext, not_false_eq_true, true_and]

theorem packetId_add (client : Nat) (clientMsgId : UInt16) (hids : table.packetId ≠ 0xffff) :
    (table.addMessageIdTable client clientMsgId).1.packetId ≠ 0xffff := by
  unfold addMessageIdTable
  split_ifs
  · exact hids
  · simp only [Client.getNextPacketId]
    split_ifs with hlast
    · decide
    · exact hlast

theorem packetId_erase (msgId : UInt16) : (table.erase msgId).packetId = table.packetId := by
  unfold erase
  split <;> rfl

end IdTable

def tally (counted : Option UInt16) (msgId : UInt16) : Nat := if counted = some msgId then 1 else 0

section Accounting

variable {aggregater : Aggregater} {table : IdTable}

theorem Aggregater.Represents.answer (h : aggregater.Represents table)
    (hids : table.packetId ≠ 0xffff) (asked : Option Query) :
    ∃ answer after, aggregater.answer asked = some answer ∧ answer.aggregater.Represents after ∧
      after.packetId ≠ 0xffff ∧ ∀ msgId, after.live msgId + tally (answer.released asked) msgId =
        table.live msgId + tally (answer.allocated asked) msgId := by
  cases asked with
  | none => exact ⟨⟨aggregater, none, 0⟩, table, rfl, h, hids, fun _ => rfl⟩
  | some asked =>
    cases asked with
    | getMsgId client clientMsgId =>
      refine ⟨⟨aggregater, none, table.getMsgId client clientMsgId⟩, table, ?_, h, hids, fun _ => rfl⟩
      rw [Aggregater.answer, h.getMsgId]
      rfl
    | addMessageIdTable client clientMsgId =>
      obtain ⟨added, hadd, hafter⟩ := h.addMessageIdTable client clientMsgId
      refine ⟨_, _, by rw [Aggregater.answer, hadd]; rfl, hafter,
        IdTable.packetId_add client clientMsgId hids, ?_⟩
      intro msgId
      rw [table.live_add client clientMsgId msgId hids]
      simp only [Answer.released, Answer.allocated, tally]
      split_ifs <;> simp_all
    | convertClient converted =>
      obtain ⟨after, hconvert, hafter⟩ := h.convertClient converted
      refine ⟨_, _, by rw [Aggregater.answer, hconvert]; rfl, hafter, ?_, ?_⟩
      · rw [IdTable.convertClient, IdTable.packetId_erase]
        exact hids
      · intro msgId
        have hlive := table.live_erase converted msgId
        simp only [Answer.released, Answer.allocated, tally, IdTable.convertClient, Option.map_map]
        rw [← hlive]
        cases table.lookup converted with
        | none => simp
        | some elm => simp

end Accounting

namespace Aggregating

variable {gw : Gateway} {clients : Nat → Client} {s : Aggregating}

def entry (gw : Gateway) (clients : Nat → Client) (ev : Event) (answer : Answer)
    (uninitialised : UInt16) : Entry where
  event := ev
  result := handleEvent gw (answer.ids uninitialised) clients ev
  allocated := answer.allocated (query gw clients ev)
  released := answer.released (query gw clients ev)

inductive Moves (gw : Gateway) (s : Aggregating) : Aggregating → Prop
  | passed {task : State} (kept : ∀ c, (task.clients c).identity = (s.task.clients c).identity) :
      Moves gw s { s with task := task }
  | handled {task : State} {ev : Event} {answer : Answer} {uninitialised : UInt16}
      (kept : ∀ c, (task.clients c).identity = (s.task.clients c).identity)
      (answered : s.aggregater.answer (query gw s.task.clients ev) = some answer) :
      Moves gw s ⟨task, answer.aggregater, s.log ++ [entry gw s.task.clients ev answer uninitialised]⟩

theorem moves (gw : Gateway) (s : Aggregating) (act : Act) : Moves gw s (step gw s act) := by
  cases act with
  | post ev => exact .passed (step_identity gw s.task _)
  | connectSended c => exact .passed (step_identity gw s.task _)
  | disconnected c => exact .passed (step_identity gw s.task _)
  | handle uninitialised =>
    simp only [step]
    split
    · exact .passed fun _ => rfl
    split
    · exact .passed fun _ => rfl
    · rename_i ev rest hitems
      cases hanswer : s.aggregater.answer (query gw s.task.clients ev) with
      | none =>
        simp only [handle, hanswer]
        exact .passed fun _ => rfl
      | some answer =>
        simp only [handle, hanswer]
        exact .handled (step_identity gw s.task _) hanswer

structure Balanced (s : Aggregating) : Prop where
  table : ∃ table : IdTable, s.aggregater.Represents table ∧ table.packetId ≠ 0xffff ∧
    ∀ msgId, s.log.countP (·.allocated = some msgId) =
      s.log.countP (·.released = some msgId) + table.live msgId

theorem balanced_initial (clients : Nat → Client) : (initial clients).Balanced :=
  ⟨⟨.initial, Aggregater.represents_initial, by decide, fun _ => rfl⟩⟩

theorem Balanced.moves {after : Aggregating} (h : s.Balanced) (hmoves : Moves gw s after) :
    after.Balanced := by
  obtain ⟨table, hrep, hids, hcount⟩ := h.table
  cases hmoves with
  | passed kept => exact ⟨⟨table, hrep, hids, hcount⟩⟩
  | @handled task ev answer uninitialised kept answered =>
    obtain ⟨same, next, hanswer, hnext, hstill, hlive⟩ := hrep.answer hids (query gw s.task.clients ev)
    obtain rfl := Option.some.inj (answered.symm.trans hanswer)
    refine ⟨⟨next, hnext, hstill, ?_⟩⟩
    intro msgId
    have hbefore := hcount msgId
    have hafter := hlive msgId
    simp only [tally] at hafter
    simp only [List.countP_append, List.countP_singleton, entry, decide_eq_true_eq]
    omega

structure Genuine (gw : Gateway) (clients : Nat → Client) (logged : Entry) : Prop where
  made : ∃ current ev answer uninitialised, (∀ c, (current c).identity = (clients c).identity) ∧
    logged = entry gw current ev answer uninitialised

structure Logged (gw : Gateway) (clients : Nat → Client) (s : Aggregating) : Prop where
  kept : ∀ c, (s.task.clients c).identity = (clients c).identity
  genuine : ∀ logged ∈ s.log, Genuine gw clients logged

theorem Logged.moves {after : Aggregating} (h : Logged gw clients s) (hmoves : Moves gw s after) :
    Logged gw clients after := by
  cases hmoves with
  | passed kept => exact ⟨fun c => (kept c).trans (h.kept c), h.genuine⟩
  | @handled task ev answer uninitialised kept answered =>
    refine ⟨fun c => (kept c).trans (h.kept c), ?_⟩
    intro logged hmem
    rcases List.mem_append.mp hmem with hold | hnew
    · exact h.genuine logged hold
    · obtain rfl := List.mem_singleton.mp hnew
      exact ⟨⟨s.task.clients, ev, answer, uninitialised, h.kept, rfl⟩⟩

theorem Genuine.pubrel {logged : Entry} (h : Genuine gw clients logged) {c : Nat}
    {msgId : Option UInt16} (haggregated : isAggregatedClient gw (clients c) = true)
    (hevent : logged.event = .clientRecv c (.pubrel msgId)) : logged.result.brokerSend c = [] := by
  obtain ⟨current, ev, answer, uninitialised, hkept, rfl⟩ := h.made
  obtain rfl : ev = _ := hevent
  rw [← isAggregatedClient_of_identity gw (hkept c)] at haggregated
  have hpacket : ∀ ids, clientPacket gw ids (current c) (.pubrel msgId) =
      some (.unchanged (current c)) := by
    intro ids
    rw [clientPacket, haggregated]
    rfl
  simp only [entry, handleEvent_clientRecv (hpacket _), Result.brokerSend, Handled.unchanged, ite_self]

theorem Genuine.converted {logged : Entry} (h : Genuine gw clients logged) {a c : Nat}
    {packet : MQTTGWPacket} (haggregater : (clients a).isAggregater = true)
    (hevent : logged.event = .brokerRecv a packet) (htype : packet.getType ∈ [PUBREC, PUBCOMP])
    (hsent : logged.result.clientSend c ≠ []) : logged.released = some packet.getMsgId := by
  obtain ⟨current, ev, answer, uninitialised, hkept, rfl⟩ := h.made
  obtain rfl : ev = _ := hevent
  rw [← isAggregater_of_identity (hkept a)] at haggregater
  have hlisted : packet.getType ∈ [PUBACK, PUBREC, PUBCOMP, SUBACK, UNSUBACK] := by
    rcases List.mem_pair.mp htype with hrec | hcomp
    · rw [hrec]
      decide
    · rw [hcomp]
      decide
  have hquery : query gw current (.brokerRecv a packet) = some (.convertClient packet.getMsgId) := by
    rw [query, if_pos ⟨haggregater, hlisted⟩]
  have hresult : ∀ ids : MessageIds, ids.convertClient packet.getMsgId = none →
      handleEvent gw ids current (.brokerRecv a packet) = .done a (.unchanged (current a)) := by
    intro ids hnone
    have hothers : packet.getType ≠ CONNACK ∧ packet.getType ≠ PINGRESP ∧
        packet.getType ≠ PUBLISH ∧ packet.getType ≠ PUBREL := by
      rcases List.mem_pair.mp htype with hrec | hcomp
      · rw [hrec]
        decide
      · rw [hcomp]
        decide
    simp only [handleEvent, haggregater, if_true, aggregateBrokerPacket, if_neg hothers.1,
      if_neg hothers.2.1, if_neg hothers.2.2.1, if_neg hothers.2.2.2, if_pos hlisted, hnone]
  simp only [entry, hquery, Answer.released]
  cases hconvert : answer.convertClient with
  | some owner => rfl
  | none =>
    refine absurd ?_ hsent
    simp only [entry, hresult (answer.ids uninitialised) hconvert, Result.clientSend]
    split <;> rfl

theorem run_balanced (gw : Gateway) (h : s.Balanced) (acts : List Act) :
    (run gw s acts).Balanced := by
  induction acts generalizing s with
  | nil => exact h
  | cons act acts ih => exact ih (h.moves (moves gw s act))

theorem run_logged (h : Logged gw clients s) (acts : List Act) :
    Logged gw clients (run gw s acts) := by
  induction acts generalizing s with
  | nil => exact h
  | cons act acts ih => exact ih (h.moves (moves gw s act))

theorem initial_logged (gw : Gateway) (clients : Nat → Client) :
    Logged gw clients (initial clients) := by
  refine ⟨fun _ => rfl, ?_⟩
  intro logged hmem
  exact absurd hmem List.not_mem_nil

theorem released_once {acts : List Act} {first second : Entry} {msgId : UInt16}
    (horder : [first, second].Sublist (run gw (initial clients) acts).log)
    (honce : (run gw (initial clients) acts).log.countP (·.allocated = some msgId) ≤ 1) :
    ¬(first.released = some msgId ∧ second.released = some msgId) := by
  rintro ⟨hfirst, hsecond⟩
  obtain ⟨table, -, -, hcount⟩ := (run_balanced gw (balanced_initial clients) acts).table
  have htwo := horder.countP_le (p := fun logged => decide (logged.released = some msgId))
  simp only [List.countP_cons, List.countP_nil, hfirst, hsecond, decide_true, if_true] at htwo
  have hbalance := hcount msgId
  omega

end Aggregating

def Entry.Acknowledges (clients : Nat → Client) (type : Nat) (msgId : UInt16) (logged : Entry) :
    Prop :=
  ∃ a packet, logged.event = .brokerRecv a packet ∧ (clients a).isAggregater = true ∧
    packet.getType = type ∧ packet.getMsgId = msgId

structure QoS2Exchange (gw : Gateway) (clients : Nat → Client) (c : Nat) (clientMsgId msgId : UInt16)
    (publish pubrec pubrel pubcomp : Entry) : Prop where
  aggregated : isAggregatedClient gw (clients c) = true
  published : ∃ packet, publish.event = .clientRecv c (.publish (some packet)) ∧
    packet.qos = .QOS2 ∧ packet.msgId = clientMsgId
  forwarded : ∃ packet ∈ publish.result.brokerSend c, packet.getType = PUBLISH ∧
    packet.getMsgId = msgId
  received : pubrec.Acknowledges clients PUBREC msgId
  released : pubrel.event = .clientRecv c (.pubrel (some clientMsgId))
  completed : pubcomp.Acknowledges clients PUBCOMP msgId

structure CarriedThrough (c : Nat) (clientMsgId msgId : UInt16) (pubrec pubrel pubcomp : Entry) : Prop where
  received : .pubrec (some clientMsgId) ∈ pubrec.result.clientSend c
  released : .setAck PUBREL msgId ∈ pubrel.result.brokerSend c
  completed : .pubcomp (some clientMsgId) ∈ pubcomp.result.clientSend c

theorem aggregated_qos2_unfinished (gw : Gateway) (clients : Nat → Client)
    (acts : List Aggregating.Act) (c : Nat) (clientMsgId msgId : UInt16)
    (publish pubrec pubrel pubcomp : Entry)
    (horder : [publish, pubrec, pubrel, pubcomp].Sublist
      (Aggregating.run gw (.initial clients) acts).log)
    (h : QoS2Exchange gw clients c clientMsgId msgId publish pubrec pubrel pubcomp) :
    ¬CarriedThrough c clientMsgId msgId pubrec pubrel pubcomp ∧
    pubrel.result.brokerSend c = [] ∧
    ((Aggregating.run gw (.initial clients) acts).log.countP (·.allocated = some msgId) ≤ 1 →
      ¬(.pubrec (some clientMsgId) ∈ pubrec.result.clientSend c ∧
        .pubcomp (some clientMsgId) ∈ pubcomp.result.clientSend c)) := by
  have hgenuine : ∀ logged ∈ [publish, pubrec, pubrel, pubcomp],
      Aggregating.Genuine gw clients logged := fun logged hmem =>
    (Aggregating.run_logged (Aggregating.initial_logged gw clients) acts).genuine logged
      (horder.subset hmem)
  have hdropped : pubrel.result.brokerSend c = [] :=
    (hgenuine pubrel (by simp)).pubrel h.aggregated h.released
  refine ⟨?_, hdropped, ?_⟩
  · intro hrelayed
    have hsent := hrelayed.released
    rw [hdropped] at hsent
    exact List.not_mem_nil hsent
  · rintro honce ⟨hrec, hcomp⟩
    obtain ⟨a, packet, hevent, haggregater, htype, rfl⟩ := h.received
    obtain ⟨b, other, hlater, haggregater', htype', hid⟩ := h.completed
    have hfirst := (hgenuine pubrec (by simp)).converted haggregater hevent (by simp [htype])
      (List.ne_nil_of_mem hrec)
    have hsecond := (hgenuine pubcomp (by simp)).converted haggregater' hlater (by simp [htype'])
      (List.ne_nil_of_mem hcomp)
    have hpair : [pubrec, pubcomp].Sublist [publish, pubrec, pubrel, pubcomp] :=
      .cons _ (.cons_cons _ (.cons _ (.refl _)))
    exact Aggregating.released_once (hpair.trans horder) honce ⟨hfirst, hid ▸ hsecond⟩

def aggregatingGateway : Gateway := { bareGateway with aggregaterActive := true }

def aggregatedClients : Nat → Client := fun c =>
  if c = 9 then .initial .aggregater [0x67] .initial else .initial .aggregated [0x63] .initial

def answers (ev : Event) : List Aggregating.Act := [.post ev, .handle 0]

def aggregatedPublish : SNPublish :=
  ⟨false, .QOS2, false, 7, ⟨.short, .shortName 0x61 0x62⟩, [0x68]⟩

def aggregatedExchange : List Aggregating.Act :=
  answers (.clientRecv 0 (.connect (some ⟨true, false, 60⟩))) ++
    answers (.clientRecv 0 (.publish (some aggregatedPublish))) ++
    answers (.brokerRecv 9 (.setAck PUBREC 1)) ++ answers (.clientRecv 0 (.pubrel (some 7))) ++
    answers (.brokerRecv 9 (.setAck PUBCOMP 1))

def exchangeLog : List Entry :=
  (Aggregating.run aggregatingGateway (.initial aggregatedClients) aggregatedExchange).log

def logged (n : Nat) : Entry := exchangeLog.getD n ⟨.broadcast, .nothing, none, none⟩

theorem getD_sublist {α : Type} (d : α) : ∀ {l : List α}, l.length = 5 →
    [l.getD 1 d, l.getD 2 d, l.getD 3 d, l.getD 4 d].Sublist l
  | [_, _, _, _, _], _ => .cons _ (.refl _)

theorem logged_sublist : [logged 1, logged 2, logged 3, logged 4].Sublist exchangeLog :=
  getD_sublist _ (by decide +kernel)

theorem logged_exchange :
    QoS2Exchange aggregatingGateway aggregatedClients 0 7 1 (logged 1) (logged 2) (logged 3) (logged 4) where
  aggregated := by decide
  published := ⟨aggregatedPublish, by decide +kernel, rfl, rfl⟩
  forwarded := by decide +kernel
  received := ⟨9, .setAck PUBREC 1, by decide +kernel⟩
  released := by decide +kernel
  completed := ⟨9, .setAck PUBCOMP 1, by decide +kernel⟩

theorem aggregated_qos2_unfinished_once :
    (logged 2).result.clientSend 0 = [.pubrec (some 7)] ∧ (logged 3).result.brokerSend 0 = [] ∧
    .pubcomp (some 7) ∉ (logged 4).result.clientSend 0 := by
  have h := aggregated_qos2_unfinished aggregatingGateway aggregatedClients aggregatedExchange 0 7 1
    (logged 1) (logged 2) (logged 3) (logged 4) logged_sublist logged_exchange
  have hreceived : (logged 2).result.clientSend 0 = [.pubrec (some 7)] := by decide +kernel
  refine ⟨hreceived, h.2.1, ?_⟩
  intro hcompleted
  exact h.2.2 (by decide +kernel) ⟨by rw [hreceived]; simp, hcompleted⟩

theorem aggregated_pubrel_dropped :
    ¬∀ publish pubrec pubrel pubcomp, [publish, pubrec, pubrel, pubcomp].Sublist exchangeLog →
      QoS2Exchange aggregatingGateway aggregatedClients 0 7 1 publish pubrec pubrel pubcomp →
        CarriedThrough 0 7 1 pubrec pubrel pubcomp := by
  intro h
  have hreleased := (h _ _ _ _ logged_sublist logged_exchange).released
  revert hreleased
  decide +kernel

end MbedMqtt.MQTTSNGW
