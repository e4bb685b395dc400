import MbedMqtt.Gateway.EventEffect
import MbedMqtt.Library.Steps

namespace MbedMqtt.MQTTSNGW

open PacketHandleTask

def acknowledgeable (packet : MQTTGWPacket) : Bool :=
  packet.getPUBLISH.qos = 1 || packet.getPUBLISH.qos = 2

def isReply (packet reply : MQTTGWPacket) : Bool :=
  reply = .setAck PUBACK (UInt16.ofNat packet.getPUBLISH.msgId) ||
    reply = .setAck PUBREC (UInt16.ofNat packet.getPUBLISH.msgId)

def sleepPublish (client : Client) (packet : MQTTGWPacket) : Bool :=
  client.isSleep && !client.isAggregater && packet.getType = PUBLISH

def acked (c : Nat) (client : Client) (handled : Handled) : Event → List MQTTGWPacket
  | .brokerRecv target packet =>
      if target = c && sleepPublish client packet && handled.brokerSend.any (isReply packet) then
        [packet]
      else []
  | _ => []

def storedPublish (c : Nat) : Event → Option MQTTGWPacket
  | .brokerRecv target packet =>
      if target = c && acknowledgeable packet then some packet else none
  | _ => none

def wakes (c : Nat) (client : Client) : Event → Bool
  | .clientRecv target .pingreq => target = c && (client.isSleep || client.isAwake)
  | .clientRecv target (.connect (some _)) => target = c && (client.isSleep || client.isAwake)
  | _ => false

structure SleepLog where
  acked : List MQTTGWPacket
  posted : List MQTTGWPacket
  woken : Bool
  deriving DecidableEq, Repr

def SleepLog.note (log : SleepLog) (c : Nat) (s : State) (ev : Event) : Result → SleepLog
  | .done target handled =>
      let after := apply (take s) target handled
      { acked := log.acked ++ MQTTSNGW.acked c (s.clients c) handled ev
        posted := log.posted ++
          (after.packetEventQue.items.drop (take s).packetEventQue.items.length).filterMap
            (storedPublish c)
        woken := wakes c (s.clients c) ev }
  | _ => { log with woken := false }

structure Sleeper where
  state : State
  log : SleepLog

def Sleeper.stored (w : Sleeper) (c : Nat) : Que MQTTGWPacket := (w.state.clients c).clientSleepPacketQue

def Sleeper.start (s : State) (c : Nat) : Sleeper :=
  ⟨s, ⟨(s.clients c).clientSleepPacketQue.items.filter acknowledgeable, [], false⟩⟩

def observe (gw : Gateway) (c : Nat) (w : Sleeper) (act : Act) : Sleeper where
  state := step gw w.state act
  log :=
    if w.state.fault then w.log
    else
      match act, w.state.packetEventQue.items with
      | .handle ids, ev :: _ => w.log.note c w.state ev (handleEvent gw ids w.state.clients ev)
      | _, _ => { w.log with woken := false }

structure NothingLost (c : Nat) (w : Sleeper) : Prop where
  accounted : w.log.acked = w.log.posted ++ (w.stored c).items.filter acknowledgeable
  delivered : w.log.woken = true → w.log.posted = w.log.acked

def Admits (gw : Gateway) (c : Nat) (s : State) : Event → Prop
  | .brokerRecv target packet =>
      target = c → sleepPublish (s.clients c) packet = true → acknowledgeable packet = true →
        (s.clients c).clientSleepPacketQue.Room 1
  | .clientRecv target packet =>
      target = c → drains gw (s.clients c) packet = true →
        ∀ saved ∈ (take s).packetEventQue.refused
          ((s.clients c).clientSleepPacketQue.items.map (.brokerRecv c)), storedPublish c saved = none
  | .broadcast => True

def Admitted (gw : Gateway) (c : Nat) (w : Sleeper) : Act → Prop
  | .handle _ => w.state.fault = false → ∀ ev ∈ w.state.packetEventQue.items.head?, Admits gw c w.state ev
  | _ => True

section Events

variable {gw : Gateway} {clients : Nat → Client} {c target : Nat} {packet : MQTTGWPacket}

theorem role_save : role gw clients (.brokerRecv c packet) = .save ↔
    sleepPublish (clients c) packet = true := by
  simp only [role, sleepPublish, Bool.and_eq_true, Bool.not_eq_true', decide_eq_true_eq]
  split_ifs with hother hsleep hawake
  · rw [Bool.or_eq_true, decide_eq_true_eq] at hother
    grind
  · rw [Bool.or_eq_true, decide_eq_true_eq] at hother
    grind
  · simp [hsleep]
  · simp [hsleep]

theorem acknowledge_replies (client : Client) (packet : MQTTGWPacket) :
    (MQTTGWPublishHandler.acknowledge client packet.getPUBLISH).brokerSend.any (isReply packet) =
      acknowledgeable packet := by
  unfold MQTTGWPublishHandler.acknowledge acknowledgeable
  split_ifs with hone htwo
  · simp [MQTTGWPublishHandler.replyACK, Handled.toBroker, isReply, hone]
  · simp [MQTTGWPublishHandler.replyACK, Handled.toBroker, isReply, htwo]
  · simp [Handled.unchanged, hone, htwo]

theorem filterMap_storedPublish (packets : List MQTTGWPacket) :
    (packets.map (Event.brokerRecv c)).filterMap (storedPublish c) = packets.filter acknowledgeable := by
  induction packets with
  | nil => rfl
  | cons packet packets ih =>
    rw [List.map_cons, List.filterMap_cons, ih, List.filter_cons]
    cases hack : acknowledgeable packet <;> simp [storedPublish, hack]

theorem filterMap_storedPublish_ne (h : target ≠ c) (packets : List MQTTGWPacket) :
    (packets.map (Event.brokerRecv target)).filterMap (storedPublish c) = [] := by
  induction packets with
  | nil => rfl
  | cons packet packets ih =>
    rw [List.map_cons, List.filterMap_cons, ih]
    simp [storedPublish, h]

theorem note_posted (log : SleepLog) (s : State) (ev : Event) (handled : Handled) :
    (log.note c s ev (.done target handled)).posted = log.posted ++
      ((take s).packetEventQue.accepted (handled.packetEvents.map (.brokerRecv target))).filterMap
        (storedPublish c) := by
  simp only [SleepLog.note, apply, Fifo.items_postAll, List.drop_left]

end Events

section Step

variable {gw : Gateway} {c : Nat} {w : Sleeper}

theorem NothingLost.quiet {after : State} {log : SleepLog} (h : NothingLost c w)
    (hacked : log.acked = w.log.acked) (hposted : log.posted = w.log.posted)
    (hstored : (after.clients c).clientSleepPacketQue = w.stored c)
    (hwoken : log.woken = true → (w.stored c).items = []) : NothingLost c ⟨after, log⟩ where
  accounted := by
    rw [hacked, hposted, Sleeper.stored, hstored]
    exact h.accounted
  delivered := by
    intro hwake
    have haccounted := h.accounted
    rw [hwoken hwake, List.filter_nil, List.append_nil] at haccounted
    rw [hacked, hposted, haccounted]

theorem update_stored {clients : Nat → Client} {target : Nat} {after : Client}
    (h : after.clientSleepPacketQue = (clients target).clientSleepPacketQue) :
    (Function.update clients target after c).clientSleepPacketQue =
      (clients c).clientSleepPacketQue :=
  update_related (R := fun before after => after.clientSleepPacketQue = before.clientSleepPacketQue)
    (fun _ => rfl) h c

theorem posted_nil {s : State} {target : Nat} {packets : List MQTTGWPacket}
    (h : ∀ packet ∈ packets, acknowledgeable packet = false) :
    ((take s).packetEventQue.accepted (packets.map (.brokerRecv target))).filterMap
      (storedPublish c) = [] := by
  apply List.filterMap_eq_nil_iff.mpr
  intro ev hev
  obtain ⟨packet, hpacket, rfl⟩ := List.mem_map.mp (List.mem_of_mem_take hev)
  simp [storedPublish, h packet hpacket]

theorem admits_of_role {s : State} {ev : Event} (hsave : role gw s.clients ev ≠ .save)
    (hdrain : role gw s.clients ev ≠ .drain) : Admits gw c s ev := by
  cases ev with
  | clientRecv target packet =>
    rintro rfl hdrains
    exact absurd (role_drain.mpr hdrains) hdrain
  | brokerRecv target packet =>
    rintro rfl hsleep
    exact absurd (role_save.mpr hsleep) hsave
  | broadcast => trivial

theorem acked_of_role {s : State} {ev : Event} {handled : Handled}
    (hsave : role gw s.clients ev ≠ .save) : acked c (s.clients c) handled ev = [] := by
  cases ev with
  | brokerRecv target packet =>
    apply if_neg
    intro hacked
    simp only [Bool.and_eq_true, decide_eq_true_eq] at hacked
    obtain ⟨⟨rfl, hsleep⟩, -⟩ := hacked
    exact hsave (role_save.mpr hsleep)
  | _ => rfl

theorem wakes_of_role {s : State} {ev : Event} (hwakes : wakes c (s.clients c) ev = true)
    (hdrain : role gw s.clients ev ≠ .drain) :
    (s.clients c).clientSleepPacketQue.items = [] := by
  cases ev with
  | clientRecv target packet =>
    have hdrains : ¬(drains gw (s.clients target) packet = true) := fun h =>
      hdrain (role_drain.mpr h)
    cases packet with
    | pingreq =>
      simp only [wakes, Bool.and_eq_true, decide_eq_true_eq] at hwakes
      obtain ⟨rfl, hasleep⟩ := hwakes
      simpa [drains, MQTTSNConnectionHandler.holdsPing, hasleep] using hdrains
    | connect data =>
      cases data with
      | none => cases hwakes
      | some data =>
        simp only [wakes, Bool.and_eq_true, decide_eq_true_eq] at hwakes
        obtain ⟨rfl, hasleep⟩ := hwakes
        simp [drains, hasleep] at hdrains
    | _ => cases hwakes
  | _ => cases hwakes

theorem wakes_ne {target : Nat} (h : target ≠ c) (packet : MQTTSNPacket) {client : Client} :
    wakes c client (.clientRecv target packet) = false := by
  cases packet with
  | pingreq => simp [wakes, h]
  | connect data => cases data <;> simp [wakes, h]
  | _ => rfl

section Noted

variable {s : State} {ev : Event} {target : Nat} {handled : Handled} {log : SleepLog}

theorem NothingLost.unstored (hlost : NothingLost c ⟨s, log⟩)
    (hsave : role gw s.clients ev ≠ .save) (hdrain : role gw s.clients ev ≠ .drain)
    (hstored : handled.client.clientSleepPacketQue = (s.clients target).clientSleepPacketQue)
    (hevents : ∀ packet ∈ handled.packetEvents, acknowledgeable packet = false) :
    NothingLost c ⟨apply (take s) target handled, log.note c s ev (.done target handled)⟩ := by
  apply hlost.quiet
  · simp [SleepLog.note, acked_of_role hsave]
  · rw [note_posted, posted_nil hevents, List.append_nil]
  · exact update_stored hstored
  · intro hwakes
    exact wakes_of_role hwakes hdrain

theorem NothingLost.elsewhere (hlost : NothingLost c ⟨s, log⟩) (htarget : target ≠ c)
    (hacked : acked c (s.clients c) handled ev = []) (hwakes : wakes c (s.clients c) ev = false) :
    NothingLost c ⟨apply (take s) target handled, log.note c s ev (.done target handled)⟩ := by
  apply hlost.quiet
  · simp [SleepLog.note, hacked]
  · rw [note_posted, Fifo.accepted, ← List.map_take, filterMap_storedPublish_ne htarget,
      List.append_nil]
  · rw [apply_other htarget, Sleeper.stored]
  · simp [SleepLog.note, hwakes]

theorem Effect.unstored {clients : Nat → Client} {kind : Role}
    (h : Effect clients ev target handled kind) (hsave : kind ≠ .save) (hdrain : kind ≠ .drain) :
    handled.client.clientSleepPacketQue = (clients target).clientSleepPacketQue ∧
      ∀ packet ∈ handled.packetEvents, acknowledgeable packet = false := by
  cases kind with
  | save => exact absurd rfl hsave
  | drain => exact absurd rfl hdrain
  | other => exact ⟨h.same.stored, by simp [h.events]⟩
  | ping =>
    obtain ⟨-, hpinged⟩ := h
    refine ⟨hpinged.stored, ?_⟩
    rcases hpinged.events with hevents | hevents
    · simp [hevents]
    · rw [hevents, List.forall_mem_singleton]
      decide
  | regack =>
    obtain ⟨packet, -, hreleased⟩ := h
    exact ⟨hreleased.stored, by simp [hreleased.events]⟩
  | publish =>
    obtain ⟨packet, -, hdelivered⟩ := h
    exact ⟨hdelivered.stored, by simp [hdelivered.events]⟩

theorem acked_saved {packet : MQTTGWPacket} (hsleep : sleepPublish (s.clients c) packet = true)
    (hsaved : Saved (s.clients c) packet handled) :
    acked c (s.clients c) handled (.brokerRecv c packet) =
      if acknowledgeable packet then [packet] else [] := by
  simp only [acked, hsleep, hsaved.replies, acknowledge_replies, decide_true, Bool.true_and]

theorem saved_iff {packet : MQTTGWPacket} (hlost : NothingLost c ⟨s, log⟩)
    (hsleep : sleepPublish (s.clients c) packet = true)
    (hsaved : Saved (s.clients c) packet handled) :
    NothingLost c ⟨apply (take s) c handled, log.note c s (.brokerRecv c packet) (.done c handled)⟩ ↔
      Admits gw c s (.brokerRecv c packet) := by
  have hposted : (log.note c s (.brokerRecv c packet) (.done c handled)).posted = log.posted := by
    rw [note_posted, hsaved.events, List.map_nil, Fifo.accepted_nil, List.filterMap_nil,
      List.append_nil]
  have hacked : (log.note c s (.brokerRecv c packet) (.done c handled)).acked =
      log.posted ++ (s.clients c).clientSleepPacketQue.items.filter acknowledgeable ++
        if acknowledgeable packet then [packet] else [] := by
    have haccounted := hlost.accounted
    simp only [Sleeper.stored] at haccounted
    rw [SleepLog.note, acked_saved hsleep hsaved, haccounted]
  have hstored : Sleeper.stored ⟨apply (take s) c handled,
      log.note c s (.brokerRecv c packet) (.done c handled)⟩ c =
      (s.clients c).clientSleepPacketQue.post packet := by
    rw [Sleeper.stored, apply_client, hsaved.stored]
  constructor
  · intro h _ _ hack
    by_contra hroom
    have hlength := congrArg List.length h.accounted
    rw [hacked, hposted, hstored, Fifo.post_full hroom, if_pos hack] at hlength
    simp at hlength
  · intro hadmits
    refine ⟨?_, fun hwakes => by cases hwakes⟩
    rw [hacked, hposted, hstored, List.append_assoc]
    congr 1
    cases hack : acknowledgeable packet with
    | true =>
      rw [Fifo.post_items (hadmits rfl hsleep hack), List.filter_append, List.filter_singleton, hack]
      rfl
    | false =>
      rcases Fifo.post_cases (s.clients c).clientSleepPacketQue packet with hpost | hpost
      · rw [hpost, List.filter_append, List.filter_singleton, hack]
        rfl
      · rw [hpost]
        exact List.append_nil _

theorem drained_iff {packet : MQTTSNPacket} (hlost : NothingLost c ⟨s, log⟩)
    (hdrains : drains gw (s.clients c) packet = true) (hdrained : Drained (s.clients c) handled) :
    NothingLost c ⟨apply (take s) c handled, log.note c s (.clientRecv c packet) (.done c handled)⟩ ↔
      Admits gw c s (.clientRecv c packet) := by
  have hacked : (log.note c s (.clientRecv c packet) (.done c handled)).acked = log.acked := by
    simp [SleepLog.note, acked]
  have hstored : Sleeper.stored ⟨apply (take s) c handled,
      log.note c s (.clientRecv c packet) (.done c handled)⟩ c =
      { (s.clients c).clientSleepPacketQue with items := [] } := by
    rw [Sleeper.stored, apply_client, hdrained.stored]
  have hsplit := (take s).packetEventQue.accepted_append_refused
    ((s.clients c).clientSleepPacketQue.items.map (.brokerRecv c))
  have haccounted : log.acked =
      (log.note c s (.clientRecv c packet) (.done c handled)).posted ++
        ((take s).packetEventQue.refused
          ((s.clients c).clientSleepPacketQue.items.map (.brokerRecv c))).filterMap
            (storedPublish c) := by
    rw [note_posted, hdrained.events, List.append_assoc, ← List.filterMap_append, hsplit,
      filterMap_storedPublish]
    exact hlost.accounted
  have hposted : NothingLost c ⟨apply (take s) c handled,
      log.note c s (.clientRecv c packet) (.done c handled)⟩ ↔
      log.acked = (log.note c s (.clientRecv c packet) (.done c handled)).posted := by
    constructor
    · intro h
      rw [← hacked, h.accounted, hstored]
      exact List.append_nil _
    · intro h
      refine ⟨?_, fun _ => ?_⟩
      · rw [hacked, hstored, h]
        exact (List.append_nil _).symm
      · rw [hacked, h]
  rw [hposted, haccounted, List.append_right_eq_self, List.filterMap_eq_nil_iff]
  constructor
  · intro h _ _
    exact h
  · intro h
    exact h rfl hdrains

theorem noted (hlost : NothingLost c ⟨s, log⟩)
    (h : Effect s.clients ev target handled (role gw s.clients ev)) :
    NothingLost c ⟨apply (take s) target handled, log.note c s ev (.done target handled)⟩ ↔
      Admits gw c s ev := by
  by_cases hsave : role gw s.clients ev = .save
  · rw [hsave] at h
    obtain ⟨packet, rfl, hsaved⟩ := h
    by_cases htarget : target = c
    · subst htarget
      exact saved_iff hlost (role_save.mp hsave) hsaved
    · apply iff_of_true
      · exact hlost.elsewhere htarget (by simp [acked, htarget]) rfl
      · intro hsame
        exact absurd hsame htarget
  by_cases hdrain : role gw s.clients ev = .drain
  · rw [hdrain] at h
    obtain ⟨packet, rfl, hdrained, -⟩ := h
    by_cases htarget : target = c
    · subst htarget
      exact drained_iff hlost (role_drain.mp hdrain) hdrained
    · apply iff_of_true
      · exact hlost.elsewhere htarget rfl (wakes_ne htarget packet)
      · intro hsame
        exact absurd hsame htarget
  obtain ⟨hstored, hevents⟩ := h.unstored hsave hdrain
  exact iff_of_true (hlost.unstored hsave hdrain hstored hevents) (admits_of_role hsave hdrain)

end Noted

theorem saved_done {s : State} {packet : MQTTGWPacket} {ids : MessageIds}
    (h : sleepPublish (s.clients c) packet = true) :
    handleEvent gw ids s.clients (.brokerRecv c packet) ≠ .fault := by
  simp only [sleepPublish, Bool.and_eq_true, Bool.not_eq_true', decide_eq_true_eq] at h
  obtain ⟨handled, hhandled, -⟩ := handlePublish_saved packet h.1.1
  rw [brokerRecv_publish h.1.2 h.2, hhandled]
  exact Result.noConfusion

theorem drained_done {s : State} {packet : MQTTSNPacket} {ids : MessageIds}
    (h : drains gw (s.clients c) packet = true) :
    handleEvent gw ids s.clients (.clientRecv c packet) ≠ .fault := by
  have hsome : ∃ handled, clientPacket gw ids (s.clients c) packet = some handled := by
    unfold clientPacket
    cases packet with
    | pingreq => split <;> exact ⟨_, rfl⟩
    | connect data => split <;> exact ⟨_, rfl⟩
    | willmsg data => split <;> exact ⟨_, rfl⟩
    | _ => cases h
  obtain ⟨handled, hhandled⟩ := hsome
  simp only [handleEvent, hhandled, Option.map_some, Result.ofOption]
  exact Result.noConfusion

theorem observed {ids : MessageIds} {ev : Event} {rest : List Event} (hlost : NothingLost c w)
    (hfault : w.state.fault = false) (hitems : w.state.packetEventQue.items = ev :: rest) :
    NothingLost c (observe gw c w (.handle ids)) ↔ Admits gw c w.state ev := by
  have hobserve : observe gw c w (.handle ids) =
      ⟨finish w.state (handleEvent gw ids w.state.clients ev),
        w.log.note c w.state ev (handleEvent gw ids w.state.clients ev)⟩ := by
    simp [observe, step_handle hfault hitems, hfault, hitems]
  rw [hobserve]
  cases hresult : handleEvent gw ids w.state.clients ev with
  | done target handled => exact noted hlost (handleEvent_effect hresult)
  | nothing =>
    obtain rfl := handleEvent_nothing hresult
    exact iff_of_true (hlost.quiet rfl rfl rfl nofun) trivial
  | fault =>
    refine iff_of_true (hlost.quiet rfl rfl rfl nofun) ?_
    cases ev with
    | broadcast => trivial
    | clientRecv target packet =>
      rintro rfl hdrains
      exact absurd hresult (drained_done hdrains)
    | brokerRecv target packet =>
      rintro rfl hsleep
      exact absurd hresult (saved_done hsleep)

theorem NothingLost.still {act : Act} (hlost : NothingLost c w)
    (hobserve : observe gw c w act = ⟨step gw w.state act, { w.log with woken := false }⟩)
    (hstored : ((step gw w.state act).clients c).clientSleepPacketQue = w.stored c) :
    NothingLost c (observe gw c w act) := by
  rw [hobserve]
  exact hlost.quiet rfl rfl hstored nofun

theorem observe_running {act : Act} (hlost : NothingLost c w) (hfault : w.state.fault = false) :
    NothingLost c (observe gw c w act) ↔ Admitted gw c w act := by
  cases act with
  | handle ids =>
    cases hitems : w.state.packetEventQue.items with
    | nil =>
      refine iff_of_true (hlost.still ?_ ?_) (by simp [Admitted, hitems])
      · simp [observe, hfault, hitems]
      · rw [step_empty hfault hitems, Sleeper.stored]
    | cons ev rest =>
      rw [observed hlost hfault hitems]
      simp [Admitted, hfault, hitems]
  | post ev =>
    refine iff_of_true (hlost.still ?_ ?_) trivial
    · simp [observe, hfault]
    · rw [step, hfault]
      rfl
  | connectSended target =>
    refine iff_of_true (hlost.still ?_ ?_) trivial
    · simp [observe, hfault]
    · rw [step, hfault]
      exact update_stored rfl
  | disconnected target =>
    refine iff_of_true (hlost.still ?_ ?_) trivial
    · simp [observe, hfault]
    · rw [step, hfault]
      exact update_stored rfl

theorem observe_iff {act : Act} (hlost : NothingLost c w) :
    NothingLost c (observe gw c w act) ↔ Admitted gw c w act := by
  cases hfault : w.state.fault with
  | false => exact observe_running hlost hfault
  | true =>
    have hobserve : observe gw c w act = w := by simp [observe, step_fault hfault, hfault]
    rw [hobserve]
    refine iff_of_true hlost ?_
    cases act with
    | handle ids =>
      intro hrunning
      exact absurd (hfault.symm.trans hrunning) Bool.noConfusion
    | _ => trivial

theorem sleep_queue_iff (gw : Gateway) (s : State) (c : Nat) (acts : List Act) :
    (∀ n, NothingLost c ((acts.take n).foldl (observe gw c) (.start s c))) ↔
      Steps (observe gw c) (Admitted gw c) (.start s c) acts :=
  Steps.iff_prefixes observe_iff ⟨rfl, nofun⟩

end Step

def bareGateway : Gateway := ⟨.initial, none, none, 4, false, false⟩

def freshClients : Nat → Client := fun _ => .initial .regular [0x63] .initial

def noIds : MessageIds := ⟨fun _ => none, id, 0⟩

def arrives (ev : Event) : List Act := [.post ev, .handle noIds]

def fallAsleep : List Act :=
  arrives (.clientRecv 0 (.connect (some ⟨false, false, 0⟩))) ++
    arrives (.brokerRecv 0 ⟨0x20, 2, [0, 0]⟩) ++ arrives (.clientRecv 0 (.disconnect 30))

def storedHello : MQTTGWPacket := ⟨0x32, 7, [0, 2, 0x61, 0x62, 0, 1, 0x68]⟩

def overrun : Sleeper :=
  (fallAsleep ++ (List.replicate 21 (arrives (.brokerRecv 0 storedHello))).flatten ++
    arrives (.clientRecv 0 .pingreq)).foldl (observe bareGateway 0) (.start (initial freshClients) 0)

theorem stored_overrun :
    overrun.log.acked = List.replicate 21 storedHello ∧
      overrun.log.posted = List.replicate 20 storedHello ∧ ¬NothingLost 0 overrun := by
  have hacked : overrun.log.acked = List.replicate 21 storedHello := by decide +kernel
  have hposted : overrun.log.posted = List.replicate 20 storedHello := by decide +kernel
  have hwoken : overrun.log.woken = true := by decide +kernel
  refine ⟨hacked, hposted, fun h => ?_⟩
  have hlength := congrArg List.length (h.delivered hwoken)
  rw [hacked, hposted, List.length_replicate, List.length_replicate] at hlength
  exact absurd hlength (by decide)

end MbedMqtt.MQTTSNGW
