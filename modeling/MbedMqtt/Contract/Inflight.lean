import MbedMqtt.Client.Slot
import MbedMqtt.Contract.Acknowledgement
import MbedMqtt.Contract.IncomingQoS2

namespace MbedMqtt

def ackTypeOf : QoS → Nat
  | .QOS1 => PUBACK
  | _ => PUBCOMP

def QoS.acknowledged (qos : QoS) : Bool := qos = .QOS1 || qos = .QOS2

def Op.handed (cfg : Config) (s : Session) : Op → Option (Nat × Bytes × QoS)
  | .publish topicName payload id qos retained =>
      let request := serializePublish cfg.maxPacketSize 0 qos.toInt retained.toNat
        (s.publishId cfg id qos) (.ofCString topicName) payload
      if s.isconnected && qos.acknowledged && decide (0 < request.1) then
        some (s.publishId cfg id qos, request.2, qos)
      else none
  | _ => none

def Op.awaiting (cfg : Config) (s : Session) : Op → Option (Nat × QoS)
  | .publish _ _ id qos _ => if qos.acknowledged then some (s.publishId cfg id qos, qos) else none
  | .connect _ => if 0 < s.inflightMsgid ∧ s.inflightQoS.acknowledged then
      some (s.inflightMsgid, s.inflightQoS) else none
  | _ => none

def OwnAcks (cfg : Config) (s : Session) (op : Op) (ev : List Event) : Prop :=
  ∀ p ∈ op.awaiting cfg s, ∃ packetType ∈ awaitedAck cfg p.2,
    AcksMatch packetType p.1 (heard (afterPublish ev))

instance (cfg : Config) (s : Session) (op : Op) (ev : List Event) :
    Decidable (OwnAcks cfg s op ev) :=
  inferInstanceAs (Decidable (∀ p ∈ op.awaiting cfg s, _))

variable {cfg : Config} {slot : Inflight} {s t : Session} {ev : List Event} {rc : Int}
  {packets : List (UInt8 × Bytes)}

theorem Acknowledged.mono {ackType id : Nat} {qs : List (UInt8 × Bytes)}
    (h : Acknowledged ackType id packets) (hsub : packets ⊆ qs) : Acknowledged ackType id qs := by
  obtain ⟨p, hp, hack⟩ := h
  exact ⟨p, hsub hp, hack⟩

theorem awaitedAck_eq {qos : QoS} {packetType : Nat} (h : awaitedAck cfg qos = some packetType) :
    cfg.qos1 = true ∧ packetType = ackTypeOf qos := by
  unfold awaitedAck at h
  split at h
  · rename_i h1
    cases h
    exact ⟨h1.1, by rw [h1.2]; rfl⟩
  · split at h
    · rename_i h2
      cases h
      exact ⟨cfg.qos1_of_qos2 h2.1, by rw [h2.2]; rfl⟩
    · cases h

structure Held (cfg : Config) (slot : Inflight) (s : Session) (packets : List (UInt8 × Bytes)) :
    Prop where
  outbound : Outbound cfg s
  persistent : s.cleansession = false
  settled : Acknowledged (ackTypeOf slot.inflightQoS) slot.inflightMsgid packets ∨ Frozen slot s

theorem Publishing.settles {packet : Bytes} {packetType : Nat} (hs : s.cleansession = false)
    (hslot : s.inflight = slot) (hack : awaitedAck cfg slot.inflightQoS = some packetType)
    (hmatch : AcksMatch packetType slot.inflightMsgid (heard ev))
    (h : Publishing cfg packet slot.inflightQoS s rc ev t) :
    Acknowledged (ackTypeOf slot.inflightQoS) slot.inflightMsgid (heard ev) ∨
      rc = FAILURE ∧ Frozen slot t := by
  cases h with
  | unsent => exact .inr ⟨rfl, .close cfg hs hslot⟩
  | sent hnone => simp [hnone] at hack
  | @acked _ ev u header body _ hawaited hw ha _ =>
    obtain rfl : packetType = _ := Option.some.inj (hack.symm.trans hawaited)
    rw [heard_sent] at hmatch ⊢
    rw [← (awaitedAck_eq hack).2]
    exact .inl ((ha.acknowledged_iff _).mpr hmatch)
  | unacked _ hw =>
    obtain ⟨hclean, heq⟩ := hw.inflight hs
    exact .inr ⟨rfl, .close cfg hclean (heq.trans hslot)⟩

theorem Connects.settles {options : ConnectData} {packetType : Nat}
    (h : Connects cfg options s rc ev t) (hout : Outbound cfg s)
    (hclean : options.cleansession = false) (hfrozen : Frozen slot s)
    (hpos : 0 < slot.inflightMsgid) (hack : awaitedAck cfg slot.inflightQoS = some packetType)
    (hmatch : AcksMatch packetType slot.inflightMsgid (heard (afterPublish ev))) :
    Acknowledged (ackTypeOf slot.inflightQoS) slot.inflightMsgid (heard ev) ∨ Frozen slot t := by
  have hconf : Frozen slot (s.configured options) :=
    ⟨hclean, hfrozen.disconnected, hfrozen.inflight⟩
  have hopt : Outbound cfg (s.configured options) := ⟨hout.pubrel, hout.publish⟩
  cases h with
  | already h => simp [hfrozen.disconnected] at h
  | unfit => exact .inr hconf
  | unsent => exact .inr hconf
  | @answered packet ev₁ ev₂ u v verdict rc _ _ htype hw _ hr =>
    have hu := hconf.waits hw
    have hqos : u.inflightQoS = slot.inflightQoS := congrArg Inflight.inflightQoS hu.inflight
    have hid : u.inflightMsgid = slot.inflightMsgid := congrArg Inflight.inflightMsgid hu.inflight
    have houtu : Outbound cfg u := hopt.chain (hw.conduct : Chain (SessionAct cfg fun _ => True) _ _ _)
    obtain ⟨sendbuf, hpublish, -, hp⟩ := hr.publishing houtu (awaitedAck_eq hack).1 (by omega)
    rw [hqos] at hp
    have hskip : ∀ e ∈ Event.sent packet :: ev₁, handsPublish e = false := by
      refine List.forall_mem_cons.mpr ⟨?_, hw.hands_no_publish⟩
      simp [handsPublish, Event.handed, htype]
    rw [← List.cons_append, afterPublish_skip hskip, hp.afterPublish_eq hpublish] at hmatch
    rcases hp.settles hu.persistent hu.inflight hack hmatch with hacked | ⟨hrc, hv⟩
    · refine .inl (hacked.mono ?_)
      rw [heard_sent, heard_append]
      exact List.subset_append_right _ _
    · refine .inr ?_
      rw [if_neg (by rw [hrc]; decide)]
      exact hv

theorem Held.runs {op : Op} (hpos : 0 < slot.inflightMsgid)
    (hqos : slot.inflightQoS.acknowledged = true) (h : Held cfg slot s packets)
    (hrun : Runs cfg s op rc ev t) (hkeep : op.keepsSession = true)
    (hown : OwnAcks cfg s op ev) : Held cfg slot t (packets ++ heard ev) := by
  have hchain : Chain (SessionAct cfg (· = false)) s ev t :=
    hrun.conduct h.outbound (keepsSession_connect hkeep)
  refine ⟨h.outbound.chain hchain, (open_of_persistent hchain h.persistent).1, ?_⟩
  rcases h.settled with hacked | hfrozen
  · exact .inl (hacked.mono (List.subset_append_left _ _))
  · by_cases hop : ∃ options, op = .connect options
    · obtain ⟨options, rfl⟩ := hop
      have hid : s.inflightMsgid = slot.inflightMsgid :=
        congrArg Inflight.inflightMsgid hfrozen.inflight
      have hslot : s.inflightQoS = slot.inflightQoS :=
        congrArg Inflight.inflightQoS hfrozen.inflight
      obtain ⟨packetType, hack, hmatch⟩ := hown (slot.inflightMsgid, slot.inflightQoS) (by
        simp [Op.awaiting, hid, hslot, hpos, hqos])
      cases hrun with
      | connect hconnect =>
        rcases hconnect.settles h.outbound (keepsSession_connect hkeep _ rfl) hfrozen hpos hack
          hmatch with hacked | hfrozen
        · exact .inl (hacked.mono (List.subset_append_right _ _))
        · exact .inr hfrozen
    · exact .inr (hfrozen.runs hrun (not_exists.mp hop))

theorem getNext_pos (next : Nat) : 0 < getNext next := by
  unfold getNext
  split <;> omega

theorem prepared_inflight (id : Nat) (packet : Bytes) (qos : QoS) (hq : cfg.qos1 = true)
    (hs : s.cleansession = false) : (s.prepared cfg id packet qos).cleansession = false ∧
      (s.prepared cfg id packet qos).inflight =
        ⟨store s.pubbuf 0 packet, packet.length, s.publishId cfg id qos, qos⟩ := by
  have hpubbuf : (s.numberedFor cfg qos).pubbuf = s.pubbuf := by
    rw [numberedFor_eq]
  rw [Session.prepared, if_pos (by simp [hq, hs])]
  exact ⟨(numberedFor_cleansession cfg s qos).trans hs, by rw [← hpubbuf]; rfl⟩

theorem Op.handed_publish {op : Op} {id : Nat} {packet : Bytes} {qos : QoS}
    (h : op.handed cfg s = some (id, packet, qos)) :
    qos.acknowledged = true ∧ s.isconnected = true ∧ 0 < packet.length ∧
      ∃ topicName payload id' retained, op = .publish topicName payload id' qos retained ∧
        id = s.publishId cfg id' qos ∧
        serializePublish cfg.maxPacketSize 0 qos.toInt retained.toNat id (.ofCString topicName)
          payload = ((packet.length : Int), packet) := by
  cases op with
  | publish topicName payload id' qos' retained =>
    simp only [Op.handed] at h
    split at h
    · rename_i hcond
      simp only [Bool.and_eq_true, decide_eq_true_eq] at hcond
      simp only [Option.some.injEq, Prod.mk.injEq] at h
      obtain ⟨rfl, rfl, rfl⟩ := h
      have hser := serializePublish_serializes cfg.maxPacketSize 0 qos'.toInt retained.toNat
        (s.publishId cfg id' qos') (.ofCString topicName) payload
      have hlen := (hser hcond.2).1
      exact ⟨hcond.1.2, hcond.1.1, by omega, _, _, _, _, rfl, rfl, hser.eq hcond.2⟩
    · cases h
  | _ => cases h

theorem Held.handed {op : Op} {id : Nat} {packet : Bytes} {qos : QoS} (hout : Outbound cfg s)
    (hs : s.cleansession = false) (hhanded : op.handed cfg s = some (id, packet, qos))
    (hrun : Runs cfg s op rc ev t) (hown : OwnAcks cfg s op ev) :
    0 < id ∧ Held cfg ⟨store s.pubbuf 0 packet, packet.length, id, qos⟩ t (heard ev) := by
  obtain ⟨hqos, hconn, hlen, topicName, payload, id', retained, rfl, rfl, hser⟩ :=
    Op.handed_publish hhanded
  obtain ⟨packetType, hack, hmatch⟩ := hown (s.publishId cfg id' qos, qos) (by
    simp [Op.awaiting, hqos])
  have hother (options : ConnectData) :
      Op.publish topicName payload id' qos retained ≠ .connect options := Op.noConfusion
  have hchain : Chain (SessionAct cfg (· = false)) s ev t :=
    hrun.conduct hout fun options hop => absurd hop (hother options)
  have hpos : 0 < s.publishId cfg id' qos := by
    rw [Session.publishId, if_pos]
    · exact getNext_pos _
    · rw [(awaitedAck_eq hack).1]
      exact hqos
  refine ⟨hpos, hout.chain hchain, (open_of_persistent hchain hs).1, ?_⟩
  cases hrun with
  | publish h =>
    cases h with
    | refused hno => simp [hconn] at hno
    | unfit _ hfit =>
      rw [hser] at hfit
      simp only [Int.natCast_nonpos_iff] at hfit
      omega
    | @handed packet' _ _ _ _ hpacket htype _ hp =>
      obtain rfl : packet' = packet := congrArg Prod.snd (hpacket.symm.trans hser)
      obtain ⟨hclean, hslot⟩ := prepared_inflight id' packet' qos (awaitedAck_eq hack).1 hs
      rw [hp.afterPublish_eq htype] at hmatch
      exact (hp.settles hclean hslot hack hmatch).imp_right And.right

variable {σ τ κ : Type} [Network σ] [Timer τ κ]

def ownAcks (cfg : Config) (y : System τ) (call : Call σ κ) : Prop :=
  OwnAcks cfg y.client.toSession call.op (y.events cfg call)

instance (cfg : Config) (y : System τ) (call : Call σ κ) : Decidable (ownAcks cfg y call) :=
  inferInstanceAs (Decidable (OwnAcks ..))

theorem Held.run {y : System τ} {calls : List (Call σ κ)} (hpos : 0 < slot.inflightMsgid)
    (hqos : slot.inflightQoS.acknowledged = true) (h : Held cfg slot y.client.toSession packets)
    (hkeep : ∀ call ∈ calls, call.op.keepsSession = true)
    (hown : Steps (System.perform cfg) (ownAcks cfg) y calls) :
    Held cfg slot (System.run cfg y calls).client.toSession
      (packets ++ heard (y.since cfg calls)) := by
  induction calls generalizing y packets with
  | nil => simpa [System.run, System.since] using h
  | cons call calls ih =>
    rw [List.forall_mem_cons] at hkeep
    rw [System.since, heard_append, ← List.append_assoc]
    exact ih (h.runs hpos hqos (y.perform_runs cfg call).2 hkeep.1 hown.1) hkeep.2 hown.2

theorem persistent_run (cfg : Config) (commandTimeoutMs : Nat) (idle : τ) {calls : List (Call σ κ)}
    (hkeep : ∀ call ∈ calls, call.op.keepsSession = true) :
    Outbound cfg (System.run cfg (.start cfg commandTimeoutMs idle) calls).client.toSession ∧
      ((System.run cfg (.start cfg commandTimeoutMs idle) calls).client.isconnected = true →
        (System.run cfg (.start cfg commandTimeoutMs idle) calls).client.cleansession = false) := by
  have hsteps : Steps (System.perform cfg) (fun _ call => call.op.keepsSession = true)
      (System.start cfg commandTimeoutMs idle) calls := Steps.of_forall hkeep
  refine hsteps.invariant (I := fun y => Outbound cfg y.client.toSession ∧
    (y.client.isconnected = true → y.client.cleansession = false)) (fun {y call} hcall h => ?_) ?_
  · obtain ⟨-, hrun⟩ := y.perform_runs cfg call
    have hclean := keepsSession_connect hcall
    have hchain : Chain (SessionAct cfg (· = false)) _ _ _ := hrun.conduct h.1 hclean
    exact ⟨h.1.chain hchain, hrun.persistent h.1 hclean h.2⟩
  · rw [System.start, Client.construct_toSession]
    refine ⟨Outbound.initial cfg commandTimeoutMs, fun hconn => ?_⟩
    cases hconn

theorem inflight_retained (cfg : Config) (commandTimeoutMs : Nat) (idle : τ)
    (before : List (Call σ κ)) (call : Call σ κ) (after : List (Call σ κ)) (y : System τ)
    (id : Nat) (packet : Bytes) (qos : QoS)
    (hy : y = System.run cfg (.start cfg commandTimeoutMs idle) before)
    (hpersistent : ∀ c ∈ before ++ call :: after, c.op.keepsSession = true)
    (hhanded : call.op.handed cfg y.client.toSession = some (id, packet, qos))
    (hown : Steps (System.perform cfg) (ownAcks cfg) y (call :: after))
    (hunacked : ¬Acknowledged (ackTypeOf qos) id (heard (y.since cfg (call :: after)))) :
    (System.run cfg y (call :: after)).client.inflight =
      ⟨store y.client.pubbuf 0 packet, packet.length, id, qos⟩ := by
  rw [List.forall_mem_append, List.forall_mem_cons] at hpersistent
  obtain ⟨hbefore, -, hafter⟩ := hpersistent
  obtain ⟨hout, hclean⟩ := persistent_run cfg commandTimeoutMs idle hbefore
  rw [← hy] at hout hclean
  obtain ⟨hqos, hconn, -⟩ := Op.handed_publish hhanded
  obtain ⟨hpos, hheld⟩ := Held.handed hout (hclean hconn) hhanded (y.perform_runs cfg call).2 hown.1
  have hrun := hheld.run hpos hqos hafter hown.2
  rw [System.since, heard_append] at hunacked
  exact (hrun.settled.resolve_left hunacked).inflight

def publishCall (qos : QoS) (stream : Bytes) : Call Script Bool :=
  ⟨.publish [116] [120] 0 qos false, ⟨stream, [], []⟩, List.replicate 4 false, []⟩

theorem inflight_retained_unanswered :
    (System.run (.standard .qos1)
        (System.run (.standard .qos1) (.start (.standard .qos1) 30000 OracleTimer.oracle)
          [connectCall])
        [publishCall .QOS1 [], publishCall .QOS0 [], connectCall]).client.inflight =
      ⟨store (System.run (.standard .qos1) (.start (.standard .qos1) 30000 OracleTimer.oracle)
        [connectCall]).client.pubbuf 0 [50, 6, 0, 1, 116, 0, 1, 120], 8, 1, .QOS1⟩ :=
  inflight_retained (.standard .qos1) 30000 OracleTimer.oracle [connectCall] (publishCall .QOS1 [])
    [publishCall .QOS0 [], connectCall] _ 1 [50, 6, 0, 1, 116, 0, 1, 120] .QOS1 rfl (by decide)
    (by decide) (by decide) (by decide)

theorem inflight_overwritten :
    let cfg := Config.standard .qos1
    let y := System.run cfg (.start cfg 30000 OracleTimer.oracle) [connectCall]
    let calls := [publishCall .QOS1 [64, 2, 0, 7], publishCall .QOS0 []]
    (∀ c ∈ connectCall :: calls, c.op.keepsSession = true) ∧
      (publishCall .QOS1 [64, 2, 0, 7]).op.handed cfg y.client.toSession =
        some (1, [50, 6, 0, 1, 116, 0, 1, 120], .QOS1) ∧
      ¬Acknowledged PUBACK 1 (heard (y.since cfg calls)) ∧
      (System.run cfg y calls).client.inflight ≠
        ⟨store y.client.pubbuf 0 [50, 6, 0, 1, 116, 0, 1, 120], 8, 1, .QOS1⟩ := by
  decide

end MbedMqtt
