import MbedMqtt.Contract.SNSession

namespace MbedMqtt.MQTTSN

open MQTTSNGW

variable {σ τ κ : Type}

section Resend

variable {cfg : Config} {y : System τ} {stored : StoredPublish}

theorem store_some {s : Session} {op : Op} (h : stored ∈ op.store cfg s) :
    ∃ topic payload id retained,
      op = .publish topic payload id stored.qos retained ∧ s.isconnected = true ∧
      cfg.qos1 = true ∧ 0 < (s.publication cfg topic payload id stored.qos retained).rc ∧
      stored.packet = (s.publication cfg topic payload id stored.qos retained).written ∧
      stored.msgid = s.publishId cfg id stored.qos := by
  cases op with
  | publish topic payload id qos retained =>
    simp only [Op.store, Option.mem_def] at h
    split at h
    · rename_i hstores
      simp only [Bool.and_eq_true, Bool.not_eq_true', decide_eq_true_eq] at hstores
      obtain ⟨⟨⟨hconnected, hqos1⟩, -⟩, hfit⟩ := hstores
      obtain rfl := Option.some.inj h
      exact ⟨topic, payload, id, retained, rfl, hconnected, hqos1, hfit, rfl, rfl⟩
    · cases h
  | _ => cases h

theorem store_closed {s : Session} (h : s.isconnected = false) (op : Op) :
    op.store cfg s = none := by
  cases hstore : op.store cfg s with
  | none => rfl
  | some stored =>
    obtain ⟨_, _, _, _, -, hconnected, -⟩ := store_some hstore
    rw [h] at hconnected
    cases hconnected

theorem store_msgid {s : Session} {op : Op} (h : stored ∈ op.store cfg s)
    (hqos : stored.qos = .QOS1) : 0 < stored.msgid := by
  obtain ⟨_, _, id, _, -, -, hqos1, -, -, hid⟩ := store_some h
  have hnext : s.publishId cfg id stored.qos = getNext s.packetid := by
    rw [hqos, Session.publishId, hqos1]
    rfl
  rw [hid, hnext, getNext]
  split
  · exact Nat.one_pos
  · exact Nat.succ_pos _

variable [DatagramNetwork σ] [Timer τ κ]

theorem stored_published (cfg : Config) {request : Request σ κ}
    (h : stored ∈ request.op.store cfg y.client.toSession) :
    Publishes (stored.qos = .QOS1) stored.packet (y.rc cfg request) (y.events cfg request) := by
  obtain ⟨topic, payload, id, retained, hop, hconnected, hqos1, hfit, hpacket, -⟩ := store_some h
  obtain ⟨c', houtcome, htake, -⟩ := publish_sends cfg (y.enter request) id hconnected hfit
  rw [← hpacket] at houtcome htake
  obtain ⟨-, ev, hlog, hpublishes⟩ := publishLen_publishes cfg c' (y.enter request).tick
    stored.packet.length ((y.enter request).countdownMs y.client.commandTimeoutMs) stored.qos
  rw [htake] at hpublishes
  have hevents : y.events cfg request = ev := by
    simp only [System.events, System.perform, System.outcome, hop, Op.perform]
    rw [houtcome, hlog]
    exact List.drop_left
  simp only [System.rc, System.outcome, hop, Op.perform]
  rw [houtcome, hevents]
  have hawaits : (cfg.qos1 = true ∧ stored.qos = .QOS1) = (stored.qos = .QOS1) := by
    rw [hqos1]
    simp
  rwa [hawaits] at hpublishes

def AwaitsAnswer (cfg : Config) (y : System τ) (connect : Request σ κ) (options : ConnectData)
    (waited : List Event) : Prop :=
  AwaitsConnack cfg y.client (y.enter connect).tick options
    ((y.enter connect).countdownMs y.client.commandTimeoutMs) waited

def StoresNone (cfg : Config) (y : System τ) (request : Request σ κ) : Prop :=
  request.op.store cfg y.client.toSession = none

theorem run_holds (cfg : Config) (hloaded : y.client.slot.Loaded) {publish : Request σ κ}
    (hstored : stored ∈ publish.op.store cfg y.client.toSession) {post : List (Request σ κ)}
    (hlater : Steps (System.perform cfg) (StoresNone cfg) (y.perform cfg publish) post) :
    ((y.perform cfg publish).run cfg post).client.slot.Holds stored := by
  refine hlater.invariant (I := fun y => y.client.slot.Holds stored) ?_ ?_
  · intro y request hnone hholds
    rw [(perform_performed cfg hholds.loaded request).kept hnone]
    exact hholds
  · exact (perform_performed cfg hloaded publish).held stored hstored

theorem holds_dials (cfg : Config) (hholds : y.client.slot.Holds stored) (hqos1 : cfg.qos1 = true)
    (hid : 0 < stored.msgid) (hclosed : y.client.isconnected = false) {connect : Request σ κ}
    {options : ConnectData} (hconnect : connect.op = .connect options) :
    (y.rc cfg connect = FAILURE ∧ ∀ packet, .sent packet ∉ y.events cfg connect) ∨
    ∃ waited again, y.events cfg connect =
        .sent (serializeConnect cfg.maxPacketSize options).written :: (waited ++ again) ∧
      AwaitsAnswer cfg y connect options waited ∧
      Publishes (stored.qos = .QOS1) stored.packet (y.rc cfg connect) again := by
  have hdials := connect_events cfg hclosed hholds.loaded hconnect
  generalize y.events cfg connect = ev at hdials ⊢
  generalize y.rc cfg connect = rc at hdials ⊢
  cases hdials with
  | unfit => exact .inl ⟨rfl, fun _ => List.not_mem_nil⟩
  | unsent => exact .inl ⟨rfl, by simp⟩
  | answered _ hempty _ =>
    have hfull := Slot.resends_iff.mpr ⟨hqos1, hholds.msgid ▸ hid⟩
    rw [hempty] at hfull
    cases hfull
  | @resent _ waited again hwait _ hpublishes =>
    refine .inr ⟨waited, again, rfl, hwait, ?_⟩
    rw [hholds.packet, hholds.qos, hqos1] at hpublishes
    simpa using hpublishes

theorem holds_locked (cfg : Config) (hholds : y.client.slot.Holds stored) (hqos1 : cfg.qos1 = true)
    (hid : 0 < stored.msgid) (hqos : stored.qos = .QOS1) (hclosed : y.client.isconnected = false)
    {connect : Request σ κ} {options : ConnectData} (hconnect : connect.op = .connect options) :
    y.rc cfg connect = FAILURE := by
  rcases holds_dials cfg hholds hqos1 hid hclosed hconnect with ⟨hrc, -⟩ | ⟨_, again, -, -, hpublishes⟩
  · exact hrc
  · exact hpublishes.failed hqos

theorem locked_run (cfg : Config) (hholds : y.client.slot.Holds stored) (hqos1 : cfg.qos1 = true)
    (hid : 0 < stored.msgid) (hqos : stored.qos = .QOS1) (hclosed : y.client.isconnected = false)
    (post : List (Request σ κ)) :
    (y.run cfg post).client.slot.Holds stored ∧ (y.run cfg post).client.isconnected = false := by
  induction post generalizing y with
  | nil => exact ⟨hholds, hclosed⟩
  | cons request post ih =>
    have hdone := perform_performed cfg hholds.loaded request
    have hkept := hdone.kept (store_closed hclosed request.op)
    refine ih (by rw [hkept]; exact hholds) ?_
    rw [hdone.isconnected, hclosed, Bool.false_and, Bool.false_or]
    cases hop : request.op with
    | connect options =>
      rw [holds_locked cfg hholds hqos1 hid hqos hclosed hop]
      rfl
    | _ => rfl

theorem connect_resends_last_publish (cfg : Config) (commandTimeoutMs : Nat) (idle : τ)
    (duration : Nat) (cleansession : Bool) {pre post : List (Request σ κ)}
    {publish connect : Request σ κ} {options : ConnectData}
    (hstored : stored ∈ publish.op.store cfg (System.run cfg
      (.start cfg commandTimeoutMs idle duration cleansession) pre).client.toSession)
    (hid : 0 < stored.msgid)
    (hlater : Steps (System.perform cfg) (StoresNone cfg) (System.run cfg
      (.start cfg commandTimeoutMs idle duration cleansession) (pre ++ [publish])) post)
    (hclosed : (System.run cfg (.start cfg commandTimeoutMs idle duration cleansession)
      (pre ++ publish :: post)).client.isconnected = false)
    (hconnect : connect.op = .connect options) :
    let y := System.run cfg (.start cfg commandTimeoutMs idle duration cleansession)
      (pre ++ publish :: post)
    (y.rc cfg connect = FAILURE ∧ ∀ packet, .sent packet ∉ y.events cfg connect) ∨
    ∃ waited again, y.events cfg connect =
        .sent (serializeConnect cfg.maxPacketSize options).written :: (waited ++ again) ∧
      AwaitsAnswer cfg y connect options waited ∧
      Publishes (stored.qos = .QOS1) stored.packet (y.rc cfg connect) again := by
  have hloaded := run_loaded cfg (start_loaded cfg commandTimeoutMs idle duration cleansession) pre
  simp only [System.run, List.foldl_append, List.foldl_cons, List.foldl_nil]
    at hstored hlater hclosed hloaded ⊢
  obtain ⟨_, _, _, _, -, -, hqos1, -⟩ := store_some hstored
  exact holds_dials cfg (run_holds cfg hloaded hstored hlater) hqos1 hid hclosed hconnect

theorem qos1_publish_locks_out (cfg : Config) (commandTimeoutMs : Nat) (idle : τ) (duration : Nat)
    (cleansession : Bool) {pre : List (Request σ κ)} {publish : Request σ κ}
    (hstored : stored ∈ publish.op.store cfg (System.run cfg
      (.start cfg commandTimeoutMs idle duration cleansession) pre).client.toSession)
    (hqos : stored.qos = .QOS1) (post : List (Request σ κ)) :
    let y := System.run cfg (.start cfg commandTimeoutMs idle duration cleansession)
      (pre ++ publish :: post)
    y.client.isconnected = false ∧
      ∀ connect options, connect.op = .connect options →
        y.rc cfg (connect : Request σ κ) = FAILURE := by
  have hloaded := run_loaded cfg (start_loaded cfg commandTimeoutMs idle duration cleansession) pre
  simp only [System.run, List.foldl_append, List.foldl_cons] at hstored hloaded ⊢
  generalize pre.foldl (System.perform cfg)
    (System.start cfg commandTimeoutMs idle duration cleansession) = y at hstored hloaded ⊢
  obtain ⟨topic, payload, id, retained, hop, -, hqos1, hfit, -⟩ := store_some hstored
  have hdone := perform_performed cfg hloaded publish
  have hrc := (stored_published cfg hstored).failed hqos
  have hclosed : (y.perform cfg publish).client.isconnected = false := by
    rw [hdone.isconnected, hrc, hop]
    simp [Op.keeps, Op.isConnect, hfit]
  have hid := store_msgid hstored hqos
  obtain ⟨hholds, hlocked⟩ := locked_run cfg (hdone.held stored hstored) hqos1 hid hqos hclosed post
  exact ⟨hlocked, fun connect options hconnect =>
    holds_locked cfg hholds hqos1 hid hqos hlocked hconnect⟩

end Resend

def asks (op : Op) (datagrams : List Bytes) : Request UdpSocket Bool :=
  ⟨op, ⟨datagrams.map .datagram, []⟩, List.replicate 12 false, []⟩

def persistent : ConnectData := ⟨.ofLenString [0x73], 0, false, false⟩

def connack (code : UInt8) : Bytes := [3, MQTTSN_CONNACK, code]

def reading (qos : QoS) : Op := .publish ⟨.predefined, .id 7⟩ [42] 0 qos false

def started : System OracleTimer := .start (.standard .qos1) 30000 .oracle 0 true

def readingStored (qos : QoS) (flags msgid : UInt8) : StoredPublish :=
  ⟨[8, MQTTSN_PUBLISH, flags, 0, 7, 0, msgid, 42], msgid.toNat, qos⟩

theorem qos1_publish_locks_out_again :
    let y := started.run (.standard .qos1)
      ([asks (.connect persistent) [connack 0]] ++ asks (reading .QOS1) [puback] ::
        [asks (.connect persistent) [connack 0, puback]])
    y.client.isconnected = false ∧
      ∀ connect options, connect.op = .connect options →
        y.rc (.standard .qos1) (connect : Request UdpSocket Bool) = FAILURE := by
  have hstored : readingStored .QOS1 0x21 1 ∈ (asks (reading .QOS1) [puback]).op.store
      (.standard .qos1)
      (started.run (.standard .qos1) [asks (.connect persistent) [connack 0]]).client.toSession := by
    decide
  exact qos1_publish_locks_out (.standard .qos1) 30000 OracleTimer.oracle 0 true hstored rfl _

-- the second CONNACK refuses the client
def refusedAfterPublish : List (Request UdpSocket Bool) :=
  [asks (.connect persistent) [connack 0]] ++ asks (reading .QOS2) [] :: [asks (.disconnect 0) []]

theorem connect_resends_last_publish_refused :
    let y := started.run (.standard .qos1) refusedAfterPublish
    let connect := asks (.connect persistent) [connack 1]
    ((y.rc (.standard .qos1) connect = FAILURE ∧
        ∀ packet, .sent packet ∉ y.events (.standard .qos1) connect) ∨
      ∃ waited again, y.events (.standard .qos1) connect =
          .sent (serializeConnect 100 persistent).written :: (waited ++ again) ∧
        AwaitsAnswer (.standard .qos1) y connect persistent waited ∧
        Publishes (QoS.QOS2 = .QOS1) (readingStored .QOS2 0x41 1).packet
          (y.rc (.standard .qos1) connect) again) ∧
    y.rc (.standard .qos1) connect = SUCCESS := by
  have hstored : readingStored .QOS2 0x41 1 ∈ (asks (reading .QOS2) []).op.store (.standard .qos1)
      (started.run (.standard .qos1) [asks (.connect persistent) [connack 0]]).client.toSession := by
    decide
  have hlater : Steps (System.perform (.standard .qos1)) (StoresNone (.standard .qos1))
      (started.run (.standard .qos1)
        ([asks (.connect persistent) [connack 0]] ++ [asks (reading .QOS2) []]))
      [asks (.disconnect 0) []] := ⟨rfl, trivial⟩
  exact ⟨connect_resends_last_publish (.standard .qos1) 30000 OracleTimer.oracle 0 true hstored
    (by decide) hlater (by decide) rfl, by decide⟩

end MbedMqtt.MQTTSN
