import MbedMqtt.Contract.BrokerLoss

namespace MbedMqtt.MQTTSNGW

open PacketHandleTask

namespace Process

structure Unlogged (s after : Process) : Prop where
  sent : after.sent = s.sent
  relayed : after.relayed = s.relayed
  wiring : ∀ type, (after.adapters type).wiring = (s.adapters type).wiring

namespace Unlogged

variable {s middle after : Process}

theorem refl (s : Process) : Unlogged s s := ⟨rfl, rfl, fun _ => rfl⟩

theorem trans (h : Unlogged s middle) (k : Unlogged middle after) : Unlogged s after :=
  ⟨k.sent.trans h.sent, k.relayed.trans h.relayed, fun type => (k.wiring type).trans (h.wiring type)⟩

theorem setAdapter {type : AdapterType} {adapter : Adapter}
    (h : adapter.wiring = (s.adapters type).wiring) : Unlogged s (s.setAdapter type adapter) :=
  ⟨rfl, rfl, (Function.forall_update_iff s.adapters fun kind adapter =>
    adapter.wiring = (s.adapters kind).wiring).mpr ⟨h, fun _ _ => rfl⟩⟩

theorem savePackets (secure : Bool) (c : Nat) (packets : List MQTTSNPacket) (adapter : Adapter) :
    (packets.foldl (fun adapter packet => adapter.savePacket secure c packet) adapter).wiring =
      adapter.wiring := by
  induction packets generalizing adapter with
  | nil => rfl
  | cons packet packets ih => rw [List.foldl_cons, ih, Adapter.savePacket_wiring]

theorem dispatch (cfg : Config) (s : Process) (c : Nat) (handled : Handled) :
    Unlogged s (Process.dispatch cfg s c handled) :=
  have h : Unlogged s (s.setAdapter .qosm1Proxy _) := .setAdapter (savePackets _ c handled.suspended _)
  ⟨h.sent, h.relayed, h.wiring⟩

theorem packetHandle (cfg : Config) (s : Process) (ids : MessageIds) :
    Unlogged s (Process.packetHandle cfg s ids) := by
  unfold Process.packetHandle
  split
  · exact .refl s
  split
  · exact ⟨rfl, rfl, fun _ => rfl⟩
  cases handleEvent cfg.gw ids s.task.clients _ with
  | nothing => exact ⟨rfl, rfl, fun _ => rfl⟩
  | fault => exact ⟨rfl, rfl, fun _ => rfl⟩
  | done target handled =>
    simp only [Process.conclude]
    split
    · exact ⟨rfl, rfl, fun _ => rfl⟩
    · have h := dispatch cfg { s with task := finish s.task (.done target handled) } target handled
      exact ⟨h.sent, h.relayed, h.wiring⟩

theorem checkProxy (s : Process) (type : AdapterType) (timeup : Timeup) (channel : Channel) :
    Unlogged s (Process.checkProxy s type timeup channel) := by
  simp only [Process.checkProxy]
  split
  · exact ⟨rfl, rfl, fun _ => rfl⟩
  · have hset := setAdapter (Adapter.setProxy_wiring (s.adapters type)
      ((s.adapters type).proxyOf channel |>.checkConnection timeup
        ((s.adapters type).clientOf channel)
        (s.task.clients ((s.adapters type).clientOf channel))).1 channel)
    exact ⟨hset.sent, hset.relayed, hset.wiring⟩

theorem checkAdapter (s : Process) (timeup : AdapterType → Channel → Timeup) (type : AdapterType) :
    Unlogged s (Process.checkAdapter s timeup type) := by
  simp only [Process.checkAdapter]
  split
  · exact (checkProxy s type _ _).trans (checkProxy _ type _ _)
  · exact checkProxy s type _ _

theorem checkConnection (cfg : Config) (s : Process) (timeup : AdapterType → Channel → Timeup) :
    Unlogged s (Process.checkConnection cfg s timeup) := by
  have haggregater : Unlogged s
      (if cfg.gw.aggregaterActive then Process.checkAdapter s timeup .aggregater else s) := by
    split
    · exact checkAdapter s timeup _
    · exact .refl s
  simp only [Process.checkConnection]
  split
  · exact haggregater.trans (checkAdapter _ timeup _)
  · exact haggregater

theorem brokerRecv (cfg : Config) (s : Process) (c : Nat) (reading : Reading) :
    Unlogged s (BrokerRecvTask.run cfg s c reading) := by
  unfold BrokerRecvTask.run
  split
  · exact .refl s
  cases reading with
  | packet packet =>
    simp only [BrokerRecvTask.receive]
    split <;> exact ⟨rfl, rfl, fun _ => rfl⟩
  | disconnected =>
    simp only [BrokerRecvTask.receive, BrokerRecvTask.erase]
    split <;> exact ⟨rfl, rfl, fun _ => rfl⟩
  | failed =>
    simp only [BrokerRecvTask.receive]
    split <;> exact ⟨rfl, rfl, fun _ => rfl⟩
  | noMemory => exact .refl s

end Unlogged

def Separated (cfg : Config) (s : Process) : Prop :=
  (∀ m ∈ s.sent, cfg.secureNetwork m.client = true →
    ∀ type ∈ m.managed, m.connection ≠ (s.adapters type).client) ∧
  ∀ r ∈ s.relayed, cfg.secureNetwork r.client = true → r.channel = .secure

-- nothing of client `c` gets written to the connection `d`
def Unwritten (s : Process) (c d : Nat) (packet : MQTTGWPacket) (attempt : Attempt) : Prop :=
  s.erased c = true ∨ s.erased d = true ∨ attempt.sent = false ∨
    attempt.connected = false ∧ (packet.getType = CONNECT ∨ s.network d ≠ .established)

def Unmixed (cfg : Config) (s : Process) : Act → Prop
  | .brokerSend attempt => s.task.fault = false → ∀ m ∈ s.brokerSendQue.head?,
      cfg.secureNetwork m.1 = true → ∀ type ∈ (s.task.clients m.1).managedBy,
        Unwritten s m.1 (s.adapters type).client m.2 attempt
  | .clientSend => s.task.fault = false → ∀ m ∈ s.clientSendQue.head?,
      cfg.secureNetwork m.1 = true →
        s.erased m.1 = true ∨ (s.task.clients m.1).adapterType = none
  | _ => True

section Separation

variable {cfg : Config} {s after : Process}

theorem client_of_wiring {adapter other : Adapter} (h : adapter.wiring = other.wiring) :
    adapter.client = other.client := congrArg Adapter.Wiring.client h

theorem separated_unlogged (h : Unlogged s after) : Separated cfg after ↔ Separated cfg s := by
  simp only [Separated, h.sent, h.relayed, client_of_wiring (h.wiring _)]

theorem separated_sending {m : Sending} (hsent : after.sent = s.sent ++ [m])
    (hrelayed : after.relayed = s.relayed) (hadapters : after.adapters = s.adapters) :
    Separated cfg after ↔ Separated cfg s ∧ (cfg.secureNetwork m.client = true →
      ∀ type ∈ m.managed, m.connection ≠ (s.adapters type).client) := by
  simp only [Separated, hsent, hrelayed, hadapters, List.forall_mem_append, List.forall_mem_singleton]
  exact and_right_comm

theorem separated_relay {r : Relay} (hsent : after.sent = s.sent)
    (hrelayed : after.relayed = s.relayed ++ [r])
    (hwiring : ∀ type, (after.adapters type).wiring = (s.adapters type).wiring) :
    Separated cfg after ↔ Separated cfg s ∧
      (cfg.secureNetwork r.client = true → r.channel = .secure) := by
  simp only [Separated, hsent, hrelayed, client_of_wiring (hwiring _), List.forall_mem_append,
    List.forall_mem_singleton]
  exact and_assoc.symm

theorem exchange_sent_iff (packet : MQTTGWPacket) (connection : Connection) (attempt : Attempt) :
    BrokerSendTask.exchange packet connection attempt = .sent ↔ attempt.sent = true ∧
      (attempt.connected = true ∨ packet.getType ≠ CONNECT ∧ connection = .established) := by
  have hvalid : (BrokerSendTask.renewed packet connection).isValid = true ↔
      packet.getType ≠ CONNECT ∧ connection = .established := by
    unfold BrokerSendTask.renewed
    split
    · cases connection <;> simp [Connection.close, Connection.isValid, *]
    · cases connection <;> simp [Connection.isValid, *]
  unfold BrokerSendTask.exchange
  rw [← hvalid]
  obtain ⟨connected, sent⟩ := attempt
  cases (BrokerSendTask.renewed packet connection).isValid <;> cases connected <;> cases sent <;> simp

theorem getClient_managed {c : Nat} {type : AdapterType}
    (h : (s.task.clients c).managedBy = some type) :
    BrokerSendTask.getClient cfg s c = (s.adapters type).client := by
  simp only [BrokerSendTask.getClient, h, Adapter.getAdapterClient_eq]

theorem unwritten_iff (cfg : Config) {c : Nat} {type : AdapterType} (packet : MQTTGWPacket) (attempt : Attempt)
    (h : (s.task.clients c).managedBy = some type) :
    Unwritten s c (s.adapters type).client packet attempt ↔
      (s.erased c || s.erased (BrokerSendTask.getClient cfg s c)) = true ∨
        BrokerSendTask.exchange packet (s.network (BrokerSendTask.getClient cfg s c)) attempt ≠ .sent := by
  rw [getClient_managed h, ne_eq, exchange_sent_iff, Unwritten, Bool.or_eq_true, or_assoc]
  refine or_congr_right (or_congr_right ?_)
  rw [not_and_or, Bool.not_eq_true, not_or, Bool.not_eq_true, not_and_or, not_not]

-- a packet of an adapter's client is written to the adapter's plain connection, whatever that client is
theorem separated_written {c : Nat} {packet : MQTTGWPacket} {rest : List (Nat × MQTTGWPacket)}
    {attempt : Attempt} (hque : s.brokerSendQue = (c, packet) :: rest) (h : Separated cfg s) :
    Separated cfg (BrokerSendTask.run cfg s attempt) ↔
      (cfg.secureNetwork c = true → (s.task.clients c).managedBy ≠ none →
        (s.erased c || s.erased (BrokerSendTask.getClient cfg s c)) = true ∨
          BrokerSendTask.exchange packet (s.network (BrokerSendTask.getClient cfg s c)) attempt ≠
            .sent) := by
  simp only [BrokerSendTask.run, hque]
  split
  · rename_i herased
    exact iff_of_true ((separated_unlogged ⟨rfl, rfl, fun _ => rfl⟩).mpr h) fun _ _ => .inl herased
  rename_i herased
  simp only [herased, Bool.false_eq_true, false_or]
  cases hexchange : BrokerSendTask.exchange packet
      (s.network (BrokerSendTask.getClient cfg s c)) attempt with
  | refused =>
    exact iff_of_true ((separated_unlogged ⟨rfl, rfl, fun _ => rfl⟩).mpr h) fun _ _ => SendOutcome.noConfusion
  | broken =>
    exact iff_of_true ((separated_unlogged ⟨rfl, rfl, fun _ => rfl⟩).mpr h) fun _ _ => SendOutcome.noConfusion
  | sent =>
    have hsending : Separated cfg (BrokerSendTask.conclude { s with brokerSendQue := rest } c
        (BrokerSendTask.getClient cfg s c) packet .sent) ↔
        Separated cfg s ∧ (cfg.secureNetwork c = true → ∀ type ∈ (s.task.clients c).managedBy,
          BrokerSendTask.getClient cfg s c ≠ (s.adapters type).client) := by
      simp only [BrokerSendTask.conclude]
      split
      · exact separated_sending (s := s) (m := ⟨c, _, _, packet⟩) rfl rfl rfl
      · exact separated_sending (s := s) (m := ⟨c, _, _, packet⟩) rfl rfl rfl
    rw [hsending, and_iff_right h]
    refine imp_congr_right fun _ => ?_
    cases hmanaged : (s.task.clients c).managedBy with
    | none => simp
    | some type => simp [getClient_managed hmanaged]

theorem separated_brokerSend {attempt : Attempt} (hrunning : s.task.fault = false)
    (h : Separated cfg s) :
    Separated cfg (BrokerSendTask.run cfg s attempt) ↔ Unmixed cfg s (.brokerSend attempt) := by
  cases hque : s.brokerSendQue with
  | nil => simpa [BrokerSendTask.run, Unmixed, hque] using h
  | cons m rest =>
    obtain ⟨c, packet⟩ := m
    rw [separated_written hque h]
    simp only [Unmixed, hque, hrunning, List.head?_cons, Option.mem_some_iff, forall_eq', true_implies]
    refine imp_congr_right fun _ => ?_
    cases hmanaged : (s.task.clients c).managedBy with
    | none => simp
    | some type => simp [unwritten_iff cfg packet attempt hmanaged]

theorem separated_clientSend (hrunning : s.task.fault = false)
    (hsecure : ∀ type, (s.adapters type).isSecure = true) (h : Separated cfg s) :
    Separated cfg (ClientSendTask.run cfg s) ↔ Unmixed cfg s .clientSend := by
  cases hque : s.clientSendQue with
  | nil => simpa [ClientSendTask.run, Unmixed, hque] using h
  | cons m rest =>
    obtain ⟨c, packet⟩ := m
    simp only [Unmixed, ClientSendTask.run, hque, hrunning, List.head?_cons, Option.mem_some_iff,
      forall_eq', true_implies]
    split
    · rename_i herased
      exact iff_of_true ((separated_unlogged ⟨rfl, rfl, fun _ => rfl⟩).mpr h) fun _ => .inl herased
    rename_i herased
    simp only [herased, Bool.false_eq_true, false_or, ClientSendTask.unicastToClient]
    split
    · rename_i hnone
      exact iff_of_true ((separated_unlogged ⟨rfl, rfl, fun _ => rfl⟩).mpr h) fun _ => hnone
    · rename_i type htype
      simp only [Adapter.selected_plain (hsecure type)]
      have hwiring := Adapter.setProxy_wiring (s.adapters type)
        (((s.adapters type).proxyOf .plain).recv packet).1 .plain
      refine (separated_relay (s := s) (r := ⟨c, .plain, packet⟩) ?_ ?_ ?_).trans ?_
      · rfl
      · rfl
      · exact (Unlogged.setAdapter hwiring).wiring
      · simp [h, htype]

theorem brokerSend_wiring (cfg : Config) (s : Process) (attempt : Attempt) (type : AdapterType) :
    ((BrokerSendTask.run cfg s attempt).adapters type).wiring = (s.adapters type).wiring := by
  unfold BrokerSendTask.run
  split
  · rfl
  simp only
  split
  · rfl
  cases BrokerSendTask.exchange _ _ attempt with
  | refused => rfl
  | broken => rfl
  | sent =>
    simp only [BrokerSendTask.conclude]
    split <;> rfl

theorem clientSend_wiring (cfg : Config) (s : Process) (type : AdapterType) :
    ((ClientSendTask.run cfg s).adapters type).wiring = (s.adapters type).wiring := by
  unfold ClientSendTask.run
  split
  · rfl
  split
  · rfl
  unfold ClientSendTask.unicastToClient
  split
  · rfl
  split
  · rfl
  · exact (Unlogged.setAdapter (Adapter.setProxy_wiring _ _ _)).wiring type

theorem step_unlogged {act : Act} (hbroker : ∀ attempt, act ≠ .brokerSend attempt)
    (hclient : act ≠ .clientSend) : Unlogged s (step cfg s act) := by
  unfold step
  split
  · exact .refl s
  cases act with
  | searchgw => exact ⟨rfl, rfl, fun _ => rfl⟩
  | clientRecv c packet =>
    simp only
    split <;> exact ⟨rfl, rfl, fun _ => rfl⟩
  | setForwarder c =>
    simp only
    split <;> exact ⟨rfl, rfl, fun _ => rfl⟩
  | brokerRecv c reading => exact .brokerRecv cfg s c reading
  | packetHandle ids => exact .packetHandle cfg s ids
  | checkConnection timeup =>
    simp only
    split
    · exact .checkConnection cfg s timeup
    · exact .refl s
  | brokerSend attempt => exact absurd rfl (hbroker attempt)
  | clientSend => exact absurd rfl hclient

theorem step_wiring (cfg : Config) (s : Process) (act : Act) (type : AdapterType) :
    ((step cfg s act).adapters type).wiring = (s.adapters type).wiring := by
  by_cases hbroker : ∀ attempt, act ≠ .brokerSend attempt
  · by_cases hclient : act = .clientSend
    · subst hclient
      unfold step
      split
      · rfl
      · exact clientSend_wiring cfg s type
    · exact (step_unlogged hbroker hclient).wiring type
  · push Not at hbroker
    obtain ⟨attempt, rfl⟩ := hbroker
    unfold step
    split
    · rfl
    · exact brokerSend_wiring cfg s attempt type

theorem step_separated {act : Act} (hsecure : ∀ type, (s.adapters type).isSecure = true)
    (h : Separated cfg s) : Separated cfg (step cfg s act) ↔ Unmixed cfg s act := by
  cases hfault : s.task.fault with
  | true =>
    have hstep : step cfg s act = s := if_pos hfault
    rw [hstep]
    refine iff_of_true h ?_
    cases act with
    | brokerSend attempt => exact fun hrunning => absurd (hfault.symm.trans hrunning) nofun
    | clientSend => exact fun hrunning => absurd (hfault.symm.trans hrunning) nofun
    | _ => trivial
  | false =>
    have hrunning : ¬s.task.fault = true := by simp [hfault]
    cases act with
    | brokerSend attempt =>
      have hstep : step cfg s (.brokerSend attempt) = BrokerSendTask.run cfg s attempt := if_neg hrunning
      rw [hstep]
      exact separated_brokerSend hfault h
    | clientSend =>
      have hstep : step cfg s .clientSend = ClientSendTask.run cfg s := if_neg hrunning
      rw [hstep]
      exact separated_clientSend hfault hsecure h
    | _ => exact iff_of_true (Iff.mpr (separated_unlogged (step_unlogged nofun nofun)) h) trivial

end Separation

def securedAdapters (client clientSecure : AdapterType → Nat) : AdapterType → Adapter :=
  fun type => .setup true (client type) (clientSecure type)

theorem separated_initial (cfg : Config) (clients : Nat → Client) (adapters : AdapterType → Adapter) :
    Separated cfg (initial clients adapters) :=
  ⟨List.forall_mem_nil _, List.forall_mem_nil _⟩

theorem secure_separation_iff (cfg : Config) (clients : Nat → Client)
    (client clientSecure : AdapterType → Nat) (acts : List Act) :
    (∀ n, Separated cfg
      (reached cfg clients (securedAdapters client clientSecure) (acts.take n))) ↔
    Steps (step cfg) (Unmixed cfg) (initial clients (securedAdapters client clientSecure)) acts := by
  refine Steps.iff_prefixes_under
    (J := fun s => ∀ type, (s.adapters type).isSecure = true) ?_ ?_ (fun _ => rfl)
    (separated_initial cfg clients (securedAdapters client clientSecure))
  · intro s act hsecure type
    exact (congrArg Adapter.Wiring.isSecure (step_wiring cfg s act type)).trans (hsecure type)
  · intro s act hsecure hseparated
    exact step_separated hsecure hseparated

def mixedConfig : Config :=
  ⟨{ bareGateway with qosm1ProxyActive := true }, fun c => c = 0 ∨ c = 2, false, fun _ => false⟩

def mixedClients : Nat → Client
  | 0 => .initial .qosm1 [0x63] .initial
  | _ => .initial .proxy [0x70] .initial

def mixedActs : List Act :=
  [.checkConnection fun _ _ => ⟨false, false⟩, .packetHandle noIds, .packetHandle noIds,
    .brokerSend ⟨true, true⟩, .brokerSend ⟨true, true⟩, .brokerRecv 2 (.packet ⟨0x20, 2, [0, 0]⟩),
    .packetHandle noIds, .clientSend,
    .clientRecv 0 (.publish (some ⟨false, .reserved, false, 0, ⟨.short, .shortName 0x61 0x62⟩, [0x68]⟩)),
    .packetHandle noIds, .brokerSend ⟨true, true⟩]

def mixed : Process :=
  reached mixedConfig mixedClients (securedAdapters (fun _ => 1) (fun _ => 2)) mixedActs

theorem secure_separation_mixed :
    mixed.sent.map (fun m => (m.client, m.managed, m.connection)) =
      [(1, none, 1), (2, none, 2), (0, some .qosm1Proxy, 1)] ∧
    mixed.relayed = [⟨2, .plain, .connack MQTTSN_RC_ACCEPTED⟩] ∧
    mixedConfig.secureNetwork 0 = true ∧ mixedConfig.secureNetwork 2 = true ∧
    ¬Separated mixedConfig mixed := by
  have hsent : mixed.sent.map (fun m => (m.client, m.managed, m.connection)) =
      [(1, none, 1), (2, none, 2), (0, some .qosm1Proxy, 1)] := by decide +kernel
  have hrelayed : mixed.relayed = [⟨2, .plain, .connack MQTTSN_RC_ACCEPTED⟩] := by decide +kernel
  refine ⟨hsent, hrelayed, rfl, rfl, ?_⟩
  intro hseparated
  have hchannel : Channel.plain = .secure :=
    hseparated.2 _ (hrelayed ▸ List.mem_singleton_self _) rfl
  cases hchannel

end Process

end MbedMqtt.MQTTSNGW
