import MbedMqtt.Client.Sweep
import MbedMqtt.Contract.NoLoss
import MbedMqtt.Contract.Inflight

namespace MbedMqtt

def Op.installs : Op → Bool
  | .subscribe _ _ (some _) => true
  | _ => false

def watchedBy (cfg : Config) (op : Op) (header : UInt8) : Bool :=
  cfg.qos2 && headerType header = PUBLISH && headerQoS header = 2 ||
    op.installs && headerType header = SUBACK

theorem watchedBy_watches (cfg : Config) (op : Op) : Watches cfg (watchedBy cfg op) := by
  intro header hq ht h2
  simp [watchedBy, hq, ht, h2]

def nothingLeft (s : Session) : Bool :=
  s.inflightMsgid = 0 && decide (Vacant s.incomingQoS2messages) && decide (Blank s.messageHandlers)

variable {cfg : Config} {H : List MessageHandlers → Prop} {s t : Session} {ev : List Event} {rc : Int}

theorem Swept.runs_connected {op : Op} (h : Swept cfg Blank s) (hs : s.isconnected = true)
    (hrun : Runs cfg s op rc ev t)
    (harrives : arrivesConnected cfg (watchedBy cfg op) s.isconnected ev = true) :
    Swept cfg Blank t := by
  have hwatched := watchedBy_watches cfg op
  cases hrun with
  | connect h' =>
    obtain ⟨rfl, rfl⟩ := h'.of_connected hs
    exact h
  | publish hp => exact h.publishes id hwatched hp harrives
  | @subscribe _ _ mh _ _ _ hr =>
    refine h.requests hwatched hr (by simp [expected]) (fun hmh header ht => ?_) harrives
    cases mh with
    | none => cases hmh
    | some mh => simp [watchedBy, Op.installs, ht]
  | unsubscribe hr =>
    exact h.requests hwatched hr (by simp [expected]) (fun hmh => absurd hmh Bool.false_ne_true) harrives
  | yield hw => exact h.waits id hwatched hw harrives
  | disconnect hd => cases hd <;> exact h.close id
  | setMessageHandler =>
    refine ⟨h.clean, h.idle, h.unused, fun hno => ?_, h.vacant⟩
    simp [hs] at hno
  | setDefaultMessageHandler => exact ⟨h.clean, h.idle, h.unused, h.handlers, h.vacant⟩

theorem Swept.runs_disconnected {op : Op} (hH : ∀ {slots}, Blank slots → H slots)
    (h : Swept cfg H s) (hs : s.isconnected = false) (hrun : Runs cfg s op rc ev t)
    (hconnect : ∀ options, op ≠ .connect options)
    (hset : ∀ topicFilter mh, op ≠ .setMessageHandler topicFilter mh)
    (harrives : arrivesConnected cfg (watchedBy cfg op) s.isconnected ev = true) :
    Swept cfg H t := by
  have hwatched := watchedBy_watches cfg op
  cases hrun with
  | connect => exact absurd rfl (hconnect _)
  | publish hp => exact h.publishes hH hwatched hp harrives
  | subscribe hr =>
    rw [hr.of_disconnected hs]
    exact h.close hH
  | unsubscribe hr =>
    rw [hr.of_disconnected hs]
    exact h.close hH
  | yield hw => exact h.waits hH hwatched hw harrives
  | disconnect hd => cases hd <;> exact h.close hH
  | setMessageHandler => exact absurd rfl (hset _ _)
  | setDefaultMessageHandler => exact ⟨h.clean, h.idle, h.unused, h.handlers, h.vacant⟩

variable {σ τ κ : Type} [Network σ] [Timer τ κ]

def isolates (cfg : Config) (y : System τ) (call : Call σ κ) : Bool :=
  (match call.op with
    | .connect options => y.client.isconnected || !options.cleansession || y.client.cleansession ||
        nothingLeft y.client.toSession
    | _ => true) &&
  arrivesConnected cfg (watchedBy cfg call.op) y.client.isconnected (y.events cfg call)

def InstalledSince (cfg : Config) (start : System τ) (calls : List (Call σ κ))
    (topicFilter : Bytes) : Prop :=
  ∃ pre call post mh, calls = pre ++ call :: post ∧ call.op = .setMessageHandler topicFilter mh ∧
    ∀ tail, tail <+: call :: post →
      (System.run cfg start (pre ++ tail)).client.isconnected = false

def Fresh (cfg : Config) (start : System τ) (calls : List (Call σ κ))
    (slots : List MessageHandlers) : Prop :=
  ∀ slot ∈ slots, ∀ topicFilter, slot.topicFilter = some topicFilter →
    InstalledSince cfg start calls topicFilter

structure Isolation (cfg : Config) (start : System τ) (calls : List (Call σ κ)) (call : Call σ κ) :
    Prop where
  unsent : ∀ e ∈ (System.run cfg start calls).events cfg call, handsPublish e = false
  idle : (System.run cfg start (calls ++ [call])).client.inflightMsgid = 0
  vacant : ∀ id ∈ (System.run cfg start (calls ++ [call])).client.incomingQoS2messages, id = 0
  fresh : ∀ slot ∈ (System.run cfg start (calls ++ [call])).client.messageHandlers,
    ∀ topicFilter, slot.topicFilter = some topicFilter →
      InstalledSince cfg start calls topicFilter

theorem Blank.fresh {start : System τ} {calls : List (Call σ κ)} {slots : List MessageHandlers}
    (h : Blank slots) : Fresh cfg start calls slots := by
  intro slot hmem topicFilter hf
  rw [h slot hmem] at hf
  cases hf

theorem InstalledSince.extend {start : System τ} {calls : List (Call σ κ)} {call : Call σ κ}
    {topicFilter : Bytes} (h : InstalledSince cfg start calls topicFilter)
    (hdown : (System.run cfg start (calls ++ [call])).client.isconnected = false) :
    InstalledSince cfg start (calls ++ [call]) topicFilter := by
  obtain ⟨pre, install, post, mh, rfl, hop, hidle⟩ := h
  refine ⟨pre, install, post ++ [call], mh, by simp, hop, fun tail htail => ?_⟩
  rw [← List.cons_append, List.prefix_concat_iff] at htail
  rcases htail with rfl | htail
  · rwa [← List.append_assoc]
  · exact hidle tail htail

theorem InstalledSince.last {start : System τ} {calls : List (Call σ κ)} {call : Call σ κ}
    {topicFilter : Bytes} {mh : Option Nat} (hop : call.op = .setMessageHandler topicFilter mh)
    (hbefore : (System.run cfg start calls).client.isconnected = false)
    (hafter : (System.run cfg start (calls ++ [call])).client.isconnected = false) :
    InstalledSince cfg start (calls ++ [call]) topicFilter := by
  refine ⟨calls, call, [], mh, rfl, hop, fun tail htail => ?_⟩
  rcases List.prefix_concat_iff.mp (by simpa using htail : tail <+: [] ++ [call]) with rfl | htail
  · exact hafter
  · rw [List.prefix_nil.mp htail, List.append_nil]
    exact hbefore

theorem Swept.mono {K : List MessageHandlers → Prop} (h : Swept cfg H s)
    (hHK : s.isconnected = false → H s.messageHandlers → K s.messageHandlers) : Swept cfg K s :=
  ⟨h.clean, h.idle, h.unused, fun hconn => hHK hconn (h.handlers hconn), h.vacant⟩

theorem nothingLeft_swept (hH : ∀ {slots}, Blank slots → H slots) (h : nothingLeft s = true)
    {options : ConnectData} (hclean : options.cleansession = true) :
    Swept cfg H (s.configured options) := by
  simp only [nothingLeft, Bool.and_eq_true, decide_eq_true_eq] at h
  exact ⟨hclean, h.1.1, fun _ => h.1.2, fun _ => hH h.2, fun _ => h.1.2⟩

theorem Runs.stays_persistent {op : Op} (h : Runs cfg s op rc ev t) (hout : Outbound cfg s)
    (hs : s.cleansession = false)
    (hop : ∀ options, op = .connect options →
      s.isconnected = true ∨ options.cleansession = false) : t.cleansession = false := by
  by_cases hall : ∀ options, op = .connect options → options.cleansession = false
  · exact (open_of_persistent (h.conduct hout hall) hs).1
  · simp only [not_forall] at hall
    obtain ⟨options, rfl, hclean⟩ := hall
    have hconn := (hop options rfl).resolve_right hclean
    cases h with
    | connect h =>
      obtain ⟨rfl, rfl⟩ := h.of_connected hconn
      exact hs

def Swept.Regime (cfg : Config) (start : System τ) (calls : List (Call σ κ)) (y : System τ) : Prop :=
  Outbound cfg y.client.toSession ∧
    (y.client.cleansession = true → Swept cfg (Fresh cfg start calls) y.client.toSession)

theorem isolates_arrives {y : System τ} {call : Call σ κ} (hcall : isolates cfg y call = true) :
    arrivesConnected cfg (watchedBy cfg call.op) y.client.isconnected (y.events cfg call) = true := by
  rw [isolates, Bool.and_eq_true] at hcall
  exact hcall.2

theorem isolates_configured {start y : System τ} {calls : List (Call σ κ)} {call : Call σ κ}
    (h : Swept.Regime cfg start calls y) (hdown : y.client.isconnected = false)
    {options : ConnectData} (hop : call.op = .connect options)
    (hclean : options.cleansession = true) (hcall : isolates cfg y call = true) :
    Swept cfg (Fresh cfg start calls) (y.client.toSession.configured options) := by
  simp only [isolates, hop, hdown, hclean, Bool.and_eq_true, Bool.or_eq_true, Bool.not_true,
    Bool.false_eq_true, false_or] at hcall
  rcases hcall.1 with hflag | hleft
  · have hswept := h.2 hflag
    exact ⟨hclean, hswept.idle, hswept.unused, hswept.handlers, hswept.vacant⟩
  · exact nothingLeft_swept Blank.fresh hleft hclean

theorem System.run_concat (cfg : Config) (start : System τ) (calls : List (Call σ κ))
    (call : Call σ κ) :
    System.run cfg start (calls ++ [call]) = (System.run cfg start calls).perform cfg call := by
  simp [System.run]

theorem Swept.extend {start : System τ} {calls : List (Call σ κ)} {call : Call σ κ}
    (h : Swept cfg (Fresh cfg start calls)
      ((System.run cfg start calls).perform cfg call).client.toSession) :
    Swept cfg (Fresh cfg start (calls ++ [call]))
      ((System.run cfg start calls).perform cfg call).client.toSession := by
  refine h.mono fun hdown hfresh slot hmem topicFilter hf => ?_
  rw [← System.run_concat] at hdown
  exact (hfresh slot hmem topicFilter hf).extend hdown

section

variable {start : System τ} {calls : List (Call σ κ)} {call : Call σ κ}
  (h : Swept.Regime cfg start calls (System.run cfg start calls))
  (hcall : isolates cfg (System.run cfg start calls) call = true)
include h hcall

theorem regime_connected (hup : (System.run cfg start calls).client.isconnected = true)
    (hclean : (System.run cfg start (calls ++ [call])).client.cleansession = true) :
    Swept cfg (Fresh cfg start (calls ++ [call]))
      (System.run cfg start (calls ++ [call])).client.toSession := by
  rw [System.run_concat] at hclean ⊢
  obtain ⟨-, hrun⟩ := (System.run cfg start calls).perform_runs cfg call
  by_cases hflag : (System.run cfg start calls).client.cleansession = true
  · have hblank : Swept cfg Blank (System.run cfg start calls).client.toSession :=
      (h.2 hflag).mono fun hno => by simp [hup] at hno
    exact (hblank.runs_connected hup hrun (isolates_arrives hcall)).mono fun _ hslots => hslots.fresh
  · have hkept := hrun.stays_persistent h.1 (by simpa using hflag) fun _ _ => .inl hup
    simp [hkept] at hclean

theorem regime_connect (hdown : (System.run cfg start calls).client.isconnected = false)
    {options : ConnectData} (hop : call.op = .connect options)
    (hclean : (System.run cfg start (calls ++ [call])).client.cleansession = true) :
    Swept cfg (Fresh cfg start (calls ++ [call]))
      (System.run cfg start (calls ++ [call])).client.toSession := by
  have harrives := isolates_arrives hcall
  rw [System.run_concat] at hclean ⊢
  obtain ⟨-, hrun⟩ := (System.run cfg start calls).perform_runs cfg call
  rw [hop] at hrun
  cases hrun with
  | connect hconnect =>
    by_cases hoption : options.cleansession = true
    · have hconf := isolates_configured h hdown hop hoption hcall
      obtain ⟨u, hu, hdownu, ht, -⟩ := hconnect.swept Blank.fresh (watchedBy_watches cfg call.op)
        hdown hconf harrives
      refine Swept.extend ?_
      rw [ht]
      split
      · exact ⟨hu.clean, hu.idle, hu.unused, nofun, nofun⟩
      · exact hu
    · have hkept := open_of_persistent (hconnect.conduct_configured h.1 hdown)
        (by simpa [Session.configured] using hoption)
      simp [hkept.1] at hclean

omit hcall in
theorem regime_installed (hdown : (System.run cfg start calls).client.isconnected = false)
    {topicFilter : Bytes} {mh : Option Nat} (hop : call.op = .setMessageHandler topicFilter mh)
    (hclean : (System.run cfg start (calls ++ [call])).client.cleansession = true) :
    Swept cfg (Fresh cfg start (calls ++ [call]))
      (System.run cfg start (calls ++ [call])).client.toSession := by
  have hlast (hafter : (System.run cfg start (calls ++ [call])).client.isconnected = false) :=
    InstalledSince.last hop hdown hafter
  have hmore {topicFilter : Bytes}
      (hafter : (System.run cfg start (calls ++ [call])).client.isconnected = false)
      (hold : InstalledSince cfg start calls topicFilter) := hold.extend hafter
  obtain ⟨-, hrun⟩ := (System.run cfg start calls).perform_runs cfg call
  rw [System.run_concat] at hlast hmore hclean ⊢
  rw [hop] at hrun
  generalize ((System.run cfg start calls).perform cfg call).client.toSession = t at *
  generalize (System.run cfg start calls).rc cfg call = rc at hrun
  generalize (System.run cfg start calls).events cfg call = ev at hrun
  cases hrun with
  | setMessageHandler =>
    have hswept := h.2 hclean
    refine ⟨hclean, hswept.idle, hswept.unused, fun _ slot hmem f hf => ?_, hswept.vacant⟩
    rcases setMessageHandler_mem hmem hf with hmem | ⟨rfl, -⟩
    · exact hmore hdown (hswept.handlers hdown slot hmem f hf)
    · exact hlast hdown

theorem regime_step : Swept.Regime cfg start (calls ++ [call])
    (System.run cfg start (calls ++ [call])) := by
  obtain ⟨-, hrun⟩ := (System.run cfg start calls).perform_runs cfg call
  have hchain : Chain (SessionAct cfg fun _ => True) _ _ _ := hrun.conduct h.1 fun _ _ => trivial
  refine ⟨?_, fun hclean => ?_⟩
  · rw [System.run_concat]
    exact h.1.chain hchain
  · cases hup : (System.run cfg start calls).client.isconnected with
    | true => exact regime_connected h hcall hup hclean
    | false =>
      by_cases hconnect : ∃ options, call.op = .connect options
      · obtain ⟨options, hop⟩ := hconnect
        exact regime_connect h hcall hup hop hclean
      · by_cases hset : ∃ topicFilter mh, call.op = .setMessageHandler topicFilter mh
        · obtain ⟨topicFilter, mh, hop⟩ := hset
          exact regime_installed h hup hop hclean
        · simp only [not_exists] at hconnect hset
          rw [System.run_concat] at hclean ⊢
          by_cases hflag : (System.run cfg start calls).client.cleansession = true
          · exact Swept.extend ((h.2 hflag).runs_disconnected Blank.fresh hup hrun hconnect hset
              (isolates_arrives hcall))
          · have hkept := hrun.stays_persistent h.1 (by simpa using hflag)
              fun options hop => absurd hop (hconnect options)
            simp [hkept] at hclean

end

theorem regime_run {start : System τ} {calls : List (Call σ κ)}
    (hstart : Swept.Regime cfg start ([] : List (Call σ κ)) start)
    (h : Steps (System.perform cfg) (fun y call => isolates cfg y call = true) start calls) :
    Swept.Regime cfg start calls (System.run cfg start calls) := by
  refine h.history (I := fun calls y => Swept.Regime cfg start calls y) (fun {calls call} hcall hi => ?_)
    hstart
  have hnext := regime_step hi hcall
  rwa [System.run_concat] at hnext

theorem regime_start (cfg : Config) (commandTimeoutMs : Nat) (idle : τ) :
    Swept.Regime cfg (System.start cfg commandTimeoutMs idle) ([] : List (Call σ κ))
      (System.start cfg commandTimeoutMs idle) := by
  refine ⟨reachable_outbound cfg commandTimeoutMs idle ([] : List (Call σ κ)), fun _ => ?_⟩
  rw [System.start, Client.construct_toSession]
  have hvacant : Vacant (Session.initial cfg commandTimeoutMs).incomingQoS2messages := by
    simp [Vacant, Session.initial]
  have hblank : Blank (Session.initial cfg commandTimeoutMs).messageHandlers := by
    simp [Blank, Session.initial]
  exact ⟨rfl, rfl, fun _ => hvacant, fun _ => hblank.fresh, fun _ => hvacant⟩

theorem Connects.disconnected_before {options : ConnectData} (h : Connects cfg options s rc ev t)
    (hrc : rc = SUCCESS) : s.isconnected = false := by
  cases h with
  | already => cases hrc
  | unfit hs => exact hs
  | unsent hs => exact hs
  | answered hs => exact hs

theorem clean_connect_isolated (cfg : Config) (commandTimeoutMs : Nat) (idle : τ)
    (calls : List (Call σ κ)) (call : Call σ κ) (options : ConnectData)
    (hop : call.op = .connect options) (hclean : options.cleansession = true)
    (hisolates : Steps (System.perform cfg) (fun y call => isolates cfg y call = true)
      (System.start cfg commandTimeoutMs idle) (calls ++ [call]))
    (hrc : (System.run cfg (.start cfg commandTimeoutMs idle) calls).rc cfg call = SUCCESS) :
    Isolation cfg (.start cfg commandTimeoutMs idle) calls call := by
  rw [Steps.append] at hisolates
  obtain ⟨hcalls, hcall, -⟩ := hisolates
  have hregime := regime_run (regime_start cfg commandTimeoutMs idle) hcalls
  obtain ⟨-, hrun⟩ :=
    (System.run cfg (.start cfg commandTimeoutMs idle) calls).perform_runs cfg call
  rw [hop] at hrun
  cases hrun with
  | connect hconnect =>
    have hdown := hconnect.disconnected_before hrc
    obtain ⟨u, hu, hdownu, ht, hunsent⟩ := hconnect.swept Blank.fresh
      (watchedBy_watches cfg call.op) hdown
      (isolates_configured hregime hdown hop hclean hcall) (isolates_arrives hcall)
    rw [if_pos hrc] at ht
    refine ⟨hunsent, ?_, ?_, ?_⟩
    · rw [System.run_concat, ht]
      exact hu.idle
    · rw [System.run_concat, ht]
      exact hu.vacant hdownu
    · rw [System.run_concat, ht]
      exact hu.handlers hdownu

def installCall : Call Script Bool := ⟨.setMessageHandler [116] (some 1), ⟨[], [], []⟩, [], []⟩

theorem clean_connect_isolated_again :
    (System.run (.standard .qos2) (.start (.standard .qos2) 30000 OracleTimer.oracle)
        [connectCleanCall [], repeatedPublish]).client.incomingQoS2messages.head? = some 7 ∧
      Isolation (.standard .qos2) (.start (.standard .qos2) 30000 OracleTimer.oracle)
        [connectCleanCall [], repeatedPublish, disconnectCall, installCall] (connectCleanCall []) :=
  ⟨by decide, clean_connect_isolated (.standard .qos2) 30000 OracleTimer.oracle
    [connectCleanCall [], repeatedPublish, disconnectCall, installCall] (connectCleanCall []) _ rfl rfl
    (by decide) (by decide)⟩

theorem clean_connect_leaks :
    let cfg := Config.standard .qos2
    let start := System.start cfg 30000 OracleTimer.oracle
    let published := [connectCall, publishCall .QOS1 []]
    let received := [connectCall, repeatedPublish, disconnectCall]
    ((System.run cfg start published).rc cfg (connectCleanCall [64, 2, 0, 1]) = SUCCESS ∧
        ¬Isolation cfg start published (connectCleanCall [64, 2, 0, 1])) ∧
      (System.run cfg start received).rc cfg (connectCleanCall []) = SUCCESS ∧
        ¬Isolation cfg start received (connectCleanCall []) := by
  refine ⟨⟨by decide, fun h => ?_⟩, by decide, fun h => ?_⟩
  · exact absurd (h.unsent (.sent [50, 6, 0, 1, 116, 0, 1, 120]) (by decide)) (by decide)
  · exact absurd (h.vacant 7 (by decide)) (by decide)

end MbedMqtt
