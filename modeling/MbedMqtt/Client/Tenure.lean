import MbedMqtt.Client.Conduct

namespace MbedMqtt

def Session.Open (s : Session) : Prop := s.cleansession = false ∨ s.isconnected = true

instance (s : Session) : Decidable s.Open :=
  inferInstanceAs (Decidable (_ ∨ _))

def OpenAct (cfg : Config) (s : Session) (ev : List Event) (t : Session) : Prop :=
  SessionAct cfg (fun _ => True) s ev t ∧ t.Open

inductive Tenure (cfg : Config) (s : Session) (ev : List Event) : Session → Prop
  | kept {t : Session} (h : Chain (OpenAct cfg) s ev t) : Tenure cfg s ev t
  | closed {u : Session} (h : Chain (OpenAct cfg) s ev u) : Tenure cfg s ev (u.close cfg)

variable {cfg : Config} {allowed : Bool → Prop} {s t u : Session} {ev ev₁ ev₂ : List Event} {rc : Int}

theorem SessionAct.any (h : SessionAct cfg allowed s ev t) : SessionAct cfg (fun _ => True) s ev t := by
  cases h with
  | cycle h => exact .cycle h
  | configured => exact .configured s trivial
  | numbered => exact .numbered s
  | stored id retained hheader hlen hsize => exact .stored s id retained hheader hlen hsize
  | sent h => exact .sent s h
  | unsent h => exact .unsent s h
  | acknowledged id => exact .acknowledged s id
  | opened => exact .opened s
  | handlers slots => exact .handlers s slots
  | defaultHandler mh => exact .defaultHandler s mh

theorem close_close (cfg : Config) (s : Session) : (s.close cfg).close cfg = s.close cfg := by
  rcases close_cases cfg s with ⟨hs, heq⟩ | ⟨hs, heq⟩
  · rw [heq, Session.close]
    simp [hs]
  · rw [heq, Session.close]
    cases h1 : cfg.qos1 <;> cases h2 : cfg.qos2 <;>
      simp [Session.cleanSession, hs, h1, h2, Function.comp_def]

theorem CycleAct.connected_before (h : CycleAct cfg s ev t) (ht : t.isconnected = true) :
    s.isconnected = true := by
  rcases h.session_cases with ⟨table, rfl⟩ | rfl
  · exact ht
  · rw [close_disconnected] at ht
    cases ht

theorem open_of_connected (h : Chain (CycleAct cfg) s ev t) (ht : t.isconnected = true) :
    Chain (OpenAct cfg) s ev t := by
  induction h with
  | nil => exact .nil s
  | snoc _ hact ih => exact (ih (hact.connected_before ht)).snoc ⟨.cycle hact, .inr ht⟩

theorem open_of_persistent (h : Chain (SessionAct cfg (· = false)) s ev t)
    (hs : s.cleansession = false) : t.cleansession = false ∧ Chain (OpenAct cfg) s ev t := by
  induction h with
  | nil => exact ⟨hs, .nil s⟩
  | @snoc u t ev₁ ev₂ hchain hact ih =>
    obtain ⟨hu, hopen⟩ := ih
    have ht : t.cleansession = false := by
      cases hact with
      | cycle hact =>
        rcases hact.session_cases with ⟨table, rfl⟩ | rfl
        · exact hu
        · rcases close_cases cfg u with ⟨-, heq⟩ | ⟨hclean, -⟩
          · rw [heq]
            exact hu
          · simp [hu] at hclean
      | configured hclean => exact hclean
      | acknowledged id => exact (acknowledge_cleansession u id).trans hu
      | _ => exact hu
    exact ⟨ht, hopen.snoc ⟨hact.any, .inl ht⟩⟩

namespace Tenure

theorem close (h : Tenure cfg s ev t) : Tenure cfg s ev (t.close cfg) := by
  cases h with
  | kept h => exact .closed h
  | closed h =>
    rw [close_close]
    exact .closed h

theorem after (h : Chain (OpenAct cfg) s ev₁ u) (k : Tenure cfg u ev₂ t) :
    Tenure cfg s (ev₁ ++ ev₂) t := by
  cases k with
  | kept k => exact .kept (h.trans k)
  | closed k => exact .closed (h.trans k)

theorem open_of_connected (h : Tenure cfg s ev t) (ht : t.isconnected = true) :
    Chain (OpenAct cfg) s ev t := by
  cases h with
  | kept h => exact h
  | closed h =>
    rw [close_disconnected] at ht
    cases ht

end Tenure

theorem TurnAct.tenure (h : TurnAct cfg s ev t) (hs : s.isconnected = true) : Tenure cfg s ev t := by
  have hexit {u : Session} (hchain : Chain (CycleAct cfg) s ev u) (hu : u.isconnected = true)
      (ht : t = u ∨ t = u.close cfg) : Tenure cfg s ev t := by
    rcases ht with rfl | rfl
    · exact .kept (open_of_connected hchain hu)
    · exact .closed (open_of_connected hchain hu)
  cases h with
  | idle _ hchain ht => exact hexit hchain hs ht
  | read _ _ hact hu hchain ht => exact hexit ((Chain.single hact).trans hchain) (hu.trans hs) ht

theorem Waits.tenure (h : Waits cfg s ev t) (hs : s.isconnected = true)
    (hexp : allExpected cfg (heard ev) = true) : Tenure cfg s ev t := by
  obtain ⟨hlive, hlast⟩ := h
  rw [heard_append, allExpected_append, Bool.and_eq_true] at hexp
  have hu := live_isconnected hlive
  rw [hs, hexp.1] at hu
  exact .after (open_of_connected (live_chain hlive) hu) (hlast.tenure hu)

theorem open_act (h : SessionAct cfg (fun _ => True) s ev t) (ht : t.isconnected = true) :
    Chain (OpenAct cfg) s ev t :=
  .single ⟨h, .inr ht⟩

theorem Publishing.tenure {packet : Bytes} {qos : QoS} (h : Publishing cfg packet qos s rc ev t)
    (ht : isRequest packet) (hs : s.isconnected = true)
    (hexp : allExpected cfg (heard ev) = true) : Tenure cfg s ev t := by
  have hsent : Chain (OpenAct cfg) s [.sent packet] s := open_act (.sent s ht) hs
  cases h with
  | unsent => exact .closed (open_act (.unsent s ht) hs)
  | sent => exact .kept hsent
  | @acked _ ev u _ body uninitialised _ hw _ hl =>
    rw [heard_sent] at hexp
    have hu : u.isconnected = true := by rw [hl, hs, hexp, Bool.and_self]
    have hwait := hsent.trans ((hw.tenure hs hexp).open_of_connected hu)
    have hack := hwait.snoc ⟨.acknowledged u (ackId uninitialised body),
      .inr ((acknowledge_isconnected u _).trans hu)⟩
    rw [List.append_nil] at hack
    exact .kept hack
  | unacked _ hw => exact .close (.after hsent (hw.tenure hs (by simpa using hexp)))

theorem numberedFor_tenure (cfg : Config) (qos : QoS) (hs : s.isconnected = true) :
    Chain (OpenAct cfg) s [] (s.numberedFor cfg qos) := by
  unfold Session.numberedFor
  split
  · exact open_act (.numbered s) hs
  · exact .nil s

theorem Publishes.tenure {topicName payload : Bytes} {id : Nat} {qos : QoS} {retained : Bool}
    (h : Publishes cfg s topicName payload id qos retained rc ev t) (hs : s.isconnected = true)
    (hexp : allExpected cfg (heard ev) = true) : Tenure cfg s ev t := by
  cases h with
  | refused hno => simp [hs] at hno
  | unfit => exact .kept (numberedFor_tenure cfg qos hs)
  | @handed packet _ _ _ _ hpacket htype hlen hp =>
    have hprep : Chain (OpenAct cfg) s [] (s.prepared cfg id packet qos) := by
      obtain ⟨hheader, hsize⟩ := serializePublish_header hlen hpacket
      unfold Session.prepared
      split
      · exact (numberedFor_tenure cfg qos hs).snoc ⟨.stored _ _ _ hheader hlen hsize,
          .inr ((numberedFor_isconnected cfg s qos).trans hs)⟩
      · exact numberedFor_tenure cfg qos hs
    exact .after hprep (hp.tenure (publish_isRequest hlen hpacket htype)
      ((prepared_isconnected ..).trans hs) hexp)

theorem Requests.tenure {request : Int × Bytes} {type ackType : Nat} {topicFilter : Bytes}
    {mh : Option Nat} (h : Requests cfg request ackType topicFilter mh s rc ev t)
    (hser : Serializes request type) (htype : plainRequest type) (hs : s.isconnected = true)
    (hexp : allExpected cfg (heard ev) = true) : Tenure cfg s ev t := by
  have hnumbered : Chain (OpenAct cfg) s [] s.numbered := open_act (.numbered s) hs
  have hreq := hser.isRequest htype
  have hsent (hfit : 0 < request.1) : Chain (OpenAct cfg) s [.sent request.2] s.numbered :=
    hnumbered.snoc ⟨.sent _ (hreq hfit), .inr hs⟩
  cases h with
  | refused => exact .closed (.nil s)
  | unfit => exact .closed hnumbered
  | unsent _ hfit => exact .closed (hnumbered.snoc ⟨.unsent _ (hreq hfit), .inr hs⟩)
  | unacked _ hfit hw =>
    exact .close (.after (hsent hfit) (hw.tenure hs (by simpa using hexp)))
  | @answered ev u header body rc slots _ hfit hw _ hl _ _ =>
    rw [heard_sent] at hexp
    have hu : u.isconnected = true := by rw [hl, hs, hexp, Bool.and_self]
    have hwait := (hsent hfit).trans ((hw.tenure hs hexp).open_of_connected hu)
    have hend := hwait.snoc ⟨.handlers u slots, .inr hu⟩
    rw [List.append_nil] at hend
    unfold Session.closeIf
    split
    · exact .closed hend
    · exact .kept hend

theorem Runs.tenure {op : Op} (h : Runs cfg s op rc ev t) (hs : s.isconnected = true)
    (hexp : allExpected cfg (heard ev) = true) : Tenure cfg s ev t := by
  cases h with
  | connect h =>
    obtain ⟨rfl, rfl⟩ := h.of_connected hs
    exact .kept (.nil t)
  | publish h => exact h.tenure hs hexp
  | subscribe h =>
    exact h.tenure (serializeSubscribe_serializes _ _ _ _ _) (.inr (.inl rfl)) hs hexp
  | unsubscribe h =>
    exact h.tenure (serializeUnsubscribe_serializes _ _ _ _) (.inr (.inr (.inl rfl))) hs hexp
  | yield hw => exact hw.tenure hs hexp
  | disconnect hd =>
    cases hd with
    | unfit => exact .closed (.nil s)
    | sent htype => exact .closed (open_act (.sent s (disconnect_isRequest htype)) hs)
    | unsent htype => exact .closed (open_act (.unsent s (disconnect_isRequest htype)) hs)
  | setMessageHandler => exact .kept (open_act (.handlers s _) hs)
  | setDefaultMessageHandler => exact .kept (open_act (.defaultHandler s _) hs)

theorem Runs.resumed {op : Op} (h : Runs cfg s op rc ev t) (hs : Outbound cfg s)
    (hkeep : s.cleansession = false ∨ ∃ options, op = .connect options)
    (hclean : ∀ options, op = .connect options → options.cleansession = false) :
    Chain (OpenAct cfg) s ev t := by
  rcases hkeep with hpersistent | ⟨options, rfl⟩
  · exact (open_of_persistent (h.conduct hs hclean) hpersistent).2
  · have hoption := hclean options rfl
    cases h with
    | connect h =>
      by_cases hconn : s.isconnected = true
      · obtain ⟨rfl, rfl⟩ := h.of_connected hconn
        exact .nil t
      · have hconn : s.isconnected = false := by simpa using hconn
        have hconf : OpenAct cfg s [] (s.configured options) :=
          ⟨.configured s trivial, .inl hoption⟩
        exact (Chain.single hconf).trans
          (open_of_persistent (h.conduct_configured hs hconn) hoption).2

end MbedMqtt
