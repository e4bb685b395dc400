import MbedMqtt.Library.Steps
import MbedMqtt.ClientC.Run

namespace MbedMqtt.MQTTClientC

variable {σ τ κ : Type} [Ipstack σ] [Timer τ κ]

def connects (y : System τ) (call : Call σ κ) : Prop :=
  call.op.isConnect = true ∧ y.rc call = SUCCESS ∧
    ∃ header body, Accepted (heard (y.events call)) header body

def stays (y : System τ) (call : Call σ κ) : Prop :=
  keeps call.op (y.rc call) (heard (y.events call)) = true

theorem link_latch : Latch (System.perform (σ := σ) (κ := κ)) (fun _ : System τ => True)
    (fun y : System τ => y.client.isconnected = true) connects stays where
  stays _ _ _ := trivial
  intro y call _ := by
    obtain ⟨-, -, hdone⟩ := perform_done y call
    rw [hdone.follows]
    simp only [follows, Bool.or_eq_true, Bool.and_eq_true, decide_eq_true_eq]
    refine or_congr Iff.rfl ⟨fun h => ⟨h.1, h.2, hdone.accepted h.1 h.2⟩, fun h => ⟨h.1, h.2.1⟩⟩

theorem isconnected_iff (c : Client τ) (commandTimeoutMs : Nat) (sendbuf : Bytes)
    (sendbufSize : Nat) (readbuf : Bytes) (readbufSize : Nat) (idle : τ)
    (calls : List (Call σ κ)) :
    (System.run (.start c commandTimeoutMs sendbuf sendbufSize readbuf readbufSize idle)
        calls).client.isconnected = true ↔
      ∃ pre call post, calls = pre ++ call :: post ∧
        connects (System.run
          (.start c commandTimeoutMs sendbuf sendbufSize readbuf readbufSize idle) pre) call ∧
        Steps System.perform stays
          (System.perform (System.run
            (.start c commandTimeoutMs sendbuf sendbufSize readbuf readbufSize idle) pre) call)
          post :=
  link_latch.iff_set trivial (by simp [System.start, MQTTClientInit]) calls

end MbedMqtt.MQTTClientC
