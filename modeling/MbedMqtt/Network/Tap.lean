import MbedMqtt.Network.Platform

namespace MbedMqtt

-- a network that notes what each write offers and what it answers
structure Tap (σ : Type) where
  net : σ
  writes : List (Bytes × Int)
  deriving DecidableEq, Repr

namespace Tap

variable {σ : Type} [Network σ]

def read (t : Tap σ) (len : Nat) : ReadResult × Tap σ :=
  let (r, net) := Network.read t.net len
  (r, ⟨net, t.writes⟩)

def write (t : Tap σ) (bytes : Bytes) : Int × Tap σ :=
  let (rc, net) := Network.write t.net bytes
  (rc, ⟨net, t.writes ++ [(bytes, rc)]⟩)

instance : Network (Tap σ) where
  read := read
  write := write
  read_length t len h := Network.read_length t.net len h

theorem write_eq (t : Tap σ) (bytes : Bytes) :
    Network.write t bytes = ((Network.write t.net bytes).1,
      ⟨(Network.write t.net bytes).2, t.writes ++ [(bytes, (Network.write t.net bytes).1)]⟩) :=
  rfl

end Tap

def accepted (writes : List (Bytes × Int)) : Bytes :=
  writes.flatMap fun write => write.1.take write.2.toNat

@[simp] theorem accepted_nil : accepted [] = [] := rfl

@[simp] theorem accepted_cons (bytes : Bytes) (rc : Int) (writes : List (Bytes × Int)) :
    accepted ((bytes, rc) :: writes) = bytes.take rc.toNat ++ accepted writes :=
  List.flatMap_cons

theorem accepted_error {rc : Int} (h : rc < 0) (bytes : Bytes) : accepted [(bytes, rc)] = [] := by
  rw [accepted_cons, Int.toNat_of_nonpos h.le, List.take_zero, accepted_nil]
  rfl

inductive WriteAnswer where
  | accept (limit : Nat)
  | error (code : Nat)
  deriving DecidableEq, Repr

-- takes at most the limit of each write, and fails when no answer is left
structure Acceptor where
  answers : List WriteAnswer
  deriving DecidableEq, Repr

namespace Acceptor

def write (s : Acceptor) (bytes : Bytes) : Int × Acceptor :=
  match s.answers with
  | [] => (-1, s)
  | .error code :: rest => (-(code : Int) - 1, ⟨rest⟩)
  | .accept limit :: rest => ((min limit bytes.length : Nat), ⟨rest⟩)

instance : Network Acceptor where
  read s _ := (⟨0, []⟩, s)
  write := write
  read_length _ _ h := absurd h (lt_irrefl 0)

end Acceptor

def World.tapped {σ τ κ : Type} (w : World σ τ κ) : World (Tap σ) τ κ :=
  ⟨⟨w.net, []⟩, w.clock, w.stack, w.pingSent, w.log⟩

def World.untapped {σ τ κ : Type} (w : World (Tap σ) τ κ) : World σ τ κ :=
  ⟨w.net.net, w.clock, w.stack, w.pingSent, w.log⟩

end MbedMqtt
