import MbedMqtt.Network.Platform

namespace MbedMqtt

inductive ReadAnswer where
  | full
  | timeout
  | error (code : Nat)
  deriving DecidableEq, Repr

structure Script where
  stream : Bytes
  answers : List ReadAnswer
  writes : List Int
  deriving DecidableEq, Repr

namespace Script

def next (s : Script) : ReadAnswer := s.answers.headD .full

def read (s : Script) (n : Nat) : ReadResult × Script :=
  match s.next with
  | .timeout => (⟨0, []⟩, { s with answers := s.answers.tail })
  | .error code => (⟨-(code : Int) - 1, []⟩, { s with answers := s.answers.tail })
  | .full =>
      if n ≤ s.stream.length then
        (⟨n, s.stream.take n⟩, { s with stream := s.stream.drop n, answers := s.answers.tail })
      else (⟨0, []⟩, { s with answers := s.answers.tail })

def write (s : Script) (bytes : Bytes) : Int × Script :=
  match s.writes with
  | [] => (bytes.length, s)
  | rc :: rest => (rc, { s with writes := rest })

theorem read_length (s : Script) (n : Nat) (h : 0 < (s.read n).1.rc) :
    ((s.read n).1.bytes.length : Int) = (s.read n).1.rc := by
  unfold read at h ⊢
  split at h
  · simp at h
  · simp only at h
    omega
  · split at h
    · rename_i hn
      simp [hn]
    · simp at h

instance : Network Script where
  read := read
  write := write
  read_length := read_length

end Script

inductive OracleTimer where
  | oracle
  deriving DecidableEq, Repr

instance : Timer OracleTimer Bool where
  countdownMs _ _ := .oracle
  expired _ verdict := verdict

structure Countdown where
  intervalEndMs : Nat
  deriving DecidableEq, Repr

instance : Timer Countdown Nat where
  countdownMs ms now := ⟨now.getD 0 + ms⟩
  expired timer now := timer.intervalEndMs ≤ now

def Countdown.readings (now later : Nat) : List Nat :=
  List.replicate 8 now ++ List.replicate 4 later

def World.calm (stream : Bytes) (ticks : Nat) : World Script OracleTimer Bool :=
  ⟨⟨stream, [], []⟩, List.replicate ticks false, [], .oracle, []⟩

end MbedMqtt
