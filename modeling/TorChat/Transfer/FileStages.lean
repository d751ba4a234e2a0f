import Mathlib.Data.List.Range

namespace TorChat

-- one transfer over a connection that loses nothing and keeps the order
namespace FileStages

inductive Said where
  | offer
  | ready
  | piece (pieceID : Nat)
  | ack (pieceID : Nat)
  | done
  deriving DecidableEq, Repr

inductive Act where
  | register
  | recieverReads
  | senderReads
  deriving DecidableEq, Repr

-- a stalled transfer lost its READY, or has no piece to send
inductive Stage where
  | offered (registered : Bool)
  | answered (registered : Bool)
  | stalled (registered : Bool)
  | sending (held : Nat) (acks : List Nat)
  | merged (acks : List Nat)
  | finished
  deriving DecidableEq, Repr

namespace Stage

def forward (n : Nat) : Stage → List Said
  | .offered _ => [.offer]
  | .sending held _ => (List.range' held (n - held)).map .piece
  | _ => []

def backward : Stage → List Said
  | .answered _ => [.ready]
  | .sending _ acks => acks.map .ack
  | .merged acks => acks.map .ack ++ [.done]
  | _ => []

-- none when the send task is removed
def registered : Stage → Option Bool
  | .offered registered => some registered
  | .answered registered => some registered
  | .stalled registered => some registered
  | .sending _ _ => some true
  | .merged _ => some true
  | .finished => none

-- the pieces of the receive task, none when there is no such task
def held : Stage → Option Nat
  | .answered _ => some 0
  | .stalled _ => some 0
  | .sending held _ => some held
  | _ => none

def complete : Stage → Bool
  | .merged _ => true
  | .finished => true
  | _ => false

def live : Stage → Bool
  | .stalled _ => false
  | _ => true

def next (n : Nat) : Act → Stage → Stage
  | .register, .offered _ => .offered true
  | .register, .answered _ => .answered true
  | .register, .stalled _ => .stalled true
  | .recieverReads, .offered registered => .answered registered
  | .recieverReads, .sending held acks =>
      if held + 1 = n then .merged (acks ++ [held]) else .sending (held + 1) (acks ++ [held])
  | .senderReads, .answered registered =>
      if registered = true ∧ 0 < n then .sending 0 [] else .stalled registered
  | .senderReads, .sending held (_ :: acks) => .sending held acks
  | .senderReads, .merged (_ :: acks) => .merged acks
  | .senderReads, .merged [] => .finished
  | _, stage => stage

def Valid (n : Nat) : Stage → Prop
  | .sending held _ => held < n
  | .merged _ => 0 < n
  | .finished => 0 < n
  | _ => True

variable {n : Nat} {stage : Stage}

theorem valid_next (act : Act) (h : stage.Valid n) : (stage.next n act).Valid n := by
  cases act with
  | register =>
    cases stage with
    | offered registered => trivial
    | answered registered => trivial
    | stalled registered => trivial
    | sending held acks => exact h
    | merged acks => exact h
    | finished => exact h
  | recieverReads =>
    cases stage with
    | offered registered => trivial
    | answered registered => trivial
    | stalled registered => trivial
    | sending held acks =>
      have hheld : held < n := h
      rw [next]
      split
      · exact Nat.zero_lt_of_lt hheld
      · exact Nat.lt_of_le_of_ne hheld ‹_›
    | merged acks => exact h
    | finished => exact h
  | senderReads =>
    cases stage with
    | offered registered => trivial
    | answered registered =>
      rw [next]
      split
      · rename_i hready
        exact hready.2
      · trivial
    | stalled registered => trivial
    | sending held acks =>
      cases acks with
      | nil => exact h
      | cons ack acks => exact h
    | merged acks =>
      cases acks with
      | nil => exact h
      | cons ack acks => exact h
    | finished => exact h

theorem next_register (h : stage.registered = some false) :
    (stage.next n .register).forward n = stage.forward n ∧
    (stage.next n .register).backward = stage.backward ∧
    (stage.next n .register).held = stage.held ∧
    (stage.next n .register).complete = stage.complete ∧
    (stage.next n .register).registered = some true := by
  cases stage with
  | offered registered => exact ⟨rfl, rfl, rfl, rfl, rfl⟩
  | answered registered => exact ⟨rfl, rfl, rfl, rfl, rfl⟩
  | stalled registered => exact ⟨rfl, rfl, rfl, rfl, rfl⟩
  | sending held acks => cases h
  | merged acks => cases h
  | finished => cases h

theorem next_ready (n : Nat) :
    ((answered true).next n .senderReads).forward n = (List.range n).map .piece ∧
    ((answered true).next n .senderReads).backward = [] ∧
    ((answered true).next n .senderReads).registered = some true ∧
    ((answered true).next n .senderReads).held = some 0 := by
  rw [next]
  split
  · rw [forward, Nat.sub_zero, List.range_eq_range']
    exact ⟨rfl, rfl, rfl, rfl⟩
  · rename_i hready
    rw [Nat.eq_zero_of_not_pos (fun hpos => hready ⟨rfl, hpos⟩)]
    exact ⟨rfl, rfl, rfl, rfl⟩

theorem live_next (act : Act) : (stage.next n act).live = true ↔ stage.live = true ∧
    (act = .senderReads → stage.backward.head? = some .ready →
      stage.registered = some true ∧ 0 < n) := by
  cases stage with
  | offered registered => cases act <;> simp [next, live, backward]
  | answered registered =>
    cases act with
    | register => simp [next, live]
    | recieverReads => simp [next, live]
    | senderReads =>
      rw [next]
      split
      · rename_i hready
        simp [live, backward, Stage.registered, hready]
      · rename_i hready
        simpa [live, backward, Stage.registered] using hready
  | stalled registered => cases act <;> simp [next, live]
  | sending held acks =>
    cases act with
    | register => simp [next, live]
    | recieverReads =>
      rw [next]
      split
      · simp [live]
      · simp [live]
    | senderReads => cases acks <;> simp [next, live, backward]
  | merged acks =>
    cases act with
    | register => simp [next, live]
    | recieverReads => simp [next, live]
    | senderReads => cases acks <;> simp [next, live, backward]
  | finished => cases act <;> simp [next, live, backward]

-- a connection with nothing in flight shows a transfer that is finished or stalled
theorem silent_cases (h : stage.Valid n) (hforward : stage.forward n = [])
    (hbackward : stage.backward = []) :
    stage = .finished ∨ ∃ registered, stage = .stalled registered := by
  cases stage with
  | offered registered => cases hforward
  | answered registered => cases hbackward
  | stalled registered => exact .inr ⟨registered, rfl⟩
  | sending held acks =>
    have hheld : held < n := h
    rw [forward, List.map_eq_nil_iff, List.range'_eq_nil_iff] at hforward
    omega
  | merged acks =>
    rw [backward] at hbackward
    exact absurd hbackward (List.append_ne_nil_of_right_ne_nil _ (List.cons_ne_nil _ _))
  | finished => exact .inl rfl

end Stage

end FileStages

end TorChat
