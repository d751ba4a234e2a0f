import TorChat.Message.Wire
import TorChat.Server.Step
import TorChat.Util.DemoPlatform

namespace TorChat

open Library (Bytes frames)

namespace RequestHandler

def cellSize : Nat := 2048

-- each arrival is what one call of in.read brings; a cell that takes more than ten is given up
def readLoop : List Nat → Nat → Bytes → Bytes → Option (Bytes × Bytes)
  | arrivals, count, b, stream =>
      if cellSize ≤ b.length then some (b, stream)
      else
        match arrivals with
        | [] => none
        | n :: more =>
            if count + 1 > 10 then none
            else
              let n := min n (cellSize - b.length)
              readLoop more (count + 1) (b ++ stream.take n) (stream.drop n)

def readExactly (arrivals : List Nat) (stream : Bytes) : Option (Bytes × Bytes) :=
  readLoop arrivals 0 [] stream

def readCells : List (List Nat) → Bytes → List Bytes
  | [], _ => []
  | arrivals :: more, stream =>
      match readExactly arrivals stream with
      | none => []
      | some (b, rest) => b :: readCells more rest

def parseCell (C : Crypto) (sharedKey b : Bytes) : Option Bytes :=
  if b = List.replicate cellSize 0 then none else Wire.parseDataPayload C b (some sharedKey)

def recovered (P : Platform) (C : Crypto) (sharedKey : Bytes) (cells : List Bytes) : List Bytes :=
  (cells.filterMap (parseCell C sharedKey)).filterMap (Message.parseExternalPaylod P)

theorem readLoop_spec {arrivals : List Nat} {count : Nat} {b stream cell rest : Bytes}
    (hb : b.length ≤ cellSize) (h : readLoop arrivals count b stream = some (cell, rest)) :
    cell.length = cellSize ∧ cell ++ rest = b ++ stream := by
  induction arrivals generalizing count b stream with
  | nil =>
    rw [readLoop] at h
    split at h
    · cases h
      exact ⟨by omega, rfl⟩
    · cases h
  | cons n more ih =>
    rw [readLoop] at h
    split at h
    · cases h
      exact ⟨by omega, rfl⟩
    · dsimp only at h
      split at h
      · cases h
      · have hlength : (b ++ stream.take (min n (cellSize - b.length))).length ≤ cellSize := by
          rw [List.length_append, List.length_take]
          omega
        obtain ⟨hcell, heq⟩ := ih hlength h
        refine ⟨hcell, heq.trans ?_⟩
        rw [List.append_assoc, List.take_append_drop]

theorem readExactly_spec {arrivals : List Nat} {stream cell rest : Bytes}
    (h : readExactly arrivals stream = some (cell, rest)) :
    cell.length = cellSize ∧ stream = cell ++ rest := by
  obtain ⟨hlength, heq⟩ := readLoop_spec (by decide) h
  exact ⟨hlength, heq.symm⟩

theorem readCells_prefix (reads : List (List Nat)) (stream : Bytes) :
    readCells reads stream <+: frames cellSize stream := by
  induction reads generalizing stream with
  | nil => exact List.nil_prefix
  | cons arrivals more ih =>
    rw [readCells]
    cases h : readExactly arrivals stream with
    | none => exact List.nil_prefix
    | some read =>
      obtain ⟨cell, rest⟩ := read
      obtain ⟨hlength, rfl⟩ := readExactly_spec h
      dsimp only
      rw [Library.frames_append (by decide) (by rw [hlength]),
        Library.frames_self (by decide) hlength]
      exact (List.cons_prefix_cons).mpr ⟨rfl, ih rest⟩

end RequestHandler

end TorChat
