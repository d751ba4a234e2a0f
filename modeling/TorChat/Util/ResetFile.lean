import TorChat.Library.RandomAccess
import TorChat.Util.FileTask

namespace TorChat

open Library (Bytes RandomAccessFile)

namespace NewRandomAccess

open FileTask (toInt)

def pieceSize : Nat := 2048

-- the difference of two longs
def toLong (x : Int) : Int := x.bmod (2 ^ 64)

-- a cast from double to int keeps to the ends of the int range
def intOfDouble (x : Int) : Int := max (-2 ^ 31) (min x (2 ^ 31 - 1))

def targetPieceNumber (taregetLength : Int) : Int :=
  let floor := intOfDouble (taregetLength.tdiv pieceSize)
  if taregetLength.tmod pieceSize ≠ 0 then toInt (floor + 1) else floor

def wholePieces (taregetLength : Int) : Nat := (toInt (targetPieceNumber taregetLength - 1)).toNat

def zeros (n : Nat) : Bytes := List.replicate n 0

def resetStep (target : Bytes) (reset : RandomAccessFile UInt8 × Nat) (_i : Nat) :
    RandomAccessFile UInt8 × Nat :=
  let (file, offSet) := reset
  let written := (file.seek offSet).write target
  (written, written.filePointer)

def resetFile (content : Bytes) (taregetLength : Int) : Bytes :=
  let taregetLength : Int :=
    if taregetLength > content.length then content.length else taregetLength
  let (file, offSet) := (List.range (wholePieces taregetLength)).foldl
    (resetStep (zeros pieceSize)) (⟨content, 0⟩, 0)
  let remaining := toLong (taregetLength - offSet)
  -- an array of negative length throws, and nothing more is written
  if remaining > 0 then (file.write (zeros (toInt remaining).toNat)).content else file.content

def wipedLength (content : Bytes) (taregetLength : Int) : Nat :=
  (min (max taregetLength 0) content.length).toNat

structure Wiped (content : Bytes) (taregetLength : Int) (after : Bytes) : Prop where
  length_eq : after.length = content.length
  zeroed : ∀ i < wipedLength content taregetLength, after[i]? = some 0
  kept : ∀ i ≥ wipedLength content taregetLength, after[i]? = content[i]?

-- (int) of the quotient is the least int and the bound of the loop wraps round
def Overflows (taregetLength : Int) : Prop := taregetLength ≤ -2 ^ 42 ∧ 2048 ∣ taregetLength

instance (taregetLength : Int) : Decidable (Overflows taregetLength) :=
  inferInstanceAs (Decidable (_ ∧ _))

def overflowLength : Nat := (2 ^ 31 - 1) * pieceSize

-- close to the least long the subtraction after the loop wraps round too, and more zeros follow
def overrunLength (taregetLength : Int) : Nat :=
  if toLong (taregetLength - overflowLength) > 0 then
    overflowLength + (toInt (toLong (taregetLength - overflowLength))).toNat
  else overflowLength

section Arithmetic

theorem toLong_of_small {x : Int} (hlow : -2 ^ 63 ≤ x) (hhigh : x < 2 ^ 63) : toLong x = x := by
  rw [toLong, Int.bmod_eq_of_le] <;> omega

theorem intOfDouble_range (x : Int) : -2 ^ 31 ≤ intOfDouble x ∧ intOfDouble x < 2 ^ 31 := by
  rw [intOfDouble]
  omega

-- the increment for a remainder and the decrement of the loop bound cancel, also when the first
-- of them wraps round
theorem wholePieces_eq (taregetLength : Int) :
    wholePieces taregetLength =
      if taregetLength.tmod pieceSize ≠ 0 then
        (intOfDouble (taregetLength.tdiv pieceSize)).toNat
      else (toInt (intOfDouble (taregetLength.tdiv pieceSize) - 1)).toNat := by
  obtain ⟨hlow, hhigh⟩ := intOfDouble_range (taregetLength.tdiv pieceSize)
  rw [wholePieces, targetPieceNumber]
  split
  · rw [toInt, toInt, Int.bmod_sub_bmod, Int.add_sub_cancel]
    exact congrArg Int.toNat (FileTask.toInt_of_small hlow hhigh)
  · rfl

theorem wholePieces_nat {n : Nat} (h : n < 2 ^ 42) : wholePieces n = (n - 1) / 2048 := by
  have hquot : (n : Int).tdiv pieceSize = (n / 2048 : Nat) := rfl
  have hrem : (n : Int).tmod pieceSize = (n % 2048 : Nat) := rfl
  have hfloor : intOfDouble (n / 2048 : Nat) = (n / 2048 : Nat) := by
    rw [intOfDouble]
    omega
  rw [wholePieces_eq, hquot, hrem, hfloor]
  split
  · omega
  · rw [FileTask.toInt_of_small (by omega) (by omega)]
    omega

theorem wholePieces_neg (n : Nat) :
    wholePieces (-n) = if 2 ^ 42 ≤ n ∧ n % 2048 = 0 then 2 ^ 31 - 1 else 0 := by
  have hquot : (-(n : Int)).tdiv pieceSize = -(n / 2048 : Nat) := by
    rw [Int.neg_tdiv]
    rfl
  have hrem : (-(n : Int)).tmod pieceSize = -(n % 2048 : Nat) := by
    rw [Int.neg_tmod]
    rfl
  rw [wholePieces_eq, hquot, hrem]
  by_cases hzero : n % 2048 = 0
  · rw [if_neg (by omega)]
    by_cases hlarge : 2 ^ 42 ≤ n
    · have hfloor : intOfDouble (-(n / 2048 : Nat)) = -2 ^ 31 := by
        rw [intOfDouble]
        omega
      rw [hfloor, if_pos ⟨hlarge, hzero⟩]
      rfl
    · have hfloor : intOfDouble (-(n / 2048 : Nat)) = -(n / 2048 : Nat) := by
        rw [intOfDouble]
        omega
      rw [hfloor, if_neg (fun h => hlarge h.1), FileTask.toInt_of_small (by omega) (by omega)]
      omega
  · have hfloor : intOfDouble (-(n / 2048 : Nat)) ≤ 0 := by
      rw [intOfDouble]
      omega
    rw [if_pos (by omega), if_neg (fun h => hzero h.2)]
    omega

end Arithmetic

section Loop

theorem fold_resetStep (target : Bytes) (n : Nat) {file : RandomAccessFile UInt8}
    (h : file.filePointer ≤ file.content.length) :
    (List.range n).foldl (resetStep target) (file, file.filePointer) =
      (file.write (List.replicate n target).flatten,
        file.filePointer + n * target.length) := by
  induction n with
  | zero => simp [RandomAccessFile.write]
  | succ n ih =>
    rw [List.range_succ, List.foldl_append, ih, List.foldl_cons, List.foldl_nil, resetStep]
    have hpointer : (file.write (List.replicate n target).flatten).filePointer =
        file.filePointer + n * target.length := by
      rw [RandomAccessFile.filePointer_write]
      simp
    have hwrite : (file.write (List.replicate n target).flatten).write target =
        file.write (List.replicate (n + 1) target).flatten := by
      rw [RandomAccessFile.write_write _ _ h, List.replicate_succ', List.flatten_append]
      simp
    have hlength : (List.replicate (n + 1) target).flatten.length = (n + 1) * target.length := by
      simp
    simp only [← hpointer, RandomAccessFile.seek_filePointer, hwrite]
    rw [RandomAccessFile.filePointer_write, hlength]

theorem flatten_zeros (n : Nat) :
    (List.replicate n (zeros pieceSize)).flatten = zeros (n * pieceSize) :=
  List.flatten_replicate_replicate

theorem zeros_append_zeros (m n : Nat) : zeros m ++ zeros n = zeros (m + n) :=
  List.replicate_append_replicate

theorem resetLoop_eq (content : Bytes) (n : Nat) :
    (List.range n).foldl (resetStep (zeros pieceSize)) (⟨content, 0⟩, 0) =
      (RandomAccessFile.write ⟨content, 0⟩ (zeros (n * pieceSize)), n * pieceSize) := by
  have hloop := @fold_resetStep (zeros pieceSize) n ⟨content, 0⟩ (Nat.zero_le _)
  have hpointer : 0 + n * (zeros pieceSize).length = n * pieceSize := by
    rw [zeros, List.length_replicate, Nat.zero_add]
  rw [hloop, flatten_zeros, hpointer]

theorem write_start_zeros (content : Bytes) (n : Nat) :
    (RandomAccessFile.write ⟨content, 0⟩ (zeros n)).content = zeros n ++ content.drop n := by
  rw [RandomAccessFile.write_start _ rfl, zeros, List.length_replicate]

theorem write_write_zeros (content : Bytes) (m n : Nat) :
    ((RandomAccessFile.write ⟨content, 0⟩ (zeros m)).write (zeros n)).content =
      zeros (m + n) ++ content.drop (m + n) := by
  rw [RandomAccessFile.write_write _ _ (Nat.zero_le _), zeros_append_zeros, write_start_zeros]

end Loop

def erasedLength (content : Bytes) (taregetLength : Int) : Nat :=
  if Overflows taregetLength then overrunLength taregetLength
  else wipedLength content taregetLength

theorem resetFile_overflow {content : Bytes} {taregetLength : Int}
    (hover : Overflows taregetLength) :
    resetFile content taregetLength = zeros (overrunLength taregetLength) ++
      content.drop (overrunLength taregetLength) := by
  obtain ⟨hlow, hdvd⟩ := hover
  obtain ⟨n, rfl⟩ : ∃ n : Nat, taregetLength = -n := ⟨taregetLength.natAbs, by omega⟩
  have hpieces : wholePieces (-n) = 2 ^ 31 - 1 := by
    rw [wholePieces_neg, if_pos ⟨by omega, by omega⟩]
  rw [resetFile, if_neg (by omega), resetLoop_eq, hpieces, overrunLength]
  change (if toLong (-n - overflowLength) > 0 then _ else _) = _
  split
  · exact write_write_zeros content overflowLength _
  · exact write_start_zeros content overflowLength

theorem resetFile_of_neg (content : Bytes) {taregetLength : Int} (hlong : -2 ^ 63 ≤ taregetLength)
    (hneg : taregetLength < 0) (hover : ¬ Overflows taregetLength) :
    resetFile content taregetLength = content := by
  obtain ⟨n, rfl⟩ : ∃ n : Nat, taregetLength = -n := ⟨taregetLength.natAbs, by omega⟩
  have hnone : ¬ (2 ^ 42 ≤ n ∧ n % 2048 = 0) := fun hn => hover ⟨by omega, by omega⟩
  rw [resetFile, if_neg (by omega), resetLoop_eq, wholePieces_neg, if_neg hnone, Nat.zero_mul]
  dsimp only
  rw [toLong_of_small (by omega) (by omega), if_neg (by omega), write_start_zeros]
  rfl

theorem resetFile_of_nonneg {content : Bytes} {taregetLength : Int} (h : content.length < 2 ^ 42)
    (hneg : ¬ taregetLength < 0) :
    resetFile content taregetLength = zeros (wipedLength content taregetLength) ++
      content.drop (wipedLength content taregetLength) := by
  obtain ⟨t, ht⟩ : ∃ t : Nat, t = wipedLength content taregetLength := ⟨_, rfl⟩
  have htarget : (if taregetLength > content.length then (content.length : Int)
      else taregetLength) = t := by
    rw [ht, wipedLength]
    split <;> omega
  have hle : t ≤ content.length := by
    rw [ht, wipedLength]
    omega
  rw [resetFile, htarget, resetLoop_eq, wholePieces_nat (by omega), ← ht]
  dsimp only
  obtain ⟨pieces, hpieces⟩ : ∃ pieces, pieces = (t - 1) / 2048 * pieceSize := ⟨_, rfl⟩
  have hvalue : pieces = (t - 1) / 2048 * 2048 := hpieces
  rw [← hpieces, toLong_of_small (by omega) (by omega)]
  split
  · have hleft : (toInt ((t : Int) - pieces)).toNat = t - pieces := by
      rw [FileTask.toInt_of_small (by omega) (by omega)]
      omega
    rw [hleft, write_write_zeros, Nat.add_sub_cancel' (by omega)]
  · have hzero : t = 0 := by omega
    have hnone : pieces = 0 := by omega
    rw [write_start_zeros, hzero, hnone]

theorem resetFile_eq {content : Bytes} {taregetLength : Int} (h : content.length < 2 ^ 42)
    (hlong : -2 ^ 63 ≤ taregetLength) :
    resetFile content taregetLength = zeros (erasedLength content taregetLength) ++
      content.drop (erasedLength content taregetLength) := by
  rw [erasedLength]
  by_cases hover : Overflows taregetLength
  · rw [if_pos hover]
    exact resetFile_overflow hover
  · rw [if_neg hover]
    by_cases hneg : taregetLength < 0
    · have hwiped : wipedLength content taregetLength = 0 := by
        rw [wipedLength]
        omega
      rw [resetFile_of_neg content hlong hneg hover, hwiped]
      rfl
    · exact resetFile_of_nonneg h hneg

theorem wiped_iff_eq {content after : Bytes} (taregetLength : Int) :
    Wiped content taregetLength after ↔ after = zeros (wipedLength content taregetLength) ++
      content.drop (wipedLength content taregetLength) := by
  have hle : wipedLength content taregetLength ≤ content.length := by
    rw [wipedLength]
    omega
  generalize hn : wipedLength content taregetLength = n at hle
  have hlow : ∀ i < n, (zeros n ++ content.drop n)[i]? = some 0 := by
    intro i hi
    rw [List.getElem?_append_left (by simpa [zeros] using hi), zeros,
      List.getElem?_replicate_of_lt hi]
  have hhigh : ∀ i ≥ n, (zeros n ++ content.drop n)[i]? = content[i]? := by
    intro i hi
    rw [List.getElem?_append_right (by simpa [zeros] using hi), zeros, List.length_replicate,
      List.getElem?_drop, Nat.add_sub_cancel' hi]
  constructor
  · rintro ⟨_, hzeroed, hkept⟩
    rw [hn] at hzeroed hkept
    apply List.ext_getElem?
    intro i
    by_cases hi : i < n
    · rw [hzeroed i hi, hlow i hi]
    · rw [hkept i (by omega), hhigh i (by omega)]
  · rintro rfl
    refine ⟨?_, ?_, ?_⟩
    · rw [List.length_append, zeros, List.length_replicate, List.length_drop]
      omega
    · rw [hn]
      exact hlow
    · rw [hn]
      exact hhigh

theorem reset_file_wipes_iff {content : Bytes} {taregetLength : Int}
    (h : content.length < 2 ^ 42) (hlong : -2 ^ 63 ≤ taregetLength) :
    Wiped content taregetLength (resetFile content taregetLength) ↔
      (Overflows taregetLength → zeros (overrunLength taregetLength) <+: content) := by
  rw [wiped_iff_eq, resetFile_eq h hlong, erasedLength]
  by_cases hover : Overflows taregetLength
  · have hwiped : wipedLength content taregetLength = 0 := by
      have hneg := hover.1
      rw [wipedLength]
      omega
    rw [if_pos hover, hwiped]
    generalize overrunLength taregetLength = n
    simp only [hover, true_imp_iff, zeros, List.replicate_zero, List.nil_append, List.drop_zero]
    constructor
    · intro heq
      exact ⟨_, heq⟩
    · rintro ⟨rest, rfl⟩
      rw [List.drop_left' List.length_replicate]
  · rw [if_neg hover]
    exact iff_of_true rfl (fun hbad => absurd hbad hover)

theorem reset_file_wipes_partial :
    Wiped [1, 2, 3] 2 (resetFile [1, 2, 3] 2) :=
  (reset_file_wipes_iff (by decide) (by decide)).mpr (fun hover => absurd hover (by decide))

-- at the least long the two overflows together write 2048 zeros more
example : overrunLength (-2 ^ 42) = overflowLength ∧
    overrunLength (-2 ^ 63) = overflowLength + 2048 := by decide

theorem key_file_grown : ¬ ∀ (content : Bytes) (taregetLength : Int),
    content.length < 2 ^ 42 → -2 ^ 63 ≤ taregetLength →
      Wiped content taregetLength (resetFile content taregetLength) := by
  intro hall
  have hwiped := hall [1] (-2 ^ 42) (by decide) (by decide)
  have hlength := hwiped.length_eq
  rw [resetFile_overflow (by decide)] at hlength
  have hlong : overrunLength (-2 ^ 42) = overflowLength := by decide
  rw [hlong, List.length_append, zeros, List.length_replicate, overflowLength, pieceSize] at hlength
  simp at hlength

end NewRandomAccess

end TorChat
