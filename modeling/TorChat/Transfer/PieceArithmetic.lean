import TorChat.Message.FileMessage
import TorChat.Transfer.Chunking

namespace TorChat

open Library (Bytes slice? beNat beBytes)
open Constant (filePieceSize)

namespace FileTask

structure SoundFor (task : FileTask) (fileSize : Nat) : Prop where
  count : task.totalPieceNumber = (fileSize ⌈/⌉ filePieceSize : Nat)
  nonneg : 0 ≤ task.totalPieceNumber
  step : 1 ≤ task.stepNumber

theorem one_le_stepOf {totalPieceNumber : Int} (h : 0 ≤ totalPieceNumber) :
    1 ≤ stepOf totalPieceNumber := by
  have hdiv := Int.tdiv_nonneg h (by decide : (0 : Int) ≤ 100)
  simp only [stepOf]
  split
  · omega
  · exact le_refl 1

-- Above the bound the cast saturates; a remainder then wraps the increment below zero.
theorem pieceNumber_above {size : Nat} (h : filePieceSize * (2 ^ 31 - 1) < size) :
    pieceNumber size = if size % filePieceSize = 0 then 2 ^ 31 - 1 else -2 ^ 31 := by
  have hfloor : 2 ^ 31 - 1 ≤ size / filePieceSize := by
    rw [Nat.le_div_iff_mul_le filePieceSize_pos, Nat.mul_comm]
    exact h.le
  have hmin : min ((size / filePieceSize : Nat) : Int) (2 ^ 31 - 1) = 2 ^ 31 - 1 :=
    min_eq_right (by omega)
  have hwrap : toInt (2 ^ 31 - 1 + 1) = -2 ^ 31 := by decide
  simp only [pieceNumber, hmin, hwrap]
  by_cases hmod : size % filePieceSize = 0
  · rw [if_neg (not_not.mpr hmod), if_pos hmod]
  · rw [if_pos hmod, if_neg hmod]

theorem lt_chunkCount {size : Nat} (h : filePieceSize * (2 ^ 31 - 1) < size) :
    2 ^ 31 - 1 < size ⌈/⌉ filePieceSize := by
  have hle := Library.le_chunkCount_mul filePieceSize_pos size
  have hmul : filePieceSize * (2 ^ 31 - 1) < filePieceSize * (size ⌈/⌉ filePieceSize) := by
    rw [Nat.mul_comm filePieceSize (size ⌈/⌉ filePieceSize)]
    exact lt_of_lt_of_le h hle
  exact Nat.lt_of_mul_lt_mul_left hmul

theorem pieceNumber_ne_above {size : Nat} (h : filePieceSize * (2 ^ 31 - 1) < size) :
    pieceNumber size ≠ (size ⌈/⌉ filePieceSize : Nat) := by
  have hlt := lt_chunkCount h
  rw [pieceNumber_above h]
  split <;> omega

theorem pieceNumber_eq_iff (size : Nat) :
    pieceNumber size = (size ⌈/⌉ filePieceSize : Nat) ↔ size ≤ filePieceSize * (2 ^ 31 - 1) := by
  constructor
  · intro heq
    by_contra hsize
    exact pieceNumber_ne_above (not_le.mp hsize) heq
  · exact pieceNumber_eq

theorem soundFor_ofMeta_iff (P : Platform) (onionName fileName : String) (fileSize : Nat)
    (contentHash : Bytes) :
    (ofMeta P onionName fileName fileSize contentHash).SoundFor fileSize ↔
      fileSize ≤ filePieceSize * (2 ^ 31 - 1) := by
  constructor
  · intro hsound
    exact (pieceNumber_eq_iff fileSize).mp hsound.count
  · intro hsize
    have hcount := pieceNumber_eq hsize
    have hnonneg : 0 ≤ pieceNumber fileSize := by
      rw [hcount]
      exact Int.natCast_nonneg _
    exact ⟨hcount, hnonneg, one_le_stepOf hnonneg⟩

end FileTask

namespace FileMessage

open FileTask

def announcedNameLength (internalPayload : Bytes) : Nat := (internalPayload.headD 0).toNat

def announcedSize (internalPayload : Bytes) : Nat :=
  beNat ((internalPayload.drop (21 + announcedNameLength internalPayload)).take 8)

theorem parse_nameLength {internalPayload : Bytes} (h : internalPayload ≠ []) :
    (Message.subBytes internalPayload 0 1).bind parseInt16 =
      some (announcedNameLength internalPayload) := by
  cases internalPayload with
  | nil => exact absurd rfl h
  | cons b rest =>
    have hb : beNat [b] = b.toNat := by simp [beNat]
    have hlt : b.toNat < 2 ^ 31 := lt_trans b.toNat_lt (by decide)
    have hslice : Message.subBytes (b :: rest) 0 1 = some [b] :=
      Library.slice?_prefix (a := [b]) rfl
    rw [hslice, Option.bind_some, parseInt16, if_pos ⟨List.cons_ne_nil b [], by rwa [hb]⟩, hb]
    rfl

theorem parse_size {internalPayload : Bytes}
    (h : 29 + announcedNameLength internalPayload ≤ internalPayload.length) :
    (Message.subBytes internalPayload (21 + announcedNameLength internalPayload) 8).bind
        parseLong16 =
      if announcedSize internalPayload < 2 ^ 63 then some (announcedSize internalPayload)
      else none := by
  have hslice : Message.subBytes internalPayload (21 + announcedNameLength internalPayload) 8 =
      some ((internalPayload.drop (21 + announcedNameLength internalPayload)).take 8) :=
    if_pos (by omega)
  have hne : (internalPayload.drop (21 + announcedNameLength internalPayload)).take 8 ≠ [] := by
    intro hnil
    have hlen := Library.slice?_length hslice
    rw [hnil] at hlen
    exact absurd hlen (by decide)
  rw [hslice, Option.bind_some, parseLong16]
  simp only [hne, ne_eq, not_false_eq_true, true_and]
  rfl

def announcedTask (P : Platform) (onionName : String) (internalPayload : Bytes) : FileTask :=
  let fileNameLength := announcedNameLength internalPayload
  ofMeta P onionName (newString ((internalPayload.drop 1).take fileNameLength))
    (announcedSize internalPayload) ((internalPayload.drop (29 + fileNameLength)).take 20)

theorem parseFileMetaMessage_eq_some (P : Platform) (onionName : String) {internalPayload : Bytes}
    (hlen : 49 + announcedNameLength internalPayload ≤ internalPayload.length)
    (hsize : announcedSize internalPayload < 2 ^ 63) :
    parseFileMetaMessage P onionName internalPayload =
      some (announcedTask P onionName internalPayload) := by
  have hne : internalPayload ≠ [] := by
    intro hnil
    rw [hnil] at hlen
    exact absurd hlen (by decide)
  have hname : Message.subBytes internalPayload 1 (announcedNameLength internalPayload) =
      some ((internalPayload.drop 1).take (announcedNameLength internalPayload)) :=
    if_pos (by omega)
  have hhash : Message.subBytes internalPayload (1 + announcedNameLength internalPayload) 20 =
      some ((internalPayload.drop (1 + announcedNameLength internalPayload)).take 20) :=
    if_pos (by omega)
  have hcontent : Message.subBytes internalPayload (29 + announcedNameLength internalPayload) 20 =
      some ((internalPayload.drop (29 + announcedNameLength internalPayload)).take 20) :=
    if_pos (by omega)
  rw [parseFileMetaMessage, parse_nameLength hne, Option.bind_eq_bind, Option.bind_some, hname,
    Option.bind_eq_bind, Option.bind_some, hhash, Option.bind_some, parse_size (by omega),
    if_pos hsize, Option.bind_some, hcontent, Option.bind_some, Option.pure_def]
  rfl

theorem parseFileMetaMessage_some {P : Platform} {onionName : String} {internalPayload : Bytes}
    {task : FileTask} (h : parseFileMetaMessage P onionName internalPayload = some task) :
    49 + announcedNameLength internalPayload ≤ internalPayload.length ∧
      announcedSize internalPayload < 2 ^ 63 := by
  have hne : internalPayload ≠ [] := by
    intro hnil
    rw [hnil] at h
    cases h
  rw [parseFileMetaMessage, parse_nameLength hne] at h
  simp only [Option.bind_eq_bind, Option.bind_some, Option.bind_eq_some_iff] at h
  obtain ⟨_, _, _, _, _, ⟨sizeBytes, hslice, hparse⟩, _, hcontent, _⟩ := h
  have hlen := (Library.slice?_eq_some hcontent).1
  have hsize := parse_size (show 29 + announcedNameLength internalPayload ≤ _ by omega)
  rw [hslice, Option.bind_some, hparse] at hsize
  refine ⟨by omega, ?_⟩
  by_contra hlarge
  rw [if_neg hlarge] at hsize
  cases hsize

theorem parseFileMetaMessage_sound_iff (P : Platform) (onionName : String)
    (internalPayload : Bytes) :
    (∀ task, parseFileMetaMessage P onionName internalPayload = some task →
        task.SoundFor (announcedSize internalPayload)) ↔
      internalPayload.length < 49 + announcedNameLength internalPayload ∨
        2 ^ 63 ≤ announcedSize internalPayload ∨
        announcedSize internalPayload ≤ filePieceSize * (2 ^ 31 - 1) := by
  by_cases hread : 49 + announcedNameLength internalPayload ≤ internalPayload.length ∧
      announcedSize internalPayload < 2 ^ 63
  · obtain ⟨hlen, hsize⟩ := hread
    have hiff : (announcedTask P onionName internalPayload).SoundFor
        (announcedSize internalPayload) ↔ _ := soundFor_ofMeta_iff P onionName _ _ _
    rw [parseFileMetaMessage_eq_some P onionName hlen hsize]
    constructor
    · intro hsound
      exact Or.inr (Or.inr (hiff.mp (hsound _ rfl)))
    · rintro (hshort | hlarge | hfits) task htask
      · exact absurd hlen (not_le.mpr hshort)
      · exact absurd hsize (not_lt.mpr hlarge)
      · cases htask
        exact hiff.mpr hfits
  · constructor
    · intro _
      rcases not_and_or.mp hread with hlen | hsize
      · exact Or.inl (not_le.mp hlen)
      · exact Or.inr (Or.inl (not_lt.mp hsize))
    · intro _ task htask
      exact absurd (parseFileMetaMessage_some htask) hread

def overflowSize : Nat := filePieceSize * (2 ^ 31 - 1) + 1

def overflowPayload : Bytes :=
  metaPayload demoPlatform "disk.img" overflowSize (List.replicate 20 0)

-- One byte too many: 2147483648 pieces are announced as -2147483648, in steps of -21474836.
theorem overflowPayload_unsound :
    (parseFileMetaMessage demoPlatform "bob.onion" overflowPayload).map
        (fun task => (task.totalPieceNumber, task.stepNumber)) = some (-2 ^ 31, -21474836) ∧
      ¬ ∀ task, parseFileMetaMessage demoPlatform "bob.onion" overflowPayload = some task →
        task.SoundFor (announcedSize overflowPayload) := by
  have hparse : parseFileMetaMessage demoPlatform "bob.onion" overflowPayload =
      some (ofMeta demoPlatform "bob.onion" "disk.img" overflowSize (List.replicate 20 0)) :=
    parseFileMetaMessage_metaPayload demoPlatform "bob.onion" (by decide) (by decide) rfl
  rw [hparse]
  refine ⟨by decide, ?_⟩
  intro hsound
  have hnonneg := (hsound _ rfl).nonneg
  exact absurd hnonneg (by decide)

end FileMessage

end TorChat
