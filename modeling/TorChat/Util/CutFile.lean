import TorChat.Library.RandomAccess
import TorChat.Util.DemoPlatform

namespace TorChat

open Library (Bytes HashMap RandomAccessFile chunk)

namespace FileUtil

structure Cut where
  file : RandomAccessFile UInt8
  offSet : Nat := 0
  filePieceContentMap : HashMap Int Bytes := ∅
  filePieceHashMap : HashMap Int Bytes := ∅

def readInto (pieceSize : Nat) (read : Bytes) : Bytes :=
  read ++ List.replicate (pieceSize - read.length) 0

-- the quotient of two whole numbers is rounded down before Math.ceil sees it
def totalPieceNumber (totalSize pieceSize : Nat) : Nat := min (totalSize / pieceSize) (2 ^ 31 - 1)

section Model

variable (P : Platform) (pieceSize : Nat)

def cutStep (cut : Cut) (i : Nat) : Cut :=
  let (read, file) := (cut.file.seek cut.offSet).read pieceSize
  let b := readInto pieceSize read
  { file := file
    offSet := file.filePointer
    filePieceContentMap := cut.filePieceContentMap.put i b
    filePieceHashMap := cut.filePieceHashMap.put i (P.sha1 b) }

-- without a round of the loop the read after it starts where the file pointer stood before the call
def cutFile (file : RandomAccessFile UInt8) : HashMap Int Bytes × HashMap Int Bytes :=
  let totalSize := file.content.length
  let totalPieceNumber := totalPieceNumber totalSize pieceSize
  let cut := (List.range (totalPieceNumber - 1)).foldl (cutStep P pieceSize) { file := file }
  if totalSize - cut.offSet > 0 then
    let t := (cut.file.read pieceSize).1
    -- at the end of the file read answers -1, and an array of that length throws
    if t.isEmpty then (cut.filePieceContentMap, cut.filePieceHashMap)
    else
      (cut.filePieceContentMap.put ((totalPieceNumber : Int) - 1) t, cut.filePieceHashMap)
  else (cut.filePieceContentMap, cut.filePieceHashMap)

end Model

structure CutInto (content : Bytes) (pieceSize : Nat) (map : HashMap Int Bytes)
    (pieces : List Bytes) : Prop where
  count : pieces.length = content.length ⌈/⌉ pieceSize
  stored : ∀ k : Int, map.get? k = if 0 ≤ k then pieces[k.toNat]? else none
  whole : pieces.flatten = content
  full : ∀ piece ∈ pieces.dropLast, piece.length = pieceSize

section Loop

variable {P : Platform} {pieceSize : Nat} {content : Bytes} {file : RandomAccessFile UInt8}

-- the first round of the loop puts the file pointer where the pieces start
structure CutTo (file : RandomAccessFile UInt8) (pieceSize n : Nat) (cut : Cut) : Prop where
  content : cut.file.content = file.content
  filePointer : n ≠ 0 ∨ file.filePointer = 0 → cut.file.filePointer = n * pieceSize
  offSet : cut.offSet = n * pieceSize
  pieces : ∀ k : Int, cut.filePieceContentMap.get? k =
    if 0 ≤ k ∧ k < n then some (chunk pieceSize file.content k.toNat) else none

theorem readInto_full {read : Bytes} (h : read.length = pieceSize) :
    readInto pieceSize read = read := by
  simp [readInto, h]

theorem cutTo_step {n : Nat} {cut : Cut} (hcut : CutTo file pieceSize n cut)
    (h : (n + 1) * pieceSize ≤ file.content.length) :
    CutTo file pieceSize (n + 1) (cutStep P pieceSize cut n) := by
  obtain ⟨⟨content, filePointer⟩, offSet, map, hashes⟩ := cut
  obtain ⟨rfl, -, rfl, hpieces⟩ := hcut
  have hpointer := @RandomAccessFile.filePointer_read_chunk _ ⟨file.content, filePointer⟩
    pieceSize n h
  have hread : readInto pieceSize (chunk pieceSize file.content n) =
      chunk pieceSize file.content n := readInto_full (Library.chunk_length_of_full h)
  refine ⟨rfl, fun _ => hpointer, hpointer, ?_⟩
  intro k
  have hput : (cutStep P pieceSize ⟨⟨file.content, filePointer⟩, n * pieceSize, map, hashes⟩
      n).filePieceContentMap = map.put n (chunk pieceSize file.content n) := by
    rw [cutStep]
    exact congrArg (map.put n) hread
  rw [hput, HashMap.get?_put, hpieces k]
  split
  · rename_i heq
    subst heq
    rw [if_pos ⟨by omega, by omega⟩, Int.toNat_natCast]
  · rename_i hne
    by_cases hk : 0 ≤ k ∧ k < n
    · rw [if_pos hk, if_pos ⟨hk.1, by omega⟩]
    · rw [if_neg hk, if_neg (fun hk' => hk ⟨hk'.1, by omega⟩)]

theorem cutTo_fold (n : Nat) (h : n * pieceSize ≤ file.content.length) :
    CutTo file pieceSize n ((List.range n).foldl (cutStep P pieceSize) { file := file }) := by
  induction n with
  | zero =>
    refine ⟨rfl, fun hstart => ?_, by rw [Nat.zero_mul]; rfl, fun k => ?_⟩
    · rw [Nat.zero_mul]
      exact hstart.resolve_left fun hne => hne rfl
    · rw [if_neg (by omega)]
      rfl
  | succ n ih =>
    have hle : n * pieceSize ≤ file.content.length := by
      rw [Nat.succ_mul] at h
      omega
    rw [List.range_succ, List.foldl_append]
    exact cutTo_step (ih hle) h

variable (content pieceSize) in
theorem totalPieceNumber_mul_le : totalPieceNumber content.length pieceSize * pieceSize ≤
    content.length :=
  le_trans (Nat.mul_le_mul_right _ (min_le_left _ _)) (Nat.div_mul_le_self _ _)

-- the file pointer is where the pieces start: after a round of the loop, or from the beginning
def Sought (file : RandomAccessFile UInt8) (pieceSize : Nat) : Prop :=
  2 ≤ totalPieceNumber file.content.length pieceSize ∨ file.filePointer = 0

-- with at least one whole piece the read after the loop takes another whole one
theorem cutFile_of_pos (hsize : 0 < pieceSize) (hsought : Sought file pieceSize)
    (h : 0 < totalPieceNumber file.content.length pieceSize) (k : Int) :
    (cutFile P pieceSize file).1.get? k =
      if 0 ≤ k ∧ k < totalPieceNumber file.content.length pieceSize then
        some (chunk pieceSize file.content k.toNat)
      else none := by
  rw [Sought] at hsought
  obtain ⟨n, hn⟩ := Nat.exists_eq_succ_of_ne_zero h.ne'
  have hle := totalPieceNumber_mul_le pieceSize file.content
  rw [hn, Nat.succ_mul] at hle
  rw [hn] at hsought
  have hloop : n * pieceSize ≤ file.content.length := by omega
  have hcut := cutTo_fold (P := P) n hloop
  rw [cutFile, hn]
  simp only [Nat.succ_eq_add_one, Nat.add_sub_cancel]
  generalize (List.range n).foldl (cutStep P pieceSize) { file := file } = cut at hcut
  obtain ⟨⟨content, filePointer⟩, offSet, map, hashes⟩ := cut
  obtain ⟨rfl, hpointer, rfl, hpieces⟩ := hcut
  obtain rfl := hpointer (hsought.imp_left (by omega))
  have hlast : ((⟨file.content, n * pieceSize⟩ : RandomAccessFile UInt8).read pieceSize).1 =
      chunk pieceSize file.content n := rfl
  have hfull : (chunk pieceSize file.content n).length = pieceSize :=
    Library.chunk_length_of_full (by rw [Nat.succ_mul]; exact hle)
  have hnonempty : (chunk pieceSize file.content n).isEmpty = false := by
    rw [List.isEmpty_eq_false_iff, ← List.length_pos_iff, hfull]
    exact hsize
  have hkey : ((n + 1 : Nat) : Int) - 1 = n := by omega
  dsimp only
  rw [if_pos (by omega), hlast, hnonempty, if_neg Bool.false_ne_true, hkey]
  dsimp only
  rw [HashMap.get?_put]
  split
  · rename_i heq
    subst heq
    rw [if_pos ⟨by omega, by omega⟩]
    rfl
  · rename_i hne
    rw [hpieces k]
    by_cases hk : 0 ≤ k ∧ k < n
    · rw [if_pos hk, if_pos ⟨hk.1, by omega⟩]
    · rw [if_neg hk, if_neg (fun hk' => hk ⟨hk'.1, by omega⟩)]

end Loop

section Pieces

variable (P : Platform) {pieceSize : Nat} {file : RandomAccessFile UInt8}

-- without a round of the loop at most one piece is stored, and it is read from the file pointer
theorem cutFile_of_few (h : totalPieceNumber file.content.length pieceSize ≤ 1) (k : Int) :
    (cutFile P pieceSize file).1.get? k =
      if k = (totalPieceNumber file.content.length pieceSize : Int) - 1 ∧
          (file.read pieceSize).1 ≠ [] ∧ file.content ≠ [] then
        some (file.read pieceSize).1
      else none := by
  have hnone : totalPieceNumber file.content.length pieceSize - 1 = 0 := by omega
  rw [cutFile, hnone]
  simp only [List.range_zero, List.foldl_nil, Nat.sub_zero, List.isEmpty_iff, gt_iff_lt,
    List.length_pos_iff]
  by_cases hcontent : file.content = []
  · rw [if_neg (fun hne => hne hcontent), if_neg (fun hk => hk.2.2 hcontent)]
    rfl
  rw [if_pos hcontent]
  by_cases hread : (file.read pieceSize).1 = []
  · rw [if_pos hread, if_neg (fun hk => hk.2.1 hread)]
    rfl
  rw [if_neg hread, HashMap.get?_put]
  by_cases hk : k = (totalPieceNumber file.content.length pieceSize : Int) - 1
  · rw [if_pos hk, if_pos ⟨hk, hread, hcontent⟩]
  · rw [if_neg hk, if_neg (fun h' => hk h'.1)]
    rfl

variable {P}

theorem length_pieces {pieces : List Bytes} (hsize : 0 < pieceSize)
    (hsought : Sought file pieceSize)
    (h : 0 < totalPieceNumber file.content.length pieceSize)
    (hcut : CutInto file.content pieceSize (cutFile P pieceSize file).1 pieces) :
    pieces.length = totalPieceNumber file.content.length pieceSize := by
  have hstored := hcut.stored
  generalize hn : totalPieceNumber file.content.length pieceSize = n at h
  have hlast := hstored ((n - 1 : Nat) : Int)
  have hnext := hstored (n : Int)
  rw [cutFile_of_pos hsize hsought (by omega), hn] at hlast hnext
  rw [if_pos ⟨by omega, by omega⟩, if_pos (by omega), Int.toNat_natCast] at hlast
  rw [if_neg (by omega), if_pos (by omega), Int.toNat_natCast] at hnext
  have hlow : n - 1 < pieces.length := (List.getElem?_eq_some_iff.mp hlast.symm).1
  have hhigh : pieces.length ≤ n := List.getElem?_eq_none_iff.mp hnext.symm
  omega

-- fewer bytes are read than the file holds
theorem empty_of_few {pieces : List Bytes}
    (h : totalPieceNumber file.content.length pieceSize ≤ 1)
    (hmoved : totalPieceNumber file.content.length pieceSize = 0 ∨ file.filePointer ≠ 0)
    (hcut : CutInto file.content pieceSize (cutFile P pieceSize file).1 pieces) :
    file.content = [] := by
  have hsecond : pieces[1]? = none := by
    have hstored := hcut.stored 1
    rw [cutFile_of_few P h, if_neg (by omega), if_pos (by omega)] at hstored
    exact hstored.symm
  match pieces with
  | [] => exact hcut.whole.symm
  | [piece] =>
    have hstored := hcut.stored 0
    rw [cutFile_of_few P h, if_pos (le_refl 0)] at hstored
    split at hstored
    · rename_i hread
      have hmoved' : file.filePointer ≠ 0 := hmoved.resolve_left (by omega)
      have hpiece : (file.read pieceSize).1 = piece := Option.some.inj hstored
      have hwhole : piece = file.content := by
        rw [← hcut.whole, List.flatten_cons, List.flatten_nil, List.append_nil]
      have hlength : (file.read pieceSize).1.length ≤ file.content.length - file.filePointer := by
        rw [RandomAccessFile.read, List.length_take, List.length_drop]
        exact min_le_right _ _
      rw [hpiece, hwhole] at hlength
      exact List.eq_nil_of_length_eq_zero (by omega)
    · cases hstored
  | _ :: _ :: _ => cases hsecond

theorem cutInto_chunks (hsize : 0 < pieceSize) (hsought : Sought file pieceSize)
    (hpos : 0 < file.content.length) (hdvd : pieceSize ∣ file.content.length)
    (h : file.content.length / pieceSize < 2 ^ 31) :
    CutInto file.content pieceSize (cutFile P pieceSize file).1
      ((List.range (file.content.length / pieceSize)).map (chunk pieceSize file.content)) := by
  have htotal : totalPieceNumber file.content.length pieceSize =
      file.content.length / pieceSize := by
    rw [totalPieceNumber]
    omega
  have hmul := Nat.div_mul_cancel hdvd
  have hquot : 0 < file.content.length / pieceSize :=
    Nat.div_pos (Nat.le_of_dvd hpos hdvd) hsize
  refine ⟨?_, ?_, ?_, ?_⟩
  · rw [List.length_map, List.length_range, Library.chunkCount_eq hsize,
      if_pos (Nat.mod_eq_zero_of_dvd hdvd), Nat.add_zero]
  · intro k
    rw [cutFile_of_pos hsize hsought (htotal ▸ hquot), htotal, List.getElem?_map]
    by_cases hneg : 0 ≤ k
    · rw [if_pos hneg]
      by_cases hlt : k < (file.content.length / pieceSize : Nat)
      · rw [if_pos ⟨hneg, hlt⟩, List.getElem?_range (by omega)]
        rfl
      · rw [if_neg (fun hk => hlt hk.2), List.getElem?_eq_none (by rw [List.length_range]; omega)]
        rfl
    · rw [if_neg (fun hk => hneg hk.1), if_neg hneg]
  · rw [← List.flatMap_def]
    exact Library.flatMap_chunk_eq_self hmul.ge
  · intro piece hpiece
    obtain ⟨i, hi, rfl⟩ := List.mem_map.mp (List.dropLast_subset _ hpiece)
    apply Library.chunk_length_of_full
    rw [← hmul]
    exact Nat.mul_le_mul_right _ (List.mem_range.mp hi)

end Pieces

theorem cut_into_pieces_iff (P : Platform) (file : RandomAccessFile UInt8) {pieceSize : Nat}
    (hsize : 0 < pieceSize) :
    (∃ pieces, CutInto file.content pieceSize (cutFile P pieceSize file).1 pieces) ↔
      pieceSize ∣ file.content.length ∧ file.content.length / pieceSize < 2 ^ 31 ∧
        (file.content.length = pieceSize → file.filePointer = 0) := by
  have htotal : totalPieceNumber file.content.length pieceSize =
      min (file.content.length / pieceSize) (2 ^ 31 - 1) := rfl
  constructor
  · rintro ⟨pieces, hcut⟩
    by_cases hfew : totalPieceNumber file.content.length pieceSize ≤ 1 ∧
        (totalPieceNumber file.content.length pieceSize = 0 ∨ file.filePointer ≠ 0)
    · rw [empty_of_few hfew.1 hfew.2 hcut, List.length_nil, Nat.zero_div]
      exact ⟨Nat.dvd_zero _, by decide, fun hzero => absurd hzero hsize.ne⟩
    · have hpos : 0 < totalPieceNumber file.content.length pieceSize := by omega
      have hsought : Sought file pieceSize := by
        rw [Sought]
        omega
      have hcount := hcut.count
      rw [length_pieces hsize hsought hpos hcut] at hcount
      have hle := Library.le_chunkCount_mul hsize file.content.length
      rw [← hcount] at hle
      have hwhole : file.content.length =
          totalPieceNumber file.content.length pieceSize * pieceSize :=
        Nat.le_antisymm hle (totalPieceNumber_mul_le _ _)
      have hquot := congrArg (· / pieceSize) hwhole
      simp only [Nat.mul_div_cancel _ hsize] at hquot
      refine ⟨Dvd.intro_left _ hwhole.symm, by omega, fun hone => ?_⟩
      rw [hone, Nat.div_self hsize] at hquot
      rw [hone] at hfew
      omega
  · rintro ⟨hdvd, hlt, hpointer⟩
    rcases Nat.eq_zero_or_pos file.content.length with hzero | hpos
    · have hempty := List.eq_nil_of_length_eq_zero hzero
      have hnone : totalPieceNumber file.content.length pieceSize ≤ 1 := by
        rw [htotal, hzero, Nat.zero_div]
        omega
      refine ⟨[], ?_, fun k => ?_, hempty.symm, fun _ hpiece => absurd hpiece List.not_mem_nil⟩
      · rw [Library.chunkCount_eq hsize, hzero]
        simp
      · rw [cutFile_of_few P hnone, if_neg (fun hk => hk.2.2 hempty)]
        split <;> rfl
    · refine ⟨_, cutInto_chunks hsize ?_ hpos hdvd hlt⟩
      obtain ⟨n, hn⟩ := hdvd
      rw [Sought, htotal, hn, Nat.mul_div_cancel_left _ hsize]
      rcases Nat.lt_or_ge n 2 with hsmall | hlarge
      · have hone : n = 1 := by
          have hne : n ≠ 0 := by
            rintro rfl
            omega
          omega
        rw [hone, Nat.mul_one] at hn
        exact .inr (hpointer hn)
      · exact .inl (by omega)

theorem cut_into_pieces_two_halves :
    ∃ pieces, CutInto [1, 2, 3, 4] 2 (cutFile demoPlatform 2 ⟨[1, 2, 3, 4], 3⟩).1 pieces :=
  (cut_into_pieces_iff demoPlatform ⟨[1, 2, 3, 4], 3⟩ (by decide)).mpr (by decide)

theorem last_bytes_cut_off : ¬ ∀ (P : Platform) (file : RandomAccessFile UInt8) (pieceSize : Nat),
    0 < pieceSize →
      ∃ pieces, CutInto file.content pieceSize (cutFile P pieceSize file).1 pieces := by
  intro hall
  have hcut := hall demoPlatform ⟨[1, 2, 3, 4, 5], 0⟩ 2 (by decide)
  obtain ⟨pieces, hpieces⟩ := hcut
  have hlength := length_pieces (by decide) (.inr rfl) (by decide) hpieces
  rw [hpieces.count] at hlength
  revert hlength
  decide

end FileUtil

end TorChat
