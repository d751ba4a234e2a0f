import TorChat.Util.FileTask
import TorChat.Library.Chunks
import TorChat.Util.DemoPlatform
import Mathlib.GroupTheory.GroupAction.Ring
import Mathlib.Tactic.Linarith

namespace TorChat.FileTask

open Library (Bytes HashMap chunk chunk_length chunk_length_le chunk_length_of_full flatMap_chunk_eq_self
  chunkCount_eq le_chunkCount_mul pred_chunkCount_mul_lt chunkCount_pos)
open Constant (filePieceSize)

def EntryInverts (P : Platform) (senderKey receiverKey : Bytes) : Prop :=
  ∀ x : Bytes, x.length < 2 ^ 31 →
    JniEntryUtils.decry P receiverKey (JniEntryUtils.entry P senderKey x) = some x

def CutsInto (entry : Bytes → Bytes) (content : Bytes) (pieces : HashMap Nat Bytes) : Prop :=
  ∀ k, pieces.get? k =
    if k < content.length ⌈/⌉ filePieceSize then some (entry (chunk filePieceSize content k))
    else none

theorem filePieceSize_pos : 0 < filePieceSize := by decide

theorem chunkCount_le {size : Nat} (h : size ≤ filePieceSize * (2 ^ 31 - 1)) :
    size ⌈/⌉ filePieceSize ≤ 2 ^ 31 - 1 := by
  rw [chunkCount_eq filePieceSize_pos]
  unfold filePieceSize at *
  split <;> omega

theorem pieceNumber_eq {size : Nat} (h : size ≤ filePieceSize * (2 ^ 31 - 1)) :
    pieceNumber size = (size ⌈/⌉ filePieceSize : Nat) := by
  have hle := chunkCount_le h
  rw [chunkCount_eq filePieceSize_pos] at hle ⊢
  rw [pieceNumber]
  generalize size / filePieceSize = q at hle ⊢
  have hfloor : (q : Int) ≤ 2 ^ 31 - 1 := by
    have := le_trans (Nat.le_add_right q _) hle
    omega
  simp only [min_eq_left hfloor]
  by_cases hmod : size % filePieceSize = 0
  · simp only [hmod, ne_eq, not_true_eq_false, if_false, if_true, Nat.add_zero]
  · simp only [hmod, ne_eq, not_false_eq_true, if_true, if_false] at hle ⊢
    rw [toInt_of_small (by omega) (by omega)]
    omega

theorem lastPiece_eq {n : Nat} (h₀ : 0 < n) (h : n ≤ 2 ^ 31 - 1) : lastPiece (n : Int) = n - 1 := by
  rw [lastPiece, toInt_of_small (by omega) (by omega)]
  omega

def putChunks (entry : Bytes → Bytes) (content : Bytes) (n : Nat) : HashMap Nat Bytes :=
  (List.range n).foldl (fun m i => m.put i (entry (chunk filePieceSize content i))) ∅

theorem get?_putChunks (entry : Bytes → Bytes) (content : Bytes) (n k : Nat) :
    (putChunks entry content n).get? k =
      if k < n then some (entry (chunk filePieceSize content k)) else none := by
  rw [putChunks, Library.HashMap.get?_foldl_put]
  simp

theorem putChunks_succ (entry : Bytes → Bytes) (content : Bytes) (n : Nat) :
    putChunks entry content (n + 1) =
      (putChunks entry content n).put n (entry (chunk filePieceSize content n)) := by
  simp [putChunks, List.range_succ, List.foldl_append]

theorem cutFile_loop (entry : Bytes → Bytes) (content : Bytes) {k : Nat}
    (h : k * filePieceSize ≤ content.length) :
    (List.range k).foldl (cutFileStep entry content) {} =
      { offSet := k * filePieceSize, filePieceContentMap := putChunks entry content k } := by
  induction k with
  | zero => simp [putChunks]
  | succ k ih =>
    have hk : k * filePieceSize ≤ content.length := le_trans (Nat.mul_le_mul_right _ (Nat.le_succ k)) h
    have hlen := chunk_length_of_full h
    rw [List.range_succ, List.foldl_append, ih hk, List.foldl_cons, List.foldl_nil]
    change Cut.mk (k * filePieceSize + (chunk filePieceSize content k).length)
      ((putChunks entry content k).put k (entry (zeroPadded (chunk filePieceSize content k)))) = _
    rw [zeroPadded, hlen, Nat.sub_self, List.replicate_zero, List.append_nil, putChunks_succ,
      Nat.succ_mul]

theorem cutBitmap_loop (entry : Bytes → Bytes) (content : Bytes) {k : Nat}
    (h : k * filePieceSize ≤ content.length) :
    (List.range k).foldl (cutBitmapStep entry content) {} =
      { offSet := k * filePieceSize, filePieceContentMap := putChunks entry content k } := by
  induction k with
  | zero => simp [putChunks]
  | succ k ih =>
    have hk : k * filePieceSize ≤ content.length := le_trans (Nat.mul_le_mul_right _ (Nat.le_succ k)) h
    have hcopy : copyOfRange content (k * filePieceSize) (k * filePieceSize + filePieceSize) =
        chunk filePieceSize content k := by
      have hlen := chunk_length_of_full h
      rw [chunk] at hlen
      simp only [copyOfRange, Nat.add_sub_cancel_left, hlen, Nat.sub_self, List.replicate_zero,
        List.append_nil, chunk]
    rw [List.range_succ, List.foldl_append, ih hk, List.foldl_cons, List.foldl_nil, cutBitmapStep,
      hcopy, putChunks_succ, Nat.succ_mul]

theorem copyOfRange_rest {content : Bytes} {i : Nat}
    (h : content.length ≤ (i + 1) * filePieceSize) :
    copyOfRange content (i * filePieceSize) content.length = chunk filePieceSize content i := by
  rw [Nat.succ_mul] at h
  have hdrop : (content.drop (i * filePieceSize)).length = content.length - i * filePieceSize :=
    List.length_drop
  have htake : (content.drop (i * filePieceSize)).take (content.length - i * filePieceSize) =
      content.drop (i * filePieceSize) := List.take_of_length_le (by omega)
  have hchunk : chunk filePieceSize content i = content.drop (i * filePieceSize) :=
    List.take_of_length_le (by omega)
  simp only [copyOfRange, htake, hdrop, Nat.sub_self, List.replicate_zero, List.append_nil, hchunk]

section Cut

variable {content : Bytes} (entry : Bytes → Bytes)

theorem cut_lastPiece (hne : content ≠ [])
    (hle : content.length ≤ filePieceSize * (2 ^ 31 - 1)) :
    lastPiece (pieceNumber content.length) = content.length ⌈/⌉ filePieceSize - 1 := by
  rw [pieceNumber_eq hle]
  exact lastPiece_eq (chunkCount_pos filePieceSize_pos (List.length_pos_iff.mpr hne))
    (chunkCount_le hle)

theorem cutFile_eq (hne : content ≠ []) (hle : content.length ≤ filePieceSize * (2 ^ 31 - 1)) :
    cutFile entry content = putChunks entry content (content.length ⌈/⌉ filePieceSize) := by
  have hpos := List.length_pos_iff.mpr hne
  have hcount := chunkCount_pos filePieceSize_pos hpos
  have hlt := pred_chunkCount_mul_lt filePieceSize_pos hpos
  simp only [cutFile, cut_lastPiece hne hle, cutFile_loop entry content hlt.le]
  rw [if_pos (Nat.sub_pos_of_lt hlt)]
  change (putChunks entry content _).put _ (entry (chunk filePieceSize content _)) = _
  rw [← putChunks_succ, Nat.sub_add_cancel hcount]

theorem cutBitmap_eq (hne : content ≠ []) (hle : content.length ≤ filePieceSize * (2 ^ 31 - 1)) :
    cutBitmap entry content = putChunks entry content (content.length ⌈/⌉ filePieceSize) := by
  have hpos := List.length_pos_iff.mpr hne
  have hcount := chunkCount_pos filePieceSize_pos hpos
  have hlt := pred_chunkCount_mul_lt filePieceSize_pos hpos
  have hrest := le_chunkCount_mul filePieceSize_pos content.length
  simp only [cutBitmap, cut_lastPiece hne hle, cutBitmap_loop entry content hlt.le]
  rw [if_pos (Nat.sub_pos_of_lt hlt), copyOfRange_rest (by rwa [Nat.sub_add_cancel hcount]),
    ← putChunks_succ, Nat.sub_add_cancel hcount]

theorem lastPiece_spec (size : Nat) (h : 0 < pieceNumber size) :
    lastPiece (pieceNumber size) + 1 = (pieceNumber size).toNat ∧
      lastPiece (pieceNumber size) * filePieceSize < size := by
  have hlt : pieceNumber size < 2 ^ 31 := by
    rw [pieceNumber]
    split
    · exact toInt_lt _
    · omega
  have hlast : lastPiece (pieceNumber size) + 1 = (pieceNumber size).toNat := by
    rw [lastPiece, toInt_of_small (by omega) (by omega)]
    omega
  have hcount : (pieceNumber size).toNat ≤ size ⌈/⌉ filePieceSize := by
    rw [chunkCount_eq filePieceSize_pos]
    rw [pieceNumber] at h ⊢
    split at h
    · rename_i hmod
      rw [if_pos hmod, if_neg hmod]
      have hfloor : (0 : Int) ≤ min ((size / filePieceSize : Nat) : Int) (2 ^ 31 - 1) :=
        le_min (Int.natCast_nonneg _) (by decide)
      have hmax : min ((size / filePieceSize : Nat) : Int) (2 ^ 31 - 1) ≠ 2 ^ 31 - 1 := by
        intro hmax
        rw [hmax] at h
        exact absurd h (by decide)
      rw [toInt_of_small (by omega) (by omega)]
      omega
    · rename_i hmod
      rw [if_neg hmod]
      omega
  refine ⟨hlast, ?_⟩
  have hsize : 0 < size := by
    rcases Nat.eq_zero_or_pos size with rfl | hpos
    · exact absurd h (by decide)
    · exact hpos
  calc lastPiece (pieceNumber size) * filePieceSize
      ≤ (size ⌈/⌉ filePieceSize - 1) * filePieceSize :=
        Nat.mul_le_mul_right _ (Nat.le_sub_one_of_lt (by omega))
    _ < size := pred_chunkCount_mul_lt filePieceSize_pos hsize

theorem get?_putLast {n count last : Nat} (hn : n < count) (hlast : last + 1 = count)
    (piece : Bytes) : (((putChunks entry content last).put last piece).get? n).isSome := by
  rw [Library.HashMap.get?_put, get?_putChunks]
  split
  · rfl
  · rw [if_pos (by omega)]
    rfl

theorem cutFile_holds {n : Nat} (hn : n < (pieceNumber content.length).toNat) :
    ((cutFile entry content).get? n).isSome := by
  obtain ⟨hlast, hlt⟩ := lastPiece_spec content.length (by omega)
  rw [cutFile]
  rw [cutFile_loop entry content hlt.le, if_pos (Nat.sub_pos_of_lt hlt)]
  exact get?_putLast entry hn hlast _

theorem cutBitmap_holds {n : Nat} (hn : n < (pieceNumber content.length).toNat) :
    ((cutBitmap entry content).get? n).isSome := by
  obtain ⟨hlast, hlt⟩ := lastPiece_spec content.length (by omega)
  rw [cutBitmap]
  rw [cutBitmap_loop entry content hlt.le, if_pos (Nat.sub_pos_of_lt hlt)]
  exact get?_putLast entry hn hlast _

theorem putChunks_cutsInto :
    CutsInto entry content (putChunks entry content (content.length ⌈/⌉ filePieceSize)) :=
  fun k => get?_putChunks entry content _ k

end Cut

theorem writePieces_eq {decry : Bytes → Option Bytes} {pieces : HashMap Nat Bytes}
    {plain : Nat → Bytes} {is : List Nat}
    (h : ∀ i ∈ is, (pieces.get? i).bind decry = some (plain i)) :
    writePieces decry pieces is = (is.flatMap plain, true) := by
  induction is with
  | nil => rfl
  | cons i is ih =>
    have hi := h i List.mem_cons_self
    have his := ih (fun j hj => h j (List.mem_cons_of_mem i hj))
    simp only [writePieces, hi, his, List.flatMap_cons]

def deliver (pieces : HashMap Nat Bytes) (task : FileTask) (arrivals : List Nat) : FileTask :=
  arrivals.foldl (fun task i => task.recievePieceData i ((pieces.get? i).getD [])) task

theorem deliver_facts (pieces : HashMap Nat Bytes) (task : FileTask) (arrivals : List Nat) :
    (deliver pieces task arrivals).fileName = task.fileName ∧
    (deliver pieces task arrivals).contentHash = task.contentHash ∧
    (deliver pieces task arrivals).filePieceContentMap =
      arrivals.foldl (fun m i => m.put i ((pieces.get? i).getD [])) task.filePieceContentMap := by
  induction arrivals generalizing task with
  | nil => exact ⟨rfl, rfl, rfl⟩
  | cons i arrivals ih => exact ih (task.recievePieceData i ((pieces.get? i).getD []))

theorem mergeFile_of_complete {P : Platform} {senderKey receiverKey content : Bytes}
    (hentry : EntryInverts P senderKey receiverKey) {task : FileTask}
    (hpieces : CutsInto (JniEntryUtils.entry P senderKey) content task.filePieceContentMap)
    (hhash : task.contentHash = P.sha1 content) :
    task.mergeFile P receiverKey (some []) =
      (some content, some (Constant.recieveFilePath ++ task.fileName)) := by
  have hsize : task.filePieceContentMap.size = content.length ⌈/⌉ filePieceSize := by
    apply Library.HashMap.size_eq_of_initial
    intro k
    rw [hpieces k]
    split <;> simp_all
  have hwrite : writePieces (JniEntryUtils.decry P receiverKey) task.filePieceContentMap
      (List.range (content.length ⌈/⌉ filePieceSize)) = (content, true) := by
    have hread : ∀ i ∈ List.range (content.length ⌈/⌉ filePieceSize),
        (task.filePieceContentMap.get? i).bind (JniEntryUtils.decry P receiverKey) =
          some (chunk filePieceSize content i) := by
      intro i hi
      rw [hpieces i, if_pos (List.mem_range.mp hi), Option.bind_some]
      exact hentry _ (lt_of_le_of_lt (chunk_length_le _ _ _) (by decide))
    rw [writePieces_eq hread, flatMap_chunk_eq_self (le_chunkCount_mul filePieceSize_pos _)]
  simp only [mergeFile, hsize, hwrite, overwrite, List.drop_nil, List.append_nil, hhash,
    decide_true, Bool.and_self, if_true]

theorem mergeFile_deliver {P : Platform} {senderKey receiverKey content : Bytes}
    (hentry : EntryInverts P senderKey receiverKey) {pieces : HashMap Nat Bytes}
    (hpieces : CutsInto (JniEntryUtils.entry P senderKey) content pieces)
    (peer fileName : String) {arrivals : List Nat}
    (harrivals : ∀ i, i ∈ arrivals ↔ i < content.length ⌈/⌉ filePieceSize) :
    (deliver pieces (ofMeta P peer fileName content.length (P.sha1 content)) arrivals).mergeFile
      P receiverKey (some []) =
        (some content, some (Constant.recieveFilePath ++ fileName)) := by
  obtain ⟨hname, hhash, hmap⟩ := deliver_facts pieces
    (ofMeta P peer fileName content.length (P.sha1 content)) arrivals
  have hcuts : CutsInto (JniEntryUtils.entry P senderKey) content
      (deliver pieces (ofMeta P peer fileName content.length (P.sha1 content))
        arrivals).filePieceContentMap := by
    intro k
    rw [hmap, Library.HashMap.get?_foldl_put]
    simp only [harrivals k]
    split
    · rename_i hk
      rw [hpieces k, if_pos hk, Option.getD_some]
    · rfl
  rw [mergeFile_of_complete hentry hcuts hhash, hname]
  rfl

theorem chunking_round_trip (P : Platform) (senderKey receiverKey : Bytes)
    (hentry : EntryInverts P senderKey receiverKey) (content : Bytes) (hne : content ≠ [])
    (hlt : content.length < 1968 * (2 ^ 31 - 1)) (remoteOnion filePath peer : String)
    (messageID : Nat) (task : FileTask)
    (htask : task = ofFile P senderKey remoteOnion filePath content messageID ∨
      content.length < 2 ^ 31 ∧ task = ofBitmap P senderKey remoteOnion filePath content messageID) :
    CutsInto (JniEntryUtils.entry P senderKey) content task.filePieceContentMap ∧
    task.totalPieceNumber = (content.length ⌈/⌉ 1968 : Nat) ∧
    (ofMeta P peer task.fileName task.totalSize task.contentHash).totalPieceNumber =
      (content.length ⌈/⌉ 1968 : Nat) ∧
    ∀ arrivals : List Nat, (∀ i, i ∈ arrivals ↔ i < content.length ⌈/⌉ 1968) →
      (deliver task.filePieceContentMap
        (ofMeta P peer task.fileName task.totalSize task.contentHash) arrivals).mergeFile
          P receiverKey (some []) =
            (some content, some (Constant.recieveFilePath ++ task.fileName)) := by
  have hcuts : CutsInto (JniEntryUtils.entry P senderKey) content task.filePieceContentMap := by
    rcases htask with rfl | ⟨_, rfl⟩
    · change CutsInto _ content (cutFile _ content)
      rw [cutFile_eq _ hne hlt.le]
      exact putChunks_cutsInto _
    · change CutsInto _ content (cutBitmap _ content)
      rw [cutBitmap_eq _ hne hlt.le]
      exact putChunks_cutsInto _
  have hsize : task.totalSize = content.length := by rcases htask with rfl | ⟨_, rfl⟩ <;> rfl
  have hhash : task.contentHash = P.sha1 content := by rcases htask with rfl | ⟨_, rfl⟩ <;> rfl
  have htotal : task.totalPieceNumber = pieceNumber content.length := by
    rcases htask with rfl | ⟨_, rfl⟩ <;> rfl
  refine ⟨hcuts, htotal.trans (pieceNumber_eq hlt.le), ?_, ?_⟩
  · rw [hsize]
    exact pieceNumber_eq hlt.le
  · intro arrivals harrivals
    rw [hsize, hhash]
    exact mergeFile_deliver hentry hcuts peer task.fileName harrivals

theorem chunking_round_trip_demo :
    (deliver (ofFile demoPlatform [0] "b.onion" "/sdcard/a" [1, 2, 3] 1000).filePieceContentMap
      (ofMeta demoPlatform "a.onion" "a" 3 (demoPlatform.sha1 [1, 2, 3])) [0, 0]).mergeFile
        demoPlatform [0] (some []) = (some [1, 2, 3], some (Constant.recieveFilePath ++ "a")) :=
  (chunking_round_trip demoPlatform [0] [0] (fun _ h => JniEntryUtils.decry_entry_demo [0] h)
    [1, 2, 3] (by decide) (by decide) "b.onion" "/sdcard/a" "a.onion" 1000
    (ofFile demoPlatform [0] "b.onion" "/sdcard/a" [1, 2, 3] 1000) (Or.inl rfl)).2.2.2 [0, 0]
    (by
      have hone : [(1 : UInt8), 2, 3].length ⌈/⌉ 1968 = 1 := by decide
      intro i
      rw [hone]
      simp)

end TorChat.FileTask
