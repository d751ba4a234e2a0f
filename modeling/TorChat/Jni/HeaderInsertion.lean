import TorChat.Jni.KeyFile
import TorChat.Library.RandomAccess
import TorChat.Util.FileTask

namespace TorChat

open Library (Bytes RandomAccessFile)

namespace ServiceLoaderImpl

open FileTask (toInt)

-- a second handle on the file, read from its start into an array of zeros
def readInto (content : Bytes) (size : Nat) : Bytes :=
  let read := content.take size
  read ++ List.replicate (size - read.length) 0

structure Inserted where
  content : Bytes
  threw : Bool := false
  deriving DecidableEq, Repr

-- an array of negative size is an exception that is not caught
def setHeaderToBinFile (content : Bytes) : Inserted :=
  let dataToInsert : Bytes := [0x00]
  let file : RandomAccessFile UInt8 := { content := content }
  let originalSize := file.content.length
  let file := (file.seek 0).write dataToInsert
  let file := file.seek dataToInsert.length
  let size := toInt originalSize
  if size < 0 then { content := file.content, threw := true }
  else { content := (file.write (readInto file.content size.toNat)).content }

def KeepsMaterial (content : Bytes) (after : Inserted) : Prop :=
  after = { content := 0 :: content }

section Insertion

variable {content : Bytes}

theorem header_written (content : Bytes) :
    (RandomAccessFile.write (RandomAccessFile.seek ⟨content, 0⟩ 0) [0]).seek [(0 : UInt8)].length =
      ⟨[0] ++ content.tail, [(0 : UInt8)].length⟩ := by
  have hwritten : ((RandomAccessFile.seek ⟨content, 0⟩ 0).write [(0 : UInt8)]).content =
      [0] ++ content.drop 1 := RandomAccessFile.write_start [0] rfl
  rw [RandomAccessFile.seek, hwritten, ← List.drop_one]

theorem readInto_of_le {size : Nat} (h : size ≤ content.length) :
    readInto content size = content.take size := by
  rw [readInto, List.length_take, Nat.min_eq_left h, Nat.sub_self, List.replicate_zero,
    List.append_nil]

-- what the second write puts behind the header is what the first one has left
theorem setHeader_eq {size : Nat} (hsize : toInt content.length = size)
    (hle : size ≤ content.length) :
    setHeaderToBinFile content =
      { content := 0 :: ((0 :: content.tail).take size ++ content.tail.drop size) } := by
  have hread : size ≤ ([0] ++ content.tail).length := by
    rw [List.length_append, List.length_tail, List.length_singleton]
    omega
  rw [setHeaderToBinFile]
  dsimp only
  rw [hsize, if_neg (by omega), header_written, Int.toNat_natCast, readInto_of_le hread,
    RandomAccessFile.write_append, List.length_take, Nat.min_eq_left hread]
  rfl

theorem setHeader_threw (h : toInt content.length < 0) :
    (setHeaderToBinFile content).threw = true := by
  rw [setHeaderToBinFile]
  dsimp only
  rw [if_pos h]

theorem setHeader_whole (h : content.length < 2 ^ 31) :
    setHeaderToBinFile content = { content := 0 :: (0 :: content.tail).take content.length } := by
  have hsize : toInt content.length = content.length :=
    FileTask.toInt_of_small (by omega) (by omega)
  rw [setHeader_eq hsize (Nat.le_refl _), List.drop_eq_nil_of_le (by simp), List.append_nil]

theorem toInt_length_lt (h : 2 ^ 31 ≤ content.length) :
    toInt content.length < content.length := by
  have hlt := FileTask.toInt_lt content.length
  omega

-- a length past the range of int loses at least the byte that the header takes
theorem setHeader_cut (h : 2 ^ 31 ≤ content.length) :
    ¬ KeepsMaterial content (setHeaderToBinFile content) := by
  intro hkeeps
  by_cases hneg : toInt content.length < 0
  · have hthrew := setHeader_threw hneg
    rw [hkeeps] at hthrew
    cases hthrew
  · obtain ⟨size, hsize⟩ := Int.eq_ofNat_of_zero_le (Int.not_lt.mp hneg)
    have hlt := toInt_length_lt h
    rw [KeepsMaterial, setHeader_eq hsize (by omega)] at hkeeps
    have hlength := congrArg (fun after => after.content.length) hkeeps
    simp only [List.length_cons, List.length_append, List.length_take, List.length_drop,
      List.length_tail] at hlength
    omega

end Insertion

theorem header_keeps_material_iff (content : Bytes) :
    KeepsMaterial content (setHeaderToBinFile content) ↔
      content.length < 2 ^ 31 ∧ ∀ b, content.head? = some b → b = 0 := by
  by_cases hsmall : content.length < 2 ^ 31
  · rw [setHeader_whole hsmall, KeepsMaterial, Inserted.mk.injEq]
    simp only [hsmall, true_and, and_true, List.cons.injEq]
    cases content with
    | nil => simp
    | cons b rest =>
      rw [List.tail_cons, List.take_of_length_le (by simp), List.head?_cons, List.cons.injEq]
      constructor
      · rintro ⟨rfl, _⟩ b' hb'
        exact (Option.some.inj hb').symm
      · intro hzero
        exact ⟨(hzero b rfl).symm, rfl⟩
  · exact iff_of_false (setHeader_cut (Nat.not_lt.mp hsmall)) (fun h => hsmall h.1)

theorem first_key_byte_lost : ¬ ∀ content : Bytes,
    KeepsMaterial content (setHeaderToBinFile content) := by
  intro hall
  have hzero := ((header_keeps_material_iff [7, 8]).mp (hall [7, 8])).2 7 rfl
  cases hzero

end ServiceLoaderImpl

end TorChat
