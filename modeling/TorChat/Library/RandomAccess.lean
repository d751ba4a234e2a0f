import TorChat.Library.Chunks

namespace TorChat.Library

structure RandomAccessFile (α : Type) where
  content : List α
  filePointer : Nat := 0

namespace RandomAccessFile

variable {α : Type}

def seek (file : RandomAccessFile α) (pos : Nat) : RandomAccessFile α :=
  { file with filePointer := pos }

def read (file : RandomAccessFile α) (size : Nat) : List α × RandomAccessFile α :=
  let piece := (file.content.drop file.filePointer).take size
  (piece, { file with filePointer := file.filePointer + piece.length })

-- a write past the end fills the gap; an empty one leaves the length alone
def write [Inhabited α] (file : RandomAccessFile α) (xs : List α) : RandomAccessFile α :=
  if xs.isEmpty then file
  else
    { content := file.content.take file.filePointer ++
        List.replicate (file.filePointer - file.content.length) default ++ xs ++
        file.content.drop (file.filePointer + xs.length)
      filePointer := file.filePointer + xs.length }

@[simp] theorem seek_filePointer (file : RandomAccessFile α) : file.seek file.filePointer = file :=
  rfl

@[simp] theorem read_seek_content (file : RandomAccessFile α) (pos size : Nat) :
    ((file.seek pos).read size).2.content = file.content := rfl

theorem filePointer_read_chunk {file : RandomAccessFile α} {size i : Nat}
    (h : (i + 1) * size ≤ file.content.length) :
    ((file.seek (i * size)).read size).2.filePointer = (i + 1) * size := by
  have hfull := chunk_length_of_full h
  rw [Nat.succ_mul]
  exact congrArg (i * size + ·) hfull

section Write

variable [Inhabited α]

theorem write_of_le {file : RandomAccessFile α} (xs : List α)
    (h : file.filePointer ≤ file.content.length) :
    file.write xs = ⟨file.content.take file.filePointer ++ xs ++
      file.content.drop (file.filePointer + xs.length), file.filePointer + xs.length⟩ := by
  rw [write]
  split
  · rename_i hempty
    rw [List.isEmpty_iff.mp hempty]
    simp
  · rw [Nat.sub_eq_zero_of_le h]
    simp

@[simp] theorem filePointer_write (file : RandomAccessFile α) (xs : List α) :
    (file.write xs).filePointer = file.filePointer + xs.length := by
  rw [write]
  split
  · rename_i hempty
    rw [List.isEmpty_iff.mp hempty]
    rfl
  · rfl

theorem length_write {file : RandomAccessFile α} (xs : List α)
    (h : file.filePointer ≤ file.content.length) :
    (file.write xs).content.length = max file.content.length (file.filePointer + xs.length) := by
  rw [write_of_le xs h]
  simp only [List.length_append, List.length_take, List.length_drop]
  omega

theorem filePointer_write_le {file : RandomAccessFile α} (xs : List α)
    (h : file.filePointer ≤ file.content.length) :
    (file.write xs).filePointer ≤ (file.write xs).content.length := by
  rw [length_write xs h, filePointer_write]
  exact le_max_right _ _

theorem write_write {file : RandomAccessFile α} (xs ys : List α)
    (h : file.filePointer ≤ file.content.length) :
    (file.write xs).write ys = file.write (xs ++ ys) := by
  have hlength : (file.content.take file.filePointer ++ xs).length =
      file.filePointer + xs.length := by
    rw [List.length_append, List.length_take, Nat.min_eq_left h]
  have hle := filePointer_write_le xs h
  rw [write_of_le ys hle, write_of_le (xs ++ ys) h]
  rw [write_of_le xs h]
  simp only [List.length_append, ← Nat.add_assoc, ← List.append_assoc]
  rw [← hlength, List.take_left, List.drop_length_add_append, List.drop_drop, hlength]

theorem write_append (before after xs : List α) :
    ((⟨before ++ after, before.length⟩ : RandomAccessFile α).write xs).content =
      before ++ xs ++ after.drop xs.length := by
  have hle : before.length ≤ (before ++ after).length := by simp
  rw [write_of_le xs hle]
  simp

theorem write_start {file : RandomAccessFile α} (xs : List α) (h : file.filePointer = 0) :
    (file.write xs).content = xs ++ file.content.drop xs.length := by
  rw [write_of_le xs (h ▸ Nat.zero_le _), h]
  simp

end Write

end RandomAccessFile

end TorChat.Library
