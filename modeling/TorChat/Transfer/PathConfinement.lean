import TorChat.Library.Path
import TorChat.Message.FileMessage
import TorChat.Server.FileState
import TorChat.Util.DemoPlatform

namespace TorChat

open Library (Bytes)
open Library.Path (Move Climb segments climb walk StrictlyInside)

namespace PathConfinement

abbrev Segment := List Char

def move (segment : Segment) : Move Segment :=
  if segment = [] ∨ segment = ['.'] then .stay
  else if segment = ['.', '.'] then .up
  else .down segment

def moves (path : String) : List (Move Segment) := (segments '/' path.toList).map move

def normalize (path : String) : List Segment := walk [] (moves path)

def receiveDirectory : List Segment := normalize Constant.recieveFilePath

def receiveFile (task : FileTask) : String := Constant.recieveFilePath ++ task.fileName

-- a path with a NUL character is invalid and opening it throws
def opened (task : FileTask) : Option (List Segment) :=
  if '\x00' ∈ (receiveFile task).toList then none else some (normalize (receiveFile task))

def Confined (task : FileTask) : Prop :=
  ∀ path, opened task = some path → StrictlyInside receiveDirectory path

-- wherever the announced task is later merged
def CellConfined (P : Platform) (onionName : String) (internalPayload : Bytes) : Prop :=
  ∀ announced, FileMessage.parseFileMetaMessage P onionName internalPayload = some announced →
    ∀ task, announced.Evolves task → Confined task

-- the name goes up some levels, comes back down through as many directories of the receive path,
-- and then names something in it
def StaysInside (fileName : String) : Prop :=
  StrictlyInside (receiveDirectory.drop (receiveDirectory.length - (climb (moves fileName)).ups))
    (climb (moves fileName)).names

instance (fileName : String) : Decidable (StaysInside fileName) :=
  inferInstanceAs (Decidable (StrictlyInside _ _))

variable {P : Platform} {task : FileTask}

theorem mergeFile_path {keyFile : Bytes} {opened : Option Bytes} {path : String}
    (h : (task.mergeFile P keyFile opened).2 = some path) : path = receiveFile task := by
  cases opened with
  | none => cases h
  | some old =>
    rw [FileTask.mergeFile] at h
    dsimp only at h
    split at h
    · exact (Option.some.inj h).symm
    · cases h

theorem moves_receiveFile (task : FileTask) :
    moves (receiveFile task) =
      moves "/data/data/com.ucas.chat/files/ReceiveFile" ++ moves task.fileName := by
  have hslash : Constant.recieveFilePath.toList =
      "/data/data/com.ucas.chat/files/ReceiveFile".toList ++ ['/'] := by decide +kernel
  rw [moves, receiveFile, String.toList_append, hslash, List.append_assoc, List.singleton_append,
    Library.Path.segments_append, List.map_append, moves, moves]

theorem normalize_receiveFile (task : FileTask) :
    normalize (receiveFile task) = (climb (moves task.fileName)).applyTo receiveDirectory := by
  have hdirectory : walk [] (moves "/data/data/com.ucas.chat/files/ReceiveFile") =
      receiveDirectory := by decide +kernel
  rw [normalize, moves_receiveFile, Library.Path.walk_append, hdirectory,
    Library.Path.walk_eq_applyTo]

theorem mem_receiveFile_iff (task : FileTask) :
    '\x00' ∈ (receiveFile task).toList ↔ '\x00' ∈ task.fileName.toList := by
  rw [receiveFile, String.toList_append, List.mem_append]
  exact or_iff_right (by decide +kernel)

theorem confined_of_nul (h : '\x00' ∈ task.fileName.toList) : Confined task := by
  rw [Confined, opened, if_pos ((mem_receiveFile_iff task).mpr h)]
  intro path hpath
  cases hpath

theorem confined_iff (task : FileTask) :
    Confined task ↔ '\x00' ∈ task.fileName.toList ∨ StaysInside task.fileName := by
  by_cases hnul : '\x00' ∈ task.fileName.toList
  · exact iff_of_true (confined_of_nul hnul) (.inl hnul)
  · rw [Confined, opened, if_neg (fun h => hnul ((mem_receiveFile_iff task).mp h)), StaysInside,
      ← Library.Path.strictlyInside_applyTo, ← normalize_receiveFile, or_iff_right hnul]
    constructor
    · intro h
      exact h _ rfl
    · intro h path hpath
      exact Option.some.inj hpath ▸ h

example : StaysInside "图.png" ∧ ¬ StaysInside "" ∧ ¬ StaysInside "a/../../key" := by
  decide +kernel

theorem path_confined_iff (P : Platform) (onionName : String) (internalPayload : Bytes) :
    CellConfined P onionName internalPayload ↔
      ∀ announced, FileMessage.parseFileMetaMessage P onionName internalPayload = some announced →
        '\x00' ∈ announced.fileName.toList ∨ StaysInside announced.fileName := by
  constructor
  · intro h announced hparse
    exact (confined_iff announced).mp (h announced hparse announced announced.evolves_refl)
  · intro h announced hparse task hevolves
    rw [confined_iff, hevolves.fileName]
    exact h announced hparse

def announcing (fileName : String) : Bytes :=
  FileMessage.metaPayload demoPlatform fileName 3 (demoPlatform.sha1 [1, 2, 3])

theorem name_climbs_out : ¬ ∀ (P : Platform) (onionName : String) (internalPayload : Bytes),
    CellConfined P onionName internalPayload := by
  intro hall
  have hparse := FileMessage.parseFileMetaMessage_metaPayload demoPlatform "alice"
    (by decide +kernel : (getBytes "../shared_prefs/a.xml").length < 256) (by decide : 3 < 2 ^ 63)
    (demoPlatform.sha1_length [1, 2, 3])
  have hconfined := hall demoPlatform "alice" (announcing "../shared_prefs/a.xml") _ hparse _
    (FileTask.evolves_refl _)
  rw [confined_iff] at hconfined
  rcases hconfined with hnul | hinside
  · revert hnul
    decide +kernel
  · revert hinside
    decide +kernel

end PathConfinement

end TorChat
