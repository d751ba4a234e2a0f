import TorChat.Library.Resolution
import TorChat.Transfer.PathConfinement

namespace TorChat

open Library (Bytes Entry FileTree Link)
open Library.Path (Move StrictlyInside go segments)
open PathConfinement (Segment move)

namespace Play

inductive Content where
  | bytes (content : Bytes)
  | link (target : String)
  deriving DecidableEq

def linkOf : Content → Option (Link Segment)
  | .bytes _ => none
  | .link target => some ⟨target.toList.head? = some '/', PathConfinement.moves target⟩

def IsName (name : Segment) : Prop :=
  name ≠ [] ∧ name ≠ ['.'] ∧ name ≠ ['.', '.'] ∧ '/' ∉ name ∧ '\x00' ∉ name

instance (name : Segment) : Decidable (IsName name) := inferInstanceAs (Decidable (_ ∧ _))

structure Disk extends FileTree Segment Content where
  named : ∀ e ∈ entries, ∀ name ∈ e.1, IsName name

def Disk.erase (disk : Disk) (path : List Segment) : Option Disk :=
  match h : disk.toFileTree.erase path with
  | none => none
  | some tree =>
      some
        { tree with
          named := by
            rw [FileTree.erase_entries h]
            exact fun e he => disk.named e (List.mem_filter.mp he).1 }

def Disk.clear (disk : Disk) (folder : List Segment) : Disk where
  toFileTree := disk.toFileTree.clear folder
  named := fun e he => disk.named e (List.mem_filter.mp he).1

structure FileSystem where
  workingDirectory : List Segment
  maxLinks : Nat
  list : Disk → List Segment → Option (List Segment)
  deletes : Disk → List Segment → Bool

-- the normal form of a path string has no empty names
def moves (path : String) : List (Move Segment) :=
  ((segments '/' path.toList).filter (fun name => !name.isEmpty)).map move

theorem move_name {name : Segment} (hname : IsName name) : move name = .down name := by
  rw [move, if_neg (not_or.mpr ⟨hname.1, hname.2.1⟩), if_neg hname.2.2.1]

theorem moves_append (before after : List Char) :
    moves (String.ofList (before ++ '/' :: after)) =
      moves (String.ofList before) ++ moves (String.ofList after) := by
  rw [moves, String.toList_ofList, Library.Path.segments_append, List.filter_append, List.map_append,
    moves, moves, String.toList_ofList, String.toList_ofList]

theorem moves_name {name : Segment} (hname : IsName name) : moves (String.ofList name) = [.down name] := by
  have hkept : [name].filter (fun name => !name.isEmpty) = [name] :=
    List.filter_eq_self.mpr (by simpa using hname.1)
  rw [moves, String.toList_ofList, Library.Path.segments_of_notMem hname.2.2.2.1, hkept,
    List.map_singleton, move_name hname]

theorem moves_slash_name {name : Segment} (hname : IsName name) (path : String) :
    moves (path ++ "/" ++ String.ofList name) = moves path ++ [.down name] := by
  have htext : path ++ "/" ++ String.ofList name = String.ofList (path.toList ++ '/' :: name) := by
    rw [← String.toList_inj]
    simp
  rw [htext, moves_append, moves_name hname, String.ofList_toList]

theorem moves_trailing (path : String) : moves (path ++ "/") = moves path := by
  have htext : path ++ "/" = String.ofList (path.toList ++ '/' :: []) := by
    rw [← String.toList_inj]
    simp
  have hempty : moves (String.ofList []) = [] := rfl
  rw [htext, moves_append, hempty, List.append_nil, String.ofList_toList]

def IsPath (path : String) : Prop := path.toList ≠ [] ∧ '\x00' ∉ path.toList

instance (path : String) : Decidable (IsPath path) := inferInstanceAs (Decidable (_ ∧ _))

namespace FileSystem

variable (system : FileSystem)

def start (path : String) : List Segment :=
  if path.toList.head? = some '/' then [] else system.workingDirectory

def locate (disk : Disk) (path : String) : Option (List Segment) :=
  if IsPath path then
    (disk.descend linkOf system.maxLinks (system.start path) (moves path)).filter
      (fun position => (disk.node position).isSome)
  else none

-- the entry itself, also when it is a link; "." and ".." name none
def entryOf (disk : Disk) (path : String) : Option (List Segment) :=
  if IsPath path then
    match (moves path).getLast? with
    | some (.down name) =>
        (disk.descend linkOf system.maxLinks (system.start path) (moves path).dropLast).map
          (fun directory => directory ++ [name])
    | _ => none
  else none

def fileExists (disk : Disk) (path : String) : Bool := (system.locate disk path).isSome

def isFile (disk : Disk) (path : String) : Bool :=
  (system.locate disk path).any disk.isFile

def isDirectory (disk : Disk) (path : String) : Bool :=
  (system.locate disk path).any disk.isFolder

def listFile (disk : Disk) (path : String) : Option (List Segment) :=
  (system.locate disk path).bind (system.list disk)

def delete (disk : Disk) (path : String) : Disk :=
  match system.entryOf disk path with
  | none => disk
  | some position =>
      if system.deletes disk position then (disk.erase position).getD disk else disk

end FileSystem

namespace DelFolder

variable (system : FileSystem)

-- the disk that is left, and the flag unless there was an exception
abbrev Outcome := Disk × Option Bool

def temp (path : String) (name : Segment) : String :=
  if path.toList.getLast? = some '/' then path ++ String.ofList name
  else path ++ "/" ++ String.ofList name

-- the for loop of delAllFile; out of fuel there is no outcome
def delEach (delAllFile : String → Disk → Option Outcome) (delFolder : String → Disk → Option Disk)
    (path : String) : List Segment → Bool → Disk → Option Outcome
  | [], flag, disk => some (disk, some flag)
  | name :: tempList, flag, disk =>
      let temp := temp path name
      let disk := if system.isFile disk temp then system.delete disk temp else disk
      if system.isDirectory disk temp then
        match delAllFile (path ++ "/" ++ String.ofList name) disk with
        | none => none
        | some (disk, none) => some (disk, none)
        | some (disk, some _) =>
            match delFolder (path ++ "/" ++ String.ofList name) disk with
            | none => none
            | some disk => delEach delAllFile delFolder path tempList true disk
      else delEach delAllFile delFolder path tempList flag disk

def delFolderBy (delAllFile : String → Disk → Option Outcome) (folderPath : String) (disk : Disk) :
    Option Disk :=
  match delAllFile folderPath disk with
  | none => none
  | some (disk, none) => some disk
  | some (disk, some _) => some (system.delete disk folderPath)

def delAllFile : Nat → String → Disk → Option Outcome
  | 0, _, _ => none
  | fuel + 1, path, disk =>
      if !system.fileExists disk path then some (disk, some false)
      else if !system.isDirectory disk path then some (disk, some false)
      else
        match system.listFile disk path with
        | none => some (disk, none)
        | some tempList =>
            delEach system (delAllFile fuel) (delFolderBy system (delAllFile fuel)) path tempList
              false disk

def delFolder (fuel : Nat) : String → Disk → Option Disk :=
  delFolderBy system (delAllFile system fuel)

end DelFolder

end Play

end TorChat
