import TorChat.Play.DelFolder
import TorChat.Transfer.Chunking
import TorChat.Server.Handlers

namespace TorChat

open Library (Bytes Entry FileTree HashMap chunk chunk_length_le flatMap_chunk_eq_self
  le_chunkCount_mul)
open Library.Path (Move)
open Constant (filePieceSize)
open PathConfinement (Segment receiveDirectory receiveFile)
open Play (Content Disk IsName linkOf moves moves_slash_name)

namespace MergeOverOld

-- the files that may be opened for reading and writing, and where one may be created
structure Storage where
  maxLinks : Nat
  writes : List Segment → Bool
  creates : List Segment → Bool

namespace Storage

variable (storage : Storage)

-- the last name need not exist yet
def resolve (disk : Disk) (path : String) : Option (List Segment) :=
  if '\x00' ∈ path.toList then none
  else disk.descend linkOf storage.maxLinks [] (moves path)

-- what an entry holds once it is opened, or none where opening it throws
def openAt (disk : Disk) (position : List Segment) : Option Bytes :=
  match disk.node position with
  | some (.file (.bytes old)) => if storage.writes position then some old else none
  | some (.file (.link _)) => none
  | some .folder => none
  | none => if storage.creates position then some [] else none

def openTarget (disk : Disk) (path : String) : Option Bytes :=
  (storage.resolve disk path).bind (storage.openAt disk)

def emptied (disk : Disk) : Disk :=
  ((storage.resolve disk Constant.recieveFilePath).map disk.clear).getD disk

end Storage

variable (P : Platform) (storage : Storage) (keyFile content : Bytes)

def target (disk : Disk) (task : FileTask) : Option Bytes :=
  storage.openTarget disk (receiveFile task)

-- what is left in the target, and the path that is returned
def mergeOnDisk (disk : Disk) (task : FileTask) : Option Bytes × Option String :=
  task.mergeFile P keyFile (target storage disk task)

-- the pieces of the content are held and no others, and each opens to its chunk
structure Complete (task : FileTask) : Prop where
  held : ∀ i, (task.filePieceContentMap.get? i).isSome ↔ i < content.length ⌈/⌉ filePieceSize
  opens : ∀ i < content.length ⌈/⌉ filePieceSize,
    (task.filePieceContentMap.get? i).bind (JniEntryUtils.decry P keyFile) =
      some (chunk filePieceSize content i)
  hash : task.contentHash = P.sha1 content

def Succeeds (disk : Disk) (task : FileTask) : Prop :=
  (mergeOnDisk P storage keyFile disk task).2.isSome

structure Independent (disk : Disk) (task : FileTask) : Prop where
  succeeds : Succeeds P storage keyFile disk task ↔
    Succeeds P storage keyFile (storage.emptied disk) task
  sent : Succeeds P storage keyFile disk task →
    (mergeOnDisk P storage keyFile disk task).1 = some content

def Fits (opened : Option Bytes) : Prop := ∃ old ∈ opened, old.length ≤ content.length

-- it cannot be opened, or is longer and with its tail does not have the hash of the content
def Spoils (opened : Option Bytes) : Prop :=
  ∀ old ∈ opened, content.length < old.length ∧
    P.sha1 content ≠ P.sha1 (content ++ old.drop content.length)

instance (opened : Option Bytes) : Decidable (Fits content opened) :=
  inferInstanceAs (Decidable (∃ old ∈ opened, _))

instance (opened : Option Bytes) : Decidable (Spoils P content opened) :=
  inferInstanceAs (Decidable (∀ old ∈ opened, _))

variable {P} {storage} {keyFile content} {task : FileTask} {disk : Disk}

theorem complete_of_cutsInto {senderKey : Bytes}
    (hentry : FileTask.EntryInverts P senderKey keyFile)
    (hpieces : FileTask.CutsInto (JniEntryUtils.entry P senderKey) content
      task.filePieceContentMap)
    (hhash : task.contentHash = P.sha1 content) : Complete P keyFile content task where
  held i := by
    rw [hpieces i]
    split <;> simp_all
  opens i hi := by
    rw [hpieces i, if_pos hi, Option.bind_some]
    exact hentry _ (lt_of_le_of_lt (chunk_length_le _ _ _) (by decide))
  hash := hhash

section Merging

variable {opened : Option Bytes}

theorem overwrite_eq_self_iff (old written : Bytes) :
    FileTask.overwrite old written = written ↔ old.length ≤ written.length := by
  rw [FileTask.overwrite, List.append_right_eq_self, List.drop_eq_nil_iff]

theorem mergeFile_of_complete (h : Complete P keyFile content task) (old : Bytes) :
    task.mergeFile P keyFile (some old) = (some (FileTask.overwrite old content),
      if P.sha1 content = P.sha1 (FileTask.overwrite old content) then
        some (Constant.recieveFilePath ++ task.fileName) else none) := by
  have hsize : task.filePieceContentMap.size = content.length ⌈/⌉ filePieceSize :=
    HashMap.size_eq_of_initial h.held
  have hopens : ∀ i ∈ List.range (content.length ⌈/⌉ filePieceSize),
      (task.filePieceContentMap.get? i).bind (JniEntryUtils.decry P keyFile) =
        some (chunk filePieceSize content i) :=
    fun i hi => h.opens i (List.mem_range.mp hi)
  have hwrite := FileTask.writePieces_eq hopens
  rw [flatMap_chunk_eq_self (le_chunkCount_mul FileTask.filePieceSize_pos _)] at hwrite
  simp only [FileTask.mergeFile, hsize, hwrite, h.hash, Bool.true_and, decide_eq_true_eq]
  split <;> rfl

theorem mergeFile_fits (h : Complete P keyFile content task) (hfits : Fits content opened) :
    task.mergeFile P keyFile opened =
      (some content, some (Constant.recieveFilePath ++ task.fileName)) := by
  obtain ⟨old, rfl, hshort⟩ := hfits
  rw [mergeFile_of_complete h, (overwrite_eq_self_iff old content).mpr hshort, if_pos rfl]

theorem mergeFile_isSome_iff (h : Complete P keyFile content task) :
    (task.mergeFile P keyFile opened).2.isSome ↔ ¬ Spoils P content opened := by
  cases opened with
  | none => exact iff_of_false Bool.false_ne_true (fun hspoils => hspoils (by simp [Spoils]))
  | some old =>
    rw [mergeFile_of_complete h]
    by_cases hshort : old.length ≤ content.length
    · rw [(overwrite_eq_self_iff old content).mpr hshort, if_pos rfl]
      refine iff_of_true rfl (fun hspoils => ?_)
      have hlong := (hspoils old rfl).1
      omega
    · have hspoils : Spoils P content (some old) ↔
          P.sha1 content ≠ P.sha1 (FileTask.overwrite old content) := by
        simp only [Spoils, Option.mem_def, Option.some.injEq, forall_eq', FileTask.overwrite]
        exact and_iff_right (by omega)
      rw [hspoils, not_not]
      split <;> simp_all

theorem fits_of_target (h : Complete P keyFile content task)
    (hsent : (task.mergeFile P keyFile opened).1 = some content) : Fits content opened := by
  cases opened with
  | none => cases hsent
  | some old =>
    rw [mergeFile_of_complete h] at hsent
    exact ⟨old, rfl, (overwrite_eq_self_iff old content).mp (Option.some.inj hsent)⟩

theorem not_spoils_of_fits (hfits : Fits content opened) : ¬ Spoils P content opened := by
  obtain ⟨old, hold, hshort⟩ := hfits
  intro hspoils
  have hlong := (hspoils old hold).1
  omega

end Merging

section Emptying

variable {position : List Segment}

theorem node_emptied {entry : Entry Content}
    (h : (storage.emptied disk).node position = some entry) : disk.node position = some entry := by
  rw [Storage.emptied] at h
  cases hdirectory : storage.resolve disk Constant.recieveFilePath with
  | none => rwa [hdirectory] at h
  | some directory =>
    rw [hdirectory] at h
    have hnode := FileTree.node_clear disk.toFileTree directory position
    split at hnode
    · exact absurd (hnode.symm.trans h) (by simp)
    · exact hnode.symm.trans h

-- what is found in the emptied directory was already there, at the same place
theorem target_emptied (storage : Storage) (disk : Disk) (task : FileTask) :
    target storage (storage.emptied disk) task = none ∨
      target storage (storage.emptied disk) task = some [] ∨
        target storage (storage.emptied disk) task = target storage disk task := by
  rw [target, target, Storage.openTarget]
  cases hposition : storage.resolve (storage.emptied disk) (receiveFile task) with
  | none => exact .inl rfl
  | some position =>
    rw [Option.bind_some]
    cases hnode : (storage.emptied disk).node position with
    | none =>
      rw [Storage.openAt, hnode]
      dsimp only
      split
      · exact .inr (.inl rfl)
      · exact .inl rfl
    | some entry =>
      have hsame : storage.resolve disk (receiveFile task) = some position := by
        rw [Storage.resolve] at hposition ⊢
        split at hposition
        · cases hposition
        · rename_i hplain
          rw [if_neg hplain]
          refine FileTree.descend_mono (fun _ _ h => node_emptied h) hposition ?_
          rw [hnode]
          exact Option.some_ne_none _
      refine .inr (.inr ?_)
      rw [Storage.openTarget, hsame, Option.bind_some, Storage.openAt, Storage.openAt, hnode,
        node_emptied hnode]

end Emptying

section PlainNames

-- the flat receive directory of a device is the case of plain names in a real directory
def mergeInto (P : Platform) (keyFile : Bytes) (receiveFiles : HashMap String Bytes)
    (task : FileTask) : HashMap String Bytes × Option String :=
  let (merged, filePath) :=
    task.mergeFile P keyFile (some ((receiveFiles.get? task.fileName).getD []))
  (merged.elim receiveFiles (receiveFiles.put task.fileName), filePath)

theorem receiveFiles_receiveAllFileShards {d : Device} {statusItem : ConnectionStatusItem}
    {item : MessageItem Bytes} {messageID : Nat} (env : Env)
    (h : (task.fileTransferStatusMap.card : Int) = task.totalPieceNumber) :
    (d.receiveAllFileShards P env task statusItem item messageID).receiveFiles =
      (mergeInto P d.keys.keyFile d.receiveFiles task).1 := by
  rw [Device.receiveAllFileShards, if_pos h]
  dsimp only [mergeInto]
  split
  · rfl
  · split
    · rfl
    · split <;> rfl

theorem resolve_receiveDirectory (storage : Storage)
    (hfolder : disk.isFolder receiveDirectory = true) :
    storage.resolve disk Constant.recieveFilePath = some receiveDirectory := by
  have hmoves : moves Constant.recieveFilePath = receiveDirectory.map .down := by decide +kernel
  rw [Storage.resolve, if_neg (by decide +kernel), hmoves]
  exact FileTree.descend_down hfolder

theorem target_plain (hname : IsName task.fileName.toList)
    (hfolder : disk.isFolder receiveDirectory = true)
    (hlink : disk.linkAt linkOf (receiveDirectory ++ [task.fileName.toList]) = none) :
    target storage disk task =
      storage.openAt disk (receiveDirectory ++ [task.fileName.toList]) := by
  have htext : receiveFile task = "/data/data/com.ucas.chat/files/ReceiveFile" ++ "/" ++
      String.ofList task.fileName.toList := by
    rw [receiveFile, String.ofList_toList]
    rfl
  have hmoves : moves "/data/data/com.ucas.chat/files/ReceiveFile" =
      receiveDirectory.map .down := by decide +kernel
  have hplain : '\x00' ∉ (receiveFile task).toList := by
    rw [PathConfinement.mem_receiveFile_iff]
    exact hname.2.2.2.2
  have hdirectory : disk.descend linkOf storage.maxLinks [] (receiveDirectory.map .down) =
      some receiveDirectory := FileTree.descend_down hfolder
  have hreached : disk.descend linkOf storage.maxLinks []
      (receiveDirectory.map .down ++ [.down task.fileName.toList]) =
        some (receiveDirectory ++ [task.fileName.toList]) :=
    FileTree.descend_concat hdirectory hfolder hlink
  rw [target, Storage.openTarget, Storage.resolve, if_neg hplain, htext, moves_slash_name hname,
    hmoves, hreached, Option.bind_some]

theorem openAt_plain {receiveFiles : HashMap String Bytes} {position : List Segment}
    (hheld : disk.node position =
      (receiveFiles.get? task.fileName).map (fun old => .file (.bytes old)))
    (hwrites : storage.writes position = true) (hcreates : storage.creates position = true) :
    storage.openAt disk position = some ((receiveFiles.get? task.fileName).getD []) := by
  rw [Storage.openAt, hheld]
  cases receiveFiles.get? task.fileName with
  | none => exact if_pos hcreates
  | some old => exact if_pos hwrites

theorem mergeInto_plain {receiveFiles : HashMap String Bytes} {position : List Segment}
    (hname : IsName task.fileName.toList) (hfolder : disk.isFolder receiveDirectory = true)
    (hposition : position = receiveDirectory ++ [task.fileName.toList])
    (hheld : disk.node position =
      (receiveFiles.get? task.fileName).map (fun old => .file (.bytes old)))
    (hwrites : storage.writes position = true) (hcreates : storage.creates position = true) :
    mergeOnDisk P storage keyFile disk task =
      ((mergeInto P keyFile receiveFiles task).1.get? task.fileName,
        (mergeInto P keyFile receiveFiles task).2) := by
  have hlink : disk.linkAt linkOf position = none := by
    rw [FileTree.linkAt, hheld]
    cases receiveFiles.get? task.fileName <;> rfl
  have hopened := openAt_plain hheld hwrites hcreates
  subst hposition
  rw [mergeOnDisk, target_plain hname hfolder hlink, hopened, mergeInto]
  rw [FileTask.mergeFile]
  dsimp only
  split <;> simp only [Option.elim_some, HashMap.get?_put_self]

theorem target_emptied_plain (hname : IsName task.fileName.toList)
    (hfolder : disk.isFolder receiveDirectory = true)
    (hcreates : storage.creates (receiveDirectory ++ [task.fileName.toList]) = true) :
    target storage (storage.emptied disk) task = some [] := by
  have hempty : storage.emptied disk = disk.clear receiveDirectory := by
    rw [Storage.emptied, resolve_receiveDirectory storage hfolder]
    rfl
  have hstays := FileTree.node_clear disk.toFileTree receiveDirectory receiveDirectory
  rw [if_neg (fun hinside => hinside.2 rfl), FileTree.isFolder_iff.mp hfolder] at hstays
  have hgone := FileTree.node_clear disk.toFileTree receiveDirectory
    (receiveDirectory ++ [task.fileName.toList])
  rw [if_pos ⟨List.prefix_append _ _, by simp⟩] at hgone
  have hlink : (disk.clear receiveDirectory).linkAt linkOf
      (receiveDirectory ++ [task.fileName.toList]) = none := by
    rw [FileTree.linkAt, Disk.clear, hgone]
  rw [hempty, target_plain hname (FileTree.isFolder_iff.mpr hstays) hlink, Storage.openAt,
    Disk.clear, hgone]
  exact if_pos hcreates

end PlainNames

theorem merge_independent_iff (h : Complete P keyFile content task) :
    Independent P storage keyFile content disk task ↔
      (Fits content (target storage disk task) ∧
        Fits content (target storage (storage.emptied disk) task)) ∨
      (Spoils P content (target storage disk task) ∧
        Spoils P content (target storage (storage.emptied disk) task)) := by
  have hmerges (disk : Disk) : Succeeds P storage keyFile disk task ↔
      ¬ Spoils P content (target storage disk task) := mergeFile_isSome_iff h
  constructor
  · intro hindependent
    have hsame := hindependent.succeeds
    rw [hmerges, hmerges, not_iff_not] at hsame
    by_cases hspoils : Spoils P content (target storage disk task)
    · exact .inr ⟨hspoils, hsame.mp hspoils⟩
    · have hfits := fits_of_target h (hindependent.sent ((hmerges disk).mpr hspoils))
      refine .inl ⟨hfits, ?_⟩
      rcases target_emptied storage disk task with hnone | hfresh | hthere
      · refine absurd (hsame.mpr ?_) hspoils
        rw [hnone]
        exact fun _ hmem => absurd hmem (Option.not_mem_none _)
      · exact ⟨[], hfresh, Nat.zero_le _⟩
      · rwa [hthere]
  · rintro (⟨hhere, hthere⟩ | ⟨hhere, hthere⟩)
    · refine ⟨?_, fun _ => congrArg Prod.fst (mergeFile_fits h hhere)⟩
      rw [hmerges, hmerges]
      exact iff_of_true (not_spoils_of_fits hhere) (not_spoils_of_fits hthere)
    · refine ⟨?_, fun hsucceeds => absurd hhere ((hmerges disk).mp hsucceeds)⟩
      rw [hmerges, hmerges]
      exact iff_of_false (not_not.mpr hhere) (not_not.mpr hthere)

def copied : FileTask := .ofFile demoPlatform [0] "bob" "/sdcard/a.txt" [1, 2, 3] 1000

theorem copied_complete : Complete demoPlatform [0] [1, 2, 3] copied := by
  have hentry : FileTask.EntryInverts demoPlatform [0] [0] :=
    fun _ h => JniEntryUtils.decry_entry_demo [0] h
  refine complete_of_cutsInto hentry ?_ rfl
  change FileTask.CutsInto _ _ (FileTask.cutFile _ [1, 2, 3])
  rw [FileTask.cutFile_eq _ (by decide) (by decide)]
  exact FileTask.putChunks_cutsInto _

def phone : Storage := ⟨40, fun _ => true, fun _ => true⟩

def folders : List (List Segment × Entry Content) :=
  (List.range 6).map (fun n => (receiveDirectory.take n, .folder))

def holding (old : Bytes) : Disk where
  entries := (receiveDirectory ++ ["a.txt".toList], .file (.bytes old)) :: folders
  nodup := (by decide +kernel :
    ((receiveDirectory ++ ["a.txt".toList]) :: folders.map Prod.fst).Nodup)
  closed := by
    have hfolders : ∀ e ∈ folders, e.1 ≠ [] → (e.1.dropLast, Entry.folder) ∈ folders := by
      decide +kernel
    have hlast : (receiveDirectory, Entry.folder) ∈ folders := by decide +kernel
    intro e he hne
    rcases List.mem_cons.mp he with rfl | hfolder
    · rw [List.dropLast_concat]
      exact List.mem_cons_of_mem _ hlast
    · exact List.mem_cons_of_mem _ (hfolders e hfolder hne)
  named := by
    have hnames : ∀ name ∈ receiveDirectory ++ ["a.txt".toList], IsName name := by decide +kernel
    have hfolders : ∀ e ∈ folders, ∀ name ∈ e.1, IsName name := by decide +kernel
    intro e he
    rcases List.mem_cons.mp he with rfl | hfolder
    · exact hnames
    · exact hfolders e hfolder

theorem isFolder_holding (old : Bytes) : (holding old).isFolder receiveDirectory = true :=
  FileTree.isFolder_iff.mpr (FileTree.node_eq_some.mpr
    (List.mem_cons_of_mem _ (by decide +kernel)))

theorem fileName_copied : copied.fileName.toList = "a.txt".toList := by decide +kernel

theorem isName_copied : IsName copied.fileName.toList := by
  rw [fileName_copied]
  decide +kernel

theorem target_holding (old : Bytes) : target phone (holding old) copied = some old := by
  have hnode : (holding old).node (receiveDirectory ++ [copied.fileName.toList]) =
      some (.file (.bytes old)) := by
    rw [fileName_copied]
    exact FileTree.node_eq_some.mpr List.mem_cons_self
  have hlink : (holding old).linkAt linkOf (receiveDirectory ++ [copied.fileName.toList]) =
      none := by
    rw [FileTree.linkAt, hnode]
    rfl
  rw [target_plain isName_copied (isFolder_holding old) hlink, Storage.openAt, hnode]
  rfl

theorem target_emptied_holding (old : Bytes) :
    target phone (phone.emptied (holding old)) copied = some [] :=
  target_emptied_plain isName_copied (isFolder_holding old) rfl

theorem merge_independent_iff_shorter_file :
    Independent demoPlatform phone [0] [1, 2, 3] (holding [9, 9]) copied := by
  refine (merge_independent_iff copied_complete).mpr (.inl ⟨?_, ?_⟩)
  · rw [target_holding]
    decide
  · rw [target_emptied_holding]
    decide

theorem longer_file_spoils_merge :
    ¬ ∀ (P : Platform) (storage : Storage) (keyFile content : Bytes) (task : FileTask)
      (disk : Disk), Complete P keyFile content task →
        Independent P storage keyFile content disk task := by
  intro hall
  have hindependent := hall demoPlatform phone [0] [1, 2, 3] copied (holding [9, 9, 9, 9])
    copied_complete
  have hempty : Succeeds demoPlatform phone [0] (phone.emptied (holding [9, 9, 9, 9])) copied := by
    refine (mergeFile_isSome_iff copied_complete).mpr (not_spoils_of_fits ?_)
    rw [target_emptied_holding]
    decide
  have hsucceeds := hindependent.succeeds.mpr hempty
  have hfits := fits_of_target copied_complete (hindependent.sent hsucceeds)
  rw [target_holding] at hfits
  revert hfits
  decide

end MergeOverOld

end TorChat
