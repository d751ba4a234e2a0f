import TorChat.Server.FileEffects
import TorChat.Transfer.MergeOverOld

namespace TorChat

open Library (Bytes HashMap Machine)

namespace MergeCompletion

-- a FILE_DATA cell for one task, as dataMessageHandle hands it on: its connection has a key
structure Arrival (fileNameHash : Bytes) where
  env : Env := {}
  internalPayload : Bytes
  statusItem : ConnectionStatusItem
  item : MessageItem Bytes
  messageID : Nat
  keyed : statusItem.shareKey.isSome
  addressed : ∀ byteFileNameHash pieceID fileContent,
    FileMessage.parseFileDataMessage internalPayload =
      some (byteFileNameHash, pieceID, fileContent) → byteFileNameHash = fileNameHash

structure Reception where
  device : Device
  merges : List FileTask := []

section Machine

variable (P : Platform) {fileNameHash : Bytes}

def handle (d : Device) (cell : Arrival fileNameHash) : Device :=
  d.receiveFileShards P cell.env cell.internalPayload cell.statusItem cell.item cell.messageID

-- a cell whose pointers cannot be read, or whose id is 2^31 or more, throws before it is stored
def piece (cell : Arrival fileNameHash) : Option (Nat × Bytes) := do
  let _ ← Message.parseStartXORFileName cell.item.data
  let _ ← Message.parseStartXORIndex cell.item.data
  let _ ← Message.parseEndXORFileName cell.item.data
  let _ ← Message.parseEndXORIndex cell.item.data
  let (_, pieceID, fileContent) ← FileMessage.parseFileDataMessage cell.internalPayload
  return (pieceID, fileContent)

def pieceIDs (cells : List (Arrival fileNameHash)) : List Nat :=
  cells.filterMap (fun cell => (piece cell).map Prod.fst)

def receive (pieceID : Nat) (fileContent : Bytes) (t : FileTask) : FileTask :=
  (t.recievePieceData pieceID fileContent).setStatus .transferrring

def taken (d : Device) (cell : Arrival fileNameHash) : Option (FileTask × Nat × Bytes) := do
  let (pieceID, fileContent) ← piece cell
  let found ← d.getFileTaskByFileNameHash fileNameHash
  return (found, pieceID, fileContent)

def mergeCall (d : Device) (cell : Arrival fileNameHash) : Option FileTask := do
  let (found, pieceID, fileContent) ← taken d cell
  let task := receive pieceID fileContent found
  if (task.fileTransferStatusMap.card : Int) = task.totalPieceNumber then some task else none

def step (s : Reception) (cell : Arrival fileNameHash) : Reception :=
  { device := handle P s.device cell
    merges := s.merges ++ (mergeCall s.device cell).toList }

def machine : Machine Reception (Arrival fileNameHash) := ⟨step P⟩

def mergesOf (fileName : String) (s : Reception) : List FileTask :=
  s.merges.filter (fun merged => merged.fileName = fileName)

structure Awaited (d : Device) (task : FileTask) : Prop where
  keyed : d.files.Keyed
  found : d.getFileTaskByFileNameHash task.fileNameHash = some task
  fresh : ∃ onionName fileName fileSize contentHash,
    task = (FileTask.ofMeta P onionName fileName fileSize contentHash).setStatus .stop

structure Whole (totalPieceNumber : Int) (merged : FileTask) : Prop where
  held : ∀ i : Nat, (i : Int) < totalPieceNumber → (merged.filePieceContentMap.get? i).isSome
  present : ∀ i < merged.filePieceContentMap.size, (merged.filePieceContentMap.get? i).isSome
  within : ∀ i < merged.filePieceContentMap.size, (i : Int) < totalPieceNumber

structure MergesWhenComplete (d : Device) (task : FileTask)
    (cells : List (Arrival task.fileNameHash)) : Prop where
  called : ∀ seen, seen <+: cells →
    ∀ merged ∈ mergesOf task.fileName ((machine P).run { device := d } seen),
      Whole task.totalPieceNumber merged
  complete : ∀ seen, seen <+: cells →
    (∀ i : Nat, (i : Int) < task.totalPieceNumber → i ∈ pieceIDs seen) →
      mergesOf task.fileName ((machine P).run { device := d } seen) ≠ []

end Machine

section Handler

variable {P : Platform} {fileNameHash : Bytes} {d : Device} {cell : Arrival fileNameHash}

theorem piece_read {pieceID : Nat} {fileContent : Bytes}
    (h : piece cell = some (pieceID, fileContent)) :
    (∃ keys, d.keys.getRecordXOR cell.item.data cell.messageID = some keys) ∧
      FileMessage.parseFileDataMessage cell.internalPayload =
        some (fileNameHash, pieceID, fileContent) := by
  simp only [piece, Option.bind_eq_bind, Option.bind_eq_some_iff, Option.pure_def,
    Option.some.injEq] at h
  obtain ⟨startName, hstartName, startIndex, hstartIndex, endName, hendName, endIndex, hendIndex,
    ⟨byteFileNameHash, _, _⟩, hparse, heq⟩ := h
  obtain ⟨rfl, rfl⟩ := Prod.mk.inj heq
  refine ⟨?_, cell.addressed _ _ _ hparse ▸ hparse⟩
  rw [KeyState.getRecordXOR, hstartName, hstartIndex, hendName, hendIndex]
  exact ⟨_, rfl⟩

theorem piece_of_read {keys : KeyState} {byteFileNameHash fileContent : Bytes} {pieceID : Nat}
    (hkeys : d.keys.getRecordXOR cell.item.data cell.messageID = some keys)
    (hparse : FileMessage.parseFileDataMessage cell.internalPayload =
      some (byteFileNameHash, pieceID, fileContent)) : piece cell = some (pieceID, fileContent) := by
  simp only [KeyState.getRecordXOR, Option.bind_eq_bind, Option.bind_eq_some_iff,
    Option.pure_def] at hkeys
  obtain ⟨startName, hstartName, startIndex, hstartIndex, endName, hendName, endIndex, hendIndex,
    -⟩ := hkeys
  simp only [piece, hstartName, hstartIndex, hendName, hendIndex, hparse, Option.bind_eq_bind,
    Option.bind_some, Option.pure_def]

-- what follows the storing of a piece: the task is stopped or, once it is complete, removed
inductive Aftermath (task : FileTask) : FileOp → Prop where
  | stop : Aftermath task (.mark task.fileName .stop)
  | remove (h : (task.fileTransferStatusMap.card : Int) = task.totalPieceNumber) :
      Aftermath task (.remove task.fileName)

abbrev Follows (task : FileTask) : FileState → FileState → Prop :=
  fileMachine.Reaches (fun _ op => Aftermath task op)

theorem receiveAllFileShards_follows (d : Device) (env : Env) (task : FileTask)
    (statusItem : ConnectionStatusItem) (item : MessageItem Bytes) (messageID : Nat) :
    Follows task d.files (d.receiveAllFileShards P env task statusItem item messageID).files := by
  rw [Device.receiveAllFileShards]
  split
  · rename_i hcount
    dsimp only
    split
    · exact Machine.reaches_refl _
    · split
      · exact Machine.reaches_refl _
      · split
        · exact FileState.reaches_op (.remove task.fileName) (.remove hcount)
        · exact FileState.reaches_op (.mark task.fileName .stop) .stop
  · exact Machine.reaches_refl _

theorem handle_of_untaken (h : taken d cell = none) :
    ∃ keys, handle P d cell = d.setKeys keys := by
  rw [handle, Device.receiveFileShards]
  split
  · exact ⟨d.keys, rfl⟩
  · rename_i keys hkeys
    dsimp only
    split
    · exact ⟨keys, rfl⟩
    · rename_i byteFileNameHash pieceID fileContent hparse
      have habsent : (d.setKeys keys).getFileTaskByFileNameHash byteFileNameHash = none := by
        rw [cell.addressed _ _ _ hparse]
        cases hfound : d.getFileTaskByFileNameHash fileNameHash with
        | none => exact hfound
        | some found =>
          rw [taken, piece_of_read hkeys hparse, hfound] at h
          cases h
      rw [habsent]
      exact ⟨keys, rfl⟩

theorem writeBack_keyFile {keys keys' : KeyState} (h : keys'.keyFile = keys.keyFile) :
    keys'.writeBack.keyFile = keys.writeBack.keyFile := by
  simp only [KeyState.writeBack, KeyState.write, KeyState.keyIndex, h]

theorem handle_of_taken {pieceID : Nat} {fileContent : Bytes} {found : FileTask}
    (h : taken d cell = some (found, pieceID, fileContent)) :
    ∃ acked : Device,
      handle P d cell = acked.receiveAllFileShards P cell.env (receive pieceID fileContent found)
        cell.statusItem cell.item cell.messageID ∧
      Follows (receive pieceID fileContent found)
        (d.files.modify found.fileName (receive pieceID fileContent)) acked.files ∧
      acked.receiveFiles = d.receiveFiles ∧
      acked.keys.keyFile = d.keys.writeBack.keyFile := by
  simp only [taken, Option.bind_eq_bind, Option.bind_eq_some_iff, Option.pure_def,
    Option.some.injEq, Prod.mk.injEq] at h
  obtain ⟨⟨_, _⟩, hpiece, held, hfound, rfl, rfl, rfl⟩ := h
  obtain ⟨⟨keys, hkeys⟩, hparse⟩ := piece_read (d := d) hpiece
  have hfound' : (d.setKeys keys).getFileTaskByFileNameHash fileNameHash = some held := hfound
  have hfile := KeyState.getRecordXOR_keyFile hkeys
  obtain ⟨sharedKey, hkey⟩ := Option.isSome_iff_exists.mp cell.keyed
  rw [handle, Device.receiveFileShards, hkeys]
  dsimp only
  rw [hparse]
  dsimp only
  rw [hfound']
  dsimp only
  split
  · rename_i hack
    rw [hkey] at hack
    cases hack
  · refine ⟨_, rfl, ?_, ?_, ?_⟩
    · split
      · rw [Device.files_transmit, Device.files_setKeys, Device.files_notify_if]
        exact Machine.reaches_refl _
      · rw [Device.files_deleteConnection, Device.files_modifyTask, Device.files_setKeys,
          Device.files_notify_if]
        exact FileState.reaches_op (.mark held.fileName .stop) .stop
    · split <;> split <;> rfl
    · split <;> split <;> exact writeBack_keyFile hfile

theorem mergeCall_of_taken {pieceID : Nat} {fileContent : Bytes} {found : FileTask}
    (h : taken d cell = some (found, pieceID, fileContent)) :
    mergeCall d cell =
      if ((receive pieceID fileContent found).fileTransferStatusMap.card : Int) =
        found.totalPieceNumber then some (receive pieceID fileContent found) else none := by
  rw [mergeCall, h]
  rfl

theorem receiveFiles_of_incomplete {env : Env} {task : FileTask}
    {statusItem : ConnectionStatusItem} {item : MessageItem Bytes} {messageID : Nat}
    (h : ¬ (task.fileTransferStatusMap.card : Int) = task.totalPieceNumber) :
    (d.receiveAllFileShards P env task statusItem item messageID).receiveFiles =
      d.receiveFiles := by
  rw [Device.receiveAllFileShards, if_neg h]

-- the handler calls mergeFile exactly where mergeCall says and on the task it names
theorem receiveFiles_handle (d : Device) (cell : Arrival fileNameHash) :
    (handle P d cell).receiveFiles =
      match mergeCall d cell with
      | none => d.receiveFiles
      | some merged =>
          (MergeOverOld.mergeInto P d.keys.writeBack.keyFile d.receiveFiles merged).1 := by
  cases htaken : taken d cell with
  | none =>
    obtain ⟨keys, hhandle⟩ := handle_of_untaken (P := P) htaken
    rw [hhandle, mergeCall, htaken]
    rfl
  | some piece =>
    obtain ⟨found, pieceID, fileContent⟩ := piece
    obtain ⟨acked, hhandle, -, hfiles, hkeys⟩ := handle_of_taken (P := P) htaken
    rw [hhandle, mergeCall_of_taken htaken]
    by_cases hcount : ((receive pieceID fileContent found).fileTransferStatusMap.card : Int) =
        found.totalPieceNumber
    · rw [if_pos hcount, MergeOverOld.receiveFiles_receiveAllFileShards cell.env hcount, hfiles,
        hkeys]
    · rw [if_neg hcount, receiveFiles_of_incomplete hcount, hfiles]

end Handler

section Files

def find (s : FileState) (fileNameHash : Bytes) : Option FileTask :=
  s.senderFileMap.values.find? (fun task => task.fileNameHash = fileNameHash)

theorem find_modify (s : FileState) (fileName : String) {f : FileTask → FileTask}
    (hf : ∀ t, (f t).fileNameHash = t.fileNameHash) (fileNameHash : Bytes) :
    find (s.modify fileName f) fileNameHash =
      (find s fileNameHash).map (fun t => if t.fileName = fileName then f t else t) := by
  rw [find, FileState.modify, HashMap.values_map, List.find?_map, find]
  congr 2
  funext t
  simp only [Function.comp_apply]
  split
  · rw [hf]
  · rfl

-- what the listed task has taken in once pieces with the given ids have been stored
structure Holds (task : FileTask) (ids : List Nat) (t : FileTask) : Prop where
  fileName : t.fileName = task.fileName
  fileNameHash : t.fileNameHash = task.fileNameHash
  totalPieceNumber : t.totalPieceNumber = task.totalPieceNumber
  fileTransferStatusMap : t.fileTransferStatusMap = ids.toFinset
  filePieceContentMap : ∀ i, (t.filePieceContentMap.get? i).isSome ↔ i ∈ ids

variable {task t : FileTask} {ids : List Nat}

theorem holds_setStatus (h : Holds task ids t) (status : TaskStatus) :
    Holds task ids (t.setStatus status) :=
  ⟨h.fileName, h.fileNameHash, h.totalPieceNumber, h.fileTransferStatusMap, h.filePieceContentMap⟩

theorem holds_receive (h : Holds task ids t) (pieceID : Nat) (fileContent : Bytes) :
    Holds task (ids ++ [pieceID]) (receive pieceID fileContent t) where
  fileName := h.fileName
  fileNameHash := h.fileNameHash
  totalPieceNumber := h.totalPieceNumber
  fileTransferStatusMap := by
    change insert pieceID t.fileTransferStatusMap = _
    rw [h.fileTransferStatusMap]
    ext i
    simp
  filePieceContentMap i := by
    change ((t.filePieceContentMap.put pieceID fileContent).get? i).isSome ↔ _
    rw [HashMap.get?_put]
    split
    · simp_all
    · rename_i hne
      rw [h.filePieceContentMap, List.mem_append, List.mem_singleton, or_iff_left hne]

structure Listed (task : FileTask) (ids : List Nat) (s : FileState) : Prop where
  keyed : s.Keyed
  listed : ∃ t, find s task.fileNameHash = some t ∧ Holds task ids t

structure Unlisted (task : FileTask) (s : FileState) : Prop where
  keyed : s.Keyed
  unlisted : s.senderFileMap.get? task.fileName = none

theorem listed_modify {s : FileState} (h : Listed task ids s) {ids' : List Nat}
    {f : FileTask → FileTask} (hname : ∀ t, (f t).fileName = t.fileName)
    (hhash : ∀ t, (f t).fileNameHash = t.fileNameHash)
    (hf : ∀ t, Holds task ids t → Holds task ids' (f t)) :
    Listed task ids' (s.modify task.fileName f) := by
  obtain ⟨t, hfind, hholds⟩ := h.listed
  refine ⟨FileState.keyed_modify h.keyed hname, f t, ?_, hf t hholds⟩
  rw [find_modify s task.fileName hhash, hfind, Option.map_some, if_pos hholds.fileName]

theorem unlisted_modify {s : FileState} (h : Unlisted task s) {fileName : String}
    {f : FileTask → FileTask} (hname : ∀ t, (f t).fileName = t.fileName) :
    Unlisted task (s.modify fileName f) := by
  refine ⟨FileState.keyed_modify h.keyed hname, ?_⟩
  rw [FileState.modify, HashMap.get?_map, h.unlisted, Option.map_none]

theorem unlisted_remove {s : FileState} (hk : s.Keyed) (fileName : String)
    (h : fileName = task.fileName ∨ s.senderFileMap.get? task.fileName = none) :
    Unlisted task (s.step (.remove fileName)) := by
  refine ⟨FileState.keyed_step s (.remove fileName) hk, ?_⟩
  rw [FileState.step, HashMap.get?_remove]
  split
  · rfl
  · rename_i hne
    exact h.resolve_left (fun heq => hne heq.symm)

theorem unlisted_follows {s s' : FileState} {merged : FileTask} (h : Follows merged s s')
    (hs : Unlisted task s) : Unlisted task s' := by
  refine Machine.reaches_invariant (I := fun s => Unlisted task s) ?_ h hs
  intro s op hs hop
  cases hop with
  | stop => exact unlisted_modify hs (fun _ => rfl)
  | remove _ => exact unlisted_remove hs.keyed merged.fileName (.inr hs.unlisted)

theorem listed_follows {s s' : FileState} {merged : FileTask} (h : Follows merged s s')
    (hname : merged.fileName = task.fileName) (hs : Listed task ids s) :
    Listed task ids s' ∨ Unlisted task s' ∧
      (merged.fileTransferStatusMap.card : Int) = merged.totalPieceNumber := by
  refine Machine.reaches_invariant (I := fun s => Listed task ids s ∨ Unlisted task s ∧
    (merged.fileTransferStatusMap.card : Int) = merged.totalPieceNumber) ?_ h (.inl hs)
  intro s op hs hop
  rcases hs with hs | ⟨hs, hcount⟩
  · cases hop with
    | stop =>
      rw [hname]
      exact .inl (listed_modify hs (fun _ => rfl) (fun _ => rfl)
        (fun t ht => holds_setStatus ht .stop))
    | remove hcount => exact .inr ⟨unlisted_remove hs.keyed merged.fileName (.inl hname), hcount⟩
  · exact .inr ⟨unlisted_follows (Machine.reaches_step hop) hs, hcount⟩

end Files

section Run

variable {P : Platform} {d : Device} {task : FileTask}

theorem pieceIDs_append (seen : List (Arrival task.fileNameHash))
    (cell : Arrival task.fileNameHash) :
    pieceIDs (seen ++ [cell]) = pieceIDs seen ++ ((piece cell).map Prod.fst).toList := by
  rw [pieceIDs, List.filterMap_append, pieceIDs]
  cases h : (piece cell).map Prod.fst <;> simp [h]

structure Tracked (task : FileTask) (seen : List (Arrival task.fileNameHash)) (s : Reception) :
    Prop where
  listed : Listed task (pieceIDs seen) s.device.files ∨
    Unlisted task s.device.files ∧ mergesOf task.fileName s ≠ []
  merged : ∀ t ∈ mergesOf task.fileName s, ∃ old, old <+: seen ∧ Holds task (pieceIDs old) t ∧
    ((pieceIDs old).toFinset.card : Int) = task.totalPieceNumber
  reached : 0 < task.totalPieceNumber →
    task.totalPieceNumber ≤ ((pieceIDs seen).toFinset.card : Int) → mergesOf task.fileName s ≠ []

theorem tracked_init (h : Awaited P d task) : Tracked task [] { device := d } := by
  obtain ⟨onionName, fileName, fileSize, contentHash, rfl⟩ := h.fresh
  refine ⟨.inl ⟨h.keyed, _, h.found, ⟨rfl, rfl, rfl, rfl, ?_⟩⟩, ?_, ?_⟩
  · intro i
    exact ⟨fun hi => absurd hi Bool.false_ne_true, fun hi => absurd hi List.not_mem_nil⟩
  · intro t ht
    exact absurd ht List.not_mem_nil
  · intro hpos hle
    exact absurd (lt_of_lt_of_le hpos hle) (lt_irrefl 0)

theorem mergesOf_step (s : Reception) (cell : Arrival task.fileNameHash) :
    mergesOf task.fileName (step P s cell) = mergesOf task.fileName s ++
      (mergeCall s.device cell).toList.filter (fun merged => merged.fileName = task.fileName) :=
  List.filter_append _ _

theorem mergesOf_ne_nil {s : Reception} (h : mergesOf task.fileName s ≠ [])
    (cell : Arrival task.fileNameHash) : mergesOf task.fileName (step P s cell) ≠ [] := by
  rw [mergesOf_step]
  exact List.append_ne_nil_of_left_ne_nil h _

theorem handle_follows {s : Device} {cell : Arrival task.fileNameHash} {pieceID : Nat}
    {fileContent : Bytes} {found : FileTask}
    (h : taken s cell = some (found, pieceID, fileContent)) :
    Follows (receive pieceID fileContent found)
      (s.files.modify found.fileName (receive pieceID fileContent)) (handle P s cell).files := by
  obtain ⟨acked, hhandle, hfollows, -, -⟩ := handle_of_taken (P := P) h
  rw [hhandle]
  exact Machine.reaches_trans hfollows (receiveAllFileShards_follows _ _ _ _ _ _)

theorem found_of_taken {s : Device} {cell : Arrival task.fileNameHash} {pieceID : Nat}
    {fileContent : Bytes} {found : FileTask}
    (h : taken s cell = some (found, pieceID, fileContent)) :
    piece cell = some (pieceID, fileContent) ∧
      s.getFileTaskByFileNameHash task.fileNameHash = some found := by
  simp only [taken, Option.bind_eq_bind, Option.bind_eq_some_iff, Option.pure_def,
    Option.some.injEq, Prod.mk.injEq] at h
  obtain ⟨⟨_, _⟩, hpiece, held, hfound, rfl, rfl, rfl⟩ := h
  exact ⟨hpiece, hfound⟩

theorem merged_append {seen : List (Arrival task.fileNameHash)} {s : Reception} {t : FileTask}
    (h : Tracked task seen s) (ht : t ∈ mergesOf task.fileName s)
    (cell : Arrival task.fileNameHash) : ∃ old, old <+: seen ++ [cell] ∧
      Holds task (pieceIDs old) t ∧
        ((pieceIDs old).toFinset.card : Int) = task.totalPieceNumber := by
  obtain ⟨old, habove, hholds, hcount⟩ := h.merged t ht
  exact ⟨old, habove.trans (List.prefix_append seen [cell]), hholds, hcount⟩

-- once the task has been removed no call for it follows, and one has been made
theorem tracked_step_unlisted {seen : List (Arrival task.fileNameHash)} {s : Reception}
    (h : Tracked task seen s) (hs : Unlisted task s.device.files)
    (hmerged : mergesOf task.fileName s ≠ []) (cell : Arrival task.fileNameHash) :
    Tracked task (seen ++ [cell]) (step P s cell) := by
  have hcalled := mergesOf_ne_nil (P := P) hmerged cell
  suffices hnext : Unlisted task (handle P s.device cell).files ∧
      mergesOf task.fileName (step P s cell) = mergesOf task.fileName s by
    refine ⟨.inr ⟨hnext.1, hcalled⟩, ?_, fun _ _ => hcalled⟩
    intro t ht
    exact merged_append h (hnext.2 ▸ ht) cell
  rw [mergesOf_step]
  cases htaken : taken s.device cell with
  | none =>
    obtain ⟨keys, hhandle⟩ := handle_of_untaken (P := P) htaken
    refine ⟨?_, ?_⟩
    · rw [hhandle]
      exact hs
    · rw [mergeCall, htaken]
      exact List.append_nil _
  | some stored =>
    obtain ⟨found, pieceID, fileContent⟩ := stored
    refine ⟨unlisted_follows (handle_follows htaken) (unlisted_modify hs (fun _ => rfl)), ?_⟩
    have hfound := Device.found_get? hs.keyed (found_of_taken htaken).2
    have hother : found.fileName ≠ task.fileName := by
      intro hname
      rw [hname] at hfound
      rw [show s.device.senderFileMap.get? task.fileName = none from hs.unlisted] at hfound
      cases hfound
    have hname : (receive pieceID fileContent found).fileName ≠ task.fileName := hother
    rw [mergeCall_of_taken htaken]
    split
    · simp only [Option.toList_some, List.filter_cons, hname, decide_false, Bool.false_eq_true,
        if_false, List.filter_nil, List.append_nil]
    · exact List.append_nil _

theorem mergesOf_step_listed {s : Reception} {cell : Arrival task.fileNameHash} {pieceID : Nat}
    {fileContent : Bytes} {found : FileTask} {ids : List Nat}
    (h : taken s.device cell = some (found, pieceID, fileContent)) (hholds : Holds task ids found) :
    mergesOf task.fileName (step P s cell) = mergesOf task.fileName s ++
      if ((ids ++ [pieceID]).toFinset.card : Int) = task.totalPieceNumber then
        [receive pieceID fileContent found] else [] := by
  have hname : (receive pieceID fileContent found).fileName = task.fileName := hholds.fileName
  have hcard := (holds_receive hholds pieceID fileContent).fileTransferStatusMap
  rw [mergesOf_step, mergeCall_of_taken h, hcard, hholds.totalPieceNumber]
  split
  · simp only [Option.toList_some, List.filter_cons, hname, decide_true, if_true, List.filter_nil]
  · rfl

theorem card_append_singleton_le (ids : List Nat) (i : Nat) :
    (ids ++ [i]).toFinset.card ≤ ids.toFinset.card + 1 := by
  have hinsert : (ids ++ [i]).toFinset = insert i ids.toFinset := by
    ext j
    simp
  rw [hinsert]
  exact Finset.card_insert_le i ids.toFinset

theorem tracked_step_unchanged {seen : List (Arrival task.fileNameHash)} {s : Reception}
    (h : Tracked task seen s) (hs : Listed task (pieceIDs seen) s.device.files)
    {cell : Arrival task.fileNameHash} (htaken : taken s.device cell = none) :
    Tracked task (seen ++ [cell]) (step P s cell) := by
  obtain ⟨t, hfind, -⟩ := hs.listed
  obtain ⟨keys, hhandle⟩ := handle_of_untaken (P := P) htaken
  have hfound : s.device.getFileTaskByFileNameHash task.fileNameHash = some t := hfind
  have hids : pieceIDs (seen ++ [cell]) = pieceIDs seen := by
    rw [pieceIDs_append]
    cases hpiece : piece cell with
    | none => exact List.append_nil _
    | some read =>
      rw [taken, hpiece, hfound] at htaken
      cases htaken
  have hmerges : mergesOf task.fileName (step P s cell) = mergesOf task.fileName s := by
    rw [mergesOf_step, mergeCall, htaken]
    exact List.append_nil _
  refine ⟨.inl ?_, ?_, ?_⟩
  · rw [hids, step, hhandle]
    exact hs
  · intro merged hmerged
    exact merged_append h (hmerges ▸ hmerged) cell
  · rw [hids, hmerges]
    exact h.reached

theorem tracked_step_stored {seen : List (Arrival task.fileNameHash)} {s : Reception}
    (h : Tracked task seen s) (hs : Listed task (pieceIDs seen) s.device.files)
    {cell : Arrival task.fileNameHash} {pieceID : Nat} {fileContent : Bytes} {found : FileTask}
    (htaken : taken s.device cell = some (found, pieceID, fileContent)) :
    Tracked task (seen ++ [cell]) (step P s cell) := by
  obtain ⟨hpiece, hfound⟩ := found_of_taken htaken
  obtain ⟨t, hfind, hholds⟩ := hs.listed
  obtain rfl : found = t := Option.some.inj (hfound.symm.trans hfind)
  have hids : pieceIDs (seen ++ [cell]) = pieceIDs seen ++ [pieceID] := by
    rw [pieceIDs_append, hpiece]
    rfl
  have hreceived := holds_receive hholds pieceID fileContent
  have hmerges := mergesOf_step_listed (P := P) htaken hholds
  have hlisted : Listed task (pieceIDs seen ++ [pieceID])
      (s.device.files.modify found.fileName (receive pieceID fileContent)) := by
    rw [hholds.fileName]
    exact listed_modify hs (fun _ => rfl) (fun _ => rfl)
      (fun t ht => holds_receive ht pieceID fileContent)
  refine ⟨?_, ?_, ?_⟩
  · rw [hids]
    rcases listed_follows (handle_follows (P := P) htaken) hholds.fileName hlisted with
      hnext | ⟨hnext, hcount⟩
    · exact .inl hnext
    · rw [hreceived.fileTransferStatusMap, hreceived.totalPieceNumber] at hcount
      rw [hmerges, if_pos hcount]
      exact .inr ⟨hnext, List.append_ne_nil_of_right_ne_nil _ (List.cons_ne_nil _ _)⟩
  · intro merged hmerged
    rw [hmerges] at hmerged
    rcases List.mem_append.mp hmerged with hold | hnew
    · exact merged_append h hold cell
    · split at hnew
      · rename_i hcount
        obtain rfl := List.mem_singleton.mp hnew
        refine ⟨seen ++ [cell], List.prefix_refl _, ?_, ?_⟩
        · rw [hids]
          exact hreceived
        · rw [hids]
          exact hcount
      · exact absurd hnew List.not_mem_nil
  · intro hpos hle
    rw [hids] at hle
    by_cases hbefore : task.totalPieceNumber ≤ ((pieceIDs seen).toFinset.card : Int)
    · exact mergesOf_ne_nil (h.reached hpos hbefore) cell
    · have hstep := card_append_singleton_le (pieceIDs seen) pieceID
      have hcount : (((pieceIDs seen ++ [pieceID]).toFinset.card : Nat) : Int) =
          task.totalPieceNumber := by omega
      rw [hmerges, if_pos hcount]
      exact List.append_ne_nil_of_right_ne_nil _ (List.cons_ne_nil _ _)

theorem tracked_step {seen : List (Arrival task.fileNameHash)} {s : Reception}
    (h : Tracked task seen s) (cell : Arrival task.fileNameHash) :
    Tracked task (seen ++ [cell]) (step P s cell) := by
  rcases h.listed with hs | ⟨hs, hmerged⟩
  · cases htaken : taken s.device cell with
    | none => exact tracked_step_unchanged h hs htaken
    | some stored => exact tracked_step_stored h hs htaken
  · exact tracked_step_unlisted h hs hmerged cell

theorem tracked_run (h : Awaited P d task) (seen : List (Arrival task.fileNameHash)) :
    Tracked task seen ((machine P).run { device := d } seen) := by
  induction seen using List.reverseRecOn with
  | nil => exact tracked_init h
  | append_singleton seen cell ih =>
    rw [Machine.run_append]
    exact tracked_step ih cell

theorem whole_iff {ids : List Nat} {merged : FileTask} (h : Holds task ids merged) {n : Int}
    (hcount : (ids.toFinset.card : Int) = n) : Whole n merged ↔ ∀ i ∈ ids, (i : Int) < n := by
  obtain rfl := hcount
  have hsize : merged.filePieceContentMap.size = ids.toFinset.card :=
    HashMap.size_eq_card (fun i => (h.filePieceContentMap i).trans List.mem_toFinset.symm)
  constructor
  · intro hwhole i hi
    have hall : Finset.range ids.toFinset.card ⊆ ids.toFinset := by
      intro j hj
      rw [List.mem_toFinset, ← h.filePieceContentMap]
      exact hwhole.held j (by exact_mod_cast Finset.mem_range.mp hj)
    have heq := Finset.eq_of_subset_of_card_le hall (by rw [Finset.card_range])
    have hmem : i ∈ Finset.range ids.toFinset.card := by
      rw [heq]
      exact List.mem_toFinset.mpr hi
    exact_mod_cast Finset.mem_range.mp hmem
  · intro hlt
    have hall : ids.toFinset ⊆ Finset.range ids.toFinset.card := by
      intro j hj
      exact Finset.mem_range.mpr (by exact_mod_cast hlt j (List.mem_toFinset.mp hj))
    have heq := Finset.eq_of_subset_of_card_le hall (by rw [Finset.card_range])
    have hheld : ∀ i < ids.toFinset.card, (merged.filePieceContentMap.get? i).isSome := by
      intro i hi
      rw [h.filePieceContentMap, ← List.mem_toFinset, heq]
      exact Finset.mem_range.mpr hi
    refine ⟨fun i hi => hheld i (by exact_mod_cast hi), ?_, ?_⟩
    · rw [hsize]
      exact hheld
    · rw [hsize]
      exact fun i hi => by exact_mod_cast hi

theorem pieceIDs_subset {old seen : List (Arrival task.fileNameHash)} (h : old <+: seen) :
    (pieceIDs old).toFinset ⊆ (pieceIDs seen).toFinset := by
  obtain ⟨rest, rfl⟩ := h
  rw [pieceIDs, pieceIDs, List.filterMap_append, List.toFinset_append]
  exact Finset.subset_union_left

theorem positive_of_merges {cells : List (Arrival task.fileNameHash)}
    (h : MergesWhenComplete P d task cells) : 0 < task.totalPieceNumber := by
  by_contra hnone
  exact h.complete [] (List.nil_prefix) (fun i hi => absurd hi (by omega)) rfl

-- the call is made at the first state with n different ids, so these are the pieces it merges
theorem first_ids_below {cells seen : List (Arrival task.fileNameHash)} (ha : Awaited P d task)
    (h : MergesWhenComplete P d task cells) (hseen : seen <+: cells)
    (hcount : ((pieceIDs seen).toFinset.card : Int) = task.totalPieceNumber) :
    ∀ i ∈ pieceIDs seen, (i : Int) < task.totalPieceNumber := by
  have htracked := tracked_run ha seen
  have hcalled := htracked.reached (positive_of_merges h) hcount.ge
  obtain ⟨merged, hmerged⟩ := List.exists_mem_of_ne_nil _ hcalled
  obtain ⟨old, hold, hholds, holdCount⟩ := htracked.merged merged hmerged
  have hbelow := (whole_iff hholds holdCount).mp (h.called seen hseen merged hmerged)
  have heq : (pieceIDs old).toFinset = (pieceIDs seen).toFinset :=
    Finset.eq_of_subset_of_card_le (pieceIDs_subset hold) (by omega)
  intro i hi
  rw [← List.mem_toFinset, ← heq, List.mem_toFinset] at hi
  exact hbelow i hi

theorem merges_of_first_ids {cells : List (Arrival task.fileNameHash)} (ha : Awaited P d task)
    (hpos : 0 < task.totalPieceNumber)
    (hfirst : ∀ seen, seen <+: cells →
      ((pieceIDs seen).toFinset.card : Int) = task.totalPieceNumber →
        ∀ i ∈ pieceIDs seen, (i : Int) < task.totalPieceNumber) :
    MergesWhenComplete P d task cells where
  called := by
    intro seen hseen merged hmerged
    obtain ⟨old, hold, hholds, hcount⟩ := (tracked_run ha seen).merged merged hmerged
    exact (whole_iff hholds hcount).mpr (hfirst old (hold.trans hseen) hcount)
  complete := by
    intro seen _ harrived
    refine (tracked_run ha seen).reached hpos ?_
    have hall : Finset.range task.totalPieceNumber.toNat ⊆ (pieceIDs seen).toFinset := by
      intro i hi
      have hlt := Finset.mem_range.mp hi
      exact List.mem_toFinset.mpr (harrived i (by omega))
    have hcard := Finset.card_le_card hall
    rw [Finset.card_range] at hcard
    omega

theorem merges_when_complete_iff {cells : List (Arrival task.fileNameHash)}
    (h : Awaited P d task) : MergesWhenComplete P d task cells ↔
      0 < task.totalPieceNumber ∧ ∀ seen, seen <+: cells →
        ((pieceIDs seen).toFinset.card : Int) = task.totalPieceNumber →
          ∀ i ∈ pieceIDs seen, (i : Int) < task.totalPieceNumber := by
  constructor
  · intro hmerges
    exact ⟨positive_of_merges hmerges, fun seen hseen hcount =>
      first_ids_below h hmerges hseen hcount⟩
  · rintro ⟨hpos, hfirst⟩
    exact merges_of_first_ids h hpos hfirst

-- the state in which prepareReceiveFile leaves the receiver
theorem awaited_putTask (hk : d.files.Keyed) (onionName fileName : String) (fileSize : Nat)
    (contentHash : Bytes) :
    Awaited P (d.putTask ((FileTask.ofMeta P onionName fileName fileSize contentHash).setStatus
      .stop)) ((FileTask.ofMeta P onionName fileName fileSize contentHash).setStatus .stop) where
  keyed := FileState.keyed_put hk _
  found := by
    rw [Device.getFileTaskByFileNameHash, Device.putTask, HashMap.values_put, List.find?_cons,
      decide_eq_true rfl]
  fresh := ⟨onionName, fileName, fileSize, contentHash, rfl⟩

theorem addressed_dataPayload {fileNameHash : Bytes} (h : fileNameHash.length = 20)
    (n : Nat) (content : Bytes) {byteFileNameHash fileContent : Bytes} {pieceID : Nat}
    (hparse : FileMessage.parseFileDataMessage (FileMessage.dataPayload fileNameHash n content) =
      some (byteFileNameHash, pieceID, fileContent)) : byteFileNameHash = fileNameHash := by
  have hhash : Message.subBytes (FileMessage.dataPayload fileNameHash n content) 0 20 =
      some fileNameHash := Library.slice?_prefix h
  rw [FileMessage.parseFileDataMessage, hhash] at hparse
  simp only [Option.bind_eq_bind, Option.bind_some, Option.bind_eq_some_iff, Option.pure_def,
    Option.some.injEq, Prod.mk.injEq] at hparse
  obtain ⟨_, -, _, -, hhash', -⟩ := hparse
  exact hhash'.symm

def announced : FileTask :=
  (FileTask.ofMeta demoPlatform "alice" "a.txt" 3 (demoPlatform.sha1 [1, 2, 3])).setStatus .stop

def receiver : Device :=
  { onionName := "bob", privateKey := ⟨0⟩, keys := { keyFile := [5] } : Device }.putTask announced

theorem receiver_awaits : Awaited demoPlatform receiver announced :=
  awaited_putTask (FileState.keyed_of_empty rfl) _ _ _ _

def dataCell (pieceID : Nat) : Arrival announced.fileNameHash where
  internalPayload := FileMessage.dataPayload announced.fileNameHash pieceID
    (JniEntryUtils.entry demoPlatform [5] [1, 2, 3])
  statusItem := { onionName := "alice", socket := 1, status := 1, shareKey := some [7] }
  item := { onionName := "alice", socket := 1, type := 1, purpose := 0
            data := Message.createDataMessageExternalPaylod demoPlatform {} { keyFile := [5] }
              Constant.dataFileData (FileMessage.dataPayload announced.fileNameHash pieceID
                (JniEntryUtils.entry demoPlatform [5] [1, 2, 3])) 1000 }
  messageID := 1000
  keyed := rfl
  addressed := fun _ _ _ hparse =>
    addressed_dataPayload (demoPlatform.sha1_length _) pieceID _ hparse

theorem merges_when_complete_iff_twice :
    MergesWhenComplete demoPlatform receiver announced [dataCell 0, dataCell 0] := by
  refine (merges_when_complete_iff receiver_awaits).mpr ⟨by decide, fun seen hseen _ => ?_⟩
  have hids : pieceIDs [dataCell 0, dataCell 0] = [0, 0] := by decide +kernel
  intro i hi
  have hmem := pieceIDs_subset hseen (List.mem_toFinset.mpr hi)
  rw [hids, List.mem_toFinset] at hmem
  obtain rfl : i = 0 := by simpa using hmem
  decide

theorem stray_piece_merged : ¬ ∀ (P : Platform) (d : Device) (task : FileTask)
    (cells : List (Arrival task.fileNameHash)), Awaited P d task →
      MergesWhenComplete P d task cells := by
  intro hall
  have hids : pieceIDs [dataCell 7] = [7] := by decide +kernel
  have hbelow := first_ids_below receiver_awaits
    (hall demoPlatform receiver announced [dataCell 7] receiver_awaits) (List.prefix_refl _)
    (by rw [hids]; decide) 7 (by rw [hids]; exact List.mem_singleton_self 7)
  revert hbelow
  decide

end Run

end MergeCompletion

end TorChat
