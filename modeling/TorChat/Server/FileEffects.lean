import TorChat.Server.FileState

namespace TorChat

open Library (Bytes HashMap Machine)

namespace MessageItem

def messageType (i : MessageItem (Option Cell)) : Option Nat :=
  match i.data with
  | some (.data _ plain) => Message.parseMessageType plain
  | _ => none

theorem messageType_packDataPayload {P : Platform} {amb : Ambient} {n id : Nat}
    {internalPayload pointers : Bytes} {length : Nat} {sharedKey : Option Bytes}
    {i : MessageItem (Option Cell)} {t : Nat} (hn : n < 256)
    (hdata : i.data = Message.packDataPayload (Message.externalPayload P amb n id internalPayload
      pointers length) sharedKey)
    (h : i.messageType = some t) : t = n := by
  cases sharedKey with
  | none =>
    rw [Message.packDataPayload, Option.map_none] at hdata
    rw [messageType, hdata] at h
    cases h
  | some key =>
    rw [Message.packDataPayload, Option.map_some] at hdata
    rw [messageType, hdata] at h
    simp only [Message.parseMessageType_externalPayload P amb hn, Option.some.injEq] at h
    exact h.symm

end MessageItem

namespace FileTask

def PieceOf (P : Platform) (i : MessageItem (Option Cell)) (task : FileTask) : Prop :=
  ∃ (amb : Ambient) (keys : KeyState) (sharedKey : Option Bytes) (messageID pieceID : Nat)
    (fileContent : Bytes), task.filePieceContentMap.get? pieceID = some fileContent ∧
      i.data = FileMessage.buildFileDataMessage P amb keys sharedKey task.fileNameHash pieceID
        fileContent messageID

end FileTask

namespace Device

variable (P : Platform)

def selectedHash (messageType : Nat) (internalPayload : Bytes) : Option Bytes :=
  if messageType = Constant.dataFileReady ∨ messageType = Constant.dataFileDone then
    FileMessage.parseFileReadyMessage internalPayload
  else if messageType = Constant.dataFileData then
    (FileMessage.parseFileDataMessage internalPayload).map (fun data => data.1)
  else if messageType = Constant.dataAck then
    (DataMessage.parseACKDataMessage internalPayload).bind
      (fun message => if message.messageType > 0 then some message.messageHash else none)
  else none

def selectedTask (d : Device) (item : MessageItem Bytes) : Option FileTask :=
  match Message.parseMessageType item.data, Message.parseExternalPaylod P item.data with
  | some messageType, some internalPayload =>
      (selectedHash messageType internalPayload).bind d.getFileTaskByFileNameHash
  | _, _ => none

def announcedTask (item : MessageItem Bytes) : Option FileTask :=
  match Message.parseMessageType item.data, Message.parseExternalPaylod P item.data with
  | some messageType, some internalPayload =>
      if messageType = Constant.dataFileMeta then
        FileMessage.parseFileMetaMessage P item.onionName internalPayload
      else none
  | _, _ => none

def requestsPieces (item : MessageItem Bytes) : Bool :=
  match Message.parseMessageType item.data, Message.parseExternalPaylod P item.data with
  | some messageType, some internalPayload =>
      decide (messageType = Constant.dataFileReady) ||
        (decide (messageType = Constant.dataAck) &&
          decide ((DataMessage.parseACKDataMessage internalPayload).map
            (fun message => message.ackok) = some "ck"))
  | _, _ => false

def Touches (d : Device) (item : MessageItem Bytes) (s : FileState) (fileName : String) : Prop :=
  ∃ found task, d.selectedTask P item = some found ∧
    s.senderFileMap.get? fileName = some task ∧ found.Evolves task

def DataPermitted (d : Device) (item : MessageItem Bytes) (s : FileState) : FileOp → Prop
  | .mark fileName status => status ≠ .notStart ∧ Touches P d item s fileName
  | .recievePiece fileName _ _ =>
      Message.parseMessageType item.data = some Constant.dataFileData ∧
        Touches P d item s fileName
  | .acknowledge fileName _ => Touches P d item s fileName
  | .remove fileName => Touches P d item s fileName
  | .put task => ∃ announced, announcedTask P item = some announced ∧
      task = announced.setStatus .stop
  | .queue items => ∀ i ∈ items, i.messageType = some Constant.dataFileData →
      requestsPieces P item = true ∧ i.onionName = item.onionName ∧
        ∃ found, d.selectedTask P item = some found ∧ FileTask.PieceOf P i found
  | .stopTasks _ => False
  | .dequeue => False
  | .startRegister _ => False
  | .register _ => False

def acknowledgedPiece (externalPayload : Bytes) : Option Nat := do
  let messageType ← Message.parseMessageType externalPayload
  let internalPayload ← Message.parseExternalPaylod P externalPayload
  if messageType = Constant.dataAck then do
    let message ← DataMessage.parseACKDataMessage internalPayload
    if message.messageType > 0 ∧ message.ackok = "ok" then some message.recievePieceNumber
    else none
  else none

def Reports (item : MessageItem Bytes) : FileOp → Prop
  | .acknowledge _ pieceID => acknowledgedPiece P item.data = some pieceID
  | _ => True

def DataReported (d : Device) (item : MessageItem Bytes) (s : FileState) (op : FileOp) : Prop :=
  DataPermitted P d item s op ∧ Reports P item op

variable {P} {env : Env}

theorem announced_ofMeta {item : MessageItem Bytes} {task : FileTask}
    (h : announcedTask P item = some task) :
    Message.parseMessageType item.data = some Constant.dataFileMeta ∧
      ∃ fileName fileSize contentHash,
        task = FileTask.ofMeta P item.onionName fileName fileSize contentHash := by
  rw [announcedTask] at h
  split at h
  · rename_i messageType internalPayload htype hinternal
    split at h
    · rename_i hmeta
      rw [FileMessage.parseFileMetaMessage] at h
      simp only [Option.bind_eq_bind, Option.bind_eq_some_iff, Option.pure_def,
        Option.some.injEq] at h
      obtain ⟨fileNameLength, -, byteFileName, -, byteFileNameHash, -, fileSize, -,
        byteContentHash, -, rfl⟩ := h
      exact ⟨hmeta ▸ htype, _, _, _, rfl⟩
    · cases h
  · cases h

theorem direction_announced {item : MessageItem Bytes} {task : FileTask}
    (h : announcedTask P item = some task) : task.direction = .recieve := by
  obtain ⟨-, fileName, fileSize, contentHash, rfl⟩ := announced_ofMeta h
  rfl

theorem selectedTask_stored {d : Device} {item : MessageItem Bytes} {task : FileTask}
    (h : d.selectedTask P item = some task) :
    ∃ fileName, d.senderFileMap.get? fileName = some task := by
  rw [selectedTask] at h
  split at h
  · obtain ⟨fileNameHash, -, hfind⟩ := Option.bind_eq_some_iff.mp h
    exact HashMap.mem_values.mp (List.mem_of_find?_eq_some hfind)
  · cases h

theorem mem_pieceItems {build : Nat → Bytes → MessageItem (Option Cell)}
    {pieces : HashMap Nat Bytes} {is : List Nat} {i : MessageItem (Option Cell)}
    (h : i ∈ (pieceItems build pieces is).1) :
    ∃ n fileContent, pieces.get? n = some fileContent ∧ i = build n fileContent := by
  induction is with
  | nil => exact absurd h List.not_mem_nil
  | cons n is ih =>
    unfold pieceItems at h
    split at h
    · exact absurd h List.not_mem_nil
    · rename_i fileContent hget
      rcases List.mem_cons.mp h with rfl | hrest
      · exact ⟨n, fileContent, hget, rfl⟩
      · exact ih hrest

theorem pieceOf_pieceItem {keys : KeyState} {onionName : String} {socket : Nat}
    {hs : Option HandShakeMessage} {sharedKey : Option Bytes} {task : FileTask}
    {messageID : Nat} {is : List Nat} {i : MessageItem (Option Cell)}
    (h : i ∈ (pieceItems (pieceItem P env keys onionName socket hs sharedKey task.fileNameHash
      messageID) task.filePieceContentMap is).1) :
    i.onionName = onionName ∧ FileTask.PieceOf P i task := by
  obtain ⟨n, fileContent, hget, rfl⟩ := mem_pieceItems h
  exact ⟨rfl, _, keys, sharedKey, messageID, n, fileContent, hget, rfl⟩

theorem files_sendMessage {d : Device} {sent : Bool} {onionName : String} {socket : Nat}
    {cell : Cell} {f : Device → Device} (hf : ∀ d : Device, (f d).files = d.files) :
    (d.sendMessage sent onionName socket cell f).files = d.files := by
  unfold sendMessage
  split
  · rw [hf, files_transmit]
  · rfl

@[simp] theorem files_sendMessage_id (d : Device) (sent : Bool) (onionName : String)
    (socket : Nat) (cell : Cell) : (d.sendMessage sent onionName socket cell id).files = d.files :=
  files_sendMessage (fun _ => rfl)

theorem files_receiveTextMessage (d : Device) (internalPayload : Bytes)
    (statusItem : ConnectionStatusItem) (item : MessageItem Bytes) (messageID : Nat) :
    (d.receiveTextMessage P env internalPayload statusItem item messageID).files = d.files := by
  unfold receiveTextMessage
  split
  · rfl
  · dsimp only
    split <;> split <;> simp only [files_sendMessage_id, files_setKeys, files_notify]

theorem prepareReceiveFile_reaches {d₀ d : Device} {internalPayload : Bytes}
    {statusItem : ConnectionStatusItem} {item : MessageItem Bytes} {messageID : Nat}
    (htype : Message.parseMessageType item.data = some Constant.dataFileMeta)
    (hinternal : Message.parseExternalPaylod P item.data = some internalPayload) :
    fileMachine.Reaches (DataReported P d₀ item) d.files
      (d.prepareReceiveFile P env internalPayload statusItem item messageID).files := by
  unfold prepareReceiveFile
  split
  · exact Machine.reaches_refl _
  · dsimp only
    split
    · exact Machine.reaches_refl _
    · rename_i keys hkeys task hparse
      have hannounced : announcedTask P item = some task := by
        simp only [announcedTask, htype, hinternal, if_true, hparse]
      split
      · exact Machine.reaches_refl _
      · unfold sendMessage
        split
        · exact FileState.reaches_op (.put (task.setStatus .stop)) ⟨⟨task, hannounced, rfl⟩, trivial⟩
        · exact Machine.reaches_refl _

theorem sendFileShards_reaches {d : Device} {internalPayload : Bytes}
    {statusItem : ConnectionStatusItem} {item : MessageItem Bytes} {messageID : Nat}
    (hk : d.files.Keyed)
    (htype : Message.parseMessageType item.data = some Constant.dataFileReady)
    (hinternal : Message.parseExternalPaylod P item.data = some internalPayload) :
    fileMachine.Reaches (DataReported P d item) d.files
      (d.sendFileShards P env internalPayload statusItem item messageID).files := by
  unfold sendFileShards
  split
  · exact Machine.reaches_refl _
  · dsimp only
    split
    · exact Machine.reaches_refl _
    · rename_i keys hkeys fileNameHash hparse
      split
      · exact Machine.reaches_refl _
      · rename_i task hfound
        have hfound' : d.getFileTaskByFileNameHash fileNameHash = some task := hfound
        have hselected : d.selectedTask P item = some task := by
          simp only [selectedTask, htype, hinternal, selectedHash, true_or, if_true, hparse,
            Option.bind_some, hfound']
        have hrequest : requestsPieces P item = true := by
          simp only [requestsPieces, htype, hinternal, decide_true, Bool.true_or]
        have htouch : Touches P d item d.files task.fileName :=
          ⟨task, task, hselected, found_get? hk hfound', task.evolves_refl⟩
        refine FileState.reaches_op_then (.mark task.fileName .transferrring)
          ⟨⟨by decide, htouch⟩, trivial⟩ (FileState.reaches_op (.queue _) ⟨?_, trivial⟩)
        intro i hi _
        rw [← found_hash hfound'] at hi
        have hpiece := pieceOf_pieceItem hi
        exact ⟨hrequest, hpiece.1, task, hselected, hpiece.2⟩

theorem touches_modify {d : Device} {item : MessageItem Bytes} {s : FileState}
    {fileName : String} {f : FileTask → FileTask} (hk : s.Keyed)
    (h : Touches P d item s fileName) (hf : ∀ t : FileTask, t.Evolves (f t)) :
    Touches P d item (s.modify fileName f) fileName := by
  obtain ⟨found, task, hselected, hget, hevolves⟩ := h
  refine ⟨found, f task, hselected, ?_, FileTask.evolves_trans hevolves (hf task)⟩
  rw [FileState.get?_modify_of_keyed hk, if_pos rfl, hget, Option.map_some]

theorem receiveAllFileShards_reaches {d₀ d : Device} {s : FileState} {task : FileTask}
    {statusItem : ConnectionStatusItem} {item : MessageItem Bytes} {messageID : Nat}
    (hs : fileMachine.Reaches (DataReported P d₀ item) s d.files)
    (htouch : Touches P d₀ item d.files task.fileName) :
    fileMachine.Reaches (DataReported P d₀ item) s
      (d.receiveAllFileShards P env task statusItem item messageID).files := by
  refine Machine.reaches_trans hs ?_
  unfold receiveAllFileShards
  split
  · dsimp only
    split
    · exact Machine.reaches_refl _
    · split
      · exact Machine.reaches_refl _
      · split
        · exact FileState.reaches_op (.remove task.fileName) ⟨htouch, trivial⟩
        · exact FileState.reaches_op (.mark task.fileName .stop) ⟨⟨by decide, htouch⟩, trivial⟩
  · exact Machine.reaches_refl _

theorem files_notify_if (c : Prop) [Decidable c] (d : Device) (notice : Notice) :
    (if c then d.notify notice else d).files = d.files := by
  split <;> rfl

theorem selected_data {d : Device} {item : MessageItem Bytes} {internalPayload : Bytes}
    {fileNameHash fileContent : Bytes} {pieceID : Nat} {found : FileTask}
    (htype : Message.parseMessageType item.data = some Constant.dataFileData)
    (hinternal : Message.parseExternalPaylod P item.data = some internalPayload)
    (hparse : FileMessage.parseFileDataMessage internalPayload =
      some (fileNameHash, pieceID, fileContent))
    (hfound : d.getFileTaskByFileNameHash fileNameHash = some found) :
    d.selectedTask P item = some found := by
  simp only [selectedTask, htype, hinternal, selectedHash, Constant.dataFileData,
    Constant.dataFileReady, Constant.dataFileDone, hparse, Option.map_some, Option.bind_some,
    hfound, Nat.reduceEqDiff, or_self, if_false, if_true]

-- the piece is stored before its acknowledgement is built
theorem receiveFileShards_stores {d : Device} {internalPayload : Bytes}
    {statusItem : ConnectionStatusItem} {item : MessageItem Bytes} {messageID : Nat}
    {keys : KeyState} {fileNameHash fileContent : Bytes} {pieceID : Nat} {found : FileTask}
    (hk : d.files.Keyed)
    (htype : Message.parseMessageType item.data = some Constant.dataFileData)
    (hinternal : Message.parseExternalPaylod P item.data = some internalPayload)
    (hkeys : d.keys.getRecordXOR item.data messageID = some keys)
    (hparse : FileMessage.parseFileDataMessage internalPayload =
      some (fileNameHash, pieceID, fileContent))
    (hfound : d.getFileTaskByFileNameHash fileNameHash = some found) :
    DataReported P d item d.files (.recievePiece found.fileName pieceID fileContent) ∧
      fileMachine.Reaches (DataReported P d item)
        (d.files.step (.recievePiece found.fileName pieceID fileContent))
        (d.receiveFileShards P env internalPayload statusItem item messageID).files := by
  have hselected := selected_data htype hinternal hparse hfound
  have htouch : Touches P d item d.files found.fileName :=
    ⟨found, found, hselected, found_get? hk hfound, found.evolves_refl⟩
  let receive := fun t : FileTask =>
    (t.recievePieceData pieceID fileContent).setStatus .transferrring
  have hreceived : (d.files.modify found.fileName receive).Keyed :=
    FileState.keyed_modify hk (fun _ => rfl)
  have htouch' : Touches P d item (d.files.modify found.fileName receive) found.fileName :=
    touches_modify hk htouch (fun t => t.evolves_recievePieceData pieceID fileContent)
  refine ⟨⟨⟨htype, htouch⟩, trivial⟩, ?_⟩
  have hfound' : (d.setKeys keys).getFileTaskByFileNameHash fileNameHash = some found := hfound
  rw [receiveFileShards, hkeys]
  dsimp only
  rw [hparse]
  dsimp only
  rw [hfound']
  dsimp only
  split
  · rw [files_setKeys, files_notify_if]
    exact Machine.reaches_refl _
  · split
    · refine receiveAllFileShards_reaches ?_ ?_
      · rw [files_transmit, files_setKeys, files_notify_if]
        exact Machine.reaches_refl _
      · rw [files_transmit, files_setKeys, files_notify_if]
        exact htouch'
    · refine receiveAllFileShards_reaches ?_ ?_
      · rw [files_deleteConnection, files_modifyTask, files_setKeys, files_notify_if]
        exact FileState.reaches_op (.mark found.fileName .stop)
          ⟨⟨by decide, htouch'⟩, trivial⟩
      · rw [files_deleteConnection, files_modifyTask, files_setKeys, files_notify_if]
        exact touches_modify hreceived htouch'
          (fun t => FileTask.evolves_setStatus (by decide))

theorem receiveFileShards_reaches {d : Device} {internalPayload : Bytes}
    {statusItem : ConnectionStatusItem} {item : MessageItem Bytes} {messageID : Nat}
    (hk : d.files.Keyed)
    (htype : Message.parseMessageType item.data = some Constant.dataFileData)
    (hinternal : Message.parseExternalPaylod P item.data = some internalPayload) :
    fileMachine.Reaches (DataReported P d item) d.files
      (d.receiveFileShards P env internalPayload statusItem item messageID).files := by
  cases hkeys : d.keys.getRecordXOR item.data messageID with
  | none =>
    rw [receiveFileShards, hkeys]
    exact Machine.reaches_refl _
  | some keys =>
    cases hparse : FileMessage.parseFileDataMessage internalPayload with
    | none =>
      rw [receiveFileShards, hkeys]
      dsimp only
      rw [hparse]
      exact Machine.reaches_refl _
    | some piece =>
      obtain ⟨fileNameHash, pieceID, fileContent⟩ := piece
      cases hfound : d.getFileTaskByFileNameHash fileNameHash with
      | none =>
        have hfound' : (d.setKeys keys).getFileTaskByFileNameHash fileNameHash = none := hfound
        rw [receiveFileShards, hkeys]
        dsimp only
        rw [hparse]
        dsimp only
        rw [hfound']
        exact Machine.reaches_refl _
      | some found =>
        obtain ⟨hop, hreaches⟩ :=
          receiveFileShards_stores hk htype hinternal hkeys hparse hfound
        exact FileState.reaches_op_then _ hop hreaches

theorem receiveFileDone_reaches {d : Device} {internalPayload : Bytes}
    {item : MessageItem Bytes} {messageID : Nat} (hk : d.files.Keyed)
    (htype : Message.parseMessageType item.data = some Constant.dataFileDone)
    (hinternal : Message.parseExternalPaylod P item.data = some internalPayload) :
    fileMachine.Reaches (DataReported P d item) d.files
      (d.receiveFileDone internalPayload messageID).files := by
  unfold receiveFileDone
  split
  · exact Machine.reaches_refl _
  · rename_i fileNameHash hparse
    split
    · exact Machine.reaches_refl _
    · rename_i task hfound
      have hselected : d.selectedTask P item = some task := by
        simp only [selectedTask, htype, hinternal, selectedHash, or_true, if_true, hparse,
          Option.bind_some, hfound]
      exact FileState.reaches_op (.remove task.fileName)
        ⟨⟨task, task, hselected, found_get? hk hfound, task.evolves_refl⟩, trivial⟩

variable (P env) in
theorem resend_files (d : Device) (task : FileTask) (statusItem : ConnectionStatusItem)
    (messageID : Nat) :
    (d.resend P env task statusItem messageID).1.files = d.files ∨
      ∃ items, (d.resend P env task statusItem messageID).1.files = d.files.step (.queue items) ∧
        ∀ i ∈ items, i.onionName = statusItem.onionName ∧ FileTask.PieceOf P i task := by
  unfold resend
  split
  · exact .inl rfl
  · exact .inr ⟨_, rfl, fun i hi => pieceOf_pieceItem hi⟩

theorem receiveFileAck_reaches {d : Device} {message : ACKMessage} {internalPayload : Bytes}
    {statusItem : ConnectionStatusItem} {item : MessageItem Bytes} {messageID : Nat}
    (hk : d.files.Keyed) (hname : statusItem.onionName = item.onionName)
    (htype : Message.parseMessageType item.data = some Constant.dataAck)
    (hinternal : Message.parseExternalPaylod P item.data = some internalPayload)
    (hparse : DataMessage.parseACKDataMessage internalPayload = some message)
    (hfile : message.messageType > 0) :
    fileMachine.Reaches (DataReported P d item) d.files
      (d.receiveFileAck P env message statusItem item messageID).files := by
  unfold receiveFileAck
  split
  · exact Machine.reaches_refl _
  · rename_i found hfound
    have hselected : d.selectedTask P item = some found := by
      simp only [selectedTask, htype, hinternal, selectedHash, Constant.dataFileData,
        Constant.dataFileReady, Constant.dataFileDone, Constant.dataAck, hparse,
        Option.bind_some, hfile, hfound, Nat.reduceEqDiff, or_self, if_false, if_true]
    have htouch : Touches P d item d.files found.fileName :=
      ⟨found, found, hselected, found_get? hk hfound, found.evolves_refl⟩
    split
    · rename_i hok
      have hreported : acknowledgedPiece P item.data = some message.recievePieceNumber := by
        simp only [acknowledgedPiece, htype, hinternal, hparse, hfile, hok, and_self, if_true,
          Option.bind_eq_bind, Option.bind_some]
      refine FileState.reaches_op_then (.acknowledge found.fileName message.recievePieceNumber)
        ⟨htouch, hreported⟩ ?_
      dsimp only
      split
      · refine FileState.reaches_op (.queue [zeroItem item]) ⟨?_, trivial⟩
        intro i hi htype
        rw [List.mem_singleton] at hi
        subst hi
        cases htype
      · exact Machine.reaches_refl _
    · split
      · rename_i hck
        have hrequest : requestsPieces P item = true := by
          simp only [requestsPieces, htype, hinternal, hparse, Option.map_some, hck, decide_true,
            Bool.and_true, Bool.or_true]
        rcases resend_files P env d found statusItem messageID with
          hsame | ⟨items, hfiles, hitems⟩
        · rw [hsame]
          exact Machine.reaches_refl _
        · rw [hfiles]
          refine FileState.reaches_op (.queue items) ⟨fun i hi _ => ?_, trivial⟩
          exact ⟨hrequest, (hitems i hi).1.trans hname, found, hselected, (hitems i hi).2⟩
      · exact Machine.reaches_refl _

theorem receiveAck_reaches {d : Device} {internalPayload : Bytes}
    {statusItem : ConnectionStatusItem} {item : MessageItem Bytes} {messageID : Nat}
    (hk : d.files.Keyed) (hname : statusItem.onionName = item.onionName)
    (htype : Message.parseMessageType item.data = some Constant.dataAck)
    (hinternal : Message.parseExternalPaylod P item.data = some internalPayload) :
    fileMachine.Reaches (DataReported P d item) d.files
      (d.receiveAck P env internalPayload statusItem item messageID).files := by
  unfold receiveAck
  split
  · exact Machine.reaches_refl _
  · rename_i message hparse
    split
    · rename_i hfile
      exact receiveFileAck_reaches hk hname htype hinternal hparse hfile
    · exact Machine.reaches_refl _

theorem dispatchDataMessage_reaches {d : Device} {statusItem : ConnectionStatusItem}
    {item : MessageItem Bytes} {messageID messageType : Nat} {internalPayload : Bytes}
    (hk : d.files.Keyed) (hname : statusItem.onionName = item.onionName)
    (htype : Message.parseMessageType item.data = some messageType)
    (hinternal : Message.parseExternalPaylod P item.data = some internalPayload) :
    fileMachine.Reaches (DataReported P d item) d.files
      (d.dispatchDataMessage P env statusItem item messageID messageType internalPayload).files := by
  unfold dispatchDataMessage
  split
  · rw [files_receiveTextMessage]
    exact Machine.reaches_refl _
  split
  · rename_i hmeta
    exact prepareReceiveFile_reaches (hmeta ▸ htype) hinternal
  split
  · rename_i hready
    exact sendFileShards_reaches hk (hready ▸ htype) hinternal
  split
  · rename_i hdata
    exact receiveFileShards_reaches hk (hdata ▸ htype) hinternal
  split
  · rename_i hdone
    exact receiveFileDone_reaches hk (hdone ▸ htype) hinternal
  split
  · rename_i hack
    exact receiveAck_reaches hk hname (hack ▸ htype) hinternal
  · exact Machine.reaches_refl _

theorem dataMessageHandle_reported {d : Device} {item : MessageItem Bytes} (hk : d.files.Keyed)
    (hname : ∀ statusItem, d.conns.getConnectionStatusItem item.onionName item.socket =
      some statusItem → statusItem.onionName = item.onionName) :
    fileMachine.Reaches (DataReported P d item) d.files
      (d.dataMessageHandle P env item).files := by
  unfold dataMessageHandle
  split
  · exact Machine.reaches_refl _
  · rename_i statusItem hstatus
    split
    · exact Machine.reaches_refl _
    · split
      · rename_i messageID messageType internalPayload _ htype hinternal
        exact dispatchDataMessage_reaches hk (hname statusItem hstatus) htype hinternal
      · exact Machine.reaches_refl _

end Device

end TorChat
