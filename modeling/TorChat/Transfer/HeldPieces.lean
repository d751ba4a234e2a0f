import TorChat.Text.Acknowledgement
import TorChat.Transfer.Chunking

namespace TorChat

open Library (Bytes HashMap Machine)

namespace HeldPieces

variable {ι : Type}

-- history variables: who has read the announcement, and which pieces its task has stored
structure History (ι : Type) where
  receiver : Option (ι × String) := none
  stored : Finset Nat := ∅

structure Transfer (ι : Type) where
  network : Network ι
  history : History ι := {}

section Machine

variable (P : Platform) (W : Wiring ι) (sender : ι) (fileNameHash : Bytes) [DecidableEq ι]

def dataItem (d : Device) : Option (MessageItem Bytes) :=
  d.recieveQueue.head?.filter (fun item => item.type = 1)

def announcedName (item : MessageItem Bytes) : Option String := do
  let task ← Device.announcedTask P item
  if task.fileNameHash = fileNameHash then some task.fileName else none

def storedBy (history : History ι) (i : ι) (d : Device) (item : MessageItem Bytes) :
    Option Nat := do
  let (found, pieceID) ← d.storedPiece P item
  if found.fileNameHash = fileNameHash ∧ found.direction = .recieve ∧
      history.receiver = some (i, found.fileName) then some pieceID else none

def History.read (history : History ι) (i : ι) (d : Device) (item : MessageItem Bytes) :
    History ι where
  receiver :=
    match announcedName P fileNameHash item with
    | some fileName => some (i, fileName)
    | none => history.receiver
  stored :=
    match storedBy P fileNameHash history i d item with
    | some pieceID => insert pieceID history.stored
    | none => history.stored

def History.next (history : History ι) (t : Network.Taken ι) (d : Device) : History ι :=
  match t.event, dataItem d with
  | .read, some item => history.read P fileNameHash t.device d item
  | _, _ => history

def step (s : Transfer ι) (e : Network.Event ι) : Transfer ι :=
  match Network.taken W s.network e with
  | none => s
  | some t => { network := Network.take P s.network t
                history := s.history.next P fileNameHash t (s.network t.device) }

def machine : Machine (Transfer ι) (Network.Event ι) := ⟨step P W fileNameHash⟩

def OneAnnouncement (s : Transfer ι) (t : Network.Taken ι) : Prop :=
  match t.event with
  | .sendFile fileFullPath _ _ _ =>
      P.sha1 (getBytes (FileTask.getName fileFullPath)) = fileNameHash → t.device = sender
  | .sendBytes fileFullPath _ _ _ =>
      P.sha1 (getBytes fileFullPath) = fileNameHash → t.device = sender
  | .read => ∀ item ∈ dataItem (s.network t.device),
      (announcedName P fileNameHash item).isSome → s.history.receiver = none
  | _ => True

def OneTransfer (s : Transfer ι) (e : Network.Event ι) : Prop :=
  ∀ t ∈ Network.taken W s.network e, OneAnnouncement P sender fileNameHash s t

end Machine

structure Started (s : Transfer ι) : Prop where
  named : ∀ i, (s.network i).conns.Named
  senderFileMap : ∀ i, (s.network i).senderFileMap = ∅
  registering : ∀ i, (s.network i).registering = []
  written : ∀ i, (s.network i).written = []
  sendQueue : ∀ i, (s.network i).sendQueue = []
  recieveQueue : ∀ i, (s.network i).recieveQueue = []
  history : s.history = {}

section Statement

variable (P : Platform) (sender : ι) (fileNameHash : Bytes)

def Resends (env : Env) (d : Device) (task : FileTask) (statusItem : ConnectionStatusItem)
    (messageID : Nat) (stored : Finset Nat) : Prop :=
  ∃ items, (d.resend P env task statusItem messageID).1.sendQueue = d.sendQueue ++ items ∧
    ∀ n < task.totalPieceNumber.toNat, n ∉ stored → ∃ fileContent,
      task.filePieceContentMap.get? n = some fileContent ∧
        Device.pieceItem P env d.keys statusItem.onionName statusItem.socket none statusItem.shareKey
          task.fileNameHash messageID n fileContent ∈ items

structure Held (s : Transfer ι) : Prop where
  acked : ∀ fileName task, (s.network sender).senderFileMap.get? fileName = some task →
    task.fileNameHash = fileNameHash → task.direction = .send →
      task.fileTransferStatusMap ⊆ s.history.stored
  held : ∀ i fileName task, (s.network i).senderFileMap.get? fileName = some task →
    task.fileNameHash = fileNameHash → task.direction = .recieve →
      s.history.receiver = some (i, fileName) ∧
        ∀ n ∈ s.history.stored, (task.filePieceContentMap.get? n).isSome
  resent : ∀ fileName task, (s.network sender).senderFileMap.get? fileName = some task →
    task.fileNameHash = fileNameHash → task.direction = .send →
      ∀ env d statusItem messageID, statusItem.shareKey.isSome →
        Resends P env d task statusItem messageID s.history.stored

end Statement

section Names

variable (P : Platform)

def Names (messageType : Nat) (raw fileNameHash : Bytes) : Prop :=
  Message.parseMessageType raw = some messageType ∧ ∃ internalPayload,
    Message.parseExternalPaylod P raw = some internalPayload ∧
      Device.selectedHash messageType internalPayload = some fileNameHash

variable {P} {messageType : Nat} {raw fileNameHash internalPayload : Bytes} {cell : Cell}
  {sharedKey : Bytes}

theorem names_of_selected {d : Device} {item : MessageItem Bytes} {found : FileTask}
    (htype : Message.parseMessageType item.data = some messageType)
    (h : d.selectedTask P item = some found) : Names P messageType item.data found.fileNameHash := by
  rw [Device.selectedTask] at h
  split at h
  · rename_i readType payload hread hpayload
    obtain rfl := Option.some.inj (hread.symm.trans htype)
    obtain ⟨hash, hhash, hfound⟩ := Option.bind_eq_some_iff.mp h
    rw [Device.found_hash hfound]
    exact ⟨htype, payload, hpayload, hhash⟩
  · cases h

theorem not_names_of_quiet (hquiet : cell.Quiet) (hcell : cell = .data sharedKey raw)
    (h : messageType = Constant.dataFileReady ∨ messageType = Constant.dataFileData ∨
      messageType = Constant.dataAck) : ¬ Names P messageType raw fileNameHash := by
  rintro ⟨htype, -⟩
  obtain ⟨readType, hread, hready, hdata, hack⟩ := hquiet sharedKey raw hcell
  obtain rfl := Option.some.inj (hread.symm.trans htype)
  rcases h with rfl | rfl | rfl
  · exact hready rfl
  · exact hdata rfl
  · exact hack rfl

theorem carried_payload {carriedType messageID : Nat}
    (hcarries : cell.Carries P carriedType messageID internalPayload)
    (hcell : cell = .data sharedKey raw) (hlt : carriedType < 256)
    (h : Names P messageType raw fileNameHash) :
    messageType = carriedType ∧ ∃ payload, payload <+: internalPayload ∧
      Device.selectedHash messageType payload = some fileNameHash := by
  obtain ⟨htype, payload, hpayload, hselected⟩ := h
  have hcarriedType := Device.type_of_carries hcarries hcell hlt
  obtain rfl := Option.some.inj (htype.symm.trans hcarriedType)
  obtain ⟨_, amb, pointers, length, rfl⟩ := hcarries
  cases hcell
  exact ⟨rfl, payload, Message.parseExternalPaylod_prefix P amb hpayload, hselected⟩

theorem hash_of_prefix {payload hash rest read : Bytes} (hhash : hash.length = 20)
    (hpre : payload <+: hash ++ rest) (h : Message.subBytes payload 0 20 = some read) :
    read = hash := by
  have hwhole : Message.subBytes (hash ++ rest) 0 20 = some read :=
    Library.slice?_of_prefix h hpre
  have hfirst : Message.subBytes (hash ++ rest) 0 20 = some hash := Library.slice?_prefix hhash
  exact Option.some.inj (hwhole.symm.trans hfirst)

theorem names_of_ready {hash : Bytes} (hhash : hash.length = 20) (hready : cell.Ready P hash)
    (hcell : cell = .data sharedKey raw) (h : Names P messageType raw fileNameHash) :
    messageType = Constant.dataFileReady ∧ fileNameHash = hash := by
  obtain ⟨messageID, hcarries⟩ := hready
  obtain ⟨rfl, payload, hpre, hselected⟩ := carried_payload hcarries hcell (by decide) h
  refine ⟨rfl, ?_⟩
  rw [← List.append_nil hash] at hpre
  exact hash_of_prefix hhash hpre hselected

theorem names_of_piece {hash : Bytes} (hhash : hash.length = 20) (hpiece : cell.Piece P hash)
    (hcell : cell = .data sharedKey raw) (h : Names P messageType raw fileNameHash) :
    messageType = Constant.dataFileData ∧ fileNameHash = hash := by
  obtain ⟨messageID, pieceID, fileContent, hcarries⟩ := hpiece
  obtain ⟨rfl, payload, hpre, hselected⟩ := carried_payload hcarries hcell (by decide) h
  refine ⟨rfl, ?_⟩
  obtain ⟨⟨read, number, content⟩, hparse, rfl⟩ := Option.map_eq_some_iff.mp hselected
  simp only [FileMessage.parseFileDataMessage, Option.bind_eq_bind, Option.bind_eq_some_iff,
    Option.pure_def, Option.some.injEq] at hparse
  obtain ⟨first, hfirst, _, -, _, -, heq⟩ := hparse
  obtain rfl : first = read := congrArg Prod.fst heq
  exact hash_of_prefix hhash hpre hfirst

theorem acknowledgedPiece_eq_some {pieceID : Nat}
    (h : Device.acknowledgedPiece P raw = some pieceID) :
    Message.parseMessageType raw = some Constant.dataAck ∧ ∃ internalPayload message,
      Message.parseExternalPaylod P raw = some internalPayload ∧
        DataMessage.parseACKDataMessage internalPayload = some message ∧
          message.ackok = "ok" ∧ message.recievePieceNumber = pieceID := by
  simp only [Device.acknowledgedPiece, Option.bind_eq_bind, Option.bind_eq_some_iff] at h
  obtain ⟨messageType, htype, internalPayload, hpayload, hack⟩ := h
  split at hack
  · rename_i hmessageType
    obtain ⟨message, hparse, hresult⟩ := Option.bind_eq_some_iff.mp hack
    split at hresult
    · rename_i hok
      exact ⟨hmessageType ▸ htype, internalPayload, message, hpayload, hparse, hok.2,
        Option.some.inj hresult⟩
    · cases hresult
  · cases hack

theorem names_of_fileAck {hash : Bytes} {ack : String} {pieceID : Nat} (hhash : hash.length = 20)
    (hack : (getBytes ack).length = 2) (hfileAck : cell.FileAck P hash ack pieceID)
    (hcell : cell = .data sharedKey raw) (h : Names P messageType raw fileNameHash) :
    messageType = Constant.dataAck ∧ fileNameHash = hash ∧
      ∀ number, Device.acknowledgedPiece P raw = some number →
        ack = "ok" ∧ (pieceID < 2 ^ 31 → number = pieceID) := by
  obtain ⟨messageID, keys, hcarries⟩ := hfileAck
  obtain ⟨rfl, payload, hpre, hselected⟩ := carried_payload hcarries hcell (by decide) h
  obtain ⟨message, hparse, hresult⟩ := Option.bind_eq_some_iff.mp hselected
  obtain ⟨-, hmessageHash, -⟩ := DataMessage.fields_of_ackPayload hack hhash
    (DataMessage.parseACKDataMessage_of_prefix hparse hpre)
  refine ⟨rfl, ?_, ?_⟩
  · split at hresult
    · rw [← Option.some.inj hresult, hmessageHash]
    · cases hresult
  · intro number hnumber
    obtain ⟨-, internalPayload, read, hpayload, hread, hok, rfl⟩ :=
      acknowledgedPiece_eq_some hnumber
    obtain ⟨hackok, -, hpiece⟩ := DataMessage.fields_of_ackPayload hack hhash
      (Device.ack_of_carries hcarries hcell hpayload hread)
    exact ⟨hackok.symm.trans hok, hpiece⟩

theorem not_names_of_textAck {messageID : Nat} (htextAck : cell.TextAck P messageID)
    (hcell : cell = .data sharedKey raw) : ¬ Names P messageType raw fileNameHash := by
  intro h
  obtain ⟨keys, messageHash, -, hcarries⟩ := htextAck
  obtain ⟨rfl, payload, hpre, hselected⟩ := carried_payload hcarries hcell (by decide) h
  obtain ⟨message, hparse, hresult⟩ := Option.bind_eq_some_iff.mp hselected
  have hzero := DataMessage.messageType_of_ackPayload (by decide)
    (DataMessage.parseACKDataMessage_of_prefix hparse hpre)
  split at hresult
  · omega
  · cases hresult

end Names

section Tasks

variable {P : Platform} {sender i : ι} {fileNameHash : Bytes} {history : History ι}

variable (sender fileNameHash) in
structure Fits (history : History ι) (i : ι) (task : FileTask) : Prop where
  length : task.fileNameHash.length = 20
  send : task.fileNameHash = fileNameHash → task.direction = .send →
    i = sender ∧ task.fileTransferStatusMap ⊆ history.stored ∧
      ∀ n < task.totalPieceNumber.toNat, (task.filePieceContentMap.get? n).isSome
  recieve : task.fileNameHash = fileNameHash → task.direction = .recieve →
    history.receiver = some (i, task.fileName) ∧
      ∀ n ∈ history.stored, (task.filePieceContentMap.get? n).isSome

-- what a data item says about the transfer, where it is written and where it is read
structure Speaks (P : Platform) (sender : ι) (fileNameHash : Bytes) (history : History ι) (i : ι)
    (raw : Bytes) : Prop where
  ready : Names P Constant.dataFileReady raw fileNameHash →
    ∃ fileName, history.receiver = some (i, fileName)
  piece : Names P Constant.dataFileData raw fileNameHash → i = sender
  ack : Names P Constant.dataAck raw fileNameHash →
    (∃ fileName, history.receiver = some (i, fileName)) ∧
      ∀ pieceID, Device.acknowledgedPiece P raw = some pieceID → pieceID ∈ history.stored

theorem fits_setStatus {task : FileTask} (h : Fits sender fileNameHash history i task)
    (status : TaskStatus) : Fits sender fileNameHash history i (task.setStatus status) :=
  ⟨h.length, h.send, h.recieve⟩

theorem fits_recievePieceData {task : FileTask} (h : Fits sender fileNameHash history i task)
    (hother : task.fileNameHash = fileNameHash → i ≠ sender) (pieceID : Nat)
    (fileContent : Bytes) : Fits sender fileNameHash history i
      ((task.recievePieceData pieceID fileContent).setStatus .transferrring) where
  length := h.length
  send := fun hhash hsend => absurd (h.send hhash hsend).1 (hother hhash)
  recieve := by
    intro hhash hrecieve
    obtain ⟨hreceiver, hheld⟩ := h.recieve hhash hrecieve
    refine ⟨hreceiver, fun n hn => ?_⟩
    change ((task.filePieceContentMap.put pieceID fileContent).get? n).isSome = true
    rw [HashMap.get?_put]
    split
    · rfl
    · exact hheld n hn

theorem fits_updateTransferStatus {task : FileTask} (h : Fits sender fileNameHash history i task)
    {pieceID : Nat} (hstored : task.fileNameHash = fileNameHash → pieceID ∈ history.stored) :
    Fits sender fileNameHash history i
      ((task.updateTransferStatus pieceID).setStatus .transferrring) where
  length := h.length
  send := by
    intro hhash hsend
    obtain ⟨hsender, hmap, hheld⟩ := h.send hhash hsend
    exact ⟨hsender, Finset.insert_subset (hstored hhash) hmap, hheld⟩
  recieve := h.recieve

theorem fits_ofMeta {onionName fileName : String} {fileSize : Nat} {contentHash : Bytes}
    (h : P.sha1 (getBytes fileName) = fileNameHash →
      history.receiver = some (i, fileName) ∧ history.stored = ∅) :
    Fits sender fileNameHash history i
      (FileTask.ofMeta P onionName fileName fileSize contentHash) where
  length := P.sha1_length _
  send := by
    intro _ hsend
    cases hsend
  recieve := by
    intro hhash _
    obtain ⟨hreceiver, hstored⟩ := h hhash
    refine ⟨hreceiver, fun n hn => ?_⟩
    rw [hstored] at hn
    exact absurd hn (Finset.notMem_empty n)

theorem fits_ofFile {keyFile : Bytes} {onionName filePath : String} {content : Bytes}
    {messageID : Nat}
    (h : P.sha1 (getBytes (FileTask.getName filePath)) = fileNameHash → i = sender) :
    Fits sender fileNameHash history i
      (FileTask.ofFile P keyFile onionName filePath content messageID) where
  length := P.sha1_length _
  send := fun hhash _ =>
    ⟨h hhash, Finset.empty_subset _, fun _ hn => FileTask.cutFile_holds _ hn⟩
  recieve := by
    intro _ hrecieve
    cases hrecieve

theorem fits_ofBitmap {keyFile : Bytes} {onionName filePath : String} {bitmapBytes : Bytes}
    {messageID : Nat} (h : P.sha1 (getBytes filePath) = fileNameHash → i = sender) :
    Fits sender fileNameHash history i
      (FileTask.ofBitmap P keyFile onionName filePath bitmapBytes messageID) where
  length := P.sha1_length _
  send := fun hhash _ =>
    ⟨h hhash, Finset.empty_subset _, fun _ hn => FileTask.cutBitmap_holds _ hn⟩
  recieve := by
    intro _ hrecieve
    cases hrecieve

end Tasks

section Reading

variable {P : Platform} {sender i : ι} {fileNameHash : Bytes} {history history' : History ι}
  {d : Device} {item : MessageItem Bytes}

structure History.Extends (history history' : History ι) : Prop where
  receiver : ∀ r, history.receiver = some r → history'.receiver = some r
  stored : history.stored ⊆ history'.stored

theorem speaks_extends {raw : Bytes} (hext : history.Extends history')
    (h : Speaks P sender fileNameHash history i raw) :
    Speaks P sender fileNameHash history' i raw where
  ready := by
    intro hnames
    obtain ⟨fileName, hreceiver⟩ := h.ready hnames
    exact ⟨fileName, hext.receiver _ hreceiver⟩
  piece := h.piece
  ack := by
    intro hnames
    obtain ⟨⟨fileName, hreceiver⟩, hstored⟩ := h.ack hnames
    exact ⟨⟨fileName, hext.receiver _ hreceiver⟩, fun n hn => hext.stored (hstored n hn)⟩

theorem fits_extends {task : FileTask} (hext : history.Extends history')
    (hstored : ∀ n ∈ history'.stored, n ∈ history.stored ∨
      history.receiver ≠ some (i, task.fileName))
    (h : Fits sender fileNameHash history i task) : Fits sender fileNameHash history' i task where
  length := h.length
  send := by
    intro hhash hsend
    obtain ⟨hsender, hmap, hheld⟩ := h.send hhash hsend
    exact ⟨hsender, hmap.trans hext.stored, hheld⟩
  recieve := by
    intro hhash hrecieve
    obtain ⟨hreceiver, hheld⟩ := h.recieve hhash hrecieve
    refine ⟨hext.receiver _ hreceiver, fun n hn => ?_⟩
    rcases hstored n hn with hold | hother
    · exact hheld n hold
    · exact absurd hreceiver hother

variable [DecidableEq ι]

theorem announcedName_eq_some {fileName : String} :
    announcedName P fileNameHash item = some fileName ↔ ∃ task,
      Device.announcedTask P item = some task ∧ task.fileNameHash = fileNameHash ∧
        task.fileName = fileName := by
  simp only [announcedName, Option.bind_eq_bind, Option.bind_eq_some_iff, Option.ite_none_right_eq_some,
    Option.some.injEq]

theorem storedBy_eq_some {pieceID : Nat} :
    storedBy P fileNameHash history i d item = some pieceID ↔ ∃ found,
      d.storedPiece P item = some (found, pieceID) ∧ found.fileNameHash = fileNameHash ∧
        found.direction = .recieve ∧ history.receiver = some (i, found.fileName) := by
  rw [storedBy]
  simp only [Option.bind_eq_bind, Option.bind_eq_some_iff, Prod.exists]
  constructor
  · rintro ⟨found, id, hstored, hpiece⟩
    split at hpiece
    · rename_i hfound
      obtain rfl := Option.some.inj hpiece
      exact ⟨found, hstored, hfound⟩
    · cases hpiece
  · rintro ⟨found, hstored, hfound⟩
    exact ⟨found, pieceID, hstored, if_pos hfound⟩

-- an announcement and a piece are different messages
theorem storedBy_of_announced {task : FileTask} (h : Device.announcedTask P item = some task) :
    storedBy P fileNameHash history i d item = none := by
  cases hstored : storedBy P fileNameHash history i d item with
  | none => rfl
  | some pieceID =>
    obtain ⟨found, hpiece, -⟩ := storedBy_eq_some.mp hstored
    obtain ⟨statusItem, messageID, internalPayload, keys, hash, fileContent, hreads, -⟩ :=
      Device.storedPiece_reads hpiece
    have htype := (Device.announced_ofMeta h).1
    exact absurd (hreads.type.symm.trans htype) (by decide)

theorem read_extends (h : (announcedName P fileNameHash item).isSome → history.receiver = none) :
    history.Extends (history.read P fileNameHash i d item) where
  receiver := by
    intro r hr
    cases hname : announcedName P fileNameHash item with
    | none => simpa only [History.read, hname] using hr
    | some fileName =>
      rw [h (by rw [hname]; rfl)] at hr
      cases hr
  stored := by
    rw [History.read]
    dsimp only
    split
    · exact Finset.subset_insert _ _
    · exact subset_rfl

theorem mem_stored_read {n : Nat} (h : n ∈ (history.read P fileNameHash i d item).stored) :
    n ∈ history.stored ∨ storedBy P fileNameHash history i d item = some n := by
  rw [History.read] at h
  dsimp only at h
  split at h
  · rename_i pieceID hstored
    rcases Finset.mem_insert.mp h with rfl | hold
    · exact .inr hstored
    · exact .inl hold
  · exact .inl h

theorem read_announced {task : FileTask} (h : Device.announcedTask P item = some task)
    (hhash : task.fileNameHash = fileNameHash) :
    (history.read P fileNameHash i d item).receiver = some (i, task.fileName) ∧
      (history.read P fileNameHash i d item).stored = history.stored := by
  have hname : announcedName P fileNameHash item = some task.fileName :=
    announcedName_eq_some.mpr ⟨task, h, hhash, rfl⟩
  rw [History.read, hname, storedBy_of_announced h]
  exact ⟨rfl, rfl⟩

end Reading

section Heard

variable {P : Platform} {sender i : ι} {fileNameHash : Bytes} {history history' : History ι}
  {d : Device} {item : MessageItem Bytes}

-- what is known of an item that another device has written
structure Heard (P : Platform) (sender : ι) (fileNameHash : Bytes) (history : History ι) (i : ι)
    (item : MessageItem Bytes) : Prop where
  ready : Names P Constant.dataFileReady item.data fileNameHash →
    ∀ fileName, history.receiver ≠ some (i, fileName)
  piece : Names P Constant.dataFileData item.data fileNameHash → i ≠ sender
  ack : Names P Constant.dataAck item.data fileNameHash →
    (∀ fileName, history.receiver ≠ some (i, fileName)) ∧
      ∀ pieceID, Device.acknowledgedPiece P item.data = some pieceID → pieceID ∈ history.stored

theorem heard_of_speaks {j : ι} (hij : i ≠ j)
    (h : Speaks P sender fileNameHash history j item.data) :
    Heard P sender fileNameHash history i item := by
  have hother : (∃ fileName, history.receiver = some (j, fileName)) →
      ∀ fileName, history.receiver ≠ some (i, fileName) := by
    rintro ⟨fileName, hreceiver⟩ otherName hi
    rw [hreceiver] at hi
    exact hij (congrArg Prod.fst (Option.some.inj hi)).symm
  constructor
  · exact fun hnames => hother (h.ready hnames)
  · exact fun hnames hi => hij (hi.trans (h.piece hnames).symm)
  · exact fun hnames => ⟨hother (h.ack hnames).1, (h.ack hnames).2⟩

theorem admits_data {s : FileState} {op : FileOp}
    (hheard : Heard P sender fileNameHash history i item)
    (hstored : history.stored ⊆ history'.stored)
    (hannounced : ∀ task, Device.announcedTask P item = some task →
      task.fileNameHash = fileNameHash →
        history'.receiver = some (i, task.fileName) ∧ history'.stored = ∅)
    {R : FileTask → Prop} (h : s.All (Fits sender fileNameHash history' i) R)
    (hop : Device.DataReported P d item s op) :
    s.Admits (Fits sender fileNameHash history' i) R op := by
  obtain ⟨hop, hreports⟩ := hop
  cases op with
  | mark fileName status =>
    exact fun task hget => fits_setStatus (h.1 fileName task hget) status
  | recievePiece fileName pieceID fileContent =>
    intro task hget
    obtain ⟨htype, found, touched, hselected, htouched, hevolves⟩ := hop
    obtain rfl := Option.some.inj (hget.symm.trans htouched)
    refine fits_recievePieceData (h.1 fileName _ hget) (fun hhash => ?_) pieceID fileContent
    have hnames := names_of_selected htype hselected
    rw [← hevolves.fileNameHash, hhash] at hnames
    exact hheard.piece hnames
  | acknowledge fileName pieceID =>
    intro task hget
    obtain ⟨found, touched, hselected, htouched, hevolves⟩ := hop
    obtain rfl := Option.some.inj (hget.symm.trans htouched)
    refine fits_updateTransferStatus (h.1 fileName _ hget) (fun hhash => ?_)
    have hnames := names_of_selected (acknowledgedPiece_eq_some hreports).1 hselected
    rw [← hevolves.fileNameHash, hhash] at hnames
    exact hstored ((hheard.ack hnames).2 pieceID hreports)
  | put task =>
    obtain ⟨announced, hann, rfl⟩ := hop
    obtain ⟨-, fileName, fileSize, contentHash, rfl⟩ := Device.announced_ofMeta hann
    exact fits_setStatus (fits_ofMeta (hannounced _ hann)) .stop
  | remove fileName => exact trivial
  | queue items => exact trivial
  | stopTasks onionName => exact absurd hop id
  | dequeue => exact absurd hop id
  | startRegister task => exact absurd hop id
  | register position => exact absurd hop id

end Heard

section Steps

variable {P : Platform} {env : Env} {sender i : ι} {fileNameHash : Bytes}
  {history history' : History ι} {d : Device} {item : MessageItem Bytes}

variable (sender fileNameHash) in
def Offered (history : History ι) (i : ι) (task : FileTask) : Prop :=
  Fits sender fileNameHash history i task ∧ task.direction = .send

variable (sender fileNameHash) in
def Fitting (history : History ι) (i : ι) (s : FileState) : Prop :=
  s.All (Fits sender fileNameHash history i) (Offered sender fileNameHash history i)

theorem fits_of_send {task : FileTask} (hext : history.Extends history')
    (hsend : task.direction = .send) (h : Fits sender fileNameHash history i task) :
    Fits sender fileNameHash history' i task where
  length := h.length
  send := by
    intro hhash _
    obtain ⟨hsender, hmap, hheld⟩ := h.send hhash hsend
    exact ⟨hsender, hmap.trans hext.stored, hheld⟩
  recieve := by
    intro _ hrecieve
    cases hsend.symm.trans hrecieve

theorem fitting_extends {s : FileState} (hext : history.Extends history')
    (hstored : ∀ n ∈ history'.stored, n ∈ history.stored ∨
      ∀ fileName, history.receiver ≠ some (i, fileName))
    (h : Fitting sender fileNameHash history i s) :
    Fitting sender fileNameHash history' i s := by
  constructor
  · intro fileName task hget
    exact fits_extends hext (fun n hn => (hstored n hn).imp_right (fun hne => hne _))
      (h.1 fileName task hget)
  · intro task htask
    obtain ⟨hfits, hsend⟩ := h.2 task htask
    exact ⟨fits_of_send hext hsend hfits, hsend⟩

theorem fitting_step {s : FileState} {op : FileOp}
    (h : s.Keyed ∧ Fitting sender fileNameHash history i s)
    (hop : s.Admits (Fits sender fileNameHash history i) (Offered sender fileNameHash history i) op) :
    (s.step op).Keyed ∧ Fitting sender fileNameHash history i (s.step op) :=
  ⟨FileState.keyed_step s op h.1, FileState.all_step h.1 (fun _ ht => ht.1) h.2 hop⟩

-- storing the piece is what makes the longer history fit
theorem fitting_recievePiece {found : FileTask} {pieceID : Nat} (fileContent : Bytes)
    (hk : d.files.Keyed) (h : Fitting sender fileNameHash history i d.files)
    (hfound : d.senderFileMap.get? found.fileName = some found)
    (hrecieve : found.direction = .recieve)
    (hreceiver : history.receiver = some (i, found.fileName))
    (hext : history.Extends history')
    (hstored : ∀ n ∈ history'.stored, n ∈ history.stored ∨ n = pieceID) :
    Fitting sender fileNameHash history' i
      (d.files.step (.recievePiece found.fileName pieceID fileContent)) := by
  constructor
  · intro name task hget
    rw [FileState.step, FileState.get?_modify_of_keyed hk] at hget
    split at hget
    · rename_i hname
      obtain ⟨old, hold, rfl⟩ := Option.map_eq_some_iff.mp hget
      have hold' : d.senderFileMap.get? found.fileName = some old := hname ▸ hold
      obtain rfl := Option.some.inj (hfound.symm.trans hold')
      have hfits := h.1 name found hold
      refine ⟨hfits.length, fun _ hsend => absurd (hrecieve.symm.trans hsend) (by decide), ?_⟩
      intro hhash _
      refine ⟨hext.receiver _ hreceiver, fun n hn => ?_⟩
      change ((found.filePieceContentMap.put pieceID fileContent).get? n).isSome = true
      rw [HashMap.get?_put]
      split
      · rfl
      · rename_i hne
        rcases hstored n hn with hn | rfl
        · exact (hfits.recieve hhash hrecieve).2 n hn
        · exact absurd rfl hne
    · rename_i hname
      refine fits_extends hext (fun n hn => ?_) (h.1 name task hget)
      rcases hstored n hn with hn | -
      · exact .inl hn
      · refine .inr (fun hother => hname ?_)
        rw [hreceiver, hk name task hget] at hother
        exact (congrArg Prod.snd (Option.some.inj hother)).symm
  · intro task htask
    obtain ⟨hfits, hsend⟩ := h.2 task htask
    exact ⟨fits_of_send hext hsend hfits, hsend⟩

theorem fitting_event {e : Device.Event} (hs : d.Sound)
    (h : Fitting sender fileNameHash history i d.files)
    (hhanded : ∀ task ∈ d.handedTask P e, Offered sender fileNameHash history i task)
    (hread : e = .read → dataItem d = none) :
    Fitting sender fileNameHash history i (d.step P env e).files := by
  refine (Machine.reaches_invariant (I := fun s => s.Keyed ∧
    Fitting sender fileNameHash history i s) ?_
    (Device.step_files_reaches hs.1 hs.2 e) ⟨hs.1, h⟩).2
  intro s op hfitting hop
  refine fitting_step hfitting (Device.admits_filePermitted (fun _ status ht =>
    fits_setStatus ht status) (fun _ status ht => ⟨fits_setStatus ht.1 status, ht.2⟩) hfitting.2
    hhanded ?_ hop)
  rintro rfl ⟨item, rest, hqueue, ⟨-, hresumes⟩ | ⟨htype, -⟩⟩
  · exact FileState.admits_resumes (fun _ status ht => fits_setStatus ht status) hfitting.2 hresumes
  · have hnone := hread rfl
    rw [dataItem, hqueue, List.head?_cons, Option.filter_some, if_pos (by rw [htype]; rfl)] at hnone
    cases hnone

variable [DecidableEq ι]

theorem fitting_read {rest : List (MessageItem Bytes)} (hs : d.Sound)
    (hqueue : d.recieveQueue = item :: rest) (htype : item.type = 1)
    (h : Fitting sender fileNameHash history i d.files)
    (hheard : Heard P sender fileNameHash history i item)
    (hguard : (announcedName P fileNameHash item).isSome → history.receiver = none)
    (hempty : history.receiver = none → history.stored = ∅) :
    Fitting sender fileNameHash (history.read P fileNameHash i d item) i
      (d.read P env).files := by
  have hext : history.Extends (history.read P fileNameHash i d item) := read_extends hguard
  have hannounced : ∀ task, Device.announcedTask P item = some task →
      task.fileNameHash = fileNameHash →
        (history.read P fileNameHash i d item).receiver = some (i, task.fileName) ∧
          (history.read P fileNameHash i d item).stored = ∅ := by
    intro task htask hhash
    obtain ⟨hreceiver, hstored⟩ : (history.read P fileNameHash i d item).receiver =
        some (i, task.fileName) ∧ (history.read P fileNameHash i d item).stored =
          history.stored := read_announced htask hhash
    refine ⟨hreceiver, hstored.trans (hempty (hguard ?_))⟩
    rw [announcedName_eq_some.mpr ⟨task, htask, hhash, rfl⟩]
    rfl
  have hdata (s : FileState) (op : FileOp)
      (hfitting : s.Keyed ∧ Fitting sender fileNameHash (history.read P fileNameHash i d item) i s)
      (hop : Device.DataReported P d item s op) : (s.step op).Keyed ∧
        Fitting sender fileNameHash (history.read P fileNameHash i d item) i (s.step op) :=
    fitting_step hfitting (admits_data hheard hext.stored hannounced hfitting.2 hop)
  cases hstored : storedBy P fileNameHash history i d item with
  | none =>
    have hstart : Fitting sender fileNameHash (history.read P fileNameHash i d item) i d.files := by
      refine fitting_extends hext (fun n hn => ?_) h
      rcases mem_stored_read hn with hold | hnew
      · exact .inl hold
      · cases hstored.symm.trans hnew
    refine (Machine.reaches_invariant (I := fun s => s.Keyed ∧ Fitting sender fileNameHash
      (history.read P fileNameHash i d item) i s) ?_
      (Device.read_files_reported hs.1 hs.2) ⟨hs.1, hstart⟩).2
    rintro s op hfitting ⟨first, others, hfirst, ⟨hzero, -⟩ | ⟨-, hop⟩⟩
    · obtain ⟨rfl, -⟩ := List.cons.inj (hqueue.symm.trans hfirst)
      cases htype.symm.trans hzero
    · obtain ⟨rfl, -⟩ := List.cons.inj (hqueue.symm.trans hfirst)
      exact hdata s op hfitting hop
  | some pieceID =>
    obtain ⟨found, hpiece, hhash, hrecieve, hreceiver⟩ := storedBy_eq_some.mp hstored
    obtain ⟨_, _, _, _, _, _, -, -, -, hfind⟩ := Device.storedPiece_reads hpiece
    obtain ⟨fileContent, hreaches⟩ := Device.read_stores env hs.1 hqueue htype hpiece
    refine (Machine.reaches_invariant (I := fun s => s.Keyed ∧ Fitting sender fileNameHash
      (history.read P fileNameHash i d item) i s) hdata hreaches
      ⟨FileState.keyed_step _ _ hs.1, ?_⟩).2
    refine fitting_recievePiece fileContent hs.1 h (Device.found_get? hs.1 hfind) hrecieve
      hreceiver hext (fun n hn => ?_)
    rcases mem_stored_read hn with hold | hnew
    · exact .inl hold
    · exact .inr (Option.some.inj (hnew.symm.trans hstored))

end Steps

section Cells

variable {P : Platform} {sender i : ι} {fileNameHash : Bytes} {history history' : History ι}
  {d : Device} {item : MessageItem Bytes} {x : Nat × Cell} {sharedKey raw : Bytes}

theorem speaks_of_quiet (h : x.2.Quiet) (hcell : x.2 = .data sharedKey raw) :
    Speaks P sender fileNameHash history i raw where
  ready := fun hnames => absurd hnames (not_names_of_quiet h hcell (.inl rfl))
  piece := fun hnames => absurd hnames (not_names_of_quiet h hcell (.inr (.inl rfl)))
  ack := fun hnames => absurd hnames (not_names_of_quiet h hcell (.inr (.inr rfl)))

theorem speaks_of_ready {hash : Bytes} (hhash : hash.length = 20) (h : x.2.Ready P hash)
    (hcell : x.2 = .data sharedKey raw)
    (hreceiver : fileNameHash = hash → ∃ fileName, history.receiver = some (i, fileName)) :
    Speaks P sender fileNameHash history i raw where
  ready := fun hnames => hreceiver (names_of_ready hhash h hcell hnames).2
  piece := fun hnames => absurd (names_of_ready hhash h hcell hnames).1 (by decide)
  ack := fun hnames => absurd (names_of_ready hhash h hcell hnames).1 (by decide)

theorem speaks_of_piece {hash : Bytes} (hhash : hash.length = 20) (h : x.2.Piece P hash)
    (hcell : x.2 = .data sharedKey raw) (hsender : fileNameHash = hash → i = sender) :
    Speaks P sender fileNameHash history i raw where
  ready := fun hnames => absurd (names_of_piece hhash h hcell hnames).1 (by decide)
  piece := fun hnames => hsender (names_of_piece hhash h hcell hnames).2
  ack := fun hnames => absurd (names_of_piece hhash h hcell hnames).1 (by decide)

theorem speaks_of_fileAck {hash : Bytes} {ack : String} {pieceID : Nat} (hhash : hash.length = 20)
    (hack : (getBytes ack).length = 2) (h : x.2.FileAck P hash ack pieceID)
    (hcell : x.2 = .data sharedKey raw)
    (hreceiver : fileNameHash = hash → ∃ fileName, history.receiver = some (i, fileName))
    (hstored : fileNameHash = hash → ack = "ok" →
      pieceID < 2 ^ 31 ∧ pieceID ∈ history.stored) :
    Speaks P sender fileNameHash history i raw where
  ready := fun hnames => absurd (names_of_fileAck hhash hack h hcell hnames).1 (by decide)
  piece := fun hnames => absurd (names_of_fileAck hhash hack h hcell hnames).1 (by decide)
  ack := by
    intro hnames
    obtain ⟨-, hname, hpiece⟩ := names_of_fileAck hhash hack h hcell hnames
    refine ⟨hreceiver hname, fun number hnumber => ?_⟩
    obtain ⟨hok, hread⟩ := hpiece number hnumber
    obtain ⟨hlt, hmem⟩ := hstored hname hok
    exact (hread hlt).symm ▸ hmem

theorem speaks_of_textAck {messageID : Nat} (h : x.2.TextAck P messageID)
    (hcell : x.2 = .data sharedKey raw) : Speaks P sender fileNameHash history i raw where
  ready := fun hnames => absurd hnames (not_names_of_textAck h hcell)
  piece := fun hnames => absurd hnames (not_names_of_textAck h hcell)
  ack := fun hnames => absurd hnames (not_names_of_textAck h hcell)

theorem task_of_role {fileName : String} {role : Direction × Bytes}
    (h : d.role fileName = some role) : ∃ task, d.senderFileMap.get? fileName = some task ∧
      task.direction = role.1 ∧ task.fileNameHash = role.2 := by
  obtain ⟨task, hget, rfl⟩ := Option.map_eq_some_iff.mp h
  exact ⟨task, hget, rfl, rfl⟩

theorem speaks_resent (h : Fitting sender fileNameHash history i d.files)
    (hx : Device.Resent P d.role x) (hcell : x.2 = .data sharedKey raw) :
    Speaks P sender fileNameHash history i raw := by
  rcases hx with hquiet | ⟨fileName, hash, ⟨hrole, hpiece⟩ | ⟨hrole, count, hack⟩⟩
  · exact speaks_of_quiet hquiet hcell
  · obtain ⟨task, hget, hsend, rfl⟩ := task_of_role hrole
    have hfits := h.1 fileName task hget
    exact speaks_of_piece hfits.length hpiece hcell
      (fun hhash => (hfits.send hhash.symm hsend).1)
  · obtain ⟨task, hget, hrecieve, rfl⟩ := task_of_role hrole
    have hfits := h.1 fileName task hget
    refine speaks_of_fileAck hfits.length (by decide) hack hcell ?_ ?_
    · exact fun hhash => ⟨_, (hfits.recieve hhash.symm hrecieve).1⟩
    · exact fun _ hck => absurd hck (by decide)

theorem names_of_request (h : Device.requestsPieces P item = true) {found : FileTask}
    (hselected : d.selectedTask P item = some found) :
    Names P Constant.dataFileReady item.data found.fileNameHash ∨
      Names P Constant.dataAck item.data found.fileNameHash := by
  have htype : Message.parseMessageType item.data = some Constant.dataFileReady ∨
      Message.parseMessageType item.data = some Constant.dataAck := by
    rw [Device.requestsPieces] at h
    split at h
    · rename_i messageType internalPayload htype hpayload
      rcases Bool.or_eq_true_iff.mp h with hready | hck
      · exact .inl ((of_decide_eq_true hready) ▸ htype)
      · exact .inr ((of_decide_eq_true (Bool.and_eq_true_iff.mp hck).1) ▸ htype)
    · cases h
  exact htype.imp (fun hready => names_of_selected hready hselected)
    (fun hack => names_of_selected hack hselected)

theorem storedPiece_lt {found : FileTask} {pieceID : Nat}
    (h : d.storedPiece P item = some (found, pieceID)) : pieceID < 2 ^ 31 := by
  obtain ⟨_, _, internalPayload, _, hash, fileContent, -, -, hparse, -⟩ :=
    Device.storedPiece_reads h
  simp only [FileMessage.parseFileDataMessage, Option.bind_eq_bind, Option.bind_eq_some_iff,
    Option.pure_def, Option.some.injEq, Prod.mk.injEq] at hparse
  obtain ⟨_, -, id, ⟨bytes, -, hnumber⟩, _, -, -, rfl, -⟩ := hparse
  rw [parseInt16] at hnumber
  split at hnumber
  · rename_i hbound
    obtain rfl := Option.some.inj hnumber
    exact hbound.2
  · cases hnumber

variable [DecidableEq ι]

theorem speaks_stored {found : FileTask} {pieceID : Nat} (hk : d.files.Keyed)
    (h : Fitting sender fileNameHash history i d.files)
    (hheard : Heard P sender fileNameHash history i item)
    (hext : history.Extends (history.read P fileNameHash i d item))
    (hpiece : d.storedPiece P item = some (found, pieceID))
    (hack : x.2.FileAck P found.fileNameHash Constant.dataAckContent pieceID)
    (hcell : x.2 = .data sharedKey raw) :
    Speaks P sender fileNameHash (history.read P fileNameHash i d item) i raw := by
  obtain ⟨_, _, internalPayload, _, hash, fileContent, hreads, -, hparse, hfind⟩ :=
    Device.storedPiece_reads hpiece
  have hfits := h.1 found.fileName found (Device.found_get? hk hfind)
  have hreceives : fileNameHash = found.fileNameHash → found.direction = .recieve ∧
      history.receiver = some (i, found.fileName) := by
    intro hhash
    have hnames := names_of_selected hreads.type
      (Device.selected_data hreads.type hreads.payload hparse hfind)
    rw [← hhash] at hnames
    cases hdirection : found.direction with
    | send => exact absurd (hfits.send hhash.symm hdirection).1 (hheard.piece hnames)
    | recieve => exact ⟨rfl, (hfits.recieve hhash.symm hdirection).1⟩
  refine speaks_of_fileAck hfits.length (by decide) hack hcell ?_ ?_
  · exact fun hhash => ⟨_, hext.receiver _ (hreceives hhash).2⟩
  · intro hhash _
    obtain ⟨hrecieve, hreceiver⟩ := hreceives hhash
    have hstored : storedBy P fileNameHash history i d item = some pieceID :=
      storedBy_eq_some.mpr ⟨found, hpiece, hhash.symm, hrecieve, hreceiver⟩
    refine ⟨storedPiece_lt hpiece, ?_⟩
    rw [History.read, hstored]
    exact Finset.mem_insert_self _ _

theorem speaks_emission (hk : d.files.Keyed) (h : Fitting sender fileNameHash history i d.files)
    (hheard : Heard P sender fileNameHash history i item)
    (hguard : (announcedName P fileNameHash item).isSome → history.receiver = none)
    (hx : Device.Emission P d item x) (hcell : x.2 = .data sharedKey raw) :
    Speaks P sender fileNameHash (history.read P fileNameHash i d item) i raw := by
  have hext : history.Extends (history.read P fileNameHash i d item) := read_extends hguard
  cases hx with
  | quiet hquiet => exact speaks_of_quiet hquiet hcell
  | ready task hannounced hready =>
    have hlength : task.fileNameHash.length = 20 := by
      obtain ⟨-, fileName, fileSize, contentHash, rfl⟩ := Device.announced_ofMeta hannounced
      exact P.sha1_length _
    refine speaks_of_ready hlength hready hcell (fun hhash => ⟨task.fileName, ?_⟩)
    exact (read_announced hannounced hhash.symm).1
  | piece found hrequest hselected hpiece =>
    obtain ⟨fileName, hget⟩ := Device.selectedTask_stored hselected
    have hfits := h.1 fileName found hget
    refine speaks_of_piece hfits.length hpiece hcell (fun hhash => ?_)
    cases hdirection : found.direction with
    | send => exact (hfits.send hhash.symm hdirection).1
    | recieve =>
      have hreceiver := (hfits.recieve hhash.symm hdirection).1
      rw [hhash] at hheard
      rcases names_of_request hrequest hselected with hready | hck
      · exact absurd hreceiver (hheard.ready hready _)
      · exact absurd hreceiver ((hheard.ack hck).1 _)
  | fileAck found pieceID hstored hfileAck =>
    exact speaks_stored hk h hheard hext hstored hfileAck hcell
  | textAck statusItem messageID internalPayload hreads hpointers hsocket htextAck =>
    exact speaks_of_textAck htextAck hcell

end Cells

section Runs

variable {P : Platform} {W : Wiring ι} {sender : ι} {fileNameHash : Bytes} {s : Transfer ι}
  {d : Device} {item : MessageItem Bytes}

theorem dataItem_eq_some : dataItem d = some item ↔
    ∃ rest, d.recieveQueue = item :: rest ∧ item.type = 1 := by
  rw [dataItem, Option.filter_eq_some_iff, List.head?_eq_some_iff]
  simp only [decide_eq_true_iff, exists_and_right]

variable (P W sender fileNameHash) in
structure Invariant (s : Transfer ι) : Prop where
  carried : Network.Carried W s.network
  sound : ∀ i, (s.network i).Sound
  unstored : s.history.receiver = none → s.history.stored = ∅
  fitting : ∀ i, Fitting sender fileNameHash s.history i (s.network i).files
  speaks : ∀ i, ∀ x ∈ (s.network i).outbox, ∀ sharedKey raw, x.2 = .data sharedKey raw →
    Speaks P sender fileNameHash s.history i raw

theorem invariant_started (h : Started s) : Invariant P W sender fileNameHash s where
  carried := by
    intro i item hitem
    rw [h.recieveQueue i] at hitem
    cases hitem
  sound := fun i => ⟨FileState.keyed_of_empty (h.senderFileMap i), h.named i⟩
  unstored := by
    intro _
    rw [h.history]
  fitting := by
    intro i
    constructor
    · intro fileName task hget
      rw [show (s.network i).files.senderFileMap = ∅ from h.senderFileMap i,
        HashMap.get?_empty] at hget
      cases hget
    · intro task htask
      rw [show (s.network i).files.registering = [] from h.registering i] at htask
      cases htask
  speaks := by
    intro i x hx
    rw [Device.outbox, h.written i, h.sendQueue i] at hx
    cases hx

theorem heard_of_invariant {i : ι} (h : Invariant P W sender fileNameHash s)
    (hitem : dataItem (s.network i) = some item) :
    Heard P sender fileNameHash s.history i item := by
  obtain ⟨rest, hqueue, htype⟩ := dataItem_eq_some.mp hitem
  obtain ⟨j, socket, sharedKey, hpeer, hwritten⟩ :=
    h.carried i item (by rw [hqueue]; exact List.mem_cons_self) htype
  exact heard_of_speaks (W.distinct _ _ hpeer)
    (h.speaks j _ (List.mem_append_left _ hwritten) sharedKey item.data rfl)

variable [DecidableEq ι]

theorem speaks_take {t : Network.Taken ι} {history' : History ι}
    (h : Invariant P W sender fileNameHash s) (hext : s.history.Extends history')
    (hnew : ∀ item, t.event = .read → dataItem (s.network t.device) = some item →
      ∀ x, Device.Emission P (s.network t.device) item x → ∀ sharedKey raw,
        x.2 = .data sharedKey raw → Speaks P sender fileNameHash history' t.device raw)
    (i : ι) (x : Nat × Cell) (hx : x ∈ (Network.take P s.network t i).outbox)
    (sharedKey raw : Bytes) (hcell : x.2 = .data sharedKey raw) :
    Speaks P sender fileNameHash history' i raw := by
  rcases Network.take_emits P s.network t i with ⟨rfl, hemits⟩ | ⟨-, heq⟩
  · rcases hemits.outbox x hx with hold | hresent | ⟨hread, item, rest, hqueue, htype, hemission⟩
    · exact speaks_extends hext (h.speaks _ x hold sharedKey raw hcell)
    · exact speaks_extends hext (speaks_resent (h.fitting _) hresent hcell)
    · exact hnew item hread (dataItem_eq_some.mpr ⟨rest, hqueue, htype⟩) x hemission sharedKey raw
        hcell
  · rw [heq] at hx
    exact speaks_extends hext (h.speaks i x hx sharedKey raw hcell)

theorem sound_take (h : ∀ i, (s.network i).Sound) (t : Network.Taken ι) (i : ι) :
    (Network.take P s.network t i).Sound := by
  rw [Network.take_apply]
  split
  · exact Device.sound_step (h t.device) t.event
  · exact h i

theorem invariant_read {e : Network.Event ι} {t : Network.Taken ι}
    (h : Invariant P W sender fileNameHash s) (ht : Network.taken W s.network e = some t)
    (hread : t.event = .read) (hitem : dataItem (s.network t.device) = some item)
    (hguard : (announcedName P fileNameHash item).isSome → s.history.receiver = none) :
    Invariant P W sender fileNameHash
      ⟨Network.take P s.network t,
        s.history.read P fileNameHash t.device (s.network t.device) item⟩ := by
  have hext := read_extends (i := t.device) (d := s.network t.device) hguard
  have hheard := heard_of_invariant h hitem
  obtain ⟨rest, hqueue, htype⟩ := dataItem_eq_some.mp hitem
  refine ⟨Network.carried_take h.carried ht, sound_take h.sound t, ?_, ?_, ?_⟩
  · intro hnone
    cases hstored : storedBy P fileNameHash s.history t.device (s.network t.device) item with
    | none =>
      cases hreceiver : s.history.receiver with
      | none =>
        rw [History.read, hstored]
        exact h.unstored hreceiver
      | some r => cases hnone.symm.trans (hext.receiver r hreceiver)
    | some pieceID =>
      obtain ⟨found, -, -, -, hreceiver⟩ := storedBy_eq_some.mp hstored
      cases hnone.symm.trans (hext.receiver _ hreceiver)
  · intro i
    dsimp only
    rw [Network.take_apply]
    split
    · rename_i hi
      rw [hi, hread]
      exact fitting_read (h.sound _) hqueue htype (h.fitting _) hheard hguard h.unstored
    · rename_i hi
      refine fitting_extends hext (fun n hn => ?_) (h.fitting i)
      rcases mem_stored_read hn with hold | hnew
      · exact .inl hold
      · obtain ⟨found, -, -, -, hreceiver⟩ := storedBy_eq_some.mp hnew
        refine .inr (fun fileName hother => hi ?_)
        exact (congrArg Prod.fst (Option.some.inj (hreceiver.symm.trans hother))).symm
  · refine speaks_take h hext (fun other _ hother x hx sharedKey raw hcell => ?_)
    obtain rfl := Option.some.inj (hitem.symm.trans hother)
    exact speaks_emission (h.sound _).1 (h.fitting _) hheard hguard hx hcell

theorem invariant_other {e : Network.Event ι} {t : Network.Taken ι}
    (h : Invariant P W sender fileNameHash s) (ht : Network.taken W s.network e = some t)
    (hread : t.event = .read → dataItem (s.network t.device) = none)
    (hguard : OneAnnouncement P sender fileNameHash s t) :
    Invariant P W sender fileNameHash ⟨Network.take P s.network t, s.history⟩ := by
  refine ⟨Network.carried_take h.carried ht, sound_take h.sound t, h.unstored, ?_, ?_⟩
  · intro i
    dsimp only
    rw [Network.take_apply]
    split
    · rename_i hi
      subst hi
      refine fitting_event (h.sound _) (h.fitting _) ?_ hread
      intro task htask
      obtain ⟨device, env, event⟩ := t
      cases event with
      | sendFile fileFullPath content remoteOnion messageID =>
        obtain rfl := Option.some.inj htask
        exact ⟨fits_ofFile hguard, rfl⟩
      | sendBytes fileFullPath bitmapBytes remoteOnion messageID =>
        obtain rfl := Option.some.inj htask
        exact ⟨fits_ofBitmap hguard, rfl⟩
      | _ => cases htask
    · exact h.fitting i
  · refine speaks_take h ⟨fun _ hr => hr, subset_rfl⟩ ?_
    intro item hevent hitem
    cases (hread hevent).symm.trans hitem

theorem invariant_step (s : Transfer ι) (e : Network.Event ι)
    (h : Invariant P W sender fileNameHash s) (hg : OneTransfer P W sender fileNameHash s e) :
    Invariant P W sender fileNameHash (step P W fileNameHash s e) := by
  rw [step]
  split
  · exact h
  · rename_i t ht
    have hone := hg t ht
    rw [History.next]
    split
    · rename_i item hread hitem
      refine invariant_read h ht hread hitem ?_
      rw [OneAnnouncement, hread] at hone
      exact hone item hitem
    · rename_i hother
      refine invariant_other h ht (fun hread => ?_) hone
      rw [Option.eq_none_iff_forall_ne_some]
      exact fun item hitem => hother item hread hitem

end Runs

section Resend

variable {P : Platform}

theorem pieceItems_of_held {build : Nat → Bytes → MessageItem (Option Cell)}
    {pieces : HashMap Nat Bytes} {is : List Nat} (h : ∀ n ∈ is, (pieces.get? n).isSome) {n : Nat}
    (hn : n ∈ is) : ∃ fileContent, pieces.get? n = some fileContent ∧
      build n fileContent ∈ (Device.pieceItems build pieces is).1 := by
  induction is with
  | nil => cases hn
  | cons k is ih =>
    obtain ⟨fileContent, hget⟩ := Option.isSome_iff_exists.mp (h k List.mem_cons_self)
    rw [Device.pieceItems, hget]
    rcases List.mem_cons.mp hn with rfl | hrest
    · exact ⟨fileContent, hget, List.mem_cons_self⟩
    · obtain ⟨piece, hpiece, hmem⟩ := ih (fun m hm => h m (List.mem_cons_of_mem k hm)) hrest
      exact ⟨piece, hpiece, List.mem_cons_of_mem _ hmem⟩

theorem resends_of_held {task : FileTask} {stored : Finset Nat}
    (hmap : task.fileTransferStatusMap ⊆ stored)
    (hheld : ∀ n < task.totalPieceNumber.toNat, (task.filePieceContentMap.get? n).isSome)
    (env : Env) (d : Device) {statusItem : ConnectionStatusItem} (messageID : Nat)
    (hkey : statusItem.shareKey.isSome) : Resends P env d task statusItem messageID stored := by
  obtain ⟨sharedKey, hsharedKey⟩ := Option.isSome_iff_exists.mp hkey
  rw [Resends, Device.resend, hsharedKey]
  refine ⟨_, rfl, fun n hn hlacks => ?_⟩
  apply pieceItems_of_held
  · intro k hk
    exact hheld k (List.mem_range.mp (List.mem_filter.mp hk).1)
  · rw [List.mem_filter]
    exact ⟨List.mem_range.mpr hn, decide_eq_true (fun hacked => hlacks (hmap hacked))⟩

end Resend

theorem acked_pieces_held [DecidableEq ι] {P : Platform} {W : Wiring ι} {sender : ι}
    {fileNameHash : Bytes} {s : Transfer ι} (hs : Started s) {events : List (Network.Event ι)}
    (h : (machine P W fileNameHash).Guarded (OneTransfer P W sender fileNameHash) s events) :
    Held P sender fileNameHash ((machine P W fileNameHash).run s events) := by
  have hfinal := (machine P W fileNameHash).guarded_invariant invariant_step h
    (invariant_started hs)
  constructor
  · intro fileName task hget hhash hsend
    exact (((hfinal.fitting sender).1 fileName task hget).send hhash hsend).2.1
  · intro i fileName task hget hhash hrecieve
    have hname := (hfinal.sound i).1 fileName task hget
    obtain ⟨hreceiver, hstored⟩ := ((hfinal.fitting i).1 fileName task hget).recieve hhash hrecieve
    exact ⟨hname ▸ hreceiver, hstored⟩
  · intro fileName task hget hhash hsend env d statusItem messageID hkey
    obtain ⟨-, hmap, hheld⟩ := ((hfinal.fitting sender).1 fileName task hget).send hhash hsend
    exact resends_of_held hmap hheld env d messageID hkey

instance [DecidableEq ι] (P : Platform) (sender : ι) (fileNameHash : Bytes) (s : Transfer ι)
    (t : Network.Taken ι) : Decidable (OneAnnouncement P sender fileNameHash s t) := by
  unfold OneAnnouncement
  split
  · infer_instance
  · infer_instance
  · infer_instance
  · infer_instance

instance [DecidableEq ι] (P : Platform) (W : Wiring ι) (sender : ι) (fileNameHash : Bytes)
    (s : Transfer ι) (e : Network.Event ι) : Decidable (OneTransfer P W sender fileNameHash s e) :=
  inferInstanceAs (Decidable (∀ t ∈ Network.taken W s.network e, _))

def twoPhones : Transfer Bool where
  network i := if i then Delivery.bob [1] else Delivery.alice [1]

def sendOnePiece : List (Network.Event Bool) :=
  [.act false {} (.sendFile "f" [7] "bob" 1000), .act false {} (.register 0),
    .act false {} .write, .deliver false 0, .act true {} .read, .deliver true 0,
    .act false {} .read, .act false {} .write, .deliver false 1, .act true {} .read,
    .deliver true 1, .deliver true 1, .act false {} .read, .act false {} .read]

theorem started_twoPhones : Started twoPhones where
  named i := by
    cases i <;> exact Connections.named_addNewConnection Connections.named_empty _
  senderFileMap i := by cases i <;> rfl
  registering i := by cases i <;> rfl
  written i := by cases i <;> rfl
  sendQueue i := by cases i <;> rfl
  recieveQueue i := by cases i <;> rfl
  history := rfl

theorem acked_pieces_held_one_piece :
    Held demoPlatform false (demoPlatform.sha1 (getBytes "f"))
      ((machine demoPlatform Delivery.oneLink (demoPlatform.sha1 (getBytes "f"))).run twoPhones
        sendOnePiece) :=
  acked_pieces_held started_twoPhones (by decide +kernel)

end HeldPieces

end TorChat
