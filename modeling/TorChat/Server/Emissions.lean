import TorChat.Server.Outbox

namespace TorChat

open Library (Bytes HashMap)

def Notice.acked : Notice → Option Nat
  | .peerHasReceivedMessage messageID => some messageID
  | _ => none

namespace Device

variable {X : Nat × Cell → Prop} {N : Notice → Prop} {d₀ d : Device} {P : Platform} {env : Env}

section Data

variable (P)

structure Reads (d : Device) (item : MessageItem Bytes) (statusItem : ConnectionStatusItem)
    (messageID messageType : Nat) (internalPayload : Bytes) : Prop where
  conn : d.conns.getConnectionStatusItem item.onionName item.socket = some statusItem
  key : statusItem.shareKey.isNone = false
  id : Message.parseMessageID item.data = some messageID
  type : Message.parseMessageType item.data = some messageType
  payload : Message.parseExternalPaylod P item.data = some internalPayload

def storedPiece (d : Device) (item : MessageItem Bytes) : Option (FileTask × Nat) := do
  let statusItem ← d.conns.getConnectionStatusItem item.onionName item.socket
  let _ ← statusItem.shareKey
  let messageID ← Message.parseMessageID item.data
  let messageType ← Message.parseMessageType item.data
  let internalPayload ← Message.parseExternalPaylod P item.data
  if messageType = Constant.dataFileData then do
    let _ ← d.keys.getRecordXOR item.data messageID
    let (fileNameHash, pieceID, _) ← FileMessage.parseFileDataMessage internalPayload
    let found ← d.getFileTaskByFileNameHash fileNameHash
    return (found, pieceID)
  else none

def acknowledgedText (externalPayload : Bytes) : Option Nat := do
  let messageID ← Message.parseMessageID externalPayload
  let messageType ← Message.parseMessageType externalPayload
  let internalPayload ← Message.parseExternalPaylod P externalPayload
  if messageType = Constant.dataAck then do
    let message ← DataMessage.parseACKDataMessage internalPayload
    if message.messageType > 0 then none else some messageID
  else none

inductive Emission (d : Device) (item : MessageItem Bytes) (x : Nat × Cell) : Prop where
  | quiet (hcell : x.2.Quiet)
  | ready (task : FileTask) (hannounced : announcedTask P item = some task)
      (hcell : x.2.Ready P task.fileNameHash)
  | piece (found : FileTask) (hrequest : requestsPieces P item = true)
      (hselected : d.selectedTask P item = some found) (hcell : x.2.Piece P found.fileNameHash)
  | fileAck (found : FileTask) (pieceID : Nat) (hstored : d.storedPiece P item = some (found, pieceID))
      (hcell : x.2.FileAck P found.fileNameHash Constant.dataAckContent pieceID)
  | textAck (statusItem : ConnectionStatusItem) (messageID : Nat) (internalPayload : Bytes)
      (hreads : d.Reads P item statusItem messageID Constant.dataMessage internalPayload)
      (hpointers : (d.keys.getRecordXOR item.data messageID).isSome) (hsocket : x.1 = item.socket)
      (hcell : x.2.TextAck P messageID)

def readAck (d : Device) (item : MessageItem Bytes) : Option Nat := do
  let statusItem ← d.conns.getConnectionStatusItem item.onionName item.socket
  let _ ← statusItem.shareKey
  acknowledgedText P item.data

def Noticed (d : Device) (item : MessageItem Bytes) (n : Notice) : Prop :=
  ∀ messageID, n = .peerHasReceivedMessage messageID → d.readAck P item = some messageID

end Data

section Handlers

variable {d : Device} {item : MessageItem Bytes} {statusItem : ConnectionStatusItem}
  {messageID messageType : Nat} {internalPayload : Bytes}

theorem noticed_other {n : Notice} (h : n.acked = none) : Noticed P d item n := by
  rintro messageID rfl
  cases h

theorem socket_of_reads (h : d.Reads P item statusItem messageID messageType internalPayload) :
    statusItem.socket = item.socket := by
  obtain ⟨items, -, hfind⟩ := Option.bind_eq_some_iff.mp h.conn
  exact (ConnectionItems.mem_of_getConnBySocket hfind).2

theorem emits_receiveTextMessage
    (h : d.Reads P item statusItem messageID Constant.dataMessage internalPayload) :
    Emits (Emission P d item) (Noticed P d item) d
      (d.receiveTextMessage P env internalPayload statusItem item messageID) := by
  rw [receiveTextMessage]
  split
  · exact emits_refl d
  · rename_i keys hkeys
    dsimp only
    have hread : Emits (Emission P d item) (Noticed P d item) d (d.setKeys keys) :=
      emits_setKeys (emits_refl d) keys
    have hcell (socket : Nat) (cell : Cell) (messageHash : Bytes) (hsocket : socket = item.socket)
        (hcell : DataMessage.buildACKDataMessage P (env.ambient 0) keys statusItem.shareKey 0 1
          Constant.dataAckContent (P.sha1 messageHash) messageID = some cell) :
        Emission P d item (socket, cell) :=
      .textAck statusItem messageID internalPayload h (by rw [hkeys]; rfl) hsocket
        ⟨_, _, P.sha1_length _, Cell.carries_ack hcell⟩
    cases JniEntryUtils.decry P (d.setKeys keys).keys.keyFile internalPayload with
    | none =>
      dsimp only
      split
      · exact emits_setKeys hread _
      · rename_i payload hpayload
        exact emits_sendMessage (emits_setKeys hread _)
          (hcell _ _ _ (socket_of_reads h) hpayload) (emits_refl _)
    | some plain =>
      dsimp only
      split
      · exact emits_setKeys (emits_notify hread (noticed_other rfl)) _
      · rename_i payload hpayload
        exact emits_sendMessage (emits_setKeys (emits_notify hread (noticed_other rfl)) _)
          (hcell _ _ _ (socket_of_reads h) hpayload) (emits_refl _)

theorem emits_prepareReceiveFile
    (h : d.Reads P item statusItem messageID Constant.dataFileMeta internalPayload) :
    Emits (Emission P d item) (Noticed P d item) d
      (d.prepareReceiveFile P env internalPayload statusItem item messageID) := by
  rw [prepareReceiveFile]
  split
  · exact emits_refl d
  · dsimp only
    split
    · exact emits_of_eq rfl
    · rename_i keys hkeys task hparse
      have hannounced : announcedTask P item = some task := by
        simp only [announcedTask, h.type, h.payload, if_true, hparse]
      split
      · exact emits_of_eq rfl
      · rename_i finalPayload hpayload
        refine emits_sendMessage (emits_of_eq rfl) ?_ ?_
        · exact .ready task hannounced ⟨messageID, Cell.carries_pack hpayload⟩
        · exact emits_notify (emits_putTask (emits_refl _) _) (noticed_other rfl)

theorem selected_ready {fileNameHash : Bytes} {task : FileTask}
    (h : d.Reads P item statusItem messageID Constant.dataFileReady internalPayload)
    (hparse : FileMessage.parseFileReadyMessage internalPayload = some fileNameHash)
    (hfound : d.getFileTaskByFileNameHash fileNameHash = some task) :
    d.selectedTask P item = some task := by
  simp only [selectedTask, h.type, h.payload, selectedHash, true_or, if_true, hparse,
    Option.bind_some, hfound]

theorem emits_sendFileShards
    (h : d.Reads P item statusItem messageID Constant.dataFileReady internalPayload) :
    Emits (Emission P d item) (Noticed P d item) d
      (d.sendFileShards P env internalPayload statusItem item messageID) := by
  rw [sendFileShards]
  split
  · exact emits_refl d
  · dsimp only
    split
    · exact emits_of_eq rfl
    · rename_i keys hkeys fileNameHash hparse
      split
      · exact emits_of_eq rfl
      · rename_i task hfound
        have hfound' : d.getFileTaskByFileNameHash fileNameHash = some task := hfound
        have hrequest : requestsPieces P item = true := by
          simp only [requestsPieces, h.type, h.payload, decide_true, Bool.true_or]
        refine emits_enqueuePieces (emits_modifyTask (emits_updateConnectionPurpose
          (emits_setKeys (emits_refl d) _) item _) task _) ?_
        intro i hi cell hcell
        have hpiece : cell.Piece P fileNameHash := piece_of_mem_pieceItems hi hcell
        rw [← found_hash hfound'] at hpiece
        exact .piece task hrequest (selected_ready h hparse hfound') hpiece

theorem emits_receiveAllFileShards (d : Device) (task : FileTask)
    (statusItem : ConnectionStatusItem) (item : MessageItem Bytes) (messageID : Nat)
    {X : Nat × Cell → Prop} (hX : ∀ socket cell, cell.Quiet → X (socket, cell)) :
    Emits X (Noticed P d₀ item) d
      (d.receiveAllFileShards P env task statusItem item messageID) := by
  rw [receiveAllFileShards]
  split
  · dsimp only
    split
    · exact emits_of_eq rfl
    · split
      · exact emits_of_eq rfl
      · rename_i finalPayload hpayload
        split
        · have hquiet : finalPayload.Quiet := Cell.quiet_of_carries (Cell.carries_pack hpayload)
            (by decide) (by decide) (by decide) (by decide)
          exact emits_trans (emits_notify (emits_transmit (emits_of_eq rfl) (hX _ _ hquiet))
            (noticed_other rfl)) (emits_of_eq rfl)
        · exact emits_of_eq rfl
  · exact emits_refl d

theorem emits_notify_if (c : Prop) [Decidable c] (h : Emits X N d₀ d) {notice : Notice}
    (hnotice : N notice) : Emits X N d₀ (if c then d.notify notice else d) := by
  split
  · exact emits_notify h hnotice
  · exact h

theorem storedPiece_of_reads {keys : KeyState} {fileNameHash fileContent : Bytes}
    {pieceID : Nat} {found : FileTask}
    (h : d.Reads P item statusItem messageID Constant.dataFileData internalPayload)
    (hkeys : d.keys.getRecordXOR item.data messageID = some keys)
    (hparse : FileMessage.parseFileDataMessage internalPayload =
      some (fileNameHash, pieceID, fileContent))
    (hfound : d.getFileTaskByFileNameHash fileNameHash = some found) :
    d.storedPiece P item = some (found, pieceID) := by
  obtain ⟨sharedKey, hkey⟩ := Option.isSome_iff_exists.mp (Option.isNone_eq_false_iff.mp h.key)
  simp only [storedPiece, h.conn, hkey, h.id, h.type, h.payload, hkeys, hparse, hfound, if_true,
    Option.bind_eq_bind, Option.bind_some, Option.pure_def]

theorem emits_receiveFileShards
    (h : d.Reads P item statusItem messageID Constant.dataFileData internalPayload) :
    Emits (Emission P d item) (Noticed P d item) d
      (d.receiveFileShards P env internalPayload statusItem item messageID) := by
  rw [receiveFileShards]
  split
  · exact emits_refl d
  · rename_i keys hkeys
    dsimp only
    split
    · exact emits_of_eq rfl
    · rename_i fileNameHash pieceID fileContent hparse
      split
      · exact emits_of_eq rfl
      · rename_i found hfound
        have hfound' : d.getFileTaskByFileNameHash fileNameHash = some found := hfound
        have hstored := storedPiece_of_reads h hkeys hparse hfound'
        have hreceived : Emits (Emission P d item) (Noticed P d item) d
            ((d.setKeys keys).modifyTask found (fun t =>
              (t.recievePieceData pieceID fileContent).setStatus .transferrring)) :=
          emits_modifyTask (emits_setKeys (emits_refl d) keys) found _
        split
        · exact emits_setKeys (emits_notify_if _ hreceived (noticed_other rfl)) _
        · rename_i finalPayload hpayload
          refine emits_trans ?_ (emits_receiveAllFileShards _ _ statusItem item messageID
            (fun _ _ hquiet => .quiet hquiet))
          split
          · refine emits_transmit (emits_setKeys
              (emits_notify_if _ hreceived (noticed_other rfl)) _) ?_
            exact .fileAck found pieceID hstored ⟨messageID, _, Cell.carries_ack hpayload⟩
          · exact emits_deleteConnection (emits_modifyTask (emits_setKeys
              (emits_notify_if _ hreceived (noticed_other rfl)) _) _ _) _ _

theorem emits_receiveFileDone (d : Device) (internalPayload : Bytes) (messageID : Nat)
    (item : MessageItem Bytes) :
    Emits X (Noticed P d item) d (d.receiveFileDone internalPayload messageID) := by
  rw [receiveFileDone]
  split
  · exact emits_refl d
  · split
    · exact emits_refl d
    · exact emits_trans (emits_notify (emits_refl d) (noticed_other rfl)) (emits_of_eq rfl)

theorem emits_receiveFileAck {message : ACKMessage}
    (h : d.Reads P item statusItem messageID Constant.dataAck internalPayload)
    (hparse : DataMessage.parseACKDataMessage internalPayload = some message)
    (hfile : message.messageType > 0) :
    Emits (Emission P d item) (Noticed P d item) d
      (d.receiveFileAck P env message statusItem item messageID) := by
  rw [receiveFileAck]
  split
  · exact emits_refl d
  · rename_i found hfound
    split
    · dsimp only
      split
      · refine emits_enqueue (emits_notify (emits_modifyTask (emits_refl d) found _)
          (noticed_other rfl)) ?_
        intro i hi cell hcell
        rw [List.mem_singleton.mp hi] at hcell
        obtain rfl := Option.some.inj hcell
        exact .quiet Cell.quiet_zeros
      · exact emits_modifyTask (emits_refl d) found _
    · split
      · rename_i hck
        have hrequest : requestsPieces P item = true := by
          simp only [requestsPieces, h.type, h.payload, hparse, Option.map_some, hck, decide_true,
            Bool.and_true, Bool.or_true]
        have hselected : d.selectedTask P item = some found := by
          simp only [selectedTask, h.type, h.payload, selectedHash, Constant.dataFileData,
            Constant.dataFileReady, Constant.dataFileDone, Constant.dataAck, hparse,
            Option.bind_some, hfile, hfound, Nat.reduceEqDiff, or_self, if_false, if_true]
        exact emits_resend (emits_refl d) found statusItem messageID
          (fun _ _ hpiece => .piece found hrequest hselected hpiece)
      · exact emits_refl d

theorem emits_receiveAck
    (h : d.Reads P item statusItem messageID Constant.dataAck internalPayload) :
    Emits (Emission P d item) (Noticed P d item) d
      (d.receiveAck P env internalPayload statusItem item messageID) := by
  rw [receiveAck]
  split
  · exact emits_refl d
  · rename_i message hparse
    split
    · rename_i hfile
      exact emits_receiveFileAck h hparse hfile
    · rename_i hfile
      apply emits_notify (emits_refl d)
      intro id hid
      obtain rfl := Notice.peerHasReceivedMessage.inj hid
      obtain ⟨sharedKey, hkey⟩ :=
        Option.isSome_iff_exists.mp (Option.isNone_eq_false_iff.mp h.key)
      simp only [readAck, h.conn, hkey, acknowledgedText, h.id, h.type, h.payload, hparse, hfile,
        if_true, if_false, Option.bind_eq_bind, Option.bind_some]

theorem emits_dispatchDataMessage
    (h : d.Reads P item statusItem messageID messageType internalPayload) :
    Emits (Emission P d item) (Noticed P d item) d
      (d.dispatchDataMessage P env statusItem item messageID messageType internalPayload) := by
  rw [dispatchDataMessage]
  split
  · rename_i htype
    exact emits_receiveTextMessage (htype ▸ h)
  split
  · rename_i htype
    exact emits_prepareReceiveFile (htype ▸ h)
  split
  · rename_i htype
    exact emits_sendFileShards (htype ▸ h)
  split
  · rename_i htype
    exact emits_receiveFileShards (htype ▸ h)
  split
  · exact emits_receiveFileDone d internalPayload messageID item
  split
  · rename_i htype
    exact emits_receiveAck (htype ▸ h)
  · exact emits_refl d

variable (P env) in
theorem dataMessageHandle_cases (d : Device) (item : MessageItem Bytes) :
    d.dataMessageHandle P env item = d ∨
      ∃ statusItem messageID messageType internalPayload,
        d.Reads P item statusItem messageID messageType internalPayload ∧
          d.dataMessageHandle P env item =
            d.dispatchDataMessage P env statusItem item messageID messageType internalPayload := by
  rw [dataMessageHandle]
  split
  · exact .inl rfl
  · rename_i statusItem hconn
    split
    · exact .inl rfl
    · rename_i hkey
      split
      · rename_i messageID messageType internalPayload hid htype hpayload
        exact .inr ⟨statusItem, messageID, messageType, internalPayload,
          ⟨hconn, Bool.eq_false_iff.mpr hkey, hid, htype, hpayload⟩, rfl⟩
      · exact .inl rfl

theorem dataMessageHandle_of_reads
    (h : d.Reads P item statusItem messageID messageType internalPayload) :
    d.dataMessageHandle P env item =
      d.dispatchDataMessage P env statusItem item messageID messageType internalPayload := by
  rw [dataMessageHandle, h.conn]
  dsimp only
  rw [if_neg (by rw [h.key]; decide), h.id, h.type, h.payload]

theorem storedPiece_reads {found : FileTask} {pieceID : Nat}
    (h : d.storedPiece P item = some (found, pieceID)) :
    ∃ statusItem messageID internalPayload keys fileNameHash fileContent,
      d.Reads P item statusItem messageID Constant.dataFileData internalPayload ∧
        d.keys.getRecordXOR item.data messageID = some keys ∧
          FileMessage.parseFileDataMessage internalPayload =
            some (fileNameHash, pieceID, fileContent) ∧
              d.getFileTaskByFileNameHash fileNameHash = some found := by
  simp only [storedPiece, Option.bind_eq_bind, Option.bind_eq_some_iff] at h
  obtain ⟨statusItem, hconn, sharedKey, hkey, messageID, hid, messageType, htype,
    internalPayload, hpayload, hpiece⟩ := h
  split at hpiece
  · rename_i hdata
    simp only [Option.bind_eq_some_iff, Option.pure_def, Option.some.injEq, Prod.mk.injEq] at hpiece
    obtain ⟨keys, hkeys, ⟨fileNameHash, readID, fileContent⟩, hparse, task, hfound, rfl, rfl⟩ :=
      hpiece
    exact ⟨statusItem, messageID, internalPayload, keys, fileNameHash, fileContent,
      ⟨hconn, by rw [hkey]; rfl, hid, hdata ▸ htype, hpayload⟩, hkeys, hparse, hfound⟩
  · cases hpiece

theorem emits_dataMessageHandle (d : Device) (item : MessageItem Bytes) :
    Emits (Emission P d item) (Noticed P d item) d (d.dataMessageHandle P env item) := by
  rcases dataMessageHandle_cases P env d item with
    hsame | ⟨statusItem, messageID, messageType, internalPayload, hreads, heq⟩
  · exact emits_of_eq (by rw [hsame])
  · rw [heq]
    exact emits_dispatchDataMessage hreads

end Handlers

section Steps

variable (P) in
def Emitted (d : Device) (e : Event) (x : Nat × Cell) : Prop :=
  Resent P d.role x ∨ (e = .read ∧ ∃ item rest, d.recieveQueue = item :: rest ∧ item.type = 1 ∧
    Emission P d item x)

variable (P) in
def NoticedBy (d : Device) (e : Event) (n : Notice) : Prop :=
  ∀ messageID, n = .peerHasReceivedMessage messageID → e = .read ∧ ∃ item rest,
    d.recieveQueue = item :: rest ∧ item.type = 1 ∧ d.readAck P item = some messageID

theorem noticedBy_other {e : Event} {n : Notice} (h : n.acked = none) : NoticedBy P d e n := by
  rintro messageID rfl
  cases h

theorem emission_dequeue {rest : List (MessageItem Bytes)} {item : MessageItem Bytes}
    {x : Nat × Cell} (h : Emission P { d with recieveQueue := rest } item x) :
    Emission P d item x := by
  cases h with
  | quiet hcell => exact .quiet hcell
  | ready task hannounced hcell => exact .ready task hannounced hcell
  | piece found hrequest hselected hcell => exact .piece found hrequest hselected hcell
  | fileAck found pieceID hstored hcell => exact .fileAck found pieceID hstored hcell
  | textAck statusItem messageID internalPayload hreads hpointers hsocket hcell =>
    exact .textAck statusItem messageID internalPayload
      ⟨hreads.conn, hreads.key, hreads.id, hreads.type, hreads.payload⟩ hpointers hsocket hcell

theorem read_data {rest : List (MessageItem Bytes)} {item : MessageItem Bytes}
    (hqueue : d.recieveQueue = item :: rest) (htype : item.type = 1) :
    d.read P env = ({ d with recieveQueue := rest } : Device).dataMessageHandle P env item := by
  rw [read, hqueue]
  dsimp only
  rw [if_neg (by rw [htype]; decide), if_pos htype]

variable (env) in
theorem read_stores {rest : List (MessageItem Bytes)} {item : MessageItem Bytes}
    {found : FileTask} {pieceID : Nat} (hk : d.files.Keyed)
    (hqueue : d.recieveQueue = item :: rest) (htype : item.type = 1)
    (h : d.storedPiece P item = some (found, pieceID)) :
    ∃ fileContent, fileMachine.Reaches (DataReported P d item)
      (d.files.step (.recievePiece found.fileName pieceID fileContent))
      (d.read P env).files := by
  obtain ⟨statusItem, messageID, internalPayload, keys, fileNameHash, fileContent, hreads, hkeys,
    hparse, hfound⟩ := storedPiece_reads h
  have hreads' : ({ d with recieveQueue := rest } : Device).Reads P item statusItem messageID
      Constant.dataFileData internalPayload :=
    ⟨hreads.conn, hreads.key, hreads.id, hreads.type, hreads.payload⟩
  refine ⟨fileContent, ?_⟩
  rw [read_data hqueue htype, dataMessageHandle_of_reads hreads']
  exact (receiveFileShards_stores (d := { d with recieveQueue := rest }) hk hreads.type
    hreads.payload hkeys hparse hfound).2

theorem emits_read (d : Device) :
    Emits (Emitted P d .read) (NoticedBy P d .read) d (d.read P env) := by
  cases hqueue : d.recieveQueue with
  | nil => exact emits_of_eq (by rw [read, hqueue])
  | cons item rest =>
    have hdequeue : Emits (Emitted P d .read) (NoticedBy P d .read) d
        { d with recieveQueue := rest } := emits_of_eq rfl
    rw [read, hqueue]
    dsimp only
    apply emits_trans hdequeue
    split
    · have hhandled : Emits (Resent P d.role) (NoticedBy P d .read)
          ({ d with recieveQueue := rest } : Device)
          (({ d with recieveQueue := rest } : Device).handShakeMessageHandle P env item) :=
        emits_handShakeMessageHandle _ item rfl (noticedBy_other rfl)
      exact emits_mono (fun x hx => .inl hx) (fun n hn => hn) hhandled
    · split
      · rename_i htype
        refine emits_mono ?_ ?_ (emits_dataMessageHandle _ item)
        · exact fun x hx => .inr ⟨rfl, item, rest, hqueue, htype, emission_dequeue hx⟩
        · exact fun n hn messageID hid => ⟨rfl, item, rest, hqueue, htype, hn messageID hid⟩
      · exact emits_refl _

theorem mail_deleteStatusItem (d : Device) (item : ConnectionStatusItem) :
    (d.deleteStatusItem item).mail = d.mail := by
  rw [deleteStatusItem]
  split
  · rfl
  · rfl

theorem mail_endTransport (d : Device) (t : Transport) : (d.endTransport t).mail = d.mail := by
  rw [endTransport]
  split
  · exact mail_deleteStatusItem d _
  · rfl

theorem mail_readCell (d : Device) (mail : MailItem) (t : Transport) (cell : Cell) :
    (d.readCell mail t cell).mail = d.mail := by
  rw [readCell]
  split
  · rfl
  · split
    · split
      · exact mail_endTransport d t
      · rfl
    · split
      · split
        · rfl
        · rfl
      · rfl

theorem mail_receiveCell (d : Device) (socket : Nat) (cell : Cell) :
    (d.receiveCell socket cell).mail = d.mail := by
  rw [receiveCell]
  split
  · rfl
  · rename_i t _
    split
    · rfl
    · split
      · exact mail_readCell d _ _ cell
      · split
        · rfl
        · rename_i mail _
          exact mail_readCell (d.bindPeer t mail).1 mail (d.bindPeer t mail).2 cell

theorem mail_reput (d : Device) (item : MessageItem (Option Cell)) :
    (d.reput item).mail = d.mail := by
  have htext : (d.failText item).mail = d.mail := by
    rw [failText]
    split
    · rfl
    · rfl
  rw [reput]
  split
  · rfl
  · dsimp only
    split
    · split
      · exact htext
      · exact htext
    · exact htext

theorem emits_dequeue {i : MessageItem (Option Cell)} {rest : List (MessageItem (Option Cell))}
    (hqueue : d.sendQueue = i :: rest) : Emits X N d { d with sendQueue := rest } := by
  refine ⟨rfl, List.prefix_rfl, fun x hx => .inl ?_, List.prefix_rfl, fun _ hn => .inl hn⟩
  rcases List.mem_append.mp hx with hwritten | hqueued
  · exact List.mem_append_left _ hwritten
  · obtain ⟨item, hitem, hx⟩ := mem_queued.mp hqueued
    refine List.mem_append_right _ (mem_queued.mpr ⟨item, ?_, hx⟩)
    rw [hqueue]
    exact List.mem_cons_of_mem i hitem

theorem emits_write (d : Device) : Emits X N d (d.write env) := by
  rw [write]
  split
  · exact emits_refl d
  · rename_i item rest hqueue
    dsimp only
    split
    · exact emits_trans (emits_dequeue hqueue) (emits_of_eq (mail_reput _ item))
    · rename_i cell hcell
      split
      · have hqueued : (item.socket, cell) ∈ d.outbox := by
          refine List.mem_append_right _ (mem_queued.mpr ⟨item, ?_, rfl, hcell⟩)
          rw [hqueue]
          exact List.mem_cons_self
        have htransmit : Emits (fun x => x = (item.socket, cell)) N d
            (transmit { d with sendQueue := rest } item.socket cell) :=
          emits_transmit (emits_dequeue hqueue) rfl
        refine ⟨htransmit.account, htransmit.written, fun x hx => .inl ?_, htransmit.noticed, htransmit.notices⟩
        rcases htransmit.outbox x hx with hold | rfl
        · exact hold
        · exact hqueued
      · exact emits_trans (emits_dequeue hqueue) (emits_of_eq (mail_reput _ item))

theorem emits_startHandShakeProcess (d : Device) (onionName : String) (purpose : Nat)
    (hX : ∀ socket cell, cell.Quiet → X (socket, cell)) :
    Emits X N d (d.startHandShakeProcess P env onionName purpose) := by
  rw [startHandShakeProcess]
  split
  · rename_i item mail handShakeMessage _ _ _
    split
    · exact emits_refl d
    · split
      · exact emits_setKeys (emits_refl d) _
      · rename_i body hbody
        obtain ⟨payload, -, rfl⟩ := Option.map_eq_some_iff.mp hbody
        dsimp only
        split
        · exact emits_trans (emits_transmit (emits_setKeys (emits_refl d) _)
            (hX item.socket _ (Cell.quiet_build handShakeMessage payload))) (emits_of_eq rfl)
        · exact emits_trans (emits_setKeys (emits_refl d) _)
            (emits_of_eq (mail_deleteStatusItem _ item))
  · exact emits_refl d

theorem emits_handleTextMessageSend (d : Device) (messageContent remoteOnion : String)
    (messageID : Nat) (hX : ∀ socket cell, cell.Quiet → X (socket, cell))
    (hN : ∀ n : Notice, n.acked = none → N n) :
    Emits X N d (d.handleTextMessageSend P env messageContent remoteOnion messageID) := by
  rw [handleTextMessageSend]
  split
  · exact emits_of_eq rfl
  · split
    · exact emits_notify (emits_refl d) (hN _ rfl)
    · apply emits_enqueue (emits_setKeys (emits_refl d) _)
      intro i hi cell hcell
      rw [List.mem_singleton.mp hi] at hcell
      dsimp only at hcell
      rw [KeyState.textPayload] at hcell
      exact hX _ _ (quiet_text hcell)

theorem emits_queueFileMeta (d : Device) (remoteOnion : String) (task : FileTask)
    (messageID : Nat) (hX : ∀ socket cell, cell.Quiet → X (socket, cell)) :
    Emits X N d (d.queueFileMeta P env remoteOnion task messageID) := by
  rw [queueFileMeta]
  dsimp only
  split
  · exact emits_of_eq rfl
  · split
    · exact emits_setKeys (emits_refl d) _
    · refine emits_trans (emits_enqueue (emits_setKeys (emits_refl d) _) ?_) (emits_of_eq rfl)
      intro i hi cell hcell
      rw [List.mem_singleton.mp hi] at hcell
      exact hX _ _ (quiet_metaItem hcell)

variable (P env) in
theorem emits_step (d : Device) (e : Event) :
    Emits (Emitted P d e) (NoticedBy P d e) d (d.step P env e) := by
  have hquiet : ∀ socket cell, cell.Quiet → Emitted P d e (socket, cell) :=
    fun _ _ hcell => .inl (.inl hcell)
  cases e with
  | accept socket => exact emits_of_eq rfl
  | receiveCell socket cell => exact emits_of_eq (mail_receiveCell d socket cell)
  | hangUp socket =>
    rw [step, hangUp]
    split
    · exact emits_refl d
    · exact emits_of_eq (mail_endTransport d _)
  | connect onionName purpose socket =>
    rw [step, connect]
    split
    · exact emits_refl d
    · exact emits_of_eq rfl
  | startHandShake onionName purpose =>
    rw [step]
    exact emits_startHandShakeProcess d onionName purpose hquiet
  | read => exact emits_read d
  | write => exact emits_write d
  | sendText messageContent remoteOnion messageID =>
    exact emits_handleTextMessageSend d messageContent remoteOnion messageID hquiet
      (fun _ hn => noticedBy_other hn)
  | sendFile fileFullPath content remoteOnion messageID =>
    exact emits_queueFileMeta d remoteOnion _ messageID hquiet
  | sendBytes fileFullPath bitmapBytes remoteOnion messageID =>
    exact emits_queueFileMeta d remoteOnion _ messageID hquiet
  | register position =>
    rw [step, registerTask]
    split
    · exact emits_refl d
    · exact emits_of_eq rfl
  | tryResendAll =>
    exact emits_mono (fun x hx => .inl hx) (fun _ hn => hn) (emits_tryResendAll _ d)

end Steps

end Device

end TorChat
