import TorChat.Transfer.FileHandling
import TorChat.Transfer.Chunking

namespace TorChat

open Library (Bytes HashMap chunk chunk_length_le)
open Constant (filePieceSize)

namespace FileTraffic

section Tasks

variable (P : Platform) (key : Bytes) (fileName : String) (content : Bytes)

def pieceCount : Nat := content.length ⌈/⌉ filePieceSize

def pieceBytes (i : Nat) : Bytes := JniEntryUtils.entry P key (chunk filePieceSize content i)

structure Sends (task : FileTask) : Prop where
  name : task.fileName = fileName
  hash : task.fileNameHash = nameHash P fileName
  total : task.totalPieceNumber = (pieceCount content : Nat)
  cut : FileTask.CutsInto (JniEntryUtils.entry P key) content task.filePieceContentMap

structure Receives (held : Nat) (task : FileTask) : Prop where
  name : task.fileName = fileName
  hash : task.fileNameHash = nameHash P fileName
  contentHash : task.contentHash = P.sha1 content
  total : task.totalPieceNumber = (pieceCount content : Nat)
  status : task.fileTransferStatusMap = Finset.range held
  pieces : ∀ i, task.filePieceContentMap.get? i =
    if i < held then some (pieceBytes P key content i) else none

end Tasks

variable {P : Platform} {env : Env} {c : Channel} {key : Bytes} {fileName : String}
  {content : Bytes} {held : Nat} {task : FileTask} {d : Device} {item : MessageItem Bytes}

theorem cutFile_cuts (entry : Bytes → Bytes)
    (hle : content.length ≤ filePieceSize * (2 ^ 31 - 1)) :
    FileTask.CutsInto entry content (FileTask.cutFile entry content) := by
  by_cases hempty : content = []
  · subst hempty
    intro k
    rw [if_neg (by simp)]
    rfl
  · rw [FileTask.cutFile_eq entry hempty hle]
    exact FileTask.putChunks_cutsInto entry

theorem sends_ofFile {remoteOnion fileFullPath : String} {messageID : Nat}
    (hle : content.length ≤ filePieceSize * (2 ^ 31 - 1)) :
    Sends P key (FileTask.getName fileFullPath) content
      (FileTask.ofFile P key remoteOnion fileFullPath content messageID) where
  name := rfl
  hash := rfl
  total := FileTask.pieceNumber_eq hle
  cut := cutFile_cuts _ hle

theorem sends_setStatus (h : Sends P key fileName content task) (status : TaskStatus) :
    Sends P key fileName content (task.setStatus status) := ⟨h.name, h.hash, h.total, h.cut⟩

theorem sends_updateTransferStatus (h : Sends P key fileName content task) (pieceID : Nat) :
    Sends P key fileName content (task.updateTransferStatus pieceID) :=
  ⟨h.name, h.hash, h.total, h.cut⟩

theorem receives_ofMeta (onionName : String) (status : TaskStatus)
    (hle : content.length ≤ filePieceSize * (2 ^ 31 - 1)) :
    Receives P key fileName content 0 ((FileTask.ofMeta P onionName fileName content.length
      (P.sha1 content)).setStatus status) where
  name := rfl
  hash := rfl
  contentHash := rfl
  total := FileTask.pieceNumber_eq hle
  status := rfl
  pieces _ := rfl

theorem receives_received (h : Receives P key fileName content held task) :
    Receives P key fileName content (held + 1)
      (received held (pieceBytes P key content held) task) where
  name := h.name
  hash := h.hash
  contentHash := h.contentHash
  total := h.total
  status := by
    change insert held task.fileTransferStatusMap = _
    rw [h.status, Finset.range_add_one]
  pieces i := by
    change (task.filePieceContentMap.put held _).get? i = _
    rw [HashMap.get?_put, h.pieces]
    by_cases hi : i = held
    · rw [if_pos hi, if_pos (by omega), hi]
    · rw [if_neg hi]
      by_cases hlt : i < held
      · rw [if_pos hlt, if_pos (by omega)]
      · rw [if_neg hlt, if_neg (by omega)]

theorem receives_merge {receiverKey : Bytes}
    (hentry : FileTask.EntryInverts P key receiverKey)
    (h : Receives P key fileName content (pieceCount content) task) :
    task.mergeFile P receiverKey (some []) =
      (some content, some (Constant.recieveFilePath ++ fileName)) := by
  rw [FileTask.mergeFile_of_complete hentry h.pieces h.contentHash, h.name]

theorem reads_of_heard {x : FileCell} (h : Established P c fileName d) (hitem : Addressed c item)
    (hheard : FileCell.heard P (nameHash P fileName) item.data = some x) :
    ∃ purpose messageID messageType internalPayload,
      d.Reads P item (connItem c purpose) messageID messageType internalPayload ∧
        FileCell.Parsed P messageType internalPayload (nameHash P fileName) x ∧
          (x.pointed = true → ∃ keys, d.keys.getRecordXOR item.data messageID = some keys) := by
  obtain ⟨messageID, messageType, internalPayload, hid, htype, hpayload, hspoken, hpointed⟩ :=
    FileCell.heard_eq_some hheard
  obtain ⟨purpose, hconns⟩ := h.conns
  obtain ⟨-, honion, hsocket⟩ := hitem
  have hconn : d.conns.getConnectionStatusItem item.onionName item.socket =
      some (connItem c purpose) := by
    rw [honion, hsocket, Connections.getConnectionStatusItem, hconns, Option.bind_some,
      ConnectionItems.getConnBySocket, List.find?_cons_of_pos (by simp [connItem])]
  refine ⟨purpose, messageID, messageType, internalPayload, ⟨hconn, rfl, hid, htype, hpayload⟩,
    FileCell.parsed_of_spoken hspoken, fun hx => Option.isSome_iff_exists.mp ?_⟩
  rw [FileCell.readable_eq]
  exact hpointed hx

variable (env) in
theorem acts_offer (hsent : ∀ n, env.sent n = true) (hne : c.keyFile ≠ [])
    (h : Established P c fileName d) (hitem : Addressed c item)
    (hle : content.length ≤ filePieceSize * (2 ^ 31 - 1))
    (hheard : FileCell.heard P (nameHash P fileName) item.data =
      some (.offer fileName content.length (P.sha1 content))) :
    ∃ task, Receives P key fileName content 0 task ∧
      Acts P c fileName d (d.dataMessageHandle P env item) [.ready] []
        { own fileName d with task := some task } := by
  obtain ⟨purpose, messageID, messageType, internalPayload, hreads, ⟨rfl, task, hparse, -, heq⟩,
    hpointed⟩ := reads_of_heard h hitem hheard
  obtain ⟨keys, hkeys⟩ := hpointed rfl
  rw [FileCell.ofTask] at heq
  obtain ⟨hname, hsize, hhash⟩ := FileCell.offer.inj heq
  have hparsed : FileMessage.parseFileMetaMessage P item.onionName internalPayload =
      some (FileTask.ofMeta P item.onionName fileName content.length (P.sha1 content)) := by
    rw [FileCell.parseFileMetaMessage_onionName item.onionName "", hparse, Option.map_some, hname,
      hsize, hhash]
  have hacts := acts_prepareReceiveFile hsent hne h hitem hreads hkeys hparsed
    ⟨rfl, fun _ => rfl⟩
  refine ⟨_, receives_ofMeta item.onionName .stop hle, ?_⟩
  rw [Device.dataMessageHandle_of_reads hreads, Device.dispatchDataMessage, if_neg (by decide),
    if_pos rfl]
  have hhash : (FileTask.ofMeta P item.onionName fileName content.length
      (P.sha1 content)).fileNameHash = nameHash P fileName := rfl
  rw [if_pos hhash, if_pos (show fileName = (FileTask.ofMeta P item.onionName fileName
    content.length (P.sha1 content)).fileName from rfl)] at hacts
  exact hacts

section Ready

theorem pieceItems_of_present {build : Nat → Bytes → MessageItem (Option Cell)}
    {pieces : HashMap Nat Bytes} {piece : Nat → Bytes} {is : List Nat}
    (h : ∀ i ∈ is, pieces.get? i = some (piece i)) :
    Device.pieceItems build pieces is = (is.map (fun i => build i (piece i)), true) := by
  induction is with
  | nil => rfl
  | cons i is ih =>
    rw [Device.pieceItems, h i List.mem_cons_self]
    dsimp only
    rw [ih (fun j hj => h j (List.mem_cons_of_mem i hj)), List.map_cons]

theorem said_queued_one {item : MessageItem (Option Cell)} {cell : Cell} {x : FileCell}
    (hsocket : item.socket = c.socket) (hdata : item.data = some cell)
    (hcell : FileCell.heardCell P c.sharedKey (nameHash P fileName) cell = some x) :
    said P c fileName (queuedCells c [item]) = [x] := by
  have hqueued : Device.queued [item] = [(item.socket, cell)] := by
    rw [Device.queued, List.filterMap_cons_some (by rw [hdata, Option.map_some])]
    rfl
  rw [queuedCells, hqueued, onSocket, List.filter_cons_of_pos (by simp [hsocket]),
    List.filter_nil, List.map_singleton, said, List.filterMap_cons_some hcell,
    List.filterMap_nil]

theorem said_queued_map {item : Nat → MessageItem (Option Cell)} (cell : Nat → Cell)
    {x : Nat → FileCell} {is : List Nat} (hsocket : ∀ i ∈ is, (item i).socket = c.socket)
    (hdata : ∀ i ∈ is, (item i).data = some (cell i))
    (hcell : ∀ i ∈ is, FileCell.heardCell P c.sharedKey (nameHash P fileName) (cell i) =
      some (x i)) :
    said P c fileName (queuedCells c (is.map item)) = is.map x := by
  induction is with
  | nil => rfl
  | cons i is ih =>
    have hone := said_queued_one (hsocket i List.mem_cons_self) (hdata i List.mem_cons_self)
      (hcell i List.mem_cons_self)
    have hrest := ih (fun j hj => hsocket j (List.mem_cons_of_mem i hj))
      (fun j hj => hdata j (List.mem_cons_of_mem i hj))
      (fun j hj => hcell j (List.mem_cons_of_mem i hj))
    have happend := queuedCells_append (c := c) [item i] (is.map item)
    rw [List.map_cons, List.map_cons, ← List.singleton_append, happend, said_append, hone, hrest]
    rfl

def EntryFits (P : Platform) (key : Bytes) : Prop :=
  ∀ x : Bytes, x.length ≤ filePieceSize → (JniEntryUtils.entry P key x).length ≤ 1978

theorem found_own (h : Established P c fileName d)
    (htask : (own fileName d).task = some task) :
    d.getFileTaskByFileNameHash (nameHash P fileName) = some task :=
  (getFileTask_own h).trans htask

section Pieces

variable {keys : KeyState} {onionName : String} {handShakeMessage : Option HandShakeMessage}
  {messageID : Nat}

variable (P env c fileName content keys onionName handShakeMessage messageID) in
def ownPieces : List (MessageItem (Option Cell)) :=
  (List.range (pieceCount content)).map (fun i =>
    Device.pieceItem P env keys onionName c.socket handShakeMessage (some c.sharedKey)
      (nameHash P fileName) messageID i (pieceBytes P c.keyFile content i))

variable (P env c fileName content keys onionName handShakeMessage messageID) in
theorem isSome_ownPieces (i : MessageItem (Option Cell))
    (hi : i ∈ ownPieces P env c fileName content keys onionName handShakeMessage messageID) :
    i.data.isSome := by
  obtain ⟨n, -, rfl⟩ := List.mem_map.mp hi
  rfl

theorem pieceBytes_length (hfits : EntryFits P key) (i : Nat) :
    (pieceBytes P key content i).length ≤ 1978 :=
  hfits _ (chunk_length_le filePieceSize content i)

theorem said_ownPieces (hfits : EntryFits P c.keyFile) (hid : messageID < 2 ^ 31)
    (hle : content.length ≤ filePieceSize * (2 ^ 31 - 1)) :
    said P c fileName (queuedCells c
      (ownPieces P env c fileName content keys onionName handShakeMessage messageID)) =
        (List.range (pieceCount content)).map
          (fun i => .piece i (pieceBytes P c.keyFile content i)) := by
  refine said_queued_map (fun i => .data c.sharedKey
    (Message.createDataMessageExternalPaylod P (env.ambient i) keys Constant.dataFileData
      (FileMessage.dataPayload (nameHash P fileName) i (pieceBytes P c.keyFile content i))
      messageID)) (fun _ _ => rfl) (fun _ _ => rfl) (fun i hi => ?_)
  have hcount : pieceCount content ≤ 2 ^ 31 - 1 := FileTask.chunkCount_le hle
  have hlt : i < pieceCount content := List.mem_range.mp hi
  exact FileCell.heardCell_piece hid (nameHash_length P fileName) (by omega)
    (pieceBytes_length hfits i) rfl

end Pieces

theorem acts_ready (hne : c.keyFile ≠ []) (hfits : EntryFits P c.keyFile)
    (h : Established P c fileName d) (hitem : Addressed c item)
    (hle : content.length ≤ filePieceSize * (2 ^ 31 - 1))
    (hheard : FileCell.heard P (nameHash P fileName) item.data = some .ready)
    (htask : (own fileName d).task = some task)
    (hsends : Sends P c.keyFile fileName content task) :
    Acts P c fileName d (d.dataMessageHandle P env item) []
      ((List.range (pieceCount content)).map
        (fun i => .piece i (pieceBytes P c.keyFile content i)))
      { own fileName d with task := some (task.setStatus .transferrring) } := by
  obtain ⟨purpose, messageID, messageType, internalPayload, hreads, ⟨rfl, hparse⟩, hpointed⟩ :=
    reads_of_heard h hitem hheard
  obtain ⟨keys, hkeys⟩ := hpointed rfl
  have hid := id_of_reads hreads
  have hmarked := acts_modifyTask (acts_updateConnectionPurpose
    (acts_recordXOR (acts_refl h) hkeys) hitem Constant.socketPurposeFile) task
    (f := fun t => t.setStatus .transferrring) (fun _ => ⟨rfl, rfl⟩)
  rw [if_pos hsends.name.symm, htask, Option.map_some] at hmarked
  have hown := found_own h htask
  have hfound : ((d.setKeys keys).updateConnectionPurpose item
      Constant.socketPurposeFile).getFileTaskByFileNameHash (nameHash P fileName) = some task :=
    hown
  have hpresent : ∀ i ∈ List.range (pieceCount content),
      task.filePieceContentMap.get? i = some (pieceBytes P c.keyFile content i) := by
    intro i hi
    rw [hsends.cut i]
    exact if_pos (List.mem_range.mp hi)
  have henqueued := acts_enqueuePieces hne hmarked
    (isSome_ownPieces P env c fileName content
      ((d.setKeys keys).updateConnectionPurpose item Constant.socketPurposeFile).keys
      item.onionName item.handShakeMessage messageID)
  rw [List.nil_append, said_ownPieces hfits hid hle] at henqueued
  rw [Device.dataMessageHandle_of_reads hreads, Device.dispatchDataMessage, if_neg (by decide),
    if_neg (by decide), if_pos rfl, Device.sendFileShards, hkeys]
  dsimp only
  rw [hparse]
  dsimp only
  rw [hfound]
  dsimp only
  rw [hsends.total, Int.toNat_natCast, pieceItems_of_present hpresent, hitem.2.2]
  exact henqueued

end Ready

section Answers

-- the sending thread has not put its task into senderFileMap yet
theorem acts_ready_lost (h : Established P c fileName d) (hitem : Addressed c item)
    (hheard : FileCell.heard P (nameHash P fileName) item.data = some .ready)
    (htask : (own fileName d).task = none) :
    Acts P c fileName d (d.dataMessageHandle P env item) [] [] (own fileName d) := by
  obtain ⟨purpose, messageID, messageType, internalPayload, hreads, ⟨rfl, hparse⟩, hpointed⟩ :=
    reads_of_heard h hitem hheard
  obtain ⟨keys, hkeys⟩ := hpointed rfl
  have hown : d.getFileTaskByFileNameHash (nameHash P fileName) = none :=
    (getFileTask_own h).trans htask
  have hfound : ((d.setKeys keys).updateConnectionPurpose item
      Constant.socketPurposeFile).getFileTaskByFileNameHash (nameHash P fileName) = none := hown
  rw [Device.dataMessageHandle_of_reads hreads, Device.dispatchDataMessage, if_neg (by decide),
    if_neg (by decide), if_pos rfl, Device.sendFileShards, hkeys]
  dsimp only
  rw [hparse]
  dsimp only
  rw [hfound]
  exact acts_updateConnectionPurpose (acts_recordXOR (acts_refl h) hkeys) hitem _

variable (env) in
theorem acts_ack {pieceID : Nat} (h : Established P c fileName d) (hitem : Addressed c item)
    (hheard : FileCell.heard P (nameHash P fileName) item.data =
      some (.ack pieceID Constant.dataAckContent))
    (htask : (own fileName d).task = some task)
    (hsends : Sends P key fileName content task) :
    ∃ task', Sends P key fileName content task' ∧
      Acts P c fileName d (d.dataMessageHandle P env item) [] []
        { own fileName d with task := some task' } := by
  obtain ⟨purpose, messageID, messageType, internalPayload, hreads,
    ⟨rfl, message, hparse, hfile, hhash, rfl, hok⟩, -⟩ := reads_of_heard h hitem hheard
  have hmodified := acts_modifyTask (acts_refl h) task
    (f := fun t => (t.updateTransferStatus message.recievePieceNumber).setStatus .transferrring)
    (fun _ => ⟨rfl, rfl⟩)
  rw [if_pos hsends.name.symm, htask, Option.map_some] at hmodified
  refine ⟨_, sends_setStatus (sends_updateTransferStatus hsends message.recievePieceNumber)
    .transferrring, ?_⟩
  rw [Device.dataMessageHandle_of_reads hreads, Device.dispatchDataMessage, if_neg (by decide),
    if_neg (by decide), if_neg (by decide), if_neg (by decide), if_neg (by decide), if_pos rfl,
    Device.receiveAck, hparse]
  dsimp only
  rw [if_pos hfile, Device.receiveFileAck, hhash, found_own h htask]
  dsimp only
  have hword : message.ackok = "ok" := hok
  rw [if_pos hword]
  split
  · refine acts_enqueue_none (acts_notify hmodified (.fileMessage _ _ messageID) rfl) ?_
    intro i hi
    rw [List.mem_singleton.mp hi]
    exact ⟨.zeros, rfl, rfl⟩
  · exact hmodified

theorem acts_done (h : Established P c fileName d) (hitem : Addressed c item)
    (hheard : FileCell.heard P (nameHash P fileName) item.data = some .done)
    (htask : (own fileName d).task = some task)
    (hsends : Sends P key fileName content task) :
    Acts P c fileName d (d.dataMessageHandle P env item) [] []
      { own fileName d with task := none, completed := true } := by
  obtain ⟨purpose, messageID, messageType, internalPayload, hreads, ⟨rfl, hparse⟩, -⟩ :=
    reads_of_heard h hitem hheard
  have hacts := acts_removeTask (acts_notify_complete (acts_refl h) messageID) task
  rw [if_pos hsends.name.symm, ← hsends.name] at hacts
  rw [Device.dataMessageHandle_of_reads hreads, Device.dispatchDataMessage, if_neg (by decide),
    if_neg (by decide), if_neg (by decide), if_neg (by decide), if_pos rfl,
    Device.receiveFileDone, hparse]
  dsimp only
  rw [found_own h htask]
  rw [← hsends.name]
  exact hacts

end Answers

section Held

theorem receives_card (h : Receives P key fileName content held task) :
    (task.fileTransferStatusMap.card : Int) = task.totalPieceNumber ↔
      held = pieceCount content := by
  rw [h.status, Finset.card_range, h.total]
  exact Nat.cast_inj

variable (env) in
theorem acts_piece (hsent : ∀ n, env.sent n = true) (hne : c.keyFile ≠ [])
    (h : Established P c fileName d) (hitem : Addressed c item)
    (hheard : FileCell.heard P (nameHash P fileName) item.data =
      some (.piece held (pieceBytes P key content held)))
    (htask : (own fileName d).task = some task)
    (hreceives : Receives P key fileName content held task) :
    ∃ d' purpose messageID, messageID < 2 ^ 31 ∧
      d.dataMessageHandle P env item = d'.receiveAllFileShards P env
        (received held (pieceBytes P key content held) task) (connItem c purpose) item
          messageID ∧
      Acts P c fileName d d' [.ack held Constant.dataAckContent] []
        { own fileName d with
          task := some (received held (pieceBytes P key content held) task) } := by
  obtain ⟨purpose, messageID, messageType, internalPayload, hreads, ⟨rfl, hparse⟩, hpointed⟩ :=
    reads_of_heard h hitem hheard
  obtain ⟨keys, hkeys⟩ := hpointed rfl
  obtain ⟨d', hshards, hacts⟩ :=
    acts_receivePiece hsent hne h hitem hreads hkeys hparse (found_own h htask)
  rw [if_pos rfl, if_pos hreceives.name.symm, htask, Option.map_some] at hacts
  refine ⟨d', purpose, messageID, id_of_reads hreads, ?_, hacts⟩
  rw [Device.dataMessageHandle_of_reads hreads, Device.dispatchDataMessage, if_neg (by decide),
    if_neg (by decide), if_neg (by decide), if_pos rfl]
  exact hshards

variable (env) in
theorem acts_piece_more (hsent : ∀ n, env.sent n = true) (hne : c.keyFile ≠ [])
    (h : Established P c fileName d) (hitem : Addressed c item)
    (hheard : FileCell.heard P (nameHash P fileName) item.data =
      some (.piece held (pieceBytes P key content held)))
    (htask : (own fileName d).task = some task)
    (hreceives : Receives P key fileName content held task)
    (hmore : held + 1 ≠ pieceCount content) :
    ∃ task', Receives P key fileName content (held + 1) task' ∧
      Acts P c fileName d (d.dataMessageHandle P env item)
        [.ack held Constant.dataAckContent] [] { own fileName d with task := some task' } := by
  obtain ⟨d', purpose, messageID, -, hhandle, hacts⟩ :=
    acts_piece env hsent hne h hitem hheard htask hreceives
  have hnext := receives_received hreceives
  refine ⟨_, hnext, ?_⟩
  rw [hhandle, Device.receiveAllFileShards, if_neg (fun hcard => hmore ((receives_card hnext).mp
    hcard))]
  exact hacts

theorem acts_piece_last (hsent : ∀ n, env.sent n = true) (hne : c.keyFile ≠ [])
    (hentry : FileTask.EntryInverts P key c.keyFile) (h : Established P c fileName d)
    (hitem : Addressed c item)
    (hheard : FileCell.heard P (nameHash P fileName) item.data =
      some (.piece held (pieceBytes P key content held)))
    (htask : (own fileName d).task = some task)
    (hreceives : Receives P key fileName content held task)
    (hlast : held + 1 = pieceCount content) (hfile : (own fileName d).file = none) :
    Acts P c fileName d (d.dataMessageHandle P env item)
      [.ack held Constant.dataAckContent, .done] []
      { task := none, registering := (own fileName d).registering, file := some content
        completed := true } := by
  obtain ⟨d', purpose, messageID, hid, hhandle, hacts⟩ :=
    acts_piece env hsent hne h hitem hheard htask hreceives
  have hnext := receives_received hreceives
  have hcard := (receives_card hnext).mpr hlast
  rw [hlast] at hnext
  have hmerge : (received held (pieceBytes P key content held) task).mergeFile P c.keyFile
      (some ((own fileName d).file.getD [])) =
        (some content, some (Constant.recieveFilePath ++ fileName)) := by
    rw [hfile]
    exact receives_merge hentry hnext
  rw [hhandle]
  exact acts_receiveAllFileShards_last hsent hne hacts hnext.name hnext.hash hid rfl rfl hcard
    hmerge

end Held

end FileTraffic

end TorChat
