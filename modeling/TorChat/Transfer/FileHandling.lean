import TorChat.Transfer.FileTraffic

namespace TorChat

open Library (Bytes HashMap)

namespace FileTraffic

variable {P : Platform} {env : Env} {c : Channel} {fileName : String} {d : Device}
  {item : MessageItem Bytes} {statusItem : ConnectionStatusItem} {messageID messageType : Nat}
  {internalPayload hash : Bytes} {x : FileCell} {found : FileTask}

theorem nameHash_length (P : Platform) (fileName : String) : (nameHash P fileName).length = 20 :=
  P.sha1_length _

theorem hashed_length (h : Hashed P fileName found) : found.fileNameHash.length = 20 := by
  rw [h.hash]
  exact P.sha1_length _

theorem hashed_of_name (h : found.fileNameHash = P.sha1 (getBytes found.fileName))
    (hother : found.fileNameHash ≠ nameHash P fileName) : Hashed P fileName found :=
  ⟨h, fun hsame => absurd hsame hother⟩

theorem hashed_eq (h : Hashed P fileName found) :
    found.fileNameHash = nameHash P fileName ↔ found.fileName = fileName := by
  refine ⟨h.name, fun hname => ?_⟩
  rw [h.hash, hname]
  rfl

theorem parseInt16_lt {bytes : Bytes} {n : Nat} (h : parseInt16 bytes = some n) :
    n < 2 ^ 31 := by
  rw [parseInt16] at h
  split at h
  · rename_i hlt
    rw [← Option.some.inj h]
    exact hlt.2
  · cases h

section Reading

variable (h : Established P c fileName d) (hitem : Addressed c item)
  (hreads : d.Reads P item statusItem messageID messageType internalPayload)

include h hitem hreads in
theorem status_of_reads : ∃ purpose, statusItem = connItem c purpose := by
  obtain ⟨purpose, hconns⟩ := h.conns
  obtain ⟨-, honion, hsocket⟩ := hitem
  refine ⟨purpose, ?_⟩
  have hconn := hreads.conn
  rw [honion, hsocket, Connections.getConnectionStatusItem, hconns, Option.bind_some,
    ConnectionItems.getConnBySocket, List.find?_cons_of_pos (by simp [connItem])] at hconn
  exact (Option.some.inj hconn).symm

include hreads in
theorem id_of_reads : messageID < 2 ^ 31 := by
  obtain ⟨bytes, -, hparse⟩ := Option.bind_eq_some_iff.mp hreads.id
  exact parseInt16_lt hparse

include hreads in
theorem hash_of_unheard (hspoken : FileCell.spoken P messageType internalPayload = some (hash, x))
    (hpointed : x.pointed = true → (d.keys.getRecordXOR item.data messageID).isSome)
    (hnone : FileCell.heard P (nameHash P fileName) item.data = none) :
    hash ≠ nameHash P fileName := by
  intro hsame
  rw [FileCell.heard_of_spoken hreads.id hreads.type hreads.payload hspoken, if_pos] at hnone
  · cases hnone
  · refine ⟨hsame, fun hx => ?_⟩
    rw [← FileCell.readable_eq d.keys]
    exact hpointed hx

include h in
theorem keyed_of_established : d.files.Keyed :=
  fun name task hget => (h.tasks name task hget).1

include h in
theorem hashed_found (hfound : d.getFileTaskByFileNameHash hash = some found) :
    Hashed P fileName found ∧ found.fileNameHash = hash :=
  ⟨(h.tasks _ found (Device.found_get? (keyed_of_established h) hfound)).2,
    Device.found_hash hfound⟩

include h in
theorem found_other (hfound : d.getFileTaskByFileNameHash hash = some found)
    (hother : hash ≠ nameHash P fileName) : found.fileName ≠ fileName := by
  obtain ⟨hhashed, hhash⟩ := hashed_found h hfound
  rw [ne_eq, ← hashed_eq hhashed, hhash]
  exact hother

include h in
theorem getFileTask_own : d.getFileTaskByFileNameHash (nameHash P fileName) =
    d.senderFileMap.get? fileName := by
  cases hfound : d.getFileTaskByFileNameHash (nameHash P fileName) with
  | some found =>
    obtain ⟨hhashed, hhash⟩ := hashed_found h hfound
    rw [← hhashed.name hhash, Device.found_get? (keyed_of_established h) hfound]
  | none =>
    cases hget : d.senderFileMap.get? fileName with
    | none => rfl
    | some task =>
      obtain ⟨hname, hhashed⟩ := h.tasks fileName task hget
      have hnone := List.find?_eq_none.mp hfound task (HashMap.mem_values.mpr ⟨fileName, hget⟩)
      simp only [decide_eq_true_eq] at hnone
      exact absurd ((hashed_eq hhashed).mpr hname) hnone

end Reading

section Effects

variable {d₀ : Device} {out queue : List FileCell} {o : Own}

theorem acts_recordXOR (h : Acts P c fileName d₀ d out queue o)
    {keys : KeyState} {raw : Bytes} (hkeys : d.keys.getRecordXOR raw messageID = some keys) :
    Acts P c fileName d₀ (d.setKeys keys) out queue o :=
  acts_setKeys h ((KeyState.getRecordXOR_keyFile hkeys).trans h.established.keyFile)

theorem acts_writeBack (hne : c.keyFile ≠ []) (h : Acts P c fileName d₀ d out queue o) :
    Acts P c fileName d₀ (d.setKeys d.keys.writeBack) out queue o :=
  acts_setKeys h (keyFile_writeBack hne h.established.keyFile)

theorem acts_notify_if (p : Prop) [Decidable p] (h : Acts P c fileName d₀ d out queue o)
    (notice : Notice) (hnotice : completes fileName notice = false) :
    Acts P c fileName d₀ (if p then d.notify notice else d) out queue o := by
  split
  · exact acts_notify h notice hnotice
  · exact h

theorem acts_enqueuePieces (hne : c.keyFile ≠ []) (h : Acts P c fileName d₀ d out queue o)
    {items : List (MessageItem (Option Cell))} (hitems : ∀ i ∈ items, i.data.isSome) :
    Acts P c fileName d₀ (d.enqueuePieces items) out
      (queue ++ said P c fileName (queuedCells c items)) o := by
  refine acts_setKeys (acts_enqueue h hitems) ?_
  split
  · exact h.established.keyFile
  · exact keyFile_writeBack hne h.established.keyFile

theorem acts_enqueuePieces_none (hne : c.keyFile ≠ [])
    (h : Acts P c fileName d₀ d out queue o) {items : List (MessageItem (Option Cell))}
    (hitems : ∀ i ∈ items, Unheard P c fileName i) :
    Acts P c fileName d₀ (d.enqueuePieces items) out queue o := by
  refine acts_setKeys (acts_enqueue_none h hitems) ?_
  split
  · exact h.established.keyFile
  · exact keyFile_writeBack hne h.established.keyFile

theorem unheard_piece {keys : KeyState} {onionName : String} {socket : Nat}
    {handShakeMessage : Option HandShakeMessage} {pieces : HashMap Nat Bytes} {is : List Nat}
    (hlength : hash.length = 20) (hother : hash ≠ nameHash P fileName)
    {i : MessageItem (Option Cell)}
    (hi : i ∈ (Device.pieceItems (Device.pieceItem P env keys onionName socket handShakeMessage
      (some c.sharedKey) hash messageID) pieces is).1) : Unheard P c fileName i := by
  obtain ⟨n, fileContent, -, rfl⟩ := Device.mem_pieceItems hi
  exact ⟨_, rfl, FileCell.not_heardCell_piece hlength hother rfl⟩

end Effects

section Unheard

theorem acts_receiveTextMessage (hsent : ∀ n, env.sent n = true) (hne : c.keyFile ≠ [])
    (h : Established P c fileName d) (hitem : Addressed c item)
    (hreads : d.Reads P item statusItem messageID Constant.dataMessage internalPayload) :
    Acts P c fileName d (d.receiveTextMessage P env internalPayload statusItem item messageID)
      [] [] (own fileName d) := by
  obtain ⟨purpose, rfl⟩ := status_of_reads h hitem hreads
  rw [Device.receiveTextMessage]
  split
  · exact acts_refl h
  · rename_i keys hkeys
    dsimp only
    have hread := acts_recordXOR (acts_refl h) hkeys
    cases JniEntryUtils.decry P (d.setKeys keys).keys.keyFile internalPayload with
    | none =>
      dsimp only
      split
      · exact acts_writeBack hne hread
      · rename_i payload hpayload
        rw [Device.sendMessage, if_pos (hsent 0)]
        exact acts_transmit_none (acts_writeBack hne hread)
          (FileCell.not_heardCell_textAck hpayload)
    | some plain =>
      have hnoticed := acts_notify hread (.hasReceivedMessage (newString plain)
        (connItem c purpose).onionName messageID) rfl
      dsimp only
      split
      · exact acts_writeBack hne hnoticed
      · rename_i payload hpayload
        rw [Device.sendMessage, if_pos (hsent 0)]
        exact acts_transmit_none (acts_writeBack hne hnoticed)
          (FileCell.not_heardCell_textAck hpayload)

theorem acts_prepareReceiveFile {task : FileTask} {keys : KeyState} (hsent : ∀ n, env.sent n = true)
    (hne : c.keyFile ≠ []) (h : Established P c fileName d) (hitem : Addressed c item)
    (hreads : d.Reads P item statusItem messageID Constant.dataFileMeta internalPayload)
    (hkeys : d.keys.getRecordXOR item.data messageID = some keys)
    (hparse : FileMessage.parseFileMetaMessage P item.onionName internalPayload = some task)
    (hhashed : Hashed P fileName task) :
    Acts P c fileName d (d.prepareReceiveFile P env internalPayload statusItem item messageID)
      (if task.fileNameHash = nameHash P fileName then [.ready] else []) []
      { own fileName d with task :=
          if fileName = task.fileName then some (task.setStatus .stop)
          else (own fileName d).task } := by
  obtain ⟨purpose, rfl⟩ := status_of_reads h hitem hreads
  have hid := id_of_reads hreads
  rw [Device.prepareReceiveFile, hkeys]
  dsimp only
  rw [hparse]
  dsimp only
  have hmarked := acts_writeBack hne (acts_updateConnectionPurpose
    (acts_recordXOR (acts_refl h) hkeys) hitem Constant.socketPurposeFile)
  split
  · rename_i hready
    cases hready
  · rename_i finalPayload hready
    have hcell : FileCell.heardCell P c.sharedKey (nameHash P fileName) finalPayload =
        if task.fileNameHash = nameHash P fileName then some .ready else none :=
      FileCell.heardCell_ready hid (hashed_length hhashed) hready
    rw [Device.sendMessage, if_pos (hsent 0)]
    have hstopped : Hashed P fileName (task.setStatus .stop) := ⟨hhashed.hash, hhashed.name⟩
    refine acts_notify (acts_putTask ?_ hstopped)
      (.recieveOnlineFile task.fileName task.totalSize messageID) rfl
    split
    · rename_i hsame
      rw [if_pos hsame] at hcell
      exact acts_transmit_some hmarked rfl hcell
    · rename_i hother
      rw [if_neg hother] at hcell
      exact acts_transmit_none hmarked hcell

theorem acts_prepareReceiveFile_unheard (hsent : ∀ n, env.sent n = true) (hne : c.keyFile ≠ [])
    (h : Established P c fileName d) (hitem : Addressed c item)
    (hnone : FileCell.heard P (nameHash P fileName) item.data = none)
    (hreads : d.Reads P item statusItem messageID Constant.dataFileMeta internalPayload) :
    Acts P c fileName d (d.prepareReceiveFile P env internalPayload statusItem item messageID)
      [] [] (own fileName d) := by
  cases hkeys : d.keys.getRecordXOR item.data messageID with
  | none =>
    rw [Device.prepareReceiveFile, hkeys]
    exact acts_refl h
  | some keys =>
    cases hparse : FileMessage.parseFileMetaMessage P item.onionName internalPayload with
    | none =>
      rw [Device.prepareReceiveFile, hkeys]
      dsimp only
      rw [hparse]
      exact acts_updateConnectionPurpose (acts_recordXOR (acts_refl h) hkeys) hitem _
    | some task =>
      obtain ⟨htask, hspoken⟩ := FileCell.spoken_of_parsed hparse
      have hother : task.fileNameHash ≠ nameHash P fileName :=
        hash_of_unheard hreads hspoken (fun _ => by rw [hkeys]; rfl) hnone
      have hhash : task.fileNameHash = P.sha1 (getBytes task.fileName) := by
        rw [htask]
        rfl
      have hhashed := hashed_of_name hhash hother
      have hacts := acts_prepareReceiveFile hsent hne h hitem hreads hkeys hparse hhashed
      rw [if_neg hother, if_neg (fun hname => hother ((hashed_eq hhashed).mpr hname.symm))]
        at hacts
      exact hacts

theorem acts_sendFileShards_unheard (hne : c.keyFile ≠ []) (h : Established P c fileName d)
    (hitem : Addressed c item)
    (hnone : FileCell.heard P (nameHash P fileName) item.data = none)
    (hreads : d.Reads P item statusItem messageID Constant.dataFileReady internalPayload) :
    Acts P c fileName d (d.sendFileShards P env internalPayload statusItem item messageID)
      [] [] (own fileName d) := by
  obtain ⟨purpose, rfl⟩ := status_of_reads h hitem hreads
  rw [Device.sendFileShards]
  split
  · exact acts_refl h
  · rename_i keys hkeys
    have hmarked := acts_updateConnectionPurpose (acts_recordXOR (acts_refl h) hkeys) hitem
      Constant.socketPurposeFile
    dsimp only
    split
    · exact hmarked
    · rename_i fileNameHash hparse
      have hspoken : FileCell.spoken P Constant.dataFileReady internalPayload =
          some (fileNameHash, .ready) := by
        rw [FileCell.spoken_ready, hparse, Option.map_some]
      have hother := hash_of_unheard hreads hspoken (fun _ => by rw [hkeys]; rfl) hnone
      split
      · exact hmarked
      · rename_i task hfound
        obtain ⟨hhashed, hhash⟩ := hashed_found h hfound
        refine acts_enqueuePieces_none hne (acts_modifyTask_other hmarked
          (found_other h hfound hother) (fun t => t.setStatus .transferrring)
          (fun _ => ⟨rfl, rfl⟩)) (fun i hi => ?_)
        exact unheard_piece (hhash ▸ hashed_length hhashed) hother hi

theorem acts_receiveFileDone_unheard (h : Established P c fileName d)
    (hnone : FileCell.heard P (nameHash P fileName) item.data = none)
    (hreads : d.Reads P item statusItem messageID Constant.dataFileDone internalPayload) :
    Acts P c fileName d (d.receiveFileDone internalPayload messageID) [] [] (own fileName d) := by
  rw [Device.receiveFileDone]
  split
  · exact acts_refl h
  · rename_i fileNameHash hparse
    have hspoken : FileCell.spoken P Constant.dataFileDone internalPayload =
        some (fileNameHash, .done) := by
      rw [FileCell.spoken_done, hparse, Option.map_some]
    have hother := hash_of_unheard hreads hspoken (fun hpointed => by cases hpointed) hnone
    split
    · exact acts_refl h
    · rename_i task hfound
      have hname := found_other h hfound hother
      exact acts_removeTask_other (acts_notify (acts_refl h) (.fileComplete task.fileName messageID)
        (decide_eq_false hname)) hname

theorem acts_receiveFileAck_unheard {message : ACKMessage} (hne : c.keyFile ≠ [])
    (h : Established P c fileName d) (hitem : Addressed c item)
    (hnone : FileCell.heard P (nameHash P fileName) item.data = none)
    (hreads : d.Reads P item statusItem messageID Constant.dataAck internalPayload)
    (hparse : DataMessage.parseACKDataMessage internalPayload = some message)
    (hfile : message.messageType > 0) :
    Acts P c fileName d (d.receiveFileAck P env message statusItem item messageID) [] []
      (own fileName d) := by
  obtain ⟨purpose, rfl⟩ := status_of_reads h hitem hreads
  have hspoken : FileCell.spoken P Constant.dataAck internalPayload =
      some (message.messageHash, .ack message.recievePieceNumber message.ackok) := by
    rw [FileCell.spoken_ack, hparse, Option.bind_some, if_pos hfile]
  have hother := hash_of_unheard hreads hspoken (fun hpointed => by cases hpointed) hnone
  rw [Device.receiveFileAck]
  split
  · exact acts_refl h
  · rename_i found hfound
    obtain ⟨hhashed, hhash⟩ := hashed_found h hfound
    have hname := found_other h hfound hother
    split
    · have hmodified := acts_modifyTask_other (acts_refl h) hname
        (fun t => (t.updateTransferStatus message.recievePieceNumber).setStatus .transferrring)
        (fun _ => ⟨rfl, rfl⟩)
      dsimp only
      split
      · refine acts_enqueue_none (acts_notify hmodified (.fileMessage _ _ messageID) rfl) ?_
        intro i hi
        rw [List.mem_singleton.mp hi]
        exact ⟨.zeros, rfl, rfl⟩
      · exact hmodified
    · split
      · rw [Device.resend]
        refine acts_enqueuePieces_none hne (acts_refl h) (fun i hi => ?_)
        exact unheard_piece (hashed_length hhashed) (hhash ▸ hother) hi
      · exact acts_refl h

theorem acts_receiveAck_unheard (hne : c.keyFile ≠ []) (h : Established P c fileName d)
    (hitem : Addressed c item)
    (hnone : FileCell.heard P (nameHash P fileName) item.data = none)
    (hreads : d.Reads P item statusItem messageID Constant.dataAck internalPayload) :
    Acts P c fileName d (d.receiveAck P env internalPayload statusItem item messageID) [] []
      (own fileName d) := by
  rw [Device.receiveAck]
  split
  · exact acts_refl h
  · rename_i message hparse
    split
    · rename_i hfile
      exact acts_receiveFileAck_unheard hne h hitem hnone hreads hparse hfile
    · exact acts_notify (acts_refl h) (.peerHasReceivedMessage messageID) rfl

end Unheard

section Pieces

variable {d₀ : Device} {out queue : List FileCell} {o : Own} {task : FileTask}

def received (pieceID : Nat) (fileContent : Bytes) (task : FileTask) : FileTask :=
  (task.recievePieceData pieceID fileContent).setStatus .transferrring

theorem acts_receiveAllFileShards_other (hsent : ∀ n, env.sent n = true) (hne : c.keyFile ≠ [])
    (h : Acts P c fileName d₀ d out queue o) (hname : task.fileName ≠ fileName)
    (hhashed : Hashed P fileName task) (hid : messageID < 2 ^ 31)
    (hkey : statusItem.shareKey = some c.sharedKey) :
    Acts P c fileName d₀ (d.receiveAllFileShards P env task statusItem item messageID) out queue
      o := by
  have hother : task.fileNameHash ≠ nameHash P fileName :=
    fun hhash => hname ((hashed_eq hhashed).mp hhash)
  rw [Device.receiveAllFileShards]
  split
  · dsimp only
    have hmerged := acts_receiveFile_other h hname (task.mergeFile P d.keys.keyFile
      (some ((d.receiveFiles.get? task.fileName).getD []))).1
    split
    · exact hmerged
    · split
      · exact acts_writeBack hne hmerged
      · rename_i finalPayload hdone
        rw [hkey] at hdone
        have hcell : FileCell.heardCell P c.sharedKey (nameHash P fileName) finalPayload =
            if task.fileNameHash = nameHash P fileName then some .done else none :=
          FileCell.heardCell_done hid (hashed_length hhashed) hdone
        rw [if_neg hother] at hcell
        rw [if_pos (hsent 1)]
        exact acts_removeTask_other (acts_notify (acts_transmit_none (acts_writeBack hne hmerged)
          hcell) (.fileComplete task.fileName messageID) (decide_eq_false hname)) hname
  · exact h

theorem acts_receiveAllFileShards_last (hsent : ∀ n, env.sent n = true) (hne : c.keyFile ≠ [])
    (h : Acts P c fileName d₀ d out queue o) (hname : task.fileName = fileName)
    (hhash : task.fileNameHash = nameHash P fileName) (hid : messageID < 2 ^ 31)
    (hsocket : statusItem.socket = c.socket) (hkey : statusItem.shareKey = some c.sharedKey)
    (hcard : (task.fileTransferStatusMap.card : Int) = task.totalPieceNumber) {content : Bytes}
    {path : String}
    (hmerge : task.mergeFile P c.keyFile (some (o.file.getD [])) = (some content, some path)) :
    Acts P c fileName d₀ (d.receiveAllFileShards P env task statusItem item messageID)
      (out ++ [.done]) queue
      { task := none, registering := o.registering, file := some content, completed := true } := by
  have hfile : d.receiveFiles.get? task.fileName = o.file := by
    rw [hname, ← h.own]
    rfl
  have hmerged := acts_receiveFile h task.fileName content
  rw [if_pos hname.symm] at hmerged
  rw [Device.receiveAllFileShards, if_pos hcard, h.established.keyFile, hfile, hmerge]
  dsimp only
  split
  · rename_i hdone
    rw [hkey] at hdone
    cases hdone
  · rename_i finalPayload hdone
    rw [hkey] at hdone
    have hcell : FileCell.heardCell P c.sharedKey (nameHash P fileName) finalPayload =
        if task.fileNameHash = nameHash P fileName then some .done else none :=
      FileCell.heardCell_done hid (hhash ▸ nameHash_length P fileName) hdone
    rw [if_pos hhash] at hcell
    rw [if_pos (hsent 1)]
    have hacts := acts_removeTask (acts_notify_complete (acts_transmit_some
      (acts_writeBack hne hmerged) hsocket hcell) messageID) task
    rw [if_pos hname.symm] at hacts
    rw [hname] at hacts ⊢
    exact hacts

theorem piece_lt {fileNameHash fileContent : Bytes} {pieceID : Nat}
    (h : FileMessage.parseFileDataMessage internalPayload =
      some (fileNameHash, pieceID, fileContent)) : pieceID < 2 ^ 31 := by
  simp only [FileMessage.parseFileDataMessage, Option.bind_eq_bind, Option.bind_eq_some_iff,
    Option.pure_def, Option.some.injEq, Prod.mk.injEq] at h
  obtain ⟨_, -, number, ⟨bytes, -, hparse⟩, _, -, -, rfl, -⟩ := h
  exact parseInt16_lt hparse

-- the piece is stored and acknowledged before the merge is tried
theorem acts_receivePiece (hsent : ∀ n, env.sent n = true) (hne : c.keyFile ≠ [])
    (h : Established P c fileName d) (hitem : Addressed c item)
    (hreads : d.Reads P item statusItem messageID Constant.dataFileData internalPayload)
    {keys : KeyState} (hkeys : d.keys.getRecordXOR item.data messageID = some keys)
    {pieceID : Nat} {fileContent : Bytes}
    (hparse : FileMessage.parseFileDataMessage internalPayload = some (hash, pieceID, fileContent))
    (hfound : d.getFileTaskByFileNameHash hash = some found) :
    ∃ d', d.receiveFileShards P env internalPayload statusItem item messageID =
        d'.receiveAllFileShards P env (received pieceID fileContent found) statusItem item
          messageID ∧
      Acts P c fileName d d'
        (if hash = nameHash P fileName then [.ack pieceID Constant.dataAckContent] else []) []
        { own fileName d with task :=
            if fileName = found.fileName then
              (own fileName d).task.map (received pieceID fileContent)
            else (own fileName d).task } := by
  obtain ⟨purpose, rfl⟩ := status_of_reads h hitem hreads
  obtain ⟨hhashed, hhash⟩ := hashed_found h hfound
  have hlength : hash.length = 20 := hhash ▸ hashed_length hhashed
  have hread : Acts P c fileName d ((d.setKeys keys).modifyTask found
      (received pieceID fileContent)) [] [] _ :=
    acts_modifyTask (acts_recordXOR (acts_refl h) hkeys) found (fun _ => ⟨rfl, rfl⟩)
  have hfound' : (d.setKeys keys).getFileTaskByFileNameHash hash = some found := hfound
  rw [Device.receiveFileShards, hkeys]
  dsimp only
  rw [hparse]
  dsimp only
  rw [hfound']
  dsimp only
  split
  · rename_i hack
    cases hack
  · rename_i finalPayload hack
    rw [if_pos (hsent 0)]
    refine ⟨_, rfl, ?_⟩
    have hnoticed := acts_writeBack hne (acts_notify_if
      (((received pieceID fileContent found).fileTransferStatusMap.card : Int).tmod
        (received pieceID fileContent found).stepNumber = 0) hread
      (.fileMessage (received pieceID fileContent found).fileName
        (received pieceID fileContent found).percent messageID) rfl)
    have hack' : DataMessage.buildACKDataMessage P (env.ambient 0) _ (some c.sharedKey) 2 pieceID
        Constant.dataAckContent hash messageID = some finalPayload := hhash ▸ hack
    by_cases hsame : hash = nameHash P fileName
    · rw [if_pos hsame]
      refine acts_transmit_some hnoticed rfl ?_
      rw [← hsame]
      exact FileCell.heardCell_ack (id_of_reads hreads) hlength (piece_lt hparse) hack'
    · rw [if_neg hsame]
      exact acts_transmit_none hnoticed (FileCell.not_heardCell_ack hlength hsame hack')

end Pieces

section Other

theorem acts_receiveFileShards_unheard (hsent : ∀ n, env.sent n = true) (hne : c.keyFile ≠ [])
    (h : Established P c fileName d) (hitem : Addressed c item)
    (hnone : FileCell.heard P (nameHash P fileName) item.data = none)
    (hreads : d.Reads P item statusItem messageID Constant.dataFileData internalPayload) :
    Acts P c fileName d (d.receiveFileShards P env internalPayload statusItem item messageID)
      [] [] (own fileName d) := by
  cases hkeys : d.keys.getRecordXOR item.data messageID with
  | none =>
    rw [Device.receiveFileShards, hkeys]
    exact acts_refl h
  | some keys =>
    have hread := acts_recordXOR (acts_refl h) hkeys
    cases hparse : FileMessage.parseFileDataMessage internalPayload with
    | none =>
      rw [Device.receiveFileShards, hkeys]
      dsimp only
      rw [hparse]
      exact hread
    | some data =>
      obtain ⟨byteFileNameHash, pieceID, fileContent⟩ := data
      cases hfound : d.getFileTaskByFileNameHash byteFileNameHash with
      | none =>
        rw [Device.receiveFileShards, hkeys]
        dsimp only
        rw [hparse]
        dsimp only
        rw [show (d.setKeys keys).getFileTaskByFileNameHash byteFileNameHash = none from hfound]
        exact hread
      | some found =>
        have hspoken : FileCell.spoken P Constant.dataFileData internalPayload =
            some (byteFileNameHash, .piece pieceID fileContent) := by
          rw [FileCell.spoken_data, hparse, Option.map_some]
        have hother := hash_of_unheard hreads hspoken (fun _ => by rw [hkeys]; rfl) hnone
        have hname := found_other h hfound hother
        obtain ⟨d', hshards, hacts⟩ :=
          acts_receivePiece hsent hne h hitem hreads hkeys hparse hfound
        rw [if_neg hother, if_neg hname.symm] at hacts
        obtain ⟨hhashed, hhash⟩ := hashed_found h hfound
        obtain ⟨purpose, rfl⟩ := status_of_reads h hitem hreads
        rw [hshards]
        exact acts_receiveAllFileShards_other hsent hne hacts hname
          ⟨hhashed.hash, hhashed.name⟩ (id_of_reads hreads) rfl

theorem acts_dispatch_unheard (hsent : ∀ n, env.sent n = true) (hne : c.keyFile ≠ [])
    (h : Established P c fileName d) (hitem : Addressed c item)
    (hnone : FileCell.heard P (nameHash P fileName) item.data = none)
    (hreads : d.Reads P item statusItem messageID messageType internalPayload) :
    Acts P c fileName d
      (d.dispatchDataMessage P env statusItem item messageID messageType internalPayload)
      [] [] (own fileName d) := by
  rw [Device.dispatchDataMessage]
  split
  · rename_i htype
    subst htype
    exact acts_receiveTextMessage hsent hne h hitem hreads
  split
  · rename_i htype
    subst htype
    exact acts_prepareReceiveFile_unheard hsent hne h hitem hnone hreads
  split
  · rename_i htype
    subst htype
    exact acts_sendFileShards_unheard hne h hitem hnone hreads
  split
  · rename_i htype
    subst htype
    exact acts_receiveFileShards_unheard hsent hne h hitem hnone hreads
  split
  · rename_i htype
    subst htype
    exact acts_receiveFileDone_unheard h hnone hreads
  split
  · rename_i htype
    subst htype
    exact acts_receiveAck_unheard hne h hitem hnone hreads
  · exact acts_refl h

theorem acts_dataMessageHandle_unheard (hsent : ∀ n, env.sent n = true) (hne : c.keyFile ≠ [])
    (h : Established P c fileName d) (hitem : Addressed c item)
    (hnone : FileCell.heard P (nameHash P fileName) item.data = none) :
    Acts P c fileName d (d.dataMessageHandle P env item) [] [] (own fileName d) := by
  rcases Device.dataMessageHandle_cases P env d item with
    hsame | ⟨statusItem, messageID, messageType, internalPayload, hreads, heq⟩
  · rw [hsame]
    exact acts_refl h
  · rw [heq]
    exact acts_dispatch_unheard hsent hne h hitem hnone hreads

end Other

end FileTraffic

end TorChat
