import TorChat.Message.DataCell

namespace TorChat

open Library (Bytes slice? beBytes)

-- what a data cell says about the file with a given name hash
inductive FileCell where
  | offer (fileName : String) (totalSize : Nat) (contentHash : Bytes)
  | ready
  | piece (pieceID : Nat) (fileContent : Bytes)
  | done
  | ack (pieceID : Nat) (ackok : String)
  deriving DecidableEq, Repr

namespace FileCell

-- the handlers of these cells read the pointers before anything else
def pointed : FileCell → Bool
  | .offer _ _ _ => true
  | .ready => true
  | .piece _ _ => true
  | .done => false
  | .ack _ _ => false

def ofTask (task : FileTask) : FileCell :=
  .offer task.fileName task.totalSize task.contentHash

variable (P : Platform)

def spoken (messageType : Nat) (internalPayload : Bytes) : Option (Bytes × FileCell) :=
  if messageType = Constant.dataFileMeta then
    (FileMessage.parseFileMetaMessage P "" internalPayload).map
      (fun task => (task.fileNameHash, ofTask task))
  else if messageType = Constant.dataFileReady then
    (FileMessage.parseFileReadyMessage internalPayload).map (fun hash => (hash, .ready))
  else if messageType = Constant.dataFileData then
    (FileMessage.parseFileDataMessage internalPayload).map
      (fun data => (data.1, .piece data.2.1 data.2.2))
  else if messageType = Constant.dataFileDone then
    (FileMessage.parseFileReadyMessage internalPayload).map (fun hash => (hash, .done))
  else if messageType = Constant.dataAck then
    (DataMessage.parseACKDataMessage internalPayload).bind (fun message =>
      if message.messageType > 0 then
        some (message.messageHash, .ack message.recievePieceNumber message.ackok)
      else none)
  else none

def readable (raw : Bytes) (messageID : Nat) : Bool :=
  (KeyState.getRecordXOR { keyFile := [] } raw messageID).isSome

def heard (fileNameHash raw : Bytes) : Option FileCell :=
  match Message.parseMessageID raw, Message.parseMessageType raw,
    Message.parseExternalPaylod P raw with
  | some messageID, some messageType, some internalPayload =>
      match spoken P messageType internalPayload with
      | some (hash, said) =>
          if hash = fileNameHash ∧ (said.pointed → readable raw messageID) then some said else none
      | none => none
  | _, _, _ => none

def heardCell (sharedKey fileNameHash : Bytes) (cell : Cell) : Option FileCell :=
  (Message.parseDataPayload cell (some sharedKey)).bind (heard P fileNameHash)

variable {P} {fileNameHash raw internalPayload hash : Bytes} {messageID messageType : Nat}
  {said : FileCell}

theorem readable_eq (keys : KeyState) (raw : Bytes) (messageID : Nat) :
    (keys.getRecordXOR raw messageID).isSome = readable raw messageID := by
  rw [readable, KeyState.getRecordXOR, KeyState.getRecordXOR]
  cases Message.parseStartXORFileName raw with
  | none => rfl
  | some startName =>
    cases Message.parseStartXORIndex raw with
    | none => rfl
    | some startIndex =>
      cases Message.parseEndXORFileName raw with
      | none => rfl
      | some endName => cases Message.parseEndXORIndex raw <;> rfl

theorem heard_of_spoken (hid : Message.parseMessageID raw = some messageID)
    (htype : Message.parseMessageType raw = some messageType)
    (hpayload : Message.parseExternalPaylod P raw = some internalPayload)
    (hspoken : spoken P messageType internalPayload = some (hash, said)) :
    heard P fileNameHash raw =
      if hash = fileNameHash ∧ (said.pointed → readable raw messageID) then some said
      else none := by
  rw [heard, hid, htype, hpayload]
  dsimp only
  rw [hspoken]

theorem heard_eq_some (h : heard P fileNameHash raw = some said) :
    ∃ messageID messageType internalPayload, Message.parseMessageID raw = some messageID ∧
      Message.parseMessageType raw = some messageType ∧
      Message.parseExternalPaylod P raw = some internalPayload ∧
      spoken P messageType internalPayload = some (fileNameHash, said) ∧
      (said.pointed = true → readable raw messageID = true) := by
  rw [heard] at h
  split at h
  · rename_i messageID messageType internalPayload hid htype hpayload
    split at h
    · rename_i hash read hspoken
      split at h
      · rename_i hread
        obtain ⟨rfl, hpointed⟩ := hread
        obtain rfl := Option.some.inj h
        exact ⟨messageID, messageType, internalPayload, hid, htype, hpayload, hspoken, hpointed⟩
      · cases h
    · cases h
  · cases h

-- what the handler of a cell finds when it parses the payload
def Parsed (P : Platform) (messageType : Nat) (internalPayload hash : Bytes) : FileCell → Prop
  | .offer fileName totalSize contentHash => messageType = Constant.dataFileMeta ∧
      ∃ task, FileMessage.parseFileMetaMessage P "" internalPayload = some task ∧
        task.fileNameHash = hash ∧ ofTask task = .offer fileName totalSize contentHash
  | .ready => messageType = Constant.dataFileReady ∧
      FileMessage.parseFileReadyMessage internalPayload = some hash
  | .piece pieceID fileContent => messageType = Constant.dataFileData ∧
      FileMessage.parseFileDataMessage internalPayload = some (hash, pieceID, fileContent)
  | .done => messageType = Constant.dataFileDone ∧
      FileMessage.parseFileReadyMessage internalPayload = some hash
  | .ack pieceID ackok => messageType = Constant.dataAck ∧
      ∃ message, DataMessage.parseACKDataMessage internalPayload = some message ∧
        message.messageType > 0 ∧ message.messageHash = hash ∧
          message.recievePieceNumber = pieceID ∧ message.ackok = ackok

theorem parsed_of_spoken (h : spoken P messageType internalPayload = some (hash, said)) :
    Parsed P messageType internalPayload hash said := by
  rw [spoken] at h
  split at h
  · rename_i htype
    obtain ⟨task, hparse, heq⟩ := Option.map_eq_some_iff.mp h
    cases heq
    exact ⟨htype, task, hparse, rfl, rfl⟩
  split at h
  · rename_i htype
    obtain ⟨read, hparse, heq⟩ := Option.map_eq_some_iff.mp h
    cases heq
    exact ⟨htype, hparse⟩
  split at h
  · rename_i htype
    obtain ⟨data, hparse, heq⟩ := Option.map_eq_some_iff.mp h
    cases heq
    exact ⟨htype, hparse⟩
  split at h
  · rename_i htype
    obtain ⟨read, hparse, heq⟩ := Option.map_eq_some_iff.mp h
    cases heq
    exact ⟨htype, hparse⟩
  split at h
  · rename_i htype
    obtain ⟨message, hparse, heq⟩ := Option.bind_eq_some_iff.mp h
    split at heq
    · rename_i hfile
      cases heq
      exact ⟨htype, message, hparse, hfile, rfl, rfl, rfl⟩
    · cases heq
  · cases h

-- the hash stands before everything that a cut payload can lose
theorem spoken_of_prefix {payload : Bytes} (h : spoken P messageType payload = some (hash, said))
    (hpre : payload <+: internalPayload) :
    ∃ whole, spoken P messageType internalPayload = some (hash, whole) := by
  rw [spoken] at h ⊢
  split
  · rename_i htype
    rw [if_pos htype] at h
    obtain ⟨task, hparse, heq⟩ := Option.map_eq_some_iff.mp h
    refine ⟨said, ?_⟩
    rw [FileMessage.parseFileMetaMessage_of_prefix hparse hpre, Option.map_some, heq]
  split
  · rename_i hmeta htype
    rw [if_neg hmeta, if_pos htype] at h
    obtain ⟨read, hparse, heq⟩ := Option.map_eq_some_iff.mp h
    refine ⟨said, ?_⟩
    rw [FileMessage.parseFileReadyMessage, Message.subBytes, Library.slice?_of_prefix hparse hpre,
      Option.map_some, heq]
  split
  · rename_i hmeta hready htype
    rw [if_neg hmeta, if_neg hready, if_pos htype] at h
    obtain ⟨data, hparse, heq⟩ := Option.map_eq_some_iff.mp h
    obtain ⟨rest, hrest⟩ := FileMessage.parseFileDataMessage_of_prefix hparse hpre
    rw [hrest, Option.map_some, ← (Prod.mk.inj heq).1]
    exact ⟨_, rfl⟩
  split
  · rename_i hmeta hready hdata htype
    rw [if_neg hmeta, if_neg hready, if_neg hdata, if_pos htype] at h
    obtain ⟨read, hparse, heq⟩ := Option.map_eq_some_iff.mp h
    refine ⟨said, ?_⟩
    rw [FileMessage.parseFileReadyMessage, Message.subBytes, Library.slice?_of_prefix hparse hpre,
      Option.map_some, heq]
  split
  · rename_i hmeta hready hdata hdone htype
    rw [if_neg hmeta, if_neg hready, if_neg hdata, if_neg hdone, if_pos htype] at h
    obtain ⟨message, hparse, heq⟩ := Option.bind_eq_some_iff.mp h
    refine ⟨said, ?_⟩
    rw [DataMessage.parseACKDataMessage_of_prefix hparse hpre, Option.bind_some, heq]
  · rename_i hmeta hready hdata hdone hack
    rw [if_neg hmeta, if_neg hready, if_neg hdata, if_neg hdone, if_neg hack] at h
    cases h

section Payloads

theorem spoken_text (internalPayload : Bytes) :
    spoken P Constant.dataMessage internalPayload = none := rfl

theorem spoken_meta (internalPayload : Bytes) :
    spoken P Constant.dataFileMeta internalPayload =
      (FileMessage.parseFileMetaMessage P "" internalPayload).map
        (fun task => (task.fileNameHash, ofTask task)) := rfl

theorem spoken_ready (internalPayload : Bytes) :
    spoken P Constant.dataFileReady internalPayload =
      (FileMessage.parseFileReadyMessage internalPayload).map (fun hash => (hash, .ready)) := rfl

theorem spoken_data (internalPayload : Bytes) :
    spoken P Constant.dataFileData internalPayload =
      (FileMessage.parseFileDataMessage internalPayload).map
        (fun data => (data.1, .piece data.2.1 data.2.2)) := rfl

theorem spoken_done (internalPayload : Bytes) :
    spoken P Constant.dataFileDone internalPayload =
      (FileMessage.parseFileReadyMessage internalPayload).map (fun hash => (hash, .done)) := rfl

theorem spoken_ack (internalPayload : Bytes) :
    spoken P Constant.dataAck internalPayload =
      (DataMessage.parseACKDataMessage internalPayload).bind (fun message =>
        if message.messageType > 0 then
          some (message.messageHash, .ack message.recievePieceNumber message.ackok)
        else none) := rfl

theorem parseFileMetaMessage_onionName (onionName other : String) (internalPayload : Bytes) :
    FileMessage.parseFileMetaMessage P onionName internalPayload =
      (FileMessage.parseFileMetaMessage P other internalPayload).map (fun task =>
        FileTask.ofMeta P onionName task.fileName task.totalSize task.contentHash) := by
  simp only [FileMessage.parseFileMetaMessage, Option.bind_eq_bind, Option.map_bind,
    Function.comp_def, Option.pure_def, Option.map_some]
  rfl

theorem spoken_of_parsed {onionName : String} {task : FileTask}
    (h : FileMessage.parseFileMetaMessage P onionName internalPayload = some task) :
    task = FileTask.ofMeta P onionName task.fileName task.totalSize task.contentHash ∧
      spoken P Constant.dataFileMeta internalPayload = some (task.fileNameHash, ofTask task) := by
  have hself := parseFileMetaMessage_onionName (P := P) onionName onionName internalPayload
  rw [h, Option.map_some] at hself
  have htask := Option.some.inj hself
  refine ⟨htask, ?_⟩
  rw [spoken_meta, parseFileMetaMessage_onionName "" onionName, h, Option.map_some,
    Option.map_some]
  congr 2
  rw [htask]
  rfl

theorem hash_of_spoken_data {pieceID : Nat} {fileContent : Bytes} (hlength : hash.length = 20)
    {read : Bytes} (h : spoken P Constant.dataFileData
      (FileMessage.dataPayload hash pieceID fileContent) = some (read, said)) : read = hash := by
  have hfirst : Message.subBytes (FileMessage.dataPayload hash pieceID fileContent) 0 20 =
      some hash := Library.slice?_prefix hlength
  obtain ⟨data, hparse, heq⟩ := Option.map_eq_some_iff.mp (spoken_data (P := P) _ ▸ h)
  rw [FileMessage.parseFileDataMessage, hfirst] at hparse
  simp only [Option.bind_eq_bind, Option.bind_some, Option.bind_eq_some_iff, Option.pure_def,
    Option.some.injEq] at hparse
  obtain ⟨_, -, _, -, rfl⟩ := hparse
  exact (Prod.mk.inj heq).1.symm

theorem hash_of_spoken_ack {keys : KeyState} {ackMessageType pieceID : Nat}
    (hlength : hash.length = 20) {read : Bytes} (h : spoken P Constant.dataAck
      (DataMessage.ackPayload keys ackMessageType pieceID Constant.dataAckContent hash) =
        some (read, said)) : read = hash := by
  obtain ⟨message, hparse, hread⟩ := Option.bind_eq_some_iff.mp (spoken_ack (P := P) _ ▸ h)
  obtain ⟨-, hmessage, -⟩ := DataMessage.fields_of_ackPayload (by decide) hlength hparse
  split at hread
  · rw [← hmessage]
    exact (Prod.mk.inj (Option.some.inj hread)).1.symm
  · cases hread

theorem spoken_textAck {keys : KeyState} {pieceID : Nat} {ack : String} {messageHash : Bytes} :
    spoken P Constant.dataAck (DataMessage.ackPayload keys 0 pieceID ack messageHash) = none := by
  rw [spoken_ack, Option.bind_eq_none_iff]
  intro message hparse
  rw [if_neg]
  rw [DataMessage.messageType_of_ackPayload (by decide) hparse]
  exact Nat.lt_irrefl 0

end Payloads

section Built

variable (P) (amb : Ambient) {pointers : Bytes} {length : Nat} {sharedKey : Bytes} {cell : Cell}

def Pointers (pointers : Bytes) : Prop :=
  ∃ start stop first last, pointers = start ++ stop ∧ start.length = 6 ∧ stop.length = 6 ∧
    KeyState.parseXor start = some first ∧ KeyState.parseXor stop = some last

theorem pointers_cellXor (keys : KeyState) : Pointers (keys.cellXor ++ keys.cellXor) :=
  ⟨_, _, _, _, rfl, keys.cellXor_length, keys.cellXor_length, keys.parseXor_cellXor,
    keys.parseXor_cellXor⟩

theorem pointers_placeholder :
    Pointers (FileMessage.placeholderPointer ++ FileMessage.placeholderPointer) :=
  ⟨_, _, (0, 0), (0, 0), rfl, rfl, rfl, by decide, by decide⟩

theorem readable_externalPayload (h : Pointers pointers)
    (hinternal : internalPayload.length < 65536) (id : Nat) :
    readable (Message.externalPayload P amb messageType messageID internalPayload pointers length)
      id = true := by
  obtain ⟨start, stop, ⟨fileName, fileIndex⟩, ⟨endName, endIndex⟩, rfl, hstart, hstop, hfirst,
    hlast⟩ := h
  rw [readable, KeyState.getRecordXOR_externalPayload P amb _ hinternal hfirst hstart hlast hstop]
  rfl

theorem heard_externalPayload (htype : messageType < 256) (hid : messageID < 2 ^ 31)
    (hinternal : internalPayload.length < 65536)
    (hspoken : spoken P messageType internalPayload = some (fileNameHash, said))
    (hpointers : said.pointed = true → Pointers pointers) :
    heard P fileNameHash (Message.externalPayload P amb messageType messageID internalPayload
      pointers length) = some said := by
  rw [heard_of_spoken (Message.parseMessageID_externalPayload P amb hid)
    (Message.parseMessageType_externalPayload P amb htype)
    (Message.parseExternalPaylod_externalPayload P amb hinternal) hspoken, if_pos]
  exact ⟨rfl, fun h => readable_externalPayload P amb (hpointers h) hinternal messageID⟩

theorem not_heard_externalPayload (htype : messageType < 256)
    (hspoken : ∀ said, spoken P messageType internalPayload ≠ some (fileNameHash, said)) :
    heard P fileNameHash (Message.externalPayload P amb messageType messageID internalPayload
      pointers length) = none := by
  rw [Option.eq_none_iff_forall_ne_some]
  intro said h
  obtain ⟨_, readType, payload, -, hread, hpayload, hsaid, -⟩ := heard_eq_some h
  obtain rfl := Option.some.inj
    (hread.symm.trans (Message.parseMessageType_externalPayload P amb htype))
  obtain ⟨whole, hwhole⟩ :=
    spoken_of_prefix hsaid (Message.parseExternalPaylod_prefix P amb hpayload)
  exact hspoken whole hwhole

variable {P amb} {keys : KeyState} {fileName : String} {fileSize pieceID : Nat}
  {contentHash fileContent : Bytes}

theorem heardCell_packed {raw : Bytes}
    (h : Message.packDataPayload raw (some sharedKey) = some cell) :
    heardCell P sharedKey fileNameHash cell = heard P fileNameHash raw := by
  obtain rfl := Option.some.inj h
  rw [heardCell, Message.parseDataPayload, if_pos rfl, Option.bind_some]

theorem heardCell_meta (hid : messageID < 2 ^ 31) (hname : (getBytes fileName).length < 256)
    (hsize : fileSize < 2 ^ 63) (hhash : contentHash.length = 20)
    (h : FileMessage.buildFileMetaMessage P amb (some sharedKey) fileName fileSize contentHash
      messageID = some cell) :
    heardCell P sharedKey (P.sha1 (getBytes fileName)) cell =
      some (.offer fileName fileSize contentHash) := by
  have hlength : (FileMessage.metaPayload P fileName fileSize contentHash).length < 65536 := by
    simp only [FileMessage.metaPayload, List.length_append, Library.beBytes_length, P.sha1_length,
      hhash]
    omega
  rw [heardCell_packed h]
  refine heard_externalPayload P amb (by decide) hid hlength ?_ (fun _ => pointers_placeholder)
  rw [spoken_meta, FileMessage.parseFileMetaMessage_metaPayload P "" hname hsize hhash]
  rfl

theorem not_heardCell_meta (h : FileMessage.buildFileMetaMessage P amb (some sharedKey) fileName
      fileSize contentHash messageID = some cell)
    (hother : ∀ task, FileMessage.parseFileMetaMessage P ""
      (FileMessage.metaPayload P fileName fileSize contentHash) = some task →
        task.fileNameHash ≠ fileNameHash) :
    heardCell P sharedKey fileNameHash cell = none := by
  rw [heardCell_packed h]
  refine not_heard_externalPayload P amb (by decide) (fun said hsaid => ?_)
  rw [spoken_meta] at hsaid
  obtain ⟨task, hparse, heq⟩ := Option.map_eq_some_iff.mp hsaid
  exact hother task hparse (Prod.mk.inj heq).1

theorem not_heardCell_text (h : Message.packDataPayload (Message.createDataMessageExternalPaylod P
      amb keys Constant.dataMessage internalPayload messageID) (some sharedKey) = some cell) :
    heardCell P sharedKey fileNameHash cell = none := by
  rw [heardCell_packed h]
  refine not_heard_externalPayload P amb (by decide) (fun said hsaid => ?_)
  rw [spoken_text] at hsaid
  cases hsaid

theorem not_heardCell_textAck {messageHash : Bytes}
    (h : DataMessage.buildACKDataMessage P amb keys (some sharedKey) 0 pieceID
      Constant.dataAckContent messageHash messageID = some cell) :
    heardCell P sharedKey fileNameHash cell = none := by
  rw [heardCell_packed h]
  refine not_heard_externalPayload P amb (by decide) (fun said hsaid => ?_)
  rw [spoken_textAck] at hsaid
  cases hsaid

theorem heardCell_hash (htype : messageType < 256) (hid : messageID < 2 ^ 31)
    (hhash : hash.length = 20) (hspoken : spoken P messageType hash = some (hash, said))
    (h : FileMessage.createFileMessage P amb keys messageType (some sharedKey) hash messageID =
      some cell) :
    heardCell P sharedKey fileNameHash cell = if hash = fileNameHash then some said else none := by
  rw [heardCell_packed h]
  split
  · rename_i hsame
    subst hsame
    exact heard_externalPayload P amb htype hid (by omega) hspoken
      (fun _ => pointers_cellXor keys)
  · rename_i hother
    refine not_heard_externalPayload P amb htype (fun read hread => ?_)
    exact hother (Prod.mk.inj (Option.some.inj (hspoken.symm.trans hread))).1

theorem heardCell_ready (hid : messageID < 2 ^ 31) (hhash : hash.length = 20)
    (h : FileMessage.buildFileReadyMessage P amb keys (some sharedKey) hash messageID =
      some cell) :
    heardCell P sharedKey fileNameHash cell =
      if hash = fileNameHash then some .ready else none := by
  refine heardCell_hash (by decide) hid hhash ?_ h
  rw [spoken_ready, FileMessage.parseFileReadyMessage_self hhash, Option.map_some]

theorem heardCell_done (hid : messageID < 2 ^ 31) (hhash : hash.length = 20)
    (h : FileMessage.buildFileDoneMessage P amb keys (some sharedKey) hash messageID =
      some cell) :
    heardCell P sharedKey fileNameHash cell = if hash = fileNameHash then some .done else none := by
  refine heardCell_hash (by decide) hid hhash ?_ h
  rw [spoken_done, FileMessage.parseFileReadyMessage_self hhash, Option.map_some]

theorem heardCell_piece (hid : messageID < 2 ^ 31) (hhash : hash.length = 20)
    (hpiece : pieceID < 2 ^ 31) (hcontent : fileContent.length ≤ 1978)
    (h : FileMessage.buildFileDataMessage P amb keys (some sharedKey) hash pieceID fileContent
      messageID = some cell) :
    heardCell P sharedKey hash cell = some (.piece pieceID fileContent) := by
  have hlength : (FileMessage.dataPayload hash pieceID fileContent).length < 65536 := by
    simp only [FileMessage.dataPayload, List.length_append, Library.beBytes_length]
    omega
  rw [heardCell_packed h]
  refine heard_externalPayload P amb (by decide) hid hlength ?_ (fun _ => pointers_cellXor keys)
  rw [spoken_data, FileMessage.parseFileDataMessage_dataPayload hhash hpiece, Option.map_some]

theorem not_heardCell_piece (hhash : hash.length = 20) (hother : hash ≠ fileNameHash)
    (h : FileMessage.buildFileDataMessage P amb keys (some sharedKey) hash pieceID fileContent
      messageID = some cell) :
    heardCell P sharedKey fileNameHash cell = none := by
  rw [heardCell_packed h]
  refine not_heard_externalPayload P amb (by decide) (fun said hsaid => ?_)
  exact hother (hash_of_spoken_data hhash hsaid).symm

theorem heardCell_ack (hid : messageID < 2 ^ 31) (hhash : hash.length = 20)
    (hpiece : pieceID < 2 ^ 31)
    (h : DataMessage.buildACKDataMessage P amb keys (some sharedKey) 2 pieceID
      Constant.dataAckContent hash messageID = some cell) :
    heardCell P sharedKey hash cell = some (.ack pieceID Constant.dataAckContent) := by
  have hlength : (DataMessage.ackPayload keys 2 pieceID Constant.dataAckContent hash).length <
      65536 := by
    have hword : (getBytes Constant.dataAckContent).length = 2 := by decide
    rw [DataCell.ackPayload_length keys hword hhash]
    decide
  rw [heardCell_packed h]
  refine heard_externalPayload P amb (by decide) hid hlength ?_ (fun hpointed => ?_)
  · rw [spoken_ack, DataMessage.parseACKDataMessage_ackPayload keys (by decide) hpiece (by decide)
      hhash]
    rfl
  · cases hpointed

theorem not_heardCell_ack (hhash : hash.length = 20) (hother : hash ≠ fileNameHash)
    (h : DataMessage.buildACKDataMessage P amb keys (some sharedKey) 2 pieceID
      Constant.dataAckContent hash messageID = some cell) :
    heardCell P sharedKey fileNameHash cell = none := by
  rw [heardCell_packed h]
  refine not_heard_externalPayload P amb (by decide) (fun said hsaid => ?_)
  exact hother (hash_of_spoken_ack hhash hsaid).symm

end Built

end FileCell

end TorChat
