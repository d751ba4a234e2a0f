import TorChat.Message.DataMessage
import TorChat.Util.FileTask

namespace TorChat

open Library (Bytes slice? beBytes)

namespace FileMessage

def metaPayload (P : Platform) (fileName : String) (fileSize : Nat) (contentHash : Bytes) :
    Bytes :=
  beBytes 1 (getBytes fileName).length ++ (getBytes fileName ++ (P.sha1 (getBytes fileName) ++
    (beBytes 8 fileSize ++ contentHash)))

def placeholderPointer : Bytes := List.replicate 6 0

def buildFileMetaMessage (P : Platform) (amb : Ambient) (sharedKey : Option Bytes)
    (fileName : String) (fileSize : Nat) (contentHash : Bytes) (messageID : Nat) : Option Cell :=
  Message.packDataPayload (Message.externalPayload P amb Constant.dataFileMeta messageID
    (metaPayload P fileName fileSize contentHash) (placeholderPointer ++ placeholderPointer)
    Constant.externalDataLegth) sharedKey

def parseFileMetaMessage (P : Platform) (onionName : String) (internalPayload : Bytes) :
    Option FileTask := do
  let fileNameLength ← (Message.subBytes internalPayload 0 1).bind parseInt16
  let byteFileName ← Message.subBytes internalPayload 1 fileNameLength
  let _byteFileNameHash ← Message.subBytes internalPayload (1 + fileNameLength) 20
  let fileSize ← (Message.subBytes internalPayload (21 + fileNameLength) 8).bind parseLong16
  let byteContentHash ← Message.subBytes internalPayload (29 + fileNameLength) 20
  return FileTask.ofMeta P onionName (newString byteFileName) fileSize byteContentHash

def createFileMessage (P : Platform) (amb : Ambient) (keys : KeyState) (messageType : Nat)
    (sharedKey : Option Bytes) (internalPayload : Bytes) (messageID : Nat) : Option Cell :=
  Message.packDataPayload (Message.createDataMessageExternalPaylod P amb keys messageType
    internalPayload messageID) sharedKey

def buildFileReadyMessage (P : Platform) (amb : Ambient) (keys : KeyState)
    (sharedKey : Option Bytes) (fileNameHash : Bytes) (messageID : Nat) : Option Cell :=
  createFileMessage P amb keys Constant.dataFileReady sharedKey fileNameHash messageID

def parseFileReadyMessage (internalPayload : Bytes) : Option Bytes :=
  Message.subBytes internalPayload 0 20

def dataPayload (fileNameHash : Bytes) (pieceID : Nat) (fileContent : Bytes) : Bytes :=
  fileNameHash ++ (beBytes 4 pieceID ++ fileContent)

def buildFileDataMessage (P : Platform) (amb : Ambient) (keys : KeyState)
    (sharedKey : Option Bytes) (fileNameHash : Bytes) (pieceID : Nat) (fileContent : Bytes)
    (messageID : Nat) : Option Cell :=
  createFileMessage P amb keys Constant.dataFileData sharedKey
    (dataPayload fileNameHash pieceID fileContent) messageID

def parseFileDataMessage (internalPayload : Bytes) : Option (Bytes × Nat × Bytes) := do
  let byteFileNameHash ← Message.subBytes internalPayload 0 20
  let pieceID ← (Message.subBytes internalPayload 20 4).bind parseInt16
  let fileContent ← Message.subBytes internalPayload 24 (internalPayload.length - 24)
  return (byteFileNameHash, pieceID, fileContent)

def buildFileDoneMessage (P : Platform) (amb : Ambient) (keys : KeyState)
    (sharedKey : Option Bytes) (fileNameHash : Bytes) (messageID : Nat) : Option Cell :=
  createFileMessage P amb keys Constant.dataFileDone sharedKey fileNameHash messageID

theorem parseFileMetaMessage_metaPayload (P : Platform) (onionName : String) {fileName : String}
    {fileSize : Nat} {contentHash : Bytes} (hname : (getBytes fileName).length < 256)
    (hsize : fileSize < 2 ^ 63) (hhash : contentHash.length = 20) :
    parseFileMetaMessage P onionName (metaPayload P fileName fileSize contentHash) =
      some (FileTask.ofMeta P onionName fileName fileSize contentHash) := by
  have h1 : Message.subBytes (metaPayload P fileName fileSize contentHash) 0 1 =
      some (beBytes 1 (getBytes fileName).length) := Library.slice?_prefix (by simp)
  have h2 : Message.subBytes (metaPayload P fileName fileSize contentHash) 1
      (getBytes fileName).length = some (getBytes fileName) :=
    Library.slice?_middle (by simp) rfl
  have h3 : Message.subBytes (metaPayload P fileName fileSize contentHash)
      (1 + (getBytes fileName).length) 20 = some (P.sha1 (getBytes fileName)) := by
    rw [metaPayload, ← List.append_assoc]
    exact Library.slice?_middle (by simp) (P.sha1_length _)
  have h4 : Message.subBytes (metaPayload P fileName fileSize contentHash)
      (21 + (getBytes fileName).length) 8 = some (beBytes 8 fileSize) := by
    rw [metaPayload, ← List.append_assoc, ← List.append_assoc]
    refine Library.slice?_middle ?_ (by simp)
    simp only [List.length_append, Library.beBytes_length, P.sha1_length]
    omega
  have h5 : Message.subBytes (metaPayload P fileName fileSize contentHash)
      (29 + (getBytes fileName).length) 20 = some contentHash := by
    rw [metaPayload, ← List.append_assoc, ← List.append_assoc, ← List.append_assoc]
    refine Library.slice?_suffix ?_ hhash
    simp only [List.length_append, Library.beBytes_length, P.sha1_length]
    omega
  have hlength : parseInt16 (beBytes 1 (getBytes fileName).length) =
      some (getBytes fileName).length := parseInt16_beBytes (by decide) (by omega) (by omega)
  have hsizeParse : parseLong16 (beBytes 8 fileSize) = some fileSize := parseLong16_beBytes hsize
  rw [parseFileMetaMessage, h1, Option.bind_some, hlength, Option.bind_eq_bind,
    Option.bind_some, h2, Option.bind_eq_bind, Option.bind_some, h3, Option.bind_some, h4,
    Option.bind_some, hsizeParse, Option.bind_some, h5, Option.bind_some, newString_getBytes,
    Option.pure_def]

theorem parseFileReadyMessage_self {fileNameHash : Bytes} (h : fileNameHash.length = 20) :
    parseFileReadyMessage fileNameHash = some fileNameHash := Library.slice?_self h

theorem parseFileDataMessage_dataPayload {fileNameHash : Bytes} {pieceID : Nat}
    {fileContent : Bytes} (hhash : fileNameHash.length = 20) (hpiece : pieceID < 2 ^ 31) :
    parseFileDataMessage (dataPayload fileNameHash pieceID fileContent) =
      some (fileNameHash, pieceID, fileContent) := by
  have h1 : Message.subBytes (dataPayload fileNameHash pieceID fileContent) 0 20 =
      some fileNameHash := Library.slice?_prefix hhash
  have h2 : Message.subBytes (dataPayload fileNameHash pieceID fileContent) 20 4 =
      some (beBytes 4 pieceID) := Library.slice?_middle hhash (by simp)
  have hrest : (dataPayload fileNameHash pieceID fileContent).length - 24 =
      fileContent.length := by
    simp only [dataPayload, List.length_append, Library.beBytes_length, hhash]
    omega
  have h3 : Message.subBytes (dataPayload fileNameHash pieceID fileContent) 24
      ((dataPayload fileNameHash pieceID fileContent).length - 24) = some fileContent := by
    rw [hrest, dataPayload, ← List.append_assoc]
    refine Library.slice?_suffix ?_ rfl
    simp only [List.length_append, Library.beBytes_length, hhash]
  have hpieceParse : parseInt16 (beBytes 4 pieceID) = some pieceID :=
    parseInt16_beBytes (by decide) (by omega) hpiece
  rw [parseFileDataMessage, h1, h2, h3, Option.bind_some, hpieceParse]
  rfl

theorem parseFileMetaMessage_of_prefix {P : Platform} {onionName : String} {a b : Bytes}
    {task : FileTask} (h : parseFileMetaMessage P onionName a = some task) (hab : a <+: b) :
    parseFileMetaMessage P onionName b = some task := by
  simp only [parseFileMetaMessage, Option.bind_eq_bind, Option.bind_eq_some_iff,
    Option.pure_def] at h
  obtain ⟨nameLength, ⟨byteLength, hlength, hparseLength⟩, byteName, hname, byteHash, hhash,
    size, ⟨byteSize, hsize, hparseSize⟩, content, hcontent, heq⟩ := h
  rw [parseFileMetaMessage, Message.subBytes, Library.slice?_of_prefix hlength hab,
    Option.bind_some, hparseLength, Option.bind_eq_bind, Option.bind_some, Message.subBytes,
    Library.slice?_of_prefix hname hab, Option.bind_eq_bind, Option.bind_some, Message.subBytes,
    Library.slice?_of_prefix hhash hab, Option.bind_some, Message.subBytes,
    Library.slice?_of_prefix hsize hab, Option.bind_some, hparseSize, Option.bind_some,
    Message.subBytes, Library.slice?_of_prefix hcontent hab]
  exact heq

theorem parseFileDataMessage_of_prefix {a b : Bytes} {data : Bytes × Nat × Bytes}
    (h : parseFileDataMessage a = some data) (hab : a <+: b) :
    ∃ rest, parseFileDataMessage b = some (data.1, rest) := by
  simp only [parseFileDataMessage, Option.bind_eq_bind, Option.bind_eq_some_iff,
    Option.pure_def] at h
  obtain ⟨hash, hhash, pieceID, ⟨bytePiece, hpiece, hparsePiece⟩, content, hcontent, heq⟩ := h
  obtain rfl := Option.some.inj heq
  have hlength : a.length ≤ b.length := hab.length_le
  have hle : 24 + (b.length - 24) ≤ b.length := by
    have := (Library.slice?_eq_some hpiece).1
    omega
  rw [parseFileDataMessage, Message.subBytes, Library.slice?_of_prefix hhash hab,
    Message.subBytes, Library.slice?_of_prefix hpiece hab, Option.bind_some, hparsePiece,
    Message.subBytes, slice?, if_pos hle]
  exact ⟨_, rfl⟩

end FileMessage

end TorChat
