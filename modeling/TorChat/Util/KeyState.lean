import TorChat.Jni.KeyFile

namespace TorChat

open Library (Bytes slice? beBytes)

structure RecordXOR where
  startFileName : Nat := 0
  startFileIndex : Nat := 0
  endFileName : Nat := 0
  endFileIndex : Nat := 0
  messageID : Option Nat := none
  deriving DecidableEq, Repr

structure RecordBook where
  objects : List RecordXOR := [{}]
  recordXORs : List Nat := []
  commonRecordXOR : Nat := 0
  saved : Option RecordXOR := none
  deriving DecidableEq, Repr

namespace RecordBook

def deref (book : RecordBook) (address : Nat) : RecordXOR := book.objects.getD address {}

def common (book : RecordBook) : RecordXOR := book.deref book.commonRecordXOR

def allocate (book : RecordBook) (record : RecordXOR) : RecordBook :=
  { book with objects := book.objects ++ [record] }

def lastAddress (book : RecordBook) : Nat := book.objects.length - 1

def modifyCommon (book : RecordBook) (f : RecordXOR → RecordXOR) : RecordBook :=
  { book with objects := book.objects.modify book.commonRecordXOR f }

def saveCommonRecordXOR (book : RecordBook) : RecordBook := { book with saved := some book.common }

def setCommon (book : RecordBook) (fileName fileIndex : Nat) : RecordBook :=
  (book.modifyCommon (fun r => { r with
    startFileName := fileName, startFileIndex := fileIndex
    endFileName := fileName, endFileIndex := fileIndex })).saveCommonRecordXOR

def setCommonTo (book : RecordBook) (record : RecordXOR) : RecordBook :=
  book.modifyCommon (fun r => { r with
    startFileName := record.startFileName, startFileIndex := record.startFileIndex
    endFileName := record.endFileName, endFileIndex := record.endFileIndex })

def sendRecord (book : RecordBook) (messageID endFileName endFileIndex : Nat) : RecordBook :=
  let record : RecordXOR := {
    startFileName := book.common.endFileName, startFileIndex := book.common.endFileIndex
    endFileName := endFileName, endFileIndex := endFileIndex, messageID := some messageID }
  let book := (book.allocate record).setCommonTo record
  { book with recordXORs := book.recordXORs ++ [book.lastAddress] }.saveCommonRecordXOR

end RecordBook

namespace XORutil

def getStartXOR (book : RecordBook) : RecordXOR :=
  book.saved.getD { startFileName := 1, startFileIndex := 1 }

def xorFile2Byte (keyFile : Bytes) (fileName fileIndex : Nat) : Bytes × Bytes :=
  (beBytes 2 fileName ++ beBytes 4 fileIndex, JniEntryUtils.setFileKeyLocation keyFile fileIndex)

def commonStartXORFileName (friendStartXORFileName myStartXORFileName : Nat) : Nat :=
  if friendStartXORFileName ≥ myStartXORFileName then friendStartXORFileName
  else myStartXORFileName

def greaterKeyIndex (friendStartXORIndex myStartXORIndex : Nat) : Nat :=
  if friendStartXORIndex > myStartXORIndex then friendStartXORIndex else myStartXORIndex

def compareKeyIndex (keyFile : Bytes) (_friendStartXORFileName friendStartXORIndex
    _myStartXORFileName myStartXORIndex : Nat) : Nat × Bytes :=
  let keyIndex := greaterKeyIndex friendStartXORIndex myStartXORIndex
  (keyIndex, JniEntryUtils.setFileKeyLocation keyFile keyIndex)

def addRecordXOR (book : RecordBook) (address : Nat) : RecordBook :=
  if book.recordXORs.any (fun a => (book.deref a).messageID = (book.deref address).messageID) then
    book
  else { book with recordXORs := book.recordXORs ++ [address] }

def getRecordXOR (book : RecordBook) (targetMessageID : Nat) : Option Nat :=
  book.recordXORs.find? (fun a => (book.deref a).messageID = some targetMessageID)

def changecommonRecordXOR (commonRecordXOR recordXOR : RecordXOR) : Bool :=
  if commonRecordXOR.endFileName < recordXOR.endFileName then true
  else if commonRecordXOR.endFileName = recordXOR.endFileName then
    decide (commonRecordXOR.endFileIndex ≥ recordXOR.endFileIndex)
  else false

end XORutil

namespace RecordBook

def receiveRecord (book : RecordBook) (record : RecordXOR) (messageID : Nat) : RecordBook :=
  let allocated := book.allocate { record with messageID := some messageID }
  let added := XORutil.addRecordXOR allocated allocated.lastAddress
  match XORutil.getRecordXOR added messageID with
  | none => added
  | some address =>
      let changed :=
        if XORutil.changecommonRecordXOR added.common (added.deref address) then
          { added with commonRecordXOR := address }
        else added
      changed.saveCommonRecordXOR

end RecordBook

structure KeyState where
  keyFile : Bytes
  book : RecordBook := {}
  deriving DecidableEq, Repr

namespace KeyState

open JniEntryUtils XORutil

def keyIndex (keys : KeyState) : Nat := getKeyIndex keys.keyFile

def startFileIndex (keys : KeyState) : Nat := (getStartXOR keys.book).startFileIndex

def write (keys : KeyState) (index : Nat) : KeyState :=
  { keys with keyFile := setFileKeyLocation keys.keyFile index }

def writeBack (keys : KeyState) : KeyState := keys.write keys.keyIndex

def cellXor (keys : KeyState) : Bytes := (xorFile2Byte keys.keyFile 1 keys.keyIndex).1

def requestXor (keys : KeyState) : Bytes := (xorFile2Byte keys.keyFile 1 (keys.keyIndex + 1)).1

def openRequest (keys : KeyState) : KeyState :=
  { keys with keyFile := (xorFile2Byte keys.keyFile 1 (keys.keyIndex + 1)).2 }

def acceptRequest (keys : KeyState) (friendStartXORFileName friendStartXORIndex : Nat) : KeyState :=
  let my := getStartXOR keys.book
  let fileName := commonStartXORFileName friendStartXORFileName my.startFileName
  let (fileIndex, keyFile) := compareKeyIndex keys.keyFile friendStartXORFileName
    friendStartXORIndex my.startFileName my.startFileIndex
  { keyFile := keyFile, book := keys.book.setCommon fileName fileIndex }

def acceptAuth (keys : KeyState) (startXORFileName startXORIndex : Nat) : KeyState :=
  { keys.write startXORIndex with book := keys.book.setCommon startXORFileName startXORIndex }

def sendText (keys : KeyState) (messageID : Nat) : KeyState :=
  { keys with book := keys.book.sendRecord messageID 0 0 }

def sendFile (keys : KeyState) (messageID : Nat) : KeyState :=
  { keys with book := keys.book.sendRecord messageID 1 1 }

def receiveRecord (keys : KeyState) (record : RecordXOR) (messageID : Nat) : KeyState :=
  { keys with book := keys.book.receiveRecord record messageID }

theorem keyIndex_le (keys : KeyState) : keys.keyIndex ≤ 255 := getKeyIndex_le _

theorem keyIndex_write (keys : KeyState) (index : Nat) :
    (keys.write index).keyIndex = if index ≤ 255 then index else keys.keyIndex :=
  getKeyIndex_set keys.keyFile index

theorem tail_write (keys : KeyState) (index : Nat) :
    (keys.write index).keyFile.tail = keys.keyFile.tail := tail_set keys.keyFile index

@[simp] theorem keyIndex_writeBack (keys : KeyState) : keys.writeBack.keyIndex = keys.keyIndex :=
  getKeyIndex_writeBack keys.keyFile

theorem writeBack_eq_self {keys : KeyState} (h : keys.keyFile ≠ []) : keys.writeBack = keys := by
  simp only [writeBack, write, keyIndex, JniEntryUtils.writeBack_eq_self h]

theorem keyIndex_openRequest (keys : KeyState) :
    keys.openRequest.keyIndex = if keys.keyIndex + 1 ≤ 255 then keys.keyIndex + 1 else keys.keyIndex :=
  keyIndex_write keys (keys.keyIndex + 1)

theorem keyIndex_acceptRequest (keys : KeyState) (name index : Nat) :
    (keys.acceptRequest name index).keyIndex =
      if greaterKeyIndex index keys.startFileIndex ≤ 255 then
        greaterKeyIndex index keys.startFileIndex
      else keys.keyIndex :=
  keyIndex_write keys (greaterKeyIndex index keys.startFileIndex)

theorem keyIndex_acceptAuth (keys : KeyState) (name index : Nat) :
    (keys.acceptAuth name index).keyIndex = if index ≤ 255 then index else keys.keyIndex :=
  keyIndex_write keys index

inductive HandShakeStep where
  | openRequest
  | acceptRequest (fileName fileIndex : Nat)
  | acceptAuth (fileName fileIndex : Nat)
  deriving DecidableEq, Repr

def handShake (keys : KeyState) : HandShakeStep → KeyState
  | .openRequest => keys.openRequest
  | .acceptRequest fileName fileIndex => (keys.acceptRequest fileName fileIndex).writeBack
  | .acceptAuth fileName fileIndex => keys.acceptAuth fileName fileIndex

def selectedIndex (keys : KeyState) : HandShakeStep → Nat
  | .openRequest => keys.keyIndex + 1
  | .acceptRequest _ fileIndex => greaterKeyIndex fileIndex keys.startFileIndex
  | .acceptAuth _ fileIndex => fileIndex

theorem keyIndex_handShake (keys : KeyState) (step : HandShakeStep) :
    (keys.handShake step).keyIndex =
      if keys.selectedIndex step ≤ 255 then keys.selectedIndex step else keys.keyIndex := by
  cases step with
  | openRequest => exact keyIndex_openRequest keys
  | acceptRequest fileName fileIndex =>
    rw [handShake, keyIndex_writeBack]
    exact keyIndex_acceptRequest keys fileName fileIndex
  | acceptAuth fileName fileIndex => exact keyIndex_acceptAuth keys fileName fileIndex

theorem tail_handShake (keys : KeyState) (step : HandShakeStep) :
    (keys.handShake step).keyFile.tail = keys.keyFile.tail := by
  cases step with
  | openRequest => exact tail_set _ _
  | acceptRequest fileName fileIndex =>
    rw [handShake, writeBack, tail_write]
    exact tail_set _ _
  | acceptAuth fileName fileIndex => exact tail_set _ _

def parseXor (xor : Bytes) : Option (Nat × Nat) := do
  let fileName ← (slice? xor 0 2).bind parseInt16
  let fileIndex ← (slice? xor 2 4).bind parseInt16
  return (fileName, fileIndex)

theorem parseXor_xorFile2Byte (keyFile : Bytes) {fileName fileIndex : Nat}
    (hname : fileName < 65536) (hindex : fileIndex < 2 ^ 31) :
    parseXor (xorFile2Byte keyFile fileName fileIndex).1 = some (fileName, fileIndex) := by
  have hfirst : slice? (beBytes 2 fileName ++ beBytes 4 fileIndex) 0 2 =
      some (beBytes 2 fileName) := Library.slice?_prefix (by simp)
  have hsecond : slice? (beBytes 2 fileName ++ beBytes 4 fileIndex) 2 4 =
      some (beBytes 4 fileIndex) := Library.slice?_suffix (by simp) (by simp)
  have hnameParse : parseInt16 (beBytes 2 fileName) = some fileName :=
    parseInt16_beBytes (by decide) (by omega) (by omega)
  have hindexParse : parseInt16 (beBytes 4 fileIndex) = some fileIndex :=
    parseInt16_beBytes (by decide) (by omega) hindex
  rw [parseXor, xorFile2Byte]
  dsimp only
  rw [hfirst, hsecond, Option.bind_some, Option.bind_some, hnameParse, hindexParse]
  rfl

theorem parseXor_cellXor (keys : KeyState) : parseXor keys.cellXor = some (1, keys.keyIndex) := by
  have := keys.keyIndex_le
  exact parseXor_xorFile2Byte keys.keyFile (by omega) (by omega)

theorem cellXor_length (keys : KeyState) : keys.cellXor.length = 6 := by
  simp [cellXor, xorFile2Byte]

theorem parseXor_requestXor (keys : KeyState) :
    parseXor keys.requestXor = some (1, keys.keyIndex + 1) := by
  have := keys.keyIndex_le
  exact parseXor_xorFile2Byte keys.keyFile (by omega) (by omega)

end KeyState

end TorChat
