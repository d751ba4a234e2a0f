import TorChat.Message.Message
import TorChat.Library.HashMap
import Mathlib.Data.Finset.Insert
import Mathlib.Data.Finset.Card

namespace TorChat

open Library (Bytes HashMap)

inductive Direction where
  | send
  | recieve
  deriving DecidableEq, Repr

inductive TaskStatus where
  | stop
  | transferrring
  | compelete
  | ckSend
  | notStart
  deriving DecidableEq, Repr

structure FileTask where
  onionName : String
  fileName : String
  fileNameHash : Bytes
  direction : Direction
  totalSize : Nat
  contentHash : Bytes
  totalPieceNumber : Int
  stepNumber : Int
  status : TaskStatus := .stop
  messageID : Option Nat := none
  percent : Option (Nat × Int) := none
  fileTransferStatusMap : Finset Nat := ∅
  filePieceContentMap : HashMap Nat Bytes := ∅
  deriving DecidableEq

namespace FileTask

open Constant (filePieceSize)

def getName (path : String) : String :=
  String.ofList ((path.toList.reverse.dropWhile (· = '/')).takeWhile (· ≠ '/')).reverse

def toInt (n : Int) : Int := n.bmod (2 ^ 32)

theorem toInt_of_small {n : Int} (h₀ : -2 ^ 31 ≤ n) (h : n < 2 ^ 31) : toInt n = n := by
  rw [toInt]
  apply Int.bmod_eq_of_le <;> omega

theorem toInt_lt (n : Int) : toInt n < 2 ^ 31 := by
  have hlt := Int.bmod_lt (x := n) (m := 2 ^ 32) (by decide)
  rw [toInt]
  omega

def pieceNumber (totalSize : Nat) : Int :=
  let floor : Int := min (totalSize / filePieceSize : Nat) (2 ^ 31 - 1)
  if totalSize % filePieceSize ≠ 0 then toInt (floor + 1) else floor

def stepOf (totalPieceNumber : Int) : Int :=
  let temp := totalPieceNumber.tdiv 100
  if temp ≠ 0 then temp else 1

structure Cut where
  offSet : Nat := 0
  filePieceContentMap : HashMap Nat Bytes := ∅

def readPiece (content : Bytes) (offSet : Nat) : Bytes :=
  (content.drop offSet).take filePieceSize

def zeroPadded (read : Bytes) : Bytes := read ++ List.replicate (filePieceSize - read.length) 0

def cutFileStep (entry : Bytes → Bytes) (content : Bytes) (cut : Cut) (i : Nat) : Cut :=
  let read := readPiece content cut.offSet
  { offSet := cut.offSet + read.length
    filePieceContentMap := cut.filePieceContentMap.put i (entry (zeroPadded read)) }

def lastPiece (totalPieceNumber : Int) : Nat := (toInt (totalPieceNumber - 1)).toNat

def cutFile (entry : Bytes → Bytes) (content : Bytes) : HashMap Nat Bytes :=
  let totalPieceNumber := pieceNumber content.length
  let cut := (List.range (lastPiece totalPieceNumber)).foldl (cutFileStep entry content) {}
  if content.length - cut.offSet > 0 then
    cut.filePieceContentMap.put (lastPiece totalPieceNumber)
      (entry (readPiece content cut.offSet))
  else cut.filePieceContentMap

def copyOfRange (original : Bytes) (start stop : Nat) : Bytes :=
  let copied := (original.drop start).take (stop - start)
  copied ++ List.replicate (stop - start - copied.length) 0

def cutBitmapStep (entry : Bytes → Bytes) (bitmapBytes : Bytes) (cut : Cut) (i : Nat) : Cut :=
  { offSet := i * filePieceSize + filePieceSize
    filePieceContentMap := cut.filePieceContentMap.put i
      (entry (copyOfRange bitmapBytes (i * filePieceSize) (i * filePieceSize + filePieceSize))) }

def cutBitmap (entry : Bytes → Bytes) (bitmapBytes : Bytes) : HashMap Nat Bytes :=
  let totalPieceNumber := pieceNumber bitmapBytes.length
  let cut := (List.range (lastPiece totalPieceNumber)).foldl (cutBitmapStep entry bitmapBytes) {}
  if bitmapBytes.length - cut.offSet > 0 then
    cut.filePieceContentMap.put (lastPiece totalPieceNumber)
      (entry (copyOfRange bitmapBytes cut.offSet bitmapBytes.length))
  else cut.filePieceContentMap

def ofFile (P : Platform) (keyFile : Bytes) (onionName filePath : String) (content : Bytes)
    (messageID : Nat) : FileTask :=
  { onionName := onionName
    fileName := getName filePath
    fileNameHash := P.sha1 (getBytes (getName filePath))
    direction := .send
    totalSize := content.length
    contentHash := P.sha1 content
    totalPieceNumber := pieceNumber content.length
    stepNumber := stepOf (pieceNumber content.length)
    messageID := some messageID
    filePieceContentMap := cutFile (JniEntryUtils.entry P keyFile) content }

def ofBitmap (P : Platform) (keyFile : Bytes) (onionName filePath : String) (bitmapBytes : Bytes)
    (messageID : Nat) : FileTask :=
  { onionName := onionName
    fileName := filePath
    fileNameHash := P.sha1 (getBytes filePath)
    direction := .send
    totalSize := bitmapBytes.length
    contentHash := P.sha1 bitmapBytes
    totalPieceNumber := pieceNumber bitmapBytes.length
    stepNumber := stepOf (pieceNumber bitmapBytes.length)
    messageID := some messageID
    filePieceContentMap := cutBitmap (JniEntryUtils.entry P keyFile) bitmapBytes }

def ofMeta (P : Platform) (onionName fileName : String) (fileSize : Nat) (contentHash : Bytes) :
    FileTask :=
  { onionName := onionName
    fileName := fileName
    fileNameHash := P.sha1 (getBytes fileName)
    direction := .recieve
    totalSize := fileSize
    contentHash := contentHash
    totalPieceNumber := pieceNumber fileSize
    stepNumber := stepOf (pieceNumber fileSize) }

def setStatus (task : FileTask) (status : TaskStatus) : FileTask := { task with status := status }

def updateTransferStatus (task : FileTask) (pieceID : Nat) : FileTask :=
  let fileTransferStatusMap := insert pieceID task.fileTransferStatusMap
  { task with
    fileTransferStatusMap := fileTransferStatusMap
    percent := some (fileTransferStatusMap.card, task.totalPieceNumber) }

def recievePieceData (task : FileTask) (pieceID : Nat) (content : Bytes) : FileTask :=
  { task with filePieceContentMap := task.filePieceContentMap.put pieceID content
    }.updateTransferStatus pieceID

def writePieces (decry : Bytes → Option Bytes) (pieces : HashMap Nat Bytes) :
    List Nat → Bytes × Bool
  | [] => ([], true)
  | i :: is =>
      match (pieces.get? i).bind decry with
      | none => ([], false)
      | some c =>
          let (rest, complete) := writePieces decry pieces is
          (c ++ rest, complete)

def overwrite (old written : Bytes) : Bytes := written ++ old.drop written.length

-- the target as it is opened, with what it held before, or none where opening it throws
def mergeFile (P : Platform) (keyFile : Bytes) (task : FileTask) :
    Option Bytes → Option Bytes × Option String
  | none => (none, none)
  | some receiveFile =>
      let tempCount := task.filePieceContentMap.size
      let (written, complete) :=
        writePieces (JniEntryUtils.decry P keyFile) task.filePieceContentMap (List.range tempCount)
      let merged := overwrite receiveFile written
      if complete && decide (task.contentHash = P.sha1 merged) then
        (some merged, some (Constant.recieveFilePath ++ task.fileName))
      else (some merged, none)

end FileTask

end TorChat
