import TorChat.Util.KeyState

namespace TorChat

open Library (Bytes slice? beBytes)

structure Ambient where
  utcTimestamp : Nat := 0
  messageID : Nat := 1000
  draw : Nat → Nat := fun _ => 0

structure PublicKey where
  id : Nat
  deriving DecidableEq, Repr

structure PrivateKey where
  id : Nat
  deriving DecidableEq, Repr

def PrivateKey.publicKey (key : PrivateKey) : PublicKey := ⟨key.id⟩

inductive Signature where
  | sign (key : PrivateKey) (content : Bytes)
  | other (bytes : Bytes)
  deriving DecidableEq, Repr

inductive Cell where
  | zeros
  | handshake (recipient : PublicKey) (rawData : Bytes) (signature : Signature)
  | data (sharedKey : Bytes) (rawData : Bytes)
  | raw (bytes : Bytes)
  deriving DecidableEq, Repr

namespace RSACrypto

def sign (privateKey : PrivateKey) (content : Bytes) : Signature := .sign privateKey content

def checkSign (publicKey : PublicKey) (content : Bytes) (signature : Signature) : Bool :=
  decide (signature = .sign ⟨publicKey.id⟩ content)

end RSACrypto

namespace AESCrypto

def alphabet : Bytes := getBytes "abcdefghijklmnopqrstuvwxyz0123456789"

def paddingToLength (amb : Ambient) (msg : Bytes) (targetLen : Nat) : Bytes :=
  (List.range (targetLen - msg.length)).map (fun i => alphabet.getD (amb.draw i % 36) 0)

@[simp] theorem paddingToLength_length (amb : Ambient) (msg : Bytes) (targetLen : Nat) :
    (paddingToLength amb msg targetLen).length = targetLen - msg.length := by
  simp [paddingToLength]

end AESCrypto

namespace Constant

def applicationId : Bytes := [0x0f, 0x0f]
def byteMessageTimestampBegin : Nat := 6
def byteMessageTypeBegin : Nat := 10
def bytePayloadLengthBegin : Nat := 11
def byteInternalPayloadBegin : Nat := 13
def sharedkeyLength : Nat := 32
def byteExternalHash : Nat := 20
def byteOnionHash : Nat := 32
def externalHandshakeLength : Nat := 1790
def externalDataLegth : Nat := 2047
def sessionRequest : Nat := 1
def sessionAuth : Nat := 2
def sessionExchange : Nat := 3
def sessionDone : Nat := 4
def dataMessage : Nat := 5
def dataFileMeta : Nat := 6
def dataFileReady : Nat := 7
def dataFileData : Nat := 8
def dataFileDone : Nat := 9
def dataAck : Nat := 12
def password : String := "c"
def dataAckContent : String := "ok"
def dataCkContent : String := "ck"
def filePieceSize : Nat := 1968
def recieveFilePath : String := "/data/data/com.ucas.chat/files/ReceiveFile/"
def socketPurposeText : Nat := 0
def socketPurposeFile : Nat := 2

end Constant

namespace Message

def subBytes (src : Bytes) (start count : Nat) : Option Bytes := slice? src start count

def createMessageHeader (amb : Ambient) (payloadlength messageType messageID : Nat) : Bytes :=
  Constant.applicationId ++ beBytes 4 amb.utcTimestamp ++ beBytes 4 messageID ++
    beBytes 1 messageType ++ beBytes 2 payloadlength

def hashed (P : Platform) (amb : Ambient) (messageType messageID : Nat)
    (internalPayload : Bytes) : Bytes :=
  let externalPayload :=
    createMessageHeader amb internalPayload.length messageType messageID ++ internalPayload
  externalPayload ++ P.sha1 externalPayload

def externalPayload (P : Platform) (amb : Ambient) (messageType messageID : Nat)
    (internalPayload pointers : Bytes) (length : Nat) : Bytes :=
  let header := hashed P amb messageType messageID internalPayload ++ pointers
  header ++ AESCrypto.paddingToLength amb header length

def createDataMessageExternalPaylod (P : Platform) (amb : Ambient) (keys : KeyState)
    (messageType : Nat) (internalPayload : Bytes) (messageID : Nat) : Bytes :=
  externalPayload P amb messageType messageID internalPayload (keys.cellXor ++ keys.cellXor)
    Constant.externalDataLegth

def payloadLength (externalPayload : Bytes) : Option Nat :=
  (subBytes externalPayload Constant.bytePayloadLengthBegin 2).bind parseInt16

def parseMessageType (externalPayload : Bytes) : Option Nat :=
  (subBytes externalPayload Constant.byteMessageTypeBegin 1).bind parseInt16

def parseMessageID (externalPayload : Bytes) : Option Nat :=
  (subBytes externalPayload Constant.byteMessageTimestampBegin 4).bind parseInt16

def parseExternalPaylod (P : Platform) (externalPayload : Bytes) : Option Bytes := do
  let length ← payloadLength externalPayload
  let internalPayload ← subBytes externalPayload Constant.byteInternalPayloadBegin length
  let cell14 ← subBytes externalPayload 0 (Constant.byteInternalPayloadBegin + length)
  let primitiveHash ← subBytes externalPayload (Constant.byteInternalPayloadBegin + length) 20
  -- the two branches only print different lines
  if P.sha1 cell14 = primitiveHash then some internalPayload else some internalPayload

def parseFirstHandShakeStartXORFileName (externalPayload : Bytes) : Option Nat :=
  (subBytes externalPayload (Constant.byteInternalPayloadBegin + Constant.byteExternalHash +
    Constant.byteOnionHash) 2).bind parseInt16

def parseFirstHandShakeStartXORIndex (externalPayload : Bytes) : Option Nat :=
  (subBytes externalPayload (Constant.byteInternalPayloadBegin + Constant.byteExternalHash +
    Constant.byteOnionHash + 2) 4).bind parseInt16

def pointerAt (externalPayload : Bytes) (offset count : Nat) : Option Nat := do
  let length ← payloadLength externalPayload
  let bytes ← subBytes externalPayload
    (Constant.byteInternalPayloadBegin + length + Constant.byteExternalHash + offset) count
  parseInt16 bytes

def parseStartXORFileName (externalPayload : Bytes) : Option Nat := pointerAt externalPayload 0 2
def parseStartXORIndex (externalPayload : Bytes) : Option Nat := pointerAt externalPayload 2 4
def parseEndXORFileName (externalPayload : Bytes) : Option Nat := pointerAt externalPayload 6 2
def parseEndXORIndex (externalPayload : Bytes) : Option Nat := pointerAt externalPayload 8 4

def build (rawData : Bytes) (localPrivateKey : PrivateKey) (remotePulicKey : PublicKey) : Cell :=
  .handshake remotePulicKey rawData (RSACrypto.sign localPrivateKey rawData)

def parse (rawData : Cell) (localPrivateKey : PrivateKey) : Option Bytes :=
  match rawData with
  | .handshake recipient allData _ =>
      if recipient = localPrivateKey.publicKey then subBytes allData 0 1790 else none
  | _ => none

def parseRemote (rawData : Cell) (localPrivateKey : PrivateKey) (_remotePulicKey : PublicKey) :
    Option Bytes :=
  match rawData with
  | .handshake recipient allData _ =>
      if recipient = localPrivateKey.publicKey then subBytes allData 0 1790 else none
  | _ => none

def packDataPayload (rawData : Bytes) (sharedKey : Option Bytes) : Option Cell :=
  sharedKey.map (fun key => .data key rawData)

def parseDataPayload (rawData : Cell) (sharedKey : Option Bytes) : Option Bytes :=
  match rawData, sharedKey with
  | .data key plain, some sharedKey => if key = sharedKey then some plain else none
  | _, _ => none

end Message

end TorChat
