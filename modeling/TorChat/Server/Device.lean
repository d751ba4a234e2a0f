import TorChat.Server.Connections
import TorChat.Message.HandShakeMessage
import TorChat.Message.FileMessage

namespace TorChat

open Library (Bytes HashMap)

structure MessageItem (Data : Type) where
  onionName : String
  socket : Nat
  data : Data
  type : Nat
  purpose : Nat
  rawMessage : String := ""
  pieceID : Nat := 0
  handShakeMessage : Option HandShakeMessage := none
  deriving DecidableEq, Repr

structure FailedTextMessage where
  onionName : String
  rawMessage : String
  deriving DecidableEq, Repr

structure MailItem where
  onionName : String
  onionHash : Bytes
  publicKey : PublicKey
  deriving DecidableEq, Repr

def MailItem.ofContact (P : Platform) (onionName : String) (publicKey : PublicKey) : MailItem :=
  { onionName := onionName, onionHash := P.sha256 (getBytes onionName), publicKey := publicKey }

structure Transport where
  socket : Nat
  mailItem : Option MailItem := none
  handShakeMessage : Option HandShakeMessage := none
  deriving DecidableEq, Repr

inductive Notice where
  | startCommunicationSuccess
  | hasReceivedMessage (message peerHostname : String) (messageID : Nat)
  | peerHasReceivedMessage (messageID : Nat)
  | offlineText (remoteOnion messageContent : String) (messageID : Nat)
  | recieveOnlineFile (fileName : String) (totalSize messageID : Nat)
  | fileMessage (fileName : String) (percent : Option (Nat × Int)) (messageID : Nat)
  | fileComplete (fileName : String) (messageID : Nat)
  deriving DecidableEq, Repr

structure Env where
  ambient : Nat → Ambient := fun _ => {}
  sent : Nat → Bool := fun _ => true

structure Device where
  onionName : String
  privateKey : PrivateKey
  keys : KeyState
  mailList : HashMap String MailItem := ∅
  conns : Connections := {}
  handShakeMessageHandlerByOnionName : HashMap String HandShakeMessage := ∅
  sendQueue : List (MessageItem (Option Cell)) := []
  recieveQueue : List (MessageItem Bytes) := []
  senderFileMap : HashMap String FileTask := ∅
  failedQueue : List FailedTextMessage := []
  registering : List FileTask := []
  receiveFiles : HashMap String Bytes := ∅
  transports : List Transport := []
  writerSockets : List Nat := []
  written : List (Nat × Cell) := []
  notices : List Notice := []

namespace Device

def getMailItemByOnionHash (d : Device) (onionHash : Bytes) : Option MailItem :=
  d.mailList.values.find? (fun item => item.onionHash = onionHash)

def getFileTaskByFileNameHash (d : Device) (fileNameHash : Bytes) : Option FileTask :=
  d.senderFileMap.values.find? (fun task => task.fileNameHash = fileNameHash)

def modifyTask (d : Device) (task : FileTask) (f : FileTask → FileTask) : Device :=
  { d with senderFileMap :=
      d.senderFileMap.map (fun t => if t.fileName = task.fileName then f t else t) }

def putTask (d : Device) (task : FileTask) : Device :=
  { d with senderFileMap := d.senderFileMap.put task.fileName task }

def removeTask (d : Device) (task : FileTask) : Device :=
  { d with senderFileMap := d.senderFileMap.remove task.fileName }

def setKeys (d : Device) (keys : KeyState) : Device := { d with keys := keys }

def enqueue (d : Device) (items : List (MessageItem (Option Cell))) : Device :=
  { d with sendQueue := d.sendQueue ++ items }

def transmit (d : Device) (socket : Nat) (cell : Cell) : Device :=
  { d with written := d.written ++ [(socket, cell)] }

def notify (d : Device) (notice : Notice) : Device := { d with notices := d.notices ++ [notice] }

def deleteConnection (d : Device) (onionName : String) (socket : Nat) : Device :=
  { d with conns := d.conns.deleteConnection onionName socket }

def stopTasks (d : Device) (onionName : String) : Device :=
  { d with senderFileMap :=
      d.senderFileMap.map (fun t => if t.onionName = onionName then t.setStatus .stop else t) }

def deleteStatusItem (d : Device) (item : ConnectionStatusItem) : Device :=
  let d := if item.purpose = Constant.socketPurposeFile then d.stopTasks item.onionName else d
  d.deleteConnection item.onionName item.socket

-- sendMessage: either the cell is written, or the socket is closed and the connection deleted
def sendMessage (d : Device) (sent : Bool) (onionName : String) (socket : Nat) (cell : Cell)
    (onSuccess : Device → Device) : Device :=
  if sent then onSuccess (d.transmit socket cell) else d.deleteConnection onionName socket

variable (P : Platform) (env : Env)

def resendText (d : Device) (onionName : String) (conn : ConnectionStatusItem) : Device :=
  let mine := d.failedQueue.filter (fun tmp => tmp.onionName = onionName)
  let others := d.failedQueue.filter (fun tmp => ¬ tmp.onionName = onionName)
  let items := mine.mapIdx (fun i tmp =>
    { onionName := onionName, socket := conn.socket
      data := Message.packDataPayload (Message.createDataMessageExternalPaylod P (env.ambient i)
        d.keys Constant.dataMessage (getBytes tmp.rawMessage) (env.ambient i).messageID)
        conn.shareKey
      type := 1, purpose := 0, rawMessage := tmp.rawMessage : MessageItem (Option Cell) })
  { d with
    failedQueue := others
    sendQueue := d.sendQueue ++ items
    keys := if mine = [] then d.keys else d.keys.writeBack }

def pieceItem (keys : KeyState) (onionName : String) (socket : Nat)
    (handShakeMessage : Option HandShakeMessage) (sharedKey : Option Bytes) (fileNameHash : Bytes)
    (messageID i : Nat) (fileContent : Bytes) : MessageItem (Option Cell) :=
  { onionName := onionName, socket := socket
    data := FileMessage.buildFileDataMessage P (env.ambient i) keys sharedKey fileNameHash i
      fileContent messageID
    type := 1, purpose := 1, pieceID := i, handShakeMessage := handShakeMessage }

-- a piece that is not held is null and ends the loop with a NullPointerException
def pieceItems (build : Nat → Bytes → MessageItem (Option Cell)) (pieces : HashMap Nat Bytes) :
    List Nat → List (MessageItem (Option Cell)) × Bool
  | [] => ([], true)
  | i :: is =>
      match pieces.get? i with
      | none => ([], false)
      | some fileContent =>
          let (items, complete) := pieceItems build pieces is
          (build i fileContent :: items, complete)

def enqueuePieces (d : Device) (items : List (MessageItem (Option Cell))) : Device :=
  (d.enqueue items).setKeys (if items = [] then d.keys else d.keys.writeBack)

def resend (d : Device) (task : FileTask) (statusItem : ConnectionStatusItem) (messageID : Nat) :
    Device × Bool :=
  match statusItem.shareKey with
  | none => (d, true)
  | some sharedKey =>
      let missing := (List.range task.totalPieceNumber.toNat).filter
        (fun i => i ∉ task.fileTransferStatusMap)
      let (items, complete) := pieceItems (pieceItem P env d.keys statusItem.onionName
        statusItem.socket none (some sharedKey) task.fileNameHash messageID)
        task.filePieceContentMap missing
      (d.enqueuePieces items, complete)

def metaItem (onionName : String) (socket : Nat) (sharedKey : Bytes) (task : FileTask)
    (messageID : Nat) : MessageItem (Option Cell) :=
  { onionName := onionName, socket := socket
    data := FileMessage.buildFileMetaMessage P (env.ambient 0) (some sharedKey) task.fileName
      task.totalSize task.contentHash messageID
    type := 1, purpose := 1 }

def resendTask (d : Device) (onionName : String) (conn : ConnectionStatusItem)
    (sharedKey : Bytes) (task : FileTask) : Device × Bool :=
  if task.onionName ≠ onionName then (d, true)
  else
    match task.direction with
    | .send =>
        if task.status = .notStart then
          match task.messageID with
          | none => (d, false)
          | some messageID =>
              (d.enqueue [metaItem P env onionName conn.socket sharedKey task messageID], true)
        else
          let d := d.modifyTask task (fun t => t.setStatus .transferrring)
          match task.messageID with
          | none => (d, false)
          | some messageID => d.resend P env task conn messageID
    | .recieve =>
        if task.status = .stop then
          match task.messageID with
          -- a receive task has no message id: Integer.parseInt(null) throws
          | none => (d.setKeys d.keys.writeBack, false)
          | some messageID =>
              let item : MessageItem (Option Cell) := {
                onionName := onionName, socket := conn.socket
                data := DataMessage.buildACKDataMessage P (env.ambient 0) d.keys (some sharedKey) 2
                  task.fileTransferStatusMap.card Constant.dataCkContent task.fileNameHash
                  messageID
                type := 1, purpose := 1 }
              (((d.setKeys d.keys.writeBack).enqueue [item]).modifyTask task
                (fun t => t.setStatus .ckSend), true)
        else (d, true)

def resendTasks (onionName : String) (conn : ConnectionStatusItem) (sharedKey : Bytes) :
    List FileTask → Device → Device × Bool
  | [], d => (d, true)
  | task :: tasks, d =>
      match d.resendTask P env onionName conn sharedKey task with
      | (d, true) => resendTasks onionName conn sharedKey tasks d
      | (d, false) => (d, false)

def resendTexts (d : Device) (onionName : String) : Device :=
  match d.conns.getConnectionStatusItemByOnionName onionName Constant.socketPurposeText with
  | some conn => d.resendText P env onionName conn
  | none => d

def tryResend (d : Device) (onionName : String) : Device × Bool :=
  let d := d.resendTexts P env onionName
  match d.conns.getConnectionStatusItemByOnionName onionName Constant.socketPurposeFile with
  | some conn =>
      match conn.shareKey with
      | some sharedKey => resendTasks P env onionName conn sharedKey d.senderFileMap.values d
      | none => (d, true)
  | none => (d, true)

def tryResendAll : List String → Device → Device
  | [], d => d
  | onionName :: rest, d =>
      match d.tryResend P env onionName with
      | (d, true) => tryResendAll rest d
      | (d, false) => d

def updateSocketStatus (d : Device) (item : MessageItem Bytes) (status : Nat)
    (sharedKey : Option Bytes) : Device × Bool :=
  let d := { d with
    conns := d.conns.updateStatus item.onionName item.socket status sharedKey }
  if status = 1 then d.tryResend P env item.onionName else (d, true)

def updateConnectionPurpose (d : Device) (item : MessageItem Bytes) (purpose : Nat) : Device :=
  { d with conns := d.conns.updateConnectionPurpose item.onionName item.socket purpose }

end Device

end TorChat
