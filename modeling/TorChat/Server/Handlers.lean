import TorChat.Server.Device

namespace TorChat

open Library (Bytes HashMap)

namespace Device

variable (P : Platform) (env : Env)

def receiveSessionRequest (d : Device) (item : MessageItem Bytes) : Device :=
  match Message.parseFirstHandShakeStartXORFileName item.data,
    Message.parseFirstHandShakeStartXORIndex item.data with
  | some friendStartXORFileName, some friendStartXORIndex =>
      let d := d.setKeys (d.keys.acceptRequest friendStartXORFileName friendStartXORIndex)
      let d := (d.updateSocketStatus P env item 0 none).1
      let startFileNameAndIndex := d.keys.cellXor
      let d := d.setKeys d.keys.writeBack
      match item.handShakeMessage with
      | none => d
      | some handShakeMessage =>
          d.sendMessage (env.sent 0) item.onionName item.socket
            (handShakeMessage.createSessionAuthMessage P (env.ambient 0) "c"
              startFileNameAndIndex) id
  | _, _ => d

def receiveSessionAuth (d : Device) (item : MessageItem Bytes) (internalPayload : Bytes) :
    Device :=
  match Message.parseStartXORFileName item.data, Message.parseStartXORIndex item.data with
  | some startXORFileName, some startXORIndex =>
      let d := d.setKeys (d.keys.acceptAuth startXORFileName startXORIndex)
      match HandShakeMessage.parseSessionAuthPaylod internalPayload, item.handShakeMessage with
      | some true, some handShakeMessage =>
          let sharedKey := AESCrypto.paddingToLength (env.ambient 0) [] Constant.sharedkeyLength
          d.sendMessage (env.sent 0) item.onionName item.socket
            (handShakeMessage.createSessionExchangeMessage P (env.ambient 1) "c" sharedKey)
            (fun d => (d.updateSocketStatus P env item 0 (some sharedKey)).1)
      | _, _ => d
  | _, _ => d

def connectReady (d : Device × Bool) : Device :=
  match d with
  | (d, true) => d.notify .startCommunicationSuccess
  | (d, false) => d

def receiveSessionExchange (d : Device) (item : MessageItem Bytes) (internalPayload : Bytes) :
    Device :=
  match HandShakeMessage.parseSessionExchangePaylod internalPayload, item.handShakeMessage with
  | some sharedKey, some handShakeMessage =>
      d.sendMessage (env.sent 0) item.onionName item.socket
        (handShakeMessage.createSessionDoneMessage P (env.ambient 0))
        (fun d => connectReady (d.updateSocketStatus P env item 1 (some sharedKey)))
  | _, _ => d

def receiveSessionDone (d : Device) (item : MessageItem Bytes) (internalPayload : Bytes) :
    Device :=
  if internalPayload.length = 0 then connectReady (d.updateSocketStatus P env item 1 none) else d

def handShakeMessageHandle (d : Device) (item : MessageItem Bytes) : Device :=
  match Message.parseMessageType item.data, Message.parseExternalPaylod P item.data with
  | some messageType, some internalPayload =>
      if messageType = Constant.sessionRequest then d.receiveSessionRequest P env item
      else if messageType = Constant.sessionAuth then
        d.receiveSessionAuth P env item internalPayload
      else if messageType = Constant.sessionExchange then
        d.receiveSessionExchange P env item internalPayload
      else if messageType = Constant.sessionDone then
        d.receiveSessionDone P env item internalPayload
      else d
  | _, _ => d

def receiveTextMessage (d : Device) (internalPayload : Bytes) (statusItem : ConnectionStatusItem)
    (item : MessageItem Bytes) (messageID : Nat) : Device :=
  match d.keys.getRecordXOR item.data messageID with
  | none => d
  | some keys =>
      let d := d.setKeys keys
      let decoded := JniEntryUtils.decry P d.keys.keyFile internalPayload
      let d :=
        match decoded with
        | none => d
        | some plain =>
            d.notify (.hasReceivedMessage (newString plain) statusItem.onionName messageID)
      let messageHash := P.sha1 (decoded.getD internalPayload)
      match DataMessage.buildACKDataMessage P (env.ambient 0) d.keys statusItem.shareKey 0 1
          Constant.dataAckContent messageHash messageID with
      | none => d.setKeys d.keys.writeBack
      | some payload =>
          (d.setKeys d.keys.writeBack).sendMessage (env.sent 0) item.onionName statusItem.socket
            payload id

def prepareReceiveFile (d : Device) (internalPayload : Bytes) (statusItem : ConnectionStatusItem)
    (item : MessageItem Bytes) (messageID : Nat) : Device :=
  match d.keys.getRecordXOR item.data messageID with
  | none => d
  | some keys =>
      let d := (d.setKeys keys).updateConnectionPurpose item Constant.socketPurposeFile
      match FileMessage.parseFileMetaMessage P item.onionName internalPayload with
      | none => d
      | some task =>
          let ready := FileMessage.buildFileReadyMessage P (env.ambient 0) d.keys
            statusItem.shareKey task.fileNameHash messageID
          let d := d.setKeys d.keys.writeBack
          match ready with
          | none => d
          | some finalPayload =>
              d.sendMessage (env.sent 0) item.onionName statusItem.socket finalPayload
                (fun d => (d.putTask (task.setStatus .stop)).notify
                  (.recieveOnlineFile task.fileName task.totalSize messageID))

def sendFileShards (d : Device) (internalPayload : Bytes) (statusItem : ConnectionStatusItem)
    (item : MessageItem Bytes) (messageID : Nat) : Device :=
  match d.keys.getRecordXOR item.data messageID with
  | none => d
  | some keys =>
      let d := (d.setKeys keys).updateConnectionPurpose item Constant.socketPurposeFile
      match FileMessage.parseFileReadyMessage internalPayload with
      | none => d
      | some fileNameHash =>
          match d.getFileTaskByFileNameHash fileNameHash with
          | none => d
          | some task =>
              let d := d.modifyTask task (fun t => t.setStatus .transferrring)
              d.enqueuePieces (pieceItems (pieceItem P env d.keys item.onionName item.socket
                item.handShakeMessage statusItem.shareKey fileNameHash messageID)
                task.filePieceContentMap (List.range task.totalPieceNumber.toNat)).1

def receiveAllFileShards (d : Device) (task : FileTask) (statusItem : ConnectionStatusItem)
    (item : MessageItem Bytes) (messageID : Nat) : Device :=
  if (task.fileTransferStatusMap.card : Int) = task.totalPieceNumber then
    -- the receive directory is flat here: every name opens a file of its own
    let (content, filePath) := task.mergeFile P d.keys.keyFile
      (some ((d.receiveFiles.get? task.fileName).getD []))
    let d := { d with
      receiveFiles := content.elim d.receiveFiles (d.receiveFiles.put task.fileName) }
    match filePath with
    | none => d
    | some _ =>
        match FileMessage.buildFileDoneMessage P (env.ambient 1) d.keys statusItem.shareKey
            task.fileNameHash messageID with
        | none => d.setKeys d.keys.writeBack
        | some finalPayload =>
            let d := d.setKeys d.keys.writeBack
            if env.sent 1 then
              ((d.transmit statusItem.socket finalPayload).notify
                (.fileComplete task.fileName messageID)).removeTask task
            else
              (d.modifyTask task (fun t => t.setStatus .stop)).deleteConnection item.onionName
                statusItem.socket
  else d

def receiveFileShards (d : Device) (internalPayload : Bytes) (statusItem : ConnectionStatusItem)
    (item : MessageItem Bytes) (messageID : Nat) : Device :=
  match d.keys.getRecordXOR item.data messageID with
  | none => d
  | some keys =>
      let d := d.setKeys keys
      match FileMessage.parseFileDataMessage internalPayload with
      | none => d
      | some (byteFileNameHash, pieceID, fileContent) =>
          match d.getFileTaskByFileNameHash byteFileNameHash with
          | none => d
          | some found =>
              let receive := fun t : FileTask =>
                (t.recievePieceData pieceID fileContent).setStatus .transferrring
              let task := receive found
              let d := d.modifyTask found receive
              let d :=
                if (task.fileTransferStatusMap.card : Int).tmod task.stepNumber = 0 then
                  d.notify (.fileMessage task.fileName task.percent messageID)
                else d
              match DataMessage.buildACKDataMessage P (env.ambient 0) d.keys statusItem.shareKey 2
                  pieceID Constant.dataAckContent task.fileNameHash messageID with
              | none => d.setKeys d.keys.writeBack
              | some finalPayload =>
                  let d := d.setKeys d.keys.writeBack
                  let d :=
                    if env.sent 0 then d.transmit statusItem.socket finalPayload
                    else (d.modifyTask task (fun t => t.setStatus .stop)).deleteConnection
                      item.onionName statusItem.socket
                  d.receiveAllFileShards P env task statusItem item messageID

def receiveFileDone (d : Device) (internalPayload : Bytes) (messageID : Nat) : Device :=
  match FileMessage.parseFileReadyMessage internalPayload with
  | none => d
  | some fileNameHash =>
      match d.getFileTaskByFileNameHash fileNameHash with
      | none => d
      | some task => (d.notify (.fileComplete task.fileName messageID)).removeTask task

def zeroItem (item : MessageItem Bytes) : MessageItem (Option Cell) :=
  { onionName := item.onionName, socket := item.socket, data := some .zeros
    type := 1, purpose := 1, handShakeMessage := item.handShakeMessage }

def receiveFileAck (d : Device) (message : ACKMessage) (statusItem : ConnectionStatusItem)
    (item : MessageItem Bytes) (messageID : Nat) : Device :=
  match d.getFileTaskByFileNameHash message.messageHash with
  | none => d
  | some found =>
      if message.ackok = "ok" then
        let acknowledge := fun t : FileTask =>
          (t.updateTransferStatus message.recievePieceNumber).setStatus .transferrring
        let task := acknowledge found
        let d := d.modifyTask found acknowledge
        let tmpNumber := (task.fileTransferStatusMap.card : Int)
        if tmpNumber.tmod task.stepNumber = 0 ∨ tmpNumber = task.totalPieceNumber then
          (d.notify (.fileMessage task.fileName task.percent messageID)).enqueue [zeroItem item]
        else d
      else if message.ackok = "ck" then (d.resend P env found statusItem messageID).1
      else d

def receiveAck (d : Device) (internalPayload : Bytes) (statusItem : ConnectionStatusItem)
    (item : MessageItem Bytes) (messageID : Nat) : Device :=
  match DataMessage.parseACKDataMessage internalPayload with
  | none => d
  | some message =>
      if message.messageType > 0 then d.receiveFileAck P env message statusItem item messageID
      else d.notify (.peerHasReceivedMessage messageID)

def dispatchDataMessage (d : Device) (statusItem : ConnectionStatusItem)
    (item : MessageItem Bytes) (messageID messageType : Nat) (internalPayload : Bytes) : Device :=
  if messageType = Constant.dataMessage then
    d.receiveTextMessage P env internalPayload statusItem item messageID
  else if messageType = Constant.dataFileMeta then
    d.prepareReceiveFile P env internalPayload statusItem item messageID
  else if messageType = Constant.dataFileReady then
    d.sendFileShards P env internalPayload statusItem item messageID
  else if messageType = Constant.dataFileData then
    d.receiveFileShards P env internalPayload statusItem item messageID
  else if messageType = Constant.dataFileDone then d.receiveFileDone internalPayload messageID
  else if messageType = Constant.dataAck then
    d.receiveAck P env internalPayload statusItem item messageID
  else d

def dataMessageHandle (d : Device) (item : MessageItem Bytes) : Device :=
  match d.conns.getConnectionStatusItem item.onionName item.socket with
  | none => d
  | some statusItem =>
      -- printing the share key throws when it is null
      if statusItem.shareKey.isNone then d
      else
        match Message.parseMessageID item.data, Message.parseMessageType item.data,
          Message.parseExternalPaylod P item.data with
        | some messageID, some messageType, some internalPayload =>
            d.dispatchDataMessage P env statusItem item messageID messageType internalPayload
        | _, _, _ => d

end Device

end TorChat
