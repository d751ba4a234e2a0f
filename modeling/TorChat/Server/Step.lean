import TorChat.Server.Handlers
import TorChat.Library.Machine

namespace TorChat

open Library (Bytes HashMap Machine)

namespace Device

variable (P : Platform) (env : Env)

def transport (d : Device) (socket : Nat) : Option Transport :=
  d.transports.find? (fun t => t.socket = socket)

def closeTransport (d : Device) (socket : Nat) : Device :=
  { d with transports := d.transports.eraseP (fun t => t.socket = socket) }

def endTransport (d : Device) (t : Transport) : Device :=
  match t.mailItem.bind (fun mail => d.conns.statusItem mail.onionName t.socket) with
  | some statusItem => (d.deleteStatusItem statusItem).closeTransport t.socket
  | none => d.closeTransport t.socket

def accept (d : Device) (socket : Nat) : Device :=
  { d with transports := d.transports ++ [{ socket := socket }] }

def handCell (d : Device) (mail : MailItem) (t : Transport) (type : Nat) (externalPayload : Bytes) :
    Device :=
  { d with recieveQueue := d.recieveQueue ++ [{
      onionName := mail.onionName, socket := t.socket, data := externalPayload, type := type
      purpose := 0, handShakeMessage := t.handShakeMessage }] }

def readCell (d : Device) (mail : MailItem) (t : Transport) (cell : Cell) : Device :=
  match d.conns.statusItem mail.onionName t.socket with
  | none => d
  | some statusItem =>
      if statusItem.status = 0 then
        match Message.parseRemote cell d.privateKey mail.publicKey with
        | none => d.endTransport t
        | some externalPayload => d.handCell mail t 0 externalPayload
      else if statusItem.status = 1 then
        match Message.parseDataPayload cell statusItem.shareKey with
        | none => d
        | some externalPayload => d.handCell mail t 1 externalPayload
      else d

def bindPeer (d : Device) (t : Transport) (mail : MailItem) : Device × Transport :=
  let handShakeMessage : HandShakeMessage := {
    remoteOnion := mail.onionName, localPrivateKey := d.privateKey
    remotePublickey := mail.publicKey }
  let t := { t with mailItem := some mail, handShakeMessage := some handShakeMessage }
  ({ d with
      transports := d.transports.map (fun old => if old.socket = t.socket then t else old)
      conns := d.conns.addNewConnection { onionName := mail.onionName, socket := t.socket }
      handShakeMessageHandlerByOnionName :=
        d.handShakeMessageHandlerByOnionName.put mail.onionName handShakeMessage }, t)

def identify (d : Device) (cell : Cell) : Option MailItem := do
  let externalPayload ← Message.parse cell d.privateKey
  let remoteOnionHash ← Message.subBytes externalPayload 33 32
  d.getMailItemByOnionHash remoteOnionHash

def receiveCell (d : Device) (socket : Nat) (cell : Cell) : Device :=
  match d.transport socket with
  | none => d
  | some t =>
      if cell = .zeros then d
      else
        match t.mailItem with
        | some mail => d.readCell mail t cell
        | none =>
            match d.identify cell with
            | none => d.closeTransport socket
            | some mail =>
                let (d, t) := d.bindPeer t mail
                d.readCell mail t cell

def hangUp (d : Device) (socket : Nat) : Device :=
  match d.transport socket with
  | none => d
  | some t => d.endTransport t

def connect (d : Device) (onionName : String) (purpose socket : Nat) : Device :=
  match d.mailList.get? onionName with
  | none => d
  | some mail =>
      let handShakeMessage := (d.handShakeMessageHandlerByOnionName.get? onionName).getD {
        remoteOnion := mail.onionName, localPrivateKey := d.privateKey
        remotePublickey := mail.publicKey }
      { d with
        conns := d.conns.addNewConnection {
          onionName := mail.onionName, socket := socket, purpose := purpose }
        handShakeMessageHandlerByOnionName :=
          d.handShakeMessageHandlerByOnionName.put onionName handShakeMessage }

def startHandShakeProcess (d : Device) (onionName : String) (purpose : Nat) : Device :=
  match d.conns.getConnectionStatusItemByOnionName onionName purpose,
    d.mailList.get? onionName, d.handShakeMessageHandlerByOnionName.get? onionName with
  | some item, some mail, some handShakeMessage =>
      if item.shareKey.isSome then d
      else
        match handShakeMessage.createSessionRequestMessage P (env.ambient 0) d.onionName
            d.keys.requestXor with
        | none => d.setKeys d.keys.openRequest
        | some body =>
            let d := d.setKeys d.keys.openRequest
            if env.sent 0 then
              { d.transmit item.socket body with
                transports := d.transports ++ [{
                  socket := item.socket, mailItem := some mail
                  handShakeMessage := some handShakeMessage }] }
            else d.deleteStatusItem item
  | _, _, _ => d

def read (d : Device) : Device :=
  match d.recieveQueue with
  | [] => d
  | item :: rest =>
      let d := { d with recieveQueue := rest }
      if item.type = 0 then d.handShakeMessageHandle P env item
      else if item.type = 1 then d.dataMessageHandle P env item
      else d

def failText (d : Device) (item : MessageItem (Option Cell)) : Device :=
  if item.purpose = Constant.socketPurposeText then
    { d with failedQueue := d.failedQueue ++ [{
        onionName := item.onionName, rawMessage := item.rawMessage }] }
  else d

def reput (d : Device) (item : MessageItem (Option Cell)) : Device :=
  if item.type = 0 then d
  else
    let d := d.failText item
    if item.socket ∈ d.writerSockets then
      if d.writerSockets.length % 10 = 0 then { d with writerSockets := [] } else d
    else
      { d with writerSockets := d.writerSockets ++ [item.socket] }.deleteConnection
        item.onionName item.socket

def write (d : Device) : Device :=
  match d.sendQueue with
  | [] => d
  | item :: rest =>
      let d := { d with sendQueue := rest }
      match item.data with
      | none => d.reput item
      | some cell => if env.sent 0 then d.transmit item.socket cell else d.reput item

def handleTextMessageSend (d : Device) (messageContent remoteOnion : String) (messageID : Nat) :
    Device :=
  match d.conns.getConnectionStatusItemByOnionName remoteOnion Constant.socketPurposeText with
  | none =>
      { d with conns := d.conns.createConnectionAsyc remoteOnion Constant.socketPurposeText }
  | some statusItem =>
      match statusItem.shareKey with
      | none => d.notify (.offlineText remoteOnion messageContent messageID)
      | some sharedKey =>
          let payload := d.keys.textPayload P (env.ambient 0) messageContent messageID
          (d.setKeys (d.keys.textSent messageID)).enqueue [{
            onionName := remoteOnion, socket := statusItem.socket
            data := Message.packDataPayload payload (some sharedKey)
            type := 1, purpose := 0, rawMessage := messageContent }]

def fileConnection (d : Device) (remoteOnion : String) : Option ConnectionStatusItem :=
  (d.conns.getConnectionStatusItemByOnionName remoteOnion Constant.socketPurposeFile).or
    (d.conns.getConnectionStatusItemByOnionName remoteOnion Constant.socketPurposeText)

def queueFileMeta (d : Device) (remoteOnion : String) (task : FileTask) (messageID : Nat) :
    Device :=
  let statusItem := d.fileConnection remoteOnion
  let d := d.setKeys (d.keys.sendFile messageID)
  match statusItem with
  | none => { d with registering := d.registering ++ [task.setStatus .notStart] }
  | some statusItem =>
      match statusItem.shareKey with
      -- printing the share key throws when it is null, and the task is not registered
      | none => d
      | some sharedKey =>
          { d.enqueue [metaItem P env remoteOnion statusItem.socket sharedKey task messageID] with
            registering := d.registering ++ [task] }

def handleFileMessageSend (d : Device) (fileFullPath : String) (content : Bytes)
    (remoteOnion : String) (messageID : Nat) : Device :=
  d.queueFileMeta P env remoteOnion
    (FileTask.ofFile P d.keys.keyFile remoteOnion fileFullPath content messageID) messageID

def handleByteMessageSend (d : Device) (fileFullPath : String) (bitmapBytes : Bytes)
    (remoteOnion : String) (messageID : Nat) : Device :=
  d.queueFileMeta P env remoteOnion
    (FileTask.ofBitmap P d.keys.keyFile remoteOnion fileFullPath bitmapBytes messageID) messageID

-- the sending thread goes on to senderFileMap.put after its META was queued
def registerTask (d : Device) (position : Nat) : Device :=
  match d.registering[position]? with
  | none => d
  | some task => { d.putTask task with registering := d.registering.eraseIdx position }

inductive Event where
  | accept (socket : Nat)
  | receiveCell (socket : Nat) (cell : Cell)
  | hangUp (socket : Nat)
  | connect (onionName : String) (purpose socket : Nat)
  | startHandShake (onionName : String) (purpose : Nat)
  | read
  | write
  | sendText (messageContent remoteOnion : String) (messageID : Nat)
  | sendFile (fileFullPath : String) (content : Bytes) (remoteOnion : String) (messageID : Nat)
  | sendBytes (fileFullPath : String) (bitmapBytes : Bytes) (remoteOnion : String)
      (messageID : Nat)
  | register (position : Nat)
  | tryResendAll
  deriving DecidableEq, Repr

def step (d : Device) : Event → Device
  | .accept socket => d.accept socket
  | .receiveCell socket cell => d.receiveCell socket cell
  | .hangUp socket => d.hangUp socket
  | .connect onionName purpose socket => d.connect onionName purpose socket
  | .startHandShake onionName purpose => d.startHandShakeProcess P env onionName purpose
  | .read => d.read P env
  | .write => d.write env
  | .sendText messageContent remoteOnion messageID =>
      d.handleTextMessageSend P env messageContent remoteOnion messageID
  | .sendFile fileFullPath content remoteOnion messageID =>
      d.handleFileMessageSend P env fileFullPath content remoteOnion messageID
  | .sendBytes fileFullPath bitmapBytes remoteOnion messageID =>
      d.handleByteMessageSend P env fileFullPath bitmapBytes remoteOnion messageID
  | .register position => d.registerTask position
  | .tryResendAll => tryResendAll P env (d.mailList.values.map (fun mail => mail.onionName)) d

end Device

end TorChat
