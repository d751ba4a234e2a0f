import TorChat.Library.Decimal
import TorChat.Library.Fields
import TorChat.Offline.MultipartBody
import TorChat.Offline.OfflineFetch
import TorChat.Offline.UploadReport

namespace TorChat

open Library (Bytes BlockCipher Machine)
open RandomUtil (Draws randomChar)

namespace Offline

open DigestUtils (sha256Hex)

section Uploads

structure SendOfflineFile where
  fromId : String
  toId : String
  type : String
  filePath : String
  onionName : String
  messageID : String
  deriving DecidableEq, Repr

structure SendOfflinePic2 where
  fromId : String
  toId : String
  type : String
  picByte : Bytes
  onionName : String
  messageID : String
  deriving DecidableEq, Repr

inductive OfflineUpload where
  | text (upload : SendOfflineText)
  | file (upload : SendOfflineFile)
  | pic (upload : SendOfflinePic2)
  deriving DecidableEq, Repr

structure Request where
  fromId : String
  toId : String
  type : String
  content : Option Bytes
  messageID : String
  deriving DecidableEq, Repr

-- how a request ends; a failure is an exception that only formUpload catches
inductive Reply where
  | ok (lines : List String)
  | error
  | errorUnread
  | failure
  | exception (lines : List String)
  deriving DecidableEq, Repr

def Reply.answer : Reply → Answer
  | ok lines => .ok lines
  | error => .error
  | _ => .exception

def sendPost (messageID : String) : Reply → List Posted
  | .ok lines => [⟨.sendOfflineText, String.join lines, messageID⟩]
  | .error => [⟨.sendOfflineText, "错误", messageID⟩]
  | .errorUnread => [⟨.sendOfflineText, "", messageID⟩]
  | .failure => []
  | .exception lines => [⟨.sendOfflineText, String.join lines, messageID⟩]

structure Clock where
  startMillis : Int
  endMillis : Int

variable (A : BlockCipher 16) (key : AesKey) (card : String → Option Bytes)

namespace OfflineUpload

def messageID : OfflineUpload → String
  | text upload => upload.messageID
  | file upload => upload.messageID
  | pic upload => upload.messageID

def content : OfflineUpload → Option Bytes
  | text upload => upload.message.map getBytes
  | file upload => (card upload.filePath).bind (sendPic A key (FileTask.getName upload.filePath))
  | pic upload => some upload.picByte

def request (upload : OfflineUpload) : Request :=
  match upload with
  | text t => ⟨t.fromId, t.toId, "text", upload.content A key card, t.messageID⟩
  | file f => ⟨f.fromId, f.toId, f.type, upload.content A key card, f.messageID⟩
  | pic p => ⟨p.fromId, p.toId, p.type, upload.content A key card, p.messageID⟩

-- a null content ends the thread before the request
def post (upload : OfflineUpload) (reply : Reply) (fileLength : Nat) (clock : Clock) :
    List Posted :=
  if (upload.content A key card).isNone then []
  else
    match upload with
    | text t => sendPost t.messageID reply
    | file f => SendOfflineFile.formUpload reply.answer fileLength f.messageID clock.startMillis
        clock.endMillis
    | pic p => SendOfflinePic2.formUpload reply.answer fileLength p.messageID clock.startMillis
        clock.endMillis

end OfflineUpload

end Uploads

-- split(",") leaves out the empty texts at the end
def splitComma (s : String) : List String :=
  let parts := (s.toList.splitOn ',').map String.ofList
  if parts.length = 1 then parts else parts.rdropWhile (fun part => part = "")

-- serial and offline tell the messages apart; no code reads them
structure Message extends MsgListBean where
  serial : Nat
  offline : Bool
  deriving DecidableEq, Repr

def Message.update (f : MsgListBean → MsgListBean) (row : Message) : Message :=
  { row with toMsgListBean := f row.toMsgListBean }

structure P2PChatActivity where
  chat : Chat
  mContactsBean : Contact
  filepath : String := "/sdcard/Android/data/com.ucas.chat/files/"
  mMsgList : List Message
  table : List Message

structure Handled where
  activity : P2PChatActivity
  retry : Option OfflineUpload := none
  threw : Bool := false

section Handlers

variable (P : Platform)

def OfflineEvent.type : OfflineEvent → String
  | sendOfflineText => "send_offline_text"
  | sendOfflineFile => "send_offline_file"
  | sendOfflinePic => "send_offline_pic"

def markFirst (messageID speed : String) : List Message → List Message
  | [] => []
  | fileBean1 :: rest =>
      if fileBean1.messageID = some messageID ∧ fileBean1.fileProgress ≠ 100 then
        fileBean1.update (fun bean => { bean with fileProgress := 100, speed := some speed }) :: rest
      else fileBean1 :: markFirst messageID speed rest

def updateRows (messageID : String) (f : MsgListBean → MsgListBean) (table : List Message) :
    List Message :=
  table.map (Message.update (MsgListSQLiteHelper.ofMessage messageID f))

def showDone (activity : P2PChatActivity) (messageID speed : String) : P2PChatActivity :=
  { activity with
    mMsgList := markFirst messageID speed activity.mMsgList
    table := updateRows messageID (fun row => { row with fileProgress := 100 }) activity.table }

def sendOffLineFile (activity : P2PChatActivity) (message peerHostname type : String) :
    Handled :=
  match splitComma peerHostname with
  | messageID :: speedOffline :: _ =>
      if message = "错误" ∧ activity.chat.count ≠ 2 then
        let fromId := sha256Hex P activity.chat.onionName
        let toId := sha256Hex P activity.chat.orionId
        { activity :=
            { activity with chat := { activity.chat with count := activity.chat.count + 1 } }
          retry := some (.file (.mk fromId toId type activity.filepath
            activity.chat.decOfflineServer messageID)) }
      else { activity := showDone activity messageID speedOffline }
  | _ => { activity := activity, threw := true }

-- none is the exception of a bean without an id
def ackMatchList (messageID : String) : List Message → Option (List Message × Bool)
  | [] => some ([], false)
  | bean :: rest =>
      match bean.messageID with
      | none => none
      | some id =>
          if id = messageID then
            some (bean.update (fun row => { row with isAcked := 1 }) :: rest, true)
          else (ackMatchList messageID rest).map (fun found => (bean :: found.1, found.2))

def ackMatchOffline (activity : P2PChatActivity) (messageID : String) : Handled :=
  match ackMatchList messageID activity.mMsgList with
  | none => { activity := activity, threw := true }
  | some (mMsgList, false) => { activity := { activity with mMsgList := mMsgList } }
  | some (mMsgList, true) =>
      { activity :=
          { activity with
            mMsgList := mMsgList
            table := updateRows messageID (fun row => { row with isAcked := 1 }) activity.table } }

def sendOffLineText (activity : P2PChatActivity) (message peerHostname : String) : Handled :=
  match activity.chat.sendOffLineText P message peerHostname with
  | (chat, some upload) => { activity := { activity with chat := chat }, retry := some (.text upload) }
  | (_, none) => ackMatchOffline activity peerHostname

def sendOffLinePic (activity : P2PChatActivity) (peerHostname : String) : Handled :=
  match splitComma peerHostname with
  | messageID2 :: speedOffline2 :: _ =>
      { activity := showDone activity messageID2 speedOffline2 }
  | _ => { activity := activity, threw := true }

-- the case of a text has no break
def onMoonEvent (activity : P2PChatActivity) (posted : Posted) : Handled :=
  match posted.type with
  | .sendOfflineFile =>
      sendOffLineFile P activity posted.message posted.peerHostname posted.type.type
  | .sendOfflineText =>
      let text := sendOffLineText P activity posted.message posted.peerHostname
      if text.threw then text
      else { sendOffLinePic text.activity posted.peerHostname with retry := text.retry }
  | .sendOfflinePic => sendOffLinePic activity posted.peerHostname

end Handlers

section Run

-- what the fields of the screen were when the upload was built
inductive Origin where
  | typed (orionId textMessage : String)
  | picked (orionId filePath : String) (type : FileType)
  | photographed
  | retriedText (orionId messageSet : String)
  | retriedFile (orionId filepath : String)

structure Sent where
  upload : OfflineUpload
  origin : Origin
  serial : Nat

structure OfflineRun where
  activity : P2PChatActivity
  sent : List Sent := []
  next : Nat := 0
  retries : List (Sent × Sent) := []
  answers : List (Nat × Reply) := []

-- cameraPicture has the picture of the camera, of the album or of a list of pictures: a path on
-- the card, or none and then its bytes
inductive ScreenEvent where
  | openScreen (contact : Contact)
  | clickSend (online : Bool) (textMessage currentTimeMillis : String) (draws : Draws)
  | pickFile (online : Bool) (filePath : String) (fileSize : Int) (currentTimeMillis : String)
      (draws : Draws)
  | recordVoice (online : Bool) (audioUrl : String) (fileSize : Int) (currentTimeMillis : String)
      (draws : Draws)
  | cameraPicture (online : Bool) (picturePath : String) (dataPicPath : Option String)
      (picByte : Bytes) (byteCount : Int) (currentTimeMillis : String) (draws : Draws)
  | otherMessage (bean : MsgListBean) (stored : Bool)
  | finish (i : Nat) (reply : Reply) (fileLength : Nat) (clock : Clock)
  | unheard (i : Nat) (reply : Reply)

variable (P : Platform) (A : BlockCipher 16) (commonKey messageKey : AesKey)
  (card : String → Option Bytes) (selfUserId : String)

def addMessage (online : Bool) (values bean : MsgListBean) (run : OfflineRun) : OfflineRun :=
  { run with
    activity :=
      { run.activity with
        table := run.activity.table ++ [⟨values, run.next, !online⟩]
        mMsgList := run.activity.mMsgList ++ [⟨bean, run.next, !online⟩] }
    next := run.next + 1 }

def send (online : Bool) (values bean : MsgListBean) (origin : Origin) (upload : OfflineUpload)
    (run : OfflineRun) : OfflineRun :=
  let added := addMessage online values bean run
  if online then added else { added with sent := run.sent ++ [⟨upload, origin, run.next⟩] }

def fileUpload (activity : P2PChatActivity) (type : FileType) (filePath messageID : String) :
    OfflineUpload :=
  .file (.mk (sha256Hex P activity.chat.onionName) (sha256Hex P activity.chat.orionId) type.text
    filePath activity.chat.decOfflineServer messageID)

def picUpload (activity : P2PChatActivity) (picByte : Bytes) (messageID : String) : OfflineUpload :=
  .pic (.mk (sha256Hex P activity.chat.onionName) (sha256Hex P activity.chat.orionId)
    FileType.file.text picByte activity.chat.decOfflineServer messageID)

def lastThird (filePath : String) : String :=
  String.ofList (filePath.toList.drop (filePath.toList.length - 3))

def pickedType (filePath : String) : FileType :=
  if lastThird filePath ∈ ["png", "peg", "jpj", "ico"] then .pic else .file

def sendFileBean (contact : Contact) (filePath fileName : String) (fileSize : Int)
    (currentTimeMillis messageID : String) : MsgListBean :=
  { sendTime := some currentTimeMillis, msgType := MsgTypeStateNew.file, filePath := some filePath
    fileName := some fileName, fileSize := fileSize, speed := some "0"
    sender := AesTools.getEncryptContent A commonKey selfUserId, receiver := some contact.userId
    isAcked := 1, messageID := some messageID, friendOrionid := some contact.orionId
    friendNickname := some contact.nickName }

def sendPictureBean (contact : Contact) (picturePath : String)
    (currentTimeMillis messageID : String) : MsgListBean :=
  { sendTime := some currentTimeMillis, msgType := MsgTypeStateNew.image
    filePath := some picturePath, fileName := some picturePath, speed := some "0"
    sender := some selfUserId, receiver := some contact.userId, isAcked := 0
    messageID := some messageID, friendOrionid := some contact.orionId
    friendNickname := some contact.nickName }

def openScreen (contact : Contact) (run : OfflineRun) : OfflineRun :=
  { run with
    activity :=
      { chat :=
          { onionName := run.activity.chat.onionName, orionId := contact.orionId
            decOfflineServer := run.activity.chat.decOfflineServer }
        mContactsBean := contact, mMsgList := run.activity.table, table := run.activity.table } }

def clickSend (online : Bool) (textMessage currentTimeMillis messageID : String)
    (run : OfflineRun) : OfflineRun :=
  let clicked := run.activity.chat.onClickSend P A messageKey textMessage messageID
  let values := sendTextMessage A commonKey messageKey selfUserId run.activity.mContactsBean
    textMessage currentTimeMillis messageID
  send online values values (.typed run.activity.chat.orionId textMessage) (.text clicked.2)
    { run with activity := { run.activity with chat := clicked.1 } }

def addFile (online : Bool) (type : FileType) (filePath : String) (fileSize : Int)
    (currentTimeMillis messageID : String) (run : OfflineRun) : OfflineRun :=
  send online
    (sendFile selfUserId run.activity.mContactsBean filePath (FileTask.getName filePath) fileSize
      currentTimeMillis messageID)
    (sendFileBean A commonKey selfUserId run.activity.mContactsBean filePath
      (FileTask.getName filePath) fileSize currentTimeMillis messageID)
    (.picked run.activity.chat.orionId filePath type)
    (fileUpload P run.activity type filePath messageID) run

-- the last three characters of a shorter path are an exception
def pickFile (online : Bool) (filePath : String) (fileSize : Int)
    (currentTimeMillis messageID : String) (run : OfflineRun) : OfflineRun :=
  let chosen := { run with activity := { run.activity with filepath := filePath } }
  if online = false ∧ filePath.toList.length < 3 then chosen
  else addFile P A commonKey selfUserId online (pickedType filePath) filePath fileSize
    currentTimeMillis messageID chosen

def cameraPicture (online : Bool) (picturePath : String) (dataPicPath : Option String)
    (picByte : Bytes) (byteCount : Int) (currentTimeMillis messageID : String)
    (run : OfflineRun) : OfflineRun :=
  let values := sendPicture selfUserId run.activity.mContactsBean picturePath byteCount
    currentTimeMillis messageID
  let bean := sendPictureBean selfUserId run.activity.mContactsBean picturePath currentTimeMillis
    messageID
  match dataPicPath with
  | some path =>
      send online values bean (.picked run.activity.chat.orionId path .file)
        (fileUpload P run.activity .file path messageID) run
  | none => send online values bean .photographed (picUpload P run.activity picByte messageID) run

def otherMessage (bean : MsgListBean) (stored : Bool) (run : OfflineRun) : OfflineRun :=
  let added := addMessage true bean bean run
  if stored then added
  else { added with activity := { added.activity with table := run.activity.table } }

def retriedOrigin (activity : P2PChatActivity) : OfflineUpload → Origin
  | .text _ => .retriedText activity.chat.orionId activity.chat.messageSet
  | .file _ => .retriedFile activity.chat.orionId activity.filepath
  | .pic _ => .photographed

def heard (sent : Sent) (run : OfflineRun) (handled : Handled) : OfflineRun :=
  match handled.retry with
  | none => { run with activity := handled.activity }
  | some upload =>
      let retry : Sent := ⟨upload, retriedOrigin run.activity upload, sent.serial⟩
      { run with
        activity := handled.activity
        sent := run.sent ++ [retry]
        retries := run.retries ++ [(sent, retry)] }

def answered (i : Nat) (sent : Sent) (reply : Reply) (run : OfflineRun) : OfflineRun :=
  { run with sent := run.sent.eraseIdx i, answers := run.answers ++ [(sent.serial, reply)] }

def handle (run : OfflineRun) (i : Nat) (reply : Reply) (fileLength : Nat) (clock : Clock) :
    OfflineRun × Bool :=
  match run.sent[i]? with
  | none => (run, false)
  | some sent =>
      match sent.upload.post A messageKey card reply fileLength clock with
      | [] => (answered i sent reply run, false)
      | posted :: _ =>
          let handled := onMoonEvent P run.activity posted
          (heard sent (answered i sent reply run) handled, handled.threw)

def screenStep (run : OfflineRun) : ScreenEvent → OfflineRun
  | .openScreen contact => openScreen contact run
  | .clickSend online textMessage currentTimeMillis draws =>
      clickSend P A commonKey messageKey selfUserId online textMessage currentTimeMillis
        (randomChar draws) run
  | .pickFile online filePath fileSize currentTimeMillis draws =>
      pickFile P A commonKey selfUserId online filePath fileSize currentTimeMillis
        (randomChar draws) run
  | .recordVoice online audioUrl fileSize currentTimeMillis draws =>
      addFile P A commonKey selfUserId online .file audioUrl fileSize currentTimeMillis
        (randomChar draws) run
  | .cameraPicture online picturePath dataPicPath picByte byteCount currentTimeMillis draws =>
      cameraPicture P selfUserId online picturePath dataPicPath picByte byteCount
        currentTimeMillis (randomChar draws) run
  | .otherMessage bean stored => otherMessage bean stored run
  | .finish i reply fileLength clock =>
      (handle P A messageKey card run i reply fileLength clock).1
  | .unheard i reply =>
      match run.sent[i]? with
      | none => run
      | some sent => answered i sent reply run

def screenMachine : Machine OfflineRun ScreenEvent where
  step := screenStep P A commonKey messageKey card selfUserId

def firstScreen (onionName decOfflineServer : String) (contact : Contact) : OfflineRun where
  activity :=
    { chat := { onionName := onionName, orionId := contact.orionId
                decOfflineServer := decOfflineServer }
      mContactsBean := contact, mMsgList := [], table := [] }

end Run

section Split

variable {id speed : String}

theorem splitComma_eq (s : String) : splitComma s = Library.split ',' s := by
  have hempty : (fun part => decide (part = "")) ∘ String.ofList = List.isEmpty := by
    funext part
    cases part with
    | nil => rfl
    | cons c part => exact decide_eq_false (by simp)
  have hdrop (parts : List (List Char)) :
      (parts.map String.ofList).rdropWhile (fun part => part = "") =
        (parts.rdropWhile List.isEmpty).map String.ofList := by
    rw [List.rdropWhile, List.rdropWhile, ← List.map_reverse, List.dropWhile_map, hempty,
      List.map_reverse]
  rw [splitComma, Library.split, Library.fields, List.length_map, hdrop]
  split
  · rfl
  · rfl

theorem splitComma_append (hid : ',' ∉ id.toList) (hspeed : ',' ∉ speed.toList)
    (hne : speed ≠ "") : splitComma (id ++ "," ++ speed) = [id, speed] := by
  have htext : (id ++ "," ++ speed).toList = id.toList ++ ',' :: speed.toList := by simp
  rw [splitComma_eq, Library.split, htext,
    Library.fields_pair hid hspeed (by simpa using hne), List.map_cons, List.map_singleton,
    String.ofList_toList, String.ofList_toList]

end Split

section Posts

variable {type : OfflineEvent} {answer : Answer} {fileLength : Nat} {messageID : String}
  {startMillis endMillis : Int} {posted : Posted}

theorem comma_notMem_toString (n : Int) : ',' ∉ (toString n).toList := by
  intro hmem
  rcases Library.Decimal.mem_toString_int hmem with hsign | hdigit
  · exact absurd hsign (by decide)
  · exact absurd hdigit (by decide)

theorem splitComma_speed (hid : ',' ∉ messageID.toList) (n : Int) {unit : String}
    (hunit : ',' ∉ unit.toList) (hne : unit ≠ "") :
    splitComma (messageID ++ "," ++ toString n ++ unit) = [messageID, toString n ++ unit] := by
  have hspeed : messageID ++ "," ++ toString n ++ unit = messageID ++ "," ++ (toString n ++ unit) :=
    String.append_assoc
  rw [hspeed]
  refine splitComma_append hid ?_ ?_
  · rw [String.toList_append, List.mem_append, not_or]
    exact ⟨comma_notMem_toString n, hunit⟩
  · exact fun hempty => hne (String.append_eq_empty_iff.mp hempty).2

theorem formUpload_posted (hid : ',' ∉ messageID.toList)
    (h : posted ∈ formUpload type answer fileLength messageID startMillis endMillis) :
    posted.type = type ∧ posted.message = answer.res ∧
      ∃ speed, splitComma posted.peerHostname = [messageID, speed] := by
  rw [formUpload] at h
  dsimp only at h
  split at h
  · exact absurd h List.not_mem_nil
  · split at h
    · rw [List.mem_singleton.mp h]
      exact ⟨rfl, rfl, _, splitComma_speed hid _ (by decide) (by decide)⟩
    · rw [List.mem_singleton.mp h]
      exact ⟨rfl, rfl, _, splitComma_speed hid _ (by decide) (by decide)⟩

end Posts

section Posted

variable {A : BlockCipher 16} {key : AesKey} {card : String → Option Bytes} {reply : Reply}
  {fileLength : Nat} {clock : Clock} {posted : Posted}

theorem posted_text {upload : SendOfflineText}
    (h : posted ∈ (OfflineUpload.text upload).post A key card reply fileLength clock) :
    posted.type = .sendOfflineText ∧ posted.peerHostname = upload.messageID := by
  rw [OfflineUpload.post] at h
  split at h
  · exact absurd h List.not_mem_nil
  · cases reply with
    | failure => exact absurd h List.not_mem_nil
    | ok lines => rw [List.mem_singleton.mp h]; exact ⟨rfl, rfl⟩
    | error => rw [List.mem_singleton.mp h]; exact ⟨rfl, rfl⟩
    | errorUnread => rw [List.mem_singleton.mp h]; exact ⟨rfl, rfl⟩
    | exception lines => rw [List.mem_singleton.mp h]; exact ⟨rfl, rfl⟩

theorem posted_file {upload : SendOfflineFile} (hid : ',' ∉ upload.messageID.toList)
    (h : posted ∈ (OfflineUpload.file upload).post A key card reply fileLength clock) :
    posted.type = .sendOfflineFile ∧ posted.message = reply.answer.res ∧
      ∃ speed, splitComma posted.peerHostname = [upload.messageID, speed] := by
  rw [OfflineUpload.post] at h
  split at h
  · exact absurd h List.not_mem_nil
  · exact formUpload_posted hid h

theorem posted_pic {upload : SendOfflinePic2} (hid : ',' ∉ upload.messageID.toList)
    (h : posted ∈ (OfflineUpload.pic upload).post A key card reply fileLength clock) :
    posted.type = .sendOfflinePic ∧ posted.message = reply.answer.res ∧
      ∃ speed, splitComma posted.peerHostname = [upload.messageID, speed] := by
  rw [OfflineUpload.post] at h
  split at h
  · exact absurd h List.not_mem_nil
  · exact formUpload_posted hid h

end Posted

section Cases

variable (P : Platform) (A : BlockCipher 16) (key : AesKey)

-- the request as its origin builds it, under the id of the message
def Origin.Builds (onionName server messageID : String) : Origin → OfflineUpload → Prop
  | .typed orionId textMessage, upload => upload = .text
      (.mk (sha256Hex P orionId) (sha256Hex P (trim onionName))
        (AesTools.getEncryptContent A key textMessage) server messageID)
  | .picked orionId filePath type, upload => type ≠ .sendOfflineFile ∧ upload = .file
      (.mk (sha256Hex P onionName) (sha256Hex P orionId) type.text filePath server messageID)
  | .photographed, upload => ∃ pic : SendOfflinePic2, pic.messageID = messageID ∧ upload = .pic pic
  | .retriedText orionId messageSet, upload => upload = .text
      (.mk (sha256Hex P onionName) (sha256Hex P orionId) (some messageSet) server messageID)
  | .retriedFile orionId filepath, upload => upload = .file
      (.mk (sha256Hex P onionName) (sha256Hex P orionId) FileType.sendOfflineFile.text filepath
        server messageID)

structure SameScreen (activity activity' : P2PChatActivity) : Prop where
  onionName : activity'.chat.onionName = activity.chat.onionName
  decOfflineServer : activity'.chat.decOfflineServer = activity.chat.decOfflineServer
  mMsgList : activity'.mMsgList = activity.mMsgList
  table : activity'.table = activity.table

structure Unmarked (bean : MsgListBean) : Prop where
  text : bean.msgType = MsgTypeStateNew.text → bean.isAcked = 0
  other : bean.msgType ≠ MsgTypeStateNew.text → bean.fileProgress = 0

-- every step but the end of an upload that the screen hears
inductive Does (run : OfflineRun) : OfflineRun → Prop where
  | opened (contact : Contact) : Does run (openScreen contact run)
  | chosen (activity : P2PChatActivity) (hsame : SameScreen run.activity activity) :
      Does run { run with activity := activity }
  | sends (activity : P2PChatActivity) (hsame : SameScreen run.activity activity) (online : Bool)
      (values bean : MsgListBean) (origin : Origin) (upload : OfflineUpload) (messageID : String)
      (hid : ',' ∉ messageID.toList) (hvalues : Unmarked values) (hbean : Unmarked bean)
      (hbuilds : origin.Builds P A key run.activity.chat.onionName
        run.activity.chat.decOfflineServer messageID upload) :
      Does run (send online values bean origin upload { run with activity := activity })
  | other (bean : MsgListBean) (stored : Bool) : Does run (otherMessage bean stored run)
  | unheard (i : Nat) (sent : Sent) (reply : Reply) : Does run (answered i sent reply run)

variable {P A key} {commonKey : AesKey} {selfUserId : String} {card : String → Option Bytes}
  {run : OfflineRun}

theorem sameScreen_refl (activity : P2PChatActivity) : SameScreen activity activity :=
  ⟨rfl, rfl, rfl, rfl⟩

theorem unmarked_text {bean : MsgListBean} (htype : bean.msgType = MsgTypeStateNew.text)
    (hacked : bean.isAcked = 0) : Unmarked bean :=
  ⟨fun _ => hacked, fun hother => absurd htype hother⟩

theorem file_ne_text : MsgTypeStateNew.file ≠ MsgTypeStateNew.text := by decide

theorem image_ne_text : MsgTypeStateNew.image ≠ MsgTypeStateNew.text := by decide

theorem unmarked_other {bean : MsgListBean} (hne : bean.msgType ≠ MsgTypeStateNew.text)
    (hprogress : bean.fileProgress = 0) : Unmarked bean :=
  ⟨fun htext => absurd htext hne, fun _ => hprogress⟩

theorem pickedType_ne (filePath : String) : pickedType filePath ≠ .sendOfflineFile := by
  rw [pickedType]
  split_ifs
  · decide
  · decide

theorem does_addFile {activity : P2PChatActivity} (hsame : SameScreen run.activity activity)
    (online : Bool) {type : FileType} (htype : type ≠ .sendOfflineFile) (filePath : String)
    (fileSize : Int) (currentTimeMillis : String) {messageID : String}
    (hid : ',' ∉ messageID.toList) :
    Does P A key run (addFile P A commonKey selfUserId online type filePath fileSize
      currentTimeMillis messageID { run with activity := activity }) := by
  refine .sends activity hsame online _ _ _ _ messageID hid (unmarked_other file_ne_text rfl)
    (unmarked_other file_ne_text rfl) ⟨htype, ?_⟩
  rw [fileUpload]
  dsimp only
  rw [hsame.onionName, hsame.decOfflineServer]

theorem does_clickSend (online : Bool) (textMessage currentTimeMillis : String)
    {messageID : String} (hid : ',' ∉ messageID.toList) :
    Does P A key run (clickSend P A commonKey key selfUserId online textMessage
      currentTimeMillis messageID run) := by
  have hsame : SameScreen run.activity { run.activity with
      chat := (run.activity.chat.onClickSend P A key textMessage messageID).1 } :=
    ⟨rfl, rfl, rfl, rfl⟩
  exact .sends _ hsame online _ _ _ _ messageID hid (unmarked_text rfl rfl)
    (unmarked_text rfl rfl) rfl

theorem does_cameraPicture (online : Bool) (picturePath : String) (dataPicPath : Option String)
    (picByte : Bytes) (byteCount : Int) (currentTimeMillis : String) {messageID : String}
    (hid : ',' ∉ messageID.toList) :
    Does P A key run (cameraPicture P selfUserId online picturePath dataPicPath picByte byteCount
      currentTimeMillis messageID run) := by
  cases dataPicPath with
  | none =>
    exact .sends run.activity (sameScreen_refl _) online _ _ _ _ messageID hid
      (unmarked_other image_ne_text rfl) (unmarked_other image_ne_text rfl) ⟨_, rfl, rfl⟩
  | some path =>
    exact .sends run.activity (sameScreen_refl _) online _ _ _ _ messageID hid
      (unmarked_other image_ne_text rfl) (unmarked_other image_ne_text rfl) ⟨by decide, rfl⟩

theorem does_step {event : ScreenEvent}
    (h : ∀ i reply fileLength clock, event ≠ .finish i reply fileLength clock) :
    Does P A key run (screenStep P A commonKey key card selfUserId run event) := by
  cases event with
  | finish i reply fileLength clock => exact absurd rfl (h i reply fileLength clock)
  | openScreen contact => exact .opened contact
  | clickSend online textMessage currentTimeMillis draws =>
    exact does_clickSend online textMessage currentTimeMillis
      (RandomUtil.comma_notMem_randomChar draws)
  | pickFile online filePath fileSize currentTimeMillis draws =>
    have hchosen : SameScreen run.activity { run.activity with filepath := filePath } :=
      ⟨rfl, rfl, rfl, rfl⟩
    rw [screenStep, pickFile]
    dsimp only
    split_ifs
    · exact .chosen _ hchosen
    · exact does_addFile hchosen online (pickedType_ne filePath) filePath fileSize
        currentTimeMillis (RandomUtil.comma_notMem_randomChar draws)
  | recordVoice online audioUrl fileSize currentTimeMillis draws =>
    exact does_addFile (sameScreen_refl run.activity) online (by decide) audioUrl fileSize
      currentTimeMillis (RandomUtil.comma_notMem_randomChar draws)
  | cameraPicture online picturePath dataPicPath picByte byteCount currentTimeMillis draws =>
    exact does_cameraPicture online picturePath dataPicPath picByte byteCount currentTimeMillis
      (RandomUtil.comma_notMem_randomChar draws)
  | otherMessage bean stored => exact .other bean stored
  | unheard i reply =>
    rw [screenStep]
    split
    · exact .chosen run.activity (sameScreen_refl _)
    · exact .unheard i _ reply

theorem step_cases (run : OfflineRun) (event : ScreenEvent) :
    (∃ i reply fileLength clock, event = .finish i reply fileLength clock) ∨
      (∀ i reply fileLength clock, event ≠ .finish i reply fileLength clock) ∧
        Does P A key run (screenStep P A commonKey key card selfUserId run event) := by
  by_cases hfinish : ∃ i reply fileLength clock, event = .finish i reply fileLength clock
  · exact .inl hfinish
  · have hquiet : ∀ i reply fileLength clock, event ≠ .finish i reply fileLength clock :=
      fun i reply fileLength clock heq => hfinish ⟨i, reply, fileLength, clock, heq⟩
    exact .inr ⟨hquiet, does_step hquiet⟩

end Cases

end Offline

end TorChat
