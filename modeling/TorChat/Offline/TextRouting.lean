import TorChat.Offline.FileExchange
import TorChat.Server.Device
import TorChat.Util.DemoPlatform

namespace TorChat

open Library (Bytes BlockCipher Base64.encode)

namespace DigestUtils

def hexDigit (n : Nat) : Char := "0123456789abcdef".toList.getD n '0'

def sha256Hex (P : Platform) (data : String) : String :=
  String.ofList ((P.sha256 (getBytes data)).flatMap
    (fun b => [hexDigit (b.toNat / 16), hexDigit (b.toNat % 16)]))

end DigestUtils

namespace Offline

open DigestUtils (sha256Hex)

def withoutOnion : List Char → List Char
  | '.' :: 'o' :: 'n' :: 'i' :: 'o' :: 'n' :: rest => withoutOnion rest
  | c :: rest => c :: withoutOnion rest
  | [] => []

def replaceOnion (s : String) : String := String.ofList (withoutOnion s.toList)

-- the fields stand in the order of the constructor of sendOfflineText
structure SendOfflineText where
  fromId : String
  toId : String
  message : Option String
  onionName : String
  messageID : String
  deriving DecidableEq, Repr

-- URLEncoder throws on a null message and nothing is sent
def sendOfflineTextMessage (t : SendOfflineText) (timestamp : String) :
    Option (List (String × String)) :=
  t.message.map (fun message =>
    [("from_id", t.fromId), ("to_id", t.toId), ("type", "text"), ("timestamp", timestamp),
      ("message", message), ("messageID", t.messageID)])

structure StoredText where
  textMessage : String
  orionId : String
  messageID : String
  deriving DecidableEq, Repr

structure Chat where
  onionName : String
  orionId : String
  decOfflineServer : String
  messageSet : String := "ran"
  count : Nat := 0
  deriving DecidableEq, Repr

variable (P : Platform) (A : BlockCipher 16) (key : AesKey)

namespace Chat

def pollingId (onionName : String) : String := sha256Hex P (trim onionName)

def onClickSend (chat : Chat) (textMessage messageID : String) : Chat × SendOfflineText :=
  let fromId := sha256Hex P (trim chat.onionName)
  let toId := sha256Hex P chat.orionId
  let enTextMessage := AesTools.getEncryptContent A key textMessage
  ({ chat with messageSet := textMessage },
    .mk toId fromId enTextMessage chat.decOfflineServer messageID)

def sendOffLineText (chat : Chat) (message peerHostname : String) :
    Chat × Option SendOfflineText :=
  if message = "错误" ∧ chat.count ≠ 2 then
    let fromId := sha256Hex P chat.onionName
    let toId := sha256Hex P chat.orionId
    ({ chat with count := chat.count + 1 },
      some (.mk fromId toId (some chat.messageSet) chat.decOfflineServer peerHostname))
  else (chat, none)

end Chat

namespace ServerMessageHandler

def handleTextMessageOfflineManner (onionName channelServer messageContent remoteOnion
    messageID : String) : SendOfflineText :=
  let fromId := sha256Hex P (replaceOnion onionName)
  let toId := sha256Hex P (replaceOnion remoteOnion)
  .mk fromId toId (some messageContent) channelServer messageID

structure Drain where
  started : List (FailedTextMessage × SendOfflineText) := []
  tmpList : List FailedTextMessage := []

def drainStep (myOnionName channelServer onionName messageID : String) (drain : Drain)
    (tmp : FailedTextMessage) : Drain :=
  if tmp.onionName = onionName then
    let fromId := sha256Hex P (replaceOnion myOnionName)
    let toId := sha256Hex P (replaceOnion onionName)
    { drain with started := drain.started ++
        [(tmp, .mk fromId toId (some tmp.rawMessage) channelServer messageID)] }
  else { drain with tmpList := drain.tmpList ++ [tmp] }

def processOfflineMessage (myOnionName channelServer onionName messageID : String)
    (failedQueue : List FailedTextMessage) : Drain :=
  failedQueue.foldl (drainStep P myOnionName channelServer onionName messageID) {}

end ServerMessageHandler

inductive Path where
  | chatScreen
  | offlineManner
  | processOffline
  | retry
  deriving DecidableEq, Repr

inductive Starts (onionName : String) : Path → StoredText → SendOfflineText → Prop where
  | chatScreen (chat : Chat) (row : StoredText) (hself : chat.onionName = onionName)
      (hopen : chat.orionId = row.orionId) :
      Starts onionName .chatScreen row
        (chat.onClickSend P A key row.textMessage row.messageID).2
  | offlineManner (channelServer : String) (row : StoredText) :
      Starts onionName .offlineManner row
        (ServerMessageHandler.handleTextMessageOfflineManner P onionName channelServer
          row.textMessage row.orionId row.messageID)
  | processOffline (channelServer : String) (failedQueue : List FailedTextMessage)
      (row : StoredText) (tmp : FailedTextMessage) (upload : SendOfflineText)
      (hstarted : (tmp, upload) ∈ (ServerMessageHandler.processOfflineMessage P onionName
        channelServer row.orionId "messageID" failedQueue).started)
      (hraw : tmp.rawMessage = row.textMessage) : Starts onionName .processOffline row upload
  | retry (chat : Chat) (row : StoredText) (message peerHostname : String)
      (upload : SendOfflineText) (hself : chat.onionName = onionName)
      (hopen : chat.orionId = row.orionId) (htyped : chat.messageSet = row.textMessage)
      (hretried : (chat.sendOffLineText P message peerHostname).2 = some upload) :
      Starts onionName .retry row upload

def Uploads (onionName : String) (path : Path) (row : StoredText)
    (form : List (String × String)) : Prop :=
  ∃ upload timestamp, Starts P A key onionName path row upload ∧
    sendOfflineTextMessage upload timestamp = some form

structure Routed (onionName : String) (row : StoredText) (form : List (String × String)) :
    Prop where
  to_id : form.lookup "to_id" = some (Chat.pollingId P row.orionId)
  from_id : form.lookup "from_id" = some (Chat.pollingId P onionName)
  messageID : form.lookup "messageID" = some row.messageID
  message : form.lookup "message" = AesTools.getEncryptContent A key row.textMessage

section Form

variable {t : SendOfflineText} {timestamp : String} {form : List (String × String)}

theorem lookup_form (h : sendOfflineTextMessage t timestamp = some form) :
    form.lookup "to_id" = some t.toId ∧ form.lookup "from_id" = some t.fromId ∧
      form.lookup "messageID" = some t.messageID ∧ form.lookup "message" = t.message := by
  obtain ⟨message, hmessage, rfl⟩ := Option.map_eq_some_iff.mp h
  rw [hmessage]
  exact ⟨rfl, rfl, rfl, rfl⟩

theorem routed_iff_fields {onionName : String} {row : StoredText}
    (h : sendOfflineTextMessage t timestamp = some form) :
    Routed P A key onionName row form ↔ t.toId = Chat.pollingId P row.orionId ∧
      t.fromId = Chat.pollingId P onionName ∧ t.messageID = row.messageID ∧
      t.message = AesTools.getEncryptContent A key row.textMessage := by
  obtain ⟨hto, hfrom, hid, hmessage⟩ := lookup_form h
  constructor
  · intro hrouted
    have hto' := Option.some.inj (hto.symm.trans hrouted.to_id)
    have hfrom' := Option.some.inj (hfrom.symm.trans hrouted.from_id)
    have hid' := Option.some.inj (hid.symm.trans hrouted.messageID)
    exact ⟨hto', hfrom', hid', hmessage.symm.trans hrouted.message⟩
  · rintro ⟨hto', hfrom', hid', hmessage'⟩
    refine ⟨?_, ?_, ?_, hmessage.trans hmessage'⟩
    · rw [hto, hto']
    · rw [hfrom, hfrom']
    · rw [hid, hid']

end Form

section Content

theorem getEncryptContent_ne (text : String) :
    AesTools.getEncryptContent A key text ≠ some text := by
  intro h
  rw [AesTools.getEncryptContent, AesUtils.encrypt, encodeBase64String] at h
  split at h
  · have htext := Option.some.inj h
    have htrim : trim text = text := by
      rw [← htext]
      exact trim_encode _
    have hlength := encrypted_length A key text
    have hchars := length_le_getBytes text.toList
    have hsame := congrArg (fun s => s.toList.length) htext
    rw [htrim] at hsame
    rw [String.ofList_toList] at hchars
    simp only [String.toList_ofList, hlength] at hsame
    omega
  · cases h

theorem mem_started {myOnionName channelServer onionName messageID : String}
    {failedQueue : List FailedTextMessage} {tmp : FailedTextMessage} {upload : SendOfflineText}
    (h : (tmp, upload) ∈ (ServerMessageHandler.processOfflineMessage P myOnionName channelServer
      onionName messageID failedQueue).started) : upload.message = some tmp.rawMessage := by
  have hfold : ∀ (queue : List FailedTextMessage) (drain : ServerMessageHandler.Drain),
      (∀ x ∈ drain.started, x.2.message = some x.1.rawMessage) →
      ∀ x ∈ (queue.foldl (ServerMessageHandler.drainStep P myOnionName channelServer onionName
        messageID) drain).started, x.2.message = some x.1.rawMessage := by
    intro queue
    induction queue with
    | nil => exact fun _ hdrain => hdrain
    | cons next rest ih =>
      intro drain hdrain
      apply ih
      rw [ServerMessageHandler.drainStep]
      split
      · intro x hx
        rcases List.mem_append.mp hx with hold | hnew
        · exact hdrain x hold
        · rw [List.mem_singleton.mp hnew]
      · exact hdrain
  exact hfold failedQueue {} (fun x hx => absurd hx List.not_mem_nil) _ h

theorem message_of_handler {onionName : String} {path : Path} {row : StoredText}
    {upload : SendOfflineText} (h : Starts P A key onionName path row upload)
    (hpath : path ≠ .chatScreen) : upload.message = some row.textMessage := by
  cases h with
  | chatScreen chat _ hself hopen => exact absurd rfl hpath
  | offlineManner channelServer _ => rfl
  | processOffline channelServer failedQueue _ tmp _ hstarted hraw =>
    rw [mem_started P hstarted, hraw]
  | retry chat _ message peerHostname _ hself hopen htyped hretried =>
    rw [Chat.sendOffLineText] at hretried
    split at hretried
    · rw [← Option.some.inj hretried, ← htyped]
    · cases hretried

end Content

theorem offline_text_routed_iff {onionName : String} {path : Path} {row : StoredText}
    {form : List (String × String)} (h : Uploads P A key onionName path row form) :
    Routed P A key onionName row form ↔ path = .chatScreen ∧
      sha256Hex P (trim onionName) = sha256Hex P (trim row.orionId) ∧
      sha256Hex P (trim onionName) = sha256Hex P row.orionId := by
  obtain ⟨upload, timestamp, hstarts, hform⟩ := h
  rw [routed_iff_fields P A key hform]
  by_cases hpath : path = .chatScreen
  · subst hpath
    cases hstarts with
    | chatScreen chat _ hself hopen =>
      simp only [Chat.onClickSend, Chat.pollingId, hself, hopen, true_and, and_true]
      rw [eq_comm (a := sha256Hex P row.orionId)]
  · have hclear := message_of_handler P A key hstarts hpath
    constructor
    · rintro ⟨_, _, _, hmessage⟩
      rw [hclear] at hmessage
      exact absurd hmessage.symm (getEncryptContent_ne A key row.textMessage)
    · rintro ⟨hscreen, _⟩
      exact absurd hscreen hpath

def chatWith (orionId : String) : Chat :=
  { onionName := "alice.onion", orionId := orionId, decOfflineServer := "server.onion" }

def typedText (orionId : String) : StoredText :=
  { textMessage := "hi", orionId := orionId, messageID := "4242" }

theorem uploads_typedText (orionId : String) : ∃ form,
    Uploads demoPlatform DemoCrypto.aes sampleKey "alice.onion" .chatScreen (typedText orionId)
      form := by
  have hsome : (AesTools.getEncryptContent DemoCrypto.aes sampleKey "hi").isSome := by
    decide +kernel
  have hsent : (sendOfflineTextMessage ((chatWith orionId).onClickSend demoPlatform DemoCrypto.aes
      sampleKey "hi" "4242").2 "2021-08-10 12:00:00").isSome := by
    rw [sendOfflineTextMessage, Option.isSome_map]
    exact hsome
  obtain ⟨form, hform⟩ := Option.isSome_iff_exists.mp hsent
  exact ⟨form, _, _, .chatScreen (chatWith orionId) (typedText orionId) rfl rfl, hform⟩

theorem offline_text_routed_iff_own : ∃ form,
    Routed demoPlatform DemoCrypto.aes sampleKey "alice.onion" (typedText "alice.onion") form := by
  obtain ⟨form, hform⟩ := uploads_typedText "alice.onion"
  refine ⟨form, (offline_text_routed_iff demoPlatform DemoCrypto.aes sampleKey hform).mpr ?_⟩
  exact ⟨rfl, rfl, by decide +kernel⟩

theorem text_to_bob_misrouted :
    ¬ ∀ (P : Platform) (A : BlockCipher 16) (key : AesKey) (onionName : String) (path : Path)
      (row : StoredText) (form : List (String × String)),
      Uploads P A key onionName path row form → Routed P A key onionName row form := by
  intro hall
  obtain ⟨form, hform⟩ := uploads_typedText "bob.onion"
  have hrouted := hall _ _ _ _ _ _ _ hform
  obtain ⟨upload, timestamp, hstarts, hsent⟩ := hform
  obtain ⟨hto, _⟩ := (routed_iff_fields demoPlatform DemoCrypto.aes sampleKey hsent).mp hrouted
  cases hstarts with
  | chatScreen chat _ hself hopen =>
    have hswapped : sha256Hex demoPlatform (trim "alice.onion") =
        sha256Hex demoPlatform (trim "bob.onion") := by
      rw [← hself]
      exact hto
    revert hswapped
    decide +kernel

end Offline

end TorChat
