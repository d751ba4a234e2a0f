import TorChat.Offline.OfflineScreen

namespace TorChat

open Library (Bytes BlockCipher Machine)
open RandomUtil (randomChar)

namespace Offline

open DigestUtils (sha256Hex)

section Statement

variable (P : Platform) (A : BlockCipher 16) (key : AesKey) (card : String → Option Bytes)

def cipherOf (filePath : String) : Option Bytes :=
  (card filePath).bind (sendPic A key (FileTask.getName filePath))

def SameUpload (retry : Sent × Sent) : Prop :=
  retry.2.upload.request A key card = retry.1.upload.request A key card

-- what the screen must still show when the upload built at the origin has failed
def Unchanged (activity : P2PChatActivity) : Origin → Prop
  | .typed orionId textMessage =>
      sha256Hex P activity.chat.onionName = sha256Hex P orionId ∧
        sha256Hex P activity.chat.orionId = sha256Hex P (trim activity.chat.onionName) ∧
        AesTools.getEncryptContent A key textMessage = some activity.chat.messageSet
  | .picked _ _ _ => False
  | .photographed => True
  | .retriedText orionId messageSet =>
      sha256Hex P activity.chat.orionId = sha256Hex P orionId ∧
        activity.chat.messageSet = messageSet
  | .retriedFile orionId filepath =>
      sha256Hex P activity.chat.orionId = sha256Hex P orionId ∧
        cipherOf A key card activity.filepath = cipherOf A key card filepath

def RetryRepeats (run : OfflineRun) : ScreenEvent → Prop
  | .finish i reply fileLength clock => ∀ sent posted, run.sent[i]? = some sent →
      (sent.upload.post A key card reply fileLength clock).head? = some posted →
      posted.message = "错误" → run.activity.chat.count ≠ 2 →
      Unchanged P A key card run.activity sent.origin
  | _ => True

end Statement

section Handler

variable {P : Platform} {A : BlockCipher 16} {key : AesKey} {card : String → Option Bytes}
  {activity : P2PChatActivity} {posted : Posted}

theorem retry_ackMatchOffline (messageID : String) :
    (ackMatchOffline activity messageID).retry = none := by
  rw [ackMatchOffline]
  split <;> rfl

theorem retry_text (htype : posted.type = .sendOfflineText) :
    (onMoonEvent P activity posted).retry =
      if posted.message = "错误" ∧ activity.chat.count ≠ 2 then
        some (.text (.mk (sha256Hex P activity.chat.onionName) (sha256Hex P activity.chat.orionId)
          (some activity.chat.messageSet) activity.chat.decOfflineServer posted.peerHostname))
      else none := by
  have hevent : (onMoonEvent P activity posted).retry =
      (sendOffLineText P activity posted.message posted.peerHostname).retry := by
    rw [onMoonEvent, htype]
    dsimp only
    split <;> rfl
  rw [hevent, sendOffLineText, Chat.sendOffLineText]
  split_ifs with hfailed
  · rfl
  · exact retry_ackMatchOffline posted.peerHostname

theorem retry_file (htype : posted.type = .sendOfflineFile) {messageID speed : String}
    (hsplit : splitComma posted.peerHostname = [messageID, speed]) :
    (onMoonEvent P activity posted).retry =
      if posted.message = "错误" ∧ activity.chat.count ≠ 2 then
        some (.file (.mk (sha256Hex P activity.chat.onionName) (sha256Hex P activity.chat.orionId)
          FileType.sendOfflineFile.text activity.filepath activity.chat.decOfflineServer messageID))
      else none := by
  rw [onMoonEvent, htype]
  dsimp only
  rw [sendOffLineFile, hsplit]
  dsimp only
  split
  · rfl
  · rfl

theorem retry_pic (htype : posted.type = .sendOfflinePic) :
    (onMoonEvent P activity posted).retry = none := by
  rw [onMoonEvent, htype]
  dsimp only
  rw [sendOffLinePic]
  split <;> rfl

end Handler

section Origins

variable (P : Platform) (A : BlockCipher 16) (key : AesKey) (onionName server : String)

def Sent.WellBuilt (sent : Sent) : Prop :=
  ∃ messageID, ',' ∉ messageID.toList ∧ sent.origin.Builds P A key onionName server messageID
    sent.upload

structure BuiltRun (run : OfflineRun) : Prop where
  own : run.activity.chat.onionName = onionName
  channel : run.activity.chat.decOfflineServer = server
  wellBuilt : ∀ sent ∈ run.sent, sent.WellBuilt P A key onionName server

end Origins

section Requests

variable {P : Platform} {A : BlockCipher 16} {key : AesKey} {card : String → Option Bytes}
  {onionName server messageID : String} {activity : P2PChatActivity}

theorem fileType_text_ne {type : FileType} (h : type ≠ .sendOfflineFile) :
    FileType.sendOfflineFile.text ≠ type.text := by
  cases type with
  | file => decide
  | pic => decide
  | sendOfflineFile => exact absurd rfl h

theorem text_same_iff {fromId fromId' toId toId' server' : String} {message message' : Option String} :
    (OfflineUpload.text (.mk fromId' toId' message' server' messageID)).request A key card =
      (OfflineUpload.text (.mk fromId toId message server messageID)).request A key card ↔
    fromId' = fromId ∧ toId' = toId ∧ message = message' := by
  have hbytes : message'.map getBytes = message.map getBytes ↔ message = message' := by
    rw [eq_comm]
    refine ⟨fun h => ?_, congrArg _⟩
    exact Option.map_injective (fun _ _ hchars => getBytes_injective hchars) h
  simp only [OfflineUpload.request, OfflineUpload.content, Request.mk.injEq, and_true, true_and,
    hbytes]

theorem file_same_iff {fromId fromId' toId toId' type type' filePath filePath' server' : String} :
    (OfflineUpload.file (.mk fromId' toId' type' filePath' server' messageID)).request A key card =
      (OfflineUpload.file (.mk fromId toId type filePath server messageID)).request A key card ↔
    fromId' = fromId ∧ toId' = toId ∧ type' = type ∧
      cipherOf A key card filePath' = cipherOf A key card filePath := by
  simp only [OfflineUpload.request, OfflineUpload.content, Request.mk.injEq, and_true, cipherOf]

end Requests

section Failed

variable {P : Platform} {A : BlockCipher 16} {key : AesKey} {card : String → Option Bytes}
  {onionName server messageID : String} {activity : P2PChatActivity} {origin : Origin}
  {upload : OfflineUpload} {reply : Reply} {fileLength : Nat} {clock : Clock} {posted : Posted}

-- the handler starts a retry exactly when the branch of the source is taken, and the retry is
-- the same upload exactly when the screen is unchanged
inductive Answered (P : Platform) (A : BlockCipher 16) (key : AesKey)
    (card : String → Option Bytes) (onionName server messageID : String)
    (activity : P2PChatActivity) (origin : Origin) (upload : OfflineUpload) (posted : Posted) :
    Option OfflineUpload → Prop where
  | dropped (h : posted.message = "错误" → activity.chat.count ≠ 2 →
      Unchanged P A key card activity origin) :
      Answered P A key card onionName server messageID activity origin upload posted none
  | retried (retry : OfflineUpload) (hfailed : posted.message = "错误" ∧ activity.chat.count ≠ 2)
      (hbuilds : (retriedOrigin activity retry).Builds P A key onionName server messageID retry)
      (hsame : retry.request A key card = upload.request A key card ↔
        Unchanged P A key card activity origin) :
      Answered P A key card onionName server messageID activity origin upload posted (some retry)

theorem answered_of_builds (hown : activity.chat.onionName = onionName)
    (hchannel : activity.chat.decOfflineServer = server) (hid : ',' ∉ messageID.toList)
    (hbuilds : origin.Builds P A key onionName server messageID upload)
    (hposted : posted ∈ upload.post A key card reply fileLength clock) :
    Answered P A key card onionName server messageID activity origin upload posted
      (onMoonEvent P activity posted).retry := by
  subst hown hchannel
  cases origin with
  | typed orionId textMessage =>
    subst hbuilds
    obtain ⟨htype, hpeer⟩ := posted_text hposted
    rw [retry_text htype, hpeer]
    split_ifs with hfailed
    · exact .retried _ hfailed rfl text_same_iff
    · exact .dropped (fun hmessage hcount => absurd ⟨hmessage, hcount⟩ hfailed)
  | picked orionId filePath type =>
    obtain ⟨hne, rfl⟩ := hbuilds
    obtain ⟨htype, _, speed, hsplit⟩ := posted_file hid hposted
    rw [retry_file htype hsplit]
    split_ifs with hfailed
    · refine .retried _ hfailed rfl ?_
      rw [file_same_iff]
      exact iff_of_false (fun hsame => fileType_text_ne hne hsame.2.2.1) id
    · exact .dropped (fun hmessage hcount => absurd ⟨hmessage, hcount⟩ hfailed)
  | photographed =>
    obtain ⟨pic, rfl, rfl⟩ := hbuilds
    obtain ⟨htype, _⟩ := posted_pic hid hposted
    rw [retry_pic htype]
    exact .dropped (fun _ _ => trivial)
  | retriedText orionId messageSet =>
    subst hbuilds
    obtain ⟨htype, hpeer⟩ := posted_text hposted
    rw [retry_text htype, hpeer]
    split_ifs with hfailed
    · refine .retried _ hfailed rfl (text_same_iff.trans ?_)
      rw [Option.some.injEq, eq_comm (a := messageSet)]
      exact and_iff_right rfl
    · exact .dropped (fun hmessage hcount => absurd ⟨hmessage, hcount⟩ hfailed)
  | retriedFile orionId filepath =>
    subst hbuilds
    obtain ⟨htype, _, speed, hsplit⟩ := posted_file hid hposted
    rw [retry_file htype hsplit]
    split_ifs with hfailed
    · refine .retried _ hfailed rfl (file_same_iff.trans ?_)
      rw [and_iff_right rfl]
      exact and_congr_right (fun _ => and_iff_right rfl)
    · exact .dropped (fun hmessage hcount => absurd ⟨hmessage, hcount⟩ hfailed)

end Failed

section Steps

variable {P : Platform} {A : BlockCipher 16} {commonKey messageKey : AesKey}
  {card : String → Option Bytes} {selfUserId onionName server : String} {run : OfflineRun}

theorem chat_onMoonEvent (activity : P2PChatActivity) (posted : Posted) :
    (onMoonEvent P activity posted).activity.chat.onionName = activity.chat.onionName ∧
      (onMoonEvent P activity posted).activity.chat.decOfflineServer =
        activity.chat.decOfflineServer := by
  have hack : ∀ messageID, (ackMatchOffline activity messageID).activity.chat = activity.chat := by
    intro messageID
    rw [ackMatchOffline]
    split <;> rfl
  have hpic : ∀ (activity : P2PChatActivity) (peerHostname : String),
      (sendOffLinePic activity peerHostname).activity.chat = activity.chat := by
    intro activity peerHostname
    rw [sendOffLinePic]
    split <;> rfl
  have htext : ∀ message peerHostname,
      (sendOffLineText P activity message peerHostname).activity.chat.onionName =
        activity.chat.onionName ∧
      (sendOffLineText P activity message peerHostname).activity.chat.decOfflineServer =
        activity.chat.decOfflineServer := by
    intro message peerHostname
    rw [sendOffLineText, Chat.sendOffLineText]
    split_ifs
    · exact ⟨rfl, rfl⟩
    · dsimp only
      rw [hack]
      exact ⟨rfl, rfl⟩
  rw [onMoonEvent]
  split
  · rw [sendOffLineFile]
    split
    · split_ifs
      · exact ⟨rfl, rfl⟩
      · exact ⟨rfl, rfl⟩
    · exact ⟨rfl, rfl⟩
  · dsimp only
    split_ifs
    · exact htext _ _
    · dsimp only
      rw [hpic]
      exact htext _ _
  · rw [hpic]
    exact ⟨rfl, rfl⟩

theorem builtRun_activity (h : BuiltRun P A messageKey onionName server run)
    {activity : P2PChatActivity} (hsame : SameScreen run.activity activity) :
    BuiltRun P A messageKey onionName server { run with activity := activity } :=
  ⟨hsame.onionName.trans h.own, hsame.decOfflineServer.trans h.channel, h.wellBuilt⟩

theorem builtRun_send (h : BuiltRun P A messageKey onionName server run) (online : Bool)
    (values bean : MsgListBean) {messageID : String} {origin : Origin} {upload : OfflineUpload}
    (hid : ',' ∉ messageID.toList)
    (hbuilds : origin.Builds P A messageKey onionName server messageID upload) :
    BuiltRun P A messageKey onionName server (send online values bean origin upload run) := by
  rw [send]
  split_ifs
  · exact ⟨h.own, h.channel, h.wellBuilt⟩
  · refine ⟨h.own, h.channel, fun sent hsent => ?_⟩
    rcases List.mem_append.mp hsent with hold | hnew
    · exact h.wellBuilt sent hold
    · rw [List.mem_singleton.mp hnew]
      exact ⟨messageID, hid, hbuilds⟩

theorem builtRun_answered (h : BuiltRun P A messageKey onionName server run) (i : Nat)
    (sent : Sent) (reply : Reply) :
    BuiltRun P A messageKey onionName server (answered i sent reply run) :=
  ⟨h.own, h.channel, fun other hother => h.wellBuilt other (List.mem_of_mem_eraseIdx hother)⟩

theorem builtRun_heard (h : BuiltRun P A messageKey onionName server run) {sent : Sent}
    {messageID : String} (hid : ',' ∉ messageID.toList) (posted : Posted)
    (hanswered : Answered P A messageKey card onionName server messageID run.activity sent.origin
      sent.upload posted (onMoonEvent P run.activity posted).retry) :
    BuiltRun P A messageKey onionName server
      (heard sent run (onMoonEvent P run.activity posted)) := by
  obtain ⟨hown, hchannel⟩ := chat_onMoonEvent (P := P) run.activity posted
  rw [heard]
  generalize (onMoonEvent P run.activity posted).retry = retry at hanswered ⊢
  cases hanswered with
  | dropped hkept => exact ⟨hown.trans h.own, hchannel.trans h.channel, h.wellBuilt⟩
  | retried retry hfailed hbuilds hsame =>
    refine ⟨hown.trans h.own, hchannel.trans h.channel, fun other hother => ?_⟩
    rcases List.mem_append.mp hother with hold | hnew
    · exact h.wellBuilt other hold
    · rw [List.mem_singleton.mp hnew]
      exact ⟨messageID, hid, hbuilds⟩

variable (card) in
theorem answered_of_sent (h : BuiltRun P A messageKey onionName server run) {i : Nat} {sent : Sent}
    (hsent : run.sent[i]? = some sent) : ∃ messageID, ',' ∉ messageID.toList ∧
      ∀ {reply : Reply} {fileLength : Nat} {clock : Clock} {posted : Posted},
        posted ∈ sent.upload.post A messageKey card reply fileLength clock →
        Answered P A messageKey card onionName server messageID run.activity sent.origin
          sent.upload posted (onMoonEvent P run.activity posted).retry := by
  obtain ⟨messageID, hid, hbuilds⟩ := h.wellBuilt sent (List.mem_of_getElem? hsent)
  exact ⟨messageID, hid, fun hposted => answered_of_builds h.own h.channel hid hbuilds hposted⟩

theorem builtRun_handle (h : BuiltRun P A messageKey onionName server run) (i : Nat)
    (reply : Reply) (fileLength : Nat) (clock : Clock) :
    BuiltRun P A messageKey onionName server
      (handle P A messageKey card run i reply fileLength clock).1 := by
  rw [handle]
  cases hsent : run.sent[i]? with
  | none => exact h
  | some sent =>
    obtain ⟨messageID, hid, hanswered⟩ := answered_of_sent card h hsent
    have hnext := builtRun_answered h i sent reply
    dsimp only
    cases hpost : sent.upload.post A messageKey card reply fileLength clock with
    | nil => exact hnext
    | cons posted rest =>
      exact builtRun_heard hnext hid posted (hanswered (hpost ▸ List.mem_cons_self))

theorem builtRun_does (h : BuiltRun P A messageKey onionName server run) {run' : OfflineRun}
    (hdoes : Does P A messageKey run run') : BuiltRun P A messageKey onionName server run' := by
  cases hdoes with
  | opened contact => exact ⟨h.own, h.channel, h.wellBuilt⟩
  | chosen activity hsame => exact builtRun_activity h hsame
  | sends activity hsame online values bean origin upload messageID hid hvalues hbean hbuilds =>
    rw [h.own, h.channel] at hbuilds
    exact builtRun_send (builtRun_activity h hsame) online values bean hid hbuilds
  | other bean stored =>
    rw [otherMessage]
    dsimp only
    split_ifs
    · exact ⟨h.own, h.channel, h.wellBuilt⟩
    · exact ⟨h.own, h.channel, h.wellBuilt⟩
  | unheard i sent reply => exact builtRun_answered h i sent reply

theorem builtRun_step (h : BuiltRun P A messageKey onionName server run) (event : ScreenEvent) :
    BuiltRun P A messageKey onionName server
      (screenStep P A commonKey messageKey card selfUserId run event) := by
  rcases step_cases run event with ⟨i, reply, fileLength, clock, rfl⟩ | ⟨_, hdoes⟩
  · exact builtRun_handle h i reply fileLength clock
  · exact builtRun_does h hdoes

theorem same_nil (retry : Sent × Sent) (h : retry ∈ []) : SameUpload A messageKey card retry :=
  absurd h List.not_mem_nil

theorem retries_handle (h : BuiltRun P A messageKey onionName server run) (i : Nat)
    (reply : Reply) (fileLength : Nat) (clock : Clock) :
    ∃ new, (handle P A messageKey card run i reply fileLength clock).1.retries =
      run.retries ++ new ∧ ((∀ retry ∈ new, SameUpload A messageKey card retry) ↔
        RetryRepeats P A messageKey card run (.finish i reply fileLength clock)) := by
  rw [handle, RetryRepeats]
  cases hsent : run.sent[i]? with
  | none =>
    refine ⟨[], (List.append_nil _).symm, iff_of_true same_nil ?_⟩
    intro other posted hother
    cases hother
  | some sent =>
    obtain ⟨messageID, hid, hanswered⟩ := answered_of_sent card h hsent
    dsimp only
    cases hpost : sent.upload.post A messageKey card reply fileLength clock with
    | nil =>
      refine ⟨[], (List.append_nil _).symm, iff_of_true same_nil ?_⟩
      intro other posted hother hposted
      obtain rfl := Option.some.inj hother
      rw [hpost] at hposted
      cases hposted
    | cons posted rest =>
      have hguard : (∀ other posted', some sent = some other →
          (other.upload.post A messageKey card reply fileLength clock).head? = some posted' →
          posted'.message = "错误" → run.activity.chat.count ≠ 2 →
          Unchanged P A messageKey card run.activity other.origin) ↔
          (posted.message = "错误" → run.activity.chat.count ≠ 2 →
            Unchanged P A messageKey card run.activity sent.origin) := by
        constructor
        · exact fun hall => hall sent posted rfl (by rw [hpost]; rfl)
        · intro hone other posted' hother hposted'
          obtain rfl := Option.some.inj hother
          rw [hpost] at hposted'
          obtain rfl := Option.some.inj hposted'
          exact hone
      have hretry := @hanswered reply fileLength clock posted (hpost ▸ List.mem_cons_self)
      rw [hguard]
      dsimp only
      rw [heard]
      dsimp only [answered]
      generalize (onMoonEvent P run.activity posted).retry = retry at hretry ⊢
      cases hretry with
      | dropped hkept => exact ⟨[], (List.append_nil _).symm, iff_of_true same_nil hkept⟩
      | retried retry hfailed hbuilds hsame =>
        refine ⟨_, rfl, ?_⟩
        rw [List.forall_mem_singleton, SameUpload]
        exact hsame.trans ⟨fun hkept _ _ => hkept, fun hkept => hkept hfailed.1 hfailed.2⟩

theorem retries_does {run' : OfflineRun} (h : Does P A messageKey run run') :
    run'.retries = run.retries := by
  cases h with
  | opened contact => rfl
  | chosen activity hsame => rfl
  | sends activity hsame online values bean origin upload messageID hid hvalues hbean hbuilds =>
    rw [send]
    split_ifs
    · rfl
    · rfl
  | other bean stored =>
    rw [otherMessage]
    dsimp only
    split_ifs
    · rfl
    · rfl
  | unheard i sent reply => rfl

theorem retryRepeats_other {event : ScreenEvent}
    (h : ∀ i reply fileLength clock, event ≠ .finish i reply fileLength clock) :
    RetryRepeats P A messageKey card run event := by
  cases event with
  | finish i reply fileLength clock => exact absurd rfl (h i reply fileLength clock)
  | _ => trivial

theorem retries_step (h : BuiltRun P A messageKey onionName server run) (event : ScreenEvent) :
    ∃ new, (screenStep P A commonKey messageKey card selfUserId run event).retries =
      run.retries ++ new ∧ ((∀ retry ∈ new, SameUpload A messageKey card retry) ↔
        RetryRepeats P A messageKey card run event) := by
  rcases step_cases run event with ⟨i, reply, fileLength, clock, rfl⟩ | ⟨hother, hdoes⟩
  · exact retries_handle h i reply fileLength clock
  · refine ⟨[], ?_, iff_of_true same_nil (retryRepeats_other hother)⟩
    rw [retries_does hdoes, List.append_nil]

end Steps

theorem retries_repeat_iff (P : Platform) (A : BlockCipher 16) (commonKey messageKey : AesKey)
    (card : String → Option Bytes) (selfUserId onionName server : String) (contact : Contact)
    (events : List ScreenEvent) :
    (∀ retry ∈ ((screenMachine P A commonKey messageKey card selfUserId).run
        (firstScreen onionName server contact) events).retries,
      SameUpload A messageKey card retry) ↔
      (screenMachine P A commonKey messageKey card selfUserId).Guarded
        (RetryRepeats P A messageKey card) (firstScreen onionName server contact) events := by
  have hfirst : BuiltRun P A messageKey onionName server (firstScreen onionName server contact) :=
    ⟨rfl, rfl, fun sent hsent => absurd hsent List.not_mem_nil⟩
  exact (Machine.guarded_iff_log (screenMachine P A commonKey messageKey card selfUserId)
    (I := BuiltRun P A messageKey onionName server)
    (fun _ event h => builtRun_step h event) (fun _ event h => retries_step h event) events hfirst
    same_nil).symm

def retriedText : List ScreenEvent :=
  [.clickSend false "hi" "1628568000000" drawn4242, .finish 0 .error 0 ⟨0, 0⟩]

theorem retried_text_differs : ¬ ∀ (P : Platform) (A : BlockCipher 16)
    (commonKey messageKey : AesKey) (card : String → Option Bytes)
    (selfUserId onionName server : String) (contact : Contact) (events : List ScreenEvent),
    ∀ retry ∈ ((screenMachine P A commonKey messageKey card selfUserId).run
        (firstScreen onionName server contact) events).retries,
      SameUpload A messageKey card retry := by
  intro hall
  have hsame := hall demoPlatform DemoCrypto.aes sampleKey sampleKey (fun _ => none) "me"
    "alice.onion" "server.onion" carol retriedText
  simp only [SameUpload] at hsame
  revert hsame
  decide +kernel

end Offline

end TorChat
