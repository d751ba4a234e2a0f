import TorChat.Offline.OfflineRetry

namespace TorChat

open Library (Bytes BlockCipher Machine)
open RandomUtil (randomChar)

namespace Offline

section Statement

variable (P : Platform) (A : BlockCipher 16) (key : AesKey) (card : String → Option Bytes)

def Delivered (row : Message) : Prop :=
  if row.msgType = MsgTypeStateNew.text then row.isAcked = 1 else row.fileProgress = 100

-- status 200 with a body
def Reply.Confirms : Reply → Prop
  | ok lines => lines ≠ []
  | _ => False

def Real (answers : List (Nat × Reply)) (row : Message) : Prop :=
  row.offline = true → Delivered row → ∃ reply, (row.serial, reply) ∈ answers ∧ reply.Confirms

structure MarksReal (run : OfflineRun) : Prop where
  table : ∀ row ∈ run.activity.table, Real run.answers row
  mMsgList : ∀ row ∈ run.activity.mMsgList, Real run.answers row

def OnlyOwn (serial : Nat) (row row' : Message) : Prop :=
  row'.serial = row.serial ∧ (row.serial ≠ serial → row' = row)

structure HandledWell (serial : Nat) (before after : P2PChatActivity) (threw : Bool) : Prop where
  quiet : threw = false
  table : List.Forall₂ (OnlyOwn serial) before.table after.table
  mMsgList : List.Forall₂ (OnlyOwn serial) before.mMsgList after.mMsgList

def HandlesWell (run : OfflineRun) : ScreenEvent → Prop
  | .finish i reply fileLength clock => ∀ sent, run.sent[i]? = some sent →
      HandledWell sent.serial run.activity
        (handle P A key card run i reply fileLength clock).1.activity
        (handle P A key card run i reply fileLength clock).2
  | _ => True

def OwnId (activity : P2PChatActivity) (messageID : String) (serial : Nat) : Prop :=
  ∀ row ∈ activity.table ++ activity.mMsgList, row.messageID = some messageID →
    row.serial = serial

-- the answers after which every mark stands for a delivery: none to a text, an error after which a
-- file is retried, and the confirmation of a file or picture whose id no other message has
def Deliverable (activity : P2PChatActivity) (serial : Nat) (reply : Reply) :
    OfflineUpload → Prop
  | .text _ => False
  | .file upload => reply = .error ∧ activity.chat.count ≠ 2 ∨
      reply.Confirms ∧ OwnId activity upload.messageID serial
  | .pic upload => reply.Confirms ∧ OwnId activity upload.messageID serial

def Sound (run : OfflineRun) : ScreenEvent → Prop
  | .finish i reply fileLength clock => ∀ sent posted, run.sent[i]? = some sent →
      (sent.upload.post A key card reply fileLength clock).head? = some posted →
      Deliverable run.activity sent.serial reply sent.upload
  | _ => True

end Statement

section Marks

variable {messageID speed : String} {rows : List Message}

def Touches (messageID : String) (row row' : Message) : Prop :=
  row'.serial = row.serial ∧ row'.offline = row.offline ∧
    (row.messageID = some messageID ∨ row' = row)

theorem touches_refl (row : Message) : Touches messageID row row := ⟨rfl, rfl, .inr rfl⟩

theorem touches_all_refl (rows : List Message) : List.Forall₂ (Touches messageID) rows rows :=
  List.forall₂_same.mpr (fun row _ => touches_refl row)

theorem touches_markFirst (rows : List Message) :
    List.Forall₂ (Touches messageID) rows (markFirst messageID speed rows) := by
  induction rows with
  | nil => exact .nil
  | cons fileBean1 rest ih =>
    rw [markFirst]
    split_ifs with hfirst
    · exact .cons ⟨rfl, rfl, .inl hfirst.1⟩ (touches_all_refl rest)
    · exact .cons (touches_refl fileBean1) ih

theorem touches_updateRows (f : MsgListBean → MsgListBean) (rows : List Message) :
    List.Forall₂ (Touches messageID) rows (updateRows messageID f rows) := by
  rw [updateRows, List.forall₂_map_right_iff, List.forall₂_same]
  intro row _
  refine ⟨rfl, rfl, ?_⟩
  rw [Message.update, MsgListSQLiteHelper.ofMessage]
  by_cases hid : row.messageID = some messageID
  · exact .inl hid
  · rw [if_neg hid]
    exact .inr rfl

-- the rows of the screen and of the table, each before and after
structure Marked (messageID : String) (before after : P2PChatActivity) : Prop where
  table : List.Forall₂ (Touches messageID) before.table after.table
  mMsgList : List.Forall₂ (Touches messageID) before.mMsgList after.mMsgList

theorem marked_showDone (activity : P2PChatActivity) :
    Marked messageID activity (showDone activity messageID speed) :=
  ⟨touches_updateRows _ _, touches_markFirst _⟩

theorem onlyOwn_of_touches {serial : Nat} {row row' : Message} (h : Touches messageID row row')
    (hown : row.messageID = some messageID → row.serial = serial) :
    OnlyOwn serial row row' := by
  obtain ⟨hserial, _, hrow⟩ := h
  refine ⟨hserial, fun hne => ?_⟩
  rcases hrow with hid | hsame
  · exact absurd (hown hid) hne
  · exact hsame

theorem real_of_touches {answers answers' : List (Nat × Reply)} {serial : Nat}
    {row row' : Message} (h : Touches messageID row row')
    (hown : row.messageID = some messageID → row.serial = serial)
    (hsub : answers ⊆ answers') (hreal : Real answers row)
    (hanswer : ∃ reply, (serial, reply) ∈ answers' ∧ reply.Confirms) : Real answers' row' := by
  obtain ⟨hserial, hoffline, hrow⟩ := h
  intro hsent hdelivered
  rcases hrow with hid | rfl
  · rw [hserial, hown hid]
    exact hanswer
  · obtain ⟨reply, hreply, hconfirms⟩ := hreal hsent hdelivered
    exact ⟨reply, hsub hreply, hconfirms⟩

theorem real_mono {answers answers' : List (Nat × Reply)} {row : Message}
    (hsub : answers ⊆ answers') (h : Real answers row) : Real answers' row := by
  intro hsent hdelivered
  obtain ⟨reply, hreply, hconfirms⟩ := h hsent hdelivered
  exact ⟨reply, hsub hreply, hconfirms⟩

theorem onlyOwn_rows {serial : Nat} {rows' : List Message}
    (h : List.Forall₂ (Touches messageID) rows rows')
    (hown : ∀ row ∈ rows, row.messageID = some messageID → row.serial = serial) :
    List.Forall₂ (OnlyOwn serial) rows rows' :=
  ((List.forall₂_and_left rows rows').mpr ⟨hown, h⟩).imp (fun _ _ hrow => onlyOwn_of_touches hrow.2 hrow.1)

theorem real_rows {answers answers' : List (Nat × Reply)} {serial : Nat} {rows' : List Message}
    (h : List.Forall₂ (Touches messageID) rows rows')
    (hown : ∀ row ∈ rows, row.messageID = some messageID → row.serial = serial)
    (hsub : answers ⊆ answers') (hreal : ∀ row ∈ rows, Real answers row)
    (hanswer : ∃ reply, (serial, reply) ∈ answers' ∧ reply.Confirms) :
    ∀ row' ∈ rows', Real answers' row' := by
  induction h with
  | nil => exact fun _ hmem => absurd hmem List.not_mem_nil
  | cons hrow hrows ih =>
    obtain ⟨hownHead, hownTail⟩ := List.forall_mem_cons.mp hown
    obtain ⟨hrealHead, hrealTail⟩ := List.forall_mem_cons.mp hreal
    exact List.forall_mem_cons.mpr
      ⟨real_of_touches hrow hownHead hsub hrealHead hanswer, ih hownTail hrealTail⟩

end Marks

section Handler

variable {P : Platform} {activity : P2PChatActivity} {posted : Posted} {messageID speed : String}

theorem pic_event (htype : posted.type = .sendOfflinePic)
    (hsplit : splitComma posted.peerHostname = [messageID, speed]) :
    onMoonEvent P activity posted = { activity := showDone activity messageID speed } := by
  rw [onMoonEvent, htype]
  dsimp only
  rw [sendOffLinePic, hsplit]

theorem file_event_done (htype : posted.type = .sendOfflineFile)
    (hsplit : splitComma posted.peerHostname = [messageID, speed])
    (hdone : ¬ (posted.message = "错误" ∧ activity.chat.count ≠ 2)) :
    onMoonEvent P activity posted = { activity := showDone activity messageID speed } := by
  rw [onMoonEvent, htype]
  dsimp only
  rw [sendOffLineFile, hsplit]
  exact if_neg hdone

theorem file_event_retried (htype : posted.type = .sendOfflineFile)
    (hsplit : splitComma posted.peerHostname = [messageID, speed])
    (hfailed : posted.message = "错误" ∧ activity.chat.count ≠ 2) :
    (onMoonEvent P activity posted).threw = false ∧
      (onMoonEvent P activity posted).activity.table = activity.table ∧
      (onMoonEvent P activity posted).activity.mMsgList = activity.mMsgList := by
  rw [onMoonEvent, htype]
  dsimp only
  rw [sendOffLineFile, hsplit]
  dsimp only
  rw [if_pos hfailed]
  exact ⟨rfl, rfl, rfl⟩

-- a sound answer throws nothing; it leaves the marks, or it marks the id of a confirmed upload
theorem outcome_of_deliverable {A : BlockCipher 16} {key : AesKey}
    {card : String → Option Bytes} {upload : OfflineUpload} {reply : Reply} {fileLength serial : Nat}
    {clock : Clock} (hid : ',' ∉ upload.messageID.toList)
    (hposted : posted ∈ upload.post A key card reply fileLength clock)
    (hdeliverable : Deliverable activity serial reply upload) :
    (onMoonEvent P activity posted).threw = false ∧
      ((onMoonEvent P activity posted).activity.table = activity.table ∧
        (onMoonEvent P activity posted).activity.mMsgList = activity.mMsgList ∨
      Marked upload.messageID activity (onMoonEvent P activity posted).activity ∧
        reply.Confirms ∧ OwnId activity upload.messageID serial) := by
  cases upload with
  | text upload => exact hdeliverable.elim
  | pic upload =>
    obtain ⟨htype, _, speed, hsplit⟩ := posted_pic hid hposted
    rw [pic_event htype hsplit]
    exact ⟨rfl, .inr ⟨marked_showDone activity, hdeliverable⟩⟩
  | file upload =>
    obtain ⟨htype, hmessage, speed, hsplit⟩ := posted_file hid hposted
    by_cases hfailed : posted.message = "错误" ∧ activity.chat.count ≠ 2
    · obtain ⟨hquiet, htable, hlist⟩ := file_event_retried (P := P) htype hsplit hfailed
      exact ⟨hquiet, .inl ⟨htable, hlist⟩⟩
    · rw [file_event_done htype hsplit hfailed]
      refine ⟨rfl, .inr ⟨marked_showDone activity, ?_⟩⟩
      rcases hdeliverable with ⟨rfl, hcount⟩ | hconfirmed
      · exact absurd ⟨hmessage, hcount⟩ hfailed
      · exact hconfirmed

end Handler

section Steps

variable {P : Platform} {A : BlockCipher 16} {commonKey messageKey : AesKey}
  {card : String → Option Bytes} {selfUserId onionName server : String} {run : OfflineRun}

theorem handledWell_same (serial : Nat) {before after : P2PChatActivity}
    (htable : after.table = before.table) (hlist : after.mMsgList = before.mMsgList) :
    HandledWell serial before after false := by
  refine ⟨rfl, ?_, ?_⟩
  · rw [htable]
    exact List.forall₂_same.mpr (fun _ _ => ⟨rfl, fun _ => rfl⟩)
  · rw [hlist]
    exact List.forall₂_same.mpr (fun _ _ => ⟨rfl, fun _ => rfl⟩)

theorem messageID_of_builds {messageID : String} {origin : Origin} {upload : OfflineUpload}
    (h : origin.Builds P A messageKey onionName server messageID upload) :
    upload.messageID = messageID := by
  cases origin with
  | typed orionId textMessage =>
    subst h
    rfl
  | picked orionId filePath type =>
    obtain ⟨_, rfl⟩ := h
    rfl
  | photographed =>
    obtain ⟨pic, hpic, rfl⟩ := h
    exact hpic
  | retriedText orionId messageSet =>
    subst h
    rfl
  | retriedFile orionId filepath =>
    subst h
    rfl

theorem comma_notMem_upload {sent : Sent} (h : sent.WellBuilt P A messageKey onionName server) :
    ',' ∉ sent.upload.messageID.toList := by
  obtain ⟨messageID, hid, hbuilds⟩ := h
  rw [messageID_of_builds hbuilds]
  exact hid

variable (run) in
theorem heard_activity (sent : Sent) (handled : Handled) :
    (heard sent run handled).activity = handled.activity ∧
      (heard sent run handled).answers = run.answers := by
  rw [heard]
  split
  · exact ⟨rfl, rfl⟩
  · exact ⟨rfl, rfl⟩

theorem marksReal_answered (h : MarksReal run) (i : Nat) (sent : Sent) (reply : Reply) :
    MarksReal (answered i sent reply run) :=
  ⟨fun row hrow => real_mono (List.subset_append_left _ _) (h.table row hrow),
    fun row hrow => real_mono (List.subset_append_left _ _) (h.mMsgList row hrow)⟩

theorem sound_finish (h : BuiltRun P A messageKey onionName server run) (hreal : MarksReal run)
    {i : Nat} {reply : Reply} {fileLength : Nat} {clock : Clock}
    (hsound : Sound A messageKey card run (.finish i reply fileLength clock)) :
    HandlesWell P A messageKey card run (.finish i reply fileLength clock) ∧
      MarksReal (handle P A messageKey card run i reply fileLength clock).1 := by
  rw [HandlesWell, handle]
  cases hsent : run.sent[i]? with
  | none =>
    refine ⟨fun sent hsent => ?_, hreal⟩
    cases hsent
  | some sent =>
    have hanswered := marksReal_answered hreal i sent reply
    dsimp only
    cases hpost : sent.upload.post A messageKey card reply fileLength clock with
    | nil =>
      refine ⟨fun other hother => ?_, hanswered⟩
      exact handledWell_same other.serial rfl rfl
    | cons posted rest =>
      have hposted : posted ∈ sent.upload.post A messageKey card reply fileLength clock :=
        hpost ▸ List.mem_cons_self
      have hid := comma_notMem_upload (h.wellBuilt sent (List.mem_of_getElem? hsent))
      have hdeliverable := hsound sent posted hsent (by rw [hpost]; rfl)
      obtain ⟨hquiet, hmarks⟩ := outcome_of_deliverable (P := P) hid hposted hdeliverable
      obtain ⟨hactivity, hanswers⟩ := heard_activity (answered i sent reply run) sent
        (onMoonEvent P run.activity posted)
      dsimp only
      rw [hactivity, hquiet]
      rcases hmarks with ⟨htable, hlist⟩ | ⟨hmarked, hconfirms, hown⟩
      · refine ⟨fun other hother => handledWell_same other.serial htable hlist, ⟨?_, ?_⟩⟩
        · rw [hactivity, hanswers, htable]
          exact hanswered.table
        · rw [hactivity, hanswers, hlist]
          exact hanswered.mMsgList
      · have htable : ∀ row ∈ run.activity.table, row.messageID = some sent.upload.messageID →
            row.serial = sent.serial := fun row hrow => hown row (List.mem_append_left _ hrow)
        have hlist : ∀ row ∈ run.activity.mMsgList, row.messageID = some sent.upload.messageID →
            row.serial = sent.serial := fun row hrow => hown row (List.mem_append_right _ hrow)
        have hanswer : ∃ confirmed, (sent.serial, confirmed) ∈
            (answered i sent reply run).answers ∧ confirmed.Confirms :=
          ⟨reply, List.mem_append_right _ (List.mem_singleton_self _), hconfirms⟩
        refine ⟨fun other hother => ?_, ⟨?_, ?_⟩⟩
        · obtain rfl := Option.some.inj hother
          exact ⟨rfl, onlyOwn_rows hmarked.table htable, onlyOwn_rows hmarked.mMsgList hlist⟩
        · rw [hactivity, hanswers]
          exact real_rows hmarked.table htable (List.Subset.refl _) hanswered.table hanswer
        · rw [hactivity, hanswers]
          exact real_rows hmarked.mMsgList hlist (List.Subset.refl _) hanswered.mMsgList hanswer

theorem not_delivered {bean : MsgListBean} (h : Unmarked bean) (serial : Nat) (offline : Bool) :
    ¬ Delivered ⟨bean, serial, offline⟩ := by
  rw [Delivered]
  split_ifs with htype
  · rw [h.text htype]
    exact Nat.zero_ne_one
  · rw [h.other htype]
    decide

theorem marksReal_addMessage (h : MarksReal run) (online : Bool) {values bean : MsgListBean}
    (hvalues : Real run.answers ⟨values, run.next, !online⟩)
    (hbean : Real run.answers ⟨bean, run.next, !online⟩) :
    MarksReal (addMessage online values bean run) :=
  ⟨List.forall_mem_append.mpr ⟨h.table, List.forall_mem_singleton.mpr hvalues⟩,
    List.forall_mem_append.mpr ⟨h.mMsgList, List.forall_mem_singleton.mpr hbean⟩⟩

theorem marksReal_send (h : MarksReal run) (online : Bool) {values bean : MsgListBean}
    (hvalues : Unmarked values) (hbean : Unmarked bean) (origin : Origin)
    (upload : OfflineUpload) : MarksReal (send online values bean origin upload run) := by
  have hadded := marksReal_addMessage h online
    (fun _ hdelivered => absurd hdelivered (not_delivered hvalues run.next (!online)))
    (fun _ hdelivered => absurd hdelivered (not_delivered hbean run.next (!online)))
  rw [send]
  split_ifs
  · exact hadded
  · exact ⟨hadded.table, hadded.mMsgList⟩

theorem marksReal_activity (h : MarksReal run) {activity : P2PChatActivity}
    (hsame : SameScreen run.activity activity) : MarksReal { run with activity := activity } :=
  ⟨hsame.table ▸ h.table, hsame.mMsgList ▸ h.mMsgList⟩

theorem marksReal_does (h : MarksReal run) {run' : OfflineRun} (hdoes : Does P A messageKey run run') :
    MarksReal run' := by
  cases hdoes with
  | opened contact => exact ⟨h.table, h.table⟩
  | chosen activity hsame => exact marksReal_activity h hsame
  | sends activity hsame online values bean origin upload messageID hid hvalues hbean hbuilds =>
    exact marksReal_send (marksReal_activity h hsame) online hvalues hbean origin upload
  | other bean stored =>
    have honline : Real run.answers ⟨bean, run.next, !true⟩ :=
      fun hsent => absurd hsent Bool.false_ne_true
    have hadded := marksReal_addMessage h true honline honline
    rw [otherMessage]
    dsimp only
    split_ifs
    · exact hadded
    · exact ⟨h.table, hadded.mMsgList⟩
  | unheard i sent reply => exact marksReal_answered h i sent reply

theorem marksReal_step (h : BuiltRun P A messageKey onionName server run) (hreal : MarksReal run)
    {event : ScreenEvent} (hsound : Sound A messageKey card run event) :
    MarksReal (screenStep P A commonKey messageKey card selfUserId run event) := by
  rcases step_cases run event with ⟨i, reply, fileLength, clock, rfl⟩ | ⟨_, hdoes⟩
  · exact (sound_finish h hreal hsound).2
  · exact marksReal_does hreal hdoes

theorem handlesWell_of_sound (h : BuiltRun P A messageKey onionName server run)
    (hreal : MarksReal run) {event : ScreenEvent} (hsound : Sound A messageKey card run event) :
    HandlesWell P A messageKey card run event := by
  cases event with
  | finish i reply fileLength clock => exact (sound_finish h hreal hsound).1
  | _ => trivial

structure RealRun (P : Platform) (A : BlockCipher 16) (key : AesKey) (onionName server : String)
    (run : OfflineRun) : Prop where
  built : BuiltRun P A key onionName server run
  real : MarksReal run

end Steps

theorem offline_marks_real (P : Platform) (A : BlockCipher 16) (commonKey messageKey : AesKey)
    (card : String → Option Bytes) (selfUserId onionName server : String) (contact : Contact)
    (events : List ScreenEvent)
    (h : (screenMachine P A commonKey messageKey card selfUserId).Guarded (Sound A messageKey card)
      (firstScreen onionName server contact) events) :
    (screenMachine P A commonKey messageKey card selfUserId).Guarded
        (HandlesWell P A messageKey card) (firstScreen onionName server contact) events ∧
      ∀ earlier, earlier <+: events → MarksReal ((screenMachine P A commonKey messageKey card
        selfUserId).run (firstScreen onionName server contact) earlier) := by
  have hfirst : BuiltRun P A messageKey onionName server (firstScreen onionName server contact) :=
    ⟨rfl, rfl, fun sent hsent => absurd hsent List.not_mem_nil⟩
  have hempty : MarksReal (firstScreen onionName server contact) :=
    ⟨fun row hrow => absurd hrow List.not_mem_nil, fun row hrow => absurd hrow List.not_mem_nil⟩
  have hstep : ∀ run event, RealRun P A messageKey onionName server run →
      Sound A messageKey card run event → RealRun P A messageKey onionName server
        (screenStep P A commonKey messageKey card selfUserId run event) :=
    fun _ event hrun hsound =>
      ⟨builtRun_step hrun.built event, marksReal_step hrun.built hrun.real hsound⟩
  have hstart : RealRun P A messageKey onionName server (firstScreen onionName server contact) :=
    ⟨hfirst, hempty⟩
  constructor
  · exact Machine.guarded_of_invariant (screenMachine P A commonKey messageKey card selfUserId)
      hstep (fun _ _ hrun hsound => handlesWell_of_sound hrun.built hrun.real hsound) h hstart
  · intro earlier hearlier
    exact (Machine.guarded_invariant (screenMachine P A commonKey messageKey card selfUserId)
      hstep (Machine.guarded_take _ hearlier h) hstart).real

def fileAnswered (reply : Reply) : List ScreenEvent :=
  [.pickFile false "/sdcard/a.txt" 2 "1628568000000" drawn4242, .finish 0 reply 2 ⟨1000, 3000⟩]

def demoMachine : Machine OfflineRun ScreenEvent :=
  screenMachine demoPlatform DemoCrypto.aes sampleKey sampleKey (fun _ => some [104, 105]) "me"

def demoScreen : OfflineRun := firstScreen "alice.onion" "server.onion" carol

theorem offline_marks_real_confirmed :
    demoMachine.Guarded (HandlesWell demoPlatform DemoCrypto.aes sampleKey
        (fun _ => some [104, 105])) demoScreen (fileAnswered (.ok ["ok"])) ∧
      ∀ earlier, earlier <+: fileAnswered (.ok ["ok"]) →
        MarksReal (demoMachine.run demoScreen earlier) := by
  refine offline_marks_real demoPlatform DemoCrypto.aes sampleKey sampleKey
    (fun _ => some [104, 105]) "me" "alice.onion" "server.onion" carol _ ⟨trivial, ?_, trivial⟩
  intro sent posted hsent hposted
  obtain rfl := Option.some.inj hsent
  refine .inr ⟨List.cons_ne_nil _ _, fun row hrow _ => ?_⟩
  have hserials : ∀ row ∈ (demoMachine.run demoScreen [.pickFile false "/sdcard/a.txt" 2
      "1628568000000" drawn4242]).activity.table ++ (demoMachine.run demoScreen
      [.pickFile false "/sdcard/a.txt" 2 "1628568000000" drawn4242]).activity.mMsgList,
      row.serial = 0 := by decide +kernel
  exact hserials row hrow

theorem exception_marks_file : ¬ ∀ (P : Platform) (A : BlockCipher 16)
    (commonKey messageKey : AesKey) (card : String → Option Bytes)
    (selfUserId onionName server : String) (contact : Contact) (events : List ScreenEvent),
    (screenMachine P A commonKey messageKey card selfUserId).Guarded
        (HandlesWell P A messageKey card) (firstScreen onionName server contact) events ∧
      ∀ earlier, earlier <+: events → MarksReal ((screenMachine P A commonKey messageKey card
        selfUserId).run (firstScreen onionName server contact) earlier) := by
  intro hall
  have hreal := (hall demoPlatform DemoCrypto.aes sampleKey sampleKey (fun _ => some [104, 105])
    "me" "alice.onion" "server.onion" carol (fileAnswered (.exception []))).2 _
    (List.prefix_refl _)
  have hmarked : ∃ row ∈ (demoMachine.run demoScreen (fileAnswered (.exception []))).activity.table,
      row.offline = true ∧ row.msgType ≠ MsgTypeStateNew.text ∧ row.fileProgress = 100 := by
    decide +kernel
  have hanswers : ∀ answer ∈ (demoMachine.run demoScreen (fileAnswered (.exception []))).answers,
      answer.2 = .exception [] := by decide +kernel
  obtain ⟨row, hrow, hoffline, htype, hprogress⟩ := hmarked
  obtain ⟨reply, hreply, hconfirms⟩ := hreal.table row hrow hoffline (by
    rw [Delivered, if_neg htype]
    exact hprogress)
  have hexception : reply = .exception [] := hanswers _ hreply
  rw [hexception] at hconfirms
  exact hconfirms

end Offline

end TorChat
