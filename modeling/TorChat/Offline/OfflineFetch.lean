import TorChat.Library.Machine
import TorChat.Offline.MsgTable
import TorChat.Util.DemoPlatform

namespace TorChat

open Library (BlockCipher Machine)
open RandomUtil (Draws randomChar)

namespace Offline

structure OfflineText where
  messageContent : String
  time : String
  messageID : String
  deriving DecidableEq, Repr

section Fetch

def isInsertData (table : List MsgListBean) (messageId : String) : Bool :=
  table.all (fun bean => some messageId ≠ bean.messageID)

def offlineTextRow (selfUserId : String) (contact : Contact) (text : OfflineText) : MsgListBean :=
  { sendTime := some text.time, msgType := MsgTypeStateNew.text
    textContent := some text.messageContent, sender := some contact.userId
    receiver := some selfUserId, isAcked := 1, messageID := some text.messageID }

def textMachine (selfUserId : String) (contact : Contact) :
    Machine (List MsgListBean) OfflineText where
  step table text :=
    if isInsertData table text.messageID then
      MsgListSQLiteHelper.insertData table (offlineTextRow selfUserId contact text)
    else table

-- none is a null message, or one whose messages are not a list of texts, which throws
def getOffLineText (selfUserId : String) (contact : Contact) (table : List MsgListBean) :
    Option (List OfflineText) → List MsgListBean
  | none => table
  | some data => (textMachine selfUserId contact).run table data

end Fetch

section Local

variable (A : BlockCipher 16) (commonKey messageKey : AesKey) (selfUserId : String)

inductive LocalMessage where
  | sendTextMessage (contact : Contact) (textMessage currentTimeMillis : String) (draws : Draws)
  | sendFile (contact : Contact) (filePath fileName : String) (fileSize : Int)
      (currentTimeMillis : String) (draws : Draws)
  | sendPicture (contact : Contact) (picturePath : String) (byteCount : Int)
      (currentTimeMillis : String) (draws : Draws)
  | receiveOffLineFile (contact : Contact) (fileName : String) (fileSize : Int)
      (currentTimeMillis : String) (peerHostname : Option String)
  | receiveMessage (contactsBean : Contact) (mess : String) (currentTimeMillis : String)
      (messageID : Option String)

def sendTextMessage (contact : Contact) (textMessage currentTimeMillis messageID : String) :
    MsgListBean :=
  { sendTime := some currentTimeMillis, msgType := MsgTypeStateNew.text
    textContent := AesTools.getEncryptContent A messageKey textMessage
    sender := AesTools.getEncryptContent A commonKey selfUserId
    receiver := AesTools.getEncryptContent A commonKey contact.userId, isAcked := 0
    messageID := some messageID
    friendOrionid := AesTools.getEncryptContent A commonKey contact.orionId
    friendNickname := AesTools.getEncryptContent A commonKey contact.nickName }

def sendFile (contact : Contact) (filePath fileName : String) (fileSize : Int)
    (currentTimeMillis messageID : String) : MsgListBean :=
  { sendTime := some currentTimeMillis, msgType := MsgTypeStateNew.file
    textContent := some "[File]", filePath := some filePath, fileName := some fileName
    fileSize := fileSize, sender := some selfUserId, receiver := some contact.userId, isAcked := 1
    messageID := some messageID, friendOrionid := some contact.orionId
    friendNickname := some contact.nickName }

def sendPicture (contact : Contact) (picturePath : String) (byteCount : Int)
    (currentTimeMillis messageID : String) : MsgListBean :=
  { sendTime := some currentTimeMillis, msgType := MsgTypeStateNew.image
    textContent := some "[File]", fileName := some picturePath, fileSize := byteCount
    sender := some selfUserId, receiver := some contact.userId, isAcked := 1
    messageID := some messageID, friendOrionid := some contact.orionId
    friendNickname := some contact.nickName }

def receiveOffLineFile (contact : Contact) (fileName : String) (fileSize : Int)
    (currentTimeMillis : String) (peerHostname : Option String) : MsgListBean :=
  { sendTime := some currentTimeMillis, msgType := MsgTypeStateNew.file
    textContent := some "[File]"
    filePath := some ("/sdcard/Android/data/com.ucas.chat/files/" ++ fileName)
    fileName := some fileName, fileSize := fileSize, sender := some contact.userId
    receiver := some selfUserId, isAcked := 1, messageID := peerHostname
    friendOrionid := some contact.orionId, friendNickname := some contact.nickName }

def receiveMessage (contactsBean : Contact) (mess currentTimeMillis : String)
    (messageID : Option String) : MsgListBean :=
  { sendTime := some currentTimeMillis, msgType := MsgTypeStateNew.text
    textContent := some mess, filePath := some "", fileName := some ""
    sender := AesTools.getEncryptContent A commonKey contactsBean.userName
    receiver := some selfUserId, isAcked := 1, messageID := messageID
    friendOrionid := some contactsBean.orionId, friendNickname := some contactsBean.nickName }

def LocalMessage.values : LocalMessage → MsgListBean
  | .sendTextMessage contact textMessage currentTimeMillis draws =>
      Offline.sendTextMessage A commonKey messageKey selfUserId contact textMessage
        currentTimeMillis (randomChar draws)
  | .sendFile contact filePath fileName fileSize currentTimeMillis draws =>
      Offline.sendFile selfUserId contact filePath fileName fileSize currentTimeMillis
        (randomChar draws)
  | .sendPicture contact picturePath byteCount currentTimeMillis draws =>
      Offline.sendPicture selfUserId contact picturePath byteCount currentTimeMillis
        (randomChar draws)
  | .receiveOffLineFile contact fileName fileSize currentTimeMillis peerHostname =>
      Offline.receiveOffLineFile selfUserId contact fileName fileSize currentTimeMillis peerHostname
  | .receiveMessage contactsBean mess currentTimeMillis messageID =>
      Offline.receiveMessage A commonKey selfUserId contactsBean mess currentTimeMillis messageID

inductive ChatEvent where
  | getOffLineText (contact : Contact) (message : Option (List OfflineText))
  | insertData (message : LocalMessage)
  | updateIsAck2 (messageID : String) (ack : Nat)
  | updateFileProgress2 (messageID : String) (fileProgress : Int)

def ChatEvent.returned : ChatEvent → List OfflineText
  | .getOffLineText _ (some data) => data
  | _ => []

def tableMachine : Machine (List MsgListBean) ChatEvent where
  step table event :=
    match event with
    | .getOffLineText contact message => getOffLineText selfUserId contact table message
    | .insertData message => MsgListSQLiteHelper.insertData table
        (message.values A commonKey messageKey selfUserId)
    | .updateIsAck2 messageID ack => MsgListSQLiteHelper.updateIsAck2 table messageID ack
    | .updateFileProgress2 messageID fileProgress =>
        MsgListSQLiteHelper.updateFileProgress2 table messageID fileProgress

end Local

-- only an offline fetch leaves out the id of the friend
def storesText (text : OfflineText) (row : MsgListBean) : Bool :=
  row.messageID = some text.messageID && row.sendTime = some text.time &&
    row.textContent = some text.messageContent && row.msgType = MsgTypeStateNew.text &&
    row.friendOrionid.isNone

def StoredOnce (text : OfflineText) (table : List MsgListBean) : Prop :=
  table.countP (storesText text) = 1

def AtMostOnce (table : List MsgListBean) : Prop :=
  ∀ text, table.countP (storesText text) ≤ 1

def StoredOrFree (table : List MsgListBean) (text : OfflineText) : Prop :=
  (∃ row ∈ table, storesText text row = true) ∨ isInsertData table text.messageID = true

def AllTaken (event : ChatEvent) (table : List MsgListBean) : Prop :=
  ∀ text ∈ event.returned, isInsertData table text.messageID = false

def AllStoredOnce (event : ChatEvent) (table : List MsgListBean) : Prop :=
  ∀ text ∈ event.returned, StoredOnce text table

def IdsFree (selfUserId : String) (table : List MsgListBean) : ChatEvent → Prop
  | .getOffLineText contact (some data) =>
      (textMachine selfUserId contact).Guarded StoredOrFree table data
  | _ => True

section Rows

variable {table : List MsgListBean} {text text' : OfflineText} {row : MsgListBean}
  {selfUserId : String} {contact : Contact}

theorem isInsertData_eq_false : isInsertData table text.messageID = false ↔
    ∃ row ∈ table, row.messageID = some text.messageID := by
  rw [isInsertData, List.all_eq_false]
  refine exists_congr (fun row => and_congr_right (fun _ => ?_))
  rw [decide_eq_true_eq, not_not]
  exact eq_comm

theorem messageID_of_storesText (h : storesText text row = true) :
    row.messageID = some text.messageID := by
  simp only [storesText, Bool.and_eq_true, decide_eq_true_eq] at h
  exact h.1.1.1.1

theorem count_of_free (h : isInsertData table text.messageID = true) :
    table.countP (storesText text) = 0 := by
  rw [List.countP_eq_zero]
  intro row hrow hstores
  have htaken := isInsertData_eq_false.mpr ⟨row, hrow, messageID_of_storesText hstores⟩
  rw [htaken] at h
  cases h

theorem storesText_offlineTextRow : storesText text' (offlineTextRow selfUserId contact text) =
    decide (text = text') := by
  have hext : text = text' ↔ text.messageID = text'.messageID ∧ text.time = text'.time ∧
      text.messageContent = text'.messageContent := by
    cases text
    cases text'
    simp only [OfflineText.mk.injEq]
    tauto
  simp [storesText, offlineTextRow, hext, Bool.and_assoc]

theorem taken_mono {table' : List MsgListBean} (hsub : table <+: table')
    (h : isInsertData table text.messageID = false) :
    isInsertData table' text.messageID = false := by
  obtain ⟨row, hrow, hid⟩ := isInsertData_eq_false.mp h
  exact isInsertData_eq_false.mpr ⟨row, hsub.subset hrow, hid⟩

end Rows

section Update

variable {messageID : String} {update : MsgListBean → MsgListBean} {text : OfflineText}
  {table : List MsgListBean}

theorem count_update (h : ∀ row, storesText text (update row) = storesText text row) :
    (table.map (MsgListSQLiteHelper.ofMessage messageID update)).countP (storesText text) =
      table.countP (storesText text) := by
  rw [List.countP_map]
  congr 1
  funext row
  rw [Function.comp_apply, MsgListSQLiteHelper.ofMessage]
  split
  · exact h row
  · rfl

theorem taken_update (hid : ∀ row, (update row).messageID = row.messageID)
    (h : isInsertData table text.messageID = false) :
    isInsertData (table.map (MsgListSQLiteHelper.ofMessage messageID update)) text.messageID =
      false := by
  obtain ⟨row, hrow, htaken⟩ := isInsertData_eq_false.mp h
  refine isInsertData_eq_false.mpr ⟨_, List.mem_map_of_mem hrow, ?_⟩
  rw [MsgListSQLiteHelper.ofMessage]
  split
  · rw [hid row, htaken]
  · exact htaken

end Update

section Texts

variable {selfUserId : String} {contact : Contact} {table : List MsgListBean}
  {text text' : OfflineText}

theorem prefix_step : table <+: (textMachine selfUserId contact).step table text := by
  rw [textMachine]
  dsimp only
  split
  · exact List.prefix_append table _
  · exact List.prefix_refl table

theorem taken_step :
    isInsertData ((textMachine selfUserId contact).step table text) text.messageID = false := by
  rw [textMachine]
  dsimp only
  split
  · exact isInsertData_eq_false.mpr ⟨_, List.mem_append_right table (List.mem_singleton_self _),
      rfl⟩
  · rename_i htaken
    exact Bool.eq_false_iff.mpr htaken

theorem count_step (h : isInsertData table text.messageID = false) :
    ((textMachine selfUserId contact).step table text').countP (storesText text) =
      table.countP (storesText text) := by
  rw [textMachine]
  dsimp only
  split
  · rename_i hfree
    have hne : text' ≠ text := by
      rintro rfl
      rw [h] at hfree
      cases hfree
    rw [MsgListSQLiteHelper.insertData, List.countP_append, List.countP_singleton,
      storesText_offlineTextRow]
    simp only [hne, decide_false, Bool.false_eq_true, if_false, Nat.add_zero]
  · rfl

theorem atMostOnce_step (h : AtMostOnce table) :
    AtMostOnce ((textMachine selfUserId contact).step table text') := by
  intro text
  cases htaken : isInsertData table text.messageID with
  | false =>
    rw [count_step htaken]
    exact h text
  | true =>
    have hzero := count_of_free htaken
    rw [textMachine]
    dsimp only
    split
    · rw [MsgListSQLiteHelper.insertData, List.countP_append, hzero, List.countP_singleton]
      split <;> omega
    · omega

theorem storedOnce_step_iff (h : AtMostOnce table) :
    StoredOnce text ((textMachine selfUserId contact).step table text) ↔
      StoredOrFree table text := by
  rw [StoredOnce, StoredOrFree]
  cases hfree : isInsertData table text.messageID with
  | false =>
    have hle := h text
    rw [count_step hfree, ← List.countP_pos_iff]
    simp only [Bool.false_eq_true, or_false]
    omega
  | true =>
    have hzero := count_of_free hfree
    rw [textMachine]
    simp only [hfree, if_true, MsgListSQLiteHelper.insertData, List.countP_append, hzero,
      List.countP_singleton, storesText_offlineTextRow, decide_true, or_true]

theorem fetch_iff (h : AtMostOnce table) (data : List OfflineText) :
    (textMachine selfUserId contact).Guarded StoredOrFree table data ↔
      ∀ text ∈ data, StoredOnce text ((textMachine selfUserId contact).run table data) :=
  Machine.guarded_iff_settled (I := AtMostOnce)
    (S := fun text table => isInsertData table text.messageID = false)
    _ (fun _ _ hle => atMostOnce_step hle) (fun _ _ hle => storedOnce_step_iff hle)
    (fun _ _ => taken_step)
    (fun _ _ _ htaken => ⟨taken_mono prefix_step htaken, by
      rw [StoredOnce, StoredOnce, count_step htaken]⟩) data h

theorem prefix_run (data : List OfflineText) :
    table <+: (textMachine selfUserId contact).run table data := by
  induction data generalizing table with
  | nil => exact List.prefix_refl table
  | cons text data ih => exact prefix_step.trans ih

theorem count_run (data : List OfflineText) (h : isInsertData table text.messageID = false) :
    ((textMachine selfUserId contact).run table data).countP (storesText text) =
      table.countP (storesText text) := by
  induction data generalizing table with
  | nil => rfl
  | cons text' data ih =>
    rw [Machine.run_cons, ih (taken_mono prefix_step h), count_step h]

theorem taken_run {data : List OfflineText} (h : text ∈ data) :
    isInsertData ((textMachine selfUserId contact).run table data) text.messageID = false := by
  obtain ⟨before, after, rfl⟩ := List.append_of_mem h
  rw [Machine.run_append, Machine.run_cons]
  exact taken_mono (prefix_run after) taken_step

end Texts

section Events

variable {A : BlockCipher 16} {commonKey messageKey : AesKey} {selfUserId : String}
  {table : List MsgListBean} {text : OfflineText}

variable (A commonKey messageKey selfUserId) in
theorem friendOrionid_values (message : LocalMessage) :
    (message.values A commonKey messageKey selfUserId).friendOrionid.isSome := by
  cases message with
  | sendTextMessage contact textMessage currentTimeMillis draws =>
    exact isSome_getEncryptContent A commonKey contact.orionId_short
  | sendFile => rfl
  | sendPicture => rfl
  | receiveOffLineFile => rfl
  | receiveMessage => rfl

theorem storesText_values (message : LocalMessage) :
    storesText text (message.values A commonKey messageKey selfUserId) = false := by
  obtain ⟨friendOrionid, hsome⟩ := Option.isSome_iff_exists.mp
    (friendOrionid_values A commonKey messageKey selfUserId message)
  rw [storesText, hsome]
  exact Bool.and_false _

theorem settled_event (event : ChatEvent) (h : isInsertData table text.messageID = false) :
    isInsertData ((tableMachine A commonKey messageKey selfUserId).step table event)
        text.messageID = false ∧
      ((tableMachine A commonKey messageKey selfUserId).step table event).countP
        (storesText text) = table.countP (storesText text) := by
  cases event with
  | getOffLineText contact message =>
    cases message with
    | none => exact ⟨h, rfl⟩
    | some data => exact ⟨taken_mono (prefix_run data) h, count_run data h⟩
  | insertData message =>
    refine ⟨taken_mono (List.prefix_append table _) h, ?_⟩
    simp only [tableMachine, MsgListSQLiteHelper.insertData, List.countP_append,
      List.countP_singleton, storesText_values, Bool.false_eq_true, if_false, Nat.add_zero]
  | updateIsAck2 messageID ack =>
    refine ⟨taken_update ?_ h, count_update ?_⟩
    · exact fun _ => rfl
    · exact fun _ => rfl
  | updateFileProgress2 messageID fileProgress =>
    refine ⟨taken_update ?_ h, count_update ?_⟩
    · exact fun _ => rfl
    · exact fun _ => rfl

theorem atMostOnce_event (event : ChatEvent) (h : AtMostOnce table) :
    AtMostOnce ((tableMachine A commonKey messageKey selfUserId).step table event) := by
  intro text
  cases event with
  | getOffLineText contact message =>
    cases message with
    | none => exact h text
    | some data =>
      exact Machine.run_invariant _ (I := AtMostOnce)
        (fun _ _ hle => atMostOnce_step hle) data h text
  | insertData message =>
    simp only [tableMachine, MsgListSQLiteHelper.insertData, List.countP_append,
      List.countP_singleton, storesText_values, Bool.false_eq_true, if_false, Nat.add_zero]
    exact h text
  | updateIsAck2 messageID ack =>
    refine (count_update ?_).trans_le (h text)
    exact fun _ => rfl
  | updateFileProgress2 messageID fileProgress =>
    refine (count_update ?_).trans_le (h text)
    exact fun _ => rfl

theorem event_iff (event : ChatEvent) (h : AtMostOnce table) :
    AllStoredOnce event ((tableMachine A commonKey messageKey selfUserId).step table event) ↔
      IdsFree selfUserId table event := by
  cases event with
  | getOffLineText contact message =>
    cases message with
    | none => exact iff_of_true (fun _ htext => absurd htext List.not_mem_nil) trivial
    | some data => exact (fetch_iff h data).symm
  | insertData => exact iff_of_true (fun _ htext => absurd htext List.not_mem_nil) trivial
  | updateIsAck2 => exact iff_of_true (fun _ htext => absurd htext List.not_mem_nil) trivial
  | updateFileProgress2 => exact iff_of_true (fun _ htext => absurd htext List.not_mem_nil) trivial

theorem taken_event (event : ChatEvent) :
    AllTaken event ((tableMachine A commonKey messageKey selfUserId).step table event) := by
  intro text htext
  cases event with
  | getOffLineText contact message =>
    cases message with
    | none => exact absurd htext List.not_mem_nil
    | some data => exact taken_run htext
  | insertData => exact absurd htext List.not_mem_nil
  | updateIsAck2 => exact absurd htext List.not_mem_nil
  | updateFileProgress2 => exact absurd htext List.not_mem_nil

theorem keep_event (event event' : ChatEvent) (h : AllTaken event table) :
    AllTaken event ((tableMachine A commonKey messageKey selfUserId).step table event') ∧
      (AllStoredOnce event ((tableMachine A commonKey messageKey selfUserId).step table event') ↔
        AllStoredOnce event table) := by
  refine ⟨fun text htext => (settled_event event' (h text htext)).1, ?_⟩
  refine forall₂_congr (fun text htext => ?_)
  rw [StoredOnce, StoredOnce, (settled_event event' (h text htext)).2]

end Events

theorem fetched_texts_stored_once_iff (A : BlockCipher 16) (commonKey messageKey : AesKey)
    (selfUserId : String) (events : List ChatEvent) :
    (∀ event ∈ events,
        AllStoredOnce event ((tableMachine A commonKey messageKey selfUserId).run [] events)) ↔
      (tableMachine A commonKey messageKey selfUserId).Guarded (IdsFree selfUserId) [] events := by
  have hempty : AtMostOnce [] := fun _ => Nat.zero_le 1
  exact (Machine.guarded_iff_settled _ (fun _ event hle => atMostOnce_event event hle)
    (fun _ event hle => event_iff event hle) (fun _ event => taken_event event)
    (fun _ event event' htaken => keep_event event event' htaken) events hempty).symm

def carol : Contact where
  userId := "carol"
  userName := "carol"
  nickName := "Carol"
  orionId := "carol.onion"
  orionId_short := by decide +kernel

def drawn4242 : Draws := ⟨0, 3, fun i => if i % 2 = 0 then 2 else 4⟩

def fetchedHello : OfflineText := ⟨"hello", "2021-08-10 12:00:00", "4242"⟩

def clashingRun : List ChatEvent :=
  [.insertData (.sendFile carol "/sdcard/a.txt" "a.txt" 5 "1628568000000" drawn4242),
    .getOffLineText carol (some [fetchedHello])]

theorem fetched_text_skipped : ¬ ∀ (A : BlockCipher 16) (commonKey messageKey : AesKey)
    (selfUserId : String) (events : List ChatEvent), ∀ event ∈ events,
      AllStoredOnce event ((tableMachine A commonKey messageKey selfUserId).run [] events) := by
  intro hall
  have hstored := hall DemoCrypto.aes sampleKey sampleKey "me" clashingRun
    (.getOffLineText carol (some [fetchedHello])) (List.mem_cons_of_mem _ List.mem_cons_self)
    fetchedHello List.mem_cons_self
  rw [StoredOnce] at hstored
  revert hstored
  decide +kernel

end Offline

end TorChat
