import TorChat.Util.DemoPlatform

namespace TorChat

open Library (Bytes)

-- the cipher under the common key; null is none
structure AesTools where
  getDecryptContent : String → Option String
  getEncryptContent : String → Option String

structure AddressBookBean where
  nickName : String
  remoteOnionName : String
  deriving DecidableEq, Repr

structure ContactsBean where
  userId : String
  userName : String
  passWord : Option String := none
  nickName : String
  orionId : String
  orionHashId : String
  imageId : String
  deriving DecidableEq, Repr

structure MsgListRow where
  sendTime : String
  chatType : Nat
  textContent : String
  filePath : String := ""
  fileSize : String := ""
  fileName : String := ""
  sender : Option String
  receiver : String
  isAcked : Nat
  messageID : String
  friendOrionId : String
  friendNickName : String
  deriving DecidableEq, Repr

structure ReceivedText where
  mess : String
  peerHostname : String
  messageID : String
  currentTimeMillis : String := "0"
  deriving DecidableEq, Repr

namespace MailList

section Model

variable (P : Platform) (tools : AesTools) (selfOnion : String)

def mailListRow (bean : AddressBookBean) : ContactsBean :=
  { userId := bean.nickName, userName := bean.nickName, nickName := bean.nickName
    orionId := bean.remoteOnionName
    orionHashId := newString (P.sha1 (getBytes bean.remoteOnionName)), imageId := "1" }

-- a name that does not decrypt is null and getBytes throws; the row is inserted only into an
-- empty table
def initRow (mailList : List ContactsBean) (bean : AddressBookBean) : Option (List ContactsBean) :=
  match tools.getDecryptContent bean.remoteOnionName with
  | none => none
  | some remoteOnionName =>
      if remoteOnionName = selfOnion then some mailList
      else if mailList.length = 0 then some (mailList ++ [mailListRow P bean])
      else some mailList

def initData (book : List AddressBookBean) (mailList : List ContactsBean) :
    Option (List ContactsBean) := book.foldlM (initRow P tools selfOnion) mailList

-- the outer none is the exception of comparing a name that does not decrypt
def getContactsBean (peerHostname : String) :
    List ContactsBean → Option (Option ContactsBean)
  | [] => some none
  | person :: rest =>
      match tools.getDecryptContent person.orionId with
      | none => none
      | some orionID => if orionID = peerHostname then some (some person)
          else getContactsBean peerHostname rest

def messageRow (selfUserId : String) (text : ReceivedText) (contactsBean : ContactsBean) :
    MsgListRow :=
  { sendTime := text.currentTimeMillis, chatType := 1, textContent := text.mess
    sender := tools.getEncryptContent contactsBean.userName, receiver := selfUserId, isAcked := 1
    messageID := text.messageID, friendOrionId := contactsBean.orionId
    friendNickName := contactsBean.nickName }

-- printing the contact throws when it is null
def receiveMessage (selfUserId : String) (mailList : List ContactsBean) (table : List MsgListRow)
    (text : ReceivedText) : Option (List MsgListRow) :=
  match getContactsBean tools text.peerHostname mailList with
  | some (some contactsBean) => some (table ++ [messageRow tools selfUserId text contactsBean])
  | _ => none

def receiveTexts (selfUserId : String) (mailList : List ContactsBean) (table : List MsgListRow)
    (texts : List ReceivedText) : Option (List MsgListRow) :=
  texts.foldlM (receiveMessage tools selfUserId mailList) table

def Contact (book : List AddressBookBean) (name : String) : Prop :=
  name ≠ selfOnion ∧ ∃ bean ∈ book, tools.getDecryptContent bean.remoteOnionName = some name

structure OneRowEach (book : List AddressBookBean) (mailList : List ContactsBean) : Prop where
  each : ∀ name, Contact tools selfOnion book name →
    (mailList.filter (fun row => tools.getDecryptContent row.orionId = some name)).length = 1
  others : ∀ row ∈ mailList, ∃ name, tools.getDecryptContent row.orionId = some name ∧
    Contact tools selfOnion book name

structure Stores (text : ReceivedText) (row : MsgListRow) : Prop where
  textContent : row.textContent = text.mess
  messageID : row.messageID = text.messageID
  friendOrionId : tools.getDecryptContent row.friendOrionId = some text.peerHostname

structure EveryTextStored (book : List AddressBookBean) (mailList : List ContactsBean) :
    Prop where
  filled : initData P tools selfOnion book [] = some mailList
  once : OneRowEach tools selfOnion book mailList
  again : initData P tools selfOnion book mailList = some mailList
  stored : ∀ (selfUserId : String) (table : List MsgListRow) (texts : List ReceivedText),
    (∀ text ∈ texts, Contact tools selfOnion book text.peerHostname) →
      ∃ rows, receiveTexts tools selfUserId mailList table texts = some (table ++ rows) ∧
        List.Forall₂ (Stores tools) texts rows

end Model

variable {P : Platform} {tools : AesTools} {selfOnion : String} {book : List AddressBookBean}
  {mailList : List ContactsBean}

def Readable (tools : AesTools) (book : List AddressBookBean) : Prop :=
  ∀ bean ∈ book, (tools.getDecryptContent bean.remoteOnionName).isSome

theorem readable_of_initData {mailList' : List ContactsBean}
    (h : initData P tools selfOnion book mailList = some mailList') : Readable tools book := by
  induction book generalizing mailList with
  | nil => exact fun _ hbean => absurd hbean List.not_mem_nil
  | cons bean book ih =>
    rw [initData, List.foldlM_cons, Option.bind_eq_bind, Option.bind_eq_some_iff] at h
    obtain ⟨next, hrow, hrest⟩ := h
    intro other hother
    rcases List.mem_cons.mp hother with rfl | hother
    · rw [initRow] at hrow
      split at hrow
      · cases hrow
      · rename_i name hname
        rw [hname]
        rfl
    · exact ih hrest other hother

theorem initRow_of_filled {bean : AddressBookBean} (hlist : mailList ≠ [])
    (h : (tools.getDecryptContent bean.remoteOnionName).isSome) :
    initRow P tools selfOnion mailList bean = some mailList := by
  obtain ⟨name, hname⟩ := Option.isSome_iff_exists.mp h
  have hlength : mailList.length ≠ 0 := fun hzero => hlist (List.eq_nil_of_length_eq_zero hzero)
  rw [initRow, hname]
  simp only [hlength, if_false, ite_self]

theorem initData_of_filled (hlist : mailList ≠ []) (h : Readable tools book) :
    initData P tools selfOnion book mailList = some mailList := by
  induction book with
  | nil => rfl
  | cons bean book ih =>
    rw [initData, List.foldlM_cons, initRow_of_filled hlist (h bean List.mem_cons_self),
      Option.bind_eq_bind, Option.bind_some]
    exact ih (fun other hother => h other (List.mem_cons_of_mem bean hother))

def isOther (tools : AesTools) (selfOnion : String) (bean : AddressBookBean) : Bool :=
  tools.getDecryptContent bean.remoteOnionName ≠ some selfOnion

-- only the first contact of the address book gets a row
theorem initData_empty (h : Readable tools book) :
    initData P tools selfOnion book [] =
      some ((book.find? (isOther tools selfOnion)).map (mailListRow P)).toList := by
  induction book with
  | nil => rfl
  | cons bean book ih =>
    have hrest : Readable tools book :=
      fun other hother => h other (List.mem_cons_of_mem bean hother)
    obtain ⟨name, hname⟩ := Option.isSome_iff_exists.mp (h bean List.mem_cons_self)
    rw [initData, List.foldlM_cons, initRow, hname, List.find?_cons, isOther, hname]
    by_cases hself : name = selfOnion
    · simp only [hself, if_true, ne_eq, not_true_eq_false, decide_false]
      exact ih hrest
    · simp only [hself, if_false, List.length_nil, if_true, List.nil_append, ne_eq,
        Option.some.injEq, not_false_eq_true, decide_true, Option.bind_eq_bind, Option.bind_some,
        Option.map_some, Option.toList_some]
      exact initData_of_filled (List.cons_ne_nil _ _) hrest

theorem receiveTexts_stores (selfUserId : String) (table : List MsgListRow)
    {texts : List ReceivedText} (h : ∀ text ∈ texts, ∃ contactsBean,
      getContactsBean tools text.peerHostname mailList = some (some contactsBean) ∧
        tools.getDecryptContent contactsBean.orionId = some text.peerHostname) :
    ∃ rows, receiveTexts tools selfUserId mailList table texts = some (table ++ rows) ∧
      List.Forall₂ (Stores tools) texts rows := by
  induction texts generalizing table with
  | nil => exact ⟨[], by rw [List.append_nil]; rfl, .nil⟩
  | cons text texts ih =>
    obtain ⟨contactsBean, hfound, hname⟩ := h text List.mem_cons_self
    obtain ⟨rows, hrows, hstores⟩ := ih (table ++ [messageRow tools selfUserId text contactsBean])
      (fun other hother => h other (List.mem_cons_of_mem text hother))
    refine ⟨messageRow tools selfUserId text contactsBean :: rows, ?_,
      .cons ⟨rfl, rfl, hname⟩ hstores⟩
    rw [receiveTexts, List.foldlM_cons, receiveMessage, hfound, Option.bind_eq_bind,
      Option.bind_some]
    rw [List.append_assoc, List.singleton_append] at hrows
    exact hrows

theorem contact_of_other {bean : AddressBookBean} (h : Readable tools book) (hbean : bean ∈ book)
    (hother : isOther tools selfOnion bean = true) :
    ∃ name, tools.getDecryptContent bean.remoteOnionName = some name ∧
      Contact tools selfOnion book name := by
  obtain ⟨name, hname⟩ := Option.isSome_iff_exists.mp (h bean hbean)
  refine ⟨name, hname, ?_, bean, hbean, hname⟩
  rintro rfl
  rw [isOther, hname] at hother
  simp at hother

theorem stored_of_no_contact (h : Readable tools book)
    (hnone : book.find? (isOther tools selfOnion) = none) :
    EveryTextStored P tools selfOnion book [] := by
  have hempty : ∀ name, ¬ Contact tools selfOnion book name := by
    rintro name ⟨hne, bean, hbean, hname⟩
    have hself := List.find?_eq_none.mp hnone bean hbean
    rw [isOther, hname] at hself
    exact hself (by simpa using hne)
  have hfilled : initData P tools selfOnion book [] = some [] := by
    rw [initData_empty h, hnone]
    rfl
  refine ⟨hfilled, ⟨fun name hname => absurd hname (hempty name),
    fun row hrow => absurd hrow List.not_mem_nil⟩, hfilled, ?_⟩
  intro selfUserId table texts hcontacts
  exact receiveTexts_stores selfUserId table
    (fun text htext => absurd (hcontacts text htext) (hempty text.peerHostname))

theorem stored_of_one_contact {bean : AddressBookBean} (h : Readable tools book)
    (hone : ∀ name name', Contact tools selfOnion book name →
      Contact tools selfOnion book name' → name = name')
    (hfirst : book.find? (isOther tools selfOnion) = some bean) :
    EveryTextStored P tools selfOnion book [mailListRow P bean] := by
  obtain ⟨name, hname, hcontact⟩ :=
    contact_of_other h (List.mem_of_find?_eq_some hfirst) (List.find?_some hfirst)
  have hrow : tools.getDecryptContent (mailListRow P bean).orionId = some name := hname
  have hfilled : initData P tools selfOnion book [] = some [mailListRow P bean] := by
    rw [initData_empty h, hfirst]
    rfl
  refine ⟨hfilled, ⟨?_, ?_⟩, initData_of_filled (List.cons_ne_nil _ _) h, ?_⟩
  · intro other hother
    obtain rfl := hone name other hcontact hother
    simp only [List.filter_cons, hrow, decide_true, if_true, List.filter_nil, List.length_singleton]
  · intro row hmem
    obtain rfl := List.mem_singleton.mp hmem
    exact ⟨name, hrow, hcontact⟩
  · intro selfUserId table texts hcontacts
    refine receiveTexts_stores selfUserId table (fun text htext => ?_)
    have hpeer := hone name text.peerHostname hcontact (hcontacts text htext)
    refine ⟨mailListRow P bean, ?_, hpeer ▸ hrow⟩
    rw [getContactsBean, hrow]
    simp only [hpeer, if_true]

theorem one_contact_of_stored (h : EveryTextStored P tools selfOnion book mailList)
    {name name' : String} (hname : Contact tools selfOnion book name)
    (hname' : Contact tools selfOnion book name') : name = name' := by
  have hfilled := h.filled
  rw [initData_empty (readable_of_initData hfilled)] at hfilled
  have hlist := Option.some.inj hfilled
  cases hfirst : book.find? (isOther tools selfOnion) with
  | none =>
    rw [hfirst] at hlist
    subst hlist
    exact absurd (h.once.each name hname) (by simp)
  | some bean =>
    rw [hfirst] at hlist
    subst hlist
    have hrow : ∀ other, Contact tools selfOnion book other →
        tools.getDecryptContent bean.remoteOnionName = some other := by
      intro other hother
      have hone := h.once.each other hother
      by_contra hne
      have hnot : ¬ tools.getDecryptContent (mailListRow P bean).orionId = some other := hne
      simp [hnot] at hone
    exact Option.some.inj ((hrow name hname).symm.trans (hrow name' hname'))

theorem every_text_stored_iff (P : Platform) (tools : AesTools) (selfOnion : String)
    (book : List AddressBookBean) :
    (∃ mailList, EveryTextStored P tools selfOnion book mailList) ↔
      Readable tools book ∧ ∀ name name', Contact tools selfOnion book name →
        Contact tools selfOnion book name' → name = name' := by
  constructor
  · rintro ⟨mailList, hstored⟩
    exact ⟨readable_of_initData hstored.filled,
      fun name name' hname hname' => one_contact_of_stored hstored hname hname'⟩
  · rintro ⟨hreadable, hone⟩
    cases hfirst : book.find? (isOther tools selfOnion) with
    | none => exact ⟨[], stored_of_no_contact hreadable hfirst⟩
    | some bean => exact ⟨_, stored_of_one_contact hreadable hone hfirst⟩

def demoTools : AesTools := ⟨some, some⟩

def twoContacts : List AddressBookBean := [⟨"Bob", "bob.onion"⟩, ⟨"Carol", "carol.onion"⟩]

theorem second_contact_lost : ¬ ∀ (P : Platform) (tools : AesTools) (selfOnion : String)
    (book : List AddressBookBean),
      ∃ mailList, EveryTextStored P tools selfOnion book mailList := by
  intro hall
  obtain ⟨mailList, hstored⟩ := hall demoPlatform demoTools "me" twoContacts
  have hbob : Contact demoTools "me" twoContacts "bob.onion" :=
    ⟨by decide, _, List.mem_cons_self, rfl⟩
  have hcarol : Contact demoTools "me" twoContacts "carol.onion" :=
    ⟨by decide, _, List.mem_cons_of_mem _ List.mem_cons_self, rfl⟩
  have hsame := one_contact_of_stored hstored hbob hcarol
  revert hsame
  decide

end MailList

end TorChat
