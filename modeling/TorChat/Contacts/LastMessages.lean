import TorChat.Contacts.MailList
import TorChat.Library.LastOfEach
import Mathlib.Data.List.Perm.Basic

namespace TorChat

open Library (LastOfEach scanLast)

namespace MsgListSQLiteHelper

section Model

variable (tools : AesTools)

def transform (orionId : String) : String :=
  match tools.getDecryptContent orionId with
  | none => orionId
  | some transOrionId => if transOrionId.isEmpty then orionId else transOrionId

def matchesFriend (person : MsgListRow) (contact : ContactsBean) : Bool :=
  decide (transform tools contact.orionId = transform tools person.friendOrionId)

-- the cursor goes from the last row to the first
def queryBackwards : List ContactsBean → List MsgListRow → List MsgListRow
  | _, [] => []
  | contactsBeans, person :: rest =>
      if contactsBeans.length > 0 then
        if contactsBeans.any (matchesFriend tools person) then
          person :: queryBackwards (contactsBeans.eraseP (matchesFriend tools person)) rest
        else queryBackwards contactsBeans rest
      else []

def queryLast (table : List MsgListRow) (contactsBeans : List ContactsBean) : List MsgListRow :=
  queryBackwards tools contactsBeans table.reverse

end Model

-- the name of an onion service, never the empty text
structure OnionId where
  text : String
  nonempty : text.isEmpty = false

def StoredAs (tools : AesTools) (id : OnionId) (stored : String) : Prop :=
  stored = id.text ∨ tools.getEncryptContent id.text = some stored

structure DecryptsIds (tools : AesTools) (isId : OnionId → Prop) : Prop where
  inverts : ∀ id stored, isId id → tools.getEncryptContent id.text = some stored →
    tools.getDecryptContent stored = some id.text
  plain : ∀ id, isId id → tools.getDecryptContent id.text = none

def StoresId (tools : AesTools) (isId : OnionId → Prop) (stored : String) : Prop :=
  ∃ id, isId id ∧ StoredAs tools id stored

def SameId (tools : AesTools) (isId : OnionId → Prop) (stored stored' : String) : Prop :=
  ∃ id, isId id ∧ StoredAs tools id stored ∧ StoredAs tools id stored'

section Scan

variable {tools : AesTools} {isId : OnionId → Prop}

theorem queryBackwards_eq (contactsBeans : List ContactsBean) (rows : List MsgListRow) :
    queryBackwards tools contactsBeans rows =
      scanLast (fun row => transform tools row.friendOrionId)
        (contactsBeans.map (fun contact => transform tools contact.orionId)) rows := by
  induction rows generalizing contactsBeans with
  | nil => rfl
  | cons person rest ih =>
    have hany : contactsBeans.any (matchesFriend tools person) = true ↔
        transform tools person.friendOrionId ∈
          contactsBeans.map (fun contact => transform tools contact.orionId) := by
      simp [matchesFriend]
    have herase : (contactsBeans.eraseP (matchesFriend tools person)).map
        (fun contact => transform tools contact.orionId) =
          (contactsBeans.map (fun contact => transform tools contact.orionId)).erase
            (transform tools person.friendOrionId) := by
      rw [List.erase_eq_eraseP', List.eraseP_map]
      congr
    rw [queryBackwards, scanLast, List.length_map]
    simp only [hany, ih, herase]

theorem transform_of_storedAs (hids : DecryptsIds tools isId) {id : OnionId} (hid : isId id)
    {stored : String} (h : StoredAs tools id stored) : transform tools stored = id.text := by
  rw [transform]
  rcases h with rfl | hencrypted
  · rw [hids.plain id hid]
  · rw [hids.inverts id stored hid hencrypted]
    simp only [id.nonempty, Bool.false_eq_true, if_false]

theorem transform_eq_iff (hids : DecryptsIds tools isId) {stored stored' : String}
    (h : StoresId tools isId stored) (h' : StoresId tools isId stored') :
    transform tools stored = transform tools stored' ↔ SameId tools isId stored stored' := by
  obtain ⟨id, hid, hstored⟩ := h
  obtain ⟨id', hid', hstored'⟩ := h'
  rw [transform_of_storedAs hids hid hstored, transform_of_storedAs hids hid' hstored']
  constructor
  · intro heq
    have hsame : id = id' := by
      cases id
      cases id'
      cases heq
      rfl
    exact ⟨id, hid, hstored, hsame ▸ hstored'⟩
  · rintro ⟨id'', hid'', hstored'', hstored'''⟩
    rw [← transform_of_storedAs hids hid hstored, ← transform_of_storedAs hids hid' hstored',
      transform_of_storedAs hids hid'' hstored'', transform_of_storedAs hids hid'' hstored''']

end Scan

-- newest first, the last stored message of each contact that has one
def LastMessages (tools : AesTools) (isId : OnionId → Prop) (table : List MsgListRow)
    (contactsBeans : List ContactsBean) (result : List MsgListRow) : Prop :=
  ∃ positions, LastOfEach
    (fun later row => SameId tools isId later.friendOrionId row.friendOrionId)
    (fun row => ∃ contact ∈ contactsBeans, SameId tools isId contact.orionId row.friendOrionId)
    table result positions

theorem query_last_lists_last_messages (tools : AesTools) (isId : OnionId → Prop)
    (hids : DecryptsIds tools isId) (table : List MsgListRow) (contactsBeans : List ContactsBean)
    (hrows : ∀ row ∈ table, StoresId tools isId row.friendOrionId)
    (hcontacts : ∀ contact ∈ contactsBeans, StoresId tools isId contact.orionId)
    (hdistinct : contactsBeans.Pairwise
      (fun contact other => ¬ SameId tools isId contact.orionId other.orionId)) :
    LastMessages tools isId table contactsBeans (queryLast tools table contactsBeans) := by
  have hnodup : (contactsBeans.map (fun contact => transform tools contact.orionId)).Nodup := by
    refine List.pairwise_map.mpr (hdistinct.imp_of_mem ?_)
    intro contact other hcontact hother hne heq
    exact hne ((transform_eq_iff hids (hcontacts contact hcontact) (hcontacts other hother)).mp heq)
  obtain ⟨positions, hspec⟩ := Library.scanLast_spec
    (fun row : MsgListRow => transform tools row.friendOrionId) hnodup table
  refine ⟨positions, ?_⟩
  rw [queryLast, queryBackwards_eq]
  refine Library.lastOfEach_congr ?_ ?_ hspec
  · intro later hlater row hrow
    exact transform_eq_iff hids (hrows later hlater) (hrows row hrow)
  · intro row hrow
    rw [List.mem_map]
    refine exists_congr (fun contact => and_congr_right (fun hcontact => ?_))
    exact transform_eq_iff hids (hcontacts contact hcontact) (hrows row hrow)

def bobOnly : AesTools where
  getDecryptContent stored := if stored = "E1" then some "bob.onion" else none
  getEncryptContent id := if id = "bob.onion" then some "E1" else none

def isBobOrCarol (id : OnionId) : Prop := id = ⟨"bob.onion", rfl⟩ ∨ id = ⟨"carol.onion", rfl⟩

theorem bobOnly_decrypts : DecryptsIds bobOnly isBobOrCarol := by
  constructor
  · rintro id stored (rfl | rfl) hstored
    · rw [← Option.some.inj hstored]
      rfl
    · cases hstored
  · rintro id (rfl | rfl)
    · rfl
    · rfl

def messageOf (friendOrionId messageID : String) : MsgListRow :=
  { sendTime := "0", chatType := 1, textContent := "hi", sender := none, receiver := "me"
    isAcked := 1, messageID := messageID, friendOrionId := friendOrionId, friendNickName := "-1" }

def contactOf (orionId : String) : ContactsBean :=
  { userId := "1", userName := "1", nickName := "-1", orionId := orionId, orionHashId := ""
    imageId := "1" }

theorem bob_stored : StoresId bobOnly isBobOrCarol "bob.onion" ∧ StoresId bobOnly isBobOrCarol "E1" :=
  ⟨⟨⟨"bob.onion", rfl⟩, .inl rfl, .inl rfl⟩, ⟨⟨"bob.onion", rfl⟩, .inl rfl, .inr rfl⟩⟩

theorem carol_stored : StoresId bobOnly isBobOrCarol "carol.onion" :=
  ⟨⟨"carol.onion", rfl⟩, .inr rfl, .inl rfl⟩

theorem query_last_of_two : LastMessages bobOnly isBobOrCarol
    [messageOf "E1" "1", messageOf "carol.onion" "2", messageOf "bob.onion" "3"]
    [contactOf "carol.onion", contactOf "E1"]
    (queryLast bobOnly
      [messageOf "E1" "1", messageOf "carol.onion" "2", messageOf "bob.onion" "3"]
      [contactOf "carol.onion", contactOf "E1"]) := by
  refine query_last_lists_last_messages bobOnly isBobOrCarol bobOnly_decrypts _ _ ?_ ?_ ?_
  · intro row hrow
    simp only [List.mem_cons, List.not_mem_nil, or_false] at hrow
    rcases hrow with rfl | rfl | rfl
    · exact bob_stored.2
    · exact carol_stored
    · exact bob_stored.1
  · intro contact hcontact
    simp only [List.mem_cons, List.not_mem_nil, or_false] at hcontact
    rcases hcontact with rfl | rfl
    · exact carol_stored
    · exact bob_stored.2
  · rw [List.pairwise_pair]
    intro hsame
    have hequal := (transform_eq_iff bobOnly_decrypts carol_stored bob_stored.2).mpr hsame
    revert hequal
    decide

example : (queryLast bobOnly
    [messageOf "E1" "1", messageOf "carol.onion" "2", messageOf "bob.onion" "3"]
    [contactOf "carol.onion", contactOf "E1"]).map MsgListRow.messageID = ["3", "2"] := by decide

end MsgListSQLiteHelper

end TorChat
