import TorChat.Contacts.MailList
import TorChat.Offline.MsgTable

namespace TorChat

open Library (BlockCipher)

namespace Offline

-- a row of chat_message_table; every column may be null
structure MsgListEntry where
  sendTime : Option String := none
  chatType : Option Nat := none
  textContent : Option String := none
  filePath : Option String := none
  fileName : Option String := none
  fileSize : Option Int := none
  fileProgress : Option Int := none
  sender : Option String := none
  receiver : Option String := none
  isAcked : Option Nat := none
  messageID : Option String := none
  friendOrionid : Option String := none
  friendNickname : Option String := none
  deriving DecidableEq, Repr

namespace MsgListSQLiteHelper

-- getInt reads a null as 0
def person (cursor : MsgListEntry) : MsgListBean :=
  { sendTime := cursor.sendTime, msgType := cursor.chatType.getD 0
    textContent := cursor.textContent, filePath := cursor.filePath, fileName := cursor.fileName
    fileSize := cursor.fileSize.getD 0, fileProgress := cursor.fileProgress.getD 0
    sender := cursor.sender, receiver := cursor.receiver, isAcked := cursor.isAcked.getD 0
    messageID := cursor.messageID, friendOrionid := cursor.friendOrionid
    friendNickname := cursor.friendNickname }

def queryAll (table : List MsgListEntry) : List MsgListBean := table.map person

-- the loop that compares the ids is commented out
def queryFriendChatRecord (table : List MsgListEntry) (_fromUserId _orionId : String) :
    List MsgListBean :=
  let allChatRecordList := queryAll table
  allChatRecordList

end MsgListSQLiteHelper

open Offline.MsgListSQLiteHelper (queryAll queryFriendChatRecord)

def initContent (table : List MsgListEntry) (userId : String) (mContactsBean : ContactsBean) :
    List MsgListBean :=
  queryFriendChatRecord table userId mContactsBean.orionId

section History

variable (A : BlockCipher 16) (commonKey : AesKey) (orionId : String)

-- the id of the friend is stored as it is or encrypted
def OfFriend (bean : MsgListBean) : Prop :=
  bean.friendOrionid = some orionId ∨
    bean.friendOrionid.bind (AesTools.getDecryptContent A commonKey) = some orionId

instance : DecidablePred (OfFriend A commonKey orionId) := fun _ => inferInstanceAs (Decidable (_ ∨ _))

structure FriendHistory (table : List MsgListEntry) : Prop where
  records : ∀ fromUserId, queryFriendChatRecord table fromUserId orionId =
    (queryAll table).filter (OfFriend A commonKey orionId)
  screen : ∀ userId mContactsBean, mContactsBean.orionId = orionId →
    ∀ bean ∈ initContent table userId mContactsBean, OfFriend A commonKey orionId bean

end History

theorem friend_history_iff (A : BlockCipher 16) (commonKey : AesKey) (orionId : String)
    (table : List MsgListEntry) :
    FriendHistory A commonKey orionId table ↔
      ∀ bean ∈ queryAll table, OfFriend A commonKey orionId bean := by
  constructor
  · intro h
    have hall : (queryAll table).filter (OfFriend A commonKey orionId) = queryAll table :=
      (h.records "").symm
    intro bean hbean
    exact of_decide_eq_true (List.filter_eq_self.mp hall bean hbean)
  · intro h
    refine ⟨fun fromUserId => ?_, fun userId mContactsBean _ bean hbean => h bean hbean⟩
    exact (List.filter_eq_self.mpr (fun bean hbean => decide_eq_true (h bean hbean))).symm

def bobAndCarol : List MsgListEntry :=
  [{ textContent := some "hi Bob", friendOrionid := some "bob.onion" },
    { textContent := some "hi Carol", friendOrionid := some "carol.onion" }]

theorem other_friend_shown : ¬ ∀ (A : BlockCipher 16) (commonKey : AesKey) (orionId : String)
    (table : List MsgListEntry), FriendHistory A commonKey orionId table := by
  intro hall
  have hbob := (friend_history_iff DemoCrypto.aes sampleKey "bob.onion" bobAndCarol).mp
    (hall DemoCrypto.aes sampleKey "bob.onion" bobAndCarol)
  revert hbob
  decide +kernel

end Offline

end TorChat
