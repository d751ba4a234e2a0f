import TorChat.Offline.FileExchange
import TorChat.Util.RandomUtil

namespace TorChat

open Library (BlockCipher)

namespace Offline

namespace MsgTypeStateNew

def text : Nat := 1

def image : Nat := 2

def file : Nat := 6

end MsgTypeStateNew

-- a row of the message table; a number that is not set reads as 0
structure MsgListBean where
  sendTime : Option String := none
  msgType : Nat
  textContent : Option String := none
  filePath : Option String := none
  fileName : Option String := none
  fileSize : Int := 0
  fileProgress : Int := 0
  speed : Option String := none
  sender : Option String
  receiver : Option String
  isAcked : Nat
  messageID : Option String
  friendOrionid : Option String := none
  friendNickname : Option String := none
  deriving DecidableEq, Repr

namespace MsgListSQLiteHelper

def insertData (table : List MsgListBean) (values : MsgListBean) : List MsgListBean :=
  table ++ [values]

def ofMessage (messageID : String) (update : MsgListBean → MsgListBean) (row : MsgListBean) :
    MsgListBean :=
  if row.messageID = some messageID then update row else row

def updateIsAck2 (table : List MsgListBean) (messageID : String) (ack : Nat) :
    List MsgListBean :=
  table.map (ofMessage messageID (fun row => { row with isAcked := ack }))

def updateFileProgress2 (table : List MsgListBean) (messageID : String) (fileProgress : Int) :
    List MsgListBean :=
  table.map (ofMessage messageID (fun row => { row with fileProgress := fileProgress }))

end MsgListSQLiteHelper

-- the id of a contact is the name of an onion service
structure Contact where
  userId : String
  userName : String
  nickName : String
  orionId : String
  orionId_short : (getBytes (trim orionId)).length < 2 ^ 30

theorem isSome_getEncryptContent (A : BlockCipher 16) (key : AesKey) {content : String}
    (h : (getBytes (trim content)).length < 2 ^ 30) :
    (AesTools.getEncryptContent A key content).isSome := by
  have hlength := encrypted_length A key (trim content)
  rw [AesTools.getEncryptContent, AesUtils.encrypt, encodeBase64String, hlength, if_pos (by omega)]
  rfl

end Offline

end TorChat
