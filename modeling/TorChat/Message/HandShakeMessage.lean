import TorChat.Message.RoundTrip

namespace TorChat

open Library (Bytes slice? beBytes)

structure HandShakeMessage where
  remoteOnion : String
  localPrivateKey : PrivateKey
  remotePublickey : PublicKey
  deriving DecidableEq, Repr

namespace HandShakeMessage

variable (P : Platform) (amb : Ambient)

def build (handShake : HandShakeMessage) (payload : Bytes) : Cell :=
  Message.build payload handShake.localPrivateKey handShake.remotePublickey

def requestPayload (localOnion : String) (startFileNameAndIndex : Bytes) : Option Bytes := do
  let header := Message.hashed P amb Constant.sessionRequest amb.messageID []
  let padding := AESCrypto.paddingToLength amb header Constant.externalHandshakeLength
  let tail ← Message.subBytes padding 38 1719
  return header ++ P.sha256 (getBytes localOnion) ++ startFileNameAndIndex ++ tail

def createSessionRequestMessage (handShake : HandShakeMessage) (localOnion : String)
    (startFileNameAndIndex : Bytes) : Option Cell :=
  (requestPayload P amb localOnion startFileNameAndIndex).map handShake.build

def passwordPayload (password : String) : Bytes :=
  beBytes 1 (getBytes password).length ++ getBytes password

def authPayload (password : String) (startFileNameAndIndex : Bytes) : Bytes :=
  Message.externalPayload P amb Constant.sessionAuth amb.messageID (passwordPayload password)
    startFileNameAndIndex Constant.externalHandshakeLength

def createSessionAuthMessage (handShake : HandShakeMessage) (password : String)
    (startFileNameAndIndex : Bytes) : Cell :=
  handShake.build (authPayload P amb password startFileNameAndIndex)

def parsePassword (internalPayload : Bytes) : Option (Nat × String) := do
  let passwordLength ← (Message.subBytes internalPayload 0 1).bind parseInt16
  let password ← Message.subBytes internalPayload 1 passwordLength
  return (passwordLength, newString password)

def parseSessionAuthPaylod (internalPayload : Bytes) : Option Bool :=
  (parsePassword internalPayload).map (fun p => decide (p.2 = Constant.password))

def exchangePayload (myPassword : String) (sharedKey : Bytes) : Bytes :=
  Message.externalPayload P amb Constant.sessionExchange amb.messageID
    (passwordPayload myPassword ++ sharedKey) [] Constant.externalHandshakeLength

def createSessionExchangeMessage (handShake : HandShakeMessage) (myPassword : String)
    (sharedKey : Bytes) : Cell :=
  handShake.build (exchangePayload P amb myPassword sharedKey)

def parseSessionExchangePaylod (internalPayload : Bytes) : Option Bytes := do
  let (passwordLength, _) ← parsePassword internalPayload
  Message.subBytes internalPayload (passwordLength + 1) Constant.sharedkeyLength

def donePayload : Bytes :=
  Message.externalPayload P amb Constant.sessionDone amb.messageID [] []
    Constant.externalHandshakeLength

def createSessionDoneMessage (handShake : HandShakeMessage) : Cell :=
  handShake.build (donePayload P amb)

theorem payload_of_build {handShake : HandShakeMessage} {payload externalPayload : Bytes}
    {localPrivateKey : PrivateKey} {remotePublicKey : PublicKey} (hlength : payload.length = 1790)
    (h : Message.parseRemote (handShake.build payload) localPrivateKey remotePublicKey =
      some externalPayload) : externalPayload = payload := by
  rw [build, Message.build, Message.parseRemote] at h
  split at h
  · have hall : Message.subBytes payload 0 1790 = some payload := Library.slice?_self hlength
    exact (Option.some.inj (hall.symm.trans h)).symm
  · cases h

theorem parsePassword_passwordPayload {password : String} (rest : Bytes)
    (h : (getBytes password).length < 256) :
    parsePassword (passwordPayload password ++ rest) =
      some ((getBytes password).length, password) := by
  have h1 : Message.subBytes (passwordPayload password ++ rest) 0 1 =
      some (beBytes 1 (getBytes password).length) := by
    rw [passwordPayload, List.append_assoc]
    exact Library.slice?_prefix (by simp)
  have h2 : Message.subBytes (passwordPayload password ++ rest) 1 (getBytes password).length =
      some (getBytes password) := by
    rw [passwordPayload, List.append_assoc]
    exact Library.slice?_middle (by simp) rfl
  have hlength : parseInt16 (beBytes 1 (getBytes password).length) =
      some (getBytes password).length := parseInt16_beBytes (by decide) (by omega) (by omega)
  rw [parsePassword, h1, Option.bind_some, hlength]
  simp only [Option.bind_eq_bind, Option.bind_some, h2, newString_getBytes]
  rfl

theorem parseSessionExchangePaylod_passwordPayload {password : String} {sharedKey : Bytes}
    (h : (getBytes password).length < 256) (hkey : sharedKey.length = 32) :
    parseSessionExchangePaylod (passwordPayload password ++ sharedKey) = some sharedKey := by
  rw [parseSessionExchangePaylod, parsePassword_passwordPayload sharedKey h]
  simp only [Option.bind_eq_bind, Option.bind_some]
  refine Library.slice?_suffix ?_ hkey
  simp only [passwordPayload, List.length_append, Library.beBytes_length]
  omega

theorem parseSessionAuthPaylod_passwordPayload {password : String}
    (h : (getBytes password).length < 256) :
    parseSessionAuthPaylod (passwordPayload password) =
      some (decide (password = Constant.password)) := by
  have hparse := parsePassword_passwordPayload [] h
  rw [List.append_nil] at hparse
  rw [parseSessionAuthPaylod, hparse]
  rfl

end HandShakeMessage

end TorChat
