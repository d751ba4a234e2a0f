import TorChat.Message.Wire
import TorChat.Message.HandShakeMessage
import TorChat.Message.DataMessage
import TorChat.Util.DemoPlatform

namespace TorChat

open Library (Bytes)

inductive HandShakeCell where
  | request (localOnion : String)
  | auth (password : String)
  | exchange (myPassword : String) (sharedKey : Bytes)
  | done
  deriving DecidableEq, Repr

namespace HandShakeCell

variable (P : Platform) (C : Crypto) (amb : Ambient) (keys : KeyState)

def messageType : HandShakeCell → Nat
  | .request _ => Constant.sessionRequest
  | .auth _ => Constant.sessionAuth
  | .exchange _ _ => Constant.sessionExchange
  | .done => Constant.sessionDone

def payload : HandShakeCell → Option Bytes
  | .request localOnion => HandShakeMessage.requestPayload P amb localOnion keys.requestXor
  | .auth password => some (HandShakeMessage.authPayload P amb password keys.cellXor)
  | .exchange myPassword sharedKey =>
      some (HandShakeMessage.exchangePayload P amb myPassword sharedKey)
  | .done => some (HandShakeMessage.donePayload P amb)

def build (cell : HandShakeCell) (handShake : HandShakeMessage) : Option Cell :=
  match cell with
  | .request localOnion =>
      handShake.createSessionRequestMessage P amb localOnion keys.requestXor
  | .auth password => some (handShake.createSessionAuthMessage P amb password keys.cellXor)
  | .exchange myPassword sharedKey =>
      some (handShake.createSessionExchangeMessage P amb myPassword sharedKey)
  | .done => some (handShake.createSessionDoneMessage P amb)

def internalPayload : HandShakeCell → Bytes
  | .request _ => []
  | .auth password => HandShakeMessage.passwordPayload password
  | .exchange myPassword sharedKey => HandShakeMessage.passwordPayload myPassword ++ sharedKey
  | .done => []

def Fits : HandShakeCell → Prop
  | .request _ => True
  | .auth password => (getBytes password).length ≤ 255
  | .exchange myPassword sharedKey => (getBytes myPassword).length ≤ 255 ∧ sharedKey.length = 32
  | .done => True

def FieldsRead (externalPayload : Bytes) : HandShakeCell → Prop
  | .request localOnion =>
      Message.subBytes externalPayload 33 32 = some (P.sha256 (getBytes localOnion)) ∧
      Message.parseFirstHandShakeStartXORFileName externalPayload = some 1 ∧
      Message.parseFirstHandShakeStartXORIndex externalPayload = some (keys.keyIndex + 1)
  | .auth password =>
      Message.parseStartXORFileName externalPayload = some 1 ∧
      Message.parseStartXORIndex externalPayload = some keys.keyIndex ∧
      HandShakeMessage.parseSessionAuthPaylod (internalPayload (.auth password)) =
        some (decide (password = Constant.password))
  | .exchange myPassword sharedKey =>
      HandShakeMessage.parseSessionExchangePaylod
        (internalPayload (.exchange myPassword sharedKey)) = some sharedKey
  | .done => internalPayload .done = []

structure RoundTrips (cell : HandShakeCell) (remotePrivateKey : PrivateKey)
    (externalPayload bytes : Bytes) : Prop where
  payload_length : externalPayload.length = 1790
  cell_length : bytes.length = 2048
  decrypts : Wire.parse C bytes remotePrivateKey = some externalPayload
  messageType_read : Message.parseMessageType externalPayload = some cell.messageType
  payload_read : Message.parseExternalPaylod P externalPayload = some cell.internalPayload
  fields_read : cell.FieldsRead P keys externalPayload

theorem build_eq (cell : HandShakeCell) (handShake : HandShakeMessage) :
    cell.build P amb keys handShake = (cell.payload P amb keys).map handShake.build := by
  cases cell <;> rfl

theorem requestXor_length : keys.requestXor.length = 6 := by
  simp [KeyState.requestXor, XORutil.xorFile2Byte]

theorem passwordPayload_length (password : String) :
    (HandShakeMessage.passwordPayload password).length = 1 + (getBytes password).length := by
  rw [HandShakeMessage.passwordPayload, List.length_append, Library.beBytes_length]

theorem requestPayload_eq (localOnion : String) :
    ∃ tail, tail.length = 1719 ∧
      HandShakeMessage.requestPayload P amb localOnion keys.requestXor =
        some (Message.hashed P amb Constant.sessionRequest amb.messageID [] ++
          (P.sha256 (getBytes localOnion) ++ (keys.requestXor ++ tail))) := by
  have hpadding : 38 + 1719 ≤ (AESCrypto.paddingToLength amb
      (Message.hashed P amb Constant.sessionRequest amb.messageID [])
      Constant.externalHandshakeLength).length := by
    rw [AESCrypto.paddingToLength_length, Message.hashed_length]
    decide
  obtain ⟨tail, htail⟩ : ∃ tail, Message.subBytes (AESCrypto.paddingToLength amb
      (Message.hashed P amb Constant.sessionRequest amb.messageID [])
      Constant.externalHandshakeLength) 38 1719 = some tail := by
    rw [Message.subBytes, Library.slice?, if_pos hpadding]
    exact ⟨_, rfl⟩
  refine ⟨tail, Library.slice?_length htail, ?_⟩
  rw [HandShakeMessage.requestPayload, htail]
  simp only [Option.bind_eq_bind, Option.bind_some, Option.pure_def, List.append_assoc]

theorem request_spec (localOnion : String) :
    ∃ externalPayload, (request localOnion).payload P amb keys = some externalPayload ∧
      externalPayload.length = 1790 ∧
      Message.parseMessageType externalPayload = some Constant.sessionRequest ∧
      Message.parseExternalPaylod P externalPayload = some [] ∧
      (request localOnion).FieldsRead P keys externalPayload := by
  obtain ⟨tail, htail, hpayload⟩ := requestPayload_eq P amb keys localOnion
  have hheader : (Message.hashed P amb Constant.sessionRequest amb.messageID []).length = 33 := by
    rw [Message.hashed_length, List.length_nil]
  have hhash := P.sha256_length (getBytes localOnion)
  have hxor := requestXor_length keys
  have hpointer : ∀ offset count, offset + count ≤ 6 → Message.subBytes
      (Message.hashed P amb Constant.sessionRequest amb.messageID [] ++
        (P.sha256 (getBytes localOnion) ++ (keys.requestXor ++ tail))) (65 + offset) count =
      Message.subBytes keys.requestXor offset count := by
    intro offset count hle
    rw [Message.subBytes, Library.slice?_append_right (by omega),
      Library.slice?_append_right (by omega), Library.slice?_append_left (by omega), hheader,
      hhash, show 65 + offset - 33 - 32 = offset by omega, Message.subBytes]
  obtain ⟨hname, hindex⟩ := KeyState.parseXor_eq_some keys.parseXor_requestXor
  refine ⟨_, hpayload, ?_, ?_, ?_, ?_, ?_, ?_⟩
  · simp only [List.length_append, hheader, hhash, hxor, htail]
  · exact Message.parseMessageType_hashed P amb _ (by decide)
  · exact Message.parseExternalPaylod_hashed P amb _ (by decide)
  · exact Library.slice?_middle hheader hhash
  · rw [Message.parseFirstHandShakeStartXORFileName]
    exact (congrArg (Option.bind · parseInt16) (hpointer 0 2 (by omega))).trans hname
  · rw [Message.parseFirstHandShakeStartXORIndex]
    exact (congrArg (Option.bind · parseInt16) (hpointer 2 4 (by omega))).trans hindex

theorem external_length {messageType : Nat} {internalPayload pointers : Bytes}
    (h : internalPayload.length + pointers.length ≤ 1757) :
    (Message.externalPayload P amb messageType amb.messageID internalPayload pointers
      Constant.externalHandshakeLength).length = 1790 := by
  refine Message.externalPayload_length P amb ?_
  rw [Constant.externalHandshakeLength]
  omega

theorem auth_spec {password : String} (h : (getBytes password).length ≤ 255) :
    (HandShakeMessage.authPayload P amb password keys.cellXor).length = 1790 ∧
      Message.parseMessageType (HandShakeMessage.authPayload P amb password keys.cellXor) =
        some Constant.sessionAuth ∧
      Message.parseExternalPaylod P (HandShakeMessage.authPayload P amb password keys.cellXor) =
        some (HandShakeMessage.passwordPayload password) ∧
      (auth password).FieldsRead P keys
        (HandShakeMessage.authPayload P amb password keys.cellXor) := by
  have hpassword := passwordPayload_length password
  have hxor := keys.cellXor_length
  obtain ⟨hname, hindex⟩ := KeyState.parseXor_eq_some keys.parseXor_cellXor
  have hpointer : ∀ offset count, offset + count ≤ 6 →
      Message.pointerAt (HandShakeMessage.authPayload P amb password keys.cellXor) offset count =
        (Message.subBytes keys.cellXor offset count).bind parseInt16 := by
    intro offset count hle
    exact Message.pointerAt_externalPayload P amb (by omega) (by omega)
  refine ⟨external_length P amb (by omega), ?_, ?_, ?_, ?_, ?_⟩
  · exact Message.parseMessageType_externalPayload P amb (by decide)
  · exact Message.parseExternalPaylod_externalPayload P amb (by omega)
  · exact (hpointer 0 2 (by omega)).trans hname
  · exact (hpointer 2 4 (by omega)).trans hindex
  · exact HandShakeMessage.parseSessionAuthPaylod_passwordPayload (by omega)

theorem exchange_spec {myPassword : String} {sharedKey : Bytes}
    (h : (getBytes myPassword).length ≤ 255) (hkey : sharedKey.length = 32) :
    (HandShakeMessage.exchangePayload P amb myPassword sharedKey).length = 1790 ∧
      Message.parseMessageType (HandShakeMessage.exchangePayload P amb myPassword sharedKey) =
        some Constant.sessionExchange ∧
      Message.parseExternalPaylod P
        (HandShakeMessage.exchangePayload P amb myPassword sharedKey) =
        some (HandShakeMessage.passwordPayload myPassword ++ sharedKey) := by
  have hpassword := passwordPayload_length myPassword
  have hlength : (HandShakeMessage.passwordPayload myPassword ++ sharedKey).length ≤ 288 := by
    rw [List.length_append]
    omega
  refine ⟨external_length P amb (by rw [List.length_nil]; omega), ?_, ?_⟩
  · exact Message.parseMessageType_externalPayload P amb (by decide)
  · exact Message.parseExternalPaylod_externalPayload P amb (by omega)

theorem done_spec :
    (HandShakeMessage.donePayload P amb).length = 1790 ∧
      Message.parseMessageType (HandShakeMessage.donePayload P amb) =
        some Constant.sessionDone ∧
      Message.parseExternalPaylod P (HandShakeMessage.donePayload P amb) = some [] := by
  refine ⟨external_length P amb (by decide), ?_, ?_⟩
  · exact Message.parseMessageType_externalPayload P amb (by decide)
  · exact Message.parseExternalPaylod_externalPayload P amb (by decide)

theorem payload_spec {cell : HandShakeCell} (h : cell.Fits) :
    ∃ externalPayload, cell.payload P amb keys = some externalPayload ∧
      externalPayload.length = 1790 ∧
      Message.parseMessageType externalPayload = some cell.messageType ∧
      Message.parseExternalPaylod P externalPayload = some cell.internalPayload ∧
      cell.FieldsRead P keys externalPayload := by
  cases cell with
  | request localOnion => exact request_spec P amb keys localOnion
  | auth password => exact ⟨_, rfl, auth_spec P amb keys h⟩
  | exchange myPassword sharedKey =>
    obtain ⟨hpassword, hkey⟩ := h
    obtain ⟨hlength, htype, hread⟩ := exchange_spec P amb hpassword hkey
    exact ⟨_, rfl, hlength, htype, hread,
      HandShakeMessage.parseSessionExchangePaylod_passwordPayload (by omega) hkey⟩
  | done =>
    obtain ⟨hlength, htype, hread⟩ := done_spec P amb
    exact ⟨_, rfl, hlength, htype, hread, rfl⟩

theorem handshake_cell_round_trip (sealing : Ambient) {cell : HandShakeCell}
    (handShake : HandShakeMessage) (remotePrivateKey : PrivateKey) (hfits : cell.Fits)
    (hremote : handShake.remotePublickey = remotePrivateKey.publicKey) :
    ∃ externalPayload bytes, cell.payload P amb keys = some externalPayload ∧
      (cell.build P amb keys handShake).bind (Cell.wire C sealing) = some bytes ∧
      cell.RoundTrips P C keys remotePrivateKey externalPayload bytes := by
  obtain ⟨externalPayload, hpayload, hlength, htype, hread, hfields⟩ :=
    payload_spec P amb keys hfits
  obtain ⟨bytes, hbytes, hcell, hparse⟩ :=
    Wire.build_spec C sealing hlength handShake.localPrivateKey remotePrivateKey
  refine ⟨externalPayload, bytes, hpayload, ?_, hlength, hcell, hparse, htype, hread, hfields⟩
  rw [build_eq, hpayload, Option.map_some, Option.bind_some, HandShakeMessage.build, hremote,
    Wire.wire_build, hbytes]

theorem handshake_cell_round_trip_auth :
    ∃ externalPayload bytes,
      (auth "c").payload demoPlatform {} { keyFile := [255] } = some externalPayload ∧
      ((auth "c").build demoPlatform {} { keyFile := [255] } {
        remoteOnion := "bob", localPrivateKey := ⟨1⟩, remotePublickey := ⟨2⟩ }).bind
          (Cell.wire demoCrypto {}) = some bytes ∧
      (auth "c").RoundTrips demoPlatform demoCrypto { keyFile := [255] } ⟨2⟩ externalPayload
        bytes :=
  handshake_cell_round_trip demoPlatform demoCrypto {} { keyFile := [255] } {}
    { remoteOnion := "bob", localPrivateKey := ⟨1⟩, remotePublickey := ⟨2⟩ } ⟨2⟩
    (by rw [Fits]; decide +kernel) rfl

end HandShakeCell

end TorChat
