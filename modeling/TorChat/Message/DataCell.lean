import TorChat.Message.Wire
import TorChat.Message.FileMessage
import TorChat.Util.DemoPlatform

namespace TorChat

open Library (Bytes BlockCipher)

inductive DataCell where
  | external (messageType : Nat) (internalPayload : Bytes)
  | ready (fileNameHash : Bytes)
  | data (fileNameHash : Bytes) (pieceID : Nat) (fileContent : Bytes)
  | done (fileNameHash : Bytes)
  | ack (ackMessageType pieceID : Nat) (ackok : String) (messageHash : Bytes)
  deriving DecidableEq, Repr

namespace DataCell

variable (P : Platform) (C : Crypto) (amb : Ambient) (keys : KeyState)

def messageType : DataCell → Nat
  | .external messageType _ => messageType
  | .ready _ => Constant.dataFileReady
  | .data _ _ _ => Constant.dataFileData
  | .done _ => Constant.dataFileDone
  | .ack _ _ _ _ => Constant.dataAck

def internalPayload : DataCell → Bytes
  | .external _ internalPayload => internalPayload
  | .ready fileNameHash => fileNameHash
  | .data fileNameHash pieceID fileContent =>
      FileMessage.dataPayload fileNameHash pieceID fileContent
  | .done fileNameHash => fileNameHash
  | .ack ackMessageType pieceID ackok messageHash =>
      DataMessage.ackPayload keys ackMessageType pieceID ackok messageHash

-- the two pointers of an ACK stand inside its internal payload
def pointers : DataCell → Bytes
  | .ack _ _ _ _ => []
  | _ => keys.cellXor ++ keys.cellXor

def plaintext (cell : DataCell) (messageID : Nat) : Bytes :=
  Message.externalPayload P amb cell.messageType messageID (cell.internalPayload keys)
    (cell.pointers keys) Constant.externalDataLegth

def build (cell : DataCell) (sharedKey : Option Bytes) (messageID : Nat) : Option Cell :=
  match cell with
  | .external messageType internalPayload => Message.packDataPayload
      (Message.createDataMessageExternalPaylod P amb keys messageType internalPayload messageID)
      sharedKey
  | .ready fileNameHash =>
      FileMessage.buildFileReadyMessage P amb keys sharedKey fileNameHash messageID
  | .data fileNameHash pieceID fileContent =>
      FileMessage.buildFileDataMessage P amb keys sharedKey fileNameHash pieceID fileContent
        messageID
  | .done fileNameHash =>
      FileMessage.buildFileDoneMessage P amb keys sharedKey fileNameHash messageID
  | .ack ackMessageType pieceID ackok messageHash =>
      DataMessage.buildACKDataMessage P amb keys sharedKey ackMessageType pieceID ackok messageHash
        messageID

def Fits : DataCell → Prop
  | .external messageType internalPayload => messageType < 256 ∧ internalPayload.length ≤ 2002
  | .ready fileNameHash => fileNameHash.length = 20
  | .data fileNameHash pieceID fileContent => fileNameHash.length = 20 ∧ pieceID < 2 ^ 31 ∧
      (FileMessage.dataPayload fileNameHash pieceID fileContent).length ≤ 2002
  | .done fileNameHash => fileNameHash.length = 20
  | .ack ackMessageType pieceID ackok messageHash => ackMessageType < 256 ∧ pieceID < 2 ^ 31 ∧
      (getBytes ackok).length = 2 ∧ messageHash.length = 20

def FieldsRead (payload : Bytes) : DataCell → Prop
  | .external _ _ => True
  | .ready fileNameHash => FileMessage.parseFileReadyMessage payload = some fileNameHash
  | .data fileNameHash pieceID fileContent =>
      FileMessage.parseFileDataMessage payload = some (fileNameHash, pieceID, fileContent)
  | .done fileNameHash => FileMessage.parseFileReadyMessage payload = some fileNameHash
  | .ack ackMessageType pieceID ackok messageHash =>
      DataMessage.parseACKDataMessage payload = some {
        messageType := ackMessageType, recievePieceNumber := pieceID
        ackok := ackok, messageHash := messageHash }

def PointersRead (plaintext : Bytes) (keyIndex : Nat) : DataCell → Prop
  | .ack _ _ _ _ => True
  | _ => KeyState.PointsTo plaintext 1 keyIndex 1 keyIndex

structure RoundTrips (cell : DataCell) (messageID : Nat) (sharedKey bytes : Bytes) : Prop where
  plaintext_length : (cell.plaintext P amb keys messageID).length = 2047
  cell_length : bytes.length = 2048
  decrypts : Wire.parseDataPayload C bytes (some sharedKey) =
    some (cell.plaintext P amb keys messageID)
  messageType_read : Message.parseMessageType (cell.plaintext P amb keys messageID) =
    some cell.messageType
  messageID_read : Message.parseMessageID (cell.plaintext P amb keys messageID) = some messageID
  payload_read : Message.parseExternalPaylod P (cell.plaintext P amb keys messageID) =
    some (cell.internalPayload keys)
  pointers_read : cell.PointersRead (cell.plaintext P amb keys messageID) keys.keyIndex
  fields_read : cell.FieldsRead (cell.internalPayload keys)

theorem build_eq (cell : DataCell) (sharedKey : Option Bytes) (messageID : Nat) :
    cell.build P amb keys sharedKey messageID =
      Message.packDataPayload (cell.plaintext P amb keys messageID) sharedKey := by
  cases cell <;> rfl

theorem ackPayload_length {ackMessageType pieceID : Nat} {ackok : String} {messageHash : Bytes}
    (hack : (getBytes ackok).length = 2) (hhash : messageHash.length = 20) :
    (DataMessage.ackPayload keys ackMessageType pieceID ackok messageHash).length = 39 := by
  simp only [DataMessage.ackPayload, List.length_append, Library.beBytes_length, hack, hhash,
    keys.cellXor_length]

theorem Fits.messageType_lt {cell : DataCell} (h : cell.Fits) : cell.messageType < 256 := by
  cases cell with
  | external messageType internalPayload => exact h.1
  | ready fileNameHash => exact (by decide : Constant.dataFileReady < 256)
  | data fileNameHash pieceID fileContent => exact (by decide : Constant.dataFileData < 256)
  | done fileNameHash => exact (by decide : Constant.dataFileDone < 256)
  | ack ackMessageType pieceID ackok messageHash => exact (by decide : Constant.dataAck < 256)

theorem Fits.length_le {cell : DataCell} (h : cell.Fits) :
    (cell.internalPayload keys).length + (cell.pointers keys).length ≤ 2014 := by
  have hxor := keys.cellXor_length
  cases cell with
  | external messageType payload =>
    obtain ⟨-, hlength⟩ := h
    simp only [internalPayload, pointers, List.length_append, hxor]
    omega
  | ready fileNameHash =>
    rw [Fits] at h
    simp only [internalPayload, pointers, List.length_append, hxor, h]
    omega
  | data fileNameHash pieceID fileContent =>
    obtain ⟨-, -, hlength⟩ := h
    simp only [internalPayload, pointers, List.length_append, hxor]
    omega
  | done fileNameHash =>
    rw [Fits] at h
    simp only [internalPayload, pointers, List.length_append, hxor, h]
    omega
  | ack ackMessageType pieceID ackok messageHash =>
    obtain ⟨-, -, hack, hhash⟩ := h
    rw [internalPayload, pointers, ackPayload_length keys hack hhash]
    decide

theorem Fits.fieldsRead {cell : DataCell} (h : cell.Fits) :
    cell.FieldsRead (cell.internalPayload keys) := by
  cases cell with
  | external messageType internalPayload => trivial
  | ready fileNameHash => exact FileMessage.parseFileReadyMessage_self h
  | data fileNameHash pieceID fileContent =>
    exact FileMessage.parseFileDataMessage_dataPayload h.1 h.2.1
  | done fileNameHash => exact FileMessage.parseFileReadyMessage_self h
  | ack ackMessageType pieceID ackok messageHash =>
    exact DataMessage.parseACKDataMessage_ackPayload keys h.1 h.2.1 h.2.2.1 h.2.2.2

theorem Fits.pointersRead {cell : DataCell} (h : cell.Fits) (messageID : Nat) :
    cell.PointersRead (cell.plaintext P amb keys messageID) keys.keyIndex := by
  have hpayload : (cell.internalPayload keys).length < 65536 := by
    have := h.length_le keys
    omega
  have hpoints : KeyState.PointsTo (Message.externalPayload P amb cell.messageType messageID
      (cell.internalPayload keys) (keys.cellXor ++ keys.cellXor) Constant.externalDataLegth)
      1 keys.keyIndex 1 keys.keyIndex :=
    KeyState.pointsTo_externalPayload P amb hpayload keys.parseXor_cellXor keys.cellXor_length
      keys.parseXor_cellXor keys.cellXor_length
  cases cell with
  | external messageType internalPayload => exact hpoints
  | ready fileNameHash => exact hpoints
  | data fileNameHash pieceID fileContent => exact hpoints
  | done fileNameHash => exact hpoints
  | ack ackMessageType pieceID ackok messageHash => trivial

theorem Fits.roundTrips {cell : DataCell} (h : cell.Fits) {messageID : Nat}
    (hid : messageID < 2 ^ 31) {sharedKey bytes : Bytes} (hlength : bytes.length =
      ((cell.plaintext P amb keys messageID).length / 16 + 1) * 16)
    (hparse : Wire.parseDataPayload C bytes (some sharedKey) =
      some (cell.plaintext P amb keys messageID)) :
    cell.RoundTrips P C amb keys messageID sharedKey bytes := by
  have hle := h.length_le keys
  have hplain : (cell.plaintext P amb keys messageID).length = 2047 :=
    Message.externalPayload_length P amb (by
      rw [Constant.externalDataLegth]
      omega)
  refine ⟨hplain, ?_, hparse, ?_, ?_, ?_, h.pointersRead P amb keys messageID,
    h.fieldsRead keys⟩
  · rw [hlength, hplain]
  · exact Message.parseMessageType_externalPayload P amb h.messageType_lt
  · exact Message.parseMessageID_externalPayload P amb hid
  · exact Message.parseExternalPaylod_externalPayload P amb (by omega)

theorem data_cell_round_trip (sealing : Ambient) {cell : DataCell} {messageID : Nat}
    {sharedKey : Bytes} (hfits : cell.Fits) (hid : messageID < 2 ^ 31)
    (hkey : sharedKey.length = 32) :
    ∃ bytes, (cell.build P amb keys (some sharedKey) messageID).bind (Cell.wire C sealing) =
        some bytes ∧ cell.RoundTrips P C amb keys messageID sharedKey bytes := by
  have hlengths : sharedKey.length ∈ AESCrypto.keyLengths := by
    rw [hkey]
    decide
  obtain ⟨bytes, hbytes, hlength, hparse⟩ :=
    Wire.packDataPayload_spec C (cell.plaintext P amb keys messageID) hlengths
  refine ⟨bytes, ?_, hfits.roundTrips P C amb keys hid hlength hparse⟩
  rw [build_eq, Wire.wire_packDataPayload, hbytes]

theorem data_cell_round_trip_piece :
    ∃ bytes, ((DataCell.data (List.replicate 20 7) 2147483647 [1, 2, 3]).build demoPlatform {}
        { keyFile := [255] } (some (List.replicate 32 9)) 1234).bind (Cell.wire demoCrypto {}) =
        some bytes ∧
      (DataCell.data (List.replicate 20 7) 2147483647 [1, 2, 3]).RoundTrips demoPlatform
        demoCrypto {} { keyFile := [255] } 1234 (List.replicate 32 9) bytes :=
  data_cell_round_trip demoPlatform demoCrypto {} { keyFile := [255] } {}
    ⟨rfl, by decide, by decide⟩ (by decide) rfl

theorem ack_word_misread : "éé".length = 2 ∧ ∀ sharedKey bytes,
    ¬ (DataCell.ack 2 0 "éé" (List.replicate 20 7)).RoundTrips demoPlatform demoCrypto {}
      { keyFile := [255] } 1234 sharedKey bytes := by
  refine ⟨by decide, ?_⟩
  intro sharedKey bytes h
  have hword : DataMessage.parseACKDataMessage
      ((DataCell.ack 2 0 "éé" (List.replicate 20 7)).internalPayload { keyFile := [255] }) ≠
        some { messageType := 2, recievePieceNumber := 0, ackok := "éé"
               messageHash := List.replicate 20 7 } := by decide +kernel
  exact hword h.fields_read

end DataCell

end TorChat
