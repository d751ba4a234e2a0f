import TorChat.Message.RoundTrip

namespace TorChat

open Library (Bytes slice? beBytes)

structure ACKMessage where
  messageType : Nat
  recievePieceNumber : Nat
  ackok : String
  messageHash : Bytes
  deriving DecidableEq, Repr

namespace KeyState

def getRecordXOR (keys : KeyState) (externalPayload : Bytes) (messageID : Nat) :
    Option KeyState := do
  let startXORFileName ← Message.parseStartXORFileName externalPayload
  let startXORIndex ← Message.parseStartXORIndex externalPayload
  let endXORFileName ← Message.parseEndXORFileName externalPayload
  let endXORIndex ← Message.parseEndXORIndex externalPayload
  return keys.receiveRecord {
    startFileName := startXORFileName, startFileIndex := startXORIndex
    endFileName := endXORFileName, endFileIndex := endXORIndex } messageID

theorem getRecordXOR_keyFile {keys keys' : KeyState} {externalPayload : Bytes} {messageID : Nat}
    (h : keys.getRecordXOR externalPayload messageID = some keys') :
    keys'.keyFile = keys.keyFile := by
  simp only [getRecordXOR, Option.bind_eq_bind, Option.bind_eq_some_iff, Option.pure_def,
    Option.some.injEq] at h
  obtain ⟨_, _, _, _, _, _, _, _, rfl⟩ := h
  rfl

theorem parseXor_eq_some {xor : Bytes} {fileName fileIndex : Nat}
    (h : parseXor xor = some (fileName, fileIndex)) :
    (slice? xor 0 2).bind parseInt16 = some fileName ∧
      (slice? xor 2 4).bind parseInt16 = some fileIndex := by
  simp only [parseXor, Option.bind_eq_bind, Option.bind_eq_some_iff, Option.pure_def,
    Option.some.injEq, Prod.mk.injEq] at h
  obtain ⟨n, hn, i, hi, rfl, rfl⟩ := h
  simp only [Option.bind_eq_some_iff]
  exact ⟨hn, hi⟩

section Pointers

variable (P : Platform) (amb : Ambient) {messageType id : Nat}
  {internalPayload start stop : Bytes} {length : Nat} {fileName fileIndex endName endIndex : Nat}

structure PointsTo (externalPayload : Bytes) (fileName fileIndex endName endIndex : Nat) :
    Prop where
  startXORFileName : Message.parseStartXORFileName externalPayload = some fileName
  startXORIndex : Message.parseStartXORIndex externalPayload = some fileIndex
  endXORFileName : Message.parseEndXORFileName externalPayload = some endName
  endXORIndex : Message.parseEndXORIndex externalPayload = some endIndex

theorem pointsTo_externalPayload (hinternal : internalPayload.length < 65536)
    (hstart : parseXor start = some (fileName, fileIndex)) (hstartLength : start.length = 6)
    (hstop : parseXor stop = some (endName, endIndex)) (hstopLength : stop.length = 6) :
    PointsTo (Message.externalPayload P amb messageType id internalPayload (start ++ stop) length)
      fileName fileIndex endName endIndex := by
  obtain ⟨hname, hindex⟩ := parseXor_eq_some hstart
  obtain ⟨hendName, hendIndex⟩ := parseXor_eq_some hstop
  have hpointer : ∀ offset count, offset + count ≤ 12 →
      Message.pointerAt (Message.externalPayload P amb messageType id internalPayload
        (start ++ stop) length) offset count = (slice? (start ++ stop) offset count).bind
          parseInt16 := by
    intro offset count hle
    refine Message.pointerAt_externalPayload P amb hinternal ?_
    rw [List.length_append]
    omega
  have hleft : ∀ offset count, offset + count ≤ 6 →
      slice? (start ++ stop) offset count = slice? start offset count :=
    fun offset count hle => Library.slice?_append_left (by omega)
  have hright : ∀ offset count, slice? (start ++ stop) (6 + offset) count =
      slice? stop offset count := by
    intro offset count
    rw [Library.slice?_append_right (by omega), hstartLength, Nat.add_sub_cancel_left]
  constructor
  · rw [Message.parseStartXORFileName, hpointer 0 2 (by omega), hleft 0 2 (by omega), hname]
  · rw [Message.parseStartXORIndex, hpointer 2 4 (by omega), hleft 2 4 (by omega), hindex]
  · rw [Message.parseEndXORFileName, hpointer 6 2 (by omega), hright 0 2, hendName]
  · rw [Message.parseEndXORIndex, hpointer 8 4 (by omega), hright 2 4, hendIndex]

theorem getRecordXOR_externalPayload (keys : KeyState) {messageID : Nat}
    (hinternal : internalPayload.length < 65536)
    (hstart : parseXor start = some (fileName, fileIndex)) (hstartLength : start.length = 6)
    (hstop : parseXor stop = some (endName, endIndex)) (hstopLength : stop.length = 6) :
    keys.getRecordXOR (Message.externalPayload P amb messageType id internalPayload
        (start ++ stop) length) messageID =
      some (keys.receiveRecord {
        startFileName := fileName, startFileIndex := fileIndex
        endFileName := endName, endFileIndex := endIndex } messageID) := by
  obtain ⟨h1, h2, h3, h4⟩ : PointsTo (Message.externalPayload P amb messageType id
      internalPayload (start ++ stop) length) fileName fileIndex endName endIndex :=
    pointsTo_externalPayload P amb hinternal hstart hstartLength hstop hstopLength
  rw [getRecordXOR, h1, h2, h3, h4]
  rfl

end Pointers

end KeyState

namespace KeyState

def textPayload (P : Platform) (amb : Ambient) (keys : KeyState) (messageContent : String)
    (messageID : Nat) : Bytes :=
  Message.createDataMessageExternalPaylod P amb keys Constant.dataMessage
    (JniEntryUtils.entry P keys.keyFile (getBytes messageContent)) messageID

def textSent (keys : KeyState) (messageID : Nat) : KeyState := (keys.sendText messageID).writeBack

def readText (P : Platform) (keys : KeyState) (internalPayload : Bytes) : Option String :=
  (JniEntryUtils.decry P keys.keyFile internalPayload).map newString

structure TextFits (P : Platform) (keys : KeyState) (messageContent : String) : Prop where
  array : (getBytes messageContent).length < 2 ^ 31
  cell : (JniEntryUtils.entry P keys.keyFile (getBytes messageContent)).length ≤ 2002

theorem readText_entry {P : Platform} {keys keys' : KeyState} {messageContent : String}
    (hP : JniEntryUtils.decry P keys'.keyFile
      (JniEntryUtils.entry P keys'.keyFile (getBytes messageContent)) =
        some (getBytes messageContent))
    (htail : keys.keyFile.tail = keys'.keyFile.tail) (hindex : keys.keyIndex = keys'.keyIndex) :
    keys'.readText P (JniEntryUtils.entry P keys.keyFile (getBytes messageContent)) =
      some messageContent := by
  rw [readText, JniEntryUtils.entry_congr P htail hindex, hP, Option.map_some,
    newString_getBytes]

end KeyState

namespace DataMessage

def ackPayload (keys : KeyState) (ackMessageType pieceID : Nat) (ack : String)
    (messageHash : Bytes) : Bytes :=
  beBytes 1 ackMessageType ++ (beBytes 4 pieceID ++ (getBytes ack ++ (messageHash ++
    (keys.cellXor ++ keys.cellXor))))

def buildACKDataMessage (P : Platform) (amb : Ambient) (keys : KeyState)
    (sharedKey : Option Bytes) (ackMessageType pieceID : Nat) (ack : String)
    (messageHash : Bytes) (messageID : Nat) : Option Cell :=
  Message.packDataPayload (Message.externalPayload P amb Constant.dataAck messageID
    (ackPayload keys ackMessageType pieceID ack messageHash) [] Constant.externalDataLegth)
    sharedKey

def parseACKDataMessage (internalPayLoad : Bytes) : Option ACKMessage := do
  let messageType ← (Message.subBytes internalPayLoad 0 1).bind parseInt16
  let recievePieceNumber ← (Message.subBytes internalPayLoad 1 4).bind parseInt16
  let ackok ← Message.subBytes internalPayLoad 5 2
  let messageHash ← Message.subBytes internalPayLoad 7 20
  return { messageType := messageType, recievePieceNumber := recievePieceNumber
           ackok := newString ackok, messageHash := messageHash }

theorem parseACKDataMessage_ackPayload (keys : KeyState) {ackMessageType pieceID : Nat}
    {ack : String} {messageHash : Bytes} (htype : ackMessageType < 256) (hpiece : pieceID < 2 ^ 31)
    (hack : (getBytes ack).length = 2) (hhash : messageHash.length = 20) :
    parseACKDataMessage (ackPayload keys ackMessageType pieceID ack messageHash) =
      some { messageType := ackMessageType, recievePieceNumber := pieceID
             ackok := ack, messageHash := messageHash } := by
  have h1 : Message.subBytes (ackPayload keys ackMessageType pieceID ack messageHash) 0 1 =
      some (beBytes 1 ackMessageType) := Library.slice?_prefix (by simp)
  have h2 : Message.subBytes (ackPayload keys ackMessageType pieceID ack messageHash) 1 4 =
      some (beBytes 4 pieceID) := Library.slice?_middle (by simp) (by simp)
  have h3 : Message.subBytes (ackPayload keys ackMessageType pieceID ack messageHash) 5 2 =
      some (getBytes ack) := by
    rw [ackPayload, ← List.append_assoc]
    exact Library.slice?_middle (by simp) hack
  have h4 : Message.subBytes (ackPayload keys ackMessageType pieceID ack messageHash) 7 20 =
      some messageHash := by
    rw [ackPayload, ← List.append_assoc, ← List.append_assoc]
    exact Library.slice?_middle (by simp [hack]) hhash
  have htypeParse : parseInt16 (beBytes 1 ackMessageType) = some ackMessageType :=
    parseInt16_beBytes (by decide) (by omega) (by omega)
  have hpieceParse : parseInt16 (beBytes 4 pieceID) = some pieceID :=
    parseInt16_beBytes (by decide) (by omega) hpiece
  rw [parseACKDataMessage, h1, h2, h3, h4, Option.bind_some, Option.bind_some, htypeParse,
    hpieceParse]
  simp only [Option.bind_eq_bind, Option.bind_some, newString_getBytes]
  rfl

theorem parseACKDataMessage_of_prefix {a b : Bytes} {message : ACKMessage}
    (h : parseACKDataMessage a = some message) (hab : a <+: b) :
    parseACKDataMessage b = some message := by
  simp only [parseACKDataMessage, Option.bind_eq_bind, Option.bind_eq_some_iff,
    Option.pure_def] at h
  obtain ⟨messageType, ⟨byteType, htype, hparseType⟩, number, ⟨byteNumber, hnumber, hparseNumber⟩,
    ack, hack, hash, hhash, heq⟩ := h
  rw [parseACKDataMessage, Message.subBytes, Library.slice?_of_prefix htype hab, Option.bind_some,
    hparseType, Message.subBytes, Library.slice?_of_prefix hnumber hab, Option.bind_some,
    hparseNumber, Message.subBytes, Library.slice?_of_prefix hack hab, Message.subBytes,
    Library.slice?_of_prefix hhash hab]
  exact heq

theorem messageType_of_ackPayload {keys : KeyState} {ackMessageType pieceID : Nat} {ack : String}
    {messageHash : Bytes} {message : ACKMessage} (htype : ackMessageType < 256)
    (h : parseACKDataMessage (ackPayload keys ackMessageType pieceID ack messageHash) =
      some message) : message.messageType = ackMessageType := by
  have hbyte : Message.subBytes (ackPayload keys ackMessageType pieceID ack messageHash) 0 1 =
      some (beBytes 1 ackMessageType) := Library.slice?_prefix (by simp)
  have hparse : parseInt16 (beBytes 1 ackMessageType) = some ackMessageType :=
    parseInt16_beBytes (by decide) (by omega) (by omega)
  simp only [parseACKDataMessage, Option.bind_eq_bind, Option.bind_eq_some_iff, Option.pure_def,
    Option.some.injEq] at h
  obtain ⟨messageType, ⟨byteType, hread, hvalue⟩, _, -, _, -, _, -, rfl⟩ := h
  rw [hbyte] at hread
  obtain rfl := Option.some.inj hread
  rw [hparse] at hvalue
  exact (Option.some.inj hvalue).symm

theorem fields_of_ackPayload {keys : KeyState} {ackMessageType pieceID : Nat} {ack : String}
    {messageHash : Bytes} {message : ACKMessage} (hack : (getBytes ack).length = 2)
    (hhash : messageHash.length = 20)
    (h : parseACKDataMessage (ackPayload keys ackMessageType pieceID ack messageHash) =
      some message) : message.ackok = ack ∧ message.messageHash = messageHash ∧
        (pieceID < 2 ^ 31 → message.recievePieceNumber = pieceID) := by
  have hnumberBytes : Message.subBytes (ackPayload keys ackMessageType pieceID ack messageHash)
      1 4 = some (beBytes 4 pieceID) := Library.slice?_middle (by simp) (by simp)
  have hackBytes : Message.subBytes (ackPayload keys ackMessageType pieceID ack messageHash) 5 2 =
      some (getBytes ack) := by
    rw [ackPayload, ← List.append_assoc]
    exact Library.slice?_middle (by simp) hack
  have hhashBytes : Message.subBytes (ackPayload keys ackMessageType pieceID ack messageHash)
      7 20 = some messageHash := by
    rw [ackPayload, ← List.append_assoc, ← List.append_assoc]
    exact Library.slice?_middle (by simp [hack]) hhash
  simp only [parseACKDataMessage, Option.bind_eq_bind, Option.bind_eq_some_iff, Option.pure_def,
    Option.some.injEq] at h
  obtain ⟨_, -, number, ⟨byteNumber, hreadNumber, hnumber⟩, readAck, hreadAck, readHash,
    hreadHash, rfl⟩ := h
  rw [hnumberBytes] at hreadNumber
  rw [hackBytes] at hreadAck
  rw [hhashBytes] at hreadHash
  obtain rfl := Option.some.inj hreadNumber
  obtain rfl := Option.some.inj hreadAck
  obtain rfl := Option.some.inj hreadHash
  refine ⟨newString_getBytes ack, rfl, fun hpiece => ?_⟩
  have hparse : parseInt16 (beBytes 4 pieceID) = some pieceID :=
    parseInt16_beBytes (by decide) (by omega) hpiece
  exact Option.some.inj (hnumber.symm.trans hparse)

end DataMessage

end TorChat
