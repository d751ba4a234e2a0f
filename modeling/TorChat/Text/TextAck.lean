import TorChat.Server.Emissions

namespace TorChat

open Library (Bytes)

namespace Device

section Shown

variable (P : Platform) (env : Env)

theorem sendMessage_notices (d : Device) (sent : Bool) (onionName : String) (socket : Nat)
    (cell : Cell) : (d.sendMessage sent onionName socket cell id).notices = d.notices := by
  cases sent <;> rfl

def shownText (P : Platform) (keyFile internalPayload : Bytes) (peerHostname : String)
    (messageID : Nat) : List Notice :=
  match JniEntryUtils.decry P keyFile internalPayload with
  | none => []
  | some plain => [.hasReceivedMessage (newString plain) peerHostname messageID]

theorem receiveTextMessage_notices {d : Device} {item : MessageItem Bytes} {messageID : Nat}
    {keys : KeyState} (internalPayload : Bytes) (statusItem : ConnectionStatusItem)
    (hrecord : d.keys.getRecordXOR item.data messageID = some keys) :
    (d.receiveTextMessage P env internalPayload statusItem item messageID).notices =
      d.notices ++
        shownText P d.keys.keyFile internalPayload statusItem.onionName messageID := by
  have hfile := KeyState.getRecordXOR_keyFile hrecord
  rw [receiveTextMessage, hrecord]
  dsimp only [setKeys]
  rw [hfile, shownText]
  cases JniEntryUtils.decry P d.keys.keyFile internalPayload with
  | none =>
    dsimp only
    split
    · exact (List.append_nil _).symm
    · rw [sendMessage_notices]
      exact (List.append_nil _).symm
  | some plain =>
    dsimp only
    split
    · rfl
    · rw [sendMessage_notices]
      rfl

end Shown

section TextAcks

variable {P : Platform} {env : Env}

variable {d : Device} {item : MessageItem Bytes} {sharedKey raw : Bytes} {messageID : Nat}
  {cell : Cell} {x : Nat × Cell}

theorem type_of_carries {messageType id : Nat} {internalPayload : Bytes}
    (h : cell.Carries P messageType id internalPayload) (hcell : cell = .data sharedKey raw)
    (hlt : messageType < 256) : Message.parseMessageType raw = some messageType := by
  obtain ⟨_, amb, pointers, length, rfl⟩ := h
  cases hcell
  exact Message.parseMessageType_externalPayload P amb hlt

theorem acknowledgedText_eq_some (h : acknowledgedText P raw = some messageID) :
    Message.parseMessageID raw = some messageID ∧
      Message.parseMessageType raw = some Constant.dataAck ∧
      ∃ internalPayload message, Message.parseExternalPaylod P raw = some internalPayload ∧
        DataMessage.parseACKDataMessage internalPayload = some message ∧
          message.messageType = 0 := by
  simp only [acknowledgedText, Option.bind_eq_bind, Option.bind_eq_some_iff] at h
  obtain ⟨id, hid, messageType, htype, internalPayload, hpayload, hack⟩ := h
  split at hack
  · rename_i hmessageType
    obtain ⟨message, hparse, hresult⟩ := Option.bind_eq_some_iff.mp hack
    split at hresult
    · cases hresult
    · rename_i hzero
      obtain rfl := Option.some.inj hresult
      exact ⟨hid, hmessageType ▸ htype, internalPayload, message, hpayload, hparse, by omega⟩
  · cases hack

theorem ack_of_carries {id : Nat} {keys : KeyState} {ackMessageType pieceID : Nat} {ack : String}
    {messageHash internalPayload : Bytes} {message : ACKMessage}
    (h : cell.Carries P Constant.dataAck id
      (DataMessage.ackPayload keys ackMessageType pieceID ack messageHash))
    (hcell : cell = .data sharedKey raw)
    (hpayload : Message.parseExternalPaylod P raw = some internalPayload)
    (hparse : DataMessage.parseACKDataMessage internalPayload = some message) :
    DataMessage.parseACKDataMessage
      (DataMessage.ackPayload keys ackMessageType pieceID ack messageHash) = some message := by
  obtain ⟨_, amb, pointers, length, rfl⟩ := h
  cases hcell
  exact DataMessage.parseACKDataMessage_of_prefix hparse
    (Message.parseExternalPaylod_prefix P amb hpayload)

theorem not_acknowledged_of_fileAck {fileNameHash : Bytes} {ack : String} {pieceID : Nat}
    (h : cell.FileAck P fileNameHash ack pieceID) (hcell : cell = .data sharedKey raw) :
    acknowledgedText P raw ≠ some messageID := by
  intro hack
  obtain ⟨-, -, internalPayload, message, hpayload, hparse, hzero⟩ := acknowledgedText_eq_some hack
  obtain ⟨id, keys, hcarries⟩ := h
  have htwo := DataMessage.messageType_of_ackPayload (by decide)
    (ack_of_carries hcarries hcell hpayload hparse)
  rw [hzero] at htwo
  cases htwo

theorem not_acknowledged_of_type {messageType : Nat} (h : messageType ≠ Constant.dataAck)
    (htype : Message.parseMessageType raw = some messageType) :
    acknowledgedText P raw ≠ some messageID := by
  intro hack
  obtain ⟨-, hackType, -⟩ := acknowledgedText_eq_some hack
  exact h (Option.some.inj (htype.symm.trans hackType))

theorem not_acknowledged_of_quiet (h : cell.Quiet) (hcell : cell = .data sharedKey raw) :
    acknowledgedText P raw ≠ some messageID := by
  obtain ⟨messageType, htype, -, -, hack⟩ := h sharedKey raw hcell
  exact not_acknowledged_of_type hack htype

theorem not_acknowledged_of_piece {fileNameHash : Bytes} (h : cell.Piece P fileNameHash)
    (hcell : cell = .data sharedKey raw) : acknowledgedText P raw ≠ some messageID := by
  obtain ⟨id, pieceID, fileContent, hcarries⟩ := h
  exact not_acknowledged_of_type (by decide) (type_of_carries hcarries hcell (by decide))

theorem not_acknowledged_of_resent {role : String → Option (Direction × Bytes)}
    (h : Resent P role x) (hcell : x.2 = .data sharedKey raw) :
    acknowledgedText P raw ≠ some messageID := by
  rcases h with hquiet | ⟨fileName, fileNameHash, ⟨-, hpiece⟩ | ⟨-, count, hack⟩⟩
  · exact not_acknowledged_of_quiet hquiet hcell
  · exact not_acknowledged_of_piece hpiece hcell
  · exact not_acknowledged_of_fileAck hack hcell

theorem parseMessageID_lt (h : Message.parseMessageID raw = some messageID) :
    messageID < 2 ^ 31 := by
  obtain ⟨bytes, -, hparse⟩ := Option.bind_eq_some_iff.mp h
  rw [parseInt16] at hparse
  split at hparse
  · rename_i hbound
    obtain rfl := Option.some.inj hparse
    exact hbound.2
  · cases hparse

-- the only cells that acknowledge a text are written where a text is read
theorem acknowledged_emission (h : Emission P d item x) (hcell : x.2 = .data sharedKey raw)
    (hack : acknowledgedText P raw = some messageID) :
    ∃ statusItem internalPayload,
      d.Reads P item statusItem messageID Constant.dataMessage internalPayload ∧
        (d.keys.getRecordXOR item.data messageID).isSome ∧ x.1 = item.socket := by
  cases h with
  | quiet hquiet => exact absurd hack (not_acknowledged_of_quiet hquiet hcell)
  | ready task hannounced hready =>
    obtain ⟨id, hcarries⟩ := hready
    exact absurd hack (not_acknowledged_of_type (by decide)
      (type_of_carries hcarries hcell (by decide)))
  | piece found hrequest hselected hpiece =>
    exact absurd hack (not_acknowledged_of_piece hpiece hcell)
  | fileAck found pieceID hstored hfileAck =>
    exact absurd hack (not_acknowledged_of_fileAck hfileAck hcell)
  | textAck statusItem id internalPayload hreads hpointers hsocket htextAck =>
    obtain ⟨keys, messageHash, -, hcarries⟩ := htextAck
    have hread : Message.parseMessageID raw = some id := by
      obtain ⟨_, amb, pointers, length, heq⟩ := hcarries
      rw [hcell] at heq
      cases heq
      exact Message.parseMessageID_externalPayload P amb (parseMessageID_lt hreads.id)
    obtain ⟨hid, -⟩ := acknowledgedText_eq_some hack
    obtain rfl := Option.some.inj (hread.symm.trans hid)
    exact ⟨statusItem, internalPayload, hreads, hpointers, hsocket⟩

variable (env) in
theorem read_shows {rest : List (MessageItem Bytes)} {statusItem : ConnectionStatusItem}
    {internalPayload : Bytes} {text : String} (hqueue : d.recieveQueue = item :: rest)
    (hdata : item.type = 1)
    (h : d.Reads P item statusItem messageID Constant.dataMessage internalPayload)
    (hpointers : (d.keys.getRecordXOR item.data messageID).isSome)
    (htext : d.keys.readText P internalPayload = some text) :
    .hasReceivedMessage text statusItem.onionName messageID ∈ (d.read P env).notices := by
  obtain ⟨keys, hkeys⟩ := Option.isSome_iff_exists.mp hpointers
  obtain ⟨plain, hplain, rfl⟩ := Option.map_eq_some_iff.mp htext
  have hreads : ({ d with recieveQueue := rest } : Device).Reads P item statusItem messageID
      Constant.dataMessage internalPayload := ⟨h.conn, h.key, h.id, h.type, h.payload⟩
  have hhandled : d.read P env = ({ d with recieveQueue := rest } : Device).receiveTextMessage P
      env internalPayload statusItem item messageID := by
    rw [read_data hqueue hdata, dataMessageHandle_of_reads hreads, dispatchDataMessage, if_pos rfl]
  have hkeys' : ({ d with recieveQueue := rest } : Device).keys.getRecordXOR item.data messageID =
      some keys := hkeys
  rw [hhandled, receiveTextMessage_notices P env internalPayload statusItem hkeys', shownText,
    hplain]
  exact List.mem_append_right _ List.mem_cons_self

end TextAcks

end Device

end TorChat
