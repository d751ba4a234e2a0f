import TorChat.Library.AckChannel
import TorChat.Transfer.DevicePair

namespace TorChat

open Library (Bytes)
open Library.AckChannel (Packet End texts acks)
open FileTraffic (Channel sent onSocket onSocket_append)
open DevicePair (Role Pair)

namespace Conversation

abbrev Text := String × Nat

def shownTexts (peer : String) (notices : List Notice) : List Text :=
  notices.filterMap (fun
    | .hasReceivedMessage message peerHostname messageID =>
        if peerHostname = peer then some (message, messageID) else none
    | _ => none)

def ackedTexts (notices : List Notice) : List Nat := notices.filterMap Notice.acked

section Statement

variable (P : Platform) (c : Channel)

-- a keyed connection over which the two ends read each other's cells
structure Talks (d : Device) : Prop where
  keyFile : d.keys.keyFile = c.keyFile
  chosen : ∃ item, d.conns.getConnectionStatusItemByOnionName c.peer Constant.socketPurposeText =
    some item ∧ item.socket = c.socket ∧ item.shareKey = some c.sharedKey
  entry : ∃ item, d.conns.getConnectionStatusItem c.peer c.socket = some item ∧
    item.onionName = c.peer ∧ item.status = 1 ∧ item.shareKey = some c.sharedKey
  transport : ∃ t mail, d.transport c.socket = some t ∧ t.mailItem = some mail ∧
    mail.onionName = c.peer

def Fits (t : Text) : Prop :=
  t.2 < 2 ^ 31 ∧ ({ keyFile := c.keyFile } : KeyState).TextFits P t.1

def Spells (raw : Bytes) : Packet Text Nat → Prop
  | .text t => Fits P c t ∧ ∃ (keys : KeyState) (amb : Ambient), keys.keyFile = c.keyFile ∧
      raw = keys.textPayload P amb t.1 t.2
  | .ack messageID => messageID < 2 ^ 31 ∧
      ∃ (keys : KeyState) (amb : Ambient) (messageHash : Bytes), messageHash.length = 20 ∧
      raw = Message.externalPayload P amb Constant.dataAck messageID
        (DataMessage.ackPayload keys 0 1 Constant.dataAckContent messageHash) []
        Constant.externalDataLegth

def Writes (cell : Cell) (p : Packet Text Nat) : Prop :=
  ∃ raw, cell = .data c.sharedKey raw ∧ Spells P c raw p

def Queued (item : MessageItem (Option Cell)) (t : Text) : Prop :=
  item.socket = c.socket ∧ ∃ cell, item.data = some cell ∧ Writes P c cell (.text t)

def Arrived (item : MessageItem Bytes) (p : Packet Text Nat) : Prop :=
  item.type = 1 ∧ item.onionName = c.peer ∧ item.socket = c.socket ∧ Spells P c item.data p

structure Mirrored (before : List Notice) (d : Device) (taken : Nat) (e : End Text Nat) :
    Prop where
  talks : Talks c d
  queue : List.Forall₂ (Queued P c) d.sendQueue e.queue
  delivered : taken ≤ (sent c d).length
  wire : List.Forall₂ (Writes P c) ((sent c d).drop taken) e.wire
  inbox : List.Forall₂ (Arrived P c) d.recieveQueue e.inbox
  shown : shownTexts c.peer d.notices = shownTexts c.peer before ++ e.shown
  acked : ackedTexts d.notices = ackedTexts before ++ e.acked

end Statement

section Ends

variable {P : Platform} {env : Env} {c : Channel} {before : List Notice} {d : Device}
  {taken : Nat} {e : End Text Nat}

theorem sent_transmit (c : Channel) (d : Device) (cell : Cell) :
    sent c (d.transmit c.socket cell) = sent c d ++ [cell] := by
  rw [sent, Device.transmit, onSocket_append, sent]
  congr 1
  rw [onSocket, List.filter_cons_of_pos (by simp)]
  rfl

theorem talks_of_eq {d' : Device} (h : Talks c d) (hkeyFile : d'.keys.keyFile = d.keys.keyFile)
    (hconns : d'.conns = d.conns) (htransports : d'.transports = d.transports) : Talks c d' where
  keyFile := hkeyFile.trans h.keyFile
  chosen := hconns ▸ h.chosen
  entry := hconns ▸ h.entry
  transport := by
    rw [Device.transport, htransports]
    exact h.transport

theorem keyFile_textSent (hne : c.keyFile ≠ []) (h : Talks c d) (messageID : Nat) :
    (d.keys.textSent messageID).keyFile = d.keys.keyFile := by
  have hfile : (d.keys.sendText messageID).keyFile = d.keys.keyFile := rfl
  rw [KeyState.textSent, KeyState.writeBack_eq_self, hfile]
  rw [hfile, h.keyFile]
  exact hne

theorem wire_append (h : Mirrored P c before d taken e) {cell : Cell} {p : Packet Text Nat}
    (hcell : Writes P c cell p) : taken ≤ (sent c d ++ [cell]).length ∧
      List.Forall₂ (Writes P c) ((sent c d ++ [cell]).drop taken) (e.wire ++ [p]) := by
  constructor
  · rw [List.length_append]
    exact h.delivered.trans (Nat.le_add_right _ _)
  · rw [List.drop_append_of_le_length h.delivered]
    exact List.rel_append h.wire (.cons hcell .nil)

theorem mirrored_send (hne : c.keyFile ≠ []) (h : Mirrored P c before d taken e) {t : Text}
    (hfits : Fits P c t) :
    Mirrored P c before (d.handleTextMessageSend P env t.1 c.peer t.2) taken (e.send t) := by
  obtain ⟨item, hchosen, hsocket, hkey⟩ := h.talks.chosen
  rw [Device.handleTextMessageSend, hchosen]
  dsimp only
  rw [hkey]
  refine ⟨talks_of_eq h.talks (keyFile_textSent hne h.talks t.2) rfl rfl, ?_, h.delivered, h.wire,
    h.inbox, h.shown, h.acked⟩
  refine List.rel_append h.queue (.cons ⟨hsocket, _, rfl, _, rfl, hfits, ?_⟩ .nil)
  exact ⟨d.keys, env.ambient 0, h.talks.keyFile, rfl⟩

theorem mirrored_write (hsent : env.sent 0 = true) (h : Mirrored P c before d taken e) :
    Mirrored P c before (d.write env) taken e.write := by
  have hqueue := h.queue
  rw [Device.write, End.write]
  split
  · rename_i hnil
    rw [hnil] at hqueue
    rw [List.forall₂_nil_left_iff.mp hqueue]
    exact h
  · rename_i item rest hcons
    rw [hcons] at hqueue
    obtain ⟨t, ts, ⟨hsocket, cell, hdata, hwrites⟩, hrest, hts⟩ :=
      List.forall₂_cons_left_iff.mp hqueue
    rw [hts, hdata]
    dsimp only
    rw [if_pos hsent, hsocket]
    obtain ⟨hdelivered, hwire⟩ := wire_append h hwrites
    have hmoved : sent c (({ d with sendQueue := rest } : Device).transmit c.socket cell) =
        sent c d ++ [cell] := sent_transmit c { d with sendQueue := rest } cell
    rw [← hmoved] at hdelivered hwire
    exact ⟨talks_of_eq h.talks rfl rfl rfl, hrest, hdelivered, hwire, h.inbox, h.shown, h.acked⟩

theorem wire_of_getElem?_none (h : Mirrored P c before d taken e)
    (hnone : (sent c d)[taken]? = none) : e.wire = [] := by
  have hwire := h.wire
  rw [List.drop_eq_nil_of_le (List.getElem?_eq_none_iff.mp hnone)] at hwire
  exact List.forall₂_nil_left_iff.mp hwire

theorem mirrored_take (h : Mirrored P c before d taken e) {cell : Cell}
    (hcell : (sent c d)[taken]? = some cell) : ∃ p rest, e.wire = p :: rest ∧
      Writes P c cell p ∧ Mirrored P c before d (taken + 1) { e with wire := rest } := by
  obtain ⟨hlt, hget⟩ := List.getElem?_eq_some_iff.mp hcell
  have hwire := h.wire
  rw [List.drop_eq_getElem_cons hlt, hget] at hwire
  obtain ⟨p, rest, hp, hrest, hcons⟩ := List.forall₂_cons_left_iff.mp hwire
  exact ⟨p, rest, hcons, hp, h.talks, h.queue, hlt, hrest, h.inbox, h.shown, h.acked⟩

theorem spells_congr {c' : Channel} (hkeyFile : c'.keyFile = c.keyFile) {raw : Bytes}
    {p : Packet Text Nat} (h : Spells P c' raw p) : Spells P c raw p := by
  cases p with
  | text t =>
    rw [Spells, Fits, hkeyFile] at h
    exact h
  | ack messageID => exact h

theorem mirrored_receive {c' : Channel} (hsharedKey : c'.sharedKey = c.sharedKey)
    (hkeyFile : c'.keyFile = c.keyFile) (h : Mirrored P c before d taken e) {cell : Cell}
    {p : Packet Text Nat} (hcell : Writes P c' cell p) :
    Mirrored P c before (d.receiveCell c.socket cell) taken (e.receive p) := by
  obtain ⟨raw, rfl, hraw⟩ := hcell
  obtain ⟨t, mail, htransport, hmail, honion⟩ := h.talks.transport
  obtain ⟨statusItem, hentry, -, hstatus, hkey⟩ := h.talks.entry
  have hsocket : t.socket = c.socket := Device.transport_socket htransport
  have hitem : d.conns.statusItem mail.onionName t.socket = some statusItem := by
    rw [Connections.statusItem, honion, hsocket, hentry, Option.some_or]
  have hhanded : d.receiveCell c.socket (.data c'.sharedKey raw) = d.handCell mail t 1 raw := by
    rw [Device.receiveCell, htransport]
    dsimp only
    rw [if_neg (by simp), hmail]
    dsimp only
    rw [Device.readCell, hitem]
    dsimp only
    rw [if_neg (by omega), if_pos hstatus, hkey, Message.parseDataPayload, if_pos hsharedKey]
  rw [hhanded]
  exact ⟨talks_of_eq h.talks rfl rfl rfl, h.queue, h.delivered, h.wire,
    List.rel_append h.inbox (.cons ⟨rfl, honion, hsocket, spells_congr hkeyFile hraw⟩ .nil),
    h.shown, h.acked⟩

-- the cell of a text, as the reader of the text takes it apart
theorem reads_text {item : MessageItem Bytes} {statusItem : ConnectionStatusItem} {t : Text}
    (hconn : d.conns.getConnectionStatusItem item.onionName item.socket = some statusItem)
    (hkey : statusItem.shareKey = some c.sharedKey) (hitem : Spells P c item.data (.text t)) :
    ∃ keys', d.Reads P item statusItem t.2 Constant.dataMessage
        (JniEntryUtils.entry P c.keyFile (getBytes t.1)) ∧
      d.keys.getRecordXOR item.data t.2 = some keys' ∧ keys'.keyFile = d.keys.keyFile := by
  obtain ⟨⟨hid, hfits⟩, keys, amb, hkeyFile, hdata⟩ := hitem
  have hlength : (JniEntryUtils.entry P c.keyFile (getBytes t.1)).length < 65536 :=
    Nat.lt_of_le_of_lt hfits.cell (by decide)
  rw [KeyState.textPayload, hkeyFile, Message.createDataMessageExternalPaylod] at hdata
  have hrecord : d.keys.getRecordXOR item.data t.2 = some (d.keys.receiveRecord {
      startFileName := 1, startFileIndex := keys.keyIndex, endFileName := 1
      endFileIndex := keys.keyIndex } t.2) := by
    rw [hdata]
    exact KeyState.getRecordXOR_externalPayload P amb d.keys hlength keys.parseXor_cellXor
      keys.cellXor_length keys.parseXor_cellXor keys.cellXor_length
  refine ⟨_, ⟨hconn, by rw [hkey]; rfl, ?_, ?_, ?_⟩, hrecord, rfl⟩
  · rw [hdata]
    exact Message.parseMessageID_externalPayload P amb hid
  · rw [hdata]
    exact Message.parseMessageType_externalPayload P amb (by decide)
  · rw [hdata]
    exact Message.parseExternalPaylod_externalPayload P amb hlength

theorem mirrored_text (hP : ∀ x : Bytes, x.length < 2 ^ 31 → JniEntryUtils.decry P c.keyFile
      (JniEntryUtils.entry P c.keyFile x) = some x) (hne : c.keyFile ≠ [])
    (hsent : env.sent 0 = true) {item : MessageItem Bytes} {rest : List (MessageItem Bytes)}
    {t : Text} {packets : List (Packet Text Nat)} (h : Mirrored P c before d taken e)
    (hqueue : d.recieveQueue = item :: rest) (hinbox : e.inbox = .text t :: packets)
    (hitem : Arrived P c item (.text t)) (hrest : List.Forall₂ (Arrived P c) rest packets) :
    Mirrored P c before (d.read P env) taken (e.read Prod.snd) := by
  obtain ⟨htype, honion, hsocket, hspells⟩ := hitem
  obtain ⟨statusItem, hentry, hname, -, hkey⟩ := h.talks.entry
  have hconn : d.conns.getConnectionStatusItem item.onionName item.socket = some statusItem := by
    rw [honion, hsocket, hentry]
  have hstatusSocket : statusItem.socket = c.socket :=
    (Connections.mem_of_getConnectionStatusItem hentry).2
  obtain ⟨keys, hreads, hrecord, hkeys⟩ := reads_text (d := { d with recieveQueue := rest })
    hconn hkey hspells
  have hdecry : JniEntryUtils.decry P keys.keyFile
      (JniEntryUtils.entry P c.keyFile (getBytes t.1)) = some (getBytes t.1) := by
    rw [hkeys, h.talks.keyFile]
    exact hP _ hspells.1.2.array
  have hwriteBack : keys.writeBack.keyFile = d.keys.keyFile := by
    rw [KeyState.writeBack_eq_self, hkeys]
    rw [hkeys, h.talks.keyFile]
    exact hne
  have hread : d.read P env =
      (((({ d with recieveQueue := rest } : Device).setKeys keys).notify
        (.hasReceivedMessage (newString (getBytes t.1)) statusItem.onionName t.2)).setKeys
          keys.writeBack).transmit c.socket (.data c.sharedKey
            (Message.externalPayload P (env.ambient 0) Constant.dataAck t.2
              (DataMessage.ackPayload keys 0 1 Constant.dataAckContent (P.sha1 (getBytes t.1))) []
              Constant.externalDataLegth)) := by
    rw [Device.read_data hqueue htype, Device.dataMessageHandle_of_reads hreads,
      Device.dispatchDataMessage, if_pos rfl, Device.receiveTextMessage, hrecord]
    dsimp only [Device.setKeys]
    rw [hdecry]
    dsimp only [Option.getD_some, Device.notify]
    rw [hkey, DataMessage.buildACKDataMessage, Message.packDataPayload]
    dsimp only [Option.map_some]
    rw [Device.sendMessage, if_pos hsent, hstatusSocket]
    rfl
  have hread' : e.read Prod.snd = { e with
      inbox := packets, shown := e.shown ++ [t], wire := e.wire ++ [.ack t.2] } := by
    rw [End.read, hinbox]
  rw [hread, hread']
  obtain ⟨hdelivered, hwire⟩ := wire_append h (p := .ack t.2) ⟨_, rfl, hspells.1.1, keys,
    env.ambient 0, P.sha1 (getBytes t.1), P.sha1_length _, rfl⟩
  rw [← sent_transmit] at hdelivered hwire
  refine ⟨talks_of_eq h.talks hwriteBack rfl rfl, h.queue, hdelivered, hwire, hrest, ?_, ?_⟩
  · have hshown : shownTexts c.peer [.hasReceivedMessage (newString (getBytes t.1))
        statusItem.onionName t.2] = [t] := by
      rw [hname, newString_getBytes]
      exact List.filterMap_cons_some (if_pos rfl)
    calc shownTexts c.peer (d.notices ++ [_])
      _ = shownTexts c.peer d.notices ++ [t] := by
        rw [shownTexts, List.filterMap_append]
        exact congrArg (_ ++ ·) hshown
      _ = shownTexts c.peer before ++ (e.shown ++ [t]) := by rw [h.shown, List.append_assoc]
  · calc ackedTexts (d.notices ++ [_])
      _ = ackedTexts d.notices := by
        rw [ackedTexts, List.filterMap_append]
        exact List.append_nil _
      _ = ackedTexts before ++ e.acked := h.acked

theorem mirrored_ack {item : MessageItem Bytes} {rest : List (MessageItem Bytes)}
    {messageID : Nat} {packets : List (Packet Text Nat)} (h : Mirrored P c before d taken e)
    (hqueue : d.recieveQueue = item :: rest) (hinbox : e.inbox = .ack messageID :: packets)
    (hitem : Arrived P c item (.ack messageID)) (hrest : List.Forall₂ (Arrived P c) rest packets) :
    Mirrored P c before (d.read P env) taken (e.read Prod.snd) := by
  obtain ⟨htype, honion, hsocket, hid, keys, amb, messageHash, hhash, hdata⟩ := hitem
  obtain ⟨statusItem, hentry, -, -, hkey⟩ := h.talks.entry
  have hack : DataMessage.parseACKDataMessage
      (DataMessage.ackPayload keys 0 1 Constant.dataAckContent messageHash) =
        some { messageType := 0, recievePieceNumber := 1, ackok := Constant.dataAckContent
               messageHash := messageHash } :=
    DataMessage.parseACKDataMessage_ackPayload keys (by decide) (by decide) (by decide) hhash
  have hlength : (DataMessage.ackPayload keys 0 1 Constant.dataAckContent messageHash).length <
      65536 := by
    rw [DataCell.ackPayload_length keys (by decide) hhash]
    decide
  have hreads : ({ d with recieveQueue := rest } : Device).Reads P item statusItem messageID
      Constant.dataAck (DataMessage.ackPayload keys 0 1 Constant.dataAckContent messageHash) := by
    refine ⟨by rw [honion, hsocket, hentry], by rw [hkey]; rfl, ?_, ?_, ?_⟩
    · rw [hdata]
      exact Message.parseMessageID_externalPayload P amb hid
    · rw [hdata]
      exact Message.parseMessageType_externalPayload P amb (by decide)
    · rw [hdata]
      exact Message.parseExternalPaylod_externalPayload P amb hlength
  have hread : d.read P env = ({ d with recieveQueue := rest } : Device).notify
      (.peerHasReceivedMessage messageID) := by
    rw [Device.read_data hqueue htype, Device.dataMessageHandle_of_reads hreads,
      Device.dispatchDataMessage, if_neg (by decide), if_neg (by decide), if_neg (by decide),
      if_neg (by decide), if_neg (by decide), if_pos rfl, Device.receiveAck, hack]
    exact if_neg (Nat.lt_irrefl 0)
  have hread' : e.read Prod.snd = { e with
      inbox := packets, acked := e.acked ++ [messageID] } := by
    rw [End.read, hinbox]
  rw [hread, hread']
  refine ⟨talks_of_eq h.talks rfl rfl rfl, h.queue, h.delivered, h.wire, hrest, ?_, ?_⟩
  · calc shownTexts c.peer (d.notices ++ [_])
      _ = shownTexts c.peer d.notices := by
        rw [shownTexts, List.filterMap_append]
        exact List.append_nil _
      _ = shownTexts c.peer before ++ e.shown := h.shown
  · calc ackedTexts (d.notices ++ [_])
      _ = ackedTexts d.notices ++ [messageID] := by
        rw [ackedTexts, List.filterMap_append]
        rfl
      _ = ackedTexts before ++ (e.acked ++ [messageID]) := by rw [h.acked, List.append_assoc]

theorem mirrored_read (hP : ∀ x : Bytes, x.length < 2 ^ 31 → JniEntryUtils.decry P c.keyFile
      (JniEntryUtils.entry P c.keyFile x) = some x) (hne : c.keyFile ≠ [])
    (hsent : env.sent 0 = true) (h : Mirrored P c before d taken e) :
    Mirrored P c before (d.read P env) taken (e.read Prod.snd) := by
  have hinbox := h.inbox
  cases hqueue : d.recieveQueue with
  | nil =>
    rw [hqueue] at hinbox
    rw [Device.read, hqueue, End.read, List.forall₂_nil_left_iff.mp hinbox]
    exact h
  | cons item rest =>
    rw [hqueue] at hinbox
    obtain ⟨p, packets, hitem, hrest, hpackets⟩ := List.forall₂_cons_left_iff.mp hinbox
    cases p with
    | text t => exact mirrored_text hP hne hsent h hqueue hpackets hitem hrest
    | ack messageID => exact mirrored_ack h hqueue hpackets hitem hrest

end Ends

section Pairs

variable (P : Platform) (channel : Role → Channel)

-- texts to the other end, over a connection on which every write succeeds
def Faultless : DevicePair.Event → Prop
  | .act role _ (.sendText messageContent remoteOnion messageID) =>
      remoteOnion = (channel role).peer ∧ Fits P (channel role) (messageContent, messageID)
  | .act _ env .write => env.sent 0 = true
  | .act _ env .read => env.sent 0 = true
  | .act _ _ _ => False
  | .deliver _ => True

def handed (role : Role) : DevicePair.Event → List Text
  | .act r _ (.sendText messageContent _ messageID) =>
      if r = role then [(messageContent, messageID)] else []
  | _ => []

def spoken : DevicePair.Event → Library.AckChannel.Event Role Text
  | .act role _ (.sendText messageContent _ messageID) => .send role (messageContent, messageID)
  | .act role _ .read => .read role
  | .act role _ _ => .write role
  | .deliver role => .deliver role

def acted : Library.AckChannel.Event Role Text → DevicePair.Event
  | .send role t => .act role {} (.sendText t.1 (channel role).peer t.2)
  | .write role => .act role {} .write
  | .deliver role => .deliver role
  | .read role => .act role {} .read

def Quiet (pair : Pair) : Prop :=
  ∀ role, (pair.device role).sendQueue = [] ∧ (pair.device role).recieveQueue = [] ∧
    pair.delivered role = (sent (channel role) (pair.device role)).length

def Mirrors (start pair : Pair) (s : Role → End Text Nat) : Prop :=
  ∀ role, Mirrored P (channel role) (start.device role).notices (pair.device role)
    (pair.delivered role) (s role)

structure InOrder (start pair : Pair) (role : Role) (texts : List Text) (ids : List Nat) :
    Prop where
  shown : shownTexts (channel role.other).peer (pair.device role.other).notices =
    shownTexts (channel role.other).peer (start.device role.other).notices ++ texts
  acked : ackedTexts (pair.device role).notices = ackedTexts (start.device role).notices ++ ids

structure SharedKeys : Prop where
  sharedKey : (channel .sender).sharedKey = (channel .receiver).sharedKey
  keyFile : (channel .sender).keyFile = (channel .receiver).keyFile
  keyed : (channel .sender).keyFile ≠ []
  inverts : ∀ x : Bytes, x.length < 2 ^ 31 → JniEntryUtils.decry P (channel .sender).keyFile
    (JniEntryUtils.entry P (channel .sender).keyFile x) = some x

end Pairs

section Simulation

variable {P : Platform} {channel : Role → Channel} {start pair : Pair} {s : Role → End Text Nat}

theorem keyFile_eq (hkeys : SharedKeys P channel) (role : Role) :
    (channel role).keyFile = (channel .sender).keyFile := by
  cases role
  · rfl
  · exact hkeys.keyFile.symm

theorem sharedKey_eq (hkeys : SharedKeys P channel) (role : Role) :
    (channel role).sharedKey = (channel .sender).sharedKey := by
  cases role
  · rfl
  · exact hkeys.sharedKey.symm

theorem mirrors_set (h : Mirrors P channel start pair s) {role : Role} {d : Device}
    {e : End Text Nat} (hrole : Mirrored P (channel role) (start.device role).notices d
      (pair.delivered role) e) :
    Mirrors P channel start (pair.set role d) (Function.update s role e) := by
  intro r
  by_cases hr : r = role
  · subst hr
    rw [DevicePair.device_set_self, Function.update_self]
    exact hrole
  · rw [Function.update_of_ne hr, Pair.set]
    dsimp only
    rw [if_neg hr]
    exact h r

theorem mirrors_take (h : Mirrors P channel start pair s) {role : Role} {e : End Text Nat}
    (hrole : Mirrored P (channel role) (start.device role).notices (pair.device role)
      (pair.delivered role + 1) e) :
    Mirrors P channel start (pair.take role) (Function.update s role e) := by
  intro r
  rw [Pair.take]
  dsimp only
  by_cases hr : r = role
  · subst hr
    rw [if_pos rfl, Function.update_self]
    exact hrole
  · rw [if_neg hr, Function.update_of_ne hr]
    exact h r

theorem mirrors_deliver (hkeys : SharedKeys P channel) (h : Mirrors P channel start pair s)
    (role : Role) : Mirrors P channel start (DevicePair.step P channel pair (.deliver role))
      (Library.AckChannel.deliver Role.other s role) := by
  rw [DevicePair.step]
  cases hcell : (sent (channel role) (pair.device role))[pair.delivered role]? with
  | none =>
    rw [Library.AckChannel.deliver_nil (wire_of_getElem?_none (h role) hcell)]
    exact h
  | some cell =>
    obtain ⟨p, rest, hwire, hwrites, htaken⟩ := mirrored_take (h role) hcell
    rw [Library.AckChannel.deliver_cons hwire]
    refine mirrors_set (mirrors_take h htaken) ?_
    rw [Pair.take]
    dsimp only
    rw [if_neg (DevicePair.other_ne role)]
    refine mirrored_receive ?_ ?_ (h role.other) hwrites
    · rw [sharedKey_eq hkeys, sharedKey_eq hkeys role.other]
    · rw [keyFile_eq hkeys, keyFile_eq hkeys role.other]

theorem mirrors_step (hkeys : SharedKeys P channel) (h : Mirrors P channel start pair s)
    {e : DevicePair.Event} (he : Faultless P channel e) :
    Mirrors P channel start (DevicePair.step P channel pair e)
      (Library.AckChannel.step Role.other Prod.snd s (spoken e)) := by
  cases e with
  | deliver role => exact mirrors_deliver hkeys h role
  | act role env event =>
    have hne : (channel role).keyFile ≠ [] := by
      rw [keyFile_eq hkeys]
      exact hkeys.keyed
    cases event with
    | sendText messageContent remoteOnion messageID =>
      obtain ⟨rfl, hfits⟩ := he
      exact mirrors_set h (mirrored_send hne (h role) hfits)
    | write => exact mirrors_set h (mirrored_write he (h role))
    | read =>
      refine mirrors_set h (mirrored_read ?_ hne he (h role))
      rw [keyFile_eq hkeys]
      exact hkeys.inverts
    | _ => exact absurd he id

theorem mirrors_run (hkeys : SharedKeys P channel) (h : Mirrors P channel start pair s)
    {events : List DevicePair.Event} (hevents : ∀ e ∈ events, Faultless P channel e) :
    Mirrors P channel start ((DevicePair.machine P channel).run pair events)
      ((Library.AckChannel.machine Role.other Prod.snd).run s (events.map spoken)) := by
  induction events generalizing pair s with
  | nil => exact h
  | cons e events ih =>
    obtain ⟨he, hevents⟩ := List.forall_mem_cons.mp hevents
    exact ih (mirrors_step hkeys h he) hevents

theorem handed_spoken (role : Role) (e : DevicePair.Event) (he : Faultless P channel e) :
    Library.AckChannel.sends role (spoken e) = handed role e := by
  cases e with
  | deliver r => rfl
  | act r env event =>
    cases event with
    | sendText messageContent remoteOnion messageID => rfl
    | write => rfl
    | read => rfl
    | _ => exact absurd he id

theorem quiet_iff (h : Mirrors P channel start pair s) :
    Quiet channel pair ↔ Library.AckChannel.Quiet s := by
  refine forall_congr' fun role => ?_
  obtain ⟨-, hqueue, hdelivered, hwire, hinbox, -, -⟩ := h role
  constructor
  · rintro ⟨hsend, hrecieve, hall⟩
    rw [hsend] at hqueue
    rw [hrecieve] at hinbox
    rw [hall, List.drop_length] at hwire
    exact ⟨List.forall₂_nil_left_iff.mp hqueue, List.forall₂_nil_left_iff.mp hwire,
      List.forall₂_nil_left_iff.mp hinbox⟩
  · rintro ⟨hsend, hall, hrecieve⟩
    rw [hsend] at hqueue
    rw [hrecieve] at hinbox
    rw [hall] at hwire
    exact ⟨List.forall₂_nil_right_iff.mp hqueue, List.forall₂_nil_right_iff.mp hinbox,
      Nat.le_antisymm hdelivered (List.drop_eq_nil_iff.mp (List.forall₂_nil_right_iff.mp hwire))⟩

theorem mirrors_start (htalks : ∀ role, Talks (channel role) (start.device role))
    (hquiet : Quiet channel start) : Mirrors P channel start start (fun _ => {}) := by
  intro role
  obtain ⟨hsend, hrecieve, hdelivered⟩ := hquiet role
  refine ⟨htalks role, ?_, Nat.le_of_eq hdelivered, ?_, ?_, (List.append_nil _).symm,
    (List.append_nil _).symm⟩
  · rw [hsend]
    exact .nil
  · rw [hdelivered, List.drop_length]
    exact .nil
  · rw [hrecieve]
    exact .nil

theorem spoken_acted (e : Library.AckChannel.Event Role Text) : spoken (acted channel e) = e := by
  cases e <;> rfl

theorem faultless_acted {e : Library.AckChannel.Event Role Text} (he : e.Silent) :
    Faultless P channel (acted channel e) ∧ ∀ role, handed role (acted channel e) = [] := by
  cases e with
  | send role t => exact absurd he id
  | write role => exact ⟨rfl, fun _ => rfl⟩
  | deliver role => exact ⟨trivial, fun _ => rfl⟩
  | read role => exact ⟨rfl, fun _ => rfl⟩

theorem mirrors_settle (hkeys : SharedKeys P channel) (h : Mirrors P channel start pair s) :
    ∃ more, (∀ e ∈ more, Faultless P channel e ∧ ∀ role, handed role e = []) ∧
      Quiet channel ((DevicePair.machine P channel).run pair more) := by
  obtain ⟨es, hes, hsender, hreceiver⟩ := Library.AckChannel.settles DevicePair.other_other
    DevicePair.other_ne Prod.snd s Role.sender
  have hmore : ∀ e ∈ es.map (acted channel),
      Faultless P channel e ∧ ∀ role, handed role e = [] := by
    intro e he
    obtain ⟨e', he', rfl⟩ := List.mem_map.mp he
    exact faultless_acted (hes e' he')
  have hrun := mirrors_run hkeys h (fun e he => (hmore e he).1)
  rw [List.map_map, show spoken ∘ acted channel = id from funext spoken_acted, List.map_id] at hrun
  refine ⟨es.map (acted channel), hmore, (quiet_iff hrun).mpr fun role => ?_⟩
  cases role with
  | sender => exact hsender
  | receiver => exact hreceiver

theorem inOrder_of_mirrors {after : Pair} {events : List DevicePair.Event}
    (hevents : ∀ e ∈ events, Faultless P channel e) (h : Mirrors P channel start after
      ((Library.AckChannel.machine Role.other Prod.snd).run (fun _ => {}) (events.map spoken)))
    (role : Role) :
    ∃ texts ids, InOrder channel start after role texts ids ∧
      texts <+: events.flatMap (handed role) ∧ ids <+: texts.map Prod.snd ∧
      (Quiet channel after → texts = events.flatMap (handed role) ∧ ids = texts.map Prod.snd) := by
  have hhanded : (events.map spoken).flatMap (Library.AckChannel.sends role) =
      events.flatMap (handed role) := by
    rw [List.flatMap_map]
    exact List.flatMap_congr fun e he => handed_spoken role e (hevents e he)
  obtain ⟨hshown, hacked⟩ := Library.AckChannel.in_order_of_run Prod.snd
    DevicePair.other_other DevicePair.other_ne (events.map spoken) role
  refine ⟨_, _, ⟨(h role.other).shown, (h role).acked⟩, hhanded ▸ hshown, hacked, ?_⟩
  intro hquiet
  obtain ⟨hall, hallAcked⟩ := Library.AckChannel.delivered_of_quiet DevicePair.other_other
    DevicePair.other_ne ((quiet_iff h).mp hquiet) role
  rw [hallAcked, hall, hhanded]
  exact ⟨rfl, rfl⟩

theorem conversation_delivered (hkeys : SharedKeys P channel)
    (htalks : ∀ role, Talks (channel role) (start.device role)) (hstart : Quiet channel start)
    {events : List DevicePair.Event} (hevents : ∀ e ∈ events, Faultless P channel e) :
    let after := (DevicePair.machine P channel).run start events
    (∀ role, ∃ texts ids, InOrder channel start after role texts ids ∧
      texts <+: events.flatMap (handed role) ∧ ids <+: texts.map Prod.snd ∧
      (Quiet channel after → texts = events.flatMap (handed role) ∧ ids = texts.map Prod.snd)) ∧
    ∃ more, (∀ e ∈ more, Faultless P channel e ∧ ∀ role, handed role e = []) ∧
      Quiet channel ((DevicePair.machine P channel).run after more) := by
  have hmirrors := mirrors_run hkeys (mirrors_start (P := P) htalks hstart) hevents
  exact ⟨inOrder_of_mirrors hevents hmirrors, mirrors_settle hkeys hmirrors⟩

end Simulation

def talkingChannel : Role → Channel
  | .sender => { peer := "bob", socket := 7, sharedKey := [1], keyFile := [3] }
  | .receiver => { peer := "alice", socket := 8, sharedKey := [1], keyFile := [3] }

def talkingItem (c : Channel) : ConnectionStatusItem :=
  { onionName := c.peer, socket := c.socket, status := 1, shareKey := some c.sharedKey }

def talkingDevice (c : Channel) : Device where
  onionName := ""
  privateKey := ⟨0⟩
  keys := { keyFile := c.keyFile }
  conns := {
    allConByOnionName := (∅ : Library.HashMap String ConnectionItems).put c.peer [talkingItem c] }
  transports := [{
    socket := c.socket
    mailItem := some { onionName := c.peer, onionHash := [], publicKey := ⟨0⟩ } }]

def talkingPair : Pair where
  device role := talkingDevice (talkingChannel role)
  delivered _ := 0

theorem talks_talking (c : Channel) : Talks c (talkingDevice c) where
  keyFile := rfl
  chosen := by
    refine ⟨talkingItem c, ?_, rfl, rfl⟩
    rw [Connections.getConnectionStatusItemByOnionName, talkingDevice,
      Library.HashMap.get?_put_self]
    rfl
  entry := by
    refine ⟨talkingItem c, ?_, rfl, rfl, rfl⟩
    rw [Connections.getConnectionStatusItem, talkingDevice, Library.HashMap.get?_put_self,
      Option.bind_some, ConnectionItems.getConnBySocket]
    exact List.find?_cons_of_pos (decide_eq_true rfl)
  transport := by
    refine ⟨_, _, List.find?_cons_of_pos ?_, rfl, rfl⟩
    exact decide_eq_true rfl

theorem sharedKeys_talking : SharedKeys demoPlatform talkingChannel :=
  ⟨rfl, rfl, by decide, fun _ h => JniEntryUtils.decry_entry_demo [3] h⟩

theorem quiet_talking : Quiet talkingChannel talkingPair := by
  intro role
  cases role <;> exact ⟨rfl, rfl, rfl⟩

def crossingTexts : List DevicePair.Event :=
  [.act .sender {} (.sendText "hi" "bob" 1000), .act .receiver {} (.sendText "yo" "alice" 2000),
    .act .sender {} .write, .deliver .sender, .act .receiver {} .write, .act .receiver {} .read]

theorem faultless_crossingTexts :
    ∀ e ∈ crossingTexts, Faultless demoPlatform talkingChannel e := by
  have hhi : Fits demoPlatform (talkingChannel .sender) ("hi", 1000) :=
    ⟨by decide, by decide +kernel, by decide +kernel⟩
  have hyo : Fits demoPlatform (talkingChannel .receiver) ("yo", 2000) :=
    ⟨by decide, by decide +kernel, by decide +kernel⟩
  rw [crossingTexts]
  simp only [List.forall_mem_cons]
  exact ⟨⟨rfl, hhi⟩, ⟨rfl, hyo⟩, rfl, trivial, rfl, rfl, fun e he => absurd he List.not_mem_nil⟩

theorem crossingTexts_delivered :
    let after := (DevicePair.machine demoPlatform talkingChannel).run talkingPair crossingTexts
    (∀ role, ∃ texts ids, InOrder talkingChannel talkingPair after role texts ids ∧
      texts <+: crossingTexts.flatMap (handed role) ∧ ids <+: texts.map Prod.snd ∧
      (Quiet talkingChannel after →
        texts = crossingTexts.flatMap (handed role) ∧ ids = texts.map Prod.snd)) ∧
    ∃ more, (∀ e ∈ more, Faultless demoPlatform talkingChannel e ∧ ∀ role, handed role e = []) ∧
      Quiet talkingChannel
        ((DevicePair.machine demoPlatform talkingChannel).run after more) :=
  conversation_delivered sharedKeys_talking (fun role => talks_talking (talkingChannel role))
    quiet_talking faultless_crossingTexts

end Conversation

end TorChat
