import TorChat.Text.TextStream
import TorChat.Text.TextAck

namespace TorChat

open Library (Bytes)
open RequestHandler (cellSize parseCell)

namespace Device

variable (P : Platform) (env : Env)

theorem dataMessageHandle_text {d : Device} {item : MessageItem Bytes}
    {statusItem : ConnectionStatusItem} {keys : KeyState} {amb : Ambient} {messageID : Nat}
    {internalPayload : Bytes}
    (hconn : d.conns.getConnectionStatusItem item.onionName item.socket = some statusItem)
    (hkey : statusItem.shareKey.isSome) (hdata : item.data =
      Message.createDataMessageExternalPaylod P amb keys Constant.dataMessage internalPayload
        messageID) (hlength : internalPayload.length < 65536) (hid : messageID < 2 ^ 31) :
    (d.dataMessageHandle P env item).notices = d.notices ++
      shownText P d.keys.keyFile internalPayload statusItem.onionName messageID := by
  have hrecord : d.keys.getRecordXOR item.data messageID = some (d.keys.receiveRecord {
      startFileName := 1, startFileIndex := keys.keyIndex, endFileName := 1
      endFileIndex := keys.keyIndex } messageID) := by
    rw [hdata]
    exact KeyState.getRecordXOR_externalPayload P amb d.keys hlength keys.parseXor_cellXor
      keys.cellXor_length keys.parseXor_cellXor keys.cellXor_length
  have hmessageID : Message.parseMessageID item.data = some messageID := by
    rw [hdata]
    exact Message.parseMessageID_externalPayload P amb hid
  have htype : Message.parseMessageType item.data = some Constant.dataMessage := by
    rw [hdata]
    exact Message.parseMessageType_externalPayload P amb (by decide)
  have hpayload : Message.parseExternalPaylod P item.data = some internalPayload := by
    rw [hdata]
    exact Message.parseExternalPaylod_externalPayload P amb hlength
  have hnone : ¬ statusItem.shareKey.isNone := by
    rw [Option.isNone_iff_eq_none]
    intro hn
    rw [hn] at hkey
    cases hkey
  simp only [dataMessageHandle, hconn, if_neg hnone, hmessageID, htype, hpayload,
    dispatchDataMessage, if_true]
  exact receiveTextMessage_notices P env internalPayload statusItem hrecord

end Device

namespace SentText

def failed (remoteOnion : String) (t : SentText) : FailedTextMessage :=
  { onionName := remoteOnion, rawMessage := t.messageContent }

end SentText

namespace TextResend

variable (P : Platform) (C : Crypto)

structure Receiver where
  device : Device
  env : Env
  item : ConnectionStatusItem
  peer : String
  socket : Nat

namespace Receiver

structure Connected (r : Receiver) (sharedKey : Bytes) : Prop where
  listed : r.device.conns.getConnectionStatusItem r.peer r.socket = some r.item
  shareKey : r.item.shareKey = some sharedKey

def handle (r : Receiver) (externalPayload : Bytes) : Device :=
  r.device.dataMessageHandle P r.env {
    onionName := r.peer, socket := r.socket, data := externalPayload, type := 1, purpose := 0 }

def Reads (r : Receiver) (sharedKey bytes : Bytes) (messageContent : String) (messageID : Nat) :
    Prop :=
  bytes.length = cellSize ∧ ∃ externalPayload, parseCell C sharedKey bytes = some externalPayload ∧
    (r.handle P externalPayload).notices =
      r.device.notices ++ [.hasReceivedMessage messageContent r.item.onionName messageID]

end Receiver

def textExternal (keys : KeyState) (amb : Ambient) (internalPayload : Bytes) (messageID : Nat) :
    Bytes :=
  Message.createDataMessageExternalPaylod P amb keys Constant.dataMessage internalPayload messageID

def textBytes (sharedKey : Bytes) (keys : KeyState) (amb : Ambient) (internalPayload : Bytes)
    (messageID : Nat) : Bytes :=
  (Wire.packDataPayload C (textExternal P keys amb internalPayload messageID)
    (some sharedKey)).getD []

theorem shownText_eq_singleton {keyFile internalPayload : Bytes} {peer messageContent : String}
    {messageID sentID : Nat} :
    Device.shownText P keyFile internalPayload peer messageID =
        [.hasReceivedMessage messageContent peer sentID] ↔
      (JniEntryUtils.decry P keyFile internalPayload).map newString = some messageContent ∧
        messageID = sentID := by
  rw [Device.shownText]
  cases JniEntryUtils.decry P keyFile internalPayload with
  | none => simp
  | some plain => simp

variable {P C} in
theorem reads_iff {r : Receiver} {sharedKey : Bytes} (hr : r.Connected sharedKey)
    (hkey : sharedKey.length = 32) {keys : KeyState} {amb : Ambient} {internalPayload : Bytes}
    {cellID : Nat} (hid : cellID < 2 ^ 31) {messageContent : String} {messageID : Nat} :
    r.Reads P C sharedKey (textBytes P C sharedKey keys amb internalPayload cellID)
        messageContent messageID ↔
      internalPayload.length ≤ 2002 ∧
      textBytes P C sharedKey keys amb internalPayload cellID ≠ List.replicate cellSize 0 ∧
      r.device.keys.readText P internalPayload = some messageContent ∧ cellID = messageID := by
  have hlengths : sharedKey.length ∈ AESCrypto.keyLengths := by
    rw [hkey]
    decide
  obtain ⟨bytes, hbytes, hlength, hparse⟩ := Wire.packDataPayload_spec C
    (textExternal P keys amb internalPayload cellID) hlengths
  have hcell : textBytes P C sharedKey keys amb internalPayload cellID = bytes := by
    rw [textBytes, hbytes, Option.getD_some]
  have hplain : (textExternal P keys amb internalPayload cellID).length =
      max (45 + internalPayload.length) 2047 := by
    rw [textExternal, Message.createDataMessageExternalPaylod, Message.externalPayload_length_eq,
      List.length_append, keys.cellXor_length, Constant.externalDataLegth]
    omega
  have hhandle : internalPayload.length ≤ 2002 →
      ((r.handle P (textExternal P keys amb internalPayload cellID)).notices =
        r.device.notices ++ [.hasReceivedMessage messageContent r.item.onionName messageID] ↔
      r.device.keys.readText P internalPayload = some messageContent ∧ cellID = messageID) := by
    intro hle
    have hnotices : (r.handle P (textExternal P keys amb internalPayload cellID)).notices =
        r.device.notices ++ Device.shownText P r.device.keys.keyFile internalPayload
          r.item.onionName cellID :=
      Device.dataMessageHandle_text P r.env hr.listed (by rw [hr.shareKey]; rfl) rfl (by omega) hid
    rw [hnotices, List.append_cancel_left_eq, shownText_eq_singleton, KeyState.readText]
  rw [hcell]
  constructor
  · rintro ⟨hsize, external, hopen, hnotices⟩
    have hle : internalPayload.length ≤ 2002 := by
      rw [hlength, hplain, cellSize] at hsize
      omega
    have hzero : bytes ≠ List.replicate cellSize 0 := by
      intro hz
      rw [parseCell, if_pos hz] at hopen
      cases hopen
    rw [parseCell, if_neg hzero, hparse] at hopen
    obtain rfl := Option.some.inj hopen
    exact ⟨hle, hzero, (hhandle hle).mp hnotices⟩
  · rintro ⟨hle, hzero, hread⟩
    refine ⟨?_, _, ?_, (hhandle hle).mpr hread⟩
    · rw [hlength, hplain, Nat.max_eq_right (by omega)]
      rfl
    · rw [parseCell, if_neg hzero, hparse]

section Resend

variable (sealing : Ambient) {d : Device} {env : Env} {onionName : String}
  {conn : ConnectionStatusItem} {sharedKey : Bytes}

def resentItem (keys : KeyState) (amb : Ambient) (onionName : String)
    (conn : ConnectionStatusItem) (tmp : FailedTextMessage) : MessageItem (Option Cell) :=
  { onionName := onionName, socket := conn.socket
    data := Message.packDataPayload
      (textExternal P keys amb (getBytes tmp.rawMessage) amb.messageID) conn.shareKey
    type := 1, purpose := 0, rawMessage := tmp.rawMessage }

theorem resendText_queue (d : Device) (env : Env) (onionName : String)
    (conn : ConnectionStatusItem) :
    (d.resendText P env onionName conn).sendQueue = d.sendQueue ++
      (d.failedQueue.filter (fun tmp => tmp.onionName = onionName)).mapIdx
        (fun i tmp => resentItem P d.keys (env.ambient i) onionName conn tmp) := rfl

structure ResendReads (r : Receiver) (sharedKey : Bytes) (keys : KeyState) (amb : Ambient)
    (t : SentText) : Prop where
  length_le : (getBytes t.messageContent).length ≤ 2002
  not_keepAlive : textBytes P C sharedKey keys amb (getBytes t.messageContent) amb.messageID ≠
    List.replicate cellSize 0
  decrypts : r.device.keys.readText P (getBytes t.messageContent) = some t.messageContent
  messageID_eq : amb.messageID = t.messageID

variable {P C}

theorem first_send_reads_iff {r : Receiver} (hr : r.Connected sharedKey)
    (hkey : sharedKey.length = 32) {t : SentText} (hid : t.messageID < 2 ^ 31) :
    r.Reads P C sharedKey (t.cell P C sharedKey) t.messageContent t.messageID ↔
      t.Fits P C sharedKey ∧ r.device.keys.readText P (t.inner P) = some t.messageContent := by
  have hreads : r.Reads P C sharedKey (t.cell P C sharedKey) t.messageContent t.messageID ↔
      (t.inner P).length ≤ 2002 ∧ t.cell P C sharedKey ≠ List.replicate cellSize 0 ∧
      r.device.keys.readText P (t.inner P) = some t.messageContent ∧
        t.messageID = t.messageID := reads_iff hr hkey hid
  rw [hreads]
  constructor
  · rintro ⟨hle, hzero, hread, -⟩
    exact ⟨⟨hle, hzero⟩, hread⟩
  · rintro ⟨⟨hle, hzero⟩, hread⟩
    exact ⟨hle, hzero, hread, rfl⟩

theorem resent_texts_read (hconn : conn.shareKey = some sharedKey) (hkey : sharedKey.length = 32)
    {r : Receiver} (hr : r.Connected sharedKey) {originals : List SentText}
    (hqueue : d.failedQueue.filter (fun tmp => tmp.onionName = onionName) =
      originals.map (SentText.failed onionName))
    (hid : ∀ i, (env.ambient i).messageID < 2 ^ 31) :
    ∃ items : List (MessageItem (Option Cell)),
      (d.resendText P env onionName conn).sendQueue = d.sendQueue ++ items ∧
      items.length = originals.length ∧
      ∀ i t, originals[i]? = some t → ∃ item bytes, items[i]? = some item ∧
        item.data.bind (Cell.wire C sealing) = some bytes ∧
        (r.Reads P C sharedKey bytes t.messageContent t.messageID ↔
          ResendReads P C r sharedKey d.keys (env.ambient i) t) := by
  refine ⟨_, resendText_queue P d env onionName conn, ?_, ?_⟩
  · rw [List.length_mapIdx, hqueue, List.length_map]
  · intro i t ht
    have hlengths : sharedKey.length ∈ AESCrypto.keyLengths := by
      rw [hkey]
      decide
    obtain ⟨bytes, hbytes, -, -⟩ := Wire.packDataPayload_spec C (textExternal P d.keys
      (env.ambient i) (getBytes t.messageContent) (env.ambient i).messageID) hlengths
    have hcell : bytes = textBytes P C sharedKey d.keys (env.ambient i)
        (getBytes t.messageContent) (env.ambient i).messageID := by
      rw [textBytes, hbytes, Option.getD_some]
    refine ⟨resentItem P d.keys (env.ambient i) onionName conn (t.failed onionName), bytes,
      ?_, ?_, ?_⟩
    · rw [List.getElem?_mapIdx, hqueue, List.getElem?_map, ht, Option.map_some, Option.map_some]
    · rw [resentItem, hconn, Wire.wire_packDataPayload]
      exact hbytes
    · rw [hcell, reads_iff hr hkey (hid i)]
      constructor
      · rintro ⟨hle, hzero, hread, heq⟩
        exact ⟨hle, hzero, hread, heq⟩
      · rintro ⟨hle, hzero, hread, heq⟩
        exact ⟨hle, hzero, hread, heq⟩

end Resend

def bobItem : ConnectionStatusItem :=
  { onionName := "alice", socket := 3, status := 1, shareKey := some Device.talkingKey }

def bob : Receiver :=
  { device := { onionName := "bob", privateKey := ⟨2⟩, keys := { keyFile := [5] }
                conns := { allConByOnionName :=
                  (∅ : Library.HashMap String ConnectionItems).put "alice" [bobItem] } }
    env := {}, item := bobItem, peer := "alice", socket := 3 }

theorem bob_connected : bob.Connected Device.talkingKey := ⟨by decide +kernel, rfl⟩

def unsent : SentText :=
  { keys := { keyFile := [5] }, ambient := {}, messageContent := "hi", messageID := 4242 }

def failedTalking : Device := { Device.talking with failedQueue := [unsent.failed "bob"] }

theorem resent_texts_read_unsent :
    ∃ items : List (MessageItem (Option Cell)),
      (failedTalking.resendText demoPlatform {} "bob" Device.talkingItem).sendQueue =
        failedTalking.sendQueue ++ items ∧ items.length = [unsent].length ∧
      ∀ (i : Nat) (t : SentText), [unsent][i]? = some t → ∃ item bytes,
        items[i]? = some item ∧ item.data.bind (Cell.wire demoCrypto {}) = some bytes ∧
        (bob.Reads demoPlatform demoCrypto Device.talkingKey bytes t.messageContent t.messageID ↔
          ResendReads demoPlatform demoCrypto bob Device.talkingKey failedTalking.keys {} t) :=
  resent_texts_read {} (rfl : Device.talkingItem.shareKey = some Device.talkingKey) rfl
    bob_connected (by decide +kernel) (fun _ => (by decide : 1000 < 2 ^ 31))

theorem unsent_fits : unsent.Fits demoPlatform demoCrypto Device.talkingKey where
  inner_le := by decide +kernel
  not_keepAlive := by
    intro h
    have hhead : (unsent.cell demoPlatform demoCrypto Device.talkingKey).head? ≠
        (List.replicate cellSize 0).head? := by decide +kernel
    exact hhead (congrArg List.head? h)

theorem resent_text_unreadable :
    bob.Reads demoPlatform demoCrypto Device.talkingKey
      (unsent.cell demoPlatform demoCrypto Device.talkingKey) "hi" 4242 ∧
    ∀ item ∈ (failedTalking.resendText demoPlatform {} "bob" Device.talkingItem).sendQueue,
      ∀ bytes, item.data.bind (Cell.wire demoCrypto {}) = some bytes →
        ¬ bob.Reads demoPlatform demoCrypto Device.talkingKey bytes "hi" 4242 := by
  refine ⟨?_, ?_⟩
  · exact (first_send_reads_iff bob_connected rfl (t := unsent) (by decide)).mpr
      ⟨unsent_fits, by decide +kernel⟩
  · have hmine : failedTalking.failedQueue.filter (fun tmp => tmp.onionName = "bob") =
        [unsent.failed "bob"] := by decide +kernel
    intro item hitem bytes hbytes hreads
    rw [resendText_queue, hmine] at hitem
    have hresent : item = resentItem demoPlatform failedTalking.keys {} "bob" Device.talkingItem
        (unsent.failed "bob") := List.mem_singleton.mp hitem
    rw [hresent, resentItem, show Device.talkingItem.shareKey = some Device.talkingKey from rfl,
      Wire.wire_packDataPayload] at hbytes
    have hcell : bytes = textBytes demoPlatform demoCrypto Device.talkingKey failedTalking.keys
        {} (getBytes "hi") 1000 := by
      rw [textBytes]
      exact (congrArg (Option.getD · []) hbytes).symm
    rw [hcell, reads_iff bob_connected rfl (by decide)] at hreads
    exact absurd hreads.2.2.2 (by decide)

end TextResend

end TorChat
