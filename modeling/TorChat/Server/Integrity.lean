import TorChat.Server.Emissions
import TorChat.Util.DemoPlatform

namespace TorChat

open Library (Bytes slice?)

namespace Integrity

variable (P : Platform)

def LengthFits (externalPayload : Bytes) : Prop :=
  ∃ length, Message.payloadLength externalPayload = some length ∧
    Constant.byteInternalPayloadBegin + length + 20 ≤ externalPayload.length

def HashMatches (externalPayload : Bytes) : Prop :=
  ∀ length, Message.payloadLength externalPayload = some length →
    P.sha1 (externalPayload.take (Constant.byteInternalPayloadBegin + length)) =
      (externalPayload.drop (Constant.byteInternalPayloadBegin + length)).take 20

def Intact (externalPayload : Bytes) : Prop :=
  LengthFits externalPayload ∧ HashMatches P externalPayload

def handlerTypes : List Nat :=
  [Constant.dataMessage, Constant.dataFileMeta, Constant.dataFileReady, Constant.dataFileData,
    Constant.dataFileDone, Constant.dataAck]

def Passed (d : Device) (item : MessageItem Bytes) : Prop :=
  ∃ statusItem messageID messageType internalPayload,
    d.Reads P item statusItem messageID messageType internalPayload ∧ messageType ∈ handlerTypes

structure Checked (d : Device) (item : MessageItem Bytes) : Prop where
  passed : Passed P d item ↔ Intact P item.data
  rejected : ¬ Intact P item.data → ∀ env, d.dataMessageHandle P env item = d

-- the connection is still listed with its key, the message number is below 2^31 and the message
-- type has a handler
def Readable (d : Device) (item : MessageItem Bytes) : Prop :=
  (∃ statusItem, d.conns.getConnectionStatusItem item.onionName item.socket = some statusItem ∧
    statusItem.shareKey.isNone = false) ∧
  (∃ messageID, Message.parseMessageID item.data = some messageID) ∧
  ∃ messageType ∈ handlerTypes, Message.parseMessageType item.data = some messageType

variable {P} {d : Device} {item : MessageItem Bytes}

theorem parse_some_iff (externalPayload : Bytes) :
    (∃ internalPayload, Message.parseExternalPaylod P externalPayload = some internalPayload) ↔
      LengthFits externalPayload := by
  rw [Message.parseExternalPaylod]
  constructor
  · rintro ⟨internalPayload, h⟩
    simp only [Option.bind_eq_bind, Option.bind_eq_some_iff] at h
    obtain ⟨length, hlength, -, -, -, -, primitiveHash, hhash, -⟩ := h
    exact ⟨length, hlength, (Library.slice?_eq_some hhash).1⟩
  · rintro ⟨length, hlength, hfits⟩
    have hslice (i n : Nat) (hin : i + n ≤ externalPayload.length) :
        Message.subBytes externalPayload i n = some ((externalPayload.drop i).take n) :=
      if_pos hin
    rw [hlength, Option.bind_eq_bind, Option.bind_some, hslice _ _ (by omega),
      hslice _ _ (by omega), hslice _ _ hfits]
    simp only [Option.bind_eq_bind, Option.bind_some, ite_self]
    exact ⟨_, rfl⟩

theorem passed_iff : Passed P d item ↔ Readable d item ∧ LengthFits item.data := by
  constructor
  · rintro ⟨statusItem, messageID, messageType, internalPayload, hreads, htype⟩
    exact ⟨⟨⟨statusItem, hreads.conn, hreads.key⟩, ⟨messageID, hreads.id⟩, messageType, htype,
      hreads.type⟩, (parse_some_iff item.data).mp ⟨internalPayload, hreads.payload⟩⟩
  · rintro ⟨⟨⟨statusItem, hconn, hkey⟩, ⟨messageID, hid⟩, messageType, htype, hparse⟩, hfits⟩
    obtain ⟨internalPayload, hpayload⟩ := (parse_some_iff item.data).mpr hfits
    exact ⟨statusItem, messageID, messageType, internalPayload,
      ⟨hconn, hkey, hid, hparse, hpayload⟩, htype⟩

theorem dispatch_unknown {messageType : Nat} (h : messageType ∉ handlerTypes) (env : Env)
    (statusItem : ConnectionStatusItem) (messageID : Nat) (internalPayload : Bytes) :
    d.dispatchDataMessage P env statusItem item messageID messageType internalPayload = d := by
  have hne (known : Nat) (hknown : known ∈ handlerTypes) : messageType ≠ known := by
    rintro rfl
    exact h hknown
  rw [Device.dispatchDataMessage, if_neg (hne _ (by decide)), if_neg (hne _ (by decide)),
    if_neg (hne _ (by decide)), if_neg (hne _ (by decide)), if_neg (hne _ (by decide)),
    if_neg (hne _ (by decide))]

theorem unchanged_of_not_passed (h : ¬ Passed P d item) (env : Env) :
    d.dataMessageHandle P env item = d := by
  rcases Device.dataMessageHandle_cases P env d item with
    hsame | ⟨statusItem, messageID, messageType, internalPayload, hreads, hdispatch⟩
  · exact hsame
  · rw [hdispatch]
    apply dispatch_unknown
    intro htype
    exact h ⟨statusItem, messageID, messageType, internalPayload, hreads, htype⟩

theorem not_checked_of_wrong_hash (hreadable : Readable d item) (hfits : LengthFits item.data)
    (hhash : ¬ HashMatches P item.data) : ¬ Checked P d item := by
  intro h
  exact hhash (h.passed.mp (passed_iff.mpr ⟨hreadable, hfits⟩)).2

theorem checked_of_hashed (hreadable : Readable d item)
    (h : LengthFits item.data → HashMatches P item.data) : Checked P d item where
  passed := by
    rw [passed_iff]
    exact ⟨fun hpassed => ⟨hpassed.2, h hpassed.2⟩, fun hintact => ⟨hreadable, hintact.1⟩⟩
  rejected := by
    intro hbroken
    apply unchanged_of_not_passed
    intro hpassed
    have hfits := (passed_iff.mp hpassed).2
    exact hbroken ⟨hfits, h hfits⟩

theorem checked_of_unreadable (hreadable : ¬ Readable d item) (h : ¬ Intact P item.data) :
    Checked P d item where
  passed := by
    rw [passed_iff]
    exact ⟨fun hpassed => absurd hpassed.1 hreadable, fun hintact => absurd hintact h⟩
  rejected := by
    intro _
    apply unchanged_of_not_passed
    exact fun hpassed => hreadable (passed_iff.mp hpassed).1

theorem checked_iff (P : Platform) (d : Device) (item : MessageItem Bytes) :
    Checked P d item ↔
      (Readable d item → LengthFits item.data → HashMatches P item.data) ∧
        (¬ Readable d item → ¬ Intact P item.data) := by
  constructor
  · intro h
    constructor
    · intro hreadable hfits
      by_contra hhash
      exact not_checked_of_wrong_hash hreadable hfits hhash h
    · intro hreadable hintact
      exact hreadable (passed_iff.mp (h.passed.mpr hintact)).1
  · rintro ⟨hhashed, hunreadable⟩
    by_cases hreadable : Readable d item
    · exact checked_of_hashed hreadable (hhashed hreadable)
    · exact checked_of_unreadable hreadable (hunreadable hreadable)

def keyed : Device where
  onionName := "me"
  privateKey := ⟨0⟩
  keys := { keyFile := [5] }
  conns := ({} : Connections).addNewConnection {
    onionName := "bob", socket := 1, status := 1, shareKey := some [7] }

-- a FILE_DONE cell of twenty zero bytes with a stored hash of zeros
def altered : MessageItem Bytes where
  onionName := "bob"
  socket := 1
  data := [15, 15, 0, 0, 0, 0, 0, 0, 3, 232, 9, 0, 20] ++ List.replicate 2034 0
  type := 1
  purpose := 0

theorem altered_cell_passed : altered.data.length = 2047 ∧
    ¬ ∀ (P : Platform) (d : Device) (item : MessageItem Bytes), item.data.length = 2047 →
      Checked P d item := by
  refine ⟨by decide +kernel, fun hall => ?_⟩
  have hlength : Message.payloadLength altered.data = some 20 := by decide +kernel
  refine not_checked_of_wrong_hash ?_ ⟨20, hlength, by decide +kernel⟩ ?_
    (hall demoPlatform keyed altered (by decide +kernel))
  · refine ⟨⟨{ onionName := "bob", socket := 1, status := 1, shareKey := some [7] },
      by decide +kernel, rfl⟩, ⟨1000, by decide +kernel⟩, Constant.dataFileDone, by decide,
      by decide +kernel⟩
  · intro hhash
    have hstored := hhash 20 hlength
    revert hstored
    decide +kernel

end Integrity

end TorChat
