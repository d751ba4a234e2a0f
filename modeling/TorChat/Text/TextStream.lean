import TorChat.Text.Framing

namespace TorChat

open Library (Bytes frames)
open RequestHandler (cellSize parseCell recovered)

namespace Message

theorem externalPayload_length_eq (P : Platform) (amb : Ambient) (messageType messageID : Nat)
    (internalPayload pointers : Bytes) (length : Nat) :
    (externalPayload P amb messageType messageID internalPayload pointers length).length =
      max (33 + internalPayload.length + pointers.length) length := by
  simp only [externalPayload, List.length_append, hashed_length,
    AESCrypto.paddingToLength_length]
  omega

theorem parseExternalPaylod_length {P : Platform} {external internal : Bytes}
    (h : parseExternalPaylod P external = some internal) :
    internal.length + 33 ≤ external.length := by
  rw [parseExternalPaylod] at h
  simp only [Option.bind_eq_bind, Option.bind_eq_some_iff, ite_self, Option.some.injEq] at h
  obtain ⟨length, _, sub, hsub, _, _, hash, hhash, rfl⟩ := h
  have hlength := Library.slice?_length hsub
  have hle := (Library.slice?_eq_some hhash).1
  rw [Constant.byteInternalPayloadBegin] at hle
  omega

end Message

structure SentText where
  keys : KeyState
  ambient : Ambient
  messageContent : String
  messageID : Nat

namespace SentText

variable (P : Platform) (C : Crypto) (sharedKey : Bytes)

def inner (t : SentText) : Bytes :=
  JniEntryUtils.entry P t.keys.keyFile (getBytes t.messageContent)

def payload (t : SentText) : Bytes :=
  t.keys.textPayload P t.ambient t.messageContent t.messageID

def cell (t : SentText) : Bytes :=
  (Wire.packDataPayload C (t.payload P) (some sharedKey)).getD []

def item (remoteOnion : String) (socket : Nat) (t : SentText) : MessageItem (Option Cell) :=
  { onionName := remoteOnion, socket := socket
    data := Message.packDataPayload (t.payload P) (some sharedKey)
    type := 1, purpose := 0, rawMessage := t.messageContent }

structure Fits (t : SentText) : Prop where
  inner_le : (t.inner P).length ≤ 2002
  not_keepAlive : t.cell P C sharedKey ≠ List.replicate cellSize 0

theorem payload_length (t : SentText) :
    (t.payload P).length = max (45 + (t.inner P).length) 2047 := by
  rw [payload, KeyState.textPayload, Message.createDataMessageExternalPaylod,
    Message.externalPayload_length_eq, List.length_append, t.keys.cellXor_length,
    Constant.externalDataLegth, inner]
  congr 1
  omega

variable {C} {sharedKey}

theorem cell_spec (hkey : sharedKey.length = 32) (t : SentText) :
    Wire.packDataPayload C (t.payload P) (some sharedKey) = some (t.cell P C sharedKey) ∧
      (t.cell P C sharedKey).length = (max (45 + (t.inner P).length) 2047 / 16 + 1) * 16 ∧
      Wire.parseDataPayload C (t.cell P C sharedKey) (some sharedKey) = some (t.payload P) := by
  have hlengths : sharedKey.length ∈ AESCrypto.keyLengths := by
    rw [hkey]
    decide
  obtain ⟨bytes, hbytes, hlength, hparse⟩ := Wire.packDataPayload_spec C (t.payload P) hlengths
  have hcell : t.cell P C sharedKey = bytes := by rw [cell, hbytes, Option.getD_some]
  rw [hcell, hlength, payload_length]
  exact ⟨hbytes, rfl, hparse⟩

theorem item_wire (hkey : sharedKey.length = 32) (sealing : Ambient) (remoteOnion : String)
    (socket : Nat) (t : SentText) :
    (t.item P sharedKey remoteOnion socket).data.bind (Cell.wire C sealing) =
      some (t.cell P C sharedKey) := by
  rw [item, Wire.wire_packDataPayload, (cell_spec P hkey t).1]

theorem cell_length_of_fits (hkey : sharedKey.length = 32) {t : SentText}
    (h : t.Fits P C sharedKey) : (t.cell P C sharedKey).length = cellSize := by
  have hle := h.inner_le
  rw [(cell_spec P hkey t).2.1, Nat.max_eq_right (by omega)]
  rfl

theorem inner_le_of_aligned (hkey : sharedKey.length = 32) {t : SentText}
    (hdvd : cellSize ∣ (t.cell P C sharedKey).length) (hle : (t.inner P).length ≤ 2014) :
    (t.inner P).length ≤ 2002 := by
  rw [(cell_spec P hkey t).2.1, cellSize] at hdvd
  omega

theorem recovered_cell (hkey : sharedKey.length = 32) {t : SentText}
    (h : t.Fits P C sharedKey) : recovered P C sharedKey [t.cell P C sharedKey] = [t.inner P] := by
  have hle := h.inner_le
  have hparse : parseCell C sharedKey (t.cell P C sharedKey) = some (t.payload P) := by
    rw [parseCell, if_neg h.not_keepAlive, (cell_spec P hkey t).2.2]
  have hread : Message.parseExternalPaylod P (t.payload P) = some (t.inner P) :=
    Message.parseExternalPaylod_externalPayload P t.ambient (by rw [inner] at hle; omega)
  rw [recovered, List.filterMap_cons_some hparse, List.filterMap_nil,
    List.filterMap_cons_some hread, List.filterMap_nil]

end SentText

namespace RequestHandler

variable (P : Platform) (C : Crypto) (sharedKey : Bytes)

theorem recovered_cons (cell : Bytes) (cells : List Bytes) :
    recovered P C sharedKey (cell :: cells) =
      recovered P C sharedKey [cell] ++ recovered P C sharedKey cells := by
  rw [recovered, recovered, recovered, ← List.filterMap_append, ← List.filterMap_append,
    List.singleton_append]

theorem recovered_length_le (cells : List Bytes) :
    (recovered P C sharedKey cells).length ≤ cells.length :=
  (List.length_filterMap_le _ _).trans (List.length_filterMap_le _ _)

variable {P C sharedKey}

theorem length_of_mem_recovered {cells : List Bytes} {internal : Bytes}
    (hcells : ∀ c ∈ cells, c.length = cellSize)
    (h : internal ∈ recovered P C sharedKey cells) : internal.length ≤ 2014 := by
  obtain ⟨external, hexternal, hparse⟩ := List.mem_filterMap.mp h
  obtain ⟨cell, hcell, hopen⟩ := List.mem_filterMap.mp hexternal
  have hlength := hcells cell hcell
  rw [parseCell] at hopen
  split at hopen
  · cases hopen
  · have hne : cell ≠ [] := by
      intro hnil
      rw [hnil] at hlength
      exact absurd hlength (by decide)
    have hlt : external.length < cell.length := AESCrypto.decrypt_length_lt C hne hopen
    have hle := Message.parseExternalPaylod_length hparse
    rw [hlength, cellSize] at hlt
    omega

end RequestHandler

namespace Device

variable (P : Platform) (C : Crypto) (sealing : Ambient) (remoteOnion : String)

def sendTexts : List (Env × String × Nat) → Device → Device
  | [], d => d
  | (env, messageContent, messageID) :: rest, d =>
      sendTexts rest (d.handleTextMessageSend P env messageContent remoteOnion messageID)

def sentTexts : List (Env × String × Nat) → KeyState → List SentText
  | [], _ => []
  | (env, messageContent, messageID) :: rest, keys =>
      { keys := keys, ambient := env.ambient 0, messageContent := messageContent
        messageID := messageID } :: sentTexts rest (keys.textSent messageID)

def Carries (sharedKey : Bytes) (items : List (MessageItem (Option Cell)))
    (payloads : List Bytes) : Prop :=
  ∃ cells : List Bytes, items.map (fun i => i.data.bind (Cell.wire C sealing)) = cells.map some ∧
    (∀ c ∈ cells, cellSize ∣ c.length) ∧
    recovered P C sharedKey (frames cellSize cells.flatten) = payloads

variable {remoteOnion} in
theorem sendTexts_queue {statusItem : ConnectionStatusItem} {sharedKey : Bytes}
    (texts : List (Env × String × Nat)) {d : Device}
    (hconn : d.conns.getConnectionStatusItemByOnionName remoteOnion Constant.socketPurposeText =
      some statusItem) (hkey : statusItem.shareKey = some sharedKey) :
    (sendTexts P remoteOnion texts d).sendQueue = d.sendQueue ++
      (sentTexts texts d.keys).map (SentText.item P sharedKey remoteOnion statusItem.socket) := by
  induction texts generalizing d with
  | nil =>
    rw [sendTexts, sentTexts, List.map_nil, List.append_nil]
  | cons text rest ih =>
    obtain ⟨env, messageContent, messageID⟩ := text
    have hsend : d.handleTextMessageSend P env messageContent remoteOnion messageID =
        (d.setKeys (d.keys.textSent messageID)).enqueue [SentText.item P sharedKey remoteOnion
          statusItem.socket { keys := d.keys, ambient := env.ambient 0
                              messageContent := messageContent, messageID := messageID }] := by
      simp only [handleTextMessageSend, hconn, hkey]
      rfl
    have hrest := ih (d := (d.setKeys (d.keys.textSent messageID)).enqueue [SentText.item P
      sharedKey remoteOnion statusItem.socket { keys := d.keys, ambient := env.ambient 0
                                                messageContent := messageContent
                                                messageID := messageID }]) hconn
    rw [sendTexts, hsend, hrest, sentTexts, List.map_cons, enqueue, setKeys, List.append_assoc,
      List.singleton_append]

variable {P C} in
theorem carries_iff {sharedKey : Bytes} (hlength : sharedKey.length = 32) (socket : Nat)
    (sent : List SentText) :
    Carries P C sealing sharedKey (sent.map (SentText.item P sharedKey remoteOnion socket))
      (sent.map (SentText.inner P)) ↔ ∀ t ∈ sent, t.Fits P C sharedKey := by
  have hwire : (sent.map (SentText.item P sharedKey remoteOnion socket)).map
      (fun i => i.data.bind (Cell.wire C sealing)) =
        (sent.map (SentText.cell P C sharedKey)).map some := by
    rw [List.map_map, List.map_map]
    refine List.map_congr_left ?_
    intro t _
    exact SentText.item_wire P hlength sealing remoteOnion socket t
  constructor
  · rintro ⟨cells, hcells, haligned, hrecovered⟩
    rw [hwire] at hcells
    have hsame : sent.map (SentText.cell P C sharedKey) = cells :=
      List.map_injective_iff.mpr (Option.some_injective _) hcells
    subst hsame
    have hfit : ∀ t ∈ sent, (t.inner P).length ≤ 2002 := by
      intro t ht
      have hmem : t.inner P ∈ recovered P C sharedKey
          (frames cellSize (sent.map (SentText.cell P C sharedKey)).flatten) := by
        rw [hrecovered]
        exact List.mem_map_of_mem ht
      exact SentText.inner_le_of_aligned P hlength (haligned _ (List.mem_map_of_mem ht))
        (RequestHandler.length_of_mem_recovered (fun c hc => Library.length_of_mem_frames hc)
          hmem)
    have hfull : ∀ c ∈ sent.map (SentText.cell P C sharedKey), c.length = cellSize := by
      intro c hc
      obtain ⟨t, ht, rfl⟩ := List.mem_map.mp hc
      have hle := hfit t ht
      rw [(SentText.cell_spec P hlength t).2.1, Nat.max_eq_right (by omega)]
      rfl
    rw [Library.frames_flatten (by decide) hfull] at hrecovered
    intro t ht
    refine ⟨hfit t ht, ?_⟩
    intro hzero
    -- a skipped cell leaves fewer payloads than texts
    obtain ⟨before, after, rfl⟩ := List.append_of_mem ht
    have hcount := congrArg List.length hrecovered
    have hskip : parseCell C sharedKey (t.cell P C sharedKey) = none := by
      rw [parseCell, if_pos hzero]
    rw [List.map_append, List.map_cons, recovered, List.filterMap_append,
      List.filterMap_cons_none hskip, ← List.filterMap_append, ← recovered] at hcount
    have hle := RequestHandler.recovered_length_le P C sharedKey
      (before.map (SentText.cell P C sharedKey) ++ after.map (SentText.cell P C sharedKey))
    simp only [List.length_append, List.length_map, List.length_cons] at hcount hle
    omega
  · intro hfits
    have hfull : ∀ c ∈ sent.map (SentText.cell P C sharedKey), c.length = cellSize := by
      intro c hc
      obtain ⟨t, ht, rfl⟩ := List.mem_map.mp hc
      exact SentText.cell_length_of_fits P hlength (hfits t ht)
    refine ⟨sent.map (SentText.cell P C sharedKey), hwire, ?_, ?_⟩
    · intro c hc
      rw [hfull c hc]
    · rw [Library.frames_flatten (by decide) hfull]
      clear hwire hfull
      induction sent with
      | nil => rfl
      | cons t rest ih =>
        rw [List.map_cons, RequestHandler.recovered_cons,
          SentText.recovered_cell P hlength (hfits t List.mem_cons_self),
          ih (fun t' ht' => hfits t' (List.mem_cons_of_mem t ht')), List.map_cons,
          List.singleton_append]

variable {P C} in
theorem text_stream_recovered {statusItem : ConnectionStatusItem} {sharedKey : Bytes}
    {d : Device} (texts : List (Env × String × Nat))
    (hconn : d.conns.getConnectionStatusItemByOnionName remoteOnion Constant.socketPurposeText =
      some statusItem) (hkey : statusItem.shareKey = some sharedKey)
    (hlength : sharedKey.length = 32) :
    ∃ items, (sendTexts P remoteOnion texts d).sendQueue = d.sendQueue ++ items ∧
      items.length = texts.length ∧
      (Carries P C sealing sharedKey items
        ((sentTexts texts d.keys).map (SentText.inner P)) ↔
          ∀ t ∈ sentTexts texts d.keys, t.Fits P C sharedKey) := by
  have hcount : ∀ keys, (sentTexts texts keys).length = texts.length := by
    intro keys
    induction texts generalizing keys with
    | nil => rfl
    | cons text rest ih => rw [sentTexts, List.length_cons, ih, List.length_cons]
  refine ⟨_, sendTexts_queue P texts hconn hkey, ?_,
    carries_iff sealing remoteOnion hlength statusItem.socket _⟩
  rw [List.length_map, hcount]

def talkingKey : Bytes := List.replicate 32 9

def talkingItem : ConnectionStatusItem :=
  { onionName := "bob", socket := 7, status := 1, shareKey := some talkingKey }

def talking : Device :=
  { onionName := "alice", privateKey := ⟨1⟩, keys := { keyFile := [5] }
    conns := { allConByOnionName :=
      (∅ : Library.HashMap String ConnectionItems).put "bob" [talkingItem] } }

theorem talking_connection : talking.conns.getConnectionStatusItemByOnionName "bob"
    Constant.socketPurposeText = some talkingItem := by
  decide +kernel

theorem text_stream_recovered_talking :
    ∃ items, (sendTexts demoPlatform "bob" [({}, "hi", 1000), ({}, "你好", 1001)]
        talking).sendQueue = talking.sendQueue ++ items ∧ items.length = 2 ∧
      (Carries demoPlatform demoCrypto {} talkingKey items ((sentTexts [({}, "hi", 1000),
        ({}, "你好", 1001)] talking.keys).map (SentText.inner demoPlatform)) ↔
          ∀ t ∈ sentTexts [({}, "hi", 1000), ({}, "你好", 1001)] talking.keys,
            t.Fits demoPlatform demoCrypto talkingKey) :=
  text_stream_recovered {} "bob" [({}, "hi", 1000), ({}, "你好", 1001)] talking_connection rfl rfl

theorem not_fits_of_long {t : SentText} {cs : List Char} (hcontent : t.messageContent =
    String.ofList cs) (hlong : 1995 ≤ cs.length) : ¬ t.Fits demoPlatform demoCrypto talkingKey := by
  intro h
  have hinner := h.inner_le
  have hbytes := length_le_getBytes cs
  have hentry := JniEntryUtils.entry_demo_length_ge t.keys.keyFile (getBytes (String.ofList cs))
  rw [SentText.inner, hcontent] at hinner
  omega

def longText : String := String.ofList (List.replicate 2000 'a')

theorem long_text_not_carried :
    ¬ Carries demoPlatform demoCrypto {} talkingKey
      (sendTexts demoPlatform "bob" [({}, longText, 1000)] talking).sendQueue
      ((sentTexts [({}, longText, 1000)] talking.keys).map (SentText.inner demoPlatform)) := by
  have hkey : talkingItem.shareKey = some talkingKey := rfl
  have hlong : 1995 ≤ (List.replicate 2000 'a').length := by
    rw [List.length_replicate]
    decide
  rw [sendTexts_queue demoPlatform [({}, longText, 1000)] talking_connection hkey]
  intro h
  exact not_fits_of_long rfl hlong ((carries_iff {} "bob" rfl 7 _).mp h _ List.mem_cons_self)

end Device

end TorChat
