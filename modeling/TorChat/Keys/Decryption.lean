import TorChat.Keys.Agreement
import TorChat.Message.DataMessage
import TorChat.Util.DemoPlatform

namespace TorChat

open Library (Bytes Machine)

namespace TextSession

open KeyState

structure TextCell where
  index : Nat
  text : String
  externalPayload : Bytes

structure Delivery where
  sentIndex : Nat
  readIndex : Nat
  text : String
  received : Option String
  deriving DecidableEq, Repr

structure Session where
  keys : Side → KeyState
  channel : List TextCell := []
  deliveries : List Delivery := []

inductive Event where
  | handShake (side : Side) (step : HandShakeStep)
  | sendText (text : String) (messageID : Fin (2 ^ 31)) (amb : Ambient)
  | receiveText

variable (P : Platform)

namespace Session

def setKeys (session : Session) (side : Side) (keys : KeyState) : Session :=
  { session with keys := Function.update session.keys side keys }

def handleTextMessageSend (session : Session) (text : String) (messageID : Nat) (amb : Ambient) :
    Session :=
  let keys := session.keys .b
  { session.setKeys .b (keys.textSent messageID) with
    channel := session.channel ++ [{
      index := keys.keyIndex, text := text
      externalPayload := keys.textPayload P amb text messageID }] }

def readCell (keys : KeyState) (externalPayload : Bytes) : Option (KeyState × Option String) := do
  let messageID ← Message.parseMessageID externalPayload
  let internalPayload ← Message.parseExternalPaylod P externalPayload
  let keys ← keys.getRecordXOR externalPayload messageID
  return (keys.writeBack, keys.readText P internalPayload)

def receiveTextMessage (session : Session) : Session :=
  match session.channel with
  | [] => session
  | cell :: rest =>
      let keys := session.keys .a
      let delivery : Delivery := {
        sentIndex := cell.index, readIndex := keys.keyIndex, text := cell.text, received := none }
      let session := { session with channel := rest }
      -- a payload above 2047 bytes is not one 2048-byte cell
      match (if cell.externalPayload.length ≤ Constant.externalDataLegth then
          readCell P keys cell.externalPayload else none) with
      | none => { session with deliveries := session.deliveries ++ [delivery] }
      | some (keys, reply) => { session.setKeys .a keys with
          deliveries := session.deliveries ++ [{ delivery with received := reply }] }

def step (session : Session) : Event → Session
  | .handShake side s => session.setKeys side ((session.keys side).handShake s)
  | .sendText text messageID amb => session.handleTextMessageSend P text messageID amb
  | .receiveText => session.receiveTextMessage P

end Session

def machine : Machine Session Event := ⟨Session.step P⟩

def LeavesHeader (keys : KeyState) (s : HandShakeStep) : Prop :=
  keys.selectedIndex s ≤ 255 → keys.selectedIndex s = keys.keyIndex

def Undisturbed (session : Session) : Event → Prop
  | .handShake side s => LeavesHeader (session.keys side) s
  | .sendText text _ _ => (session.keys .b).TextFits P text
  | .receiveText => True

def ReadAsSent (session : Session) : Prop :=
  ∀ d ∈ session.deliveries, d.readIndex = d.sentIndex ∧ d.received = some d.text

instance (session : Session) : Decidable (ReadAsSent session) :=
  inferInstanceAs (Decidable (∀ d ∈ session.deliveries, _))

structure CarriesText (keys : KeyState) (cell : TextCell) : Prop where
  index : cell.index = keys.keyIndex
  payload : ∃ (amb : Ambient) (messageID : Nat) (sender : KeyState), messageID < 2 ^ 31 ∧
    sender.keyIndex = keys.keyIndex ∧ sender.keyFile.tail = keys.keyFile.tail ∧
    sender.TextFits P cell.text ∧
    cell.externalPayload = sender.textPayload P amb cell.text messageID

structure InStep (session : Session) : Prop where
  index : (session.keys .a).keyIndex = (session.keys .b).keyIndex
  tail : (session.keys .a).keyFile.tail = (session.keys .b).keyFile.tail
  channel : ∀ cell ∈ session.channel, CarriesText P (session.keys .a) cell
  deliveries : ReadAsSent session

variable {P}

theorem carriesText_congr {keys keys' : KeyState} {cell : TextCell} (h : CarriesText P keys cell)
    (hindex : keys'.keyIndex = keys.keyIndex) (htail : keys'.keyFile.tail = keys.keyFile.tail) :
    CarriesText P keys' cell where
  index := by rw [hindex, h.index]
  payload := by
    rw [hindex, htail]
    exact h.payload

theorem textPayload_length {amb : Ambient} {keys : KeyState} {text : String} {messageID : Nat}
    (h : keys.TextFits P text) :
    (keys.textPayload P amb text messageID).length = Constant.externalDataLegth := by
  have hcell := h.cell
  refine Message.externalPayload_length P amb ?_
  simp only [List.length_append, cellXor_length, Constant.externalDataLegth]
  omega

theorem readCell_textPayload (amb : Ambient) {keys sender : KeyState} {text : String}
    {messageID : Nat} (hid : messageID < 2 ^ 31)
    (hP : JniEntryUtils.decry P keys.keyFile
      (JniEntryUtils.entry P keys.keyFile (getBytes text)) = some (getBytes text))
    (hindex : sender.keyIndex = keys.keyIndex) (htail : sender.keyFile.tail = keys.keyFile.tail)
    (hfits : sender.TextFits P text) :
    ∃ keys', Session.readCell P keys (sender.textPayload P amb text messageID) =
        some (keys', some text) ∧
      keys'.keyIndex = keys.keyIndex ∧ keys'.keyFile.tail = keys.keyFile.tail := by
  have hlength : (JniEntryUtils.entry P sender.keyFile (getBytes text)).length < 65536 := by
    have := hfits.cell
    omega
  have hrecord : keys.getRecordXOR (sender.textPayload P amb text messageID) messageID = _ :=
    getRecordXOR_externalPayload P amb keys hlength (parseXor_cellXor sender)
      (cellXor_length sender) (parseXor_cellXor sender) (cellXor_length sender)
  have hid' : Message.parseMessageID (sender.textPayload P amb text messageID) =
      some messageID := Message.parseMessageID_externalPayload P amb hid
  have hinternal : Message.parseExternalPaylod P (sender.textPayload P amb text messageID) =
      some (JniEntryUtils.entry P sender.keyFile (getBytes text)) :=
    Message.parseExternalPaylod_externalPayload P amb hlength
  have hread := readText_entry hP htail hindex
  let received := keys.receiveRecord {
    startFileName := 1, startFileIndex := sender.keyIndex
    endFileName := 1, endFileIndex := sender.keyIndex } messageID
  refine ⟨received.writeBack, ?_, keyIndex_writeBack received, tail_write received _⟩
  have hreply : received.readText P (JniEntryUtils.entry P sender.keyFile (getBytes text)) =
      some text := hread
  rw [Session.readCell, hid', Option.bind_eq_bind, Option.bind_some, hinternal,
    Option.bind_eq_bind, Option.bind_some, hrecord, Option.bind_eq_bind, Option.bind_some,
    Option.pure_def]
  exact congrArg (fun r => some (received.writeBack, r)) hreply

theorem inStep_of_same {session session' : Session} (h : InStep P session)
    (hindex : ∀ s, (session'.keys s).keyIndex = (session.keys s).keyIndex)
    (htail : ∀ s, (session'.keys s).keyFile.tail = (session.keys s).keyFile.tail)
    (hchannel : ∀ cell ∈ session'.channel, CarriesText P (session.keys .a) cell)
    (hdeliveries : ReadAsSent session') : InStep P session' where
  index := by rw [hindex, hindex, h.index]
  tail := by rw [htail, htail, h.tail]
  channel := fun cell hc => carriesText_congr (hchannel cell hc) (hindex .a) (htail .a)
  deliveries := hdeliveries

theorem update_same {α : Type} (f : KeyState → α) {keys : Side → KeyState} {side : Side}
    {k : KeyState} (h : f k = f (keys side)) (s : Side) :
    f (Function.update keys side k s) = f (keys s) := by
  by_cases hs : s = side
  · subst hs
    rw [Function.update_self, h]
  · rw [Function.update_of_ne hs]

theorem inStep_handShake {session : Session} {side : Side} {s : HandShakeStep}
    (h : InStep P session) (hg : LeavesHeader (session.keys side) s) :
    InStep P (session.step P (.handShake side s)) := by
  have hindex : ((session.keys side).handShake s).keyIndex = (session.keys side).keyIndex := by
    rw [keyIndex_handShake]
    split
    · rename_i hle
      exact hg hle
    · rfl
  exact inStep_of_same h (update_same KeyState.keyIndex hindex)
    (update_same (fun k => k.keyFile.tail) (tail_handShake _ s)) h.channel h.deliveries

theorem inStep_sendText {session : Session} {text : String} {messageID : Fin (2 ^ 31)}
    {amb : Ambient} (h : InStep P session) (hfits : (session.keys .b).TextFits P text) :
    InStep P (session.step P (.sendText text messageID amb)) := by
  refine inStep_of_same h (update_same KeyState.keyIndex (keyIndex_writeBack _))
    (update_same (fun k => k.keyFile.tail) (tail_write _ _)) ?_ h.deliveries
  intro cell hcell
  rcases List.mem_append.mp hcell with hold | hnew
  · exact h.channel cell hold
  · rw [List.mem_singleton] at hnew
    subst hnew
    exact ⟨h.index.symm, amb, messageID, session.keys .b, messageID.isLt, h.index.symm,
      h.tail.symm, hfits, rfl⟩

theorem inStep_receiveText {session : Session} (h : InStep P session)
    (hP : ∀ keyFile x, x.length < 2 ^ 31 →
      JniEntryUtils.decry P keyFile (JniEntryUtils.entry P keyFile x) = some x) :
    InStep P (session.step P .receiveText) := by
  cases hchannel : session.channel with
  | nil => simpa only [Session.step, Session.receiveTextMessage, hchannel] using h
  | cons cell rest =>
    have hcarries := h.channel cell (by rw [hchannel]; exact List.mem_cons_self)
    obtain ⟨amb, messageID, sender, hid, hindex, htail, hfits, hpayload⟩ := hcarries.payload
    have hlength : (sender.textPayload P amb cell.text messageID).length =
        Constant.externalDataLegth := textPayload_length hfits
    obtain ⟨keys', hread, hindex', htail'⟩ := readCell_textPayload amb hid
      (hP (session.keys .a).keyFile _ hfits.array) hindex htail hfits
    have hstep : session.step P .receiveText =
        { keys := Function.update session.keys .a keys'
          channel := rest
          deliveries := session.deliveries ++ [{
            sentIndex := cell.index, readIndex := (session.keys .a).keyIndex
            text := cell.text, received := some cell.text }] } := by
      rw [← hpayload] at hlength hread
      simp only [Session.step, Session.receiveTextMessage, hchannel, hlength, le_refl, if_true,
        hread, Session.setKeys]
    rw [hstep]
    refine inStep_of_same h (update_same KeyState.keyIndex hindex')
      (update_same (fun k => k.keyFile.tail) htail') ?_ ?_
    · intro c hc
      exact h.channel c (by rw [hchannel]; exact List.mem_cons_of_mem cell hc)
    · intro d hd
      rcases List.mem_append.mp hd with hold | hnew
      · exact h.deliveries d hold
      · rw [List.mem_singleton] at hnew
        subst hnew
        exact ⟨hcarries.index.symm, rfl⟩

theorem texts_read_as_sent
    (hP : ∀ keyFile x, x.length < 2 ^ 31 →
      JniEntryUtils.decry P keyFile (JniEntryUtils.entry P keyFile x) = some x)
    {keys : Side → KeyState} (hmaterial : (keys .a).keyFile.tail = (keys .b).keyFile.tail)
    (side : Side) {events : List Event}
    (h : (machine P).Guarded (Undisturbed P)
      { keys := KeyAgreement.established keys side } events) :
    ReadAsSent ((machine P).run { keys := KeyAgreement.established keys side } events) := by
  have hstart : InStep P { keys := KeyAgreement.established keys side } := {
    index := KeyAgreement.indices_agree side (KeyAgreement.established_index keys side)
    tail := by rw [KeyAgreement.established_tail, KeyAgreement.established_tail, hmaterial]
    channel := fun _ hc => absurd hc List.not_mem_nil
    deliveries := fun _ hd => absurd hd List.not_mem_nil }
  refine ((machine P).guarded_invariant ?_ h hstart).deliveries
  intro session event hin hg
  cases event with
  | handShake side s => exact inStep_handShake hin hg
  | sendText text messageID amb => exact inStep_sendText hin hg
  | receiveText => exact inStep_receiveText hin hP

def slotKeys : Side → KeyState :=
  fun _ => { keyFile := 5 :: (List.replicate 160 0 ++ [1]) }

def afterHandShake : Session := { keys := KeyAgreement.established slotKeys .a }

theorem texts_read_as_sent_demo :
    ReadAsSent ((machine demoPlatform).run afterHandShake
      [.handShake .b (.acceptAuth 1 6), .sendText "hi" 1000 {}, .receiveText]) :=
  texts_read_as_sent (fun keyFile _ hx => JniEntryUtils.decry_entry_demo keyFile hx) rfl .a
    ⟨fun _ => by decide +kernel, ⟨by decide +kernel, by decide +kernel⟩, trivial, trivial⟩

theorem third_party_request_garbles_text :
    ¬ ReadAsSent ((machine demoPlatform).run afterHandShake
      [.handShake .b .openRequest, .sendText "hi" 1000 {}, .receiveText]) := by
  decide +kernel

end TextSession

end TorChat
