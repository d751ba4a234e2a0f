import TorChat.Server.Emissions
import Mathlib.Data.List.Perm.Basic

namespace TorChat

open Library (Bytes HashMap)

namespace Cell

def IsText (cell : Cell) : Prop :=
  ∃ sharedKey raw, cell = .data sharedKey raw ∧
    Message.parseMessageType raw = some Constant.dataMessage

theorem not_isText_zeros : ¬ Cell.zeros.IsText := by
  rintro ⟨sharedKey, raw, h, -⟩
  cases h

theorem not_isText_build (handShake : HandShakeMessage) (payload : Bytes) :
    ¬ (handShake.build payload).IsText := by
  rintro ⟨sharedKey, raw, h, -⟩
  cases h

theorem not_isText_of_carries {P : Platform} {cell : Cell} {messageType messageID : Nat}
    {internalPayload : Bytes} (h : cell.Carries P messageType messageID internalPayload)
    (hlt : messageType < 256) (hne : messageType ≠ Constant.dataMessage) : ¬ cell.IsText := by
  rintro ⟨sharedKey, raw, rfl, htype⟩
  obtain ⟨key, amb, pointers, length, hcell⟩ := h
  cases hcell
  rw [Message.parseMessageType_externalPayload P amb hlt, Option.some.injEq] at htype
  exact hne htype

end Cell

namespace MessageItem

def text (i : MessageItem (Option Cell)) : FailedTextMessage :=
  { onionName := i.onionName, rawMessage := i.rawMessage }

def isText (i : MessageItem (Option Cell)) : Bool := i.purpose = Constant.socketPurposeText

-- the cell of a text under a connection's share key; a text that is sent again is not encrypted
def Encloses (P : Platform) (i : MessageItem (Option Cell)) (sharedKey : Option Bytes) : Prop :=
  ∃ amb keys internalPayload messageID,
    (internalPayload = getBytes i.rawMessage ∨
      internalPayload = JniEntryUtils.entry P keys.keyFile (getBytes i.rawMessage)) ∧
    i.data = Message.packDataPayload (Message.createDataMessageExternalPaylod P amb keys
      Constant.dataMessage internalPayload messageID) sharedKey

def Sealed (P : Platform) (conns : Connections) (i : MessageItem (Option Cell)) : Prop :=
  ∃ statusItem,
    conns.getConnectionStatusItemByOnionName i.onionName Constant.socketPurposeText =
      some statusItem ∧
    i.socket = statusItem.socket ∧ i.Encloses P statusItem.shareKey

def NoText (i : MessageItem (Option Cell)) : Prop :=
  i.type = 1 ∧ i.isText = false ∧ ∀ cell, i.data = some cell → ¬ cell.IsText

def Fits (P : Platform) (conns : Connections) (i : MessageItem (Option Cell)) : Prop :=
  i.NoText ∨ i.type = 1 ∧ i.isText = true ∧ i.Sealed P conns

end MessageItem

namespace Device

section Moves

def texts (items : List (MessageItem (Option Cell))) : List FailedTextMessage :=
  (items.filter MessageItem.isText).map MessageItem.text

theorem texts_append (items items' : List (MessageItem (Option Cell))) :
    texts (items ++ items') = texts items ++ texts items' := by
  rw [texts, texts, texts, List.filter_append, List.map_append]

theorem texts_noText {items : List (MessageItem (Option Cell))} (h : ∀ i ∈ items, i.NoText) :
    texts items = [] := by
  rw [texts, List.map_eq_nil_iff, List.filter_eq_nil_iff]
  intro i hi
  rw [(h i hi).2.1]
  decide

def textView (d : Device) : List (Nat × Cell) × List (MessageItem (Option Cell)) ×
    List FailedTextMessage := (d.written, d.sendQueue, d.failedQueue)

-- what leaves failedQueue is appended to sendQueue, and no text is written directly
structure Moves (X : MessageItem (Option Cell) → Prop) (d d' : Device) : Prop where
  written : ∃ cells, d'.written = d.written ++ cells ∧ ∀ x ∈ cells, ¬ x.2.IsText
  queue : ∃ items, d'.sendQueue = d.sendQueue ++ items ∧
    (texts items ++ d'.failedQueue).Perm d.failedQueue ∧ ∀ i ∈ items, X i

variable {X Y : MessageItem (Option Cell) → Prop} {d₀ d d' d'' : Device}

theorem moves_of_view (h : d'.textView = d.textView) : Moves X d d' := by
  obtain ⟨hwritten, hqueue, hfailed⟩ : d'.written = d.written ∧ d'.sendQueue = d.sendQueue ∧
      d'.failedQueue = d.failedQueue := by
    simpa [textView] using h
  constructor
  · exact ⟨[], by rw [hwritten, List.append_nil], fun x hx => absurd hx List.not_mem_nil⟩
  · refine ⟨[], by rw [hqueue, List.append_nil], ?_, fun i hi => absurd hi List.not_mem_nil⟩
    rw [hfailed]
    exact List.Perm.refl _

theorem moves_refl (d : Device) : Moves X d d := moves_of_view rfl

theorem moves_trans (h : Moves X d d') (h' : Moves X d' d'') : Moves X d d'' := by
  obtain ⟨⟨cells, hwritten, hcells⟩, items, hqueue, hfailed, hitems⟩ := h
  obtain ⟨⟨cells', hwritten', hcells'⟩, items', hqueue', hfailed', hitems'⟩ := h'
  constructor
  · refine ⟨cells ++ cells', by rw [hwritten', hwritten, List.append_assoc], ?_⟩
    exact List.forall_mem_append.mpr ⟨hcells, hcells'⟩
  · refine ⟨items ++ items', by rw [hqueue', hqueue, List.append_assoc], ?_,
      List.forall_mem_append.mpr ⟨hitems, hitems'⟩⟩
    rw [texts_append, List.append_assoc]
    exact (hfailed'.append_left (texts items)).trans hfailed

theorem moves_mono (hXY : ∀ i, X i → Y i) (h : Moves X d d') : Moves Y d d' := by
  obtain ⟨hwritten, items, hqueue, hfailed, hitems⟩ := h
  exact ⟨hwritten, items, hqueue, hfailed, fun i hi => hXY i (hitems i hi)⟩

theorem moves_then (h : Moves X d₀ d) (hview : d'.textView = d.textView) : Moves X d₀ d' :=
  moves_trans h (moves_of_view hview)

theorem moves_transmit (h : Moves X d₀ d) (socket : Nat) {cell : Cell} (hcell : ¬ cell.IsText) :
    Moves X d₀ (d.transmit socket cell) := by
  refine moves_trans h ⟨⟨[(socket, cell)], rfl, ?_⟩, (moves_refl d).queue⟩
  intro x hx
  rw [List.mem_singleton.mp hx]
  exact hcell

theorem moves_enqueue (h : Moves MessageItem.NoText d₀ d)
    {items : List (MessageItem (Option Cell))} (hitems : ∀ i ∈ items, i.NoText) :
    Moves MessageItem.NoText d₀ (d.enqueue items) := by
  refine moves_trans h ⟨(moves_refl (X := MessageItem.NoText) d).written, items, rfl, ?_, hitems⟩
  rw [texts_noText hitems]
  exact List.Perm.refl _

theorem moves_sendMessage {sent : Bool} {onionName : String} {socket : Nat} {cell : Cell}
    {f : Device → Device} (h : Moves X d₀ d) (hcell : ¬ cell.IsText)
    (hf : Moves X (d.transmit socket cell) (f (d.transmit socket cell))) :
    Moves X d₀ (d.sendMessage sent onionName socket cell f) := by
  rw [sendMessage]
  split
  · exact moves_trans (moves_transmit h socket hcell) hf
  · exact moves_then h rfl

theorem moves_modifyTask (h : Moves MessageItem.NoText d₀ d) (task : FileTask)
    (f : FileTask → FileTask) : Moves MessageItem.NoText d₀ (d.modifyTask task f) :=
  moves_then h rfl

theorem moves_deleteConnection (h : Moves MessageItem.NoText d₀ d)
    (onionName : String) (socket : Nat) :
    Moves MessageItem.NoText d₀ (d.deleteConnection onionName socket) := moves_then h rfl

end Moves

section Resend

variable {P : Platform} {env : Env} {conns : Connections}

theorem texts_mapIdx {f : Nat → FailedTextMessage → MessageItem (Option Cell)}
    {messages : List FailedTextMessage}
    (h : ∀ n, ∀ message ∈ messages, (f n message).isText = true ∧ (f n message).text = message) :
    texts (messages.mapIdx f) = messages := by
  induction messages generalizing f with
  | nil => rfl
  | cons message messages ih =>
    obtain ⟨htext, hsame⟩ := h 0 message List.mem_cons_self
    have hrest := ih (f := fun n => f (n + 1))
      (fun n m hm => h (n + 1) m (List.mem_cons_of_mem _ hm))
    rw [texts] at hrest ⊢
    rw [List.mapIdx_cons, List.filter_cons_of_pos htext, List.map_cons, hsame, hrest]

variable (P env) in
theorem moves_resendTexts (d : Device) (onionName : String) :
    Moves (MessageItem.Fits P d.conns) d (d.resendTexts P env onionName) := by
  rw [resendTexts]
  split
  · rename_i conn hconn
    rw [resendText]
    refine ⟨(moves_refl (X := MessageItem.Fits P d.conns) d).written, _, rfl, ?_, ?_⟩
    · dsimp only
      rw [texts_mapIdx]
      · simpa using List.filter_append_perm (fun tmp => decide (tmp.onionName = onionName))
          d.failedQueue
      · intro n message hmessage
        obtain rfl : message.onionName = onionName := by
          simpa using (List.mem_filter.mp hmessage).2
        exact ⟨rfl, rfl⟩
    · intro i hi
      obtain ⟨n, hn, rfl⟩ := List.mem_mapIdx.mp hi
      exact .inr ⟨rfl, rfl, conn, hconn, rfl, _, _, _, _, .inl rfl, rfl⟩
  · exact moves_refl d

theorem noText_pieceItem {keys : KeyState} {onionName : String} {socket : Nat}
    {hs : Option HandShakeMessage} {sharedKey : Option Bytes} {fileNameHash : Bytes}
    {messageID : Nat} {pieces : HashMap Nat Bytes} {is : List Nat}
    {i : MessageItem (Option Cell)} (h : i ∈ (pieceItems (pieceItem P env keys onionName socket hs
      sharedKey fileNameHash messageID) pieces is).1) : i.NoText := by
  obtain ⟨n, fileContent, -, rfl⟩ := mem_pieceItems h
  refine ⟨rfl, rfl, fun cell hcell => ?_⟩
  exact Cell.not_isText_of_carries (Cell.carries_pack hcell) (by decide) (by decide)

theorem noText_metaItem (onionName : String) (socket : Nat) (sharedKey : Bytes)
    (task : FileTask) (messageID : Nat) :
    (metaItem P env onionName socket sharedKey task messageID).NoText := by
  refine ⟨rfl, rfl, fun cell hcell => ?_⟩
  rw [data_metaItem, FileMessage.buildFileMetaMessage] at hcell
  exact Cell.not_isText_of_carries (Cell.carries_pack hcell) (by decide) (by decide)

variable {d₀ d : Device}

theorem moves_enqueuePieces (h : Moves MessageItem.NoText d₀ d)
    {items : List (MessageItem (Option Cell))} (hitems : ∀ i ∈ items, i.NoText) :
    Moves MessageItem.NoText d₀ (d.enqueuePieces items) :=
  moves_then (moves_enqueue h hitems) rfl

theorem moves_resend (h : Moves MessageItem.NoText d₀ d) (task : FileTask)
    (statusItem : ConnectionStatusItem) (messageID : Nat) :
    Moves MessageItem.NoText d₀ (d.resend P env task statusItem messageID).1 := by
  rw [resend]
  split
  · exact h
  · exact moves_enqueuePieces h (fun i hi => noText_pieceItem hi)

variable (P env) in
theorem moves_resendTask (d : Device) (onionName : String) (conn : ConnectionStatusItem)
    (sharedKey : Bytes) (task : FileTask) :
    Moves MessageItem.NoText d (d.resendTask P env onionName conn sharedKey task).1 := by
  rw [resendTask]
  split
  · exact moves_refl d
  · cases task.direction with
    | send =>
      dsimp only
      split
      · split
        · exact moves_refl d
        · rename_i messageID _
          have hmeta : ∀ i ∈ [metaItem P env onionName conn.socket sharedKey task messageID],
              i.NoText := by
            intro i hi
            rw [List.mem_singleton.mp hi]
            exact noText_metaItem _ _ _ _ _
          exact moves_enqueue (moves_refl d) hmeta
      · split
        · exact moves_of_view rfl
        · refine moves_resend ?_ task conn _
          exact moves_of_view rfl
    | recieve =>
      dsimp only
      split
      · split
        · exact moves_of_view rfl
        · rename_i messageID _
          have hkeys : Moves MessageItem.NoText d (d.setKeys d.keys.writeBack) := moves_of_view rfl
          refine moves_modifyTask (moves_enqueue hkeys ?_) task _
          intro i hi
          rw [List.mem_singleton.mp hi]
          refine ⟨rfl, rfl, fun cell hcell => ?_⟩
          dsimp only at hcell
          exact Cell.not_isText_of_carries (Cell.carries_ack hcell) (by decide) (by decide)
      · exact moves_refl d

variable (P env) in
theorem moves_resendTasks (onionName : String) (conn : ConnectionStatusItem) (sharedKey : Bytes)
    (tasks : List FileTask) (d : Device) :
    Moves MessageItem.NoText d (resendTasks P env onionName conn sharedKey tasks d).1 := by
  induction tasks generalizing d with
  | nil => exact moves_refl d
  | cons task tasks ih =>
    have htask := moves_resendTask P env d onionName conn sharedKey task
    rw [resendTasks]
    split
    · rename_i d' hd
      rw [hd] at htask
      exact moves_trans htask (ih d')
    · rename_i d' hd
      rw [hd] at htask
      exact htask

variable (P env) in
theorem moves_tryResend (d : Device) (onionName : String) :
    Moves (MessageItem.Fits P d.conns) d (d.tryResend P env onionName).1 := by
  have htexts := moves_resendTexts P env d onionName
  rw [tryResend]
  split
  · split
    · exact moves_trans htexts (moves_mono (fun i hi => .inl hi)
        (moves_resendTasks P env onionName _ _ _ _))
    · exact htexts
  · exact htexts

variable (P env) in
theorem moves_tryResendAll (onionNames : List String) (d : Device) :
    Moves (MessageItem.Fits P d.conns) d (tryResendAll P env onionNames d) := by
  induction onionNames generalizing d with
  | nil => exact moves_refl d
  | cons onionName rest ih =>
    have hname := moves_tryResend P env d onionName
    have hconns := conns_tryResend P env d onionName
    rw [tryResendAll]
    split
    · rename_i d' hd
      rw [hd] at hname hconns
      have hrest := ih d'
      rw [hconns] at hrest
      exact moves_trans hname hrest
    · rename_i d' hd
      rw [hd] at hname
      exact hname

end Resend

section Handlers

variable {P : Platform} {env : Env} {d : Device} {item : MessageItem Bytes}

-- the texts that go back to sendQueue fit the connections that the step leaves behind
def Requeues (P : Platform) (d d' : Device) : Prop := Moves (MessageItem.Fits P d'.conns) d d'

theorem requeues_of_moves {d d' : Device} (h : Moves MessageItem.NoText d d') :
    Requeues P d d' := moves_mono (fun _ hi => .inl hi) h

theorem requeues_refl (d : Device) : Requeues P d d := moves_refl d

theorem requeues_trans {d₀ d d' : Device} (h : Moves MessageItem.NoText d₀ d)
    (h' : Requeues P d d') : Requeues P d₀ d' :=
  moves_trans (moves_mono (fun _ hi => .inl hi) h) h'

theorem requeues_updateSocketStatus (d : Device) (item : MessageItem Bytes) (status : Nat)
    (sharedKey : Option Bytes) :
    Requeues P d (d.updateSocketStatus P env item status sharedKey).1 := by
  have hstatus : Moves MessageItem.NoText d { d with
      conns := d.conns.updateStatus item.onionName item.socket status sharedKey } :=
    moves_of_view rfl
  rw [updateSocketStatus]
  split
  · refine requeues_trans hstatus ?_
    rw [Requeues, conns_tryResend]
    exact moves_tryResend P env _ item.onionName
  · exact requeues_of_moves hstatus

theorem moves_updateSocketStatus (d : Device) (item : MessageItem Bytes)
    (sharedKey : Option Bytes) :
    Moves MessageItem.NoText d (d.updateSocketStatus P env item 0 sharedKey).1 := moves_of_view rfl

theorem requeues_connectReady {d : Device} {ready : Device × Bool} (h : Requeues P d ready.1) :
    Requeues P d (connectReady ready) := by
  obtain ⟨d', complete⟩ := ready
  cases complete with
  | false => exact h
  | true => exact moves_then h rfl

theorem requeues_established (d : Device) (item : MessageItem Bytes) (sharedKey : Option Bytes) :
    Requeues P d (connectReady (d.updateSocketStatus P env item 1 sharedKey)) :=
  requeues_connectReady (requeues_updateSocketStatus d item 1 sharedKey)

theorem moves_setKeys {d₀ d : Device} (h : Moves MessageItem.NoText d₀ d) (keys : KeyState) :
    Moves MessageItem.NoText d₀ (d.setKeys keys) := moves_then h rfl

theorem requeues_handShakeMessageHandle (d : Device) (item : MessageItem Bytes) :
    Requeues P d (d.handShakeMessageHandle P env item) := by
  rw [handShakeMessageHandle]
  split
  · split
    · rw [receiveSessionRequest]
      split
      · have hstatus (keys : KeyState) : Moves MessageItem.NoText d
            ((d.setKeys keys).updateSocketStatus P env item 0 none).1 :=
          moves_trans (moves_setKeys (moves_refl d) keys) (moves_updateSocketStatus _ item none)
        dsimp only
        split
        · exact requeues_of_moves (moves_setKeys (hstatus _) _)
        · exact requeues_of_moves (moves_sendMessage (moves_setKeys (hstatus _) _)
            (Cell.not_isText_build _ _) (moves_refl _))
      · exact requeues_refl d
    split
    · rw [receiveSessionAuth]
      split
      · dsimp only
        split
        · exact requeues_of_moves (moves_sendMessage (moves_setKeys (moves_refl d) _)
            (Cell.not_isText_build _ _) (moves_updateSocketStatus _ item _))
        · exact requeues_of_moves (moves_setKeys (moves_refl d) _)
      · exact requeues_refl d
    split
    · rw [receiveSessionExchange]
      split
      · rw [sendMessage]
        split
        · exact requeues_trans (moves_transmit (moves_refl d) _ (Cell.not_isText_build _ _))
            (requeues_established _ item _)
        · exact requeues_of_moves (moves_of_view rfl)
      · exact requeues_refl d
    split
    · rw [receiveSessionDone]
      split
      · exact requeues_established d item none
      · exact requeues_refl d
    · exact requeues_refl d
  · exact requeues_refl d

variable {statusItem : ConnectionStatusItem} {messageID messageType : Nat}
  {internalPayload : Bytes}

theorem moves_receiveTextMessage (d : Device) (internalPayload : Bytes)
    (statusItem : ConnectionStatusItem) (item : MessageItem Bytes) (messageID : Nat) :
    Moves MessageItem.NoText d
      (d.receiveTextMessage P env internalPayload statusItem item messageID) := by
  rw [receiveTextMessage]
  split
  · exact moves_refl d
  · rename_i keys hkeys
    dsimp only
    have hack {d' : Device} (hread : Moves MessageItem.NoText d d') (socket : Nat) {cell : Cell}
        {messageHash : Bytes} (hcell : DataMessage.buildACKDataMessage P (env.ambient 0) keys
          statusItem.shareKey 0 1 Constant.dataAckContent messageHash messageID = some cell) :
        Moves MessageItem.NoText d (d'.sendMessage (env.sent 0) item.onionName socket cell id) :=
      moves_sendMessage hread
        (Cell.not_isText_of_carries (Cell.carries_ack hcell) (by decide) (by decide)) (moves_refl _)
    cases JniEntryUtils.decry P (d.setKeys keys).keys.keyFile internalPayload with
    | none =>
      dsimp only
      split
      · exact moves_of_view rfl
      · rename_i payload hpayload
        exact hack (moves_setKeys (moves_of_view rfl) _) _ hpayload
    | some plain =>
      have hread : Moves MessageItem.NoText d ((d.setKeys keys).notify
          (.hasReceivedMessage (newString plain) statusItem.onionName messageID)) :=
        moves_of_view rfl
      dsimp only
      split
      · exact moves_setKeys hread _
      · rename_i payload hpayload
        exact hack (moves_setKeys hread _) _ hpayload

theorem moves_prepareReceiveFile (d : Device) (internalPayload : Bytes)
    (statusItem : ConnectionStatusItem) (item : MessageItem Bytes) (messageID : Nat) :
    Moves MessageItem.NoText d
      (d.prepareReceiveFile P env internalPayload statusItem item messageID) := by
  rw [prepareReceiveFile]
  split
  · exact moves_refl d
  · dsimp only
    split
    · exact moves_of_view rfl
    · split
      · exact moves_of_view rfl
      · rename_i finalPayload hpayload
        exact moves_sendMessage (moves_of_view rfl)
          (Cell.not_isText_of_carries (Cell.carries_pack hpayload) (by decide) (by decide))
          (moves_of_view rfl)

theorem moves_sendFileShards (d : Device) (internalPayload : Bytes)
    (statusItem : ConnectionStatusItem) (item : MessageItem Bytes) (messageID : Nat) :
    Moves MessageItem.NoText d
      (d.sendFileShards P env internalPayload statusItem item messageID) := by
  rw [sendFileShards]
  split
  · exact moves_refl d
  · dsimp only
    split
    · exact moves_of_view rfl
    · split
      · exact moves_of_view rfl
      · refine moves_enqueuePieces ?_ (fun i hi => noText_pieceItem hi)
        exact moves_of_view rfl

theorem moves_receiveAllFileShards (d : Device) (task : FileTask)
    (statusItem : ConnectionStatusItem) (item : MessageItem Bytes) (messageID : Nat) :
    Moves MessageItem.NoText d
      (d.receiveAllFileShards P env task statusItem item messageID) := by
  rw [receiveAllFileShards]
  split
  · dsimp only
    split
    · exact moves_of_view rfl
    · split
      · exact moves_of_view rfl
      · rename_i finalPayload hpayload
        split
        · have hcell : ¬ finalPayload.IsText :=
            Cell.not_isText_of_carries (Cell.carries_pack hpayload) (by decide) (by decide)
          exact moves_then (moves_transmit (moves_of_view rfl) statusItem.socket hcell) rfl
        · exact moves_of_view rfl
  · exact moves_refl d

theorem moves_notify_if (c : Prop) [Decidable c] {d₀ d : Device}
    (h : Moves MessageItem.NoText d₀ d) (notice : Notice) :
    Moves MessageItem.NoText d₀ (if c then d.notify notice else d) := by
  split
  · exact moves_then h rfl
  · exact h

theorem moves_receiveFileShards (d : Device) (internalPayload : Bytes)
    (statusItem : ConnectionStatusItem) (item : MessageItem Bytes) (messageID : Nat) :
    Moves MessageItem.NoText d
      (d.receiveFileShards P env internalPayload statusItem item messageID) := by
  rw [receiveFileShards]
  split
  · exact moves_refl d
  · rename_i keys hkeys
    dsimp only
    split
    · exact moves_of_view rfl
    · rename_i fileNameHash pieceID fileContent hparse
      split
      · exact moves_of_view rfl
      · rename_i found hfound
        have hreceived : Moves MessageItem.NoText d ((d.setKeys keys).modifyTask found
            (fun t => (t.recievePieceData pieceID fileContent).setStatus .transferrring)) :=
          moves_of_view rfl
        split
        · exact moves_setKeys (moves_notify_if _ hreceived _) _
        · rename_i finalPayload hpayload
          refine moves_trans ?_ (moves_receiveAllFileShards _ _ statusItem item messageID)
          split
          · exact moves_transmit (moves_setKeys (moves_notify_if _ hreceived _) _) _
              (Cell.not_isText_of_carries (Cell.carries_ack hpayload) (by decide) (by decide))
          · exact moves_deleteConnection (moves_modifyTask
              (moves_setKeys (moves_notify_if _ hreceived _) _) _ _) _ _

theorem moves_receiveAck (d : Device) (internalPayload : Bytes)
    (statusItem : ConnectionStatusItem) (item : MessageItem Bytes) (messageID : Nat) :
    Moves MessageItem.NoText d
      (d.receiveAck P env internalPayload statusItem item messageID) := by
  rw [receiveAck]
  split
  · exact moves_refl d
  · split
    · rw [receiveFileAck]
      split
      · exact moves_refl d
      · split
        · dsimp only
          split
          · have hnotified (task : FileTask) (f : FileTask → FileTask) (notice : Notice) :
                Moves MessageItem.NoText d ((d.modifyTask task f).notify notice) :=
              moves_of_view rfl
            refine moves_enqueue (hnotified _ _ _) ?_
            intro i hi
            rw [List.mem_singleton.mp hi]
            refine ⟨rfl, rfl, fun cell hcell => ?_⟩
            obtain rfl := Option.some.inj hcell
            exact Cell.not_isText_zeros
          · exact moves_of_view rfl
        · split
          · exact moves_resend (moves_refl d) _ statusItem messageID
          · exact moves_refl d
    · exact moves_of_view rfl

theorem moves_dataMessageHandle (d : Device) (item : MessageItem Bytes) :
    Moves MessageItem.NoText d (d.dataMessageHandle P env item) := by
  rcases dataMessageHandle_cases P env d item with
    hsame | ⟨statusItem, messageID, messageType, internalPayload, hreads, heq⟩
  · rw [hsame]
    exact moves_refl d
  · rw [heq, dispatchDataMessage]
    split
    · exact moves_receiveTextMessage d internalPayload statusItem item messageID
    split
    · exact moves_prepareReceiveFile d internalPayload statusItem item messageID
    split
    · exact moves_sendFileShards d internalPayload statusItem item messageID
    split
    · exact moves_receiveFileShards d internalPayload statusItem item messageID
    split
    · rw [receiveFileDone]
      split
      · exact moves_refl d
      · split
        · exact moves_refl d
        · exact moves_of_view rfl
    split
    · exact moves_receiveAck d internalPayload statusItem item messageID
    · exact moves_refl d

theorem requeues_read (d : Device) : Requeues P d (d.read P env) := by
  rw [read]
  split
  · exact requeues_refl d
  · rename_i item rest _
    have hdequeue : Moves MessageItem.NoText d { d with recieveQueue := rest } := moves_of_view rfl
    dsimp only
    split
    · exact requeues_trans hdequeue (requeues_handShakeMessageHandle _ item)
    · split
      · exact requeues_of_moves (moves_trans hdequeue (moves_dataMessageHandle _ item))
      · exact requeues_of_moves hdequeue

theorem textView_deleteStatusItem (d : Device) (item : ConnectionStatusItem) :
    (d.deleteStatusItem item).textView = d.textView := by
  rw [deleteStatusItem]
  split
  · rfl
  · rfl

theorem textView_endTransport (d : Device) (t : Transport) :
    (d.endTransport t).textView = d.textView := by
  rw [endTransport]
  split
  · exact textView_deleteStatusItem d _
  · rfl

theorem textView_readCell (d : Device) (mail : MailItem) (t : Transport) (cell : Cell) :
    (d.readCell mail t cell).textView = d.textView := by
  rcases readCell_cases d mail t cell with heq | heq | ⟨type, plain, heq, -⟩
  · rw [heq]
  · rw [heq]
    exact textView_endTransport d t
  · rw [heq]
    rfl

theorem moves_receiveCell (d : Device) (socket : Nat) (cell : Cell) :
    Moves MessageItem.NoText d (d.receiveCell socket cell) := by
  apply moves_of_view
  rw [receiveCell]
  split
  · rfl
  · rename_i t _
    split
    · rfl
    · split
      · exact textView_readCell d _ _ cell
      · split
        · rfl
        · rename_i mail _
          exact textView_readCell (d.bindPeer t mail).1 mail (d.bindPeer t mail).2 cell

variable (P env) in
theorem moves_startHandShakeProcess (d : Device) (onionName : String) (purpose : Nat) :
    Moves MessageItem.NoText d (d.startHandShakeProcess P env onionName purpose) := by
  rw [startHandShakeProcess]
  split
  · rename_i item mail handShakeMessage _ _ _
    split
    · exact moves_refl d
    · split
      · exact moves_of_view rfl
      · rename_i body hbody
        obtain ⟨payload, -, rfl⟩ := Option.map_eq_some_iff.mp hbody
        dsimp only
        split
        · exact moves_then (moves_transmit (moves_setKeys (moves_refl d) _) item.socket
            (Cell.not_isText_build handShakeMessage payload)) rfl
        · exact moves_then (moves_setKeys (moves_refl d) _) (textView_deleteStatusItem _ item)
  · exact moves_refl d

variable (P env) in
theorem moves_queueFileMeta (d : Device) (remoteOnion : String) (task : FileTask)
    (messageID : Nat) :
    Moves MessageItem.NoText d (d.queueFileMeta P env remoteOnion task messageID) := by
  rw [queueFileMeta]
  dsimp only
  split
  · exact moves_of_view rfl
  · split
    · exact moves_of_view rfl
    · refine moves_then (moves_enqueue (moves_setKeys (moves_refl d) _) ?_) rfl
      intro i hi
      rw [List.mem_singleton.mp hi]
      exact noText_metaItem _ _ _ _ _

end Handlers

end Device

end TorChat
