import TorChat.Server.TextRuns
import TorChat.Text.Acknowledgement

namespace TorChat

open Library (Bytes HashMap Machine)

def Notice.isText : Notice → Bool
  | .hasReceivedMessage _ _ _ => true
  | _ => false

namespace Device

variable {P : Platform} {env : Env} {d₀ d d' d'' : Device} {N N' : Notice → Prop}

def Tells (N : Notice → Prop) (d d' : Device) : Prop := ∀ n ∈ d'.notices, n ∈ d.notices ∨ N n

theorem tells_of_eq (h : d'.notices = d.notices) : Tells N d d' := by
  intro n hn
  rw [h] at hn
  exact .inl hn

theorem tells_refl (d : Device) : Tells N d d := tells_of_eq rfl

theorem tells_trans (h : Tells N d d') (h' : Tells N d' d'') : Tells N d d'' :=
  fun n hn => (h' n hn).elim (h n) .inr

theorem tells_mono (hN : ∀ n, N n → N' n) (h : Tells N d d') : Tells N' d d' :=
  fun n hn => (h n hn).imp_right (hN n)

theorem tells_then (h : Tells N d₀ d) (heq : d'.notices = d.notices) : Tells N d₀ d' :=
  tells_trans h (tells_of_eq heq)

theorem tells_notify (h : Tells N d₀ d) {notice : Notice} (hnotice : N notice) :
    Tells N d₀ (d.notify notice) := by
  intro n hn
  rcases List.mem_append.mp hn with hold | hnew
  · exact h n hold
  · rw [List.mem_singleton.mp hnew]
    exact .inr hnotice

theorem tells_sendMessage {sent : Bool} {onionName : String} {socket : Nat} {cell : Cell}
    {f : Device → Device} (h : Tells N d₀ d)
    (hf : Tells N (d.transmit socket cell) (f (d.transmit socket cell))) :
    Tells N d₀ (d.sendMessage sent onionName socket cell f) := by
  rw [sendMessage]
  split
  · have htransmit : Tells N d₀ (d.transmit socket cell) := tells_then h rfl
    exact tells_trans htransmit hf
  · exact tells_then h rfl

theorem tells_setKeys (h : Tells N d₀ d) (keys : KeyState) : Tells N d₀ (d.setKeys keys) :=
  tells_then h rfl

theorem tells_removeTask (h : Tells N d₀ d) (task : FileTask) :
    Tells N d₀ (d.removeTask task) := tells_then h rfl

theorem tells_transmit (h : Tells N d₀ d) (socket : Nat) (cell : Cell) :
    Tells N d₀ (d.transmit socket cell) := tells_then h rfl

theorem tells_modifyTask (h : Tells N d₀ d) (task : FileTask) (f : FileTask → FileTask) :
    Tells N d₀ (d.modifyTask task f) := tells_then h rfl

theorem tells_deleteConnection (h : Tells N d₀ d) (onionName : String) (socket : Nat) :
    Tells N d₀ (d.deleteConnection onionName socket) := tells_then h rfl

theorem tells_enqueue (h : Tells N d₀ d) (items : List (MessageItem (Option Cell))) :
    Tells N d₀ (d.enqueue items) := tells_then h rfl

theorem tells_emits {X : Nat × Cell → Prop} (h : Emits X N d d') : Tells N d d' := h.notices

def Other (n : Notice) : Prop := n.isText = false

-- the reading of a text cell that puts the notice on the screen
def ReadsText (P : Platform) (d : Device) (item : MessageItem Bytes) (n : Notice) : Prop :=
  ∃ statusItem messageID internalPayload keys plain,
    d.Reads P item statusItem messageID Constant.dataMessage internalPayload ∧
    d.keys.getRecordXOR item.data messageID = some keys ∧
    JniEntryUtils.decry P keys.keyFile internalPayload = some plain ∧
    n = .hasReceivedMessage (newString plain) statusItem.onionName messageID

theorem tells_receiveTextMessage {statusItem : ConnectionStatusItem} {item : MessageItem Bytes}
    {messageID : Nat} {internalPayload : Bytes}
    (h : d.Reads P item statusItem messageID Constant.dataMessage internalPayload) :
    Tells (fun n => Other n ∨ d.ReadsText P item n) d
      (d.receiveTextMessage P env internalPayload statusItem item messageID) := by
  rw [receiveTextMessage]
  split
  · exact tells_refl d
  · rename_i keys hkeys
    dsimp only
    cases hplain : JniEntryUtils.decry P (d.setKeys keys).keys.keyFile internalPayload with
    | none =>
      dsimp only
      split
      · exact tells_of_eq rfl
      · exact tells_sendMessage (tells_of_eq rfl) (tells_refl _)
    | some plain =>
      have hread : Tells (fun n => Other n ∨ d.ReadsText P item n) d ((d.setKeys keys).notify
          (.hasReceivedMessage (newString plain) statusItem.onionName messageID)) :=
        tells_notify (tells_of_eq rfl)
          (.inr ⟨statusItem, messageID, internalPayload, keys, plain, h, hkeys, hplain, rfl⟩)
      dsimp only
      split
      · exact tells_then hread rfl
      · exact tells_sendMessage (tells_then hread rfl) (tells_refl _)

theorem tells_prepareReceiveFile (d : Device) (internalPayload : Bytes)
    (statusItem : ConnectionStatusItem) (item : MessageItem Bytes) (messageID : Nat) :
    Tells Other d (d.prepareReceiveFile P env internalPayload statusItem item messageID) := by
  rw [prepareReceiveFile]
  split
  · exact tells_refl d
  · dsimp only
    split
    · exact tells_of_eq rfl
    · split
      · exact tells_of_eq rfl
      · rename_i task _ _ finalPayload _
        refine tells_sendMessage (tells_of_eq rfl) (tells_notify ?_ rfl)
        exact tells_of_eq rfl

theorem tells_receiveAllFileShards (d : Device) (task : FileTask)
    (statusItem : ConnectionStatusItem) (item : MessageItem Bytes) (messageID : Nat) :
    Tells Other d (d.receiveAllFileShards P env task statusItem item messageID) := by
  rw [receiveAllFileShards]
  split
  · dsimp only
    split
    · exact tells_of_eq rfl
    · split
      · exact tells_of_eq rfl
      · split
        · refine tells_removeTask (tells_notify (tells_transmit ?_ _ _) (by exact rfl)) task
          exact tells_of_eq rfl
        · exact tells_of_eq rfl
  · exact tells_refl d

theorem tells_notify_if (c : Prop) [Decidable c] (h : Tells N d₀ d) {notice : Notice}
    (hnotice : N notice) : Tells N d₀ (if c then d.notify notice else d) := by
  split
  · exact tells_notify h hnotice
  · exact h

theorem tells_receiveFileShards (d : Device) (internalPayload : Bytes)
    (statusItem : ConnectionStatusItem) (item : MessageItem Bytes) (messageID : Nat) :
    Tells Other d (d.receiveFileShards P env internalPayload statusItem item messageID) := by
  rw [receiveFileShards]
  split
  · exact tells_refl d
  · rename_i keys hkeys
    dsimp only
    split
    · exact tells_of_eq rfl
    · rename_i fileNameHash pieceID fileContent hparse
      split
      · exact tells_of_eq rfl
      · rename_i found hfound
        have hreceived : Tells Other d ((d.setKeys keys).modifyTask found
            (fun t => (t.recievePieceData pieceID fileContent).setStatus .transferrring)) :=
          tells_of_eq rfl
        split
        · exact tells_setKeys (tells_notify_if _ hreceived (by exact rfl)) _
        · rename_i finalPayload hpayload
          refine tells_trans ?_ (tells_receiveAllFileShards _ _ statusItem item messageID)
          split
          · exact tells_transmit (tells_setKeys (tells_notify_if _ hreceived (by exact rfl)) _) _ _
          · exact tells_deleteConnection (tells_modifyTask
              (tells_setKeys (tells_notify_if _ hreceived (by exact rfl)) _) _ _) _ _

theorem tells_receiveAck (d : Device) (internalPayload : Bytes)
    (statusItem : ConnectionStatusItem) (item : MessageItem Bytes) (messageID : Nat) :
    Tells Other d (d.receiveAck P env internalPayload statusItem item messageID) := by
  rw [receiveAck]
  split
  · exact tells_refl d
  · split
    · rw [receiveFileAck]
      split
      · exact tells_refl d
      · rename_i found _
        split
        · dsimp only
          split
          · exact tells_enqueue (tells_notify (tells_modifyTask (tells_refl d) found _) (by exact rfl)) _
          · exact tells_of_eq rfl
        · split
          · obtain ⟨keys, queue, map, hresumed⟩ :=
              resumed_resend d found statusItem messageID
            rw [hresumed]
            exact tells_of_eq rfl
          · exact tells_refl d
    · exact tells_notify (tells_refl d) rfl

theorem tells_dataMessageHandle (d : Device) (item : MessageItem Bytes) :
    Tells (fun n => Other n ∨ d.ReadsText P item n) d (d.dataMessageHandle P env item) := by
  have hother {d' : Device} (h : Tells Other d d') :
      Tells (fun n => Other n ∨ d.ReadsText P item n) d d' := tells_mono (fun _ hn => .inl hn) h
  rcases dataMessageHandle_cases P env d item with
    hsame | ⟨statusItem, messageID, messageType, internalPayload, hreads, heq⟩
  · rw [hsame]
    exact tells_refl d
  · rw [heq, dispatchDataMessage]
    split
    · rename_i htype
      subst htype
      exact tells_receiveTextMessage hreads
    split
    · exact hother (tells_prepareReceiveFile d internalPayload statusItem item messageID)
    split
    · rw [sendFileShards]
      split
      · exact tells_refl d
      · dsimp only
        split
        · exact tells_of_eq rfl
        · split
          · exact tells_of_eq rfl
          · exact tells_of_eq rfl
    split
    · exact hother (tells_receiveFileShards d internalPayload statusItem item messageID)
    split
    · rw [receiveFileDone]
      split
      · exact tells_refl d
      · split
        · exact tells_refl d
        · exact hother (tells_removeTask (tells_notify (tells_refl d) (by exact rfl)) _)
    split
    · exact hother (tells_receiveAck d internalPayload statusItem item messageID)
    · exact tells_refl d

def ShowsBy (P : Platform) (d : Device) (e : Event) (n : Notice) : Prop :=
  Other n ∨ e = .read ∧ ∃ item rest, d.recieveQueue = item :: rest ∧ item.type = 1 ∧
    d.ReadsText P item n

theorem tells_read (d : Device) : Tells (d.ShowsBy P .read) d (d.read P env) := by
  rw [read]
  split
  · exact tells_refl d
  · rename_i item rest hqueue
    have hdequeue : Tells (d.ShowsBy P .read) d { d with recieveQueue := rest } := tells_of_eq rfl
    dsimp only
    split
    · have hhandled : Tells Other { d with recieveQueue := rest }
          (({ d with recieveQueue := rest } : Device).handShakeMessageHandle P env item) :=
        tells_emits (emits_handShakeMessageHandle _ item rfl rfl)
      exact tells_trans hdequeue (tells_mono (fun _ hn => .inl hn) hhandled)
    · split
      · rename_i htype
        refine tells_trans hdequeue (tells_mono ?_ (tells_dataMessageHandle _ item))
        rintro n (hother | ⟨statusItem, messageID, internalPayload, keys, plain, hreads, hrest⟩)
        · exact .inl hother
        · refine .inr ⟨rfl, item, rest, hqueue, htype, statusItem, messageID, internalPayload,
            keys, plain, ?_, hrest⟩
          exact ⟨hreads.conn, hreads.key, hreads.id, hreads.type, hreads.payload⟩
      · exact hdequeue

theorem tells_step (d : Device) (e : Event) : Tells (d.ShowsBy P e) d (d.step P env e) := by
  have hother {d' : Device} (h : Tells Other d d') : Tells (d.ShowsBy P e) d d' :=
    tells_mono (fun _ hn => .inl hn) h
  have hquiet {d' : Device} (h : d'.mail = d.mail) : Tells (d.ShowsBy P e) d d' :=
    hother (tells_emits (emits_of_eq (X := fun _ => True) h))
  cases e with
  | accept socket => exact tells_of_eq rfl
  | receiveCell socket cell => exact hquiet (mail_receiveCell d socket cell)
  | hangUp socket =>
    rw [step, hangUp]
    split
    · exact tells_refl d
    · exact hquiet (mail_endTransport d _)
  | connect onionName purpose socket =>
    rw [step, connect]
    split
    · exact tells_refl d
    · exact tells_of_eq rfl
  | startHandShake onionName purpose =>
    exact hother (tells_emits (emits_startHandShakeProcess (X := fun _ => True) d onionName
      purpose (fun _ _ _ => trivial)))
  | read => exact tells_read d
  | write => exact hother (tells_emits (emits_write (X := fun _ => True) d))
  | sendText messageContent remoteOnion messageID =>
    rw [step, handleTextMessageSend]
    split
    · exact tells_of_eq rfl
    · split
      · exact tells_notify (tells_refl d) (.inl rfl)
      · exact tells_of_eq rfl
  | sendFile fileFullPath content remoteOnion messageID =>
    exact hother (tells_emits (emits_queueFileMeta (X := fun _ => True) d remoteOnion _ messageID
      (fun _ _ _ => trivial)))
  | sendBytes fileFullPath bitmapBytes remoteOnion messageID =>
    exact hother (tells_emits (emits_queueFileMeta (X := fun _ => True) d remoteOnion _ messageID
      (fun _ _ _ => trivial)))
  | register position =>
    rw [step, registerTask]
    split
    · exact tells_refl d
    · exact tells_of_eq rfl
  | tryResendAll => exact hother (tells_emits (emits_tryResendAll _ d))

end Device

-- the notice shows what the reader's key file makes of the payload that was sent
structure Renders (P : Platform) (readerFile : Bytes) (sent : MessageItem (Option Cell))
    (keyFile internalPayload : Bytes) (n : Notice) : Prop where
  enclosed : internalPayload = getBytes sent.rawMessage ∨
    internalPayload = JniEntryUtils.entry P keyFile (getBytes sent.rawMessage)
  shown : internalPayload.length ≤ 2002 → ∃ plain onionName messageID,
    JniEntryUtils.decry P readerFile internalPayload = some plain ∧
      n = .hasReceivedMessage (newString plain) onionName messageID
  sent : internalPayload.length ≤ 2002 →
    JniEntryUtils.decry P readerFile internalPayload = some (getBytes sent.rawMessage) →
      ∃ onionName messageID, n = .hasReceivedMessage sent.rawMessage onionName messageID

theorem renders_of_reads {P : Platform} {d : Device} {item : MessageItem Bytes} {n : Notice}
    {sent : MessageItem (Option Cell)} {sharedKey : Bytes} {key : Option Bytes}
    (hreads : d.ReadsText P item n) (hdata : sent.data = some (.data sharedKey item.data))
    (hencloses : sent.Encloses P key) :
    ∃ keyFile internalPayload, Renders P d.keys.keyFile sent keyFile internalPayload n := by
  obtain ⟨amb, keys, internalPayload, messageID, hpayload, hpack⟩ := hencloses
  obtain ⟨statusItem, shownID, read, keys', plain, hread, hrecord, hplain, rfl⟩ := hreads
  have hcell : item.data = Message.createDataMessageExternalPaylod P amb keys
      Constant.dataMessage internalPayload messageID := by
    rw [hdata, eq_comm, Message.packDataPayload, Option.map_eq_some_iff] at hpack
    obtain ⟨_, -, hsame⟩ := hpack
    exact (Cell.data.inj hsame).2.symm
  have hshown (hfits : internalPayload.length ≤ 2002) :
      JniEntryUtils.decry P d.keys.keyFile internalPayload = some plain := by
    have hparsed := hread.payload
    rw [hcell, Message.createDataMessageExternalPaylod,
      Message.parseExternalPaylod_externalPayload P amb (by omega)] at hparsed
    rw [← KeyState.getRecordXOR_keyFile hrecord, Option.some.inj hparsed]
    exact hplain
  refine ⟨keys.keyFile, internalPayload, hpayload, fun hfits => ?_, fun hfits hback => ?_⟩
  · exact ⟨plain, _, _, hshown hfits, rfl⟩
  · have hsame : plain = getBytes sent.rawMessage :=
      Option.some.inj ((hshown hfits).symm.trans hback)
    exact ⟨_, _, by rw [hsame, newString_getBytes]⟩

namespace Network

variable {ι : Type} [DecidableEq ι] (P : Platform) (W : Wiring ι)

def machine : Machine (Network ι) (Event ι) := ⟨step P W⟩

def Passed (net : Network ι) (j : ι) (events : List (Event ι)) (conns : Connections) : Prop :=
  ∃ before, before <+: events ∧ conns = ((machine P W).run net before j).conns

def Accepted (net : Network ι) (j : ι) (events : List (Event ι)) (message : FailedTextMessage) :
    Prop :=
  ∃ before e t, before ++ [e] <+: events ∧ taken W ((machine P W).run net before) e = some t ∧
    t.device = j ∧ message ∈ Device.accepted ((machine P W).run net before j) (t.env, t.event)

structure Fresh (net : Network ι) : Prop where
  silent : ∀ i, (net i).Silent
  recieveQueue : ∀ i, (net i).recieveQueue = []
  notices : ∀ i, (net i).notices = []

-- the device at the other end accepted the text, sealed the cell in which it is read and wrote it
def Stems (net : Network ι) (events : List (Event ι)) (i : ι) (n : Notice) : Prop :=
  ∃ (item : MessageItem Bytes) (j : ι) (sharedKey : Bytes) (sent : MessageItem (Option Cell))
    (conns : Connections) (keyFile internalPayload : Bytes),
    ((machine P W).run net events i).ReadsText P item n ∧
    W.peer (i, item.socket) = some (j, sent.socket) ∧
    sent.data = some (.data sharedKey item.data) ∧
    (sent.socket, .data sharedKey item.data) ∈ ((machine P W).run net events j).written ∧
    Accepted P W net j events sent.text ∧
    Passed P W net j events conns ∧ sent.Sealed P conns ∧
    Renders P ((machine P W).run net events i).keys.keyFile sent keyFile internalPayload n

structure History (net : Network ι) (events : List (Event ι)) (net' : Network ι) : Prop where
  carried : Carried W net'
  kept : ∀ j, (net' j).Kept P (Passed P W net j events) (Accepted P W net j events)
  shown : ∀ i, ∀ n ∈ (net' i).notices, n.isText = true →
    ∃ before, before <+: events ∧ Stems P W net before i n

variable {P W} {net net' : Network ι}

theorem history_fresh (h : Fresh net) : History P W net [] net where
  carried := by
    intro i item hitem
    rw [h.recieveQueue i] at hitem
    exact absurd hitem List.not_mem_nil
  kept j := {
    queue := by
      rw [(h.silent j).sendQueue]
      exact fun i hi => absurd hi List.not_mem_nil
    failed := by
      rw [(h.silent j).failedQueue]
      exact fun message hmessage => absurd hmessage List.not_mem_nil
    written := by
      rw [(h.silent j).written]
      exact fun x hx => absurd hx List.not_mem_nil }
  shown i n hn := by
    rw [h.notices i] at hn
    exact absurd hn List.not_mem_nil

theorem passed_mono {j : ι} {events events' : List (Event ι)} (h : events <+: events')
    {conns : Connections} (hpassed : Passed P W net j events conns) :
    Passed P W net j events' conns := by
  obtain ⟨before, hbefore, rfl⟩ := hpassed
  exact ⟨before, hbefore.trans h, rfl⟩

theorem accepted_mono {j : ι} {events events' : List (Event ι)} (h : events <+: events')
    {message : FailedTextMessage} (haccepted : Accepted P W net j events message) :
    Accepted P W net j events' message := by
  obtain ⟨before, e, t, hbefore, htaken, hdevice, hmessage⟩ := haccepted
  exact ⟨before, e, t, hbefore.trans h, htaken, hdevice, hmessage⟩

theorem stems_of_read {events : List (Event ι)} {i : ι} {item : MessageItem Bytes}
    {rest : List (MessageItem Bytes)} {n : Notice}
    (h : History P W net events ((machine P W).run net events))
    (hqueue : ((machine P W).run net events i).recieveQueue = item :: rest)
    (htype : item.type = 1) (hreads : ((machine P W).run net events i).ReadsText P item n) :
    Stems P W net events i n := by
  obtain ⟨j, socket, sharedKey, hpeer, hwritten⟩ :=
    h.carried i item (hqueue ▸ List.mem_cons_self) htype
  have htext : (Cell.data sharedKey item.data).IsText := by
    obtain ⟨statusItem, messageID, internalPayload, keys, plain, hread, -⟩ := hreads
    exact ⟨sharedKey, item.data, rfl, hread.type⟩
  obtain ⟨sent, rfl, hdata, -, haccepted, conns, hpassed, hsealed⟩ :=
    (h.kept j).written (socket, Cell.data sharedKey item.data) hwritten htext
  obtain ⟨_, -, -, hencloses⟩ := id hsealed
  obtain ⟨keyFile, internalPayload, hrenders⟩ := renders_of_reads hreads hdata hencloses
  exact ⟨item, j, sharedKey, sent, conns, keyFile, internalPayload, hreads, hpeer, hdata, hwritten,
    haccepted, hpassed, hsealed, hrenders⟩

theorem history_step {events : List (Event ι)} (e : Event ι)
    (h : History P W net events ((machine P W).run net events)) :
    History P W net (events ++ [e]) (step P W ((machine P W).run net events) e) := by
  have hearlier : events <+: events ++ [e] := List.prefix_append events [e]
  have hnext : (machine P W).run net (events ++ [e]) =
      step P W ((machine P W).run net events) e := (machine P W).run_append net events [e]
  have hkept (j : ι) : (((machine P W).run net events) j).Kept P
      (Passed P W net j (events ++ [e])) (Accepted P W net j (events ++ [e])) :=
    Device.kept_mono (fun _ => passed_mono hearlier) (fun _ => accepted_mono hearlier) (h.kept j)
  have hshown {i : ι} {n : Notice} (hn : n ∈ ((machine P W).run net events i).notices)
      (htext : n.isText = true) :
      ∃ before, before <+: events ++ [e] ∧ Stems P W net before i n := by
    obtain ⟨before, hbefore, hstems⟩ := h.shown i n hn htext
    exact ⟨before, hbefore.trans hearlier, hstems⟩
  cases htaken : taken W ((machine P W).run net events) e with
  | none =>
    have hsame : step P W ((machine P W).run net events) e = (machine P W).run net events := by
      rw [step, htaken]
    rw [hsame]
    exact ⟨h.carried, hkept, fun i n hn htext => hshown hn htext⟩
  | some t =>
    have htake : step P W ((machine P W).run net events) e =
        take P ((machine P W).run net events) t := by
      rw [step, htaken]
    rw [htake] at hnext ⊢
    constructor
    · exact carried_take h.carried htaken
    · intro j
      by_cases hj : j = t.device
      · subst hj
        rw [take_self]
        refine Device.kept_step (hkept t.device) (t.env, t.event) ?_ ?_
        · refine ⟨events ++ [e], List.prefix_rfl, ?_⟩
          rw [hnext, take_self]
        · exact fun message hmessage => ⟨events, e, t, List.prefix_rfl, htaken, rfl, hmessage⟩
      · rw [take_apply, if_neg hj]
        exact hkept j
    · intro i n hn htext
      by_cases hi : i = t.device
      · subst hi
        rw [take_self] at hn
        rcases Device.tells_step (P := P) _ t.event n hn with hold | hother |
          ⟨-, item, rest, hqueue, htype, hreads⟩
        · exact hshown hold htext
        · rw [Device.Other, htext] at hother
          cases hother
        · exact ⟨events, hearlier, stems_of_read h hqueue htype hreads⟩
      · rw [take_apply, if_neg hi] at hn
        exact hshown hn htext

theorem shown_texts_stem_from_peer {net : Network ι} (hnet : Fresh net) (events : List (Event ι))
    {i : ι} {n : Notice} (hshown : n ∈ ((machine P W).run net events i).notices)
    (htext : n.isText = true) : ∃ before, before <+: events ∧ Stems P W net before i n :=
  ((machine P W).run_history (J := History P W net) (history_fresh hnet)
    (fun _ e h => history_step e h) events).shown i n hshown htext

theorem fresh_connected (aliceFile bobFile : Bytes) :
    Fresh (Delivery.connected aliceFile bobFile).network where
  silent i := by cases i <;> exact ⟨rfl, rfl, rfl⟩
  recieveQueue i := by cases i <;> rfl
  notices i := by cases i <;> rfl

theorem shown_hi_stems_from_alice :
    let events : List (Event Bool) := [.act false {} (.sendText "hi" "bob" 1000),
      .act false {} .write, .deliver false 0, .act true {} .read]
    ∃ before, before <+: events ∧ Stems demoPlatform Delivery.oneLink
      (Delivery.connected [1] [1]).network before true (.hasReceivedMessage "hi" "alice" 1000) :=
  shown_texts_stem_from_peer (fresh_connected [1] [1]) _ (by decide +kernel) rfl

end Network

end TorChat
