import TorChat.Server.Authentication
import TorChat.Text.TextOrigin

namespace TorChat

open Library (Bytes HashMap Machine)

namespace Device

def Contact (d : Device) (onionName : String) : Prop :=
  ∃ mail ∈ d.mailList.values, mail.onionName = onionName

def ConnsNamed (N : String → Prop) (conns : Connections) : Prop :=
  ∀ item, conns.Mem item → N item.onionName

-- the tasks a peer announced are the receive tasks
def Received (N : String → Prop) (task : FileTask) : Prop :=
  task.direction = .recieve → N task.onionName

structure ContactsOnly (d : Device) : Prop where
  conns : ConnsNamed d.Contact d.conns
  transports : ∀ t ∈ d.transports, ∀ mail ∈ t.mailItem, mail ∈ d.mailList.values
  recieveQueue : ∀ item ∈ d.recieveQueue, d.Contact item.onionName
  received : d.files.All (Received d.Contact) (fun task => task.direction = .send)
  shown : ∀ message peerHostname messageID,
    .hasReceivedMessage message peerHostname messageID ∈ d.notices → d.Contact peerHostname

variable {P : Platform} {env : Env} {d : Device}

section Peers

theorem identify_mem {cell : Cell} {mail : MailItem} (h : d.identify cell = some mail) :
    mail ∈ d.mailList.values := by
  rw [identify, Option.bind_eq_bind, Option.bind_eq_some_iff] at h
  obtain ⟨externalPayload, -, h⟩ := h
  obtain ⟨remoteOnionHash, -, hfind⟩ := Option.bind_eq_some_iff.mp h
  exact List.mem_of_find?_eq_some hfind

theorem mailList_step (e : Event) : (d.step P env e).mailList = d.mailList :=
  congrArg (fun account => account.2.2) (emits_step P env d e).account

theorem contact_step (e : Event) : (d.step P env e).Contact = d.Contact := by
  funext onionName
  rw [Contact, mailList_step, Contact]

theorem transport_mem {socket : Nat} {t : Transport} (h : d.transport socket = some t) :
    t ∈ d.transports :=
  List.mem_of_find?_eq_some h

end Peers

section Entries

theorem connsNamed_op {N : String → Prop} (conns : Connections) (op : ConnOp)
    (h : ConnsNamed N conns) (hadd : ∀ item, op = .add item → N item.onionName) :
    ConnsNamed N (conns.step op) := by
  intro item hmem
  cases op with
  | add new =>
    rcases Connections.mem_addNewConnection hmem with hold | rfl
    · exact h item hold
    · exact hadd item rfl
  | delete onionName socket => exact h item (Connections.mem_deleteConnection hmem)
  | status onionName socket status sharedKey =>
    rcases Connections.mem_updateStatus hmem with hold | ⟨old, hold, -, rfl⟩
    · exact h item hold
    · exact h old hold
  | purpose onionName socket purpose =>
    rcases Connections.mem_updateConnectionPurpose hmem with hold | ⟨old, hold, -, rfl⟩
    · exact h item hold
    · exact h old hold
  | create onionName purpose => exact h item (Connections.createConnectionAsyc_mem.mp hmem)

theorem conns_connect {N : String → Prop} (h : ConnsNamed N d.conns)
    (hN : ∀ mail ∈ d.mailList.values, N mail.onionName) (onionName : String)
    (purpose socket : Nat) : ConnsNamed N (d.connect onionName purpose socket).conns := by
  rw [connect]
  split
  · exact h
  · rename_i mail hget
    have hmail : N mail.onionName := hN mail (HashMap.mem_values.mpr ⟨onionName, hget⟩)
    exact connsNamed_op d.conns (.add _) h (fun item hitem => by cases hitem; exact hmail)

theorem conns_step (h : d.ContactsOnly) (e : Event) :
    ConnsNamed d.Contact (d.step P env e).conns := by
  have hcontact : ∀ mail ∈ d.mailList.values, d.Contact mail.onionName :=
    fun mail hmail => ⟨mail, hmail, rfl⟩
  by_cases hconnect : ∃ onionName purpose socket, e = .connect onionName purpose socket
  · obtain ⟨onionName, purpose, socket, rfl⟩ := hconnect
    exact conns_connect h.conns hcontact onionName purpose socket
  · have hreaches : connMachine.Reaches (d.ConnPermitted e) d.conns (d.step P env e).conns :=
      step_conns_reaches d e
    refine Machine.reaches_invariant ?_ hreaches h.conns
    intro conns op hconns hop
    refine connsNamed_op conns op hconns ?_
    rintro item rfl
    cases e with
    | receiveCell socket cell =>
      obtain ⟨-, t, mail, -, -, hidentify, hname⟩ := hop
      rw [hname]
      exact hcontact mail (identify_mem hidentify)
    | connect onionName purpose socket => exact absurd ⟨onionName, purpose, socket, rfl⟩ hconnect
    | _ => exact absurd hop id

theorem transports_step (h : d.ContactsOnly) (e : Event) :
    ∀ t ∈ (d.step P env e).transports, ∀ mail ∈ t.mailItem, mail ∈ d.mailList.values := by
  intro t ht mail hmail
  rcases Authentication.attached_step e ht hmail with hold | hattach
  · exact h.transports t hold mail hmail
  · cases e with
    | receiveCell socket cell =>
      obtain ⟨-, t₀, -, -, hidentify⟩ := hattach
      exact identify_mem hidentify
    | startHandShake onionName purpose => exact HashMap.mem_values.mpr ⟨onionName, hattach.1⟩
    | _ => exact absurd hattach id

theorem queued_readCell {mail : MailItem} {t : Transport} {cell : Cell} {item : MessageItem Bytes}
    (h : item ∈ (d.readCell mail t cell).recieveQueue) :
    item ∈ d.recieveQueue ∨ item.onionName = mail.onionName := by
  rcases d.readCell_cases mail t cell with hsame | hend | ⟨type, plain, hhand, -, -⟩
  · rw [hsame] at h
    exact .inl h
  · rw [hend, recieveQueue_endTransport] at h
    exact .inl h
  · rw [hhand] at h
    rcases List.mem_append.mp h with hold | hnew
    · exact .inl hold
    · exact .inr (by rw [List.mem_singleton.mp hnew])

theorem queued_receiveCell (h : d.ContactsOnly) (socket : Nat) (cell : Cell) :
    ∀ item ∈ (d.receiveCell socket cell).recieveQueue, d.Contact item.onionName := by
  intro item hitem
  have hread (d' : Device) {mail : MailItem} {t : Transport} (hd' : d'.recieveQueue = d.recieveQueue)
      (hmail : mail ∈ d.mailList.values) (hitem : item ∈ (d'.readCell mail t cell).recieveQueue) :
      d.Contact item.onionName := by
    rcases queued_readCell hitem with hold | hname
    · exact h.recieveQueue item (hd' ▸ hold)
    · exact ⟨mail, hmail, hname.symm⟩
  rw [receiveCell] at hitem
  split at hitem
  · exact h.recieveQueue item hitem
  · rename_i t htransport
    split at hitem
    · exact h.recieveQueue item hitem
    · split at hitem
      · rename_i mail hmail
        exact hread d rfl (h.transports t (transport_mem htransport) mail hmail) hitem
      · split at hitem
        · exact h.recieveQueue item hitem
        · rename_i mail hidentify
          exact hread (d.bindPeer t mail).1 rfl (identify_mem hidentify) hitem

theorem recieveQueue_step (h : d.ContactsOnly) (e : Event) :
    ∀ item ∈ (d.step P env e).recieveQueue, d.Contact item.onionName := by
  intro item hitem
  by_cases hcell : ∃ socket cell, e = .receiveCell socket cell
  · obtain ⟨socket, cell, rfl⟩ := hcell
    exact queued_receiveCell h socket cell item hitem
  · rcases handed_step hitem with hold | ⟨cell, rfl, -⟩
    · exact h.recieveQueue item hold
    · exact absurd ⟨_, cell, rfl⟩ hcell

end Entries

section Shown

theorem shown_step (h : d.ContactsOnly) (e : Event) {message peerHostname : String}
    {messageID : Nat}
    (hn : .hasReceivedMessage message peerHostname messageID ∈ (d.step P env e).notices) :
    d.Contact peerHostname := by
  rcases tells_step d e _ hn with hold | hother | ⟨-, item, rest, -, -, hreads⟩
  · exact h.shown message peerHostname messageID hold
  · cases hother
  · obtain ⟨statusItem, _, _, _, _, hreads, -, -, heq⟩ := hreads
    cases heq
    exact h.conns statusItem (Connections.mem_of_getConnectionStatusItem hreads.conn).1

theorem received_data {N : String → Prop} {R : FileTask → Prop} {item : MessageItem Bytes}
    {s : FileState} {op : FileOp} (h : s.All (Received N) R) (hitem : N item.onionName)
    (hop : d.DataPermitted P item s op) : s.Admits (Received N) R op := by
  cases op with
  | mark fileName status => exact fun task hget => h.1 fileName task hget
  | recievePiece fileName pieceID fileContent => exact fun task hget => h.1 fileName task hget
  | acknowledge fileName pieceID => exact fun task hget => h.1 fileName task hget
  | put task =>
    obtain ⟨announced, hannounced, rfl⟩ := hop
    obtain ⟨-, fileName, fileSize, contentHash, rfl⟩ := announced_ofMeta hannounced
    exact fun _ => hitem
  | remove fileName => exact trivial
  | queue items => exact trivial
  | stopTasks onionName => exact absurd hop id
  | dequeue => exact absurd hop id
  | startRegister task => exact absurd hop id
  | register position => exact absurd hop id

theorem handed_send (e : Event) : ∀ task ∈ d.handedTask P e, task.direction = .send := by
  intro task htask
  cases e with
  | sendFile fileFullPath content remoteOnion messageID =>
    rw [← Option.some.inj htask]
    rfl
  | sendBytes fileFullPath bitmapBytes remoteOnion messageID =>
    rw [← Option.some.inj htask]
    rfl
  | _ => cases htask

theorem received_step (hs : d.Sound) (h : d.ContactsOnly) (e : Event) :
    (d.step P env e).files.All (Received d.Contact) (fun task => task.direction = .send) := by
  refine (Machine.reaches_invariant
    (I := fun s => s.Keyed ∧ s.All (Received d.Contact) (fun task => task.direction = .send))
    ?_ (step_files_reaches hs.1 hs.2 e) ⟨hs.1, h.received⟩).2
  rintro s op ⟨hkeyed, hall⟩ hop
  have hsend (task : FileTask) (hdirection : task.direction = .send) : Received d.Contact task :=
    fun hreceive => by rw [hdirection] at hreceive; cases hreceive
  refine ⟨FileState.keyed_step s op hkeyed, FileState.all_step hkeyed hsend hall ?_⟩
  refine admits_filePermitted (fun _ _ ht => ht) (fun _ _ ht => ht) hall (handed_send e) ?_ hop
  rintro - ⟨item, rest, hqueue, ⟨-, hresumes⟩ | ⟨-, hdata⟩⟩
  · exact FileState.admits_resumes (fun _ _ ht => ht) hall hresumes
  · exact received_data hall (h.recieveQueue item (hqueue ▸ List.mem_cons_self)) hdata

end Shown

theorem contactsOnly_step (hs : d.Sound) (h : d.ContactsOnly) (e : Event) :
    (d.step P env e).ContactsOnly := by
  have hcontact : (d.step P env e).Contact = d.Contact := contact_step e
  constructor
  · rw [hcontact]
    exact conns_step h e
  · rw [mailList_step]
    exact transports_step h e
  · rw [hcontact]
    exact recieveQueue_step h e
  · rw [hcontact]
    exact received_step hs h e
  · rw [hcontact]
    exact fun _ _ _ hn => shown_step h e hn

structure Idle (d : Device) : Prop where
  conns : d.conns = {}
  transports : d.transports = []
  recieveQueue : d.recieveQueue = []
  senderFileMap : d.senderFileMap = ∅
  registering : d.registering = []
  notices : d.notices = []

theorem contactsOnly_idle (h : d.Idle) : d.Sound ∧ d.ContactsOnly := by
  refine ⟨⟨FileState.keyed_of_empty h.senderFileMap, ?_⟩, ?_, ?_, ?_, ⟨?_, ?_⟩, ?_⟩
  · rw [h.conns]
    exact Connections.named_empty
  · rintro item (⟨onionName, items, hget, -⟩ | hdetached)
    · rw [h.conns] at hget
      cases hget
    · rw [h.conns] at hdetached
      exact absurd hdetached List.not_mem_nil
  · rw [h.transports]
    exact fun _ ht => absurd ht List.not_mem_nil
  · rw [h.recieveQueue]
    exact fun _ hitem => absurd hitem List.not_mem_nil
  · intro fileName task hget
    rw [show d.files.senderFileMap = ∅ from h.senderFileMap] at hget
    cases hget
  · intro task htask
    rw [show d.files.registering = [] from h.registering] at htask
    exact absurd htask List.not_mem_nil
  · rw [h.notices]
    exact fun _ _ _ hn => absurd hn List.not_mem_nil

theorem only_contacts_get_in (P : Platform) {d : Device} (hd : d.Idle)
    (events : List (Env × Event)) : ((machine P).run d events).ContactsOnly := by
  obtain ⟨hs, h⟩ := contactsOnly_idle hd
  exact ((machine P).run_invariant (I := fun d => d.Sound ∧ d.ContactsOnly)
    (fun _ e h => ⟨sound_step h.1 e.2, contactsOnly_step h.1 h.2 e.2⟩) events ⟨hs, h⟩).2

theorem only_bob_gets_in :
    let d : Device := {
      onionName := "alice", privateKey := ⟨1⟩, keys := { keyFile := [5] }
      mailList := HashMap.put ∅ "bob" (.ofContact demoPlatform "bob" ⟨2⟩) }
    let events : List (Env × Event) := [({}, .accept 7), ({}, .receiveCell 7 (.data [1] [2])),
      ({}, .connect "mallory" 1 8), ({}, .connect "bob" 1 9), ({}, .startHandShake "bob" 1)]
    ((machine demoPlatform).run d events).ContactsOnly :=
  only_contacts_get_in demoPlatform ⟨rfl, rfl, rfl, rfl, rfl, rfl⟩ _

end Device

end TorChat
