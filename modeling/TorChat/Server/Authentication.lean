import TorChat.Server.Emissions
import TorChat.Message.HandShakeCell

namespace TorChat

open Library (Bytes HashMap Machine)

namespace Authentication

-- who is at the other end of each socket, and the contacts' private keys
structure Setting where
  attacker : Nat → Bool
  peer : Nat → String
  privateKey : String → PrivateKey

structure Server where
  device : Device
  handed : List (String × Cell) := []

structure Event where
  env : Env := {}
  event : Device.Event

def VerifiedBy (publicKey : PublicKey) : Cell → Bool
  | .handshake _ rawData signature =>
      rawData.length = 1790 && RSACrypto.checkSign publicKey rawData signature
  | _ => false

section Runs

variable (P : Platform)

-- the cells that reach the handshake handler, and the contact each is attributed to
def handedBy (d d' : Device) : Device.Event → List (String × Cell)
  | .receiveCell _ cell =>
      ((d'.recieveQueue.drop d.recieveQueue.length).filter (fun item => item.type = 0)).map
        (fun item => (item.onionName, cell))
  | _ => []

def step (s : Server) (e : Event) : Server :=
  { device := s.device.step P e.env e.event
    handed := s.handed ++ handedBy s.device (s.device.step P e.env e.event) e.event }

def machine : Machine Server Event := ⟨step P⟩

variable (w : Setting)

def Authenticated (s : Server) : Prop :=
  (∀ item, s.device.conns.Mem item → w.attacker item.socket = true → item.status ≠ 1) ∧
    ∀ x ∈ s.handed, ∃ mail, s.device.mailList.get? x.1 = some mail ∧
      VerifiedBy mail.publicKey x.2 = true

structure AddressBook (d : Device) : Prop where
  contact : ∀ onionName mail, d.mailList.get? onionName = some mail →
    mail = MailItem.ofContact P onionName (w.privateKey onionName).publicKey
  distinct : ∀ socket, w.attacker socket = false → ∀ mail ∈ d.mailList.values,
    mail.onionHash = P.sha256 (getBytes (w.peer socket)) → mail.onionName = w.peer socket

structure Fresh (d : Device) : Prop where
  book : AddressBook P w d
  conns : d.conns = {}
  transports : d.transports = []

-- an honest contact opens with its REQUEST and signs every handshake cell
def SentByPeer (d : Device) (socket : Nat) (cell : Cell) : Prop :=
  cell = .zeros ∨ (∃ sharedKey rawData, cell = .data sharedKey rawData) ∨
    ∃ (handShakeCell : HandShakeCell) (amb : Ambient) (keys : KeyState)
      (handShake : HandShakeMessage), handShakeCell.Fits ∧
      handShakeCell.build P amb keys handShake = some cell ∧
      handShake.localPrivateKey = w.privateKey (w.peer socket) ∧
      ((d.transport socket).bind (fun t => t.mailItem) = none →
        handShakeCell = .request (w.peer socket))

def Honest (s : Server) (e : Event) : Prop :=
  match e.event with
  | .receiveCell socket cell =>
      w.attacker socket = false → SentByPeer P w s.device socket cell
  | .connect onionName _ socket => w.attacker socket = false ∧ onionName = w.peer socket
  | _ => True

def Unsigned (s : Server) (e : Event) : Prop :=
  match e.event with
  | .receiveCell socket cell => w.attacker socket = true →
      ∀ mail ∈ s.device.mailList.values, VerifiedBy mail.publicKey cell = false
  | _ => True

-- no attacker's cell names a contact on a connection that is not attributed yet
def Unclaimed (s : Server) (e : Event) : Prop :=
  match e.event with
  | .receiveCell socket cell => w.attacker socket = true →
      ∀ t ∈ s.device.transport socket, t.mailItem = none → s.device.identify cell = none
  | _ => True

structure Secure (d : Device) : Prop where
  book : AddressBook P w d
  named : d.conns.Named
  placed : ∀ item, d.conns.Mem item →
    w.attacker item.socket = false ∧ item.onionName = w.peer item.socket
  bound : ∀ t ∈ d.transports, ∀ mail ∈ t.mailItem, w.attacker t.socket = false ∧
    mail.onionName = w.peer t.socket ∧ d.mailList.get? mail.onionName = some mail

end Runs

section Transports

variable {P : Platform} {env : Env} {d : Device}

theorem transports_endTransport {t u : Transport} (h : u ∈ (d.endTransport t).transports) :
    u ∈ d.transports := by
  obtain ⟨d', hframed, hend⟩ : ∃ d', d.Framed none d' ∧ d.endTransport t =
      d'.closeTransport t.socket := Device.framed_endTransport none d t
  rw [hend] at h
  have hmem := List.mem_of_mem_eraseP h
  rw [hframed.2.2] at hmem
  exact hmem

theorem transports_readCell {mail : MailItem} {t u : Transport} {cell : Cell}
    (h : u ∈ (d.readCell mail t cell).transports) : u ∈ d.transports := by
  rcases d.readCell_cases mail t cell with hsame | hend | ⟨type, plain, hhand, -, -⟩
  · rwa [hsame] at h
  · rw [hend] at h
    exact transports_endTransport h
  · rwa [hhand] at h

-- where an attributed transport comes from
def Attaches (d : Device) (t : Transport) (mail : MailItem) : Device.Event → Prop
  | .receiveCell socket cell => t.socket = socket ∧ ∃ t₀ ∈ d.transport socket,
      t₀.mailItem = none ∧ d.identify cell = some mail
  | .startHandShake onionName purpose => d.mailList.get? onionName = some mail ∧
      ∃ item, d.conns.getConnectionStatusItemByOnionName onionName purpose = some item ∧
        t.socket = item.socket
  | _ => False

theorem attached_bindPeer {t u : Transport} {mail mail' : MailItem}
    (hu : u ∈ (d.bindPeer t mail').1.transports) (hmail : mail ∈ u.mailItem) :
    u ∈ d.transports ∨ u.socket = t.socket ∧ mail = mail' := by
  obtain ⟨old, hold, rfl⟩ := List.mem_map.mp hu
  dsimp only at hmail ⊢
  split at hmail
  · rename_i hsocket
    rw [if_pos hsocket]
    exact .inr ⟨rfl, (Option.mem_some_iff.mp hmail).symm⟩
  · rename_i hsocket
    rw [if_neg hsocket]
    exact .inl hold

theorem attached_receiveCell {socket : Nat} {cell : Cell} {u : Transport} {mail : MailItem}
    (hu : u ∈ (d.receiveCell socket cell).transports) (hmail : mail ∈ u.mailItem) :
    u ∈ d.transports ∨ Attaches d u mail (.receiveCell socket cell) := by
  rw [Device.receiveCell] at hu
  split at hu
  · exact .inl hu
  · rename_i t htransport
    split at hu
    · exact .inl hu
    · split at hu
      · exact .inl (transports_readCell hu)
      · rename_i hnone
        split at hu
        · exact .inl (List.mem_of_mem_eraseP hu)
        · rename_i mail' hidentify
          rcases attached_bindPeer (transports_readCell hu) hmail with hold | ⟨hsocket, rfl⟩
          · exact .inl hold
          · exact .inr ⟨hsocket.trans (Device.transport_socket htransport), t, htransport, hnone,
              hidentify⟩

theorem attached_startHandShake {onionName : String} {purpose : Nat} {u : Transport}
    {mail : MailItem}
    (hu : u ∈ (d.startHandShakeProcess P env onionName purpose).transports)
    (hmail : mail ∈ u.mailItem) :
    u ∈ d.transports ∨ Attaches d u mail (.startHandShake onionName purpose) := by
  have hdelete (d : Device) (item : ConnectionStatusItem) :
      (d.deleteStatusItem item).transports = d.transports := by
    rw [Device.deleteStatusItem]
    split <;> rfl
  rw [Device.startHandShakeProcess] at hu
  split at hu
  · rename_i item mail' handShake hitem hget _
    split at hu
    · exact .inl hu
    · split at hu
      · exact .inl hu
      · dsimp only at hu
        split at hu
        · rcases List.mem_append.mp hu with hold | hnew
          · exact .inl hold
          · rw [List.mem_singleton.mp hnew] at hmail ⊢
            obtain rfl := Option.mem_some_iff.mp hmail
            exact .inr ⟨hget, item, hitem, rfl⟩
        · rw [hdelete] at hu
          exact .inl hu
  · exact .inl hu

theorem attached_step (e : Device.Event) {u : Transport} {mail : MailItem}
    (hu : u ∈ (d.step P env e).transports) (hmail : mail ∈ u.mailItem) :
    u ∈ d.transports ∨ Attaches d u mail e := by
  have hframed {d' : Device} (h : d.Framed none d') (hu : u ∈ d'.transports) :
      u ∈ d.transports := h.2.2 ▸ hu
  cases e with
  | accept socket =>
    rcases List.mem_append.mp hu with hold | hnew
    · exact .inl hold
    · rw [List.mem_singleton.mp hnew] at hmail
      cases hmail
  | receiveCell socket cell => exact attached_receiveCell hu hmail
  | hangUp socket =>
    rw [Device.step, Device.hangUp] at hu
    split at hu
    · exact .inl hu
    · exact .inl (transports_endTransport hu)
  | connect onionName purpose socket =>
    rw [Device.step, Device.connect] at hu
    split at hu
    · exact .inl hu
    · exact .inl hu
  | startHandShake onionName purpose =>
    rw [Device.step] at hu
    exact attached_startHandShake hu hmail
  | read =>
    cases hqueue : d.recieveQueue with
    | nil =>
      rw [Device.step, Device.read, hqueue] at hu
      exact .inl hu
    | cons item rest =>
      rw [Device.step, (Device.framed_read P env hqueue).2.2] at hu
      exact .inl hu
  | write => exact .inl (hframed (Device.framed_write d) hu)
  | sendText messageContent remoteOnion messageID =>
    exact .inl (hframed (Device.framed_handleTextMessageSend d messageContent remoteOnion
      messageID) hu)
  | sendFile fileFullPath content remoteOnion messageID =>
    exact .inl (hframed
      (Device.framed_of_eq (Device.shell_queueFileMeta d remoteOnion _ messageID)) hu)
  | sendBytes fileFullPath bitmapBytes remoteOnion messageID =>
    exact .inl (hframed
      (Device.framed_of_eq (Device.shell_queueFileMeta d remoteOnion _ messageID)) hu)
  | register position =>
    exact .inl (hframed (Device.framed_of_eq (Device.shell_registerTask d position))
      hu)
  | tryResendAll =>
    exact .inl (hframed (Device.framed_of_eq (Device.shell_tryResendAll _ d)) hu)

end Transports

section Handed

variable {P : Platform} {d : Device}

theorem handedBy_of_queue {d' : Device} (h : d'.recieveQueue = d.recieveQueue) (socket : Nat)
    (cell : Cell) : handedBy d d' (.receiveCell socket cell) = [] := by
  rw [handedBy, h, List.drop_length]
  rfl

theorem handedBy_of_append {d' : Device} {item : MessageItem Bytes}
    (h : d'.recieveQueue = d.recieveQueue ++ [item]) (socket : Nat) (cell : Cell) :
    handedBy d d' (.receiveCell socket cell) =
      if item.type = 0 then [(item.onionName, cell)] else [] := by
  rw [handedBy, h, List.drop_left, List.filter_cons]
  by_cases htype : item.type = 0
  · rw [if_pos (decide_eq_true htype), if_pos htype]
    rfl
  · rw [if_neg (by simpa using htype), if_neg htype]
    rfl

theorem queue_endTransport (t : Transport) :
    (d.endTransport t).recieveQueue = d.recieveQueue := by
  obtain ⟨d', hframed, hend⟩ : ∃ d', d.Framed none d' ∧ d.endTransport t =
      d'.closeTransport t.socket := Device.framed_endTransport none d t
  rw [hend]
  exact hframed.2.1

theorem handed_readCell {d₀ : Device} (hqueue : d₀.recieveQueue = d.recieveQueue)
    {mail : MailItem} {t : Transport} {socket : Nat} {cell : Cell} {x : String × Cell}
    (hx : x ∈ handedBy d (d₀.readCell mail t cell) (.receiveCell socket cell)) :
    x = (mail.onionName, cell) ∧
      (Message.parseRemote cell d₀.privateKey mail.publicKey).isSome := by
  rcases d₀.readCell_cases mail t cell with hsame | hend | ⟨type, plain, hhand, hparse, -⟩
  · rw [hsame, handedBy_of_queue hqueue] at hx
    exact absurd hx List.not_mem_nil
  · rw [hend, handedBy_of_queue ((queue_endTransport t).trans hqueue)] at hx
    exact absurd hx List.not_mem_nil
  · have happend : (d₀.readCell mail t cell).recieveQueue = d.recieveQueue ++ [{
        onionName := mail.onionName, socket := t.socket, data := plain, type := type
        purpose := 0, handShakeMessage := t.handShakeMessage }] := by
      rw [hhand, Device.handCell, hqueue]
    rw [handedBy_of_append happend] at hx
    split at hx
    · rename_i htype
      exact ⟨List.mem_singleton.mp hx, Option.isSome_of_eq_some (hparse htype)⟩
    · exact absurd hx List.not_mem_nil

-- the contact a cell read from a socket is attributed to
def Attributed (d : Device) (socket : Nat) (cell : Cell) (mail : MailItem) : Prop :=
  ∃ t ∈ d.transport socket,
    mail ∈ t.mailItem ∨ t.mailItem = none ∧ d.identify cell = some mail

theorem handed_receiveCell {socket : Nat} {cell : Cell} {x : String × Cell}
    (hx : x ∈ handedBy d (d.receiveCell socket cell) (.receiveCell socket cell)) :
    ∃ mail, Attributed d socket cell mail ∧ x = (mail.onionName, cell) ∧
      (Message.parseRemote cell d.privateKey mail.publicKey).isSome := by
  have hempty {d' : Device} (h : d'.recieveQueue = d.recieveQueue)
      (hx : x ∈ handedBy d d' (.receiveCell socket cell)) : False := by
    rw [handedBy_of_queue h] at hx
    exact List.not_mem_nil hx
  rw [Device.receiveCell] at hx
  split at hx
  · exact (hempty rfl hx).elim
  · rename_i t htransport
    split at hx
    · exact (hempty rfl hx).elim
    · split at hx
      · rename_i mail hmail
        exact ⟨mail, ⟨t, htransport, .inl hmail⟩, handed_readCell rfl hx⟩
      · rename_i hnone
        split at hx
        · exact (hempty rfl hx).elim
        · rename_i mail hidentify
          have hqueue : (d.bindPeer t mail).1.recieveQueue = d.recieveQueue := rfl
          exact ⟨mail, ⟨t, htransport, .inr ⟨hnone, hidentify⟩⟩, handed_readCell hqueue hx⟩

theorem statusItem_addNewConnection {conns : Connections} {new : ConnectionStatusItem}
    (h : ∀ item, conns.Mem item → item.socket ≠ new.socket) :
    (conns.addNewConnection new).statusItem new.onionName new.socket = some new := by
  have hnone : ((conns.allConByOnionName.get? new.onionName).getD []).find?
      (fun item => item.socket = new.socket) = none := by
    rw [List.find?_eq_none]
    intro item hitem
    cases hget : conns.allConByOnionName.get? new.onionName with
    | none =>
      rw [hget] at hitem
      exact absurd hitem List.not_mem_nil
    | some items =>
      rw [hget] at hitem
      simpa using h item (.inl ⟨new.onionName, items, hget, hitem⟩)
  have hget : (conns.addNewConnection new).getConnectionStatusItem new.onionName new.socket =
      some new := by
    rw [Connections.getConnectionStatusItem, Connections.addNewConnection, Connections.setItems,
      HashMap.get?_put_self, Option.bind_some, ConnectionItems.getConnBySocket,
      ConnectionItems.addNewConn, List.find?_append, hnone, Option.none_or]
    exact List.find?_cons_of_pos (decide_eq_true rfl)
  rw [Connections.statusItem, hget, Option.some_or]

theorem handed_of_identify {socket : Nat} {cell : Cell} {t : Transport} {mail : MailItem}
    (htransport : d.transport socket = some t) (hnone : t.mailItem = none)
    (hidentify : d.identify cell = some mail)
    (hfresh : ∀ item, d.conns.Mem item → item.socket ≠ socket) :
    handedBy d (d.receiveCell socket cell) (.receiveCell socket cell) =
      [(mail.onionName, cell)] := by
  have hzeros : cell ≠ .zeros := by
    rintro rfl
    cases hidentify
  have hsocket : t.socket = socket := Device.transport_socket htransport
  obtain ⟨plain, hplain⟩ : ∃ plain, Message.parse cell d.privateKey = some plain := by
    obtain ⟨plain, hplain, -⟩ := Option.bind_eq_some_iff.mp hidentify
    exact ⟨plain, hplain⟩
  have hitem : (d.bindPeer t mail).1.conns.statusItem mail.onionName
      (d.bindPeer t mail).2.socket = some { onionName := mail.onionName, socket := t.socket } :=
    statusItem_addNewConnection (fun item hmem => hsocket.symm ▸ hfresh item hmem)
  have hremote : Message.parseRemote cell (d.bindPeer t mail).1.privateKey mail.publicKey =
      some plain := hplain
  have hread : d.receiveCell socket cell =
      (d.bindPeer t mail).1.handCell mail (d.bindPeer t mail).2 0 plain := by
    rw [Device.receiveCell, htransport]
    dsimp only
    rw [if_neg hzeros, hnone, hidentify]
    dsimp only
    rw [Device.readCell, hitem]
    dsimp only
    rw [if_pos rfl, hremote]
  rw [handedBy_of_append (by rw [hread]; rfl), if_pos rfl]

end Handed

section Contacts

variable {P : Platform} {w : Setting} {d : Device} {socket : Nat} {cell : Cell}
  {mail : MailItem}

theorem payload_of_cell {handShakeCell : HandShakeCell} {amb : Ambient} {keys : KeyState}
    {handShake : HandShakeMessage} (hfits : handShakeCell.Fits)
    (hbuild : handShakeCell.build P amb keys handShake = some cell) :
    ∃ payload, cell = handShake.build payload ∧ payload.length = 1790 ∧
      handShakeCell.FieldsRead P keys payload := by
  obtain ⟨payload, hpayload, hlength, -, -, hfields⟩ :=
    HandShakeCell.payload_spec P amb keys hfits
  rw [HandShakeCell.build_eq, hpayload, Option.map_some] at hbuild
  exact ⟨payload, (Option.some.inj hbuild).symm, hlength, hfields⟩

theorem verifiedBy_build {handShake : HandShakeMessage} {payload : Bytes}
    (hlength : payload.length = 1790) :
    VerifiedBy handShake.localPrivateKey.publicKey (handShake.build payload) = true := by
  rw [HandShakeMessage.build, Message.build, VerifiedBy, Bool.and_eq_true]
  exact ⟨decide_eq_true hlength, decide_eq_true rfl⟩

theorem listed_of_identify (hbook : AddressBook P w d) (h : d.identify cell = some mail) :
    d.mailList.get? mail.onionName = some mail ∧ mail ∈ d.mailList.values ∧
      ∃ externalPayload, Message.parse cell d.privateKey = some externalPayload ∧
        Message.subBytes externalPayload 33 32 = some mail.onionHash := by
  simp only [Device.identify, Option.bind_eq_bind, Option.bind_eq_some_iff] at h
  obtain ⟨externalPayload, hparse, onionHash, hhash, hfind⟩ := h
  have hmem : mail ∈ d.mailList.values := List.mem_of_find?_eq_some hfind
  have hsame : mail.onionHash = onionHash := by simpa using List.find?_some hfind
  obtain ⟨onionName, hget⟩ := HashMap.mem_values.mp hmem
  have hcontact := hbook.contact onionName mail hget
  refine ⟨?_, hmem, externalPayload, hparse, by rw [hsame, hhash]⟩
  rw [hcontact] at hget ⊢
  exact hget

theorem peer_of_identify (hbook : AddressBook P w d) (hsocket : w.attacker socket = false)
    (hunbound : (d.transport socket).bind (fun t => t.mailItem) = none)
    (hsent : SentByPeer P w d socket cell) (h : d.identify cell = some mail) :
    mail.onionName = w.peer socket := by
  obtain ⟨-, hmem, externalPayload, hparse, hhash⟩ := listed_of_identify hbook h
  rcases hsent with rfl | ⟨sharedKey, rawData, rfl⟩ | ⟨handShakeCell, amb, keys, handShake, hfits,
    hbuild, -, hrequest⟩
  · cases hparse
  · cases hparse
  · obtain rfl := hrequest hunbound
    obtain ⟨payload, rfl, hlength, hfields, -⟩ := payload_of_cell hfits hbuild
    have hremote : Message.parseRemote (handShake.build payload) d.privateKey mail.publicKey =
        some externalPayload := hparse
    rw [HandShakeMessage.payload_of_build hlength hremote, hfields] at hhash
    exact hbook.distinct socket hsocket mail hmem (Option.some.inj hhash).symm

theorem contact_of_attributed (h : Secure P w d)
    (hsent : w.attacker socket = false → SentByPeer P w d socket cell)
    (hclaim : w.attacker socket = true → ∀ t ∈ d.transport socket, t.mailItem = none →
      d.identify cell = none) (hmail : Attributed d socket cell mail) :
    w.attacker socket = false ∧ mail.onionName = w.peer socket ∧
      d.mailList.get? mail.onionName = some mail := by
  obtain ⟨t, htransport, hbound | ⟨hnone, hidentify⟩⟩ := hmail
  · have hsocket : t.socket = socket := Device.transport_socket htransport
    exact hsocket ▸ h.bound t (List.mem_of_find?_eq_some htransport) mail hbound
  · have hsocket : w.attacker socket = false := by
      cases hattacker : w.attacker socket with
      | false => rfl
      | true =>
        rw [hclaim hattacker t htransport hnone] at hidentify
        cases hidentify
    have hunbound : (d.transport socket).bind (fun t => t.mailItem) = none := by
      rw [Option.mem_def.mp htransport, Option.bind_some, hnone]
    exact ⟨hsocket, peer_of_identify h.book hsocket hunbound (hsent hsocket) hidentify,
      (listed_of_identify h.book hidentify).1⟩

theorem verified_of_sent (hbook : AddressBook P w d) (hname : mail.onionName = w.peer socket)
    (hget : d.mailList.get? mail.onionName = some mail) (hsent : SentByPeer P w d socket cell)
    (hparse : (Message.parseRemote cell d.privateKey mail.publicKey).isSome) :
    VerifiedBy mail.publicKey cell = true := by
  have hcontact := hbook.contact _ _ hget
  rcases hsent with rfl | ⟨sharedKey, rawData, rfl⟩ | ⟨handShakeCell, amb, keys, handShake, hfits,
    hbuild, hkey, -⟩
  · cases hparse
  · cases hparse
  · obtain ⟨payload, rfl, hlength, -⟩ := payload_of_cell hfits hbuild
    have hpublic : mail.publicKey = handShake.localPrivateKey.publicKey := by
      rw [hkey, ← hname]
      exact congrArg MailItem.publicKey hcontact
    rw [hpublic]
    exact verifiedBy_build hlength

end Contacts

section Invariant

variable {P : Platform} {w : Setting} {s : Server} {e : Event}

def Placed (w : Setting) (item : ConnectionStatusItem) : Prop :=
  w.attacker item.socket = false ∧ item.onionName = w.peer item.socket

theorem placed_op {conns : Connections} {op : ConnOp} (h : ∀ item, conns.Mem item → Placed w item)
    (hadd : ∀ new, op = .add new → Placed w new) :
    ∀ item, (conns.step op).Mem item → Placed w item := by
  intro item hitem
  cases op with
  | add new =>
    rcases Connections.mem_addNewConnection hitem with hold | rfl
    · exact h item hold
    · exact hadd item rfl
  | delete onionName socket => exact h item (Connections.mem_deleteConnection hitem)
  | status onionName socket status sharedKey =>
    rcases Connections.mem_updateStatus hitem with hold | ⟨old, hold, -, rfl⟩
    · exact h item hold
    · exact h old hold
  | purpose onionName socket purpose =>
    rcases Connections.mem_updateConnectionPurpose hitem with hold | ⟨old, hold, -, rfl⟩
    · exact h item hold
    · exact h old hold
  | create onionName purpose => exact h item (Connections.createConnectionAsyc_mem.mp hitem)

theorem placed_step (h : Secure P w s.device) (hhonest : Honest P w s e)
    (hclaim : Unclaimed w s e) :
    ∀ item, (s.device.step P e.env e.event).conns.Mem item → Placed w item := by
  obtain ⟨env, event⟩ := e
  have hreach (hadd : ∀ new, s.device.Adds new event → Placed w new) :
      ∀ item, (s.device.step P env event).conns.Mem item → Placed w item := by
    refine Machine.reaches_invariant (I := fun c => ∀ item, c.Mem item → Placed w item) ?_
      (Device.step_conns_reaches s.device event) h.placed
    intro conns op hplaced hop
    refine placed_op hplaced (fun new hnew => ?_)
    subst hnew
    exact hadd new hop
  cases event with
  | receiveCell socket cell =>
    apply hreach
    rintro new ⟨hsocket, t, mail, htransport, hnone, hidentify, hname⟩
    obtain ⟨hattacker, hpeer, -⟩ := contact_of_attributed h hhonest hclaim
      ⟨t, htransport, .inr ⟨hnone, hidentify⟩⟩
    rw [Placed, hsocket, hname]
    exact ⟨hattacker, hpeer⟩
  | connect onionName purpose socket =>
    intro item hitem
    obtain ⟨hattacker, hpeer⟩ := hhonest
    rw [Device.step, Device.connect] at hitem
    split at hitem
    · exact h.placed item hitem
    · rename_i mail hmail
      rcases Connections.mem_addNewConnection hitem with hold | rfl
      · exact h.placed item hold
      · refine ⟨hattacker, ?_⟩
        rw [h.book.contact onionName mail hmail]
        exact hpeer
  | _ => exact hreach (fun new hnew => hnew.elim)

theorem bound_step (h : Secure P w s.device) (hhonest : Honest P w s e)
    (hclaim : Unclaimed w s e) :
    ∀ t ∈ (s.device.step P e.env e.event).transports, ∀ mail ∈ t.mailItem,
      w.attacker t.socket = false ∧ mail.onionName = w.peer t.socket ∧
        s.device.mailList.get? mail.onionName = some mail := by
  intro t ht mail hmail
  obtain ⟨env, event⟩ := e
  rcases attached_step event ht hmail with hold | hnew
  · exact h.bound t hold mail hmail
  · cases event with
    | receiveCell socket cell =>
      obtain ⟨hsocket, t₀, htransport, hnone, hidentify⟩ := hnew
      rw [hsocket]
      exact contact_of_attributed h hhonest hclaim ⟨t₀, htransport, .inr ⟨hnone, hidentify⟩⟩
    | startHandShake onionName purpose =>
      obtain ⟨hget, item, hitem, hsocket⟩ := hnew
      have hname : mail.onionName = onionName :=
        congrArg MailItem.onionName (h.book.contact onionName mail hget)
      obtain ⟨hattacker, hpeer⟩ :=
        h.placed item (Connections.mem_of_getConnectionStatusItemByOnionName hitem)
      rw [Connections.onionName_of_named_purpose h.named hitem] at hpeer
      rw [hsocket, hname]
      exact ⟨hattacker, hpeer, hget⟩
    | _ => exact hnew.elim

theorem mailList_step : (s.device.step P e.env e.event).mailList = s.device.mailList :=
  congrArg (fun a => a.2.2) (Device.emits_step P e.env s.device e.event).account

theorem secure_step (h : Secure P w s.device) (hhonest : Honest P w s e)
    (hclaim : Unclaimed w s e) : Secure P w (step P s e).device where
  book := by
    obtain ⟨hcontact, hdistinct⟩ := h.book
    constructor
    · rw [step, mailList_step]
      exact hcontact
    · rw [step, mailList_step]
      exact hdistinct
  named := Device.named_deviceStep h.named e.event
  placed := placed_step h hhonest hclaim
  bound := by
    rw [step, mailList_step]
    exact bound_step h hhonest hclaim

def Verified (s : Server) : Prop :=
  ∀ x ∈ s.handed, ∃ mail, s.device.mailList.get? x.1 = some mail ∧
    VerifiedBy mail.publicKey x.2 = true

theorem verified_step (h : Secure P w s.device) (hhonest : Honest P w s e)
    (hclaim : Unclaimed w s e) (hverified : Verified s) : Verified (step P s e) := by
  obtain ⟨env, event⟩ := e
  intro x hx
  rw [step, mailList_step]
  rcases List.mem_append.mp hx with hold | hnew
  · exact hverified x hold
  · cases event with
    | receiveCell socket cell =>
      obtain ⟨mail, hmail, rfl, hparse⟩ := handed_receiveCell hnew
      obtain ⟨hattacker, hpeer, hget⟩ := contact_of_attributed h hhonest hclaim hmail
      exact ⟨mail, hget, verified_of_sent h.book hpeer hget (hhonest hattacker) hparse⟩
    | _ => exact absurd hnew List.not_mem_nil

theorem authenticated_of_secure (h : Secure P w s.device) (hverified : Verified s) :
    Authenticated w s := by
  refine ⟨?_, hverified⟩
  intro item hitem hattacker
  rw [(h.placed item hitem).1] at hattacker
  cases hattacker

theorem unclaimed_of_authenticated (h : Secure P w s.device) (hunsigned : Unsigned w s e)
    (hnext : Authenticated w (step P s e)) : Unclaimed w s e := by
  obtain ⟨env, event⟩ := e
  cases event with
  | receiveCell socket cell =>
    intro hattacker t htransport hnone
    cases hidentify : s.device.identify cell with
    | none => rfl
    | some mail =>
      have hfresh : ∀ item, s.device.conns.Mem item → item.socket ≠ socket := by
        rintro item hitem rfl
        rw [(h.placed item hitem).1] at hattacker
        cases hattacker
      have hhanded := handed_of_identify htransport hnone hidentify hfresh
      have hmem : (mail.onionName, cell) ∈ (step P s ⟨env, .receiveCell socket cell⟩).handed :=
        List.mem_append_right _ (hhanded ▸ List.mem_singleton_self _)
      obtain ⟨mail', hget, hsigned⟩ := hnext.2 _ hmem
      rw [step, mailList_step] at hget
      have hvalue : mail' ∈ s.device.mailList.values := HashMap.mem_values.mpr ⟨_, hget⟩
      rw [hunsigned hattacker mail' hvalue] at hsigned
      cases hsigned
  | _ => trivial

end Invariant

section Authenticity

variable {P : Platform} {w : Setting}

theorem secure_fresh {d : Device} (h : Fresh P w d) : Secure P w d where
  book := h.book
  named := by
    rw [h.conns]
    exact Connections.named_empty
  placed := by
    rw [h.conns]
    rintro item (⟨onionName, items, hget, -⟩ | hdetached)
    · cases hget
    · exact absurd hdetached List.not_mem_nil
  bound := by
    rw [h.transports]
    exact fun t ht => absurd ht List.not_mem_nil

theorem sessions_authenticated {d : Device} (hfresh : Fresh P w d) (events : List Event)
    (hhonest : (machine P).Guarded (Honest P w) ⟨d, []⟩ events) :
    ((machine P).Guarded (Unclaimed w) ⟨d, []⟩ events →
      ∀ xs, xs <+: events → Authenticated w ((machine P).run ⟨d, []⟩ xs)) ∧
    ((machine P).Guarded (Unsigned w) ⟨d, []⟩ events →
      (∀ xs, xs <+: events → Authenticated w ((machine P).run ⟨d, []⟩ xs)) →
        (machine P).Guarded (Unclaimed w) ⟨d, []⟩ events) := by
  constructor
  · intro hclaim xs hxs
    have hguarded := (machine P).guarded_take hxs ((machine P).guarded_and hhonest hclaim)
    have hsecure := (machine P).guarded_invariant
      (I := fun s => Secure P w s.device ∧ Verified s)
      (fun s e hs he => ⟨secure_step hs.1 he.1 he.2, verified_step hs.1 he.1 he.2 hs.2⟩) hguarded
      ⟨secure_fresh hfresh, fun x hx => absurd hx List.not_mem_nil⟩
    exact authenticated_of_secure hsecure.1 hsecure.2
  · intro hunsigned hauthenticated
    exact (machine P).guarded_of_prefixes (I := Authenticated w)
      (J := fun s => Secure P w s.device)
      (fun s e he hclaim hs => secure_step hs he.1 hclaim)
      (fun s e he hs hnext => unclaimed_of_authenticated hs he.2 hnext)
      ((machine P).guarded_and hhonest hunsigned) (secure_fresh hfresh) hauthenticated

def demoSetting : Setting :=
  { attacker := fun socket => socket = 7
    peer := fun _ => "alice"
    privateKey := fun _ => ⟨2⟩ }

def demoServer : Device :=
  { onionName := "bob", privateKey := ⟨1⟩, keys := { keyFile := [255] }
    mailList := HashMap.put ∅ "alice"
      (MailItem.ofContact demoPlatform "alice" (demoSetting.privateKey "alice").publicKey) }

theorem fresh_demo : Fresh demoPlatform demoSetting demoServer := by
  have hcontact : ∀ onionName mail, demoServer.mailList.get? onionName = some mail →
      onionName = "alice" ∧
        mail = MailItem.ofContact demoPlatform "alice"
          (demoSetting.privateKey "alice").publicKey := by
    intro onionName mail hget
    rw [demoServer, HashMap.get?_put] at hget
    split at hget
    · rename_i hname
      exact ⟨hname, (Option.some.inj hget).symm⟩
    · cases hget
  refine ⟨⟨?_, ?_⟩, rfl, rfl⟩
  · intro onionName mail hget
    obtain ⟨rfl, rfl⟩ := hcontact onionName mail hget
    rfl
  · intro socket _ mail hmail _
    obtain ⟨onionName, hget⟩ := HashMap.mem_values.mp hmail
    rw [(hcontact onionName mail hget).2]
    rfl

def demoHandShake (key : PrivateKey) : HandShakeMessage :=
  { remoteOnion := "bob", localPrivateKey := key
    remotePublickey := demoServer.privateKey.publicKey }

def demoRequest (key : PrivateKey) : Cell :=
  (demoHandShake key).build ((HandShakeMessage.requestPayload demoPlatform {} "alice"
    demoServer.keys.requestXor).getD [])

def demoHonest : List Event :=
  [⟨{}, .accept 1⟩, ⟨{}, .receiveCell 1 (demoRequest ⟨2⟩)⟩, ⟨{}, .read⟩, ⟨{}, .accept 7⟩,
    ⟨{}, .receiveCell 7 (.raw [])⟩]

theorem sessions_authenticated_demo :
    Authenticated demoSetting ((machine demoPlatform).run ⟨demoServer, []⟩ demoHonest) := by
  have hsent : SentByPeer demoPlatform demoSetting (demoServer.accept 1) 1 (demoRequest ⟨2⟩) :=
    .inr (.inr ⟨.request "alice", {}, demoServer.keys, demoHandShake ⟨2⟩, trivial,
      by decide +kernel, rfl, fun _ => rfl⟩)
  refine (sessions_authenticated fresh_demo demoHonest ?_).1 ?_ demoHonest (List.prefix_refl _)
  · exact ⟨trivial, fun _ => hsent, trivial, trivial, fun h => absurd h (by decide), trivial⟩
  · exact ⟨trivial, fun h => absurd h (by decide), trivial, trivial,
      fun _ t _ _ => rfl, trivial⟩

-- both cells are signed with the attacker's own key
def demoForged : List Event :=
  [⟨{}, .accept 7⟩, ⟨{}, .receiveCell 7 (demoRequest ⟨9⟩)⟩,
    ⟨{}, .receiveCell 7 ((demoHandShake ⟨9⟩).createSessionDoneMessage demoPlatform {})⟩,
    ⟨{}, .read⟩, ⟨{}, .read⟩]

theorem forged_session_established :
    Fresh demoPlatform demoSetting demoServer ∧
      (machine demoPlatform).Guarded (Honest demoPlatform demoSetting) ⟨demoServer, []⟩
        demoForged ∧
      (machine demoPlatform).Guarded (Unsigned demoSetting) ⟨demoServer, []⟩ demoForged ∧
      ¬ Authenticated demoSetting
        ((machine demoPlatform).run ⟨demoServer, []⟩ demoForged) := by
  refine ⟨fresh_demo, ?_, ?_, ?_⟩
  · exact ⟨trivial, fun h => absurd h (by decide), fun h => absurd h (by decide), trivial, trivial,
      trivial⟩
  · refine ⟨trivial, fun _ => ?_, fun _ => ?_, trivial, trivial, trivial⟩
    · decide +kernel
    · decide +kernel
  · intro h
    have hstatus : (((machine demoPlatform).run ⟨demoServer, []⟩
        demoForged).device.conns.getConnectionStatusItem "alice" 7).any
          (fun item => demoSetting.attacker item.socket && item.status = 1) = true := by
      decide +kernel
    cases hitem : ((machine demoPlatform).run ⟨demoServer, []⟩
        demoForged).device.conns.getConnectionStatusItem "alice" 7 with
    | none =>
      rw [hitem] at hstatus
      cases hstatus
    | some item =>
      rw [hitem, Option.any_some, Bool.and_eq_true, decide_eq_true_eq] at hstatus
      exact h.1 item (Connections.mem_of_getConnectionStatusItem hitem).1 hstatus.1 hstatus.2

end Authenticity

end Authentication

end TorChat
