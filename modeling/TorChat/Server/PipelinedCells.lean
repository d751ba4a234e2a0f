import TorChat.Server.ConnectionSlot
import TorChat.Message.HandShakeCell
import TorChat.Util.DemoPlatform

namespace TorChat

open Library (Bytes HashMap Machine)

namespace Device

variable (P : Platform)

def handle (env : Env) (d : Device) (item : MessageItem Bytes) : Device :=
  if item.type = 0 then d.handShakeMessageHandle P env item
  else if item.type = 1 then d.dataMessageHandle P env item
  else d

end Device

namespace Pipelining

variable (P : Platform)

-- the Reader thread takes an item from the queue and handles it later; in between, the reading
-- loops and all other threads go on
structure Threads where
  device : Device
  taken : Option (MessageItem Bytes) := none

inductive Event where
  | poll
  | handle (env : Env)
  | other (env : Env) (e : Device.Event)

def poll (s : Threads) : Threads :=
  match s.taken, s.device.recieveQueue with
  | none, item :: rest =>
      { device := { s.device with recieveQueue := rest }, taken := some item }
  | _, _ => s

def handle (env : Env) (s : Threads) : Threads :=
  match s.taken with
  | none => s
  | some item => { device := s.device.handle P env item }

def step (s : Threads) : Event → Threads
  | .poll => poll s
  | .handle env => handle P env s
  | .other _ .read => s
  | .other env e => { s with device := s.device.step P env e }

def machine : Machine Threads Event := { step := step P }

theorem read_eq_poll_handle (env : Env) (d : Device) :
    (machine P).run { device := d } [.poll, .handle env] = { device := d.read P env } := by
  cases hqueue : d.recieveQueue with
  | nil => simp [machine, step, poll, handle, Device.read, hqueue]
  | cons item rest => simp [machine, step, poll, handle, Device.read, Device.handle, hqueue]

structure Peer where
  mail : MailItem
  socket : Nat

variable (peer : Peer) (sharedKey : Bytes)

def Peer.Sent (item : MessageItem Bytes) : Prop :=
  item.type = 0 ∧ item.onionName = peer.mail.onionName ∧ item.socket = peer.socket

instance (item : MessageItem Bytes) : Decidable (peer.Sent item) :=
  inferInstanceAs (Decidable (_ ∧ _ ∧ _))

def pending (s : Threads) : List (MessageItem Bytes) :=
  (s.taken.toList ++ s.device.recieveQueue).filter (fun item => peer.Sent item)

def slot (s : Threads) : ConnectionItems :=
  s.device.conns.slot peer.mail.onionName peer.socket

structure Bound (d : Device) (t : Transport) : Prop where
  first : d.transport peer.socket = some t
  mail : t.mailItem = some peer.mail

inductive Finishes : MessageItem Bytes → Option Bytes → Prop where
  | exchange (item : MessageItem Bytes) (old : Option Bytes) (internalPayload : Bytes)
      (htype : Message.parseMessageType item.data = some Constant.sessionExchange)
      (hpayload : Message.parseExternalPaylod P item.data = some internalPayload)
      (hkey : HandShakeMessage.parseSessionExchangePaylod internalPayload = some sharedKey)
      (hbound : item.handShakeMessage.isSome) : Finishes item old
  | done (item : MessageItem Bytes)
      (htype : Message.parseMessageType item.data = some Constant.sessionDone)
      (hpayload : Message.parseExternalPaylod P item.data = some []) :
      Finishes item (some sharedKey)

def Waiting (last : MessageItem Bytes) (s : Threads) (item : ConnectionStatusItem) : Prop :=
  pending peer s = [last] ∧ item.status = 0 ∧ Finishes P sharedKey last item.shareKey

def Handled (s : Threads) (item : ConnectionStatusItem) : Prop :=
  pending peer s = [] ∧ item.status = 1 ∧ item.shareKey = some sharedKey

structure Tracked (last : MessageItem Bytes) (s : Threads) (item : ConnectionStatusItem)
    (t : Transport) : Prop where
  slot : slot peer s = [item]
  named : item.onionName = peer.mail.onionName
  bound : Bound peer s.device t
  phase : Waiting P peer sharedKey last s item ∨ Handled peer sharedKey s item

def Invariant (last : MessageItem Bytes) (s : Threads) : Prop :=
  slot peer s = [] ∨ ∃ item t, Tracked P peer sharedKey last s item t

-- a new socket is a new object, and after its last handshake cell the peer sends data cells
-- under the session key and keep-alive cells
def Honest (_ : Threads) : Event → Prop
  | .poll => True
  | .handle _ => True
  | .other _ e =>
      match e with
      | .accept socket => socket ≠ peer.socket
      | .connect _ _ socket => socket ≠ peer.socket
      | .receiveCell socket cell => socket = peer.socket →
          cell = .zeros ∨ ∃ plain, cell = .data sharedKey plain
      | _ => True

variable {P peer sharedKey}

section Steps

variable {last : MessageItem Bytes} {s : Threads}

theorem invariant_fades {s' : Threads} (h : Invariant P peer sharedKey last s)
    (hslot : Connections.Fades (slot peer s) (slot peer s'))
    (hpending : pending peer s' = pending peer s)
    (hbound : ∀ t, Bound peer s.device t → Bound peer s'.device t) :
    Invariant P peer sharedKey last s' := by
  rcases hslot with hnil | ⟨item, purpose, hitem, hitem'⟩
  · exact .inl hnil
  · rcases h with hnil | ⟨item₀, t, htracked⟩
    · rw [hnil] at hitem
      cases hitem
    · have heq : item₀ = item := List.singleton_inj.mp (htracked.slot.symm.trans hitem)
      subst heq
      refine .inr ⟨_, t, hitem', htracked.named, hbound t htracked.bound, ?_⟩
      rw [Waiting, Handled, hpending]
      exact htracked.phase

theorem slot_length (h : Invariant P peer sharedKey last s) : (slot peer s).length ≤ 1 := by
  rcases h with hnil | ⟨item, t, htracked⟩
  · rw [hnil]
    exact Nat.zero_le 1
  · rw [htracked.slot]
    exact le_refl 1

theorem invariant_conns {d : Device} {taken : Option (MessageItem Bytes)}
    {who : Option (String × Nat)} (h : Invariant P peer sharedKey last s)
    (hwho : who ≠ some (peer.mail.onionName, peer.socket))
    (hconns : connMachine.Reaches (ConnOp.Within who) s.device.conns d.conns)
    (hpending : pending peer { device := d, taken := taken } = pending peer s)
    (hbound : ∀ t, Bound peer s.device t → Bound peer d t) :
    Invariant P peer sharedKey last { device := d, taken := taken } :=
  invariant_fades h (Connections.slot_within _ _ hwho (slot_length h) hconns) hpending hbound

theorem bound_of_transports {d d' : Device} (h : d'.transports = d.transports) (t : Transport)
    (hbound : Bound peer d t) : Bound peer d' t := by
  refine ⟨?_, hbound.mail⟩
  rw [Device.transport, h]
  exact hbound.first

theorem invariant_framed {d : Device} (h : Invariant P peer sharedKey last s)
    (hframed : s.device.Framed none d) :
    Invariant P peer sharedKey last { s with device := d } := by
  refine invariant_conns h (Option.some_ne_none _).symm hframed.1 ?_ (bound_of_transports hframed.2.2)
  rw [pending, pending, hframed.2.1]

theorem bound_append {d : Device} (added : List Transport) (t : Transport)
    (hbound : Bound peer d t) :
    Bound peer { d with transports := d.transports ++ added } t := by
  refine ⟨?_, hbound.mail⟩
  rw [Device.transport, List.find?_append]
  exact Option.or_eq_some_iff.mpr (.inl hbound.first)

theorem bound_closeTransport {d : Device} {socket : Nat} (hsocket : socket ≠ peer.socket)
    (t : Transport) (hbound : Bound peer d t) : Bound peer (d.closeTransport socket) t := by
  refine ⟨?_, hbound.mail⟩
  have herase : ∀ transports : List Transport,
      (transports.eraseP (fun u => u.socket = socket)).find? (fun u => u.socket = peer.socket) =
        transports.find? (fun u => u.socket = peer.socket) := by
    intro transports
    induction transports with
    | nil => rfl
    | cons u rest ih =>
      by_cases hu : u.socket = socket
      · have hne : ¬ u.socket = peer.socket := fun h => hsocket (hu.symm.trans h)
        rw [List.eraseP_cons_of_pos (by simpa using hu),
          List.find?_cons_of_neg (by simpa using hne)]
      · rw [List.eraseP_cons_of_neg (by simpa using hu), List.find?_cons, List.find?_cons, ih]
  rw [Device.transport, Device.closeTransport, herase]
  exact hbound.first

theorem pending_append {d : Device} {item : MessageItem Bytes} (hitem : ¬ peer.Sent item) :
    pending peer { s with device := { d with recieveQueue := d.recieveQueue ++ [item] } } =
      pending peer { s with device := d } := by
  rw [pending, pending]
  dsimp only
  rw [← List.append_assoc, List.filter_append, List.filter_cons_of_neg (by simpa using hitem),
    List.filter_nil, List.append_nil]

theorem invariant_endTransport {t : Transport} (h : Invariant P peer sharedKey last s)
    (hgone : t.socket = peer.socket → slot peer s ≠ [] →
      slot peer { s with device := s.device.endTransport t } = []) :
    Invariant P peer sharedKey last { s with device := s.device.endTransport t } := by
  obtain ⟨d', hframed, hend⟩ := Device.framed_endTransport none s.device t
  by_cases hsocket : t.socket = peer.socket
  · by_cases hnil : slot peer s = []
    · refine .inl ?_
      rw [slot, hend]
      exact Connections.slot_nil_within _ _ hnil hframed.1
    · exact .inl (hgone hsocket hnil)
  · rw [hend]
    refine invariant_conns h (Option.some_ne_none _).symm hframed.1 ?_ ?_
    · rw [pending, pending, Device.closeTransport, hframed.2.1]
    · exact fun u hu => bound_closeTransport hsocket u (bound_of_transports hframed.2.2 u hu)

theorem slot_endTransport {item : ConnectionStatusItem} {t : Transport}
    (hslot : slot peer s = [item]) (hnamed : item.onionName = peer.mail.onionName)
    (hbound : Bound peer s.device t) :
    slot peer { s with device := s.device.endTransport t } = [] := by
  have hsocket : t.socket = peer.socket := Device.transport_socket hbound.first
  have hitem : s.device.conns.statusItem peer.mail.onionName t.socket = some item := by
    rw [hsocket]
    exact Connections.statusItem_of_slot _ _ hslot
  have hat : item.socket = peer.socket := Connections.socket_of_slot _ _ hslot
  have hconns : (s.device.endTransport t).conns =
      s.device.conns.deleteConnection peer.mail.onionName peer.socket := by
    rw [Device.endTransport, hbound.mail, Option.bind_some, hitem, ← hnamed, ← hat]
    dsimp only [Device.closeTransport]
    rw [Device.deleteStatusItem]
    split <;> rfl
  rw [slot, hconns, Connections.slot_deleteConnection, if_pos ⟨rfl, rfl⟩]
  rw [slot] at hslot
  rw [hslot]
  rfl

theorem invariant_end_bound {t : Transport} (h : Invariant P peer sharedKey last s)
    (ht : s.device.transport t.socket = some t) :
    Invariant P peer sharedKey last { s with device := s.device.endTransport t } := by
  refine invariant_endTransport h ?_
  intro hsocket hne
  rcases h with hnil | ⟨item, u, htracked⟩
  · exact absurd hnil hne
  · have heq : u = t := by
      rw [hsocket, htracked.bound.first] at ht
      exact Option.some.inj ht
    subst heq
    exact slot_endTransport htracked.slot htracked.named htracked.bound

theorem invariant_handCell {t : Transport} {mail : MailItem} {type : Nat} {plain : Bytes}
    (h : Invariant P peer sharedKey last s) (hcell : t.socket = peer.socket → type ≠ 0) :
    Invariant P peer sharedKey last
      { s with device := s.device.handCell mail t type plain } := by
  have hsent : ¬ peer.Sent {
      onionName := mail.onionName, socket := t.socket, data := plain, type := type, purpose := 0
      handShakeMessage := t.handShakeMessage } := by
    rintro ⟨htype, -, hsocket⟩
    exact hcell hsocket htype
  exact invariant_conns h (Option.some_ne_none _).symm (Machine.reaches_refl _)
    (pending_append hsent) (fun u hu => ⟨hu.first, hu.mail⟩)

theorem invariant_readCell {t : Transport} {mail : MailItem} {cell : Cell}
    (h : Invariant P peer sharedKey last s) (ht : s.device.transport t.socket = some t)
    (hcell : t.socket = peer.socket → ∃ plain, cell = .data sharedKey plain) :
    Invariant P peer sharedKey last { s with device := s.device.readCell mail t cell } := by
  rcases Device.readCell_cases s.device mail t cell with heq | heq | ⟨type, plain, heq, htype, -⟩
  · rw [heq]
    exact h
  · rw [heq]
    exact invariant_end_bound h ht
  · rw [heq]
    refine invariant_handCell h ?_
    rintro hsocket rfl
    obtain ⟨plain', rfl⟩ := hcell hsocket
    cases htype rfl

theorem transport_bindPeer {d : Device} {t : Transport} (mail : MailItem)
    (ht : d.transport t.socket = some t) :
    (d.bindPeer t mail).1.transport t.socket = some (d.bindPeer t mail).2 := by
  have hmap : ∀ (new : Transport) (transports : List Transport), new.socket = t.socket →
      transports.find? (fun u => u.socket = t.socket) = some t →
      (transports.map (fun old => if old.socket = t.socket then new else old)).find?
        (fun u => u.socket = t.socket) = some new := by
    intro new transports hnew
    induction transports with
    | nil => exact fun hfind => by cases hfind
    | cons u rest ih =>
      intro hfind
      by_cases hu : u.socket = t.socket
      · rw [List.map_cons, if_pos hu, List.find?_cons_of_pos (by simpa using hnew)]
      · rw [List.find?_cons_of_neg (by simpa using hu)] at hfind
        rw [List.map_cons, if_neg hu, List.find?_cons_of_neg (by simpa using hu)]
        exact ih hfind
  exact hmap _ _ rfl ht

theorem bound_bindPeer {d : Device} {t : Transport} (mail : MailItem)
    (hsocket : t.socket ≠ peer.socket) (u : Transport) (hu : Bound peer d u) :
    Bound peer (d.bindPeer t mail).1 u := by
  have hmap : ∀ (new : Transport) (transports : List Transport), new.socket = t.socket →
      (transports.map (fun old => if old.socket = t.socket then new else old)).find?
        (fun v => v.socket = peer.socket) =
      transports.find? (fun v => v.socket = peer.socket) := by
    intro new transports hnew
    induction transports with
    | nil => rfl
    | cons v rest ih =>
      by_cases hv : v.socket = t.socket
      · have hne : ¬ v.socket = peer.socket := fun h => hsocket (hv.symm.trans h)
        have hne' : ¬ new.socket = peer.socket := fun h => hsocket (hnew.symm.trans h)
        rw [List.map_cons, if_pos hv, List.find?_cons_of_neg (by simpa using hne'),
          List.find?_cons_of_neg (by simpa using hne), ih]
      · rw [List.map_cons, if_neg hv, List.find?_cons, List.find?_cons, ih]
  exact ⟨(hmap (d.bindPeer t mail).2 _ rfl).trans hu.first, hu.mail⟩

theorem invariant_bindPeer {t : Transport} (mail : MailItem)
    (h : Invariant P peer sharedKey last s) (hsocket : t.socket ≠ peer.socket) :
    Invariant P peer sharedKey last { s with device := (s.device.bindPeer t mail).1 } := by
  refine invariant_fades h ?_ rfl (bound_bindPeer mail hsocket)
  have hslot : slot peer { s with device := (s.device.bindPeer t mail).1 } = slot peer s :=
    Connections.slot_addNewConnection _ _ _ (fun hitem => hsocket hitem.2)
  rw [hslot]
  exact Connections.fades_refl (slot_length h)

theorem invariant_closeTransport {socket : Nat} (h : Invariant P peer sharedKey last s)
    (hsocket : socket = peer.socket → slot peer s = []) :
    Invariant P peer sharedKey last { s with device := s.device.closeTransport socket } := by
  by_cases heq : socket = peer.socket
  · exact .inl (hsocket heq)
  · exact invariant_conns h (Option.some_ne_none _).symm (Machine.reaches_refl _) rfl
      (fun u hu => bound_closeTransport heq u hu)

theorem identify_data (d : Device) (plain : Bytes) :
    d.identify (.data sharedKey plain) = none := rfl

theorem slot_nil_of_unbound {t : Transport} (h : Invariant P peer sharedKey last s)
    (ht : s.device.transport t.socket = some t) (hmail : t.mailItem = none)
    (hsocket : t.socket = peer.socket) : slot peer s = [] := by
  rcases h with hnil | ⟨item, u, htracked⟩
  · exact hnil
  · have heq : u = t := by
      rw [hsocket, htracked.bound.first] at ht
      exact Option.some.inj ht
    have hbound := htracked.bound.mail
    rw [heq, hmail] at hbound
    cases hbound

theorem invariant_receiveCell {socket : Nat} {cell : Cell}
    (h : Invariant P peer sharedKey last s)
    (hcell : socket = peer.socket → cell = .zeros ∨ ∃ plain, cell = .data sharedKey plain) :
    Invariant P peer sharedKey last { s with device := s.device.receiveCell socket cell } := by
  rw [Device.receiveCell]
  cases hfind : s.device.transport socket with
  | none => exact h
  | some t =>
    have hsocket : t.socket = socket := Device.transport_socket hfind
    subst hsocket
    dsimp only
    split
    · exact h
    · rename_i hzeros
      have hdata : t.socket = peer.socket → ∃ plain, cell = .data sharedKey plain :=
        fun hs => (hcell hs).resolve_left hzeros
      cases hmail : t.mailItem with
      | some mail => exact invariant_readCell h hfind hdata
      | none =>
        cases hidentify : s.device.identify cell with
        | none => exact invariant_closeTransport h (slot_nil_of_unbound h hfind hmail)
        | some mail =>
          have hother : t.socket ≠ peer.socket := by
            intro hs
            obtain ⟨plain, rfl⟩ := hdata hs
            rw [identify_data] at hidentify
            cases hidentify
          refine invariant_readCell (s := { s with device := (s.device.bindPeer t mail).1 })
            (invariant_bindPeer mail h hother) (transport_bindPeer mail hfind) ?_
          exact fun hs => absurd hs hother

theorem invariant_other {e : Device.Event} (env : Env) (h : Invariant P peer sharedKey last s)
    (hg : Honest peer sharedKey s (.other env e)) (hread : e ≠ .read) :
    Invariant P peer sharedKey last { s with device := s.device.step P env e } := by
  cases e with
  | accept socket =>
    exact invariant_conns h (Option.some_ne_none _).symm (Machine.reaches_refl _) rfl
      (fun u hu => bound_append _ u hu)
  | receiveCell socket cell => exact invariant_receiveCell h hg
  | hangUp socket =>
    rw [Device.step, Device.hangUp]
    cases hfind : s.device.transport socket with
    | none => exact h
    | some t =>
      have hsocket : t.socket = socket := Device.transport_socket hfind
      subst hsocket
      exact invariant_end_bound h hfind
  | connect onionName purpose socket =>
    rw [Device.step, Device.connect]
    split
    · exact h
    · rename_i mail hmail
      have hslot : (s.device.conns.addNewConnection {
          onionName := mail.onionName, socket := socket, purpose := purpose }).slot
            peer.mail.onionName peer.socket = slot peer s :=
        Connections.slot_addNewConnection _ _ _ (fun hitem => hg hitem.2)
      have hfades := Connections.fades_refl (slot_length h)
      exact invariant_fades h (hslot ▸ hfades) rfl (fun u hu => ⟨hu.first, hu.mail⟩)
  | startHandShake onionName purpose =>
    obtain ⟨d', added, hframed, heq⟩ :=
      Device.framed_startHandShakeProcess P env none s.device onionName purpose
    rw [Device.step, heq]
    refine invariant_conns h (Option.some_ne_none _).symm hframed.1 ?_ ?_
    · rw [pending, pending, hframed.2.1]
    · exact fun u hu => bound_append added u (bound_of_transports hframed.2.2 u hu)
  | read => exact absurd rfl hread
  | write => exact invariant_framed h (Device.framed_write s.device)
  | sendText messageContent remoteOnion messageID =>
    exact invariant_framed h (Device.framed_handleTextMessageSend s.device _ _ _)
  | sendFile fileFullPath content remoteOnion messageID =>
    exact invariant_framed h (Device.framed_of_eq (Device.shell_queueFileMeta s.device _ _ _))
  | sendBytes fileFullPath bitmapBytes remoteOnion messageID =>
    exact invariant_framed h (Device.framed_of_eq (Device.shell_queueFileMeta s.device _ _ _))
  | register position =>
    exact invariant_framed h (Device.framed_of_eq (Device.shell_registerTask s.device position))
  | tryResendAll =>
    exact invariant_framed h (Device.framed_of_eq (Device.shell_tryResendAll _ s.device))

theorem invariant_poll (h : Invariant P peer sharedKey last s) :
    Invariant P peer sharedKey last (poll s) := by
  rw [poll]
  split
  · rename_i item rest htaken hqueue
    refine invariant_conns h (Option.some_ne_none _).symm (Machine.reaches_refl _) ?_
      (fun u hu => ⟨hu.first, hu.mail⟩)
    rw [pending, pending, htaken, hqueue]
    rfl
  · exact h

theorem framed_handle (env : Env) (d : Device) {item : MessageItem Bytes}
    (hsent : ¬ peer.Sent item) :
    ∃ who, who ≠ some (peer.mail.onionName, peer.socket) ∧
      d.Framed who (d.handle P env item) := by
  rw [Device.handle]
  split
  · rename_i htype
    refine ⟨Device.peerOf item, ?_, Device.framed_handShakeMessageHandle d item⟩
    intro hwho
    obtain ⟨hname, hsocket⟩ := Prod.mk.inj (Option.some.inj hwho)
    exact hsent ⟨htype, hname, hsocket⟩
  · refine ⟨none, (Option.some_ne_none _).symm, ?_⟩
    split
    · exact Device.framed_dataMessageHandle d item
    · exact Device.framed_of_eq rfl

theorem framed_handle_any (env : Env) (d : Device) (item : MessageItem Bytes) :
    d.Framed (Device.peerOf item) (d.handle P env item) := by
  rw [Device.handle]
  split
  · exact Device.framed_handShakeMessageHandle d item
  · split
    · exact Device.framed_dataMessageHandle d item
    · exact Device.framed_of_eq rfl

-- handling the last handshake cell: either the answer is sent and the session is open, or the
-- connection is deleted
theorem slot_finishes (env : Env) {d : Device} {item : ConnectionStatusItem}
    (hslot : d.conns.slot peer.mail.onionName peer.socket = [item]) (hsent : peer.Sent last)
    (hfinishes : Finishes P sharedKey last item.shareKey) :
    (d.handle P env last).conns.slot peer.mail.onionName peer.socket = [] ∨
      (d.handle P env last).conns.slot peer.mail.onionName peer.socket =
        [{ item with status := 1, shareKey := some sharedKey }] := by
  obtain ⟨htype₀, hname, hsocket⟩ := hsent
  have hset (key : Option Bytes) :
      (d.conns.updateStatus last.onionName last.socket 1 key).slot peer.mail.onionName
        peer.socket = [ConnectionItems.setStatus 1 key item] := by
    rw [hname, hsocket, Connections.slot_updateStatus, hslot]
    rfl
  have hready (d' : Device) (key : Option Bytes) (hd' : d'.conns = d.conns) :
      (Device.connectReady (d'.updateSocketStatus P env last 1 key)).conns =
        d.conns.updateStatus last.onionName last.socket 1 key := by
    have hshell := (Device.shell_connectReady (d'.updateSocketStatus P env last 1 key)).trans
      (Device.shell_updateSocketStatus P env d' last 1 key)
    rw [← hd']
    exact congrArg Prod.fst hshell
  rw [Device.handle, if_pos htype₀, Device.handShakeMessageHandle]
  generalize hold : item.shareKey = old at hfinishes
  cases hfinishes with
  | exchange _ internalPayload htype hpayload hkey hbound =>
    obtain ⟨handShakeMessage, hbound⟩ := Option.isSome_iff_exists.mp hbound
    simp only [htype, hpayload]
    rw [if_neg (by decide), if_neg (by decide), if_pos trivial, Device.receiveSessionExchange, hkey,
      hbound]
    dsimp only
    rw [Device.sendMessage]
    split
    · right
      rw [hready (d.transmit last.socket _) _ rfl, hset]
      rfl
    · left
      rw [Device.deleteConnection, hname, hsocket, Connections.slot_deleteConnection,
        if_pos ⟨rfl, rfl⟩, hslot]
      rfl
  | done htype hpayload =>
    simp only [htype, hpayload]
    rw [if_neg (by decide), if_neg (by decide), if_neg (by decide), if_pos trivial,
      Device.receiveSessionDone, if_pos List.length_nil]
    right
    rw [hready d none rfl, hset, ConnectionItems.setStatus, hold]
    rfl

theorem invariant_handle (env : Env) (h : Invariant P peer sharedKey last s) :
    Invariant P peer sharedKey last (handle P env s) := by
  rw [handle]
  cases htaken : s.taken with
  | none => exact h
  | some item =>
    dsimp only
    by_cases hsent : peer.Sent item
    · have hframed := framed_handle_any (P := P) env s.device item
      have hpending : pending peer s =
          item :: s.device.recieveQueue.filter (fun item => peer.Sent item) := by
        rw [pending, htaken]
        exact List.filter_cons_of_pos (by simpa using hsent)
      rcases h with hnil | ⟨old, t, htracked⟩
      · exact .inl (Connections.slot_nil_within _ _ hnil hframed.1)
      · rcases htracked.phase with ⟨hwaiting, hstatus, hfinishes⟩ | ⟨hnone, -, -⟩
        · rw [hpending] at hwaiting
          obtain ⟨rfl, hrest⟩ := List.cons.inj hwaiting
          rcases slot_finishes env htracked.slot hsent hfinishes with hgone | hopen
          · exact .inl hgone
          · refine .inr ⟨_, t, hopen, htracked.named,
              bound_of_transports hframed.2.2 t htracked.bound, .inr ⟨?_, rfl, rfl⟩⟩
            rw [pending, hframed.2.1]
            exact hrest
        · rw [hpending] at hnone
          cases hnone
    · obtain ⟨who, hwho, hframed⟩ := framed_handle (P := P) env s.device hsent
      refine invariant_conns h hwho hframed.1 ?_ (bound_of_transports hframed.2.2)
      rw [pending, pending, htaken, hframed.2.1]
      exact (List.filter_cons_of_neg (by simpa using hsent)).symm

theorem invariant_step (s : Threads) (e : Event) (h : Invariant P peer sharedKey last s)
    (hg : Honest peer sharedKey s e) :
    Invariant P peer sharedKey last ((machine P).step s e) := by
  cases e with
  | poll => exact invariant_poll h
  | handle env => exact invariant_handle env h
  | other env e =>
    by_cases hread : e = .read
    · subst hread
      exact h
    · have hstep : (machine P).step s (.other env e) =
          { s with device := s.device.step P env e } := by
        cases e <;> first | rfl | exact absurd rfl hread
      rw [hstep]
      exact invariant_other env h hg hread

theorem invariant_run {es : List Event} (h : Invariant P peer sharedKey last s)
    (hg : (machine P).Guarded (Honest peer sharedKey) s es) :
    Invariant P peer sharedKey last ((machine P).run s es) :=
  (machine P).guarded_invariant invariant_step hg h

end Steps

variable (P peer sharedKey)

-- the connection just before the peer's last handshake cell is read from its socket
structure Opening (s : Threads) (item : ConnectionStatusItem) (t : Transport) : Prop where
  slot : slot peer s = [item]
  named : item.onionName = peer.mail.onionName
  status : item.status = 0
  bound : Bound peer s.device t
  handShake : t.handShakeMessage.isSome
  quiet : pending peer s = []

inductive LastCell (privateKey : PrivateKey) : Option Bytes → Cell → Prop where
  | exchange (amb : Ambient) (handShake : HandShakeMessage) (myPassword : String)
      (old : Option Bytes) (hkey : handShake.remotePublickey = privateKey.publicKey)
      (hpassword : (getBytes myPassword).length < 256) (hlength : sharedKey.length = 32) :
      LastCell privateKey old
        (handShake.createSessionExchangeMessage P amb myPassword sharedKey)
  | done (amb : Ambient) (handShake : HandShakeMessage)
      (hkey : handShake.remotePublickey = privateKey.publicKey) :
      LastCell privateKey (some sharedKey) (handShake.createSessionDoneMessage P amb)

def InSession (d : Device) (plain : Bytes) : Prop :=
  ∃ t, Bound peer d t ∧
    d.receiveCell peer.socket (.data sharedKey plain) = d.handCell peer.mail t 1 plain

variable {P peer sharedKey}

theorem lastCell_parse {privateKey : PrivateKey} {old : Option Bytes} {cell : Cell}
    (h : LastCell P sharedKey privateKey old cell) (publicKey : PublicKey) :
    cell ≠ .zeros ∧ ∃ plain, Message.parseRemote cell privateKey publicKey = some plain ∧
      ∀ item : MessageItem Bytes, item.data = plain → item.handShakeMessage.isSome →
        Finishes P sharedKey item old := by
  cases h with
  | exchange amb handShake myPassword _ hkey hpassword hlength =>
    obtain ⟨hsize, htype, hpayload⟩ :=
      HandShakeCell.exchange_spec P amb (by omega : (getBytes myPassword).length ≤ 255) hlength
    refine ⟨Cell.noConfusion, HandShakeMessage.exchangePayload P amb myPassword sharedKey,
      ?_, ?_⟩
    · refine (if_pos hkey).trans ?_
      exact Library.slice?_self hsize
    · rintro item hdata hbound
      refine .exchange item old _ (hdata ▸ htype) (hdata ▸ hpayload) ?_ hbound
      exact HandShakeMessage.parseSessionExchangePaylod_passwordPayload hpassword hlength
  | done amb handShake hkey =>
    obtain ⟨hsize, htype, hpayload⟩ := HandShakeCell.done_spec P amb
    refine ⟨Cell.noConfusion, HandShakeMessage.donePayload P amb, ?_, ?_⟩
    · refine (if_pos hkey).trans ?_
      exact Library.slice?_self hsize
    · rintro item hdata hbound
      exact .done item (hdata ▸ htype) (hdata ▸ hpayload)

theorem opening_invariant {s : Threads} {item : ConnectionStatusItem} {t : Transport}
    (env : Env) {cell : Cell} (h : Opening peer s item t)
    (hcell : LastCell P sharedKey s.device.privateKey item.shareKey cell) :
    ∃ last, Invariant P peer sharedKey last
      ((machine P).step s (.other env (.receiveCell peer.socket cell))) := by
  obtain ⟨hzeros, plain, hparse, hfinishes⟩ := lastCell_parse hcell peer.mail.publicKey
  have hsocket : t.socket = peer.socket := Device.transport_socket h.bound.first
  have hitem : s.device.conns.statusItem peer.mail.onionName t.socket = some item := by
    rw [hsocket]
    exact Connections.statusItem_of_slot _ _ h.slot
  have hread : s.device.receiveCell peer.socket cell =
      s.device.handCell peer.mail t 0 plain := by
    rw [Device.receiveCell, h.bound.first]
    dsimp only
    rw [if_neg hzeros, h.bound.mail]
    dsimp only
    rw [Device.readCell, hitem]
    dsimp only
    rw [if_pos h.status, hparse]
  refine ⟨{ onionName := peer.mail.onionName, socket := t.socket, data := plain, type := 0
            purpose := 0, handShakeMessage := t.handShakeMessage }, .inr ⟨item, t, ?_⟩⟩
  have hstep : (machine P).step s (.other env (.receiveCell peer.socket cell)) =
      { s with device := s.device.receiveCell peer.socket cell } := rfl
  rw [hstep, hread]
  refine ⟨h.slot, h.named, ⟨h.bound.first, h.bound.mail⟩, .inl ⟨?_, h.status, ?_⟩⟩
  · have hquiet := h.quiet
    rw [pending] at hquiet
    rw [pending, Device.handCell]
    dsimp only
    rw [← List.append_assoc, List.filter_append, hquiet, List.nil_append]
    exact List.filter_cons_of_pos (by simpa [Peer.Sent] using hsocket)
  · exact hfinishes _ rfl h.handShake

theorem inSession_of_handled {last : MessageItem Bytes} {s : Threads}
    {item : ConnectionStatusItem} {t : Transport}
    (htracked : Tracked P peer sharedKey last s item t) (h : Handled peer sharedKey s item)
    (plain : Bytes) : InSession peer sharedKey s.device plain := by
  have hsocket : t.socket = peer.socket := Device.transport_socket htracked.bound.first
  have hitem : s.device.conns.statusItem peer.mail.onionName t.socket = some item := by
    rw [hsocket]
    exact Connections.statusItem_of_slot _ _ htracked.slot
  obtain ⟨-, hstatus, hkey⟩ := h
  have hparse : Message.parseDataPayload (.data sharedKey plain) item.shareKey = some plain := by
    rw [hkey]
    exact if_pos rfl
  refine ⟨t, htracked.bound, ?_⟩
  rw [Device.receiveCell, htracked.bound.first]
  dsimp only
  rw [if_neg Cell.noConfusion, htracked.bound.mail]
  dsimp only
  rw [Device.readCell, hitem]
  dsimp only
  rw [if_neg (by omega), if_pos hstatus, hparse]

theorem not_inSession_of_waiting {last : MessageItem Bytes} {s : Threads}
    {item : ConnectionStatusItem} {t : Transport}
    (htracked : Tracked P peer sharedKey last s item t)
    (h : Waiting P peer sharedKey last s item) (plain : Bytes) :
    ¬ InSession peer sharedKey s.device plain := by
  rintro ⟨u, hu, hread⟩
  have heq : u = t := Option.some.inj (hu.first.symm.trans htracked.bound.first)
  subst heq
  have hsocket : u.socket = peer.socket := Device.transport_socket htracked.bound.first
  have hitem : s.device.conns.statusItem peer.mail.onionName u.socket = some item := by
    rw [hsocket]
    exact Connections.statusItem_of_slot _ _ htracked.slot
  have hend : s.device.receiveCell peer.socket (.data sharedKey plain) =
      s.device.endTransport u := by
    rw [Device.receiveCell, hu.first]
    dsimp only
    rw [if_neg Cell.noConfusion, hu.mail]
    dsimp only
    rw [Device.readCell, hitem]
    dsimp only
    rw [if_pos h.2.1]
    rfl
  obtain ⟨d', hframed, hclosed⟩ := Device.framed_endTransport none s.device u
  have hqueue := congrArg (fun d : Device => d.recieveQueue.length)
    ((hclosed.symm.trans hend.symm).trans hread)
  simp only [Device.closeTransport, Device.handCell, hframed.2.1, List.length_append,
    List.length_singleton] at hqueue
  omega

theorem data_cell_in_session_iff {s : Threads} {item : ConnectionStatusItem} {t : Transport}
    (env : Env) {cell : Cell} (es : List Event) (hopening : Opening peer s item t)
    (hcell : LastCell P sharedKey s.device.privateKey item.shareKey cell)
    (hhonest : (machine P).Guarded (Honest peer sharedKey)
      ((machine P).step s (.other env (.receiveCell peer.socket cell))) es)
    (hlisted : slot peer ((machine P).run s (.other env (.receiveCell peer.socket cell) :: es)) ≠
      []) (plain : Bytes) :
    InSession peer sharedKey
      ((machine P).run s (.other env (.receiveCell peer.socket cell) :: es)).device plain ↔
      pending peer ((machine P).run s (.other env (.receiveCell peer.socket cell) :: es)) = [] := by
  obtain ⟨last, hinvariant⟩ := opening_invariant env hopening hcell
  have hrun := invariant_run hinvariant hhonest
  rcases hrun with hnil | ⟨item', t', htracked⟩
  · exact absurd hnil hlisted
  · rcases htracked.phase with hwaiting | hhandled
    · have hpending := hwaiting.1
      constructor
      · intro h
        exact absurd h (not_inSession_of_waiting htracked hwaiting plain)
      · intro h
        rw [Library.Machine.run_cons, hpending] at h
        cases h
    · exact iff_of_true (inSession_of_handled htracked hhandled plain) hhandled.1

def bob : Peer := { mail := .ofContact demoPlatform "bob" ⟨1⟩, socket := 1 }

def bobItem : ConnectionStatusItem :=
  { onionName := "bob", socket := 1, shareKey := some [7] }

def bobTransport : Transport where
  socket := 1
  mailItem := some bob.mail
  handShakeMessage := some {
    remoteOnion := "bob", localPrivateKey := ⟨0⟩, remotePublickey := ⟨1⟩ }

def afterExchange : Threads where
  device := {
    onionName := "me", privateKey := ⟨0⟩, keys := { keyFile := [5] }
    conns := ({} : Connections).addNewConnection bobItem, transports := [bobTransport] }

def doneOfBob : Cell :=
  ({ remoteOnion := "me", localPrivateKey := ⟨1⟩, remotePublickey := ⟨0⟩ :
    HandShakeMessage }).createSessionDoneMessage demoPlatform {}

theorem opening_afterExchange : Opening bob afterExchange bobItem bobTransport :=
  ⟨by decide +kernel, rfl, rfl, ⟨rfl, rfl⟩, rfl, rfl⟩

theorem lastCell_doneOfBob :
    LastCell demoPlatform [7] afterExchange.device.privateKey bobItem.shareKey doneOfBob :=
  .done {} { remoteOnion := "me", localPrivateKey := ⟨1⟩, remotePublickey := ⟨0⟩ } rfl

theorem data_cell_in_session_iff_done : InSession bob [7] ((machine demoPlatform).run afterExchange
    [.other {} (.receiveCell 1 doneOfBob), .poll, .handle {}]).device [1, 2] :=
  (data_cell_in_session_iff {} [.poll, .handle {}] opening_afterExchange lastCell_doneOfBob
    ⟨trivial, trivial, trivial⟩ (by decide +kernel) [1, 2]).mpr (by decide +kernel)

theorem data_cell_before_done_drops :
    ¬ ∀ (P : Platform) (peer : Peer) (sharedKey : Bytes) (s : Threads)
      (item : ConnectionStatusItem) (t : Transport) (env : Env) (cell : Cell) (es : List Event),
      Opening peer s item t →
      LastCell P sharedKey s.device.privateKey item.shareKey cell →
      (machine P).Guarded (Honest peer sharedKey)
        ((machine P).step s (.other env (.receiveCell peer.socket cell))) es →
      slot peer ((machine P).run s (.other env (.receiveCell peer.socket cell) :: es)) ≠ [] →
      ∀ plain, InSession peer sharedKey
        ((machine P).run s (.other env (.receiveCell peer.socket cell) :: es)).device plain := by
  intro hall
  have hsession := hall demoPlatform bob [7] afterExchange bobItem bobTransport {} doneOfBob []
    opening_afterExchange lastCell_doneOfBob trivial (by decide +kernel) [1, 2]
  obtain ⟨last, hnil | ⟨item, t, htracked⟩⟩ :=
    opening_invariant {} opening_afterExchange lastCell_doneOfBob
  · revert hnil
    decide +kernel
  · rcases htracked.phase with hwaiting | hhandled
    · exact not_inSession_of_waiting htracked hwaiting _ hsession
    · have hpending := hhandled.1
      revert hpending
      decide +kernel

end Pipelining

end TorChat
