import TorChat.Message.HandShakeCell
import TorChat.Server.PipelinedCells
import TorChat.Server.SessionOrder
import TorChat.Transfer.FileTraffic

namespace TorChat

open Library (Bytes HashMap Machine)
open FileTraffic (Channel sent)
open SessionOrder (Step Answers received offered)

namespace HandShakeReading

structure Party where
  channel : Channel
  publicKey : PublicKey
  handShake : HandShakeMessage

def Party.conn (party : Party) : SessionOrder.Connection :=
  { onionName := party.channel.peer, socket := party.channel.socket
    handShakeMessage := party.handShake }

section Statement

variable (P : Platform)

structure Spells (s : Step) (key payload : Bytes) : Prop where
  length : payload.length = 1790
  received : received P payload = some s
  offered : s = .exchange → offered P payload = some key

variable (party : Party)

structure Stands (d : Device) (taken status : Nat) (key : Option Bytes) (inbox wire : List Bytes) :
    Prop where
  publicKey : d.privateKey.publicKey = party.publicKey
  bound : ∃ t mail, d.transport party.channel.socket = some t ∧ t.mailItem = some mail ∧
    mail.onionName = party.channel.peer ∧ t.handShakeMessage = some party.handShake
  entry : ∃ item, d.conns.slot party.channel.peer party.channel.socket = [item] ∧
    item.status = status ∧ item.shareKey = key
  queue : d.recieveQueue = inbox.map party.conn.item
  delivered : taken ≤ (sent party.channel d).length
  wire : (sent party.channel d).drop taken = wire.map party.handShake.build

-- a socket that has been accepted and has said nothing yet
structure Waits (d : Device) (taken : Nat) (onionHash : Bytes) : Prop where
  publicKey : d.privateKey.publicKey = party.publicKey
  transport : ∃ t, d.transport party.channel.socket = some t ∧ t.mailItem = none
  mail : ∃ mail, d.getMailItemByOnionHash onionHash = some mail ∧
    mail.onionName = party.channel.peer ∧ party.handShake = {
      remoteOnion := mail.onionName, localPrivateKey := d.privateKey
      remotePublickey := mail.publicKey }
  entry : d.conns.slot party.channel.peer party.channel.socket = []
  queue : d.recieveQueue = []
  silent : (sent party.channel d).length = taken

end Statement

-- what stays as it is while a cell is taken from its socket
def outside (d : Device) : KeyState × List (MessageItem (Option Cell)) × List FailedTextMessage ×
    HashMap String FileTask × List Notice :=
  (d.keys, d.sendQueue, d.failedQueue, d.senderFileMap, d.notices)

section Ends

variable {P : Platform} {env : Env} {party : Party} {d : Device} {taken status : Nat}
  {key : Option Bytes} {inbox wire : List Bytes} {payload : Bytes}

theorem sent_none (h : (sent party.channel d).drop taken = []) :
    (sent party.channel d)[taken]? = none :=
  List.getElem?_eq_none (List.drop_eq_nil_iff.mp h)

theorem sent_some {cell : Cell} {rest : List Cell}
    (h : (sent party.channel d).drop taken = cell :: rest) :
    (sent party.channel d)[taken]? = some cell ∧ taken + 1 ≤ (sent party.channel d).length ∧
      (sent party.channel d).drop (taken + 1) = rest := by
  have hlt : taken < (sent party.channel d).length := by
    by_contra hge
    rw [List.drop_eq_nil_of_le (Nat.le_of_not_lt hge)] at h
    cases h
  rw [List.drop_eq_getElem_cons hlt] at h
  obtain ⟨hcell, hrest⟩ := List.cons.inj h
  exact ⟨List.getElem?_eq_some_iff.mpr ⟨hlt, hcell⟩, hlt, hrest⟩

theorem stands_take (h : Stands party d taken status key inbox (payload :: wire)) :
    (sent party.channel d)[taken]? = some (party.handShake.build payload) ∧
      Stands party d (taken + 1) status key inbox wire := by
  obtain ⟨hcell, hlt, hrest⟩ := sent_some h.wire
  exact ⟨hcell, h.publicKey, h.bound, h.entry, h.queue, hlt, hrest⟩

theorem parseRemote_build {handShake : HandShakeMessage} {privateKey : PrivateKey}
    (hkey : handShake.remotePublickey = privateKey.publicKey) (hlength : payload.length = 1790)
    (publicKey : PublicKey) :
    Message.parseRemote (handShake.build payload) privateKey publicKey = some payload := by
  refine (if_pos hkey).trans ?_
  exact Library.slice?_self hlength

theorem stands_receive {handShake : HandShakeMessage}
    (hkey : handShake.remotePublickey = party.publicKey) (hlength : payload.length = 1790)
    (h : Stands party d taken 0 key inbox wire) :
    Stands party (d.receiveCell party.channel.socket (handShake.build payload)) taken 0 key
      (inbox ++ [payload]) wire ∧
        outside (d.receiveCell party.channel.socket (handShake.build payload)) = outside d := by
  obtain ⟨t, mail, htransport, hmail, honion, hbound⟩ := h.bound
  obtain ⟨item, hslot, hstatus, -⟩ := h.entry
  have hsocket : t.socket = party.channel.socket := Device.transport_socket htransport
  have hitem : d.conns.statusItem mail.onionName t.socket = some item := by
    rw [honion, hsocket]
    exact Connections.statusItem_of_slot _ _ hslot
  have hread : d.receiveCell party.channel.socket (handShake.build payload) =
      d.handCell mail t 0 payload := by
    rw [Device.receiveCell, htransport]
    dsimp only
    rw [if_neg Cell.noConfusion, hmail]
    dsimp only
    rw [Device.readCell, hitem]
    dsimp only
    rw [if_pos hstatus, parseRemote_build (hkey.trans h.publicKey.symm) hlength]
  rw [hread]
  refine ⟨⟨h.publicKey, ⟨t, mail, htransport, hmail, honion, hbound⟩, h.entry, ?_, h.delivered,
    h.wire⟩, rfl⟩
  rw [Device.handCell, h.queue, List.map_append, honion, hsocket, hbound]
  rfl

theorem slot_addNewConnection_self (conns : Connections) (item : ConnectionStatusItem) :
    (conns.addNewConnection item).slot item.onionName item.socket =
      conns.slot item.onionName item.socket ++ [item] := by
  rw [Connections.addNewConnection, Connections.slot_setItems, if_pos rfl,
    ConnectionItems.atSocket, ConnectionItems.addNewConn, List.filter_append]
  congr 1
  exact List.filter_cons_of_pos (decide_eq_true rfl)

theorem waits_receive {handShake : HandShakeMessage} {onionHash : Bytes}
    (hkey : handShake.remotePublickey = party.publicKey) (hlength : payload.length = 1790)
    (hhash : Message.subBytes payload 33 32 = some onionHash)
    (h : Waits party d taken onionHash) :
    Stands party (d.receiveCell party.channel.socket (handShake.build payload)) taken 0 none
      [payload] [] ∧
        outside (d.receiveCell party.channel.socket (handShake.build payload)) = outside d := by
  obtain ⟨t, htransport, hnone⟩ := h.transport
  obtain ⟨mail, hmail, honion, hhandShake⟩ := h.mail
  have hsocket : t.socket = party.channel.socket := Device.transport_socket htransport
  have hown : handShake.remotePublickey = d.privateKey.publicKey := hkey.trans h.publicKey.symm
  have hparse : Message.parse (handShake.build payload) d.privateKey = some payload := by
    refine (if_pos hown).trans ?_
    exact Library.slice?_self hlength
  have hidentify : d.identify (handShake.build payload) = some mail := by
    rw [Device.identify, hparse, Option.bind_eq_bind, Option.bind_some, hhash]
    exact hmail
  have hempty : d.conns.slot mail.onionName t.socket = [] := by
    rw [honion, hsocket]
    exact h.entry
  have hslot : (d.bindPeer t mail).1.conns.slot mail.onionName t.socket =
      [{ onionName := mail.onionName, socket := t.socket }] := by
    refine (slot_addNewConnection_self d.conns
      { onionName := mail.onionName, socket := t.socket }).trans ?_
    rw [hempty]
    rfl
  have hitem := Connections.statusItem_of_slot _ _ hslot
  have hremote : Message.parseRemote (handShake.build payload) (d.bindPeer t mail).1.privateKey
      mail.publicKey = some payload := parseRemote_build hown hlength mail.publicKey
  have hread : d.receiveCell party.channel.socket (handShake.build payload) =
      (d.bindPeer t mail).1.handCell mail (d.bindPeer t mail).2 0 payload := by
    rw [Device.receiveCell, htransport]
    dsimp only
    rw [if_neg Cell.noConfusion, hnone, hidentify]
    dsimp only
    rw [Device.readCell, show (d.bindPeer t mail).2.socket = t.socket from rfl, hitem]
    dsimp only
    rw [if_pos rfl, hremote]
  rw [hread]
  refine ⟨⟨h.publicKey, ⟨(d.bindPeer t mail).2, mail, ?_, rfl, honion, ?_⟩, ?_, ?_, ?_, ?_⟩, rfl⟩
  · have hbound := Pipelining.transport_bindPeer mail (hsocket ▸ htransport)
    rw [← hsocket]
    exact hbound
  · rw [hhandShake]
    rfl
  · rw [← honion, ← hsocket]
    exact ⟨_, hslot, rfl, rfl⟩
  · have hqueue : (d.bindPeer t mail).1.recieveQueue = [] := h.queue
    rw [Device.handCell, hqueue, List.map_singleton, Party.conn, SessionOrder.Connection.item,
      ← honion, ← hsocket, hhandShake]
    rfl
  · exact Nat.le_of_eq h.silent.symm
  · exact List.drop_eq_nil_of_le (Nat.le_of_eq h.silent)

end Ends

section Reading

variable {P : Platform} {env : Env} {party : Party} {d d' : Device} {taken status : Nat}
  {key : Option Bytes} {inbox wire : List Bytes} {payload : Bytes}

-- the Reader has taken the first item and hands it to the handler
structure Handles (P : Platform) (env : Env) (party : Party) (d d₀ : Device) (payload : Bytes)
    (inbox : List Bytes) : Prop where
  conns : d₀.conns = d.conns
  transports : d₀.transports = d.transports
  written : d₀.written = d.written
  keys : d₀.keys = d.keys
  queue : d₀.recieveQueue = inbox.map party.conn.item
  read : d.read P env = d₀.handShakeMessageHandle P env (party.conn.item payload)

variable (P env) in
theorem handles_read (h : Stands party d taken status key (payload :: inbox) wire) :
    ∃ d₀, Handles P env party d d₀ payload inbox := by
  refine ⟨{ d with recieveQueue := inbox.map party.conn.item }, rfl, rfl, rfl, rfl, rfl, ?_⟩
  rw [Device.read, h.queue, List.map_cons]
  dsimp only
  exact if_pos rfl

theorem stands_handled {d₀ : Device} {status' : Nat} {key' : Option Bytes} (reply : List Bytes)
    (h : Stands party d taken status key (payload :: inbox) wire)
    (hhandles : Handles P env party d d₀ payload inbox)
    (hslot : SessionOrder.slot party.conn
        (d₀.handShakeMessageHandle P env (party.conn.item payload)) =
      (SessionOrder.slot party.conn d₀).modifyHead (ConnectionItems.setStatus status' key'))
    (hcells : SessionOrder.cells party.conn.socket
        (d₀.handShakeMessageHandle P env (party.conn.item payload)) =
      SessionOrder.cells party.conn.socket d₀ ++ reply.map party.handShake.build) :
    Stands party (d.read P env) taken status' (key'.or key) inbox (wire ++ reply) := by
  have haccount := (Device.emits_step P env d .read).account
  have hframed : d₀.Framed (Device.peerOf (party.conn.item payload))
      (d₀.handShakeMessageHandle P env (party.conn.item payload)) :=
    Device.framed_handShakeMessageHandle d₀ (party.conn.item payload)
  rw [← hhandles.read] at hframed hslot hcells
  have hsent : sent party.channel (d.read P env) =
      sent party.channel d ++ reply.map party.handShake.build :=
    hcells.trans (congrArg (· ++ _) (SessionOrder.cells_of_written hhandles.written))
  obtain ⟨t, mail, htransport, hmail, honion, hbound⟩ := h.bound
  obtain ⟨item, hitem, hstatus, hkey⟩ := h.entry
  refine ⟨?_, ⟨t, mail, ?_, hmail, honion, hbound⟩, ?_, hframed.2.1.trans hhandles.queue, ?_, ?_⟩
  · rw [show (d.read P env).privateKey = d.privateKey from congrArg (fun a => a.2.1) haccount]
    exact h.publicKey
  · rw [Device.transport, hframed.2.2, hhandles.transports]
    exact htransport
  · refine ⟨ConnectionItems.setStatus status' key' item, ?_, rfl, ?_⟩
    · refine hslot.trans ?_
      rw [SessionOrder.slot, hhandles.conns,
        show d.conns.slot party.conn.onionName party.conn.socket = [item] from hitem]
      rfl
    · rw [ConnectionItems.setStatus, hkey]
  · rw [hsent, List.length_append]
    exact h.delivered.trans (Nat.le_add_right _ _)
  · rw [hsent, List.drop_append_of_le_length h.delivered, h.wire, List.map_append]

end Reading

section Spelling

variable {P : Platform} {payload internalPayload : Bytes} {s : Step} {key : Bytes}

theorem messageType_injective {s s' : Step} (h : s.messageType = s'.messageType) : s = s' := by
  cases s <;> cases s' <;> first | rfl | exact absurd h (by decide)

theorem received_of_accepts (htype : Message.parseMessageType payload = some s.messageType)
    (hinternal : Message.parseExternalPaylod P payload = some internalPayload)
    (haccepts : SessionOrder.accepts payload internalPayload s = true) :
    received P payload = some s := by
  have hfind : SessionOrder.order.find? (fun step =>
      step.messageType = s.messageType && SessionOrder.accepts payload internalPayload step) =
        some s := by
    cases hfound : SessionOrder.order.find? (fun step =>
        step.messageType = s.messageType && SessionOrder.accepts payload internalPayload step) with
    | none =>
      have hrefused := List.find?_eq_none.mp hfound s (by cases s <;> decide)
      rw [haccepts, decide_eq_true rfl] at hrefused
      exact absurd rfl hrefused
    | some s' =>
      have hs' := List.find?_some hfound
      rw [Bool.and_eq_true, decide_eq_true_eq] at hs'
      rw [messageType_injective hs'.1]
  rw [received, htype, hinternal]
  exact hfind

theorem spells_request (amb : Ambient) (keys : KeyState) (localOnion : String) (key : Bytes) :
    ∃ payload, HandShakeMessage.requestPayload P amb localOnion keys.requestXor = some payload ∧
      Spells P .request key payload ∧
        Message.subBytes payload 33 32 = some (P.sha256 (getBytes localOnion)) := by
  obtain ⟨payload, hpayload, hlength, htype, hinternal, hhash, hname, hindex⟩ :=
    HandShakeCell.request_spec P amb keys localOnion
  refine ⟨payload, hpayload, ⟨hlength, received_of_accepts htype hinternal ?_, ?_⟩, hhash⟩
  · rw [SessionOrder.accepts, hname, hindex]
    rfl
  · intro h
    cases h

theorem spells_auth (amb : Ambient) (keys : KeyState) (key : Bytes) :
    Spells P .auth key (HandShakeMessage.authPayload P amb "c" keys.cellXor) := by
  obtain ⟨hlength, htype, hinternal, hname, hindex, hpassword⟩ :=
    HandShakeCell.auth_spec P amb keys (by decide : (getBytes "c").length ≤ 255)
  have hmatches : HandShakeMessage.parseSessionAuthPaylod
      (HandShakeMessage.passwordPayload "c") = some true := hpassword
  refine ⟨hlength, received_of_accepts htype hinternal ?_, ?_⟩
  · rw [SessionOrder.accepts, hname, hindex, hmatches]
    rfl
  · intro h
    cases h

theorem spells_exchange (amb : Ambient) (hkey : key.length = 32) :
    Spells P .exchange key (HandShakeMessage.exchangePayload P amb "c" key) := by
  obtain ⟨hlength, htype, hinternal⟩ :=
    HandShakeCell.exchange_spec P amb (by decide : (getBytes "c").length ≤ 255) hkey
  have hparse : HandShakeMessage.parseSessionExchangePaylod
      (HandShakeMessage.passwordPayload "c" ++ key) = some key :=
    HandShakeMessage.parseSessionExchangePaylod_passwordPayload (by decide) hkey
  refine ⟨hlength, received_of_accepts htype hinternal ?_, fun _ => ?_⟩
  · rw [SessionOrder.accepts, hparse]
    rfl
  · rw [offered, hinternal]
    exact hparse

theorem spells_done (amb : Ambient) (key : Bytes) :
    Spells P .done key (HandShakeMessage.donePayload P amb) := by
  obtain ⟨hlength, htype, hinternal⟩ := HandShakeCell.done_spec P amb
  refine ⟨hlength, received_of_accepts htype hinternal rfl, ?_⟩
  intro h
  cases h

end Spelling

section Keys

theorem set_ne_nil {keyFile : Bytes} (h : keyFile ≠ []) (index : Int) :
    JniEntryUtils.setFileKeyLocation keyFile index ≠ [] := by
  unfold JniEntryUtils.setFileKeyLocation ServiceLoaderImpl.setFileKeyLocation
  split
  · exact h
  · exact List.cons_ne_nil _ _

variable {P : Platform} {env : Env} {d d' d'' : Device}

-- the key file is at most written back as it is
def SameFile (d d' : Device) : Prop := d.keys.keyFile ≠ [] → d'.keys.keyFile = d.keys.keyFile

theorem sameFile_of_eq (h : d'.keys.keyFile = d.keys.keyFile) : SameFile d d' := fun _ => h

theorem sameFile_trans (h : SameFile d d') (h' : SameFile d' d'') : SameFile d d'' := by
  intro hne
  have hfirst := h hne
  rw [← hfirst]
  refine h' ?_
  rw [hfirst]
  exact hne

theorem sameFile_writeBack (h : d'.keys = d.keys.writeBack) : SameFile d d' := by
  intro hne
  rw [h, KeyState.writeBack_eq_self hne]

theorem sameFile_if {c : Prop} [Decidable c]
    (h : d'.keys = if c then d.keys else d.keys.writeBack) : SameFile d d' := by
  split at h
  · exact sameFile_of_eq (by rw [h])
  · exact sameFile_writeBack h

theorem sameFile_resendTexts (d : Device) (onionName : String) :
    SameFile d (d.resendTexts P env onionName) := by
  rw [Device.resendTexts]
  split
  · exact sameFile_if rfl
  · exact sameFile_of_eq rfl

theorem sameFile_resend (d : Device) (task : FileTask) (statusItem : ConnectionStatusItem)
    (messageID : Nat) : SameFile d (d.resend P env task statusItem messageID).1 := by
  rw [Device.resend]
  split
  · exact sameFile_of_eq rfl
  · exact sameFile_if rfl

theorem sameFile_resendTask (d : Device) (onionName : String) (conn : ConnectionStatusItem)
    (sharedKey : Bytes) (task : FileTask) :
    SameFile d (d.resendTask P env onionName conn sharedKey task).1 := by
  rw [Device.resendTask]
  split
  · exact sameFile_of_eq rfl
  · cases task.direction with
    | send =>
      dsimp only
      split
      · split
        · exact sameFile_of_eq rfl
        · exact sameFile_of_eq rfl
      · split
        · exact sameFile_of_eq rfl
        · refine sameFile_trans ?_ (sameFile_resend _ task conn _)
          exact sameFile_of_eq rfl
    | recieve =>
      dsimp only
      split
      · split
        · exact sameFile_writeBack rfl
        · exact sameFile_writeBack rfl
      · exact sameFile_of_eq rfl

theorem sameFile_resendTasks (onionName : String) (conn : ConnectionStatusItem)
    (sharedKey : Bytes) (tasks : List FileTask) (d : Device) :
    SameFile d (Device.resendTasks P env onionName conn sharedKey tasks d).1 := by
  induction tasks generalizing d with
  | nil => exact sameFile_of_eq rfl
  | cons task tasks ih =>
    have htask : SameFile d (d.resendTask P env onionName conn sharedKey task).1 :=
      sameFile_resendTask d onionName conn sharedKey task
    rw [Device.resendTasks]
    split
    · rename_i d' hd
      rw [hd] at htask
      exact sameFile_trans htask (ih d')
    · rename_i d' hd
      rw [hd] at htask
      exact htask

theorem sameFile_tryResend (d : Device) (onionName : String) :
    SameFile d (d.tryResend P env onionName).1 := by
  have htexts : SameFile d (d.resendTexts P env onionName) := sameFile_resendTexts d onionName
  rw [Device.tryResend]
  split
  · split
    · exact sameFile_trans htexts (sameFile_resendTasks _ _ _ _ _)
    · exact htexts
  · exact htexts

theorem sameFile_updateSocketStatus (d : Device) (item : MessageItem Bytes) (status : Nat)
    (sharedKey : Option Bytes) :
    SameFile d (d.updateSocketStatus P env item status sharedKey).1 := by
  have hstatus : SameFile d { d with
      conns := d.conns.updateStatus item.onionName item.socket status sharedKey } :=
    sameFile_of_eq rfl
  rw [Device.updateSocketStatus]
  split
  · exact sameFile_trans hstatus (sameFile_tryResend _ item.onionName)
  · exact hstatus

theorem sameFile_connectReady {d' : Device × Bool} (h : SameFile d d'.1) :
    SameFile d (Device.connectReady d') := by
  obtain ⟨d', complete⟩ := d'
  cases complete
  · exact h
  · exact h

end Keys

section Handling

variable {P : Platform} {env : Env} {conn : SessionOrder.Connection} {d : Device} {payload : Bytes}

theorem handled_request_keys (hsent : env.sent 0 = true)
    (h : received P payload = some .request) : ∃ fileName fileIndex,
    Answers conn d (d.handShakeMessageHandle P env (conn.item payload)) true
      (ConnectionItems.setStatus 0 none) (conn.handShakeMessage.createSessionAuthMessage P
        (env.ambient 0) "c" (d.keys.acceptRequest fileName fileIndex).cellXor) ∧
    (d.handShakeMessageHandle P env (conn.item payload)).keys =
      (d.keys.acceptRequest fileName fileIndex).writeBack := by
  obtain ⟨internalPayload, htype, hinternal, haccepts⟩ := SessionOrder.received_spec h
  rw [SessionOrder.accepts, Bool.and_eq_true] at haccepts
  obtain ⟨fileName, hname⟩ := Option.isSome_iff_exists.mp haccepts.1
  obtain ⟨fileIndex, hindex⟩ := Option.isSome_iff_exists.mp haccepts.2
  have hitem : (conn.item payload).data = payload := rfl
  refine ⟨fileName, fileIndex, ?_⟩
  rw [Device.handShakeMessageHandle, hitem, htype, hinternal]
  dsimp only [Step.messageType]
  rw [if_pos rfl, Device.receiveSessionRequest, hitem, hname, hindex, hsent]
  have hslot := SessionOrder.slot_updateSocketStatus P env conn
    (d.setKeys (d.keys.acceptRequest fileName fileIndex)) payload 0 none
  refine ⟨SessionOrder.answers_sendMessage ?_ ?_ hslot rfl, rfl⟩
  · exact (congrArg List.tail hslot).trans (by rw [List.tail_modifyHead]; rfl)
  · exact SessionOrder.cells_of_written (SessionOrder.written_updateSocketStatus P env
      (d.setKeys (d.keys.acceptRequest fileName fileIndex)) (conn.item payload) 0 none)

variable (conn) in
theorem keys_auth (hsent : env.sent 0 = true) (h : received P payload = some .auth) :
    ∃ fileName fileIndex, Message.parseStartXORIndex payload = some fileIndex ∧
      (d.handShakeMessageHandle P env (conn.item payload)).keys =
        d.keys.acceptAuth fileName fileIndex := by
  obtain ⟨internalPayload, htype, hinternal, haccepts⟩ := SessionOrder.received_spec h
  rw [SessionOrder.accepts, Bool.and_eq_true, Bool.and_eq_true, decide_eq_true_eq] at haccepts
  obtain ⟨fileName, hname⟩ := Option.isSome_iff_exists.mp haccepts.1.1
  obtain ⟨fileIndex, hindex⟩ := Option.isSome_iff_exists.mp haccepts.1.2
  have hitem : (conn.item payload).data = payload := rfl
  refine ⟨fileName, fileIndex, hindex, ?_⟩
  rw [Device.handShakeMessageHandle, hitem, htype, hinternal]
  dsimp only [Step.messageType]
  rw [if_neg (by decide), if_pos rfl, Device.receiveSessionAuth, hitem, hname, hindex, haccepts.2]
  dsimp only [SessionOrder.Connection.item]
  rw [Device.sendMessage, if_pos hsent]
  rfl

theorem sameFile_exchange (h : received P payload = some .exchange) :
    SameFile d (d.handShakeMessageHandle P env (conn.item payload)) := by
  obtain ⟨internalPayload, htype, hinternal, -⟩ := SessionOrder.received_spec h
  have hitem : (conn.item payload).data = payload := rfl
  rw [Device.handShakeMessageHandle, hitem, htype, hinternal]
  dsimp only [Step.messageType]
  rw [if_neg (by decide), if_neg (by decide), if_pos rfl, Device.receiveSessionExchange]
  split
  · rw [Device.sendMessage]
    split
    · refine sameFile_connectReady (sameFile_trans ?_ (sameFile_updateSocketStatus _ _ _ _))
      exact sameFile_of_eq rfl
    · exact sameFile_of_eq rfl
  · exact sameFile_of_eq rfl

theorem sameFile_done (h : received P payload = some .done) :
    SameFile d (d.handShakeMessageHandle P env (conn.item payload)) := by
  obtain ⟨internalPayload, htype, hinternal, -⟩ := SessionOrder.received_spec h
  have hitem : (conn.item payload).data = payload := rfl
  rw [Device.handShakeMessageHandle, hitem, htype, hinternal]
  dsimp only [Step.messageType]
  rw [if_neg (by decide), if_neg (by decide), if_neg (by decide), if_pos rfl,
    Device.receiveSessionDone]
  split
  · exact sameFile_connectReady (sameFile_updateSocketStatus _ _ _ _)
  · exact sameFile_of_eq rfl

end Handling

section Answering

variable {P : Platform} {env : Env} {party : Party} {d : Device} {taken : Nat} {key payload : Bytes}

theorem read_request (hsent : env.sent 0 = true) (hspells : Spells P .request key payload)
    (h : Stands party d taken 0 none [payload] []) :
    ∃ reply, Spells P .auth key reply ∧ Stands party (d.read P env) taken 0 none [] [reply] ∧
      Message.parseStartXORIndex reply = some (d.read P env).keys.keyIndex ∧
        (d.keys.keyFile ≠ [] → (d.read P env).keys.keyFile ≠ []) ∧
          (d.read P env).keys.keyFile.tail = d.keys.keyFile.tail := by
  obtain ⟨d₀, hhandles⟩ := handles_read P env h
  obtain ⟨fileName, fileIndex, hanswers, hkeys⟩ :=
    handled_request_keys (d := d₀) hsent hspells.received
  have hstands := stands_handled [_] h hhandles hanswers.1 hanswers.2
  have hkept : (d.read P env).keys =
      d.keys.handShake (.acceptRequest fileName fileIndex) := by
    rw [hhandles.read, hkeys, hhandles.keys]
    rfl
  refine ⟨_, spells_auth (env.ambient 0) (d₀.keys.acceptRequest fileName fileIndex) key, hstands,
    ?_, ?_, ?_⟩
  · have hindex : Message.parseStartXORIndex (HandShakeMessage.authPayload P (env.ambient 0) "c"
        (d₀.keys.acceptRequest fileName fileIndex).cellXor) =
          some (d₀.keys.acceptRequest fileName fileIndex).keyIndex :=
      (HandShakeCell.auth_spec P (env.ambient 0) (d₀.keys.acceptRequest fileName fileIndex)
        (by decide : (getBytes "c").length ≤ 255)).2.2.2.2.1
    rw [hindex, hhandles.read, hkeys, KeyState.keyIndex_writeBack]
  · intro hne
    rw [hkept]
    exact set_ne_nil (set_ne_nil hne _) _
  · rw [hkept, KeyState.tail_handShake]

theorem read_auth (hsent : env.sent 0 = true) (hspells : Spells P .auth key payload)
    (h : Stands party d taken 0 none [payload] []) :
    ∃ key' reply, key'.length = 32 ∧ Spells P .exchange key' reply ∧
      Stands party (d.read P env) taken 0 (some key') [] [reply] ∧
        ∃ fileIndex : Nat, Message.parseStartXORIndex payload = some fileIndex ∧
          (d.read P env).keys.keyFile =
            JniEntryUtils.setFileKeyLocation d.keys.keyFile fileIndex := by
  obtain ⟨d₀, hhandles⟩ := handles_read P env h
  have hanswers := SessionOrder.handled_auth env party.conn d₀ hspells.received
  rw [hsent] at hanswers
  have hstands := stands_handled [_] h hhandles hanswers.1 hanswers.2
  have hlength : (AESCrypto.paddingToLength (env.ambient 0) [] Constant.sharedkeyLength).length =
      32 := AESCrypto.paddingToLength_length _ _ _
  obtain ⟨fileName, fileIndex, hindex, hkeys⟩ :=
    keys_auth party.conn (d := d₀) hsent hspells.received
  refine ⟨_, _, hlength, spells_exchange (env.ambient 1) hlength, hstands, fileIndex, hindex, ?_⟩
  rw [hhandles.read, hkeys, hhandles.keys]
  rfl

theorem read_exchange (hsent : env.sent 0 = true) (hspells : Spells P .exchange key payload)
    (h : Stands party d taken 0 none [payload] []) :
    ∃ reply, Spells P .done key reply ∧
      Stands party (d.read P env) taken 1 (some key) [] [reply] ∧ SameFile d (d.read P env) := by
  obtain ⟨d₀, hhandles⟩ := handles_read P env h
  obtain ⟨internalPayload, sharedKey, hinternal, hshared, hanswers⟩ :=
    SessionOrder.handled_exchange env party.conn d₀ hspells.received
  have hoffered := hspells.offered rfl
  rw [offered, hinternal, Option.bind_some, hshared] at hoffered
  obtain rfl := Option.some.inj hoffered
  rw [hsent] at hanswers
  have hstands := stands_handled [_] h hhandles hanswers.1 hanswers.2
  have hsame : SameFile d₀ (d₀.handShakeMessageHandle P env (party.conn.item payload)) :=
    sameFile_exchange hspells.received
  rw [← hhandles.read] at hsame
  exact ⟨_, spells_done (env.ambient 0) sharedKey, hstands,
    sameFile_trans (sameFile_of_eq (congrArg KeyState.keyFile hhandles.keys)) hsame⟩

variable (env) in
theorem read_done (hspells : Spells P .done key payload)
    (h : Stands party d taken 0 (some key) [payload] []) :
    Stands party (d.read P env) taken 1 (some key) [] [] ∧ SameFile d (d.read P env) := by
  obtain ⟨d₀, hhandles⟩ := handles_read P env h
  obtain ⟨hslot, hcells⟩ := SessionOrder.handled_done env party.conn d₀ hspells.received
  have hstands := stands_handled [] h hhandles hslot (hcells.trans (List.append_nil _).symm)
  have hsame : SameFile d₀ (d₀.handShakeMessageHandle P env (party.conn.item payload)) :=
    sameFile_done hspells.received
  rw [← hhandles.read] at hsame
  exact ⟨hstands, sameFile_trans (sameFile_of_eq (congrArg KeyState.keyFile hhandles.keys)) hsame⟩

end Answering

end HandShakeReading

end TorChat
