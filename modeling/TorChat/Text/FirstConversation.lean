import TorChat.Server.HandShakeCompletion
import TorChat.Text.Conversation

namespace TorChat

open Library (Bytes HashMap Machine)
open FileTraffic (Channel sent)
open DevicePair (Role Pair)
open HandShakeReading (Party outside)
open HandShakeCompletion (Stage Reached Matched Apart SharesKeyFile Settled Shakes channel dial)
open Conversation (Text Talks InOrder shownTexts ackedTexts)

namespace FirstConversation

section Statement

-- every connection to the peer is on the one socket
def OnlyOn (peer : String) (socket : Nat) (conns : Connections) : Prop :=
  ∀ items, conns.allConByOnionName.get? peer = some items →
    ∀ item ∈ items, item.onionName = peer ∧ item.socket = socket

-- nothing is left over that a new session with the peer would send again
structure NoBacklog (peer : String) (d : Device) : Prop where
  texts : ∀ tmp ∈ d.failedQueue, tmp.onionName ≠ peer
  files : ∀ task ∈ d.senderFileMap.values, task.onionName ≠ peer

structure Undisturbed (d d' : Device) : Prop where
  sendQueue : d'.sendQueue = d.sendQueue
  failedQueue : d'.failedQueue = d.failedQueue
  senderFileMap : d'.senderFileMap = d.senderFileMap
  shown : ∀ peer, shownTexts peer d'.notices = shownTexts peer d.notices
  acked : ackedTexts d'.notices = ackedTexts d.notices

structure Fresh (peer : String) (d : Device) : Prop where
  unlisted : d.conns.allConByOnionName.get? peer = none
  sendQueue : d.sendQueue = []
  backlog : NoBacklog peer d

-- a Writer may take its turns during the handshake, and finds its queue empty
def Meets : DevicePair.Event → Prop
  | .deliver _ => True
  | .act _ env .read => env.sent 0 = true
  | .act _ _ .write => True
  | .act _ _ _ => False

-- the channel between the two ends once they have agreed on the keys
def keyed (party : Role → Party) (sharedKey keyFile : Bytes) (role : Role) : Channel :=
  { (party role).channel with sharedKey := sharedKey, keyFile := keyFile }

end Statement

section Listed

variable {peer onionName : String} {socket : Nat} {conns conns' : Connections}
  {item : ConnectionStatusItem}

theorem onlyOn_setItems {items : ConnectionItems} (h : OnlyOn peer socket conns)
    (hitems : onionName = peer → ∀ item ∈ items, item.onionName = peer ∧ item.socket = socket) :
    OnlyOn peer socket (conns.setItems onionName items) := by
  intro listed hget
  simp only [Connections.setItems, HashMap.get?_put] at hget
  split at hget
  · rename_i hname
    rw [← Option.some.inj hget]
    exact hitems hname.symm
  · exact h listed hget

theorem onlyOn_add (h : OnlyOn peer socket conns) (hsocket : item.socket = socket) :
    OnlyOn peer socket (conns.addNewConnection item) := by
  refine onlyOn_setItems h fun hname old hmem => ?_
  rcases List.mem_append.mp hmem with hold | hnew
  · cases hget : conns.allConByOnionName.get? item.onionName with
    | none =>
      rw [hget] at hold
      exact absurd hold List.not_mem_nil
    | some items =>
      rw [hget] at hold
      exact h items (hname ▸ hget) old hold
  · rw [List.mem_singleton.mp hnew]
    exact ⟨hname, hsocket⟩

theorem onlyOn_createConnectionAsyc (h : OnlyOn peer socket conns) (purpose : Nat) :
    OnlyOn peer socket (conns.createConnectionAsyc onionName purpose) := by
  rw [Connections.createConnectionAsyc]
  split
  · exact h
  · exact h

theorem onlyOn_recreate (h : OnlyOn peer socket conns) (items : ConnectionItems) (purpose : Nat) :
    OnlyOn peer socket (conns.recreate onionName items purpose) := by
  rw [Connections.recreate]
  split
  · exact onlyOn_createConnectionAsyc h purpose
  · split
    · exact onlyOn_createConnectionAsyc h purpose
    · exact h

theorem onlyOn_deleteConnection (h : OnlyOn peer socket conns) (old : Nat) :
    OnlyOn peer socket (conns.deleteConnection onionName old) := by
  rw [Connections.deleteConnection]
  split
  · exact h
  · rename_i items hget
    split
    · rename_i found hfound
      have hset : OnlyOn peer socket (conns.setItems onionName (items.removeConnBySocket old)) :=
        onlyOn_setItems h fun hname i hi => h items (hname ▸ hget) i (List.mem_of_mem_eraseP hi)
      refine onlyOn_recreate ?_ _ found.purpose
      exact hset
    · split
      · exact onlyOn_createConnectionAsyc h Constant.socketPurposeText
      · exact h

theorem onlyOn_modifyBySocket {f : ConnectionStatusItem → ConnectionStatusItem} {old : Nat}
    (h : OnlyOn peer socket conns)
    (hf : ∀ item, (f item).onionName = item.onionName ∧ (f item).socket = item.socket) :
    OnlyOn peer socket
      (conns.modifyItems onionName (ConnectionItems.modifyBySocket f old)) := by
  rw [Connections.modifyItems]
  split
  · exact h
  · rename_i items hget
    refine onlyOn_setItems h fun hname item hmem => ?_
    rcases ConnectionItems.mem_modifyBySocket hmem with hold | ⟨before, hold, -, rfl⟩
    · exact h items (hname ▸ hget) item hold
    · rw [(hf before).1, (hf before).2]
      exact h items (hname ▸ hget) before hold

theorem onlyOn_step (conns : Connections) (op : ConnOp) (h : OnlyOn peer socket conns)
    (hop : ConnOp.AddsOnly socket conns op) : OnlyOn peer socket (conns.step op) := by
  cases op with
  | add item => exact onlyOn_add h hop
  | delete onionName old => exact onlyOn_deleteConnection h old
  | status onionName old status sharedKey =>
    exact onlyOn_modifyBySocket h (fun _ => ⟨rfl, rfl⟩)
  | purpose onionName old purpose => exact onlyOn_modifyBySocket h (fun _ => ⟨rfl, rfl⟩)
  | create onionName purpose => exact onlyOn_createConnectionAsyc h purpose

theorem onlyOn_of_reaches (hreaches : connMachine.Reaches (ConnOp.AddsOnly socket) conns conns')
    (h : OnlyOn peer socket conns) : OnlyOn peer socket conns' :=
  Machine.reaches_invariant onlyOn_step hreaches h

theorem onlyOn_receiveCell {d : Device} (h : OnlyOn peer socket d.conns) (cell : Cell) :
    OnlyOn peer socket (d.receiveCell socket cell).conns := by
  refine onlyOn_of_reaches (Machine.reaches_mono (fun conns op hop => ?_)
    (Device.receiveCell_conns_reaches d socket cell)) h
  cases op with
  | add item => exact hop.1
  | delete onionName old => trivial
  | status onionName old status sharedKey => trivial
  | purpose onionName old purpose => trivial
  | create onionName purpose => trivial

theorem onlyOn_read {P : Platform} {env : Env} {d : Device} (h : OnlyOn peer socket d.conns) :
    OnlyOn peer socket (d.read P env).conns := by
  have hholds : d.Holds (d.read P env) := Device.holds_read d
  refine onlyOn_of_reaches (Machine.reaches_mono (fun conns op hop => ?_) hholds) h
  cases op with
  | add item => exact absurd hop id
  | delete onionName old => trivial
  | status onionName old status sharedKey => trivial
  | purpose onionName old purpose => trivial
  | create onionName purpose => trivial

theorem listed_of_slot (h : OnlyOn peer socket conns) (hslot : conns.slot peer socket = [item]) :
    conns.allConByOnionName.get? peer = some [item] ∧ item.onionName = peer ∧
      item.socket = socket := by
  cases hget : conns.allConByOnionName.get? peer with
  | none =>
    rw [Connections.slot, hget] at hslot
    cases hslot
  | some items =>
    rw [Connections.slot, hget] at hslot
    have hall : ConnectionItems.atSocket items socket = items :=
      List.filter_eq_self.mpr fun i hi => decide_eq_true (h items hget i hi).2
    obtain rfl : items = [item] := hall.symm.trans hslot
    exact ⟨rfl, h [item] hget item List.mem_cons_self⟩

theorem chosen_of_listed (hlisted : conns.allConByOnionName.get? peer = some [item])
    (hkey : item.shareKey.isSome) (purpose : Nat) :
    conns.getConnectionStatusItemByOnionName peer purpose = some item := by
  rw [Connections.getConnectionStatusItemByOnionName, hlisted, Option.bind_some,
    ConnectionItems.getConnByPurpose]
  by_cases hpurpose : item.purpose = purpose
  · simp [hpurpose, hkey]
  · simp [hpurpose, hkey]

end Listed

section Handling

variable {P : Platform} {env : Env} {peer : String} {d d' d'' : Device}

theorem undisturbed_refl (d : Device) : Undisturbed d d := ⟨rfl, rfl, rfl, fun _ => rfl, rfl⟩

theorem undisturbed_trans (h : Undisturbed d d') (h' : Undisturbed d' d'') :
    Undisturbed d d'' where
  sendQueue := h'.sendQueue.trans h.sendQueue
  failedQueue := h'.failedQueue.trans h.failedQueue
  senderFileMap := h'.senderFileMap.trans h.senderFileMap
  shown peer := (h'.shown peer).trans (h.shown peer)
  acked := h'.acked.trans h.acked

theorem noBacklog_of_undisturbed (hbacklog : NoBacklog peer d) (h : Undisturbed d d') :
    NoBacklog peer d' :=
  ⟨h.failedQueue ▸ hbacklog.texts, h.senderFileMap ▸ hbacklog.files⟩

theorem undisturbed_of_outside (h : outside d' = outside d) : Undisturbed d d' := by
  simp only [outside, Prod.mk.injEq] at h
  obtain ⟨-, hsendQueue, hfailedQueue, hsenderFileMap, hnotices⟩ := h
  exact ⟨hsendQueue, hfailedQueue, hsenderFileMap, fun _ => by rw [hnotices], by rw [hnotices]⟩

theorem undisturbed_resendTexts (h : NoBacklog peer d) :
    Undisturbed d (d.resendTexts P env peer) := by
  rw [Device.resendTexts]
  split
  · rename_i conn hconn
    have hmine : d.failedQueue.filter (fun tmp => tmp.onionName = peer) = [] :=
      List.filter_eq_nil_iff.mpr fun tmp htmp => by simpa using h.texts tmp htmp
    have hothers : d.failedQueue.filter (fun tmp => ¬ tmp.onionName = peer) = d.failedQueue :=
      List.filter_eq_self.mpr fun tmp htmp => decide_eq_true (h.texts tmp htmp)
    rw [Device.resendText, hmine, hothers]
    exact ⟨List.append_nil _, rfl, rfl, fun _ => rfl, rfl⟩
  · exact undisturbed_refl d

theorem resendTasks_of_others (conn : ConnectionStatusItem) (sharedKey : Bytes)
    {tasks : List FileTask} (d : Device) (h : ∀ task ∈ tasks, task.onionName ≠ peer) :
    Device.resendTasks P env peer conn sharedKey tasks d = (d, true) := by
  induction tasks with
  | nil => rfl
  | cons task tasks ih =>
    obtain ⟨htask, htasks⟩ := List.forall_mem_cons.mp h
    have hskipped : d.resendTask P env peer conn sharedKey task = (d, true) := by
      rw [Device.resendTask, if_pos htask]
    rw [Device.resendTasks, hskipped]
    exact ih htasks

theorem undisturbed_tryResend (h : NoBacklog peer d) :
    Undisturbed d (d.tryResend P env peer).1 := by
  have htexts : Undisturbed d (d.resendTexts P env peer) := undisturbed_resendTexts h
  rw [Device.tryResend]
  split
  · split
    · rw [resendTasks_of_others _ _ _ (noBacklog_of_undisturbed h htexts).files]
      exact htexts
    · exact htexts
  · exact htexts

theorem undisturbed_updateSocketStatus {item : MessageItem Bytes} (h : NoBacklog item.onionName d)
    (status : Nat) (sharedKey : Option Bytes) :
    Undisturbed d (d.updateSocketStatus P env item status sharedKey).1 := by
  have hstatus : Undisturbed d { d with
      conns := d.conns.updateStatus item.onionName item.socket status sharedKey } :=
    ⟨rfl, rfl, rfl, fun _ => rfl, rfl⟩
  rw [Device.updateSocketStatus]
  split
  · exact undisturbed_trans hstatus (undisturbed_tryResend (noBacklog_of_undisturbed h hstatus))
  · exact hstatus

theorem undisturbed_connectReady {d' : Device × Bool} (h : Undisturbed d d'.1) :
    Undisturbed d (Device.connectReady d') := by
  obtain ⟨d', complete⟩ := d'
  cases complete
  · exact h
  · refine undisturbed_trans h ⟨rfl, rfl, rfl, fun peer => ?_, ?_⟩
    · exact (List.filterMap_append ..).trans (List.append_nil _)
    · exact (List.filterMap_append ..).trans (List.append_nil _)

theorem undisturbed_sendMessage {sent : Bool} {onionName : String} {socket : Nat} {cell : Cell}
    {onSuccess : Device → Device} (h : Undisturbed d (onSuccess (d.transmit socket cell))) :
    Undisturbed d (d.sendMessage sent onionName socket cell onSuccess) := by
  rw [Device.sendMessage]
  split
  · exact h
  · exact ⟨rfl, rfl, rfl, fun _ => rfl, rfl⟩

theorem undisturbed_transmit (d : Device) (socket : Nat) (cell : Cell) :
    Undisturbed d (d.transmit socket cell) := ⟨rfl, rfl, rfl, fun _ => rfl, rfl⟩

theorem undisturbed_setKeys (d : Device) (keys : KeyState) : Undisturbed d (d.setKeys keys) :=
  ⟨rfl, rfl, rfl, fun _ => rfl, rfl⟩

theorem undisturbed_receiveSessionRequest {item : MessageItem Bytes}
    (h : NoBacklog item.onionName d) : Undisturbed d (d.receiveSessionRequest P env item) := by
  rw [Device.receiveSessionRequest]
  split
  · rename_i fileName fileIndex hname hindex
    have hkeys := undisturbed_setKeys d (d.keys.acceptRequest fileName fileIndex)
    have hupdated : Undisturbed (d.setKeys (d.keys.acceptRequest fileName fileIndex))
        ((d.setKeys (d.keys.acceptRequest fileName fileIndex)).updateSocketStatus P env item 0
          none).1 := undisturbed_updateSocketStatus (noBacklog_of_undisturbed h hkeys) 0 none
    have hwriteBack (keys : KeyState) := undisturbed_trans (undisturbed_trans hkeys hupdated)
      (undisturbed_setKeys _ keys)
    dsimp only
    split
    · exact hwriteBack _
    · exact undisturbed_trans (hwriteBack _) (undisturbed_sendMessage (undisturbed_transmit _ _ _))
  · exact undisturbed_refl d

theorem undisturbed_receiveSessionAuth {item : MessageItem Bytes} (h : NoBacklog item.onionName d)
    (internalPayload : Bytes) :
    Undisturbed d (d.receiveSessionAuth P env item internalPayload) := by
  rw [Device.receiveSessionAuth]
  split
  · rename_i fileName fileIndex hname hindex
    have hkeys := undisturbed_setKeys d (d.keys.acceptAuth fileName fileIndex)
    dsimp only
    split
    · refine undisturbed_trans hkeys (undisturbed_sendMessage ?_)
      have hsaid := undisturbed_transmit (d.setKeys (d.keys.acceptAuth fileName fileIndex))
      refine undisturbed_trans (hsaid _ _) (undisturbed_updateSocketStatus ?_ _ _)
      exact noBacklog_of_undisturbed h (undisturbed_trans hkeys (hsaid _ _))
    · exact hkeys
  · exact undisturbed_refl d

theorem undisturbed_receiveSessionExchange {item : MessageItem Bytes}
    (h : NoBacklog item.onionName d) (internalPayload : Bytes) :
    Undisturbed d (d.receiveSessionExchange P env item internalPayload) := by
  rw [Device.receiveSessionExchange]
  split
  · refine undisturbed_sendMessage (undisturbed_connectReady ?_)
    have hsaid := undisturbed_transmit d
    refine undisturbed_trans (hsaid _ _) (undisturbed_updateSocketStatus ?_ _ _)
    exact noBacklog_of_undisturbed h (hsaid _ _)
  · exact undisturbed_refl d

theorem undisturbed_receiveSessionDone {item : MessageItem Bytes} (h : NoBacklog item.onionName d)
    (internalPayload : Bytes) :
    Undisturbed d (d.receiveSessionDone P env item internalPayload) := by
  rw [Device.receiveSessionDone]
  split
  · exact undisturbed_connectReady (undisturbed_updateSocketStatus h _ _)
  · exact undisturbed_refl d

theorem undisturbed_handShakeMessageHandle {item : MessageItem Bytes}
    (h : NoBacklog item.onionName d) : Undisturbed d (d.handShakeMessageHandle P env item) := by
  rw [Device.handShakeMessageHandle]
  split
  · split
    · exact undisturbed_receiveSessionRequest h
    · split
      · exact undisturbed_receiveSessionAuth h _
      · split
        · exact undisturbed_receiveSessionExchange h _
        · split
          · exact undisturbed_receiveSessionDone h _
          · exact undisturbed_refl d
  · exact undisturbed_refl d

variable (P env) in
theorem undisturbed_read (hbacklog : NoBacklog peer d)
    (hqueue : ∀ item ∈ d.recieveQueue, item.type = 0 ∧ item.onionName = peer) :
    Undisturbed d (d.read P env) := by
  cases hcons : d.recieveQueue with
  | nil =>
    rw [Device.read, hcons]
    exact undisturbed_refl d
  | cons item rest =>
    obtain ⟨htype, hname⟩ := hqueue item (by rw [hcons]; exact List.mem_cons_self)
    have hpopped : Undisturbed d { d with recieveQueue := rest } :=
      ⟨rfl, rfl, rfl, fun _ => rfl, rfl⟩
    have hread : d.read P env =
        ({ d with recieveQueue := rest } : Device).handShakeMessageHandle P env item := by
      rw [Device.read, hcons]
      exact if_pos htype
    rw [hread]
    refine undisturbed_trans hpopped (undisturbed_handShakeMessageHandle ?_)
    rw [hname]
    exact noBacklog_of_undisturbed hbacklog hpopped

end Handling

section Meeting

variable {P : Platform} {env : Env} {party : Role → Party} {shared : Prop} {start pair : Pair}
  {stage : Stage}

structure Meeting (party : Role → Party) (start pair : Pair) : Prop where
  listed : ∀ role, OnlyOn (channel party role).peer (channel party role).socket
    (pair.device role).conns
  undisturbed : ∀ role, Undisturbed (start.device role) (pair.device role)

theorem meeting_set (h : Meeting party start pair) {role : Role} {d : Device}
    (hlisted : OnlyOn (channel party role).peer (channel party role).socket d.conns)
    (hd : Undisturbed (pair.device role) d) : Meeting party start (pair.set role d) := by
  refine ⟨fun r => ?_, fun r => ?_⟩
  · rcases DevicePair.eq_or_other r role with rfl | rfl
    · rw [DevicePair.device_set_self]
      exact hlisted
    · rw [DevicePair.device_set_other]
      exact h.listed role.other
  · rcases DevicePair.eq_or_other r role with rfl | rfl
    · rw [DevicePair.device_set_self]
      exact undisturbed_trans (h.undisturbed r) hd
    · rw [DevicePair.device_set_other]
      exact h.undisturbed role.other

theorem listed_deliver (h : Meeting party start pair) (role r : Role) :
    OnlyOn (channel party r).peer (channel party r).socket
      ((DevicePair.step P (channel party) pair (.deliver role)).device r).conns := by
  rw [DevicePair.step]
  split
  · exact h.listed r
  · rename_i cell hcell
    rcases DevicePair.eq_or_other r role.other with rfl | rfl
    · rw [DevicePair.device_set_self]
      exact onlyOn_receiveCell (h.listed role.other) cell
    · rw [DevicePair.device_set_other]
      exact h.listed role.other.other

theorem meeting_deliver (hmatched : Matched party) (hreached : Reached P party shared pair stage)
    (h : Meeting party start pair) (role : Role) :
    Meeting party start (DevicePair.step P (channel party) pair (.deliver role)) := by
  by_cases hrole : ∃ s, stage = .wire s ∧ HandShakeCompletion.speaker s = role
  · obtain ⟨s, rfl, rfl⟩ := hrole
    refine ⟨listed_deliver h _, fun r => undisturbed_trans (h.undisturbed r) ?_⟩
    exact undisturbed_of_outside (HandShakeCompletion.outside_deliver hmatched hreached r)
  · have hnone := HandShakeCompletion.silent_of_reached hreached role
      fun s hs hspeaker => hrole ⟨s, hs, hspeaker⟩
    rw [DevicePair.step, hnone]
    exact h

theorem meeting_read (hbacklog : ∀ role, NoBacklog (channel party role).peer (start.device role))
    (hreached : Reached P party shared pair stage) (h : Meeting party start pair) (role : Role)
    (env : Env) : Meeting party start (pair.set role ((pair.device role).read P env)) := by
  obtain ⟨inbox, hinbox⟩ := HandShakeCompletion.queue_of_reached hreached role
  refine meeting_set h (onlyOn_read (h.listed role)) (undisturbed_read P env
    (noBacklog_of_undisturbed (hbacklog role) (h.undisturbed role)) fun item hitem => ?_)
  rw [hinbox] at hitem
  obtain ⟨payload, -, rfl⟩ := List.mem_map.mp hitem
  exact ⟨rfl, rfl⟩

theorem faultless_of_meets (hqueue : ∀ role, (pair.device role).sendQueue = [])
    {e : DevicePair.Event} (he : Meets e) :
    HandShakeCompletion.Faultless (channel party) pair e := by
  cases e with
  | deliver role => trivial
  | act role env event =>
    cases event with
    | read => exact he
    | write =>
      intro item hitem
      rw [hqueue role] at hitem
      cases hitem
    | _ => exact absurd he id

theorem write_of_empty {d : Device} (h : d.sendQueue = []) : d.write env = d := by
  rw [Device.write, h]

theorem meeting_step (hmatched : Matched party)
    (hfresh : ∀ role, Fresh (channel party role).peer (start.device role))
    (hreached : Reached P party shared pair stage) (h : Meeting party start pair)
    {e : DevicePair.Event} (he : Meets e) :
    (∃ stage', Reached P party shared (DevicePair.step P (channel party) pair e) stage') ∧
      Meeting party start (DevicePair.step P (channel party) pair e) := by
  have hqueue (role : Role) : (pair.device role).sendQueue = [] :=
    (h.undisturbed role).sendQueue.trans (hfresh role).sendQueue
  refine ⟨HandShakeCompletion.reached_step hmatched hreached (faultless_of_meets hqueue he), ?_⟩
  cases e with
  | deliver role => exact meeting_deliver hmatched hreached h role
  | act role env event =>
    cases event with
    | read => exact meeting_read (fun role => (hfresh role).backlog) hreached h role env
    | write =>
      have hidle : (pair.device role).step P env .write = pair.device role :=
        write_of_empty (hqueue role)
      rw [DevicePair.step, hidle, DevicePair.set_self]
      exact h
    | _ => exact absurd he id

theorem meeting_run (hmatched : Matched party)
    (hfresh : ∀ role, Fresh (channel party role).peer (start.device role))
    (hreached : Reached P party shared pair stage) (h : Meeting party start pair)
    {events : List DevicePair.Event} (hevents : ∀ e ∈ events, Meets e) :
    (∃ stage', Reached P party shared ((DevicePair.machine P (channel party)).run pair events)
      stage') ∧ Meeting party start ((DevicePair.machine P (channel party)).run pair events) := by
  induction events generalizing pair stage with
  | nil => exact ⟨⟨stage, hreached⟩, h⟩
  | cons e events ih =>
    obtain ⟨he, hevents⟩ := List.forall_mem_cons.mp hevents
    obtain ⟨⟨stage', hreached'⟩, hmeeting⟩ := meeting_step hmatched hfresh hreached h he
    exact ih hreached' hmeeting hevents

theorem meeting_dial (h : Apart P party pair)
    (hfresh : ∀ role, Fresh (channel party role).peer (pair.device role))
    (hsent : env.sent 0 = true) (purpose : Nat) :
    Meeting party pair
      ((DevicePair.machine P (channel party)).run pair (dial party env purpose)) := by
  have hnone (role : Role) : OnlyOn (channel party role).peer (channel party role).socket
      (pair.device role).conns := by
    intro items hget
    rw [(hfresh role).unlisted] at hget
    cases hget
  have hstart : Meeting party pair pair := ⟨hnone, fun role => undisturbed_refl _⟩
  obtain ⟨mail, payload, hname, -, -, hrun⟩ :=
    HandShakeCompletion.run_of_apart env h hsent purpose
  rw [hrun, HandShakeCompletion.asking]
  have haccepted : Meeting party pair (pair.set .receiver
      ((pair.device .receiver).accept (party .receiver).channel.socket)) :=
    meeting_set hstart (hnone .receiver) ⟨rfl, rfl, rfl, fun _ => rfl, rfl⟩
  refine meeting_set haccepted ?_ ⟨rfl, rfl, rfl, fun _ => rfl, rfl⟩
  exact onlyOn_add (hnone .sender) rfl

-- what the handshake has left on one end is what a conversation starts from
theorem talks_of_opened (hreached : Reached P party shared pair .opened) (hshared : shared)
    (hlisted : ∀ role, OnlyOn (channel party role).peer (channel party role).socket
      (pair.device role).conns) :
    ∃ key : Bytes, key.length = 32 ∧ ∀ role,
      Talks (keyed party key (pair.device .sender).keys.keyFile role) (pair.device role) := by
  cases hreached with
  | along _ key payload hlength h =>
    refine ⟨key, hlength, fun role => ?_⟩
    obtain ⟨item, hslot, hstatus, hkey⟩ := (h.stands role).entry
    obtain ⟨t, mail, htransport, hmail, hname, -⟩ := (h.stands role).bound
    obtain ⟨hitems, hitemName, hsocket⟩ := listed_of_slot (hlisted role) hslot
    have hopened : item.status = 1 := by
      rw [hstatus]
      cases role <;> rfl
    have hshareKey : item.shareKey = some key := by
      rw [hkey]
      cases role <;> rfl
    refine ⟨?_, ⟨item, ?_, hsocket, hshareKey⟩, ⟨item, ?_, hitemName, hopened, hshareKey⟩,
      ⟨t, mail, htransport, hmail, hname⟩⟩
    · cases role with
      | sender => rfl
      | receiver => exact ((h.keys hshared).same (by decide) (by decide)).symm
    · exact chosen_of_listed hitems (by rw [hshareKey]; rfl) _
    · exact (Connections.getConnectionStatusItem_eq_head? _ _ _).trans (congrArg List.head? hslot)

theorem keyed_of_opened (hreached : Reached P party shared pair .opened) (hshared : shared) :
    (pair.device .sender).keys.keyFile ≠ [] := by
  cases hreached with
  | along _ key payload hlength h => exact (h.keys hshared).callerKeyed

theorem inOrder_of_undisturbed {c : Role → Channel} {met after : Pair} {role : Role}
    {texts : List Text} {ids : List Nat}
    (h : ∀ role, Undisturbed (start.device role) (met.device role))
    (hinOrder : InOrder c met after role texts ids) : InOrder c start after role texts ids where
  shown := by rw [hinOrder.shown, (h role.other).shown]
  acked := by rw [hinOrder.acked, (h role).acked]

end Meeting

section Conversations

variable {P : Platform} {env : Env} {party : Role → Party} {pair : Pair}

theorem meets_of_shakes {e : DevicePair.Event} (he : Shakes e) : Meets e := by
  cases e with
  | deliver role => trivial
  | act role env event =>
    cases event with
    | read => exact he
    | _ => exact absurd he id

end Conversations

end FirstConversation

end TorChat
