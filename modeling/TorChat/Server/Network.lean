import TorChat.Server.Emissions
import Mathlib.Logic.Function.Basic

namespace TorChat

open Library (Bytes Machine)

namespace Device

variable {P : Platform} {env : Env}

theorem recieveQueue_of_shell {d d' : Device} (h : d'.shell = d.shell) :
    d'.recieveQueue = d.recieveQueue := congrArg (fun s => s.2.1) h

theorem recieveQueue_endTransport (d : Device) (t : Transport) :
    (d.endTransport t).recieveQueue = d.recieveQueue := by
  obtain ⟨d', hframed, hend⟩ := framed_endTransport none d t
  rw [hend]
  exact hframed.2.1

def Handed (d : Device) (e : Event) (item : MessageItem Bytes) : Prop :=
  item ∈ d.recieveQueue ∨ ∃ cell, e = .receiveCell item.socket cell ∧
    (item.type = 1 → ∃ sharedKey, cell = .data sharedKey item.data)

theorem handed_readCell {d : Device} {mail : MailItem} {t : Transport} {cell : Cell}
    {item : MessageItem Bytes} (h : item ∈ (d.readCell mail t cell).recieveQueue) :
    d.Handed (.receiveCell t.socket cell) item := by
  rcases readCell_cases d mail t cell with heq | heq | ⟨type, plain, heq, -, hdata⟩
  · rw [heq] at h
    exact .inl h
  · rw [heq, recieveQueue_endTransport] at h
    exact .inl h
  · rw [heq] at h
    rcases List.mem_append.mp h with hold | hnew
    · exact .inl hold
    · obtain rfl := List.mem_singleton.mp hnew
      exact .inr ⟨cell, rfl, hdata⟩

theorem handed_receiveCell {d : Device} {socket : Nat} {cell : Cell} {item : MessageItem Bytes}
    (h : item ∈ (d.receiveCell socket cell).recieveQueue) :
    d.Handed (.receiveCell socket cell) item := by
  rw [receiveCell] at h
  split at h
  · exact .inl h
  · rename_i t htransport
    obtain rfl := transport_socket htransport
    split at h
    · exact .inl h
    · split at h
      · exact handed_readCell h
      · split at h
        · exact .inl h
        · rename_i mail hidentify
          exact handed_readCell (d := (d.bindPeer t mail).1) (t := (d.bindPeer t mail).2) h

theorem handed_step {d : Device} {e : Event} {item : MessageItem Bytes}
    (h : item ∈ (d.step P env e).recieveQueue) : d.Handed e item := by
  cases e with
  | accept socket => exact .inl h
  | receiveCell socket cell => exact handed_receiveCell h
  | hangUp socket =>
    rw [step, hangUp] at h
    split at h
    · exact .inl h
    · rw [recieveQueue_endTransport] at h
      exact .inl h
  | connect onionName purpose socket =>
    rw [step, connect] at h
    split at h
    · exact .inl h
    · exact .inl h
  | startHandShake onionName purpose =>
    obtain ⟨d', added, hframed, heq⟩ := framed_startHandShakeProcess P env none d onionName purpose
    rw [step, heq] at h
    exact .inl (hframed.2.1 ▸ h)
  | read =>
    cases hqueue : d.recieveQueue with
    | nil =>
      rw [step, read, hqueue] at h
      exact .inl h
    | cons first rest =>
      have hframed := framed_read P env hqueue
      rw [step, hframed.2.1] at h
      refine .inl ?_
      rw [hqueue]
      exact List.mem_cons_of_mem first h
  | write =>
    have hframed : d.Framed none (d.write env) := framed_write d
    exact .inl (hframed.2.1 ▸ h)
  | sendText messageContent remoteOnion messageID =>
    have hframed : d.Framed none (d.handleTextMessageSend P env messageContent remoteOnion
        messageID) := framed_handleTextMessageSend d messageContent remoteOnion messageID
    exact .inl (hframed.2.1 ▸ h)
  | sendFile fileFullPath content remoteOnion messageID =>
    exact .inl (recieveQueue_of_shell (shell_queueFileMeta d remoteOnion _ messageID) ▸ h)
  | sendBytes fileFullPath bitmapBytes remoteOnion messageID =>
    exact .inl (recieveQueue_of_shell (shell_queueFileMeta d remoteOnion _ messageID) ▸ h)
  | register position => exact .inl (recieveQueue_of_shell (shell_registerTask d position) ▸ h)
  | tryResendAll => exact .inl (recieveQueue_of_shell (shell_tryResendAll _ d) ▸ h)

end Device

-- which socket of which device is the other end of a socket of a device
structure Wiring (ι : Type) where
  peer : ι × Nat → Option (ι × Nat)
  symm : ∀ x y, peer x = some y → peer y = some x
  distinct : ∀ x y, peer x = some y → x.1 ≠ y.1

abbrev Network (ι : Type) := ι → Device

namespace Network

variable {ι : Type} (P : Platform) (W : Wiring ι)

-- a written cell may be delivered never, once or again, and in any order
inductive Event (ι : Type) where
  | act (i : ι) (env : Env) (event : Device.Event)
  | deliver (i : ι) (position : Nat)

structure Taken (ι : Type) where
  device : ι
  env : Env
  event : Device.Event

def taken (net : Network ι) : Event ι → Option (Taken ι)
  | .act _ _ (.receiveCell _ _) => none
  | .act i env event => some ⟨i, env, event⟩
  | .deliver i position => do
      let (socket, cell) ← (net i).written[position]?
      let (j, peerSocket) ← W.peer (i, socket)
      return ⟨j, {}, .receiveCell peerSocket cell⟩

section

variable [DecidableEq ι]

def take (net : Network ι) (t : Taken ι) : Network ι :=
  Function.update net t.device ((net t.device).step P t.env t.event)

def step (net : Network ι) (e : Event ι) : Network ι :=
  match taken W net e with
  | none => net
  | some t => take P net t

end

def Carried (net : Network ι) : Prop :=
  ∀ i, ∀ item ∈ (net i).recieveQueue, item.type = 1 → ∃ j socket sharedKey,
    W.peer (i, item.socket) = some (j, socket) ∧
      (socket, Cell.data sharedKey item.data) ∈ (net j).written

variable {P W} {net : Network ι}

theorem taken_receiveCell {e : Event ι} {t : Taken ι} {socket : Nat} {cell : Cell}
    (h : taken W net e = some t) (hevent : t.event = .receiveCell socket cell) :
    ∃ j peerSocket, W.peer (t.device, socket) = some (j, peerSocket) ∧
      (peerSocket, cell) ∈ (net j).written := by
  cases e with
  | act i env event =>
    cases event with
    | receiveCell socket cell => cases h
    | _ =>
      obtain rfl := Option.some.inj h
      cases hevent
  | deliver i position =>
    simp only [taken, Option.bind_eq_bind, Option.bind_eq_some_iff, Option.pure_def,
      Option.some.injEq] at h
    obtain ⟨⟨s, c⟩, hwritten, ⟨j, s'⟩, hpeer, rfl⟩ := h
    obtain ⟨rfl, rfl⟩ := Device.Event.receiveCell.inj hevent
    exact ⟨i, s, W.symm _ _ hpeer, List.mem_of_getElem? hwritten⟩

variable [DecidableEq ι]

theorem take_apply (t : Taken ι) (i : ι) : take P net t i =
    if i = t.device then (net t.device).step P t.env t.event else net i :=
  Function.update_apply net t.device _ i

theorem take_self (t : Taken ι) : take P net t t.device = (net t.device).step P t.env t.event :=
  Function.update_self _ _ _

variable (P net) in
theorem take_emits (t : Taken ι) (i : ι) :
    (i = t.device ∧ Device.Emits (Device.Emitted P (net t.device) t.event)
      (Device.NoticedBy P (net t.device) t.event) (net i) (take P net t i)) ∨
    (i ≠ t.device ∧ take P net t i = net i) := by
  by_cases hi : i = t.device
  · subst hi
    rw [take_self]
    exact .inl ⟨rfl, Device.emits_step P t.env (net t.device) t.event⟩
  · rw [take_apply, if_neg hi]
    exact .inr ⟨hi, rfl⟩

theorem written_take (t : Taken ι) (i : ι) : (net i).written <+: (take P net t i).written := by
  rcases take_emits P net t i with ⟨-, hemits⟩ | ⟨-, heq⟩
  · exact hemits.written
  · rw [heq]

theorem notices_take (t : Taken ι) (i : ι) : (net i).notices <+: (take P net t i).notices := by
  rcases take_emits P net t i with ⟨-, hemits⟩ | ⟨-, heq⟩
  · exact hemits.noticed
  · rw [heq]

theorem onionName_take (t : Taken ι) (i : ι) :
    (take P net t i).onionName = (net i).onionName := by
  rcases take_emits P net t i with ⟨-, hemits⟩ | ⟨-, heq⟩
  · exact congrArg Prod.fst hemits.account
  · rw [heq]

theorem carried_take {e : Event ι} {t : Taken ι} (h : Carried W net)
    (ht : taken W net e = some t) : Carried W (take P net t) := by
  have hkept : ∀ i (item : MessageItem Bytes), (∃ j socket sharedKey,
      W.peer (i, item.socket) = some (j, socket) ∧
        (socket, Cell.data sharedKey item.data) ∈ (net j).written) → ∃ j socket sharedKey,
      W.peer (i, item.socket) = some (j, socket) ∧
        (socket, Cell.data sharedKey item.data) ∈ (take P net t j).written := by
    rintro i item ⟨j, socket, sharedKey, hpeer, hwritten⟩
    exact ⟨j, socket, sharedKey, hpeer, (written_take t j).subset hwritten⟩
  intro i item hitem htype
  apply hkept
  rw [take_apply] at hitem
  split at hitem
  · rename_i hi
    subst hi
    rcases Device.handed_step hitem with hold | ⟨cell, hevent, hdata⟩
    · exact h _ item hold htype
    · obtain ⟨sharedKey, rfl⟩ := hdata htype
      obtain ⟨j, socket, hpeer, hwritten⟩ := taken_receiveCell ht hevent
      exact ⟨j, socket, sharedKey, hpeer, hwritten⟩
  · exact h i item hitem htype

end Network

end TorChat
