import TorChat.Server.Step

namespace TorChat

open Library (Bytes HashMap Machine)

inductive ConnOp where
  | add (item : ConnectionStatusItem)
  | delete (onionName : String) (socket : Nat)
  | status (onionName : String) (socket status : Nat) (sharedKey : Option Bytes)
  | purpose (onionName : String) (socket purpose : Nat)
  | create (onionName : String) (purpose : Nat)

namespace Connections

def step (conns : Connections) : ConnOp → Connections
  | .add item => conns.addNewConnection item
  | .delete onionName socket => conns.deleteConnection onionName socket
  | .status onionName socket status sharedKey =>
      conns.updateStatus onionName socket status sharedKey
  | .purpose onionName socket purpose => conns.updateConnectionPurpose onionName socket purpose
  | .create onionName purpose => conns.createConnectionAsyc onionName purpose

end Connections

def connMachine : Machine Connections ConnOp := ⟨Connections.step⟩

namespace ConnOp

def Keeps (_ : Connections) : ConnOp → Prop
  | .add _ => False
  | .delete _ _ => True
  | .status _ _ _ _ => True
  | .purpose _ _ _ => True
  | .create _ _ => True

def AddsOnly (socket : Nat) (_ : Connections) : ConnOp → Prop
  | .add item => item.socket = socket
  | .delete _ _ => True
  | .status _ _ _ _ => True
  | .purpose _ _ _ => True
  | .create _ _ => True

def Within (who : Option (String × Nat)) (_ : Connections) : ConnOp → Prop
  | .add _ => False
  | .delete _ _ => True
  | .status onionName socket _ _ => who = some (onionName, socket)
  | .purpose _ _ _ => True
  | .create _ _ => True

theorem keeps_of_within {who : Option (String × Nat)} (conns : Connections) (op : ConnOp)
    (h : Within who conns op) : Keeps conns op := by
  cases op with
  | add item => exact h
  | delete onionName socket => trivial
  | status onionName socket status sharedKey => trivial
  | purpose onionName socket purpose => trivial
  | create onionName purpose => trivial

end ConnOp

namespace Connections

def Named (conns : Connections) : Prop :=
  ∀ onionName items, conns.allConByOnionName.get? onionName = some items →
    ∀ item ∈ items, item.onionName = onionName

variable {conns : Connections} {onionName : String} {socket : Nat}

theorem named_empty : ({} : Connections).Named := by
  intro name items hget
  rw [HashMap.get?_empty] at hget
  cases hget

theorem named_setItems {items : ConnectionItems} (h : conns.Named)
    (hitems : ∀ item ∈ items, item.onionName = onionName) :
    (conns.setItems onionName items).Named := by
  intro name listed hget
  simp only [setItems, HashMap.get?_put] at hget
  split at hget
  · rename_i hname
    rw [hname, ← Option.some.inj hget]
    exact hitems
  · exact h name listed hget

theorem named_addNewConnection (h : conns.Named) (item : ConnectionStatusItem) :
    (conns.addNewConnection item).Named := by
  apply named_setItems h
  intro old hmem
  rcases List.mem_append.mp hmem with hold | hnew
  · cases hget : conns.allConByOnionName.get? item.onionName with
    | none =>
      rw [hget] at hold
      exact absurd hold List.not_mem_nil
    | some items =>
      rw [hget] at hold
      exact h item.onionName items hget old hold
  · rw [List.mem_singleton.mp hnew]

theorem named_createConnectionAsyc (h : conns.Named) (purpose : Nat) :
    (conns.createConnectionAsyc onionName purpose).Named := by
  rw [createConnectionAsyc]
  split
  · exact h
  · exact h

theorem named_recreate (h : conns.Named) (items : ConnectionItems) (purpose : Nat) :
    (conns.recreate onionName items purpose).Named := by
  rw [recreate]
  split
  · exact named_createConnectionAsyc h purpose
  · split
    · exact named_createConnectionAsyc h purpose
    · exact h

theorem named_deleteConnection (h : conns.Named) :
    (conns.deleteConnection onionName socket).Named := by
  rw [deleteConnection]
  split
  · exact h
  · rename_i items hget
    split
    · rename_i item hfound
      have hset : (conns.setItems onionName (items.removeConnBySocket socket)).Named :=
        named_setItems h (fun i hi => h onionName items hget i (List.mem_of_mem_eraseP hi))
      refine named_recreate ?_ _ item.purpose
      exact hset
    · split
      · exact named_createConnectionAsyc h Constant.socketPurposeText
      · exact h

theorem named_modifyBySocket {f : ConnectionStatusItem → ConnectionStatusItem} (h : conns.Named)
    (hf : ∀ item, (f item).onionName = item.onionName) :
    (conns.modifyItems onionName (ConnectionItems.modifyBySocket f socket)).Named := by
  rw [modifyItems]
  split
  · exact h
  · rename_i items hget
    apply named_setItems h
    intro item hmem
    rcases ConnectionItems.mem_modifyBySocket hmem with hold | ⟨old, hold, -, rfl⟩
    · exact h onionName items hget item hold
    · rw [hf]
      exact h onionName items hget old hold

theorem named_step (conns : Connections) (op : ConnOp) (h : conns.Named) :
    (conns.step op).Named := by
  cases op with
  | add item => exact named_addNewConnection h item
  | delete onionName socket => exact named_deleteConnection h
  | status onionName socket status sharedKey => exact named_modifyBySocket h (fun _ => rfl)
  | purpose onionName socket purpose => exact named_modifyBySocket h (fun _ => rfl)
  | create onionName purpose => exact named_createConnectionAsyc h purpose

theorem named_of_reaches {A : Connections → ConnOp → Prop} {conns' : Connections}
    (h : connMachine.Reaches A conns conns') (hn : conns.Named) : conns'.Named :=
  Machine.reaches_invariant (fun c op hc _ => named_step c op hc) h hn

theorem onionName_of_named (hn : conns.Named) {item : ConnectionStatusItem}
    (h : conns.getConnectionStatusItem onionName socket = some item) :
    item.onionName = onionName := by
  obtain ⟨items, hget, hfind⟩ := Option.bind_eq_some_iff.mp h
  exact hn onionName items hget item (ConnectionItems.mem_of_getConnBySocket hfind).1

theorem onionName_of_named_purpose (hn : conns.Named) {item : ConnectionStatusItem}
    {purpose : Nat} (h : conns.getConnectionStatusItemByOnionName onionName purpose = some item) :
    item.onionName = onionName := by
  obtain ⟨items, hget, hfind⟩ := Option.bind_eq_some_iff.mp h
  exact hn onionName items hget item (ConnectionItems.mem_of_getConnByPurpose hfind)

theorem reaches_delete {A : Connections → ConnOp → Prop} (hA : A conns (.delete onionName socket)) :
    connMachine.Reaches A conns (conns.deleteConnection onionName socket) :=
  Machine.reaches_step hA

theorem reaches_status {A : Connections → ConnOp → Prop} {status : Nat} {sharedKey : Option Bytes}
    (hA : A conns (.status onionName socket status sharedKey)) :
    connMachine.Reaches A conns (conns.updateStatus onionName socket status sharedKey) :=
  Machine.reaches_step hA

theorem reaches_purpose {A : Connections → ConnOp → Prop} {purpose : Nat}
    (hA : A conns (.purpose onionName socket purpose)) :
    connMachine.Reaches A conns (conns.updateConnectionPurpose onionName socket purpose) :=
  Machine.reaches_step hA

theorem reaches_create {A : Connections → ConnOp → Prop} {purpose : Nat}
    (hA : A conns (.create onionName purpose)) :
    connMachine.Reaches A conns (conns.createConnectionAsyc onionName purpose) :=
  Machine.reaches_step hA

theorem reaches_add {A : Connections → ConnOp → Prop} {item : ConnectionStatusItem}
    (hA : A conns (.add item)) :
    connMachine.Reaches A conns (conns.addNewConnection item) :=
  Machine.reaches_step hA

end Connections

end TorChat
