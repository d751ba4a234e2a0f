import TorChat.Library.HashMap
import TorChat.Message.Message

namespace TorChat

open Library (Bytes HashMap)

structure ConnectionStatusItem where
  onionName : String
  socket : Nat
  status : Nat := 0
  shareKey : Option Bytes := none
  purpose : Nat := Constant.socketPurposeText
  deriving DecidableEq, Repr

abbrev ConnectionItems := List ConnectionStatusItem

namespace ConnectionItems

def addNewConn (connection : ConnectionItems) (item : ConnectionStatusItem) : ConnectionItems :=
  connection ++ [item]

def getConnBySocket (connection : ConnectionItems) (socket : Nat) :
    Option ConnectionStatusItem :=
  connection.find? (fun item => item.socket = socket)

def getConnByPurpose (connection : ConnectionItems) (purpose : Nat) :
    Option ConnectionStatusItem :=
  match connection.find? (fun item => item.purpose = purpose && item.shareKey.isSome) with
  | some item => some item
  | none =>
      match (connection.filter (fun item => item.shareKey.isSome)).getLast? with
      | some item => some item
      | none => (connection.filter (fun item => item.purpose = purpose)).getLast?

def removeConnBySocket (connection : ConnectionItems) (socket : Nat) : ConnectionItems :=
  connection.eraseP (fun item => item.socket = socket)

def modifyBySocket (f : ConnectionStatusItem → ConnectionStatusItem) (socket : Nat) :
    ConnectionItems → ConnectionItems
  | [] => []
  | item :: rest =>
      if item.socket = socket then f item :: rest else item :: modifyBySocket f socket rest

def setStatus (status : Nat) (sharedKey : Option Bytes) (item : ConnectionStatusItem) :
    ConnectionStatusItem :=
  { item with status := status, shareKey := sharedKey.or item.shareKey }

def updateStatus (connection : ConnectionItems) (socket status : Nat) (sharedKey : Option Bytes) :
    ConnectionItems :=
  modifyBySocket (setStatus status sharedKey) socket connection

def updateConnectionPurpose (connection : ConnectionItems) (socket purpose : Nat) :
    ConnectionItems :=
  modifyBySocket (fun item => { item with purpose := purpose }) socket connection

theorem mem_modifyBySocket {f : ConnectionStatusItem → ConnectionStatusItem} {socket : Nat}
    {connection : ConnectionItems} {item : ConnectionStatusItem}
    (h : item ∈ modifyBySocket f socket connection) :
    item ∈ connection ∨ ∃ old ∈ connection, old.socket = socket ∧ item = f old := by
  induction connection with
  | nil => exact absurd h List.not_mem_nil
  | cons first rest ih =>
    unfold modifyBySocket at h
    split at h
    · rename_i hsocket
      rcases List.mem_cons.mp h with rfl | hrest
      · exact .inr ⟨first, List.mem_cons_self, hsocket, rfl⟩
      · exact .inl (List.mem_cons_of_mem first hrest)
    · rcases List.mem_cons.mp h with rfl | hrest
      · exact .inl List.mem_cons_self
      · rcases ih hrest with hold | ⟨old, hmem, hs, heq⟩
        · exact .inl (List.mem_cons_of_mem first hold)
        · exact .inr ⟨old, List.mem_cons_of_mem first hmem, hs, heq⟩

theorem mem_of_getConnBySocket {connection : ConnectionItems} {socket : Nat}
    {item : ConnectionStatusItem} (h : connection.getConnBySocket socket = some item) :
    item ∈ connection ∧ item.socket = socket := by
  refine ⟨List.mem_of_find?_eq_some h, ?_⟩
  have := List.find?_some h
  simpa using this

theorem mem_of_getConnByPurpose {connection : ConnectionItems} {purpose : Nat}
    {item : ConnectionStatusItem} (h : connection.getConnByPurpose purpose = some item) :
    item ∈ connection := by
  unfold getConnByPurpose at h
  split at h
  · rename_i found hfind
    obtain rfl := Option.some.inj h
    exact List.mem_of_find?_eq_some hfind
  · split at h
    · rename_i found hlast
      obtain rfl := Option.some.inj h
      exact (List.mem_filter.mp (List.mem_of_getLast? hlast)).1
    · exact (List.mem_filter.mp (List.mem_of_getLast? h)).1

end ConnectionItems

structure Connections where
  allConByOnionName : HashMap String ConnectionItems := ∅
  detached : List ConnectionStatusItem := []
  created : List (String × Nat) := []

namespace Connections

def getConnectionStatusItem (conns : Connections) (onionName : String) (socket : Nat) :
    Option ConnectionStatusItem :=
  (conns.allConByOnionName.get? onionName).bind (fun items => items.getConnBySocket socket)

def getConnectionStatusItemByOnionName (conns : Connections) (onionName : String)
    (purpose : Nat) : Option ConnectionStatusItem :=
  (conns.allConByOnionName.get? onionName).bind (fun items => items.getConnByPurpose purpose)

def createConnectionAsyc (conns : Connections) (onionName : String) (purpose : Nat) :
    Connections :=
  if (conns.getConnectionStatusItemByOnionName onionName purpose).isNone then
    { conns with created := conns.created ++ [(onionName, purpose)] }
  else conns

def setItems (conns : Connections) (onionName : String) (items : ConnectionItems) :
    Connections :=
  { conns with allConByOnionName := conns.allConByOnionName.put onionName items }

def addNewConnection (conns : Connections) (item : ConnectionStatusItem) : Connections :=
  let items := (conns.allConByOnionName.get? item.onionName).getD []
  conns.setItems item.onionName (items.addNewConn item)

def recreate (conns : Connections) (onionName : String) (items : ConnectionItems)
    (purpose : Nat) : Connections :=
  if (items.getConnByPurpose purpose).isNone then conns.createConnectionAsyc onionName purpose
  else if items.length = 0 then conns.createConnectionAsyc onionName purpose
  else conns

def deleteConnection (conns : Connections) (onionName : String) (socket : Nat) : Connections :=
  match conns.allConByOnionName.get? onionName with
  | none => conns
  | some items =>
      match items.getConnBySocket socket with
      | some item =>
          let rest := items.removeConnBySocket socket
          ({ conns.setItems onionName rest with detached := conns.detached ++ [item] }).recreate
            onionName rest item.purpose
      | none =>
          if items.length = 0 then
            conns.createConnectionAsyc onionName Constant.socketPurposeText
          else conns

def modifyItems (conns : Connections) (onionName : String)
    (f : ConnectionItems → ConnectionItems) : Connections :=
  match conns.allConByOnionName.get? onionName with
  | none => conns
  | some items => conns.setItems onionName (f items)

def updateStatus (conns : Connections) (onionName : String) (socket status : Nat)
    (sharedKey : Option Bytes) : Connections :=
  conns.modifyItems onionName (fun items => items.updateStatus socket status sharedKey)

def updateConnectionPurpose (conns : Connections) (onionName : String) (socket purpose : Nat) :
    Connections :=
  conns.modifyItems onionName (fun items => items.updateConnectionPurpose socket purpose)

def statusItem (conns : Connections) (onionName : String) (socket : Nat) :
    Option ConnectionStatusItem :=
  (conns.getConnectionStatusItem onionName socket).or
    (conns.detached.find? (fun item => item.onionName = onionName && item.socket = socket))

def Mem (conns : Connections) (item : ConnectionStatusItem) : Prop :=
  (∃ onionName items, conns.allConByOnionName.get? onionName = some items ∧ item ∈ items) ∨
    item ∈ conns.detached

variable {conns : Connections} {onionName : String} {socket : Nat}
  {item : ConnectionStatusItem}

theorem mem_setItems {items : ConnectionItems}
    (h : (conns.setItems onionName items).Mem item) : conns.Mem item ∨ item ∈ items := by
  rcases h with ⟨name, listed, hget, hmem⟩ | hdetached
  · simp only [setItems, HashMap.get?_put] at hget
    split at hget
    · obtain rfl := Option.some.inj hget
      exact .inr hmem
    · exact .inl (.inl ⟨name, listed, hget, hmem⟩)
  · exact .inl (.inr hdetached)

theorem mem_addNewConnection {new : ConnectionStatusItem}
    (h : (conns.addNewConnection new).Mem item) : conns.Mem item ∨ item = new := by
  rcases mem_setItems h with hold | hlisted
  · exact .inl hold
  · rcases List.mem_append.mp hlisted with hin | hnew
    · cases hget : conns.allConByOnionName.get? new.onionName with
      | none =>
        rw [hget] at hin
        exact absurd hin List.not_mem_nil
      | some items =>
        rw [hget] at hin
        exact .inl (.inl ⟨new.onionName, items, hget, hin⟩)
    · exact .inr (List.mem_singleton.mp hnew)

theorem createConnectionAsyc_mem {purpose : Nat} :
    (conns.createConnectionAsyc onionName purpose).Mem item ↔ conns.Mem item := by
  unfold createConnectionAsyc
  split <;> rfl

theorem recreate_mem {items : ConnectionItems} {purpose : Nat} :
    (conns.recreate onionName items purpose).Mem item ↔ conns.Mem item := by
  unfold recreate
  split
  · exact createConnectionAsyc_mem
  · split
    · exact createConnectionAsyc_mem
    · rfl

theorem mem_deleteConnection (h : (conns.deleteConnection onionName socket).Mem item) :
    conns.Mem item := by
  unfold deleteConnection at h
  split at h
  · exact h
  · rename_i items hget
    split at h
    · rename_i found hfound
      rw [recreate_mem] at h
      rcases h with hlisted | hdetached
      · have hset : (conns.setItems onionName (items.removeConnBySocket socket)).Mem item :=
          .inl hlisted
        rcases mem_setItems hset with hold | hrest
        · exact hold
        · exact .inl ⟨onionName, items, hget, List.mem_of_mem_eraseP hrest⟩
      · rcases List.mem_append.mp hdetached with hold | hnew
        · exact .inr hold
        · rw [List.mem_singleton] at hnew
          subst hnew
          exact .inl ⟨onionName, items, hget, (ConnectionItems.mem_of_getConnBySocket hfound).1⟩
    · split at h
      · exact createConnectionAsyc_mem.mp h
      · exact h

theorem mem_modifyBySocket {f : ConnectionStatusItem → ConnectionStatusItem}
    (h : (conns.modifyItems onionName (ConnectionItems.modifyBySocket f socket)).Mem item) :
    conns.Mem item ∨ ∃ old, conns.Mem old ∧ old.socket = socket ∧ item = f old := by
  unfold modifyItems at h
  split at h
  · exact .inl h
  · rename_i items hget
    rcases mem_setItems h with hold | hlisted
    · exact .inl hold
    · rcases ConnectionItems.mem_modifyBySocket hlisted with hin | ⟨old, hin, hs, heq⟩
      · exact .inl (.inl ⟨onionName, items, hget, hin⟩)
      · exact .inr ⟨old, .inl ⟨onionName, items, hget, hin⟩, hs, heq⟩

theorem mem_updateStatus {status : Nat} {sharedKey : Option Bytes}
    (h : (conns.updateStatus onionName socket status sharedKey).Mem item) :
    conns.Mem item ∨ ∃ old, conns.Mem old ∧ old.socket = socket ∧
      item = ConnectionItems.setStatus status sharedKey old :=
  mem_modifyBySocket h

theorem mem_updateConnectionPurpose {purpose : Nat}
    (h : (conns.updateConnectionPurpose onionName socket purpose).Mem item) :
    conns.Mem item ∨ ∃ old, conns.Mem old ∧ old.socket = socket ∧
      item = { old with purpose := purpose } :=
  mem_modifyBySocket h

theorem mem_of_getConnectionStatusItem
    (h : conns.getConnectionStatusItem onionName socket = some item) :
    conns.Mem item ∧ item.socket = socket := by
  obtain ⟨items, hget, hfind⟩ := Option.bind_eq_some_iff.mp h
  have hmem := ConnectionItems.mem_of_getConnBySocket hfind
  exact ⟨.inl ⟨onionName, items, hget, hmem.1⟩, hmem.2⟩

theorem mem_of_getConnectionStatusItemByOnionName {purpose : Nat}
    (h : conns.getConnectionStatusItemByOnionName onionName purpose = some item) :
    conns.Mem item := by
  obtain ⟨items, hget, hfind⟩ := Option.bind_eq_some_iff.mp h
  exact .inl ⟨onionName, items, hget, ConnectionItems.mem_of_getConnByPurpose hfind⟩

end Connections

end TorChat
