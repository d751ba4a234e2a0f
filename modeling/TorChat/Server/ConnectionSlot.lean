import TorChat.Server.ConnectionEffects

namespace TorChat

open Library (Bytes HashMap Machine)

namespace ConnectionItems

def atSocket (connection : ConnectionItems) (socket : Nat) : ConnectionItems :=
  connection.filter (fun item => item.socket = socket)

theorem atSocket_modifyBySocket {f : ConnectionStatusItem → ConnectionStatusItem}
    (hf : ∀ item, (f item).socket = item.socket) (connection : ConnectionItems)
    (s socket : Nat) : (modifyBySocket f s connection).atSocket socket =
      if s = socket then (connection.atSocket socket).modifyHead f
      else connection.atSocket socket := by
  induction connection with
  | nil => split <;> rfl
  | cons item rest ih =>
    rw [atSocket] at ih
    rw [modifyBySocket, atSocket, atSocket]
    by_cases hitem : item.socket = s
    · subst hitem
      rw [if_pos rfl]
      by_cases hs : item.socket = socket
      · rw [if_pos hs, List.filter_cons_of_pos (by simpa [hf] using hs),
          List.filter_cons_of_pos (by simpa using hs)]
        rfl
      · rw [if_neg hs, List.filter_cons_of_neg (by simpa [hf] using hs),
          List.filter_cons_of_neg (by simpa using hs)]
    · rw [if_neg hitem]
      by_cases hs : item.socket = socket
      · have hne : ¬ s = socket := fun h => hitem (hs.trans h.symm)
        rw [if_neg hne] at ih ⊢
        rw [List.filter_cons_of_pos (by simpa using hs), ih,
          List.filter_cons_of_pos (by simpa using hs)]
        rfl
      · rw [List.filter_cons_of_neg (by simpa using hs), ih,
          List.filter_cons_of_neg (by simpa using hs)]
        rfl

theorem atSocket_removeConnBySocket (connection : ConnectionItems) (s socket : Nat) :
    (connection.removeConnBySocket s).atSocket socket =
      if s = socket then (connection.atSocket socket).tail else connection.atSocket socket := by
  induction connection with
  | nil => split <;> rfl
  | cons item rest ih =>
    rw [atSocket, removeConnBySocket] at ih
    rw [removeConnBySocket, atSocket, atSocket]
    by_cases hitem : item.socket = s
    · subst hitem
      rw [List.eraseP_cons_of_pos (by simp)]
      by_cases hs : item.socket = socket
      · rw [if_pos hs, List.filter_cons_of_pos (by simpa using hs)]
        rfl
      · rw [if_neg hs, List.filter_cons_of_neg (by simpa using hs)]
    · rw [List.eraseP_cons_of_neg (by simpa using hitem)]
      by_cases hs : item.socket = socket
      · have hne : ¬ s = socket := fun h => hitem (hs.trans h.symm)
        rw [if_neg hne] at ih ⊢
        rw [List.filter_cons_of_pos (by simpa using hs), ih,
          List.filter_cons_of_pos (by simpa using hs)]
        rfl
      · rw [List.filter_cons_of_neg (by simpa using hs), ih,
          List.filter_cons_of_neg (by simpa using hs)]
        rfl

end ConnectionItems

namespace Connections

def slot (conns : Connections) (onionName : String) (socket : Nat) : ConnectionItems :=
  ((conns.allConByOnionName.get? onionName).getD []).atSocket socket

variable (onionName : String) (socket : Nat)

theorem getConnectionStatusItem_eq_head? (conns : Connections) :
    conns.getConnectionStatusItem onionName socket = (conns.slot onionName socket).head? := by
  rw [getConnectionStatusItem, slot, ConnectionItems.atSocket]
  cases conns.allConByOnionName.get? onionName with
  | none => rfl
  | some items => exact List.head?_filter.symm

theorem slot_setItems (conns : Connections) (name : String) (items : ConnectionItems) :
    (conns.setItems name items).slot onionName socket =
      if onionName = name then items.atSocket socket else conns.slot onionName socket := by
  rw [slot, setItems]
  simp only [HashMap.get?_put]
  split
  · rfl
  · rfl

theorem slot_createConnectionAsyc (conns : Connections) (name : String) (purpose : Nat) :
    (conns.createConnectionAsyc name purpose).slot onionName socket =
      conns.slot onionName socket := by
  rw [createConnectionAsyc]
  split <;> rfl

theorem slot_recreate (conns : Connections) (name : String) (items : ConnectionItems)
    (purpose : Nat) : (conns.recreate name items purpose).slot onionName socket =
      conns.slot onionName socket := by
  rw [recreate]
  split
  · exact slot_createConnectionAsyc onionName socket conns name purpose
  · split
    · exact slot_createConnectionAsyc onionName socket conns name purpose
    · rfl

theorem slot_addNewConnection (conns : Connections) {item : ConnectionStatusItem}
    (h : ¬ (item.onionName = onionName ∧ item.socket = socket)) :
    (conns.addNewConnection item).slot onionName socket = conns.slot onionName socket := by
  rw [addNewConnection, slot_setItems]
  split
  · rename_i hname
    have hsocket : ¬ item.socket = socket := fun hs => h ⟨hname.symm, hs⟩
    rw [ConnectionItems.atSocket, ConnectionItems.addNewConn, List.filter_append,
      List.filter_cons_of_neg (by simpa using hsocket), List.filter_nil, List.append_nil, slot,
      hname, ConnectionItems.atSocket]
  · rfl

theorem slot_deleteConnection (conns : Connections) (name : String) (s : Nat) :
    (conns.deleteConnection name s).slot onionName socket =
      if name = onionName ∧ s = socket then (conns.slot onionName socket).tail
      else conns.slot onionName socket := by
  rw [deleteConnection]
  cases hget : conns.allConByOnionName.get? name with
  | none =>
    dsimp only
    split
    · rename_i h
      rw [slot, ← h.1, hget]
      rfl
    · rfl
  | some items =>
    dsimp only
    cases hfind : items.getConnBySocket s with
    | none =>
      have hsame : (if items.length = 0 then
          conns.createConnectionAsyc name Constant.socketPurposeText else conns).slot onionName
            socket = conns.slot onionName socket := by
        split
        · exact slot_createConnectionAsyc onionName socket conns name _
        · rfl
      dsimp only
      rw [hsame]
      split
      · rename_i h
        obtain ⟨rfl, rfl⟩ := h
        have hnil : conns.slot name s = [] := by
          rw [← List.head?_eq_none_iff, ← getConnectionStatusItem_eq_head?,
            getConnectionStatusItem, hget, Option.bind_some, hfind]
        rw [hnil]
        rfl
      · rfl
    | some item =>
      have hset := slot_setItems onionName socket conns name (items.removeConnBySocket s)
      dsimp only
      rw [slot_recreate]
      refine hset.trans ?_
      rw [ConnectionItems.atSocket_removeConnBySocket]
      by_cases hname : onionName = name
      · subst hname
        rw [if_pos rfl, slot, hget, Option.getD_some]
        by_cases hs : s = socket
        · rw [if_pos hs, if_pos ⟨rfl, hs⟩]
        · rw [if_neg hs, if_neg (fun h => hs h.2)]
      · rw [if_neg hname, if_neg (fun h => hname h.1.symm)]

theorem slot_modifyBySocket {f : ConnectionStatusItem → ConnectionStatusItem}
    (hf : ∀ item, (f item).socket = item.socket) (conns : Connections) (name : String) (s : Nat) :
    (conns.modifyItems name (ConnectionItems.modifyBySocket f s)).slot onionName socket =
      if name = onionName ∧ s = socket then (conns.slot onionName socket).modifyHead f
      else conns.slot onionName socket := by
  rw [modifyItems]
  cases hget : conns.allConByOnionName.get? name with
  | none =>
    dsimp only
    split
    · rename_i h
      rw [slot, ← h.1, hget]
      rfl
    · rfl
  | some items =>
    dsimp only
    rw [slot_setItems, ConnectionItems.atSocket_modifyBySocket hf]
    by_cases hname : onionName = name
    · subst hname
      rw [if_pos rfl, slot, hget, Option.getD_some]
      by_cases hs : s = socket
      · rw [if_pos hs, if_pos ⟨rfl, hs⟩]
      · rw [if_neg hs, if_neg (fun h => hs h.2)]
    · rw [if_neg hname, if_neg (fun h => hname h.1.symm)]

-- what a step that leaves the status alone can do to the only entry of a slot
def Fades (items items' : ConnectionItems) : Prop :=
  items' = [] ∨ ∃ item purpose, items = [item] ∧ items' = [{ item with purpose := purpose }]

theorem fades_refl {items : ConnectionItems} (h : items.length ≤ 1) : Fades items items := by
  cases items with
  | nil => exact .inl rfl
  | cons item rest =>
    have hrest : rest = [] := List.length_eq_zero_iff.mp (by simpa using h)
    subst hrest
    exact .inr ⟨item, item.purpose, rfl, rfl⟩

theorem fades_tail {items items' : ConnectionItems} (h : Fades items items') :
    Fades items items'.tail := by
  rcases h with hnil | ⟨item, purpose, -, hone⟩
  · rw [hnil]
    exact .inl rfl
  · rw [hone]
    exact .inl rfl

theorem fades_purpose {items items' : ConnectionItems} (h : Fades items items') (purpose : Nat) :
    Fades items (items'.modifyHead (fun item => { item with purpose := purpose })) := by
  rcases h with hnil | ⟨item, old, hitems, hone⟩
  · rw [hnil]
    exact .inl rfl
  · rw [hone]
    exact .inr ⟨item, purpose, hitems, rfl⟩

theorem slot_within {who : Option (String × Nat)} {conns conns' : Connections}
    (hwho : who ≠ some (onionName, socket)) (hone : (conns.slot onionName socket).length ≤ 1)
    (h : connMachine.Reaches (ConnOp.Within who) conns conns') :
    Fades (conns.slot onionName socket) (conns'.slot onionName socket) := by
  refine Machine.reaches_invariant
    (I := fun c => Fades (conns.slot onionName socket) (c.slot onionName socket)) ?_ h
    (fades_refl hone)
  intro c op hfades hop
  cases op with
  | add item => exact absurd hop id
  | delete name s =>
    simp only [connMachine, step, slot_deleteConnection]
    split
    · exact fades_tail hfades
    · exact hfades
  | status name s status sharedKey =>
    have hother : ¬ (name = onionName ∧ s = socket) := by
      rintro ⟨rfl, rfl⟩
      exact hwho hop
    simp only [connMachine, step, updateStatus, ConnectionItems.updateStatus,
      slot_modifyBySocket onionName socket (f := ConnectionItems.setStatus status sharedKey)
        (fun _ => rfl), if_neg hother]
    exact hfades
  | purpose name s purpose =>
    simp only [connMachine, step, updateConnectionPurpose,
      ConnectionItems.updateConnectionPurpose, slot_modifyBySocket onionName socket
        (f := fun item => { item with purpose := purpose }) (fun _ => rfl)]
    split
    · exact fades_purpose hfades purpose
    · exact hfades
  | create name purpose =>
    simp only [connMachine, step, slot_createConnectionAsyc]
    exact hfades

theorem slot_nil_within {who : Option (String × Nat)} {conns conns' : Connections}
    (hnil : conns.slot onionName socket = [])
    (h : connMachine.Reaches (ConnOp.Within who) conns conns') :
    conns'.slot onionName socket = [] := by
  refine Machine.reaches_invariant (I := fun c => c.slot onionName socket = []) ?_ h hnil
  intro c op hc hop
  cases op with
  | add item => exact absurd hop id
  | delete name s => simp [connMachine, step, slot_deleteConnection, hc]
  | status name s status sharedKey =>
    simp [connMachine, step, updateStatus, ConnectionItems.updateStatus,
      slot_modifyBySocket onionName socket (f := ConnectionItems.setStatus status sharedKey)
        (fun _ => rfl), hc]
  | purpose name s purpose =>
    simp [connMachine, step, updateConnectionPurpose, ConnectionItems.updateConnectionPurpose,
      slot_modifyBySocket onionName socket (f := fun item => { item with purpose := purpose })
        (fun _ => rfl), hc]
  | create name purpose => simp [connMachine, step, slot_createConnectionAsyc, hc]

theorem socket_of_slot {conns : Connections} {item : ConnectionStatusItem}
    (h : conns.slot onionName socket = [item]) : item.socket = socket := by
  have hmem : item ∈ conns.slot onionName socket := by
    rw [h]
    exact List.mem_singleton_self item
  simpa using (List.mem_filter.mp hmem).2

theorem slot_updateStatus (conns : Connections) (status : Nat) (sharedKey : Option Bytes) :
    (conns.updateStatus onionName socket status sharedKey).slot onionName socket =
      (conns.slot onionName socket).modifyHead (ConnectionItems.setStatus status sharedKey) := by
  rw [updateStatus]
  refine (slot_modifyBySocket onionName socket
    (f := ConnectionItems.setStatus status sharedKey) (fun _ => rfl) conns _ _).trans ?_
  exact if_pos ⟨rfl, rfl⟩

theorem statusItem_of_slot {conns : Connections} {item : ConnectionStatusItem}
    (h : conns.slot onionName socket = [item]) :
    conns.statusItem onionName socket = some item := by
  rw [statusItem, getConnectionStatusItem_eq_head?, h]
  rfl

end Connections

end TorChat
