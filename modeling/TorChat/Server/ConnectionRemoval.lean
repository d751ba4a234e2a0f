import TorChat.Server.ConnectionChoice

namespace TorChat

open Library (HashMap)

namespace Connections

variable {conns : Connections} {onionName : String} {purpose : Nat} {items : ConnectionItems}

-- one more reconnection thread for the peer than before
def Recreated (conns conns' : Connections) (onionName : String) : Prop :=
  ∃ purpose, conns'.created = conns.created ++ [(onionName, purpose)]

theorem createConnectionAsyc_table (conns : Connections) (onionName : String) (purpose : Nat) :
    (conns.createConnectionAsyc onionName purpose).allConByOnionName = conns.allConByOnionName := by
  unfold createConnectionAsyc
  split <;> rfl

theorem createConnectionAsyc_created (conns : Connections) (onionName : String) (purpose : Nat) :
    (conns.createConnectionAsyc onionName purpose).created = conns.created ∨
      conns.Recreated (conns.createConnectionAsyc onionName purpose) onionName := by
  unfold createConnectionAsyc
  split
  · exact .inr ⟨purpose, rfl⟩
  · exact .inl rfl

theorem getConnByPurpose_nil (purpose : Nat) :
    ConnectionItems.getConnByPurpose [] purpose = none := rfl

theorem createConnectionAsyc_of_nil (hget : conns.allConByOnionName.get? onionName = some [])
    (purpose : Nat) :
    conns.Recreated (conns.createConnectionAsyc onionName purpose) onionName := by
  have hnone : conns.getConnectionStatusItemByOnionName onionName purpose = none := by
    rw [getConnectionStatusItemByOnionName, hget]
    exact getConnByPurpose_nil purpose
  refine ⟨purpose, ?_⟩
  rw [createConnectionAsyc, hnone]
  rfl

theorem recreate_table (conns : Connections) (onionName : String) (items : ConnectionItems)
    (purpose : Nat) :
    (conns.recreate onionName items purpose).allConByOnionName = conns.allConByOnionName := by
  unfold recreate
  split
  · exact createConnectionAsyc_table ..
  · split
    · exact createConnectionAsyc_table ..
    · rfl

theorem recreate_created (conns : Connections) (onionName : String) (items : ConnectionItems)
    (purpose : Nat) :
    (conns.recreate onionName items purpose).created = conns.created ∨
      conns.Recreated (conns.recreate onionName items purpose) onionName := by
  unfold recreate
  split
  · exact createConnectionAsyc_created ..
  · split
    · exact createConnectionAsyc_created ..
    · exact .inl rfl

theorem recreate_of_nil (hget : conns.allConByOnionName.get? onionName = some []) (purpose : Nat) :
    conns.Recreated (conns.recreate onionName [] purpose) onionName := by
  rw [recreate, getConnByPurpose_nil]
  exact createConnectionAsyc_of_nil hget purpose

structure Removal (conns conns' : Connections) (onionName : String) (socket : Nat) : Prop where
  others : ∀ name ≠ onionName,
    conns'.allConByOnionName.get? name = conns.allConByOnionName.get? name
  unknown : conns.allConByOnionName.get? onionName = none →
    conns'.allConByOnionName.get? onionName = none
  one_entry : ∀ items, conns.allConByOnionName.get? onionName = some items →
    (conns'.allConByOnionName.get? onionName = some items ∧
        ∀ item ∈ items, item.socket ≠ socket) ∨
      ∃ before item after, items = before ++ item :: after ∧ item.socket = socket ∧
        conns'.allConByOnionName.get? onionName = some (before ++ after)
  one_thread : conns'.created = conns.created ∨ conns.Recreated conns' onionName
  thread_if_empty : conns'.allConByOnionName.get? onionName = some [] →
    conns.Recreated conns' onionName

theorem removal_of_kept {conns' : Connections} {socket : Nat}
    (hget : conns.allConByOnionName.get? onionName = some items)
    (htable : conns'.allConByOnionName = conns.allConByOnionName)
    (hkept : ∀ item ∈ items, item.socket ≠ socket)
    (hcreated : conns'.created = conns.created ∨ conns.Recreated conns' onionName)
    (hempty : items = [] → conns.Recreated conns' onionName) :
    conns.Removal conns' onionName socket := by
  refine ⟨fun name _ => by rw [htable], fun h => by rw [htable, h], fun listed h => ?_,
    hcreated, fun h => hempty ?_⟩
  · rw [hget] at h
    cases h
    rw [htable]
    exact .inl ⟨hget, hkept⟩
  · rw [htable, hget] at h
    exact Option.some.inj h

theorem removal_of_removed {conns' : Connections} {before after : ConnectionItems}
    {item : ConnectionStatusItem}
    (hget : conns.allConByOnionName.get? onionName = some (before ++ item :: after))
    (htable : conns'.allConByOnionName =
      conns.allConByOnionName.put onionName (before ++ after))
    (hcreated : conns'.created = conns.created ∨ conns.Recreated conns' onionName)
    (hempty : before ++ after = [] → conns.Recreated conns' onionName) :
    conns.Removal conns' onionName item.socket := by
  have hself : conns'.allConByOnionName.get? onionName = some (before ++ after) := by
    rw [htable, HashMap.get?_put_self]
  refine ⟨fun name hname => ?_, fun h => ?_, fun items h => .inr ?_, hcreated, fun h => ?_⟩
  · rw [htable, HashMap.get?_put_ne _ _ hname]
  · rw [hget] at h
    cases h
  · rw [hget] at h
    cases h
    exact ⟨before, item, after, rfl, rfl, hself⟩
  · rw [hself] at h
    exact hempty (Option.some.inj h)

theorem removal_of_absent {socket : Nat}
    (hget : conns.allConByOnionName.get? onionName = some items)
    (hfind : items.getConnBySocket socket = none) :
    conns.Removal (if items.length = 0 then
      conns.createConnectionAsyc onionName Constant.socketPurposeText else conns)
      onionName socket := by
  have hkept : ∀ item ∈ items, item.socket ≠ socket := by
    intro item hitem heq
    exact absurd (decide_eq_true heq) (List.find?_eq_none.mp hfind item hitem)
  by_cases hlength : items.length = 0
  · have hnil : items = [] := List.eq_nil_of_length_eq_zero hlength
    rw [if_pos hlength]
    refine removal_of_kept hget (createConnectionAsyc_table ..) hkept
      (createConnectionAsyc_created ..) (fun _ => ?_)
    exact createConnectionAsyc_of_nil (hnil ▸ hget) _
  · rw [if_neg hlength]
    refine removal_of_kept hget rfl hkept (.inl rfl) (fun hnil => ?_)
    rw [hnil] at hlength
    exact absurd rfl hlength

theorem deleteConnection_removal (conns : Connections) (onionName : String) (socket : Nat) :
    conns.Removal (conns.deleteConnection onionName socket) onionName socket := by
  rw [deleteConnection]
  cases hget : conns.allConByOnionName.get? onionName with
  | none =>
    refine ⟨fun _ _ => rfl, fun _ => hget, fun items h => ?_, .inl rfl, fun h => ?_⟩
    · rw [hget] at h
      cases h
    · rw [hget] at h
      cases h
  | some items =>
    dsimp only
    cases hfind : items.getConnBySocket socket with
    | none => exact removal_of_absent hget hfind
    | some item =>
      obtain ⟨hsocket, before, after, rfl, herase, _⟩ := ConnectionItems.eraseP_of_find? hfind
      obtain rfl : item.socket = socket := of_decide_eq_true hsocket
      have hrest : ConnectionItems.removeConnBySocket (before ++ item :: after) item.socket =
          before ++ after := herase
      dsimp only
      rw [hrest]
      refine removal_of_removed hget (recreate_table ..) (recreate_created ..) (fun hnil => ?_)
      rw [hnil]
      exact recreate_of_nil (HashMap.get?_put_self ..) item.purpose

end Connections

end TorChat
