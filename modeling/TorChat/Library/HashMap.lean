import Mathlib.Data.List.AList

namespace TorChat.Library

abbrev HashMap (K V : Type) [DecidableEq K] := AList (fun _ : K => V)

namespace HashMap

variable {K V : Type} [DecidableEq K]

def get? (m : HashMap K V) (k : K) : Option V := m.lookup k

def put (m : HashMap K V) (k : K) (v : V) : HashMap K V := m.insert k v

def remove (m : HashMap K V) (k : K) : HashMap K V := m.erase k

def size (m : HashMap K V) : Nat := m.keys.length

def values (m : HashMap K V) : List V := m.entries.map (fun e => e.2)

def map (f : V → V) (m : HashMap K V) : HashMap K V :=
  ⟨m.entries.map (fun e => ⟨e.1, f e.2⟩), by
    simpa [List.NodupKeys, List.keys, List.map_map, Function.comp_def] using m.nodupKeys⟩

@[simp] theorem get?_empty (k : K) : get? (∅ : HashMap K V) k = none := rfl

@[simp] theorem get?_put_self (m : HashMap K V) (k : K) (v : V) : (m.put k v).get? k = some v :=
  AList.lookup_insert m

theorem get?_put_ne (m : HashMap K V) {k j : K} (v : V) (h : j ≠ k) :
    (m.put k v).get? j = m.get? j := AList.lookup_insert_ne h

theorem get?_put (m : HashMap K V) (k j : K) (v : V) :
    (m.put k v).get? j = if j = k then some v else m.get? j := by
  split
  · subst j; exact get?_put_self m k v
  · rename_i h; exact get?_put_ne m v h

@[simp] theorem get?_remove_self (m : HashMap K V) (k : K) : (m.remove k).get? k = none :=
  AList.lookup_erase k m

theorem get?_remove_ne (m : HashMap K V) {k j : K} (h : j ≠ k) :
    (m.remove k).get? j = m.get? j := AList.lookup_erase_ne h

theorem get?_remove (m : HashMap K V) (k j : K) :
    (m.remove k).get? j = if j = k then none else m.get? j := by
  split
  · subst j; exact get?_remove_self m k
  · rename_i h; exact get?_remove_ne m h

theorem get?_eq_some_iff {m : HashMap K V} {k : K} {v : V} :
    m.get? k = some v ↔ (⟨k, v⟩ : Sigma fun _ : K => V) ∈ m.entries := AList.mem_lookup_iff

theorem mem_values {m : HashMap K V} {v : V} : v ∈ m.values ↔ ∃ k, m.get? k = some v := by
  constructor
  · intro h
    obtain ⟨⟨k, w⟩, hm, rfl⟩ := List.mem_map.mp h
    exact ⟨k, get?_eq_some_iff.mpr hm⟩
  · rintro ⟨k, hk⟩
    exact List.mem_map.mpr ⟨⟨k, v⟩, get?_eq_some_iff.mp hk, rfl⟩

theorem get?_map (f : V → V) (m : HashMap K V) (k : K) : (m.map f).get? k = (m.get? k).map f := by
  apply Option.ext
  intro w
  rw [Option.map_eq_some_iff, get?_eq_some_iff]
  simp only [map, List.mem_map]
  constructor
  · rintro ⟨⟨j, v⟩, hm, heq⟩
    obtain ⟨rfl, rfl⟩ := Sigma.mk.inj heq |>.imp id eq_of_heq
    exact ⟨v, get?_eq_some_iff.mpr hm, rfl⟩
  · rintro ⟨v, hv, rfl⟩
    exact ⟨⟨k, v⟩, get?_eq_some_iff.mp hv, rfl⟩

theorem values_put (m : HashMap K V) (k : K) (v : V) :
    (m.put k v).values = v :: (m.remove k).values := by
  rw [values, put, AList.entries_insert]
  rfl

theorem values_map (f : V → V) (m : HashMap K V) : (m.map f).values = m.values.map f := by
  simp only [values, map, List.map_map, Function.comp_def]

end HashMap

end TorChat.Library
