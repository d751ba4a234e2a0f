import Mathlib.Data.List.Basic
import Mathlib.Data.List.Infix
import Mathlib.Data.List.Nodup
import Mathlib.Data.List.TakeDrop
import TorChat.Library.Path

namespace TorChat.Library

open Library.Path (StrictlyInside strictlyInside_of_dropLast)

inductive Entry (C : Type) where
  | folder
  | file (content : C)
  deriving DecidableEq, Repr

-- the entries of a file system without links, each under the folder that holds it
structure FileTree (N C : Type) where
  entries : List (List N × Entry C)
  nodup : (entries.map Prod.fst).Nodup
  closed : ∀ e ∈ entries, e.1 ≠ [] → (e.1.dropLast, Entry.folder) ∈ entries

namespace FileTree

variable {N C : Type} [DecidableEq N]

def node (tree : FileTree N C) (path : List N) : Option (Entry C) :=
  (tree.entries.find? (fun e => e.1 = path)).map Prod.snd

def isFolder (tree : FileTree N C) (path : List N) : Bool :=
  match tree.node path with
  | some .folder => true
  | _ => false

def isFile (tree : FileTree N C) (path : List N) : Bool :=
  match tree.node path with
  | some (.file _) => true
  | _ => false

def childName (path : List N) (e : List N × Entry C) : Option N :=
  if e.1.dropLast = path then e.1.getLast? else none

def children (tree : FileTree N C) (path : List N) : List N :=
  tree.entries.filterMap (childName path)

variable {tree : FileTree N C} {path : List N} {name : N} {entry : Entry C}

theorem node_eq_some : tree.node path = some entry ↔ (path, entry) ∈ tree.entries := by
  rw [node, Option.map_eq_some_iff]
  constructor
  · rintro ⟨e, hfind, rfl⟩
    have hpath : e.1 = path := by simpa using List.find?_some hfind
    rw [← hpath]
    exact List.mem_of_find?_eq_some hfind
  · intro hmem
    obtain ⟨e, hfind⟩ : ∃ e, tree.entries.find? (fun e => e.1 = path) = some e := by
      rw [← Option.isSome_iff_exists, List.find?_isSome]
      exact ⟨_, hmem, decide_eq_true rfl⟩
    have hpath : e.1 = path := by simpa using List.find?_some hfind
    have hsame := List.inj_on_of_nodup_map tree.nodup (List.mem_of_find?_eq_some hfind) hmem hpath
    exact ⟨e, hfind, congrArg Prod.snd hsame⟩

theorem node_eq_none : tree.node path = none ↔ ∀ e ∈ tree.entries, e.1 ≠ path := by
  rw [node, Option.map_eq_none_iff, List.find?_eq_none]
  simp

theorem isFolder_iff : tree.isFolder path = true ↔ tree.node path = some .folder := by
  rw [isFolder]
  split
  · rename_i hnode
    exact iff_of_true rfl hnode
  · rename_i hnode
    exact iff_of_false Bool.false_ne_true hnode

theorem childName_eq_some {e : List N × Entry C} :
    childName path e = some name ↔ e.1 = path ++ [name] := by
  rw [childName]
  constructor
  · intro h
    split at h
    · rename_i hparent
      rw [← hparent]
      exact (List.dropLast_append_getLast? name h).symm
    · cases h
  · intro h
    rw [h, List.dropLast_concat, if_pos rfl, List.getLast?_concat]

theorem mem_children : name ∈ tree.children path ↔ tree.node (path ++ [name]) ≠ none := by
  rw [children, List.mem_filterMap, ne_eq, node_eq_none]
  simp only [childName_eq_some, not_forall, not_not, exists_prop]

-- everything on the way down to an entry is a folder
theorem folder_above {below : List N} (hne : below ≠ [])
    (h : tree.node (path ++ below) ≠ none) : tree.node path = some .folder := by
  induction below using List.reverseRecOn with
  | nil => exact absurd rfl hne
  | append_singleton below last ih =>
    obtain ⟨entry, hentry⟩ := Option.ne_none_iff_exists'.mp h
    have hparent := tree.closed _ (node_eq_some.mp hentry) (by simp)
    rw [← List.append_assoc, List.dropLast_concat] at hparent
    have hfolder := node_eq_some.mpr hparent
    by_cases hbelow : below = []
    · rwa [hbelow, List.append_nil] at hfolder
    · refine ih hbelow ?_
      rw [hfolder]
      exact Option.some_ne_none _

section Insert

def insert (tree : FileTree N C) (path : List N) (entry : Entry C) : Option (FileTree N C) :=
  if h : tree.node path = none ∧ (path = [] ∨ tree.isFolder path.dropLast = true) then
    some
      { entries := tree.entries ++ [(path, entry)]
        nodup := by
          rw [List.map_append, List.map_singleton, List.nodup_append]
          refine ⟨tree.nodup, List.nodup_singleton _, ?_⟩
          rintro a ha b hb rfl
          obtain ⟨e, he, hpath⟩ := List.mem_map.mp ha
          rw [List.mem_singleton.mp hb] at hpath
          exact node_eq_none.mp h.1 e he hpath
        closed := by
          intro e he hne
          rcases List.mem_append.mp he with hold | hnew
          · exact List.mem_append_left _ (tree.closed e hold hne)
          · rw [List.mem_singleton.mp hnew] at hne ⊢
            exact List.mem_append_left _
              (node_eq_some.mp (isFolder_iff.mp (h.2.resolve_left hne))) }
  else none

theorem insert_entries {tree' : FileTree N C} (h : tree.insert path entry = some tree') :
    tree'.entries = tree.entries ++ [(path, entry)] := by
  rw [insert] at h
  split at h
  · rw [← Option.some.inj h]
  · cases h

theorem insert_isSome_iff : (tree.insert path entry).isSome ↔
    tree.node path = none ∧ (path = [] ∨ tree.isFolder path.dropLast = true) := by
  rw [insert]
  split
  · rename_i h
    exact iff_of_true rfl h
  · rename_i h
    exact iff_of_false Bool.false_ne_true h

variable {tree' : FileTree N C} {other : List N}

theorem node_insert (h : tree.insert path entry = some tree') :
    tree'.node other = if other = path then some entry else tree.node other := by
  have hentries := insert_entries h
  have hnew : tree.node path = none :=
    (insert_isSome_iff.mp (Option.isSome_iff_exists.mpr ⟨tree', h⟩)).1
  split
  · rename_i heq
    rw [node_eq_some, hentries, heq]
    exact List.mem_append_right _ (List.mem_singleton_self _)
  · rename_i hne
    have hlast : ([(path, entry)] : List (List N × Entry C)).find? (fun e => e.1 = other) = none := by
      simpa using fun heq => hne heq.symm
    rw [node, hentries, List.find?_append, hlast, Option.or_none]
    rfl

theorem children_insert (h : tree.insert path entry = some tree') :
    tree'.children other = tree.children other ++ (childName other (path, entry)).toList := by
  rw [children, insert_entries h, List.filterMap_append, children, List.filterMap_cons,
    List.filterMap_nil]
  cases childName other (path, entry) with
  | none => rfl
  | some name => rfl

end Insert

section Erase

-- a folder that still holds something is not removed
def erase (tree : FileTree N C) (path : List N) : Option (FileTree N C) :=
  if h : tree.node path ≠ none ∧ tree.children path = [] then
    some
      { entries := tree.entries.filter (fun e => e.1 ≠ path)
        nodup := (List.filter_sublist.map Prod.fst).nodup tree.nodup
        closed := by
          intro e he hne
          obtain ⟨hmem, _⟩ := List.mem_filter.mp he
          refine List.mem_filter.mpr ⟨tree.closed e hmem hne, ?_⟩
          rw [decide_eq_true_eq]
          intro hparent
          have hchild : e.1.getLast hne ∈ tree.children path := by
            rw [mem_children, ← hparent, List.dropLast_concat_getLast]
            rw [node_eq_some.mpr (show (e.1, e.2) ∈ tree.entries from hmem)]
            exact Option.some_ne_none _
          rw [h.2] at hchild
          exact List.not_mem_nil hchild }
  else none

theorem erase_entries {tree' : FileTree N C} (h : tree.erase path = some tree') :
    tree'.entries = tree.entries.filter (fun e => e.1 ≠ path) := by
  rw [erase] at h
  split at h
  · rw [← Option.some.inj h]
  · cases h

theorem erase_isSome_iff :
    (tree.erase path).isSome ↔ tree.node path ≠ none ∧ tree.children path = [] := by
  rw [erase]
  split
  · rename_i h
    exact iff_of_true rfl h
  · rename_i h
    exact iff_of_false Bool.false_ne_true h

theorem node_erase {tree' : FileTree N C} (h : tree.erase path = some tree') (other : List N) :
    tree'.node other = if other = path then none else tree.node other := by
  split
  · rename_i heq
    rw [node_eq_none, erase_entries h, heq]
    intro e he
    exact of_decide_eq_true (List.mem_filter.mp he).2
  · rename_i hne
    refine Option.ext (fun entry => ?_)
    rw [node_eq_some, node_eq_some, erase_entries h, List.mem_filter]
    exact and_iff_left (decide_eq_true hne)

end Erase

section Clear

-- the folder itself stays
def clear (tree : FileTree N C) (folder : List N) : FileTree N C where
  entries := tree.entries.filter (fun e => ¬ StrictlyInside folder e.1)
  nodup := (List.filter_sublist.map Prod.fst).nodup tree.nodup
  closed := by
    intro e he hne
    obtain ⟨hmem, houtside⟩ := List.mem_filter.mp he
    refine List.mem_filter.mpr ⟨tree.closed e hmem hne, ?_⟩
    rw [decide_eq_true_eq] at houtside ⊢
    exact fun hparent => houtside (strictlyInside_of_dropLast hparent)

theorem node_clear (tree : FileTree N C) (folder path : List N) :
    (tree.clear folder).node path =
      if StrictlyInside folder path then none else tree.node path := by
  split
  · rename_i hinside
    rw [node_eq_none]
    intro e he heq
    have houtside := of_decide_eq_true (List.mem_filter.mp he).2
    exact houtside (heq ▸ hinside)
  · rename_i houtside
    refine Option.ext (fun entry => ?_)
    rw [node_eq_some, node_eq_some, clear, List.mem_filter]
    exact and_iff_left (decide_eq_true houtside)

end Clear

section Depth

def depth (tree : FileTree N C) : Nat := (tree.entries.map (fun e => e.1.length)).foldr max 0

theorem length_le_depth (h : tree.node path ≠ none) : path.length ≤ tree.depth := by
  obtain ⟨entry, hentry⟩ := Option.ne_none_iff_exists'.mp h
  have hmem := node_eq_some.mp hentry
  rw [depth]
  generalize tree.entries = entries at hmem
  induction entries with
  | nil => cases hmem
  | cons e es ih =>
    rw [List.map_cons, List.foldr_cons]
    rcases List.mem_cons.mp hmem with rfl | hrest
    · exact Nat.le_max_left _ _
    · exact Nat.le_trans (ih hrest) (Nat.le_max_right _ _)

-- a file has nothing below it
theorem children_of_not_folder (h : tree.isFolder path = false) : tree.children path = [] := by
  rw [List.eq_nil_iff_forall_not_mem]
  intro name hname
  have hfolder := folder_above (List.cons_ne_nil name []) (mem_children.mp hname)
  rw [isFolder_iff.mpr hfolder] at h
  cases h

end Depth

end FileTree

end TorChat.Library
