import TorChat.Library.FileTree
import TorChat.Library.Path

namespace TorChat.Library

open Library.Path (Move go)

structure Link (N : Type) where
  absolute : Bool
  moves : List (Move N)

def Link.start {N : Type} (target : Link N) (directory : List N) : List N :=
  if target.absolute then [] else directory

namespace FileTree

variable {N C : Type} [DecidableEq N] (link : C → Option (Link N))

def linkAt (tree : FileTree N C) (path : List N) : Option (Link N) :=
  match tree.node path with
  | some (.file content) => link content
  | _ => none

-- follows at most that many links
def descend (tree : FileTree N C) (links : Nat) (directory : List N) :
    List (Move N) → Option (List N)
  | [] => some directory
  | move :: moves =>
      if tree.isFolder directory then
        match tree.linkAt link (go directory move) with
        | none => descend tree links (go directory move) moves
        | some target =>
            match links with
            | 0 => none
            | links + 1 => descend tree links (target.start directory) (target.moves ++ moves)
      else none
  termination_by moves => (links, moves.length)

-- the paths that are looked up on the way
def passed (tree : FileTree N C) (links : Nat) (directory : List N) : List (Move N) → List (List N)
  | [] => []
  | move :: moves =>
      directory :: go directory move ::
        match tree.linkAt link (go directory move) with
        | none => passed tree links (go directory move) moves
        | some target =>
            match links with
            | 0 => []
            | links + 1 => passed tree links (target.start directory) (target.moves ++ moves)
  termination_by moves => (links, moves.length)

variable {link} {tree tree' : FileTree N C} {links : Nat} {directory path : List N}
  {moves : List (Move N)} {name : N}

theorem linkAt_of_node_eq (h : tree'.node path = tree.node path) :
    tree'.linkAt link path = tree.linkAt link path := by
  rw [linkAt, linkAt, h]

theorem linkAt_of_folder (h : tree.isFolder path = true) : tree.linkAt link path = none := by
  rw [linkAt, isFolder_iff.mp h]

theorem isFolder_of_node_eq (h : tree'.node path = tree.node path) :
    tree'.isFolder path = tree.isFolder path := by
  rw [isFolder, isFolder, h]

section Steps

variable {move : Move N} {target : Link N}

theorem descend_nil (tree : FileTree N C) (links : Nat) (directory : List N) :
    tree.descend link links directory [] = some directory := by
  rw [descend]

theorem descend_not_folder (h : ¬ tree.isFolder directory = true) :
    tree.descend link links directory (move :: moves) = none := by
  rw [descend, if_neg h]

theorem descend_step (hfolder : tree.isFolder directory = true)
    (h : tree.linkAt link (go directory move) = none) :
    tree.descend link links directory (move :: moves) =
      tree.descend link links (go directory move) moves := by
  rw [descend, if_pos hfolder, h]

theorem descend_stop (hfolder : tree.isFolder directory = true)
    (h : tree.linkAt link (go directory move) = some target) :
    tree.descend link 0 directory (move :: moves) = none := by
  rw [descend, if_pos hfolder, h]

theorem descend_follow (hfolder : tree.isFolder directory = true)
    (h : tree.linkAt link (go directory move) = some target) :
    tree.descend link (links + 1) directory (move :: moves) =
      tree.descend link links (target.start directory) (target.moves ++ moves) := by
  rw [descend, if_pos hfolder, h]

theorem descend_congr (h : ∀ path ∈ tree.passed link links directory moves,
    tree'.node path = tree.node path) :
    tree'.descend link links directory moves = tree.descend link links directory moves := by
  fun_induction tree.descend link links directory moves with
  | case1 links directory => exact descend_nil tree' links directory
  | case2 links directory move moves hfolder hnone ih =>
    rw [passed, List.forall_mem_cons, List.forall_mem_cons, hnone] at h
    obtain ⟨hdirectory, hnext, hrest⟩ := h
    rw [← isFolder_of_node_eq hdirectory] at hfolder
    rw [← linkAt_of_node_eq hnext] at hnone
    rw [descend_step hfolder hnone]
    exact ih hrest
  | case3 directory move moves hfolder target hlink =>
    rw [passed, List.forall_mem_cons, List.forall_mem_cons] at h
    rw [← isFolder_of_node_eq h.1] at hfolder
    rw [← linkAt_of_node_eq h.2.1] at hlink
    exact descend_stop hfolder hlink
  | case4 directory move moves hfolder target hlink links ih =>
    rw [passed, List.forall_mem_cons, List.forall_mem_cons, hlink] at h
    obtain ⟨hdirectory, hnext, hrest⟩ := h
    rw [← isFolder_of_node_eq hdirectory] at hfolder
    rw [← linkAt_of_node_eq hnext] at hlink
    rw [Nat.succ_eq_add_one, descend_follow hfolder hlink]
    exact ih hrest
  | case5 links directory move moves hfolder =>
    rw [passed, List.forall_mem_cons] at h
    rw [← isFolder_of_node_eq h.1] at hfolder
    exact descend_not_folder hfolder

-- where nodes have only been removed, a path leads nowhere else
theorem descend_mono
    (hsub : ∀ path entry, tree'.node path = some entry → tree.node path = some entry)
    (h : tree'.descend link links directory moves = some path) (hnode : tree'.node path ≠ none) :
    tree.descend link links directory moves = some path := by
  have hsame : ∀ path, tree'.node path ≠ none → tree.node path = tree'.node path := by
    intro path hpath
    obtain ⟨entry, hentry⟩ := Option.ne_none_iff_exists'.mp hpath
    rw [hentry, hsub path entry hentry]
  have hfolder' : ∀ path, tree'.isFolder path = true → tree.isFolder path = true := by
    intro path hpath
    rw [isFolder_iff] at hpath ⊢
    exact hsub path _ hpath
  fun_induction tree'.descend link links directory moves with
  | case1 links directory =>
    rw [← Option.some.inj h]
    exact descend_nil tree links directory
  | case2 links directory move moves hfolder hnone ih =>
    by_cases hthere : tree'.node (go directory move) = none
    · exfalso
      cases moves with
      | nil =>
        rw [descend_nil] at h
        exact hnode (Option.some.inj h ▸ hthere)
      | cons next moves =>
        rw [descend_not_folder (by rw [isFolder_iff, hthere]; simp)] at h
        cases h
    · rw [← linkAt_of_node_eq (hsame _ hthere)] at hnone
      rw [descend_step (hfolder' _ hfolder) hnone]
      exact ih h
  | case3 directory move moves hfolder target hlink => cases h
  | case4 directory move moves hfolder target hlink links ih =>
    have hthere : tree'.node (go directory move) ≠ none := by
      intro hnone
      rw [linkAt, hnone] at hlink
      cases hlink
    rw [← linkAt_of_node_eq (hsame _ hthere)] at hlink
    rw [Nat.succ_eq_add_one, descend_follow (hfolder' _ hfolder) hlink]
    exact ih h
  | case5 links directory move moves hfolder => cases h

theorem descend_concat (h : tree.descend link links directory moves = some path)
    (hfolder : tree.isFolder path = true) (hlink : tree.linkAt link (go path move) = none) :
    tree.descend link links directory (moves ++ [move]) = some (go path move) := by
  fun_induction tree.descend link links directory moves with
  | case1 links directory =>
    obtain rfl := Option.some.inj h
    rw [List.nil_append, descend_step hfolder hlink, descend_nil]
  | case2 links directory move moves hdirectory hnone ih =>
    rw [List.cons_append, descend_step hdirectory hnone]
    exact ih h
  | case3 directory move moves hdirectory target hfollow => cases h
  | case4 directory move moves hdirectory target hfollow links ih =>
    rw [List.cons_append, Nat.succ_eq_add_one, descend_follow hdirectory hfollow,
      ← List.append_assoc]
    exact ih h
  | case5 links directory move moves hdirectory => cases h

-- a folder is reached by its own names
theorem descend_down {names : List N} (h : tree.isFolder (directory ++ names) = true) :
    tree.descend link links directory (names.map .down) = some (directory ++ names) := by
  induction names generalizing directory with
  | nil => rw [List.map_nil, descend_nil, List.append_nil]
  | cons name names ih =>
    have hnode : tree.node (directory ++ name :: names) ≠ none := by
      rw [isFolder_iff.mp h]
      exact Option.some_ne_none _
    have hfolder := isFolder_iff.mpr (folder_above (List.cons_ne_nil name names) hnode)
    rw [List.append_cons] at h hnode ⊢
    have hnext : tree.isFolder (directory ++ [name]) = true := by
      by_cases hnames : names = []
      · rwa [hnames, List.append_nil] at h
      · exact isFolder_iff.mpr (folder_above hnames hnode)
    have hstep : tree.linkAt link (go directory (.down name)) = none := linkAt_of_folder hnext
    rw [List.map_cons, descend_step hfolder hstep]
    exact ih h

theorem descend_concat_some {last : List N}
    (h : tree.descend link links directory (moves ++ [move]) = some last) :
    ∃ path, tree.descend link links directory moves = some path ∧ tree.isFolder path = true ∧
      (tree.linkAt link (go path move) = none → last = go path move) := by
  fun_induction tree.descend link links directory moves with
  | case1 links directory =>
    rw [List.nil_append] at h
    by_cases hfolder : tree.isFolder directory = true
    · refine ⟨directory, rfl, hfolder, fun hnone => ?_⟩
      rw [descend_step hfolder hnone, descend_nil] at h
      exact (Option.some.inj h).symm
    · rw [descend_not_folder hfolder] at h
      cases h
  | case2 links directory move moves hfolder hnone ih =>
    rw [List.cons_append, descend_step hfolder hnone] at h
    exact ih h
  | case3 directory move moves hfolder target hlink =>
    rw [List.cons_append, descend_stop hfolder hlink] at h
    cases h
  | case4 directory move moves hfolder target hlink links ih =>
    rw [List.cons_append, Nat.succ_eq_add_one, descend_follow hfolder hlink,
      ← List.append_assoc] at h
    exact ih h
  | case5 links directory move moves hfolder =>
    rw [List.cons_append, descend_not_folder hfolder] at h
    cases h

end Steps

end FileTree

end TorChat.Library
