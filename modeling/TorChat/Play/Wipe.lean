import TorChat.Play.DelFolder

namespace TorChat

open Library (Bytes Entry FileTree Link)
open Library.Path (Move StrictlyInside go segments)
open PathConfinement (Segment move)

namespace Play

section Statement

variable (system : FileSystem) (disk : Disk) (path : String) (target : List Segment)

def Shrinks (disk' : Disk) : Prop :=
  ∀ position, disk'.node position = disk.node position ∨
    target <+: position ∧ disk'.node position = none

def NoLinks : Prop := ∀ position, target <+: position → disk.linkAt linkOf position = none

-- on the disk and on every disk that the removal can pass through
structure Succeeds : Prop where
  lists : ∀ disk' directory, Shrinks disk target disk' → target <+: directory →
    disk'.isFolder directory = true → ∃ names, system.list disk' directory = some names ∧
      ∀ name, name ∈ names ↔ name ∈ disk'.children directory
  deletes : ∀ disk' position, Shrinks disk target disk' →
    target <+: position ∨ system.entryOf disk' path = some position →
      system.deletes disk' position = true
  -- a path that ends in "." or ".." is never removed
  named : ∃ directory name, moves path = directory ++ [.down name]

def Direct : Prop :=
  system.entryOf disk path = some target ∧
    ∀ position ∈ disk.passed linkOf system.maxLinks (system.start path) (moves path).dropLast,
      ¬ StrictlyInside target position

end Statement

section Shrinking

variable {disk disk' disk'' : Disk} {target position : List Segment}

theorem shrinks_refl (disk : Disk) (target : List Segment) : Shrinks disk target disk :=
  fun _ => .inl rfl

theorem shrinks_trans (h : Shrinks disk target disk') (h' : Shrinks disk' target disk'') :
    Shrinks disk target disk'' := by
  intro position
  rcases h' position with hsame | hgone
  · rw [hsame]
    exact h position
  · exact .inr hgone

theorem shrinks_node (h : Shrinks disk target disk') {entry : Entry Content}
    (hnode : disk'.node position = some entry) : disk.node position = some entry := by
  rcases h position with hsame | ⟨_, hnone⟩
  · rw [← hsame, hnode]
  · rw [hnone] at hnode
    cases hnode

theorem noLinks_shrinks (h : NoLinks disk target) (hs : Shrinks disk target disk') :
    NoLinks disk' target := by
  intro position hinside
  rcases hs position with hsame | ⟨_, hnone⟩
  · rw [FileTree.linkAt_of_node_eq hsame]
    exact h position hinside
  · rw [FileTree.linkAt, hnone]

theorem erase_toFileTree (h : disk.erase position = some disk') :
    disk.toFileTree.erase position = some disk'.toFileTree := by
  rw [Disk.erase] at h
  split at h
  · cases h
  · rename_i herase
    rw [herase, ← Option.some.inj h]

theorem erase_of_childless (hnode : disk.node position ≠ none)
    (hchildren : disk.children position = []) : ∃ disk', disk.erase position = some disk' := by
  have hsome := FileTree.erase_isSome_iff.mpr ⟨hnode, hchildren⟩
  rw [Disk.erase]
  split
  · rename_i herase
    rw [herase] at hsome
    cases hsome
  · exact ⟨_, rfl⟩

theorem node_erase (h : disk.erase position = some disk') (other : List Segment) :
    disk'.node other = if other = position then none else disk.node other :=
  FileTree.node_erase (erase_toFileTree h) other

theorem shrinks_erase (h : disk.erase position = some disk') (hinside : target <+: position) :
    Shrinks disk target disk' := by
  intro other
  rw [node_erase h]
  split
  · rename_i heq
    exact .inr ⟨heq ▸ hinside, rfl⟩
  · exact .inl rfl

end Shrinking

section Children

-- the string temp is a path of the entry called name below path
structure IsChild (system : FileSystem) (path temp : String) (name : Segment) : Prop where
  valid : IsPath temp
  start : system.start temp = system.start path
  moves : moves temp = moves path ++ [.down name]

variable {system : FileSystem} {path : String} {name : Segment}

theorem isPath_append (hpath : IsPath path) {more : String} (hmore : '\x00' ∉ more.toList) :
    IsPath (path ++ more) := by
  rw [IsPath, String.toList_append, List.mem_append, not_or]
  exact ⟨fun h => hpath.1 (List.append_eq_nil_iff.mp h).1, hpath.2, hmore⟩

theorem start_append (hpath : IsPath path) (more : String) :
    system.start (path ++ more) = system.start path := by
  rw [FileSystem.start, FileSystem.start, String.toList_append, List.head?_append_of_ne_nil _ hpath.1]

theorem isChild_slash (system : FileSystem) (hpath : IsPath path) (hname : IsName name) :
    IsChild system path (path ++ "/" ++ String.ofList name) name := by
  have hslash : IsPath (path ++ "/") := isPath_append hpath (by decide)
  have hplain : '\x00' ∉ (String.ofList name).toList := by
    rw [String.toList_ofList]
    exact hname.2.2.2.2
  refine ⟨isPath_append hslash hplain, ?_, moves_slash_name hname path⟩
  rw [start_append hslash, start_append hpath]

theorem isChild_temp (system : FileSystem) (hpath : IsPath path) (hname : IsName name) :
    IsChild system path (DelFolder.temp path name) name := by
  rw [DelFolder.temp]
  split
  · rename_i hlast
    obtain ⟨before, hbefore⟩ := List.getLast?_eq_some_iff.mp hlast
    have htext : path = String.ofList before ++ "/" := by
      rw [← String.toList_inj, hbefore, String.toList_append, String.toList_ofList]
      rfl
    have hplain : '\x00' ∉ (String.ofList name).toList := by
      rw [String.toList_ofList]
      exact hname.2.2.2.2
    refine ⟨isPath_append hpath hplain, start_append hpath _, ?_⟩
    rw [htext, moves_slash_name hname, moves_trailing]
  · exact isChild_slash system hpath hname

end Children

section Locating

variable {system : FileSystem} {disk disk' : Disk} {path temp : String} {name : Segment}
  {position entry directory : List Segment} {before : List (Move Segment)}

theorem locate_eq_some : system.locate disk path = some position ↔
    IsPath path ∧ disk.descend linkOf system.maxLinks (system.start path) (moves path) =
      some position ∧ disk.node position ≠ none := by
  rw [FileSystem.locate]
  split
  · rename_i hpath
    rw [Option.filter_eq_some_iff, Option.isSome_iff_ne_none, and_iff_right hpath]
  · rename_i hpath
    exact iff_of_false (by simp) (fun h => hpath h.1)

theorem entryOf_eq_some (hmoves : moves path = before ++ [.down name]) :
    system.entryOf disk path = some entry ↔ IsPath path ∧
      ∃ directory, disk.descend linkOf system.maxLinks (system.start path) before =
        some directory ∧ directory ++ [name] = entry := by
  rw [FileSystem.entryOf]
  split
  · rename_i hpath
    rw [hmoves, List.getLast?_concat, List.dropLast_concat, and_iff_right hpath]
    exact Option.map_eq_some_iff
  · rename_i hpath
    exact iff_of_false (by simp) (fun h => hpath h.1)

def Within (disk disk' : Disk) : Prop :=
  ∀ position entry, disk'.node position = some entry → disk.node position = some entry

theorem within_of_shrinks {target : List Segment} (h : Shrinks disk target disk') :
    Within disk disk' := fun _ _ hnode => shrinks_node h hnode

theorem within_erase (h : disk.erase entry = some disk') : Within disk disk' :=
  within_of_shrinks (shrinks_erase h List.prefix_rfl)

theorem locate_mono (hw : Within disk disk') (h : system.locate disk' path = some position) :
    system.locate disk path = some position := by
  rw [locate_eq_some] at h ⊢
  obtain ⟨hpath, hdescend, hnode⟩ := h
  obtain ⟨kind, hkind⟩ := Option.ne_none_iff_exists'.mp hnode
  refine ⟨hpath, FileTree.descend_mono hw hdescend hnode, ?_⟩
  rw [hw position kind hkind]
  exact Option.some_ne_none _

theorem locate_none_mono (hw : Within disk disk') (h : system.locate disk path = none) :
    system.locate disk' path = none := by
  by_contra hsome
  obtain ⟨position, hlocate⟩ := Option.ne_none_iff_exists'.mp hsome
  rw [locate_mono hw hlocate] at h
  cases h

theorem entryOf_located (hmoves : moves path = before ++ [.down name])
    (h : system.locate disk path = some position) : ∃ directory,
      disk.descend linkOf system.maxLinks (system.start path) before = some directory ∧
      disk.isFolder directory = true ∧ system.entryOf disk path = some (directory ++ [name]) ∧
      disk.node (directory ++ [name]) ≠ none ∧
        (disk.linkAt linkOf (directory ++ [name]) = none → position = directory ++ [name]) := by
  obtain ⟨hpath, hdescend, hnode⟩ := locate_eq_some.mp h
  rw [hmoves] at hdescend
  obtain ⟨directory, hbefore, hfolder, hplain⟩ := FileTree.descend_concat_some hdescend
  refine ⟨directory, hbefore, hfolder,
    (entryOf_eq_some hmoves).mpr ⟨hpath, directory, hbefore, rfl⟩, ?_, hplain⟩
  intro hnone
  have hlink : disk.linkAt linkOf (directory ++ [name]) = none := by
    rw [FileTree.linkAt, hnone]
  rw [hplain hlink] at hnode
  exact hnode hnone

theorem entryOf_child (hchild : IsChild system path temp name) (hpath : IsPath path)
    (h : system.entryOf disk temp = some entry) (hnode : disk.node entry ≠ none) :
    ∃ directory, system.locate disk path = some directory ∧ entry = directory ++ [name] := by
  obtain ⟨_, directory, hdescend, rfl⟩ := (entryOf_eq_some hchild.moves).mp h
  have hfolder := FileTree.folder_above (List.cons_ne_nil name []) hnode
  rw [hchild.start] at hdescend
  refine ⟨directory, locate_eq_some.mpr ⟨hpath, hdescend, ?_⟩, rfl⟩
  rw [hfolder]
  exact Option.some_ne_none _

theorem locate_child (hchild : IsChild system path temp name) (hpath : IsPath path)
    (h : system.locate disk temp = some position) : ∃ directory,
      system.locate disk path = some directory ∧ disk.isFolder directory = true ∧
        (disk.linkAt linkOf (directory ++ [name]) = none → position = directory ++ [name]) := by
  obtain ⟨directory, _, hfolder, hentry, hnode, hplain⟩ := entryOf_located hchild.moves h
  obtain ⟨other, hother, hsame⟩ := entryOf_child hchild hpath hentry hnode
  obtain rfl := List.append_cancel_right hsame
  exact ⟨directory, hother, hfolder, hplain⟩

theorem locate_of_entry (hmoves : moves path = before ++ [.down name])
    (h : system.entryOf disk path = some entry) (hnode : disk.node entry ≠ none)
    (hlink : disk.linkAt linkOf entry = none) : system.locate disk path = some entry := by
  obtain ⟨hpath, directory, hdescend, rfl⟩ := (entryOf_eq_some hmoves).mp h
  have hfolder := FileTree.folder_above (List.cons_ne_nil name []) hnode
  refine locate_eq_some.mpr ⟨hpath, ?_, hnode⟩
  rw [hmoves]
  exact FileTree.descend_concat hdescend (FileTree.isFolder_iff.mpr hfolder) hlink

theorem entryOf_mono (hmoves : moves path = before ++ [.down name]) (hw : Within disk disk')
    (h : system.entryOf disk' path = some entry) (hnode : disk'.node entry ≠ none) :
    system.entryOf disk path = some entry := by
  obtain ⟨hpath, directory, hdescend, rfl⟩ := (entryOf_eq_some hmoves).mp h
  have hfolder := FileTree.folder_above (List.cons_ne_nil name []) hnode
  refine (entryOf_eq_some hmoves).mpr ⟨hpath, directory, FileTree.descend_mono hw hdescend ?_, rfl⟩
  rw [hfolder]
  exact Option.some_ne_none _

theorem locate_below (hchild : IsChild system path temp name)
    (h : system.locate disk path = some directory)
    (hlink : disk.linkAt linkOf (directory ++ [name]) = none)
    (hnode : disk.node (directory ++ [name]) ≠ none) :
    system.locate disk temp = some (directory ++ [name]) := by
  have hdescend := (locate_eq_some.mp h).2.1
  rw [← hchild.start] at hdescend
  refine locate_of_entry hchild.moves ?_ hnode hlink
  exact (entryOf_eq_some hchild.moves).mpr ⟨hchild.valid, directory, hdescend, rfl⟩

theorem locate_same (hchild : IsChild system path temp name) {temp' : String}
    (hchild' : IsChild system path temp' name) :
    system.locate disk temp = system.locate disk temp' := by
  rw [FileSystem.locate, FileSystem.locate, if_pos hchild.valid, if_pos hchild'.valid, hchild.start,
    hchild'.start, hchild.moves, hchild'.moves]

end Locating

section Deleting

variable {system : FileSystem} {disk disk' : Disk} {path : String} {name : Segment}
  {target : List Segment} {before : List (Move Segment)}

theorem delete_cases (system : FileSystem) (disk : Disk) (path : String) :
    system.delete disk path = disk ∨ ∃ entry, system.entryOf disk path = some entry ∧
      disk.node entry ≠ none ∧ disk.erase entry = some (system.delete disk path) := by
  rw [FileSystem.delete]
  split
  · exact .inl rfl
  · rename_i entry hentry
    split
    · cases herase : disk.erase entry with
      | none => exact .inl rfl
      | some erased =>
        have hsome := Option.isSome_iff_exists.mpr ⟨_, erase_toFileTree herase⟩
        exact .inr ⟨entry, hentry, (FileTree.erase_isSome_iff.mp hsome).1, herase⟩
    · exact .inl rfl

theorem within_delete (system : FileSystem) (disk : Disk) (path : String) :
    Within disk (system.delete disk path) := by
  rcases delete_cases system disk path with hsame | ⟨entry, _, _, herase⟩
  · rw [hsame]
    exact within_of_shrinks (shrinks_refl disk [])
  · exact within_erase herase

theorem locate_delete (hmoves : moves path = before ++ [.down name])
    (hempty : ∀ position, system.locate disk path = some position → disk.children position = [])
    (hdeletes : ∀ entry, system.entryOf disk path = some entry → disk.node entry ≠ none →
      system.deletes disk entry = true) :
    system.locate (system.delete disk path) path = none := by
  by_contra hsome
  obtain ⟨position, hlocate⟩ := Option.ne_none_iff_exists'.mp hsome
  have hold := locate_mono (within_delete system disk path) hlocate
  obtain ⟨directory, hdescend, _, hentry, hnode, hplain⟩ := entryOf_located hmoves hold
  have hchildless : disk.children (directory ++ [name]) = [] := by
    by_cases hfolder : disk.isFolder (directory ++ [name]) = true
    · rw [← hplain (FileTree.linkAt_of_folder hfolder)]
      exact hempty position hold
    · exact FileTree.children_of_not_folder (Bool.eq_false_iff.mpr hfolder)
  obtain ⟨erased, herase⟩ := erase_of_childless hnode hchildless
  have hdelete : system.delete disk path = erased := by
    rw [FileSystem.delete, hentry]
    dsimp only
    rw [if_pos (hdeletes _ hentry hnode), herase, Option.getD_some]
  rw [hdelete] at hlocate
  obtain ⟨other, hother, hfolder', _, hleft, _⟩ := entryOf_located hmoves hlocate
  have hsame : disk.descend linkOf system.maxLinks (system.start path) before = some other := by
    refine FileTree.descend_mono (within_erase herase) hother ?_
    rw [FileTree.isFolder_iff.mp hfolder']
    exact Option.some_ne_none _
  obtain rfl := Option.some.inj (hsame.symm.trans hdescend)
  rw [node_erase herase, if_pos rfl] at hleft
  exact hleft rfl

end Deleting

section Walk

open DelFolder

variable {system : FileSystem} {disk disk' : Disk} {path root : String}
  {target directory : List Segment} {fuel : Nat}

theorem named_children {name : Segment} (h : name ∈ disk.children directory) : IsName name := by
  obtain ⟨kind, hkind⟩ := Option.ne_none_iff_exists'.mp (FileTree.mem_children.mp h)
  exact disk.named _ (FileTree.node_eq_some.mp hkind) name (by simp)

theorem length_le_of_shrinks (h : Shrinks disk target disk') {position : List Segment}
    (hnode : disk'.node position ≠ none) : position.length ≤ disk.depth := by
  obtain ⟨kind, hkind⟩ := Option.ne_none_iff_exists'.mp hnode
  refine FileTree.length_le_depth ?_
  rw [shrinks_node h hkind]
  exact Option.some_ne_none _

-- delAllFile keeps off everything above the path and leaves nothing in it
structure Emptied (system : FileSystem) (disk : Disk) (target : List Segment) (path : String)
    (disk' : Disk) : Prop where
  shrinks : Shrinks disk target disk'
  empty : ∀ position, system.locate disk' path = some position → disk'.children position = []

def Empties (system : FileSystem) (disk : Disk) (target : List Segment) (fuel : Nat) : Prop :=
  ∀ path disk', Shrinks disk target disk' →
    (∀ position, system.locate disk' path = some position →
      target <+: position ∧ disk.depth < fuel + position.length) →
    ∃ left flag, (∀ n, fuel < n → delAllFile system n path disk' = some (left, some flag)) ∧
      Emptied system disk' target path left

-- what holds of the folder at path while its children are removed
structure Inside (system : FileSystem) (disk : Disk) (target : List Segment) (fuel : Nat)
    (path : String) (disk' : Disk) : Prop where
  valid : IsPath path
  shrinks : Shrinks disk target disk'
  below : ∀ directory, system.locate disk' path = some directory →
    target <+: directory ∧ disk.depth < fuel + 1 + directory.length

theorem inside_shrinks {left : Disk} (h : Inside system disk target fuel path disk')
    (hs : Shrinks disk' target left) : Inside system disk target fuel path left :=
  ⟨h.valid, shrinks_trans h.shrinks hs,
    fun directory hlocate => h.below directory (locate_mono (within_of_shrinks hs) hlocate)⟩

variable {temp : String} {name : Segment}

theorem below_child (hlinks : NoLinks disk target) (h : Inside system disk target fuel path disk')
    (hchild : IsChild system path temp name) {position : List Segment}
    (hlocate : system.locate disk' temp = some position) :
    target <+: position ∧ disk.depth < fuel + position.length := by
  obtain ⟨directory, hdirectory, _, hplain⟩ := locate_child hchild h.valid hlocate
  obtain ⟨hunder, hdepth⟩ := h.below directory hdirectory
  have hinside : target <+: directory ++ [name] := hunder.trans (List.prefix_append _ _)
  rw [hplain (noLinks_shrinks hlinks h.shrinks _ hinside), List.length_append,
    List.length_singleton]
  exact ⟨hinside, by omega⟩

theorem delete_child (hsystem : Succeeds system disk root target)
    (h : Inside system disk target fuel path disk') (hchild : IsChild system path temp name)
    (hempty : ∀ position, system.locate disk' temp = some position → disk'.children position = []) :
    Shrinks disk' target (system.delete disk' temp) ∧
      system.locate (system.delete disk' temp) temp = none := by
  have hinside : ∀ entry, system.entryOf disk' temp = some entry → disk'.node entry ≠ none →
      target <+: entry := by
    intro entry hentry hnode
    obtain ⟨directory, hdirectory, rfl⟩ := entryOf_child hchild h.valid hentry hnode
    exact (h.below directory hdirectory).1.trans (List.prefix_append _ _)
  refine ⟨?_, locate_delete hchild.moves hempty fun entry hentry hnode =>
    hsystem.deletes disk' entry h.shrinks (.inl (hinside entry hentry hnode))⟩
  rcases delete_cases system disk' temp with hsame | ⟨entry, hentry, hnode, herase⟩
  · rw [hsame]
    exact shrinks_refl disk' target
  · exact shrinks_erase herase (hinside entry hentry hnode)

theorem remove_file (hsystem : Succeeds system disk root target)
    (h : Inside system disk target fuel path disk') (hchild : IsChild system path temp name) :
    ∃ left, (if system.isFile disk' temp then system.delete disk' temp else disk') = left ∧
      Shrinks disk' target left ∧
        (system.isDirectory left temp = false → system.locate left temp = none) := by
  by_cases hfile : system.isFile disk' temp = true
  · refine ⟨_, if_pos hfile, ?_⟩
    have hempty : ∀ position, system.locate disk' temp = some position →
        disk'.children position = [] := by
      intro position hlocate
      refine FileTree.children_of_not_folder ?_
      rw [FileSystem.isFile, hlocate, Option.any_some, FileTree.isFile] at hfile
      rw [FileTree.isFolder]
      split
      · rename_i hnode
        rw [hnode] at hfile
        cases hfile
      · rfl
    obtain ⟨hshrinks, hgone⟩ := delete_child hsystem h hchild hempty
    exact ⟨hshrinks, fun _ => hgone⟩
  · refine ⟨disk', if_neg hfile, shrinks_refl disk' target, fun hdirectory => ?_⟩
    by_contra hsome
    obtain ⟨position, hlocate⟩ := Option.ne_none_iff_exists'.mp hsome
    rw [FileSystem.isFile, hlocate, Option.any_some, FileTree.isFile] at hfile
    rw [FileSystem.isDirectory, hlocate, Option.any_some, FileTree.isFolder] at hdirectory
    obtain ⟨_, _, hnode⟩ := locate_eq_some.mp hlocate
    cases hkind : disk'.node position with
    | none => exact hnode hkind
    | some kind =>
      rw [hkind] at hfile hdirectory
      cases kind with
      | folder => cases hdirectory
      | file content => exact hfile rfl

-- the second visit finds the folder empty
theorem remove_folder (hsystem : Succeeds system disk root target)
    (hempties : Empties system disk target fuel) (hlinks : NoLinks disk target)
    (h : Inside system disk target fuel path disk') (hchild : IsChild system path temp name) :
    ∃ emptied flag left, (∀ n, fuel < n → delAllFile system n temp disk' =
        some (emptied, some flag) ∧
      delFolderBy system (delAllFile system n) temp emptied = some left) ∧
      Shrinks disk' target left ∧ system.locate left temp = none := by
  obtain ⟨first, flag, hfirst, hemptied⟩ := hempties temp disk' h.shrinks
    (fun _ hlocate => below_child hlinks h hchild hlocate)
  have hinside := inside_shrinks h hemptied.shrinks
  obtain ⟨second, flag', hsecond, hemptied'⟩ := hempties temp first hinside.shrinks
    (fun _ hlocate => below_child hlinks hinside hchild hlocate)
  have hinside' := inside_shrinks hinside hemptied'.shrinks
  obtain ⟨hshrinks, hgone⟩ := delete_child hsystem hinside' hchild hemptied'.empty
  refine ⟨first, flag, _, fun n hn => ⟨hfirst n hn, ?_⟩,
    shrinks_trans (shrinks_trans hemptied.shrinks hemptied'.shrinks) hshrinks, hgone⟩
  rw [delFolderBy, hsecond n hn]

theorem delEach_removes (hsystem : Succeeds system disk root target)
    (hempties : Empties system disk target fuel) (hlinks : NoLinks disk target)
    {names : List Segment} (hnames : ∀ name ∈ names, IsName name) (flag : Bool)
    (h : Inside system disk target fuel path disk') :
    ∃ left flag', (∀ n, fuel < n → delEach system (delAllFile system n)
        (delFolderBy system (delAllFile system n)) path names flag disk' =
          some (left, some flag')) ∧ Shrinks disk' target left ∧
      ∀ name ∈ names, system.locate left (path ++ "/" ++ String.ofList name) = none := by
  induction names generalizing flag disk' with
  | nil => exact ⟨disk', flag, fun _ _ => rfl, shrinks_refl disk' target, by simp⟩
  | cons name names ih =>
    obtain ⟨hname, hrest⟩ := List.forall_mem_cons.mp hnames
    have htemp := isChild_temp system h.valid hname
    have hslash := isChild_slash system h.valid hname
    obtain ⟨filed, hfiled, hshrinks, hgone⟩ := remove_file hsystem h htemp
    have hinside := inside_shrinks h hshrinks
    by_cases hdirectory : system.isDirectory filed (temp path name) = true
    · obtain ⟨emptied, flag₁, removed, hremove, hshrinks', hgone'⟩ :=
        remove_folder hsystem hempties hlinks hinside hslash
      obtain ⟨left, flag', hloop, hleft, hall⟩ := ih hrest true (inside_shrinks hinside hshrinks')
      refine ⟨left, flag', fun n hn => ?_, shrinks_trans hshrinks (shrinks_trans hshrinks' hleft),
        List.forall_mem_cons.mpr ⟨?_, hall⟩⟩
      · obtain ⟨hdelAll, hdel⟩ := hremove n hn
        rw [delEach, hfiled, if_pos hdirectory, hdelAll]
        dsimp only
        rw [hdel]
        exact hloop n hn
      · exact locate_none_mono (within_of_shrinks hleft) hgone'
    · obtain ⟨left, flag', hloop, hleft, hall⟩ := ih hrest flag hinside
      refine ⟨left, flag', fun n hn => ?_, shrinks_trans hshrinks hleft,
        List.forall_mem_cons.mpr ⟨?_, hall⟩⟩
      · rw [delEach, hfiled, if_neg hdirectory]
        exact hloop n hn
      · rw [locate_same hslash htemp]
        exact locate_none_mono (within_of_shrinks hleft) (hgone (Bool.eq_false_iff.mpr hdirectory))

theorem childless_of_gone (hlinks : NoLinks disk target) {left : Disk}
    (hs : Shrinks disk target left) (hinside : target <+: directory)
    (hlocate : system.locate left path = some directory)
    (hgone : ∀ name ∈ disk'.children directory,
      system.locate left (path ++ "/" ++ String.ofList name) = none)
    (hshrinks : Shrinks disk' target left) : left.children directory = [] := by
  rw [List.eq_nil_iff_forall_not_mem]
  intro name hname
  have hnode := FileTree.mem_children.mp hname
  have hchild := isChild_slash system (locate_eq_some.mp hlocate).1
    (named_children hname)
  have hlink := noLinks_shrinks hlinks hs _ (hinside.trans (List.prefix_append directory [name]))
  have hthere := locate_below hchild hlocate hlink hnode
  have hold : name ∈ disk'.children directory := by
    obtain ⟨kind, hkind⟩ := Option.ne_none_iff_exists'.mp hnode
    rw [FileTree.mem_children, shrinks_node hshrinks hkind]
    exact Option.some_ne_none _
  rw [hgone name hold] at hthere
  cases hthere

theorem emptied_none (hnone : system.locate disk' path = none) (fuel : Nat) :
    ∃ left flag, (∀ n, fuel < n → delAllFile system n path disk' = some (left, some flag)) ∧
      Emptied system disk' target path left := by
  refine ⟨disk', false, fun n hn => ?_, shrinks_refl disk' target, fun position hlocate => ?_⟩
  · obtain ⟨n, rfl⟩ := Nat.exists_eq_add_of_lt hn
    rw [delAllFile, FileSystem.fileExists, hnone]
    rfl
  · rw [hnone] at hlocate
    cases hlocate

theorem exists_of_locate (hlocate : system.locate disk' path = some directory) :
    system.fileExists disk' path = true ∧
      system.isDirectory disk' path = disk'.isFolder directory := by
  rw [FileSystem.fileExists, FileSystem.isDirectory, hlocate]
  exact ⟨rfl, rfl⟩

theorem emptied_file (hlocate : system.locate disk' path = some directory)
    (hfile : disk'.isFolder directory = false) (fuel : Nat) :
    ∃ left flag, (∀ n, fuel < n → delAllFile system n path disk' = some (left, some flag)) ∧
      Emptied system disk' target path left := by
  obtain ⟨hexists, hdirectory⟩ := exists_of_locate hlocate
  refine ⟨disk', false, fun n hn => ?_, shrinks_refl disk' target, fun position hposition => ?_⟩
  · obtain ⟨n, rfl⟩ := Nat.exists_eq_add_of_lt hn
    rw [delAllFile, hexists, hdirectory, hfile]
    rfl
  · obtain rfl := Option.some.inj (hlocate.symm.trans hposition)
    exact FileTree.children_of_not_folder hfile

theorem emptied_folder (hsystem : Succeeds system disk root target)
    (hempties : Empties system disk target fuel) (hlinks : NoLinks disk target)
    (h : Inside system disk target fuel path disk')
    (hlocate : system.locate disk' path = some directory)
    (hfolder : disk'.isFolder directory = true) :
    ∃ left flag, (∀ n, fuel + 1 < n → delAllFile system n path disk' = some (left, some flag)) ∧
      Emptied system disk' target path left := by
  obtain ⟨hexists, hdirectory⟩ := exists_of_locate hlocate
  have hinside := (h.below directory hlocate).1
  obtain ⟨names, hlist, hnames⟩ := hsystem.lists disk' directory h.shrinks hinside hfolder
  obtain ⟨left, flag, hloop, hshrinks, hgone⟩ := delEach_removes hsystem hempties hlinks
    (fun name hname => named_children ((hnames name).mp hname)) false h
  refine ⟨left, flag, fun n hn => ?_, hshrinks, fun position hposition => ?_⟩
  · obtain ⟨n, rfl⟩ := Nat.exists_eq_add_of_lt hn
    rw [delAllFile, hexists, hdirectory, hfolder, FileSystem.listFile, hlocate, Option.bind_some,
      hlist]
    exact hloop _ (by omega)
  · have hold := locate_mono (within_of_shrinks hshrinks) hposition
    obtain rfl := Option.some.inj (hold.symm.trans hlocate)
    exact childless_of_gone hlinks (shrinks_trans h.shrinks hshrinks) hinside hposition
      (fun name hname => hgone name ((hnames name).mpr hname)) hshrinks

theorem empties (hsystem : Succeeds system disk root target) (hlinks : NoLinks disk target)
    (fuel : Nat) : Empties system disk target fuel := by
  induction fuel with
  | zero =>
    intro path disk' hs hbelow
    refine emptied_none ?_ 0
    by_contra hsome
    obtain ⟨position, hlocate⟩ := Option.ne_none_iff_exists'.mp hsome
    have hdepth := length_le_of_shrinks hs (locate_eq_some.mp hlocate).2.2
    have hfuel := (hbelow position hlocate).2
    omega
  | succ fuel ih =>
    intro path disk' hs hbelow
    cases hlocate : system.locate disk' path with
    | none => exact emptied_none hlocate _
    | some directory =>
      by_cases hfolder : disk'.isFolder directory = true
      · have hvalid := (locate_eq_some.mp hlocate).1
        exact emptied_folder hsystem ih hlinks ⟨hvalid, hs, hbelow⟩ hlocate hfolder
      · exact emptied_file hlocate (Bool.eq_false_iff.mpr hfolder) _

end Walk

section Wipe

open DelFolder

variable {system : FileSystem} {disk emptied : Disk} {path : String} {target : List Segment}

theorem shrinks_delete_outside {before : List (Move Segment)} {name : Segment}
    (hmoves : moves path = before ++ [.down name]) (hpath : system.locate disk path = some target)
    (hs : Shrinks disk target emptied) {position : List Segment} (houtside : ¬ target <+: position) :
    (system.delete emptied path).node position = disk.node position ∨
      system.entryOf disk path = some position ∧ disk.linkAt linkOf position ≠ none := by
  have hsame : emptied.node position = disk.node position :=
    (hs position).resolve_right (fun h => houtside h.1)
  rcases delete_cases system emptied path with hleft | ⟨entry, hentry, hnode, herase⟩
  · rw [hleft]
    exact .inl hsame
  · rw [node_erase herase]
    split
    · rename_i heq
      rw [heq] at houtside hsame ⊢
      refine .inr ⟨entryOf_mono hmoves (within_of_shrinks hs) hentry hnode, fun hlink => ?_⟩
      rw [← FileTree.linkAt_of_node_eq hsame] at hlink
      have hlocate := locate_mono (within_of_shrinks hs)
        (locate_of_entry hmoves hentry hnode hlink)
      rw [hpath] at hlocate
      exact houtside (Option.some.inj hlocate ▸ List.prefix_rfl)
    · exact .inl hsame

theorem gone_of_direct {before : List (Move Segment)} {name : Segment}
    (hmoves : moves path = before ++ [.down name]) (hlinks : NoLinks disk target)
    (hs : Shrinks disk target emptied)
    (hnone : system.locate (system.delete emptied path) path = none)
    (hdirect : Direct system disk path target) {position : List Segment}
    (hinside : target <+: position) : (system.delete emptied path).node position = none := by
  have hleft : Shrinks disk target (system.delete emptied path) := by
    refine shrinks_trans hs ?_
    rcases delete_cases system emptied path with hleft | ⟨entry, hentry, hnode, herase⟩
    · rw [hleft]
      exact shrinks_refl emptied target
    · have hsame := entryOf_mono hmoves (within_of_shrinks hs) hentry hnode
      rw [hdirect.1] at hsame
      exact shrinks_erase herase (Option.some.inj hsame ▸ List.prefix_rfl)
  by_contra hsome
  have htarget : (system.delete emptied path).node target ≠ none := by
    obtain ⟨below, rfl⟩ := hinside
    by_cases hbelow : below = []
    · rwa [hbelow, List.append_nil] at hsome
    · rw [FileTree.folder_above hbelow hsome]
      exact Option.some_ne_none _
  have hpassed : ∀ position ∈ disk.passed linkOf system.maxLinks (system.start path) before,
      (system.delete emptied path).node position = disk.node position := by
    intro position hposition
    rcases hleft position with hsame | ⟨hunder, hgone⟩
    · exact hsame
    · have hstrict := hdirect.2 position (by rwa [hmoves, List.dropLast_concat])
      rw [StrictlyInside, not_and, not_not] at hstrict
      rw [hstrict hunder] at hgone
      exact absurd hgone htarget
  have hentry : system.entryOf (system.delete emptied path) path = some target := by
    obtain ⟨hpath, directory, hdescend, hname⟩ := (entryOf_eq_some hmoves).mp hdirect.1
    rw [← FileTree.descend_congr hpassed] at hdescend
    exact (entryOf_eq_some hmoves).mpr ⟨hpath, directory, hdescend, hname⟩
  have hlocate := locate_of_entry hmoves hentry htarget
    (noLinks_shrinks hlinks hleft target List.prefix_rfl)
  rw [hnone] at hlocate
  cases hlocate

theorem del_folder_wipes (system : FileSystem) (disk : Disk) (path : String)
    (target : List Segment) (hpath : system.locate disk path = some target)
    (hlinks : NoLinks disk target) (hsystem : Succeeds system disk path target) :
    ∃ left, (∀ n, disk.depth + 1 < n → delFolder system n path disk = some left) ∧
      system.fileExists left path = false ∧
      (∀ position, ¬ target <+: position → left.node position = disk.node position ∨
        system.entryOf disk path = some position ∧ disk.linkAt linkOf position ≠ none) ∧
      (Direct system disk path target → ∀ position, target <+: position →
        left.node position = none) := by
  obtain ⟨emptied, flag, hempty, hshrinks, hnothing⟩ := empties hsystem hlinks (disk.depth + 1) path
    disk (shrinks_refl disk target) (by
      intro position hposition
      rw [hpath] at hposition
      rw [← Option.some.inj hposition]
      exact ⟨List.prefix_rfl, by omega⟩)
  obtain ⟨before, name, hmoves⟩ := hsystem.named
  have hnone : system.locate (system.delete emptied path) path = none :=
    locate_delete hmoves hnothing
      (fun entry hentry _ => hsystem.deletes emptied entry hshrinks (.inr hentry))
  refine ⟨system.delete emptied path, fun n hn => ?_, ?_,
    fun position houtside => shrinks_delete_outside hmoves hpath hshrinks houtside,
    fun hdirect position hinside => gone_of_direct hmoves hlinks hshrinks hnone hdirect hinside⟩
  · rw [delFolder, delFolderBy, hempty n hn]
  · rw [FileSystem.fileExists, hnone]
    rfl

def phone : FileSystem where
  workingDirectory := []
  maxLinks := 40
  list disk position := if disk.isFolder position then some (disk.children position) else none
  deletes _ _ := true

def phoneDisk : Disk where
  entries := [([], .folder), (["files".toList], .folder), (["files".toList, "xor".toList], .folder),
    (["files".toList, "xor".toList, "a.xor".toList], .file (.bytes [7])),
    (["photo.jpg".toList], .file (.bytes [9]))]
  nodup := by decide
  closed := by decide
  named := by decide

theorem succeeds_phone (disk : Disk) {path : String} {target : List Segment}
    (h : ∃ before name, moves path = before ++ [.down name]) :
    Succeeds phone disk path target := by
  refine ⟨fun disk' directory _ _ hfolder => ?_, fun _ _ _ _ => rfl, h⟩
  exact ⟨disk'.children directory, if_pos hfolder, fun name => Iff.rfl⟩

theorem moves_files : moves "/files/" = [.down "files".toList] := by rfl

theorem del_folder_wipes_files : ∃ left,
    (∀ n, phoneDisk.depth + 1 < n → delFolder phone n "/files/" phoneDisk = some left) ∧
      phone.fileExists left "/files/" = false ∧
      left.node ["photo.jpg".toList] = some (.file (.bytes [9])) ∧
      left.node ["files".toList, "xor".toList] = none := by
  have hdescend : phoneDisk.descend linkOf 40 [] [.down "files".toList] = some ["files".toList] := by
    rw [FileTree.descend_step (by decide) (by decide), FileTree.descend_nil]
    rfl
  have hpath : phone.locate phoneDisk "/files/" = some ["files".toList] := by
    refine locate_eq_some.mpr ⟨by decide, ?_, by decide⟩
    rw [moves_files]
    exact hdescend
  have hlinks : NoLinks phoneDisk ["files".toList] := by
    intro position _
    rw [FileTree.linkAt]
    split
    · rename_i content hnode
      have hmem := FileTree.node_eq_some.mp hnode
      simp only [phoneDisk, List.mem_cons, Prod.mk.injEq, reduceCtorEq, and_false, false_or,
        List.not_mem_nil, or_false, Entry.file.injEq] at hmem
      rcases hmem with ⟨_, rfl⟩ | ⟨_, rfl⟩ <;> rfl
    · rfl
  have hdirect : Direct phone phoneDisk "/files/" ["files".toList] := by
    refine ⟨?_, ?_⟩
    · have hmoves : moves "/files/" = [] ++ [.down "files".toList] := moves_files
      exact (entryOf_eq_some hmoves).mpr ⟨by decide, [], FileTree.descend_nil _ _ _, rfl⟩
    · rw [moves_files]
      intro position hposition
      simp [FileTree.passed] at hposition
  obtain ⟨left, hwipe, hgone, hkept, hall⟩ := del_folder_wipes phone phoneDisk "/files/"
    ["files".toList] hpath hlinks (succeeds_phone phoneDisk ⟨[], _, moves_files⟩)
  refine ⟨left, hwipe, hgone, ?_, hall hdirect _ (by decide)⟩
  have hsame := (hkept ["photo.jpg".toList] (by decide)).resolve_right (fun h => h.2 rfl)
  rw [hsame]
  rfl

end Wipe

end Play

end TorChat
