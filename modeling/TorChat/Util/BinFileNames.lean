import TorChat.Util.BinFile

namespace TorChat

open Library (Bytes Entry FileTree Machine afterLast fields split splitOn_of_notMem)

namespace FileUtil

open FileTask (toInt)

section Statement

-- the extension of the file itself: a dot in the name of a directory does not count
def extension (path : String) : Option String :=
  let fileName := afterLast '/' path.toList
  if '.' ∈ fileName then some (String.ofList (afterLast '.' fileName)) else none

def Present (folder : BinFolder) (name : String) : Prop :=
  ∃ path content, folder.node (path ++ [name]) = some (.file content)

variable (accepts : String → Bool)

structure FreshBin (folder : BinFolder) (sourceFilePath binName : String) : Prop where
  returned : (createBinFile accepts folder sourceFilePath).2 = some binName
  fresh : ¬ Present folder binName
  created : Present (createBinFile accepts folder sourceFilePath).1 binName
  target : ∀ time, (getTargetFilePath time binName).map extension = some (extension sourceFilePath)

def Fresh (folder : BinFolder) (sourceFilePath : String) : Prop :=
  ∃ binName, FreshBin accepts folder sourceFilePath binName

-- the name of the file that finds k files of its extension there
def numbered (fileExtension : String) (k : Nat) : String :=
  binFileName fileExtension (toString (toInt (k + 1)))

structure Nameable (folder : BinFolder) (fileExtension : String) : Prop where
  nonempty : fileExtension ≠ ""
  word : '_' ∉ fileExtension.toList
  count : (folder.children [fileExtension]).length < 2 ^ 31
  folder_fits : accepts fileExtension = true
  file_fits : accepts (numbered fileExtension (folder.children [fileExtension]).length) = true

def HasExtension (folder : BinFolder) (sourceFilePath : String) : Prop :=
  ∃ fileExtension, extension sourceFilePath = some fileExtension ∧
    Nameable accepts folder fileExtension

end Statement

section Numbers

theorem signAndDigits_of_isNumber {digits : List Char}
    (h : Library.Decimal.isNumber digits = true) : signAndDigits digits = (false, digits) := by
  cases digits with
  | nil => rfl
  | cons c rest =>
    have hdigit : c.isDigit = true := by
      rw [Library.Decimal.isNumber, Bool.and_eq_true, List.all_cons, Bool.and_eq_true] at h
      exact h.2.1
    have hminus : c ≠ '-' := by
      rintro rfl
      cases hdigit
    have hplus : c ≠ '+' := by
      rintro rfl
      cases hdigit
    rw [signAndDigits]
    · exact fun _ heq => hminus (List.cons.inj heq).1
    · exact fun _ heq => hplus (List.cons.inj heq).1

theorem intOfDigits_toString (negative : Bool) (n : Nat)
    (hlow : -2 ^ 31 ≤ if negative then -(n : Int) else n)
    (hhigh : (if negative then -(n : Int) else n) < 2 ^ 31) :
    intOfDigits negative (toString n).toList = some (if negative then -(n : Int) else n) := by
  rw [intOfDigits, Library.Decimal.value_toString]
  exact if_pos ⟨Library.Decimal.isNumber_toString n, hlow, hhigh⟩

theorem parseInt_toString {n : Int} (h : -2 ^ 31 ≤ n) (h' : n < 2 ^ 31) :
    parseInt (toString n) = some n := by
  cases n with
  | ofNat n =>
    have hsign := signAndDigits_of_isNumber (Library.Decimal.isNumber_toString n)
    have htext : toString (Int.ofNat n) = toString n := rfl
    rw [parseInt, htext, hsign]
    exact intOfDigits_toString false n h h'
  | negSucc n =>
    rw [Library.Decimal.toString_negSucc, parseInt, String.toList_append]
    exact intOfDigits_toString true (n + 1) h h'

theorem notMem_toString {c : Char} (hsign : c ≠ '-') (hdigit : c.isDigit = false) (n : Int) :
    c ∉ (toString n).toList := by
  intro hmem
  rcases Library.Decimal.mem_toString_int hmem with rfl | hc
  · exact hsign rfl
  · rw [hdigit] at hc
    cases hc

theorem binFileName_toList (fileExtension currentNum : String) :
    (binFileName fileExtension currentNum).toList =
      fileExtension.toList ++ '_' :: (currentNum ++ ".bin").toList := by
  rw [binFileName, String.append_assoc, String.append_assoc, String.toList_append,
    String.toList_append]
  rfl

theorem split_binFileName {fileExtension currentNum : String}
    (hword : '_' ∉ fileExtension.toList) (hnum : '_' ∉ currentNum.toList) :
    split '_' (binFileName fileExtension currentNum) = [fileExtension, currentNum ++ ".bin"] := by
  have hrest : '_' ∉ (currentNum ++ ".bin").toList := by
    rw [String.toList_append, List.mem_append, not_or]
    exact ⟨hnum, by decide⟩
  have hne : (currentNum ++ ".bin").toList ≠ [] := by
    rw [String.toList_append]
    simp
  rw [split, binFileName_toList, Library.fields_pair hword hrest hne]
  simp only [List.map_cons, String.ofList_toList, List.map_nil]

theorem fileNum_binFileName {fileExtension : String} (hword : '_' ∉ fileExtension.toList) {n : Int}
    (h : -2 ^ 31 ≤ n) (h' : n < 2 ^ 31) :
    fileNum (binFileName fileExtension (toString n)) = some n := by
  have hdot : split '.' (toString n ++ ".bin") = [toString n, "bin"] := by
    have hparts : (toString n ++ ".bin").toList = (toString n).toList ++ '.' :: "bin".toList := by
      rw [String.toList_append]
      rfl
    rw [split, hparts, Library.fields_pair (notMem_toString (by decide) (by decide) n) (by decide)
      (by decide)]
    simp only [List.map_cons, String.ofList_toList, List.map_nil]
  rw [fileNum, split_binFileName hword (notMem_toString (by decide) (by decide) n)]
  dsimp only
  rw [hdot]
  exact parseInt_toString h h'

theorem getCurrentNum_range (n : Nat) :
    getCurrentNum ((List.range (n + 1)).map (fun k : Nat => (k : Int) + 1)) =
      some (toString (toInt (n + 1 + 1))) := by
  have hmax : ∀ m : Nat, (List.range m).foldl
      (fun (max : Int) (k : Nat) => if (k : Int) + 1 > max then (k : Int) + 1 else max) 0 = m := by
    intro m
    induction m with
    | zero => rfl
    | succ m ih =>
      rw [List.range_succ, List.foldl_append, ih, List.foldl_cons, List.foldl_nil]
      rw [if_pos (by omega)]
      rfl
  have hall := hmax (n + 1)
  rw [List.range_succ_eq_map, List.foldl_cons] at hall
  rw [List.range_succ_eq_map, List.map_cons, getCurrentNum]
  rw [List.foldl_map]
  rw [if_pos (by decide)] at hall
  rw [hall]
  rfl

end Numbers

section Extensions

variable {fileExtension sourceFilePath : String}

theorem extension_eq_some (h : extension sourceFilePath = some fileExtension) :
    '.' ∉ fileExtension.toList ∧ '/' ∉ fileExtension.toList ∧
      getFileExtension sourceFilePath = some fileExtension := by
  rw [extension] at h
  split at h
  · rename_i hdot
    obtain rfl := Option.some.inj h
    obtain ⟨stem, hname⟩ := Library.exists_append_afterLast hdot
    have hnodot := Library.notMem_afterLast '.' (afterLast '/' sourceFilePath.toList)
    have hslash := Library.notMem_afterLast '/' sourceFilePath.toList
    rw [String.toList_ofList]
    generalize afterLast '.' (afterLast '/' sourceFilePath.toList) = last at hname hnodot ⊢
    refine ⟨hnodot, fun hmem => hslash ?_, ?_⟩
    · rw [hname]
      exact List.mem_append_right _ (List.mem_cons_of_mem _ hmem)
    · obtain ⟨before, hpath⟩ : ∃ before, sourceFilePath.toList = before ++ '.' :: last := by
        by_cases hdirectory : '/' ∈ sourceFilePath.toList
        · obtain ⟨directory, hdirectory⟩ := Library.exists_append_afterLast hdirectory
          rw [hname] at hdirectory
          exact ⟨directory ++ '/' :: stem, by rw [hdirectory]; simp⟩
        · rw [Library.afterLast_of_notMem hdirectory] at hname
          exact ⟨stem, hname⟩
      rw [getFileExtension, hpath, if_pos (by simp), Library.afterLast_append_cons _ hnodot]
  · cases h

theorem extension_generateTargetFile (hdot : '.' ∉ fileExtension.toList)
    (hslash : '/' ∉ fileExtension.toList) (time : String) :
    extension (generateTargetFile time fileExtension) = some fileExtension := by
  have htext : (generateTargetFile time fileExtension).toList =
      (fileExtension ++ "_" ++ time).toList ++ '.' :: fileExtension.toList := by
    rw [generateTargetFile, String.toList_append, String.toList_append, List.append_assoc]
    rfl
  have hrest : '/' ∉ '.' :: fileExtension.toList :=
    List.not_mem_cons_of_ne_of_not_mem (by decide) hslash
  rw [extension, htext, Library.afterLast_append _ hrest]
  rw [if_pos (by simp), Library.afterLast_append_cons _ hdot, String.ofList_toList]

theorem names_of_plain {name : String} (hne : name ≠ "") (hslash : '/' ∉ name.toList) :
    names name = [name] := by
  have hkept : [name.toList].filter (fun name => !name.isEmpty) = [name.toList] :=
    List.filter_eq_self.mpr (by simpa using hne)
  rw [names, splitOn_of_notMem hslash, hkept, List.map_singleton, String.ofList_toList]

theorem names_numbered (hslash : '/' ∉ fileExtension.toList) (k : Nat) :
    names (numbered fileExtension k) = [numbered fileExtension k] := by
  refine names_of_plain ?_ ?_
  · intro hempty
    have hchars := congrArg String.toList hempty
    rw [numbered, binFileName_toList] at hchars
    simp at hchars
  · rw [numbered, binFileName_toList, String.toList_append, List.mem_append, List.mem_cons,
      List.mem_append, not_or, not_or, not_or]
    exact ⟨hslash, by decide, notMem_toString (by decide) (by decide) _, by decide⟩

end Extensions

section Folders

-- a folder for each extension, which holds the files with the numbers from 1 on
structure Numbered (folder : BinFolder) : Prop where
  flat : ∀ path entry, folder.node path = some entry →
    entry = .folder ∧ (path = [] ∨ ∃ fileExtension, path = [fileExtension] ∧
      '_' ∉ fileExtension.toList) ∨
    ∃ content fileExtension name, entry = .file content ∧ path = [fileExtension, name]
  counted : ∀ fileExtension, ∃ n,
    folder.children [fileExtension] = (List.range n).map (numbered fileExtension)

theorem numbered_emptyFolder : Numbered emptyFolder := by
  refine ⟨fun path entry h => ?_, fun fileExtension => ⟨0, rfl⟩⟩
  cases h

-- only folders are added, and none below the folder of an extension
structure Opens (folder folder' : BinFolder) : Prop where
  numbered : Numbered folder'
  children : ∀ fileExtension, folder'.children [fileExtension] = folder.children [fileExtension]
  folders : ∀ path, folder.isFolder path = true → folder'.isFolder path = true
  files : ∀ path content, folder'.node path = some (.file content) ↔
    folder.node path = some (.file content)

variable {accepts : String → Bool} {folder : BinFolder} {fileExtension : String}

theorem opens_refl (h : Numbered folder) : Opens folder folder :=
  ⟨h, fun _ => rfl, fun _ hfolder => hfolder, fun _ _ => Iff.rfl⟩

theorem opens_trans {folder' folder'' : BinFolder} (h : Opens folder folder')
    (h' : Opens folder' folder'') : Opens folder folder'' :=
  ⟨h'.numbered, fun name => (h'.children name).trans (h.children name),
    fun path hfolder => h'.folders path (h.folders path hfolder),
    fun path content => (h'.files path content).trans (h.files path content)⟩

theorem opens_insert {folder' : BinFolder} {path : List String} (h : Numbered folder)
    (hpath : path = [] ∨ ∃ fileExtension, path = [fileExtension] ∧ '_' ∉ fileExtension.toList)
    (hinsert : folder.insert path .folder = some folder') : Opens folder folder' := by
  have hchildren : ∀ name, folder'.children [name] = folder.children [name] := by
    intro name
    rw [FileTree.children_insert hinsert]
    have hnone : FileTree.childName [name] (path, (Entry.folder : Entry Bytes)) = none := by
      rcases hpath with rfl | ⟨fileExtension, rfl, _⟩
      · exact if_neg (by simp)
      · exact if_neg (by simp)
    rw [hnone]
    exact List.append_nil _
  have hfresh := (FileTree.insert_isSome_iff.mp (Option.isSome_iff_exists.mpr ⟨_, hinsert⟩)).1
  refine ⟨⟨?_, ?_⟩, hchildren, ?_, ?_⟩
  · intro other entry hnode
    rw [FileTree.node_insert hinsert] at hnode
    split at hnode
    · rename_i heq
      rw [← Option.some.inj hnode, heq]
      exact .inl ⟨rfl, hpath⟩
    · exact h.flat other entry hnode
  · intro name
    rw [hchildren]
    exact h.counted name
  · intro other hfolder
    rw [FileTree.isFolder_iff] at hfolder ⊢
    rw [FileTree.node_insert hinsert]
    split
    · rfl
    · exact hfolder
  · intro other content
    rw [FileTree.node_insert hinsert]
    split
    · rename_i heq
      rw [heq, hfresh]
      exact iff_of_false (by simp) (by simp)
    · exact Iff.rfl

theorem opens_mkdir {path : List String} (h : Numbered folder)
    (hpath : path = [] ∨ ∃ fileExtension, path = [fileExtension] ∧ '_' ∉ fileExtension.toList)
    (haccepts : path.getLast?.all accepts = true)
    (hparent : path = [] ∨ folder.isFolder path.dropLast = true) :
    Opens folder (mkdir accepts folder path) ∧ (mkdir accepts folder path).isFolder path = true := by
  rw [mkdir, if_pos haccepts]
  cases hinsert : folder.insert path .folder with
  | some folder' =>
    refine ⟨opens_insert h hpath hinsert, ?_⟩
    rw [Option.getD_some, FileTree.isFolder_iff, FileTree.node_insert hinsert, if_pos rfl]
  | none =>
    refine ⟨opens_refl h, ?_⟩
    have hnode : folder.node path ≠ none := by
      intro hnone
      have hsome : (folder.insert path .folder).isSome :=
        FileTree.insert_isSome_iff.mpr ⟨hnone, hparent⟩
      rw [hinsert] at hsome
      cases hsome
    obtain ⟨entry, hentry⟩ := Option.ne_none_iff_exists'.mp hnode
    rw [Option.getD_none, FileTree.isFolder_iff, hentry]
    rcases h.flat path entry hentry with ⟨rfl, _⟩ | ⟨content, name, name', rfl, hlong⟩
    · rfl
    · rcases hpath with hnil | ⟨one, hone, _⟩
      · rw [hlong] at hnil
        cases hnil
      · rw [hlong] at hone
        cases hone

end Folders

section Calls

variable {accepts : String → Bool} {folder : BinFolder} {fileExtension sourceFilePath : String}
  {n : Nat}

theorem opens_extension (h : Numbered folder) (hne : fileExtension ≠ "")
    (hslash : '/' ∉ fileExtension.toList) (hword : '_' ∉ fileExtension.toList)
    (haccepts : accepts fileExtension = true) {folder' : BinFolder}
    (hopened : createExtensionFolder accepts (createBinFileFolder accepts folder) fileExtension =
      folder') :
    Opens folder folder' ∧ folder'.isFolder [] = true ∧ folder'.isFolder [fileExtension] = true := by
  have hthree : folder' = mkdir accepts (mkdir accepts (mkdir accepts folder []) [])
      [fileExtension] := by
    rw [← hopened, createExtensionFolder, names_of_plain hne hslash]
    rfl
  have hnil : ([] : List String).getLast?.all accepts = true := rfl
  have hlast : [fileExtension].getLast?.all accepts = true := haccepts
  obtain ⟨hbase, hroot⟩ := opens_mkdir h (.inl rfl) hnil (.inl rfl)
  obtain ⟨hagain, hroot'⟩ := opens_mkdir hbase.numbered (.inl rfl) hnil (.inl rfl)
  obtain ⟨hextension, hfolder⟩ := opens_mkdir hagain.numbered (.inr ⟨fileExtension, rfl, hword⟩)
    hlast (.inr hroot')
  rw [hthree]
  exact ⟨opens_trans (opens_trans hbase hagain) hextension, hextension.folders [] hroot', hfolder⟩

theorem toInt_ne {k : Nat} (hk : k < n) (hn : n < 2 ^ 31) : toInt (k + 1) ≠ toInt (n + 1) := by
  have hsmall : toInt (k + 1) = k + 1 := FileTask.toInt_of_small (by omega) (by omega)
  rw [hsmall]
  by_cases hlast : n + 1 < 2 ^ 31
  · rw [FileTask.toInt_of_small (by omega) (by omega)]
    omega
  · have hwrap : toInt ((n : Int) + 1) = -2 ^ 31 := by
      obtain rfl : n = 2 ^ 31 - 1 := by omega
      rfl
    rw [hwrap]
    omega

theorem numbered_inj {fileExtension' : String} {k : Nat} (hword : '_' ∉ fileExtension.toList)
    (hword' : '_' ∉ fileExtension'.toList)
    (h : numbered fileExtension' k = numbered fileExtension n) :
    fileExtension' = fileExtension ∧ toInt (k + 1) = toInt (n + 1) := by
  have hsign : ∀ m, '_' ∉ (toString (toInt m)).toList :=
    fun m => notMem_toString (by decide) (by decide) _
  have hrange : ∀ m, -2 ^ 31 ≤ toInt m ∧ toInt m < 2 ^ 31 :=
    fun m => ⟨Int.le_bmod (by decide), FileTask.toInt_lt m⟩
  have hsplit := congrArg (split '_') h
  rw [numbered, numbered, split_binFileName hword' (hsign _), split_binFileName hword (hsign _)]
    at hsplit
  have hnum := congrArg fileNum h
  rw [numbered, numbered, fileNum_binFileName hword' (hrange _).1 (hrange _).2,
    fileNum_binFileName hword (hrange _).1 (hrange _).2] at hnum
  exact ⟨(List.cons.inj hsplit).1, Option.some.inj hnum⟩

theorem not_present (h : Numbered folder) (hword : '_' ∉ fileExtension.toList)
    (hchildren : folder.children [fileExtension] = (List.range n).map (numbered fileExtension))
    (hn : n < 2 ^ 31) : ¬ Present folder (numbered fileExtension n) := by
  rintro ⟨path, content, hnode⟩
  rcases h.flat _ _ hnode with ⟨hfolder, _⟩ | ⟨_, fileExtension', name, _, hpath⟩
  · cases hfolder
  · have hparts : path ++ [numbered fileExtension n] = [fileExtension'] ++ [name] := hpath
    obtain ⟨rfl, hname⟩ := List.append_inj' hparts rfl
    have hne : folder.node ([fileExtension'] ++ [numbered fileExtension n]) ≠ none := by
      rw [hnode]
      exact Option.some_ne_none _
    have hparent := FileTree.folder_above (List.cons_ne_nil _ _) hne
    have hword' : '_' ∉ fileExtension'.toList := by
      rcases h.flat _ _ hparent with ⟨_, hnil | ⟨one, hone, hplain⟩⟩ | ⟨_, _, _, hfile, _⟩
      · cases hnil
      · rw [(List.cons.inj hone).1]
        exact hplain
      · cases hfile
    obtain ⟨m, hm⟩ := h.counted fileExtension'
    have hmem : numbered fileExtension n ∈ folder.children [fileExtension'] :=
      FileTree.mem_children.mpr hne
    rw [hm] at hmem
    obtain ⟨k, hk, hnum⟩ := List.mem_map.mp hmem
    obtain ⟨rfl, htoInt⟩ := numbered_inj hword hword' hnum
    have hlength := congrArg List.length (hm.symm.trans hchildren)
    rw [List.length_map, List.length_map, List.length_range, List.length_range] at hlength
    rw [List.mem_range, hlength] at hk
    exact toInt_ne hk hn htoInt

theorem mapM_fileNum (hword : '_' ∉ fileExtension.toList) (ks : List Nat)
    (h : ∀ k ∈ ks, k + 1 < 2 ^ 31) :
    (ks.map (numbered fileExtension)).mapM fileNum = some (ks.map (fun k : Nat => (k : Int) + 1)) := by
  induction ks with
  | nil => rfl
  | cons k ks ih =>
    obtain ⟨hk, hks⟩ := List.forall_mem_cons.mp h
    have hsmall : toInt (k + 1) = k + 1 := FileTask.toInt_of_small (by omega) (by omega)
    have hnum : fileNum (numbered fileExtension k) = some ((k : Int) + 1) := by
      rw [numbered, hsmall]
      exact fileNum_binFileName hword (by omega) (by omega)
    rw [List.map_cons, List.mapM_cons, hnum, ih hks]
    rfl

theorem generateBinFile_eq (hword : '_' ∉ fileExtension.toList)
    (hfolder : folder.isFolder [fileExtension] = true)
    (hchildren : folder.children [fileExtension] = (List.range n).map (numbered fileExtension))
    (hn : n < 2 ^ 31) :
    generateBinFile accepts folder fileExtension [fileExtension] =
      createIn accepts folder fileExtension (numbered fileExtension n) := by
  rw [generateBinFile, listFiles, if_pos hfolder, hchildren]
  dsimp only
  rw [List.length_map, List.length_range]
  cases n with
  | zero => rfl
  | succ n =>
    have hsmall : ∀ k ∈ List.range (n + 1), k + 1 < 2 ^ 31 := by
      intro k hk
      rw [List.mem_range] at hk
      omega
    rw [if_neg (Nat.succ_ne_zero n), mapM_fileNum hword _ hsmall, Option.bind_some,
      getCurrentNum_range]
    rfl

-- a new file behind those of its extension
theorem numbered_insert (h : Numbered folder)
    (hchildren : folder.children [fileExtension] = (List.range n).map (numbered fileExtension))
    {folder' : BinFolder} (hinsert : folder.insert [fileExtension, numbered fileExtension n]
      (.file []) = some folder') : Numbered folder' := by
  refine ⟨?_, ?_⟩
  · intro path entry hnode
    rw [FileTree.node_insert hinsert] at hnode
    split at hnode
    · rename_i heq
      exact .inr ⟨[], fileExtension, _, (Option.some.inj hnode).symm, heq⟩
    · exact h.flat path entry hnode
  · intro name
    rw [FileTree.children_insert hinsert]
    by_cases hsame : name = fileExtension
    · have hnew : FileTree.childName [name] ([fileExtension, numbered fileExtension n],
          (Entry.file [] : Entry Bytes)) = some (numbered fileExtension n) := by
        rw [FileTree.childName_eq_some, hsame]
        rfl
      refine ⟨n + 1, ?_⟩
      rw [hnew, hsame, hchildren, List.range_succ, List.map_append]
      rfl
    · have hnone : FileTree.childName [name] ([fileExtension, numbered fileExtension n],
          (Entry.file [] : Entry Bytes)) = none := by
        refine if_neg (fun heq => hsame ?_)
        exact (List.cons.inj heq).1.symm
      rw [hnone, Option.toList_none, List.append_nil]
      exact h.counted name

theorem createIn_eq (h : Numbered folder) (hne : fileExtension ≠ "")
    (hslash : '/' ∉ fileExtension.toList) (hword : '_' ∉ fileExtension.toList)
    (hfolder : folder.isFolder [fileExtension] = true)
    (hchildren : folder.children [fileExtension] = (List.range n).map (numbered fileExtension))
    (hn : n < 2 ^ 31) (haccepts : accepts (numbered fileExtension n) = true) :
    ∃ folder', createIn accepts folder fileExtension (numbered fileExtension n) =
      (folder', some (numbered fileExtension n)) ∧
        Numbered folder' ∧ Present folder' (numbered fileExtension n) := by
  have hnone : folder.node [fileExtension, numbered fileExtension n] = none := by
    by_contra hnode
    obtain ⟨entry, hentry⟩ := Option.ne_none_iff_exists'.mp hnode
    rcases h.flat _ _ hentry with ⟨_, hnil | ⟨one, hone, _⟩⟩ | ⟨content, _, _, rfl, _⟩
    · cases hnil
    · cases hone
    · exact not_present h hword hchildren hn ⟨[fileExtension], content, hentry⟩
  have hsome : (folder.insert [fileExtension, numbered fileExtension n] (.file [])).isSome :=
    FileTree.insert_isSome_iff.mpr ⟨hnone, .inr hfolder⟩
  obtain ⟨folder', hinsert⟩ := Option.isSome_iff_exists.mp hsome
  refine ⟨folder', ?_, numbered_insert h hchildren hinsert, [fileExtension], [], ?_⟩
  · rw [createIn, names_of_plain hne hslash, names_numbered hslash, List.singleton_append,
      createNewFileName, hnone]
    simp only [Option.isSome_none, Bool.false_eq_true, if_false, List.getLast?_cons_cons,
      List.getLast?_singleton, Option.all_some, haccepts, if_true, hinsert]
  · rw [List.singleton_append, FileTree.node_insert hinsert, if_pos rfl]

theorem traverseBinFileFolder_eq (hfolder : folder.isFolder [fileExtension] = true) :
    traverseBinFileFolder folder (folder.children []) fileExtension = some fileExtension := by
  have hmem : fileExtension ∈ folder.children [] := by
    rw [FileTree.mem_children, List.nil_append, FileTree.isFolder_iff.mp hfolder]
    exact Option.some_ne_none _
  cases hfind : traverseBinFileFolder folder (folder.children []) fileExtension with
  | none =>
    have hno := List.find?_eq_none.mp hfind fileExtension hmem
    rw [hfolder] at hno
    simp at hno
  | some name =>
    have hname := List.find?_some hfind
    rw [Bool.and_eq_true, decide_eq_true_eq] at hname
    rw [hname.2]

theorem createBinFile_eq (h : Numbered folder) (hsource : extension sourceFilePath = some fileExtension)
    (hext : Nameable accepts folder fileExtension) :
    ∃ folder', createBinFile accepts folder sourceFilePath = (folder',
        some (numbered fileExtension (folder.children [fileExtension]).length)) ∧
      Numbered folder' ∧
        Present folder' (numbered fileExtension (folder.children [fileExtension]).length) := by
  obtain ⟨_, hslash, hextension⟩ := extension_eq_some hsource
  obtain ⟨m, hm⟩ := h.counted fileExtension
  obtain ⟨hopens, hroot, hfolder⟩ :=
    opens_extension h hext.nonempty hslash hext.word hext.folder_fits rfl
  rw [createBinFile, hextension]
  dsimp only
  generalize createExtensionFolder accepts (createBinFileFolder accepts folder) fileExtension =
    opened at hopens hroot hfolder ⊢
  have hchildren : opened.children [fileExtension] =
      (List.range (folder.children [fileExtension]).length).map (numbered fileExtension) := by
    rw [hopens.children, hm, List.length_map, List.length_range]
  rw [listFiles, if_pos hroot]
  dsimp only
  rw [traverseBinFileFolder_eq hfolder, Option.getD_some, names_of_plain hext.nonempty hslash,
    generateBinFile_eq hext.word hfolder hchildren hext.count]
  exact createIn_eq hopens.numbered hext.nonempty hslash hext.word hfolder hchildren hext.count
    hext.file_fits

theorem fresh_step (h : Numbered folder) (hext : HasExtension accepts folder sourceFilePath) :
    Fresh accepts folder sourceFilePath ∧
      Numbered (createBinFile accepts folder sourceFilePath).1 := by
  obtain ⟨fileExtension, hsource, hnameable⟩ := hext
  obtain ⟨hdot, hslash, _⟩ := extension_eq_some hsource
  obtain ⟨folder', hcreate, hnumbered, hpresent⟩ := createBinFile_eq h hsource hnameable
  obtain ⟨n, hn⟩ := h.counted fileExtension
  have hcount : folder.children [fileExtension] =
      (List.range (folder.children [fileExtension]).length).map (numbered fileExtension) := by
    rw [hn, List.length_map, List.length_range]
  rw [hcreate]
  refine ⟨⟨_, ?_, not_present h hnameable.word hcount hnameable.count, ?_, fun time => ?_⟩,
    hnumbered⟩
  · rw [hcreate]
  · rw [hcreate]
    exact hpresent
  · have hsplit := split_binFileName hnameable.word (notMem_toString (c := '_') (by decide)
      (by decide) (toInt ((folder.children [fileExtension]).length + 1)))
    rw [numbered, getTargetFilePath, hsplit]
    dsimp only
    rw [Option.map_some, extension_generateTargetFile hdot hslash, hsource]

theorem bin_files_fresh (accepts : String → Bool) (sources : List String)
    (h : (binMachine accepts).Guarded (HasExtension accepts) emptyFolder sources) :
    (binMachine accepts).Guarded (Fresh accepts) emptyFolder sources :=
  Machine.guarded_of_invariant _ (fun _ _ hnumbered hext => (fresh_step hnumbered hext).2)
    (fun _ _ hnumbered hext => (fresh_step hnumbered hext).1) h numbered_emptyFolder

theorem bin_files_fresh_videos :
    (binMachine (fun _ => true)).Guarded (HasExtension (fun _ => true)) emptyFolder
        ["/sdcard/DCIM/a.b.MP4", "/sdcard/c.MP4"] ∧
      (binMachine (fun _ => true)).Guarded (Fresh (fun _ => true)) emptyFolder
        ["/sdcard/DCIM/a.b.MP4", "/sdcard/c.MP4"] := by
  have h : (binMachine (fun _ => true)).Guarded (HasExtension (fun _ => true)) emptyFolder
      ["/sdcard/DCIM/a.b.MP4", "/sdcard/c.MP4"] :=
    ⟨⟨"MP4", by decide, by decide, by decide, by decide, rfl, rfl⟩,
      ⟨"MP4", by decide, by decide, by decide, by decide, rfl, rfl⟩, trivial⟩
  exact ⟨h, bin_files_fresh _ _ h⟩

-- the target of x.tar_gz is a .tar file
theorem bin_file_of_tar_gz : ¬ ∀ (accepts : String → Bool) (sources : List String),
    (binMachine accepts).Guarded (Fresh accepts) emptyFolder sources := by
  intro h
  obtain ⟨binName, hbin⟩ := (h (fun _ => true) ["/sdcard/x.tar_gz"]).1
  have hname : binName = "tar_gz_1.bin" := by
    have hreturned : (createBinFile (fun _ => true) emptyFolder "/sdcard/x.tar_gz").2 =
        some "tar_gz_1.bin" := by decide
    exact Option.some.inj (hbin.returned.symm.trans hreturned)
  have htarget := hbin.target "20230101_00_00_00"
  rw [hname] at htarget
  revert htarget
  decide

end Calls

end FileUtil

end TorChat
