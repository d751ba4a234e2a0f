import TorChat.Library.Interleaving
import TorChat.Library.Machine
import TorChat.Util.KeyState
import Mathlib.Data.List.TakeWhile

namespace TorChat

open Library (Bytes Interleaving Machine)
open JniEntryUtils (getKeyIndex setFileKeyLocation)
open XORutil (xorFile2Byte greaterKeyIndex)

namespace IndexRace

-- the accesses to key.bin: the first two are the builder's, the last three the handshake's
inductive Access where
  | read
  | write
  | install
  | readOwn
  | writeOwn
  deriving DecidableEq, Repr

inductive Builder where
  | createDataMessageExternalPaylod
  | buildACKDataMessage
  | buildFileMetaMessage
  | buildFileReadyMessage
  | buildFileDataMessage
  | buildFileDoneMessage
  deriving DecidableEq, Repr

-- a META cell carries a placeholder; every other one serialises the index it read twice
def Builder.accesses : Builder → List Access
  | .buildFileMetaMessage => []
  | _ => [.read, .write, .write]

def handShakeAccesses : KeyState.HandShakeStep → List Access
  | .openRequest => [.readOwn, .install]
  | .acceptRequest _ _ => [.install, .readOwn, .writeOwn]
  | .acceptAuth _ _ => [.install]

-- the file and the local variable fileIndex of either thread
structure Race where
  keyFile : Bytes
  fileIndex : Nat := 0
  ownIndex : Nat := 0

section Steps

variable (keys : KeyState) (step : KeyState.HandShakeStep)

def chosenIndex (ownIndex : Nat) : Nat :=
  match step with
  | .openRequest => ownIndex + 1
  | .acceptRequest _ friendStartXORIndex => greaterKeyIndex friendStartXORIndex keys.startFileIndex
  | .acceptAuth _ startXORIndex => startXORIndex

def access (s : Race) : Access → Race
  | .read => { s with fileIndex := getKeyIndex s.keyFile }
  | .write => { s with keyFile := (xorFile2Byte s.keyFile 1 s.fileIndex).2 }
  | .install => { s with keyFile := setFileKeyLocation s.keyFile (chosenIndex keys step s.ownIndex) }
  | .readOwn => { s with ownIndex := getKeyIndex s.keyFile }
  | .writeOwn => { s with keyFile := (xorFile2Byte s.keyFile 1 s.ownIndex).2 }

def machine : Machine Race Access := ⟨access keys step⟩

def final (trace : List Access) : Race := (machine keys step).run { keyFile := keys.keyFile } trace

end Steps

def afterInstall (trace : List Access) : List Access := trace.dropWhile (· ≠ .install)

-- everything from the install on, but for what lies between the handshake's own read and write
def exposed (trace : List Access) : List Access :=
  (afterInstall trace).takeWhile (· ≠ .readOwn) ++ (afterInstall trace).dropWhile (· ≠ .writeOwn)

def Kept (trace : List Access) : Prop :=
  .read ∈ afterInstall trace ∨ .write ∉ exposed trace

instance (trace : List Access) : Decidable (Kept trace) :=
  inferInstanceAs (Decidable (_ ∨ _))

def writes (n : Nat) : List Access := List.replicate n .write

section Sequential

variable (keys : KeyState) (step : KeyState.HandShakeStep)

theorem final_handShake :
    (final keys step (handShakeAccesses step)).keyFile = (keys.handShake step).keyFile := by
  cases step <;> rfl

theorem final_builder {b : Builder} (h : b ≠ .buildFileMetaMessage) :
    (final keys step b.accesses).keyFile = keys.writeBack.writeBack.keyFile := by
  have hsame : getKeyIndex keys.writeBack.keyFile = getKeyIndex keys.keyFile :=
    keys.keyIndex_writeBack
  rw [KeyState.writeBack, KeyState.write, KeyState.keyIndex, hsame]
  cases b with
  | buildFileMetaMessage => exact absurd rfl h
  | _ => rfl

end Sequential

section Values

variable (keys : KeyState) (step : KeyState.HandShakeStep) {s : Race}
  {header fileIndex ownIndex : Nat}

structure Race.At (s : Race) (header fileIndex ownIndex : Nat) : Prop where
  header : getKeyIndex s.keyFile = header
  fileIndex : s.fileIndex = fileIndex
  ownIndex : s.ownIndex = ownIndex

theorem at_read (h : s.At header fileIndex ownIndex) :
    (access keys step s .read).At header header ownIndex := ⟨h.header, h.header, h.ownIndex⟩

theorem at_readOwn (h : s.At header fileIndex ownIndex) :
    (access keys step s .readOwn).At header fileIndex header := ⟨h.header, h.fileIndex, h.header⟩

theorem header_set (keyFile : Bytes) {index : Nat} (h : index ≤ 255) :
    getKeyIndex (setFileKeyLocation keyFile index) = index := by
  rw [JniEntryUtils.getKeyIndex_set, if_pos h]

theorem at_write (hle : fileIndex ≤ 255) (h : s.At header fileIndex ownIndex) :
    (access keys step s .write).At fileIndex fileIndex ownIndex := by
  refine ⟨?_, h.fileIndex, h.ownIndex⟩
  change getKeyIndex (setFileKeyLocation s.keyFile s.fileIndex) = fileIndex
  rw [h.fileIndex, header_set _ hle]

theorem at_writeOwn (hle : ownIndex ≤ 255) (h : s.At header fileIndex ownIndex) :
    (access keys step s .writeOwn).At ownIndex fileIndex ownIndex := by
  refine ⟨?_, h.fileIndex, h.ownIndex⟩
  change getKeyIndex (setFileKeyLocation s.keyFile s.ownIndex) = ownIndex
  rw [h.ownIndex, header_set _ hle]

theorem at_install (hle : chosenIndex keys step ownIndex ≤ 255)
    (h : s.At header fileIndex ownIndex) :
    (access keys step s .install).At (chosenIndex keys step ownIndex) fileIndex ownIndex := by
  refine ⟨?_, h.fileIndex, h.ownIndex⟩
  change getKeyIndex (setFileKeyLocation s.keyFile (chosenIndex keys step s.ownIndex)) = _
  rw [h.ownIndex, header_set _ hle]

theorem at_writes (hle : fileIndex ≤ 255) (n : Nat) (h : s.At header fileIndex ownIndex) :
    ((machine keys step).run s (writes n)).At (if n = 0 then header else fileIndex) fileIndex
      ownIndex := by
  induction n generalizing s header with
  | zero => exact h
  | succ n ih =>
    have hnext := ih (at_write keys step hle h)
    rw [ite_self] at hnext
    exact hnext

theorem at_reading (hle : header ≤ 255) (n : Nat) (h : s.At header fileIndex ownIndex) :
    ((machine keys step).run s (.read :: writes n)).At header header ownIndex := by
  have hnext := at_writes keys step hle n (at_read keys step h)
  rw [ite_self] at hnext
  exact hnext

end Values

section Parts

-- a part of the builder's accesses taken in one go: none, its read and some writes, or only writes
theorem split_writes {n : Nat} {before after : List Access} (h : writes n = before ++ after) :
    ∃ i j, before = writes i ∧ after = writes j := by
  obtain ⟨-, hbefore, hafter⟩ := List.append_eq_replicate_iff.mp h.symm
  exact ⟨_, _, hbefore, hafter⟩

theorem split_reading {n : Nat} {before after : List Access}
    (h : .read :: writes n = before ++ after) :
    before = [] ∧ after = .read :: writes n ∨
      ∃ i j, before = .read :: writes i ∧ after = writes j := by
  cases before with
  | nil => exact .inl ⟨rfl, h.symm⟩
  | cons first before =>
    obtain ⟨rfl, hrest⟩ := List.cons.inj h
    obtain ⟨i, j, rfl, rfl⟩ := split_writes hrest
    exact .inr ⟨i, j, rfl, rfl⟩

theorem mem_writes {x : Access} {n : Nat} : x ∈ writes n ↔ n ≠ 0 ∧ x = .write :=
  List.mem_replicate

def OfBuilder (part : List Access) : Prop := ∀ x ∈ part, x = .read ∨ x = .write

theorem ofBuilder_writes (n : Nat) : OfBuilder (writes n) :=
  fun _ hx => .inr (mem_writes.mp hx).2

theorem ofBuilder_reading (n : Nat) : OfBuilder (.read :: writes n) := by
  intro x hx
  rcases List.mem_cons.mp hx with rfl | hx
  · exact .inl rfl
  · exact ofBuilder_writes n x hx

theorem ofBuilder_ne {part : List Access} (h : OfBuilder part) {x y : Access} (hx : x ∈ part)
    (hread : y ≠ .read) (hwrite : y ≠ .write) : x ≠ y := by
  rintro rfl
  exact (h x hx).elim hread hwrite

theorem dropWhile_part {part rest : List Access} (h : OfBuilder part) {y : Access}
    (hread : y ≠ .read) (hwrite : y ≠ .write) :
    (part ++ y :: rest).dropWhile (· ≠ y) = y :: rest := by
  rw [List.dropWhile_append_of_pos
    (fun x hx => decide_eq_true (ofBuilder_ne h hx hread hwrite)), List.dropWhile_cons_of_neg]
  simp

theorem takeWhile_part {part rest : List Access} (h : OfBuilder part) {y : Access}
    (hread : y ≠ .read) (hwrite : y ≠ .write) :
    (part ++ y :: rest).takeWhile (· ≠ y) = part := by
  rw [List.takeWhile_append_of_pos
    (fun x hx => decide_eq_true (ofBuilder_ne h hx hread hwrite)), List.takeWhile_cons_of_neg]
  · exact List.append_nil part
  · simp

theorem afterInstall_append {before rest : List Access} (h : ∀ x ∈ before, x ≠ .install) :
    afterInstall (before ++ .install :: rest) = .install :: rest := by
  rw [afterInstall, List.dropWhile_append_of_pos (fun x hx => decide_eq_true (h x hx)),
    List.dropWhile_cons_of_neg]
  simp

-- the handshake ends with the install, so every later write of the builder is exposed
theorem kept_of_last {before after : List Access} (hbefore : ∀ x ∈ before, x ≠ .install)
    (hafter : OfBuilder after) :
    Kept (before ++ .install :: after) ↔ .read ∈ after ∨ .write ∉ after := by
  have htake : after.takeWhile (· ≠ .readOwn) = after := List.takeWhile_eq_self_iff.mpr
    (fun x hx => decide_eq_true (ofBuilder_ne hafter hx (by decide) (by decide)))
  have hdrop : after.dropWhile (· ≠ .writeOwn) = [] := List.dropWhile_eq_nil_iff.mpr
    (fun x hx => decide_eq_true (ofBuilder_ne hafter hx (by decide) (by decide)))
  rw [Kept, exposed, afterInstall_append hbefore, List.takeWhile_cons_of_pos (by decide), htake,
    List.dropWhile_cons_of_pos (by decide), hdrop]
  simp

theorem kept_of_readBack {before between window after : List Access} (hbefore : OfBuilder before)
    (hbetween : OfBuilder between) (hwindow : OfBuilder window) :
    Kept (before ++ .install :: (between ++ .readOwn :: (window ++ .writeOwn :: after))) ↔
      (.read ∈ between ∨ .read ∈ window ∨ .read ∈ after) ∨ .write ∉ between ∧ .write ∉ after := by
  have hinstall : ∀ x ∈ before, x ≠ .install :=
    fun x hx => ofBuilder_ne hbefore hx (by decide) (by decide)
  have hskip : (between ++ .readOwn :: (window ++ .writeOwn :: after)).dropWhile (· ≠ .writeOwn) =
      .writeOwn :: after := by
    rw [List.dropWhile_append_of_pos (fun x hx =>
      decide_eq_true (ofBuilder_ne hbetween hx (by decide) (by decide))),
      List.dropWhile_cons_of_pos (by decide)]
    exact dropWhile_part hwindow (by decide) (by decide)
  rw [Kept, exposed, afterInstall_append hinstall, List.takeWhile_cons_of_pos (by decide),
    takeWhile_part hbetween (by decide) (by decide), List.dropWhile_cons_of_pos (by decide), hskip]
  simp

end Parts

section Outcome

variable {keys : KeyState} {step : KeyState.HandShakeStep}

def Installs (keys : KeyState) (step : KeyState.HandShakeStep) : Prop :=
  keys.selectedIndex step ≤ 255

instance : Decidable (Installs keys step) := inferInstanceAs (Decidable (_ ≤ 255))

def IndexKept (keys : KeyState) (step : KeyState.HandShakeStep) (trace : List Access) : Prop :=
  getKeyIndex (final keys step trace).keyFile = keys.selectedIndex step

theorem start (keys : KeyState) : ({ keyFile := keys.keyFile } : Race).At keys.keyIndex 0 0 :=
  ⟨rfl, rfl, rfl⟩

theorem keyIndex_handShake_of_installs (h : Installs keys step) :
    (keys.handShake step).keyIndex = keys.selectedIndex step := by
  rw [KeyState.keyIndex_handShake]
  exact if_pos h

-- the handshake's last access installs the selected index, and the builder goes on with after:
-- it reads the new index there, or it has read the old one before
theorem indexKept_of_last {before after : List Access} {header fileIndex ownIndex : Nat}
    (hinstalls : Installs keys step) (hbefore : ∀ x ∈ before, x ≠ .install)
    (hat : ((machine keys step).run { keyFile := keys.keyFile } before).At header fileIndex ownIndex)
    (hchosen : chosenIndex keys step ownIndex = keys.selectedIndex step)
    (hafter : after = .read :: writes 2 ∨ fileIndex = keys.keyIndex ∧ ∃ j, after = writes j) :
    IndexKept keys step (before ++ .install :: after) ↔
      Kept (before ++ .install :: after) ∨ keys.keyIndex = keys.selectedIndex step := by
  have hinstalled := at_install keys step (hchosen ▸ hinstalls) hat
  rw [hchosen] at hinstalled
  rcases hafter with rfl | ⟨rfl, j, rfl⟩
  · have hfinal : IndexKept keys step (before ++ .install :: (.read :: writes 2)) := by
      rw [IndexKept, final, Machine.run_append, Machine.run_cons]
      exact (at_reading keys step hinstalls 2 hinstalled).header
    rw [kept_of_last hbefore (ofBuilder_reading 2)]
    exact iff_of_true hfinal (.inl (.inl List.mem_cons_self))
  · have hfinal : getKeyIndex (final keys step (before ++ .install :: writes j)).keyFile =
        if j = 0 then keys.selectedIndex step else keys.keyIndex := by
      rw [final, Machine.run_append, Machine.run_cons]
      exact (at_writes keys step keys.keyIndex_le j hinstalled).header
    rw [IndexKept, hfinal, kept_of_last hbefore (ofBuilder_writes j)]
    by_cases hj : j = 0
    · simp [hj, mem_writes]
    · simp [hj, mem_writes]

theorem indexKept_acceptAuth {startXORFileName startXORIndex : Nat} {trace : List Access}
    (hinstalls : Installs keys (.acceptAuth startXORFileName startXORIndex))
    (h : Interleaving (.read :: writes 2)
      (handShakeAccesses (.acceptAuth startXORFileName startXORIndex)) trace) :
    IndexKept keys (.acceptAuth startXORFileName startXORIndex) trace ↔
      Kept trace ∨ keys.keyIndex =
        keys.selectedIndex (.acceptAuth startXORFileName startXORIndex) := by
  obtain ⟨before, after, rest, hparts, rfl, hrest⟩ := h.split_right
  obtain rfl := hrest.eq_of_nil
  rcases split_reading hparts with ⟨rfl, rfl⟩ | ⟨i, j, rfl, rfl⟩
  · exact indexKept_of_last hinstalls (fun _ hx => absurd hx List.not_mem_nil) (start keys) rfl
      (.inl rfl)
  · exact indexKept_of_last hinstalls
      (fun x hx => ofBuilder_ne (ofBuilder_reading i) hx (by decide) (by decide))
      (at_reading keys _ keys.keyIndex_le i (start keys)) rfl (.inr ⟨rfl, j, rfl⟩)

theorem indexKept_openRequest {trace : List Access} (hinstalls : Installs keys .openRequest)
    (h : Interleaving (.read :: writes 2) (handShakeAccesses .openRequest) trace) :
    IndexKept keys .openRequest trace ↔
      Kept trace ∨ keys.keyIndex = keys.selectedIndex .openRequest := by
  obtain ⟨first, left, trace', hparts, rfl, hopen⟩ := h.split_right
  obtain ⟨second, last, rest, rfl, rfl, hinstall⟩ := hopen.split_right
  obtain rfl := hinstall.eq_of_nil
  have hlast : ∃ header fileIndex, ((machine keys .openRequest).run { keyFile := keys.keyFile }
      (first ++ .readOwn :: second)).At header fileIndex keys.keyIndex ∧
        (rest = .read :: writes 2 ∨ fileIndex = keys.keyIndex ∧ ∃ j, rest = writes j) ∧
          OfBuilder first ∧ OfBuilder second := by
    rw [Machine.run_append, Machine.run_cons]
    rcases split_reading hparts with ⟨rfl, hleft⟩ | ⟨i, j, rfl, hleft⟩
    · have hown := at_readOwn keys .openRequest (start keys)
      rcases split_reading hleft.symm with ⟨rfl, rfl⟩ | ⟨k, l, rfl, rfl⟩
      · exact ⟨_, _, hown, .inl rfl, ofBuilder_writes 0, ofBuilder_writes 0⟩
      · exact ⟨_, _, at_reading keys _ keys.keyIndex_le k hown, .inr ⟨rfl, l, rfl⟩,
          ofBuilder_writes 0, ofBuilder_reading k⟩
    · have hread := at_reading keys .openRequest keys.keyIndex_le i (start keys)
      have hown := at_readOwn keys .openRequest hread
      obtain ⟨k, l, rfl, rfl⟩ := split_writes hleft.symm
      exact ⟨_, _, at_writes keys _ keys.keyIndex_le k hown, .inr ⟨rfl, l, rfl⟩,
        ofBuilder_reading i, ofBuilder_writes k⟩
  obtain ⟨header, fileIndex, hat, hafter, hfirst, hsecond⟩ := hlast
  have hbefore : ∀ x ∈ first ++ .readOwn :: second, x ≠ .install := by
    intro x hx
    rcases List.mem_append.mp hx with hx | hx
    · exact ofBuilder_ne hfirst hx (by decide) (by decide)
    · rcases List.mem_cons.mp hx with rfl | hx
      · decide
      · exact ofBuilder_ne hsecond hx (by decide) (by decide)
  have hkept := indexKept_of_last hinstalls hbefore hat rfl hafter
  rw [List.append_assoc, List.cons_append] at hkept
  exact hkept

section AcceptRequest

variable {between window after : List Access}

-- the builder does nothing before the install, so every index read afterwards is the new one
theorem header_of_new {s : Race} (hinstalls : Installs keys step)
    (hs : s.At (keys.selectedIndex step) 0 0)
    (hparts : .read :: writes 2 = between ++ (window ++ after)) :
    getKeyIndex ((machine keys step).run s
      (between ++ .readOwn :: (window ++ .writeOwn :: after))).keyFile = keys.selectedIndex step := by
  rw [Machine.run_append, Machine.run_cons, Machine.run_append, Machine.run_cons]
  rcases split_reading hparts with ⟨rfl, hrest⟩ | ⟨i, j, rfl, hrest⟩
  · have hown := at_readOwn keys step hs
    rcases split_reading hrest.symm with ⟨rfl, rfl⟩ | ⟨k, l, rfl, rfl⟩
    · have hback := at_writeOwn keys step hinstalls hown
      exact (at_reading keys step hinstalls 2 hback).header
    · have hread := at_reading keys step hinstalls k hown
      have hback := at_writeOwn keys step hinstalls hread
      have hlast := (at_writes keys step hinstalls l hback).header
      rwa [ite_self] at hlast
  · obtain ⟨k, l, rfl, rfl⟩ := split_writes hrest.symm
    have hown := at_readOwn keys step (at_reading keys step hinstalls i hs)
    have hwindow := at_writes keys step hinstalls k hown
    have hback := at_writeOwn keys step hinstalls hwindow
    have hlast := (at_writes keys step hinstalls l hback).header
    rwa [ite_self] at hlast

-- the builder holds the old index; what the handshake reads back is new unless it wrote between
theorem header_of_old {s : Race} (hinstalls : Installs keys step) {j k l : Nat}
    (hs : s.At (keys.selectedIndex step) keys.keyIndex 0) :
    getKeyIndex ((machine keys step).run s
      (writes j ++ .readOwn :: (writes k ++ .writeOwn :: writes l))).keyFile =
        if j = 0 ∧ l = 0 then keys.selectedIndex step else keys.keyIndex := by
  have hown := at_readOwn keys step (at_writes keys step keys.keyIndex_le j hs)
  have hwindow := at_writes keys step keys.keyIndex_le k hown
  have hle : (if j = 0 then keys.selectedIndex step else keys.keyIndex) ≤ 255 := by
    split
    · exact hinstalls
    · exact keys.keyIndex_le
  have hback := at_writeOwn keys step hle hwindow
  have hlast := (at_writes keys step keys.keyIndex_le l hback).header
  rw [Machine.run_append, Machine.run_cons, Machine.run_append, Machine.run_cons]
  refine hlast.trans ?_
  by_cases hl : l = 0
  · simp only [hl, if_true, and_true]
  · simp only [hl, if_false, and_false]

theorem indexKept_acceptRequest {fileName fileIndex : Nat} {trace : List Access}
    (hinstalls : Installs keys (.acceptRequest fileName fileIndex))
    (h : Interleaving (.read :: writes 2)
      (handShakeAccesses (.acceptRequest fileName fileIndex)) trace) :
    IndexKept keys (.acceptRequest fileName fileIndex) trace ↔
      Kept trace ∨ keys.keyIndex = keys.selectedIndex (.acceptRequest fileName fileIndex) := by
  obtain ⟨before, left, trace', hparts, rfl, hinstall⟩ := h.split_right
  obtain ⟨between, left', trace'', rfl, rfl, hread⟩ := hinstall.split_right
  obtain ⟨window, after, rest, rfl, rfl, hwrite⟩ := hread.split_right
  obtain rfl := hwrite.eq_of_nil
  rcases split_reading hparts with ⟨rfl, hleft⟩ | ⟨i, n, rfl, hleft⟩
  · have hnothing : OfBuilder [] := ofBuilder_writes 0
    have hall : OfBuilder (between ++ (window ++ rest)) := hleft ▸ ofBuilder_reading 2
    have hmem : .read ∈ between ++ (window ++ rest) := hleft ▸ List.mem_cons_self
    have hinstalled := at_install keys (.acceptRequest fileName fileIndex) hinstalls (start keys)
    rw [kept_of_readBack hnothing (fun x hx => hall x (List.mem_append_left _ hx))
      (fun x hx => hall x (List.mem_append_right _ (List.mem_append_left _ hx)))]
    rw [List.mem_append, List.mem_append] at hmem
    exact iff_of_true (header_of_new hinstalls hinstalled hleft.symm) (.inl (.inl hmem))
  · obtain ⟨j, m, rfl, hrest⟩ := split_writes hleft.symm
    obtain ⟨k, l, rfl, rfl⟩ := split_writes hrest.symm
    have hread := at_reading keys (.acceptRequest fileName fileIndex) keys.keyIndex_le i (start keys)
    have hinstalled := at_install keys (.acceptRequest fileName fileIndex) hinstalls hread
    have hfinal := header_of_old (j := j) (k := k) (l := l) hinstalls hinstalled
    rw [kept_of_readBack (ofBuilder_reading i) (ofBuilder_writes j) (ofBuilder_writes k), IndexKept,
      final, Machine.run_append, Machine.run_cons]
    refine (iff_of_eq (congrArg (· = _) hfinal)).trans ?_
    by_cases hj : j = 0
    · by_cases hl : l = 0 <;> simp [hj, hl, mem_writes]
    · simp [hj, mem_writes]

end AcceptRequest

theorem kept_handShakeAccesses (step : KeyState.HandShakeStep) : Kept (handShakeAccesses step) := by
  cases step with
  | openRequest => decide
  | acceptRequest fileName fileIndex => exact (by decide : Kept [.install, .readOwn, .writeOwn])
  | acceptAuth fileName fileIndex => exact (by decide : Kept [.install])

theorem index_kept_iff (hinstalls : Installs keys step) {b : Builder} {trace : List Access}
    (h : Interleaving b.accesses (handShakeAccesses step) trace) :
    IndexKept keys step trace ↔ Kept trace ∨ keys.keyIndex = keys.selectedIndex step := by
  cases hb : b.accesses with
  | nil =>
    rw [hb] at h
    obtain rfl := h.eq_of_nil_left
    refine iff_of_true ?_ (.inl (kept_handShakeAccesses step))
    rw [IndexKept, final_handShake]
    exact keyIndex_handShake_of_installs hinstalls
  | cons first rest =>
    have hreading : b.accesses = .read :: writes 2 := by
      cases b with
      | buildFileMetaMessage => cases hb
      | _ => rfl
    rw [hreading] at h
    cases step with
    | openRequest => exact indexKept_openRequest hinstalls h
    | acceptRequest fileName fileIndex => exact indexKept_acceptRequest hinstalls h
    | acceptAuth fileName fileIndex => exact indexKept_acceptAuth hinstalls h

def stored : KeyState := { keyFile := [5] }

theorem index_kept_iff_read_after_install :
    IndexKept stored (.acceptAuth 1 9) [.install, .read, .write, .write] := by
  have hrace : Interleaving [Access.read, .write, .write] [.install]
      [.install, .read, .write, .write] :=
    .right _ (.left _ (.left _ (.left _ .nil)))
  have hinstalls : Installs stored (.acceptAuth 1 9) := by decide
  exact (index_kept_iff hinstalls (b := .buildACKDataMessage) hrace).mpr (.inl (by decide))

theorem stale_index_written_back : ¬ ∀ (keys : KeyState) (step : KeyState.HandShakeStep)
    (b : Builder) (trace : List Access), Installs keys step →
      Interleaving b.accesses (handShakeAccesses step) trace → IndexKept keys step trace := by
  intro hall
  have hrace : Interleaving [Access.read, .write, .write] [.install]
      [.read, .install, .write, .write] :=
    .left _ (.right _ (.left _ (.left _ .nil)))
  have hkept := hall stored (.acceptAuth 1 9) .buildACKDataMessage _ (by decide) hrace
  revert hkept
  rw [IndexKept]
  decide +kernel

end Outcome

end IndexRace

end TorChat
