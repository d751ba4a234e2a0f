import TorChat.Jni.KeyFile

namespace TorChat

open Library (Bytes)

namespace ServiceLoaderImpl

-- where in the file the bytes stand that the read delivers
def keySlot (keyFile : Bytes) (postions : Int) : List Nat :=
  ((List.range keyFile.length).drop (keySkip postions)).take 32

def bytesAt (keyFile : Bytes) (slot : List Nat) : Bytes := slot.map (fun i => keyFile.getD i 0)

structure ReturnsSlot (keyFile : Bytes) (postions : Int) : Prop where
  whole : (keySlot keyFile postions).length = 32
  inside : ∀ i ∈ keySlot keyFile postions, 1 ≤ i ∧ i < keyFile.length
  value : getFileKeyLocation keyFile postions =
    bytesToHexString (bytesAt keyFile (keySlot keyFile postions))

def ReportsExhausted (keyFile : Bytes) (postions : Int) : Prop :=
  getFileKeyLocation keyFile postions = "密钥用尽"

structure SlotsApart (keyFile : Bytes) (i j : Int) : Prop where
  first : ReturnsSlot keyFile i ∨ ReportsExhausted keyFile i
  second : ReturnsSlot keyFile j ∨ ReportsExhausted keyFile j
  apart : ReturnsSlot keyFile i → ReturnsSlot keyFile j →
    (keySlot keyFile i).Disjoint (keySlot keyFile j)

def Fits (keyFile : Bytes) (postions : Int) : Prop :=
  0 ≤ postions → postions ≤ 255 → 32 * max postions 1 + 1 ≤ keyFile.length

section Slot

variable {keyFile : Bytes} {postions : Int}

theorem bytesAt_range (keyFile : Bytes) : bytesAt keyFile (List.range keyFile.length) = keyFile := by
  apply List.ext_getElem
  · simp [bytesAt]
  · intro i hi hi'
    simp [bytesAt, hi']

theorem bytesAt_keySlot (keyFile : Bytes) (postions : Int) :
    bytesAt keyFile (keySlot keyFile postions) =
      (keyFile.drop (keySkip postions)).take 32 := by
  have hall := bytesAt_range keyFile
  rw [bytesAt] at hall
  rw [bytesAt, keySlot, List.map_take, List.map_drop, hall]

theorem keySlot_eq (keyFile : Bytes) (postions : Int) :
    keySlot keyFile postions =
      List.range' (keySkip postions) (min 32 (keyFile.length - keySkip postions)) := by
  apply List.ext_getElem
  · simp [keySlot]
  · intro i hi hi'
    simp [keySlot]

theorem length_keySlot (keyFile : Bytes) (postions : Int) :
    (keySlot keyFile postions).length = min 32 (keyFile.length - keySkip postions) := by
  rw [keySlot_eq, List.length_range']

theorem keySkip_of_nonneg (h : 0 ≤ postions) : (keySkip postions : Int) = 32 * max postions 1 - 31 := by
  rw [keySkip]
  split <;> omega

theorem hexDigit_ne (n : Nat) : hexDigit n ≠ '密' := by
  have hdigits : ∀ m < 16, hexDigit m ≠ '密' := by decide
  by_cases hn : n < 16
  · exact hdigits n hn
  · have hlength : "0123456789ABCDEF".toList.length ≤ n := by
      simpa using hn
    rw [hexDigit, List.getD_eq_getElem?_getD, List.getElem?_eq_none hlength]
    decide

theorem bytesToHexString_ne {src : Bytes} (h : src ≠ []) : bytesToHexString src ≠ "密钥用尽" := by
  intro heq
  obtain ⟨b, rest, rfl⟩ := List.exists_cons_of_ne_nil h
  have hchars := congrArg String.toList heq
  rw [bytesToHexString, String.toList_ofList, List.flatMap_cons] at hchars
  exact hexDigit_ne _ (List.cons.inj hchars).1

theorem readKey_ne_nil (keyFile : Bytes) (skip : Nat) : readKey keyFile skip ≠ [] := by
  intro h
  have hlength := congrArg List.length h
  simp only [readKey, List.length_append, List.length_take, List.length_replicate,
    List.length_nil] at hlength
  omega

theorem reportsExhausted_iff : ReportsExhausted keyFile postions ↔ postions < 0 ∨ postions > 255 := by
  rw [ReportsExhausted, getFileKeyLocation]
  split
  · rename_i hout
    exact iff_of_true rfl hout
  · rename_i hin
    exact iff_of_false (bytesToHexString_ne (readKey_ne_nil _ _)) hin

theorem readKey_of_whole (h : (keySlot keyFile postions).length = 32) :
    readKey keyFile (keySkip postions) = bytesAt keyFile (keySlot keyFile postions) := by
  have hread : ((keyFile.drop (keySkip postions)).take 32).length = 32 := by
    rw [← bytesAt_keySlot, bytesAt, List.length_map, h]
  rw [bytesAt_keySlot, readKey, hread, Nat.sub_self, List.replicate_zero, List.append_nil]

theorem returnsSlot_iff (h₀ : 0 ≤ postions) (h : postions ≤ 255) :
    ReturnsSlot keyFile postions ↔ Fits keyFile postions := by
  have hskip := keySkip_of_nonneg h₀
  have hlength := length_keySlot keyFile postions
  constructor
  · intro hslot _ _
    have hwhole := hslot.whole
    omega
  · intro hfits
    have hend := hfits h₀ h
    have hwhole : (keySlot keyFile postions).length = 32 := by omega
    refine ⟨hwhole, ?_, ?_⟩
    · intro i hi
      rw [keySlot_eq, List.mem_range'_1] at hi
      omega
    · rw [getFileKeyLocation, if_neg (by omega), readKey_of_whole hwhole]

theorem answers_iff_fits : ReturnsSlot keyFile postions ∨ ReportsExhausted keyFile postions ↔
    Fits keyFile postions := by
  rw [reportsExhausted_iff]
  by_cases hout : postions < 0 ∨ postions > 255
  · refine iff_of_true (.inr hout) ?_
    intro h₀ h
    omega
  · rw [returnsSlot_iff (by omega) (by omega)]
    exact or_iff_left hout

theorem keySlot_of_whole (h : ReturnsSlot keyFile postions) :
    keySlot keyFile postions = List.range' (keySkip postions) 32 := by
  rw [keySlot_eq, ← length_keySlot, h.whole]

theorem range_of_returnsSlot (h : ReturnsSlot keyFile postions) :
    0 ≤ postions ∧ postions ≤ 255 := by
  by_contra hout
  have hexhausted : ReportsExhausted keyFile postions := reportsExhausted_iff.mpr (by omega)
  have hvalue := h.value.symm.trans hexhausted
  have hne : bytesAt keyFile (keySlot keyFile postions) ≠ [] := by
    intro hnil
    have hlength := congrArg List.length hnil
    rw [bytesAt, List.length_map, h.whole] at hlength
    cases hlength
  exact bytesToHexString_ne hne hvalue

theorem disjoint_iff {i j : Int} (hi : ReturnsSlot keyFile i) (hj : ReturnsSlot keyFile j)
    (hne : i ≠ j) :
    (keySlot keyFile i).Disjoint (keySlot keyFile j) ↔ ¬ (min i j = 0 ∧ max i j = 1) := by
  have hskip := keySkip_of_nonneg (range_of_returnsSlot hi).1
  have hskip' := keySkip_of_nonneg (range_of_returnsSlot hj).1
  have hrange := range_of_returnsSlot hi
  have hrange' := range_of_returnsSlot hj
  rw [keySlot_of_whole hi, keySlot_of_whole hj]
  constructor
  · intro hdisjoint hfirst
    apply hdisjoint (a := 1)
    · rw [List.mem_range'_1]
      omega
    · rw [List.mem_range'_1]
      omega
  · intro hnot
    apply List.disjoint_left.mpr
    intro position hposition hposition'
    rw [List.mem_range'_1] at hposition hposition'
    omega

end Slot

theorem key_slots_apart_iff (keyFile : Bytes) {i j : Int} (hne : i ≠ j) :
    SlotsApart keyFile i j ↔ Fits keyFile i ∧ Fits keyFile j ∧ ¬ (min i j = 0 ∧ max i j = 1) := by
  constructor
  · rintro ⟨hfirst, hsecond, hapart⟩
    refine ⟨answers_iff_fits.mp hfirst, answers_iff_fits.mp hsecond, ?_⟩
    intro hshared
    have hi : ReturnsSlot keyFile i :=
      (returnsSlot_iff (by omega) (by omega)).mpr (answers_iff_fits.mp hfirst)
    have hj : ReturnsSlot keyFile j :=
      (returnsSlot_iff (by omega) (by omega)).mpr (answers_iff_fits.mp hsecond)
    exact (disjoint_iff hi hj hne).mp (hapart hi hj) hshared
  · rintro ⟨hi, hj, hnot⟩
    exact ⟨answers_iff_fits.mpr hi, answers_iff_fits.mpr hj,
      fun hslot hslot' => (disjoint_iff hslot hslot' hne).mpr hnot⟩

def longKeyFile : Bytes := List.replicate 100 7

theorem key_slots_apart_first_two : SlotsApart longKeyFile 1 2 :=
  (key_slots_apart_iff longKeyFile (by decide)).mpr
    ⟨fun _ _ => by decide, fun _ _ => by decide, by decide⟩

theorem slot_shared_by_zero_and_one : ¬ ∀ (keyFile : Bytes) (i j : Int), i ≠ j →
    SlotsApart keyFile i j := by
  intro hall
  obtain ⟨hfirst, hsecond, hapart⟩ := hall longKeyFile 0 1 (by decide)
  have hi : ReturnsSlot longKeyFile 0 :=
    (returnsSlot_iff (by decide) (by decide)).mpr (answers_iff_fits.mp hfirst)
  have hj : ReturnsSlot longKeyFile 1 :=
    (returnsSlot_iff (by decide) (by decide)).mpr (answers_iff_fits.mp hsecond)
  exact (disjoint_iff hi hj (by decide)).mp (hapart hi hj) (by decide)

end ServiceLoaderImpl

end TorChat
