import Mathlib.Data.List.Basic
import Mathlib.Data.List.Induction
import Mathlib.Data.List.Nodup

namespace TorChat.Library

variable {α κ : Type} [DecidableEq κ]

-- a scan from the newest element that drops each key it has found and stops with the last one
def scanLast (key : α → κ) : List κ → List α → List α
  | _, [] => []
  | keys, x :: xs =>
      if keys.length > 0 then
        if key x ∈ keys then x :: scanLast key (keys.erase (key x)) xs
        else scanLast key keys xs
      else []

def IsLast (same : α → α → Prop) (wanted : α → Prop) (xs : List α) (i : Nat) : Prop :=
  ∃ x, xs[i]? = some x ∧ wanted x ∧ ∀ j y, i < j → xs[j]? = some y → ¬ same y x

structure LastOfEach (same : α → α → Prop) (wanted : α → Prop) (xs result : List α)
    (positions : List Nat) : Prop where
  decreasing : positions.Pairwise (fun i j => j < i)
  rows : result.map some = positions.map (fun i => xs[i]?)
  mem_iff : ∀ i, i ∈ positions ↔ IsLast same wanted xs i

section Relation

variable {same same' : α → α → Prop} {wanted wanted' : α → Prop} {xs : List α}

theorem isLast_lt {i : Nat} (h : IsLast same wanted xs i) : i < xs.length := by
  obtain ⟨x, hx, _⟩ := h
  exact (List.getElem?_eq_some_iff.mp hx).1

theorem isLast_congr (hsame : ∀ x ∈ xs, ∀ y ∈ xs, same x y ↔ same' x y)
    (hwanted : ∀ x ∈ xs, wanted x ↔ wanted' x) {i : Nat} (h : IsLast same wanted xs i) :
    IsLast same' wanted' xs i := by
  obtain ⟨x, hx, hw, hlater⟩ := h
  have hmem := List.mem_of_getElem? hx
  refine ⟨x, hx, (hwanted x hmem).mp hw, ?_⟩
  intro j y hj hy hs
  exact hlater j y hj hy ((hsame y (List.mem_of_getElem? hy) x hmem).mpr hs)

theorem lastOfEach_congr (hsame : ∀ x ∈ xs, ∀ y ∈ xs, same x y ↔ same' x y)
    (hwanted : ∀ x ∈ xs, wanted x ↔ wanted' x) {result : List α} {positions : List Nat}
    (h : LastOfEach same wanted xs result positions) :
    LastOfEach same' wanted' xs result positions := by
  refine ⟨h.decreasing, h.rows, fun i => (h.mem_iff i).trans ⟨isLast_congr hsame hwanted, ?_⟩⟩
  exact isLast_congr (fun x hx y hy => (hsame x hx y hy).symm) (fun x hx => (hwanted x hx).symm)

theorem isLast_concat {x : α} {i : Nat} : IsLast same wanted (xs ++ [x]) i ↔
    (i = xs.length ∧ wanted x) ∨ IsLast same (fun y => wanted y ∧ ¬ same x y) xs i := by
  constructor
  · rintro ⟨y, hy, hw, hlater⟩
    rcases Nat.lt_or_ge i xs.length with hlt | hge
    · rw [List.getElem?_append_left hlt] at hy
      refine .inr ⟨y, hy, ⟨hw, hlater xs.length x hlt (by simp)⟩, ?_⟩
      intro j z hj hz
      have hjlt : j < xs.length := (List.getElem?_eq_some_iff.mp hz).1
      exact hlater j z hj ((List.getElem?_append_left hjlt).trans hz)
    · rw [List.getElem?_append_right hge] at hy
      have hzero : i - xs.length = 0 := by
        have hlt := (List.getElem?_eq_some_iff.mp hy).1
        rw [List.length_singleton] at hlt
        omega
      rw [hzero, List.getElem?_cons_zero] at hy
      rw [← Option.some.inj hy] at hw
      exact .inl ⟨by omega, hw⟩
  · rintro (⟨rfl, hw⟩ | ⟨y, hy, ⟨hw, hnot⟩, hlater⟩)
    · refine ⟨x, by simp, hw, ?_⟩
      intro j y hj hy
      have hlt := (List.getElem?_eq_some_iff.mp hy).1
      rw [List.length_append, List.length_singleton] at hlt
      omega
    · have hlt := (List.getElem?_eq_some_iff.mp hy).1
      refine ⟨y, (List.getElem?_append_left hlt).trans hy, hw, ?_⟩
      intro j z hj hz
      rcases Nat.lt_or_ge j xs.length with hjlt | hjge
      · rw [List.getElem?_append_left hjlt] at hz
        exact hlater j z hj hz
      · rw [List.getElem?_append_right hjge] at hz
        have hmem := List.mem_singleton.mp (List.mem_of_getElem? hz)
        rw [hmem]
        exact hnot

theorem lastOfEach_nil : LastOfEach same wanted ([] : List α) [] [] :=
  ⟨.nil, rfl, fun i => iff_of_false List.not_mem_nil
    (fun h => absurd (isLast_lt h) (Nat.not_lt_zero i))⟩

theorem map_getElem?_concat {positions : List Nat} (x : α)
    (h : ∀ i ∈ positions, i < xs.length) :
    positions.map (fun i => (xs ++ [x])[i]?) = positions.map (fun i => xs[i]?) :=
  List.map_congr_left (fun i hi => List.getElem?_append_left (h i hi))

end Relation

variable {key : α → κ}

variable (key) in
theorem scanLast_spec {keys : List κ} (hkeys : keys.Nodup) (xs : List α) :
    ∃ positions, LastOfEach (fun x y => key x = key y) (fun x => key x ∈ keys) xs
      (scanLast key keys xs.reverse) positions := by
  induction xs using List.reverseRecOn generalizing keys with
  | nil => exact ⟨[], lastOfEach_nil⟩
  | append_singleton xs x ih =>
    rw [List.reverse_append, List.reverse_singleton, List.singleton_append, scanLast]
    rcases Nat.eq_zero_or_pos keys.length with hempty | hpos
    · obtain rfl := List.eq_nil_of_length_eq_zero hempty
      refine ⟨[], .nil, rfl, fun i => iff_of_false List.not_mem_nil ?_⟩
      rintro ⟨y, _, hy, _⟩
      exact List.not_mem_nil hy
    · rw [if_pos hpos]
      by_cases hx : key x ∈ keys
      · obtain ⟨positions, hdecreasing, hrows, hmem⟩ := ih (hkeys.erase (key x))
        have hlt : ∀ i ∈ positions, i < xs.length := fun i hi => isLast_lt ((hmem i).mp hi)
        rw [if_pos hx]
        refine ⟨xs.length :: positions, .cons hlt hdecreasing, ?_, ?_⟩
        · rw [List.map_cons, List.map_cons, map_getElem?_concat x hlt, hrows]
          simp
        · intro i
          rw [List.mem_cons, isLast_concat, hmem, and_iff_left hx]
          simp only [hkeys.mem_erase_iff, ne_comm, and_comm, ne_eq]
      · obtain ⟨positions, hdecreasing, hrows, hmem⟩ := ih hkeys
        have hlt : ∀ i ∈ positions, i < xs.length := fun i hi => isLast_lt ((hmem i).mp hi)
        rw [if_neg hx]
        refine ⟨positions, hdecreasing, hrows.trans (map_getElem?_concat x hlt).symm, ?_⟩
        have hother : ∀ y, key y ∈ keys ↔ key y ∈ keys ∧ ¬ key x = key y := by
          intro y
          refine (and_iff_left_of_imp ?_).symm
          intro hy heq
          exact hx (heq ▸ hy)
        intro i
        rw [isLast_concat, hmem, or_iff_right (fun h => hx h.2)]
        simp only [← hother]

end TorChat.Library
