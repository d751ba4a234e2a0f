import Mathlib.Data.List.Basic

namespace TorChat.Library

variable {α : Type}

inductive Interleaving : List α → List α → List α → Prop where
  | nil : Interleaving [] [] []
  | left (x : α) {xs ys zs : List α} : Interleaving xs ys zs → Interleaving (x :: xs) ys (x :: zs)
  | right (y : α) {xs ys zs : List α} : Interleaving xs ys zs → Interleaving xs (y :: ys) (y :: zs)

namespace Interleaving

variable {xs ys zs : List α}

theorem eq_of_nil (h : Interleaving xs [] zs) : zs = xs := by
  induction xs generalizing zs with
  | nil => cases h; rfl
  | cons x xs ih =>
    cases h with
    | left _ h => rw [ih h]

theorem eq_of_nil_left (h : Interleaving [] ys zs) : zs = ys := by
  induction ys generalizing zs with
  | nil => cases h; rfl
  | cons y ys ih =>
    cases h with
    | right _ h => rw [ih h]

-- what the left thread has done when the right one takes its first step
theorem split_right {y : α} (h : Interleaving xs (y :: ys) zs) :
    ∃ before after rest, xs = before ++ after ∧ zs = before ++ y :: rest ∧
      Interleaving after ys rest := by
  induction zs generalizing xs with
  | nil => cases h
  | cons z zs ih =>
    cases h with
    | left x h =>
      obtain ⟨before, after, rest, rfl, rfl, hrest⟩ := ih h
      exact ⟨z :: before, after, rest, rfl, rfl, hrest⟩
    | right _ h => exact ⟨[], xs, zs, rfl, rfl, h⟩

end Interleaving

end TorChat.Library
