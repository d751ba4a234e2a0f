import Mathlib.Order.Bounds.Basic
import Mathlib.Order.Lattice

namespace TorChat.Library

variable {α β : Type}

def keysOf (key : α → β) (x : α) (ys : List α) : Set β := {k | ∃ z ∈ x :: ys, key z = k}

theorem keysOf_congr {key : α → β} {x : α} {ys zs : List α} (h : ∀ z, z ∈ ys ↔ z ∈ zs) :
    keysOf key x ys = keysOf key x zs := by
  ext k
  simp only [keysOf, List.mem_cons, h]

variable [LinearOrder β] (key : α → β)

def later (x y : α) : α := if key x ≤ key y then y else x

def latest (x : α) (ys : List α) : α := ys.foldl (later key) x

theorem later_eq_or (x y : α) : later key x y = x ∨ later key x y = y := by
  rw [later]
  split
  · exact .inr rfl
  · exact .inl rfl

theorem key_later (x y : α) : key (later key x y) = max (key x) (key y) := by
  rw [later]
  split
  · rename_i h
    rw [max_eq_right h]
  · rename_i h
    rw [max_eq_left (not_le.mp h).le]

theorem isGreatest_latest (x : α) (ys : List α) :
    IsGreatest (keysOf key x ys) (key (latest key x ys)) := by
  induction ys generalizing x with
  | nil =>
    refine ⟨⟨x, List.mem_cons_self, rfl⟩, ?_⟩
    rintro k ⟨z, hz, rfl⟩
    rw [List.mem_singleton.mp hz]
    exact le_refl _
  | cons y ys ih =>
    obtain ⟨⟨z, hz, hkey⟩, hupper⟩ := ih (later key x y)
    have hhead : key (later key x y) ≤ key (latest key x (y :: ys)) :=
      hupper ⟨_, List.mem_cons_self, rfl⟩
    rw [key_later key] at hhead
    constructor
    · refine ⟨z, ?_, hkey⟩
      rcases List.mem_cons.mp hz with rfl | hz
      · rcases later_eq_or key x y with hx | hy
        · rw [hx]
          exact List.mem_cons_self
        · rw [hy]
          exact List.mem_cons_of_mem _ List.mem_cons_self
      · exact List.mem_cons_of_mem _ (List.mem_cons_of_mem _ hz)
    · rintro k ⟨w, hw, rfl⟩
      rcases List.mem_cons.mp hw with rfl | hw
      · exact le_trans (le_max_left _ _) hhead
      · rcases List.mem_cons.mp hw with rfl | hw
        · exact le_trans (le_max_right _ _) hhead
        · exact hupper ⟨w, List.mem_cons_of_mem _ hw, rfl⟩

theorem key_latest_congr (x : α) {ys zs : List α} (h : ∀ z, z ∈ ys ↔ z ∈ zs) :
    key (latest key x ys) = key (latest key x zs) := by
  have hys := isGreatest_latest key x ys
  rw [keysOf_congr h] at hys
  exact hys.unique (isGreatest_latest key x zs)

end TorChat.Library
