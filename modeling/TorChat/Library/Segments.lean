import Mathlib.Data.List.Basic

namespace TorChat.Library

abbrev Segment (α : Type) := { xs : List α // xs ≠ [] }

namespace Segment

variable {α : Type}

theorem length_pos (s : Segment α) : 0 < s.val.length := List.length_pos_iff.mpr s.property

def join (segments : List (Segment α)) : List α := segments.flatMap (fun s => s.val)

def drop (s : Segment α) (n : Nat) (h : n < s.val.length) : Segment α :=
  ⟨s.val.drop n, fun hnil => absurd (List.drop_eq_nil_iff.mp hnil) (Nat.not_le.mpr h)⟩

def skip : Nat → List (Segment α) → List (Segment α)
  | _, [] => []
  | n, s :: rest =>
      if h : n < s.val.length then s.drop n h :: rest else skip (n - s.val.length) rest

-- the number of segments over which the next n elements are spread
def spread : Nat → List (Segment α) → Nat
  | _, [] => 0
  | n, s :: rest => if n = 0 then 0 else spread (n - s.val.length) rest + 1

@[simp] theorem join_nil : join ([] : List (Segment α)) = [] := rfl

@[simp] theorem join_cons (s : Segment α) (rest : List (Segment α)) :
    join (s :: rest) = s.val ++ join rest := List.flatMap_cons

@[simp] theorem skip_zero (segments : List (Segment α)) : skip 0 segments = segments := by
  cases segments with
  | nil => rfl
  | cons s rest =>
    rw [skip, dif_pos s.length_pos]
    rfl

@[simp] theorem skip_first (s : Segment α) (rest : List (Segment α)) :
    skip s.val.length (s :: rest) = rest := by
  rw [skip, dif_neg (Nat.lt_irrefl _), Nat.sub_self, skip_zero]

@[simp] theorem spread_zero (segments : List (Segment α)) : spread 0 segments = 0 := by
  cases segments with
  | nil => rfl
  | cons s rest => rw [spread, if_pos rfl]

theorem join_skip (n : Nat) (segments : List (Segment α)) :
    join (skip n segments) = (join segments).drop n := by
  induction segments generalizing n with
  | nil => exact List.drop_nil.symm
  | cons s rest ih =>
    rw [skip, join_cons, List.drop_append]
    split
    · rename_i h
      rw [join_cons, Nat.sub_eq_zero_of_le (Nat.le_of_lt h), List.drop_zero]
      rfl
    · rename_i h
      rw [ih, List.drop_of_length_le (Nat.not_lt.mp h), List.nil_append]

theorem skip_skip (m n : Nat) (segments : List (Segment α)) :
    skip n (skip m segments) = skip (m + n) segments := by
  induction segments generalizing m with
  | nil => rfl
  | cons s rest ih =>
    rw [skip, skip]
    by_cases hm : m < s.val.length
    · rw [dif_pos hm, skip]
      have hlength : (s.drop m hm).val.length = s.val.length - m := List.length_drop
      by_cases hn : m + n < s.val.length
      · rw [dif_pos hn, dif_pos (by omega)]
        congr 1
        exact Subtype.ext List.drop_drop
      · rw [dif_neg hn, dif_neg (by omega), hlength]
        congr 1
        omega
    · rw [dif_neg hm, dif_neg (by omega), ih]
      congr 1
      omega

theorem spread_first {len : Nat} (h : 0 < len) (s : Segment α) (rest : List (Segment α)) :
    spread len (s :: rest) =
      spread (len - min len s.val.length) (skip (min len s.val.length) (s :: rest)) + 1 := by
  rw [spread, if_neg (Nat.ne_of_gt h), skip]
  by_cases hlen : len < s.val.length
  · rw [Nat.min_eq_left (Nat.le_of_lt hlen), dif_pos hlen, Nat.sub_self, spread_zero,
      Nat.sub_eq_zero_of_le (Nat.le_of_lt hlen), spread_zero]
  · rw [Nat.min_eq_right (Nat.not_lt.mp hlen), dif_neg (Nat.lt_irrefl _), Nat.sub_self, skip_zero]

end Segment

end TorChat.Library
