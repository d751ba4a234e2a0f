import Mathlib.Data.List.Basic
import Mathlib.Tactic.Ring

namespace TorChat.Library

abbrev Bytes := List UInt8

def slice? {α : Type} (xs : List α) (i n : Nat) : Option (List α) :=
  if i + n ≤ xs.length then some ((xs.drop i).take n) else none

section Slice

variable {α : Type}

theorem slice?_eq_some {xs ys : List α} {i n : Nat} (h : slice? xs i n = some ys) :
    i + n ≤ xs.length ∧ ys = (xs.drop i).take n := by
  unfold slice? at h
  split at h
  · rename_i hle
    exact ⟨hle, (Option.some.inj h).symm⟩
  · cases h

theorem slice?_length {xs ys : List α} {i n : Nat} (h : slice? xs i n = some ys) :
    ys.length = n := by
  obtain ⟨hle, rfl⟩ := slice?_eq_some h
  simp only [List.length_take, List.length_drop]
  omega

theorem slice?_append_left {a b : List α} {i n : Nat} (h : i + n ≤ a.length) :
    slice? (a ++ b) i n = slice? a i n := by
  have hab : i + n ≤ (a ++ b).length := by simp only [List.length_append]; omega
  have hn : n ≤ (a.drop i).length := by simp only [List.length_drop]; omega
  rw [slice?, if_pos hab, slice?, if_pos h, List.drop_append_of_le_length (by omega),
    List.take_append_of_le_length hn]

theorem slice?_append_right {a b : List α} {i n : Nat} (h : a.length ≤ i) :
    slice? (a ++ b) i n = slice? b (i - a.length) n := by
  obtain ⟨k, rfl⟩ := Nat.exists_eq_add_of_le h
  simp only [slice?, List.length_append, Nat.add_sub_cancel_left, List.drop_append,
    List.drop_of_length_le (Nat.le_add_right a.length k), List.nil_append]
  by_cases hk : k + n ≤ b.length
  · rw [if_pos (by omega), if_pos hk]
  · rw [if_neg (by omega), if_neg hk]

theorem slice?_of_prefix {a b ys : List α} {i n : Nat} (h : slice? a i n = some ys)
    (hab : a <+: b) : slice? b i n = some ys := by
  obtain ⟨rest, rfl⟩ := hab
  rw [slice?_append_left (slice?_eq_some h).1, h]

theorem slice?_self {a : List α} {n : Nat} (h : a.length = n) : slice? a 0 n = some a := by
  subst h
  simp [slice?]

theorem slice?_prefix {a b : List α} {n : Nat} (h : a.length = n) :
    slice? (a ++ b) 0 n = some a := by
  rw [slice?_append_left (by omega), slice?_self h]

theorem slice?_middle {a b c : List α} {i n : Nat} (ha : a.length = i) (hb : b.length = n) :
    slice? (a ++ (b ++ c)) i n = some b := by
  rw [slice?_append_right (by omega), ha, Nat.sub_self, slice?_prefix hb]

theorem slice?_suffix {a b : List α} {i n : Nat} (ha : a.length = i) (hb : b.length = n) :
    slice? (a ++ b) i n = some b := by
  rw [slice?_append_right (by omega), ha, Nat.sub_self, slice?_self hb]

end Slice

def beBytes : Nat → Nat → Bytes
  | 0, _ => []
  | w + 1, n => UInt8.ofNat (n / 256 ^ w) :: beBytes w n

def beNat : Bytes → Nat
  | [] => 0
  | b :: bs => b.toNat * 256 ^ bs.length + beNat bs

@[simp] theorem beBytes_length (w n : Nat) : (beBytes w n).length = w := by
  induction w with
  | zero => rfl
  | succ w ih => simp [beBytes, ih]

theorem beNat_beBytes (w n : Nat) : beNat (beBytes w n) = n % 256 ^ w := by
  induction w with
  | zero => simp [beBytes, beNat, Nat.mod_one]
  | succ w ih =>
    have hb : (UInt8.ofNat (n / 256 ^ w)).toNat = n / 256 ^ w % 256 := by simp
    rw [beBytes, beNat, hb, ih, beBytes_length, Nat.pow_succ, Nat.mod_mul]
    ring

theorem beNat_beBytes_of_lt {w n : Nat} (h : n < 256 ^ w) : beNat (beBytes w n) = n := by
  rw [beNat_beBytes, Nat.mod_eq_of_lt h]

end TorChat.Library
