import TorChat.Library.HashMap
import Mathlib.Data.List.Range
import Mathlib.Data.Finset.Card
import Mathlib.Data.Finset.Range
import Mathlib.Data.Nat.Init
import Mathlib.Algebra.Order.Floor.Div

namespace TorChat.Library

variable {α β : Type}

def chunk (size : Nat) (xs : List α) (i : Nat) : List α := (xs.drop (i * size)).take size

theorem chunk_length (size : Nat) (xs : List α) (i : Nat) :
    (chunk size xs i).length = min size (xs.length - i * size) := by
  simp [chunk]

theorem chunk_length_le (size : Nat) (xs : List α) (i : Nat) : (chunk size xs i).length ≤ size := by
  rw [chunk_length]
  exact Nat.min_le_left _ _

theorem chunk_length_of_full {size : Nat} {xs : List α} {i : Nat} (h : (i + 1) * size ≤ xs.length) :
    (chunk size xs i).length = size := by
  rw [Nat.succ_mul] at h
  rw [chunk_length]
  omega

theorem flatMap_chunk (size : Nat) (xs : List α) (n : Nat) :
    (List.range n).flatMap (chunk size xs) = xs.take (n * size) := by
  induction n with
  | zero => simp
  | succ n ih =>
    rw [List.range_succ, List.flatMap_append, ih, Nat.succ_mul, List.take_add]
    simp [chunk]

theorem flatMap_chunk_eq_self {size n : Nat} {xs : List α} (h : xs.length ≤ n * size) :
    (List.range n).flatMap (chunk size xs) = xs := by
  rw [flatMap_chunk, List.take_of_length_le h]

theorem chunkCount_eq {size : Nat} (hs : 0 < size) (n : Nat) :
    n ⌈/⌉ size = n / size + if n % size = 0 then 0 else 1 := by
  have hmod := Nat.div_add_mod n size
  have hlt := Nat.mod_lt n hs
  rw [Nat.ceilDiv_eq_add_pred_div]
  split
  · rename_i h
    have hn : n + size - 1 = (size - 1) + size * (n / size) := by omega
    rw [hn, Nat.add_mul_div_left _ _ hs, Nat.div_eq_of_lt (by omega)]
    omega
  · have hn : n + size - 1 = (n % size - 1) + size * (n / size + 1) := by
      rw [Nat.mul_add, Nat.mul_one]; omega
    rw [hn, Nat.add_mul_div_left _ _ hs, Nat.div_eq_of_lt (by omega)]
    omega

theorem le_chunkCount_mul {size : Nat} (hs : 0 < size) (n : Nat) : n ≤ n ⌈/⌉ size * size := by
  have hmod := Nat.div_add_mod n size
  have hlt := Nat.mod_lt n hs
  rw [chunkCount_eq hs, Nat.add_mul, Nat.mul_comm (n / size)]
  split <;> omega

theorem pred_chunkCount_mul_lt {size : Nat} (hs : 0 < size) {n : Nat} (hn : 0 < n) :
    (n ⌈/⌉ size - 1) * size < n := by
  have hmod := Nat.div_add_mod n size
  rw [chunkCount_eq hs, Nat.mul_comm]
  split
  · rename_i h
    have hq : 0 < n / size := by
      rcases Nat.eq_zero_or_pos (n / size) with hz | hz
      · rw [hz] at hmod; omega
      · exact hz
    rw [Nat.add_zero, Nat.mul_sub, Nat.mul_one]
    omega
  · rename_i h
    rw [Nat.add_sub_cancel]
    omega

theorem chunkCount_pos {size : Nat} (hs : 0 < size) {n : Nat} (hn : 0 < n) : 0 < n ⌈/⌉ size := by
  have h := le_chunkCount_mul hs n
  rcases Nat.eq_zero_or_pos (n ⌈/⌉ size) with hz | hz
  · rw [hz] at h; omega
  · exact hz

namespace HashMap

theorem size_eq_card {K : Type} [DecidableEq K] {m : HashMap K β} {s : Finset K}
    (h : ∀ k, (m.get? k).isSome ↔ k ∈ s) : m.size = s.card := by
  have hkeys : m.keys.toFinset = s := by
    ext k
    rw [List.mem_toFinset, ← h k]
    exact AList.lookup_isSome.symm
  rw [← hkeys, List.toFinset_card_of_nodup m.keys_nodup]
  rfl

theorem size_eq_of_initial {m : HashMap Nat β} {n : Nat}
    (h : ∀ k, (m.get? k).isSome ↔ k < n) : m.size = n := by
  have hrange : ∀ k, (m.get? k).isSome ↔ k ∈ Finset.range n := by
    intro k
    rw [Finset.mem_range, h k]
  rw [size_eq_card hrange, Finset.card_range]

theorem get?_foldl_put (f : Nat → β) (is : List Nat) (m : HashMap Nat β) (k : Nat) :
    (is.foldl (fun m i => m.put i (f i)) m).get? k =
      if k ∈ is then some (f k) else m.get? k := by
  induction is generalizing m with
  | nil => simp
  | cons i is ih =>
    rw [List.foldl_cons, ih, get?_put]
    by_cases hk : k ∈ is
    · simp [hk]
    · by_cases hi : k = i
      · subst hi; simp [hk]
      · simp [hk, hi]

end HashMap

end TorChat.Library
