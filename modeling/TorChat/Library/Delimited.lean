import Mathlib.Data.List.Basic
import Mathlib.Data.List.Infix
import Mathlib.Data.Nat.Find

namespace TorChat.Library

variable {α : Type}

-- no occurrence of the delimiter starts inside xs when ys follows
def NoStart (d xs ys : List α) : Prop := ∀ i < xs.length, ¬ d <+: (xs ++ ys).drop i

variable {d xs ys : List α} {x : α}

theorem noStart_nil (d ys : List α) : NoStart d [] ys := fun _ hi => absurd hi (Nat.not_lt_zero _)

theorem noStart_cons : NoStart d (x :: xs) ys ↔ ¬ d <+: x :: (xs ++ ys) ∧ NoStart d xs ys := by
  constructor
  · intro h
    exact ⟨h 0 (Nat.zero_lt_succ _), fun i hi => h (i + 1) (Nat.succ_lt_succ hi)⟩
  · rintro ⟨hhead, htail⟩ i hi
    cases i with
    | zero => exact hhead
    | succ i => exact htail i (Nat.lt_of_succ_lt_succ hi)

theorem noStart_append {zs : List α} :
    NoStart d (xs ++ zs) ys ↔ NoStart d xs (zs ++ ys) ∧ NoStart d zs ys := by
  induction xs with
  | nil => exact (and_iff_right (noStart_nil d _)).symm
  | cons x xs ih => rw [List.cons_append, noStart_cons, noStart_cons, ih, List.append_assoc, and_assoc]

theorem noStart_of_notMem (h : x ∉ xs) : NoStart (x :: d) xs ys := by
  intro i hi habove
  rw [List.drop_append_of_le_length hi.le, List.drop_eq_getElem_cons hi, List.cons_append] at habove
  exact h ((List.cons_prefix_cons.mp habove).1 ▸ List.getElem_mem hi)

theorem prefix_of_prefix_cons (hd : x ∉ d) (h : d <+: xs ++ x :: ys) : d <+: xs := by
  by_cases hlength : d.length ≤ xs.length
  · exact List.prefix_of_prefix_length_le h (List.prefix_append _ _) hlength
  · exfalso
    have hget := h.getElem (not_le.mp hlength)
    rw [List.getElem_append_right (le_refl _)] at hget
    simp only [Nat.sub_self, List.getElem_cons_zero] at hget
    exact hd (hget ▸ List.getElem_mem _)

-- a delimiter whose first element does not come again cannot overlap another occurrence
theorem prefix_of_prefix_append (hd : x ∉ d) (hxs : xs ≠ [])
    (h : x :: d <+: xs ++ (x :: d ++ ys)) : x :: d <+: xs := by
  obtain ⟨first, rest, rfl⟩ := List.exists_cons_of_ne_nil hxs
  obtain ⟨hfirst, hrest⟩ := List.cons_prefix_cons.mp h
  exact List.cons_prefix_cons.mpr ⟨hfirst, prefix_of_prefix_cons hd hrest⟩

variable [DecidableEq α]

theorem dropInfix?_of_noStart (h : NoStart d xs (d ++ ys)) :
    (xs ++ (d ++ ys)).dropInfix? d = some (xs, ys) := by
  rw [List.dropInfix?_eq_some_iff]
  refine ⟨⟨d, (List.append_assoc _ _ _).symm, BEq.rfl⟩, ?_⟩
  intro p d' s heq hd'
  obtain rfl := eq_of_beq hd'
  by_contra hlt
  apply h p.length (not_le.mp hlt)
  rw [heq, List.append_assoc, List.drop_left]
  exact List.prefix_append _ _

theorem not_infix_of_dropInfix? (h : xs.dropInfix? d = none) : ¬ d <:+: xs := by
  classical
  rintro ⟨p, s, heq⟩
  have hexists : ∃ n p s, p.length = n ∧ p ++ d ++ s = xs := ⟨_, p, s, rfl, heq⟩
  obtain ⟨p', s', hlength, heq'⟩ := Nat.find_spec hexists
  have hsome : xs.dropInfix? d = some (p', s') := by
    rw [List.dropInfix?_eq_some_iff]
    refine ⟨⟨d, heq'.symm, BEq.rfl⟩, ?_⟩
    intro q d' t hq hd'
    obtain rfl := eq_of_beq hd'
    rw [hlength]
    exact Nat.find_min' hexists ⟨q, t, rfl, hq.symm⟩
  rw [h] at hsome
  cases hsome

theorem dropInfix?_eq_none (hd : d ≠ []) (h : NoStart d xs []) : xs.dropInfix? d = none := by
  cases hcut : xs.dropInfix? d with
  | none => rfl
  | some cut =>
    obtain ⟨⟨d', heq, hd'⟩, _⟩ := List.dropInfix?_eq_some_iff.mp hcut
    obtain rfl := eq_of_beq hd'
    exfalso
    have hpos := List.length_pos_iff.mpr hd
    apply h cut.1.length
    · rw [heq, List.length_append, List.length_append]
      omega
    · rw [List.append_nil, heq, List.append_assoc, List.drop_left]
      exact List.prefix_append _ _

def before (d xs : List α) : List α :=
  match xs.dropInfix? d with
  | none => xs
  | some (p, _) => p

theorem before_eq_or (d xs : List α) :
    before d xs = xs ∨ ∃ rest, xs = before d xs ++ (d ++ rest) := by
  rw [before]
  cases hcut : xs.dropInfix? d with
  | none => exact .inl rfl
  | some cut =>
    obtain ⟨⟨d', heq, hd'⟩, _⟩ := List.dropInfix?_eq_some_iff.mp hcut
    obtain rfl := eq_of_beq hd'
    exact .inr ⟨cut.2, heq.trans (List.append_assoc _ _ _)⟩

theorem noStart_before (hd : x ∉ d) (xs ys : List α) :
    NoStart (x :: d) (before (x :: d) xs) (x :: d ++ ys) := by
  intro i hi habove
  rw [List.drop_append_of_le_length hi.le] at habove
  have hne : (before (x :: d) xs).drop i ≠ [] := by
    rw [ne_eq, List.drop_eq_nil_iff]
    omega
  obtain ⟨rest, hrest⟩ := prefix_of_prefix_append hd hne habove
  have hsplit := List.take_append_drop i (before (x :: d) xs)
  rw [← hrest] at hsplit
  cases hcut : xs.dropInfix? (x :: d) with
  | none =>
    rw [before, hcut] at hsplit
    exact not_infix_of_dropInfix? hcut ⟨_, rest, (List.append_assoc _ _ _).trans hsplit⟩
  | some cut =>
    obtain ⟨⟨d', heq, hd'⟩, hmin⟩ := List.dropInfix?_eq_some_iff.mp hcut
    have hbefore : before (x :: d) xs = cut.1 := by rw [before, hcut]
    have hxs : xs = (before (x :: d) xs).take i ++ (x :: d) ++ (rest ++ d' ++ cut.2) := by
      calc xs = before (x :: d) xs ++ d' ++ cut.2 := by rw [hbefore]; exact heq
        _ = (before (x :: d) xs).take i ++ (x :: d ++ rest) ++ d' ++ cut.2 := by rw [hsplit]
        _ = _ := by simp only [List.append_assoc]
    have hle := hmin _ _ _ hxs BEq.rfl
    rw [List.length_take, ← hbefore] at hle
    omega

def segments (d : List α) : Nat → List α → List (List α)
  | 0, xs => [xs]
  | fuel + 1, xs =>
      match xs.dropInfix? d with
      | none => [xs]
      | some (p, rest) => p :: segments d fuel rest

theorem segments_cut (h : NoStart d xs (d ++ ys)) (fuel : Nat) :
    segments d (fuel + 1) (xs ++ (d ++ ys)) = xs :: segments d fuel ys := by
  rw [segments, dropInfix?_of_noStart h]

theorem segments_join {parts : List (List α)} (h : ∀ part ∈ parts, ∀ zs, NoStart d part (d ++ zs))
    (fuel : Nat) (ys : List α) :
    segments d (parts.length + fuel) (parts.flatMap (fun part => part ++ d) ++ ys) =
      parts ++ segments d fuel ys := by
  induction parts with
  | nil => simp
  | cons part parts ih =>
    have hfuel : (part :: parts).length + fuel = (parts.length + fuel) + 1 := by
      rw [List.length_cons]
      omega
    rw [hfuel, List.flatMap_cons, List.append_assoc, List.append_assoc,
      segments_cut (h part List.mem_cons_self _), ih (fun p hp => h p (List.mem_cons_of_mem _ hp))]
    rfl

end TorChat.Library
