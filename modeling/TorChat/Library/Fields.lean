import Mathlib.Data.List.DropRight

namespace TorChat.Library

variable {S : Type}

theorem rdropWhile_append_cons {p : S → Bool} {x : S} (h : ¬ p x) (xs ys : List S) :
    (xs ++ x :: ys).rdropWhile p = xs ++ x :: ys.rdropWhile p := by
  induction ys using List.reverseRecOn with
  | nil => exact List.rdropWhile_concat_neg p xs x h
  | append_singleton ys y ih =>
    have hassoc : xs ++ x :: (ys ++ [y]) = (xs ++ x :: ys) ++ [y] := by simp
    rw [hassoc, List.rdropWhile_concat, List.rdropWhile_concat]
    split
    · exact ih
    · exact hassoc.symm

variable [DecidableEq S]

-- the texts between the separators, without the empty ones at the end
def fields (separator : S) (text : List S) : List (List S) :=
  let parts := text.splitOn separator
  if parts.length = 1 then parts else parts.rdropWhile List.isEmpty

variable {separator : S} {first second rest : List S} {c : S}

theorem splitOn_of_notMem (h : separator ∉ first) : first.splitOn separator = [first] := by
  rw [List.splitOn_eq_splitOnP]
  refine List.splitOnP_eq_singleton (fun x hx => ?_)
  exact beq_false_of_ne (fun heq => h (heq ▸ hx))

theorem fields_of_notMem (h : separator ∉ first) : fields separator first = [first] := by
  rw [fields, splitOn_of_notMem h]
  rfl

theorem splitOn_cons_ne (h : c ≠ separator) (rest : List S) :
    ∃ part parts, (c :: rest).splitOn separator = (c :: part) :: parts := by
  rw [List.splitOn_cons_eq_if_modifyHead, if_neg (by simpa using h)]
  cases hrest : rest.splitOn separator with
  | nil => exact absurd hrest (List.splitOnP_ne_nil _ _)
  | cons part parts => exact ⟨part, parts, rfl⟩

theorem fields_cons_ne (h : c ≠ separator) (rest : List S) :
    ∃ part parts, fields separator (c :: rest) = (c :: part) :: parts := by
  obtain ⟨part, parts, hparts⟩ := splitOn_cons_ne h rest
  rw [fields, hparts]
  split
  · exact ⟨part, parts, rfl⟩
  · exact ⟨part, _, rdropWhile_append_cons (by simp) [] parts⟩

theorem fields_append_cons (hfirst : separator ∉ first) (h : c ≠ separator) (rest : List S) :
    ∃ part parts, fields separator (first ++ separator :: c :: rest) =
      first :: (c :: part) :: parts := by
  obtain ⟨part, parts, hparts⟩ := splitOn_cons_ne h rest
  rw [fields, List.splitOn_append_cons_self_of_not_mem hfirst, hparts]
  rw [if_neg (by simp)]
  exact ⟨part, _, rdropWhile_append_cons (by simp) [first] parts⟩

theorem fields_pair (hfirst : separator ∉ first) (hsecond : separator ∉ second)
    (hne : second ≠ []) : fields separator (first ++ separator :: second) = [first, second] := by
  rw [fields, List.splitOn_append_cons_self_of_not_mem hfirst, splitOn_of_notMem hsecond]
  rw [if_neg (by simp)]
  exact rdropWhile_append_cons (by simpa using hne) [first] []

theorem notMem_of_mem_splitOn {text part : List S} (h : part ∈ text.splitOn separator) :
    separator ∉ part := by
  induction text generalizing part with
  | nil =>
    rw [List.splitOn_nil, List.mem_singleton] at h
    rw [h]
    exact List.not_mem_nil
  | cons x text ih =>
    rw [List.splitOn_cons_eq_if_modifyHead] at h
    split at h
    · rcases List.mem_cons.mp h with rfl | hrest
      · exact List.not_mem_nil
      · exact ih hrest
    · rename_i hne
      have hx : separator ≠ x := fun heq => hne (by rw [heq, beq_self_eq_true])
      cases hparts : text.splitOn separator with
      | nil => exact absurd hparts (List.splitOnP_ne_nil _ _)
      | cons head parts =>
        rw [hparts] at h ih
        rcases List.mem_cons.mp h with rfl | hrest
        · exact List.not_mem_cons_of_ne_of_not_mem hx (ih List.mem_cons_self)
        · exact ih (List.mem_cons_of_mem head hrest)

theorem notMem_of_mem_fields {text part : List S} (h : part ∈ fields separator text) :
    separator ∉ part := by
  rw [fields] at h
  split at h
  · exact notMem_of_mem_splitOn h
  · exact notMem_of_mem_splitOn ((List.rdropWhile_prefix _ _).subset h)

-- nothing stands behind the last separator
theorem length_fields_concat (hfirst : separator ∉ first) :
    (fields separator (first ++ [separator])).length ≤ 1 := by
  have hparts : (first ++ [separator]).splitOn separator = [first] ++ [[]] := by
    rw [List.splitOn_append_cons_self_of_not_mem hfirst, List.splitOn_nil]
    rfl
  rw [fields, hparts, if_neg (by simp), List.rdropWhile_concat_pos _ _ _ rfl]
  exact (List.rdropWhile_prefix _ _).length_le

def afterLast (separator : S) (text : List S) : List S := text.rtakeWhile (fun x => x ≠ separator)

theorem notMem_afterLast (separator : S) (text : List S) : separator ∉ afterLast separator text := by
  intro hmem
  simpa using List.mem_rtakeWhile_imp hmem

theorem afterLast_append (xs : List S) (h : separator ∉ second) :
    afterLast separator (xs ++ second) = afterLast separator xs ++ second := by
  have hall : ∀ x ∈ second.reverse, (fun x => decide (x ≠ separator)) x = true := by
    intro x hx
    refine decide_eq_true (fun heq => h ?_)
    rw [← heq]
    exact List.mem_reverse.mp hx
  rw [afterLast, afterLast, List.rtakeWhile, List.rtakeWhile, List.reverse_append,
    List.takeWhile_append_of_pos hall, List.reverse_append, List.reverse_reverse]

theorem afterLast_of_notMem (h : separator ∉ second) : afterLast separator second = second :=
  afterLast_append [] h

theorem afterLast_append_cons (xs : List S) (h : separator ∉ second) :
    afterLast separator (xs ++ separator :: second) = second := by
  have hassoc : xs ++ separator :: second = (xs ++ [separator]) ++ second := by simp
  rw [hassoc, afterLast_append _ h, afterLast, List.rtakeWhile_concat_neg _ _ _ (by simp),
    List.nil_append]

theorem exists_append_afterLast {text : List S} (h : separator ∈ text) :
    ∃ xs, text = xs ++ separator :: afterLast separator text := by
  obtain ⟨ys, xs, hreverse, hlast⟩ := List.eq_append_cons_of_mem (List.mem_reverse.mpr h)
  have htext : text = xs.reverse ++ separator :: ys.reverse := by
    rw [← List.reverse_reverse text, hreverse]
    simp
  refine ⟨xs.reverse, ?_⟩
  rw [htext, afterLast_append_cons _ (by simpa using hlast)]

def split (separator : Char) (s : String) : List String :=
  (fields separator s.toList).map String.ofList

end TorChat.Library
