import TorChat.Play.Evaluation

namespace TorChat.Play.Calculator

open Library.DoubleText (isNumberChar parseDouble toText signText pointText magnitudeText
  exponentTen reads shortest)

section Statement

def isOperator (c : Char) : Bool := ['*', '/', '+', '-'].contains c

def Spaceless (text : List Char) : Prop := ∀ c ∈ text, isSpace c = false

-- how many operators stand directly behind a number
def joins (prev : Bool) : List Char → Nat
  | [] => 0
  | c :: text => (if prev && isOperator c then 1 else 0) + joins (isNumberChar c) text

def endsNumber (prev : Bool) (text : List Char) : Bool := (text.getLast?.map isNumberChar).getD prev

structure Found (operators before : List Char) (found : Match) (text : List Char) : Prop where
  text : text = before ++ (found.group1 ++ found.group2 :: (found.group3 ++ found.rest))
  group1 : Number found.group1
  group2 : found.group2 ∈ operators
  group3 : Number found.group3
  before : endsNumber false before = false

end Statement

section Joins

variable {prev : Bool} {text rest : List Char}

theorem number_not_operator {c : Char} (h : isNumberChar c = true) : isOperator c = false := by
  by_contra hop
  rw [Bool.not_eq_false, isOperator, List.contains_iff_mem] at hop
  have hall : ['*', '/', '+', '-'].all (fun d => !isNumberChar d) = true := by decide
  have hout := List.all_eq_true.mp hall c hop
  rw [h] at hout
  cases hout

theorem joins_append (prev : Bool) (text rest : List Char) :
    joins prev (text ++ rest) = joins prev text + joins (endsNumber prev text) rest := by
  induction text generalizing prev with
  | nil => exact (Nat.zero_add _).symm
  | cons c text ih =>
    have hends : endsNumber prev (c :: text) = endsNumber (isNumberChar c) text := by
      rw [endsNumber, endsNumber, List.getLast?_cons]
      cases text.getLast? <;> rfl
    rw [List.cons_append, joins, joins, ih, hends, Nat.add_assoc]

theorem joins_mono (text : List Char) : joins false text ≤ joins prev text := by
  cases text with
  | nil => exact Nat.le_refl _
  | cons c text =>
    rw [joins, joins]
    exact Nat.add_le_add_right (Nat.zero_le _) _

theorem joins_number (h : ∀ c ∈ text, isNumberChar c = true) (prev : Bool) :
    joins prev text = 0 := by
  induction text generalizing prev with
  | nil => rfl
  | cons c text ih =>
    obtain ⟨hc, htext⟩ := List.forall_mem_cons.mp h
    rw [joins, number_not_operator hc, ih htext, Bool.and_false]
    rfl

theorem endsNumber_number (h : Number text) (prev : Bool) : endsNumber prev text = true := by
  obtain ⟨c, hc⟩ := Option.isSome_iff_exists.mp (List.getLast?_isSome.mpr h.1)
  rw [endsNumber, hc]
  exact h.2 c (List.mem_of_getLast? hc)

theorem joins_le_length (prev : Bool) (text : List Char) : joins prev text ≤ text.length := by
  induction text generalizing prev with
  | nil => exact Nat.le_refl _
  | cons c text ih =>
    have hrest := ih (isNumberChar c)
    rw [joins, List.length_cons]
    split
    · omega
    · omega

end Joins

section Finding

variable {operators before text : List Char} {found : Match}

theorem dropWhile_spaceless (h : Spaceless text) : text.dropWhile isSpace = text := by
  cases text with
  | nil => rfl
  | cons c text => exact dropWhile_plain (h c List.mem_cons_self) text

theorem spaceless_dropWhile (h : Spaceless text) (p : Char → Bool) :
    Spaceless (text.dropWhile p) := fun c hc => h c ((List.dropWhile_suffix p).mem hc)

theorem lookingAt_spec (h : Spaceless text) (hfound : lookingAt operators text = some found) :
    Found operators [] found text := by
  rw [lookingAt, dropWhile_spaceless (spaceless_dropWhile h _)] at hfound
  cases hdrop : text.dropWhile isNumberChar with
  | nil =>
    rw [hdrop] at hfound
    cases hfound
  | cons group2 after =>
    rw [hdrop] at hfound
    dsimp only at hfound
    have hafter : Spaceless after := by
      have hrest := spaceless_dropWhile h isNumberChar
      rw [hdrop] at hrest
      exact fun c hc => hrest c (List.mem_cons_of_mem _ hc)
    rw [dropWhile_spaceless hafter] at hfound
    split at hfound
    · rename_i hparts
      obtain rfl := Option.some.inj hfound
      refine ⟨?_, ⟨hparts.1, fun c hc => List.mem_takeWhile_imp hc⟩, hparts.2.1,
        ⟨hparts.2.2, fun c hc => List.mem_takeWhile_imp hc⟩, rfl⟩
      rw [List.nil_append, List.takeWhile_append_dropWhile, ← hdrop,
        List.takeWhile_append_dropWhile]
    · cases hfound

-- a number that a match begins with could have begun one character earlier
theorem lookingAt_cons {c : Char} (hc : isNumberChar c = true)
    (h : lookingAt operators text = some found) : lookingAt operators (c :: text) =
      some { found with group1 := c :: found.group1 } := by
  rw [lookingAt] at h ⊢
  rw [List.takeWhile_cons_of_pos hc, List.dropWhile_cons_of_pos hc]
  split at h
  · cases h
  · dsimp only at h ⊢
    split at h
    · rename_i hparts
      obtain rfl := Option.some.inj h
      exact if_pos ⟨List.cons_ne_nil _ _, hparts.2⟩
    · cases h

theorem lookingAt_of_find (h : find operators text = some ([], found)) :
    lookingAt operators text = some found := by
  cases text with
  | nil => cases h
  | cons c text =>
    rw [find] at h
    split at h
    · rename_i found' hlook
      rw [hlook, (Prod.mk.inj (Option.some.inj h)).2]
    · obtain ⟨rest, -, hcons⟩ := Option.map_eq_some_iff.mp h
      exact absurd (Prod.mk.inj hcons).1 (List.cons_ne_nil _ _)

theorem find_spec (h : Spaceless text) (hfound : find operators text = some (before, found)) :
    Found operators before found text := by
  induction text generalizing before with
  | nil => cases hfound
  | cons c text ih =>
    rw [find] at hfound
    split at hfound
    · rename_i found' hlook
      obtain ⟨rfl, rfl⟩ := Prod.mk.inj (Option.some.inj hfound)
      exact lookingAt_spec h hlook
    · rename_i hlook
      obtain ⟨⟨before', found'⟩, hrest, hcons⟩ := Option.map_eq_some_iff.mp hfound
      obtain ⟨rfl, rfl⟩ := Prod.mk.inj hcons
      have hspec := ih (fun d hd => h d (List.mem_cons_of_mem c hd)) hrest
      refine ⟨?_, hspec.group1, hspec.group2, hspec.group3, ?_⟩
      · rw [List.cons_append, ← hspec.text]
      · cases before' with
        | nil =>
          by_contra hends
          have hnumber : isNumberChar c = true := Bool.eq_true_of_not_eq_false hends
          rw [lookingAt_cons hnumber (lookingAt_of_find hrest)] at hlook
          cases hlook
        | cons d before' =>
          change endsNumber false (c :: d :: before') = false
          rw [endsNumber, List.getLast?_cons_cons]
          exact hspec.before

end Finding

section Texts

variable {c : Char} {n : Nat} {text rest : List Char}

def Valued (text : List Char) : Prop := ∃ c ∈ text, c ≠ '+' ∧ c ≠ '-'

-- what the two loops write in the place of a match
structure Printed (text : List Char) : Prop where
  spaceless : Spaceless text
  joins : joins false text = 0
  valued : Valued text

theorem spaceless_of_all (h : text.all (fun c => !isSpace c) = true) : Spaceless text := by
  intro c hc
  have hplain := List.all_eq_true.mp h c hc
  rwa [Bool.not_eq_true'] at hplain

theorem spaceless_append (h : Spaceless text) (h' : Spaceless rest) : Spaceless (text ++ rest) := by
  intro c hc
  exact (List.mem_append.mp hc).elim (h c) (h' c)

theorem spaceless_number (h : ∀ c ∈ text, isNumberChar c = true) : Spaceless text :=
  fun c hc => number_not_space (h c hc)

theorem joins_append_of_ends (h : endsNumber false text = false) (rest : List Char) :
    joins false (text ++ rest) = joins false text + joins false rest := by
  rw [joins_append, h]

theorem printed_append_left (hspace : Spaceless text) (hjoins : joins false text = 0)
    (hends : endsNumber false text = false) (h : Printed rest) : Printed (text ++ rest) := by
  obtain ⟨c, hc, hvalue⟩ := h.valued
  refine ⟨spaceless_append hspace h.spaceless, ?_, ⟨c, List.mem_append_right _ hc, hvalue⟩⟩
  rw [joins_append_of_ends hends, hjoins, h.joins]

theorem number_of_pointText {digits : Nat} (h : c ∈ pointText n digits) :
    isNumberChar c = true := by
  rw [pointText] at h
  rcases List.mem_append.mp h with hwhole | hrest
  · exact isNumberChar_digit (Library.Decimal.isDigit_of_mem_toString hwhole)
  · rcases List.mem_cons.mp hrest with rfl | hfraction
    · rfl
    · exact isNumberChar_digit
        (Library.Decimal.isDigit_of_mem_toString (List.mem_of_mem_tail hfraction))

theorem printed_pointText (n digits : Nat) : Printed (pointText n digits) := by
  refine ⟨spaceless_number fun c => number_of_pointText, joins_number (fun c =>
    number_of_pointText) false, ⟨'.', ?_, by decide, by decide⟩⟩
  exact List.mem_append_right _ List.mem_cons_self

theorem toString_int (n : Int) : (toString n).toList = (toString n.natAbs).toList ∨
    (toString n).toList = '-' :: (toString n.natAbs).toList := by
  cases n with
  | ofNat m => exact .inl rfl
  | negSucc m => exact .inr (by simp [toString, Int.repr, Nat.repr])

theorem exponent_plain (n : Int) :
    Spaceless (toString n).toList ∧ joins false (toString n).toList = 0 := by
  have hdigits : ∀ c ∈ (toString n.natAbs).toList, isNumberChar c = true :=
    fun c hc => isNumberChar_digit (Library.Decimal.isDigit_of_mem_toString hc)
  rcases toString_int n with h | h
  · rw [h]
    exact ⟨spaceless_number hdigits, joins_number hdigits false⟩
  · rw [h]
    refine ⟨List.forall_mem_cons.mpr ⟨by decide, spaceless_number hdigits⟩, ?_⟩
    exact (Nat.zero_add _).trans (joins_number hdigits _)

theorem printed_exponent (h : Printed text) (n : Int) :
    Printed (text ++ 'E' :: (toString n).toList) := by
  obtain ⟨hspace, hjoins⟩ := exponent_plain n
  obtain ⟨c, hc, hvalue⟩ := h.valued
  refine ⟨spaceless_append h.spaceless (List.forall_mem_cons.mpr ⟨by decide, hspace⟩), ?_,
    ⟨c, List.mem_append_left _ hc, hvalue⟩⟩
  have hletter (prev : Bool) : joins prev ('E' :: (toString n).toList) = 0 := by
    cases prev <;> exact (Nat.zero_add _).trans hjoins
  rw [joins_append, h.joins, hletter]

theorem printed_magnitudeText (m : Nat) (e : Int) : Printed (magnitudeText m e) := by
  rw [magnitudeText]
  dsimp only
  split
  · exact printed_pointText _ _
  · split
    · exact printed_exponent (printed_pointText _ _) _
    · have hone : Printed ['1', '.', '0'] :=
        ⟨spaceless_of_all (by decide), by decide, '.', by decide, by decide, by decide⟩
      exact printed_exponent hone _

theorem printed_toText (x : Double) : Printed (toText x) := by
  have hsigned (s : Float.Model.UnpackedFloat.Sign) {text : List Char} (h : Printed text) :
      Printed (signText s ++ text) := by
    cases s with
    | negative => exact printed_append_left (spaceless_of_all (by decide)) (by decide) (by decide) h
    | positive => exact h
  have hnan : Printed ['N', 'a', 'N'] :=
    ⟨spaceless_of_all (by decide), by decide, 'N', by decide, by decide, by decide⟩
  have hinfinity : Printed ['I', 'n', 'f', 'i', 'n', 'i', 't', 'y'] :=
    ⟨spaceless_of_all (by decide), by decide, 'I', by decide, by decide, by decide⟩
  have hzero : Printed ['0', '.', '0'] :=
    ⟨spaceless_of_all (by decide), by decide, '.', by decide, by decide, by decide⟩
  rw [toText]
  split
  · exact hnan
  · exact hsigned _ hinfinity
  · exact hsigned _ hzero
  · exact hsigned _ (printed_magnitudeText _ _)

end Texts

section Rounds

variable {operators before text : List Char} {found : Match} {rounds : Nat}
  {operate : Char → Double → Double → Double}

structure Round (text text' : List Char) : Prop where
  spaceless : Spaceless text'
  joins : joins false text' < joins false text
  valued : Valued text'

theorem round_of_find (hoperators : ∀ c ∈ operators, isOperator c = true) (h : Spaceless text)
    (hfound : find operators text = some (before, found)) (x : Double) :
    Round text (before ++ (toText x ++ found.rest)) := by
  obtain ⟨htext, hgroup1, hgroup2, hgroup3, hbefore⟩ := find_spec h hfound
  obtain ⟨hspace, hjoins, c, hc, hvalue⟩ := printed_toText x
  have hin : Spaceless before ∧ Spaceless found.rest := by
    rw [htext] at h
    exact ⟨fun d hd => h d (by simp [hd]), fun d hd => h d (by simp [hd])⟩
  refine ⟨spaceless_append hin.1 (spaceless_append hspace hin.2), ?_, ⟨c, by simp [hc], hvalue⟩⟩
  have hold : joins false text = joins false before + (1 + joins true found.rest) := by
    rw [htext, joins_append, hbefore, joins_append, endsNumber_number hgroup1,
      joins_number hgroup1.2, joins, joins_append, endsNumber_number hgroup3,
      joins_number hgroup3.2, hoperators _ hgroup2, Nat.zero_add, Nat.zero_add]
    rfl
  have hrest : joins (endsNumber false (toText x)) found.rest ≤ joins true found.rest := by
    cases endsNumber false (toText x) with
    | false => exact joins_mono found.rest
    | true => exact Nat.le_refl _
  rw [hold, joins_append, hbefore, joins_append, hjoins]
  omega

-- the loop ends, with the same outcome however many rounds it is given
structure Settles (text : List Char) (loop : Nat → Outcome) (outcome : Outcome) : Prop where
  enough : ∀ rounds, joins false text < rounds → loop rounds = outcome
  ended : outcome ≠ .running
  returned : ∀ left, outcome = .returned left →
    Spaceless left ∧ joins false left ≤ joins false text ∧ (left = text ∨ Valued left)

theorem settles_threw {loop : Nat → Outcome} (h : ∀ rounds, loop (rounds + 1) = .threw) :
    Settles text loop .threw := by
  refine ⟨fun rounds hrounds => ?_, Outcome.noConfusion, fun left hleft => by cases hleft⟩
  cases rounds with
  | zero => exact absurd hrounds (Nat.not_lt_zero _)
  | succ rounds => exact h rounds

theorem settles_returned (h : Spaceless text) {loop : Nat → Outcome}
    (hloop : ∀ rounds, loop (rounds + 1) = .returned text) :
    Settles text loop (.returned text) := by
  refine ⟨fun rounds hrounds => ?_, Outcome.noConfusion, fun left hleft => ?_⟩
  · cases rounds with
    | zero => exact absurd hrounds (Nat.not_lt_zero _)
    | succ rounds => exact hloop rounds
  · obtain rfl := Outcome.returned.inj hleft
    exact ⟨h, Nat.le_refl _, .inl rfl⟩

theorem settles_round {text' : List Char} {loop loop' : Nat → Outcome} {outcome : Outcome}
    (hround : Round text text') (hloop : ∀ rounds, loop (rounds + 1) = loop' rounds)
    (h : Settles text' loop' outcome) : Settles text loop outcome := by
  refine ⟨fun rounds hrounds => ?_, h.ended, fun left hleft => ?_⟩
  · cases rounds with
    | zero => exact absurd hrounds (Nat.not_lt_zero _)
    | succ rounds =>
      rw [hloop]
      exact h.enough rounds (Nat.lt_of_lt_of_le hround.joins (Nat.le_of_lt_succ hrounds))
  · obtain ⟨hspace, hjoins, hkept⟩ := h.returned left hleft
    refine ⟨hspace, hjoins.trans hround.joins.le, .inr ?_⟩
    rcases hkept with rfl | hvalued
    · exact hround.valued
    · exact hvalued

theorem replaceAll_settles (hoperators : ∀ c ∈ operators, isOperator c = true)
    (operate : Char → Double → Double → Double) (h : Spaceless text) :
    ∃ outcome, Settles text (fun rounds => replaceAll operators operate rounds text) outcome := by
  induction hn : joins false text using Nat.strongRecOn generalizing text with
  | ind n ih =>
    subst hn
    cases hfind : find operators text with
    | none => exact ⟨_, settles_returned h fun rounds => by rw [replaceAll, hfind]⟩
    | some result =>
      obtain ⟨before, found⟩ := result
      cases hparse : parseDouble found.group1 with
      | none => exact ⟨_, settles_threw fun rounds => by simp only [replaceAll, hfind, hparse]⟩
      | some d1 =>
        cases hparse' : parseDouble found.group3 with
        | none =>
          exact ⟨_, settles_threw fun rounds => by simp only [replaceAll, hfind, hparse, hparse']⟩
        | some d2 =>
          have hround := round_of_find hoperators h hfind (operate found.group2 d1 d2)
          obtain ⟨outcome, hsettles⟩ := ih _ hround.joins hround.spaceless rfl
          refine ⟨outcome, settles_round hround (fun rounds => ?_) hsettles⟩
          simp only [replaceAll, hfind, hparse, hparse']

theorem compute_settles (h : Spaceless text) :
    ∃ outcome, Settles text (fun rounds => compute rounds text) outcome := by
  have hfirst : ∀ c ∈ ['*', '/'], isOperator c = true := List.all_eq_true.mp rfl
  have hsecond : ∀ c ∈ ['+', '-'], isOperator c = true := List.all_eq_true.mp rfl
  obtain ⟨outcome, hsettles⟩ := replaceAll_settles hfirst mulDiv h
  cases outcome with
  | running => exact absurd rfl hsettles.ended
  | threw =>
    refine ⟨.threw, fun rounds hrounds => ?_, Outcome.noConfusion, fun left hleft => by cases hleft⟩
    have hloop : replaceAll ['*', '/'] mulDiv rounds text = .threw :=
      hsettles.enough rounds hrounds
    rw [compute, hloop]
  | returned middle =>
    obtain ⟨hspace, hjoins, hkept⟩ := hsettles.returned middle rfl
    obtain ⟨outcome, hsettles'⟩ := replaceAll_settles hsecond addSub hspace
    refine ⟨outcome, fun rounds hrounds => ?_, hsettles'.ended, fun left hleft => ?_⟩
    · have hloop : replaceAll ['*', '/'] mulDiv rounds text = .returned middle :=
        hsettles.enough rounds hrounds
      rw [compute, hloop]
      exact hsettles'.enough rounds (Nat.lt_of_le_of_lt hjoins hrounds)
    · obtain ⟨hspace', hjoins', hkept'⟩ := hsettles'.returned left hleft
      refine ⟨hspace', hjoins'.trans hjoins, ?_⟩
      rcases hkept' with rfl | hvalued
      · exact hkept
      · exact .inr hvalued

theorem compute_ends (h : Spaceless text) : ∃ outcome, outcome ≠ .running ∧
    (∀ rounds, joins false text < rounds → compute rounds text = outcome) ∧
    ∀ left, outcome = .returned left → left = text ∨ Valued left := by
  obtain ⟨outcome, hsettles⟩ := compute_settles h
  exact ⟨outcome, hsettles.ended, hsettles.enough, fun left hleft =>
    (hsettles.returned left hleft).2.2⟩

theorem compute_ends_chain : ∃ outcome, outcome ≠ .running ∧
    (∀ rounds, joins false ['1', '/', '8', '-', '2', '*', '.', '5'] < rounds →
      compute rounds ['1', '/', '8', '-', '2', '*', '.', '5'] = outcome) ∧
    ∀ left, outcome = .returned left →
      left = ['1', '/', '8', '-', '2', '*', '.', '5'] ∨ Valued left :=
  compute_ends (spaceless_of_all (by decide))

end Rounds

end TorChat.Play.Calculator
