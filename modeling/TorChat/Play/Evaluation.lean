import TorChat.Play.Calculator

namespace TorChat.Play.Calculator

open Library.Binary64 (Held Holds signOf)
open Library.DoubleText (isNumberChar parseDouble run_of_append signText toText)

section Statement

def readDigits (text : List Char) : Option Nat :=
  let digits := text.takeWhile Char.isDigit
  let rest := text.dropWhile Char.isDigit
  if digits ≠ [] ∧ (rest = [] ∨ rest = ['.', '0']) then some (Library.Decimal.value digits) else none

-- a whole number, perhaps with a sign and perhaps with .0
def readDecimal : List Char → Option Int
  | '-' :: text => (readDigits text).map (fun n => -(n : Int))
  | text => (readDigits text).map (fun n => (n : Int))

-- the literals are exact, and what an operation gives is printed without an exponent
structure InRange (e : Expression) : Prop where
  literals : ∀ product ∈ e.terms, ∀ literal ∈ product.first :: product.others, Held literal.value
  products : ∀ product ∈ e.terms, ∀ n ∈ product.products, n < 10 ^ 7
  sums : ∀ n ∈ e.sums, n.natAbs < 10 ^ 7

-- no sum is negative, or the first negative one, v, is also the last one and the others behind it
-- stay between 2 v and 2 v + 10 ^ 7
def SignKept (sums : List Int) : Prop :=
  (∀ n ∈ sums, 0 ≤ n) ∨ ∃ before v after, sums = before ++ v :: after ∧ (∀ n ∈ before, 0 ≤ n) ∧
    v < 0 ∧ (∀ n ∈ after, 0 ≤ n - 2 * v ∧ n - 2 * v < 10 ^ 7) ∧ after.getLastD v = v

def Evaluates (e : Expression) : Prop :=
  ∃ text, (∀ rounds, e.operators < rounds → compute rounds e.text = .returned text) ∧
    readDecimal text = some e.value

end Statement

section Matching

variable {operators run before text rest : List Char} {c : Char}

def Number (run : List Char) : Prop := run ≠ [] ∧ ∀ c ∈ run, isNumberChar c = true

-- a text that can stand behind a number
def Ends (rest : List Char) : Prop := ∀ c ∈ rest.head?, isNumberChar c = false

def Plain (c : Char) : Prop := isNumberChar c = false ∧ isSpace c = false

theorem number_not_space (h : isNumberChar c = true) : isSpace c = false := by
  by_contra hspace
  rw [Bool.not_eq_false, isSpace, List.contains_iff_mem] at hspace
  have hall : [' ', '\t', '\n', '\x0b', '\x0c', '\r'].all (fun d => !isNumberChar d) = true := by
    decide
  have hout := List.all_eq_true.mp hall c hspace
  rw [h] at hout
  cases hout

theorem dropWhile_plain (hc : isSpace c = false) (rest : List Char) :
    (c :: rest).dropWhile isSpace = c :: rest := by
  rw [List.dropWhile_cons, hc, if_neg Bool.false_ne_true]

theorem lookingAt_number {c : Char} {run' : List Char} (hrun : Number run) (hc : Plain c)
    (hmem : c ∈ operators) (hrun' : Number run') (hrest : Ends rest) :
    lookingAt operators (run ++ c :: (run' ++ rest)) = some ⟨run, c, run', rest⟩ := by
  have hplain : Ends (c :: (run' ++ rest)) := by
    rintro d ⟨⟩
    exact hc.1
  obtain ⟨htake, hdrop⟩ := run_of_append hrun.2 hplain
  obtain ⟨htake', hdrop'⟩ := run_of_append hrun'.2 hrest
  have hspace : (run' ++ rest).dropWhile isSpace = run' ++ rest := by
    obtain ⟨d, more, rfl⟩ := List.exists_cons_of_ne_nil hrun'.1
    exact dropWhile_plain (number_not_space (hrun'.2 d List.mem_cons_self)) _
  rw [lookingAt, htake, hdrop, dropWhile_plain hc.2]
  dsimp only
  rw [hspace, htake', hdrop']
  exact if_pos ⟨hrun.1, hmem, hrun'.1⟩

theorem lookingAt_plain (hrun : ∀ d ∈ run, isNumberChar d = true) (hc : Plain c)
    (h : run = [] ∨ c ∉ operators) (rest : List Char) :
    lookingAt operators (run ++ c :: rest) = none := by
  have hplain : Ends (c :: rest) := by
    rintro d ⟨⟩
    exact hc.1
  obtain ⟨htake, hdrop⟩ := run_of_append hrun hplain
  rw [lookingAt, htake, hdrop, dropWhile_plain hc.2]
  refine if_neg (fun hall => ?_)
  rcases h with hnil | hout
  · exact hall.1 hnil
  · exact hout hall.2.1

theorem lookingAt_last (hrun : ∀ d ∈ run, isNumberChar d = true) : lookingAt operators run = none := by
  have hends : Ends [] := by
    rintro d ⟨⟩
  obtain ⟨_, hdrop⟩ := run_of_append hrun hends
  rw [List.append_nil] at hdrop
  rw [lookingAt, hdrop]
  rfl

theorem find_number {run' : List Char} (hrun : Number run) (hc : Plain c) (hmem : c ∈ operators)
    (hrun' : Number run') (hrest : Ends rest) :
    find operators (run ++ c :: (run' ++ rest)) = some ([], ⟨run, c, run', rest⟩) := by
  have hlook := lookingAt_number hrun hc hmem hrun' hrest
  obtain ⟨d, more, rfl⟩ := List.exists_cons_of_ne_nil hrun.1
  rw [List.cons_append] at hlook ⊢
  rw [find, hlook]

theorem find_last (hrun : ∀ d ∈ run, isNumberChar d = true) : find operators run = none := by
  induction run with
  | nil => rfl
  | cons d run ih =>
    rw [find, lookingAt_last hrun, ih (fun e he => hrun e (List.mem_cons_of_mem d he))]
    rfl

-- no match starts in it, whatever follows
def Inert (operators before : List Char) : Prop :=
  ∀ text, find operators (before ++ text) =
    (find operators text).map (fun found => (before ++ found.1, found.2))

theorem inert_nil (operators : List Char) : Inert operators [] := by
  intro text
  rw [List.nil_append]
  exact Option.map_id'.symm

theorem inert_append {before' : List Char} (h : Inert operators before)
    (h' : Inert operators before') : Inert operators (before ++ before') := by
  intro text
  rw [List.append_assoc, h, h', Option.map_map]
  refine congrArg (fun f => (find operators text).map f) (funext fun found => ?_)
  rw [Function.comp_apply, List.append_assoc]

theorem inert_run (hrun : ∀ d ∈ run, isNumberChar d = true) (hc : Plain c)
    (h : run = [] ∨ c ∉ operators) : Inert operators (run ++ [c]) := by
  intro text
  induction run with
  | nil =>
    have hnone : lookingAt operators ([] ++ c :: text) = none :=
      lookingAt_plain (by simp) hc (.inl rfl) text
    rw [List.nil_append] at hnone
    rw [List.nil_append, List.singleton_append, find, hnone]
    rfl
  | cons d run ih =>
    have hout : c ∉ operators := h.resolve_left (List.cons_ne_nil d run)
    have hnone : lookingAt operators (d :: run ++ c :: text) = none :=
      lookingAt_plain hrun hc (.inr hout) text
    have hrest := ih (fun e he => hrun e (List.mem_cons_of_mem d he)) (.inr hout)
    rw [List.cons_append] at hnone
    rw [List.append_assoc, List.singleton_append] at hrest ⊢
    rw [List.cons_append, find, hnone, hrest]
    dsimp only
    rw [Option.map_map]
    rfl

end Matching

section Operands

-- a text in the place of a number: what it stands for, as a double and as a decimal
structure Operand (run : List Char) (n : Nat) : Prop where
  number : Number run
  parsed : ∃ x, parseDouble run = some x ∧ Holds x n
  decimal : readDecimal run = some (n : Int)

def tenths (n : Nat) : List Char := (toString n).toList ++ ['.', '0']

variable {n : Nat} {r : Int} {x : Double} {digits : List Char}

theorem isNumberChar_digit {c : Char} (h : c.isDigit = true) : isNumberChar c = true := by
  rw [isNumberChar, h]
  rfl

theorem readDecimal_digit {c : Char} {text : List Char} (h : c.isDigit = true) :
    readDecimal (c :: text) = (readDigits (c :: text)).map (fun n => (n : Int)) := by
  rw [readDecimal]
  rintro rest heq
  rw [(List.cons.inj heq).1] at h
  cases h

theorem readDigits_append {rest : List Char} (h : Library.Decimal.isNumber digits = true)
    (hrest : rest = [] ∨ rest = ['.', '0']) :
    readDigits (digits ++ rest) = some (Library.Decimal.value digits) := by
  obtain ⟨hne, hdigits⟩ := Library.DoubleText.isNumber_iff.mp h
  have hends : ∀ c ∈ rest.head?, c.isDigit = false := by
    rcases hrest with rfl | rfl
    · rintro c ⟨⟩
    · rintro c ⟨⟩
      rfl
  obtain ⟨htake, hdrop⟩ := run_of_append hdigits hends
  rw [readDigits, htake, hdrop]
  exact if_pos ⟨hne, hrest⟩

theorem readDecimal_append {rest : List Char} (h : Library.Decimal.isNumber digits = true)
    (hrest : rest = [] ∨ rest = ['.', '0']) :
    readDecimal (digits ++ rest) = some (Library.Decimal.value digits : Int) := by
  obtain ⟨hne, hdigits⟩ := Library.DoubleText.isNumber_iff.mp h
  have hread := readDigits_append h hrest
  obtain ⟨d, more, rfl⟩ := List.exists_cons_of_ne_nil hne
  rw [List.cons_append] at hread ⊢
  rw [readDecimal_digit (hdigits d List.mem_cons_self), hread]
  rfl

theorem operand_digits (h : Library.Decimal.isNumber digits = true)
    (held : Held (Library.Decimal.value digits)) :
    Operand digits (Library.Decimal.value digits) := by
  obtain ⟨hne, hdigits⟩ := Library.DoubleText.isNumber_iff.mp h
  have hread : readDecimal (digits ++ []) = some (Library.Decimal.value digits : Int) :=
    readDecimal_append h (.inl rfl)
  rw [List.append_nil] at hread
  exact ⟨⟨hne, fun c hc => isNumberChar_digit (hdigits c hc)⟩,
    Library.DoubleText.parseDouble_digits h held, hread⟩

theorem operand_toString (hn : n < 10 ^ 7) : Operand (toString n).toList n := by
  have hvalue := Library.Decimal.value_toString n
  have held : Held (Library.Decimal.value (toString n).toList) := by
    rw [hvalue]
    exact Library.Binary64.held_of_lt (Nat.lt_trans hn (by decide))
  have hoperand := operand_digits (Library.Decimal.isNumber_toString n) held
  rwa [hvalue] at hoperand

theorem readDigits_tenths (n : Nat) : readDigits (tenths n) = some n := by
  rw [tenths, readDigits_append (Library.Decimal.isNumber_toString n) (.inr rfl),
    Library.Decimal.value_toString]

theorem operand_tenths (hn : n < 10 ^ 7) : Operand (tenths n) n := by
  have hnumber := Library.Decimal.isNumber_toString n
  obtain ⟨hne, hdigits⟩ := Library.DoubleText.isNumber_iff.mp hnumber
  have hread := readDecimal_append hnumber (.inr rfl)
  rw [Library.Decimal.value_toString] at hread
  have held : Held n := Library.Binary64.held_of_lt (Nat.lt_trans hn (by decide))
  refine ⟨⟨by simp [tenths], fun c hc => ?_⟩, Library.DoubleText.parseDouble_tenths held, hread⟩
  rcases List.mem_append.mp hc with hdigit | htail
  · exact isNumberChar_digit (hdigits c hdigit)
  · have hall : ['.', '0'].all isNumberChar = true := by decide
    exact List.all_eq_true.mp hall c htail

end Operands

section Rounds

variable {operators before rest run run' : List Char} {c : Char} {m n : Nat}
  (operate : Char → Double → Double → Double)

theorem replaceAll_round (hbefore : Inert operators before) (hrun : Operand run m) (hc : Plain c)
    (hmem : c ∈ operators) (hrun' : Operand run' n) (hrest : Ends rest) :
    ∃ d1 d2, Holds d1 m ∧ Holds d2 n ∧ ∀ rounds,
      replaceAll operators operate (rounds + 1) (before ++ (run ++ c :: (run' ++ rest))) =
        replaceAll operators operate rounds (before ++ (toText (operate c d1 d2) ++ rest)) := by
  obtain ⟨d1, hparse, hd1⟩ := hrun.parsed
  obtain ⟨d2, hparse', hd2⟩ := hrun'.parsed
  refine ⟨d1, d2, hd1, hd2, fun rounds => ?_⟩
  rw [replaceAll, hbefore, find_number hrun.number hc hmem hrun'.number hrest, Option.map_some]
  dsimp only
  rw [hparse, hparse', List.append_nil]

theorem replaceAll_last (hbefore : Inert operators before) (hrun : Number run) (rounds : Nat) :
    replaceAll operators operate (rounds + 1) (before ++ run) = .returned (before ++ run) := by
  rw [replaceAll, hbefore, find_last hrun.2]
  rfl

end Rounds

section Products

variable {before rest run : List Char} {m : Nat}

def factorText (literals : List Literal) : List Char :=
  literals.flatMap (fun literal => '*' :: literal.digits)

def sumText (parts : List (AddOp × List Char)) : List Char :=
  parts.flatMap (fun part => part.1.char :: part.2)

def termText (terms : List (AddOp × Product)) : List Char :=
  terms.flatMap (fun term => term.1.char :: term.2.text)

theorem plain_char (op : AddOp) : Plain op.char := by
  cases op with
  | plus => exact ⟨rfl, rfl⟩
  | minus => exact ⟨rfl, rfl⟩

theorem ends_cons {c : Char} (hc : Plain c) (rest : List Char) : Ends (c :: rest) := by
  rintro d ⟨⟩
  exact hc.1

theorem ends_factorText (hrest : Ends rest) (literals : List Literal) :
    Ends (factorText literals ++ rest) := by
  cases literals with
  | nil => exact hrest
  | cons literal literals => exact ends_cons (c := '*') ⟨rfl, rfl⟩ _

theorem toText_natCast {x : Double} {n : Nat} (h : Holds x n) (hn : n < 10 ^ 7) :
    toText x = tenths n := by
  rw [Library.DoubleText.toText_small h hn, Library.Binary64.signOf_natCast]
  rfl

theorem held_small {n : Nat} (hn : n < 10 ^ 8) : Held n :=
  Library.Binary64.held_of_lt (Nat.lt_trans hn (by decide))

theorem product_rounds (hbefore : Inert ['*', '/'] before) (hrest : Ends rest)
    (literals : List Literal) (hrun : Operand run m) (held : ∀ literal ∈ literals, Held literal.value)
    (hsmall : ∀ n ∈ results Product.times m literals, n < 10 ^ 7) :
    ∃ run', Operand run' (literals.foldl Product.times m) ∧ ∀ rounds,
      replaceAll ['*', '/'] mulDiv (rounds + literals.length)
          (before ++ (run ++ (factorText literals ++ rest))) =
        replaceAll ['*', '/'] mulDiv rounds (before ++ (run' ++ rest)) := by
  induction literals generalizing run m with
  | nil => exact ⟨run, hrun, fun rounds => rfl⟩
  | cons literal literals ih =>
    obtain ⟨hheld, hheld'⟩ := List.forall_mem_cons.mp held
    rw [results, List.forall_mem_cons] at hsmall
    obtain ⟨hproduct, hsmall'⟩ := hsmall
    obtain ⟨d1, d2, hd1, hd2, hround⟩ := replaceAll_round mulDiv hbefore hrun
      (c := '*') ⟨rfl, rfl⟩ (by decide) (operand_digits literal.number hheld)
      (ends_factorText hrest literals)
    have hd := Library.Binary64.holds_mul hd1 hd2 (held_small (Nat.lt_trans hproduct (by decide)))
    have htext : toText (mulDiv '*' d1 d2) = tenths (m * literal.value) :=
      toText_natCast hd hproduct
    obtain ⟨run', hrun', hrounds⟩ := ih (operand_tenths hproduct) hheld' hsmall'
    refine ⟨run', hrun', fun rounds => ?_⟩
    have hflat : factorText (literal :: literals) ++ rest =
        '*' :: (literal.digits ++ (factorText literals ++ rest)) := by
      rw [factorText, List.flatMap_cons, List.cons_append, List.cons_append, List.append_assoc]
      rfl
    rw [List.length_cons, ← Nat.add_assoc, hflat, hround, htext]
    exact hrounds rounds

def Exact (product : Product) : Prop :=
  (∀ literal ∈ product.first :: product.others, Held literal.value) ∧
    ∀ n ∈ product.products, n < 10 ^ 7

def Resolved (term : AddOp × Product) (part : AddOp × List Char) : Prop :=
  part.1 = term.1 ∧ Operand part.2 term.2.value

theorem product_done (hbefore : Inert ['*', '/'] before) (hrest : Ends rest) {product : Product}
    (h : Exact product) : ∃ run, Operand run product.value ∧ ∀ rounds,
      replaceAll ['*', '/'] mulDiv (rounds + product.others.length)
          (before ++ (product.text ++ rest)) =
        replaceAll ['*', '/'] mulDiv rounds (before ++ (run ++ rest)) := by
  obtain ⟨hheld, hheld'⟩ := List.forall_mem_cons.mp h.1
  obtain ⟨run, hrun, hrounds⟩ := product_rounds hbefore hrest product.others
    (operand_digits product.first.number hheld) hheld' h.2
  have htext : product.text ++ rest =
      product.first.digits ++ (factorText product.others ++ rest) := List.append_assoc _ _ _
  refine ⟨run, hrun, fun rounds => ?_⟩
  rw [htext]
  exact hrounds rounds

theorem products_resolved (terms : List (AddOp × Product)) {product : Product}
    (hproduct : Exact product) (hterms : ∀ term ∈ terms, Exact term.2)
    (hbefore : Inert ['*', '/'] before) :
    ∃ run parts, Operand run product.value ∧ List.Forall₂ Resolved terms parts ∧ ∀ rounds,
      product.others.length + (terms.map (fun term => term.2.others.length)).sum < rounds →
        replaceAll ['*', '/'] mulDiv rounds (before ++ (product.text ++ termText terms)) =
          .returned (before ++ (run ++ sumText parts)) := by
  induction terms generalizing product before with
  | nil =>
    have hends : Ends [] := by
      rintro d ⟨⟩
    obtain ⟨run, hrun, hrounds⟩ := product_done hbefore hends hproduct
    refine ⟨run, [], hrun, .nil, fun rounds hlt => ?_⟩
    rw [List.map_nil, List.sum_nil, Nat.add_zero] at hlt
    obtain ⟨k, rfl⟩ : ∃ k, rounds = k + 1 + product.others.length :=
      ⟨rounds - product.others.length - 1, by omega⟩
    have hstop := replaceAll_last mulDiv hbefore hrun.number k
    rw [termText, List.flatMap_nil, hrounds, List.append_nil, hstop, sumText, List.flatMap_nil,
      List.append_nil]
  | cons term terms ih =>
    obtain ⟨op, product'⟩ := term
    obtain ⟨hproduct', hterms'⟩ := List.forall_mem_cons.mp hterms
    obtain ⟨run, hrun, hrounds⟩ := product_done hbefore
      (ends_cons (plain_char op) (product'.text ++ termText terms)) hproduct
    have hout : op.char ∉ ['*', '/'] := by
      cases op with
      | plus => decide
      | minus => decide
    have hinert := inert_append hbefore (inert_run hrun.number.2 (plain_char op) (.inr hout))
    obtain ⟨run', parts, hrun', hparts, hrounds'⟩ := ih hproduct' hterms' hinert
    refine ⟨run, (op, run') :: parts, hrun, .cons ⟨rfl, hrun'⟩ hparts, fun rounds hlt => ?_⟩
    rw [List.map_cons, List.sum_cons] at hlt
    obtain ⟨k, rfl⟩ : ∃ k, rounds = k + product.others.length :=
      ⟨rounds - product.others.length, by omega⟩
    have hnext := hrounds' k (by omega)
    rw [List.append_assoc, List.append_assoc, List.append_assoc, List.append_assoc] at hnext
    rw [termText, List.flatMap_cons, List.cons_append, sumText, List.flatMap_cons, List.cons_append]
    exact (hrounds k).trans hnext

end Products

section Sums

variable {before run : List Char} {m : Nat} {r : Int} {term : AddOp × Product}
  {part : AddOp × List Char} {parts : List (AddOp × List Char)} {text : List Char}

-- the second loop ends, and this is what it returns
def Leaves (before run : List Char) (parts : List (AddOp × List Char)) (text : List Char) : Prop :=
  ∀ rounds, parts.length < rounds →
    replaceAll ['+', '-'] addSub rounds (before ++ (run ++ sumText parts)) = .returned text

theorem leaves_nil (hbefore : Inert ['+', '-'] before) (hrun : Number run) :
    Leaves before run [] (before ++ run) := by
  intro rounds hlt
  obtain ⟨k, rfl⟩ := Nat.exists_eq_succ_of_ne_zero (Nat.ne_of_gt hlt)
  rw [sumText, List.flatMap_nil, List.append_nil]
  exact replaceAll_last addSub hbefore hrun k

theorem holds_addSub {d1 d2 : Double} {n : Nat} (op : AddOp) (hd1 : Holds d1 m) (hd2 : Holds d2 n)
    (held : Held (op.apply m n).natAbs) : Holds (addSub op.char d1 d2) (op.apply m n) := by
  cases op with
  | plus => exact Library.Binary64.holds_add hd1 hd2 held
  | minus => exact Library.Binary64.holds_sub hd1 hd2 held

theorem ends_sumText (parts : List (AddOp × List Char)) : Ends (sumText parts) := by
  cases parts with
  | nil => rintro d ⟨⟩
  | cons part parts => exact ends_cons (plain_char part.1) _

theorem inert_minus : Inert ['+', '-'] ['-'] :=
  @inert_run ['+', '-'] [] '-' (by simp) ⟨rfl, rfl⟩ (.inl rfl)

theorem inert_signText (r : Int) : Inert ['+', '-'] (signText (signOf r)) := by
  rw [signOf]
  split
  · exact inert_minus
  · exact inert_nil _

theorem sum_round (hbefore : Inert ['+', '-'] before) (hrun : Operand run m)
    (hpart : Resolved term part) (held : (Expression.add m term).natAbs < 10 ^ 8)
    (parts : List (AddOp × List Char)) :
    ∃ x, Holds x (Expression.add m term) ∧ ∀ rounds,
      replaceAll ['+', '-'] addSub (rounds + 1) (before ++ (run ++ sumText (part :: parts))) =
        replaceAll ['+', '-'] addSub rounds (before ++ (toText x ++ sumText parts)) := by
  obtain ⟨op, product⟩ := term
  obtain ⟨op', run'⟩ := part
  obtain ⟨rfl, hrun'⟩ := hpart
  have hmem : op'.char ∈ ['+', '-'] := by
    cases op' with
    | plus => decide
    | minus => decide
  obtain ⟨d1, d2, hd1, hd2, hround⟩ := replaceAll_round addSub hbefore hrun
    (plain_char op') hmem hrun' (ends_sumText parts)
  exact ⟨_, holds_addSub op' hd1 hd2 (held_small held), hround⟩

theorem sum_small (hbefore : Inert ['+', '-'] before) (hrun : Operand run m)
    (hpart : Resolved term part) (hr : r = Expression.add m term) (hsmall : r.natAbs < 10 ^ 7)
    (h : Leaves (before ++ signText (signOf r)) (tenths r.natAbs) parts text) :
    Leaves before run (part :: parts) text := by
  subst hr
  obtain ⟨x, hx, hround⟩ := sum_round hbefore hrun hpart (Nat.lt_trans hsmall (by decide)) parts
  have htext : toText x = signText (signOf (Expression.add m term)) ++
      tenths (Expression.add m term).natAbs := Library.DoubleText.toText_small hx hsmall
  intro rounds hlt
  obtain ⟨k, rfl⟩ := Nat.exists_eq_succ_of_ne_zero (Nat.ne_of_gt (Nat.zero_lt_of_lt hlt))
  have hrest := h k (Nat.lt_of_succ_lt_succ hlt)
  rw [List.append_assoc] at hrest
  rw [hround, htext, List.append_assoc, hrest]

theorem sum_large (hbefore : Inert ['+', '-'] before) (hrun : Operand run m)
    (hpart : Resolved term part) (hr : r = Expression.add m term) (hlow : 10 ^ 7 ≤ r.natAbs)
    (hhigh : r.natAbs < 10 ^ 8) (parts : List (AddOp × List Char)) :
    ∃ tail k, 'E' ∈ tail ∧ k < 10 ^ 7 ∧ Inert ['+', '-'] (before ++ tail) ∧
      ∀ text, Leaves (before ++ tail) (toString (k : Nat)).toList parts text →
        Leaves before run (part :: parts) text := by
  subst hr
  obtain ⟨x, hx, hround⟩ := sum_round hbefore hrun hpart hhigh parts
  obtain ⟨mantissa, k, hmantissa, hk, htext⟩ := Library.DoubleText.toText_large hx hlow hhigh
  have hsign : Inert ['+', '-'] (signText (signOf (Expression.add m term))) := inert_signText _
  have hinert := inert_append hsign (inert_run hmantissa (c := 'E') ⟨rfl, rfl⟩ (.inr (by decide)))
  refine ⟨_, k, by simp, Nat.lt_trans hk (by decide), inert_append hbefore hinert,
    fun text h rounds hlt => ?_⟩
  obtain ⟨j, rfl⟩ := Nat.exists_eq_succ_of_ne_zero (Nat.ne_of_gt (Nat.zero_lt_of_lt hlt))
  have hrest := h j (Nat.lt_of_succ_lt_succ hlt)
  rw [hround, htext, ← hrest]
  simp

end Sums

section Signs

variable {sums : List Int} {r : Int}

theorem signKept_cons_of_nonneg (hr : 0 ≤ r) : SignKept (r :: sums) ↔ SignKept sums := by
  constructor
  · rintro (hall | ⟨before, v, after, heq, hbefore, hv, hafter, hlast⟩)
    · exact .inl (List.forall_mem_cons.mp hall).2
    · cases before with
      | nil =>
        have hhead := (List.cons.inj heq).1
        omega
      | cons n before =>
        exact .inr ⟨before, v, after, (List.cons.inj heq).2, (List.forall_mem_cons.mp hbefore).2, hv,
          hafter, hlast⟩
  · rintro (hall | ⟨before, v, after, heq, hbefore, hv, hafter, hlast⟩)
    · exact .inl (List.forall_mem_cons.mpr ⟨hr, hall⟩)
    · exact .inr ⟨r :: before, v, after, congrArg (r :: ·) heq,
        List.forall_mem_cons.mpr ⟨hr, hbefore⟩, hv, hafter, hlast⟩

theorem signKept_cons_of_neg (hr : r < 0) : SignKept (r :: sums) ↔
    (∀ n ∈ sums, 0 ≤ n - 2 * r ∧ n - 2 * r < 10 ^ 7) ∧ sums.getLastD r = r := by
  constructor
  · rintro (hall | ⟨before, v, after, heq, hbefore, hv, hafter, hlast⟩)
    · have hhead := hall r List.mem_cons_self
      omega
    · cases before with
      | nil =>
        obtain ⟨rfl, rfl⟩ := List.cons.inj heq
        exact ⟨hafter, hlast⟩
      | cons n before =>
        have hhead := hbefore n List.mem_cons_self
        rw [← (List.cons.inj heq).1] at hhead
        omega
  · rintro ⟨hafter, hlast⟩
    exact .inr ⟨[], r, sums, rfl, by simp, hr, hafter, hlast⟩

theorem getLastD_results {A B : Type} (f : A → B → A) (a : A) (bs : List B) :
    (results f a bs).getLastD a = bs.foldl f a := by
  induction bs generalizing a with
  | nil => rfl
  | cons b bs ih => rw [results, List.getLastD_cons, ih, List.foldl_cons]

theorem signText_of_nonneg (hr : 0 ≤ r) : signText (signOf r) = [] := by
  rw [signOf, if_neg (by omega)]
  rfl

theorem signText_of_neg (hr : r < 0) : signText (signOf r) = ['-'] := by
  rw [signOf, if_pos hr]
  rfl

end Signs

section Runs

variable {before run text : List Char} {m : Nat} {s v : Int} {term : AddOp × Product}
  {terms : List (AddOp × Product)} {parts : List (AddOp × List Char)}

def Lost (before : List Char) : Prop := ∀ text, readDecimal (before ++ text) = none

theorem lost_append (h : Lost before) (tail : List Char) : Lost (before ++ tail) := by
  intro text
  rw [List.append_assoc]
  exact h (tail ++ text)

theorem readDigits_exponent (h : 'E' ∈ text) : readDigits text = none := by
  refine if_neg (fun hread => ?_)
  have hsplit := List.takeWhile_append_dropWhile (p := Char.isDigit) (l := text)
  rw [← hsplit, List.mem_append] at h
  rcases h with hdigit | hrest
  · have hout := List.all_eq_true.mp List.all_takeWhile 'E' hdigit
    cases hout
  · rcases hread.2 with hnil | hpoint
    · rw [hnil] at hrest
      cases hrest
    · rw [hpoint] at hrest
      exact absurd hrest (by decide)

theorem lost_exponent (h : 'E' ∈ before) : Lost before := by
  intro text
  have hmem : 'E' ∈ before ++ text := List.mem_append_left text h
  rw [readDecimal.eq_def]
  split
  · rename_i rest heq
    rw [heq, List.mem_cons] at hmem
    rw [readDigits_exponent (hmem.resolve_left (by decide))]
    rfl
  · rw [readDigits_exponent hmem]
    rfl

theorem lost_signs : Lost ['-', '-'] := fun _ => rfl

theorem add_eq (term : AddOp × Product) :
    ∃ d : Int, d.natAbs = term.2.value ∧ ∀ n, Expression.add n term = n + d := by
  obtain ⟨op, product⟩ := term
  cases op with
  | plus => exact ⟨product.value, rfl, fun n => rfl⟩
  | minus => exact ⟨-product.value, Int.natAbs_neg _, fun n => rfl⟩

theorem add_bound (hm : m < 10 ^ 7) (hterm : term.2.value < 2 * 10 ^ 7) :
    (Expression.add m term).natAbs < 10 ^ 8 := by
  obtain ⟨d, hd, hadd⟩ := add_eq term
  rw [hadd]
  omega

theorem sums_lost (h : List.Forall₂ Resolved terms parts) (hbefore : Inert ['+', '-'] before)
    (hlost : Lost before) (hrun : Operand run m) (hm : m < 10 ^ 7)
    (hterms : ∀ term ∈ terms, term.2.value < 2 * 10 ^ 7) :
    ∃ text, Leaves before run parts text ∧ readDecimal text = none := by
  induction h generalizing before run m with
  | nil => exact ⟨before ++ run, leaves_nil hbefore hrun.number, hlost run⟩
  | @cons term part terms parts hpart h ih =>
    obtain ⟨hterm, hterms'⟩ := List.forall_mem_cons.mp hterms
    by_cases hsmall : (Expression.add m term).natAbs < 10 ^ 7
    · obtain ⟨text, htext, hnone⟩ := ih
        (inert_append hbefore (inert_signText (Expression.add m term))) (lost_append hlost _)
        (operand_tenths hsmall) hsmall hterms'
      exact ⟨text, sum_small hbefore hrun hpart rfl hsmall htext, hnone⟩
    · obtain ⟨tail, k, _, hk, hinert, hleaves⟩ := sum_large hbefore hrun hpart rfl
        (Nat.not_lt.mp hsmall) (add_bound hm hterm) parts
      obtain ⟨text, htext, hnone⟩ := ih hinert (lost_append hlost tail) (operand_toString hk) hk hterms'
      exact ⟨text, hleaves text htext, hnone⟩

theorem readDecimal_mirrored (m : Nat) : readDecimal (['-'] ++ tenths m) = some (-(m : Int)) := by
  rw [List.singleton_append, readDecimal, readDigits_tenths]
  rfl

theorem add_mirrored (hm : (m : Int) = s - 2 * v) (term : AddOp × Product) :
    Expression.add m term = Expression.add s term - 2 * v := by
  obtain ⟨d, _, hadd⟩ := add_eq term
  rw [hadd, hadd]
  omega

-- past 2 v + 10 ^ 7 an exponent is printed, and below 2 v a second sign
theorem sum_out (h : List.Forall₂ Resolved terms parts) (hpart : Resolved term part)
    (hsmall : m < 10 ^ 7) (hterm : term.2.value < 2 * 10 ^ 7)
    (hterms : ∀ term ∈ terms, term.2.value < 2 * 10 ^ 7)
    (hout : ¬ (0 ≤ Expression.add m term ∧ Expression.add m term < 10 ^ 7)) :
    ∃ text, Leaves ['-'] (tenths m) (part :: parts) text ∧ readDecimal text = none := by
  have hrun : Operand (tenths m) m := operand_tenths hsmall
  by_cases hr : (Expression.add m term).natAbs < 10 ^ 7
  · have hneg : Expression.add m term < 0 := by omega
    have hinert := inert_append inert_minus (inert_signText (Expression.add m term))
    have hlost : Lost (['-'] ++ signText (signOf (Expression.add m term))) := by
      rw [signText_of_neg hneg]
      exact lost_signs
    obtain ⟨text, htext, hnone⟩ := sums_lost h hinert hlost
      (operand_tenths hr) hr hterms
    exact ⟨text, sum_small inert_minus hrun hpart rfl hr htext, hnone⟩
  · obtain ⟨tail, k, hmem, hk, hinert, hleaves⟩ := sum_large inert_minus hrun hpart rfl
      (Nat.not_lt.mp hr) (add_bound hsmall hterm) parts
    have hlost : Lost (['-'] ++ tail) := lost_exponent (List.mem_append_right ['-'] hmem)
    obtain ⟨text, htext, hnone⟩ := sums_lost h hinert hlost (operand_toString hk) hk hterms
    exact ⟨text, hleaves text htext, hnone⟩

-- with a sign in front of the number the loop goes on with 2 v - s in the place of the sum s
theorem sums_mirrored (h : List.Forall₂ Resolved terms parts) (hm : (m : Int) = s - 2 * v)
    (hsmall : m < 10 ^ 7) (hterms : ∀ term ∈ terms, term.2.value < 2 * 10 ^ 7) :
    ∃ text, Leaves ['-'] (tenths m) parts text ∧
      (readDecimal text = some (terms.foldl Expression.add s) ↔
        (∀ n ∈ results Expression.add s terms, 0 ≤ n - 2 * v ∧ n - 2 * v < 10 ^ 7) ∧
          terms.foldl Expression.add s = v) := by
  have hrun : Operand (tenths m) m := operand_tenths hsmall
  induction h generalizing s m with
  | nil =>
    refine ⟨_, leaves_nil inert_minus hrun.number, ?_⟩
    rw [readDecimal_mirrored, results, List.foldl_nil, Option.some_inj]
    constructor
    · intro heq
      exact ⟨by simp, by omega⟩
    · intro hv
      omega
  | @cons term part terms parts hpart h ih =>
    obtain ⟨hterm, hterms'⟩ := List.forall_mem_cons.mp hterms
    have hadd := add_mirrored hm term
    rw [List.foldl_cons, results, List.forall_mem_cons, ← hadd]
    by_cases hin : 0 ≤ Expression.add m term ∧ Expression.add m term < 10 ^ 7
    · have hr : (Expression.add m term).natAbs < 10 ^ 7 := by omega
      have hm' : ((Expression.add m term).natAbs : Int) = Expression.add s term - 2 * v := by omega
      obtain ⟨text, htext, hiff⟩ := ih hm' hr hterms' (operand_tenths hr)
      rw [and_iff_right hin]
      refine ⟨text, sum_small inert_minus hrun hpart rfl hr ?_, hiff⟩
      rw [signText_of_nonneg hin.1]
      exact htext
    · obtain ⟨text, htext, hnone⟩ := sum_out h hpart hsmall hterm hterms' hin
      refine ⟨text, htext, ?_⟩
      rw [hnone]
      constructor
      · rintro ⟨⟩
      · rintro ⟨⟨hin', _⟩, _⟩
        exact absurd hin' hin

theorem terms_small (hs : s.natAbs < 10 ^ 7)
    (hsums : ∀ n ∈ results Expression.add s terms, n.natAbs < 10 ^ 7) :
    ∀ term ∈ terms, term.2.value < 2 * 10 ^ 7 := by
  induction terms generalizing s with
  | nil =>
    rintro term ⟨⟩
  | cons term terms ih =>
    obtain ⟨hsum, hsums'⟩ := List.forall_mem_cons.mp hsums
    refine List.forall_mem_cons.mpr ⟨?_, ih hsum hsums'⟩
    obtain ⟨d, hd, hadd⟩ := add_eq term
    rw [hadd] at hsum
    omega

theorem sums_kept (h : List.Forall₂ Resolved terms parts) (hrun : Operand run m)
    (hsums : ∀ n ∈ results Expression.add m terms, n.natAbs < 10 ^ 7) :
    ∃ text, Leaves [] run parts text ∧ (readDecimal text = some (terms.foldl Expression.add m) ↔
      SignKept (results Expression.add m terms)) := by
  have hinert := inert_nil ['+', '-']
  induction h generalizing run m with
  | nil =>
    have hkept : SignKept (results Expression.add m []) := .inl (by simp [results])
    exact ⟨run, leaves_nil hinert hrun.number, iff_of_true hrun.decimal hkept⟩
  | @cons term part terms parts hpart h ih =>
    obtain ⟨hr, hsums'⟩ := List.forall_mem_cons.mp hsums
    rw [List.foldl_cons, results]
    by_cases hneg : Expression.add m term < 0
    · have hm' : ((Expression.add m term).natAbs : Int) =
          Expression.add m term - 2 * Expression.add m term := by omega
      obtain ⟨text, htext, hiff⟩ := sums_mirrored h hm' hr (terms_small hr hsums')
      rw [signKept_cons_of_neg hneg, getLastD_results]
      refine ⟨text, sum_small hinert hrun hpart rfl hr ?_, hiff⟩
      rw [signText_of_neg hneg]
      exact htext
    · have hm' : Expression.add m term = ((Expression.add m term).natAbs : Int) := by omega
      rw [hm'] at hsums'
      obtain ⟨text, htext, hiff⟩ := ih (operand_tenths hr) hsums'
      rw [← hm'] at hiff
      rw [signKept_cons_of_nonneg (Int.not_lt.mp hneg)]
      refine ⟨text, sum_small hinert hrun hpart rfl hr ?_, hiff⟩
      rw [signText_of_nonneg (Int.not_lt.mp hneg)]
      exact htext

end Runs

section Evaluation

variable {e : Expression}

theorem exact_of_inRange (h : InRange e) {product : Product} (hproduct : product ∈ e.terms) :
    Exact product :=
  ⟨h.literals product hproduct, h.products product hproduct⟩

theorem compute_returns (h : InRange e) :
    ∃ text, (∀ rounds, e.operators < rounds → compute rounds e.text = .returned text) ∧
      (readDecimal text = some e.value ↔ SignKept e.sums) := by
  have hothers : ∀ term ∈ e.others, Exact term.2 := fun term hterm =>
    exact_of_inRange h (List.mem_cons_of_mem _ (List.mem_map_of_mem hterm))
  obtain ⟨run, parts, hrun, hparts, hproducts⟩ := products_resolved e.others
    (exact_of_inRange h List.mem_cons_self) hothers (inert_nil ['*', '/'])
  obtain ⟨text, htext, hiff⟩ := sums_kept hparts hrun h.sums
  refine ⟨text, fun rounds hlt => ?_, hiff⟩
  rw [Expression.operators, Expression.terms, List.map_cons, List.sum_cons, List.map_map] at hlt
  have hfirst := hproducts rounds (Nat.lt_of_le_of_lt (Nat.le_add_left _ _) hlt)
  have hsecond := htext rounds (by rw [← hparts.length_eq]; omega)
  have hsplit : e.text = [] ++ (e.first.text ++ termText e.others) := rfl
  rw [compute, hsplit, hfirst]
  exact hsecond

theorem compute_decimal_iff (e : Expression) (h : InRange e) : Evaluates e ↔ SignKept e.sums := by
  obtain ⟨text, hreturns, hiff⟩ := compute_returns h
  refine ⟨fun ⟨text', hreturns', hread⟩ => ?_, fun hkept => ⟨text, hreturns, hiff.mpr hkept⟩⟩
  have hsame := (hreturns' _ (Nat.lt_succ_self _)).symm.trans (hreturns _ (Nat.lt_succ_self _))
  rw [Outcome.returned.inj hsame] at hread
  exact hiff.mp hread

-- 2+3*4
def twoPlusTwelve : Expression :=
  ⟨⟨⟨['2'], rfl⟩, []⟩, [(.plus, ⟨⟨['3'], rfl⟩, [⟨['4'], rfl⟩]⟩)]⟩

-- 3-5+4
def threeMinusFive : Expression :=
  ⟨⟨⟨['3'], rfl⟩, []⟩, [(.minus, ⟨⟨['5'], rfl⟩, []⟩), (.plus, ⟨⟨['4'], rfl⟩, []⟩)]⟩

theorem inRange_of_small
    (h : ∀ product ∈ e.terms, ∀ literal ∈ product.first :: product.others, literal.value < 10 ^ 7)
    (hproducts : ∀ product ∈ e.terms, ∀ n ∈ product.products, n < 10 ^ 7)
    (hsums : ∀ n ∈ e.sums, n.natAbs < 10 ^ 7) : InRange e :=
  ⟨fun product hproduct literal hliteral => Library.Binary64.held_of_lt
    (Nat.lt_trans (h product hproduct literal hliteral) (by decide)), hproducts, hsums⟩

theorem twoPlusTwelve_evaluates : Evaluates twoPlusTwelve :=
  (compute_decimal_iff twoPlusTwelve
    (inRange_of_small (by decide) (by decide) (by decide))).mpr (.inl (by decide))

theorem threeMinusFive_not_evaluated : ¬ ∀ e, InRange e → Evaluates e := by
  intro hall
  have hrange : InRange threeMinusFive := inRange_of_small (by decide) (by decide) (by decide)
  obtain ⟨text, hreturns, hread⟩ := hall threeMinusFive hrange
  have hcode : compute 3 threeMinusFive.text = .returned "-6.0".toList := by decide +kernel
  have hsame := hcode.symm.trans (hreturns 3 (by decide))
  rw [← Outcome.returned.inj hsame] at hread
  exact absurd hread (by decide)

end Evaluation

end TorChat.Play.Calculator
