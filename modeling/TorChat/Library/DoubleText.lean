import TorChat.Library.Binary64
import TorChat.Library.Decimal

namespace TorChat.Library.DoubleText

open Binary64 (Held Holds integral signOf)
open Float.Model.UnpackedFloat (Sign)

section Texts

def isNumberChar (c : Char) : Bool := c.isDigit || c = '.'

-- of a text of digits and points
def parseDouble (text : List Char) : Option Float.Model :=
  let whole := text.takeWhile Char.isDigit
  match text.dropWhile Char.isDigit with
  | [] => if whole = [] then none else some (.ofScientific (Decimal.value whole) 0)
  | '.' :: fraction =>
      if fraction.all Char.isDigit ∧ whole ++ fraction ≠ [] then
        some (.ofScientific (Decimal.value (whole ++ fraction)) (-fraction.length))
      else none
  | _ => none

def signText : Sign → List Char
  | .negative => ['-']
  | .positive => []

-- the decimals next to num / den with that many digits behind the point, the nearer one first
def neighbours (num den digits : Nat) : List Nat :=
  let low := num * 10 ^ digits / den
  let rest := num * 10 ^ digits % den
  if 2 * rest < den ∨ 2 * rest = den ∧ low % 2 = 0 then [low, low + 1] else [low + 1, low]

-- as few digits behind the point as tell the double from all others, but one at least
def shortest (num den : Nat) (reads : Nat → Nat → Bool) : Nat × Nat :=
  let found := (List.range 20).findSome? (fun k =>
    ((neighbours num den (k + 1)).find? (fun c => reads c (k + 1))).map (fun c => (c, k + 1)))
  found.getD (num * 10 ^ 20 / den, 20)

def reads (m : Nat) (e : Int) (c : Nat) (scale : Int) : Bool :=
  match (Float.Model.ofScientific c scale).unpack with
  | .finite .positive m' e' _ => m' = m && e' = e
  | _ => false

def pointText (c digits : Nat) : List Char :=
  (toString (c / 10 ^ digits)).toList ++
    '.' :: (toString (10 ^ digits + c % 10 ^ digits)).toList.tail

def exponentTen (num den : Nat) : Int :=
  if den ≤ num then Nat.log 10 (num / den) else -Nat.clog 10 ((den + num - 1) / num)

def magnitudeText (m : Nat) (e : Int) : List Char :=
  let num := m * 2 ^ e.toNat
  let den := 2 ^ (-e).toNat
  if den ≤ num * 1000 ∧ num < 10 ^ 7 * den then
    let (c, digits) := shortest num den (fun c digits => reads m e c (-digits))
    pointText c digits
  else
    let n := exponentTen num den
    let (c, digits) := shortest (num * 10 ^ (-n).toNat) (den * 10 ^ n.toNat)
      (fun c digits => reads m e c (n - digits))
    if c < 10 ^ (digits + 1) then pointText c digits ++ 'E' :: (toString n).toList
    else "1.0E".toList ++ (toString (n + 1)).toList

def toText (x : Float.Model) : List Char :=
  match x.unpack with
  | .notANumber => "NaN".toList
  | .infinity s => signText s ++ "Infinity".toList
  | .zero s => signText s ++ "0.0".toList
  | .finite s m e _ => signText s ++ magnitudeText m e

end Texts

section Parsing

variable {digits : List Char} {n : Nat}

theorem run_of_append {S : Type} {p : S → Bool} {run rest : List S} (h : ∀ c ∈ run, p c = true)
    (hrest : ∀ c ∈ rest.head?, p c = false) :
    (run ++ rest).takeWhile p = run ∧ (run ++ rest).dropWhile p = rest := by
  rw [List.takeWhile_append_of_pos h, List.dropWhile_append_of_pos h]
  cases rest with
  | nil => exact ⟨List.append_nil run, rfl⟩
  | cons c rest =>
    have hc := hrest c rfl
    rw [List.takeWhile_cons, List.dropWhile_cons, hc, if_neg Bool.false_ne_true,
      if_neg Bool.false_ne_true]
    exact ⟨List.append_nil run, rfl⟩

theorem isNumber_iff : Decimal.isNumber digits = true ↔
    digits ≠ [] ∧ ∀ c ∈ digits, c.isDigit = true := by
  rw [Decimal.isNumber, Bool.and_eq_true, Bool.not_eq_true', List.isEmpty_eq_false_iff,
    List.all_eq_true]

theorem value_append_zero (digits : List Char) :
    Decimal.value (digits ++ ['0']) = Decimal.value digits * 10 := by
  rw [Decimal.value, Decimal.value, Nat.ofDigitChars_append, Nat.ofDigitChars_cons,
    Nat.ofDigitChars_nil]
  exact Nat.mul_comm _ _

theorem parseDouble_digits (h : Decimal.isNumber digits = true) (held : Held (Decimal.value digits)) :
    ∃ x, parseDouble digits = some x ∧ Holds x (Decimal.value digits) := by
  obtain ⟨hne, hdigits⟩ := isNumber_iff.mp h
  have hends : ∀ c ∈ ([] : List Char).head?, c.isDigit = false := by
    rintro c ⟨⟩
  obtain ⟨htake, hdrop⟩ := run_of_append hdigits hends
  rw [List.append_nil] at htake hdrop
  refine ⟨_, ?_, Binary64.holds_ofScientific held⟩
  rw [parseDouble, htake, hdrop]
  exact if_neg hne

theorem parseDouble_tenths (held : Held n) :
    ∃ x, parseDouble ((toString n).toList ++ ['.', '0']) = some x ∧ Holds x n := by
  obtain ⟨_, hdigits⟩ := isNumber_iff.mp (Decimal.isNumber_toString n)
  have hpoint : ∀ c ∈ ['.', '0'].head?, c.isDigit = false := by
    rintro c ⟨⟩
    rfl
  obtain ⟨htake, hdrop⟩ := run_of_append hdigits hpoint
  refine ⟨_, ?_, Binary64.holds_ofTenths held⟩
  rw [parseDouble, htake, hdrop]
  have hfraction : ['0'].all Char.isDigit = true ∧ (toString n).toList ++ ['0'] ≠ [] :=
    ⟨by decide, by simp⟩
  refine (if_pos hfraction).trans ?_
  rw [value_append_zero, Decimal.value_toString]
  rfl

end Parsing

section Printing

variable {x : Float.Model} {r : Int} {n : Nat}

theorem shortest_tenths {den : Nat} (hden : 0 < den) {reads : Nat → Nat → Bool}
    (hreads : reads (n * 10) 1 = true) : shortest (n * den) den reads = (n * 10, 1) := by
  have hlow : n * den * 10 ^ (0 + 1) = n * 10 * den := Nat.mul_right_comm n den 10
  have hnear : neighbours (n * den) den (0 + 1) = [n * 10, n * 10 + 1] := by
    rw [neighbours, hlow, Nat.mul_div_cancel _ hden, Nat.mul_mod_left]
    exact if_pos (.inl hden)
  have hfind : (neighbours (n * den) den (0 + 1)).find? (fun c => reads c (0 + 1)) =
      some (n * 10) := by
    rw [hnear]
    exact List.find?_cons_of_pos hreads
  rw [shortest, List.range_succ_eq_map, List.findSome?_cons, hfind]
  rfl

theorem reads_mantissa (hn : n ≠ 0) {c : Nat} {scale : Int}
    (h : Holds (Float.Model.ofScientific c scale) n) :
    reads (Binary64.mantissa n) (Binary64.exponent n) c scale = true := by
  have hunpack := h.unpack
  rw [Binary64.signOf_natCast, Int.natAbs_natCast, integral, dif_neg hn] at hunpack
  rw [reads, hunpack]
  simp

theorem pointText_tenths (n : Nat) : pointText (n * 10) 1 = (toString n).toList ++ ['.', '0'] := by
  rw [pointText, Nat.pow_one, Nat.mul_div_cancel n (by decide), Nat.mul_mod_left]
  rfl

theorem magnitude_ratio (held : Held n) (hn : n ≠ 0) :
    Binary64.mantissa n * 2 ^ (Binary64.exponent n).toNat =
      n * 2 ^ (-Binary64.exponent n).toNat :=
  Binary64.stands_pow (Binary64.stands_mantissa held hn) (by omega)

theorem toText_of_ne (h : Holds x r) (hr : r ≠ 0) : toText x = signText (signOf r) ++
    magnitudeText (Binary64.mantissa r.natAbs) (Binary64.exponent r.natAbs) := by
  rw [toText, h.unpack, integral, dif_neg (Int.natAbs_ne_zero.mpr hr)]

theorem toText_small (h : Holds x r) (hsmall : r.natAbs < 10 ^ 7) :
    toText x = signText (signOf r) ++ ((toString r.natAbs).toList ++ ['.', '0']) := by
  by_cases hr : r = 0
  · subst hr
    rw [toText, h.unpack]
    rfl
  · have hn := Int.natAbs_ne_zero.mpr hr
    have hden : 0 < 2 ^ (-Binary64.exponent r.natAbs).toNat := Nat.two_pow_pos _
    have hreads := reads_mantissa hn (Binary64.holds_ofTenths h.held)
    rw [toText_of_ne h hr, magnitudeText, magnitude_ratio h.held hn]
    generalize 2 ^ (-Binary64.exponent r.natAbs).toNat = den at hden
    have hone : den ≤ r.natAbs * den := Nat.le_mul_of_pos_left den (by omega)
    have hplain : den ≤ r.natAbs * den * 1000 ∧ r.natAbs * den < 10 ^ 7 * den :=
      ⟨by omega, Nat.mul_lt_mul_of_pos_right hsmall hden⟩
    dsimp only
    rw [if_pos hplain, shortest_tenths hden hreads]
    dsimp only
    rw [pointText_tenths]

theorem pointText_chars {c digits : Nat} : ∀ d ∈ pointText c digits, isNumberChar d = true := by
  intro d hd
  rw [pointText, List.mem_append, List.mem_cons] at hd
  rw [isNumberChar, Bool.or_eq_true]
  rcases hd with hd | rfl | hd
  · exact .inl (Decimal.isDigit_of_mem_toString hd)
  · exact .inr rfl
  · exact .inl (Decimal.isDigit_of_mem_toString (List.mem_of_mem_tail hd))

theorem exponentTen_eq {den : Nat} (hden : 0 < den) (hlow : 10 ^ 7 ≤ n) (hhigh : n < 10 ^ 8) :
    exponentTen (n * den) den = 7 := by
  have hlog : Nat.log 10 n = 7 := (Nat.log_eq_iff (.inl (by decide))).mpr ⟨hlow, hhigh⟩
  rw [exponentTen, if_pos (Nat.le_mul_of_pos_left den (by omega)), Nat.mul_div_cancel n hden, hlog]
  rfl

theorem toText_large (h : Holds x r) (hlow : 10 ^ 7 ≤ r.natAbs) (hhigh : r.natAbs < 10 ^ 8) :
    ∃ run k, (∀ c ∈ run, isNumberChar c = true) ∧ k < 9 ∧
      toText x = signText (signOf r) ++ (run ++ 'E' :: (toString (k : Nat)).toList) := by
  have hn : r.natAbs ≠ 0 := by omega
  have hden : 0 < 2 ^ (-Binary64.exponent r.natAbs).toNat := Nat.two_pow_pos _
  rw [toText_of_ne h (Int.natAbs_ne_zero.mp hn), magnitudeText, magnitude_ratio h.held hn]
  generalize 2 ^ (-Binary64.exponent r.natAbs).toNat = den at hden
  have hscientific : ¬ (den ≤ r.natAbs * den * 1000 ∧ r.natAbs * den < 10 ^ 7 * den) :=
    fun hplain => Nat.not_lt.mpr (Nat.mul_le_mul_right den hlow) hplain.2
  dsimp only
  rw [if_neg hscientific, exponentTen_eq hden hlow hhigh]
  split
  · exact ⟨pointText _ _, 7, pointText_chars, by decide, rfl⟩
  · exact ⟨['1', '.', '0'], 8, List.all_eq_true.mp (by decide), by decide, rfl⟩

end Printing

end TorChat.Library.DoubleText
