import Mathlib.Data.Nat.Basic

namespace TorChat.Library.Decimal

-- the digits of the scripts other than the Latin one are left out
def isNumber (digits : List Char) : Bool := !digits.isEmpty && digits.all Char.isDigit

def value (digits : List Char) : Nat := Nat.ofDigitChars 10 digits 0

theorem toList_toString (n : Nat) : (toString n).toList = Nat.toDigits 10 n := Nat.toList_repr

theorem value_toString (n : Nat) : value (toString n).toList = n := by
  rw [value, toList_toString, Nat.ofDigitChars_ten_toDigits]

theorem isDigit_of_mem_toString {n : Nat} {c : Char} (h : c ∈ (toString n).toList) :
    c.isDigit = true := by
  rw [toList_toString] at h
  exact Nat.isDigit_of_mem_toDigits (by decide) (by decide) h

theorem isNumber_toString (n : Nat) : isNumber (toString n).toList = true := by
  rw [isNumber, Bool.and_eq_true, List.all_eq_true, Bool.not_eq_true', List.isEmpty_eq_false_iff,
    toList_toString]
  exact ⟨Nat.toDigits_ne_nil, fun c hc => Nat.isDigit_of_mem_toDigits (by decide) (by decide) hc⟩

theorem toString_negSucc (n : Nat) : toString (Int.negSucc n) = "-" ++ toString (n + 1) := rfl

theorem mem_toString_int {n : Int} {c : Char} (h : c ∈ (toString n).toList) :
    c = '-' ∨ c.isDigit = true := by
  cases n with
  | ofNat n => exact .inr (isDigit_of_mem_toString h)
  | negSucc n =>
    rw [toString_negSucc, String.toList_append, List.mem_append] at h
    rcases h with hsign | hdigit
    · exact .inl (List.mem_singleton.mp hsign)
    · exact .inr (isDigit_of_mem_toString hdigit)

end TorChat.Library.Decimal
