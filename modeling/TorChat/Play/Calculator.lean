import TorChat.Library.DoubleText

namespace TorChat.Play.Calculator

open Library.DoubleText (isNumberChar parseDouble toText)

section Compute

abbrev Double := Float.Model

-- \s
def isSpace (c : Char) : Bool := [' ', '\t', '\n', '\x0b', '\x0c', '\r'].contains c

structure Match where
  group1 : List Char
  group2 : Char
  group3 : List Char
  rest : List Char

-- the classes of the pattern ([\d.]+)\s*([..])\s*([\d.]+) are disjoint: nothing matched is given back
def lookingAt (operators text : List Char) : Option Match :=
  let group1 := text.takeWhile isNumberChar
  match (text.dropWhile isNumberChar).dropWhile isSpace with
  | [] => none
  | group2 :: after =>
      let group3 := (after.dropWhile isSpace).takeWhile isNumberChar
      if group1 ≠ [] ∧ group2 ∈ operators ∧ group3 ≠ [] then
        some ⟨group1, group2, group3, (after.dropWhile isSpace).dropWhile isNumberChar⟩
      else none

-- the leftmost match, behind the text before it
def find (operators : List Char) : List Char → Option (List Char × Match)
  | [] => none
  | c :: text =>
      match lookingAt operators (c :: text) with
      | some found => some ([], found)
      | none => (find operators text).map (fun found => (c :: found.1, found.2))

def mulDiv (operator : Char) (d1 d2 : Double) : Double :=
  match operator with
  | '*' => d1 * d2
  | '/' => d1 / d2
  | _ => .ofScientific 0 0

def addSub (operator : Char) (d1 d2 : Double) : Double :=
  match operator with
  | '+' => d1 + d2
  | '-' => d1 - d2
  | _ => .ofScientific 0 0

inductive Outcome where
  | running
  | threw
  | returned (text : List Char)
  deriving DecidableEq, Repr

-- one of the two while loops, cut off after that many rounds
def replaceAll (operators : List Char) (operate : Char → Double → Double → Double) :
    Nat → List Char → Outcome
  | 0, _ => .running
  | rounds + 1, text =>
      match find operators text with
      | none => .returned text
      | some (before, found) =>
          match parseDouble found.group1, parseDouble found.group3 with
          | some d1, some d2 =>
              replaceAll operators operate rounds
                (before ++ (toText (operate found.group2 d1 d2) ++ found.rest))
          | _, _ => .threw

def compute (rounds : Nat) (str : List Char) : Outcome :=
  match replaceAll ['*', '/'] mulDiv rounds str with
  | .returned text => replaceAll ['+', '-'] addSub rounds text
  | other => other

end Compute

section Expressions

structure Literal where
  digits : List Char
  number : Library.Decimal.isNumber digits = true

def Literal.value (literal : Literal) : Nat := Library.Decimal.value literal.digits

structure Product where
  first : Literal
  others : List Literal

inductive AddOp where
  | plus
  | minus
  deriving DecidableEq

def AddOp.char : AddOp → Char
  | .plus => '+'
  | .minus => '-'

def AddOp.apply : AddOp → Int → Nat → Int
  | .plus, a, b => a + b
  | .minus, a, b => a - b

structure Expression where
  first : Product
  others : List (AddOp × Product)

-- what each operation gives, from the left
def results {A B : Type} (f : A → B → A) : A → List B → List A
  | _, [] => []
  | a, b :: bs => f a b :: results f (f a b) bs

namespace Product

def times (n : Nat) (literal : Literal) : Nat := n * literal.value

def value (product : Product) : Nat := product.others.foldl times product.first.value

def products (product : Product) : List Nat := results times product.first.value product.others

def text (product : Product) : List Char :=
  product.first.digits ++ product.others.flatMap (fun literal => '*' :: literal.digits)

end Product

namespace Expression

def add (n : Int) (term : AddOp × Product) : Int := term.1.apply n term.2.value

def value (e : Expression) : Int := e.others.foldl add e.first.value

def sums (e : Expression) : List Int := results add e.first.value e.others

def text (e : Expression) : List Char :=
  e.first.text ++ e.others.flatMap (fun term => term.1.char :: term.2.text)

def terms (e : Expression) : List Product := e.first :: e.others.map Prod.snd

def operators (e : Expression) : Nat :=
  e.others.length + (e.terms.map (fun product => product.others.length)).sum

end Expression

end Expressions

end TorChat.Play.Calculator
