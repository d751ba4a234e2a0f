import TorChat.Library.ByteString

namespace TorChat

open Library (Bytes slice?)

structure Platform where
  sha1 : Bytes → Bytes
  sha256 : Bytes → Bytes
  encryptLokiccByte : Bytes → Bytes → Bytes → Nat → Bytes
  decryLokicccByte : Bytes → Bytes → Bytes → Bytes
  sha1_length : ∀ b, (sha1 b).length = 20
  sha256_length : ∀ b, (sha256 b).length = 32

def getBytes (s : String) : Bytes := s.toByteArray.data.toList

def decodeChar? (b : Bytes) (n : Nat) : Option Char :=
  match (String.fromUTF8? ⟨(b.take n).toArray⟩).map String.toList with
  | some [c] => if b.length < n then none else some c
  | _ => none

def isContinuation (b : UInt8) : Bool := decide (b &&& 0xC0 = 0x80)

-- the bytes one replacement character stands for: the longest part a character could begin with,
-- or a whole surrogate
def malformedLength : Bytes → Nat
  | b1 :: b2 :: rest =>
      if b1 < 0xE0 ∨ 0xF4 < b1 ∨ isContinuation b2 = false ∨ (b1 = 0xE0 ∧ b2 < 0xA0) ∨
          (b1 = 0xF0 ∧ b2 < 0x90) ∨ (b1 = 0xF4 ∧ 0x8F < b2) then 1
      else if rest.head?.any isContinuation then 3
      else 2
  | _ => 1

def decodeReplacing : Nat → Bytes → List Char
  | 0, _ => []
  | _, [] => []
  | fuel + 1, b =>
      match [1, 2, 3, 4].findSome? (fun n => (decodeChar? b n).map (fun c => (c, n))) with
      | some (c, n) => c :: decodeReplacing fuel (b.drop n)
      | none => '\uFFFD' :: decodeReplacing fuel (b.drop (malformedLength b))

def newString (b : Bytes) : String :=
  match String.fromUTF8? ⟨b.toArray⟩ with
  | some s => s
  | none => String.ofList (decodeReplacing b.length b)

theorem newString_getBytes (s : String) : newString (getBytes s) = s := by
  have hb : (⟨(getBytes s).toArray⟩ : ByteArray) = s.toByteArray := by simp [getBytes]
  have hs : String.fromUTF8? s.toByteArray = some s := by
    simp only [String.fromUTF8?, s.isValidUTF8, dite_true]
    rfl
  simp only [newString, hb, hs]

theorem getBytes_ofList (cs : List Char) :
    getBytes (String.ofList cs) = cs.flatMap String.utf8EncodeChar := by
  rw [getBytes, String.toByteArray_ofList]
  simp [List.utf8Encode]

theorem length_le_getBytes (cs : List Char) :
    cs.length ≤ (getBytes (String.ofList cs)).length := by
  rw [getBytes_ofList]
  induction cs with
  | nil => exact Nat.zero_le _
  | cons c cs ih =>
    have hpos := c.utf8Size_pos
    rw [List.flatMap_cons, List.length_append, String.length_utf8EncodeChar, List.length_cons]
    omega

def parseInt16 (b : Bytes) : Option Nat :=
  if b ≠ [] ∧ Library.beNat b < 2 ^ 31 then some (Library.beNat b) else none

def parseLong16 (b : Bytes) : Option Nat :=
  if b ≠ [] ∧ Library.beNat b < 2 ^ 63 then some (Library.beNat b) else none

theorem parseInt16_beBytes {w n : Nat} (hw : 0 < w) (hn : n < 256 ^ w) (h : n < 2 ^ 31) :
    parseInt16 (Library.beBytes w n) = some n := by
  have hne : Library.beBytes w n ≠ [] := by
    intro he
    have := congrArg List.length he
    simp at this
    omega
  simp only [parseInt16, Library.beNat_beBytes_of_lt hn, hne, h, ne_eq, not_false_eq_true,
    and_self, if_true]

theorem parseLong16_beBytes {n : Nat} (h : n < 2 ^ 63) :
    parseLong16 (Library.beBytes 8 n) = some n := by
  have hn : n < 256 ^ 8 := lt_of_lt_of_le h (by decide)
  have hne : Library.beBytes 8 n ≠ [] := by simp [Library.beBytes]
  simp only [parseLong16, Library.beNat_beBytes_of_lt hn, hne, h, ne_eq, not_false_eq_true,
    and_self, if_true]

end TorChat
