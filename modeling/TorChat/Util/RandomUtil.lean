import Mathlib.Data.List.Basic
import Mathlib.Data.Fin.Basic

namespace TorChat

namespace RandomUtil

def headchars : List Char := ['1', '2', '3', '4', '5', '6', '7', '8', '9']

def chars : List Char := ['0', '1', '2', '3', '4', '5', '6', '7', '8', '9']

-- what nextInt returns, call by call
structure Draws where
  len : Fin 7
  head : Fin 9
  rest : Nat → Fin 10

def randomChars (draws : Nat → Fin 10) (len : Nat) : List Char :=
  (List.range len).map (fun i => chars.get (draws i))

def randomChar (draws : Draws) : String :=
  let len := draws.len.val % (7 - 4 + 1) + 4
  String.ofList (headchars.get draws.head :: randomChars draws.rest (len - 1))

theorem mem_chars_of_mem_randomChar {draws : Draws} {c : Char}
    (h : c ∈ (randomChar draws).toList) : c ∈ chars := by
  rw [randomChar, String.toList_ofList] at h
  rcases List.mem_cons.mp h with rfl | hrest
  · exact (by decide : ∀ head, headchars.get head ∈ chars) draws.head
  · obtain ⟨i, _, rfl⟩ := List.mem_map.mp hrest
    exact List.get_mem chars (draws.rest i)

theorem comma_notMem_randomChar (draws : Draws) : ',' ∉ (randomChar draws).toList := by
  intro h
  have hdigit := mem_chars_of_mem_randomChar h
  revert hdigit
  decide

end RandomUtil

end TorChat
