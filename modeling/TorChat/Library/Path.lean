import Mathlib.Data.List.Basic
import Mathlib.Data.List.Infix
import Mathlib.Data.List.TakeDrop

namespace TorChat.Library.Path

variable {S : Type}

def segments [DecidableEq S] (separator : S) : List S → List (List S)
  | [] => [[]]
  | c :: cs =>
      if c = separator then [] :: segments separator cs
      else
        match segments separator cs with
        | [] => [[c]]
        | first :: rest => (c :: first) :: rest

theorem segments_ne_nil [DecidableEq S] (separator : S) (cs : List S) :
    segments separator cs ≠ [] := by
  cases cs with
  | nil => exact List.cons_ne_nil _ _
  | cons c cs =>
    rw [segments]
    split
    · exact List.cons_ne_nil _ _
    · split <;> exact List.cons_ne_nil _ _

theorem segments_append [DecidableEq S] (separator : S) (xs ys : List S) :
    segments separator (xs ++ separator :: ys) = segments separator xs ++ segments separator ys := by
  induction xs with
  | nil => simp only [List.nil_append, segments, if_true, List.singleton_append]
  | cons x xs ih =>
    rw [List.cons_append, segments, ih, segments]
    split
    · rfl
    · cases hxs : segments separator xs with
      | nil => exact absurd hxs (segments_ne_nil separator xs)
      | cons first rest => rfl

theorem segments_of_notMem [DecidableEq S] {separator : S} {cs : List S} (h : separator ∉ cs) :
    segments separator cs = [cs] := by
  induction cs with
  | nil => rfl
  | cons c cs ih =>
    rw [List.mem_cons, not_or] at h
    rw [segments, if_neg (Ne.symm h.1), ih h.2]

inductive Move (S : Type) where
  | stay
  | up
  | down (name : S)
  deriving DecidableEq

def go (directory : List S) : Move S → List S
  | .stay => directory
  | .up => directory.dropLast
  | .down name => directory ++ [name]

def walk (directory : List S) (moves : List (Move S)) : List S := moves.foldl go directory

theorem walk_append (directory : List S) (moves moves' : List (Move S)) :
    walk directory (moves ++ moves') = walk (walk directory moves) moves' :=
  List.foldl_append

-- a relative path in normal form: the levels it climbs and the names it then goes down
structure Climb (S : Type) where
  ups : Nat := 0
  names : List S := []
  deriving DecidableEq, Repr

def Climb.go (climb : Climb S) : Move S → Climb S
  | .stay => climb
  | .up =>
      if climb.names.isEmpty then { climb with ups := climb.ups + 1 }
      else { climb with names := climb.names.dropLast }
  | .down name => { climb with names := climb.names ++ [name] }

def climb (moves : List (Move S)) : Climb S := moves.foldl Climb.go {}

def Climb.applyTo (climb : Climb S) (directory : List S) : List S :=
  directory.take (directory.length - climb.ups) ++ climb.names

theorem applyTo_go (climb : Climb S) (move : Move S) (directory : List S) :
    (climb.go move).applyTo directory = Path.go (climb.applyTo directory) move := by
  cases move with
  | stay => rfl
  | down name => simp only [Climb.go, Climb.applyTo, Path.go, List.append_assoc]
  | up =>
    rw [Climb.go, Path.go, Climb.applyTo]
    split
    · rename_i hnames
      have hnil := List.isEmpty_iff.mp hnames
      simp only [Climb.applyTo, hnil, List.append_nil]
      rw [List.dropLast_eq_take, List.take_take, List.length_take]
      congr 1
      omega
    · rename_i hnames
      have hne : climb.names ≠ [] := fun h => hnames (List.isEmpty_iff.mpr h)
      rw [Climb.applyTo, List.dropLast_append_of_ne_nil hne]

theorem climb_append (moves : List (Move S)) (move : Move S) :
    climb (moves ++ [move]) = (climb moves).go move := List.foldl_append

theorem walk_eq_applyTo (directory : List S) (moves : List (Move S)) :
    walk directory moves = (climb moves).applyTo directory := by
  induction moves using List.reverseRecOn with
  | nil => simp [walk, climb, Climb.applyTo]
  | append_singleton moves move ih =>
    rw [walk_append, ih, climb_append, applyTo_go]
    rfl

def StrictlyInside (directory path : List S) : Prop := directory <+: path ∧ path ≠ directory

instance [DecidableEq S] (directory path : List S) : Decidable (StrictlyInside directory path) :=
  inferInstanceAs (Decidable (directory <+: path ∧ path ≠ directory))

theorem strictlyInside_of_dropLast {directory path : List S}
    (h : StrictlyInside directory path.dropLast) : StrictlyInside directory path := by
  have habove := h.1.trans path.dropLast_prefix
  refine ⟨habove, fun heq => h.2 ?_⟩
  have hlength := h.1.length_le
  rw [heq, List.length_dropLast] at hlength
  have hnil := List.length_eq_zero_iff.mp (show directory.length = 0 by omega)
  rw [heq, hnil, List.dropLast_nil]

theorem strictlyInside_applyTo (climb : Climb S) (directory : List S) :
    StrictlyInside directory (climb.applyTo directory) ↔
      StrictlyInside (directory.drop (directory.length - climb.ups)) climb.names := by
  have hsplit := List.take_append_drop (directory.length - climb.ups) directory
  rw [StrictlyInside, StrictlyInside, Climb.applyTo]
  generalize directory.take (directory.length - climb.ups) = kept at hsplit
  generalize directory.drop (directory.length - climb.ups) = left at hsplit
  rw [← hsplit, List.prefix_append_right_inj, ne_eq, List.append_cancel_left_eq]

end TorChat.Library.Path
