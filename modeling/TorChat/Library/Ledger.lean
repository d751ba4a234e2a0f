import TorChat.Library.Machine
import Mathlib.Data.List.Perm.Basic
import Mathlib.Data.List.Induction

open scoped List

namespace TorChat.Library.Machine

variable {Q E α : Type} (M : Machine Q E)

def emitted (out : Q → E → List α) : Q → List E → List α
  | _, [] => []
  | q, e :: es => out q e ++ emitted out (M.step q e) es

-- what is held after a run and what has left is what was held and what has come
theorem emitted_conserved {I : Q → Prop} {held : Q → List α} {left come : Q → E → List α}
    (hI : ∀ q e, I q → I (M.step q e))
    (hstep : ∀ q e, I q → (held (M.step q e) ++ left q e).Perm (held q ++ come q e)) {q : Q}
    (es : List E) (hq : I q) :
    (held (M.run q es) ++ M.emitted left q es).Perm (held q ++ M.emitted come q es) := by
  induction es generalizing q with
  | nil => exact List.Perm.refl _
  | cons e es ih =>
    rw [run_cons, emitted, emitted]
    calc held (M.run (M.step q e) es) ++ (left q e ++ M.emitted left (M.step q e) es)
      _ ~ held (M.run (M.step q e) es) ++ (M.emitted left (M.step q e) es ++ left q e) :=
          List.perm_append_comm.append_left _
      _ = (held (M.run (M.step q e) es) ++ M.emitted left (M.step q e) es) ++ left q e :=
          (List.append_assoc _ _ _).symm
      _ ~ (held (M.step q e) ++ M.emitted come (M.step q e) es) ++ left q e :=
          (ih (hI q e hq)).append_right _
      _ ~ (held (M.step q e) ++ left q e) ++ M.emitted come (M.step q e) es := by
          rw [List.append_assoc, List.append_assoc]
          exact List.perm_append_comm.append_left _
      _ ~ (held q ++ come q e) ++ M.emitted come (M.step q e) es := (hstep q e hq).append_right _
      _ = held q ++ (come q e ++ M.emitted come (M.step q e) es) := List.append_assoc _ _ _

theorem emitted_map {β : Type} (f : α → β) (out : Q → E → List α) (q : Q) (es : List E) :
    M.emitted (fun q e => (out q e).map f) q es = (M.emitted out q es).map f := by
  induction es generalizing q with
  | nil => rfl
  | cons e es ih => rw [emitted, emitted, ih, List.map_append]

-- what a run appends to a log and what it has let out correspond, if they do so in every step
theorem emitted_logged {β : Type} {I : Q → Prop} {log : Q → List β} {out : Q → E → List α}
    {R : List β → List α → Prop} (hnil : R [] [])
    (happend : ∀ {xs ys xs' ys'}, R xs ys → R xs' ys' → R (xs ++ xs') (ys ++ ys'))
    (hI : ∀ q e, I q → I (M.step q e))
    (hstep : ∀ q e, I q → ∃ xs, log (M.step q e) = log q ++ xs ∧ R xs (out q e)) {q : Q}
    (es : List E) (hq : I q) :
    ∃ xs, log (M.run q es) = log q ++ xs ∧ R xs (M.emitted out q es) := by
  induction es generalizing q with
  | nil => exact ⟨[], (List.append_nil _).symm, hnil⟩
  | cons e es ih =>
    obtain ⟨xs, hlog, hxs⟩ := hstep q e hq
    obtain ⟨ys, hrest, hys⟩ := ih (hI q e hq)
    refine ⟨xs ++ ys, ?_, happend hxs hys⟩
    rw [run_cons, hrest, hlog, List.append_assoc]

-- an invariant that speaks of the states passed so far
theorem run_history {J : List E → Q → Prop} {q : Q} (hnil : J [] q)
    (hstep : ∀ es e, J es (M.run q es) → J (es ++ [e]) (M.step (M.run q es) e)) (es : List E) :
    J es (M.run q es) := by
  induction es using List.reverseRecOn with
  | nil => exact hnil
  | append_singleton es e ih =>
    rw [run_append]
    exact hstep es e ih

end TorChat.Library.Machine
