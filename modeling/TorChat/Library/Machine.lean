import Mathlib.Data.List.Basic
import Mathlib.Order.Defs.PartialOrder

namespace TorChat.Library

structure Machine (Q E : Type) where
  step : Q → E → Q

namespace Machine

variable {Q E : Type} (M : Machine Q E)

def run (q : Q) (es : List E) : Q := es.foldl M.step q

@[simp] theorem run_nil (q : Q) : M.run q [] = q := rfl

@[simp] theorem run_cons (q : Q) (e : E) (es : List E) :
    M.run q (e :: es) = M.run (M.step q e) es := rfl

theorem run_append (q : Q) (xs ys : List E) :
    M.run q (xs ++ ys) = M.run (M.run q xs) ys := by
  simp [run, List.foldl_append]

def Guarded (G : Q → E → Prop) : Q → List E → Prop
  | _, [] => True
  | q, e :: es => G q e ∧ Guarded G (M.step q e) es

instance decidableGuarded (G : Q → E → Prop) [∀ q e, Decidable (G q e)] (q : Q) (es : List E) :
    Decidable (M.Guarded G q es) :=
  match es with
  | [] => isTrue trivial
  | e :: es =>
      match (inferInstance : Decidable (G q e)), decidableGuarded G (M.step q e) es with
      | isTrue h, isTrue h' => isTrue ⟨h, h'⟩
      | isFalse h, _ => isFalse (fun hg => h hg.1)
      | _, isFalse h' => isFalse (fun hg => h' hg.2)

theorem guarded_append {G : Q → E → Prop} (q : Q) (xs ys : List E) :
    M.Guarded G q (xs ++ ys) ↔ M.Guarded G q xs ∧ M.Guarded G (M.run q xs) ys := by
  induction xs generalizing q with
  | nil => simp [Guarded]
  | cons e xs ih => simp [Guarded, ih, and_assoc]

theorem guarded_mono {G H : Q → E → Prop} (hGH : ∀ q e, G q e → H q e) {q : Q} {es : List E}
    (h : M.Guarded G q es) : M.Guarded H q es := by
  induction es generalizing q with
  | nil => trivial
  | cons e es ih => exact ⟨hGH q e h.1, ih h.2⟩

theorem guarded_true (q : Q) (es : List E) : M.Guarded (fun _ _ => True) q es := by
  induction es generalizing q with
  | nil => trivial
  | cons e es ih => exact ⟨trivial, ih _⟩

theorem guarded_and {G H : Q → E → Prop} {q : Q} {es : List E} (hg : M.Guarded G q es)
    (hh : M.Guarded H q es) : M.Guarded (fun q e => G q e ∧ H q e) q es := by
  induction es generalizing q with
  | nil => trivial
  | cons e es ih => exact ⟨⟨hg.1, hh.1⟩, ih hg.2 hh.2⟩

theorem guarded_of_forall {S : E → Prop} (q : Q) {es : List E} (h : ∀ e ∈ es, S e) :
    M.Guarded (fun _ e => S e) q es := by
  induction es generalizing q with
  | nil => trivial
  | cons e es ih =>
    exact ⟨h e List.mem_cons_self, ih _ (fun e' he' => h e' (List.mem_cons_of_mem e he'))⟩

theorem guarded_invariant {G : Q → E → Prop} {I : Q → Prop}
    (hstep : ∀ q e, I q → G q e → I (M.step q e)) {q : Q} {es : List E}
    (hg : M.Guarded G q es) (hq : I q) : I (M.run q es) := by
  induction es generalizing q with
  | nil => exact hq
  | cons e es ih => exact ih hg.2 (hstep q e hq hg.1)

theorem guarded_of_invariant {G H : Q → E → Prop} {I : Q → Prop}
    (hstep : ∀ q e, I q → G q e → I (M.step q e)) (hGH : ∀ q e, I q → G q e → H q e) {q : Q}
    {es : List E} (hg : M.Guarded G q es) (hq : I q) : M.Guarded H q es := by
  induction es generalizing q with
  | nil => trivial
  | cons e es ih => exact ⟨hGH q e hq hg.1, ih hg.2 (hstep q e hq hg.1)⟩

theorem guarded_iff_prefixes {G : Q → E → Prop} {I J : Q → Prop}
    (hJ : ∀ q e, J q → J (M.step q e))
    (hstep : ∀ q e, J q → I q → (I (M.step q e) ↔ G q e)) {q : Q} (es : List E) (hj : J q)
    (hi : I q) : M.Guarded G q es ↔ ∀ xs, xs <+: es → I (M.run q xs) := by
  induction es generalizing q with
  | nil =>
    refine ⟨fun _ xs hxs => ?_, fun _ => trivial⟩
    rw [List.prefix_nil.mp hxs]
    exact hi
  | cons e es ih =>
    constructor
    · intro hg xs hxs
      cases xs with
      | nil => exact hi
      | cons x xs =>
        obtain ⟨rfl, htail⟩ := List.cons_prefix_cons.mp hxs
        exact (ih (hJ q x hj) ((hstep q x hj hi).mpr hg.1)).mp hg.2 xs htail
    · intro h
      have hnext : I (M.step q e) := h [e] (List.cons_prefix_cons.mpr ⟨rfl, List.nil_prefix⟩)
      refine ⟨(hstep q e hj hi).mp hnext, (ih (hJ q e hj) hnext).mpr ?_⟩
      intro xs hxs
      exact h (e :: xs) (List.cons_prefix_cons.mpr ⟨rfl, hxs⟩)

theorem guarded_of_prefixes {G H : Q → E → Prop} {I J : Q → Prop}
    (hJ : ∀ q e, H q e → G q e → J q → J (M.step q e))
    (hstep : ∀ q e, H q e → J q → I (M.step q e) → G q e) {q : Q} {es : List E}
    (hh : M.Guarded H q es) (hj : J q) (hi : ∀ xs, xs <+: es → I (M.run q xs)) :
    M.Guarded G q es := by
  induction es generalizing q with
  | nil => trivial
  | cons e es ih =>
    have hnext : I (M.step q e) := hi [e] (List.cons_prefix_cons.mpr ⟨rfl, List.nil_prefix⟩)
    have hg : G q e := hstep q e hh.1 hj hnext
    refine ⟨hg, ih hh.2 (hJ q e hh.1 hg hj) ?_⟩
    intro xs hxs
    exact hi (e :: xs) (List.cons_prefix_cons.mpr ⟨rfl, hxs⟩)

theorem guarded_take {G : Q → E → Prop} {q : Q} {xs es : List E} (h : xs <+: es)
    (hg : M.Guarded G q es) : M.Guarded G q xs := by
  obtain ⟨ys, rfl⟩ := h
  exact ((M.guarded_append q xs ys).mp hg).1

theorem guarded_monotone {α : Type} [Preorder α] {G : Q → E → Prop} {f : Q → α}
    (hstep : ∀ q e, G q e → f q ≤ f (M.step q e)) {q : Q} {es : List E}
    (hg : M.Guarded G q es) : f q ≤ f (M.run q es) := by
  induction es generalizing q with
  | nil => exact le_refl (f q)
  | cons e es ih => exact le_trans (hstep q e hg.1) (ih hg.2)

-- what an element settles when it is taken is still settled at the end
theorem guarded_iff_settled {G : Q → E → Prop} {I : Q → Prop} {S P : E → Q → Prop}
    (hI : ∀ q e, I q → I (M.step q e)) (hstep : ∀ q e, I q → (P e (M.step q e) ↔ G q e))
    (hsettled : ∀ q e, S e (M.step q e))
    (hkeep : ∀ q e e', S e q → S e (M.step q e') ∧ (P e (M.step q e') ↔ P e q)) {q : Q}
    (es : List E) (hq : I q) : M.Guarded G q es ↔ ∀ e ∈ es, P e (M.run q es) := by
  have hrun : ∀ e, ∀ es q, S e q → (P e (M.run q es) ↔ P e q) := by
    intro e es
    induction es with
    | nil => exact fun q _ => Iff.rfl
    | cons e' es ih =>
      intro q hs
      obtain ⟨hs', hsame⟩ := hkeep q e e' hs
      exact (ih _ hs').trans hsame
  induction es generalizing q with
  | nil => exact ⟨fun _ e he => absurd he List.not_mem_nil, fun _ => trivial⟩
  | cons e es ih =>
    rw [List.forall_mem_cons, run_cons, hrun e es _ (hsettled q e), hstep q e hq]
    exact and_congr Iff.rfl (ih (hI q e hq))

theorem guarded_iff_log {α : Type} {G : Q → E → Prop} {I : Q → Prop} {log : Q → List α}
    {Good : α → Prop} (hI : ∀ q e, I q → I (M.step q e))
    (hstep : ∀ q e, I q → ∃ new, log (M.step q e) = log q ++ new ∧
      ((∀ x ∈ new, Good x) ↔ G q e)) {q : Q} (es : List E) (hq : I q)
    (hlog : ∀ x ∈ log q, Good x) : M.Guarded G q es ↔ ∀ x ∈ log (M.run q es), Good x := by
  have hrun : ∀ es q, I q → log q <+: log (M.run q es) := by
    intro es
    induction es with
    | nil => exact fun q _ => List.prefix_refl (log q)
    | cons e es ih =>
      intro q hq
      obtain ⟨new, hnew, _⟩ := hstep q e hq
      exact (hnew ▸ List.prefix_append (log q) new).trans (ih _ (hI q e hq))
  induction es generalizing q with
  | nil => exact ⟨fun _ => hlog, fun _ => trivial⟩
  | cons e es ih =>
    obtain ⟨new, hnew, hgood⟩ := hstep q e hq
    constructor
    · rintro ⟨hg, hrest⟩
      refine (ih (hI q e hq) ?_).mp hrest
      rw [hnew]
      exact List.forall_mem_append.mpr ⟨hlog, hgood.mpr hg⟩
    · intro hall
      have hnext : ∀ x ∈ log (M.step q e), Good x :=
        fun x hx => hall x ((hrun es _ (hI q e hq)).subset hx)
      refine ⟨hgood.mp ?_, (ih (hI q e hq) hnext).mpr hall⟩
      rw [hnew] at hnext
      exact (List.forall_mem_append.mp hnext).2

theorem run_invariant {I : Q → Prop} (hstep : ∀ q e, I q → I (M.step q e)) {q : Q}
    (es : List E) (hq : I q) : I (M.run q es) :=
  M.guarded_invariant (fun q e hI _ => hstep q e hI) (M.guarded_true q es) hq

def Reaches (G : Q → E → Prop) (q q' : Q) : Prop := ∃ es, M.Guarded G q es ∧ M.run q es = q'

variable {M} {G H : Q → E → Prop} {q q' q'' : Q}

theorem reaches_refl (q : Q) : M.Reaches G q q := ⟨[], trivial, rfl⟩

theorem reaches_step {e : E} (h : G q e) : M.Reaches G q (M.step q e) := ⟨[e], ⟨h, trivial⟩, rfl⟩

theorem reaches_trans (h : M.Reaches G q q') (h' : M.Reaches G q' q'') : M.Reaches G q q'' := by
  obtain ⟨es, hg, rfl⟩ := h
  obtain ⟨es', hg', rfl⟩ := h'
  exact ⟨es ++ es', (M.guarded_append q es es').mpr ⟨hg, hg'⟩, M.run_append q es es'⟩

theorem reaches_mono (hGH : ∀ q e, G q e → H q e) (h : M.Reaches G q q') : M.Reaches H q q' := by
  obtain ⟨es, hg, hrun⟩ := h
  exact ⟨es, M.guarded_mono hGH hg, hrun⟩

theorem reaches_invariant {I : Q → Prop} (hstep : ∀ q e, I q → G q e → I (M.step q e))
    (h : M.Reaches G q q') (hq : I q) : I q' := by
  obtain ⟨es, hg, rfl⟩ := h
  exact M.guarded_invariant hstep hg hq

end Machine

end TorChat.Library
