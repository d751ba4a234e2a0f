import TorChat.Server.Connections
import TorChat.Library.Machine

namespace TorChat

open Library (HashMap Machine)

namespace AddConnection

-- a ConnectionItems object: the one in the table at first, or the one a call has created
inductive Ref where
  | initial (onionName : String)
  | created (call : Nat)
  deriving DecidableEq, Repr

inductive Call where
  | idle
  | got (items : Ref)
  | added (items : Ref)
  | done (items : Ref)
  deriving DecidableEq, Repr

def Call.items : Call → Option Ref
  | .idle => none
  | .got items => some items
  | .added items => some items
  | .done items => some items

def Call.Pending : Call → Prop
  | .idle => False
  | .got _ => True
  | .added _ => True
  | .done _ => False

-- the connection that a call adds has the number of the call
structure Shared where
  allConByOnionName : String → Option Ref
  objects : Ref → List Nat
  calls : Nat → Call := fun _ => .idle

variable (onionName : Nat → String)

def step (s : Shared) (k : Nat) : Shared :=
  match s.calls k with
  | .idle =>
      { s with
        calls := Function.update s.calls k
          (.got ((s.allConByOnionName (onionName k)).getD (.created k))) }
  | .got items =>
      { s with
        objects := Function.update s.objects items (s.objects items ++ [k])
        calls := Function.update s.calls k (.added items) }
  | .added items =>
      { s with
        allConByOnionName := Function.update s.allConByOnionName (onionName k) (some items)
        calls := Function.update s.calls k (.done items) }
  | .done _ => s

def machine : Machine Shared Nat := ⟨step onionName⟩

def start (present : String → Bool) (old : String → List Nat) : Shared where
  allConByOnionName name := if present name then some (.initial name) else none
  objects
    | .initial name => old name
    | .created _ => []

def InTable (s : Shared) (k : Nat) : Prop :=
  ∃ items, s.allConByOnionName (onionName k) = some items ∧ k ∈ s.objects items

-- a call that finds no entry is the only one of its peer between its get and its put
def Alone (s : Shared) (k : Nat) : Prop :=
  s.calls k = .idle → s.allConByOnionName (onionName k) = none →
    ∀ j, onionName j = onionName k → ¬ (s.calls j).Pending

def Agree (s : Shared) : Prop :=
  ∀ k j items items', onionName k = onionName j → (s.calls k).items = some items →
    (s.calls j).items = some items' → items = items'

structure Origins (present : String → Bool) (s : Shared) : Prop where
  initial_kept : ∀ name, present name = true → s.allConByOnionName name = some (.initial name)
  initial_used : ∀ k items, present (onionName k) = true → (s.calls k).items = some items →
    items = .initial (onionName k)
  table_created : ∀ name items, present name = false → s.allConByOnionName name = some items →
    ∃ j, items = .created j ∧ onionName j = name ∧ (s.calls j).items = some items
  call_created : ∀ k items, present (onionName k) = false → (s.calls k).items = some items →
    ∃ j, items = .created j ∧ onionName j = onionName k ∧ (s.calls j).items = some items
  added_in : ∀ k items, s.calls k = .added items ∨ s.calls k = .done items →
    k ∈ s.objects items
  only_added : ∀ k j, k ∈ s.objects (.created j) → (s.calls k).items = some (.created j)
  done_put : ∀ k items, s.calls k = .done items →
    (s.allConByOnionName (onionName k)).isSome

variable {onionName} {present : String → Bool} {old : String → List Nat} {s : Shared} {k : Nat}

theorem origins_start : Origins onionName present (start present old) := by
  refine ⟨fun name h => if_pos h, nofun, fun name items hname h => ?_, nofun, ?_, ?_, nofun⟩
  · rw [start] at h
    dsimp only at h
    rw [hname] at h
    cases h
  · rintro k items (h | h) <;> cases h
  · intro k j h
    exact absurd h List.not_mem_nil

theorem step_idle (h : s.calls k = .idle) : step onionName s k =
    { s with
      calls := Function.update s.calls k
        (.got ((s.allConByOnionName (onionName k)).getD (.created k))) } := by
  rw [step, h]

theorem step_got {items : Ref} (h : s.calls k = .got items) : step onionName s k =
    { s with
      objects := Function.update s.objects items (s.objects items ++ [k])
      calls := Function.update s.calls k (.added items) } := by
  rw [step, h]

theorem step_added {items : Ref} (h : s.calls k = .added items) : step onionName s k =
    { s with
      allConByOnionName := Function.update s.allConByOnionName (onionName k) (some items)
      calls := Function.update s.calls k (.done items) } := by
  rw [step, h]

theorem step_done {items : Ref} (h : s.calls k = .done items) : step onionName s k = s := by
  rw [step, h]

theorem calls_other {j : Nat} (hj : j ≠ k) : (step onionName s k).calls j = s.calls j := by
  cases hcall : s.calls k with
  | idle =>
    rw [step_idle hcall]
    exact Function.update_of_ne hj _ _
  | got items =>
    rw [step_got hcall]
    exact Function.update_of_ne hj _ _
  | added items =>
    rw [step_added hcall]
    exact Function.update_of_ne hj _ _
  | done items => rw [step_done hcall]

theorem calls_self : (step onionName s k).calls k =
    match s.calls k with
    | .idle => .got ((s.allConByOnionName (onionName k)).getD (.created k))
    | .got items => .added items
    | .added items => .done items
    | .done items => .done items := by
  cases hcall : s.calls k with
  | idle =>
    rw [step_idle hcall]
    exact Function.update_self ..
  | got items =>
    rw [step_got hcall]
    exact Function.update_self ..
  | added items =>
    rw [step_added hcall]
    exact Function.update_self ..
  | done items => rw [step_done hcall, hcall]

theorem items_step (j : Nat) : ((step onionName s k).calls j).items =
    if j = k ∧ s.calls k = .idle then
      some ((s.allConByOnionName (onionName k)).getD (.created k))
    else (s.calls j).items := by
  by_cases hj : j = k
  · subst hj
    rw [calls_self]
    cases s.calls j with
    | idle => exact (if_pos ⟨rfl, rfl⟩).symm
    | _ => exact (if_neg nofun).symm
  · rw [calls_other hj, if_neg (fun h => hj h.1)]

-- once a call has its list, it keeps it
theorem items_kept (k : Nat) {j : Nat} {items : Ref} (h : (s.calls j).items = some items) :
    ((step onionName s k).calls j).items = some items := by
  rw [items_step, if_neg, h]
  rintro ⟨rfl, hidle⟩
  rw [hidle] at h
  cases h

theorem table_step (onionName : Nat → String) (s : Shared) (k : Nat) (name : String) :
    (step onionName s k).allConByOnionName name = s.allConByOnionName name ∨
      name = onionName k ∧ ∃ items, s.calls k = .added items ∧
        (step onionName s k).allConByOnionName name = some items := by
  cases hcall : s.calls k with
  | idle => exact .inl (by rw [step_idle hcall])
  | got items => exact .inl (by rw [step_got hcall])
  | added items =>
    rw [step_added hcall]
    by_cases hname : name = onionName k
    · subst hname
      exact .inr ⟨rfl, items, rfl, Function.update_self ..⟩
    · exact .inl (Function.update_of_ne hname _ _)
  | done items => exact .inl (by rw [step_done hcall])

theorem objects_step (items : Ref) (a : Nat) : a ∈ (step onionName s k).objects items ↔
    a ∈ s.objects items ∨ a = k ∧ s.calls k = .got items := by
  cases hcall : s.calls k with
  | idle => simp [step_idle hcall]
  | got used =>
    rw [step_got hcall]
    dsimp only
    by_cases hitems : items = used
    · subst hitems
      rw [Function.update_self, List.mem_append, List.mem_singleton]
      simp
    · rw [Function.update_of_ne hitems]
      have hne : Call.got used ≠ .got items := fun h => hitems (Call.got.inj h).symm
      simp [hne]
  | added used => simp [step_added hcall]
  | done used => simp [step_done hcall]

theorem calls_added_or_done {j : Nat} {items : Ref}
    (h : (step onionName s k).calls j = .added items ∨
      (step onionName s k).calls j = .done items) :
    (s.calls j = .added items ∨ s.calls j = .done items) ∨
      j = k ∧ s.calls k = .got items := by
  by_cases hj : j = k
  · subst hj
    rw [calls_self] at h
    cases hcall : s.calls j with
    | idle =>
      rw [hcall] at h
      rcases h with h | h <;> cases h
    | got used =>
      rw [hcall] at h
      rcases h with h | h
      · cases h
        exact .inr ⟨rfl, rfl⟩
      · cases h
    | added used =>
      rw [hcall] at h
      rcases h with h | h
      · cases h
      · cases h
        exact .inl (.inl rfl)
    | done used =>
      rw [hcall] at h
      rcases h with h | h
      · cases h
      · exact .inl (.inr h)
  · rw [calls_other hj] at h
    exact .inl h

theorem table_created_step (h : Origins onionName present s) (k : Nat) {name : String} {items : Ref}
    (hname : present name = false)
    (hget : (step onionName s k).allConByOnionName name = some items) :
    ∃ j, items = .created j ∧ onionName j = name ∧
      ((step onionName s k).calls j).items = some items := by
  have hcreated : ∃ j, items = .created j ∧ onionName j = name ∧
      (s.calls j).items = some items := by
    rcases table_step onionName s k name with hsame | ⟨rfl, used, hadded, hput⟩
    · exact h.table_created name items hname (hsame.symm.trans hget)
    · rw [hput] at hget
      cases hget
      exact h.call_created k items hname (by rw [hadded]; rfl)
  obtain ⟨j, hj, hjname, hjitems⟩ := hcreated
  exact ⟨j, hj, hjname, items_kept k hjitems⟩

theorem call_created_step (h : Origins onionName present s) (k : Nat) {j : Nat} {items : Ref}
    (hname : present (onionName j) = false)
    (hitems : ((step onionName s k).calls j).items = some items) :
    ∃ i, items = .created i ∧ onionName i = onionName j ∧
      ((step onionName s k).calls i).items = some items := by
  have hself := hitems
  rw [items_step] at hitems
  split at hitems
  · rename_i hidle
    obtain ⟨rfl, _⟩ := hidle
    cases hget : s.allConByOnionName (onionName j) with
    | none =>
      rw [hget] at hitems
      cases hitems
      exact ⟨j, rfl, rfl, hself⟩
    | some used =>
      rw [hget] at hitems
      cases hitems
      obtain ⟨i, hi, hiname, hiitems⟩ := h.table_created _ used hname hget
      exact ⟨i, hi, hiname, items_kept j hiitems⟩
  · obtain ⟨i, hi, hiname, hiitems⟩ := h.call_created j items hname hitems
    exact ⟨i, hi, hiname, items_kept k hiitems⟩

theorem done_put_step (h : Origins onionName present s) (k : Nat) {j : Nat} {items : Ref}
    (hdone : (step onionName s k).calls j = .done items) :
    ((step onionName s k).allConByOnionName (onionName j)).isSome := by
  by_cases hj : j = k
  · subst hj
    rw [calls_self] at hdone
    cases hcall : s.calls j with
    | idle =>
      rw [hcall] at hdone
      cases hdone
    | got used =>
      rw [hcall] at hdone
      cases hdone
    | added used =>
      rw [step_added hcall]
      dsimp only
      rw [Function.update_self]
      rfl
    | done used =>
      rw [step_done hcall]
      exact h.done_put j used hcall
  · rw [calls_other hj] at hdone
    rcases table_step onionName s k (onionName j) with hsame | ⟨_, used, _, hput⟩
    · rw [hsame]
      exact h.done_put j items hdone
    · rw [hput]
      rfl

theorem origins_step (h : Origins onionName present s) (k : Nat) :
    Origins onionName present (step onionName s k) := by
  refine ⟨fun name hname => ?_, fun j items hname hitems => ?_,
    fun name items hname hget => table_created_step h k hname hget,
    fun j items hname hitems => call_created_step h k hname hitems, fun j items hcall => ?_,
    fun a j ha => ?_, fun j items hdone => done_put_step h k hdone⟩
  · rcases table_step onionName s k name with hsame | ⟨rfl, items, hadded, hget⟩
    · rw [hsame]
      exact h.initial_kept name hname
    · rw [hget, h.initial_used k items hname (by rw [hadded]; rfl)]
  · rw [items_step] at hitems
    split at hitems
    · rename_i hidle
      obtain ⟨rfl, _⟩ := hidle
      rw [h.initial_kept _ hname] at hitems
      exact (Option.some.inj hitems).symm
    · exact h.initial_used j items hname hitems
  · rw [objects_step]
    rcases calls_added_or_done hcall with hold | ⟨rfl, hgot⟩
    · exact .inl (h.added_in j items hold)
    · exact .inr ⟨rfl, hgot⟩
  · rcases (objects_step _ _).mp ha with hold | ⟨rfl, hgot⟩
    · exact items_kept k (h.only_added a j hold)
    · exact items_kept a (by rw [hgot]; rfl)

theorem agree_start : Agree onionName (start present old) := by
  intro k j items items' _ h
  cases h

theorem items_of_table (h : Origins onionName present s) (hagree : Agree onionName s)
    {items used : Ref} (hget : s.allConByOnionName (onionName k) = some items)
    (hused : (s.calls k).items = some used) : used = items := by
  cases hpresent : present (onionName k) with
  | true =>
    rw [h.initial_kept _ hpresent] at hget
    cases hget
    exact h.initial_used k used hpresent hused
  | false =>
    obtain ⟨j, _, hname, hitems⟩ := h.table_created _ items hpresent hget
    exact hagree k j used items hname.symm hused hitems

theorem items_or_none (h : Origins onionName present s)
    (hget : s.allConByOnionName (onionName k) = none) {j : Nat} (hname : onionName j = onionName k)
    (hpending : ¬ (s.calls j).Pending) : (s.calls j).items = none := by
  cases hcall : s.calls j with
  | idle => rfl
  | got items =>
    rw [hcall] at hpending
    exact absurd trivial hpending
  | added items =>
    rw [hcall] at hpending
    exact absurd trivial hpending
  | done items =>
    have hput := h.done_put j items hcall
    rw [hname, hget] at hput
    cases hput

theorem not_created_of_idle (h : Origins onionName present s) (hidle : s.calls k = .idle)
    (hget : s.allConByOnionName (onionName k) = none) {j : Nat}
    (hname : onionName j = onionName k) : (s.calls j).items ≠ some (.created k) := by
  intro hitems
  have hpresent : present (onionName j) = false := by
    rw [← Bool.not_eq_true]
    intro hp
    rw [hname] at hp
    rw [h.initial_kept _ hp] at hget
    cases hget
  obtain ⟨i, hi, _, hiitems⟩ := h.call_created j _ hpresent hitems
  cases hi
  rw [hidle] at hiitems
  cases hiitems

theorem agree_step_listed (h : Origins onionName present s) (hagree : Agree onionName s)
    {used : Ref} (hget : s.allConByOnionName (onionName k) = some used) :
    Agree onionName (step onionName s k) := by
  have hnew : ∀ j items, onionName j = onionName k →
      ((step onionName s k).calls j).items = some items → items = used := by
    intro j items hname hitems
    rw [items_step] at hitems
    split at hitems
    · rw [hget] at hitems
      exact (Option.some.inj hitems).symm
    · exact items_of_table h hagree (hname ▸ hget) hitems
  intro i j items items' hname hi hj
  by_cases hk : onionName i = onionName k
  · rw [hnew i items hk hi, hnew j items' (hname ▸ hk) hj]
  · have hik : i ≠ k := fun heq => hk (heq ▸ rfl)
    have hjk : j ≠ k := fun heq => hk (heq ▸ hname)
    rw [calls_other hik] at hi
    rw [calls_other hjk] at hj
    exact hagree i j items items' hname hi hj

theorem agree_step_fresh (h : Origins onionName present s) (hagree : Agree onionName s)
    (hidle : s.calls k = .idle) (hget : s.allConByOnionName (onionName k) = none)
    (halone : ∀ j, onionName j = onionName k → ¬ (s.calls j).Pending) :
    Agree onionName (step onionName s k) := by
  have hnone : ∀ j, j ≠ k → onionName j = onionName k →
      ((step onionName s k).calls j).items = none := by
    intro j hj hname
    rw [calls_other hj]
    exact items_or_none h hget hname (halone j hname)
  intro i j items items' hname hi hj
  by_cases hik : i = k
  · by_cases hjk : j = k
    · subst hik hjk
      exact Option.some.inj (hi.symm.trans hj)
    · rw [hnone j hjk (hik ▸ hname.symm)] at hj
      cases hj
  · by_cases hjk : j = k
    · rw [hnone i hik (hjk ▸ hname)] at hi
      cases hi
    · rw [calls_other hik] at hi
      rw [calls_other hjk] at hj
      exact hagree i j items items' hname hi hj

theorem items_of_pending {call : Call} (h : call.Pending) : ∃ items, call.items = some items := by
  cases call with
  | idle => exact absurd h id
  | got items => exact ⟨items, rfl⟩
  | added items => exact ⟨items, rfl⟩
  | done items => exact ⟨items, rfl⟩

theorem not_pending_of_agree_step (h : Origins onionName present s)
    (hnext : Agree onionName (step onionName s k)) (hidle : s.calls k = .idle)
    (hget : s.allConByOnionName (onionName k) = none) {j : Nat}
    (hname : onionName j = onionName k) : ¬ (s.calls j).Pending := by
  intro hpending
  have hself : ((step onionName s k).calls k).items = some (.created k) := by
    rw [items_step, if_pos ⟨rfl, hidle⟩, hget, Option.getD_none]
  obtain ⟨items, hitems⟩ := items_of_pending hpending
  have hsame := hnext k j _ items hname.symm hself (items_kept k hitems)
  subst hsame
  exact not_created_of_idle h hidle hget hname hitems

-- the calls of one peer go on sharing one list exactly while the condition holds
theorem agree_step_iff (h : Origins onionName present s) (hagree : Agree onionName s) (k : Nat) :
    Agree onionName (step onionName s k) ↔ Alone onionName s k := by
  by_cases hidle : s.calls k = .idle
  · cases hget : s.allConByOnionName (onionName k) with
    | some used =>
      refine ⟨fun _ _ hnone => ?_, fun _ => agree_step_listed h hagree hget⟩
      rw [hget] at hnone
      cases hnone
    | none =>
      constructor
      · intro hnext _ _ j hname
        exact not_pending_of_agree_step h hnext hidle hget hname
      · intro halone
        exact agree_step_fresh h hagree hidle hget (halone hidle hget)
  · have hsame : ∀ j, ((step onionName s k).calls j).items = (s.calls j).items := by
      intro j
      rw [items_step, if_neg (fun hboth => hidle hboth.2)]
    refine ⟨fun _ hcontra => absurd hcontra hidle, fun _ i j items items' hname hi hj => ?_⟩
    rw [hsame] at hi hj
    exact hagree i j items items' hname hi hj

-- a disagreement is never repaired
theorem agree_of_step (h : Agree onionName (step onionName s k)) : Agree onionName s :=
  fun i j items items' hname hi hj =>
    h i j items items' hname (items_kept k hi) (items_kept k hj)

theorem agree_of_run {ks : List Nat} (h : Agree onionName ((machine onionName).run s ks)) :
    Agree onionName s := by
  induction ks generalizing s with
  | nil => exact h
  | cons k ks ih => exact agree_of_step (ih h)

theorem inTable_of_agree (h : Origins onionName present s) (hagree : Agree onionName s)
    {items : Ref} (hdone : s.calls k = .done items) : InTable onionName s k := by
  obtain ⟨used, hget⟩ := Option.isSome_iff_exists.mp (h.done_put k items hdone)
  have hsame : items = used := items_of_table h hagree hget (by rw [hdone]; rfl)
  exact ⟨used, hget, hsame ▸ h.added_in k items (.inr hdone)⟩

theorem agree_of_inTable (h : Origins onionName present s)
    (hquiet : ∀ j, ¬ (s.calls j).Pending)
    (htable : ∀ j items, s.calls j = .done items → InTable onionName s j) :
    Agree onionName s := by
  have hlist : ∀ j items, (s.calls j).items = some items →
      s.allConByOnionName (onionName j) = some items := by
    intro j items hitems
    cases hcall : s.calls j with
    | idle =>
      rw [hcall] at hitems
      cases hitems
    | got used => exact absurd (by rw [hcall]; trivial) (hquiet j)
    | added used => exact absurd (by rw [hcall]; trivial) (hquiet j)
    | done used =>
      obtain ⟨used', hget, hmem⟩ := htable j used hcall
      cases hpresent : present (onionName j) with
      | true =>
        rw [h.initial_kept _ hpresent, h.initial_used j items hpresent hitems]
      | false =>
        obtain ⟨i, rfl, _, _⟩ := h.table_created _ used' hpresent hget
        rw [h.only_added j i hmem] at hitems
        rw [hget, hitems]
  intro i j items items' hname hi hj
  have hboth := hlist i items hi
  rw [hname, hlist j items' hj] at hboth
  exact (Option.some.inj hboth).symm

theorem connections_kept_iff (onionName : Nat → String) (present : String → Bool)
    (old : String → List Nat) (schedule : List Nat)
    (hquiet : ∀ j, ¬ (((machine onionName).run (start present old) schedule).calls j).Pending) :
    (∀ k items, ((machine onionName).run (start present old) schedule).calls k = .done items →
        InTable onionName ((machine onionName).run (start present old) schedule) k) ↔
      (machine onionName).Guarded (Alone onionName) (start present old) schedule := by
  have hstart : Origins onionName present (start present old) := origins_start
  have hagree : Agree onionName (start present old) := agree_start
  have hstep : ∀ q k, Origins onionName present q →
      Origins onionName present ((machine onionName).step q k) := fun q k hq => origins_step hq k
  have horigins : ∀ ks,
      Origins onionName present ((machine onionName).run (start present old) ks) :=
    fun ks => (machine onionName).run_invariant hstep ks hstart
  have hprefixes := (machine onionName).guarded_iff_prefixes (I := Agree onionName) hstep
    (fun q k hq hsame => agree_step_iff hq hsame k) schedule hstart hagree
  rw [hprefixes]
  constructor
  · intro htable xs hxs
    obtain ⟨ys, rfl⟩ := hxs
    have hfinal := agree_of_inTable (horigins _) hquiet htable
    rw [Machine.run_append] at hfinal
    exact agree_of_run hfinal
  · intro hagree k items hdone
    exact inTable_of_agree (horigins _) (hagree schedule (List.prefix_refl schedule)) hdone

theorem fresh_nil (h : Origins onionName present s) (hidle : s.calls k = .idle) :
    s.objects (.created k) = [] := by
  rw [List.eq_nil_iff_forall_not_mem]
  intro a ha
  have hitems := h.only_added a k ha
  cases hpresent : present (onionName a) with
  | true => cases h.initial_used a _ hpresent hitems
  | false =>
    obtain ⟨i, hi, _, hiitems⟩ := h.call_created a _ hpresent hitems
    cases hi
    rw [hidle] at hiitems
    cases hiitems

theorem table_separated (h : Origins onionName present s) {name name' : String} {items : Ref}
    (hget : s.allConByOnionName name = some items)
    (hget' : s.allConByOnionName name' = some items) : name = name' := by
  have hinitial : ∀ {name items}, s.allConByOnionName name = some items →
      items = .initial name ∨ ∃ j, items = .created j ∧ onionName j = name := by
    intro name items hget
    cases hpresent : present name with
    | true =>
      rw [h.initial_kept _ hpresent] at hget
      exact .inl (Option.some.inj hget).symm
    | false =>
      obtain ⟨j, hj, hname, _⟩ := h.table_created _ items hpresent hget
      exact .inr ⟨j, hj, hname⟩
  rcases hinitial hget with rfl | ⟨j, rfl, rfl⟩
  · rcases hinitial hget' with heq | ⟨j, heq, _⟩
    · exact Ref.initial.inj heq
    · cases heq
  · rcases hinitial hget' with heq | ⟨i, heq, hname⟩
    · cases heq
    · cases heq
      exact hname

theorem not_in_table_of_idle (h : Origins onionName present s) (hidle : s.calls k = .idle)
    {name : String} (hget : s.allConByOnionName name = some (.created k)) : False := by
  cases hpresent : present name with
  | true =>
    rw [h.initial_kept _ hpresent] at hget
    cases hget
  | false =>
    obtain ⟨i, hi, _, hiitems⟩ := h.table_created _ _ hpresent hget
    cases hi
    rw [hidle] at hiitems
    cases hiitems

def Represents (heap : Nat → ConnectionStatusItem) (s : Shared) (conns : Connections) : Prop :=
  ∀ name, conns.allConByOnionName.get? name =
    (s.allConByOnionName name).map (fun items => (s.objects items).map heap)

theorem run_call (onionName : Nat → String) {items : Ref} (hidle : s.calls k = .idle)
    (hitems : (s.allConByOnionName (onionName k)).getD (.created k) = items) :
    (machine onionName).run s [k, k, k] = {
      allConByOnionName := Function.update s.allConByOnionName (onionName k) (some items)
      objects := Function.update s.objects items (s.objects items ++ [k])
      calls := Function.update (Function.update (Function.update s.calls k (.got items)) k
        (.added items)) k (.done items) } := by
  have hgot : (step onionName s k).calls k = .got items := by
    rw [calls_self, hidle, hitems]
  have hadded : (step onionName (step onionName s k) k).calls k = .added items := by
    rw [calls_self, hgot]
  rw [Machine.run_cons, Machine.run_cons, Machine.run_cons, Machine.run_nil]
  dsimp only [machine]
  rw [step_added hadded, step_got hgot, step_idle hidle, hitems]

theorem objects_of_call (h : Origins onionName present s) (hidle : s.calls k = .idle) :
    s.objects ((s.allConByOnionName (onionName k)).getD (.created k)) =
      ((s.allConByOnionName (onionName k)).map s.objects).getD [] := by
  cases s.allConByOnionName (onionName k) with
  | none => exact fresh_nil h hidle
  | some used => rfl

theorem ne_of_other_peer (h : Origins onionName present s) (hidle : s.calls k = .idle)
    {name : String} {used : Ref} (hne : name ≠ onionName k)
    (hget : s.allConByOnionName name = some used) :
    used ≠ (s.allConByOnionName (onionName k)).getD (.created k) := by
  rintro rfl
  cases hown : s.allConByOnionName (onionName k) with
  | none =>
    rw [hown, Option.getD_none] at hget
    exact not_in_table_of_idle h hidle hget
  | some own =>
    rw [hown, Option.getD_some] at hget
    exact hne (table_separated h hget hown)

-- a call that nothing interrupts is addNewConnection
theorem represents_call {heap : Nat → ConnectionStatusItem} {conns : Connections}
    (h : Origins onionName present s) (hidle : s.calls k = .idle)
    (hname : (heap k).onionName = onionName k) (hs : Represents heap s conns) :
    Represents heap ((machine onionName).run s [k, k, k]) (conns.addNewConnection (heap k)) := by
  rw [run_call onionName hidle rfl]
  intro name
  have hadd : (conns.addNewConnection (heap k)).allConByOnionName.get? name =
      if name = onionName k then
        some (((conns.allConByOnionName.get? (onionName k)).getD []) ++ [heap k])
      else conns.allConByOnionName.get? name := by
    rw [← hname]
    exact HashMap.get?_put ..
  rw [hadd]
  dsimp only
  by_cases hself : name = onionName k
  · subst hself
    rw [if_pos rfl, Function.update_self, Option.map_some, Function.update_self,
      List.map_append, objects_of_call h hidle, hs]
    cases s.allConByOnionName (onionName k) <;> rfl
  · rw [if_neg hself, Function.update_of_ne hself, hs]
    cases hget : s.allConByOnionName name with
    | none => rfl
    | some used =>
      have hne := ne_of_other_peer h hidle hself hget
      rw [Option.map_some, Option.map_some, Function.update_of_ne hne]

theorem calls_run_other {ks : List Nat} (h : k ∉ ks) :
    ((machine onionName).run s ks).calls k = s.calls k := by
  induction ks generalizing s with
  | nil => rfl
  | cons j ks ih =>
    obtain ⟨hne, hrest⟩ := not_or.mp (mt List.mem_cons.mpr h)
    rw [Machine.run_cons, ih hrest]
    exact calls_other hne

def twoCalls : Nat → String := fun _ => "bob"

def empty : Shared := start (fun _ => false) (fun _ => [])

theorem quiet_of_two {ks : List Nat} (h : ∀ j ∈ ks, j < 2)
    (hzero : ¬ (((machine twoCalls).run empty ks).calls 0).Pending)
    (hone : ¬ (((machine twoCalls).run empty ks).calls 1).Pending) (j : Nat) :
    ¬ (((machine twoCalls).run empty ks).calls j).Pending := by
  by_cases hj : j < 2
  · have hcases : j = 0 ∨ j = 1 := by omega
    rcases hcases with rfl | rfl
    · exact hzero
    · exact hone
  · rw [calls_run_other (fun hmem => hj (h j hmem))]
    exact id

theorem connections_kept_one_after_other :
    (∀ k items, ((machine twoCalls).run empty [0, 0, 0, 1, 1, 1]).calls k = .done items →
        InTable twoCalls ((machine twoCalls).run empty [0, 0, 0, 1, 1, 1]) k) ↔
      (machine twoCalls).Guarded (Alone twoCalls) empty [0, 0, 0, 1, 1, 1] :=
  connections_kept_iff twoCalls (fun _ => false) (fun _ => []) [0, 0, 0, 1, 1, 1]
    (quiet_of_two (by decide) id id)

-- both calls read the table before either writes it
theorem simultaneous_connection_lost :
    ((machine twoCalls).run empty [0, 1, 0, 1, 0, 1]).calls 0 = .done (.created 0) ∧
      ((machine twoCalls).run empty [0, 1, 0, 1, 0, 1]).calls 1 = .done (.created 1) ∧
      ¬ InTable twoCalls ((machine twoCalls).run empty [0, 1, 0, 1, 0, 1]) 0 := by
  refine ⟨by decide, by decide, ?_⟩
  rintro ⟨items, hget, hmem⟩
  have htable : ((machine twoCalls).run empty [0, 1, 0, 1, 0, 1]).allConByOnionName "bob" =
      some (.created 1) := by decide
  rw [twoCalls, htable] at hget
  cases hget
  exact absurd hmem (by decide)

end AddConnection

end TorChat
