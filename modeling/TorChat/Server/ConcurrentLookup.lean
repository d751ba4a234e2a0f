import TorChat.Server.ConnectionChoice

namespace TorChat

open Library (Machine)
open ConnectionItems (Candidates consider)

namespace ConcurrentLookup

inductive Query where
  | getConnByPurpose (purpose : Nat)
  | getConnBySocket (socket : Nat)
  deriving DecidableEq, Repr

-- where the lookup stands; each of size and get is one step, and failed is an index error
inductive Lookup where
  | size (i : Nat) (c : Candidates Nat)
  | get (i : Nat) (c : Candidates Nat)
  | fetch (index : Nat)
  | done (result : Option Nat) (decidedKeyed : Bool)
  | failed
  deriving DecidableEq, Repr

inductive Remover where
  | size (i : Nat)
  | get (i : Nat)
  | remove (i purpose : Nat)
  | done (status : Int)
  | failed
  deriving DecidableEq, Repr

structure Shared where
  connection : List Nat
  lookup : Lookup := .size 0 {}
  removers : Nat → Remover := fun _ => .size 0

inductive Step where
  | lookup
  | remover (k : Nat)
  deriving DecidableEq, Repr

section Steps

variable (heap : Nat → ConnectionStatusItem) (query : Query) (sockets : Nat → Nat)

def considered (i a : Nat) (c : Candidates Nat) : Lookup :=
  match query with
  | .getConnByPurpose purpose =>
      match consider heap purpose i a c with
      | .error a => .done (some a) true
      | .ok c => .size (i + 1) c
  | .getConnBySocket socket =>
      if (heap a).socket = socket then .done (some a) false else .size (i + 1) c

def scanned (c : Candidates Nat) : Lookup :=
  match c.index with
  | some index => .fetch index
  | none => .done c.result false

def stepLookup (connection : List Nat) : Lookup → Lookup
  | .size i c => if i < connection.length then .get i c else scanned c
  | .get i c =>
      match connection[i]? with
      | none => .failed
      | some a => considered heap query i a c
  | .fetch index =>
      match connection[index]? with
      | none => .failed
      | some a => .done (some a) true
  | .done result decidedKeyed => .done result decidedKeyed
  | .failed => .failed

def stepRemover (socket : Nat) (connection : List Nat) : Remover → Remover × List Nat
  | .size i => (if i < connection.length then .get i else .done (-1), connection)
  | .get i =>
      match connection[i]? with
      | none => (.failed, connection)
      | some a =>
          (if (heap a).socket = socket then .remove i (heap a).purpose else .size (i + 1),
            connection)
  | .remove i purpose =>
      if i < connection.length then (.done purpose, connection.eraseIdx i)
      else (.failed, connection)
  | .done status => (.done status, connection)
  | .failed => (.failed, connection)

def step (s : Shared) : Step → Shared
  | .lookup => { s with lookup := stepLookup heap query s.connection s.lookup }
  | .remover k =>
      let (remover, connection) := stepRemover heap (sockets k) s.connection (s.removers k)
      { s with connection := connection, removers := Function.update s.removers k remover }

def machine : Machine Shared Step := ⟨step heap query sockets⟩

end Steps

def Sound (heap : Nat → ConnectionStatusItem) (s : Shared) : Prop :=
  s.lookup ≠ .failed ∧
    ∀ result, s.lookup = .done result true → ∃ a, result = some a ∧ (heap a).keyed

-- the position the lookup reads has not been lost to a removal since it was found
def Unshifted (heap : Nat → ConnectionStatusItem) (s : Shared) (e : Step) : Prop :=
  e = .lookup →
    match s.lookup with
    | .get i _ => i < s.connection.length
    | .fetch index => ∃ a, s.connection[index]? = some a ∧ (heap a).keyed
    | _ => True

def Ended (s : Shared) : Prop :=
  (∃ result decidedKeyed, s.lookup = .done result decidedKeyed) ∨ s.lookup = .failed

variable {heap : Nat → ConnectionStatusItem} {query : Query} {sockets : Nat → Nat} {s : Shared}

theorem considered_sound (i a : Nat) (c : Candidates Nat) :
    considered heap query i a c ≠ .failed ∧
      ∀ result, considered heap query i a c = .done result true →
        ∃ a, result = some a ∧ (heap a).keyed := by
  cases query with
  | getConnByPurpose purpose =>
    rw [considered]
    cases hconsider : consider heap purpose i a c with
    | error b =>
      refine ⟨nofun, fun result h => ?_⟩
      cases h
      obtain ⟨rfl, _, hkeyed⟩ := ConnectionItems.consider_error hconsider
      exact ⟨b, rfl, hkeyed⟩
    | ok c' =>
      refine ⟨nofun, fun result h => ?_⟩
      cases h
  | getConnBySocket socket =>
    rw [considered]
    split
    · refine ⟨nofun, fun result h => ?_⟩
      cases h
    · refine ⟨nofun, fun result h => ?_⟩
      cases h

theorem scanned_sound (c : Candidates Nat) :
    scanned c ≠ .failed ∧ ∀ result, scanned c ≠ .done result true := by
  rw [scanned]
  cases c.index with
  | none =>
    refine ⟨nofun, fun result h => ?_⟩
    cases h
  | some index => exact ⟨nofun, fun result h => by cases h⟩

theorem sound_step_iff (e : Step) (h : Sound heap s) :
    Sound heap (step heap query sockets s e) ↔ Unshifted heap s e := by
  cases e with
  | remover k => exact ⟨fun _ => nofun, fun _ => h⟩
  | lookup =>
    obtain ⟨connection, lookup, removers⟩ := s
    cases lookup with
    | size i c =>
      refine ⟨fun _ _ => trivial, fun _ => ?_⟩
      rw [Sound, step]
      dsimp only [stepLookup]
      split
      · exact ⟨nofun, fun result hdone => by cases hdone⟩
      · obtain ⟨hfailed, hdecided⟩ := scanned_sound c
        exact ⟨hfailed, fun result hdone => absurd hdone (hdecided result)⟩
    | get i c =>
      rw [Sound, step, Unshifted]
      dsimp only [stepLookup]
      cases hget : connection[i]? with
      | none =>
        have hlength := List.getElem?_eq_none_iff.mp hget
        exact ⟨fun hs => absurd rfl hs.1, fun hg => absurd (hg rfl) (Nat.not_lt.mpr hlength)⟩
      | some a =>
        have hlength := (List.getElem?_eq_some_iff.mp hget).1
        exact ⟨fun _ _ => hlength, fun _ => considered_sound i a c⟩
    | fetch index =>
      rw [Sound, step, Unshifted]
      dsimp only [stepLookup]
      cases hget : connection[index]? with
      | none =>
        refine ⟨fun hs => absurd rfl hs.1, fun hg => ?_⟩
        obtain ⟨a, ha, _⟩ := hg rfl
        cases ha
      | some a =>
        constructor
        · intro hs _
          obtain ⟨b, hb, hkeyed⟩ := hs.2 (some a) rfl
          exact ⟨b, hb, hkeyed⟩
        · intro hg
          refine ⟨nofun, fun result hdone => ?_⟩
          cases hdone
          exact hg rfl
    | done result decidedKeyed => exact ⟨fun _ _ => trivial, fun _ => h⟩
    | failed => exact absurd rfl h.1

def Lookup.Holds (p : Nat → Prop) : Lookup → Prop
  | .size _ c => ∀ a, c.result = some a → p a
  | .get _ c => ∀ a, c.result = some a → p a
  | .done result _ => ∀ a, result = some a → p a
  | _ => True

-- nothing is added, so whatever the lookup holds was in the list when it began
structure Drawn (connection : List Nat) (s : Shared) : Prop where
  connection_subset : s.connection ⊆ connection
  lookup_holds : s.lookup.Holds (· ∈ connection)

theorem stepRemover_sublist (heap : Nat → ConnectionStatusItem) (socket : Nat)
    (connection : List Nat) (remover : Remover) :
    (stepRemover heap socket connection remover).2.Sublist connection := by
  cases remover with
  | get i =>
    rw [stepRemover]
    split <;> exact .refl _
  | remove i purpose =>
    rw [stepRemover]
    split
    · exact List.eraseIdx_sublist ..
    · exact .refl _
  | _ => exact .refl _

theorem considered_holds {p : Nat → Prop} {i a : Nat} {c : Candidates Nat} (ha : p a)
    (hc : ∀ a, c.result = some a → p a) : (considered heap query i a c).Holds p := by
  cases query with
  | getConnByPurpose purpose =>
    rw [considered]
    cases hconsider : consider heap purpose i a c with
    | error b =>
      obtain ⟨rfl, _, _⟩ := ConnectionItems.consider_error hconsider
      intro b' hb'
      cases hb'
      exact ha
    | ok c' =>
      rw [consider] at hconsider
      split at hconsider
      · cases hconsider
      · split at hconsider
        · cases hconsider
          exact hc
        · split at hconsider
          · cases hconsider
            intro b hb
            cases hb
            exact ha
          · cases hconsider
            exact hc
  | getConnBySocket socket =>
    rw [considered]
    split
    · intro b hb
      cases hb
      exact ha
    · exact hc

theorem drawn_step {connection : List Nat} (e : Step) (h : Drawn connection s) :
    Drawn connection (step heap query sockets s e) := by
  obtain ⟨hconnection, hlookup⟩ := h
  cases e with
  | remover k =>
    refine ⟨fun a ha => hconnection ?_, hlookup⟩
    exact (stepRemover_sublist heap (sockets k) s.connection (s.removers k)).subset ha
  | lookup =>
    obtain ⟨current, lookup, removers⟩ := s
    refine ⟨hconnection, ?_⟩
    rw [step]
    dsimp only
    cases lookup with
    | size i c =>
      rw [stepLookup]
      split
      · exact hlookup
      · rw [scanned]
        split
        · trivial
        · exact hlookup
    | get i c =>
      rw [stepLookup]
      cases hget : current[i]? with
      | none => trivial
      | some a => exact considered_holds (hconnection (List.mem_of_getElem? hget)) hlookup
    | fetch index =>
      rw [stepLookup]
      cases hget : current[index]? with
      | none => trivial
      | some a =>
        intro b hb
        cases hb
        exact hconnection (List.mem_of_getElem? hget)
    | done result decidedKeyed => exact hlookup
    | failed => trivial

-- a bound on the steps the lookup still takes while the list has n entries
def Lookup.measure (n : Nat) : Lookup → Nat
  | .size i _ => 2 * (n - i) + 3
  | .get i _ => 2 * (n - i) + 2
  | .fetch _ => 1
  | .done _ _ => 0
  | .failed => 0

def measure (s : Shared) : Nat := s.lookup.measure s.connection.length

section Measure

variable (heap query sockets s)

theorem measure_remover (k : Nat) :
    measure (step heap query sockets s (.remover k)) ≤ measure s := by
  have hlength := (stepRemover_sublist heap (sockets k) s.connection (s.removers k)).length_le
  obtain ⟨connection, lookup, removers⟩ := s
  dsimp only at hlength
  cases lookup <;> dsimp only [measure, step, Lookup.measure] <;> omega

theorem considered_measure (n i a : Nat) (c : Candidates Nat) :
    (considered heap query i a c).measure n ≤ 2 * (n - (i + 1)) + 3 := by
  cases query with
  | getConnByPurpose purpose =>
    rw [considered]
    cases consider heap purpose i a c with
    | error b => exact Nat.zero_le _
    | ok c' => exact Nat.le_refl _
  | getConnBySocket socket =>
    rw [considered]
    split
    · exact Nat.zero_le _
    · exact Nat.le_refl _

theorem scanned_measure (n : Nat) (c : Candidates Nat) : (scanned c).measure n ≤ 1 := by
  rw [scanned]
  split
  · exact Nat.le_refl 1
  · exact Nat.zero_le 1

theorem measure_lookup : measure (step heap query sockets s .lookup) ≤ measure s - 1 := by
  obtain ⟨connection, lookup, removers⟩ := s
  dsimp only [measure, step]
  cases lookup with
  | size i c =>
    rw [stepLookup]
    split
    · exact Nat.le_refl _
    · have hscanned := scanned_measure connection.length c
      rw [Lookup.measure]
      omega
  | get i c =>
    rw [stepLookup]
    cases hget : connection[i]? with
    | none => exact Nat.zero_le _
    | some a =>
      have hlength := (List.getElem?_eq_some_iff.mp hget).1
      have hconsidered := considered_measure heap query connection.length i a c
      rw [Lookup.measure]
      dsimp only
      omega
  | fetch index =>
    rw [stepLookup]
    cases connection[index]? <;> exact Nat.le_refl 0
  | done result decidedKeyed => exact Nat.le_refl 0
  | failed => exact Nat.le_refl 0

theorem measure_run (es : List Step) :
    measure ((machine heap query sockets).run s es) ≤ measure s - es.count .lookup := by
  induction es generalizing s with
  | nil => exact Nat.le_refl _
  | cons e es ih =>
    have hrest := ih (step heap query sockets s e)
    rw [Machine.run_cons]
    cases e with
    | lookup =>
      have hstep := measure_lookup heap query sockets s
      rw [List.count_cons_self]
      exact hrest.trans (by omega)
    | remover k =>
      have hstep := measure_remover heap query sockets s k
      have hcount : (Step.remover k :: es).count .lookup = es.count .lookup :=
        List.count_cons_of_ne (fun h => by cases h)
      rw [hcount]
      exact hrest.trans (by omega)

end Measure

theorem ended_of_measure (h : measure s = 0) : Ended s := by
  obtain ⟨connection, lookup, removers⟩ := s
  cases lookup with
  | size i c => cases h
  | get i c => cases h
  | fetch index => cases h
  | done result decidedKeyed => exact .inl ⟨result, decidedKeyed, rfl⟩
  | failed => exact .inr rfl

theorem lookup_survives_iff (heap : Nat → ConnectionStatusItem) (query : Query)
    (sockets : Nat → Nat) (connection : List Nat) (removers : Nat → Remover) (es : List Step) :
    let s : Shared := { connection := connection, removers := removers }
    ((∀ xs, xs <+: es →
        Sound heap ((machine heap query sockets).run s xs) ∧
        ∀ a decidedKeyed, ((machine heap query sockets).run s xs).lookup =
          .done (some a) decidedKeyed → a ∈ connection) ∧
      (2 * connection.length + 3 ≤ es.count .lookup →
        Ended ((machine heap query sockets).run s es))) ↔
      (machine heap query sockets).Guarded (Unshifted heap) s es := by
  intro s
  have hsound : Sound heap s := ⟨nofun, fun result h => by cases h⟩
  have hprefixes := (machine heap query sockets).guarded_iff_prefixes
    (I := Sound heap) (J := fun _ => True) (fun _ _ _ => trivial)
    (fun q e _ hq => sound_step_iff e hq) es trivial hsound
  rw [hprefixes]
  constructor
  · rintro ⟨hruns, _⟩ xs hxs
    exact (hruns xs hxs).1
  · intro hruns
    refine ⟨fun xs hxs => ⟨hruns xs hxs, fun a decidedKeyed hdone => ?_⟩, fun hcount => ?_⟩
    · have hdrawn : Drawn connection ((machine heap query sockets).run s xs) :=
        (machine heap query sockets).run_invariant (fun q e hq => drawn_step e hq) xs
          ⟨List.Subset.refl _, nofun⟩
      have hholds := hdrawn.lookup_holds
      rw [hdone] at hholds
      exact hholds a rfl
    · have hrun := measure_run heap query sockets s es
      have hinitial : measure s = 2 * connection.length + 3 := by rfl
      exact ended_of_measure (by omega)

theorem alone_from {connection seen rest : List Nat} {purpose : Nat} {c : Candidates Nat}
    (removers : Nat → Remover) (hconnection : connection = seen ++ rest)
    (hpassed : ConnectionItems.Passed heap purpose seen c) :
    ∃ m decidedKeyed, ((machine heap (.getConnByPurpose purpose) sockets).run
        { connection := connection, lookup := .size seen.length c, removers := removers }
        (List.replicate m .lookup)).lookup =
      .done (ConnectionItems.fetch connection
        (ConnectionItems.scan heap purpose rest seen.length c)) decidedKeyed := by
  induction rest generalizing seen c with
  | nil =>
    rw [List.append_nil] at hconnection
    subst hconnection
    rw [ConnectionItems.scan, ConnectionItems.fetch]
    cases hindex : c.index with
    | none =>
      refine ⟨1, false, ?_⟩
      dsimp only [List.replicate, Machine.run_cons, Machine.run_nil, machine, step]
      rw [stepLookup, if_neg (Nat.lt_irrefl _), scanned, hindex]
    | some index =>
      have hlt := hpassed.index_lt index hindex
      refine ⟨2, true, ?_⟩
      dsimp only [List.replicate, Machine.run_cons, Machine.run_nil, machine, step]
      have hsize : stepLookup heap (.getConnByPurpose purpose) connection
          (.size connection.length c) = .fetch index := by
        rw [stepLookup, if_neg (Nat.lt_irrefl _), scanned, hindex]
      rw [hsize, stepLookup, List.getElem?_eq_getElem hlt]
  | cons a rest ih =>
    have hlt : seen.length < connection.length := by
      rw [hconnection, List.length_append, List.length_cons]
      omega
    have hget : connection[seen.length]? = some a := by
      rw [hconnection, List.getElem?_append_right (Nat.le_refl _), Nat.sub_self]
      rfl
    have hsize : stepLookup heap (.getConnByPurpose purpose) connection
        (.size seen.length c) = .get seen.length c := by
      rw [stepLookup, if_pos hlt]
    have hstep : stepLookup heap (.getConnByPurpose purpose) connection
        (.get seen.length c) = considered heap (.getConnByPurpose purpose) seen.length a c := by
      rw [stepLookup, hget]
    rw [ConnectionItems.scan]
    cases hconsider : consider heap purpose seen.length a c with
    | error b =>
      refine ⟨2, true, ?_⟩
      dsimp only [List.replicate, Machine.run_cons, Machine.run_nil, machine, step]
      rw [hsize, hstep, considered, hconsider]
      rfl
    | ok c' =>
      have hmore : connection = (seen ++ [a]) ++ rest := by
        rw [hconnection, List.append_assoc, List.singleton_append]
      obtain ⟨m, decidedKeyed, hrun⟩ :=
        ih hmore (ConnectionItems.passed_consider hpassed hconsider)
      rw [List.length_append, List.length_singleton] at hrun
      refine ⟨m + 2, decidedKeyed, ?_⟩
      dsimp only [List.replicate_succ, Machine.run_cons, machine, step]
      rw [hsize, hstep, considered, hconsider]
      exact hrun

-- without removals the steps compute what getConnByPurpose returns
theorem lookup_alone (heap : Nat → ConnectionStatusItem) (sockets : Nat → Nat)
    (connection : List Nat) (removers : Nat → Remover) (purpose : Nat) :
    ∃ m decidedKeyed, ((machine heap (.getConnByPurpose purpose) sockets).run
        { connection := connection, removers := removers } (List.replicate m .lookup)).lookup =
      .done (ConnectionItems.choose heap purpose connection) decidedKeyed :=
  alone_from removers (List.nil_append connection).symm ConnectionItems.passed_nil

def soleConnection : ConnectionStatusItem := { onionName := "bob", socket := 7 }

-- the only connection is removed after the lookup has seen the size
theorem lookup_fails_after_removal :
    ¬ Sound (fun _ => soleConnection) ((machine (fun _ => soleConnection)
      (.getConnByPurpose Constant.socketPurposeText) (fun _ => 7)).run { connection := [0] }
      [.lookup, .remover 0, .remover 0, .remover 0, .lookup]) :=
  fun h => h.1 (by decide)

end ConcurrentLookup

end TorChat
