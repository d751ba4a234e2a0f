import TorChat.Server.Connections
import TorChat.Library.Machine

namespace TorChat

open Library (Bytes Machine)

namespace ConnectionStatusItem

def keyed (item : ConnectionStatusItem) : Bool := item.shareKey.isSome

def serves (item : ConnectionStatusItem) (purpose : Nat) : Bool := decide (item.purpose = purpose)

end ConnectionStatusItem

namespace ConnectionItems

structure Candidates (α : Type) where
  index : Option Nat := none
  count : Nat := 0
  result : Option α := none
  deriving DecidableEq, Repr

variable {α : Type} (view : α → ConnectionStatusItem) (purpose : Nat)

-- one round of the loop of getConnByPurpose; an error is an early return
def consider (i : Nat) (a : α) (c : Candidates α) : Except α (Candidates α) :=
  if (view a).serves purpose && (view a).keyed then .error a
  else if (view a).keyed then .ok { c with index := some i, count := c.count + 1 }
  else if (view a).serves purpose then .ok { c with result := some a }
  else .ok c

def scan : List α → Nat → Candidates α → Except α (Candidates α)
  | [], _, c => .ok c
  | a :: rest, i, c => (consider view purpose i a c).bind (scan rest (i + 1))

def fetch (connection : List α) : Except α (Candidates α) → Option α
  | .error a => some a
  | .ok c =>
      match c.index with
      | some index => connection[index]?
      | none => c.result

def choose (connection : List α) : Option α :=
  fetch connection (scan view purpose connection 0 {})

-- what the variables of the loop say about the entries it has passed
structure Passed (seen : List α) (c : Candidates α) : Prop where
  find_eq : seen.find? (fun a => (view a).serves purpose && (view a).keyed) = none
  index_eq : c.index.bind (fun i => seen[i]?) = (seen.filter (fun a => (view a).keyed)).getLast?
  index_lt : ∀ i, c.index = some i → i < seen.length
  result_eq : c.result =
    (seen.filter (fun a => (view a).serves purpose && !(view a).keyed)).getLast?

variable {view purpose} {seen rest connection : List α} {c c' : Candidates α} {a : α}

theorem passed_nil : Passed view purpose [] {} := ⟨rfl, rfl, nofun, rfl⟩

theorem passed_consider (h : Passed view purpose seen c)
    (hok : consider view purpose seen.length a c = .ok c') :
    Passed view purpose (seen ++ [a]) c' := by
  obtain ⟨hfind, hindex, hlt, hresult⟩ := h
  have hold : c.index.bind (fun i => (seen ++ [a])[i]?) = c.index.bind (fun i => seen[i]?) := by
    cases hc : c.index with
    | none => rfl
    | some i => exact List.getElem?_append_left (hlt i hc)
  have hlt' : ∀ i, c.index = some i → i < (seen ++ [a]).length := by
    intro i hi
    have := hlt i hi
    rw [List.length_append]
    omega
  rw [consider] at hok
  by_cases hkeyed : (view a).keyed = true
  · by_cases hserves : (view a).serves purpose = true
    · rw [hkeyed, hserves] at hok
      cases hok
    · rw [Bool.not_eq_true] at hserves
      rw [hkeyed, hserves] at hok
      cases hok
      refine ⟨?_, ?_, ?_, ?_⟩
      · simp [List.find?_append, hfind, hserves]
      · simp [List.filter_append, hkeyed]
      · intro i hi
        cases hi
        rw [List.length_append, List.length_singleton]
        exact Nat.lt_succ_self _
      · simp [List.filter_append, hserves, hresult]
  · rw [Bool.not_eq_true] at hkeyed
    by_cases hserves : (view a).serves purpose = true
    · rw [hkeyed, hserves] at hok
      cases hok
      refine ⟨?_, ?_, hlt', ?_⟩
      · simp [List.find?_append, hfind, hkeyed]
      · simp [List.filter_append, hkeyed, hold, hindex]
      · simp [List.filter_append, hkeyed, hserves]
    · rw [Bool.not_eq_true] at hserves
      rw [hkeyed, hserves] at hok
      cases hok
      refine ⟨?_, ?_, hlt', ?_⟩
      · simp [List.find?_append, hfind, hkeyed]
      · simp [List.filter_append, hkeyed, hold, hindex]
      · simp [List.filter_append, hkeyed, hserves, hresult]

theorem consider_error {i : Nat} {b : α} (h : consider view purpose i a c = .error b) :
    b = a ∧ (view a).serves purpose = true ∧ (view a).keyed = true := by
  rw [consider] at h
  split at h
  · rename_i hboth
    cases h
    exact ⟨rfl, Bool.and_eq_true_iff.mp hboth⟩
  · split at h
    · cases h
    · split at h <;> cases h

theorem scan_spec (h : Passed view purpose seen c) (rest : List α) :
    (∃ a, scan view purpose rest seen.length c = .error a ∧
        (seen ++ rest).find? (fun a => (view a).serves purpose && (view a).keyed) = some a) ∨
      ∃ c', scan view purpose rest seen.length c = .ok c' ∧
        Passed view purpose (seen ++ rest) c' := by
  induction rest generalizing seen c with
  | nil =>
    rw [List.append_nil]
    exact .inr ⟨c, rfl, h⟩
  | cons a rest ih =>
    rw [scan]
    cases hconsider : consider view purpose seen.length a c with
    | error b =>
      obtain ⟨rfl, hserves, hkeyed⟩ := consider_error hconsider
      refine .inl ⟨b, rfl, ?_⟩
      rw [List.find?_append, h.find_eq, Option.none_or, List.find?_cons_of_pos]
      rw [hserves, hkeyed]
      rfl
    | ok c' =>
      have hrest := ih (passed_consider h hconsider)
      rw [List.length_append, List.append_assoc] at hrest
      exact hrest

theorem choose_eq (view : α → ConnectionStatusItem) (purpose : Nat) (connection : List α) :
    choose view purpose connection =
      match connection.find? (fun a => (view a).serves purpose && (view a).keyed) with
      | some a => some a
      | none =>
          match (connection.filter (fun a => (view a).keyed)).getLast? with
          | some a => some a
          | none => (connection.filter (fun a => (view a).serves purpose)).getLast? := by
  rw [choose]
  rcases scan_spec (passed_nil : Passed view purpose [] {}) connection with
    ⟨a, hscan, hfind⟩ | ⟨c, hscan, hpassed⟩
  · rw [List.nil_append] at hfind
    rw [List.length_nil] at hscan
    rw [hscan, hfind, fetch]
  · rw [List.nil_append] at hpassed
    rw [List.length_nil] at hscan
    rw [hscan, hpassed.find_eq, fetch]
    dsimp only
    rw [← hpassed.index_eq]
    cases hindex : c.index with
    | some i =>
      have hlt := hpassed.index_lt i hindex
      rw [Option.bind_some, List.getElem?_eq_getElem hlt]
      exact List.getElem?_eq_getElem hlt
    | none =>
      have hnone := hpassed.index_eq
      rw [hindex, Option.bind_none, eq_comm, List.getLast?_eq_none_iff] at hnone
      rw [Option.bind_none, hpassed.result_eq]
      dsimp only
      congr 1
      refine List.filter_congr (fun a ha => ?_)
      have hkeyless := List.filter_eq_nil_iff.mp hnone a ha
      rw [Bool.not_eq_true] at hkeyless
      rw [hkeyless, Bool.not_false, Bool.and_true]

theorem eraseP_of_find? {p : α → Bool} (h : connection.find? p = some a) :
    p a = true ∧ ∃ before after, connection = before ++ a :: after ∧
      connection.eraseP p = before ++ after ∧ ∀ b ∈ before, ¬ p b = true := by
  obtain ⟨hp, before, after, rfl, hbefore⟩ := List.find?_eq_some_iff_append.mp h
  have hnot : ∀ b ∈ before, ¬ p b = true := by
    intro b hb hpb
    have := hbefore b hb
    rw [hpb] at this
    cases this
  refine ⟨hp, before, after, rfl, ?_, hnot⟩
  rw [List.eraseP_append_right _ hnot, List.eraseP_cons_of_pos hp]

theorem choose_map (view : α → ConnectionStatusItem) (purpose : Nat) (connection : List α) :
    (choose view purpose connection).map view = choose id purpose (connection.map view) := by
  rw [choose_eq, choose_eq, List.find?_map, List.filter_map, List.filter_map, List.getLast?_map,
    List.getLast?_map]
  simp only [Function.comp_def, id_eq]
  cases connection.find? (fun a => (view a).serves purpose && (view a).keyed) with
  | some a => rfl
  | none =>
    cases (connection.filter (fun a => (view a).keyed)).getLast? with
    | some a => rfl
    | none => rfl

theorem choose_eq_getConnByPurpose (connection : ConnectionItems) (purpose : Nat) :
    choose id purpose connection = connection.getConnByPurpose purpose := by
  rw [choose_eq, getConnByPurpose]
  simp only [id_eq, ConnectionStatusItem.serves, ConnectionStatusItem.keyed]
  cases connection.find? (fun item => decide (item.purpose = purpose) && item.shareKey.isSome) with
  | some item => rfl
  | none =>
    cases (connection.filter (fun item => item.shareKey.isSome)).getLast? <;> rfl

end ConnectionItems

-- the connections are objects that stay shared after they were added, so the list holds addresses
structure ConnectionTable where
  heap : Nat → ConnectionStatusItem
  connection : List Nat := []
  removed : List Nat := []

namespace ConnectionTable

inductive Op where
  | addNewConn (item : Option Nat)
  | removeConnBySocket (socket : Nat)
  | updateStatus (socket status : Nat) (sharedKey : Option Bytes)
  | updateConnectionPurpose (socket purpose : Nat)
  deriving DecidableEq, Repr

def hasSocket (t : ConnectionTable) (socket a : Nat) : Bool := decide ((t.heap a).socket = socket)

def modifyBySocket (t : ConnectionTable) (f : ConnectionStatusItem → ConnectionStatusItem)
    (socket : Nat) : ConnectionTable :=
  match t.connection.find? (t.hasSocket socket) with
  | some a => { t with heap := Function.update t.heap a (f (t.heap a)) }
  | none => t

def step (t : ConnectionTable) : Op → ConnectionTable
  | .addNewConn none => t
  | .addNewConn (some a) => { t with connection := t.connection ++ [a] }
  | .removeConnBySocket socket =>
      match t.connection.find? (t.hasSocket socket) with
      | some a =>
          { t with
            connection := t.connection.eraseP (t.hasSocket socket), removed := t.removed ++ [a] }
      | none => t
  | .updateStatus socket status sharedKey =>
      t.modifyBySocket (ConnectionItems.setStatus status sharedKey) socket
  | .updateConnectionPurpose socket purpose =>
      t.modifyBySocket (fun item => { item with purpose := purpose }) socket

def machine : Machine ConnectionTable Op where
  step := step

def getConnByPurpose (t : ConnectionTable) (purpose : Nat) : Option Nat :=
  ConnectionItems.choose t.heap purpose t.connection

def items (t : ConnectionTable) : ConnectionItems := t.connection.map t.heap

def adds (ops : List Op) : List Nat :=
  ops.filterMap (fun op => match op with
    | .addNewConn item => item
    | _ => none)

theorem getConnByPurpose_items (t : ConnectionTable) (purpose : Nat) :
    (t.getConnByPurpose purpose).map t.heap = t.items.getConnByPurpose purpose := by
  rw [getConnByPurpose, ConnectionItems.choose_map, ConnectionItems.choose_eq_getConnByPurpose]
  rfl

theorem modifyBySocket_of_none {heap : Nat → ConnectionStatusItem} {connection : List Nat}
    {socket : Nat} (f : ConnectionStatusItem → ConnectionStatusItem)
    (h : connection.find? (fun a => decide ((heap a).socket = socket)) = none) :
    ConnectionItems.modifyBySocket f socket (connection.map heap) = connection.map heap := by
  induction connection with
  | nil => rfl
  | cons b rest ih =>
    rw [List.find?_cons] at h
    split at h
    · cases h
    · rename_i hsocket
      rw [List.map_cons, ConnectionItems.modifyBySocket, if_neg (of_decide_eq_false hsocket), ih h]

theorem modifyBySocket_of_some {heap : Nat → ConnectionStatusItem} {connection : List Nat}
    {socket a : Nat} (f : ConnectionStatusItem → ConnectionStatusItem)
    (hnodup : connection.Nodup)
    (h : connection.find? (fun a => decide ((heap a).socket = socket)) = some a) :
    ConnectionItems.modifyBySocket f socket (connection.map heap) =
      connection.map (Function.update heap a (f (heap a))) := by
  induction connection with
  | nil => cases h
  | cons b rest ih =>
    obtain ⟨hnot, hrest⟩ := List.nodup_cons.mp hnodup
    rw [List.find?_cons] at h
    split at h
    · rename_i hsocket
      cases h
      have hothers : rest.map (Function.update heap a (f (heap a))) = rest.map heap := by
        refine List.map_congr_left (fun c hc => Function.update_of_ne ?_ _ _)
        exact fun heq => hnot (heq ▸ hc)
      rw [List.map_cons, List.map_cons, ConnectionItems.modifyBySocket,
        if_pos (of_decide_eq_true hsocket), Function.update_self, hothers]
    · rename_i hsocket
      have hne : b ≠ a := fun heq => hnot (heq ▸ List.mem_of_find?_eq_some h)
      rw [List.map_cons, List.map_cons, ConnectionItems.modifyBySocket,
        if_neg (of_decide_eq_false hsocket), ih hrest h, Function.update_of_ne hne]

theorem modifyBySocket_items {t : ConnectionTable} (hnodup : t.connection.Nodup)
    (f : ConnectionStatusItem → ConnectionStatusItem) (socket : Nat) :
    (t.modifyBySocket f socket).items = ConnectionItems.modifyBySocket f socket t.items := by
  rw [modifyBySocket]
  split
  · rename_i a hfind
    exact (modifyBySocket_of_some f hnodup hfind).symm
  · rename_i hfind
    exact (modifyBySocket_of_none f hfind).symm

-- while no object is added twice, the table is the list of the contents
theorem step_items {t : ConnectionTable} (hnodup : t.connection.Nodup) (op : Op) :
    (t.step op).items = match op with
      | .addNewConn none => t.items
      | .addNewConn (some a) => t.items.addNewConn (t.heap a)
      | .removeConnBySocket socket => t.items.removeConnBySocket socket
      | .updateStatus socket status sharedKey => t.items.updateStatus socket status sharedKey
      | .updateConnectionPurpose socket purpose =>
          t.items.updateConnectionPurpose socket purpose := by
  cases op with
  | addNewConn item =>
    cases item with
    | none => rfl
    | some a => exact List.map_append
  | removeConnBySocket socket =>
    have hmap : (t.connection.eraseP (t.hasSocket socket)).map t.heap =
        t.items.removeConnBySocket socket := by
      rw [ConnectionItems.removeConnBySocket, items, List.eraseP_map]
      rfl
    rw [step]
    split
    · exact hmap
    · rename_i hfind
      have hnone := List.eraseP_of_forall_not (List.find?_eq_none.mp hfind)
      rw [hnone] at hmap
      exact hmap
  | updateStatus socket status sharedKey => exact modifyBySocket_items hnodup _ socket
  | updateConnectionPurpose socket purpose => exact modifyBySocket_items hnodup _ socket

theorem modifyBySocket_lists (t : ConnectionTable)
    (f : ConnectionStatusItem → ConnectionStatusItem) (socket : Nat) :
    (t.modifyBySocket f socket).connection = t.connection ∧
      (t.modifyBySocket f socket).removed = t.removed := by
  unfold modifyBySocket
  split <;> exact ⟨rfl, rfl⟩

theorem step_perm (t : ConnectionTable) (op : Op) :
    ((t.step op).removed ++ (t.step op).connection).Perm
      (t.removed ++ t.connection ++ adds [op]) := by
  cases op with
  | addNewConn item =>
    cases item with
    | none => exact (List.append_nil _).symm ▸ .refl _
    | some a =>
      have heq : t.removed ++ (t.connection ++ [a]) = t.removed ++ t.connection ++ [a] :=
        (List.append_assoc ..).symm
      exact .of_eq heq
  | removeConnBySocket socket =>
    have hnone : adds [.removeConnBySocket socket] = [] := rfl
    rw [hnone, List.append_nil, step]
    split
    · rename_i a hfind
      obtain ⟨_, before, after, hconnection, herase, _⟩ :=
        ConnectionItems.eraseP_of_find? hfind
      dsimp only
      rw [herase, hconnection, List.append_assoc, List.singleton_append]
      exact (List.Perm.append_left _ List.perm_middle).symm
    · exact .refl _
  | updateStatus socket status sharedKey =>
    have hlists := t.modifyBySocket_lists (ConnectionItems.setStatus status sharedKey) socket
    have hnone : adds [.updateStatus socket status sharedKey] = [] := rfl
    rw [hnone, List.append_nil, step, hlists.1, hlists.2]
  | updateConnectionPurpose socket purpose =>
    have hlists := t.modifyBySocket_lists (fun item => { item with purpose := purpose }) socket
    have hnone : adds [.updateConnectionPurpose socket purpose] = [] := rfl
    rw [hnone, List.append_nil, step, hlists.1, hlists.2]

theorem run_perm (t : ConnectionTable) (ops : List Op) :
    ((machine.run t ops).removed ++ (machine.run t ops).connection).Perm
      (t.removed ++ t.connection ++ adds ops) := by
  induction ops generalizing t with
  | nil => exact .of_eq (List.append_nil _).symm
  | cons op ops ih =>
    have hadds : adds (op :: ops) = adds [op] ++ adds ops :=
      List.filterMap_append (l := [op])
    rw [Machine.run_cons, hadds, ← List.append_assoc]
    exact (ih (t.step op)).trans ((t.step_perm op).append_right (adds ops))

-- the entry that an operation by socket works on
structure First (t : ConnectionTable) (socket : Nat) (before : List Nat) (a : Nat)
    (after : List Nat) : Prop where
  list : t.connection = before ++ a :: after
  found : (t.heap a).socket = socket
  earlier : ∀ b ∈ before, (t.heap b).socket ≠ socket

def Op.bySocket : Op → Option Nat
  | .addNewConn _ => none
  | .removeConnBySocket socket => some socket
  | .updateStatus socket _ _ => some socket
  | .updateConnectionPurpose socket _ => some socket

-- an update changes the fields of one object, an adding or removing the list, and nothing else
inductive Effect (t : ConnectionTable) : Op → ConnectionTable → Prop
  | null : Effect t (.addNewConn none) t
  | added (a : Nat) : Effect t (.addNewConn (some a)) { t with connection := t.connection ++ [a] }
  | removed {socket a : Nat} {before after : List Nat} (h : t.First socket before a after) :
      Effect t (.removeConnBySocket socket)
        { t with connection := before ++ after, removed := t.removed ++ [a] }
  | status {socket a : Nat} {before after : List Nat} (h : t.First socket before a after)
      (status : Nat) (sharedKey : Option Bytes) :
      Effect t (.updateStatus socket status sharedKey)
        { t with
          heap := Function.update t.heap a
            { t.heap a with status := status, shareKey := sharedKey.or (t.heap a).shareKey } }
  | purpose {socket a : Nat} {before after : List Nat} (h : t.First socket before a after)
      (purpose : Nat) :
      Effect t (.updateConnectionPurpose socket purpose)
        { t with heap := Function.update t.heap a { t.heap a with purpose := purpose } }
  | absent {op : Op} {socket : Nat} (hop : op.bySocket = some socket)
      (h : ∀ b ∈ t.connection, (t.heap b).socket ≠ socket) : Effect t op t

inductive Effects : ConnectionTable → List Op → ConnectionTable → Prop
  | nil (t : ConnectionTable) : Effects t [] t
  | cons {t t' t'' : ConnectionTable} {op : Op} {ops : List Op} (h : Effect t op t')
      (hrest : Effects t' ops t'') : Effects t (op :: ops) t''

theorem first_of_find? {t : ConnectionTable} {socket a : Nat}
    (h : t.connection.find? (t.hasSocket socket) = some a) :
    ∃ before after, t.First socket before a after ∧
      t.connection.eraseP (t.hasSocket socket) = before ++ after := by
  obtain ⟨ha, before, after, hlist, herase, hbefore⟩ := ConnectionItems.eraseP_of_find? h
  refine ⟨before, after, ⟨hlist, of_decide_eq_true ha, fun b hb => ?_⟩, herase⟩
  have hother := hbefore b hb
  rwa [hasSocket, decide_eq_true_eq] at hother

theorem absent_of_find? {t : ConnectionTable} {socket : Nat}
    (h : t.connection.find? (t.hasSocket socket) = none) :
    ∀ b ∈ t.connection, (t.heap b).socket ≠ socket := by
  intro b hb
  have hother := List.find?_eq_none.mp h b hb
  rwa [hasSocket, decide_eq_true_eq] at hother

theorem effect_step (t : ConnectionTable) (op : Op) : Effect t op (t.step op) := by
  cases op with
  | addNewConn item =>
    cases item with
    | none => exact .null
    | some a => exact .added a
  | removeConnBySocket socket =>
    rw [step]
    split
    · rename_i a hfind
      obtain ⟨before, after, hfirst, herase⟩ := first_of_find? hfind
      rw [herase]
      exact .removed hfirst
    · rename_i hfind
      exact .absent rfl (absent_of_find? hfind)
  | updateStatus socket status sharedKey =>
    rw [step, modifyBySocket]
    split
    · rename_i a hfind
      obtain ⟨before, after, hfirst, -⟩ := first_of_find? hfind
      exact .status hfirst status sharedKey
    · rename_i hfind
      exact .absent rfl (absent_of_find? hfind)
  | updateConnectionPurpose socket purpose =>
    rw [step, modifyBySocket]
    split
    · rename_i a hfind
      obtain ⟨before, after, hfirst, -⟩ := first_of_find? hfind
      exact .purpose hfirst purpose
    · rename_i hfind
      exact .absent rfl (absent_of_find? hfind)

theorem effects_run (t : ConnectionTable) (ops : List Op) : Effects t ops (machine.run t ops) := by
  induction ops generalizing t with
  | nil => exact .nil t
  | cons op ops ih => exact .cons (t.effect_step op) (ih (t.step op))

-- the order in which getConnByPurpose prefers the connections
structure Chosen (t : ConnectionTable) (purpose : Nat) (result : Option Nat) : Prop where
  first_keyed : ∀ a, t.connection.find?
      (fun a => (t.heap a).serves purpose && (t.heap a).keyed) = some a → result = some a
  other_keyed : (∀ a ∈ t.connection, (t.heap a).keyed → ¬ (t.heap a).serves purpose) →
    (∃ a ∈ t.connection, (t.heap a).keyed) →
    ∃ a ∈ t.connection, (t.heap a).keyed ∧ result = some a
  keyless : (∀ a ∈ t.connection, ¬ (t.heap a).keyed) →
    (∃ a ∈ t.connection, (t.heap a).serves purpose) →
    ∃ a ∈ t.connection, (t.heap a).serves purpose ∧ result = some a
  nothing : (∀ a ∈ t.connection, ¬ (t.heap a).keyed ∧ ¬ (t.heap a).serves purpose) →
    result = none

theorem find_none {t : ConnectionTable} {purpose : Nat}
    (h : ∀ a ∈ t.connection, (t.heap a).keyed → ¬ (t.heap a).serves purpose) :
    t.connection.find? (fun a => (t.heap a).serves purpose && (t.heap a).keyed) = none := by
  rw [List.find?_eq_none]
  intro a ha hboth
  obtain ⟨hserves, hkeyed⟩ := Bool.and_eq_true_iff.mp hboth
  exact h a ha hkeyed hserves

theorem getLast?_filter {connection : List Nat} {p : Nat → Bool} (h : ∃ a ∈ connection, p a) :
    ∃ a, (connection.filter p).getLast? = some a := by
  obtain ⟨a, ha, hp⟩ := h
  have hne : connection.filter p ≠ [] := List.ne_nil_of_mem (List.mem_filter.mpr ⟨ha, hp⟩)
  exact ⟨_, List.getLast?_eq_some_getLast hne⟩

theorem chosen_getConnByPurpose (t : ConnectionTable) (purpose : Nat) :
    t.Chosen purpose (t.getConnByPurpose purpose) := by
  have hchoose := ConnectionItems.choose_eq t.heap purpose t.connection
  rw [getConnByPurpose]
  refine ⟨fun a ha => ?_, fun hother hkeyed => ?_, fun hkeyless hserves => ?_, fun hnone => ?_⟩
  · rw [hchoose, ha]
  · rw [find_none hother] at hchoose
    obtain ⟨a, hlast⟩ := getLast?_filter hkeyed
    obtain ⟨hmem, ha⟩ := List.mem_filter.mp (List.mem_of_getLast? hlast)
    rw [hlast] at hchoose
    exact ⟨a, hmem, ha, hchoose⟩
  · rw [find_none (fun a ha hkeyed => absurd hkeyed (hkeyless a ha)),
      List.filter_eq_nil_iff.mpr hkeyless] at hchoose
    obtain ⟨a, hlast⟩ := getLast?_filter hserves
    obtain ⟨hmem, ha⟩ := List.mem_filter.mp (List.mem_of_getLast? hlast)
    exact ⟨a, hmem, ha, hchoose.trans hlast⟩
  · rw [find_none (fun a ha hkeyed => absurd hkeyed (hnone a ha).1),
      List.filter_eq_nil_iff.mpr (fun a ha => (hnone a ha).1),
      List.filter_eq_nil_iff.mpr (fun a ha => (hnone a ha).2)] at hchoose
    exact hchoose

theorem mem_of_getConnByPurpose {t : ConnectionTable} {purpose a : Nat}
    (h : t.getConnByPurpose purpose = some a) : a ∈ t.connection := by
  rw [getConnByPurpose, ConnectionItems.choose_eq] at h
  split at h
  · rename_i b hfind
    cases h
    exact List.mem_of_find?_eq_some hfind
  · split at h
    · rename_i b hlast
      cases h
      exact (List.mem_filter.mp (List.mem_of_getLast? hlast)).1
    · exact (List.mem_filter.mp (List.mem_of_getLast? h)).1

theorem connection_choice (heap : Nat → ConnectionStatusItem) (ops : List Op) (purpose : Nat) :
    let t := machine.run { heap := heap } ops
    Effects { heap := heap } ops t ∧ (t.removed ++ t.connection).Perm (adds ops) ∧
      t.Chosen purpose (t.getConnByPurpose purpose) ∧
      ∀ a, t.getConnByPurpose purpose = some a → t.removed.count a < (adds ops).count a := by
  have hperm := run_perm { heap := heap } ops
  refine ⟨effects_run _ ops, hperm, chosen_getConnByPurpose _ purpose, fun a ha => ?_⟩
  have hcount := hperm.count_eq a
  have hpos := List.count_pos_iff.mpr (mem_of_getConnByPurpose ha)
  simp only [List.nil_append, List.count_append] at hcount
  omega

end ConnectionTable

end TorChat
