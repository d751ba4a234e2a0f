import TorChat.Server.SessionOrder

namespace TorChat

open Library (Bytes HashMap Machine)

namespace SessionOrder

section Ends

structure Link where
  onionName : Side → String
  socket : Side → Nat
  privateKey : Side → PrivateKey

def Link.connection (link : Link) (side : Side) : Connection :=
  { onionName := link.onionName side, socket := link.socket side
    handShakeMessage := {
      remoteOnion := link.onionName side, localPrivateKey := link.privateKey side
      remotePublickey := (link.privateKey side.other).publicKey } }

-- any cell that the other end wrote on the connection may be processed, at any time and again
inductive LinkEvent where
  | deliver (side : Side) (env : Env) (position : Nat)
  | start (side : Side) (env : Env) (purpose : Nat)

variable (P : Platform) (link : Link)

def arriving (ends : Side → Endpoint) : LinkEvent → Option (Side × Event)
  | .deliver side env position => do
      let cell ← (cells (link.socket side.other) (ends side.other).device)[position]?
      let externalPayload ← Message.parseRemote cell (link.privateKey side)
        (link.privateKey side.other).publicKey
      return (side, .cell env externalPayload)
  | .start side env purpose => some (side, .start env purpose)

def linkStep (ends : Side → Endpoint) (event : LinkEvent) : Side → Endpoint :=
  match arriving link ends event with
  | none => ends
  | some (side, event) =>
      Function.update ends side (step P (link.connection side) (ends side) event)

def linkMachine : Machine (Side → Endpoint) LinkEvent := ⟨linkStep P link⟩

def Started : Event → Prop
  | .cell _ externalPayload => received P externalPayload = some .auth
  | .start _ _ => False

-- every cell in its turn, and AUTH only while no end has sent or received an EXCHANGE
def InTurn (ends : Side → Endpoint) (event : LinkEvent) : Prop :=
  ∀ x ∈ arriving link ends event, InOrder P (link.connection x.1) (ends x.1) x.2 ∧
    (Started P x.2 → ∀ side, Step.exchange ∉ (ends side).steps)

instance (event : Event) : Decidable (Started P event) :=
  match event with
  | .cell _ _ => inferInstanceAs (Decidable (_ = _))
  | .start _ _ => isFalse id

instance (ends : Side → Endpoint) (event : LinkEvent) : Decidable (InTurn P link ends event) :=
  inferInstanceAs (Decidable (∀ x ∈ arriving link ends event, _))

def KeysAgree (ends : Side → Endpoint) : Prop :=
  ∀ one ∈ (ends .a).device.conns.getConnectionStatusItem (link.onionName .a) (link.socket .a),
    ∀ other ∈ (ends .b).device.conns.getConnectionStatusItem (link.onionName .b) (link.socket .b),
      one.status = 1 → other.status = 1 → one.shareKey = other.shareKey

instance (ends : Side → Endpoint) : Decidable (KeysAgree link ends) :=
  inferInstanceAs (Decidable (∀ one ∈ _, ∀ other ∈ _, _))

structure Held (key : Option Bytes) (conn : Connection) (e : Endpoint) : Prop where
  kept : Kept conn e
  established : Established conn e
  offered : ∀ c ∈ cells conn.socket e.device, Offers P key c
  shared : ∀ item ∈ slot conn e.device, item.shareKey = none ∨ item.shareKey = key

def OneKey (ends : Side → Endpoint) : Prop :=
  ∃ key : Option Bytes, ((∀ side, Step.exchange ∉ (ends side).steps) → key = none) ∧
    ∀ side, Held P key (link.connection side) (ends side)

variable {P link} {conn : Connection} {e e' : Endpoint} {key key' : Option Bytes}

theorem offers_change {c : Cell} (h : Offers P key c) (hkeys : key = key' ∨ key = none) :
    Offers P key' c := by
  rcases hkeys with rfl | rfl
  · exact h
  · intro localPrivateKey remotePublicKey externalPayload hparse hreceived
    obtain ⟨internalPayload, -, hinternal, haccepts⟩ := received_spec hreceived
    have hnone := h localPrivateKey remotePublicKey externalPayload hparse hreceived
    rw [offered, hinternal, Option.bind_some] at hnone
    rw [accepts, hnone] at haccepts
    cases haccepts

theorem shared_change {shareKey : Option Bytes} (h : shareKey = none ∨ shareKey = key)
    (hkeys : key = key' ∨ key = none) : shareKey = none ∨ shareKey = key' := by
  rcases hkeys with rfl | rfl
  · exact h
  · exact .inl (h.elim id id)

theorem held_change (h : Held P key conn e) (hkeys : key = key' ∨ key = none) :
    Held P key' conn e where
  kept := h.kept
  established := h.established
  offered := fun c hc => offers_change (h.offered c hc) hkeys
  shared := fun item hitem => shared_change (h.shared item hitem) hkeys

theorem held_outcome {ok : Bool} {s : Step} {shareKey : Option Bytes} {reply : List Cell}
    (h : Held P key conn e) (hkeys : key = key' ∨ key = none)
    (ho : Outcome conn ok s shareKey reply e e') (hkept : Kept conn e')
    (hestablished : Established conn e') (hreply : ok = true → ∀ c ∈ reply, Offers P key' c)
    (hshared : ok = true → shareKey = none ∨ shareKey = key') : Held P key' conn e' where
  kept := hkept
  established := hestablished
  offered := by
    intro c hc
    rw [ho.cells_eq] at hc
    rcases List.mem_append.mp hc with hold | hnew
    · exact offers_change (h.offered c hold) hkeys
    · split at hnew
      · rename_i hok
        exact hreply hok c hnew
      · exact absurd hnew List.not_mem_nil
  shared := by
    intro item hitem
    rw [ho.slot_eq] at hitem
    split at hitem
    · rename_i hok
      cases hslot : slot conn e.device with
      | nil =>
        rw [hslot] at hitem
        exact absurd hitem List.not_mem_nil
      | cons old rest =>
        rw [hslot, List.modifyHead_cons] at hitem
        rcases List.mem_cons.mp hitem with rfl | hrest
        · have hold := shared_change (h.shared old (hslot ▸ List.mem_cons_self)) hkeys
          have hor : shareKey.or old.shareKey = none ∨ shareKey.or old.shareKey = key' := by
            rcases hshared hok with rfl | rfl
            · exact hold
            · cases shareKey with
              | none => exact hold
              | some k => exact .inr rfl
          exact hor
        · exact shared_change (h.shared item (hslot ▸ List.mem_cons_of_mem old hrest)) hkeys
    · exact shared_change (h.shared item (List.mem_of_mem_tail hitem)) hkeys

theorem held_start {env : Env} {purpose : Nat} (h : Held P key conn e) :
    Held P key conn (step P conn e (.start env purpose)) := by
  obtain ⟨hfades, -⟩ := step_start P env e purpose (kept_length h.kept)
  have hdevice : (step P conn e (.start env purpose)).device =
      e.device.startHandShakeProcess P env conn.onionName purpose := rfl
  constructor
  · exact kept_step e (.start env purpose) h.kept
  · exact (established_step_iff e (.start env purpose) h.kept h.established).mpr trivial
  · intro c hc
    rw [hdevice] at hc
    have hstarted := cells_startHandShakeProcess e.device conn.onionName purpose c hc
    rcases hstarted with hold | hnew
    · exact h.offered c hold
    · exact hnew key
  · intro item hitem
    rcases hfades with hnil | ⟨old, purpose', hone, hone'⟩
    · rw [hnil] at hitem
      exact absurd hitem List.not_mem_nil
    · rw [hone'] at hitem
      rw [List.mem_singleton.mp hitem]
      exact h.shared old (hone ▸ List.mem_singleton_self old)

theorem held_cell {env : Env} {externalPayload : Bytes} {s : Step} (h : Held P key conn e)
    (horder : InOrder P conn e (.cell env externalPayload))
    (hreceived : received P externalPayload = some s)
    (hoffered : s = .exchange → offered P externalPayload = key) (hauth : s = .auth → key = none) :
    ∃ key', (key = key' ∨ key = none) ∧
      Held P key' conn (step P conn e (.cell env externalPayload)) ∧
      (key' = key ∨ .exchange ∈ (step P conn e (.cell env externalPayload)).steps) := by
  obtain ⟨shareKey, reply, ho, hkeyed, hreply⟩ := step_cell env conn e hreceived
  have hkept : Kept conn (step P conn e (.cell env externalPayload)) := kept_step e _ h.kept
  have hestablished : Established conn (step P conn e (.cell env externalPayload)) :=
    (established_step_iff e _ h.kept h.established).mpr horder
  by_cases hdrawn : s = .auth ∧ s.answered env = true
  · obtain ⟨rfl, hok⟩ := hdrawn
    have hkeys : key = shareKey ∨ key = none := .inr (hauth rfl)
    refine ⟨shareKey, hkeys, ?_, .inr ?_⟩
    · exact held_outcome h hkeys ho hkept hestablished
        (fun _ c hc => hreply c hc shareKey (fun _ => rfl)) (fun _ => .inr rfl)
    · rw [ho.steps_eq, if_pos hok]
      exact List.mem_append_right _ (by decide)
  · have hne : s.answered env = true → s ≠ .auth := fun hok hs => hdrawn ⟨hs, hok⟩
    refine ⟨key, .inl rfl, ?_, .inl rfl⟩
    refine held_outcome h (.inl rfl) ho hkept hestablished ?_ ?_
    · exact fun hok c hc => hreply c hc key (fun hs => absurd hs (hne hok))
    · intro hok
      cases s with
      | request => exact .inl hkeyed
      | auth => exact absurd rfl (hne hok)
      | exchange => exact .inr (hkeyed.2.trans (hoffered rfl))
      | done => exact .inl hkeyed

theorem held_none {env : Env} {externalPayload : Bytes} (h : Held P key conn e)
    (hreceived : received P externalPayload = none) :
    Held P key conn (step P conn e (.cell env externalPayload)) := by
  obtain ⟨hslot, hcells, hsteps⟩ := step_cell_none env conn e hreceived
  constructor
  · exact kept_step e _ h.kept
  · rw [established_iff, hslot, hsteps]
    exact (established_iff e).mp h.established
  · rw [hcells]
    exact h.offered
  · rw [hslot]
    exact h.shared

theorem steps_step (e : Endpoint) (event : Event) : e.steps <+: (step P conn e event).steps := by
  cases event with
  | cell env externalPayload => exact List.prefix_append _ _
  | start env purpose => exact List.prefix_append _ _

theorem oneKey_update {ends : Side → Endpoint} {side : Side} {event : Event}
    (hkeys : key = key' ∨ key = none)
    (hnone : (∀ s, Step.exchange ∉ (ends s).steps) → key = none)
    (h : ∀ s, Held P key (link.connection s) (ends s))
    (hnext : Held P key' (link.connection side)
      (step P (link.connection side) (ends side) event))
    (hdrawn : key' = key ∨
      .exchange ∈ (step P (link.connection side) (ends side) event).steps) :
    OneKey P link (Function.update ends side
      (step P (link.connection side) (ends side) event)) := by
  refine ⟨key', ?_, ?_⟩
  · intro hall
    have hside := hall side
    rw [Function.update_self] at hside
    rw [hdrawn.resolve_right hside]
    apply hnone
    intro s hs
    apply hall s
    by_cases hsame : s = side
    · subst hsame
      rw [Function.update_self]
      exact (steps_step (ends s) event).subset hs
    · rw [Function.update_of_ne hsame]
      exact hs
  · intro s
    by_cases hsame : s = side
    · subst hsame
      rw [Function.update_self]
      exact hnext
    · rw [Function.update_of_ne hsame]
      exact held_change (h s) hkeys

theorem oneKey_step (ends : Side → Endpoint) (event : LinkEvent) (h : OneKey P link ends)
    (hturn : InTurn P link ends event) : OneKey P link (linkStep P link ends event) := by
  obtain ⟨key, hnone, hheld⟩ := h
  rw [linkStep]
  cases harriving : arriving link ends event with
  | none => exact ⟨key, hnone, hheld⟩
  | some x =>
    obtain ⟨side, event'⟩ := x
    obtain ⟨horder, hstarted⟩ := hturn _ harriving
    cases event' with
    | start env purpose =>
      exact oneKey_update (.inl rfl) hnone hheld (held_start (hheld side)) (.inl rfl)
    | cell env externalPayload =>
      cases hreceived : received P externalPayload with
      | none =>
        exact oneKey_update (.inl rfl) hnone hheld (held_none (hheld side) hreceived) (.inl rfl)
      | some s =>
        have hoffered : s = .exchange → offered P externalPayload = key := by
          rintro rfl
          cases event with
          | start side' env' purpose => cases harriving
          | deliver side' env' position =>
            simp only [arriving, Option.bind_eq_bind, Option.bind_eq_some_iff, Option.pure_def,
              Option.some.injEq, Prod.mk.injEq, Event.cell.injEq] at harriving
            obtain ⟨c, hc, payload, hparse, rfl, rfl, rfl⟩ := harriving
            exact (hheld side'.other).offered c (List.mem_of_getElem? hc) _ _ _ hparse hreceived
        obtain ⟨key', hkeys, hnext, hdrawn⟩ := held_cell (hheld side) horder hreceived hoffered
          (fun hs => hnone (hstarted (hreceived.trans (congrArg some hs))))
        exact oneKey_update hkeys hnone hheld hnext hdrawn

end Ends

section Runs

variable {P : Platform}

theorem kept_fresh {conn : Connection} {d : Device} (h : Fresh conn d) : Kept conn ⟨d, []⟩ := by
  obtain ⟨purpose, hslot⟩ := h.opened
  exact .inr ⟨_, hslot, fun hmem => absurd hmem List.not_mem_nil⟩

theorem established_fresh {conn : Connection} {d : Device} (h : Fresh conn d) :
    Established conn ⟨d, []⟩ := by
  obtain ⟨purpose, hslot⟩ := h.opened
  rw [established_iff, slot, hslot]
  intro item hitem hstatus
  obtain rfl := Option.mem_some_iff.mp hitem
  cases hstatus

theorem held_fresh {conn : Connection} {d : Device} (h : Fresh conn d) :
    Held P none conn ⟨d, []⟩ where
  kept := kept_fresh h
  established := established_fresh h
  offered := by
    intro c hc
    rw [h.silent] at hc
    exact absurd hc List.not_mem_nil
  shared := by
    obtain ⟨purpose, hslot⟩ := h.opened
    intro item hitem
    rw [slot, hslot] at hitem
    exact .inl (congrArg ConnectionStatusItem.shareKey (List.mem_singleton.mp hitem))

theorem run_established_iff {conn : Connection} {d : Device} (h : Fresh conn d)
    (events : List Event) : (machine P conn).Guarded (InOrder P conn) ⟨d, []⟩ events ↔
      ∀ xs, xs <+: events → Established conn ((machine P conn).run ⟨d, []⟩ xs) :=
  Machine.guarded_iff_prefixes (machine P conn) (I := Established conn) (J := Kept conn)
    (fun e event hkept => kept_step e event hkept)
    (fun e event hkept he => established_step_iff e event hkept he) events (kept_fresh h)
    (established_fresh h)

theorem oneKey_fresh {link : Link} {devices : Side → Device}
    (h : ∀ side, Fresh (link.connection side) (devices side)) :
    OneKey P link (fun side => ⟨devices side, []⟩) :=
  ⟨none, fun _ => rfl, fun side => held_fresh (h side)⟩

theorem established_of_oneKey {link : Link} {ends : Side → Endpoint} (h : OneKey P link ends)
    (side : Side) : Established (link.connection side) (ends side) := by
  obtain ⟨key, -, hheld⟩ := h
  exact (hheld side).established

theorem keysAgree_of_oneKey {link : Link} {ends : Side → Endpoint} (h : OneKey P link ends) :
    KeysAgree link ends := by
  obtain ⟨key, -, hheld⟩ := h
  have hshared (side : Side) (item : ConnectionStatusItem)
      (hitem : (ends side).device.conns.getConnectionStatusItem (link.onionName side)
        (link.socket side) = some item) (hstatus : item.status = 1) : item.shareKey = key := by
    have hsome := ((hheld side).established item hitem hstatus).1
    rw [Connections.getConnectionStatusItem_eq_head?] at hitem
    rcases (hheld side).shared item (List.mem_of_mem_head? hitem) with hnone | hkey
    · rw [hnone] at hsome
      cases hsome
    · exact hkey
  intro one hone other hother hstatus hstatus'
  rw [hshared .a one hone hstatus, hshared .b other hother hstatus']

theorem sessions_established (P : Platform) :
    (∀ conn d, Fresh conn d → ∀ events,
      ((machine P conn).Guarded (InOrder P conn) ⟨d, []⟩ events ↔
        ∀ xs, xs <+: events → Established conn ((machine P conn).run ⟨d, []⟩ xs))) ∧
    ∀ link (devices : Side → Device), (∀ side, Fresh (link.connection side) (devices side)) →
      ∀ events,
      (linkMachine P link).Guarded (InTurn P link) (fun side => ⟨devices side, []⟩) events →
        (∀ side, Established (link.connection side)
          ((linkMachine P link).run (fun side => ⟨devices side, []⟩) events side)) ∧
        KeysAgree link ((linkMachine P link).run (fun side => ⟨devices side, []⟩) events) := by
  refine ⟨fun conn d h events => run_established_iff h events, ?_⟩
  intro link devices h events hturn
  have hone := (linkMachine P link).guarded_invariant (I := OneKey P link)
    (fun ends event hends hevent => oneKey_step ends event hends hevent) hturn (oneKey_fresh h)
  exact ⟨established_of_oneKey hone, keysAgree_of_oneKey hone⟩

end Runs

section Demo

def demoLink : Link :=
  { onionName := fun | .a => "bob" | .b => "alice"
    socket := fun _ => 1
    privateKey := fun | .a => ⟨1⟩ | .b => ⟨2⟩ }

def demoDevice (side : Side) : Device :=
  { onionName := demoLink.onionName side.other, privateKey := demoLink.privateKey side
    keys := { keyFile := [255] }
    mailList := HashMap.put ∅ (demoLink.onionName side) (MailItem.ofContact demoPlatform
      (demoLink.onionName side) (demoLink.privateKey side.other).publicKey)
    conns := ({} : Connections).addNewConnection
      { onionName := demoLink.onionName side, socket := demoLink.socket side }
    handShakeMessageHandlerByOnionName := HashMap.put ∅ (demoLink.onionName side)
      (demoLink.connection side).handShakeMessage }

theorem demo_fresh (side : Side) : Fresh (demoLink.connection side) (demoDevice side) := by
  refine ⟨⟨0, ?_⟩, rfl⟩
  cases side <;> decide +kernel

def demoHandShake : List LinkEvent :=
  [.start .a {} 0, .deliver .b {} 0, .deliver .a {} 0, .deliver .b {} 1, .deliver .a {} 1]

def demoCells : List Event :=
  [.start {} 0, .cell {} (HandShakeMessage.authPayload demoPlatform {} "c" [0, 1, 0, 0, 0, 1]),
    .cell {} (HandShakeMessage.donePayload demoPlatform {})]

theorem sessions_established_handShake :
    Established (demoLink.connection .a)
        ((machine demoPlatform (demoLink.connection .a)).run ⟨demoDevice .a, []⟩ demoCells) ∧
      KeysAgree demoLink ((linkMachine demoPlatform demoLink).run
        (fun side => ⟨demoDevice side, []⟩) demoHandShake) :=
  ⟨((sessions_established demoPlatform).1 _ _ (demo_fresh .a) demoCells).mp
      (by decide +kernel) demoCells (List.prefix_refl _),
    ((sessions_established demoPlatform).2 demoLink demoDevice demo_fresh demoHandShake
      (by decide +kernel)).2⟩

def drawing (n : Nat) : Env := { ambient := fun _ => { draw := fun _ => n } }

-- two REQUESTs are answered by two AUTHs, and each AUTH draws a key of its own
def demoTwoKeys : List LinkEvent :=
  [.start .a {} 0, .start .a {} 0, .deliver .b {} 0, .deliver .b {} 1, .deliver .a {} 0,
    .deliver .a (drawing 1) 1, .deliver .b {} 2, .deliver .a {} 2]

theorem done_alone_establishes :
    ¬ Established (demoLink.connection .a)
        ((machine demoPlatform (demoLink.connection .a)).run ⟨demoDevice .a, []⟩
          [.cell {} (HandShakeMessage.donePayload demoPlatform {})]) ∧
      ¬ KeysAgree demoLink ((linkMachine demoPlatform demoLink).run
        (fun side => ⟨demoDevice side, []⟩) demoTwoKeys) := by
  constructor <;> decide +kernel

end Demo

end SessionOrder

end TorChat
