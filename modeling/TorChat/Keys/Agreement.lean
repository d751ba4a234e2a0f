import TorChat.Library.Machine
import TorChat.Util.KeyState

namespace TorChat

open Library (Bytes Machine)

inductive Side where
  | a
  | b
  deriving DecidableEq, Repr

namespace Side

def other : Side → Side
  | a => b
  | b => a

@[simp] theorem other_other (side : Side) : side.other.other = side := by
  cases side <;> rfl

theorem other_ne (side : Side) : side.other ≠ side := by
  cases side <;> decide

theorem eq_or_eq_other (side receiver : Side) : side = receiver ∨ side = receiver.other := by
  cases side <;> cases receiver <;> decide

instance decidableForall {p : Side → Prop} [∀ side, Decidable (p side)] :
    Decidable (∀ side, p side) :=
  decidable_of_iff (p a ∧ p b)
    ⟨fun h side => match side with | a => h.1 | b => h.2, fun h => ⟨h a, h b⟩⟩

end Side

namespace KeyAgreement

open KeyState XORutil

inductive HandShakeCell where
  | request (startXOR : Bytes)
  | auth (startXOR : Bytes)
  | exchange
  | done
  deriving DecidableEq, Repr

def HandShakeCell.isAuth : HandShakeCell → Bool
  | .auth _ => true
  | _ => false

structure Network where
  keys : Side → KeyState
  inFlight : List (Side × HandShakeCell) := []
  opened : Nat := 0

inductive Event where
  | openHandShake (side : Side)
  | process (position : Nat)
  deriving DecidableEq, Repr

def handShakeMessageHandle (keys : KeyState) : HandShakeCell → KeyState × Option HandShakeCell
  | .request startXOR =>
      match parseXor startXOR with
      | none => (keys, none)
      | some (fileName, fileIndex) =>
          let keys := keys.acceptRequest fileName fileIndex
          (keys.writeBack, some (.auth keys.cellXor))
  | .auth startXOR =>
      match parseXor startXOR with
      | none => (keys, none)
      | some (fileName, fileIndex) => (keys.acceptAuth fileName fileIndex, some .exchange)
  | .exchange => (keys, some .done)
  | .done => (keys, none)

namespace Network

def setKeys (net : Network) (side : Side) (keys : KeyState) : Network :=
  { net with keys := Function.update net.keys side keys }

def step (net : Network) : Event → Network
  | .openHandShake side =>
      let keys := net.keys side
      { net.setKeys side keys.openRequest with
        inFlight := net.inFlight ++ [(side, .request keys.requestXor)]
        opened := net.opened + 1 }
  | .process position =>
      match net.inFlight[position]? with
      | none => net
      | some (sender, cell) =>
          let (keys, reply) := handShakeMessageHandle (net.keys sender.other) cell
          { net.setKeys sender.other keys with
            inFlight := net.inFlight.eraseIdx position ++
              reply.toList.map (fun cell => (sender.other, cell)) }

def keysAt (net : Network) (side : Side) : KeyState := net.keys side

def Agreed (net : Network) : Prop :=
  net.opened ≠ 0 → net.inFlight = [] → (net.keys .a).keyIndex = (net.keys .b).keyIndex

def AuthInFlight (net : Network) (side : Side) : Prop :=
  ∃ c ∈ net.inFlight, c.1 = side ∧ c.2.isAuth = true

instance (net : Network) : Decidable net.Agreed :=
  inferInstanceAs (Decidable (_ → _ → _))

instance (net : Network) (side : Side) : Decidable (net.AuthInFlight side) :=
  inferInstanceAs (Decidable (∃ c ∈ net.inFlight, _))

end Network

def machine : Machine Network Event := ⟨Network.step⟩

def indexWritten (keys : KeyState) : HandShakeCell → Option Nat
  | .request startXOR =>
      (parseXor startXOR).map (fun p => greaterKeyIndex p.2 keys.startFileIndex)
  | .auth startXOR => (parseXor startXOR).map (fun p => p.2)
  | .exchange => none
  | .done => none

def KeepsAuth (net : Network) (side : Side) (index : Nat) : Prop :=
  net.AuthInFlight side → index ≤ 255 → index = (net.keys side).keyIndex

def Undisturbed (net : Network) : Event → Prop
  | .openHandShake side => KeepsAuth net side ((net.keys side).keyIndex + 1)
  | .process position =>
      ∀ c ∈ net.inFlight[position]?, ∀ index ∈ indexWritten (net.keys c.1.other) c.2,
        KeepsAuth net c.1.other index

instance (net : Network) (side : Side) (index : Nat) : Decidable (KeepsAuth net side index) :=
  inferInstanceAs (Decidable (_ → _ → _))

instance (net : Network) (event : Event) : Decidable (Undisturbed net event) :=
  match event with
  | .openHandShake _ => inferInstanceAs (Decidable (KeepsAuth _ _ _))
  | .process position =>
      inferInstanceAs (Decidable (∀ c ∈ net.inFlight[position]?,
        ∀ index ∈ indexWritten (net.keys c.1.other) c.2, KeepsAuth net c.1.other index))

theorem handShakeMessageHandle_request (keys : KeyState) {startXOR : Bytes}
    {fileName fileIndex : Nat} (h : parseXor startXOR = some (fileName, fileIndex)) :
    handShakeMessageHandle keys (.request startXOR) =
      (keys.handShake (.acceptRequest fileName fileIndex),
        some (.auth (keys.acceptRequest fileName fileIndex).cellXor)) := by
  simp only [handShakeMessageHandle, h, handShake]

theorem handShakeMessageHandle_auth (keys : KeyState) {startXOR : Bytes}
    {fileName fileIndex : Nat} (h : parseXor startXOR = some (fileName, fileIndex)) :
    handShakeMessageHandle keys (.auth startXOR) =
      (keys.handShake (.acceptAuth fileName fileIndex), some .exchange) := by
  simp only [handShakeMessageHandle, h, handShake]

theorem process_only {keys : Side → KeyState} {sender : Side} {cell : HandShakeCell}
    {keys' : KeyState} {reply : Option HandShakeCell} (count : Nat)
    (h : handShakeMessageHandle (keys sender.other) cell = (keys', reply)) :
    machine.step ⟨keys, [(sender, cell)], count⟩ (.process 0) =
      ⟨Function.update keys sender.other keys',
        reply.toList.map (fun cell => (sender.other, cell)), count⟩ := by
  simp only [machine, Network.step, Network.setKeys, List.getElem?_cons_zero, h,
    List.eraseIdx_cons_zero, List.nil_append]

def responder (keys : Side → KeyState) (side : Side) : KeyState :=
  (keys side.other).handShake (.acceptRequest 1 ((keys side).keyIndex + 1))

def opener (keys : Side → KeyState) (side : Side) : KeyState :=
  ((keys side).handShake .openRequest).handShake (.acceptAuth 1 (responder keys side).keyIndex)

-- the keys after one undisturbed handshake: REQUEST, AUTH, EXCHANGE and DONE, each as it arrives
def established (keys : Side → KeyState) (side : Side) : Side → KeyState :=
  (machine.run { keys := keys } (.openHandShake side :: List.replicate 4 (.process 0))).keysAt

def keysEstablished (keys : Side → KeyState) (side : Side) : Side → KeyState :=
  Function.update (Function.update keys side.other (responder keys side)) side (opener keys side)

theorem keysEstablished_self (keys : Side → KeyState) (side : Side) :
    keysEstablished keys side side = opener keys side := Function.update_self ..

theorem keysEstablished_other (keys : Side → KeyState) (side : Side) :
    keysEstablished keys side side.other = responder keys side := by
  rw [keysEstablished, Function.update_of_ne side.other_ne, Function.update_self]

theorem run_single_handShake (keys : Side → KeyState) (side : Side) :
    machine.run { keys := keys } (.openHandShake side :: List.replicate 4 (.process 0)) =
      ⟨keysEstablished keys side, [], 1⟩ := by
  have hother := side.other_ne
  have hrequest := handShakeMessageHandle_request (keys side.other)
    (parseXor_requestXor (keys side))
  have hauth := handShakeMessageHandle_auth (keys side).openRequest (parseXor_cellXor
    ((keys side.other).acceptRequest 1 ((keys side).keyIndex + 1)))
  have hindex : (responder keys side).keyIndex =
      ((keys side.other).acceptRequest 1 ((keys side).keyIndex + 1)).keyIndex :=
    keyIndex_writeBack _
  have hkeys : Function.update (Function.update (Function.update keys side
      (keys side).openRequest) side.other (responder keys side)) side (opener keys side) =
        keysEstablished keys side := by
    funext s
    rcases Side.eq_or_eq_other s side with rfl | rfl
    · rw [Function.update_self, keysEstablished_self]
    · rw [Function.update_of_ne hother, Function.update_self, keysEstablished_other]
  set requested := Function.update keys side (keys side).openRequest with hrequested
  set answered := Function.update requested side.other (responder keys side) with hanswered
  have e1 : handShakeMessageHandle (requested side.other) (.request (keys side).requestXor) =
      (responder keys side, some (.auth ((keys side.other).acceptRequest 1
        ((keys side).keyIndex + 1)).cellXor)) := by
    rw [hrequested, Function.update_of_ne hother]
    exact hrequest
  have e2 : handShakeMessageHandle (answered side.other.other) (.auth ((keys side.other).acceptRequest
      1 ((keys side).keyIndex + 1)).cellXor) = (opener keys side, some .exchange) := by
    rw [Side.other_other, hanswered, Function.update_of_ne hother.symm, hrequested,
      Function.update_self, hauth, ← hindex]
    rfl
  have e3 : handShakeMessageHandle (keysEstablished keys side side.other) .exchange =
      (keysEstablished keys side side.other, some .done) := rfl
  have e4 : handShakeMessageHandle (keysEstablished keys side side.other.other) .done =
      (keysEstablished keys side side.other.other, none) := rfl
  have h1 := process_only 1 e1
  have h2 := process_only 1 e2
  have h3 := process_only 1 e3
  have h4 := process_only 1 e4
  simp only [Side.other_other, hkeys, Function.update_eq_self, Option.toList_some,
    Option.toList_none, List.map_cons, List.map_nil] at h1 h2 h3 h4
  have hopen : machine.step { keys := keys } (.openHandShake side) =
      ⟨requested, [(side, .request (keys side).requestXor)], 1⟩ := rfl
  rw [Machine.run_cons, hopen, List.replicate_succ, Machine.run_cons, h1, List.replicate_succ,
    Machine.run_cons, h2, List.replicate_succ, Machine.run_cons, h3, List.replicate_succ,
    Machine.run_cons, h4, List.replicate_zero, Machine.run_nil]

theorem established_eq (keys : Side → KeyState) (side : Side) :
    established keys side = keysEstablished keys side :=
  congrArg Network.keysAt (run_single_handShake keys side)

theorem established_self (keys : Side → KeyState) (side : Side) :
    established keys side side = opener keys side := by
  rw [established_eq, keysEstablished_self]

theorem established_other (keys : Side → KeyState) (side : Side) :
    established keys side side.other = responder keys side := by
  rw [established_eq, keysEstablished_other]

attribute [irreducible] established

theorem indices_agree {keys : Side → KeyState} (side : Side)
    (h : (keys side).keyIndex = (keys side.other).keyIndex) :
    (keys .a).keyIndex = (keys .b).keyIndex := by
  cases side with
  | a => exact h
  | b => exact h.symm

theorem established_index (keys : Side → KeyState) (side : Side) :
    (established keys side side).keyIndex = (established keys side side.other).keyIndex := by
  have hle := (responder keys side).keyIndex_le
  rw [established_self, established_other, opener, keyIndex_handShake, selectedIndex, if_pos hle]

theorem established_tail (keys : Side → KeyState) (side s : Side) :
    (established keys side s).keyFile.tail = (keys s).keyFile.tail := by
  rcases Side.eq_or_eq_other s side with rfl | rfl
  · rw [established_self, opener, tail_handShake, tail_handShake]
  · rw [established_other, responder, tail_handShake]

def HandShakeCell.carriesIndex : HandShakeCell → Bool
  | .request _ => true
  | .auth _ => true
  | .exchange => false
  | .done => false

structure Settled (net : Network) : Prop where
  auth : ∀ side startXOR, (side, HandShakeCell.auth startXOR) ∈ net.inFlight →
    parseXor startXOR = some (1, (net.keys side).keyIndex)
  request : ∀ side startXOR, (side, HandShakeCell.request startXOR) ∈ net.inFlight →
    ∃ index, parseXor startXOR = some (1, index)
  pending : net.opened = 0 ∨ (net.keys .a).keyIndex = (net.keys .b).keyIndex ∨
    ∃ c ∈ net.inFlight, c.2.carriesIndex = true

theorem settled_start (keys : Side → KeyState) : Settled { keys := keys } where
  auth := fun _ _ h => absurd h List.not_mem_nil
  request := fun _ _ h => absurd h List.not_mem_nil
  pending := .inl rfl

theorem agreed_of_settled {net : Network} (h : Settled net) : net.Agreed := by
  intro hopened hquiet
  rcases h.pending with hnone | hequal | ⟨c, hc, -⟩
  · exact absurd hnone hopened
  · exact hequal
  · rw [hquiet] at hc
    exact absurd hc List.not_mem_nil

theorem keyIndex_update {keys : Side → KeyState} {side r : Side} {k : KeyState}
    (h : side = r → k.keyIndex = (keys side).keyIndex) :
    (Function.update keys r k side).keyIndex = (keys side).keyIndex := by
  by_cases hs : side = r
  · subst hs
    rw [Function.update_self, h rfl]
  · rw [Function.update_of_ne hs]

theorem written_eq_of_keepsAuth {net : Network} {side : Side} {index : Nat}
    (h : KeepsAuth net side index) (hauth : net.AuthInFlight side) :
    (if index ≤ 255 then index else (net.keys side).keyIndex) = (net.keys side).keyIndex := by
  split
  · rename_i hle
    exact h hauth hle
  · rfl

theorem auth_of_old {net : Network} (h : Settled net) {r side : Side} {k : KeyState}
    {startXOR : Bytes} (hk : net.AuthInFlight r → k.keyIndex = (net.keys r).keyIndex)
    (hmem : (side, HandShakeCell.auth startXOR) ∈ net.inFlight) :
    parseXor startXOR = some (1, (Function.update net.keys r k side).keyIndex) := by
  have hsame : (Function.update net.keys r k side).keyIndex = (net.keys side).keyIndex := by
    refine keyIndex_update (fun hs => ?_)
    subst hs
    exact hk ⟨_, hmem, rfl, rfl⟩
  rw [hsame]
  exact h.auth side startXOR hmem

theorem settled_open {net : Network} {side : Side} (h : Settled net)
    (hg : Undisturbed net (.openHandShake side)) :
    Settled (net.step (.openHandShake side)) where
  auth := by
    intro s startXOR hmem
    simp only [Network.step, Network.setKeys, List.mem_append, List.mem_singleton,
      Prod.mk.injEq, reduceCtorEq, and_false, or_false] at hmem ⊢
    refine auth_of_old h (fun hauth => ?_) hmem
    rw [keyIndex_openRequest]
    exact written_eq_of_keepsAuth hg hauth
  request := by
    intro s startXOR hmem
    simp only [Network.step, Network.setKeys, List.mem_append, List.mem_singleton,
      Prod.mk.injEq, HandShakeCell.request.injEq] at hmem
    rcases hmem with hold | ⟨-, rfl⟩
    · exact h.request s startXOR hold
    · exact ⟨_, parseXor_requestXor _⟩
  pending := by
    refine .inr (.inr ⟨(side, .request (net.keys side).requestXor), ?_, rfl⟩)
    exact List.mem_append_right _ (List.mem_singleton.mpr rfl)

theorem settled_request {net : Network} {position : Nat} {sender : Side} {startXOR : Bytes}
    (h : Settled net) (hg : Undisturbed net (.process position))
    (hcell : net.inFlight[position]? = some (sender, .request startXOR)) :
    Settled (net.step (.process position)) := by
  obtain ⟨index, hparse⟩ := h.request sender startXOR (List.mem_of_getElem? hcell)
  have hkeeps : KeepsAuth net sender.other
      (greaterKeyIndex index (net.keys sender.other).startFileIndex) :=
    hg _ hcell _ (by simp only [indexWritten, hparse, Option.map_some, Option.mem_def])
  have hstep : net.step (.process position) =
      { net.setKeys sender.other ((net.keys sender.other).acceptRequest 1 index).writeBack with
        inFlight := net.inFlight.eraseIdx position ++
          [(sender.other, .auth ((net.keys sender.other).acceptRequest 1 index).cellXor)] } := by
    simp only [Network.step, hcell, handShakeMessageHandle, hparse, Option.toList_some,
      List.map_cons, List.map_nil]
  rw [hstep]
  refine ⟨?_, ?_, ?_⟩
  · intro side x hmem
    simp only [Network.setKeys, List.mem_append, List.mem_singleton, Prod.mk.injEq,
      HandShakeCell.auth.injEq] at hmem ⊢
    rcases hmem with hold | ⟨rfl, rfl⟩
    · refine auth_of_old h (fun hauth => ?_) (List.mem_of_mem_eraseIdx hold)
      rw [keyIndex_writeBack, keyIndex_acceptRequest]
      exact written_eq_of_keepsAuth hkeeps hauth
    · rw [Function.update_self, keyIndex_writeBack]
      exact parseXor_cellXor _
  · intro side x hmem
    simp only [List.mem_append, List.mem_singleton, Prod.mk.injEq, reduceCtorEq,
      and_false, or_false] at hmem
    exact h.request side x (List.mem_of_mem_eraseIdx hmem)
  · exact .inr (.inr ⟨_, List.mem_append_right _ (List.mem_singleton.mpr rfl), rfl⟩)

theorem settled_auth {net : Network} {position : Nat} {sender : Side} {startXOR : Bytes}
    (h : Settled net) (hg : Undisturbed net (.process position))
    (hcell : net.inFlight[position]? = some (sender, .auth startXOR)) :
    Settled (net.step (.process position)) := by
  have hparse := h.auth sender startXOR (List.mem_of_getElem? hcell)
  have hle := (net.keys sender).keyIndex_le
  have hkeeps : KeepsAuth net sender.other (net.keys sender).keyIndex :=
    hg _ hcell _ (by simp only [indexWritten, hparse, Option.map_some, Option.mem_def])
  have hstep : net.step (.process position) =
      { net.setKeys sender.other
          ((net.keys sender.other).acceptAuth 1 (net.keys sender).keyIndex) with
        inFlight := net.inFlight.eraseIdx position ++ [(sender.other, .exchange)] } := by
    simp only [Network.step, hcell, handShakeMessageHandle, hparse, Option.toList_some,
      List.map_cons, List.map_nil]
  rw [hstep]
  refine ⟨?_, ?_, ?_⟩
  · intro side x hmem
    simp only [Network.setKeys, List.mem_append, List.mem_singleton, Prod.mk.injEq, reduceCtorEq,
      and_false, or_false] at hmem ⊢
    refine auth_of_old h (fun hauth => ?_) (List.mem_of_mem_eraseIdx hmem)
    rw [keyIndex_acceptAuth, if_pos hle]
    exact hkeeps hauth hle
  · intro side x hmem
    simp only [List.mem_append, List.mem_singleton, Prod.mk.injEq, reduceCtorEq,
      and_false, or_false] at hmem
    exact h.request side x (List.mem_of_mem_eraseIdx hmem)
  · -- the AUTH just processed carried the header of its sender
    refine .inr (.inl (indices_agree sender ?_))
    simp only [Network.setKeys, Function.update_self, Function.update_of_ne sender.other_ne.symm,
      keyIndex_acceptAuth, if_pos hle]

theorem settled_keyless {net : Network} {position : Nat} {sender : Side} {cell : HandShakeCell}
    (h : Settled net) (hcell : net.inFlight[position]? = some (sender, cell))
    (hkeyless : cell.carriesIndex = false) : Settled (net.step (.process position)) := by
  have hstep : ∃ reply : List (Side × HandShakeCell), (∀ c ∈ reply, c.2.carriesIndex = false) ∧
      net.step (.process position) =
        { net with inFlight := net.inFlight.eraseIdx position ++ reply } := by
    cases cell with
    | request x => cases hkeyless
    | auth x => cases hkeyless
    | exchange =>
      refine ⟨[(sender.other, .done)], by simp [HandShakeCell.carriesIndex], ?_⟩
      simp [Network.step, hcell, handShakeMessageHandle, Network.setKeys]
    | done =>
      refine ⟨[], by simp, ?_⟩
      simp [Network.step, hcell, handShakeMessageHandle, Network.setKeys]
  obtain ⟨reply, hreply, heq⟩ := hstep
  have hold : ∀ c ∈ net.inFlight.eraseIdx position ++ reply, c.2.carriesIndex = true →
      c ∈ net.inFlight := by
    intro c hc hcarries
    rcases List.mem_append.mp hc with hin | hin
    · exact List.mem_of_mem_eraseIdx hin
    · rw [hreply c hin] at hcarries
      cases hcarries
  rw [heq]
  refine ⟨?_, ?_, ?_⟩
  · intro side x hmem
    exact h.auth side x (hold _ hmem rfl)
  · intro side x hmem
    exact h.request side x (hold _ hmem rfl)
  · rcases h.pending with hnone | hequal | ⟨c, hc, hcarries⟩
    · exact .inl hnone
    · exact .inr (.inl hequal)
    · refine .inr (.inr ⟨c, List.mem_append_left _ ?_, hcarries⟩)
      refine (List.mem_eraseIdx_iff_getElem?).mpr ?_
      obtain ⟨i, hi⟩ := List.getElem?_of_mem hc
      refine ⟨i, ?_, hi⟩
      intro hpos
      subst hpos
      rw [hcell, Option.some.injEq] at hi
      subst hi
      rw [hkeyless] at hcarries
      cases hcarries

theorem settled_step (net : Network) (event : Event) (h : Settled net)
    (hg : Undisturbed net event) : Settled (machine.step net event) := by
  cases event with
  | openHandShake side => exact settled_open h hg
  | process position =>
    cases hcell : net.inFlight[position]? with
    | none =>
      have hstep : net.step (.process position) = net := by simp only [Network.step, hcell]
      simpa only [machine, hstep] using h
    | some c =>
      obtain ⟨sender, cell⟩ := c
      cases cell with
      | request startXOR => exact settled_request h hg hcell
      | auth startXOR => exact settled_auth h hg hcell
      | exchange => exact settled_keyless h hcell rfl
      | done => exact settled_keyless h hcell rfl

theorem settled_run {keys : Side → KeyState} {events : List Event}
    (h : machine.Guarded Undisturbed { keys := keys } events) :
    Settled (machine.run { keys := keys } events) :=
  machine.guarded_invariant settled_step h (settled_start keys)

theorem key_indices_agree {keys : Side → KeyState} {events : List Event}
    (h : machine.Guarded Undisturbed { keys := keys } events) :
    (machine.run { keys := keys } events).Agreed :=
  agreed_of_settled (settled_run h)

def headers (a b : UInt8) : Side → KeyState
  | .a => { keyFile := [a] }
  | .b => { keyFile := [b] }

def singleOpen : Network :=
  machine.run { keys := headers 3 7 } (.openHandShake .a :: List.replicate 4 (.process 0))

theorem key_indices_agree_single_open :
    (singleOpen.keys .a).keyIndex = (singleOpen.keys .b).keyIndex :=
  key_indices_agree (by decide) (by decide) (by decide)

def crossedOpens : List Event :=
  [.openHandShake .a, .openHandShake .b, .process 1, .process 0, .process 1, .process 0,
    .process 0, .process 0, .process 0, .process 0]

theorem crossed_opens_disagree :
    ¬ (machine.run { keys := headers 5 0 } crossedOpens).Agreed := by
  decide

end KeyAgreement

end TorChat
