import TorChat.Library.Machine
import TorChat.Message.DataMessage

namespace TorChat

open Library (Bytes Machine)

namespace SlotUse

open KeyState JniEntryUtils ServiceLoaderImpl

structure Use where
  slot : Nat
  session : Nat
  deriving DecidableEq, Repr

structure Ledger where
  keys : KeyState
  uses : List Use := []
  current : Option Nat := none

inductive Event where
  | openRequest
  | acceptRequest (session fileName fileIndex : Nat)
  | acceptAuth (session fileName fileIndex : Nat)
  | sendText (session messageID : Nat)
  | sendFile (session messageID : Nat) (content : Bytes)
  | receiveText (session : Nat) (record : RecordXOR) (messageID : Nat)
  | receiveRecord (record : RecordXOR) (messageID : Nat)
  | mergePiece (session : Nat)
  deriving DecidableEq, Repr

namespace Ledger

def slot (ledger : Ledger) : Nat := keySkip ledger.keys.keyIndex

def use (ledger : Ledger) (session : Nat) : Ledger :=
  { ledger with uses := ledger.uses ++ [{ slot := ledger.slot, session := session }] }

def select (ledger : Ledger) (session : Nat) (s : HandShakeStep) : Ledger :=
  { ledger with keys := ledger.keys.handShake s, current := some session }

def step (ledger : Ledger) : Event → Ledger
  | .openRequest => { ledger with keys := ledger.keys.handShake .openRequest }
  | .acceptRequest session fileName fileIndex =>
      ledger.select session (.acceptRequest fileName fileIndex)
  | .acceptAuth session fileName fileIndex =>
      ledger.select session (.acceptAuth fileName fileIndex)
  | .sendText session messageID =>
      { ledger.use session with keys := ledger.keys.textSent messageID }
  | .sendFile session messageID content =>
      { (if content = [] then ledger else ledger.use session) with
        keys := ledger.keys.sendFile messageID }
  | .receiveText session record messageID =>
      { ledger.use session with keys := (ledger.keys.receiveRecord record messageID).writeBack }
  | .receiveRecord record messageID =>
      { ledger with keys := (ledger.keys.receiveRecord record messageID).writeBack }
  | .mergePiece session => ledger.use session

def SlotsOnce (ledger : Ledger) : Prop :=
  ∀ u ∈ ledger.uses, ∀ v ∈ ledger.uses, u.slot = v.slot → u.session = v.session

def Unused (ledger : Ledger) (slot : Nat) : Prop := ∀ u ∈ ledger.uses, u.slot ≠ slot

def FreshSlotLeft (ledger : Ledger) : Prop := ∃ index ∈ List.range 256, ledger.Unused (keySkip index)

def ExhaustionReported (ledger : Ledger) : Prop :=
  ¬ ledger.FreshSlotLeft → keyFileIsExhausted ledger.keys.keyFile = true

instance (ledger : Ledger) : Decidable ledger.SlotsOnce :=
  inferInstanceAs (Decidable (∀ u ∈ ledger.uses, ∀ v ∈ ledger.uses, _ → _))

instance (ledger : Ledger) (slot : Nat) : Decidable (ledger.Unused slot) :=
  inferInstanceAs (Decidable (∀ u ∈ ledger.uses, _))

instance (ledger : Ledger) : Decidable ledger.FreshSlotLeft :=
  inferInstanceAs (Decidable (∃ index ∈ List.range 256, _))

instance (ledger : Ledger) : Decidable ledger.ExhaustionReported :=
  inferInstanceAs (Decidable (¬ _ → _))

end Ledger

def machine : Machine Ledger Event := ⟨Ledger.step⟩

def Advances (ledger : Ledger) (session index : Nat) : Prop :=
  index ≤ 255 ∧ ledger.keys.keyIndex ≤ index ∧
    (keySkip index = ledger.slot → ledger.current = some session ∨ ledger.Unused ledger.slot)

def Serves (ledger : Ledger) (session : Nat) : Prop :=
  ledger.current = some session ∧
    ∃ index ∈ List.range 256, keySkip index ≠ ledger.slot ∧ ledger.Unused (keySkip index)

def Disciplined (ledger : Ledger) : Event → Prop
  | .openRequest => True
  | .acceptRequest session fileName fileIndex => Advances ledger session
      (ledger.keys.selectedIndex (.acceptRequest fileName fileIndex))
  | .acceptAuth session _ fileIndex => Advances ledger session fileIndex
  | .sendText session _ => Serves ledger session
  | .sendFile session _ content => content ≠ [] → Serves ledger session
  | .receiveText session _ _ => Serves ledger session
  | .receiveRecord _ _ => True
  | .mergePiece session => Serves ledger session

def NeverDecreases (ledger : Ledger) (events : List Event) : Prop :=
  ∀ xs ys, events = xs ++ ys →
    (machine.run ledger xs).keys.keyIndex ≤ (machine.run ledger events).keys.keyIndex

structure Fresh (ledger : Ledger) : Prop where
  below : ∀ u ∈ ledger.uses, u.slot ≤ ledger.slot
  current : ∀ u ∈ ledger.uses, u.slot = ledger.slot → ledger.current = some u.session
  once : ledger.SlotsOnce
  left : ledger.FreshSlotLeft

theorem keySkip_mono {i j : Nat} (h : i ≤ j) : keySkip i ≤ keySkip j := by
  unfold keySkip
  split <;> split <;> omega

theorem fresh_start (keys : KeyState) : Fresh { keys := keys } where
  below := fun _ h => absurd h List.not_mem_nil
  current := fun _ h => absurd h List.not_mem_nil
  once := fun _ h => absurd h List.not_mem_nil
  left := ⟨0, by decide, fun _ h => absurd h List.not_mem_nil⟩

theorem fresh_rekey {ledger : Ledger} {keys : KeyState} (h : Fresh ledger)
    (hindex : keys.keyIndex = ledger.keys.keyIndex) :
    Fresh { ledger with keys := keys } where
  below := by
    simp only [Ledger.slot, hindex]
    exact h.below
  current := by
    simp only [Ledger.slot, hindex]
    exact h.current
  once := h.once
  left := h.left

theorem fresh_use {ledger : Ledger} {session : Nat} (h : Fresh ledger)
    (hg : Serves ledger session) : Fresh (ledger.use session) where
  below := by
    intro u hu
    rcases List.mem_append.mp hu with hold | hnew
    · exact h.below u hold
    · rw [List.mem_singleton] at hnew
      subst hnew
      exact le_refl _
  current := by
    intro u hu hslot
    rcases List.mem_append.mp hu with hold | hnew
    · exact h.current u hold hslot
    · rw [List.mem_singleton] at hnew
      subst hnew
      exact hg.1
  once := by
    have hserved : ∀ u ∈ ledger.uses, u.slot = ledger.slot → u.session = session := by
      intro u hu hslot
      have hcurrent := h.current u hu hslot
      rw [hg.1, Option.some.injEq] at hcurrent
      exact hcurrent.symm
    intro u hu v hv hslot
    rcases List.mem_append.mp hu with hold | hnew
    · rcases List.mem_append.mp hv with hold' | hnew'
      · exact h.once u hold v hold' hslot
      · rw [List.mem_singleton] at hnew'
        subst hnew'
        exact hserved u hold hslot
    · rw [List.mem_singleton] at hnew
      subst hnew
      rcases List.mem_append.mp hv with hold' | hnew'
      · exact (hserved v hold' hslot.symm).symm
      · rw [List.mem_singleton] at hnew'
        rw [hnew']
  left := by
    obtain ⟨index, hindex, hne, hunused⟩ := hg.2
    refine ⟨index, hindex, fun u hu => ?_⟩
    rcases List.mem_append.mp hu with hold | hnew
    · exact hunused u hold
    · rw [List.mem_singleton] at hnew
      subst hnew
      exact hne.symm

theorem fresh_raise {ledger ledger' : Ledger} (h : Fresh ledger)
    (huses : ledger'.uses = ledger.uses) (hle : ledger.slot ≤ ledger'.slot)
    (hcurrent : ledger'.slot = ledger.slot →
      ledger'.current = ledger.current ∨ ledger.Unused ledger.slot) : Fresh ledger' where
  below := by
    rw [huses]
    exact fun u hu => le_trans (h.below u hu) hle
  current := by
    rw [huses]
    intro u hu hslot
    have hsame : ledger'.slot = ledger.slot :=
      le_antisymm (hslot ▸ h.below u hu) hle
    rcases hcurrent hsame with hkeep | hunused
    · rw [hkeep]
      exact h.current u hu (by rw [hslot, hsame])
    · exact absurd (by rw [hslot, hsame]) (hunused u hu)
  once := by
    unfold Ledger.SlotsOnce
    rw [huses]
    exact h.once
  left := by
    unfold Ledger.FreshSlotLeft Ledger.Unused
    rw [huses]
    exact h.left

theorem keyIndex_le_openRequest (keys : KeyState) :
    keys.keyIndex ≤ (keys.handShake .openRequest).keyIndex := by
  rw [keyIndex_handShake, selectedIndex]
  split <;> omega

theorem keyIndex_select {ledger : Ledger} {session : Nat} {s : HandShakeStep}
    (hg : Advances ledger session (ledger.keys.selectedIndex s)) :
    (ledger.select session s).keys.keyIndex = ledger.keys.selectedIndex s := by
  simp only [Ledger.select, keyIndex_handShake, if_pos hg.1]

theorem fresh_select {ledger : Ledger} {session : Nat} {s : HandShakeStep} (h : Fresh ledger)
    (hg : Advances ledger session (ledger.keys.selectedIndex s)) :
    Fresh (ledger.select session s) := by
  have hslot : (ledger.select session s).slot = keySkip (ledger.keys.selectedIndex s) := by
    rw [Ledger.slot, keyIndex_select hg]
  refine fresh_raise h rfl ?_ ?_
  · rw [hslot]
    exact keySkip_mono hg.2.1
  · intro hsame
    rw [hslot] at hsame
    rcases hg.2.2 hsame with hcurrent | hunused
    · exact .inl hcurrent.symm
    · exact .inr hunused

theorem fresh_step (ledger : Ledger) (event : Event) (h : Fresh ledger)
    (hg : Disciplined ledger event) : Fresh (machine.step ledger event) := by
  cases event with
  | openRequest =>
    exact fresh_raise h rfl (keySkip_mono (keyIndex_le_openRequest ledger.keys))
      (fun _ => .inl rfl)
  | acceptRequest session fileName fileIndex => exact fresh_select h hg
  | acceptAuth session fileName fileIndex => exact fresh_select h hg
  | sendText session messageID => exact fresh_rekey (fresh_use h hg) (keyIndex_writeBack _)
  | sendFile session messageID content =>
    have hused : Fresh (if content = [] then ledger else ledger.use session) := by
      split
      · exact h
      · rename_i hne
        exact fresh_use h (hg hne)
    refine fresh_rekey hused ?_
    split <;> rfl
  | receiveText session record messageID =>
    exact fresh_rekey (fresh_use h hg) (keyIndex_writeBack _)
  | receiveRecord record messageID => exact fresh_rekey h (keyIndex_writeBack _)
  | mergePiece session => exact fresh_use h hg

theorem keyIndex_le_step (ledger : Ledger) (event : Event) (hg : Disciplined ledger event) :
    ledger.keys.keyIndex ≤ (machine.step ledger event).keys.keyIndex := by
  cases event with
  | openRequest => exact keyIndex_le_openRequest ledger.keys
  | acceptRequest session fileName fileIndex => exact (keyIndex_select hg).symm ▸ hg.2.1
  | acceptAuth session fileName fileIndex =>
    exact (keyIndex_select (s := .acceptAuth fileName fileIndex) hg).symm ▸ hg.2.1
  | sendText session messageID => exact (keyIndex_writeBack _).ge
  | sendFile session messageID content => exact le_refl _
  | receiveText session record messageID => exact (keyIndex_writeBack _).ge
  | receiveRecord record messageID => exact (keyIndex_writeBack _).ge
  | mergePiece session => exact le_refl _

theorem neverDecreases_of_disciplined {ledger : Ledger} {events : List Event}
    (h : machine.Guarded Disciplined ledger events) : NeverDecreases ledger events := by
  intro xs ys hsplit
  subst hsplit
  rw [Machine.run_append]
  exact machine.guarded_monotone (f := fun l : Ledger => l.keys.keyIndex) keyIndex_le_step
    ((machine.guarded_append ledger xs ys).mp h).2

theorem slots_used_once {keys : KeyState} {events : List Event}
    (h : machine.Guarded Disciplined { keys := keys } events) :
    NeverDecreases { keys := keys } events ∧
      (machine.run { keys := keys } events).SlotsOnce ∧
      (machine.run { keys := keys } events).ExhaustionReported := by
  have hfresh := machine.guarded_invariant fresh_step h (fresh_start keys)
  exact ⟨neverDecreases_of_disciplined h, hfresh.once, fun hnone => absurd hfresh.left hnone⟩

def twoSessions : List Event :=
  [.openRequest, .acceptAuth 0 1 4, .sendText 0 1000, .openRequest, .acceptAuth 1 1 5,
    .sendText 1 1001]

theorem slots_used_once_two_sessions :
    NeverDecreases { keys := { keyFile := [3] } } twoSessions ∧
      (machine.run { keys := { keyFile := [3] } } twoSessions).SlotsOnce ∧
      (machine.run { keys := { keyFile := [3] } } twoSessions).ExhaustionReported :=
  slots_used_once (by
    refine ⟨trivial, ⟨by decide, by decide, by decide⟩, ⟨by decide, 0, by decide, by decide⟩,
      trivial, ⟨by decide, by decide, by decide⟩, ⟨by decide, 0, by decide, by decide⟩, trivial⟩)

def reselect : List Event :=
  [.acceptAuth 0 1 7, .sendText 0 1000, .acceptAuth 1 1 5]

def spendAll : List Event :=
  (List.range 256).flatMap (fun i => [.acceptAuth i 1 i, .mergePiece i])

theorem uses_run_merged (is : List Nat) (ledger : Ledger) (h : ∀ i ∈ is, i ≤ 255) :
    (machine.run ledger (is.flatMap (fun i => [.acceptAuth i 1 i, .mergePiece i]))).uses =
      ledger.uses ++ is.map (fun i => { slot := keySkip i, session := i }) := by
  induction is generalizing ledger with
  | nil => exact (List.append_nil _).symm
  | cons i is ih =>
    have hi : i ≤ 255 := h i List.mem_cons_self
    have hindex : (ledger.select i (.acceptAuth 1 i)).keys.keyIndex = i :=
      (keyIndex_handShake ledger.keys (.acceptAuth 1 i)).trans (if_pos hi)
    have hslot : (ledger.select i (.acceptAuth 1 i)).slot = keySkip i := by
      rw [Ledger.slot, hindex]
    rw [List.flatMap_cons, List.cons_append, List.cons_append, List.nil_append, Machine.run_cons,
      Machine.run_cons, ih _ (fun j hj => h j (List.mem_cons_of_mem i hj)), List.map_cons]
    change (ledger.uses ++ [{ slot := (ledger.select i (.acceptAuth 1 i)).slot, session := i }]) ++
      _ = _
    rw [hslot, List.append_assoc]
    rfl

theorem slots_reselected :
    ¬ NeverDecreases { keys := { keyFile := [0] } } reselect ∧
      ¬ (machine.run { keys := { keyFile := [0] } }
        (reselect ++ [.acceptAuth 2 1 7, .sendText 2 1001])).SlotsOnce ∧
      ¬ (machine.run { keys := { keyFile := [0] } } spendAll).ExhaustionReported := by
  refine ⟨fun h => ?_, by decide, fun h => ?_⟩
  · have hdecrease := h [.acceptAuth 0 1 7] [.sendText 0 1000, .acceptAuth 1 1 5] rfl
    revert hdecrease
    decide
  · have huses := uses_run_merged (List.range 256) { keys := { keyFile := [0] } }
      (fun i hi => Nat.le_of_lt_succ (List.mem_range.mp hi))
    have hreported := h (by
      rintro ⟨index, hindex, hunused⟩
      refine hunused { slot := keySkip index, session := index } ?_ rfl
      rw [spendAll, huses]
      exact List.mem_append_right _ (List.mem_map.mpr ⟨index, hindex, rfl⟩))
    rw [keyFileIsExhausted_eq_false] at hreported
    cases hreported

end SlotUse

end TorChat
