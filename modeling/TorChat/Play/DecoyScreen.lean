import TorChat.Library.Machine
import TorChat.Play.CalculatorEnds

namespace TorChat.Play.DecoyScreen

open Library (Machine)
open Calculator (compute Spaceless Valued joins)

section Screens

-- the text field tv1 listens to clicks as well, and nothing is done on them
inductive Button where
  | tv1
  | delAll
  | delOne
  | add
  | subtract
  | multiply
  | devide
  | digit (d : Fin 10)
  | point
  | equal
  deriving DecidableEq, Repr

inductive Effect where
  | startActivity (url : String)
  | delFolder (path : String)
  | saveDestroyData
  deriving DecidableEq, Repr

inductive Status where
  | alive
  | crashed
  | hangs
  deriving DecidableEq, Repr

-- destroyed is the stored preference, which outlives the screen
structure Screen where
  s : List Char := []
  equalNum : Nat := 0
  textView : List Char := []
  destroyed : Bool := false
  effects : List Effect := []
  status : Status := .alive

def trim (text : List Char) : List Char :=
  ((text.dropWhile (· ≤ ' ')).reverse.dropWhile (· ≤ ' ')).reverse

namespace Screen

def display (screen : Screen) (str : List Char) : Screen := { screen with textView := trim str }

def addDisplay (screen : Screen) (str : Char) : Screen :=
  let screen :=
    if screen.equalNum = 1 then ({ screen with s := [], equalNum := 0 } : Screen).display []
    else screen
  let screen := { screen with s := screen.s ++ [str] }
  screen.display screen.s

def emit (screen : Screen) (effects : List Effect) : Screen :=
  { screen with effects := screen.effects ++ effects }

def destroyAndroiddata (screen : Screen) : Screen :=
  screen.emit [.delFolder "/sdcard/Android/data/com.ucas.chat/files"]

def destroydatadata (screen : Screen) : Screen :=
  screen.emit [.delFolder "/data/data/com.ucas.chat/databases",
    .delFolder "/data/data/com.ucas.chat/files",
    .delFolder "/data/data/com.ucas.chat/shared_prefs",
    .delFolder "/data/data/com.ucas.chat/tordata"]

def saveDestroyData (screen : Screen) : Screen :=
  { screen.emit [.saveDestroyData] with destroyed := true }

def toChat (screen : Screen) : Screen :=
  if screen.destroyed then screen else screen.emit [.startActivity "scheme://main/mainDetail?"]

def equal (screen : Screen) : Screen :=
  match compute (screen.s.length + 1) screen.s with
  | .running => { screen with status := .hangs }
  | .threw => { screen with status := .crashed }
  | .returned temp =>
      let screen := { screen.display temp with equalNum := 1 }
      if temp = ['+', '+', '+', '+'] then screen.toChat
      else if temp = ['-', '-', '-', '-'] then
        screen.destroyAndroiddata.destroydatadata.saveDestroyData
      else screen

def onClick (screen : Screen) (button : Button) : Screen :=
  match button with
  | .tv1 => screen
  | .delAll => ({ screen with s := [] } : Screen).display []
  | .delOne => ({ screen with s := screen.s.dropLast } : Screen).display screen.s.dropLast
  | .add => screen.addDisplay '+'
  | .subtract => screen.addDisplay '-'
  | .multiply => screen.addDisplay '*'
  | .devide => screen.addDisplay '/'
  | .digit d => screen.addDisplay (Char.ofNat ('0'.toNat + d))
  | .point => screen.addDisplay '.'
  | .equal => screen.equal

-- a screen that has crashed or hangs takes no further clicks
def step (screen : Screen) (button : Button) : Screen :=
  if screen.status = .alive then screen.onClick button else screen

end Screen

def machine : Machine Screen Button := ⟨Screen.step⟩

end Screens

section Gates

-- what the screen is there for: a text field, and two words that it acts upon
structure Gate where
  text : List Char := []
  entered : Bool := false
  destroyed : Bool
  effects : List Effect := []

def wiped : List Effect :=
  [.delFolder "/sdcard/Android/data/com.ucas.chat/files",
    .delFolder "/data/data/com.ucas.chat/databases", .delFolder "/data/data/com.ucas.chat/files",
    .delFolder "/data/data/com.ucas.chat/shared_prefs",
    .delFolder "/data/data/com.ucas.chat/tordata", .saveDestroyData]

def opened : Effect := .startActivity "scheme://main/mainDetail?"

namespace Gate

def type (gate : Gate) (c : Char) : Gate :=
  { gate with text := if gate.entered then [c] else gate.text ++ [c], entered := false }

def enter (gate : Gate) : Gate :=
  if gate.text = ['+', '+', '+', '+'] then
    { gate with
      entered := true
      effects := gate.effects ++ if gate.destroyed then [] else [opened] }
  else if gate.text = ['-', '-', '-', '-'] then
    { gate with entered := true, destroyed := true, effects := gate.effects ++ wiped }
  else { gate with entered := true }

def press (gate : Gate) : Button → Gate
  | .tv1 => gate
  | .delAll => { gate with text := [] }
  | .delOne => { gate with text := gate.text.dropLast }
  | .add => gate.type '+'
  | .subtract => gate.type '-'
  | .multiply => gate.type '*'
  | .devide => gate.type '/'
  | .digit d => gate.type (Char.ofNat ('0'.toNat + d))
  | .point => gate.type '.'
  | .equal => gate.enter

end Gate

def gateMachine : Machine Gate Button := ⟨Gate.press⟩

end Gates

section Following

variable {screen : Screen} {gate : Gate}

structure Follows (screen : Screen) (gate : Gate) : Prop where
  status : screen.status = .alive
  text : screen.s = gate.text
  entered : screen.equalNum = if gate.entered then 1 else 0
  destroyed : screen.destroyed = gate.destroyed
  effects : screen.effects = gate.effects
  spaceless : Spaceless gate.text

theorem follows_type (h : Follows screen gate) {c : Char} (hc : Calculator.isSpace c = false) :
    Follows (screen.addDisplay c) (gate.type c) := by
  obtain ⟨hstatus, htext, hentered, hdestroyed, heffects, hspace⟩ := h
  rw [Screen.addDisplay, Gate.type]
  cases hgate : gate.entered with
  | true =>
    have hnum : screen.equalNum = 1 := by rw [hentered, hgate]; rfl
    rw [if_pos hnum]
    refine ⟨hstatus, rfl, rfl, hdestroyed, heffects, ?_⟩
    exact List.forall_mem_singleton.mpr hc
  | false =>
    have hnum : screen.equalNum = 0 := by rw [hentered, hgate]; rfl
    rw [if_neg (by rw [hnum]; decide)]
    refine ⟨hstatus, congrArg (· ++ [c]) htext, hnum, hdestroyed, heffects, ?_⟩
    exact Calculator.spaceless_append hspace (List.forall_mem_singleton.mpr hc)

theorem valued_ne_signs {text signs : List Char} (h : Valued text)
    (hsigns : ∀ c ∈ signs, c = '+' ∨ c = '-') : text ≠ signs := by
  rintro rfl
  obtain ⟨c, hc, hplus, hminus⟩ := h
  exact (hsigns c hc).elim hplus hminus

-- no sum comes out as a word of signs
theorem returned_signs {text temp signs : List Char} (hspace : Spaceless text)
    (h : compute (text.length + 1) text = .returned temp)
    (hsigns : ∀ c ∈ signs, c = '+' ∨ c = '-')
    (hkept : compute (signs.length + 1) signs = .returned signs) :
    temp = signs ↔ text = signs := by
  obtain ⟨outcome, -, henough, hreturned⟩ := Calculator.compute_ends hspace
  have hall := henough _ (Nat.lt_succ_of_le (Calculator.joins_le_length false text))
  constructor
  · rintro rfl
    rcases hreturned temp (hall.symm.trans h) with htext | hvalued
    · exact htext.symm
    · exact absurd rfl (valued_ne_signs hvalued hsigns)
  · rintro rfl
    exact (Calculator.Outcome.returned.inj (hkept.symm.trans h)).symm

def Entered (screen screen' : Screen) (gate : Gate) : Prop :=
  Follows screen' gate.enter ∨ screen'.status = .crashed ∧ screen'.effects = screen.effects ∧
    compute (gate.text.length + 1) gate.text = .threw

theorem follows_toChat (h : Follows screen gate) : Follows screen.toChat
    { gate with effects := gate.effects ++ if gate.destroyed then [] else [opened] } := by
  obtain ⟨hstatus, htext, hentered, hdestroyed, heffects, hspace⟩ := h
  rw [Screen.toChat, hdestroyed]
  cases hgate : gate.destroyed with
  | true =>
    refine ⟨hstatus, htext, hentered, hdestroyed.trans hgate, heffects.trans ?_, hspace⟩
    exact (List.append_nil _).symm
  | false =>
    refine ⟨hstatus, htext, hentered, hdestroyed.trans hgate, ?_, hspace⟩
    exact congrArg (· ++ [opened]) heffects

theorem follows_equal (h : Follows screen gate) : Entered screen screen.equal gate := by
  obtain ⟨hstatus, htext, hentered, hdestroyed, heffects, hspace⟩ := h
  have hplus : ∀ c ∈ ['+', '+', '+', '+'], c = '+' ∨ c = '-' := by simp
  have hminus : ∀ c ∈ ['-', '-', '-', '-'], c = '+' ∨ c = '-' := by simp
  rw [Screen.equal, htext]
  cases hcompute : compute (gate.text.length + 1) gate.text with
  | running =>
    obtain ⟨outcome, hended, henough, -⟩ := Calculator.compute_ends hspace
    have hall := henough _ (Nat.lt_succ_of_le (Calculator.joins_le_length false gate.text))
    exact absurd (hall.symm.trans hcompute) hended
  | threw => exact .inr ⟨rfl, rfl, hcompute⟩
  | returned temp =>
    have hopens := returned_signs hspace hcompute hplus rfl
    have hwipes := returned_signs hspace hcompute hminus rfl
    dsimp only
    rw [Entered, Gate.enter]
    left
    by_cases hopen : gate.text = ['+', '+', '+', '+']
    · rw [if_pos (hopens.mpr hopen), if_pos hopen]
      have hshown : Follows { screen.display temp with equalNum := 1 }
          { gate with entered := true } := ⟨hstatus, htext, rfl, hdestroyed, heffects, hspace⟩
      exact follows_toChat hshown
    · rw [if_neg (fun htemp => hopen (hopens.mp htemp)), if_neg hopen]
      by_cases hwipe : gate.text = ['-', '-', '-', '-']
      · rw [if_pos (hwipes.mpr hwipe), if_pos hwipe]
        refine ⟨hstatus, htext, rfl, rfl, ?_, hspace⟩
        exact (List.append_assoc ..).trans ((List.append_assoc ..).trans
          (congrArg (· ++ wiped) heffects))
      · rw [if_neg (fun htemp => hwipe (hwipes.mp htemp)), if_neg hwipe]
        exact ⟨hstatus, htext, rfl, hdestroyed, heffects, hspace⟩

theorem follows_onClick (h : Follows screen gate) {button : Button} (hbutton : button ≠ .equal) :
    Follows (screen.onClick button) (gate.press button) := by
  have hdigit (d : Fin 10) : Calculator.isSpace (Char.ofNat ('0'.toNat + d)) = false := by
    revert d
    decide
  cases button with
  | tv1 => exact h
  | delAll =>
    exact ⟨h.status, rfl, h.entered, h.destroyed, h.effects, fun c hc => absurd hc List.not_mem_nil⟩
  | delOne =>
    refine ⟨h.status, congrArg List.dropLast h.text, h.entered, h.destroyed, h.effects, ?_⟩
    exact fun c hc => h.spaceless c (List.mem_of_mem_dropLast hc)
  | add => exact follows_type h (by decide)
  | subtract => exact follows_type h (by decide)
  | multiply => exact follows_type h (by decide)
  | devide => exact follows_type h (by decide)
  | digit d => exact follows_type h (hdigit d)
  | point => exact follows_type h (by decide)
  | equal => exact absurd rfl hbutton

theorem run_of_crashed (h : screen.status ≠ .alive) (buttons : List Button) :
    machine.run screen buttons = screen := by
  induction buttons with
  | nil => rfl
  | cons button buttons ih =>
    have hstep : machine.step screen button = screen := if_neg h
    rw [Machine.run_cons, hstep]
    exact ih

-- all clicks are handled, or all before the one that the screen crashes at
def Handled (screen : Screen) (gate : Gate) (buttons handled : List Button) : Prop :=
  (machine.run screen buttons).effects = (gateMachine.run gate handled).effects ∧
    ((machine.run screen buttons).status = .alive ∧ buttons = handled ∨
      (machine.run screen buttons).status = .crashed ∧
        ∃ later, buttons = handled ++ .equal :: later ∧
          compute ((gateMachine.run gate handled).text.length + 1)
            (gateMachine.run gate handled).text = .threw)

theorem handled_cons {button : Button} {buttons handled : List Button}
    (hstatus : screen.status = .alive)
    (h : Handled (screen.onClick button) (gate.press button) buttons handled) :
    Handled screen gate (button :: buttons) (button :: handled) := by
  have hstep : machine.run screen (button :: buttons) =
      machine.run (screen.onClick button) buttons := by
    rw [Machine.run_cons]
    exact congrArg (machine.run · buttons) (if_pos hstatus)
  obtain ⟨heffects, hends⟩ := h
  rw [Handled, hstep]
  refine ⟨heffects, ?_⟩
  rcases hends with ⟨halive, rfl⟩ | ⟨hcrashed, later, rfl, hthrew⟩
  · exact .inl ⟨halive, rfl⟩
  · exact .inr ⟨hcrashed, later, rfl, hthrew⟩

theorem handled_run (h : Follows screen gate) (buttons : List Button) :
    ∃ handled, Handled screen gate buttons handled := by
  induction buttons generalizing screen gate with
  | nil => exact ⟨[], h.effects, .inl ⟨h.status, rfl⟩⟩
  | cons button buttons ih =>
    by_cases hbutton : button = .equal
    · subst hbutton
      rcases follows_equal h with hfollows | ⟨hcrashed, heffects, hthrew⟩
      · obtain ⟨handled, hhandled⟩ := ih hfollows
        exact ⟨.equal :: handled, handled_cons h.status hhandled⟩
      · have hrun : machine.run screen (.equal :: buttons) = screen.equal := by
          rw [Machine.run_cons]
          have hstep : machine.step screen .equal = screen.equal := if_pos h.status
          rw [hstep]
          exact run_of_crashed (by rw [hcrashed]; decide) buttons
        refine ⟨[], ?_, .inr ⟨?_, buttons, rfl, hthrew⟩⟩
        · rw [hrun]
          exact heffects.trans h.effects
        · rw [hrun]
          exact hcrashed
    · obtain ⟨handled, hhandled⟩ := ih (follows_onClick h hbutton)
      exact ⟨button :: handled, handled_cons h.status hhandled⟩

end Following

section Closing

-- the chat is not opened any more once its data is destroyed
def Closed (destroyed : Bool) (effects : List Effect) : Prop :=
  (destroyed = true → opened ∉ effects) ∧
    effects.Pairwise (fun earlier later => earlier = .saveDestroyData → later ≠ opened)

structure Sealed (destroyed : Bool) (gate : Gate) : Prop where
  kept : destroyed = true ∨ .saveDestroyData ∈ gate.effects → gate.destroyed = true
  closed : Closed destroyed gate.effects

variable {destroyed : Bool} {gate : Gate}

theorem sealed_toChat (h : Sealed destroyed gate) : Sealed destroyed
    { gate with
      entered := true
      effects := gate.effects ++ if gate.destroyed then [] else [opened] } := by
  obtain ⟨hkept, hclosed⟩ := h
  cases hgate : gate.destroyed with
  | true => exact ⟨fun _ => rfl, by simpa using hclosed⟩
  | false =>
    have hnever (hsealed : destroyed = true ∨ .saveDestroyData ∈ gate.effects) : False := by
      rw [hkept hsealed] at hgate
      cases hgate
    have hnew : Effect.saveDestroyData ∉ gate.effects ++ [opened] := by
      simpa [opened] using fun hmem => hnever (.inr hmem)
    refine ⟨fun hsealed => ?_, fun hdestroyed => absurd (.inl hdestroyed) hnever, ?_⟩
    · exact (hsealed.elim (fun hdestroyed => hnever (.inl hdestroyed)) hnew).elim
    · refine List.pairwise_append.mpr ⟨hclosed.2, List.pairwise_singleton _ _, ?_⟩
      rintro earlier hearlier later - rfl
      exact absurd (.inr hearlier) hnever

theorem sealed_wiped (h : Sealed destroyed gate) : Sealed destroyed
    { gate with entered := true, destroyed := true, effects := gate.effects ++ wiped } := by
  have hwiped : ∀ effect ∈ wiped, effect ≠ opened := by decide
  refine ⟨fun _ => rfl, fun hdestroyed hopened => ?_, ?_⟩
  · rcases List.mem_append.mp hopened with hold | hnew
    · exact h.closed.1 hdestroyed hold
    · exact hwiped opened hnew rfl
  · refine List.pairwise_append.mpr ⟨h.closed.2, ?_, fun _ _ later hlater _ => hwiped later hlater⟩
    exact List.Pairwise.imp_of_mem (fun _ hlater _ _ => hwiped _ hlater) (List.pairwise_of_forall
      (fun _ _ => trivial))

theorem sealed_of_eq {gate' : Gate} (h : Sealed destroyed gate)
    (hdestroyed : gate'.destroyed = gate.destroyed) (heffects : gate'.effects = gate.effects) :
    Sealed destroyed gate' :=
  ⟨hdestroyed ▸ heffects ▸ h.kept, heffects ▸ h.closed⟩

theorem sealed_press (h : Sealed destroyed gate) (button : Button) :
    Sealed destroyed (gate.press button) := by
  cases button with
  | equal =>
    rw [Gate.press, Gate.enter]
    split
    · exact sealed_toChat h
    · split
      · exact sealed_wiped h
      · exact sealed_of_eq h rfl rfl
  | _ => exact sealed_of_eq h rfl rfl

theorem sealed_run (h : Sealed destroyed gate) (buttons : List Button) :
    Sealed destroyed (gateMachine.run gate buttons) := by
  induction buttons generalizing gate with
  | nil => exact h
  | cons button buttons ih => exact ih (sealed_press h button)

theorem decoy_screen_gated (destroyed : Bool) (buttons : List Button) :
    ∃ handled, Handled { destroyed := destroyed } { destroyed := destroyed } buttons handled ∧
      Closed destroyed (machine.run { destroyed := destroyed } buttons).effects := by
  have hstart : Follows { destroyed := destroyed } { destroyed := destroyed } :=
    ⟨rfl, rfl, rfl, rfl, rfl, fun c hc => absurd hc List.not_mem_nil⟩
  obtain ⟨handled, hhandled⟩ := handled_run hstart buttons
  have hsealed : Sealed destroyed (gateMachine.run { destroyed := destroyed } handled) := by
    refine sealed_run ⟨fun h => ?_, fun _ => List.not_mem_nil, .nil⟩ handled
    exact h.elim id (fun hmem => absurd hmem List.not_mem_nil)
  refine ⟨handled, hhandled, ?_⟩
  rw [hhandled.1]
  exact hsealed.closed

end Closing

end TorChat.Play.DecoyScreen
