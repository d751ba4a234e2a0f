import Mathlib.Data.List.Infix
import TorChat.Library.Machine
import TorChat.Server.ConnectThread
import TorChat.Util.FileTask

namespace TorChat

open Library (Machine)

namespace StatusCheckerTransport

inductive Effect where
  | sendnewBroadcast (message : String)
  | setOnlineStatus (status : String)
  | newSocket
  | closeSocket
  | stopTor
  | startTor
  | reconnectFriends
  deriving DecidableEq, Repr

structure Checker where
  retryCount : Nat
  connectionStatus : Nat := 1
  rebootCount : Int := 0
  effects : List Effect := []
  deriving DecidableEq, Repr

namespace Checker

def emit (c : Checker) (effects : List Effect) : Checker :=
  { c with effects := c.effects ++ effects }

def alarmStatusChange (c : Checker) (status : Nat) : Checker :=
  if c.connectionStatus = 1 ∧ status = 1 then
    c.emit [.sendnewBroadcast "network connection succeeded"]
  else if status = 0 then
    ({ c with
      connectionStatus := 0
      rebootCount := FileTask.toInt (c.rebootCount + 1) } : Checker).emit [
        .sendnewBroadcast "network reconnection failed",
        .sendnewBroadcast "status changes to offline", .setOnlineStatus "0",
        .sendnewBroadcast "save status to local storage", .closeSocket,
        .sendnewBroadcast "close socket", .stopTor, .startTor,
        .sendnewBroadcast "restart tor service"]
  else
    ({ c with connectionStatus := 1 } : Checker).emit [
      .sendnewBroadcast "network reconnection succeeded",
      .sendnewBroadcast "status changes to online", .setOnlineStatus "1",
      .sendnewBroadcast "save status to local storage", .reconnectFriends]

def tag : String := "Chat_ServerMessageHandler StatusCheckerTransport connect::"

def attempt (c : Checker) (count : Nat) : Checker :=
  c.emit [.sendnewBroadcast (tag ++ " Try " ++ toString (count + 1) ++ " times socket connection"),
    .newSocket, .sendnewBroadcast (tag ++ "socket is connecting")]

def watch (c : Checker) : Checker :=
  c.emit [.sendnewBroadcast "regularly monitor network status"]

end Checker

-- the answers of the blocking calls in the order they are made: true when the call returns,
-- false when it throws; a thread whose answers are used up is still waiting in a call
def connect (c : Checker) (count : Nat) : List Bool → Checker × Option Nat × List Bool
  | [] => if count < c.retryCount then (c.attempt count, none, []) else (c, some 0, [])
  | [connected] =>
      if count < c.retryCount then
        if connected then ((c.attempt count).alarmStatusChange 1, some 1, [])
        else ((c.attempt count).alarmStatusChange 0, none, [])
      else (c, some 0, [connected])
  | connected :: paused :: answers =>
      if count < c.retryCount then
        if connected then ((c.attempt count).alarmStatusChange 1, some 1, paused :: answers)
        -- a pause that is interrupted is over as well
        else connect ((c.attempt count).alarmStatusChange 0) (count + 1) answers
      else (c, some 0, connected :: paused :: answers)

def checkLoop (c : Checker) : List Bool → Checker × Bool × List Bool
  | [] => (c.watch, true, [])
  | [sent] =>
      if sent then (c.watch.alarmStatusChange 1, true, [])
      else (c.watch.alarmStatusChange 0, false, [])
  | sent :: slept :: answers =>
      if sent then
        if slept then checkLoop (c.watch.alarmStatusChange 1) answers
        else ((c.watch.alarmStatusChange 1).alarmStatusChange 0, false, answers)
      else (c.watch.alarmStatusChange 0, false, slept :: answers)

def handle (c : Checker) (answers : List Bool) : Checker × Bool × List Bool :=
  match connect c 0 answers with
  | (c, none, answers) => (c, true, answers)
  | (c, some 0, answers) => (c, false, answers)
  | (c, some _, []) => (c, true, [])
  | (c, some _, timeoutSet :: answers) =>
      if timeoutSet then checkLoop c answers else (c.alarmStatusChange 0, false, answers)

-- whether the thread is left waiting in a call, and what it has done
def run : Nat → Checker → List Bool → Checker × Bool
  | 0, c, _ => (c, false)
  | fuel + 1, c, answers =>
      match handle c answers with
      | (c, true, _) => (c, true)
      | (c, false, answers) => run fuel c answers

section Flat

-- the calls the thread can be waiting in
inductive Call where
  | connect (count : Nat)
  | pause (count : Nat)
  | setSoTimeout
  | sendUrgentData
  | sleep

structure Waiting where
  checker : Checker
  call : Call

def enter (c : Checker) : Call → Waiting
  | .connect count => ⟨c.attempt count, .connect count⟩
  | .pause count => ⟨c, .pause count⟩
  | .setSoTimeout => ⟨c, .setSoTimeout⟩
  | .sendUrgentData => ⟨c.watch, .sendUrgentData⟩
  | .sleep => ⟨c, .sleep⟩

def retry (retryCount count : Nat) : Call :=
  if count + 1 < retryCount then .connect (count + 1) else .connect 0

def answer (w : Waiting) (returns : Bool) : Waiting :=
  match w.call, returns with
  | .connect _, true => enter (w.checker.alarmStatusChange 1) .setSoTimeout
  | .connect count, false => enter (w.checker.alarmStatusChange 0) (.pause count)
  | .pause count, _ => enter w.checker (retry w.checker.retryCount count)
  | .setSoTimeout, true => enter w.checker .sendUrgentData
  | .sendUrgentData, true => enter (w.checker.alarmStatusChange 1) .sleep
  | .sleep, true => enter w.checker .sendUrgentData
  | _, false => enter (w.checker.alarmStatusChange 0) (.connect 0)

def machine : Machine Waiting Bool := ⟨answer⟩

end Flat

section Refinement

variable {c : Checker} {answers : List Bool}

@[simp] theorem retryCount_alarmStatusChange (c : Checker) (status : Nat) :
    (c.alarmStatusChange status).retryCount = c.retryCount := by
  rw [Checker.alarmStatusChange]
  split
  · rfl
  · split
    · rfl
    · rfl

@[simp] theorem retryCount_attempt (c : Checker) (count : Nat) :
    (c.attempt count).retryCount = c.retryCount := rfl

@[simp] theorem retryCount_watch (c : Checker) : c.watch.retryCount = c.retryCount := rfl

@[simp] theorem retryCount_enter (c : Checker) (call : Call) :
    (enter c call).checker.retryCount = c.retryCount := by
  cases call <;> rfl

-- a loop either leaves the thread where the answers leave it, or hands the rest to a new handle
def Ends (w : Waiting) (answers : List Bool) : Checker × Bool × List Bool → Prop
  | (c', true, _) => (machine.run w answers).checker = c'
  | (c', false, rest) => c'.retryCount = w.checker.retryCount ∧ rest.length < answers.length ∧
      machine.run w answers = machine.run (enter c' (.connect 0)) rest

def Connects (w : Waiting) (answers : List Bool) : Checker × Option Nat × List Bool → Prop
  | (c', none, _) => (machine.run w answers).checker = c'
  | (c', some status, rest) => c'.retryCount = w.checker.retryCount ∧
      rest.length < answers.length ∧ machine.run w answers =
        machine.run (enter c' (if status = 0 then .connect 0 else .setSoTimeout)) rest

theorem ends_of_run {w w' : Waiting} {answers' : List Bool} {out : Checker × Bool × List Bool}
    (hrun : machine.run w answers = machine.run w' answers')
    (hretry : w'.checker.retryCount = w.checker.retryCount)
    (hlength : answers'.length ≤ answers.length) (h : Ends w' answers' out) :
    Ends w answers out := by
  obtain ⟨c', waits, rest⟩ := out
  cases waits with
  | false =>
    obtain ⟨hretry', hlength', hrun'⟩ := h
    exact ⟨hretry'.trans hretry, hlength'.trans_le hlength, hrun.trans hrun'⟩
  | true => exact (congrArg Waiting.checker hrun).trans h

theorem ends_checkLoop (c : Checker) (answers : List Bool) :
    Ends (enter c .sendUrgentData) answers (checkLoop c answers) := by
  fun_induction checkLoop c answers with
  | case1 c => rfl
  | case2 c => rfl
  | case3 c sent hsent =>
    obtain rfl := Bool.eq_false_of_not_eq_true hsent
    exact ⟨by simp, Nat.zero_lt_one, rfl⟩
  | case4 c answers ih =>
    have hrun : machine.run (enter c .sendUrgentData) (true :: true :: answers) =
        machine.run (enter (c.watch.alarmStatusChange 1) .sendUrgentData) answers := rfl
    exact ends_of_run hrun (by simp) ((Nat.le_succ _).trans (Nat.le_succ _)) ih
  | case5 c slept answers hslept =>
    obtain rfl := Bool.eq_false_of_not_eq_true hslept
    exact ⟨by simp, (Nat.lt_succ_self _).trans (Nat.lt_succ_self _), rfl⟩
  | case6 c sent slept answers hsent =>
    obtain rfl := Bool.eq_false_of_not_eq_true hsent
    exact ⟨by simp, Nat.lt_succ_self _, rfl⟩

theorem connects_of_run {w w' : Waiting} {answers' : List Bool}
    {out : Checker × Option Nat × List Bool}
    (hrun : machine.run w answers = machine.run w' answers')
    (hretry : w'.checker.retryCount = w.checker.retryCount)
    (hlength : answers'.length ≤ answers.length) (h : Connects w' answers' out) :
    Connects w answers out := by
  obtain ⟨c', status, rest⟩ := out
  cases status with
  | none => exact (congrArg Waiting.checker hrun).trans h
  | some status =>
    obtain ⟨hretry', hlength', hrun'⟩ := h
    exact ⟨hretry'.trans hretry, hlength'.trans_le hlength, hrun.trans hrun'⟩

-- a failed attempt and the pause after it leave one attempt less
theorem run_failed_attempt (c : Checker) (count : Nat) (paused : Bool) (answers : List Bool) :
    machine.run (enter c (.connect count)) (false :: paused :: answers) =
      machine.run (enter ((c.attempt count).alarmStatusChange 0) (retry c.retryCount count))
        answers := by
  have hpaused : machine.step (machine.step (enter c (.connect count)) false) paused =
      enter ((c.attempt count).alarmStatusChange 0)
        (retry ((c.attempt count).alarmStatusChange 0).retryCount count) := by
    cases paused <;> rfl
  rw [Machine.run_cons, Machine.run_cons, hpaused, retryCount_alarmStatusChange,
    retryCount_attempt]

theorem connects_connect (c : Checker) (count : Nat) (answers : List Bool)
    (hcount : count < c.retryCount) :
    Connects (enter c (.connect count)) answers (connect c count answers) := by
  fun_induction connect c count answers with
  | case1 c count => rfl
  | case2 c count hover => exact absurd hcount hover
  | case3 c count => exact ⟨by simp, Nat.zero_lt_one, rfl⟩
  | case4 c count connected hcount hconnected =>
    obtain rfl := Bool.eq_false_of_not_eq_true hconnected
    rfl
  | case5 c count connected hover => exact absurd hcount hover
  | case6 c count paused answers => exact ⟨by simp, Nat.lt_succ_self _, rfl⟩
  | case7 c count connected paused answers hcount hconnected ih =>
    obtain rfl := Bool.eq_false_of_not_eq_true hconnected
    have hrun := run_failed_attempt c count paused answers
    by_cases hnext : count + 1 < c.retryCount
    · rw [retry, if_pos hnext] at hrun
      exact connects_of_run hrun (by simp) ((Nat.le_succ _).trans (Nat.le_succ _))
        (ih (by simpa using hnext))
    · rw [retry, if_neg hnext] at hrun
      have hover : connect ((c.attempt count).alarmStatusChange 0) (count + 1) answers =
          ((c.attempt count).alarmStatusChange 0, some 0, answers) := by
        rw [connect.eq_def]
        split
        · rw [if_neg (by simpa using hnext)]
        · rw [if_neg (by simpa using hnext)]
        · rw [if_neg (by simpa using hnext)]
      rw [hover]
      exact ⟨by simp, (Nat.lt_succ_self _).trans (Nat.lt_succ_self _), hrun⟩
  | case8 c count connected paused answers hover => exact absurd hcount hover

theorem ends_handle (c : Checker) (answers : List Bool) (hretry : 0 < c.retryCount) :
    Ends (enter c (.connect 0)) answers (handle c answers) := by
  have hconnect := connects_connect c 0 answers hretry
  rw [handle]
  split
  · rename_i c' rest heq
    rw [heq] at hconnect
    exact hconnect
  · rename_i c' rest heq
    rw [heq] at hconnect
    obtain ⟨hretry', hlength, hrun⟩ := hconnect
    exact ⟨hretry', hlength, hrun⟩
  · rename_i c' status hstatus heq
    rw [heq] at hconnect
    obtain ⟨-, -, hrun⟩ := hconnect
    rw [if_neg hstatus] at hrun
    exact congrArg Waiting.checker hrun
  · rename_i c' status timeoutSet rest hstatus heq
    rw [heq] at hconnect
    obtain ⟨hretry', hlength, hrun⟩ := hconnect
    rw [if_neg hstatus] at hrun
    have hshorter : rest.length < answers.length := (Nat.lt_succ_self _).trans hlength
    cases timeoutSet with
    | true =>
      have hset : machine.run (enter c (.connect 0)) answers =
          machine.run (enter c' .sendUrgentData) rest := hrun
      exact ends_of_run hset (by simpa using hretry') hshorter.le (ends_checkLoop c' rest)
    | false => exact ⟨by simpa using hretry', hshorter, hrun⟩

-- the nested loops of the thread, and the calls it waits in one after the other
theorem run_refines {fuel : Nat} (hretry : 0 < c.retryCount) (hfuel : answers.length < fuel) :
    run fuel c answers = ((machine.run (enter c (.connect 0)) answers).checker, true) := by
  induction fuel generalizing c answers with
  | zero => exact absurd hfuel (Nat.not_lt_zero _)
  | succ fuel ih =>
    have hends := ends_handle c answers hretry
    rw [run]
    split
    · rename_i c' rest heq
      rw [heq] at hends
      rw [show (machine.run (enter c (.connect 0)) answers).checker = c' from hends]
    · rename_i c' rest heq
      rw [heq] at hends
      obtain ⟨hretry', hlength, hrun⟩ := hends
      rw [retryCount_enter] at hretry'
      rw [ih (by rw [hretry']; exact hretry) (by omega), hrun]

end Refinement

section Edges

def Effect.lasting : Effect → Bool
  | .sendnewBroadcast _ => false
  | _ => true

def lasting (effects : List Effect) : List Effect := effects.filter Effect.lasting

-- what the thread waits for, and before an attempt whether the network counts as there
inductive Phase where
  | connecting (online : Bool)
  | paused
  | watching
  deriving DecidableEq

namespace Phase

def next : Phase → Bool → Phase
  | .connecting _, true => .watching
  | .connecting _, false => .paused
  | .paused, _ => .connecting false
  | .watching, true => .watching
  | .watching, false => .connecting false

def online : Phase → Bool
  | .connecting online => online
  | .paused => false
  | .watching => true

-- after a failed attempt the next socket is opened when the pause is over
def edge : Phase → Bool → List Effect
  | .connecting true, true => []
  | .connecting false, true => [.setOnlineStatus "1", .reconnectFriends]
  | .connecting _, false => [.setOnlineStatus "0", .closeSocket, .stopTor, .startTor]
  | .paused, _ => [.newSocket]
  | .watching, true => []
  | .watching, false => [.setOnlineStatus "0", .closeSocket, .stopTor, .startTor, .newSocket]

-- how a pause ends tells nothing of the network
def hears : Phase → Bool → List Bool
  | .paused, _ => []
  | _, returns => [returns]

-- the sockets closed and not yet followed by another
def owed : Phase → Nat
  | .paused => 1
  | _ => 0

end Phase

-- what a network that goes and comes back sets off, whichever call finds it out
def edges : Phase → List Bool → List Effect
  | _, [] => []
  | phase, returns :: answers => phase.edge returns ++ edges (phase.next returns) answers

def heard : Phase → List Bool → List Bool
  | _, [] => []
  | phase, returns :: answers => phase.hears returns ++ heard (phase.next returns) answers

def OneSocket (effects : List Effect) : Prop :=
  ∀ pre, pre <+: effects → pre.count .closeSocket ≤ pre.count .newSocket ∧
    pre.count .newSocket ≤ pre.count .closeSocket + 1

structure Detects (answers : List Bool) (out : Checker × Bool) : Prop where
  waits : out.2 = true
  effects : lasting out.1.effects = .newSocket :: edges (.connecting true) answers
  rebootCount : out.1.rebootCount =
    FileTask.toInt ((heard (.connecting true) answers).count false)
  connectionStatus : out.1.connectionStatus =
    if (heard (.connecting true) answers).getLast? = some false then 0 else 1
  oneSocket : OneSocket out.1.effects

def Call.phase (online : Bool) : Call → Phase
  | .connect _ => .connecting online
  | .pause _ => .paused
  | .setSoTimeout => .watching
  | .sendUrgentData => .watching
  | .sleep => .watching

structure InPhase (phase : Phase) (w : Waiting) : Prop where
  connectionStatus : w.checker.connectionStatus = if phase.online then 1 else 0
  call : w.call.phase phase.online = phase

theorem lasting_emit (c : Checker) (effects : List Effect) :
    lasting (c.emit effects).effects = lasting c.effects ++ lasting effects :=
  List.filter_append ..

theorem lasting_enter (c : Checker) (call : Call) :
    lasting (enter c call).checker.effects = lasting c.effects ++
      match call with
      | .connect _ => [.newSocket]
      | _ => [] := by
  cases call with
  | connect count => exact lasting_emit c _
  | pause count => exact (List.append_nil _).symm
  | setSoTimeout => exact (List.append_nil _).symm
  | sendUrgentData => exact lasting_emit c _
  | sleep => exact (List.append_nil _).symm

theorem lasting_alarm_zero (c : Checker) :
    lasting (c.alarmStatusChange 0).effects =
      lasting c.effects ++ [.setOnlineStatus "0", .closeSocket, .stopTor, .startTor] := by
  rw [Checker.alarmStatusChange, if_neg (by omega), if_pos rfl]
  exact lasting_emit _ _

theorem lasting_alarm_one {online : Bool} {c : Checker}
    (h : c.connectionStatus = if online then 1 else 0) :
    lasting (c.alarmStatusChange 1).effects =
      lasting c.effects ++ (Phase.connecting online).edge true := by
  rw [Checker.alarmStatusChange, h]
  cases online with
  | true => exact lasting_emit c _
  | false => exact lasting_emit _ _

theorem alarm_zero (c : Checker) : (c.alarmStatusChange 0).connectionStatus = 0 ∧
    (c.alarmStatusChange 0).rebootCount = FileTask.toInt (c.rebootCount + 1) := by
  rw [Checker.alarmStatusChange, if_neg (by omega), if_pos rfl]
  exact ⟨rfl, rfl⟩

theorem alarm_one (c : Checker) : (c.alarmStatusChange 1).connectionStatus = 1 ∧
    (c.alarmStatusChange 1).rebootCount = c.rebootCount := by
  rw [Checker.alarmStatusChange]
  split
  · rename_i h
    exact ⟨h.1, rfl⟩
  · exact ⟨rfl, rfl⟩

def Counts (c c' : Checker) (outcomes : List Bool) : Prop :=
  ∀ reboots : Nat, c.rebootCount = FileTask.toInt reboots →
    c'.rebootCount = FileTask.toInt (reboots + outcomes.count false : Nat)

theorem counts_of_eq {c c' : Checker} {outcomes : List Bool} (h : c'.rebootCount = c.rebootCount)
    (hnone : outcomes.count false = 0) : Counts c c' outcomes := by
  intro reboots hreboots
  rw [h, hnone]
  exact hreboots

theorem counts_alarm_zero {c c' : Checker}
    (h : c'.rebootCount = (c.alarmStatusChange 0).rebootCount) : Counts c c' [false] := by
  intro reboots hreboots
  rw [h, (alarm_zero c).2, hreboots, FileTask.toInt, FileTask.toInt, Int.bmod_add_bmod]
  rfl

theorem counts_trans {c c' c'' : Checker} {outcomes outcomes' : List Bool}
    (h : Counts c c' outcomes) (h' : Counts c' c'' outcomes') :
    Counts c c'' (outcomes ++ outcomes') := by
  intro reboots hreboots
  have hboth := h' _ (h reboots hreboots)
  rw [Nat.add_assoc, ← List.count_append] at hboth
  exact hboth

structure Answered (phase : Phase) (returns : Bool) (w w' : Waiting) : Prop where
  effects : lasting w'.checker.effects = lasting w.checker.effects ++ phase.edge returns
  counts : Counts w.checker w'.checker (phase.hears returns)
  phase : InPhase (phase.next returns) w'

theorem answered_connect {online : Bool} {c : Checker} (count : Nat)
    (hstatus : c.connectionStatus = if online then 1 else 0) (returns : Bool) :
    Answered (.connecting online) returns ⟨c, .connect count⟩
      (answer ⟨c, .connect count⟩ returns) := by
  cases returns with
  | true =>
    refine ⟨lasting_alarm_one hstatus, counts_of_eq (alarm_one c).2 rfl, ⟨?_, rfl⟩⟩
    exact (alarm_one c).1
  | false =>
    refine ⟨?_, counts_alarm_zero rfl, ⟨(alarm_zero c).1, rfl⟩⟩
    cases online <;> exact lasting_alarm_zero c

theorem answered_pause {c : Checker} (count : Nat) (hstatus : c.connectionStatus = 0)
    (returns : Bool) :
    Answered .paused returns ⟨c, .pause count⟩ (answer ⟨c, .pause count⟩ returns) := by
  have hnext : ∃ next, answer ⟨c, .pause count⟩ returns = enter c (.connect next) := by
    by_cases hmore : count + 1 < c.retryCount
    · refine ⟨count + 1, ?_⟩
      cases returns <;> exact congrArg (enter c) (if_pos hmore)
    · refine ⟨0, ?_⟩
      cases returns <;> exact congrArg (enter c) (if_neg hmore)
  obtain ⟨next, hnext⟩ := hnext
  rw [hnext]
  exact ⟨lasting_enter c _, counts_of_eq rfl rfl, ⟨hstatus, rfl⟩⟩

theorem answered_watching {w : Waiting} (h : InPhase .watching w) (returns : Bool) :
    Answered .watching returns w (answer w returns) := by
  obtain ⟨c, call⟩ := w
  have hstatus : c.connectionStatus = if true then 1 else 0 := h.connectionStatus
  cases returns with
  | true =>
    cases call with
    | connect count => exact Phase.noConfusion h.call
    | pause count => exact Phase.noConfusion h.call
    | setSoTimeout => exact ⟨lasting_enter c _, counts_of_eq rfl rfl, ⟨hstatus, rfl⟩⟩
    | sendUrgentData =>
      exact ⟨lasting_alarm_one hstatus, counts_of_eq (alarm_one c).2 rfl, ⟨(alarm_one c).1, rfl⟩⟩
    | sleep => exact ⟨lasting_enter c _, counts_of_eq rfl rfl, ⟨hstatus, rfl⟩⟩
  | false =>
    have hover : answer ⟨c, call⟩ false = enter (c.alarmStatusChange 0) (.connect 0) := by
      cases call with
      | connect count => exact Phase.noConfusion h.call
      | pause count => exact Phase.noConfusion h.call
      | setSoTimeout => rfl
      | sendUrgentData => rfl
      | sleep => rfl
    rw [hover]
    refine ⟨?_, counts_alarm_zero rfl, ⟨(alarm_zero c).1, rfl⟩⟩
    rw [lasting_enter, lasting_alarm_zero, List.append_assoc]
    rfl

theorem answered_answer {phase : Phase} {w : Waiting} (h : InPhase phase w) (returns : Bool) :
    Answered phase returns w (answer w returns) := by
  cases phase with
  | connecting online =>
    obtain ⟨c, call⟩ := w
    cases call with
    | connect count => exact answered_connect count h.connectionStatus returns
    | _ => exact Phase.noConfusion h.call
  | paused =>
    obtain ⟨c, call⟩ := w
    cases call with
    | pause count => exact answered_pause count h.connectionStatus returns
    | _ => exact Phase.noConfusion h.call
  | watching => exact answered_watching h returns

def Phase.after (phase : Phase) (answers : List Bool) : Phase := answers.foldl Phase.next phase

theorem answered_run {phase : Phase} {w : Waiting} (h : InPhase phase w) (answers : List Bool) :
    lasting (machine.run w answers).checker.effects =
        lasting w.checker.effects ++ edges phase answers ∧
      Counts w.checker (machine.run w answers).checker (heard phase answers) ∧
      InPhase (phase.after answers) (machine.run w answers) := by
  induction answers generalizing phase w with
  | nil => exact ⟨(List.append_nil _).symm, counts_of_eq rfl rfl, h⟩
  | cons returns answers ih =>
    obtain ⟨heffects, hcounts, hphase⟩ := answered_answer h returns
    obtain ⟨hrun, hcounted, hlast⟩ := ih hphase
    refine ⟨?_, counts_trans hcounts hcounted, hlast⟩
    rw [edges, ← List.append_assoc, ← heffects]
    exact hrun

-- the network counts as there exactly when the last outcome that tells of it says so
theorem online_after (phase : Phase) (answers : List Bool) :
    (phase.after answers).online = ((heard phase answers).getLast?).getD phase.online := by
  induction answers generalizing phase with
  | nil => rfl
  | cons returns answers ih =>
    have hheard : (phase.next returns).online =
        ((phase.hears returns).getLast?).getD phase.online := by
      cases phase <;> cases returns <;> rfl
    rw [Phase.after, List.foldl_cons, ← Phase.after, ih, hheard, heard, List.getLast?_append]
    cases (heard (phase.next returns) answers).getLast? <;> rfl

theorem prefix_append_cases {pre front rest : List Effect} (h : pre <+: front ++ rest) :
    pre <+: front ∨ ∃ pre', pre = front ++ pre' ∧ pre' <+: rest := by
  rcases List.prefix_or_prefix_of_prefix h (List.prefix_append front rest) with hpre | ⟨pre', rfl⟩
  · exact .inl hpre
  · exact .inr ⟨pre', rfl, (List.prefix_append_right_inj front).mp h⟩

def Balanced (owed : Nat) (effects : List Effect) : Prop :=
  effects.count .newSocket ≤ effects.count .closeSocket + owed ∧
    effects.count .closeSocket + owed ≤ effects.count .newSocket + 1

theorem balanced_edge (phase : Phase) (returns : Bool) :
    (∀ pre ∈ (phase.edge returns).inits, Balanced phase.owed pre) ∧
      (phase.edge returns).count .newSocket + (phase.next returns).owed =
        (phase.edge returns).count .closeSocket + phase.owed := by
  unfold Balanced
  cases phase with
  | connecting online => cases online <;> cases returns <;> decide
  | paused => cases returns <;> decide
  | watching => cases returns <;> decide

-- every socket is closed before the next one is opened
theorem balanced_edges (phase : Phase) (answers : List Bool) {pre : List Effect}
    (h : pre <+: edges phase answers) : Balanced phase.owed pre := by
  induction answers generalizing phase pre with
  | nil =>
    rw [List.prefix_nil.mp h]
    exact (balanced_edge phase true).1 [] ((List.mem_inits _ _).mpr List.nil_prefix)
  | cons returns answers ih =>
    obtain ⟨hinits, hclosed⟩ := balanced_edge phase returns
    rcases prefix_append_cases h with hfront | ⟨pre', rfl, hrest⟩
    · exact hinits pre ((List.mem_inits _ _).mpr hfront)
    · obtain ⟨hfew, hmany⟩ := ih (phase.next returns) hrest
      rw [Balanced, List.count_append, List.count_append]
      omega

theorem oneSocket_of_lasting {answers : List Bool} {effects : List Effect} {online : Bool}
    (h : lasting effects = .newSocket :: edges (.connecting online) answers) :
    OneSocket effects := by
  intro pre hpre
  have hlasting : lasting pre <+: .newSocket :: edges (.connecting online) answers := by
    rw [← h]
    exact hpre.filter _
  have hopened : (lasting pre).count .newSocket = pre.count .newSocket := List.count_filter rfl
  have hclosed : (lasting pre).count .closeSocket = pre.count .closeSocket := List.count_filter rfl
  rw [← hopened, ← hclosed]
  rcases List.prefix_cons_iff.mp hlasting with hnil | ⟨rest, hrest, hbalanced⟩
  · rw [hnil]
    decide
  · obtain ⟨hfew, hmany⟩ := balanced_edges _ answers hbalanced
    rw [hrest, List.count_cons_self, List.count_cons_of_ne (by decide)]
    exact ⟨hmany, Nat.succ_le_succ hfew⟩

theorem checker_detects_edges {retryCount fuel : Nat} {answers : List Bool}
    (hretry : 0 < retryCount) (hfuel : answers.length < fuel) :
    Detects answers (run fuel { retryCount := retryCount } answers) := by
  have hstart : InPhase (.connecting true) (enter { retryCount := retryCount } (.connect 0)) :=
    ⟨rfl, rfl⟩
  obtain ⟨heffects, hcounts, hphase⟩ := answered_run hstart answers
  rw [run_refines hretry hfuel]
  refine ⟨rfl, heffects, ?_, ?_, oneSocket_of_lasting heffects⟩
  · rw [hcounts 0 rfl, Nat.zero_add]
  · rw [hphase.connectionStatus, online_after]
    cases hlast : (heard (.connecting true) answers).getLast? with
    | none => rfl
    | some returns => cases returns <;> rfl

-- two attempts fail, and the second pause is interrupted
theorem checker_detects_edges_outage :
    let answers := [true, true, true, false, false, true, false, false, true]
    Detects answers (run 10 { retryCount := 3 } answers) := by
  have hretry : 0 < 3 := by decide
  have hfuel : [true, true, true, false, false, true, false, false, true].length < 10 := by decide
  exact checker_detects_edges hretry hfuel

end Edges

end StatusCheckerTransport

end TorChat
