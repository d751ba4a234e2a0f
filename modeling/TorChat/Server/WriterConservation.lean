import TorChat.Server.Step

namespace TorChat

open Library (Bytes Machine)

structure SendItem where
  onionName : String
  socket : Option Nat
  data : Option Cell
  type : Nat
  purpose : Nat
  rawMessage : String := ""
  deriving DecidableEq, Repr

namespace SendItem

def ofMessageItem (item : MessageItem (Option Cell)) : SendItem where
  onionName := item.onionName
  socket := some item.socket
  data := item.data
  type := item.type
  purpose := item.purpose
  rawMessage := item.rawMessage

def isData (item : SendItem) : Bool := decide (item.type ≠ 0)

def isText (item : SendItem) : Bool :=
  item.isData && decide (item.purpose = Constant.socketPurposeText)

def failed (item : SendItem) : FailedTextMessage where
  onionName := item.onionName
  rawMessage := item.rawMessage

def wire (item : SendItem) : Option (Nat × Cell) :=
  item.socket.bind (fun socket => item.data.map (fun cell => (socket, cell)))

end SendItem

inductive WriteOutcome where
  | success
  | socketException
  | otherException
  deriving DecidableEq, Repr

structure Writer where
  sendQueue : List SendItem
  failedQueue : List FailedTextMessage := []
  conns : Connections := {}
  sockets : List Nat := []
  written : List (Nat × Cell) := []

namespace Writer

inductive Event where
  | put (item : SendItem)
  | turn (outcome : WriteOutcome)
  deriving DecidableEq, Repr

def failText (w : Writer) (item : SendItem) : Writer :=
  if item.purpose = Constant.socketPurposeText then
    { w with failedQueue := w.failedQueue ++ [item.failed] }
  else w

def failSocket (w : Writer) (onionName : String) (socket : Nat) : Writer :=
  if socket ∈ w.sockets then
    if w.sockets.length % 10 = 0 then { w with sockets := [] } else w
  else
    { w with
      sockets := w.sockets ++ [socket], conns := w.conns.deleteConnection onionName socket }

def reput (w : Writer) (item : SendItem) : Writer :=
  if item.type = 0 then w
  else
    match item.socket with
    | none => w.failText item
    | some socket => (w.failText item).failSocket item.onionName socket

-- a missing socket and missing data are NullPointerExceptions, caught with the other exceptions
def process (w : Writer) (item : SendItem) (outcome : WriteOutcome) : Writer :=
  match item.wire, outcome with
  | some cell, .success => { w with written := w.written ++ [cell] }
  | _, _ => w.reput item

def step (w : Writer) : Event → Writer
  | .put item => { w with sendQueue := w.sendQueue ++ [item] }
  | .turn outcome =>
      match w.sendQueue with
      | [] => w
      | item :: rest => process { w with sendQueue := rest } item outcome

def machine : Machine Writer Event := ⟨step⟩

def puts (events : List Event) : List SendItem :=
  events.filterMap (fun e => match e with
    | .put item => some item
    | .turn _ => none)

-- the items polled from the queue, each with the outcome of its turn
def polled : List SendItem → List Event → List (SendItem × WriteOutcome)
  | _, [] => []
  | queue, .put item :: events => polled (queue ++ [item]) events
  | [], .turn _ :: events => polled [] events
  | item :: rest, .turn outcome :: events => (item, outcome) :: polled rest events

-- what a turn puts on its socket, or none where it fails
def delivered (turn : SendItem × WriteOutcome) : Option (Nat × Cell) :=
  if turn.2 = .success then turn.1.wire else none

def failedText (turn : SendItem × WriteOutcome) : Option FailedTextMessage :=
  if (delivered turn).isNone ∧ turn.1.isText = true then some turn.1.failed else none

structure FailedOn (socket : Nat) (turn : SendItem × WriteOutcome) : Prop where
  undelivered : delivered turn = none
  data : turn.1.isData = true
  on : turn.1.socket = some socket

-- the next turn deletes the connection at the first failure on its socket, and no other connection
structure Deletes (w : Writer) (turns : List (SendItem × WriteOutcome)) : Prop where
  first : ∀ outcome item rest socket, w.sendQueue = item :: rest →
    FailedOn socket (item, outcome) → (∀ turn ∈ turns, ¬ FailedOn socket turn) →
    (w.step (.turn outcome)).conns = w.conns.deleteConnection item.onionName socket
  only : ∀ outcome, (w.step (.turn outcome)).conns = w.conns ∨
    ∃ item rest socket, w.sendQueue = item :: rest ∧ FailedOn socket (item, outcome) ∧
      (w.step (.turn outcome)).conns = w.conns.deleteConnection item.onionName socket

-- what becomes of the item of a turn
structure Turns (turn : SendItem × WriteOutcome) (w w' : Writer) : Prop where
  sendQueue : w'.sendQueue = w.sendQueue
  written : w'.written = w.written ++ (delivered turn).toList
  failedQueue : w'.failedQueue = w.failedQueue ++ (failedText turn).toList
  sockets : ∀ socket ∈ w'.sockets, socket ∈ w.sockets ∨ FailedOn socket turn
  conns : w'.conns = w.conns ∨ ∃ socket, FailedOn socket turn ∧
    w'.conns = w.conns.deleteConnection turn.1.onionName socket
  deletion : ∀ socket, FailedOn socket turn → socket ∉ w.sockets →
    w'.conns = w.conns.deleteConnection turn.1.onionName socket

variable {w : Writer} {item : SendItem} {outcome : WriteOutcome}

theorem failText_eq (w : Writer) (h : item.isData = true) : w.failText item =
    { w with failedQueue := w.failedQueue ++ if item.isText then [item.failed] else [] } := by
  rw [failText, SendItem.isText, h, Bool.true_and]
  by_cases hpurpose : item.purpose = Constant.socketPurposeText
  · rw [if_pos hpurpose, if_pos (decide_eq_true hpurpose)]
  · rw [if_neg hpurpose, if_neg (by simpa using hpurpose), List.append_nil]

theorem failedText_undelivered (h : delivered (item, outcome) = none) :
    (failedText (item, outcome)).toList = if item.isText then [item.failed] else [] := by
  rw [failedText, h]
  cases item.isText <;> rfl

theorem turns_handShake (h : delivered (item, outcome) = none) (htype : item.type = 0) :
    Turns (item, outcome) w w := by
  have hdata : item.isData = false := decide_eq_false (fun hne => hne htype)
  refine ⟨rfl, ?_, ?_, fun _ hmem => .inl hmem, .inl rfl, fun socket hfailed => ?_⟩
  · rw [h, Option.toList_none, List.append_nil]
  · rw [failedText_undelivered h, SendItem.isText, hdata, Bool.false_and,
      if_neg Bool.false_ne_true, List.append_nil]
  · have hsome := hfailed.data
    rw [hdata] at hsome
    cases hsome

theorem turns_failText (w : Writer) (h : delivered (item, outcome) = none)
    (hdata : item.isData = true) (hsocket : item.socket = none) :
    Turns (item, outcome) w (w.failText item) := by
  have hnone : ∀ socket, ¬ FailedOn socket (item, outcome) := by
    intro socket hon
    have hsome := hon.on
    rw [hsocket] at hsome
    cases hsome
  rw [failText_eq w hdata]
  refine ⟨rfl, ?_, ?_, fun _ hmem => .inl hmem, .inl rfl,
    fun socket hon => absurd hon (hnone socket)⟩
  · rw [h, Option.toList_none, List.append_nil]
  · rw [failedText_undelivered h]

theorem turns_failSocket (w : Writer) {socket : Nat} (h : delivered (item, outcome) = none)
    (hdata : item.isData = true) (hsocket : item.socket = some socket) :
    Turns (item, outcome) w ((w.failText item).failSocket item.onionName socket) := by
  have hon : FailedOn socket (item, outcome) := ⟨h, hdata, hsocket⟩
  have hsame : ∀ other, FailedOn other (item, outcome) → other = socket := by
    intro other hother
    exact Option.some.inj (hother.on.symm.trans hsocket)
  have hwritten : w.written = w.written ++ (delivered (item, outcome)).toList := by
    rw [h, Option.toList_none, List.append_nil]
  have hfailed : w.failedQueue ++ (if item.isText then [item.failed] else []) =
      w.failedQueue ++ (failedText (item, outcome)).toList := by rw [failedText_undelivered h]
  rw [failText_eq w hdata, failSocket]
  by_cases hmem : socket ∈ w.sockets
  · have hknown : ∀ other, FailedOn other (item, outcome) → ¬ other ∉ w.sockets := by
      intro other hother hnot
      exact hnot (hsame other hother ▸ hmem)
    rw [if_pos hmem]
    by_cases hfull : w.sockets.length % 10 = 0
    · rw [if_pos hfull]
      exact ⟨rfl, hwritten, hfailed, fun _ hnil => absurd hnil List.not_mem_nil, .inl rfl,
        fun other hother hnot => absurd hnot (hknown other hother)⟩
    · rw [if_neg hfull]
      exact ⟨rfl, hwritten, hfailed, fun _ hold => .inl hold, .inl rfl,
        fun other hother hnot => absurd hnot (hknown other hother)⟩
  · rw [if_neg hmem]
    refine ⟨rfl, hwritten, hfailed, fun other hother => ?_, .inr ⟨socket, hon, rfl⟩,
      fun other hother _ => ?_⟩
    · rcases List.mem_append.mp hother with hold | hnew
      · exact .inl hold
      · exact .inr (List.mem_singleton.mp hnew ▸ hon)
    · rw [hsame other hother]

theorem turns_reput (w : Writer) (h : delivered (item, outcome) = none) :
    Turns (item, outcome) w (w.reput item) := by
  rw [reput]
  by_cases htype : item.type = 0
  · rw [if_pos htype]
    exact turns_handShake h htype
  · have hdata : item.isData = true := decide_eq_true htype
    rw [if_neg htype]
    cases hsocket : item.socket with
    | none => exact turns_failText w h hdata hsocket
    | some socket => exact turns_failSocket w h hdata hsocket

theorem turns_process (w : Writer) (item : SendItem) (outcome : WriteOutcome) :
    Turns (item, outcome) w (w.process item outcome) := by
  unfold process
  split
  · rename_i cell hwire
    have hcell : delivered (item, .success) = some cell := (if_pos rfl).trans hwire
    refine ⟨rfl, ?_, ?_, fun _ hmem => .inl hmem, .inl rfl, fun socket hfailed => ?_⟩
    · rw [hcell]
      rfl
    · rw [failedText, hcell, if_neg (fun hfailed => Bool.false_ne_true hfailed.1)]
      exact (List.append_nil _).symm
    · have hnone := hfailed.undelivered
      rw [hcell] at hnone
      cases hnone
  · rename_i hfail
    refine turns_reput w ?_
    rw [delivered]
    split
    · rename_i hsuccess
      cases hwire : item.wire with
      | none => rfl
      | some cell => exact absurd hsuccess (hfail cell hwire)
    · rfl

-- what a run adds to the queue it writes from and to the places where its items end
structure Ran (w : Writer) (events : List Event) (w' : Writer) : Prop where
  items : (polled w.sendQueue events).map Prod.fst ++ w'.sendQueue = w.sendQueue ++ puts events
  written : w'.written = w.written ++ (polled w.sendQueue events).filterMap delivered
  failedQueue :
    w'.failedQueue = w.failedQueue ++ (polled w.sendQueue events).filterMap failedText
  sockets : ∀ socket ∈ w'.sockets, socket ∈ w.sockets ∨
    ∃ turn ∈ polled w.sendQueue events, FailedOn socket turn

theorem ran_nil (w : Writer) : Ran w [] w :=
  ⟨(List.append_nil _).symm, (List.append_nil _).symm, (List.append_nil _).symm,
    fun _ hmem => .inl hmem⟩

theorem ran_put {w' : Writer} {events : List Event}
    (h : Ran { w with sendQueue := w.sendQueue ++ [item] } events w') :
    Ran w (.put item :: events) w' := by
  refine ⟨h.items.trans ?_, h.written, h.failedQueue, h.sockets⟩
  exact List.append_assoc ..

theorem ran_idle {w' : Writer} {events : List Event} (hqueue : w.sendQueue = [])
    (h : Ran w events w') : Ran w (.turn outcome :: events) w' := by
  obtain ⟨hitems, hwritten, hfailed, hsockets⟩ := h
  rw [hqueue] at hitems hwritten hfailed hsockets
  have hpolled : polled w.sendQueue (.turn outcome :: events) = polled [] events := by
    rw [hqueue, polled]
  refine ⟨?_, ?_, ?_, ?_⟩ <;> rw [hpolled]
  · rw [hqueue]
    exact hitems
  · exact hwritten
  · exact hfailed
  · exact hsockets

theorem ran_turn {w₁ w' : Writer} {events : List Event} {rest : List SendItem}
    (hqueue : w.sendQueue = item :: rest)
    (hturn : Turns (item, outcome) { w with sendQueue := rest } w₁) (h : Ran w₁ events w') :
    Ran w (.turn outcome :: events) w' := by
  obtain ⟨hitems, hwritten, hfailed, hsockets⟩ := h
  rw [hturn.sendQueue] at hitems hwritten hfailed hsockets
  have hpolled : polled w.sendQueue (.turn outcome :: events) =
      [(item, outcome)] ++ polled rest events := by
    rw [hqueue, polled]
    rfl
  have hone {α : Type} (f : SendItem × WriteOutcome → Option α) :
      [(item, outcome)].filterMap f = (f (item, outcome)).toList := by
    cases hf : f (item, outcome) <;> simp [hf]
  refine ⟨?_, ?_, ?_, fun socket hsocket => ?_⟩ <;> rw [hpolled]
  · rw [hqueue, List.map_append, List.append_assoc, hitems]
    rfl
  · rw [hwritten, hturn.written, List.filterMap_append, hone, List.append_assoc]
  · rw [hfailed, hturn.failedQueue, List.filterMap_append, hone, List.append_assoc]
  · rcases hsockets socket hsocket with hold | ⟨turn, hturn', hon⟩
    · rcases hturn.sockets socket hold with hearlier | hnow
      · exact .inl hearlier
      · exact .inr ⟨_, List.mem_append_left _ List.mem_cons_self, hnow⟩
    · exact .inr ⟨turn, List.mem_append_right _ hturn', hon⟩

theorem ran_run (w : Writer) (events : List Event) : Ran w events (machine.run w events) := by
  induction events generalizing w with
  | nil => exact ran_nil w
  | cons e events ih =>
    have hrest := ih (w.step e)
    rw [Machine.run_cons]
    cases e with
    | put item => exact ran_put hrest
    | turn outcome =>
      change Ran w _ (machine.run (w.step (.turn outcome)) events)
      rw [step] at hrest ⊢
      split
      · rename_i hqueue
        rw [hqueue] at hrest
        exact ran_idle hqueue hrest
      · rename_i item rest hqueue
        rw [hqueue] at hrest
        exact ran_turn hqueue (turns_process _ item outcome) hrest

theorem deletes_of_sockets {turns : List (SendItem × WriteOutcome)}
    (h : ∀ socket ∈ w.sockets, ∃ turn ∈ turns, FailedOn socket turn) : w.Deletes turns := by
  refine ⟨fun outcome item rest socket hqueue hon hnone => ?_, fun outcome => ?_⟩
  · have hturn := turns_process { w with sendQueue := rest } item outcome
    rw [step, hqueue]
    refine hturn.deletion socket hon (fun hmem => ?_)
    obtain ⟨turn, hturn, hfailed⟩ := h socket hmem
    exact hnone turn hturn hfailed
  · rw [step]
    split
    · exact .inl rfl
    · rename_i item rest hqueue
      rcases (turns_process { w with sendQueue := rest } item outcome).conns with
        hsame | ⟨socket, hon, hconns⟩
      · exact .inl hsame
      · exact .inr ⟨item, rest, socket, hqueue, hon, hconns⟩

theorem turn_length (w : Writer) (outcome : WriteOutcome) :
    (w.step (.turn outcome)).sendQueue.length = w.sendQueue.length - 1 := by
  rw [step]
  split
  · rename_i hqueue
    rw [hqueue]
    rfl
  · rename_i item rest hqueue
    rw [hqueue, (turns_process _ item outcome).sendQueue]
    rfl

theorem turns_length (w : Writer) (outcomes : List WriteOutcome) :
    (machine.run w (outcomes.map .turn)).sendQueue.length =
      w.sendQueue.length - outcomes.length := by
  induction outcomes generalizing w with
  | nil => rfl
  | cons outcome outcomes ih =>
    have hstep := turn_length w outcome
    rw [List.map_cons, Machine.run_cons, ih, List.length_cons]
    dsimp only [machine]
    omega

structure Matches (w : Writer) (d : Device) : Prop where
  sendQueue : w.sendQueue = d.sendQueue.map SendItem.ofMessageItem
  failedQueue : w.failedQueue = d.failedQueue
  conns : w.conns = d.conns
  sockets : w.sockets = d.writerSockets
  written : w.written = d.written

def outcomeOf (env : Env) : WriteOutcome := if env.sent 0 then .success else .socketException

theorem process_written {cell : Nat × Cell} (h : item.wire = some cell) :
    w.process item .success = { w with written := w.written ++ [cell] } := by
  unfold process
  rw [h]

theorem process_failed (h : item.wire = none ∨ outcome ≠ .success) :
    w.process item outcome = w.reput item := by
  unfold process
  split
  · rename_i hwire
    rcases h with hnone | hne
    · rw [hwire] at hnone
      cases hnone
    · exact absurd rfl hne
  · rfl

theorem matches_failText {d : Device} (h : w.Matches d) (item : MessageItem (Option Cell)) :
    (w.failText (.ofMessageItem item)).Matches (d.failText item) := by
  rw [failText, Device.failText]
  by_cases hpurpose : item.purpose = Constant.socketPurposeText
  · have hsame : (SendItem.ofMessageItem item).purpose = Constant.socketPurposeText := hpurpose
    rw [if_pos hpurpose, if_pos hsame]
    exact ⟨h.1, congrArg (· ++ _) h.2, h.3, h.4, h.5⟩
  · have hsame : ¬ (SendItem.ofMessageItem item).purpose = Constant.socketPurposeText := hpurpose
    rw [if_neg hpurpose, if_neg hsame]
    exact h

theorem matches_reput {d : Device} (h : w.Matches d) (item : MessageItem (Option Cell)) :
    (w.reput (.ofMessageItem item)).Matches (d.reput item) := by
  have htype : (SendItem.ofMessageItem item).type = item.type := rfl
  rw [reput, Device.reput, htype]
  by_cases hzero : item.type = 0
  · rw [if_pos hzero, if_pos hzero]
    exact h
  · rw [if_neg hzero, if_neg hzero]
    dsimp only [SendItem.ofMessageItem]
    obtain ⟨hqueue, hfailed, hconns, hsockets, hwritten⟩ := matches_failText h item
    rw [failSocket]
    by_cases hmem : item.socket ∈ (d.failText item).writerSockets
    · rw [if_pos hmem, if_pos (hsockets ▸ hmem)]
      by_cases hfull : (d.failText item).writerSockets.length % 10 = 0
      · rw [if_pos hfull, if_pos (hsockets ▸ hfull)]
        exact ⟨hqueue, hfailed, hconns, rfl, hwritten⟩
      · rw [if_neg hfull, if_neg (hsockets ▸ hfull)]
        exact ⟨hqueue, hfailed, hconns, hsockets, hwritten⟩
    · rw [if_neg hmem, if_neg (hsockets ▸ hmem)]
      refine ⟨hqueue, hfailed, ?_, congrArg (· ++ _) hsockets, hwritten⟩
      exact congrArg (fun conns => conns.deleteConnection item.onionName item.socket) hconns

-- where no socket is missing, a turn of the Writer is the write of the device
theorem matches_write {d : Device} (env : Env) (h : w.Matches d) :
    (w.step (.turn (outcomeOf env))).Matches (d.write env) := by
  rw [step, Device.write, h.sendQueue]
  cases hqueue : d.sendQueue with
  | nil =>
    rw [List.map_nil]
    exact h
  | cons item rest =>
    have hrest : Matches { w with sendQueue := rest.map .ofMessageItem }
        { d with sendQueue := rest } := ⟨rfl, h.2, h.3, h.4, h.5⟩
    have hfailed := matches_reput hrest item
    rw [List.map_cons]
    dsimp only
    cases hdata : item.data with
    | none =>
      have hwire : (SendItem.ofMessageItem item).wire = none := by
        rw [SendItem.wire, SendItem.ofMessageItem, hdata]
        rfl
      rw [process_failed (.inl hwire)]
      exact hfailed
    | some cell =>
      have hwire : (SendItem.ofMessageItem item).wire = some (item.socket, cell) := by
        rw [SendItem.wire, SendItem.ofMessageItem, hdata]
        rfl
      rw [outcomeOf]
      cases hsent : env.sent 0 with
      | true =>
        rw [if_pos rfl, process_written hwire]
        exact ⟨rfl, h.2, h.3, h.4, congrArg (· ++ _) h.5⟩
      | false =>
        rw [if_neg Bool.false_ne_true, process_failed (.inr (fun hsuccess => by cases hsuccess))]
        exact hfailed

theorem writer_conserves (queue : List SendItem) (failedQueue : List FailedTextMessage)
    (conns : Connections) (events : List Event) :
    let w := machine.run { sendQueue := queue, failedQueue := failedQueue, conns := conns } events
    let turns := polled queue events
    turns.map Prod.fst ++ w.sendQueue = queue ++ puts events ∧
      w.written = turns.filterMap delivered ∧
      w.failedQueue = failedQueue ++ turns.filterMap failedText ∧
      w.Deletes turns ∧
      (∀ outcomes : List WriteOutcome, w.sendQueue.length ≤ outcomes.length →
        (machine.run w (outcomes.map .turn)).sendQueue = []) ∧
      ∀ (d : Device) (env : Env), w.Matches d →
        (w.step (.turn (outcomeOf env))).Matches (d.write env) := by
  have hran := ran_run { sendQueue := queue, failedQueue := failedQueue, conns := conns } events
  refine ⟨hran.items, hran.written, hran.failedQueue, ?_, fun outcomes hlength => ?_,
    fun d env => matches_write env⟩
  · refine deletes_of_sockets (fun socket hsocket => ?_)
    exact (hran.sockets socket hsocket).resolve_left List.not_mem_nil
  · have hempty := turns_length
      (machine.run { sendQueue := queue, failedQueue := failedQueue, conns := conns } events)
      outcomes
    exact List.eq_nil_of_length_eq_zero (by omega)

end Writer

end TorChat
