import TorChat.Library.Machine
import Mathlib.Logic.Function.Basic
import Mathlib.Data.List.Basic
import Mathlib.Algebra.Ring.Nat

namespace TorChat.Library.AckChannel

-- two ends send each other texts through first-in first-out queues, and a text is answered by its
-- key when it is read
inductive Packet (T I : Type) where
  | text (t : T)
  | ack (i : I)

structure End (T I : Type) where
  queue : List T := []
  wire : List (Packet T I) := []
  inbox : List (Packet T I) := []
  shown : List T := []
  acked : List I := []

inductive Event (R T : Type) where
  | send (r : R) (t : T)
  | write (r : R)
  | deliver (r : R)
  | read (r : R)

variable {R T I : Type}

def texts (packets : List (Packet T I)) : List T :=
  packets.filterMap (fun | .text t => some t | .ack _ => none)

def acks (packets : List (Packet T I)) : List I :=
  packets.filterMap (fun | .text _ => none | .ack i => some i)

namespace End

def send (e : End T I) (t : T) : End T I := { e with queue := e.queue ++ [t] }

def write (e : End T I) : End T I :=
  match e.queue with
  | [] => e
  | t :: rest => { e with queue := rest, wire := e.wire ++ [.text t] }

def receive (e : End T I) (p : Packet T I) : End T I := { e with inbox := e.inbox ++ [p] }

def read (key : T → I) (e : End T I) : End T I :=
  match e.inbox with
  | [] => e
  | .text t :: rest =>
      { e with inbox := rest, shown := e.shown ++ [t], wire := e.wire ++ [.ack (key t)] }
  | .ack i :: rest => { e with inbox := rest, acked := e.acked ++ [i] }

end End

variable [DecidableEq R] (other : R → R) (key : T → I)

def deliver (s : R → End T I) (r : R) : R → End T I :=
  match (s r).wire with
  | [] => s
  | p :: rest => Function.update (Function.update s r { s r with wire := rest }) (other r)
      ((s (other r)).receive p)

def step (s : R → End T I) : Event R T → R → End T I
  | .send r t => Function.update s r ((s r).send t)
  | .write r => Function.update s r (s r).write
  | .deliver r => deliver other s r
  | .read r => Function.update s r ((s r).read key)

def machine : Machine (R → End T I) (Event R T) := ⟨step other key⟩

def sends (r : R) : Event R T → List T
  | .send r' t => if r' = r then [t] else []
  | .write _ => []
  | .deliver _ => []
  | .read _ => []

-- the texts of one end on their way, and the answers to them
def passing (s : R → End T I) (r : R) : List T :=
  (s (other r)).shown ++ (texts (s (other r)).inbox ++ (texts (s r).wire ++ (s r).queue))

def answered (s : R → End T I) (r : R) : List I :=
  (s r).acked ++ (acks (s r).inbox ++ acks (s (other r)).wire)

def QuietAt (s : R → End T I) (r : R) : Prop :=
  (s r).queue = [] ∧ (s r).wire = [] ∧ (s r).inbox = []

def Quiet (s : R → End T I) : Prop := ∀ r, QuietAt s r

section Ends

variable {key}

theorem texts_append (ps qs : List (Packet T I)) : texts (ps ++ qs) = texts ps ++ texts qs :=
  List.filterMap_append

theorem acks_append (ps qs : List (Packet T I)) : acks (ps ++ qs) = acks ps ++ acks qs :=
  List.filterMap_append

theorem write_spec (e : End T I) : e.write.shown = e.shown ∧ e.write.acked = e.acked ∧
    e.write.inbox = e.inbox ∧ acks e.write.wire = acks e.wire ∧
      texts e.write.wire ++ e.write.queue = texts e.wire ++ e.queue := by
  rw [End.write]
  split
  · exact ⟨rfl, rfl, rfl, rfl, rfl⟩
  · rename_i t rest hqueue
    refine ⟨rfl, rfl, rfl, ?_, ?_⟩
    · rw [acks_append]
      exact List.append_nil _
    · rw [texts_append, hqueue, List.append_assoc]
      rfl

variable (key) in
theorem read_spec (e : End T I) : (e.read key).queue = e.queue ∧
    texts (e.read key).wire = texts e.wire ∧
    (e.read key).shown ++ texts (e.read key).inbox = e.shown ++ texts e.inbox ∧
    (e.read key).acked ++ acks (e.read key).inbox = e.acked ++ acks e.inbox ∧
    ∃ new, (e.read key).shown = e.shown ++ new ∧
      acks (e.read key).wire = acks e.wire ++ new.map key := by
  rw [End.read]
  split
  · exact ⟨rfl, rfl, rfl, rfl, [], (List.append_nil _).symm, (List.append_nil _).symm⟩
  · rename_i t rest hinbox
    refine ⟨rfl, ?_, ?_, ?_, [t], rfl, acks_append _ _⟩
    · rw [texts_append]
      exact List.append_nil _
    · rw [hinbox, List.append_assoc]
      rfl
    · rw [hinbox]
      rfl
  · rename_i i rest hinbox
    refine ⟨rfl, rfl, ?_, ?_, [], (List.append_nil _).symm, (List.append_nil _).symm⟩
    · rw [hinbox]
      rfl
    · rw [hinbox, List.append_assoc]
      rfl

end Ends

section Steps

variable {other key} {s : R → End T I} (hother : ∀ r, other (other r) = r)
  (hne : ∀ r, other r ≠ r)

theorem deliver_nil {r : R} (h : (s r).wire = []) : deliver other s r = s := by rw [deliver, h]

theorem deliver_cons {r : R} {p : Packet T I} {rest : List (Packet T I)}
    (h : (s r).wire = p :: rest) : deliver other s r =
      Function.update (Function.update s r { s r with wire := rest }) (other r)
        ((s (other r)).receive p) := by
  rw [deliver, h]

include hother hne in
theorem passing_step (s : R → End T I) (e : Event R T) (r : R) :
    passing other (step other key s e) r = passing other s r ++ sends r e := by
  cases e with
  | send r' t =>
    rw [passing, passing, step, Function.update_apply, Function.update_apply, sends]
    by_cases hr : r' = r
    · subst hr
      rw [if_neg (hne r'), if_pos rfl, if_pos rfl, End.send]
      simp only [List.append_assoc]
    · rw [if_neg (Ne.symm hr), if_neg hr, List.append_nil]
      split
      · rename_i heq
        rw [heq]
        rfl
      · rfl
  | write r' =>
    rw [passing, passing, step, Function.update_apply, Function.update_apply, sends,
      List.append_nil]
    obtain ⟨hshown, -, hinbox, -, hpassing⟩ := write_spec (s r')
    by_cases hr : r = r'
    · subst hr
      rw [if_neg (hne r), if_pos rfl, hpassing]
    · rw [if_neg hr]
      split
      · rename_i heq
        rw [hshown, hinbox, heq]
      · rfl
  | deliver r' =>
    rw [sends, List.append_nil, step]
    cases hwire : (s r').wire with
    | nil => rw [deliver_nil hwire]
    | cons p rest =>
      rw [deliver_cons hwire, passing, passing]
      by_cases hr : r = r'
      · subst hr
        rw [Function.update_self, Function.update_of_ne (hne r).symm, Function.update_self, hwire,
          End.receive]
        dsimp only
        rw [texts_append, List.append_assoc, ← List.append_assoc (texts [p]), ← texts_append]
        rfl
      · by_cases hr' : r = other r'
        · subst hr'
          rw [Function.update_self, hother, Function.update_of_ne (hne r').symm,
            Function.update_self]
          rfl
        · have h1 : other r ≠ other r' := fun h => hr (by rw [← hother r, h, hother])
          have h2 : other r ≠ r' := fun h => hr' (by rw [← h, hother])
          rw [Function.update_of_ne h1, Function.update_of_ne h2, Function.update_of_ne hr',
            Function.update_of_ne hr]
  | read r' =>
    rw [passing, passing, step, Function.update_apply, Function.update_apply, sends,
      List.append_nil]
    obtain ⟨hqueue, hwire, hshown, -, -⟩ := read_spec key (s r')
    by_cases hr : r = r'
    · subst hr
      rw [if_neg (hne r), if_pos rfl, hqueue, hwire]
    · rw [if_neg hr]
      split
      · rename_i heq
        rw [← List.append_assoc, hshown, heq, List.append_assoc]
      · rfl

variable (key) in
include hother hne in
theorem answered_step (s : R → End T I) (e : Event R T) (r : R) :
    ∃ new, (step other key s e (other r)).shown = (s (other r)).shown ++ new ∧
      answered other (step other key s e) r = answered other s r ++ new.map key := by
  cases e with
  | send r' t =>
    refine ⟨[], ?_, ?_⟩
    · rw [step, Function.update_apply, List.append_nil]
      split
      · rename_i heq
        rw [heq]
        rfl
      · rfl
    · rw [answered, answered, step, Function.update_apply, Function.update_apply]
      split
      · rename_i heq
        subst heq
        rw [if_neg (hne r)]
        exact (List.append_nil _).symm
      · split
        · rename_i heq
          rw [heq]
          exact (List.append_nil _).symm
        · exact (List.append_nil _).symm
  | write r' =>
    obtain ⟨hshown, hacked, hinbox, hacks, -⟩ := write_spec (s r')
    refine ⟨[], ?_, ?_⟩
    · rw [step, Function.update_apply, List.append_nil]
      split
      · rename_i heq
        rw [hshown, heq]
      · rfl
    · rw [answered, answered, step, Function.update_apply, Function.update_apply, List.map_nil,
        List.append_nil]
      by_cases hr : r = r'
      · subst hr
        rw [if_pos rfl, if_neg (hne r), hacked, hinbox]
      · rw [if_neg hr]
        split
        · rename_i heq
          rw [hacks, heq]
        · rfl
  | deliver r' =>
    rw [step]
    cases hwire : (s r').wire with
    | nil =>
      rw [deliver_nil hwire]
      exact ⟨[], (List.append_nil _).symm, (List.append_nil _).symm⟩
    | cons p rest =>
      rw [deliver_cons hwire]
      refine ⟨[], ?_, ?_⟩
      · rw [List.append_nil, Function.update_apply, Function.update_apply]
        split
        · rename_i heq
          rw [heq]
          rfl
        · split
          · rename_i heq
            rw [heq]
          · rfl
      · rw [answered, answered, List.map_nil, List.append_nil]
        by_cases hr : r = r'
        · subst hr
          rw [Function.update_self, Function.update_of_ne (hne r).symm, Function.update_self]
          rfl
        · by_cases hr' : r = other r'
          · subst hr'
            rw [Function.update_self, hother, Function.update_of_ne (hne r').symm,
              Function.update_self, hwire, End.receive]
            dsimp only
            rw [acks_append, List.append_assoc, ← acks_append]
            rfl
          · have h1 : other r ≠ other r' := fun h => hr (by rw [← hother r, h, hother])
            have h2 : other r ≠ r' := fun h => hr' (by rw [← h, hother])
            rw [Function.update_of_ne h1, Function.update_of_ne h2, Function.update_of_ne hr',
              Function.update_of_ne hr]
  | read r' =>
    obtain ⟨-, -, -, hacked, new, hshown, hacks⟩ := read_spec key (s r')
    by_cases hr : other r = r'
    · have hr' : r ≠ r' := fun h => hne r (hr.trans h.symm)
      refine ⟨new, ?_, ?_⟩
      · rw [step, hr, Function.update_self, hshown]
      · rw [answered, answered, step, Function.update_of_ne hr', hr, Function.update_self, hacks,
          List.append_assoc, List.append_assoc]
    · refine ⟨[], ?_, ?_⟩
      · rw [step, Function.update_of_ne hr, List.append_nil]
      · rw [answered, answered, step, Function.update_of_ne hr, Function.update_apply,
          List.map_nil, List.append_nil]
        split
        · rename_i heq
          rw [← List.append_assoc, hacked, heq, List.append_assoc]
        · rfl

variable (key) in
include hother hne in
theorem passing_run (s : R → End T I) (es : List (Event R T)) (r : R) :
    passing other ((machine other key).run s es) r = passing other s r ++ es.flatMap (sends r) := by
  induction es generalizing s with
  | nil => exact (List.append_nil _).symm
  | cons e es ih =>
    rw [Machine.run_cons, ih, List.flatMap_cons, ← List.append_assoc]
    exact congrArg (· ++ _) (passing_step hother hne s e r)

variable (key) in
include hother hne in
theorem answered_run (s : R → End T I) (es : List (Event R T)) (r : R)
    (h : answered other s r = (s (other r)).shown.map key) :
    answered other ((machine other key).run s es) r =
      ((machine other key).run s es (other r)).shown.map key := by
  refine (machine other key).run_invariant
    (I := fun s => answered other s r = (s (other r)).shown.map key) ?_ es h
  intro q e hq
  obtain ⟨new, hshown, hanswered⟩ := answered_step key hother hne q e r
  rw [show (machine other key).step q e = step other key q e from rfl, hanswered, hshown, hq,
    List.map_append]

variable (key) in
include hother hne in
theorem in_order_of_run (es : List (Event R T)) (r : R) :
    ((machine other key).run (fun _ => {}) es (other r)).shown <+: es.flatMap (sends r) ∧
      ((machine other key).run (fun _ => {}) es r).acked <+:
        ((machine other key).run (fun _ => {}) es (other r)).shown.map key := by
  have hpassing := passing_run key hother hne (fun _ => {}) es r
  have hanswered := answered_run key hother hne (fun _ => {}) es r rfl
  exact ⟨⟨_, hpassing⟩, ⟨_, hanswered⟩⟩

-- once nothing is on its way, every text has been shown in its turn and answered
include hother hne in
theorem delivered_of_quiet {es : List (Event R T)}
    (hquiet : Quiet ((machine other key).run (fun _ => {}) es)) (r : R) :
    ((machine other key).run (fun _ => {}) es (other r)).shown = es.flatMap (sends r) ∧
      ((machine other key).run (fun _ => {}) es r).acked = (es.flatMap (sends r)).map key := by
  have hpassing := passing_run key hother hne (fun _ => {}) es r
  have hanswered := answered_run key hother hne (fun _ => {}) es r rfl
  rw [passing, (hquiet r).1, (hquiet r).2.1, (hquiet (other r)).2.2] at hpassing
  rw [answered, (hquiet r).2.2, (hquiet (other r)).2.1] at hanswered
  have hshown : ((machine other key).run (fun _ => {}) es (other r)).shown =
      es.flatMap (sends r) := by
    simpa [passing, texts] using hpassing
  exact ⟨hshown, by simpa [acks, hshown] using hanswered⟩

end Steps

section Settling

-- what is left to do for a packet, counted down at every move of it
def onWire : Packet T I → Nat
  | .text _ => 4
  | .ack _ => 2

def inInbox : Packet T I → Nat
  | .text _ => 3
  | .ack _ => 1

def End.left (e : End T I) : Nat :=
  5 * e.queue.length + (e.wire.map onWire).sum + (e.inbox.map inInbox).sum

def left (s : R → End T I) (r : R) : Nat := (s r).left + (s (other r)).left

def Event.Silent : Event R T → Prop
  | .send _ _ => False
  | .write _ => True
  | .deliver _ => True
  | .read _ => True

variable {other key} {s : R → End T I} (hother : ∀ r, other (other r) = r)
  (hne : ∀ r, other r ≠ r)

theorem left_write {e : End T I} (h : e.queue ≠ []) : e.write.left < e.left := by
  obtain ⟨t, rest, hqueue⟩ := List.exists_cons_of_ne_nil h
  rw [End.write, hqueue, End.left, End.left, hqueue]
  simp only [List.map_append, List.sum_append, List.map_cons, List.map_nil, List.sum_cons,
    List.sum_nil, List.length_cons, onWire]
  omega

theorem left_read (key : T → I) {e : End T I} (h : e.inbox ≠ []) : (e.read key).left < e.left := by
  obtain ⟨p, rest, hinbox⟩ := List.exists_cons_of_ne_nil h
  cases p with
  | text t =>
    rw [End.read, hinbox, End.left, End.left, hinbox]
    simp only [List.map_append, List.sum_append, List.map_cons, List.map_nil, List.sum_cons,
      List.sum_nil, onWire, inInbox]
    omega
  | ack i =>
    rw [End.read, hinbox, End.left, End.left, hinbox]
    simp only [List.map_cons, List.sum_cons, inInbox]
    omega

theorem left_receive (e : End T I) (p : Packet T I) :
    (e.receive p).left + 1 = e.left + onWire p := by
  rw [End.receive, End.left, End.left]
  simp only [List.map_append, List.sum_append, List.map_cons, List.map_nil, List.sum_cons,
    List.sum_nil]
  cases p <;> simp only [onWire, inInbox] <;> omega

include hne in
theorem left_update (s : R → End T I) (r : R) {e : End T I} (h : e.left < (s r).left) :
    left other (Function.update s r e) r < left other s r := by
  rw [left, left, Function.update_self, Function.update_of_ne (hne r)]
  omega

include hne in
theorem moves_of_not_quietAt (key : T → I) {r : R} (h : ¬ QuietAt s r) :
    ∃ e : Event R T, e.Silent ∧ left other (step other key s e) r < left other s r := by
  by_cases hqueue : (s r).queue = []
  · by_cases hinbox : (s r).inbox = []
    · have hwire : (s r).wire ≠ [] := fun hwire => h ⟨hqueue, hwire, hinbox⟩
      obtain ⟨p, rest, hcons⟩ := List.exists_cons_of_ne_nil hwire
      refine ⟨.deliver r, trivial, ?_⟩
      have hreceive := left_receive (s (other r)) p
      have hrest : ({ s r with wire := rest } : End T I).left + onWire p = (s r).left := by
        rw [End.left, End.left, hcons]
        simp only [List.map_cons, List.sum_cons]
        omega
      rw [step, deliver_cons hcons, left, left, Function.update_of_ne (hne r).symm,
        Function.update_self, Function.update_self]
      omega
    · exact ⟨.read r, trivial, left_update hne s r (left_read key hinbox)⟩
  · exact ⟨.write r, trivial, left_update hne s r (left_write hqueue)⟩

include hother hne in
theorem moves_of_busy (key : T → I) {r : R} (h : ¬ (QuietAt s r ∧ QuietAt s (other r))) :
    ∃ e : Event R T, e.Silent ∧ left other (step other key s e) r < left other s r := by
  by_cases hr : QuietAt s r
  · obtain ⟨e, hsilent, hleft⟩ := moves_of_not_quietAt hne key (fun hr' => h ⟨hr, hr'⟩)
    rw [left, left, hother, Nat.add_comm, Nat.add_comm (s (other r)).left] at hleft
    exact ⟨e, hsilent, hleft⟩
  · exact moves_of_not_quietAt hne key hr

-- writing, delivering and reading on ends with nothing on its way
include hother hne in
theorem settles (key : T → I) (s : R → End T I) (r : R) :
    ∃ es : List (Event R T), (∀ e ∈ es, e.Silent) ∧
      QuietAt ((machine other key).run s es) r ∧
        QuietAt ((machine other key).run s es) (other r) := by
  induction hn : left other s r using Nat.strongRecOn generalizing s with
  | ind n ih =>
    subst hn
    by_cases hbusy : QuietAt s r ∧ QuietAt s (other r)
    · exact ⟨[], fun e he => absurd he List.not_mem_nil, hbusy⟩
    · obtain ⟨e, hsilent, hleft⟩ := moves_of_busy hother hne key hbusy
      obtain ⟨es, hes, hquiet⟩ := ih _ hleft (step other key s e) rfl
      exact ⟨e :: es, List.forall_mem_cons.mpr ⟨hsilent, hes⟩, hquiet⟩

end Settling

end TorChat.Library.AckChannel
