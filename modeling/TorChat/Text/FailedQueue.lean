import TorChat.Library.Machine
import TorChat.Server.Device
import Mathlib.Data.List.Count
import Mathlib.Algebra.BigOperators.Group.List.Basic

namespace TorChat

open Library (Machine)

namespace FailedQueue

structure Failed where
  serial : Nat
  message : FailedTextMessage
  deriving DecidableEq, Repr

inductive Kind where
  | tryResend
  | processOfflineMessage
  deriving DecidableEq, Repr

inductive Phase where
  | isEmpty
  | poll
  | put (rest : List Failed)
  | returned
  | nullPointer
  deriving DecidableEq, Repr

structure Drain where
  kind : Kind
  onionName : String
  phase : Phase := .isEmpty
  tmpList : List Failed := []
  deriving DecidableEq, Repr

structure Taken where
  kind : Kind
  onionName : String
  failed : Failed
  deriving DecidableEq, Repr

namespace Drain

-- poll answers null when another thread took the last text after the test, and the next
-- statement reads a field of it
def next (t : Drain) (queue : List Failed) : Drain × List Failed × List Taken :=
  match t.phase with
  | .isEmpty => ({ t with phase := if queue = [] then .put t.tmpList else .poll }, queue, [])
  | .poll =>
      match queue with
      | [] => ({ t with phase := .nullPointer }, [], [])
      | tmp :: rest =>
          if tmp.message.onionName = t.onionName then
            ({ t with phase := .isEmpty }, rest, [{
              kind := t.kind, onionName := t.onionName, failed := tmp }])
          else ({ t with phase := .isEmpty, tmpList := t.tmpList ++ [tmp] }, rest, [])
  | .put [] => ({ t with phase := .returned }, queue, [])
  | .put (tmp :: rest) => ({ t with phase := .put rest }, queue ++ [tmp], [])
  | .returned => (t, queue, [])
  | .nullPointer => (t, queue, [])

def front (t : Drain) : List Failed :=
  match t.phase with
  | .isEmpty => t.tmpList
  | .poll => t.tmpList
  | _ => []

def rear (t : Drain) : List Failed :=
  match t.phase with
  | .put rest => rest
  | _ => []

def Ended (t : Drain) : Prop := t.phase = .returned ∨ t.phase = .nullPointer

instance (t : Drain) : Decidable t.Ended := inferInstanceAs (Decidable (_ ∨ _))

def held (x : Failed) (t : Drain) : Nat := t.front.count x + t.rear.count x

end Drain

inductive Event where
  | reput (message : FailedTextMessage)
  | call (kind : Kind) (onionName : String)
  | thread (i : Nat)
  deriving DecidableEq, Repr

structure State where
  failedQueue : List Failed := []
  entered : List Failed := []
  taken : List Taken := []
  drains : List Drain := []
  deriving DecidableEq, Repr

namespace State

def reput (s : State) (message : FailedTextMessage) : State :=
  let failed := { serial := s.entered.length, message := message }
  { s with failedQueue := s.failedQueue ++ [failed], entered := s.entered ++ [failed] }

def call (s : State) (kind : Kind) (onionName : String) : State :=
  { s with drains := s.drains ++ [{ kind := kind, onionName := onionName }] }

def thread (s : State) (i : Nat) : State :=
  match s.drains[i]? with
  | none => s
  | some t =>
      let (t', queue, taken) := t.next s.failedQueue
      { s with
        failedQueue := queue
        taken := s.taken ++ taken
        drains := s.drains.set i t' }

def step (s : State) : Event → State
  | .reput message => s.reput message
  | .call kind onionName => s.call kind onionName
  | .thread i => s.thread i

def Quiet (s : State) : Prop := ∀ t ∈ s.drains, t.Ended

def NoException (s : State) : Prop := ∀ t ∈ s.drains, t.phase ≠ .nullPointer

def OncePlaced (s : State) : Prop :=
  ∀ x ∈ s.entered, s.failedQueue.count x + (s.taken.map Taken.failed).count x = 1

def OwnPeer (s : State) : Prop := ∀ y ∈ s.taken, y.failed.message.onionName = y.onionName

def InOrder (s : State) : Prop := s.failedQueue.Sublist s.entered

instance (s : State) : Decidable s.Quiet := inferInstanceAs (Decidable (∀ _ ∈ _, _))
instance (s : State) : Decidable s.NoException := inferInstanceAs (Decidable (∀ _ ∈ _, _))
instance (s : State) : Decidable s.OncePlaced := inferInstanceAs (Decidable (∀ _ ∈ _, _))
instance (s : State) : Decidable s.OwnPeer := inferInstanceAs (Decidable (∀ _ ∈ _, _))
instance (s : State) : Decidable s.InOrder := inferInstanceAs (Decidable (List.Sublist _ _))

-- no other thread emptied the queue between the test and the poll of thread i
def Unraced (s : State) : Event → Prop
  | .thread i => ∀ t ∈ s.drains[i]?, t.phase = .poll → s.failedQueue ≠ []
  | _ => True

-- a drain starts when no other one is under way, and no text is put in while one puts back
def Alone (s : State) : Event → Prop
  | .call _ _ => s.Quiet
  | .reput _ => ∀ t ∈ s.drains, t.rear = []
  | .thread _ => True

instance (s : State) (e : Event) : Decidable (s.Unraced e) :=
  match e with
  | .reput _ => isTrue trivial
  | .call _ _ => isTrue trivial
  | .thread i =>
      match h : s.drains[i]? with
      | none => isTrue (fun t ht => by rw [h] at ht; cases ht)
      | some t => decidable_of_iff (t.phase = .poll → s.failedQueue ≠ []) (by simp [Unraced, h])

instance (s : State) (e : Event) : Decidable (s.Alone e) :=
  match e with
  | .reput _ => inferInstanceAs (Decidable (∀ _ ∈ _, _))
  | .call _ _ => inferInstanceAs (Decidable s.Quiet)
  | .thread _ => isTrue trivial

end State

def machine : Machine State Event := { step := State.step }

namespace Drain

theorem next_count {t : Drain} {queue : List Failed} (h : t.phase = .poll → queue ≠ [])
    (x : Failed) : (t.next queue).2.1.count x + (t.next queue).1.held x +
      ((t.next queue).2.2.map Taken.failed).count x = queue.count x + t.held x := by
  obtain ⟨kind, onionName, phase, tmpList⟩ := t
  cases phase with
  | isEmpty =>
    by_cases hempty : queue = []
    · simp [next, held, front, rear, hempty]
    · simp [next, held, front, rear, hempty]
  | poll =>
    obtain ⟨tmp, rest, rfl⟩ := List.exists_cons_of_ne_nil (h rfl)
    by_cases hname : tmp.message.onionName = onionName
    · simp only [next, held, front, rear, if_pos hname, List.map_cons, List.map_nil,
        List.count_nil, List.count_cons]
      omega
    · simp only [next, held, front, rear, if_neg hname, List.map_nil, List.count_nil,
        List.count_cons, List.count_append]
      omega
  | put rest =>
    cases rest with
    | nil => rfl
    | cons tmp rest =>
      simp only [next, held, front, rear, List.map_nil, List.count_nil, List.count_cons,
        List.count_append]
      omega
  | returned => rfl
  | nullPointer => rfl

theorem next_phase {t : Drain} {queue : List Failed} (h : t.phase = .poll → queue ≠ [])
    (hphase : t.phase ≠ .nullPointer) : (t.next queue).1.phase ≠ .nullPointer := by
  obtain ⟨kind, onionName, phase, tmpList⟩ := t
  cases phase with
  | isEmpty =>
    by_cases hempty : queue = []
    · simp [next, hempty]
    · simp [next, hempty]
  | poll =>
    obtain ⟨tmp, rest, rfl⟩ := List.exists_cons_of_ne_nil (h rfl)
    rw [next]
    dsimp only
    split <;> exact Phase.noConfusion
  | put rest => cases rest <;> exact Phase.noConfusion
  | returned => exact Phase.noConfusion
  | nullPointer => exact absurd rfl hphase

theorem next_taken (t : Drain) (queue : List Failed) :
    ∀ y ∈ (t.next queue).2.2, y.failed.message.onionName = y.onionName := by
  obtain ⟨kind, onionName, phase, tmpList⟩ := t
  cases phase with
  | poll =>
    cases queue with
    | nil => exact fun y hy => absurd hy List.not_mem_nil
    | cons tmp rest =>
      rw [next]
      dsimp only
      split
      · rename_i hname
        intro y hy
        rw [List.mem_singleton.mp hy]
        exact hname
      · exact fun y hy => absurd hy List.not_mem_nil
  | put rest => cases rest <;> exact fun y hy => absurd hy List.not_mem_nil
  | _ => exact fun y hy => absurd hy List.not_mem_nil

theorem next_order {t : Drain} {queue : List Failed} (h : t.phase = .poll → queue ≠ []) :
    ((t.next queue).1.front ++ (t.next queue).2.1 ++ (t.next queue).1.rear).Sublist
      (t.front ++ queue ++ t.rear) := by
  obtain ⟨kind, onionName, phase, tmpList⟩ := t
  cases phase with
  | isEmpty =>
    by_cases hempty : queue = []
    · simp [next, front, rear, hempty]
    · simp [next, front, rear, hempty]
  | poll =>
    obtain ⟨tmp, rest, rfl⟩ := List.exists_cons_of_ne_nil (h rfl)
    by_cases hname : tmp.message.onionName = onionName
    · simp [next, front, rear, hname]
    · simp [next, front, rear, hname]
  | put rest =>
    cases rest with
    | nil => exact List.Sublist.refl _
    | cons tmp rest => simp [next, front, rear]
  | returned => exact List.Sublist.refl _
  | nullPointer => exact List.Sublist.refl _

theorem next_poll {t : Drain} {queue : List Failed} (hphase : (t.next queue).1.phase = .poll) :
    (t.next queue).2.1 ≠ [] := by
  obtain ⟨kind, onionName, phase, tmpList⟩ := t
  revert hphase
  cases phase with
  | isEmpty =>
    by_cases hempty : queue = []
    · simp [next, hempty]
    · simp [next, hempty]
  | poll =>
    cases queue with
    | nil => exact Phase.noConfusion
    | cons tmp rest =>
      rw [next]
      dsimp only
      split <;> exact Phase.noConfusion
  | put rest => cases rest <;> exact Phase.noConfusion
  | returned => exact Phase.noConfusion
  | nullPointer => exact Phase.noConfusion

theorem next_isEmpty_nil {t : Drain} (h : t.phase = .isEmpty) :
    t.next [] = ({ t with phase := .put t.tmpList }, [], []) := by
  obtain ⟨kind, onionName, phase, tmpList⟩ := t
  cases h
  rfl

theorem next_isEmpty_cons {t : Drain} (h : t.phase = .isEmpty) (tmp : Failed)
    (rest : List Failed) : t.next (tmp :: rest) = ({ t with phase := .poll }, tmp :: rest, []) := by
  obtain ⟨kind, onionName, phase, tmpList⟩ := t
  cases h
  rfl

theorem next_poll_nil {t : Drain} (h : t.phase = .poll) :
    t.next [] = ({ t with phase := .nullPointer }, [], []) := by
  obtain ⟨kind, onionName, phase, tmpList⟩ := t
  cases h
  rfl

theorem next_poll_cons {t : Drain} (h : t.phase = .poll) (tmp : Failed) (rest : List Failed) :
    t.next (tmp :: rest) = if tmp.message.onionName = t.onionName then
      ({ t with phase := .isEmpty }, rest, [{
        kind := t.kind, onionName := t.onionName, failed := tmp }])
    else ({ t with phase := .isEmpty, tmpList := t.tmpList ++ [tmp] }, rest, []) := by
  obtain ⟨kind, onionName, phase, tmpList⟩ := t
  cases h
  rfl

theorem next_put_nil {t : Drain} (h : t.phase = .put []) (queue : List Failed) :
    t.next queue = ({ t with phase := .returned }, queue, []) := by
  obtain ⟨kind, onionName, phase, tmpList⟩ := t
  cases h
  rfl

theorem next_put_cons {t : Drain} {tmp : Failed} {rest : List Failed}
    (h : t.phase = .put (tmp :: rest)) (queue : List Failed) :
    t.next queue = ({ t with phase := .put rest }, queue ++ [tmp], []) := by
  obtain ⟨kind, onionName, phase, tmpList⟩ := t
  cases h
  rfl

theorem next_ended {t : Drain} (h : t.Ended) (queue : List Failed) :
    t.next queue = (t, queue, []) := by
  obtain ⟨kind, onionName, phase, tmpList⟩ := t
  rcases h with hphase | hphase <;> cases hphase <;> rfl

theorem front_ended {t : Drain} (h : t.Ended) : t.front = [] := by
  rw [front]
  rcases h with hphase | hphase <;> rw [hphase]

theorem rear_ended {t : Drain} (h : t.Ended) : t.rear = [] := by
  rw [rear]
  rcases h with hphase | hphase <;> rw [hphase]

theorem held_ended {t : Drain} (h : t.Ended) (x : Failed) : t.held x = 0 := by
  rw [held, front_ended h, rear_ended h]
  rfl

end Drain

theorem sum_map_set {α : Type} (f : α → Nat) {l : List α} {i : Nat} {t : α} (t' : α)
    (h : l[i]? = some t) : ((l.set i t').map f).sum + f t = (l.map f).sum + f t' := by
  induction l generalizing i with
  | nil => cases h
  | cons u rest ih =>
    cases i with
    | zero =>
      obtain rfl := Option.some.inj h
      simp only [List.set_cons_zero, List.map_cons, List.sum_cons]
      omega
    | succ i =>
      have hrest := ih h
      simp only [List.set_cons_succ, List.map_cons, List.sum_cons]
      omega

namespace State

structure Accounted (s : State) : Prop where
  counts : ∀ x, s.failedQueue.count x + (s.drains.map (Drain.held x)).sum +
    (s.taken.map Taken.failed).count x = s.entered.count x
  serials : s.entered.map Failed.serial = List.range s.entered.length
  noException : s.NoException
  ownPeer : s.OwnPeer

theorem thread_eq {s : State} {i : Nat} {t : Drain} (h : s.drains[i]? = some t) :
    s.thread i = { s with
      failedQueue := (t.next s.failedQueue).2.1
      taken := s.taken ++ (t.next s.failedQueue).2.2
      drains := s.drains.set i (t.next s.failedQueue).1 } := by
  rw [thread, h]

theorem thread_none {s : State} {i : Nat} (h : s.drains[i]? = none) : s.thread i = s := by
  rw [thread, h]

theorem accounted_reput {s : State} (h : s.Accounted) (message : FailedTextMessage) :
    (s.reput message).Accounted where
  counts x := by
    have hx := h.counts x
    simp only [reput, List.count_append]
    omega
  serials := by
    simp only [reput, List.map_append, List.length_append, h.serials, List.map_cons, List.map_nil,
      List.length_cons, List.length_nil]
    exact List.range_succ.symm
  noException := h.noException
  ownPeer := h.ownPeer

theorem accounted_call {s : State} (h : s.Accounted) (kind : Kind) (onionName : String) :
    (s.call kind onionName).Accounted where
  counts x := by
    have hx := h.counts x
    simp only [call, List.map_append, List.sum_append, List.map_cons, List.map_nil,
      List.sum_cons, List.sum_nil, Drain.held, Drain.front, Drain.rear, List.count_nil]
    omega
  serials := h.serials
  noException := by
    intro t ht
    rcases List.mem_append.mp ht with hold | hnew
    · exact h.noException t hold
    · rw [List.mem_singleton.mp hnew]
      exact Phase.noConfusion
  ownPeer := h.ownPeer

theorem accounted_thread {s : State} (h : s.Accounted) {i : Nat} (hg : s.Unraced (.thread i)) :
    (s.thread i).Accounted := by
  cases hget : s.drains[i]? with
  | none =>
    rw [thread_none hget]
    exact h
  | some t =>
    have hpoll : t.phase = .poll → s.failedQueue ≠ [] := hg t hget
    rw [thread_eq hget]
    refine ⟨?_, h.serials, ?_, ?_⟩
    · intro x
      have hx := h.counts x
      have hnext := Drain.next_count hpoll x
      have hset := sum_map_set (Drain.held x) (t.next s.failedQueue).1 hget
      simp only [List.map_append, List.count_append]
      omega
    · intro u hu
      rcases List.mem_or_eq_of_mem_set hu with hold | hnew
      · exact h.noException u hold
      · rw [hnew]
        exact Drain.next_phase hpoll (h.noException t (List.mem_of_getElem? hget))
    · intro y hy
      rcases List.mem_append.mp hy with hold | hnew
      · exact h.ownPeer y hold
      · exact Drain.next_taken t s.failedQueue y hnew

theorem accounted_step (s : State) (e : Event) (h : s.Accounted) (hg : s.Unraced e) :
    (s.step e).Accounted := by
  cases e with
  | reput message => exact accounted_reput h message
  | call kind onionName => exact accounted_call h kind onionName
  | thread i => exact accounted_thread h hg

theorem accounted_run {es : List Event} (hg : machine.Guarded Unraced {} es) :
    (machine.run {} es).Accounted := by
  refine machine.guarded_invariant (I := Accounted) accounted_step hg ⟨fun x => rfl, rfl, ?_, ?_⟩
  · exact fun t ht => absurd ht List.not_mem_nil
  · exact fun y hy => absurd hy List.not_mem_nil

theorem oncePlaced {s : State} (h : s.Accounted) (hquiet : s.Quiet) : s.OncePlaced := by
  intro x hx
  have hnodup : s.entered.Nodup := by
    apply List.Nodup.of_map Failed.serial
    rw [h.serials]
    exact List.nodup_range
  have hheld : (s.drains.map (Drain.held x)).sum = 0 := by
    apply List.sum_eq_zero
    intro n hn
    obtain ⟨t, ht, rfl⟩ := List.mem_map.mp hn
    exact Drain.held_ended (hquiet t ht) x
  have hcounts := h.counts x
  rw [List.count_eq_one_of_mem hnodup hx] at hcounts
  omega

structure Exclusive (s : State) (before : List Drain) (t : Drain) : Prop where
  drains : s.drains = before ++ [t]
  ended : ∀ u ∈ before, u.Ended
  poll : t.phase = .poll → s.failedQueue ≠ []
  order : (t.front ++ s.failedQueue ++ t.rear).Sublist s.entered

def Ordered (s : State) : Prop :=
  (s.drains = [] ∧ s.InOrder) ∨ ∃ before t, s.Exclusive before t

theorem ordered_inOrder {s : State} (h : s.Ordered) : s.InOrder := by
  rcases h with ⟨_, horder⟩ | ⟨before, t, hex⟩
  · exact horder
  · refine List.Sublist.trans ?_ hex.order
    rw [List.append_assoc]
    exact (List.sublist_append_left _ _).trans (List.sublist_append_right _ _)

theorem ordered_reput {s : State} (h : s.Ordered) {message : FailedTextMessage}
    (hg : s.Alone (.reput message)) : (s.reput message).Ordered := by
  rcases h with ⟨hnone, horder⟩ | ⟨before, t, hex⟩
  · exact .inl ⟨hnone, horder.append (List.Sublist.refl _)⟩
  · have hrear : t.rear = [] := hg t (by rw [hex.drains]; exact List.mem_concat_self)
    refine .inr ⟨before, t, hex.drains, hex.ended, ?_, ?_⟩
    · exact fun _ => List.append_ne_nil_of_right_ne_nil _ (List.cons_ne_nil _ _)
    · have horder := hex.order
      rw [hrear, List.append_nil] at horder ⊢
      rw [reput, ← List.append_assoc]
      exact horder.append (List.Sublist.refl _)

theorem ordered_call {s : State} (h : s.Ordered) {kind : Kind} {onionName : String}
    (hg : s.Alone (.call kind onionName)) : (s.call kind onionName).Ordered := by
  refine .inr ⟨s.drains, _, rfl, hg, fun hpoll => Phase.noConfusion hpoll, ?_⟩
  have horder : s.InOrder := ordered_inOrder h
  simp only [call, Drain.front, Drain.rear, List.nil_append, List.append_nil]
  exact horder

theorem thread_ended {s : State} {i : Nat} {t : Drain} (hget : s.drains[i]? = some t)
    (h : t.Ended) : s.thread i = s := by
  obtain ⟨hi, rfl⟩ := List.getElem?_eq_some_iff.mp hget
  rw [thread_eq hget, Drain.next_ended h, List.append_nil, List.set_getElem_self hi]

theorem ordered_thread {s : State} (h : s.Ordered) (i : Nat) : (s.thread i).Ordered := by
  rcases h with ⟨hnone, horder⟩ | ⟨before, t, hex⟩
  · rw [thread_none (by rw [hnone]; rfl)]
    exact .inl ⟨hnone, horder⟩
  · cases hget : s.drains[i]? with
    | none =>
      rw [thread_none hget]
      exact .inr ⟨before, t, hex⟩
    | some u =>
      rw [hex.drains] at hget
      rcases lt_trichotomy i before.length with hlt | rfl | hgt
      · rw [List.getElem?_append_left hlt] at hget
        have hended := hex.ended u (List.mem_of_getElem? hget)
        rw [← List.getElem?_append_left hlt, ← hex.drains] at hget
        rw [thread_ended hget hended]
        exact .inr ⟨before, t, hex⟩
      · rw [List.getElem?_concat_length] at hget
        obtain rfl := Option.some.inj hget
        have hlast : s.drains[before.length]? = some t := by
          rw [hex.drains, List.getElem?_concat_length]
        rw [thread_eq hlast]
        refine .inr ⟨before, (t.next s.failedQueue).1, ?_, hex.ended, Drain.next_poll, ?_⟩
        · rw [hex.drains, List.set_append_right _ _ (le_refl _), Nat.sub_self]
          rfl
        · exact (Drain.next_order hex.poll).trans hex.order
      · rw [List.getElem?_eq_none] at hget
        · cases hget
        · rw [List.length_append, List.length_singleton]
          exact hgt

theorem ordered_step (s : State) (e : Event) (h : s.Ordered) (hg : s.Alone e) :
    (s.step e).Ordered := by
  cases e with
  | reput message => exact ordered_reput h hg
  | call kind onionName => exact ordered_call h hg
  | thread i => exact ordered_thread h i

theorem unraced_of_ordered {s : State} (h : s.Ordered) (e : Event) : s.Unraced e := by
  cases e with
  | reput message => trivial
  | call kind onionName => trivial
  | thread i =>
    intro u hu hpoll
    rcases h with ⟨hnone, _⟩ | ⟨before, t, hex⟩
    · rw [hnone] at hu
      cases hu
    · have hmem := List.mem_of_getElem? hu
      rw [hex.drains] at hmem
      rcases List.mem_append.mp hmem with hold | hlast
      · rcases hex.ended u hold with hended | hended <;> rw [hpoll] at hended <;> cases hended
      · obtain rfl := List.mem_singleton.mp hlast
        exact hex.poll hpoll

theorem both_run {es : List Event} (hg : machine.Guarded Alone {} es) :
    (machine.run {} es).Accounted ∧ (machine.run {} es).Ordered := by
  have hinit : State.Accounted {} :=
    ⟨fun x => rfl, rfl, fun t ht => absurd ht List.not_mem_nil,
      fun y hy => absurd hy List.not_mem_nil⟩
  refine machine.guarded_invariant (I := fun s => s.Accounted ∧ s.Ordered) ?_ hg
    ⟨hinit, .inl ⟨rfl, List.Sublist.refl _⟩⟩
  intro s e ⟨haccounted, hordered⟩ halone
  exact ⟨accounted_step s e haccounted (unraced_of_ordered hordered e),
    ordered_step s e hordered halone⟩

end State

namespace State

theorem exception_step (s : State) (e : Event) (h : ∃ t ∈ s.drains, t.phase = .nullPointer) :
    ∃ t ∈ (s.step e).drains, t.phase = .nullPointer := by
  obtain ⟨t, ht, hphase⟩ := h
  cases e with
  | reput message => exact ⟨t, ht, hphase⟩
  | call kind onionName => exact ⟨t, List.mem_append_left _ ht, hphase⟩
  | thread i =>
    obtain ⟨j, hj, rfl⟩ := List.mem_iff_getElem.mp ht
    cases hget : s.drains[i]? with
    | none => exact ⟨_, by rw [step, thread_none hget]; exact ht, hphase⟩
    | some u =>
      by_cases hij : i = j
      · subst hij
        have hended := thread_ended hget (.inr (by
          rw [List.getElem?_eq_getElem hj] at hget
          rw [← Option.some.inj hget]
          exact hphase))
        exact ⟨_, by rw [step, hended]; exact ht, hphase⟩
      · refine ⟨s.drains[j], ?_, hphase⟩
        rw [step, thread_eq hget]
        exact List.mem_iff_getElem.mpr ⟨j, by simpa using hj, List.getElem_set_ne hij _⟩

theorem exception_of_raced {s : State} {e : Event} (h : ¬ s.Unraced e) :
    ∃ t ∈ (s.step e).drains, t.phase = .nullPointer := by
  cases e with
  | reput message => exact absurd trivial h
  | call kind onionName => exact absurd trivial h
  | thread i =>
    rw [Unraced] at h
    push Not at h
    obtain ⟨t, hget, hphase, hempty⟩ := h
    have hi := (List.getElem?_eq_some_iff.mp hget).1
    refine ⟨(t.next s.failedQueue).1, ?_, ?_⟩
    · rw [step, thread_eq hget]
      exact List.mem_iff_getElem.mpr ⟨i, by simpa using hi, List.getElem_set_self _⟩
    · rw [hempty, Drain.next_poll_nil hphase]

theorem noException_run_iff (es : List Event) :
    (machine.run {} es).NoException ↔ machine.Guarded Unraced {} es := by
  constructor
  · have hrun : ∀ (es : List Event) (s : State), (machine.run s es).NoException →
        machine.Guarded Unraced s es := by
      intro es
      induction es with
      | nil => exact fun _ _ => trivial
      | cons e es ih =>
        intro s h
        refine ⟨?_, ih _ h⟩
        by_contra hraced
        obtain ⟨t, ht, hphase⟩ := machine.run_invariant
          (I := fun s => ∃ t ∈ s.drains, t.phase = .nullPointer) exception_step es
          (exception_of_raced hraced)
        exact h t ht hphase
    exact hrun es {}
  · exact fun hg => (accounted_run hg).noException

theorem advance {s : State} {i : Nat} {t t' : Drain} {queue : List Failed} {taken : List Taken}
    (hget : s.drains[i]? = some t) (hnext : t.next s.failedQueue = (t', queue, taken)) :
    ∃ s', machine.Reaches (fun _ e => e = .thread i) s s' ∧ s'.failedQueue = queue ∧
      s'.taken = s.taken ++ taken ∧ s'.drains[i]? = some t' := by
  have hi := (List.getElem?_eq_some_iff.mp hget).1
  have hreach : machine.Reaches (fun _ e => e = .thread i) s (s.thread i) :=
    Library.Machine.reaches_step (M := machine) (e := .thread i) rfl
  refine ⟨s.thread i, hreach, ?_, ?_, ?_⟩
  · rw [thread_eq hget, hnext]
  · rw [thread_eq hget, hnext]
  · rw [thread_eq hget, hnext]
    exact List.getElem?_set_self hi

theorem putBack_alone {s : State} {i : Nat} {t : Drain} {rest : List Failed}
    (hget : s.drains[i]? = some t) (hphase : t.phase = .put rest) :
    ∃ s', machine.Reaches (fun _ e => e = .thread i) s s' ∧
      s'.failedQueue = s.failedQueue ++ rest ∧ s'.taken = s.taken ∧
      ∃ t', s'.drains[i]? = some t' ∧ t'.phase = .returned := by
  induction rest generalizing s t with
  | nil =>
    obtain ⟨s', hreach, hqueue, htaken, hget'⟩ := advance hget (Drain.next_put_nil hphase _)
    rw [List.append_nil] at htaken ⊢
    exact ⟨s', hreach, hqueue, htaken, _, hget', rfl⟩
  | cons tmp rest ih =>
    obtain ⟨s₁, hreach₁, hqueue₁, htaken₁, hget₁⟩ := advance hget (Drain.next_put_cons hphase _)
    obtain ⟨s', hreach, hqueue, htaken, hended⟩ := ih hget₁ rfl
    refine ⟨s', Library.Machine.reaches_trans hreach₁ hreach, ?_, ?_, hended⟩
    · rw [hqueue, hqueue₁, List.append_assoc, List.singleton_append]
    · rw [htaken, htaken₁, List.append_nil]

theorem drain_alone {s : State} {i : Nat} {t : Drain} {queue : List Failed}
    (hqueue : s.failedQueue = queue) (hget : s.drains[i]? = some t)
    (hphase : t.phase = .isEmpty) :
    ∃ s', machine.Reaches (fun _ e => e = .thread i) s s' ∧
      s'.failedQueue = t.tmpList ++
        queue.filter (fun x => ¬ x.message.onionName = t.onionName) ∧
      s'.taken.map Taken.failed = s.taken.map Taken.failed ++
        queue.filter (fun x => x.message.onionName = t.onionName) ∧
      ∃ t', s'.drains[i]? = some t' ∧ t'.phase = .returned := by
  induction queue generalizing s t with
  | nil =>
    have hnext := Drain.next_isEmpty_nil hphase
    rw [← hqueue] at hnext
    obtain ⟨s₁, hreach₁, hqueue₁, htaken₁, hget₁⟩ := advance hget hnext
    obtain ⟨s', hreach, hback, htaken, hended⟩ := putBack_alone hget₁ rfl
    refine ⟨s', Library.Machine.reaches_trans hreach₁ hreach, ?_, ?_, hended⟩
    · rw [hback, hqueue₁, hqueue]
      exact (List.append_nil _).symm
    · rw [htaken, htaken₁, List.append_nil]
      exact (List.append_nil _).symm
  | cons tmp rest ih =>
    have htest := Drain.next_isEmpty_cons hphase tmp rest
    rw [← hqueue] at htest
    obtain ⟨s₁, hreach₁, hqueue₁, htaken₁, hget₁⟩ := advance hget htest
    have hpoll := Drain.next_poll_cons (t := { t with phase := .poll }) rfl tmp rest
    rw [← hqueue, ← hqueue₁] at hpoll
    by_cases hname : tmp.message.onionName = t.onionName
    · rw [if_pos hname] at hpoll
      obtain ⟨s₂, hreach₂, hqueue₂, htaken₂, hget₂⟩ := advance hget₁ hpoll
      obtain ⟨s', hreach, hrest, htaken, hended⟩ := ih hqueue₂ hget₂ rfl
      refine ⟨s', Library.Machine.reaches_trans hreach₁
        (Library.Machine.reaches_trans hreach₂ hreach), ?_, ?_, hended⟩
      · rw [hrest, List.filter_cons_of_neg (by simpa using hname)]
      · rw [htaken, htaken₂, htaken₁, List.filter_cons_of_pos (by simpa using hname)]
        simp
    · rw [if_neg hname] at hpoll
      obtain ⟨s₂, hreach₂, hqueue₂, htaken₂, hget₂⟩ := advance hget₁ hpoll
      obtain ⟨s', hreach, hrest, htaken, hended⟩ := ih hqueue₂ hget₂ rfl
      refine ⟨s', Library.Machine.reaches_trans hreach₁
        (Library.Machine.reaches_trans hreach₂ hreach), ?_, ?_, hended⟩
      · rw [hrest, List.filter_cons_of_pos (by simpa using hname)]
        simp
      · rw [htaken, htaken₂, htaken₁, List.filter_cons_of_neg (by simpa using hname)]
        simp

theorem drain_alone_resendText (P : Platform) (env : Env) {d : Device} {s : State} {i : Nat}
    {t : Drain} (conn : ConnectionStatusItem)
    (hqueue : d.failedQueue = s.failedQueue.map Failed.message) (hget : s.drains[i]? = some t)
    (hphase : t.phase = .isEmpty) (hfresh : t.tmpList = []) :
    ∃ s', machine.Reaches (fun _ e => e = .thread i) s s' ∧
      (d.resendText P env t.onionName conn).failedQueue = s'.failedQueue.map Failed.message := by
  obtain ⟨s', hreach, hrest, _, _⟩ := drain_alone rfl hget hphase
  have hothers : (d.resendText P env t.onionName conn).failedQueue =
      d.failedQueue.filter (fun tmp => ¬ tmp.onionName = t.onionName) := rfl
  refine ⟨s', hreach, ?_⟩
  rw [hothers, hrest, hfresh, List.nil_append, hqueue, List.filter_map]
  rfl

end State

theorem drained_texts_placed (es : List Event) :
    ((machine.run {} es).NoException ↔ machine.Guarded State.Unraced {} es) ∧
    (machine.Guarded State.Unraced {} es → (machine.run {} es).OwnPeer ∧
      ((machine.run {} es).Quiet → (machine.run {} es).OncePlaced)) ∧
    (machine.Guarded State.Alone {} es → (machine.run {} es).NoException ∧
      (machine.run {} es).OwnPeer ∧ ((machine.run {} es).Quiet →
        (machine.run {} es).OncePlaced ∧ (machine.run {} es).InOrder)) := by
  refine ⟨State.noException_run_iff es, ?_, ?_⟩
  · intro hg
    have h := State.accounted_run hg
    exact ⟨h.ownPeer, State.oncePlaced h⟩
  · intro hg
    obtain ⟨h, hordered⟩ := State.both_run hg
    exact ⟨h.noException, h.ownPeer,
      fun hquiet => ⟨State.oncePlaced h hquiet, State.ordered_inOrder hordered⟩⟩

def toCarol : FailedTextMessage := { onionName := "carol", rawMessage := "hi carol" }

def toDave : FailedTextMessage := { onionName := "dave", rawMessage := "hi dave" }

def racing : List Event :=
  [.reput toCarol, .reput toDave, .call .tryResend "bob", .call .processOfflineMessage "erin",
    .thread 0, .thread 0, .thread 0, .thread 1, .thread 1, .thread 0,
    .thread 1, .thread 1, .thread 1]

theorem racing_drains_lose_text : ¬ ∀ es : List Event, (machine.run {} es).NoException ∧
    ((machine.run {} es).Quiet → (machine.run {} es).OncePlaced ∧ (machine.run {} es).InOrder) := by
  intro h
  have hracing := h racing
  revert hracing
  decide +kernel

def oneByOne : List Event :=
  [.reput toCarol, .reput toDave, .call .tryResend "dave", .thread 0, .thread 0, .thread 0,
    .thread 0, .thread 0, .thread 0, .thread 0, .call .processOfflineMessage "erin", .thread 1,
    .thread 1, .thread 1, .thread 1, .thread 1]

theorem drained_texts_placed_oneByOne : (machine.run {} oneByOne).NoException ∧
    (machine.run {} oneByOne).OwnPeer ∧ ((machine.run {} oneByOne).Quiet →
      (machine.run {} oneByOne).OncePlaced ∧ (machine.run {} oneByOne).InOrder) :=
  (drained_texts_placed oneByOne).2.2 (by decide +kernel)

end FailedQueue

end TorChat
