import TorChat.Transfer.FileMoves
import TorChat.Library.Machine

namespace TorChat

open Library (Bytes Machine)
open FileTraffic

namespace DevicePair

inductive Role where
  | sender
  | receiver
  deriving DecidableEq, Repr

def Role.other : Role → Role
  | .sender => .receiver
  | .receiver => .sender

-- the two devices, and how many cells of each the Reader of the other has taken
structure Pair where
  device : Role → Device
  delivered : Role → Nat

inductive Event where
  | act (role : Role) (env : Env) (event : Device.Event)
  | deliver (role : Role)

def Pair.set (pair : Pair) (role : Role) (d : Device) : Pair :=
  { pair with device := fun s => if s = role then d else pair.device s }

def Pair.take (pair : Pair) (role : Role) : Pair :=
  { pair with delivered := fun s =>
      if s = role then pair.delivered s + 1 else pair.delivered s }

section Statement

variable (P : Platform) (channel : Role → Channel) (fileName : String)

def step (pair : Pair) : Event → Pair
  | .act role env event => pair.set role ((pair.device role).step P env event)
  | .deliver role =>
      match (sent (channel role) (pair.device role))[pair.delivered role]? with
      | none => pair
      | some cell => (pair.take role).set role.other
          ((pair.device role.other).receiveCell (channel role.other).socket cell)

def machine : Machine Pair Event := ⟨step P channel⟩

def Usual : Device.Event → Prop
  | .read => True
  | .write => True
  | .register _ => True
  | .sendText _ _ _ => True
  | .sendFile fileFullPath _ _ _ => OtherName P fileName (FileTask.getName fileFullPath)
  | .sendBytes fileFullPath _ _ _ => OtherName P fileName fileFullPath
  | _ => False

def Faultless : Event → Prop
  | .act _ env event => (∀ n, env.sent n = true) ∧ Usual P fileName event
  | .deliver _ => True

-- what one device has said about the file and the other has not read
def traffic (pair : Pair) (role : Role) : List FileCell :=
  inbox P fileName (pair.device role.other) ++
    (flight P (channel role) fileName (pair.device role) (pair.delivered role) ++
      waiting P (channel role) fileName (pair.device role))

structure Wired (pair : Pair) : Prop where
  established : ∀ role, Established P (channel role) fileName (pair.device role)
  delivered : ∀ role, pair.delivered role ≤ (sent (channel role) (pair.device role)).length
  silent : waiting P (channel .receiver) fileName (pair.device .receiver) = []

-- the pair after a step that says and reads nothing about the file
structure Same (pair pair' : Pair) : Prop where
  wired : Wired P channel fileName pair'
  traffic : ∀ role, traffic P channel fileName pair' role = traffic P channel fileName pair role
  own : ∀ role, own fileName (pair'.device role) = own fileName (pair.device role)

def popped (pair : Pair) (role : Role) (rest : List (MessageItem Bytes)) : Pair :=
  pair.set role { pair.device role with recieveQueue := rest }

end Statement

variable {P : Platform} {env : Env} {channel : Role → Channel} {fileName : String} {pair : Pair}
  {role : Role} {d' : Device} {out queue : List FileCell} {o : Own}

section Traffic

theorem other_ne (role : Role) : role.other ≠ role := by cases role <;> decide

theorem other_other (role : Role) : role.other.other = role := by cases role <;> rfl

theorem device_set_self (pair : Pair) (role : Role) (d : Device) :
    (pair.set role d).device role = d := if_pos rfl

theorem device_set_other (pair : Pair) (role : Role) (d : Device) :
    (pair.set role d).device role.other = pair.device role.other := if_neg (other_ne role)

theorem set_set (pair : Pair) (role : Role) (d d' : Device) :
    (pair.set role d).set role d' = pair.set role d' := by
  rw [Pair.set, Pair.set, Pair.set]
  congr 1
  funext s
  dsimp only
  split
  · rfl
  · rfl

theorem set_self (pair : Pair) (role : Role) : pair.set role (pair.device role) = pair := by
  rw [Pair.set]
  congr 1
  funext s
  split
  · rename_i hs
    rw [hs]
  · rfl

theorem eq_or_other (s role : Role) : s = role ∨ s = role.other := by
  cases s <;> cases role <;> decide

theorem traffic_acts_self (hle : pair.delivered role ≤
      (sent (channel role) (pair.device role)).length)
    (hacts : Acts P (channel role) fileName (pair.device role) d' out queue o)
    (horder : out = [] ∨ waiting P (channel role) fileName (pair.device role) = []) :
    traffic P channel fileName (pair.set role d') role =
      traffic P channel fileName pair role ++ (out ++ queue) := by
  have hflight := flight_acts hacts hle
  have hwaiting := waiting_acts hacts
  rw [traffic, traffic, device_set_self, device_set_other, hwaiting]
  change _ ++ (flight P (channel role) fileName d' (pair.delivered role) ++ _) = _
  rw [hflight]
  rcases horder with rfl | hsilent
  · simp only [List.append_nil, List.nil_append, List.append_assoc]
  · simp only [hsilent, List.nil_append, List.append_nil, List.append_assoc]

theorem traffic_acts_other
    (hacts : Acts P (channel role) fileName (pair.device role) d' out queue o) :
    traffic P channel fileName (pair.set role d') role.other =
      traffic P channel fileName pair role.other := by
  rw [traffic, traffic, other_other, device_set_self, device_set_other, inbox_acts hacts]
  rfl

theorem wired_set (hwired : Wired P channel fileName pair)
    (hestablished : Established P (channel role) fileName d')
    (hsent : pair.delivered role ≤ (sent (channel role) d').length)
    (hsilent : role = .receiver → waiting P (channel role) fileName d' = []) :
    Wired P channel fileName (pair.set role d') where
  established s := by
    rcases eq_or_other s role with rfl | rfl
    · rw [device_set_self]
      exact hestablished
    · rw [device_set_other]
      exact hwired.established role.other
  delivered s := by
    rcases eq_or_other s role with rfl | rfl
    · rw [device_set_self]
      exact hsent
    · rw [device_set_other]
      exact hwired.delivered role.other
  silent := by
    cases role with
    | sender => exact hwired.silent
    | receiver => exact hsilent rfl

theorem wired_acts (hwired : Wired P channel fileName pair)
    (hacts : Acts P (channel role) fileName (pair.device role) d' out queue o)
    (hqueue : role = .receiver → queue = []) :
    Wired P channel fileName (pair.set role d') := by
  refine wired_set hwired hacts.established ((hwired.delivered role).trans (sent_acts hacts)) ?_
  rintro rfl
  rw [waiting_acts hacts, hwired.silent, hqueue rfl]
  rfl

end Traffic

section Steps

theorem same_acts (hwired : Wired P channel fileName pair)
    (hacts : Acts P (channel role) fileName (pair.device role) d' [] []
      (own fileName (pair.device role))) : Same P channel fileName pair (pair.set role d') where
  wired := wired_acts hwired hacts (fun _ => rfl)
  traffic s := by
    rcases eq_or_other s role with rfl | rfl
    · rw [traffic_acts_self (hwired.delivered s) hacts (.inl rfl), List.append_nil,
        List.append_nil]
    · exact traffic_acts_other hacts
  own s := by
    rcases eq_or_other s role with rfl | rfl
    · rw [device_set_self, hacts.own]
    · rw [device_set_other]

theorem same_write (hsent : ∀ n, env.sent n = true) (hwired : Wired P channel fileName pair)
    (role : Role) :
    Same P channel fileName pair (pair.set role ((pair.device role).write env)) := by
  obtain ⟨hestablished, hdelivered, hinbox, hown, xs, hwaiting, hflight⟩ :=
    heard_write hsent (hwired.established role) (hwired.delivered role)
  refine ⟨wired_set hwired hestablished hdelivered ?_, fun s => ?_, fun s => ?_⟩
  · rintro rfl
    have hsilent := hwired.silent
    rw [hwaiting] at hsilent
    exact (List.append_eq_nil_iff.mp hsilent).2
  · rcases eq_or_other s role with rfl | rfl
    · rw [traffic, traffic, device_set_self, device_set_other, hwaiting]
      change _ ++ (flight P (channel s) fileName _ (pair.delivered s) ++ _) = _
      rw [hflight, List.append_assoc]
    · rw [traffic, traffic, other_other, device_set_self, device_set_other, hinbox]
      rfl
  · rcases eq_or_other s role with rfl | rfl
    · rw [device_set_self, hown]
    · rw [device_set_other]

theorem wired_take (hwired : Wired P channel fileName pair)
    (hlt : pair.delivered role < (sent (channel role) (pair.device role)).length) :
    Wired P channel fileName (pair.take role) := by
  refine ⟨hwired.established, fun s => ?_, hwired.silent⟩
  rw [Pair.take]
  dsimp only
  split
  · rename_i hs
    rw [hs]
    exact hlt
  · exact hwired.delivered s

theorem said_channel (hkey : (channel .receiver).sharedKey = (channel .sender).sharedKey)
    (role : Role) (cells : List Cell) :
    said P (channel role.other) fileName cells = said P (channel role) fileName cells := by
  have hsame : (channel role.other).sharedKey = (channel role).sharedKey := by
    cases role with
    | sender => exact hkey
    | receiver => exact hkey.symm
  rw [said, said, hsame]

theorem same_deliver (hkey : (channel .receiver).sharedKey = (channel .sender).sharedKey)
    (hwired : Wired P channel fileName pair) (role : Role) :
    Same P channel fileName pair (step P channel pair (.deliver role)) := by
  rw [step]
  split
  · exact ⟨hwired, fun _ => rfl, fun _ => rfl⟩
  · rename_i cell hcell
    obtain ⟨hlt, hget⟩ := List.getElem?_eq_some_iff.mp hcell
    obtain ⟨hestablished, hsent, hqueue, hinbox, hown⟩ :=
      heard_receiveCell (hwired.established role.other) cell
    have htaken := wired_take hwired hlt
    have hself (d : Device) : ((pair.take role).set role.other d).device role =
        pair.device role := if_neg (other_ne role).symm
    refine ⟨wired_set htaken hestablished ?_ (fun hrole => ?_), fun s => ?_, fun s => ?_⟩
    · rw [hsent]
      exact htaken.delivered role.other
    · have hsilent := hwired.silent
      rw [← hrole] at hsilent
      rw [waiting, hqueue]
      exact hsilent
    · rcases eq_or_other s role with rfl | rfl
      · have hnext : flight P (channel s) fileName (pair.device s) (pair.delivered s) =
            said P (channel s) fileName [cell] ++
              flight P (channel s) fileName (pair.device s) (pair.delivered s + 1) := by
          rw [flight, List.drop_eq_getElem_cons hlt, hget, ← List.singleton_append, said_append]
          rfl
        have hcount (d : Device) : ((pair.take s).set s.other d).delivered s =
            pair.delivered s + 1 := if_pos rfl
        rw [traffic, traffic, hself, hcount, device_set_self, hinbox, said_channel hkey, hnext]
        simp only [List.append_assoc]
      · have hcount (d : Device) : ((pair.take role).set role.other d).delivered role.other =
            pair.delivered role.other := if_neg (other_ne role)
        rw [traffic, traffic, other_other, hself, hcount, device_set_self, flight, hsent, waiting,
          hqueue]
        rfl
    · rcases eq_or_other s role with rfl | rfl
      · rw [hself]
      · rw [device_set_self, hown]

end Steps

section Reading

variable {item : MessageItem Bytes} {rest : List (MessageItem Bytes)}

theorem wired_popped (hwired : Wired P channel fileName pair)
    (hqueue : (pair.device role).recieveQueue = item :: rest) :
    Wired P channel fileName (popped pair role rest) := by
  have hestablished := hwired.established role
  refine wired_set hwired ?_ (hwired.delivered role) (fun hrole => ?_)
  · obtain ⟨hkeys, hconns, htransport, htasks, hregistering, hsend, hrecieve⟩ := hestablished
    exact ⟨hkeys, hconns, htransport, htasks, hregistering, hsend,
      fun i hi => hrecieve i (hqueue ▸ List.mem_cons_of_mem item hi)⟩
  · subst hrole
    exact hwired.silent

theorem traffic_popped_self (pair : Pair) (role : Role) (rest : List (MessageItem Bytes)) :
    traffic P channel fileName (popped pair role rest) role =
      traffic P channel fileName pair role := by
  rw [popped, traffic, traffic, device_set_self, device_set_other]
  rfl

theorem traffic_popped_other (hqueue : (pair.device role).recieveQueue = item :: rest) :
    traffic P channel fileName pair role.other =
      (FileCell.heard P (nameHash P fileName) item.data).toList ++
        traffic P channel fileName (popped pair role rest) role.other := by
  rw [popped, traffic, traffic, other_other, device_set_self, device_set_other, inbox, inbox,
    hqueue, List.filterMap_cons]
  cases FileCell.heard P (nameHash P fileName) item.data with
  | none => rfl
  | some x => rfl

theorem own_popped (pair : Pair) (role s : Role) (rest : List (MessageItem Bytes)) :
    own fileName ((popped pair role rest).device s) = own fileName (pair.device s) := by
  rcases eq_or_other s role with rfl | rfl
  · rw [popped, device_set_self]
    rfl
  · rw [popped, device_set_other]

variable (env) in
theorem read_popped (hwired : Wired P channel fileName pair)
    (hqueue : (pair.device role).recieveQueue = item :: rest) :
    Addressed (channel role) item ∧
    pair.set role ((pair.device role).read P env) =
      (popped pair role rest).set role
        (((popped pair role rest).device role).dataMessageHandle P env item) := by
  have hitem := (hwired.established role).recieveQueue item (hqueue ▸ List.mem_cons_self)
  refine ⟨hitem, ?_⟩
  rw [popped, set_set, device_set_self, Device.read, hqueue]
  dsimp only
  rw [if_neg (by rw [hitem.1]; decide), if_pos hitem.1]

theorem same_popped (hwired : Wired P channel fileName pair)
    (hqueue : (pair.device role).recieveQueue = item :: rest)
    (hnone : FileCell.heard P (nameHash P fileName) item.data = none) :
    Same P channel fileName pair (popped pair role rest) where
  wired := wired_popped hwired hqueue
  traffic s := by
    rcases eq_or_other s role with rfl | rfl
    · exact traffic_popped_self pair s rest
    · rw [traffic_popped_other hqueue, hnone]
      rfl
  own s := own_popped pair role s rest

theorem same_trans {pair₀ pair' : Pair} (h : Same P channel fileName pair₀ pair)
    (h' : Same P channel fileName pair pair') : Same P channel fileName pair₀ pair' :=
  ⟨h'.wired, fun s => (h'.traffic s).trans (h.traffic s), fun s => (h'.own s).trans (h.own s)⟩

theorem same_read (hkey : (channel role).keyFile ≠ []) (hsent : ∀ n, env.sent n = true)
    (hwired : Wired P channel fileName pair)
    (hqueue : (pair.device role).recieveQueue = item :: rest)
    (hnone : FileCell.heard P (nameHash P fileName) item.data = none) :
    Same P channel fileName pair (pair.set role ((pair.device role).read P env)) := by
  obtain ⟨hitem, hread⟩ := read_popped env hwired hqueue
  have hpopped := same_popped hwired hqueue hnone
  rw [hread]
  exact same_trans hpopped (same_acts hpopped.wired (acts_dataMessageHandle_unheard hsent hkey
    (hpopped.wired.established role) hitem hnone))

end Reading

end DevicePair

end TorChat
