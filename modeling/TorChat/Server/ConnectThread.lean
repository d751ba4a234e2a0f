import TorChat.Server.Step

namespace TorChat

namespace Constant

def connectRetryCount : Int := 3
def connectTimeOut : Nat := 10000

end Constant

inductive Attempt where
  | success (socket : Nat)
  | socketException (message : Option String)
  | ioException
  deriving DecidableEq, Repr

structure ConnectionEvent where
  message : String
  peerHostname : String
  deriving DecidableEq, Repr

structure ChatScreen where
  orionId : String
  onLine : Bool
  onlineStatus : String
  handShakes : List String := []
  offlineMessages : List String := []
  deriving DecidableEq, Repr

namespace ChatScreen

def createConnectionSuccess (screen : ChatScreen) (event : ConnectionEvent) : ChatScreen :=
  if event.message = "success" then
    { screen with handShakes := screen.handShakes ++ [screen.orionId], onLine := true }
  else
    { screen with
      onlineStatus := "0", onLine := false
      offlineMessages := screen.offlineMessages ++ [event.peerHostname] }

def react (screen : ChatScreen) (events : List ConnectionEvent) : ChatScreen :=
  events.foldl createConnectionSuccess screen

end ChatScreen

structure Connecting where
  device : Device
  posted : List ConnectionEvent := []
  status : Nat := 0
  slept : Nat := 0
  threw : Bool := false

namespace CreateConnectionThread

variable (mail : MailItem) (purpose : Nat) (attempts : Nat → Attempt)

def addConnection (d : Device) (socket : Nat) : Device :=
  { d with
    conns := d.conns.addNewConnection {
      onionName := mail.onionName, socket := socket, purpose := purpose }
    handShakeMessageHandlerByOnionName :=
      match d.handShakeMessageHandlerByOnionName.get? mail.onionName with
      | some _ => d.handShakeMessageHandlerByOnionName
      | none => d.handShakeMessageHandlerByOnionName.put mail.onionName {
          remoteOnion := mail.onionName, localPrivateKey := d.privateKey
          remotePublickey := mail.publicKey } }

-- a SocketException without a message ends the thread with a NullPointerException
def connectLoop : Nat → Nat → Connecting → Connecting
  | 0, _, c => c
  | left + 1, count, c =>
      match attempts count with
      | .success socket =>
          { c with
            device := addConnection mail purpose c.device socket
            status := 1
            posted := c.posted ++ [{ message := "success", peerHostname := mail.onionName }] }
      | .socketException none => { c with threw := true }
      | .socketException (some message) =>
          connectLoop left (count + 1)
            (if message = "SOCKS: Host unreachable" then
              { c with slept := c.slept + Constant.connectTimeOut }
            else c)
      | .ioException => connectLoop left (count + 1) c

def connect (mailItem : Option MailItem) (purpose : Nat) (retryCount : Int)
    (attempts : Nat → Attempt) (d : Device) : Connecting :=
  match mailItem with
  | none => { device := d }
  | some mail =>
      let c := connectLoop mail purpose attempts retryCount.toNat 0 { device := d }
      if c.threw then c
      else { c with
        posted := c.posted ++ [{ message := "fail", peerHostname := mail.onionName }] }

def Fails : Attempt → Prop
  | .success _ => False
  | .socketException message => message.isSome
  | .ioException => True

def Added (mailItem : Option MailItem) (purpose : Nat) (d d' : Device) : Prop :=
  ∃ mail socket, mailItem = some mail ∧
    d'.conns = d.conns.addNewConnection {
      onionName := mail.onionName, socket := socket, purpose := purpose }

def OneOutcome (mailItem : Option MailItem) (purpose : Nat) (retryCount : Int)
    (attempts : Nat → Attempt) (d : Device) : Prop :=
  let c := connect mailItem purpose retryCount attempts d
  ∃ event, c.posted = [event] ∧
    (event.message = "success" ↔ Added mailItem purpose d c.device) ∧
    ∀ screen : ChatScreen,
      (screen.react c.posted).onLine = true ↔ Added mailItem purpose d c.device

-- either every attempt fails and the loop runs out, or the first that does not ends it
def LoopEnds (left count : Nat) (c c' : Connecting) : Prop :=
  ((∀ k < left, Fails (attempts (count + k))) ∧ c'.posted = c.posted ∧
      c'.device = c.device ∧ c'.threw = c.threw) ∨
    (∃ k < left, ¬ Fails (attempts (count + k))) ∧
      ((c'.threw = c.threw ∧
          c'.posted = c.posted ++ [{ message := "success", peerHostname := mail.onionName }] ∧
          ∃ socket, c'.device = addConnection mail purpose c.device socket) ∨
        c'.threw = true ∧ c'.posted = c.posted)

variable {mail purpose attempts}

theorem loopEnds_failed {left count : Nat} {c c₁ c' : Connecting}
    (hfails : Fails (attempts count)) (hposted : c₁.posted = c.posted)
    (hdevice : c₁.device = c.device) (hthrew : c₁.threw = c.threw)
    (h : LoopEnds mail purpose attempts left (count + 1) c₁ c') :
    LoopEnds mail purpose attempts (left + 1) count c c' := by
  rw [LoopEnds, hposted, hdevice, hthrew] at h
  rcases h with ⟨hall, hrest⟩ | ⟨⟨k, hk, hbad⟩, hrest⟩
  · refine .inl ⟨fun k hk => ?_, hrest⟩
    cases k with
    | zero => exact hfails
    | succ k =>
      have hk' := hall k (by omega)
      rwa [Nat.add_right_comm count 1 k] at hk'
  · refine .inr ⟨⟨k + 1, by omega, ?_⟩, hrest⟩
    rwa [Nat.add_right_comm count 1 k] at hbad

theorem connectLoop_ends (left count : Nat) (c : Connecting) :
    LoopEnds mail purpose attempts left count c
      (connectLoop mail purpose attempts left count c) := by
  induction left generalizing count c with
  | zero => exact .inl ⟨fun k hk => absurd hk (Nat.not_lt_zero k), rfl, rfl, rfl⟩
  | succ left ih =>
    rw [connectLoop]
    cases hattempt : attempts count with
    | success socket =>
      refine .inr ⟨⟨0, Nat.succ_pos left, ?_⟩, .inl ⟨rfl, rfl, socket, rfl⟩⟩
      rw [Nat.add_zero, hattempt]
      exact id
    | socketException message =>
      cases message with
      | none =>
        refine .inr ⟨⟨0, Nat.succ_pos left, ?_⟩, .inr ⟨rfl, rfl⟩⟩
        rw [Nat.add_zero, hattempt]
        exact Bool.false_ne_true
      | some message =>
        have hfails : Fails (attempts count) := by
          rw [hattempt]
          exact rfl
        dsimp only
        split
        · exact loopEnds_failed hfails rfl rfl rfl (ih (count + 1) _)
        · exact loopEnds_failed hfails rfl rfl rfl (ih (count + 1) c)
    | ioException =>
      have hfails : Fails (attempts count) := by
        rw [hattempt]
        exact trivial
      exact loopEnds_failed hfails rfl rfl rfl (ih (count + 1) c)

theorem addNewConnection_ne (conns : Connections) (item : ConnectionStatusItem) :
    conns ≠ conns.addNewConnection item := by
  intro h
  have hget := congrArg (fun c => c.allConByOnionName.get? item.onionName) h
  simp only [Connections.addNewConnection, Connections.setItems,
    Library.HashMap.get?_put, if_true] at hget
  have hlength := congrArg (fun items => (items.getD []).length) hget
  simp only [ConnectionItems.addNewConn, Option.getD_some, List.length_append,
    List.length_singleton] at hlength
  omega

theorem connect_failed (mail : MailItem) (purpose : Nat) (d : Device) {retryCount : Int}
    (h : ∀ k < retryCount.toNat, Fails (attempts k)) :
    (connect (some mail) purpose retryCount attempts d).posted =
        [{ message := "fail", peerHostname := mail.onionName }] ∧
      (connect (some mail) purpose retryCount attempts d).device = d := by
  have hends : LoopEnds mail purpose attempts retryCount.toNat 0 { device := d }
      (connectLoop mail purpose attempts retryCount.toNat 0 { device := d }) :=
    connectLoop_ends retryCount.toNat 0 { device := d }
  rcases hends with ⟨_, hposted, hdevice, hthrew⟩ | ⟨⟨k, hk, hbad⟩, _⟩
  · rw [connect, if_neg (by rw [hthrew]; exact Bool.false_ne_true)]
    exact ⟨by rw [hposted]; rfl, hdevice⟩
  · rw [Nat.zero_add] at hbad
    exact absurd (h k hk) hbad

-- after a connection the loop is left by break, and the event for a failure is posted all the same
theorem connect_not_failed (mail : MailItem) (purpose : Nat) (d : Device) {retryCount : Int}
    (h : ∃ k < retryCount.toNat, ¬ Fails (attempts k)) :
    (connect (some mail) purpose retryCount attempts d).posted = [] ∨
      (connect (some mail) purpose retryCount attempts d).posted =
        [{ message := "success", peerHostname := mail.onionName },
          { message := "fail", peerHostname := mail.onionName }] := by
  have hends : LoopEnds mail purpose attempts retryCount.toNat 0 { device := d }
      (connectLoop mail purpose attempts retryCount.toNat 0 { device := d }) :=
    connectLoop_ends retryCount.toNat 0 { device := d }
  rcases hends with ⟨hall, _⟩ | ⟨_, ⟨hthrew, hposted, _⟩ | ⟨hthrew, hposted⟩⟩
  · obtain ⟨k, hk, hbad⟩ := h
    have hfails := hall k hk
    rw [Nat.zero_add] at hfails
    exact absurd hfails hbad
  · refine .inr ?_
    rw [connect, if_neg (by rw [hthrew]; exact Bool.false_ne_true), hposted]
    rfl
  · refine .inl ?_
    rw [connect, if_pos hthrew, hposted]

-- the last event is the one for a failure, so the screen goes off line also when it connected
theorem posted_shows_offLine {d : Device} {retryCount : Int} (screen : ChatScreen)
    (hposted : (connect (some mail) purpose retryCount attempts d).posted ≠ []) :
    (screen.react (connect (some mail) purpose retryCount attempts d).posted).onLine = false := by
  by_cases hall : ∀ k < retryCount.toNat, Fails (attempts k)
  · rw [(connect_failed mail purpose d hall).1]
    rfl
  · simp only [not_forall, exists_prop] at hall
    rcases connect_not_failed mail purpose d hall with hnone | htwo
    · exact absurd hnone hposted
    · rw [htwo]
      rfl

theorem not_added_self (mailItem : Option MailItem) (d : Device) :
    ¬ Added mailItem purpose d d := by
  rintro ⟨mail, socket, _, hconns⟩
  exact addNewConnection_ne d.conns _ hconns

theorem one_outcome_iff (mailItem : Option MailItem) (purpose : Nat) (retryCount : Int)
    (attempts : Nat → Attempt) (d : Device) :
    OneOutcome mailItem purpose retryCount attempts d ↔
      mailItem ≠ none ∧ ∀ k < retryCount.toNat, Fails (attempts k) := by
  cases mailItem with
  | none =>
    refine ⟨?_, fun h => absurd rfl h.1⟩
    rintro ⟨event, hposted, _⟩
    cases hposted
  | some mail =>
    constructor
    · rintro ⟨event, hposted, _⟩
      refine ⟨nofun, ?_⟩
      by_contra hbad
      simp only [not_forall, exists_prop] at hbad
      rcases connect_not_failed mail purpose d hbad with hnone | htwo
      · rw [hnone] at hposted
        cases hposted
      · rw [htwo] at hposted
        cases hposted
    · rintro ⟨_, hfails⟩
      obtain ⟨hposted, hdevice⟩ := connect_failed mail purpose d hfails
      refine ⟨_, hposted, ?_, fun screen => ?_⟩
      · rw [hdevice]
        have hfail : "fail" ≠ "success" := by decide
        exact ⟨fun h => absurd h hfail, fun h => absurd h (not_added_self _ d)⟩
      · rw [hdevice, hposted]
        exact ⟨fun h => absurd h Bool.false_ne_true, fun h => absurd h (not_added_self _ d)⟩

def friend : MailItem := { onionName := "bob", onionHash := [], publicKey := ⟨2⟩ }

def caller : Device :=
  { onionName := "alice", privateKey := ⟨1⟩, keys := { keyFile := [5] } }

theorem caller_connects_and_fails : ¬ OneOutcome (some friend) Constant.socketPurposeText
    Constant.connectRetryCount (fun _ => .success 7) caller := by
  rintro ⟨event, hposted, _⟩
  cases hposted

end CreateConnectionThread

end TorChat
