import TorChat.Keys.Agreement
import TorChat.Message.HandShakeCell
import TorChat.Server.ConnectionSlot

namespace TorChat

open Library (Bytes Machine)

namespace SessionOrder

inductive Step where
  | request
  | auth
  | exchange
  | done
  deriving DecidableEq, Repr

def Step.answer : Step → List Step
  | .request => [.auth]
  | .auth => [.exchange]
  | .exchange => [.done]
  | .done => []

def Step.messageType : Step → Nat
  | .request => Constant.sessionRequest
  | .auth => Constant.sessionAuth
  | .exchange => Constant.sessionExchange
  | .done => Constant.sessionDone

-- DONE needs no answer; every other cell is answered on the same socket
def Step.answered (env : Env) : Step → Bool
  | .done => true
  | _ => env.sent 0

def Step.Follows (steps : List Step) : Step → Prop
  | .request => True
  | .auth => True
  | .exchange => List.Sublist [.request, .auth] steps
  | .done => List.Sublist [.request, .auth, .exchange] steps

instance (steps : List Step) (s : Step) : Decidable (s.Follows steps) :=
  match s with
  | .request => isTrue trivial
  | .auth => isTrue trivial
  | .exchange => inferInstanceAs (Decidable (List.Sublist [.request, .auth] steps))
  | .done => inferInstanceAs (Decidable (List.Sublist [.request, .auth, .exchange] steps))

def order : List Step := [.request, .auth, .exchange, .done]

structure Connection where
  onionName : String
  socket : Nat
  handShakeMessage : HandShakeMessage

structure Endpoint where
  device : Device
  steps : List Step := []

inductive Event where
  | cell (env : Env) (externalPayload : Bytes)
  | start (env : Env) (purpose : Nat)

section Steps

variable (P : Platform)

-- the handler goes on only when it can read the fields of the cell
def accepts (externalPayload internalPayload : Bytes) : Step → Bool
  | .request => (Message.parseFirstHandShakeStartXORFileName externalPayload).isSome &&
      (Message.parseFirstHandShakeStartXORIndex externalPayload).isSome
  | .auth => (Message.parseStartXORFileName externalPayload).isSome &&
      (Message.parseStartXORIndex externalPayload).isSome &&
      HandShakeMessage.parseSessionAuthPaylod internalPayload = some true
  | .exchange => (HandShakeMessage.parseSessionExchangePaylod internalPayload).isSome
  | .done => internalPayload.length = 0

def received (externalPayload : Bytes) : Option Step := do
  let messageType ← Message.parseMessageType externalPayload
  let internalPayload ← Message.parseExternalPaylod P externalPayload
  order.find? (fun step =>
    step.messageType = messageType && accepts externalPayload internalPayload step)

def cells (socket : Nat) (d : Device) : List Cell :=
  (d.written.filter (fun x => x.1 = socket)).map (fun x => x.2)

def sent (socket : Nat) (d d' : Device) (steps : List Step) : List Step :=
  if cells socket d' = cells socket d then [] else steps

variable (conn : Connection)

def Connection.item (externalPayload : Bytes) : MessageItem Bytes :=
  { onionName := conn.onionName, socket := conn.socket, data := externalPayload, type := 0
    purpose := 0, handShakeMessage := some conn.handShakeMessage }

def step (e : Endpoint) : Event → Endpoint
  | .cell env externalPayload =>
      let d := e.device.handShakeMessageHandle P env (conn.item externalPayload)
      { device := d
        steps := e.steps ++ (received P externalPayload).toList.flatMap
          (fun step => step :: sent conn.socket e.device d step.answer) }
  | .start env purpose =>
      let d := e.device.startHandShakeProcess P env conn.onionName purpose
      { device := d, steps := e.steps ++ sent conn.socket e.device d [.request] }

def machine : Machine Endpoint Event := ⟨step P conn⟩

def Established (e : Endpoint) : Prop :=
  ∀ item ∈ e.device.conns.getConnectionStatusItem conn.onionName conn.socket,
    item.status = 1 → item.shareKey.isSome ∧ order.Sublist e.steps

instance (e : Endpoint) : Decidable (Established conn e) :=
  inferInstanceAs (Decidable (∀ item ∈ _, _))

-- EXCHANGE only after REQUEST and AUTH, DONE only after these and EXCHANGE
def InOrder (e : Endpoint) : Event → Prop
  | .cell env externalPayload =>
      (e.device.conns.getConnectionStatusItem conn.onionName conn.socket).isSome →
        ∀ s ∈ received P externalPayload, s.answered env → s.Follows e.steps
  | .start _ _ => True

instance (e : Endpoint) (event : Event) : Decidable (InOrder P conn e event) :=
  match event with
  | .cell _ _ => inferInstanceAs (Decidable (_ → ∀ s ∈ received P _, _))
  | .start _ _ => isTrue trivial

structure Fresh (d : Device) : Prop where
  opened : ∃ purpose, d.conns.slot conn.onionName conn.socket =
    [{ onionName := conn.onionName, socket := conn.socket, purpose := purpose }]
  silent : cells conn.socket d = []

end Steps

section Handled

variable {P : Platform} {env : Env} {conn : Connection} {d d₀ : Device} {externalPayload : Bytes}

theorem cells_of_written {socket : Nat} (h : d.written = d₀.written) :
    cells socket d = cells socket d₀ := by
  rw [cells, cells, h]

theorem cells_transmit (d : Device) (socket : Nat) (cell : Cell) :
    cells socket (d.transmit socket cell) = cells socket d ++ [cell] := by
  have hfilter : [(socket, cell)].filter (fun x => x.1 = socket) = [(socket, cell)] :=
    List.filter_cons_of_pos (by simp)
  rw [cells, Device.transmit, List.filter_append, hfilter, List.map_append]
  rfl

variable (P env) in
theorem written_updateSocketStatus (d : Device) (item : MessageItem Bytes) (status : Nat)
    (sharedKey : Option Bytes) :
    (d.updateSocketStatus P env item status sharedKey).1.written = d.written := by
  rw [Device.updateSocketStatus]
  split
  · exact Device.written_tryResend P env _ item.onionName
  · rfl

theorem written_connectReady (d : Device × Bool) :
    (Device.connectReady d).written = d.1.written := by
  obtain ⟨d, complete⟩ := d
  cases complete <;> rfl

def slot (conn : Connection) (d : Device) : ConnectionItems :=
  d.conns.slot conn.onionName conn.socket

variable (P env) in
theorem slot_updateSocketStatus (conn : Connection) (d : Device) (externalPayload : Bytes)
    (status : Nat) (sharedKey : Option Bytes) :
    slot conn (d.updateSocketStatus P env (conn.item externalPayload) status sharedKey).1 =
      (slot conn d).modifyHead (ConnectionItems.setStatus status sharedKey) := by
  have hconns :
      (d.updateSocketStatus P env (conn.item externalPayload) status sharedKey).1.conns =
        d.conns.updateStatus conn.onionName conn.socket status sharedKey :=
    congrArg Prod.fst (Device.shell_updateSocketStatus P env d (conn.item externalPayload)
      status sharedKey)
  rw [slot, hconns]
  exact Connections.slot_updateStatus conn.onionName conn.socket d.conns status sharedKey

theorem slot_connectReady (d : Device × Bool) :
    slot conn (Device.connectReady d) = slot conn d.1 :=
  congrArg (fun s => s.1.slot conn.onionName conn.socket) (Device.shell_connectReady d)

theorem slot_deleteConnection (d : Device) :
    slot conn (d.deleteConnection conn.onionName conn.socket) = (slot conn d).tail :=
  (Connections.slot_deleteConnection conn.onionName conn.socket d.conns _ _).trans
    (if_pos ⟨rfl, rfl⟩)

-- what handling a cell does to the connection: the update and the answer, or the deletion
def Answers (conn : Connection) (d d' : Device) (ok : Bool)
    (update : ConnectionStatusItem → ConnectionStatusItem) (answer : Cell) : Prop :=
  if ok then slot conn d' = (slot conn d).modifyHead update ∧
    cells conn.socket d' = cells conn.socket d ++ [answer]
  else slot conn d' = (slot conn d).tail ∧ cells conn.socket d' = cells conn.socket d

theorem answers_sendMessage {ok : Bool} {update : ConnectionStatusItem → ConnectionStatusItem}
    {answer : Cell} {f : Device → Device} (htail : (slot conn d).tail = (slot conn d₀).tail)
    (hcells : cells conn.socket d = cells conn.socket d₀)
    (hslot : slot conn (f (d.transmit conn.socket answer)) = (slot conn d₀).modifyHead update)
    (hwritten : (f (d.transmit conn.socket answer)).written =
      (d.transmit conn.socket answer).written) :
    Answers conn d₀ (d.sendMessage ok conn.onionName conn.socket answer f) ok update answer := by
  rw [Answers, Device.sendMessage]
  cases ok with
  | true =>
    rw [if_pos rfl, if_pos rfl, cells_of_written hwritten, cells_transmit, hcells]
    exact ⟨hslot, rfl⟩
  | false =>
    rw [if_neg Bool.false_ne_true, if_neg Bool.false_ne_true, slot_deleteConnection, htail]
    exact ⟨rfl, hcells⟩

theorem received_spec {step : Step} (h : received P externalPayload = some step) :
    ∃ internalPayload, Message.parseMessageType externalPayload = some step.messageType ∧
      Message.parseExternalPaylod P externalPayload = some internalPayload ∧
      accepts externalPayload internalPayload step = true := by
  simp only [received, Option.bind_eq_bind, Option.bind_eq_some_iff] at h
  obtain ⟨messageType, htype, internalPayload, hinternal, hfind⟩ := h
  have hstep := List.find?_some hfind
  simp only [Bool.and_eq_true, decide_eq_true_eq] at hstep
  exact ⟨internalPayload, by rw [htype, hstep.1], hinternal, hstep.2⟩

theorem refused_of_received_none {messageType : Nat} {internalPayload : Bytes}
    (h : received P externalPayload = none)
    (htype : Message.parseMessageType externalPayload = some messageType)
    (hinternal : Message.parseExternalPaylod P externalPayload = some internalPayload)
    (step : Step) (hstep : messageType = step.messageType) :
    accepts externalPayload internalPayload step = false := by
  rw [received, htype, hinternal] at h
  have hmem : step ∈ order := by cases step <;> decide
  have hnone := List.find?_eq_none.mp h step hmem
  rw [hstep] at hnone
  simpa using hnone

variable (env conn) in
theorem handled_none (d : Device) (h : received P externalPayload = none) :
    slot conn (d.handShakeMessageHandle P env (conn.item externalPayload)) = slot conn d ∧
      cells conn.socket (d.handShakeMessageHandle P env (conn.item externalPayload)) =
        cells conn.socket d := by
  rw [Device.handShakeMessageHandle]
  split
  · rename_i messageType internalPayload htype hinternal
    have hrefused := refused_of_received_none h htype hinternal
    split
    · rename_i hstep
      have hrequest := hrefused .request hstep
      rw [Device.receiveSessionRequest]
      split
      · rename_i hname hindex
        simp [accepts, Connection.item] at hrequest hname hindex
        simp [hname, hindex] at hrequest
      · exact ⟨rfl, rfl⟩
    split
    · rename_i hstep
      have hauth := hrefused .auth hstep
      rw [Device.receiveSessionAuth]
      split
      · rename_i hname hindex
        dsimp only
        split
        · rename_i hpassword _
          simp [accepts, Connection.item] at hauth hname hindex
          simp [hname, hindex, hpassword] at hauth
        · exact ⟨rfl, rfl⟩
      · exact ⟨rfl, rfl⟩
    split
    · rename_i hstep
      have hexchange := hrefused .exchange hstep
      rw [Device.receiveSessionExchange]
      split
      · rename_i hkey _
        simp [accepts, hkey] at hexchange
      · exact ⟨rfl, rfl⟩
    split
    · rename_i hstep
      have hdone := hrefused .done hstep
      rw [accepts, decide_eq_false_iff_not] at hdone
      rw [Device.receiveSessionDone, if_neg hdone]
      exact ⟨rfl, rfl⟩
    · exact ⟨rfl, rfl⟩
  · exact ⟨rfl, rfl⟩

variable (env conn) in
theorem handled_request (d : Device) (h : received P externalPayload = some .request) :
    ∃ keys : KeyState,
      Answers conn d (d.handShakeMessageHandle P env (conn.item externalPayload)) (env.sent 0)
        (ConnectionItems.setStatus 0 none)
        (conn.handShakeMessage.createSessionAuthMessage P (env.ambient 0) "c" keys.cellXor) := by
  obtain ⟨internalPayload, htype, hinternal, haccepts⟩ := received_spec h
  rw [accepts, Bool.and_eq_true] at haccepts
  obtain ⟨fileName, hname⟩ := Option.isSome_iff_exists.mp haccepts.1
  obtain ⟨fileIndex, hindex⟩ := Option.isSome_iff_exists.mp haccepts.2
  have hitem : (conn.item externalPayload).data = externalPayload := rfl
  rw [Device.handShakeMessageHandle, hitem, htype, hinternal]
  dsimp only [Step.messageType]
  rw [if_pos rfl, Device.receiveSessionRequest, hitem, hname, hindex]
  refine ⟨((d.setKeys (d.keys.acceptRequest fileName fileIndex)).updateSocketStatus P env
    (conn.item externalPayload) 0 none).1.keys, ?_⟩
  have hslot := slot_updateSocketStatus P env conn
    (d.setKeys (d.keys.acceptRequest fileName fileIndex)) externalPayload 0 none
  refine answers_sendMessage ?_ ?_ hslot rfl
  · exact (congrArg List.tail hslot).trans (by rw [List.tail_modifyHead]; rfl)
  · exact cells_of_written (written_updateSocketStatus P env
      (d.setKeys (d.keys.acceptRequest fileName fileIndex)) (conn.item externalPayload) 0 none)

variable (env conn) in
theorem handled_auth (d : Device) (h : received P externalPayload = some .auth) :
    Answers conn d (d.handShakeMessageHandle P env (conn.item externalPayload)) (env.sent 0)
      (ConnectionItems.setStatus 0
        (some (AESCrypto.paddingToLength (env.ambient 0) [] Constant.sharedkeyLength)))
      (conn.handShakeMessage.createSessionExchangeMessage P (env.ambient 1) "c"
        (AESCrypto.paddingToLength (env.ambient 0) [] Constant.sharedkeyLength)) := by
  obtain ⟨internalPayload, htype, hinternal, haccepts⟩ := received_spec h
  rw [accepts, Bool.and_eq_true, Bool.and_eq_true, decide_eq_true_eq] at haccepts
  obtain ⟨fileName, hname⟩ := Option.isSome_iff_exists.mp haccepts.1.1
  obtain ⟨fileIndex, hindex⟩ := Option.isSome_iff_exists.mp haccepts.1.2
  have hitem : (conn.item externalPayload).data = externalPayload := rfl
  rw [Device.handShakeMessageHandle, hitem, htype, hinternal]
  dsimp only [Step.messageType]
  rw [if_neg (by decide), if_pos rfl, Device.receiveSessionAuth, hitem, hname, hindex, haccepts.2]
  refine answers_sendMessage rfl rfl ?_ (written_updateSocketStatus P env _ _ 0 _)
  exact slot_updateSocketStatus P env conn _ externalPayload 0 _

variable (env conn) in
theorem handled_exchange (d : Device) (h : received P externalPayload = some .exchange) :
    ∃ internalPayload sharedKey,
      Message.parseExternalPaylod P externalPayload = some internalPayload ∧
      HandShakeMessage.parseSessionExchangePaylod internalPayload = some sharedKey ∧
      Answers conn d (d.handShakeMessageHandle P env (conn.item externalPayload)) (env.sent 0)
        (ConnectionItems.setStatus 1 (some sharedKey))
        (conn.handShakeMessage.createSessionDoneMessage P (env.ambient 0)) := by
  obtain ⟨internalPayload, htype, hinternal, haccepts⟩ := received_spec h
  obtain ⟨sharedKey, hkey⟩ := Option.isSome_iff_exists.mp haccepts
  have hitem : (conn.item externalPayload).data = externalPayload := rfl
  refine ⟨internalPayload, sharedKey, hinternal, hkey, ?_⟩
  rw [Device.handShakeMessageHandle, hitem, htype, hinternal]
  dsimp only [Step.messageType]
  rw [if_neg (by decide), if_neg (by decide), if_pos rfl, Device.receiveSessionExchange, hkey]
  refine answers_sendMessage rfl rfl ?_ ?_
  · exact (slot_connectReady _).trans (slot_updateSocketStatus P env conn _ externalPayload 1 _)
  · exact (written_connectReady _).trans (written_updateSocketStatus P env _ _ 1 _)

variable (env conn) in
theorem handled_done (d : Device) (h : received P externalPayload = some .done) :
    slot conn (d.handShakeMessageHandle P env (conn.item externalPayload)) =
        (slot conn d).modifyHead (ConnectionItems.setStatus 1 none) ∧
      cells conn.socket (d.handShakeMessageHandle P env (conn.item externalPayload)) =
        cells conn.socket d := by
  obtain ⟨internalPayload, htype, hinternal, haccepts⟩ := received_spec h
  rw [accepts, decide_eq_true_eq] at haccepts
  have hitem : (conn.item externalPayload).data = externalPayload := rfl
  rw [Device.handShakeMessageHandle, hitem, htype, hinternal]
  dsimp only [Step.messageType]
  rw [if_neg (by decide), if_neg (by decide), if_neg (by decide), if_pos rfl,
    Device.receiveSessionDone, if_pos haccepts]
  constructor
  · exact (slot_connectReady _).trans (slot_updateSocketStatus P env conn d externalPayload 1 none)
  · exact cells_of_written
      ((written_connectReady _).trans (written_updateSocketStatus P env d _ 1 none))

end Handled

section Keys

variable (P : Platform)

def offered (externalPayload : Bytes) : Option Bytes :=
  (Message.parseExternalPaylod P externalPayload).bind HandShakeMessage.parseSessionExchangePaylod

def Offers (key : Option Bytes) (cell : Cell) : Prop :=
  ∀ localPrivateKey remotePublicKey externalPayload,
    Message.parseRemote cell localPrivateKey remotePublicKey = some externalPayload →
      received P externalPayload = some .exchange → offered P externalPayload = key

def Keyed (externalPayload : Bytes) (key : Option Bytes) : Step → Prop
  | .request => key = none
  | .auth => key.isSome
  | .exchange => key.isSome ∧ key = offered P externalPayload
  | .done => key = none

variable {P} {amb : Ambient} {handShake : HandShakeMessage}

theorem offers_of_messageType {payload : Bytes} {messageType : Nat} (key : Option Bytes)
    (hlength : payload.length = 1790)
    (htype : Message.parseMessageType payload = some messageType)
    (hne : messageType ≠ Constant.sessionExchange) : Offers P key (handShake.build payload) := by
  intro localPrivateKey remotePublicKey externalPayload hparse hreceived
  rw [HandShakeMessage.payload_of_build hlength hparse] at hreceived
  obtain ⟨-, hexchange, -, -⟩ := received_spec hreceived
  rw [htype] at hexchange
  exact absurd (Option.some.inj hexchange) hne

theorem offers_request {localOnion : String} {keys : KeyState} {body : Cell}
    (h : handShake.createSessionRequestMessage P amb localOnion keys.requestXor = some body)
    (key : Option Bytes) : Offers P key body := by
  obtain ⟨payload, hpayload, hlength, htype, -, -⟩ :=
    HandShakeCell.request_spec P amb keys localOnion
  rw [HandShakeMessage.createSessionRequestMessage] at h
  obtain ⟨built, hbuilt, rfl⟩ := Option.map_eq_some_iff.mp h
  obtain rfl := Option.some.inj (hbuilt.symm.trans hpayload)
  exact offers_of_messageType key hlength htype (by decide)

theorem offers_auth (keys : KeyState) {password : String}
    (hpassword : (getBytes password).length ≤ 255) (key : Option Bytes) :
    Offers P key (handShake.createSessionAuthMessage P amb password keys.cellXor) := by
  obtain ⟨hlength, htype, -, -⟩ := HandShakeCell.auth_spec P amb keys hpassword
  exact offers_of_messageType key hlength htype (by decide)

theorem offers_exchange {password : String} {sharedKey : Bytes}
    (hpassword : (getBytes password).length ≤ 255) (hkey : sharedKey.length = 32) :
    Offers P (some sharedKey)
      (handShake.createSessionExchangeMessage P amb password sharedKey) := by
  obtain ⟨hlength, -, hinternal⟩ := HandShakeCell.exchange_spec P amb hpassword hkey
  intro localPrivateKey remotePublicKey externalPayload hparse _
  rw [HandShakeMessage.payload_of_build hlength hparse, offered, hinternal]
  exact HandShakeMessage.parseSessionExchangePaylod_passwordPayload (by omega) hkey

theorem offers_done (key : Option Bytes) :
    Offers P key (handShake.createSessionDoneMessage P amb) := by
  obtain ⟨hlength, htype, -⟩ := HandShakeCell.done_spec P amb
  exact offers_of_messageType key hlength htype (by decide)

end Keys

section StepSpec

variable {P : Platform} {env : Env} {conn : Connection} {externalPayload : Bytes}
  {e : Endpoint} {s : Step}

def Step.status : Step → Nat
  | .request => 0
  | .auth => 0
  | .exchange => 1
  | .done => 1

structure Outcome (conn : Connection) (ok : Bool) (s : Step) (key : Option Bytes)
    (reply : List Cell) (e e' : Endpoint) : Prop where
  slot_eq : slot conn e'.device =
    if ok then (slot conn e.device).modifyHead (ConnectionItems.setStatus s.status key)
    else (slot conn e.device).tail
  steps_eq : e'.steps = e.steps ++ s :: if ok then s.answer else []
  cells_eq : cells conn.socket e'.device =
    cells conn.socket e.device ++ if ok then reply else []

theorem sent_append {socket : Nat} {d d' : Device} {answer : Cell}
    (h : cells socket d' = cells socket d ++ [answer]) (steps : List Step) :
    sent socket d d' steps = steps := by
  refine if_neg (fun hsame => ?_)
  rw [hsame] at h
  exact absurd (List.append_right_eq_self.mp h.symm) (List.cons_ne_nil answer [])

theorem outcome_of_answers {ok : Bool} {key : Option Bytes} {answer : Cell}
    (h : received P externalPayload = some s)
    (ha : Answers conn e.device
      (e.device.handShakeMessageHandle P env (conn.item externalPayload)) ok
      (ConnectionItems.setStatus s.status key) answer) :
    Outcome conn ok s key [answer] e (step P conn e (.cell env externalPayload)) := by
  have hsteps : (step P conn e (.cell env externalPayload)).steps = e.steps ++ s ::
      sent conn.socket e.device
        (e.device.handShakeMessageHandle P env (conn.item externalPayload)) s.answer := by
    simp only [step, h, Option.toList_some, List.flatMap_cons, List.flatMap_nil, List.append_nil]
  cases ok with
  | true =>
    obtain ⟨hslot, hcells⟩ := ha
    refine ⟨hslot, ?_, hcells⟩
    rw [hsteps, sent_append hcells, if_pos rfl]
  | false =>
    obtain ⟨hslot, hcells⟩ := ha
    refine ⟨hslot, ?_, hcells.trans (List.append_nil _).symm⟩
    rw [hsteps, sent, if_pos hcells, if_neg Bool.false_ne_true]

variable (env conn e) in
theorem step_cell (h : received P externalPayload = some s) :
    ∃ key reply, Outcome conn (s.answered env) s key reply e
        (step P conn e (.cell env externalPayload)) ∧
      Keyed P externalPayload key s ∧
      ∀ c ∈ reply, ∀ key', (s = .auth → key' = key) → Offers P key' c := by
  have hpassword : (getBytes "c").length ≤ 255 := by decide +kernel
  cases s with
  | request =>
    obtain ⟨keys, ha⟩ := handled_request env conn e.device h
    refine ⟨none, _, outcome_of_answers h ha, rfl, ?_⟩
    intro c hc key' _
    rw [List.mem_singleton.mp hc]
    exact offers_auth keys hpassword key'
  | auth =>
    have ha := handled_auth env conn e.device h
    refine ⟨_, _, outcome_of_answers h ha, rfl, ?_⟩
    intro c hc key' hkey
    rw [List.mem_singleton.mp hc, hkey rfl]
    exact offers_exchange hpassword (AESCrypto.paddingToLength_length _ _ _)
  | exchange =>
    obtain ⟨internalPayload, sharedKey, hinternal, hkey, ha⟩ :=
      handled_exchange env conn e.device h
    refine ⟨some sharedKey, _, outcome_of_answers h ha, ⟨rfl, ?_⟩, ?_⟩
    · rw [offered, hinternal, Option.bind_some, hkey]
    · intro c hc key' _
      rw [List.mem_singleton.mp hc]
      exact offers_done key'
  | done =>
    obtain ⟨hslot, hcells⟩ := handled_done env conn e.device h
    refine ⟨none, [], ⟨hslot, ?_, ?_⟩, rfl, fun c hc => absurd hc List.not_mem_nil⟩
    · simp only [step, h, Option.toList_some, List.flatMap_cons, List.flatMap_nil,
        List.append_nil, sent, Step.answer, ite_self]
    · exact hcells.trans (by rw [ite_self, List.append_nil])

variable (env conn e) in
theorem step_cell_none (h : received P externalPayload = none) :
    slot conn (step P conn e (.cell env externalPayload)).device = slot conn e.device ∧
      cells conn.socket (step P conn e (.cell env externalPayload)).device =
        cells conn.socket e.device ∧
      (step P conn e (.cell env externalPayload)).steps = e.steps := by
  obtain ⟨hslot, hcells⟩ := handled_none env conn e.device h
  refine ⟨hslot, hcells, ?_⟩
  simp only [step, h, Option.toList_none, List.flatMap_nil, List.append_nil]

theorem written_deleteStatusItem (d : Device) (item : ConnectionStatusItem) :
    (d.deleteStatusItem item).written = d.written := by
  rw [Device.deleteStatusItem]
  split <;> rfl

theorem cells_startHandShakeProcess (d : Device) (onionName : String) (purpose : Nat) :
    ∀ c ∈ cells conn.socket (d.startHandShakeProcess P env onionName purpose),
      c ∈ cells conn.socket d ∨ ∀ key, Offers P key c := by
  intro c hc
  rw [Device.startHandShakeProcess] at hc
  split at hc
  · rename_i item mail handShake _ _ _
    split at hc
    · exact .inl hc
    · split at hc
      · exact .inl hc
      · rename_i body hbody
        dsimp only at hc
        split at hc
        · obtain ⟨x, hx, rfl⟩ := List.mem_map.mp hc
          obtain ⟨hwritten, hsocket⟩ := List.mem_filter.mp hx
          rcases List.mem_append.mp hwritten with hold | hnew
          · exact .inl (List.mem_map.mpr ⟨x, List.mem_filter.mpr ⟨hold, hsocket⟩, rfl⟩)
          · rw [List.mem_singleton.mp hnew]
            exact .inr (offers_request hbody)
        · rw [cells_of_written (written_deleteStatusItem _ item)] at hc
          exact .inl hc
  · exact .inl hc

variable (P env) in
theorem step_start (e : Endpoint) (purpose : Nat) (hone : (slot conn e.device).length ≤ 1) :
    Connections.Fades (slot conn e.device)
        (slot conn (step P conn e (.start env purpose)).device) ∧
      ∃ more, (step P conn e (.start env purpose)).steps = e.steps ++ more ∧
        ∀ s ∈ more, s = .request := by
  obtain ⟨d, added, hframed, hd⟩ : ∃ d' added, e.device.Framed none d' ∧
      e.device.startHandShakeProcess P env conn.onionName purpose =
        { d' with transports := d'.transports ++ added } :=
    Device.framed_startHandShakeProcess P env none e.device conn.onionName purpose
  refine ⟨?_, _, rfl, ?_⟩
  · rw [step, hd]
    exact Connections.slot_within conn.onionName conn.socket (by simp) hone hframed.1
  · intro s hs
    rw [sent] at hs
    split at hs
    · exact absurd hs List.not_mem_nil
    · exact List.mem_singleton.mp hs

end StepSpec

section Order

variable {P : Platform} {conn : Connection} {e : Endpoint}

-- a connection has one entry, and it has a key from the first EXCHANGE on
def Kept (conn : Connection) (e : Endpoint) : Prop :=
  slot conn e.device = [] ∨ ∃ item, slot conn e.device = [item] ∧
    (.exchange ∈ e.steps → item.shareKey.isSome)

theorem kept_length (h : Kept conn e) : (slot conn e.device).length ≤ 1 := by
  rcases h with hnil | ⟨item, hone, -⟩
  · rw [hnil]
    exact Nat.zero_le 1
  · rw [hone]
    exact Nat.le_refl 1

theorem kept_outcome {ok : Bool} {s : Step} {externalPayload : Bytes} {key : Option Bytes}
    {reply : List Cell} {e' : Endpoint} (h : Kept conn e)
    (ho : Outcome conn ok s key reply e e') (hkey : Keyed P externalPayload key s) :
    Kept conn e' := by
  rcases h with hnil | ⟨item, hone, hexchange⟩
  · refine .inl (ho.slot_eq.trans ?_)
    rw [hnil]
    exact ite_self []
  · have hslot := ho.slot_eq
    have hsteps := ho.steps_eq
    rw [hone] at hslot
    cases ok with
    | false => exact .inl hslot
    | true =>
      refine .inr ⟨_, hslot, ?_⟩
      intro hmem
      rw [hsteps, if_pos rfl] at hmem
      have hshared : (key.or item.shareKey).isSome := by
        rw [Option.isSome_or, Bool.or_eq_true]
        cases s with
        | request => exact .inr (hexchange (by simpa [Step.answer] using hmem))
        | auth => exact .inl hkey
        | exchange => exact .inl hkey.1
        | done => exact .inr (hexchange (by simpa [Step.answer] using hmem))
      exact hshared

theorem kept_fades {e' : Endpoint} {more : List Step} (h : Kept conn e)
    (hfades : Connections.Fades (slot conn e.device) (slot conn e'.device))
    (hsteps : e'.steps = e.steps ++ more) (hmore : ∀ s ∈ more, s = .request) : Kept conn e' := by
  rcases hfades with hnil | ⟨item, purpose, hone, hone'⟩
  · exact .inl hnil
  · refine .inr ⟨_, hone', ?_⟩
    intro hmem
    rw [hsteps] at hmem
    rcases h with hnil | ⟨old, hold, hexchange⟩
    · rw [hnil] at hone
      cases hone
    · rw [hone] at hold
      obtain rfl : item = old := List.singleton_inj.mp hold
      rcases List.mem_append.mp hmem with hin | hnew
      · exact hexchange hin
      · cases hmore _ hnew

theorem kept_step (e : Endpoint) (event : Event) (h : Kept conn e) :
    Kept conn (step P conn e event) := by
  cases event with
  | cell env externalPayload =>
    cases hreceived : received P externalPayload with
    | none =>
      obtain ⟨hslot, -, hsteps⟩ := step_cell_none env conn e hreceived
      rw [Kept, hslot, hsteps]
      exact h
    | some s =>
      obtain ⟨key, reply, ho, hkey, -⟩ := step_cell env conn e hreceived
      exact kept_outcome h ho hkey
  | start env purpose =>
    obtain ⟨hfades, more, hsteps, hmore⟩ := step_start P env e purpose (kept_length h)
    exact kept_fades h hfades hsteps hmore

theorem established_iff (e : Endpoint) : Established conn e ↔
    ∀ item ∈ (slot conn e.device).head?, item.status = 1 →
      item.shareKey.isSome ∧ order.Sublist e.steps := by
  rw [Established, Connections.getConnectionStatusItem_eq_head?]
  rfl

theorem established_of_nil (h : slot conn e.device = []) : Established conn e := by
  rw [established_iff, h]
  intro item hitem
  cases hitem

theorem order_append (steps : List Step) (s : Step) (h : s.status = 1) :
    order.Sublist (steps ++ s :: s.answer) ↔ s.Follows steps := by
  cases s with
  | request => cases h
  | auth => cases h
  | exchange =>
    have hiff : List.Sublist ([Step.request, .auth] ++ [.exchange, .done])
        (steps ++ [.exchange, .done]) ↔ List.Sublist [Step.request, .auth] steps :=
      List.append_sublist_append_right _
    exact hiff
  | done =>
    have hiff : List.Sublist ([Step.request, .auth, .exchange] ++ [.done]) (steps ++ [.done]) ↔
        List.Sublist [Step.request, .auth, .exchange] steps := List.append_sublist_append_right _
    exact hiff

theorem established_outcome_iff {s : Step} {externalPayload : Bytes} {key : Option Bytes}
    {reply : List Cell} {e' : Endpoint} {item : ConnectionStatusItem} (hkept : Kept conn e)
    (hone : slot conn e.device = [item]) (ho : Outcome conn true s key reply e e')
    (hkey : Keyed P externalPayload key s) : Established conn e' ↔ s.Follows e.steps := by
  have hslot : slot conn e'.device = [ConnectionItems.setStatus s.status key item] := by
    rw [ho.slot_eq, hone]
    rfl
  have hsteps : e'.steps = e.steps ++ s :: s.answer := ho.steps_eq
  have hexchange : .exchange ∈ e.steps → item.shareKey.isSome := by
    rcases hkept with hnil | ⟨old, hold, hexchange⟩
    · rw [hnil] at hone
      cases hone
    · rw [hone] at hold
      rw [List.singleton_inj.mp hold]
      exact hexchange
  rw [established_iff, hslot, hsteps]
  constructor
  · intro h
    by_cases hstatus : s.status = 1
    · exact (order_append e.steps s hstatus).mp (h _ rfl hstatus).2
    · cases s with
      | request => trivial
      | auth => trivial
      | exchange => exact absurd rfl hstatus
      | done => exact absurd rfl hstatus
  · intro hfollows new hnew hstatus
    obtain rfl := Option.mem_some_iff.mp hnew
    refine ⟨?_, (order_append e.steps s hstatus).mpr hfollows⟩
    have hshared : (key.or item.shareKey).isSome := by
      rw [Option.isSome_or, Bool.or_eq_true]
      cases s with
      | request => cases hstatus
      | auth => cases hstatus
      | exchange => exact .inl hkey.1
      | done => exact .inr (hexchange (hfollows.subset (by decide)))
    exact hshared

theorem established_fades {e' : Endpoint} (h : Established conn e)
    (hfades : Connections.Fades (slot conn e.device) (slot conn e'.device))
    (hsteps : e.steps <+: e'.steps) : Established conn e' := by
  rw [established_iff] at h ⊢
  rcases hfades with hnil | ⟨item, purpose, hone, hone'⟩
  · rw [hnil]
    intro item hitem
    cases hitem
  · rw [hone'] at ⊢
    rw [hone] at h
    intro new hnew hstatus
    obtain rfl := Option.mem_some_iff.mp hnew
    obtain ⟨hkey, horder⟩ := h item rfl hstatus
    exact ⟨hkey, horder.trans hsteps.sublist⟩

theorem established_step_iff (e : Endpoint) (event : Event) (hkept : Kept conn e)
    (h : Established conn e) :
    Established conn (step P conn e event) ↔ InOrder P conn e event := by
  cases event with
  | cell env externalPayload =>
    rw [InOrder, Connections.getConnectionStatusItem_eq_head?]
    cases hreceived : received P externalPayload with
    | none =>
      obtain ⟨hslot, -, hsteps⟩ := step_cell_none env conn e hreceived
      refine iff_of_true ?_ (fun _ s hs => nomatch hs)
      rw [established_iff, hslot, hsteps]
      exact (established_iff e).mp h
    | some s =>
      obtain ⟨key, reply, ho, hkey, -⟩ := step_cell env conn e hreceived
      rcases hkept with hnil | ⟨item, hone, hexchange⟩
      · have hnext : slot conn (step P conn e (.cell env externalPayload)).device = [] := by
          rw [ho.slot_eq, hnil]
          exact ite_self []
        refine iff_of_true (established_of_nil hnext) (fun hsome => ?_)
        rw [show e.device.conns.slot conn.onionName conn.socket = [] from hnil] at hsome
        cases hsome
      · have hkept : Kept conn e := .inr ⟨item, hone, hexchange⟩
        rw [show e.device.conns.slot conn.onionName conn.socket = [item] from hone]
        cases hok : s.answered env with
        | false =>
          rw [hok] at ho
          have hnext : slot conn (step P conn e (.cell env externalPayload)).device = [] := by
            rw [ho.slot_eq, hone]
            rfl
          refine iff_of_true (established_of_nil hnext) ?_
          intro _ s' hs'
          obtain rfl := Option.mem_some_iff.mp hs'
          rw [hok]
          exact fun h => absurd h Bool.false_ne_true
        | true =>
          rw [hok] at ho
          refine (established_outcome_iff hkept hone ho hkey).trans ?_
          constructor
          · intro hfollows _ s' hs' _
            obtain rfl := Option.mem_some_iff.mp hs'
            exact hfollows
          · exact fun h => h rfl s rfl hok
  | start env purpose =>
    obtain ⟨hfades, more, hsteps, -⟩ := step_start P env e purpose (kept_length hkept)
    refine iff_of_true (established_fades h hfades ?_) trivial
    rw [hsteps]
    exact List.prefix_append e.steps more

end Order

end SessionOrder

end TorChat
