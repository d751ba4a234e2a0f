import TorChat.Transfer.DevicePair
import TorChat.Transfer.FileStages
import TorChat.Jni.InnerEncryption

namespace TorChat

open Library (Bytes HashMap Machine)
open Constant (filePieceSize)
open FileTraffic FileStages DevicePair

namespace TransferCompletion

section Statement

variable (P : Platform) (channel : Role → Channel) (fileName : String) (content : Bytes)

structure Honest : Prop where
  sharedKey : (channel .receiver).sharedKey = (channel .sender).sharedKey
  keyFile : ∀ role, (channel role).keyFile ≠ []
  entry : FileTask.EntryInverts P (channel .sender).keyFile (channel .receiver).keyFile
  fits : EntryFits P (channel .sender).keyFile

structure Idle (pair : Pair) : Prop where
  wired : Wired P channel fileName pair
  traffic : ∀ role, traffic P channel fileName pair role = []
  own : ∀ role, own fileName (pair.device role) = {}

def Drained (pair : Pair) (role : Role) : Prop :=
  (pair.device role).recieveQueue = [] ∧ (pair.device role).sendQueue = [] ∧
    (pair.device role).registering = [] ∧
      pair.delivered role = (sent (channel role) (pair.device role)).length

def Quiet (pair : Pair) : Prop := Drained channel pair .sender ∧ Drained channel pair .receiver

structure Complete (pair : Pair) : Prop where
  merged : (pair.device .receiver).receiveFiles.get? fileName = some content
  received : (pair.device .receiver).senderFileMap.get? fileName = none
  done : ∃ messageID, Notice.fileComplete fileName messageID ∈ (pair.device .sender).notices
  sent : (pair.device .sender).senderFileMap.get? fileName = none

def senderReads : Event → Bool
  | .act .sender _ .read => true
  | _ => false

def ReadyInTime (pair : Pair) (e : Event) : Prop :=
  senderReads e = true → ∀ item ∈ (pair.device .sender).recieveQueue.head?,
    FileCell.heard P (nameHash P fileName) item.data = some .ready →
      ((pair.device .sender).senderFileMap.get? fileName).isSome

instance (pair : Pair) (role : Role) : Decidable (Drained channel pair role) :=
  inferInstanceAs (Decidable (_ ∧ _))

instance (pair : Pair) : Decidable (Quiet channel pair) :=
  inferInstanceAs (Decidable (_ ∧ _))

instance (pair : Pair) (e : Event) : Decidable (ReadyInTime P fileName pair e) :=
  inferInstanceAs (Decidable (_ → ∀ item ∈ (pair.device .sender).recieveQueue.head?, _))

def offer (env : Env) (fileFullPath : String) (content : Bytes) (messageID : Nat) (pair : Pair) :
    Pair :=
  step P channel pair
    (.act .sender env (.sendFile fileFullPath content (channel .sender).peer messageID))

def meaning : Said → FileCell
  | .offer => .offer fileName content.length (P.sha1 content)
  | .ready => .ready
  | .piece i => .piece i (pieceBytes P (channel .sender).keyFile content i)
  | .ack i => .ack i Constant.dataAckContent
  | .done => .done

def Sending (registered : Option Bool) (o : Own) : Prop :=
  match registered with
  | some true => (∃ task, o.task = some task ∧
      Sends P (channel .sender).keyFile fileName content task) ∧ o.registering = []
  | some false => o.task = none ∧ ∃ task, o.registering = [task] ∧
      Sends P (channel .sender).keyFile fileName content task
  | none => o.task = none ∧ o.registering = [] ∧ o.completed = true

def Receiving (stage : Stage) (o : Own) : Prop :=
  o.registering = [] ∧
    match stage.held with
    | some held => o.file = none ∧ ∃ task, o.task = some task ∧
        Receives P (channel .sender).keyFile fileName content held task
    | none => o.task = none ∧ o.file = if stage.complete then some content else none

structure Sim (pair : Pair) (stage : Stage) : Prop where
  wired : Wired P channel fileName pair
  valid : stage.Valid (pieceCount content)
  forward : traffic P channel fileName pair .sender =
    (stage.forward (pieceCount content)).map (meaning P channel fileName content)
  backward : traffic P channel fileName pair .receiver =
    stage.backward.map (meaning P channel fileName content)
  sending : Sending P channel fileName content stage.registered
    (own fileName (pair.device .sender))
  receiving : Receiving P channel fileName content stage
    (own fileName (pair.device .receiver))

end Statement

variable {P : Platform} {env : Env} {channel : Role → Channel} {fileName : String}
  {content : Bytes} {pair : Pair} {role : Role} {d' : Device} {stage : Stage} {e : Event}
  {out queue : List FileCell} {o : Own}

section Simulation

theorem sim_sender (hwired : Wired P channel fileName pair)
    (hacts : Acts P (channel .sender) fileName (pair.device .sender) d' [] queue o)
    (hvalid : stage.Valid (pieceCount content))
    (hforward : traffic P channel fileName pair .sender ++ queue =
      (stage.forward (pieceCount content)).map (meaning P channel fileName content))
    (hbackward : traffic P channel fileName pair .receiver =
      stage.backward.map (meaning P channel fileName content))
    (hsending : Sending P channel fileName content stage.registered o)
    (hreceiving : Receiving P channel fileName content stage
      (own fileName (pair.device .receiver))) :
    Sim P channel fileName content (pair.set .sender d') stage where
  wired := wired_acts hwired hacts (fun h => by cases h)
  valid := hvalid
  forward := by
    rw [traffic_acts_self (hwired.delivered .sender) hacts (.inl rfl)]
    exact hforward
  backward := (traffic_acts_other hacts).trans hbackward
  sending := by
    rw [device_set_self, hacts.own]
    exact hsending
  receiving := hreceiving

theorem sim_receiver (hwired : Wired P channel fileName pair)
    (hacts : Acts P (channel .receiver) fileName (pair.device .receiver) d' out [] o)
    (hvalid : stage.Valid (pieceCount content))
    (hforward : traffic P channel fileName pair .sender =
      (stage.forward (pieceCount content)).map (meaning P channel fileName content))
    (hbackward : traffic P channel fileName pair .receiver ++ out =
      stage.backward.map (meaning P channel fileName content))
    (hsending : Sending P channel fileName content stage.registered
      (own fileName (pair.device .sender)))
    (hreceiving : Receiving P channel fileName content stage o) :
    Sim P channel fileName content (pair.set .receiver d') stage where
  wired := wired_acts hwired hacts (fun _ => rfl)
  valid := hvalid
  forward := (traffic_acts_other hacts).trans hforward
  backward := by
    rw [traffic_acts_self (hwired.delivered .receiver) hacts (.inr hwired.silent),
      List.append_nil]
    exact hbackward
  sending := hsending
  receiving := by
    rw [device_set_self, hacts.own]
    exact hreceiving

theorem sim_same {pair' : Pair} (h : Sim P channel fileName content pair stage)
    (hsame : Same P channel fileName pair pair') :
    Sim P channel fileName content pair' stage :=
  ⟨hsame.wired, h.valid, (hsame.traffic .sender).trans h.forward,
    (hsame.traffic .receiver).trans h.backward, hsame.own .sender ▸ h.sending,
    hsame.own .receiver ▸ h.receiving⟩

end Simulation

section Heard

variable {item : MessageItem Bytes} {rest : List (MessageItem Bytes)} {x : FileCell}

theorem heard_next {x : FileCell} {said : List Said}
    (hqueue : (pair.device role).recieveQueue = item :: rest)
    (hheard : FileCell.heard P (nameHash P fileName) item.data = some x)
    (htraffic : traffic P channel fileName pair role.other =
      said.map (meaning P channel fileName content)) :
    ∃ next more, said = next :: more ∧ meaning P channel fileName content next = x ∧
      traffic P channel fileName (popped pair role rest) role.other =
        more.map (meaning P channel fileName content) := by
  rw [traffic_popped_other hqueue, hheard] at htraffic
  obtain ⟨next, more, hsaid, hnext, hmore⟩ := List.map_eq_cons_iff.mp htraffic.symm
  exact ⟨next, more, hsaid, hnext, hmore.symm⟩

variable (honest : Honest P channel) (hle : content.length ≤ filePieceSize * (2 ^ 31 - 1))
  (hsent : ∀ n, env.sent n = true) (h : Sim P channel fileName content pair stage)

include honest hle h in
theorem sim_heard_sender (hqueue : (pair.device .sender).recieveQueue = item :: rest)
    (hheard : FileCell.heard P (nameHash P fileName) item.data = some x) :
    Sim P channel fileName content (pair.set .sender ((pair.device .sender).read P env))
      (stage.next (pieceCount content) .senderReads) := by
  obtain ⟨hitem, hread⟩ := read_popped env h.wired hqueue
  obtain ⟨next, more, hsaid, rfl, hbackward⟩ := heard_next hqueue hheard h.backward
  have hwired := wired_popped h.wired hqueue
  have hestablished := hwired.established .sender
  have hforward := (traffic_popped_self pair .sender rest).trans h.forward
  have hsending := h.sending
  have hreceiving := h.receiving
  have hvalid := Stage.valid_next .senderReads h.valid
  rw [hread]
  cases stage with
  | offered registered => cases hsaid
  | stalled registered => cases hsaid
  | finished => cases hsaid
  | answered registered =>
    obtain ⟨rfl, rfl⟩ := List.cons.inj hsaid
    cases registered with
    | false =>
      exact sim_sender hwired (acts_ready_lost hestablished hitem hheard hsending.1) hvalid
        ((List.append_nil _).trans hforward) hbackward hsending hreceiving
    | true =>
      obtain ⟨⟨task, htask, hsends⟩, hregistering⟩ := hsending
      obtain ⟨hpieces, hsilent, hregistered, hheld⟩ := Stage.next_ready (pieceCount content)
      refine sim_sender hwired (acts_ready (honest.keyFile .sender) honest.fits hestablished hitem
        hle hheard htask hsends) hvalid ?_ ?_ ?_ ?_
      · rw [hforward, hpieces, List.map_map]
        rfl
      · rw [hsilent]
        exact hbackward
      · rw [hregistered]
        exact ⟨⟨_, rfl, sends_setStatus hsends .transferrring⟩, hregistering⟩
      · rw [Receiving, hheld]
        exact hreceiving
  | sending held acks =>
    cases acks with
    | nil => cases hsaid
    | cons ack acks =>
      obtain ⟨rfl, rfl⟩ := List.cons.inj hsaid
      obtain ⟨⟨task, htask, hsends⟩, hregistering⟩ := hsending
      obtain ⟨task', hsends', hacts⟩ := acts_ack env hestablished hitem hheard htask hsends
      exact sim_sender hwired hacts hvalid ((List.append_nil _).trans hforward) hbackward
        ⟨⟨task', rfl, hsends'⟩, hregistering⟩ hreceiving
  | merged acks =>
    cases acks with
    | nil =>
      obtain ⟨rfl, rfl⟩ := List.cons.inj hsaid
      obtain ⟨⟨task, htask, hsends⟩, hregistering⟩ := hsending
      exact sim_sender hwired (acts_done hestablished hitem hheard htask hsends) hvalid
        ((List.append_nil _).trans hforward) hbackward ⟨rfl, hregistering, rfl⟩ hreceiving
    | cons ack acks =>
      obtain ⟨rfl, rfl⟩ := List.cons.inj hsaid
      obtain ⟨⟨task, htask, hsends⟩, hregistering⟩ := hsending
      obtain ⟨task', hsends', hacts⟩ := acts_ack env hestablished hitem hheard htask hsends
      exact sim_sender hwired hacts hvalid ((List.append_nil _).trans hforward) hbackward
        ⟨⟨task', rfl, hsends'⟩, hregistering⟩ hreceiving

include honest hle hsent h in
theorem sim_heard_receiver (hqueue : (pair.device .receiver).recieveQueue = item :: rest)
    (hheard : FileCell.heard P (nameHash P fileName) item.data = some x) :
    Sim P channel fileName content (pair.set .receiver ((pair.device .receiver).read P env))
      (stage.next (pieceCount content) .recieverReads) := by
  obtain ⟨hitem, hread⟩ := read_popped env h.wired hqueue
  obtain ⟨next, more, hsaid, rfl, hforward⟩ := heard_next hqueue hheard h.forward
  have hwired := wired_popped h.wired hqueue
  have hestablished := hwired.established .receiver
  have hbackward := (traffic_popped_self pair .receiver rest).trans h.backward
  have hsending := h.sending
  have hreceiving := h.receiving
  have hvalid := Stage.valid_next .recieverReads h.valid
  have hkey := honest.keyFile .receiver
  rw [hread]
  cases stage with
  | answered registered => cases hsaid
  | stalled registered => cases hsaid
  | merged acks => cases hsaid
  | finished => cases hsaid
  | offered registered =>
    obtain ⟨rfl, rfl⟩ := List.cons.inj hsaid
    obtain ⟨hregistering, -, hfile⟩ := hreceiving
    obtain ⟨task, hreceives, hacts⟩ := acts_offer env hsent hkey hestablished hitem hle hheard
    refine sim_receiver hwired hacts hvalid hforward ?_ hsending
      ⟨hregistering, hfile, task, rfl, hreceives⟩
    rw [hbackward]
    rfl
  | sending held acks =>
    have hheld : held < pieceCount content := h.valid
    have hcount : pieceCount content - held = pieceCount content - (held + 1) + 1 := by omega
    rw [Stage.forward, hcount, List.range'_succ, List.map_cons] at hsaid
    obtain ⟨rfl, rfl⟩ := List.cons.inj hsaid
    obtain ⟨hregistering, hfile, task, htask, hreceives⟩ := hreceiving
    rw [Stage.next] at hvalid ⊢
    by_cases hlast : held + 1 = pieceCount content
    · rw [if_pos hlast] at hvalid ⊢
      refine sim_receiver hwired (acts_piece_last hsent hkey honest.entry hestablished hitem hheard
        htask hreceives hlast hfile) hvalid ?_ ?_ hsending ⟨hregistering, rfl, rfl⟩
      · refine hforward.trans ?_
        rw [hlast, Nat.sub_self]
        rfl
      · rw [hbackward, Stage.backward, Stage.backward, List.map_append, List.map_append,
          List.map_append, List.append_assoc]
        rfl
    · rw [if_neg hlast] at hvalid ⊢
      obtain ⟨task', hreceives', hacts⟩ := acts_piece_more env hsent hkey hestablished hitem hheard
        htask hreceives hlast
      refine sim_receiver hwired hacts hvalid hforward ?_ hsending
        ⟨hregistering, hfile, task', rfl, hreceives'⟩
      rw [hbackward, Stage.backward, Stage.backward, List.map_append, List.map_append]
      rfl

end Heard

section Registering

variable {position : Nat} {task : FileTask}

theorem registering_of_mem {d : Device} (hget : d.registering[position]? = some task)
    (hname : task.fileName = fileName) : task ∈ (own fileName d).registering :=
  List.mem_filter.mpr ⟨List.mem_of_getElem? hget, by simpa using hname⟩

theorem sim_register_own (h : Sim P channel fileName content pair stage)
    (hget : (pair.device .sender).registering[position]? = some task)
    (hname : task.fileName = fileName) :
    Sim P channel fileName content
      (pair.set .sender ((pair.device .sender).registerTask position))
      (stage.next (pieceCount content) .register) := by
  have hestablished := h.wired.established .sender
  have hnothing : (own fileName (pair.device .sender)).registering ≠ [] :=
    List.ne_nil_of_mem (registering_of_mem hget hname)
  have hsending := h.sending
  cases hregistered : stage.registered with
  | none =>
    rw [hregistered] at hsending
    exact absurd hsending.2.1 hnothing
  | some registered =>
    rw [hregistered] at hsending
    cases registered with
    | true => exact absurd hsending.2 hnothing
    | false =>
      obtain ⟨-, mine, hmine, hsends⟩ := hsending
      obtain ⟨hforward, hbackward, hheld, hcomplete, hnext⟩ := Stage.next_register hregistered
      refine sim_sender h.wired (acts_register_own hestablished hget hname hmine)
        (Stage.valid_next .register h.valid) ?_ ?_ ?_ ?_
      · rw [hforward, List.append_nil]
        exact h.forward
      · rw [hbackward]
        exact h.backward
      · rw [hnext]
        exact ⟨⟨mine, rfl, hsends⟩, rfl⟩
      · rw [Receiving, hheld, hcomplete]
        exact h.receiving

theorem sim_register (h : Sim P channel fileName content pair stage) (role : Role)
    (position : Nat) :
    ∃ stage', (stage' = stage ∨ stage' = stage.next (pieceCount content) .register) ∧
      Sim P channel fileName content
        (pair.set role ((pair.device role).registerTask position)) stage' := by
  have hestablished := h.wired.established role
  cases hget : (pair.device role).registering[position]? with
  | none =>
    rw [Device.registerTask, hget, set_self]
    exact ⟨stage, .inl rfl, h⟩
  | some task =>
    by_cases hname : task.fileName = fileName
    · cases role with
      | sender => exact ⟨_, .inr rfl, sim_register_own h hget hname⟩
      | receiver =>
        have hmem := registering_of_mem hget hname
        rw [h.receiving.1] at hmem
        cases hmem
    · exact ⟨stage, .inl rfl, sim_same h (same_acts h.wired
        (acts_register_other hestablished hget hname))⟩

end Registering

section Running

theorem meaning_ready {next : Said} (h : meaning P channel fileName content next = .ready) :
    next = .ready := by
  cases next with
  | ready => rfl
  | _ => cases h

theorem sending_isSome {registered : Option Bool}
    (h : Sending P channel fileName content registered o) :
    o.task.isSome ↔ registered = some true := by
  cases registered with
  | none => simp [h.1]
  | some registered =>
    cases registered with
    | false => simp [h.1]
    | true =>
      obtain ⟨⟨task, htask, -⟩, -⟩ := h
      simp [htask]

theorem readyInTime_iff (h : Sim P channel fileName content pair stage)
    {item : MessageItem Bytes} {rest : List (MessageItem Bytes)} {x : FileCell}
    (hqueue : (pair.device .sender).recieveQueue = item :: rest)
    (hheard : FileCell.heard P (nameHash P fileName) item.data = some x) :
    ReadyInTime P fileName pair (.act .sender env .read) ↔
      (stage.backward.head? = some .ready → stage.registered = some true) := by
  obtain ⟨next, more, hsaid, rfl, -⟩ := heard_next hqueue hheard h.backward
  have hhead : (pair.device .sender).recieveQueue.head? = some item := by rw [hqueue]; rfl
  constructor
  · intro hintime hready
    rw [hsaid] at hready
    obtain rfl := Option.some.inj hready
    exact (sending_isSome h.sending).mp (hintime rfl item hhead hheard)
  · intro hregistered _ i hi hready
    obtain rfl := Option.some.inj (hi.symm.trans hhead)
    obtain rfl := meaning_ready (Option.some.inj (hheard.symm.trans hready))
    exact (sending_isSome h.sending).mpr (hregistered (by rw [hsaid]; rfl))

theorem readyInTime_other (h : senderReads e = false) : ReadyInTime P fileName pair e := by
  intro hreads
  rw [h] at hreads
  cases hreads

theorem readyInTime_silent
    (h : ∀ item ∈ (pair.device role).recieveQueue.head?,
      FileCell.heard P (nameHash P fileName) item.data = none) :
    ReadyInTime P fileName pair (.act role env .read) := by
  cases role with
  | receiver => exact readyInTime_other rfl
  | sender =>
    intro _ item hitem hready
    rw [h item hitem] at hready
    cases hready

theorem kept (h : Sim P channel fileName content (step P channel pair e) stage)
    (hintime : ReadyInTime P fileName pair e) :
    ∃ stage', Sim P channel fileName content (step P channel pair e) stage' ∧
      (0 < pieceCount content →
        (stage'.live = true ↔ stage.live = true ∧ ReadyInTime P fileName pair e)) :=
  ⟨stage, h, fun _ => ⟨fun hlive => ⟨hlive, hintime⟩, And.left⟩⟩

theorem sim_read (honest : Honest P channel)
    (hle : content.length ≤ filePieceSize * (2 ^ 31 - 1)) (hsent : ∀ n, env.sent n = true)
    (h : Sim P channel fileName content pair stage) (role : Role) :
    ∃ stage', Sim P channel fileName content (step P channel pair (.act role env .read)) stage' ∧
      (0 < pieceCount content → (stage'.live = true ↔ stage.live = true ∧
        ReadyInTime P fileName pair (.act role env .read))) := by
  cases hqueue : (pair.device role).recieveQueue with
  | nil =>
    have hsame : step P channel pair (.act role env .read) = pair := by
      rw [step, Device.step, Device.read, hqueue]
      exact set_self pair role
    refine kept (by rw [hsame]; exact h) (readyInTime_silent fun item hitem => ?_)
    rw [hqueue] at hitem
    cases hitem
  | cons item rest =>
    cases hheard : FileCell.heard P (nameHash P fileName) item.data with
    | none =>
      refine kept (sim_same h (same_read (honest.keyFile role) hsent h.wired hqueue hheard))
        (readyInTime_silent fun i hi => ?_)
      rw [hqueue] at hi
      obtain rfl := Option.some.inj hi
      exact hheard
    | some x =>
      cases role with
      | sender =>
        refine ⟨_, sim_heard_sender honest hle h hqueue hheard, fun hpos => ?_⟩
        rw [Stage.live_next, readyInTime_iff h hqueue hheard]
        exact and_congr_right fun _ => ⟨fun hstep hready => (hstep rfl hready).1,
          fun hintime _ hready => ⟨hintime hready, hpos⟩⟩
      | receiver =>
        refine ⟨_, sim_heard_receiver honest hle hsent h hqueue hheard, fun _ => ?_⟩
        rw [Stage.live_next]
        exact and_congr_right fun _ => ⟨fun _ => readyInTime_other rfl, fun _ hact => by cases hact⟩

theorem sim_step (honest : Honest P channel)
    (hle : content.length ≤ filePieceSize * (2 ^ 31 - 1))
    (h : Sim P channel fileName content pair stage) (he : Faultless P fileName e) :
    ∃ stage', Sim P channel fileName content (step P channel pair e) stage' ∧
      (0 < pieceCount content →
        (stage'.live = true ↔ stage.live = true ∧ ReadyInTime P fileName pair e)) := by
  cases e with
  | deliver role =>
    exact kept (sim_same h (same_deliver honest.sharedKey h.wired role)) (readyInTime_other rfl)
  | act role env event =>
    obtain ⟨hsent, husual⟩ := he
    have hestablished := h.wired.established role
    have hother (hevent : event ≠ .read) :
        ReadyInTime P fileName pair (.act role env event) := by
      refine readyInTime_other ?_
      cases role with
      | receiver => cases event <;> rfl
      | sender =>
        cases event with
        | read => exact absurd rfl hevent
        | _ => rfl
    cases event with
    | read => exact sim_read honest hle hsent h role
    | write =>
      exact kept (sim_same h (same_write hsent h.wired role))
        (hother (fun hevent => by cases hevent))
    | register position =>
      obtain ⟨stage', hstage, hsim⟩ := sim_register h role position
      refine ⟨stage', hsim, fun _ => ?_⟩
      have hintime := hother (fun hevent => by cases hevent)
      rcases hstage with rfl | rfl
      · exact ⟨fun hlive => ⟨hlive, hintime⟩, And.left⟩
      · rw [Stage.live_next]
        exact and_congr_right fun _ => ⟨fun _ => hintime, fun _ hact => by cases hact⟩
    | sendText messageContent remoteOnion messageID =>
      exact kept (sim_same h (same_acts h.wired (acts_sendText (honest.keyFile role) hestablished
        messageContent remoteOnion messageID))) (hother (fun hevent => by cases hevent))
    | sendFile fileFullPath bytes remoteOnion messageID =>
      have hname : OtherName P fileName (FileTask.ofFile P (pair.device role).keys.keyFile
        remoteOnion fileFullPath bytes messageID).fileName := husual
      exact kept (sim_same h (same_acts h.wired (acts_queueFileMeta_other hestablished remoteOnion
        rfl hname messageID))) (hother (fun hevent => by cases hevent))
    | sendBytes fileFullPath bitmapBytes remoteOnion messageID =>
      have hname : OtherName P fileName (FileTask.ofBitmap P (pair.device role).keys.keyFile
        remoteOnion fileFullPath bitmapBytes messageID).fileName := husual
      exact kept (sim_same h (same_acts h.wired (acts_queueFileMeta_other hestablished remoteOnion
        rfl hname messageID))) (hother (fun hevent => by cases hevent))
    | accept socket => cases husual
    | receiveCell socket cell => cases husual
    | hangUp socket => cases husual
    | connect onionName purpose socket => cases husual
    | startHandShake onionName purpose => cases husual
    | tryResendAll => cases husual

theorem sim_run (honest : Honest P channel)
    (hle : content.length ≤ filePieceSize * (2 ^ 31 - 1)) {es : List Event}
    (h : Sim P channel fileName content pair stage) (hes : ∀ e ∈ es, Faultless P fileName e) :
    ∃ stage', Sim P channel fileName content ((machine P channel).run pair es) stage' ∧
      (0 < pieceCount content → (stage'.live = true ↔ stage.live = true ∧
        (machine P channel).Guarded (ReadyInTime P fileName) pair es)) := by
  induction es generalizing pair stage with
  | nil => exact ⟨stage, h, fun _ => ⟨fun hlive => ⟨hlive, trivial⟩, And.left⟩⟩
  | cons e es ih =>
    obtain ⟨next, hnext, hlive⟩ := sim_step honest hle h (hes e List.mem_cons_self)
    obtain ⟨stage', hstage', hlive'⟩ := ih hnext (fun e he => hes e (List.mem_cons_of_mem _ he))
    refine ⟨stage', hstage', fun hpos => ?_⟩
    rw [hlive' hpos, hlive hpos, and_assoc]
    rfl

end Running

section Ends

theorem traffic_quiet (h : Quiet channel pair) (role : Role) :
    traffic P channel fileName pair role = [] := by
  have hdrained (s : Role) : Drained channel pair s := by
    cases s with
    | sender => exact h.1
    | receiver => exact h.2
  obtain ⟨-, hqueue, -, hdelivered⟩ := hdrained role
  obtain ⟨hinbox, -⟩ := hdrained role.other
  rw [traffic, inbox, hinbox, flight, hdelivered, List.drop_length, waiting, hqueue]
  rfl

theorem pieceCount_pos : 0 < pieceCount content ↔ content ≠ [] := by
  constructor
  · rintro hpos rfl
    exact absurd hpos (by decide)
  · intro hne
    exact Library.chunkCount_pos FileTask.filePieceSize_pos (List.length_pos_iff.mpr hne)

theorem complete_iff (h : Sim P channel fileName content pair stage)
    (hquiet : Quiet channel pair) :
    Complete fileName content pair ↔ 0 < pieceCount content ∧ stage.live = true := by
  have hforward := h.forward
  have hbackward := h.backward
  rw [traffic_quiet hquiet] at hforward hbackward
  have hreceiving := h.receiving
  rcases Stage.silent_cases h.valid (List.map_eq_nil_iff.mp hforward.symm)
    (List.map_eq_nil_iff.mp hbackward.symm) with rfl | ⟨registered, rfl⟩
  · obtain ⟨hsent, -, hdone⟩ := h.sending
    refine ⟨fun _ => ⟨h.valid, rfl⟩, fun _ => ⟨hreceiving.2.2, hreceiving.2.1, ?_, hsent⟩⟩
    obtain ⟨notice, hnotice, hcompletes⟩ := List.any_eq_true.mp hdone
    cases notice with
    | fileComplete name messageID =>
      have hname : name = fileName := of_decide_eq_true hcompletes
      exact ⟨messageID, hname ▸ hnotice⟩
    | _ => cases hcompletes
  · obtain ⟨-, -, task, htask, -⟩ := hreceiving
    refine ⟨fun hcomplete => ?_, fun hlive => by cases hlive.2⟩
    have hsome : (pair.device .receiver).senderFileMap.get? fileName = some task := htask
    rw [hcomplete.received] at hsome
    cases hsome

variable (env) in
theorem sim_offer {fileFullPath : String} {messageID : Nat}
    (hidle : Idle P channel (FileTask.getName fileFullPath) pair)
    (hle : content.length ≤ filePieceSize * (2 ^ 31 - 1))
    (hlong : (getBytes (FileTask.getName fileFullPath)).length < 256)
    (hid : messageID < 2 ^ 31) :
    Sim P channel (FileTask.getName fileFullPath) content
      (offer P channel env fileFullPath content messageID pair) (.offered false) := by
  have hestablished := hidle.wired.established .sender
  have hsize : content.length < 2 ^ 63 := lt_of_le_of_lt hle (by decide)
  have hreceiver := hidle.own .receiver
  refine sim_sender hidle.wired (acts_queueFileMeta_own hestablished rfl rfl hlong hsize
    (P.sha1_length content) hid) trivial ?_ (hidle.traffic .receiver) ?_ ?_
  · rw [hidle.traffic]
    rfl
  · rw [hidle.own]
    refine ⟨rfl, _, rfl, ?_⟩
    rw [hestablished.keyFile]
    exact sends_ofFile hle
  · rw [hreceiver]
    exact ⟨rfl, rfl, rfl⟩

end Ends

theorem transfer_completes_iff (P : Platform) (channel : Role → Channel)
    (honest : Honest P channel) (pair : Pair) (env : Env) (fileFullPath : String) (content : Bytes)
    (messageID : Nat) (es : List Event) (hle : content.length ≤ 1968 * (2 ^ 31 - 1))
    (hlong : (getBytes (FileTask.getName fileFullPath)).length < 256) (hid : messageID < 2 ^ 31)
    (hidle : Idle P channel (FileTask.getName fileFullPath) pair)
    (hes : ∀ e ∈ es, Faultless P (FileTask.getName fileFullPath) e)
    (hquiet : Quiet channel ((machine P channel).run
      (offer P channel env fileFullPath content messageID pair) es)) :
    Complete (FileTask.getName fileFullPath) content ((machine P channel).run
      (offer P channel env fileFullPath content messageID pair) es) ↔
      content ≠ [] ∧ (machine P channel).Guarded (ReadyInTime P (FileTask.getName fileFullPath))
        (offer P channel env fileFullPath content messageID pair) es := by
  obtain ⟨stage, hsim, hlive⟩ := sim_run honest hle (sim_offer env hidle hle hlong hid) hes
  rw [complete_iff hsim hquiet, ← pieceCount_pos]
  refine and_congr_right fun hpos => ?_
  rw [hlive hpos]
  exact ⟨And.right, fun hguarded => ⟨rfl, hguarded⟩⟩

section Runs

def demoChannel : Role → Channel
  | .sender => { peer := "b.onion", socket := 7, sharedKey := [1], keyFile := [3] }
  | .receiver => { peer := "a.onion", socket := 8, sharedKey := [1], keyFile := [3] }

def demoDevice (c : Channel) : Device where
  onionName := ""
  privateKey := ⟨0⟩
  keys := { keyFile := c.keyFile }
  conns := {
    allConByOnionName := (∅ : HashMap String ConnectionItems).put c.peer
      [connItem c Constant.socketPurposeFile] }
  transports := [{
    socket := c.socket
    mailItem := some { onionName := c.peer, onionHash := [], publicKey := ⟨0⟩ } }]

def demoPair : Pair where
  device role := demoDevice (demoChannel role)
  delivered _ := 0

theorem entryFits_demo (key : Bytes) : EntryFits demoPlatform key := by
  intro x hx
  have hsize : x.length ⌈/⌉ 16 ≤ 123 := (ceilDiv_le_iff_le_mul (by decide)).mpr hx
  have hpadded := ServiceLoaderImpl.lenpadding_length x
  rw [JniEntryUtils.entry, JniEntryUtils.entryAt]
  simp only [demoPlatform, DemoPlatform.encrypt, DemoPlatform.littleEndian, List.length_map,
    List.length_append, List.length_replicate, List.length_cons, List.length_nil]
  omega

theorem honest_demo : Honest demoPlatform demoChannel where
  sharedKey := rfl
  keyFile role := by cases role <;> decide
  entry := fun _ h => JniEntryUtils.decry_entry_demo [3] h
  fits := entryFits_demo [3]

theorem established_demo (P : Platform) (c : Channel) (fileName : String) :
    Established P c fileName (demoDevice c) where
  keyFile := rfl
  conns := ⟨_, HashMap.get?_put_self _ _ _⟩
  transport := ⟨_, _, List.find?_cons_of_pos (by simp), rfl, rfl⟩
  tasks name task hget := by cases hget
  registering task htask := by cases htask
  sendQueue item hitem := by cases hitem
  recieveQueue item hitem := by cases hitem

theorem idle_demo (fileName : String) : Idle demoPlatform demoChannel fileName demoPair where
  wired := ⟨fun role => established_demo _ _ _, fun _ => Nat.zero_le _, rfl⟩
  traffic role := by cases role <;> rfl
  own role := by cases role <;> rfl

def demoEnd (content : Bytes) (es : List Event) : Pair :=
  (machine demoPlatform demoChannel).run
    (offer demoPlatform demoChannel {} "/sdcard/a" content 1000 demoPair) es

def registeredInTime : List Event :=
  [.act .sender {} (.register 0), .act .sender {} .write, .deliver .sender,
    .act .receiver {} .read, .deliver .receiver, .act .sender {} .read, .act .sender {} .write,
    .deliver .sender, .act .receiver {} .read, .deliver .receiver, .deliver .receiver,
    .act .sender {} .read, .act .sender {} .read, .act .sender {} .write, .deliver .sender]

-- the READY is read between the META put and the put into senderFileMap
def registeredLate : List Event :=
  [.act .sender {} .write, .deliver .sender, .act .receiver {} .read, .deliver .receiver,
    .act .sender {} .read, .act .sender {} (.register 0)]

theorem faultless_registeredInTime :
    ∀ e ∈ registeredInTime, Faultless demoPlatform (FileTask.getName "/sdcard/a") e := by
  simp [registeredInTime, Faultless, Usual]

theorem registeredInTime_quiet : Quiet demoChannel (demoEnd [5] registeredInTime) ∧
    (machine demoPlatform demoChannel).Guarded
      (ReadyInTime demoPlatform (FileTask.getName "/sdcard/a"))
      (offer demoPlatform demoChannel {} "/sdcard/a" [5] 1000 demoPair) registeredInTime := by
  decide +kernel

theorem transfer_completes_iff_demo :
    Complete (FileTask.getName "/sdcard/a") [5] (demoEnd [5] registeredInTime) :=
  (transfer_completes_iff demoPlatform demoChannel honest_demo demoPair {} "/sdcard/a" [5] 1000
    registeredInTime (by decide) (by decide +kernel) (by decide) (idle_demo _)
    faultless_registeredInTime registeredInTime_quiet.1).mpr
      ⟨by decide, registeredInTime_quiet.2⟩

def AlwaysCompletes (content : Bytes) : Prop :=
  ∀ (P : Platform) (channel : Role → Channel) (pair : Pair) (env : Env) (fileFullPath : String)
    (messageID : Nat) (es : List Event), Honest P channel →
    (getBytes (FileTask.getName fileFullPath)).length < 256 → messageID < 2 ^ 31 →
    Idle P channel (FileTask.getName fileFullPath) pair →
    (∀ e ∈ es, Faultless P (FileTask.getName fileFullPath) e) →
    Quiet channel ((machine P channel).run
      (offer P channel env fileFullPath content messageID pair) es) →
    Complete (FileTask.getName fileFullPath) content ((machine P channel).run
      (offer P channel env fileFullPath content messageID pair) es)

theorem not_alwaysCompletes {es : List Event}
    (hes : ∀ e ∈ es, Faultless demoPlatform (FileTask.getName "/sdcard/a") e)
    (h : Quiet demoChannel (demoEnd content es) ∧
      (((demoEnd content es).device .receiver).senderFileMap.get?
        (FileTask.getName "/sdcard/a")).isSome) : ¬ AlwaysCompletes content := by
  intro hall
  have hcomplete := hall demoPlatform demoChannel demoPair {} "/sdcard/a" 1000 es honest_demo
    (by decide +kernel) (by decide) (idle_demo _) hes h.1
  have hsome := h.2
  rw [demoEnd, hcomplete.received] at hsome
  cases hsome

theorem transfers_stall : ¬ AlwaysCompletes [5] ∧ ¬ AlwaysCompletes [] :=
  ⟨not_alwaysCompletes (by simp [registeredLate, Faultless, Usual])
      (by decide +kernel : Quiet demoChannel (demoEnd [5] registeredLate) ∧ _),
    not_alwaysCompletes (by simp [registeredLate, Faultless, Usual])
      (by decide +kernel : Quiet demoChannel (demoEnd [] registeredLate) ∧ _)⟩

end Runs

end TransferCompletion

end TorChat
