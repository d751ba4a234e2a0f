import TorChat.Server.HandShakeReading
import TorChat.Transfer.DevicePair

namespace TorChat

open Library (Bytes HashMap Machine)
open FileTraffic (Channel sent)
open DevicePair (Role Pair)
open SessionOrder (Step received)
open HandShakeReading

namespace HandShakeCompletion

inductive Stage where
  | wire (s : Step)
  | inbox (s : Step)
  | opened

def speaker : Step → Role
  | .request => .sender
  | .auth => .receiver
  | .exchange => .sender
  | .done => .receiver

namespace Stage

def step : Stage → Option Step
  | .wire s => some s
  | .inbox s => some s
  | .opened => none

def next : Stage → Stage
  | .wire s => .inbox s
  | .inbox .request => .wire .auth
  | .inbox .auth => .wire .exchange
  | .inbox .exchange => .wire .done
  | .inbox .done => .opened
  | .opened => .opened

def wired (payload : Bytes) (role : Role) : Stage → List Bytes
  | .wire s => if speaker s = role then [payload] else []
  | _ => []

def queued (payload : Bytes) (role : Role) : Stage → List Bytes
  | .inbox s => if speaker s = role.other then [payload] else []
  | _ => []

-- the caller has the key once it has answered AUTH, the callee once it has read EXCHANGE
def keyed : Role → Stage → Bool
  | .sender, stage => decide (stage.step ≠ some .request ∧ stage.step ≠ some .auth)
  | .receiver, stage => decide (stage.step = some .done ∨ stage.step = none)

def status : Role → Stage → Nat
  | .sender, stage => if stage.step = none then 1 else 0
  | .receiver, stage => if stage.step = some .done ∨ stage.step = none then 1 else 0

end Stage

-- how far the two key files, the same but for the byte of the index, have met
structure KeysMeet (stage : Stage) (payload caller callee : Bytes) : Prop where
  callerKeyed : caller ≠ []
  calleeKeyed : callee ≠ []
  tail : caller.tail = callee.tail
  auth : stage.step = some .auth →
    Message.parseStartXORIndex payload = some (JniEntryUtils.getKeyIndex callee)
  same : stage.step ≠ some .request → stage.step ≠ some .auth → caller = callee

section Stages

variable (P : Platform) (party : Role → Party) (shared : Prop)

def channel (role : Role) : Channel := (party role).channel

def Stage.key (stage : Stage) (key : Bytes) (role : Role) : Option Bytes :=
  if stage.keyed role then some key else none

structure Along (pair : Pair) (stage : Stage) (key payload : Bytes) : Prop where
  spelt : ∀ s, stage.step = some s → Spells P s key payload
  stands : ∀ role, Stands (party role) (pair.device role) (pair.delivered role)
    (stage.status role) (stage.key key role) (stage.queued payload role) (stage.wired payload role)
  keys : shared → KeysMeet stage payload (pair.device .sender).keys.keyFile
    (pair.device .receiver).keys.keyFile

inductive Reached (pair : Pair) : Stage → Prop where
  | asked (key payload onionHash : Bytes) (hspells : Spells P .request key payload)
      (hhash : Message.subBytes payload 33 32 = some onionHash)
      (hcaller : Stands (party .sender) (pair.device .sender) (pair.delivered .sender) 0 none []
        [payload])
      (hcallee : Waits (party .receiver) (pair.device .receiver) (pair.delivered .receiver)
        onionHash)
      (hkeys : shared → KeysMeet (.wire .request) payload (pair.device .sender).keys.keyFile
        (pair.device .receiver).keys.keyFile) : Reached pair (.wire .request)
  | along (stage : Stage) (key payload : Bytes) (hlength : key.length = 32)
      (h : Along P party shared pair stage key payload) : Reached pair stage

structure Matched : Prop where
  opens : ∀ role, (party role).handShake.remotePublickey = (party role.other).publicKey

end Stages

section Moves

variable {P : Platform} {env : Env} {party : Role → Party} {shared : Prop} {pair : Pair}
  {stage : Stage} {key payload : Bytes} {s : Step}

theorem keysMeet_of_step (stage' : Stage) {caller callee : Bytes}
    (h : KeysMeet stage payload caller callee) (hstep : stage'.step = stage.step) :
    KeysMeet stage' payload caller callee :=
  ⟨h.callerKeyed, h.calleeKeyed, h.tail, hstep ▸ h.auth, hstep ▸ h.same⟩

theorem keysMeet_request {caller callee callee' reply : Bytes}
    (h : KeysMeet (.inbox .request) payload caller callee) (hne : callee' ≠ [])
    (htail : callee'.tail = callee.tail)
    (hindex : Message.parseStartXORIndex reply = some (JniEntryUtils.getKeyIndex callee')) :
    KeysMeet (.wire .auth) reply caller callee' :=
  ⟨h.callerKeyed, hne, h.tail.trans htail.symm, fun _ => hindex, fun _ hauth => absurd rfl hauth⟩

theorem keysMeet_auth {caller callee reply : Bytes} {fileIndex : Nat}
    (h : KeysMeet (.inbox .auth) payload caller callee)
    (hindex : Message.parseStartXORIndex payload = some fileIndex) :
    KeysMeet (.wire .exchange) reply (JniEntryUtils.setFileKeyLocation caller fileIndex)
      callee := by
  obtain rfl := Option.some.inj ((h.auth rfl).symm.trans hindex)
  have hle := JniEntryUtils.getKeyIndex_le callee
  have hset : JniEntryUtils.setFileKeyLocation caller (JniEntryUtils.getKeyIndex callee) =
      callee := by
    have hself := JniEntryUtils.writeBack_eq_self h.calleeKeyed
    unfold JniEntryUtils.setFileKeyLocation ServiceLoaderImpl.setFileKeyLocation at hself ⊢
    rw [if_neg (by omega)] at hself ⊢
    rw [h.tail]
    exact hself
  rw [hset]
  exact ⟨h.calleeKeyed, h.calleeKeyed, rfl, (fun hstep => by cases hstep), fun _ _ => rfl⟩

theorem keysMeet_sameFile {stage' : Stage} {payload' : Bytes}
    {caller caller' callee callee' : Device}
    (h : KeysMeet stage payload caller.keys.keyFile callee.keys.keyFile)
    (hcaller : SameFile caller caller') (hcallee : SameFile callee callee')
    (hsame : caller.keys.keyFile = callee.keys.keyFile) (hauth : stage'.step ≠ some .auth) :
    KeysMeet stage' payload' caller'.keys.keyFile callee'.keys.keyFile := by
  rw [hcaller h.callerKeyed, hcallee h.calleeKeyed]
  exact ⟨h.callerKeyed, h.calleeKeyed, h.tail, fun heq => absurd heq hauth, fun _ _ => hsame⟩

theorem silent_of_reached (h : Reached P party shared pair stage) (role : Role)
    (hrole : ∀ s, stage = .wire s → speaker s ≠ role) :
    (sent (channel party role) (pair.device role))[pair.delivered role]? = none := by
  cases h with
  | asked key payload onionHash hspells hhash hcaller hcallee hkeys =>
    cases role with
    | sender => exact absurd rfl (hrole .request rfl)
    | receiver => exact List.getElem?_eq_none (Nat.le_of_eq hcallee.silent)
  | along _ key payload hlength h =>
    refine sent_none ((h.stands role).wire.trans ?_)
    cases stage with
    | wire s =>
      rw [Stage.wired, if_neg (hrole s rfl)]
      rfl
    | inbox s => rfl
    | opened => rfl

theorem idle_of_reached (h : Reached P party shared pair stage) (role : Role)
    (hrole : ∀ s, stage = .inbox s → speaker s ≠ role.other) :
    (pair.device role).recieveQueue = [] := by
  cases h with
  | asked key payload onionHash hspells hhash hcaller hcallee hkeys =>
    cases role with
    | sender => exact hcaller.queue
    | receiver => exact hcallee.queue
  | along _ key payload hlength h =>
    refine (h.stands role).queue.trans ?_
    cases stage with
    | wire s => rfl
    | inbox s =>
      rw [Stage.queued, if_neg (hrole s rfl)]
      rfl
    | opened => rfl

theorem deliver_of_sent {role : Role} {cell : Cell}
    (h : (sent (channel party role) (pair.device role))[pair.delivered role]? = some cell) :
    DevicePair.step P (channel party) pair (.deliver role) =
      (pair.take role).set role.other ((pair.device role.other).receiveCell
        (channel party role.other).socket cell) := by
  rw [DevicePair.step, h]

theorem along_deliver (hmatched : Matched party)
    (h : Along P party shared pair (.wire s) key payload) :
    Along P party shared (DevicePair.step P (channel party) pair (.deliver (speaker s))) (.inbox s)
      key payload := by
  have hspeaks := h.stands (speaker s)
  rw [Stage.wired, if_pos rfl] at hspeaks
  obtain ⟨hcell, hspoken⟩ := stands_take hspeaks
  have hhears := h.stands (speaker s).other
  rw [show (Stage.wire s).status (speaker s).other = 0 by cases s <;> rfl] at hhears
  obtain ⟨hheard, houtside⟩ :=
    stands_receive (hmatched.opens (speaker s)) (h.spelt s rfl).length hhears
  rw [deliver_of_sent hcell]
  refine ⟨h.spelt, fun role => ?_, fun hshared => ?_⟩
  · cases s <;> cases role <;> first | exact hspoken | exact hheard
  · have hmeet := keysMeet_of_step (.inbox s) (h.keys hshared) rfl
    have hfile := congrArg (fun o => o.1.keyFile) houtside
    cases s <;> exact hfile.symm ▸ hmeet

theorem reached_deliver (hmatched : Matched party) (h : Reached P party shared pair (.wire s)) :
    Reached P party shared (DevicePair.step P (channel party) pair (.deliver (speaker s)))
      (.inbox s) := by
  cases h with
  | asked key payload onionHash hspells hhash hcaller hcallee hkeys =>
    obtain ⟨hcell, hasked⟩ := stands_take hcaller
    obtain ⟨hheard, houtside⟩ :=
      waits_receive (hmatched.opens .sender) hspells.length hhash hcallee
    rw [speaker, deliver_of_sent hcell]
    refine .along _ (List.replicate 32 0) payload List.length_replicate ⟨?_, ?_, ?_⟩
    · intro s hs
      obtain rfl := Option.some.inj hs
      exact ⟨hspells.length, hspells.received, fun h => by cases h⟩
    · intro role
      cases role with
      | sender => exact hasked
      | receiver => exact hheard
    · intro hshared
      have hmeet := keysMeet_of_step (.inbox .request) (hkeys hshared) rfl
      have hfile := congrArg (fun o => o.1.keyFile) houtside
      exact hfile.symm ▸ hmeet
  | along _ key payload hlength h => exact .along _ key payload hlength (along_deliver hmatched h)

theorem outside_deliver (hmatched : Matched party) (h : Reached P party shared pair (.wire s))
    (role : Role) :
    outside ((DevicePair.step P (channel party) pair (.deliver (speaker s))).device role) =
      outside (pair.device role) := by
  have hset {cell : Cell}
      (hcell : (sent (channel party (speaker s)) (pair.device (speaker s)))[pair.delivered
        (speaker s)]? = some cell)
      (houtside : outside ((pair.device (speaker s).other).receiveCell
        (channel party (speaker s).other).socket cell) = outside (pair.device (speaker s).other)) :
      outside ((DevicePair.step P (channel party) pair (.deliver (speaker s))).device role) =
        outside (pair.device role) := by
    rw [deliver_of_sent hcell]
    rcases DevicePair.eq_or_other role (speaker s).other with rfl | rfl
    · rw [DevicePair.device_set_self]
      exact houtside
    · rw [DevicePair.device_set_other]
      rfl
  cases h with
  | asked key payload onionHash hspells hhash hcaller hcallee hkeys =>
    exact hset (stands_take hcaller).1
      (waits_receive (hmatched.opens .sender) hspells.length hhash hcallee).2
  | along _ key payload hlength h =>
    have hspeaks := h.stands (speaker s)
    rw [Stage.wired, if_pos rfl] at hspeaks
    have hhears := h.stands (speaker s).other
    rw [show (Stage.wire s).status (speaker s).other = 0 by cases s <;> rfl] at hhears
    exact hset (stands_take hspeaks).1
      (stands_receive (hmatched.opens (speaker s)) (h.spelt s rfl).length hhears).2

theorem queue_of_reached (h : Reached P party shared pair stage) (role : Role) :
    ∃ inbox : List Bytes, (pair.device role).recieveQueue = inbox.map (party role).conn.item := by
  cases h with
  | asked key payload onionHash hspells hhash hcaller hcallee hkeys =>
    cases role with
    | sender => exact ⟨[], hcaller.queue⟩
    | receiver => exact ⟨[], hcallee.queue⟩
  | along _ key payload hlength h => exact ⟨_, (h.stands role).queue⟩

theorem along_set {stage stage' : Stage} {key' payload' : Bytes} (role : Role) {d : Device}
    (h : Along P party shared pair stage key payload)
    (hspelt : ∀ s, stage'.step = some s → Spells P s key' payload')
    (hrole : Stands (party role) d (pair.delivered role) (stage'.status role)
      (stage'.key key' role) (stage'.queued payload' role) (stage'.wired payload' role))
    (hother : stage'.status role.other = stage.status role.other ∧
      stage'.key key' role.other = stage.key key role.other ∧
      stage'.queued payload' role.other = stage.queued payload role.other ∧
      stage'.wired payload' role.other = stage.wired payload role.other)
    (hkeys : shared → KeysMeet stage' payload' ((pair.set role d).device .sender).keys.keyFile
      ((pair.set role d).device .receiver).keys.keyFile) :
    Along P party shared (pair.set role d) stage' key' payload' := by
  refine ⟨hspelt, fun r => ?_, hkeys⟩
  rcases DevicePair.eq_or_other r role with rfl | rfl
  · rw [DevicePair.device_set_self]
    exact hrole
  · rw [DevicePair.device_set_other, hother.1, hother.2.1, hother.2.2.1, hother.2.2.2]
    exact h.stands role.other

theorem reached_read (hsent : env.sent 0 = true) (h : Reached P party shared pair (.inbox s)) :
    Reached P party shared (pair.set (speaker s).other
      ((pair.device (speaker s).other).read P env)) (Stage.inbox s).next := by
  cases h with
  | along _ key payload hlength h =>
    have hspells := h.spelt s rfl
    cases s with
    | request =>
      obtain ⟨reply, hreply, hstands, hindex, hne, htail⟩ :=
        read_request hsent hspells (h.stands .receiver)
      exact .along _ key reply hlength (along_set .receiver h
        (fun s hs => by obtain rfl := Option.some.inj hs; exact hreply) hstands
        ⟨rfl, rfl, rfl, rfl⟩ (fun hshared => keysMeet_request (h.keys hshared)
          (hne (h.keys hshared).calleeKeyed) htail hindex))
    | auth =>
      obtain ⟨key', reply, hlength', hreply, hstands, fileIndex, hindex, hfile⟩ :=
        read_auth hsent hspells (h.stands .sender)
      exact .along _ key' reply hlength' (along_set .sender h
        (fun s hs => by obtain rfl := Option.some.inj hs; exact hreply) hstands
        ⟨rfl, rfl, rfl, rfl⟩ (fun hshared => hfile ▸ keysMeet_auth (h.keys hshared) hindex))
    | exchange =>
      obtain ⟨reply, hreply, hstands, hsame⟩ := read_exchange hsent hspells (h.stands .receiver)
      exact .along _ key reply hlength (along_set .receiver h
        (fun s hs => by obtain rfl := Option.some.inj hs; exact hreply) hstands
        ⟨rfl, rfl, rfl, rfl⟩ (fun hshared => keysMeet_sameFile (h.keys hshared)
          (sameFile_of_eq rfl) hsame ((h.keys hshared).same (by decide) (by decide)) (by decide)))
    | done =>
      obtain ⟨hstands, hsame⟩ := read_done env hspells (h.stands .sender)
      exact .along _ key payload hlength (along_set .sender h
        (fun s hs => by cases hs) hstands ⟨rfl, rfl, rfl, rfl⟩
        (fun hshared => keysMeet_sameFile (h.keys hshared) hsame (sameFile_of_eq rfl)
          ((h.keys hshared).same (by decide) (by decide)) (by decide)))

end Moves

section Users

variable {P : Platform} {env : Env} {party : Party} {c : Channel} {d d' : Device}
  {taken status : Nat} {key : Option Bytes} {inbox wire : List Bytes} {onionHash : Bytes}

-- while the two ends shake hands a user may ask for anything to be sent, and the Writer may write
-- to any socket but the one they shake hands on
def Spares (c : Channel) (d : Device) : Device.Event → Prop
  | .sendText _ _ _ => True
  | .sendFile _ _ _ _ => True
  | .sendBytes _ _ _ _ => True
  | .register _ => True
  | .write => ∀ item ∈ d.sendQueue.head?, item.socket ≠ c.socket
  | _ => False

instance decidableSpares (c : Channel) (d : Device) :
    (event : Device.Event) → Decidable (Spares c d event)
  | .sendText _ _ _ => isTrue trivial
  | .sendFile _ _ _ _ => isTrue trivial
  | .sendBytes _ _ _ _ => isTrue trivial
  | .register _ => isTrue trivial
  | .write => inferInstanceAs (Decidable (∀ item ∈ d.sendQueue.head?, item.socket ≠ c.socket))
  | .accept _ => isFalse id
  | .receiveCell _ _ => isFalse id
  | .hangUp _ => isFalse id
  | .connect _ _ _ => isFalse id
  | .startHandShake _ _ => isFalse id
  | .read => isFalse id
  | .tryResendAll => isFalse id

structure Kept (c : Channel) (d d' : Device) : Prop where
  slot : d'.conns.slot c.peer c.socket = d.conns.slot c.peer c.socket
  recieveQueue : d'.recieveQueue = d.recieveQueue
  transports : d'.transports = d.transports
  sent : sent c d' = sent c d

theorem kept_of_shell (h : d'.shell = d.shell) (hwritten : d'.written = d.written) :
    Kept c d d' := by
  obtain ⟨hconns, hqueue, htransports⟩ : d'.conns = d.conns ∧
      d'.recieveQueue = d.recieveQueue ∧ d'.transports = d.transports := by
    simpa [Device.shell] using h
  exact ⟨by rw [hconns], hqueue, htransports, by rw [sent, hwritten, sent]⟩

theorem kept_sendText (d : Device) (messageContent remoteOnion : String) (messageID : Nat) :
    Kept c d (d.handleTextMessageSend P env messageContent remoteOnion messageID) := by
  rw [Device.handleTextMessageSend]
  split
  · refine ⟨?_, rfl, rfl, rfl⟩
    dsimp only
    rw [Connections.createConnectionAsyc]
    split
    · rfl
    · rfl
  · split
    · exact kept_of_shell rfl rfl
    · exact kept_of_shell rfl rfl

theorem quiet_queueFileMeta (d : Device) (remoteOnion : String) (task : FileTask)
    (messageID : Nat) :
    (d.queueFileMeta P env remoteOnion task messageID).written = d.written ∧
      (d.queueFileMeta P env remoteOnion task messageID).keys.keyFile = d.keys.keyFile := by
  rw [Device.queueFileMeta]
  dsimp only
  split
  · exact ⟨rfl, rfl⟩
  · split
    · exact ⟨rfl, rfl⟩
    · exact ⟨rfl, rfl⟩

-- a write that fails deletes the connection of its own socket
theorem kept_reput (d : Device) {item : MessageItem (Option Cell)} (h : item.socket ≠ c.socket) :
    Kept c d (d.reput item) := by
  have hfailed : Kept c d (d.failText item) := by
    rw [Device.failText]
    split
    · exact ⟨rfl, rfl, rfl, rfl⟩
    · exact ⟨rfl, rfl, rfl, rfl⟩
  rw [Device.reput]
  split
  · exact ⟨rfl, rfl, rfl, rfl⟩
  · dsimp only
    split
    · split
      · exact ⟨hfailed.slot, hfailed.recieveQueue, hfailed.transports, hfailed.sent⟩
      · exact hfailed
    · refine ⟨?_, hfailed.recieveQueue, hfailed.transports, hfailed.sent⟩
      exact (Connections.slot_deleteConnection c.peer c.socket _ _ _).trans
        ((if_neg (fun hsame => h hsame.2)).trans hfailed.slot)

theorem kept_write (d : Device) (h : ∀ item ∈ d.sendQueue.head?, item.socket ≠ c.socket) :
    Kept c d (d.write env) := by
  rw [Device.write]
  split
  · exact ⟨rfl, rfl, rfl, rfl⟩
  · rename_i item rest hqueue
    have hother : item.socket ≠ c.socket := h item (by rw [hqueue]; rfl)
    obtain ⟨hslot, hrecieve, htransports, hsent⟩ :=
      kept_reput (c := c) { d with sendQueue := rest } hother
    dsimp only
    split
    · exact ⟨hslot, hrecieve, htransports, hsent⟩
    · rename_i cell hcell
      split
      · refine ⟨rfl, rfl, rfl, ?_⟩
        have hnone : FileTraffic.onSocket c.socket [(item.socket, cell)] = [] := by
          rw [FileTraffic.onSocket, List.filter_cons_of_neg (by simpa using hother)]
          rfl
        exact (FileTraffic.onSocket_append _ _ _).trans (by rw [hnone, List.append_nil]; rfl)
      · exact ⟨hslot, hrecieve, htransports, hsent⟩

variable (P env) in
theorem kept_spares (d : Device) {e : Device.Event} (he : Spares c d e) :
    Kept c d (d.step P env e) := by
  cases e with
  | write => exact kept_write d he
  | sendText messageContent remoteOnion messageID => exact kept_sendText d _ _ _
  | sendFile fileFullPath content remoteOnion messageID =>
    exact kept_of_shell (Device.shell_queueFileMeta d _ _ _) (quiet_queueFileMeta d _ _ _).1
  | sendBytes fileFullPath bitmapBytes remoteOnion messageID =>
    exact kept_of_shell (Device.shell_queueFileMeta d _ _ _) (quiet_queueFileMeta d _ _ _).1
  | register position =>
    refine kept_of_shell (Device.shell_registerTask d position) ?_
    rw [Device.step, Device.registerTask]
    split
    · rfl
    · rfl
  | _ => exact absurd he id

variable (P env) in
theorem account_step (d : Device) (e : Device.Event) :
    (d.step P env e).privateKey = d.privateKey ∧ (d.step P env e).mailList = d.mailList :=
  ⟨congrArg (fun a => a.2.1) (Device.emits_step P env d e).account,
    congrArg (fun a => a.2.2) (Device.emits_step P env d e).account⟩

theorem keys_reput (d : Device) (item : MessageItem (Option Cell)) :
    (d.reput item).keys = d.keys := by
  have hfailed : (d.failText item).keys = d.keys := by
    rw [Device.failText]
    split <;> rfl
  rw [Device.reput]
  split
  · rfl
  · dsimp only
    split
    · split <;> exact hfailed
    · exact hfailed

theorem keys_write (d : Device) : (d.write env).keys = d.keys := by
  rw [Device.write]
  split
  · rfl
  · dsimp only
    split
    · exact keys_reput _ _
    · split
      · rfl
      · exact keys_reput _ _

theorem sameFile_spares (d : Device) {e : Device.Event} (he : Spares c d e) :
    SameFile d (d.step P env e) := by
  cases e with
  | write => exact sameFile_of_eq (congrArg (fun keys => keys.keyFile) (keys_write d))
  | sendText messageContent remoteOnion messageID =>
    rw [Device.step, Device.handleTextMessageSend]
    split
    · exact sameFile_of_eq rfl
    · split
      · exact sameFile_of_eq rfl
      · intro hne
        have hsent : (d.keys.sendText messageID).keyFile ≠ [] := hne
        have hkept : (d.keys.textSent messageID).keyFile = d.keys.keyFile := by
          rw [KeyState.textSent, KeyState.writeBack_eq_self hsent]
          rfl
        exact hkept
  | sendFile fileFullPath content remoteOnion messageID =>
    exact sameFile_of_eq (quiet_queueFileMeta d _ _ _).2
  | sendBytes fileFullPath bitmapBytes remoteOnion messageID =>
    exact sameFile_of_eq (quiet_queueFileMeta d _ _ _).2
  | register position =>
    rw [Device.step, Device.registerTask]
    split
    · exact sameFile_of_eq rfl
    · exact sameFile_of_eq rfl
  | _ => exact absurd he id

theorem stands_spares {e : Device.Event} (he : Spares party.channel d e)
    (h : Stands party d taken status key inbox wire) :
    Stands party (d.step P env e) taken status key inbox wire := by
  obtain ⟨hslot, hqueue, htransports, hsent⟩ := kept_spares P env d he
  obtain ⟨hprivate, -⟩ := account_step P env d e
  refine ⟨hprivate ▸ h.publicKey, ?_, ?_, hqueue.trans h.queue, hsent ▸ h.delivered,
    hsent ▸ h.wire⟩
  · rw [Device.transport, htransports]
    exact h.bound
  · rw [hslot]
    exact h.entry

theorem waits_spares {e : Device.Event} (he : Spares party.channel d e)
    (h : Waits party d taken onionHash) : Waits party (d.step P env e) taken onionHash := by
  obtain ⟨hslot, hqueue, htransports, hsent⟩ := kept_spares P env d he
  obtain ⟨hprivate, hmailList⟩ := account_step P env d e
  refine ⟨hprivate ▸ h.publicKey, ?_, ?_, hslot ▸ h.entry, hqueue.trans h.queue,
    hsent ▸ h.silent⟩
  · rw [Device.transport, htransports]
    exact h.transport
  · rw [Device.getMailItemByOnionHash, hmailList, hprivate]
    exact h.mail

end Users

section Runs

variable {P : Platform} {party : Role → Party} {shared : Prop} {pair : Pair} {stage : Stage}

def Shakes : DevicePair.Event → Prop
  | .deliver _ => True
  | .act _ env .read => env.sent 0 = true
  | .act _ _ _ => False

def Faultless (channel : Role → Channel) (pair : Pair) : DevicePair.Event → Prop
  | .deliver _ => True
  | .act _ env .read => env.sent 0 = true
  | .act role _ event => Spares (channel role) (pair.device role) event

theorem keysMeet_spares (env : Env) {payload : Bytes} {e : Device.Event} {role : Role}
    (he : Spares (channel party role) (pair.device role) e)
    (h : KeysMeet stage payload (pair.device .sender).keys.keyFile
      (pair.device .receiver).keys.keyFile) :
    KeysMeet stage payload
      ((pair.set role ((pair.device role).step P env e)).device .sender).keys.keyFile
      ((pair.set role ((pair.device role).step P env e)).device .receiver).keys.keyFile := by
  have hsame : SameFile (pair.device role) ((pair.device role).step P env e) :=
    sameFile_spares (pair.device role) he
  cases role with
  | sender =>
    have hfile : ((pair.set .sender ((pair.device .sender).step P env e)).device
        .sender).keys.keyFile = (pair.device .sender).keys.keyFile := hsame h.callerKeyed
    rw [hfile]
    exact h
  | receiver =>
    have hfile : ((pair.set .receiver ((pair.device .receiver).step P env e)).device
        .receiver).keys.keyFile = (pair.device .receiver).keys.keyFile := hsame h.calleeKeyed
    rw [hfile]
    exact h

theorem reached_spares (h : Reached P party shared pair stage) {role : Role} (env : Env)
    {e : Device.Event} (he : Spares (channel party role) (pair.device role) e) :
    Reached P party shared (pair.set role ((pair.device role).step P env e)) stage := by
  cases h with
  | asked key payload onionHash hspells hhash hcaller hcallee hkeys =>
    have hmeet := fun hshared => keysMeet_spares (P := P) env he (hkeys hshared)
    cases role with
    | sender =>
      exact .asked key payload onionHash hspells hhash (stands_spares he hcaller) hcallee hmeet
    | receiver =>
      exact .asked key payload onionHash hspells hhash hcaller (waits_spares he hcallee) hmeet
  | along _ key payload hlength h =>
    exact .along _ key payload hlength (along_set role h h.spelt
      (stands_spares he (h.stands role)) ⟨rfl, rfl, rfl, rfl⟩
      (fun hshared => keysMeet_spares env he (h.keys hshared)))

theorem reached_step (hmatched : Matched party) (h : Reached P party shared pair stage)
    {e : DevicePair.Event} (he : Faultless (channel party) pair e) :
    ∃ stage', Reached P party shared (DevicePair.step P (channel party) pair e) stage' := by
  cases e with
  | deliver role =>
    by_cases hrole : ∃ s, stage = .wire s ∧ speaker s = role
    · obtain ⟨s, rfl, rfl⟩ := hrole
      exact ⟨_, reached_deliver hmatched h⟩
    · have hnone := silent_of_reached h role fun s hs hspeaker => hrole ⟨s, hs, hspeaker⟩
      rw [DevicePair.step, hnone]
      exact ⟨stage, h⟩
  | act role env event =>
    by_cases hread : event = .read
    · subst hread
      by_cases hrole : ∃ s, stage = .inbox s ∧ speaker s = role.other
      · obtain ⟨s, rfl, hspeaker⟩ := hrole
        have hreached := reached_read he h
        rw [hspeaker, DevicePair.other_other] at hreached
        exact ⟨_, hreached⟩
      · have hqueue := idle_of_reached h role fun s hs hspeaker => hrole ⟨s, hs, hspeaker⟩
        have hidle : (pair.device role).step P env .read = pair.device role := by
          rw [Device.step, Device.read, hqueue]
        rw [DevicePair.step, hidle, DevicePair.set_self]
        exact ⟨stage, h⟩
    · have hspares : Spares (channel party role) (pair.device role) event := by
        cases event <;> first | exact he | exact absurd rfl hread
      exact ⟨stage, reached_spares h env hspares⟩

theorem reached_run (hmatched : Matched party) (h : Reached P party shared pair stage)
    {events : List DevicePair.Event}
    (hevents : (DevicePair.machine P (channel party)).Guarded (Faultless (channel party)) pair
      events) :
    ∃ stage', Reached P party shared ((DevicePair.machine P (channel party)).run pair events)
      stage' := by
  induction events generalizing pair stage with
  | nil => exact ⟨stage, h⟩
  | cons e events ih =>
    obtain ⟨stage', h'⟩ := reached_step hmatched h hevents.1
    exact ih h' hevents.2

def Stage.left : Stage → Nat
  | .wire .request => 8
  | .inbox .request => 7
  | .wire .auth => 6
  | .inbox .auth => 5
  | .wire .exchange => 4
  | .inbox .exchange => 3
  | .wire .done => 2
  | .inbox .done => 1
  | .opened => 0

theorem reached_next (hmatched : Matched party) (h : Reached P party shared pair stage)
    (hopened : stage ≠ .opened) : ∃ e, Shakes e ∧
      Reached P party shared (DevicePair.step P (channel party) pair e) stage.next := by
  cases stage with
  | wire s => exact ⟨.deliver (speaker s), trivial, reached_deliver hmatched h⟩
  | inbox s => exact ⟨.act (speaker s).other {} .read, rfl, reached_read rfl h⟩
  | opened => exact absurd rfl hopened

theorem reached_opened (hmatched : Matched party) (h : Reached P party shared pair stage) :
    ∃ more, (∀ e ∈ more, Shakes e) ∧
      Reached P party shared ((DevicePair.machine P (channel party)).run pair more) .opened := by
  induction hn : stage.left using Nat.strongRecOn generalizing pair stage with
  | ind n ih =>
    subst hn
    by_cases hopened : stage = .opened
    · subst hopened
      exact ⟨[], fun e he => absurd he List.not_mem_nil, h⟩
    · obtain ⟨e, he, hnext⟩ := reached_next hmatched h hopened
      have hless : stage.next.left < stage.left := by
        cases stage with
        | wire s => cases s <;> decide
        | inbox s => cases s <;> decide
        | opened => exact absurd rfl hopened
      obtain ⟨more, hmore, hreached⟩ := ih _ hless hnext rfl
      exact ⟨e :: more, List.forall_mem_cons.mpr ⟨he, hmore⟩, hreached⟩

def Settled (channel : Role → Channel) (pair : Pair) : Prop :=
  ∀ role, (pair.device role).recieveQueue = [] ∧
    pair.delivered role = (sent (channel role) (pair.device role)).length

def Open (party : Party) (key : Bytes) (d : Device) : Prop :=
  ∃ item, d.conns.slot party.channel.peer party.channel.socket = [item] ∧ item.status = 1 ∧
    item.shareKey = some key

theorem settled_iff (h : Reached P party shared pair stage) :
    Settled (channel party) pair ↔ stage = .opened := by
  constructor
  · intro hsettled
    cases h with
    | asked key payload onionHash hspells hhash hcaller hcallee hkeys =>
      have hwire := hcaller.wire
      rw [← channel, (hsettled .sender).2, List.drop_length] at hwire
      cases hwire
    | along _ key payload hlength h =>
      cases stage with
      | wire s =>
        have hwire := (h.stands (speaker s)).wire
        rw [Stage.wired, if_pos rfl, ← channel, (hsettled (speaker s)).2, List.drop_length] at hwire
        cases hwire
      | inbox s =>
        have hqueue := (h.stands (speaker s).other).queue
        rw [Stage.queued, DevicePair.other_other, if_pos rfl, (hsettled (speaker s).other).1]
          at hqueue
        cases hqueue
      | opened => rfl
  · rintro rfl
    cases h with
    | along _ key payload hlength h =>
      intro role
      have hstands := h.stands role
      have hread := List.drop_eq_nil_iff.mp hstands.wire
      exact ⟨hstands.queue, Nat.le_antisymm hstands.delivered hread⟩

theorem open_of_reached (h : Reached P party shared pair .opened) :
    ∃ key, key.length = 32 ∧ ∀ role, Open (party role) key (pair.device role) := by
  cases h with
  | along _ key payload hlength h =>
    refine ⟨key, hlength, fun role => ?_⟩
    obtain ⟨item, hslot, hstatus, hkey⟩ := (h.stands role).entry
    cases role with
    | sender => exact ⟨item, hslot, hstatus, hkey⟩
    | receiver => exact ⟨item, hslot, hstatus, hkey⟩

theorem opened_of_status {s : Stage} (h : s.status .sender = 1) : s = .opened := by
  cases s with
  | wire s => cases s <;> exact absurd h (by decide)
  | inbox s => cases s <;> exact absurd h (by decide)
  | opened => rfl

theorem open_unique {party : Party} {d : Device} {key : Bytes} {item : ConnectionStatusItem}
    (h : Open party key d)
    (hslot : d.conns.slot party.channel.peer party.channel.socket = [item]) :
    item.status = 1 ∧ item.shareKey = some key := by
  obtain ⟨item', hslot', hstatus, hkey⟩ := h
  rw [hslot'] at hslot
  obtain rfl := List.singleton_injective hslot
  exact ⟨hstatus, hkey⟩

-- the callee is connected before the caller is
theorem open_callee_of_caller (h : Reached P party shared pair stage) {key : Bytes}
    (hopen : Open (party .sender) key (pair.device .sender)) :
    Open (party .receiver) key (pair.device .receiver) := by
  have hopened : stage = .opened := by
    cases h with
    | asked key' payload onionHash hspells hhash hcaller hcallee hkeys =>
      obtain ⟨item, hslot, hstatus, -⟩ := hcaller.entry
      have hone := (open_unique hopen hslot).1
      omega
    | along _ key' payload hlength h =>
      obtain ⟨item, hslot, hstatus, -⟩ := (h.stands .sender).entry
      exact opened_of_status (hstatus.symm.trans (open_unique hopen hslot).1)
  subst hopened
  obtain ⟨key', -, hkey'⟩ := open_of_reached h
  obtain ⟨item, hslot, -, hshared⟩ := hkey' .sender
  rw [(open_unique hopen hslot).2] at hshared
  obtain rfl := Option.some.inj hshared
  exact hkey' .receiver

end Runs

section Dialling

variable (P : Platform) (party : Role → Party)

-- the callee knows the caller as a contact
structure Listens (d : Device) (taken : Nat) (callerOnion : String) : Prop where
  publicKey : d.privateKey.publicKey = (party .receiver).publicKey
  mail : ∃ mail, d.getMailItemByOnionHash (P.sha256 (getBytes callerOnion)) = some mail ∧
    mail.onionName = (party .receiver).channel.peer ∧ (party .receiver).handShake = {
      remoteOnion := mail.onionName, localPrivateKey := d.privateKey
      remotePublickey := mail.publicKey }
  unused : d.transport (party .receiver).channel.socket = none
  entry : d.conns.slot (party .receiver).channel.peer (party .receiver).channel.socket = []
  queue : d.recieveQueue = []
  silent : (sent (party .receiver).channel d).length = taken

-- the caller knows the callee and has no connection to it
structure Dials (d : Device) (taken : Nat) : Prop where
  publicKey : d.privateKey.publicKey = (party .sender).publicKey
  mail : ∃ mail, d.mailList.get? (party .sender).channel.peer = some mail ∧
    mail.onionName = (party .sender).channel.peer ∧ (party .sender).handShake =
      (d.handShakeMessageHandlerByOnionName.get? (party .sender).channel.peer).getD {
        remoteOnion := mail.onionName, localPrivateKey := d.privateKey
        remotePublickey := mail.publicKey }
  unused : d.transport (party .sender).channel.socket = none
  unlisted : d.conns.allConByOnionName.get? (party .sender).channel.peer = none
  queue : d.recieveQueue = []
  silent : (sent (party .sender).channel d).length = taken

-- two copies of one key file, each with an index of its own
structure SharesKeyFile (pair : Pair) : Prop where
  caller : (pair.device .sender).keys.keyFile ≠ []
  callee : (pair.device .receiver).keys.keyFile ≠ []
  tail : (pair.device .sender).keys.keyFile.tail = (pair.device .receiver).keys.keyFile.tail

structure Apart (pair : Pair) : Prop where
  matched : Matched party
  dials : Dials party (pair.device .sender) (pair.delivered .sender)
  listens : Listens P party (pair.device .receiver) (pair.delivered .receiver)
    (pair.device .sender).onionName

def dial (env : Env) (purpose : Nat) : List DevicePair.Event :=
  [.act .receiver {} (.accept (party .receiver).channel.socket),
    .act .sender {} (.connect (party .sender).channel.peer purpose (party .sender).channel.socket),
    .act .sender env (.startHandShake (party .sender).channel.peer purpose)]

variable {P : Platform} {party : Role → Party} {shared : Prop} {pair : Pair} {env : Env}

theorem waits_accept {d : Device} {taken : Nat} {callerOnion : String}
    (h : Listens P party d taken callerOnion) :
    Waits (party .receiver) (d.accept (party .receiver).channel.socket) taken
      (P.sha256 (getBytes callerOnion)) := by
  refine ⟨h.publicKey, ⟨{ socket := (party .receiver).channel.socket }, ?_, rfl⟩, h.mail, h.entry,
    h.queue, h.silent⟩
  have hunused := h.unused
  rw [Device.transport] at hunused
  rw [Device.transport, Device.accept, List.find?_append, hunused, Option.none_or]
  exact List.find?_cons_of_pos (decide_eq_true rfl)

theorem chosen_addNewConnection {conns : Connections} {item : ConnectionStatusItem}
    (hunlisted : conns.allConByOnionName.get? item.onionName = none) (hkey : item.shareKey = none) :
    (conns.addNewConnection item).getConnectionStatusItemByOnionName item.onionName item.purpose =
      some item := by
  rw [Connections.getConnectionStatusItemByOnionName, Connections.addNewConnection, hunlisted,
    Connections.setItems, HashMap.get?_put_self, Option.bind_some]
  simp [ConnectionItems.addNewConn, ConnectionItems.getConnByPurpose, hkey]

-- the caller once its connection is listed
def connected (d : Device) (party : Party) (purpose : Nat) : Device :=
  { d with
    conns := d.conns.addNewConnection {
      onionName := party.channel.peer, socket := party.channel.socket, purpose := purpose }
    handShakeMessageHandlerByOnionName :=
      d.handShakeMessageHandlerByOnionName.put party.channel.peer party.handShake }

theorem connect_of_dials {d : Device} {taken : Nat} (h : Dials party d taken) (purpose : Nat) :
    d.connect (party .sender).channel.peer purpose (party .sender).channel.socket =
      connected d (party .sender) purpose := by
  obtain ⟨mail, hmail, hname, hhandShake⟩ := h.mail
  rw [Device.connect, hmail]
  dsimp only
  rw [← hhandShake, hname]
  rfl

-- the caller once its REQUEST is written
def asked (d : Device) (party : Party) (purpose : Nat) (mail : MailItem) (payload : Bytes) :
    Device :=
  { connected d party purpose with
    keys := d.keys.openRequest
    written := d.written ++ [(party.channel.socket, party.handShake.build payload)]
    transports := d.transports ++ [{
      socket := party.channel.socket, mailItem := some mail
      handShakeMessage := some party.handShake }] }

theorem start_of_dials (hsent : env.sent 0 = true) (purpose : Nat) {d : Device} {taken : Nat}
    {payload : Bytes} (h : Dials party d taken)
    (hpayload : HandShakeMessage.requestPayload P (env.ambient 0) d.onionName d.keys.requestXor =
      some payload) :
    ∃ mail, mail.onionName = (party .sender).channel.peer ∧
      (connected d (party .sender) purpose).startHandShakeProcess P env
        (party .sender).channel.peer purpose = asked d (party .sender) purpose mail payload := by
  obtain ⟨mail, hmail, hname, -⟩ := h.mail
  have hchosen : (connected d (party .sender) purpose).conns.getConnectionStatusItemByOnionName
      (party .sender).channel.peer purpose = some {
        onionName := (party .sender).channel.peer, socket := (party .sender).channel.socket
        purpose := purpose } := chosen_addNewConnection h.unlisted rfl
  have hlisted : (connected d (party .sender) purpose).mailList.get? (party .sender).channel.peer =
      some mail := hmail
  have hhandler : (connected d (party .sender) purpose).handShakeMessageHandlerByOnionName.get?
      (party .sender).channel.peer = some (party .sender).handShake := HashMap.get?_put_self _ _ _
  have hbody : (party .sender).handShake.createSessionRequestMessage P (env.ambient 0)
      (connected d (party .sender) purpose).onionName
      (connected d (party .sender) purpose).keys.requestXor =
        some ((party .sender).handShake.build payload) := by
    rw [HandShakeMessage.createSessionRequestMessage]
    exact congrArg (Option.map _) hpayload
  refine ⟨mail, hname, ?_⟩
  rw [Device.startHandShakeProcess, hchosen, hlisted, hhandler]
  dsimp only
  rw [if_neg (by decide), hbody]
  dsimp only
  rw [if_pos hsent]
  rfl

theorem stands_asked (purpose : Nat) {d : Device} {taken : Nat} (payload : Bytes)
    (h : Dials party d taken) {mail : MailItem}
    (hname : mail.onionName = (party .sender).channel.peer) :
    Stands (party .sender) (asked d (party .sender) purpose mail payload) taken 0 none []
      [payload] := by
  have hslot : d.conns.slot (party .sender).channel.peer (party .sender).channel.socket = [] := by
    rw [Connections.slot, h.unlisted]
    rfl
  have hunused := h.unused
  rw [Device.transport] at hunused
  have hsaid := SessionOrder.cells_transmit (connected d (party .sender) purpose)
    (party .sender).channel.socket ((party .sender).handShake.build payload)
  have hbefore : (SessionOrder.cells (party .sender).channel.socket
      (connected d (party .sender) purpose)).length = taken := h.silent
  refine ⟨h.publicKey, ⟨{
    socket := (party .sender).channel.socket, mailItem := some mail
    handShakeMessage := some (party .sender).handShake }, mail, ?_, rfl, hname, rfl⟩, ⟨{
    onionName := (party .sender).channel.peer, socket := (party .sender).channel.socket
    purpose := purpose }, ?_, rfl, rfl⟩, h.queue, ?_, ?_⟩
  · rw [Device.transport, asked, List.find?_append, hunused, Option.none_or]
    exact List.find?_cons_of_pos (decide_eq_true rfl)
  · refine (slot_addNewConnection_self d.conns { onionName := (party .sender).channel.peer
                                                 socket := (party .sender).channel.socket
                                                 purpose := purpose }).trans ?_
    rw [hslot]
    rfl
  · have hlength := congrArg List.length hsaid
    rw [List.length_append, hbefore] at hlength
    exact Nat.le_trans (Nat.le_add_right _ _) (Nat.le_of_eq hlength.symm)
  · refine (congrArg (List.drop taken) hsaid).trans ?_
    rw [← hbefore, List.drop_left]
    rfl

-- the pair once the callee has accepted the socket and the caller has sent its REQUEST
def asking (pair : Pair) (callee caller : Device) : Pair :=
  (pair.set .receiver callee).set .sender caller

variable (P party) in
theorem run_dial (pair : Pair) (env : Env) (purpose : Nat) :
    (DevicePair.machine P (channel party)).run pair (dial party env purpose) =
      asking pair ((pair.device .receiver).accept (party .receiver).channel.socket)
        (((pair.device .sender).connect (party .sender).channel.peer purpose
          (party .sender).channel.socket).startHandShakeProcess P env
            (party .sender).channel.peer purpose) := by
  rw [dial, Machine.run_cons, Machine.run_cons, Machine.run_cons]
  exact DevicePair.set_set _ _ _ _

theorem keysMeet_dial {caller callee : KeyState} (hcaller : caller.keyFile ≠ [])
    (hcallee : callee.keyFile ≠ []) (htail : caller.keyFile.tail = callee.keyFile.tail)
    (payload : Bytes) :
    KeysMeet (.wire .request) payload caller.openRequest.keyFile callee.keyFile := by
  refine ⟨set_ne_nil hcaller _, hcallee, ?_, fun hstep => ?_, fun hstep => absurd rfl hstep⟩
  · exact (KeyState.tail_handShake caller .openRequest).trans htail
  · cases hstep

variable (env) in
theorem run_of_apart (h : Apart P party pair) (hsent : env.sent 0 = true) (purpose : Nat) :
    ∃ mail payload, mail.onionName = (party .sender).channel.peer ∧
      Spells P .request [] payload ∧ Message.subBytes payload 33 32 =
        some (P.sha256 (getBytes (pair.device .sender).onionName)) ∧
      (DevicePair.machine P (channel party)).run pair (dial party env purpose) =
        asking pair ((pair.device .receiver).accept (party .receiver).channel.socket)
          (asked (pair.device .sender) (party .sender) purpose mail payload) := by
  obtain ⟨payload, hpayload, hspells, hhash⟩ := spells_request (P := P) (env.ambient 0)
    (pair.device .sender).keys (pair.device .sender).onionName []
  obtain ⟨mail, hname, hstart⟩ := start_of_dials hsent purpose h.dials hpayload
  refine ⟨mail, payload, hname, hspells, hhash, ?_⟩
  rw [run_dial, connect_of_dials h.dials, hstart]

theorem reached_dial (h : Apart P party pair) (hsent : env.sent 0 = true) (purpose : Nat) :
    Reached P party (SharesKeyFile pair)
      ((DevicePair.machine P (channel party)).run pair (dial party env purpose))
      (.wire .request) := by
  obtain ⟨mail, payload, hname, hspells, hhash, hrun⟩ := run_of_apart env h hsent purpose
  rw [hrun]
  exact .asked [] payload _ hspells hhash (stands_asked purpose payload h.dials hname)
    (waits_accept h.listens)
    (fun hshared => keysMeet_dial hshared.caller hshared.callee hshared.tail payload)

theorem sameFile_of_reached {shared : Prop} {stage : Stage} (h : Reached P party shared pair stage)
    (hopened : stage = .opened) (hshared : shared) :
    (pair.device .sender).keys.keyFile = (pair.device .receiver).keys.keyFile := by
  subst hopened
  cases h with
  | along _ key payload hlength h => exact (h.keys hshared).same (by decide) (by decide)

end Dialling

def meetingParty : Role → Party
  | .sender => {
      channel := { peer := "bob", socket := 7, sharedKey := [], keyFile := [] }
      publicKey := ⟨1⟩
      handShake := { remoteOnion := "bob", localPrivateKey := ⟨1⟩, remotePublickey := ⟨2⟩ } }
  | .receiver => {
      channel := { peer := "alice", socket := 8, sharedKey := [], keyFile := [] }
      publicKey := ⟨2⟩
      handShake := { remoteOnion := "alice", localPrivateKey := ⟨2⟩, remotePublickey := ⟨1⟩ } }

def meetingPair (sendQueue : List (MessageItem (Option Cell)) := []) : Pair where
  device
    | .sender => {
        onionName := "alice", privateKey := ⟨1⟩, keys := { keyFile := [5] }
        mailList := HashMap.put ∅ "bob" (.ofContact demoPlatform "bob" ⟨2⟩)
        sendQueue := sendQueue }
    | .receiver => {
        onionName := "bob", privateKey := ⟨2⟩, keys := { keyFile := [9] }
        mailList := HashMap.put ∅ "alice" (.ofContact demoPlatform "alice" ⟨1⟩) }
  delivered _ := 0

theorem apart_meeting (sendQueue : List (MessageItem (Option Cell))) :
    Apart demoPlatform meetingParty (meetingPair sendQueue) where
  matched := ⟨fun role => by cases role <;> rfl⟩
  dials := ⟨rfl, ⟨.ofContact demoPlatform "bob" ⟨2⟩, HashMap.get?_put_self _ _ _, rfl, rfl⟩, rfl,
    rfl, rfl, rfl⟩
  listens := by
    refine ⟨rfl, ⟨.ofContact demoPlatform "alice" ⟨1⟩, ?_, rfl, rfl⟩, rfl, rfl, rfl, rfl⟩
    rw [Device.getMailItemByOnionHash, meetingPair]
    dsimp only
    rw [HashMap.values_put]
    exact List.find?_cons_of_pos (decide_eq_true rfl)

-- an item for a third peer waits when the handshake begins
def forCarol : MessageItem (Option Cell) where
  onionName := "carol"
  socket := 9
  data := some .zeros
  type := 1
  purpose := Constant.socketPurposeFile

end HandShakeCompletion

end TorChat
