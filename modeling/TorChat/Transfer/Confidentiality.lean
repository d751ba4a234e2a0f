import TorChat.Transfer.Isolation

namespace TorChat

open Library (Bytes HashMap Machine)

namespace FileConfidentiality

variable (P : Platform)

def Handed (original : FileTask) : Device.Event → Prop
  | .sendFile fileFullPath content remoteOnion messageID => ∃ keyFile,
      original = FileTask.ofFile P keyFile remoteOnion fileFullPath content messageID
  | .sendBytes fileFullPath bitmapBytes remoteOnion messageID => ∃ keyFile,
      original = FileTask.ofBitmap P keyFile remoteOnion fileFullPath bitmapBytes messageID
  | _ => False

def HandedTo (i : MessageItem (Option Cell)) (e : Device.Event) : Prop :=
  ∃ original, Handed P original e ∧ original.onionName = i.onionName ∧
    FileTask.PieceOf P i original

def Confidential (d : Device) (events : List (Env × Device.Event)) : Prop :=
  ∀ i ∈ ((Device.machine P).run d events).sendQueue,
    i.messageType = some Constant.dataFileData → ∃ e ∈ events, HandedTo P i e.2

structure SelectsOwn (d : Device) (item : MessageItem Bytes) : Prop where
  requested : Device.requestsPieces P item = true → ∀ found ∈ d.selectedTask P item,
    found.direction = .send ∧ found.onionName = item.onionName
  received : Message.parseMessageType item.data = some Constant.dataFileData →
    ∀ found ∈ d.selectedTask P item, found.direction = .recieve

def AsksOwn (d : Device) (e : Env × Device.Event) : Prop :=
  e.2 = .read → ∀ item ∈ d.recieveQueue.head?, item.type = 1 → SelectsOwn P d item

instance (d : Device) (item : MessageItem Bytes) : Decidable (SelectsOwn P d item) :=
  decidable_of_iff ((Device.requestsPieces P item = true → ∀ found ∈ d.selectedTask P item,
      found.direction = .send ∧ found.onionName = item.onionName) ∧
    (Message.parseMessageType item.data = some Constant.dataFileData →
      ∀ found ∈ d.selectedTask P item, found.direction = .recieve))
    ⟨fun h => ⟨h.1, h.2⟩, fun h => ⟨h.requested, h.received⟩⟩

instance (d : Device) (e : Env × Device.Event) : Decidable (AsksOwn P d e) :=
  inferInstanceAs (Decidable (_ → ∀ item ∈ d.recieveQueue.head?, _))

def Origin (S : Device.Event → Prop) (task : FileTask) : Prop :=
  ∃ e original, S e ∧ Handed P original e ∧ task.onionName = original.onionName ∧
    task.fileNameHash = original.fileNameHash ∧
    task.filePieceContentMap = original.filePieceContentMap

structure Owned (S : Device.Event → Prop) (s : FileState) : Prop where
  stored : ∀ fileName, ∀ task ∈ s.senderFileMap.get? fileName,
    task.direction = .send → Origin P S task
  registering : ∀ task ∈ s.registering, Origin P S task
  queued : ∀ i ∈ s.sendQueue, i.messageType = some Constant.dataFileData → ∃ e, S e ∧ HandedTo P i e

variable {P} {S : Device.Event → Prop} {s : FileState} {item : MessageItem Bytes}

theorem handedTo_of_origin {task : FileTask} {i : MessageItem (Option Cell)}
    (h : Origin P S task) (honion : task.onionName = i.onionName)
    (hpiece : FileTask.PieceOf P i task) : ∃ e, S e ∧ HandedTo P i e := by
  obtain ⟨e, original, he, hhanded, hpeer, hhash, hmap⟩ := h
  obtain ⟨amb, keys, sharedKey, messageID, pieceID, fileContent, hget, hdata⟩ := hpiece
  refine ⟨e, he, original, hhanded, hpeer.symm.trans honion, amb, keys, sharedKey, messageID,
    pieceID, fileContent, ?_, ?_⟩
  · rw [← hmap, hget]
  · rw [← hhash, hdata]

theorem owned_op (hk : s.Keyed) (h : Owned P S s) {op : FileOp}
    (hop : s.Admits (fun task => task.direction = .send → Origin P S task) (Origin P S) op)
    (hitems : ∀ items, op = .queue items → ∀ i ∈ items,
      i.messageType = some Constant.dataFileData → ∃ e, S e ∧ HandedTo P i e) :
    Owned P S (s.step op) := by
  have hall : s.All (fun task => task.direction = .send → Origin P S task) (Origin P S) :=
    ⟨h.stored, h.registering⟩
  have hnext : (s.step op).All (fun task => task.direction = .send → Origin P S task)
      (Origin P S) := FileState.all_step hk (fun _ ht _ => ht) hall hop
  obtain ⟨hstored, hregistering⟩ := hnext
  refine ⟨hstored, hregistering, fun i hi htype => ?_⟩
  rcases FileState.mem_sendQueue_step hi with hold | ⟨items, rfl, hnew⟩
  · exact h.queued i hold htype
  · exact hitems items rfl i hnew htype

theorem admits_data {d : Device} (hown : SelectsOwn P d item) (h : Owned P S s) {op : FileOp}
    (hop : Device.DataPermitted P d item s op) :
    s.Admits (fun task => task.direction = .send → Origin P S task) (Origin P S) op := by
  cases op with
  | mark fileName status => exact fun task htask hsend => h.stored fileName task htask hsend
  | recievePiece fileName pieceID fileContent =>
    intro task htask hsend
    obtain ⟨htype, found, touched, hselected, hget, hevolves⟩ := hop
    obtain rfl := Option.some.inj (htask.symm.trans hget)
    have hdirection : task.direction = .send := hsend
    rw [hevolves.direction, hown.received htype found hselected] at hdirection
    cases hdirection
  | acknowledge fileName pieceID =>
    exact fun task htask hsend => h.stored fileName task htask hsend
  | put task =>
    obtain ⟨announced, hannounced, rfl⟩ := hop
    intro hsend
    cases (Device.direction_announced hannounced).symm.trans hsend
  | remove fileName => exact trivial
  | queue items => exact trivial
  | stopTasks onionName => exact absurd hop id
  | dequeue => exact absurd hop id
  | startRegister task => exact absurd hop id
  | register position => exact absurd hop id

theorem handed_of_resumes (h : Owned P S s) {items : List (MessageItem (Option Cell))}
    (hop : s.Resumes P (.queue items)) {i : MessageItem (Option Cell)} (hi : i ∈ items)
    (htype : i.messageType = some Constant.dataFileData) : ∃ e, S e ∧ HandedTo P i e := by
  obtain ⟨fileName, task, hget, hsend, -, honion, hpiece⟩ := hop i hi htype
  exact handedTo_of_origin (h.stored fileName task hget hsend) honion hpiece

theorem handed_of_data {d : Device} (hd : Owned P S d.files) (hown : SelectsOwn P d item)
    {items : List (MessageItem (Option Cell))}
    (hop : Device.DataPermitted P d item s (.queue items)) {i : MessageItem (Option Cell)}
    (hi : i ∈ items) (htype : i.messageType = some Constant.dataFileData) :
    ∃ e, S e ∧ HandedTo P i e := by
  obtain ⟨hrequest, honion, found, hselected, hpiece⟩ := hop i hi htype
  obtain ⟨hsend, hpeer⟩ := hown.requested hrequest found hselected
  have hstored : ∃ fileName, d.senderFileMap.get? fileName = some found :=
    Device.selectedTask_stored hselected
  obtain ⟨fileName, hget⟩ := hstored
  exact handedTo_of_origin (hd.stored fileName found hget hsend) (hpeer.trans honion.symm) hpiece

theorem handed_of_permitted {d : Device} {e : Env × Device.Event} (hd : Owned P S d.files)
    (hown : AsksOwn P d e) (h : Owned P S s) {items : List (MessageItem (Option Cell))}
    (hop : d.FilePermitted P e.1 e.2 s (.queue items)) {i : MessageItem (Option Cell)}
    (hi : i ∈ items) (htype : i.messageType = some Constant.dataFileData) :
    ∃ e, S e ∧ HandedTo P i e := by
  have hstops (hstop : d.Stops e.1 e.2 (.queue items)) : ∃ e, S e ∧ HandedTo P i e := by
    obtain ⟨item, -, -, hop⟩ := hstop
    cases hop
  obtain ⟨env, event⟩ := e
  cases event with
  | accept socket => exact absurd hop id
  | connect onionName purpose socket => exact absurd hop id
  | receiveCell socket cell => exact hstops hop
  | hangUp socket => exact hstops hop
  | startHandShake name purpose => exact hstops hop
  | read =>
    obtain ⟨item, rest, hqueue, ⟨-, hresumes⟩ | ⟨hdata, hpermitted⟩⟩ := hop
    · exact handed_of_resumes h hresumes hi htype
    · have hselects := hown rfl item (by rw [hqueue]; rfl) hdata
      exact handed_of_data hd hselects hpermitted hi htype
  | write => cases hop
  | sendText messageContent remoteOnion messageID =>
    obtain ⟨texts, hqueue, hitems⟩ := hop
    obtain rfl := FileOp.queue.inj hqueue
    exact absurd htype (hitems i hi)
  | sendFile fileFullPath content remoteOnion messageID => exact absurd htype (hop i hi)
  | sendBytes fileFullPath bitmapBytes remoteOnion messageID => exact absurd htype (hop i hi)
  | register position => cases hop
  | tryResendAll => exact handed_of_resumes h hop hi htype

theorem origin_handed {d : Device} {e : Device.Event} (he : S e) :
    ∀ task ∈ d.handedTask P e, Origin P S task := by
  intro task htask
  cases e with
  | sendFile fileFullPath content remoteOnion messageID =>
    obtain rfl := Option.some.inj htask
    exact ⟨_, _, he, ⟨d.keys.keyFile, rfl⟩, rfl, rfl, rfl⟩
  | sendBytes fileFullPath bitmapBytes remoteOnion messageID =>
    obtain rfl := Option.some.inj htask
    exact ⟨_, _, he, ⟨d.keys.keyFile, rfl⟩, rfl, rfl, rfl⟩
  | _ => cases htask

theorem owned_filePermitted {d : Device} {e : Env × Device.Event} (he : S e.2)
    (hd : Owned P S d.files) (hown : AsksOwn P d e) (s : FileState) (op : FileOp)
    (hs : s.Keyed ∧ Owned P S s) (hop : d.FilePermitted P e.1 e.2 s op) :
    (s.step op).Keyed ∧ Owned P S (s.step op) := by
  obtain ⟨hk, h⟩ := hs
  refine ⟨FileState.keyed_step s op hk, owned_op hk h ?_ ?_⟩
  · refine Device.admits_filePermitted (fun _ _ ht => ht) (fun _ _ ht => ht)
      ⟨h.stored, h.registering⟩ (origin_handed he) ?_ hop
    rintro hread ⟨item, rest, hqueue, ⟨-, hresumes⟩ | ⟨htype, hdata⟩⟩
    · exact FileState.admits_resumes (fun _ _ ht => ht) ⟨h.stored, h.registering⟩ hresumes
    · exact admits_data (hown hread item (by rw [hqueue]; rfl) htype) h hdata
  · rintro items rfl i hi htype
    exact handed_of_permitted hd hown h hop hi htype

theorem owned_step {d : Device} {e : Env × Device.Event} (hs : d.Sound) (hd : Owned P S d.files)
    (he : S e.2) (hown : AsksOwn P d e) : Owned P S (d.step P e.1 e.2).files :=
  (Machine.reaches_invariant (I := fun s => s.Keyed ∧ Owned P S s)
    (owned_filePermitted he hd hown) (Device.step_files_reaches hs.1 hs.2 e.2) ⟨hs.1, hd⟩).2

theorem pieces_stay_with_peer {d : Device} (hconns : d.conns.Named) (hmap : d.senderFileMap = ∅)
    (hregistering : d.registering = []) (hqueue : d.sendQueue = [])
    {events : List (Env × Device.Event)}
    (h : (Device.machine P).Guarded (AsksOwn P) d events) : Confidential P d events := by
  have hsound : d.Sound := ⟨FileState.keyed_of_empty hmap, hconns⟩
  have hstart : Owned P (fun event => ∃ e ∈ events, e.2 = event) d.files := by
    refine ⟨?_, ?_, ?_⟩
    · intro fileName task hget
      rw [show d.files.senderFileMap = ∅ from hmap] at hget
      cases hget
    · intro task htask
      rw [show d.files.registering = [] from hregistering] at htask
      cases htask
    · intro i hi
      rw [show d.files.sendQueue = [] from hqueue] at hi
      cases hi
  have hmem : (Device.machine P).Guarded (fun _ e => e ∈ events) d events :=
    (Device.machine P).guarded_of_forall d (fun e he => he)
  have hfinal := (Device.machine P).guarded_invariant
    (I := fun d => d.Sound ∧ Owned P (fun event => ∃ e ∈ events, e.2 = event) d.files)
    (fun q e hq hg => ⟨Device.sound_step hq.1 e.2, owned_step hq.1 hq.2 ⟨e, hg.2, rfl⟩ hg.1⟩)
    ((Device.machine P).guarded_and h hmem) ⟨hsound, hstart⟩
  intro i hi htype
  obtain ⟨event, ⟨e, he, rfl⟩, hhanded⟩ := hfinal.2.queued i hi htype
  exact ⟨e, he, hhanded⟩

def fileReady (fileName : String) (sharedKey : Bytes) : Cell :=
  .data sharedKey (Message.createDataMessageExternalPaylod demoPlatform {}
    TaskIsolation.twoPeers.keys Constant.dataFileReady (demoPlatform.sha1 (getBytes fileName)) 1000)

def sendThenReady (socket : Nat) (sharedKey : Bytes) : List (Env × Device.Event) :=
  [({}, .sendFile "f" [7] "p1" 1000), ({}, .register 0), ({}, .write),
    ({}, .receiveCell socket (fileReady "f" sharedKey)), ({}, .read)]

theorem pieces_stay_with_peer_ready :
    Confidential demoPlatform TaskIsolation.twoPeers (sendThenReady 1 [1]) :=
  pieces_stay_with_peer TaskIsolation.sound_twoPeers.2 rfl rfl rfl (by decide +kernel)

theorem ready_of_other_peer_leaks_pieces :
    ¬ Confidential demoPlatform TaskIsolation.twoPeers (sendThenReady 2 [2]) := by
  intro h
  have hleak : ∃ i ∈ ((Device.machine demoPlatform).run TaskIsolation.twoPeers
      (sendThenReady 2 [2])).sendQueue, i.messageType = some Constant.dataFileData ∧
        i.onionName = "p2" := by decide +kernel
  obtain ⟨i, hi, htype, honion⟩ := hleak
  obtain ⟨e, he, original, hhanded, hpeer, -⟩ := h i hi htype
  rw [honion] at hpeer
  simp only [sendThenReady, List.mem_cons, List.not_mem_nil, or_false] at he
  rcases he with rfl | rfl | rfl | rfl | rfl
  · obtain ⟨keyFile, rfl⟩ := hhanded
    exact absurd (show "p1" = "p2" from hpeer) (by decide)
  · exact hhanded
  · exact hhanded
  · exact hhanded
  · exact hhanded

end FileConfidentiality

end TorChat
