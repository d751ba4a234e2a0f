import TorChat.Server.FileRuns
import TorChat.Util.DemoPlatform

namespace TorChat

open Library (Bytes HashMap Machine)

namespace TaskIsolation

def fittingDirection (messageType : Nat) : Direction :=
  if messageType = Constant.dataFileMeta ∨ messageType = Constant.dataFileData then .recieve
  else .send

def Fits (item : MessageItem Bytes) (task : FileTask) : Prop :=
  task.onionName = item.onionName ∧
    ∀ messageType ∈ Message.parseMessageType item.data,
      task.direction = fittingDirection messageType

def Isolated (item : MessageItem Bytes) (s s' : FileState) : Prop :=
  ∀ fileName, s'.senderFileMap.get? fileName = s.senderFileMap.get? fileName ∨
    ((∀ task ∈ s.senderFileMap.get? fileName, Fits item task) ∧
      ∀ task ∈ s'.senderFileMap.get? fileName, Fits item task)

variable (P : Platform)

structure KeepsToPeer (d : Device) (item : MessageItem Bytes) : Prop where
  selected : ∀ found ∈ d.selectedTask P item, Fits item found
  announced : ∀ announced ∈ Device.announcedTask P item,
    ∀ old ∈ d.senderFileMap.get? announced.fileName, Fits item old

def Addressed (d : Device) (e : Env × Device.Event) : Prop :=
  e.2 = .read → ∀ item ∈ d.recieveQueue.head?, item.type = 1 → KeepsToPeer P d item

def CellsIsolated (d : Device) (events : List (Env × Device.Event)) : Prop :=
  ∀ xs env ys, events = xs ++ (env, .read) :: ys →
    ∀ item ∈ ((Device.machine P).run d xs).recieveQueue.head?, item.type = 1 →
      Isolated item ((Device.machine P).run d xs).files
        ((Device.machine P).run d (xs ++ [(env, .read)])).files

instance (item : MessageItem Bytes) (task : FileTask) : Decidable (Fits item task) :=
  inferInstanceAs (Decidable (_ ∧ ∀ messageType ∈ Message.parseMessageType item.data, _))

instance (d : Device) (item : MessageItem Bytes) : Decidable (KeepsToPeer P d item) :=
  decidable_of_iff ((∀ found ∈ d.selectedTask P item, Fits item found) ∧
    ∀ announced ∈ Device.announcedTask P item,
      ∀ old ∈ d.senderFileMap.get? announced.fileName, Fits item old)
    ⟨fun h => ⟨h.1, h.2⟩, fun h => ⟨h.selected, h.announced⟩⟩

instance (d : Device) (e : Env × Device.Event) : Decidable (Addressed P d e) :=
  inferInstanceAs (Decidable (_ → ∀ item ∈ d.recieveQueue.head?, _))

variable {P} {item : MessageItem Bytes} {s s' : FileState}

theorem fits_evolves {task task' : FileTask} (h : task.Evolves task') (hfits : Fits item task) :
    Fits item task' := by
  obtain ⟨honion, hdirection⟩ := hfits
  constructor
  · rw [h.onionName, honion]
  · intro messageType htype
    rw [h.direction, hdirection messageType htype]

theorem isolated_refl (s : FileState) : Isolated item s s := fun _ => .inl rfl

theorem isolated_change {s₀ : FileState} (h : Isolated item s₀ s) (fileName : String)
    (hother : ∀ name, name ≠ fileName →
      s'.senderFileMap.get? name = s.senderFileMap.get? name)
    (hold : ∀ task ∈ s₀.senderFileMap.get? fileName, Fits item task)
    (hnew : ∀ task ∈ s'.senderFileMap.get? fileName, Fits item task) :
    Isolated item s₀ s' := by
  intro name
  by_cases hname : name = fileName
  · rw [hname]
    exact .inr ⟨hold, hnew⟩
  · rw [hother name hname]
    exact h name

theorem fits_before {s₀ : FileState} (h : Isolated item s₀ s) {fileName : String}
    (hfits : ∀ task ∈ s.senderFileMap.get? fileName, Fits item task) :
    ∀ task ∈ s₀.senderFileMap.get? fileName, Fits item task := by
  rcases h fileName with hsame | hboth
  · rw [← hsame]
    exact hfits
  · exact hboth.1

theorem isolated_modify {s₀ : FileState} (hk : s.Keyed) (h : Isolated item s₀ s)
    {fileName : String} {f : FileTask → FileTask} (hf : ∀ task : FileTask, task.Evolves (f task))
    (hfits : ∀ task ∈ s.senderFileMap.get? fileName, Fits item task) :
    Isolated item s₀ (s.modify fileName f) := by
  refine isolated_change h fileName ?_ (fits_before h hfits) ?_
  · intro name hname
    rw [FileState.get?_modify_of_keyed hk, if_neg hname]
  · intro task hget
    rw [FileState.get?_modify_of_keyed hk, if_pos rfl] at hget
    obtain ⟨old, hold, rfl⟩ := Option.map_eq_some_iff.mp hget
    exact fits_evolves (hf old) (hfits old hold)

theorem fits_of_touches {d : Device} (hp : KeepsToPeer P d item) {fileName : String}
    (h : Device.Touches P d item s fileName) :
    ∀ task ∈ s.senderFileMap.get? fileName, Fits item task := by
  obtain ⟨found, touched, hselected, hget, hevolves⟩ := h
  intro task htask
  rw [hget] at htask
  obtain rfl := Option.some.inj htask
  exact fits_evolves hevolves (hp.selected found hselected)

theorem fits_announced {task : FileTask} (h : Device.announcedTask P item = some task)
    (status : TaskStatus) : Fits item (task.setStatus status) := by
  obtain ⟨htype, fileName, fileSize, contentHash, rfl⟩ := Device.announced_ofMeta h
  refine ⟨rfl, ?_⟩
  intro messageType hmessage
  rw [htype, Option.mem_def, Option.some.injEq] at hmessage
  rw [← hmessage]
  rfl

theorem isolated_step {d : Device} (hp : KeepsToPeer P d item) (s : FileState) (op : FileOp)
    (h : s.Keyed ∧ Isolated item d.files s) (hop : Device.DataPermitted P d item s op) :
    (s.step op).Keyed ∧ Isolated item d.files (s.step op) := by
  obtain ⟨hk, hi⟩ := h
  refine ⟨FileState.keyed_step s op hk, ?_⟩
  cases op with
  | mark fileName status =>
    exact isolated_modify hk hi (fun task => FileTask.evolves_setStatus hop.1)
      (fits_of_touches hp hop.2)
  | recievePiece fileName pieceID fileContent =>
    exact isolated_modify hk hi (fun task => task.evolves_recievePieceData pieceID fileContent)
      (fits_of_touches hp hop.2)
  | acknowledge fileName pieceID =>
    exact isolated_modify hk hi (fun task => task.evolves_updateTransferStatus pieceID)
      (fits_of_touches hp hop)
  | put task =>
    obtain ⟨announced, hannounced, rfl⟩ := hop
    refine isolated_change hi announced.fileName ?_
      (hp.announced announced hannounced) ?_
    · intro name hname
      exact HashMap.get?_put_ne s.senderFileMap _ hname
    · intro task hget
      have hput : (s.senderFileMap.put announced.fileName
          (announced.setStatus .stop)).get? announced.fileName = some task := hget
      rw [HashMap.get?_put_self, Option.some.injEq] at hput
      rw [← hput]
      exact fits_announced hannounced .stop
  | remove fileName =>
    refine isolated_change hi fileName ?_
      (fits_before hi (fits_of_touches hp hop)) ?_
    · intro name hname
      exact HashMap.get?_remove_ne s.senderFileMap hname
    · intro task hget
      have hremoved : (s.senderFileMap.remove fileName).get? fileName = some task := hget
      rw [HashMap.get?_remove_self] at hremoved
      cases hremoved
  | queue items => exact hi
  | stopTasks onionName => exact absurd hop id
  | dequeue => exact absurd hop id
  | startRegister task => exact absurd hop id
  | register position => exact absurd hop id

theorem isolated_read {d : Device} (hd : d.Sound) (env : Env)
    (hqueue : item ∈ d.recieveQueue.head?) (htype : item.type = 1)
    (hp : KeepsToPeer P d item) : Isolated item d.files (d.step P env .read).files := by
  have hreaches : fileMachine.Reaches (d.ReadPermitted P) d.files (d.step P env .read).files :=
    Device.step_files_reaches hd.1 hd.2 .read
  refine (Machine.reaches_invariant (I := fun s => s.Keyed ∧ Isolated item d.files s) ?_
    hreaches ⟨hd.1, isolated_refl d.files⟩).2
  intro s op hs hop
  obtain ⟨head, tail, hhead, hcase⟩ := hop
  rw [hhead, List.head?_cons, Option.mem_def, Option.some.injEq] at hqueue
  subst hqueue
  rcases hcase with ⟨hzero, -⟩ | ⟨-, hdata⟩
  · rw [htype] at hzero
    cases hzero
  · exact isolated_step hp s op hs hdata

theorem cells_isolated {d : Device} (hd : d.Sound) {events : List (Env × Device.Event)}
    (h : (Device.machine P).Guarded (Addressed P) d events) : CellsIsolated P d events := by
  intro xs env ys hsplit item hqueue htype
  subst hsplit
  have hguard := ((Device.machine P).guarded_append d xs _).mp h
  rw [Machine.run_append]
  exact isolated_read (Device.sound_run hd xs) env hqueue htype
    (hguard.2.1 rfl item hqueue htype)

def established (onionName : String) (socket : Nat) (sharedKey : Bytes) : ConnectionStatusItem :=
  { onionName := onionName, socket := socket, status := 1, shareKey := some sharedKey }

def contact (onionName : String) (id : Nat) : MailItem :=
  .ofContact demoPlatform onionName ⟨id⟩

def twoPeers : Device where
  onionName := "me"
  privateKey := ⟨0⟩
  keys := { keyFile := [5] }
  mailList := (HashMap.put ∅ "p1" (contact "p1" 1)).put "p2" (contact "p2" 2)
  conns := (({} : Connections).addNewConnection (established "p1" 1 [1])).addNewConnection
    (established "p2" 2 [2])
  transports := [{ socket := 1, mailItem := some (contact "p1" 1) },
    { socket := 2, mailItem := some (contact "p2" 2) }]

theorem sound_twoPeers : twoPeers.Sound :=
  ⟨FileState.keyed_of_empty rfl, Connections.named_addNewConnection
    (Connections.named_addNewConnection Connections.named_empty _) _⟩

def fileDone (fileName : String) (sharedKey : Bytes) : Cell :=
  .data sharedKey (Message.createDataMessageExternalPaylod demoPlatform {} twoPeers.keys
    Constant.dataFileDone (demoPlatform.sha1 (getBytes fileName)) 1000)

def sendThenDone (socket : Nat) (sharedKey : Bytes) : List (Env × Device.Event) :=
  [({}, .sendFile "f" [7] "p1" 1000), ({}, .register 0),
    ({}, .receiveCell socket (fileDone "f" sharedKey))]

theorem cells_isolated_done :
    CellsIsolated demoPlatform twoPeers (sendThenDone 1 [1] ++ [(({} : Env), .read)]) :=
  cells_isolated sound_twoPeers (by decide +kernel)

theorem done_of_other_peer_removes_task :
    ¬ CellsIsolated demoPlatform twoPeers (sendThenDone 2 [2] ++ [(({} : Env), .read)]) := by
  intro h
  have hitem : ((Device.machine demoPlatform).run twoPeers
      (sendThenDone 2 [2])).recieveQueue.head?.map (fun item => (item.onionName, item.type)) =
        some ("p2", 1) := by decide +kernel
  have htask : (((Device.machine demoPlatform).run twoPeers
      (sendThenDone 2 [2])).files.senderFileMap.get? "f").map (fun task => task.onionName) =
        some "p1" := by decide +kernel
  have hafter : ((Device.machine demoPlatform).run twoPeers
      (sendThenDone 2 [2] ++ [(({} : Env), .read)])).files.senderFileMap.get? "f" = none := by
    decide +kernel
  obtain ⟨item, hhead, honion⟩ := Option.map_eq_some_iff.mp hitem
  obtain ⟨task, hget, hpeer⟩ := Option.map_eq_some_iff.mp htask
  rw [Prod.mk.injEq] at honion
  have hcell := h (sendThenDone 2 [2]) {} [] rfl item hhead honion.2
  rcases hcell "f" with hsame | ⟨hold, -⟩
  · rw [hafter, hget] at hsame
    cases hsame
  · have howner := (hold task hget).1
    rw [hpeer, honion.1] at howner
    exact absurd howner (by decide)

end TaskIsolation

end TorChat
