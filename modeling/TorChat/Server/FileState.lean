import TorChat.Server.Step

namespace TorChat

open Library (Bytes HashMap Machine)

structure FileState where
  senderFileMap : HashMap String FileTask := ∅
  registering : List FileTask := []
  sendQueue : List (MessageItem (Option Cell)) := []

inductive FileOp where
  | mark (fileName : String) (status : TaskStatus)
  | recievePiece (fileName : String) (pieceID : Nat) (fileContent : Bytes)
  | acknowledge (fileName : String) (pieceID : Nat)
  | stopTasks (onionName : String)
  | put (task : FileTask)
  | remove (fileName : String)
  | queue (items : List (MessageItem (Option Cell)))
  | dequeue
  | startRegister (task : FileTask)
  | register (position : Nat)

namespace FileState

def modify (s : FileState) (fileName : String) (f : FileTask → FileTask) : FileState :=
  { s with senderFileMap :=
      s.senderFileMap.map (fun t => if t.fileName = fileName then f t else t) }

def step (s : FileState) : FileOp → FileState
  | .mark fileName status => s.modify fileName (fun t => t.setStatus status)
  | .recievePiece fileName pieceID fileContent =>
      s.modify fileName (fun t => (t.recievePieceData pieceID fileContent).setStatus .transferrring)
  | .acknowledge fileName pieceID =>
      s.modify fileName (fun t => (t.updateTransferStatus pieceID).setStatus .transferrring)
  | .stopTasks onionName =>
      { s with senderFileMap :=
          s.senderFileMap.map (fun t => if t.onionName = onionName then t.setStatus .stop else t) }
  | .put task => { s with senderFileMap := s.senderFileMap.put task.fileName task }
  | .remove fileName => { s with senderFileMap := s.senderFileMap.remove fileName }
  | .queue items => { s with sendQueue := s.sendQueue ++ items }
  | .dequeue => { s with sendQueue := s.sendQueue.tail }
  | .startRegister task => { s with registering := s.registering ++ [task] }
  | .register position =>
      match s.registering[position]? with
      | none => s
      | some task => {
          s with
          senderFileMap := s.senderFileMap.put task.fileName task
          registering := s.registering.eraseIdx position }

def Keyed (s : FileState) : Prop :=
  ∀ fileName task, s.senderFileMap.get? fileName = some task → task.fileName = fileName

end FileState

def fileMachine : Machine FileState FileOp := ⟨FileState.step⟩

namespace FileState

variable {A : FileState → FileOp → Prop} {s s' : FileState}

theorem reaches_op (op : FileOp) (h : A s op) : fileMachine.Reaches A s (s.step op) :=
  Machine.reaches_step h

theorem reaches_op_then (op : FileOp) (h : A s op)
    (h' : fileMachine.Reaches A (s.step op) s') : fileMachine.Reaches A s s' :=
  Machine.reaches_trans (reaches_op op h) h'

end FileState

namespace FileTask

structure Evolves (task task' : FileTask) : Prop where
  onionName : task'.onionName = task.onionName
  fileName : task'.fileName = task.fileName
  fileNameHash : task'.fileNameHash = task.fileNameHash
  direction : task'.direction = task.direction
  totalSize : task'.totalSize = task.totalSize
  contentHash : task'.contentHash = task.contentHash
  notStart : task'.status = .notStart → task.status = .notStart

theorem evolves_refl (task : FileTask) : task.Evolves task :=
  ⟨rfl, rfl, rfl, rfl, rfl, rfl, id⟩

theorem evolves_setStatus {task : FileTask} {status : TaskStatus} (h : status ≠ .notStart) :
    task.Evolves (task.setStatus status) :=
  ⟨rfl, rfl, rfl, rfl, rfl, rfl, fun hs => absurd hs h⟩

theorem evolves_recievePieceData (task : FileTask) (pieceID : Nat) (fileContent : Bytes) :
    task.Evolves ((task.recievePieceData pieceID fileContent).setStatus .transferrring) :=
  ⟨rfl, rfl, rfl, rfl, rfl, rfl, fun hs =>
    absurd (show TaskStatus.transferrring = .notStart from hs) (by decide)⟩

theorem evolves_updateTransferStatus (task : FileTask) (pieceID : Nat) :
    task.Evolves ((task.updateTransferStatus pieceID).setStatus .transferrring) :=
  ⟨rfl, rfl, rfl, rfl, rfl, rfl, fun hs =>
    absurd (show TaskStatus.transferrring = .notStart from hs) (by decide)⟩

theorem evolves_trans {task task' task'' : FileTask} (h : task.Evolves task')
    (h' : task'.Evolves task'') : task.Evolves task'' where
  onionName := h'.onionName.trans h.onionName
  fileName := h'.fileName.trans h.fileName
  fileNameHash := h'.fileNameHash.trans h.fileNameHash
  direction := h'.direction.trans h.direction
  totalSize := h'.totalSize.trans h.totalSize
  contentHash := h'.contentHash.trans h.contentHash
  notStart := fun hs => h.notStart (h'.notStart hs)

end FileTask

namespace FileState

theorem keyed_of_empty {s : FileState} (h : s.senderFileMap = ∅) : s.Keyed := by
  intro name task hget
  rw [h, HashMap.get?_empty] at hget
  cases hget

theorem get?_modify_of_keyed {s : FileState} (hk : s.Keyed) (fileName name : String)
    (f : FileTask → FileTask) :
    (s.modify fileName f).senderFileMap.get? name =
      if name = fileName then (s.senderFileMap.get? name).map f
      else s.senderFileMap.get? name := by
  rw [modify, HashMap.get?_map]
  cases hget : s.senderFileMap.get? name with
  | none => split <;> rfl
  | some task =>
    rw [Option.map_some, hk name task hget]
    split <;> rfl

theorem keyed_modify {s : FileState} (hk : s.Keyed) {fileName : String}
    {f : FileTask → FileTask} (hf : ∀ t, (f t).fileName = t.fileName) :
    (s.modify fileName f).Keyed := by
  intro name task hget
  rw [get?_modify_of_keyed hk] at hget
  split at hget
  · obtain ⟨old, hold, rfl⟩ := Option.map_eq_some_iff.mp hget
    rw [hf, hk name old hold]
  · exact hk name task hget

theorem keyed_put {s : FileState} (hk : s.Keyed) (task : FileTask) {registering : List FileTask}
    {sendQueue : List (MessageItem (Option Cell))} :
    Keyed ⟨s.senderFileMap.put task.fileName task, registering, sendQueue⟩ := by
  intro name t hget
  rw [HashMap.get?_put] at hget
  split at hget
  · rename_i hname
    rw [← Option.some.inj hget, hname]
  · exact hk name t hget

theorem keyed_step (s : FileState) (op : FileOp) (hk : s.Keyed) : (s.step op).Keyed := by
  cases op with
  | mark fileName status => exact keyed_modify hk (fun _ => rfl)
  | recievePiece fileName pieceID fileContent => exact keyed_modify hk (fun _ => rfl)
  | acknowledge fileName pieceID => exact keyed_modify hk (fun _ => rfl)
  | stopTasks onionName =>
    intro name task hget
    simp only [step, HashMap.get?_map] at hget
    obtain ⟨old, hold, rfl⟩ := Option.map_eq_some_iff.mp hget
    split
    · exact hk name old hold
    · exact hk name old hold
  | put task => exact keyed_put hk task
  | remove fileName =>
    intro name task hget
    simp only [step, HashMap.get?_remove] at hget
    split at hget
    · cases hget
    · exact hk name task hget
  | queue items => exact hk
  | dequeue => exact hk
  | startRegister task => exact hk
  | register position =>
    cases hget : s.registering[position]? with
    | none => simpa only [step, hget] using hk
    | some task =>
      simp only [step, hget]
      exact keyed_put hk task

def All (Q R : FileTask → Prop) (s : FileState) : Prop :=
  (∀ fileName task, s.senderFileMap.get? fileName = some task → Q task) ∧
    ∀ task ∈ s.registering, R task

def Admits (Q R : FileTask → Prop) (s : FileState) : FileOp → Prop
  | .mark fileName status => ∀ task, s.senderFileMap.get? fileName = some task →
      Q (task.setStatus status)
  | .recievePiece fileName pieceID fileContent => ∀ task,
      s.senderFileMap.get? fileName = some task →
        Q ((task.recievePieceData pieceID fileContent).setStatus .transferrring)
  | .acknowledge fileName pieceID => ∀ task, s.senderFileMap.get? fileName = some task →
      Q ((task.updateTransferStatus pieceID).setStatus .transferrring)
  | .stopTasks _ => ∀ fileName task, s.senderFileMap.get? fileName = some task →
      Q (task.setStatus .stop)
  | .put task => Q task
  | .startRegister task => R task
  | _ => True

theorem mem_sendQueue_step {s : FileState} {op : FileOp} {i : MessageItem (Option Cell)}
    (h : i ∈ (s.step op).sendQueue) :
    i ∈ s.sendQueue ∨ ∃ items, op = .queue items ∧ i ∈ items := by
  cases op with
  | queue items =>
    rcases List.mem_append.mp h with hold | hnew
    · exact .inl hold
    · exact .inr ⟨items, rfl, hnew⟩
  | dequeue => exact .inl (List.mem_of_mem_tail h)
  | register position =>
    rw [step] at h
    split at h
    · exact .inl h
    · exact .inl h
  | _ => exact .inl h

theorem all_modify {s : FileState} {Q R : FileTask → Prop} (hk : s.Keyed) (h : s.All Q R)
    {fileName : String} {f : FileTask → FileTask}
    (hf : ∀ task, s.senderFileMap.get? fileName = some task → Q (f task)) :
    (s.modify fileName f).All Q R := by
  refine ⟨?_, h.2⟩
  intro name task hget
  rw [get?_modify_of_keyed hk] at hget
  split at hget
  · rename_i hname
    obtain ⟨old, hold, rfl⟩ := Option.map_eq_some_iff.mp hget
    exact hf old (hname ▸ hold)
  · exact h.1 name task hget

theorem all_put {s : FileState} {Q R : FileTask → Prop} (h : s.All Q R) {task : FileTask}
    (htask : Q task) {registering : List FileTask} (hregistering : ∀ t ∈ registering, R t)
    {sendQueue : List (MessageItem (Option Cell))} :
    All Q R ⟨s.senderFileMap.put task.fileName task, registering, sendQueue⟩ := by
  refine ⟨?_, hregistering⟩
  intro name t hget
  rw [HashMap.get?_put] at hget
  split at hget
  · exact Option.some.inj hget ▸ htask
  · exact h.1 name t hget

theorem all_step {s : FileState} {Q R : FileTask → Prop} {op : FileOp} (hk : s.Keyed)
    (hR : ∀ task, R task → Q task) (h : s.All Q R) (hop : s.Admits Q R op) :
    (s.step op).All Q R := by
  cases op with
  | mark fileName status => exact all_modify hk h hop
  | recievePiece fileName pieceID fileContent => exact all_modify hk h hop
  | acknowledge fileName pieceID => exact all_modify hk h hop
  | stopTasks onionName =>
    refine ⟨?_, h.2⟩
    intro name task hget
    simp only [step, HashMap.get?_map] at hget
    obtain ⟨old, hold, rfl⟩ := Option.map_eq_some_iff.mp hget
    split
    · exact hop name old hold
    · exact h.1 name old hold
  | put task => exact all_put h hop h.2
  | remove fileName =>
    refine ⟨?_, h.2⟩
    intro name task hget
    simp only [step, HashMap.get?_remove] at hget
    split at hget
    · cases hget
    · exact h.1 name task hget
  | queue items => exact h
  | dequeue => exact h
  | startRegister task =>
    refine ⟨h.1, ?_⟩
    intro t ht
    rcases List.mem_append.mp ht with hold | hnew
    · exact h.2 t hold
    · exact List.mem_singleton.mp hnew ▸ hop
  | register position =>
    cases hget : s.registering[position]? with
    | none => simpa only [step, hget] using h
    | some task =>
      simp only [step, hget]
      exact all_put h (hR task (h.2 task (List.mem_of_getElem? hget)))
        (fun t ht => h.2 t (List.mem_of_mem_eraseIdx ht))

end FileState

namespace Device

def files (d : Device) : FileState :=
  { senderFileMap := d.senderFileMap, registering := d.registering, sendQueue := d.sendQueue }

@[simp] theorem files_setKeys (d : Device) (keys : KeyState) : (d.setKeys keys).files = d.files :=
  rfl

@[simp] theorem files_transmit (d : Device) (socket : Nat) (cell : Cell) :
    (d.transmit socket cell).files = d.files := rfl

@[simp] theorem files_notify (d : Device) (notice : Notice) : (d.notify notice).files = d.files :=
  rfl

@[simp] theorem files_deleteConnection (d : Device) (onionName : String) (socket : Nat) :
    (d.deleteConnection onionName socket).files = d.files := rfl

@[simp] theorem files_modifyTask (d : Device) (task : FileTask) (f : FileTask → FileTask) :
    (d.modifyTask task f).files = d.files.modify task.fileName f := rfl

theorem found_get? {d : Device} (hk : d.files.Keyed) {fileNameHash : Bytes} {task : FileTask}
    (h : d.getFileTaskByFileNameHash fileNameHash = some task) :
    d.senderFileMap.get? task.fileName = some task := by
  obtain ⟨name, hname⟩ := HashMap.mem_values.mp (List.mem_of_find?_eq_some h)
  rw [hk name task hname]
  exact hname

theorem found_hash {d : Device} {fileNameHash : Bytes} {task : FileTask}
    (h : d.getFileTaskByFileNameHash fileNameHash = some task) :
    task.fileNameHash = fileNameHash := by
  simpa using List.find?_some h

end Device

end TorChat
