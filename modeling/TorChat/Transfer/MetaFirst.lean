import TorChat.Transfer.Confidentiality

namespace TorChat

open Library (Bytes HashMap Machine)

namespace MetaFirst

variable (P : Platform)

structure Sender where
  device : Device
  arrived : List (MessageItem (Option Cell)) := []

inductive Event where
  | device (env : Env) (event : Device.Event)
  | lose (position : Nat)

def delivered (d : Device) (env : Env) : Device.Event → List (MessageItem (Option Cell))
  | .write => (d.sendQueue.take 1).filter (fun item => item.data.isSome && env.sent 0)
  | _ => []

namespace Sender

def step (s : Sender) : Event → Sender
  | .device env event => {
      device := s.device.step P env event
      arrived := s.arrived ++ delivered s.device env event }
  | .lose position => { s with arrived := s.arrived.eraseIdx position }

def known (s : Sender) : List (MessageItem (Option Cell)) := s.arrived ++ s.device.sendQueue

end Sender

def machine : Machine Sender Event := ⟨Sender.step P⟩

def Announced (known : List (MessageItem (Option Cell))) (task : FileTask) : Prop :=
  ∃ m ∈ known, FileTask.Announces P m task

def Follows (known : List (MessageItem (Option Cell))) (s : FileState)
    (i : MessageItem (Option Cell)) : Prop :=
  ∃ fileName, ∃ task ∈ s.senderFileMap.get? fileName, FileTask.PieceOf P i task ∧
    task.onionName = i.onionName ∧ Announced P known task

def PiecesFollowMeta (s : Sender) (events : List Event) : Prop :=
  ∀ xs env event ys, events = xs ++ .device env event :: ys →
    ∀ i ∈ ((machine P).run s (xs ++ [.device env event])).device.sendQueue.drop
      ((machine P).run s xs).device.sendQueue.length,
      i.messageType = some Constant.dataFileData →
        Follows P ((machine P).run s xs).known ((machine P).run s xs).device.files i

def Harmless (s : Sender) (remaining : List (MessageItem (Option Cell)))
    (m : MessageItem (Option Cell)) : Prop :=
  ∀ task, ((∃ fileName, s.device.senderFileMap.get? fileName = some task) ∧
      task.direction = .send ∨ task ∈ s.device.registering) →
    FileTask.Announces P m task → task.status = .notStart ∨ Announced P remaining task

structure Answers (s : Sender) (item : MessageItem Bytes) (found : FileTask) : Prop where
  peer : Device.requestsPieces P item = true →
    found.direction = .send ∧ found.onionName = item.onionName
  told : found.direction = .send → found.status = .notStart → Announced P s.known found

def Pending (s : Sender) (onionName : String) : Prop :=
  ∃ fileName, ∃ task ∈ s.device.senderFileMap.get? fileName, task.direction = .send ∧
    task.onionName = onionName ∧ task.status = .notStart ∧ ¬ Announced P s.known task

def Careful (s : Sender) : Event → Prop
  | .lose position => ∀ m ∈ s.arrived[position]?,
      Harmless P s (s.arrived.eraseIdx position ++ s.device.sendQueue) m
  | .device env .write => ∀ m ∈ s.device.sendQueue.head?, (m.data.isSome && env.sent 0) = false →
      Harmless P s (s.arrived ++ s.device.sendQueue.tail) m
  | .device _ .read => ∀ item ∈ s.device.recieveQueue.head?, item.type = 1 →
      ∀ found ∈ s.device.selectedTask P item, Answers P s item found
  | .device env event => ∀ item ∈ s.device.removedItem env event,
      item.purpose = Constant.socketPurposeFile → ¬ Pending P s item.onionName

structure Told (known : List (MessageItem (Option Cell))) (s : FileState) : Prop where
  stored : ∀ fileName, ∀ task ∈ s.senderFileMap.get? fileName, task.direction = .send →
    task.status = .notStart ∨ Announced P known task
  registering : ∀ task ∈ s.registering, task.status = .notStart ∨ Announced P known task

def Grown (known : List (MessageItem (Option Cell))) (s₀ s : FileState) : Prop :=
  ∃ items, s.sendQueue = s₀.sendQueue ++ items ∧
    ∀ i ∈ items, i.messageType = some Constant.dataFileData → Follows P known s₀ i

structure Step (arrived : List (MessageItem (Option Cell))) (s₀ s : FileState) : Prop where
  keyed : s.Keyed
  told : Told P (arrived ++ s.sendQueue) s
  grown : Grown P (arrived ++ s₀.sendQueue) s₀ s

def Kin (s₀ s : FileState) : Prop :=
  ∀ fileName, ∀ task ∈ s.senderFileMap.get? fileName, ∃ old,
    s₀.senderFileMap.get? fileName = some old ∧ old.Restatus task ∧
      (task.direction = .send → old.status = .notStart → task.status = .notStart)

def Stopped (known : List (MessageItem (Option Cell))) (s₀ s : FileState) : Prop :=
  ∀ fileName, ∀ task ∈ s.senderFileMap.get? fileName, task.direction = .send →
    Announced P known task ∨
      (task.status = .notStart ∧ s₀.senderFileMap.get? fileName = some task)

variable {P} {known known' arrived : List (MessageItem (Option Cell))} {s₀ s : FileState}

theorem announced_mono (h : ∀ m ∈ known, m ∈ known') {task : FileTask}
    (ht : Announced P known task) : Announced P known' task := by
  obtain ⟨m, hm, hannounces⟩ := ht
  exact ⟨m, h m hm, hannounces⟩

theorem announced_setStatus {task : FileTask} (h : Announced P known task)
    (status : TaskStatus) : Announced P known (task.setStatus status) := h

theorem announced_evolves {task task' : FileTask} (he : task.Evolves task')
    (h : Announced P known task) : Announced P known task' := by
  obtain ⟨m, hm, honion, amb, sharedKey, messageID, hdata⟩ := h
  refine ⟨m, hm, ?_, amb, sharedKey, messageID, ?_⟩
  · rw [he.onionName, honion]
  · rw [he.fileName, he.totalSize, he.contentHash, hdata]

variable (known) in
theorem told_mono (h : ∀ m ∈ known, m ∈ known') (ht : Told P known s) : Told P known' s where
  stored := fun name task hget hsend => (ht.stored name task hget hsend).imp_right
    (announced_mono h)
  registering := fun task hmem => (ht.registering task hmem).imp_right (announced_mono h)

theorem told_of_all
    (h : s.All (fun task => task.direction = .send → task.status = .notStart ∨
      Announced P known task) (fun task => task.status = .notStart ∨ Announced P known task)) :
    Told P known s := ⟨h.1, h.2⟩

theorem told_modify (hk : s.Keyed) (h : Told P known s) {fileName : String}
    {f : FileTask → FileTask}
    (hf : ∀ task ∈ s.senderFileMap.get? fileName, (f task).direction = .send →
      Announced P known (f task)) : Told P known (s.modify fileName f) :=
  told_of_all (FileState.all_modify hk ⟨h.stored, h.registering⟩
    (fun task hget hsend => .inr (hf task hget hsend)))

theorem told_put (h : Told P known s) {task : FileTask} (registering : List FileTask)
    (sendQueue : List (MessageItem (Option Cell)))
    (hregistering : ∀ t ∈ registering, t.status = .notStart ∨ Announced P known t)
    (htask : task.direction = .send → task.status = .notStart ∨ Announced P known task) :
    Told P known ⟨s.senderFileMap.put task.fileName task, registering, sendQueue⟩ :=
  told_of_all (FileState.all_put ⟨h.stored, h.registering⟩ htask hregistering)

theorem grown_refl (s : FileState) : Grown P known s s :=
  ⟨[], (List.append_nil _).symm, fun _ hi => absurd hi List.not_mem_nil⟩

theorem grown_queue (h : Grown P known s₀ s) {items : List (MessageItem (Option Cell))}
    (hitems : ∀ i ∈ items, i.messageType = some Constant.dataFileData → Follows P known s₀ i) :
    Grown P known s₀ (s.step (.queue items)) := by
  obtain ⟨old, hqueue, hold⟩ := h
  refine ⟨old ++ items, ?_, ?_⟩
  · rw [FileState.step, hqueue, List.append_assoc]
  · intro i hi
    rcases List.mem_append.mp hi with hin | hnew
    · exact hold i hin
    · exact hitems i hnew

theorem known_of_grown (h : Grown P known s₀ s) :
    ∀ m ∈ arrived ++ s₀.sendQueue, m ∈ arrived ++ s.sendQueue := by
  obtain ⟨items, hqueue, -⟩ := h
  intro m hm
  rw [hqueue, ← List.append_assoc]
  exact List.mem_append_left items hm

theorem pending_or_announced (s : Sender) {fileName : String} {task : FileTask}
    (hget : s.device.senderFileMap.get? fileName = some task) (hsend : task.direction = .send)
    (hstatus : task.status = .notStart) (hpending : ¬ Pending P s task.onionName) :
    Announced P s.known task := by
  by_contra hnot
  exact hpending ⟨fileName, task, hget, hsend, rfl, hstatus, hnot⟩

theorem step_refl (hk : s.Keyed) (h : Told P (arrived ++ s.sendQueue) s) :
    Step P arrived s s := ⟨hk, h, grown_refl s⟩

theorem step_queue (h : Step P arrived s₀ s) {items : List (MessageItem (Option Cell))}
    (hitems : ∀ i ∈ items, i.messageType = some Constant.dataFileData →
      Follows P (arrived ++ s₀.sendQueue) s₀ i) :
    Step P arrived s₀ (s.step (.queue items)) where
  keyed := FileState.keyed_step s (.queue items) h.keyed
  told := by
    refine told_mono (arrived ++ s.sendQueue) ?_ ⟨h.told.stored, h.told.registering⟩
    intro m hm
    rw [FileState.step, ← List.append_assoc]
    exact List.mem_append_left items hm
  grown := grown_queue h.grown hitems

theorem step_modify (h : Step P arrived s₀ s) {fileName : String}
    {f : FileTask → FileTask}
    (hf : ∀ task ∈ s.senderFileMap.get? fileName, (f task).direction = .send →
      Announced P (arrived ++ s.sendQueue) (f task))
    (hname : ∀ task, (f task).fileName = task.fileName) :
    Step P arrived s₀ (s.modify fileName f) where
  keyed := FileState.keyed_modify h.keyed hname
  told := told_modify h.keyed h.told hf
  grown := h.grown

theorem kin_refl (s : FileState) : Kin s s :=
  fun _ task hget => ⟨task, hget, task.restatus_refl, fun _ hs => hs⟩

theorem kin_resumes {op : FileOp} (hk : s.Keyed) (h : Kin s₀ s) (hop : s.Resumes P op) :
    Kin s₀ (s.step op) := by
  obtain ⟨fileName, status, rfl⟩ | ⟨items, rfl⟩ := FileState.resumes_cases hop
  · obtain ⟨hstatus, current, hcurrent, hstarted⟩ := hop
    intro name task hget
    rw [FileState.step, FileState.get?_modify_of_keyed hk] at hget
    split at hget
    · rename_i hname
      subst hname
      rw [hcurrent, Option.map_some, Option.mem_def, Option.some.injEq] at hget
      subst hget
      obtain ⟨old, hold, hrestatus, hkeeps⟩ := h name current hcurrent
      refine ⟨old, hold, FileTask.restatus_trans hrestatus
        ⟨status, rfl, fun hs => absurd hs hstatus⟩, ?_⟩
      intro hsend hs
      exact absurd (hkeeps hsend hs) (hstarted hsend)
    · exact h name task hget
  · exact h

theorem step_resumes (ht : Told P (arrived ++ s₀.sendQueue) s₀) {op : FileOp}
    (hkin : Kin s₀ s) (h : Step P arrived s₀ s) (hop : s.Resumes P op) :
    Step P arrived s₀ (s.step op) := by
  obtain ⟨fileName, status, rfl⟩ | ⟨items, rfl⟩ := FileState.resumes_cases hop
  · obtain ⟨-, current, hcurrent, hstarted⟩ := hop
    refine step_modify h ?_ (fun _ => rfl)
    intro task hget hsend
    rw [hcurrent, Option.mem_def, Option.some.injEq] at hget
    subst hget
    rcases h.told.stored fileName current hcurrent hsend with hnot | hannounced
    · exact absurd hnot (hstarted hsend)
    · exact announced_setStatus hannounced status
  · apply step_queue h
    intro i hi htype
    obtain ⟨fileName, task, hget, hsend, hstarted, honion, hpiece⟩ := hop i hi htype
    obtain ⟨old, hold, ⟨status, rfl, -⟩, hkeeps⟩ := hkin fileName task hget
    refine ⟨fileName, old, hold, hpiece, honion, ?_⟩
    rcases ht.stored fileName old hold hsend with hnot | hannounced
    · exact absurd (hkeeps hsend hnot) hstarted
    · exact hannounced

theorem announced_found {sender : Sender} {item : MessageItem Bytes} {found : FileTask}
    (ht : Told P sender.known sender.device.files)
    (hselected : sender.device.selectedTask P item = some found)
    (hanswers : Answers P sender item found) (hsend : found.direction = .send) :
    Announced P sender.known found := by
  obtain ⟨fileName, hget⟩ := Device.selectedTask_stored hselected
  rcases ht.stored fileName found hget hsend with hnot | hannounced
  · exact hanswers.told hsend hnot
  · exact hannounced

theorem step_data {sender : Sender} {item : MessageItem Bytes} {op : FileOp}
    (ht : Told P sender.known sender.device.files)
    (hanswers : ∀ found ∈ sender.device.selectedTask P item, Answers P sender item found)
    (h : Step P sender.arrived sender.device.files s)
    (hop : Device.DataPermitted P sender.device item s op) :
    Step P sender.arrived sender.device.files (s.step op) := by
  have htouched {fileName : String} (htouch : Device.Touches P sender.device item s fileName) :
      ∀ task ∈ s.senderFileMap.get? fileName, task.direction = .send →
        Announced P (sender.arrived ++ s.sendQueue) task := by
    obtain ⟨found, touched, hselected, hget, hevolves⟩ := htouch
    intro task htask hsend
    rw [hget, Option.mem_def, Option.some.injEq] at htask
    subst htask
    rw [hevolves.direction] at hsend
    have hfound := announced_found ht hselected (hanswers found hselected) hsend
    exact announced_evolves hevolves (announced_mono (known_of_grown h.grown) hfound)
  cases op with
  | mark fileName status =>
    exact step_modify h (fun task hget hsend => htouched hop.2 task hget hsend) (fun _ => rfl)
  | recievePiece fileName pieceID fileContent =>
    exact step_modify h (fun task hget hsend => htouched hop.2 task hget hsend) (fun _ => rfl)
  | acknowledge fileName pieceID =>
    exact step_modify h (fun task hget hsend => htouched hop task hget hsend) (fun _ => rfl)
  | put task =>
    obtain ⟨announced, hannounced, rfl⟩ := hop
    refine ⟨FileState.keyed_step s (.put _) h.keyed, ?_, h.grown⟩
    refine told_put h.told s.registering s.sendQueue h.told.registering (fun hsend => ?_)
    cases (Device.direction_announced hannounced).symm.trans hsend
  | remove fileName =>
    refine ⟨FileState.keyed_step s (.remove fileName) h.keyed, ⟨?_, h.told.registering⟩, h.grown⟩
    intro name task hget
    have hremoved : (s.senderFileMap.remove fileName).get? name = some task := hget
    rw [HashMap.get?_remove] at hremoved
    split at hremoved
    · cases hremoved
    · exact h.told.stored name task hremoved
  | queue items =>
    apply step_queue h
    intro i hi htype
    obtain ⟨hrequest, honion, found, hselected, hpiece⟩ := hop i hi htype
    obtain ⟨hsend, hpeer⟩ := (hanswers found hselected).peer hrequest
    obtain ⟨fileName, hget⟩ := Device.selectedTask_stored hselected
    exact ⟨fileName, found, hget, hpiece, hpeer.trans honion.symm,
      announced_found ht hselected (hanswers found hselected) hsend⟩
  | stopTasks onionName => exact absurd hop id
  | dequeue => exact absurd hop id
  | startRegister task => exact absurd hop id
  | register position => exact absurd hop id

theorem step_hands {task : FileTask} {op : FileOp} (h : Step P arrived s₀ s)
    (hop : FileState.Hands P task s op) : Step P arrived s₀ (s.step op) := by
  obtain ⟨items, rfl⟩ | ⟨new, rfl⟩ := FileState.hands_cases hop
  · exact step_queue h (fun i hi htype => absurd htype (hop i hi))
  · obtain ⟨status, rfl, hmeta⟩ := hop
    refine ⟨h.keyed, ⟨h.told.stored, ?_⟩, h.grown⟩
    intro t ht
    rcases List.mem_append.mp ht with hold | hnew
    · exact h.told.registering t hold
    · rw [List.mem_singleton.mp hnew]
      rcases hmeta with hnot | ⟨m, hm, hannounces⟩
      · exact .inl hnot
      · exact .inr ⟨m, List.mem_append_right arrived hm, hannounces⟩

theorem step_register (h : Step P arrived s₀ s) (position : Nat) :
    Step P arrived s₀ (s.step (.register position)) := by
  have hkeyed := FileState.keyed_step s (.register position) h.keyed
  rw [FileState.step] at hkeyed ⊢
  split at hkeyed
  · exact h
  · rename_i task htask
    refine ⟨hkeyed, ?_, h.grown⟩
    exact told_put h.told _ s.sendQueue
      (fun t ht => h.told.registering t (List.mem_of_mem_eraseIdx ht))
      (fun _ => h.told.registering task (List.mem_of_getElem? htask))

theorem stopped_stopTasks {sender : Sender} {onionName : String}
    (hpending : ¬ Pending P sender onionName)
    (h : Stopped P sender.known sender.device.files s) :
    Stopped P sender.known sender.device.files (s.step (.stopTasks onionName)) := by
  intro name task hget hsend
  have hmapped : (s.senderFileMap.map (fun t => if t.onionName = onionName then
    t.setStatus .stop else t)).get? name = some task := hget
  rw [HashMap.get?_map] at hmapped
  obtain ⟨old, hold, rfl⟩ := Option.map_eq_some_iff.mp hmapped
  split
  · rename_i honion
    rw [if_pos honion] at hsend
    rcases h name old hold hsend with hannounced | ⟨hstatus, hsame⟩
    · exact .inl (announced_setStatus hannounced .stop)
    · have hannounced := pending_or_announced sender hsame hsend hstatus (honion ▸ hpending)
      exact .inl (announced_setStatus hannounced .stop)
  · rename_i honion
    rw [if_neg honion] at hsend
    exact h name old hold hsend

theorem step_stops {sender : Sender} {env : Env} {event : Device.Event} {s' : FileState}
    (hk : sender.device.files.Keyed) (ht : Told P sender.known sender.device.files)
    (hc : ∀ item ∈ sender.device.removedItem env event,
      item.purpose = Constant.socketPurposeFile → ¬ Pending P sender item.onionName)
    (h : fileMachine.Reaches (fun _ op => sender.device.Stops env event op) sender.device.files
      s') : Step P sender.arrived sender.device.files s' := by
  have hstart : Stopped P sender.known sender.device.files sender.device.files := by
    intro name task hget hsend
    rcases ht.stored name task hget hsend with hnot | hannounced
    · exact .inr ⟨hnot, hget⟩
    · exact .inl hannounced
  obtain ⟨hkeyed, hstopped, hregistering, hqueue⟩ := Machine.reaches_invariant
    (I := fun s => s.Keyed ∧ Stopped P sender.known sender.device.files s ∧
      s.registering = sender.device.files.registering ∧
      s.sendQueue = sender.device.files.sendQueue)
    (by
      rintro s op ⟨hk, hst, hr, hq⟩ ⟨item, hitem, hpurpose, rfl⟩
      exact ⟨FileState.keyed_step s (.stopTasks item.onionName) hk,
        stopped_stopTasks (hc item hitem hpurpose) hst, hr, hq⟩)
    h ⟨hk, hstart, rfl, rfl⟩
  have hknown : sender.arrived ++ s'.sendQueue = sender.known := by
    rw [hqueue]
    rfl
  refine ⟨hkeyed, ?_, [], ?_, fun i hi => absurd hi List.not_mem_nil⟩
  · rw [hknown]
    refine ⟨?_, ?_⟩
    · intro name task hget hsend
      exact (hstopped name task hget hsend).symm.imp_left And.left
    · intro task htask
      rw [hregistering] at htask
      exact ht.registering task htask
  · rw [hqueue, List.append_nil]

theorem device_step {sender : Sender} {env : Env} {event : Device.Event}
    (hd : sender.device.Sound) (ht : Told P sender.known sender.device.files)
    (hc : Careful P sender (.device env event)) (hwrite : event ≠ .write) :
    Step P sender.arrived sender.device.files
      (sender.device.step P env event).files := by
  have hreaches : fileMachine.Reaches (sender.device.FilePermitted P env event)
      sender.device.files (sender.device.step P env event).files :=
    Device.step_files_reaches hd.1 hd.2 event
  have hstart : Step P sender.arrived sender.device.files sender.device.files :=
    step_refl hd.1 ht
  cases event with
  | accept socket =>
    exact Machine.reaches_invariant (fun s op _ hop => absurd hop id) hreaches hstart
  | connect onionName purpose socket =>
    exact Machine.reaches_invariant (fun s op _ hop => absurd hop id) hreaches hstart
  | receiveCell socket cell => exact step_stops hd.1 ht hc hreaches
  | hangUp socket => exact step_stops hd.1 ht hc hreaches
  | startHandShake onionName purpose => exact step_stops hd.1 ht hc hreaches
  | read =>
    refine (Machine.reaches_invariant (I := fun s => Step P sender.arrived
      sender.device.files s ∧ ((∃ item ∈ sender.device.recieveQueue.head?, item.type = 0) →
        Kin sender.device.files s)) ?_ hreaches ⟨hstart, fun _ => kin_refl _⟩).1
    rintro s op ⟨hs, hkin⟩ ⟨item, rest, hqueue, ⟨htype, hop⟩ | ⟨htype, hop⟩⟩
    · have hitem : ∃ item ∈ sender.device.recieveQueue.head?, item.type = 0 :=
        ⟨item, by rw [hqueue]; rfl, htype⟩
      exact ⟨step_resumes ht (hkin hitem) hs hop,
        fun _ => kin_resumes hs.keyed (hkin hitem) hop⟩
    · refine ⟨step_data ht (hc item (by rw [hqueue]; rfl) htype) hs hop, ?_⟩
      rintro ⟨head, hhead, hzero⟩
      rw [hqueue, List.head?_cons, Option.mem_def, Option.some.injEq] at hhead
      rw [← hhead, htype] at hzero
      cases hzero
  | write => exact absurd rfl hwrite
  | sendText messageContent remoteOnion messageID =>
    refine Machine.reaches_invariant ?_ hreaches hstart
    rintro s op hs ⟨items, rfl, hitems⟩
    exact step_queue hs (fun i hi htype => absurd htype (hitems i hi))
  | sendFile fileFullPath content remoteOnion messageID =>
    exact Machine.reaches_invariant (fun s op hs hop => step_hands hs hop) hreaches hstart
  | sendBytes fileFullPath bitmapBytes remoteOnion messageID =>
    exact Machine.reaches_invariant (fun s op hs hop => step_hands hs hop) hreaches hstart
  | register position =>
    refine Machine.reaches_invariant ?_ hreaches hstart
    rintro s op hs rfl
    exact step_register hs position
  | tryResendAll =>
    refine (Machine.reaches_invariant (I := fun s => Step P sender.arrived
      sender.device.files s ∧ Kin sender.device.files s) ?_ hreaches ⟨hstart, kin_refl _⟩).1
    rintro s op ⟨hs, hkin⟩ hop
    exact ⟨step_resumes ht hkin hs hop, kin_resumes hs.keyed hkin hop⟩

theorem told_remove {sender : Sender} {remaining : List (MessageItem (Option Cell))}
    {m : MessageItem (Option Cell)} (ht : Told P sender.known sender.device.files)
    (hremaining : ∀ m' ∈ sender.known, m' ∈ remaining ∨ m' = m)
    (hharmless : m ∉ remaining → Harmless P sender remaining m) {s : FileState}
    (hmap : s.senderFileMap = sender.device.senderFileMap)
    (hregistering : s.registering = sender.device.registering) : Told P remaining s := by
  have hkeeps (task : FileTask) (hstored : (∃ fileName,
      sender.device.senderFileMap.get? fileName = some task) ∧ task.direction = .send ∨
        task ∈ sender.device.registering)
      (h : task.status = .notStart ∨ Announced P sender.known task) :
      task.status = .notStart ∨ Announced P remaining task := by
    rcases h with hnot | ⟨m', hm', hannounces⟩
    · exact .inl hnot
    · by_cases hm : m' ∈ remaining
      · exact .inr ⟨m', hm, hannounces⟩
      · rcases hremaining m' hm' with hin | rfl
        · exact absurd hin hm
        · exact hharmless hm task hstored hannounces
  refine ⟨?_, ?_⟩
  · intro name task hget hsend
    rw [hmap] at hget
    exact hkeeps task (.inl ⟨⟨name, hget⟩, hsend⟩) (ht.stored name task hget hsend)
  · intro task htask
    rw [hregistering] at htask
    exact hkeeps task (.inr htask) (ht.registering task htask)

theorem told_write {sender : Sender} {env : Env} (ht : Told P sender.known sender.device.files)
    (hc : Careful P sender (.device env .write)) :
    Told P (sender.step P (.device env .write)).known
      (sender.step P (.device env .write)).device.files := by
  have hfiles : (sender.step P (.device env .write)).device.files =
      sender.device.files.step .dequeue := Device.write_files sender.device
  have hqueue : (sender.step P (.device env .write)).device.sendQueue =
      sender.device.sendQueue.tail := congrArg FileState.sendQueue hfiles
  have hknown : (sender.step P (.device env .write)).known = sender.arrived ++
      delivered sender.device env .write ++ sender.device.sendQueue.tail := by
    rw [Sender.known, hqueue]
    rfl
  rw [hfiles, hknown]
  cases hhead : sender.device.sendQueue with
  | nil =>
    have hsame : sender.known = sender.arrived ++ delivered sender.device env .write ++ [] := by
      rw [Sender.known, delivered, hhead, List.take_nil, List.filter_nil, List.append_nil,
        List.append_nil]
    rw [List.tail_nil, ← hsame]
    exact ⟨ht.stored, ht.registering⟩
  | cons m rest =>
    have hdelivered : delivered sender.device env .write =
        if m.data.isSome && env.sent 0 then [m] else [] := by
      rw [delivered, hhead, List.take_succ_cons, List.take_zero, List.filter_singleton]
      cases m.data.isSome && env.sent 0 <;> rfl
    rw [List.tail_cons]
    refine told_remove ht (m := m) ?_ ?_ rfl rfl
    · intro m' hm'
      rw [Sender.known, hhead, List.mem_append, List.mem_cons] at hm'
      rcases hm' with hin | hsame | hrest
      · exact .inl (List.mem_append_left _ (List.mem_append_left _ hin))
      · exact .inr hsame
      · exact .inl (List.mem_append_right _ hrest)
    · intro hm
      have hlost : (m.data.isSome && env.sent 0) = false := by
        by_contra hok
        rw [Bool.not_eq_false] at hok
        rw [hdelivered, if_pos hok] at hm
        exact hm (List.mem_append_left _ (List.mem_append_right _ List.mem_cons_self))
      have hharmless := hc m (by rw [hhead]; rfl) hlost
      rw [hhead, List.tail_cons] at hharmless
      rw [hdelivered, hlost, if_neg Bool.false_ne_true, List.append_nil]
      exact hharmless

theorem told_lose {sender : Sender} {position : Nat}
    (ht : Told P sender.known sender.device.files) (hc : Careful P sender (.lose position)) :
    Told P (sender.step P (.lose position)).known
      (sender.step P (.lose position)).device.files := by
  have hknown : (sender.step P (.lose position)).known =
      sender.arrived.eraseIdx position ++ sender.device.sendQueue := rfl
  rw [hknown]
  cases hlost : sender.arrived[position]? with
  | none =>
    rw [List.eraseIdx_of_length_le (List.getElem?_eq_none_iff.mp hlost)]
    exact ht
  | some m =>
    refine told_remove ht (m := m) ?_ (fun _ => hc m hlost) rfl rfl
    intro m' hm'
    rcases List.mem_append.mp hm' with harrived | hqueue
    · obtain ⟨i, hi⟩ := List.mem_iff_getElem?.mp harrived
      by_cases hposition : i = position
      · rw [hposition, hlost, Option.some.injEq] at hi
        exact .inr hi.symm
      · exact .inl (List.mem_append_left _
          (List.mem_eraseIdx_iff_getElem?.mpr ⟨i, hposition, hi⟩))
    · exact .inl (List.mem_append_right _ hqueue)

theorem told_step {sender : Sender} {e : Event} (hd : sender.device.Sound)
    (ht : Told P sender.known sender.device.files) (hc : Careful P sender e) :
    (sender.step P e).device.Sound ∧
      Told P (sender.step P e).known (sender.step P e).device.files := by
  cases e with
  | lose position => exact ⟨hd, told_lose ht hc⟩
  | device env event =>
    refine ⟨Device.sound_step hd event, ?_⟩
    by_cases hwrite : event = .write
    · subst hwrite
      exact told_write ht hc
    · have hstep := device_step hd ht hc hwrite
      have harrived : (sender.step P (.device env event)).arrived = sender.arrived := by
        cases event with
        | write => exact absurd rfl hwrite
        | _ => exact List.append_nil _
      rw [Sender.known, harrived]
      exact hstep.told

theorem new_pieces_follow {sender : Sender} {env : Env} {event : Device.Event}
    (hd : sender.device.Sound) (ht : Told P sender.known sender.device.files)
    (hc : Careful P sender (.device env event)) :
    ∀ i ∈ (sender.device.step P env event).sendQueue.drop sender.device.sendQueue.length,
      i.messageType = some Constant.dataFileData →
        Follows P sender.known sender.device.files i := by
  intro i hi htype
  by_cases hwrite : event = .write
  · subst hwrite
    have hqueue : (sender.device.step P env .write).sendQueue = sender.device.sendQueue.tail :=
      congrArg FileState.sendQueue (Device.write_files sender.device)
    rw [hqueue, List.drop_of_length_le (by rw [List.length_tail]; omega)] at hi
    exact absurd hi List.not_mem_nil
  · obtain ⟨items, hqueue, hitems⟩ := (device_step hd ht hc hwrite).grown
    have hnew : (sender.device.step P env event).sendQueue =
        sender.device.sendQueue ++ items := hqueue
    rw [hnew, List.drop_left] at hi
    exact hitems i hi htype

theorem pieces_follow_meta {d : Device} (hconns : d.conns.Named) (hmap : d.senderFileMap = ∅)
    (hregistering : d.registering = []) {events : List Event}
    (h : (machine P).Guarded (Careful P) { device := d } events) :
    PiecesFollowMeta P { device := d } events := by
  have hstart : d.Sound ∧ Told P (Sender.known { device := d }) d.files := by
    refine ⟨⟨FileState.keyed_of_empty hmap, hconns⟩, ?_, ?_⟩
    · intro fileName task hget
      rw [show d.files.senderFileMap = ∅ from hmap] at hget
      cases hget
    · intro task htask
      rw [show d.files.registering = [] from hregistering] at htask
      cases htask
  intro xs env event ys hsplit
  subst hsplit
  obtain ⟨hxs, hc, -⟩ := ((machine P).guarded_append { device := d } xs _).mp h
  obtain ⟨hd, ht⟩ := (machine P).guarded_invariant
    (I := fun s => s.device.Sound ∧ Told P s.known s.device.files)
    (fun s e hs hg => told_step hs.1 hs.2 hg) hxs hstart
  rw [Machine.run_append]
  exact new_pieces_follow hd ht hc

def ordinarySend : List Event :=
  (FileConfidentiality.sendThenReady 1 [1]).map (fun e => .device e.1 e.2)

theorem pieces_follow_meta_ready :
    PiecesFollowMeta demoPlatform { device := TaskIsolation.twoPeers } ordinarySend := by
  refine pieces_follow_meta TaskIsolation.sound_twoPeers.2 rfl rfl
    ⟨fun _ hitem => (nomatch hitem), fun _ hitem => (nomatch hitem), fun m hm hlost => ?_,
      fun item hitem => ?_, fun item hitem htype found hfound => ?_, trivial⟩
  · have hdata : ∀ m ∈ ((machine demoPlatform).run { device := TaskIsolation.twoPeers }
        (ordinarySend.take 2)).device.sendQueue.head?, m.data.isSome = true := by decide +kernel
    have hsome : m.data.isSome = true := hdata m hm
    rw [hsome] at hlost
    cases hlost
  · have hnone : ((machine demoPlatform).run { device := TaskIsolation.twoPeers }
        (ordinarySend.take 3)).device.removedItem {}
          (.receiveCell 1 (FileConfidentiality.fileReady "f" [1])) = none := by decide +kernel
    cases hnone.symm.trans hitem
  · have hown : ∀ item ∈ ((machine demoPlatform).run { device := TaskIsolation.twoPeers }
        (ordinarySend.take 4)).device.recieveQueue.head?,
        ∀ found ∈ ((machine demoPlatform).run { device := TaskIsolation.twoPeers }
          (ordinarySend.take 4)).device.selectedTask demoPlatform item,
          found.direction = .send ∧ found.onionName = item.onionName ∧
            found.status ≠ .notStart := by decide +kernel
    obtain ⟨hsend, hpeer, hstarted⟩ := hown item hitem found hfound
    exact ⟨fun _ => ⟨hsend, hpeer⟩, fun _ hnot => absurd hnot hstarted⟩

def twoSockets : Device :=
  { TaskIsolation.twoPeers with
    conns := TaskIsolation.twoPeers.conns.addNewConnection (TaskIsolation.established "p1" 3 [3]) }

def lostMeta : List Event :=
  [.device {} (.sendFile "f" [7] "p1" 1000), .device {} (.register 0),
    .device { sent := fun _ => false } .write]

theorem resume_sends_pieces_without_meta :
    ¬ PiecesFollowMeta demoPlatform { device := twoSockets }
      (lostMeta ++ [.device {} .tryResendAll]) := by
  intro h
  have hpiece : ∃ i ∈ ((machine demoPlatform).run { device := twoSockets }
      (lostMeta ++ [.device {} .tryResendAll])).device.sendQueue.drop
        ((machine demoPlatform).run { device := twoSockets } lostMeta).device.sendQueue.length,
      i.messageType = some Constant.dataFileData := by decide +kernel
  have hknown : ((machine demoPlatform).run { device := twoSockets } lostMeta).known = [] := by
    decide +kernel
  obtain ⟨i, hi, htype⟩ := hpiece
  obtain ⟨-, -, -, -, -, m, hm, -⟩ := h lostMeta {} .tryResendAll [] rfl i hi htype
  rw [hknown] at hm
  exact absurd hm List.not_mem_nil

end MetaFirst

end TorChat
