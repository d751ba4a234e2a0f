import TorChat.Server.FileEffects
import TorChat.Server.ConnectionEffects

namespace TorChat

open Library (Bytes HashMap Machine)

namespace FileTask

def Restatus (task task' : FileTask) : Prop :=
  ∃ status, task' = task.setStatus status ∧ (status = .notStart → task.status = .notStart)

theorem restatus_refl (task : FileTask) : task.Restatus task := ⟨task.status, rfl, id⟩

theorem restatus_trans {task task' task'' : FileTask} (h : task.Restatus task')
    (h' : task'.Restatus task'') : task.Restatus task'' := by
  obtain ⟨status, rfl, hs⟩ := h
  obtain ⟨status', rfl, hs'⟩ := h'
  exact ⟨status', rfl, fun hn => hs (hs' hn)⟩

def Announces (P : Platform) (m : MessageItem (Option Cell)) (task : FileTask) : Prop :=
  m.onionName = task.onionName ∧ ∃ (amb : Ambient) (sharedKey : Bytes) (messageID : Nat),
    m.data = FileMessage.buildFileMetaMessage P amb (some sharedKey) task.fileName
      task.totalSize task.contentHash messageID

end FileTask

def NoPieces (items : List (MessageItem (Option Cell))) : Prop :=
  ∀ i ∈ items, i.messageType ≠ some Constant.dataFileData

namespace FileState

variable (P : Platform)

def Resumes (s : FileState) : FileOp → Prop
  | .mark fileName status => status ≠ .notStart ∧ ∃ task,
      s.senderFileMap.get? fileName = some task ∧
        (task.direction = .send → task.status ≠ .notStart)
  | .queue items => ∀ i ∈ items, i.messageType = some Constant.dataFileData →
      ∃ fileName task, s.senderFileMap.get? fileName = some task ∧ task.direction = .send ∧
        task.status ≠ .notStart ∧ task.onionName = i.onionName ∧ FileTask.PieceOf P i task
  | _ => False

def Hands (task : FileTask) (s : FileState) : FileOp → Prop
  | .queue items => NoPieces items
  | .startRegister new => ∃ status, new = task.setStatus status ∧
      (status = .notStart ∨ ∃ m ∈ s.sendQueue, FileTask.Announces P m new)
  | _ => False

variable {P} {s : FileState}

theorem resumes_cases {op : FileOp} (h : s.Resumes P op) :
    (∃ fileName status, op = .mark fileName status) ∨ ∃ items, op = .queue items := by
  cases op with
  | mark fileName status => exact .inl ⟨fileName, status, rfl⟩
  | queue items => exact .inr ⟨items, rfl⟩
  | recievePiece fileName pieceID fileContent => exact absurd h id
  | acknowledge fileName pieceID => exact absurd h id
  | stopTasks onionName => exact absurd h id
  | put task => exact absurd h id
  | remove fileName => exact absurd h id
  | dequeue => exact absurd h id
  | startRegister task => exact absurd h id
  | register position => exact absurd h id

theorem hands_cases {op : FileOp} {task : FileTask} (h : FileState.Hands P task s op) :
    (∃ items, op = .queue items) ∨ ∃ new, op = .startRegister new := by
  cases op with
  | queue items => exact .inl ⟨items, rfl⟩
  | startRegister new => exact .inr ⟨new, rfl⟩
  | mark fileName status => exact absurd h id
  | recievePiece fileName pieceID fileContent => exact absurd h id
  | acknowledge fileName pieceID => exact absurd h id
  | stopTasks onionName => exact absurd h id
  | put task => exact absurd h id
  | remove fileName => exact absurd h id
  | dequeue => exact absurd h id
  | register position => exact absurd h id

theorem resumes_queue_noPieces {items : List (MessageItem (Option Cell))} (h : NoPieces items) :
    s.Resumes P (.queue items) :=
  fun i hi htype => absurd htype (h i hi)

def Current (s : FileState) (task : FileTask) : Prop :=
  ∃ current, s.senderFileMap.get? task.fileName = some current ∧ task.Restatus current

theorem current_step {task : FileTask} {op : FileOp} (hk : s.Keyed) (hop : s.Resumes P op)
    (h : s.Current task) : (s.step op).Current task := by
  obtain ⟨current, hget, hstatus⟩ := h
  obtain ⟨fileName, status, rfl⟩ | ⟨items, rfl⟩ := resumes_cases hop
  · by_cases hname : task.fileName = fileName
    · refine ⟨current.setStatus status, ?_, FileTask.restatus_trans hstatus
        ⟨status, rfl, fun hs => absurd hs hop.1⟩⟩
      rw [step, get?_modify_of_keyed hk, if_pos hname, hget, Option.map_some]
    · refine ⟨current, ?_, hstatus⟩
      rw [step, get?_modify_of_keyed hk, if_neg hname, hget]
  · exact ⟨current, hget, hstatus⟩

theorem current_of_reaches {s' : FileState} {task : FileTask} (hk : s.Keyed)
    (h : fileMachine.Reaches (Resumes P) s s') (hcurrent : s.Current task) :
    s'.Keyed ∧ s'.Current task :=
  Machine.reaches_invariant (I := fun q => q.Keyed ∧ q.Current task)
    (fun q op hq hop => ⟨keyed_step q op hq.1, current_step hq.1 hop hq.2⟩) h ⟨hk, hcurrent⟩

theorem admits_resumes {Q R : FileTask → Prop} {op : FileOp}
    (hstatus : ∀ task status, Q task → Q (FileTask.setStatus task status)) (h : s.All Q R)
    (hop : s.Resumes P op) : s.Admits Q R op := by
  obtain ⟨fileName, status, rfl⟩ | ⟨items, rfl⟩ := resumes_cases hop
  · exact fun task hget => hstatus task status (h.1 fileName task hget)
  · exact trivial

theorem admits_hands {Q R : FileTask → Prop} {op : FileOp} {task : FileTask}
    (hstatus : ∀ task status, R task → R (FileTask.setStatus task status)) (htask : R task)
    (hop : FileState.Hands P task s op) : s.Admits Q R op := by
  obtain ⟨items, rfl⟩ | ⟨new, rfl⟩ := hands_cases hop
  · exact trivial
  · obtain ⟨status, rfl, -⟩ := hop
    exact hstatus task status htask

theorem keyed_of_reaches {A : FileState → FileOp → Prop} {s' : FileState} (hk : s.Keyed)
    (h : fileMachine.Reaches A s s') : s'.Keyed :=
  Machine.reaches_invariant (fun q op hq _ => keyed_step q op hq) h hk

end FileState

namespace Device

variable {P : Platform} {env : Env}

theorem noPieces_packed {n id length : Nat} {amb : Ambient} {internalPayload pointers : Bytes}
    {sharedKey : Option Bytes} {i : MessageItem (Option Cell)} (hn : n < 256)
    (hne : n ≠ Constant.dataFileData)
    (hdata : i.data = Message.packDataPayload (Message.externalPayload P amb n id internalPayload
      pointers length) sharedKey) : i.messageType ≠ some Constant.dataFileData :=
  fun htype => hne (MessageItem.messageType_packDataPayload hn hdata htype).symm

theorem noPieces_meta {amb : Ambient} {sharedKey : Option Bytes} {fileName : String}
    {fileSize messageID : Nat} {contentHash : Bytes} {i : MessageItem (Option Cell)}
    (hdata : i.data = FileMessage.buildFileMetaMessage P amb sharedKey fileName fileSize
      contentHash messageID) : i.messageType ≠ some Constant.dataFileData := by
  rw [FileMessage.buildFileMetaMessage] at hdata
  exact noPieces_packed (by decide) (by decide) hdata

theorem noPieces_ack {amb : Ambient} {keys : KeyState} {sharedKey : Option Bytes}
    {ackMessageType pieceID messageID : Nat} {ack : String} {messageHash : Bytes}
    {i : MessageItem (Option Cell)}
    (hdata : i.data = DataMessage.buildACKDataMessage P amb keys sharedKey ackMessageType pieceID
      ack messageHash messageID) : i.messageType ≠ some Constant.dataFileData := by
  rw [DataMessage.buildACKDataMessage] at hdata
  exact noPieces_packed (by decide) (by decide) hdata

theorem noPieces_text {amb : Ambient} {keys : KeyState} {sharedKey : Option Bytes}
    {text : String} {messageID : Nat} {i : MessageItem (Option Cell)}
    (hdata : i.data = Message.packDataPayload (keys.textPayload P amb text messageID) sharedKey) :
    i.messageType ≠ some Constant.dataFileData := by
  rw [KeyState.textPayload] at hdata
  exact noPieces_packed (by decide) (by decide) hdata

theorem data_metaItem (onionName : String) (socket : Nat) (sharedKey : Bytes) (task : FileTask)
    (messageID : Nat) : (metaItem P env onionName socket sharedKey task messageID).data =
      FileMessage.buildFileMetaMessage P (env.ambient 0) (some sharedKey) task.fileName
        task.totalSize task.contentHash messageID := rfl

theorem noPieces_metaItem (onionName : String) (socket : Nat) (sharedKey : Bytes)
    (task : FileTask) (messageID : Nat) :
    NoPieces [metaItem P env onionName socket sharedKey task messageID] := by
  intro i hi
  rw [List.mem_singleton.mp hi]
  exact noPieces_meta (data_metaItem onionName socket sharedKey task messageID)

theorem resend_reaches {d : Device} {task : FileTask} (current : FileTask)
    {conn : ConnectionStatusItem} {messageID : Nat}
    (hget : d.senderFileMap.get? task.fileName = some current)
    (hcurrent : task.Restatus current) (hdirection : current.direction = .send)
    (hstatus : current.status ≠ .notStart) (hconn : conn.onionName = task.onionName) :
    fileMachine.Reaches (FileState.Resumes P) d.files
      (d.resend P env task conn messageID).1.files := by
  rcases resend_files P env d task conn messageID with hsame | ⟨items, hfiles, hitems⟩
  · rw [hsame]
    exact Machine.reaches_refl _
  · rw [hfiles]
    apply FileState.reaches_op (.queue items)
    intro i hi _
    obtain ⟨honion, hpiece⟩ := hitems i hi
    obtain ⟨status, rfl, -⟩ := hcurrent
    exact ⟨task.fileName, _, hget, hdirection, hstatus, (honion.trans hconn).symm, hpiece⟩

theorem resendTask_reaches {d : Device} {task : FileTask} {onionName : String}
    {conn : ConnectionStatusItem} {sharedKey : Bytes} (hk : d.files.Keyed)
    (hcurrent : d.files.Current task) (hconn : conn.onionName = onionName) :
    fileMachine.Reaches (FileState.Resumes P) d.files
      (d.resendTask P env onionName conn sharedKey task).1.files := by
  obtain ⟨current, hget, hrestatus⟩ := hcurrent
  have hdirection : current.direction = task.direction := by
    obtain ⟨status, rfl, -⟩ := hrestatus
    rfl
  rw [resendTask]
  split
  · exact Machine.reaches_refl _
  · rename_i honion
    rw [not_not] at honion
    cases hd : task.direction with
    | send =>
      dsimp only
      split
      · split
        · exact Machine.reaches_refl _
        · exact FileState.reaches_op (.queue _)
            (FileState.resumes_queue_noPieces (noPieces_metaItem _ _ _ _ _))
      · rename_i hstatus
        have hstarted : current.status ≠ .notStart := by
          obtain ⟨status, rfl, hs⟩ := hrestatus
          exact fun hn => hstatus (hs hn)
        have hmark : fileMachine.Reaches (FileState.Resumes P) d.files
            (d.modifyTask task (fun t => t.setStatus .transferrring)).files :=
          FileState.reaches_op (.mark task.fileName .transferrring)
            ⟨by decide, current, hget, fun _ => hstarted⟩
        split
        · exact hmark
        · refine Machine.reaches_trans hmark (resend_reaches
            (current.setStatus .transferrring) ?_ ?_ (hdirection.trans hd) ?_
            (hconn.trans honion.symm))
          · have hmodify := FileState.get?_modify_of_keyed hk task.fileName task.fileName
              (fun t => t.setStatus .transferrring)
            rw [if_pos rfl] at hmodify
            exact hmodify.trans (congrArg (Option.map _) hget)
          · exact FileTask.restatus_trans hrestatus 
              ⟨.transferrring, rfl, fun hs => absurd hs (by decide)⟩
          · intro hs
            cases hs
    | recieve =>
      dsimp only
      split
      · split
        · exact Machine.reaches_refl _
        · refine FileState.reaches_op_then (.queue _) (FileState.resumes_queue_noPieces ?_)
            (FileState.reaches_op (.mark task.fileName .ckSend)
              ⟨by decide, current, hget, fun hsend => ?_⟩)
          · intro i hi
            rw [List.mem_singleton.mp hi]
            exact noPieces_ack (P := P) (show _ = DataMessage.buildACKDataMessage P (env.ambient 0)
              d.keys (some sharedKey) 2 _ _ _ _ from rfl)
          · rw [hdirection, hd] at hsend
            cases hsend
      · exact Machine.reaches_refl _

theorem resendTasks_reaches {onionName : String} {conn : ConnectionStatusItem}
    {sharedKey : Bytes} (hconn : conn.onionName = onionName) (tasks : List FileTask) (d : Device)
    (hk : d.files.Keyed) (hcurrent : ∀ task ∈ tasks, d.files.Current task) :
    fileMachine.Reaches (FileState.Resumes P) d.files
      (resendTasks P env onionName conn sharedKey tasks d).1.files := by
  induction tasks generalizing d with
  | nil => exact Machine.reaches_refl _
  | cons task tasks ih =>
    have htask : fileMachine.Reaches (FileState.Resumes P) d.files
        (d.resendTask P env onionName conn sharedKey task).1.files :=
      resendTask_reaches hk (hcurrent task List.mem_cons_self) hconn
    rw [resendTasks]
    split
    · rename_i d' hd
      rw [hd] at htask
      apply Machine.reaches_trans htask
      apply ih d' (FileState.keyed_of_reaches hk htask)
      intro t ht
      exact (FileState.current_of_reaches hk htask
        (hcurrent t (List.mem_cons_of_mem task ht))).2
    · rename_i d' hd
      rw [hd] at htask
      exact htask

theorem noPieces_mapIdx {α : Type} {f : Nat → α → MessageItem (Option Cell)} {xs : List α}
    (h : ∀ n x, (f n x).messageType ≠ some Constant.dataFileData) :
    NoPieces (xs.mapIdx f) := by
  intro i hi
  obtain ⟨n, hn, rfl⟩ := List.mem_mapIdx.mp hi
  exact h n _

theorem resendTexts_reaches (d : Device) (onionName : String) :
    fileMachine.Reaches (FileState.Resumes P) d.files (d.resendTexts P env onionName).files := by
  rw [resendTexts]
  split
  · refine FileState.reaches_op (.queue _) (FileState.resumes_queue_noPieces ?_)
    apply noPieces_mapIdx
    intro n text
    exact noPieces_packed (n := Constant.dataMessage) (by decide) (by decide) rfl
  · exact Machine.reaches_refl _

theorem conns_resendTexts (d : Device) (onionName : String) :
    (d.resendTexts P env onionName).conns = d.conns := by
  rw [resendTexts]
  split
  · rfl
  · rfl

variable (P env) in
theorem tryResend_reaches {d : Device} (hk : d.files.Keyed) (hn : d.conns.Named)
    (onionName : String) :
    fileMachine.Reaches (FileState.Resumes P) d.files (d.tryResend P env onionName).1.files := by
  have htexts : fileMachine.Reaches (FileState.Resumes P) d.files
      (d.resendTexts P env onionName).files := resendTexts_reaches d onionName
  have hkeyed := FileState.keyed_of_reaches hk htexts
  rw [tryResend]
  apply Machine.reaches_trans htexts
  split
  · rename_i conn hconn
    rw [conns_resendTexts] at hconn
    split
    · apply resendTasks_reaches (Connections.onionName_of_named_purpose hn hconn) _ _ hkeyed
      intro task htask
      obtain ⟨name, hget⟩ := HashMap.mem_values.mp htask
      exact ⟨task, (hkeyed name task hget).symm ▸ hget, task.restatus_refl⟩
    · exact Machine.reaches_refl _
  · exact Machine.reaches_refl _

theorem tryResendAll_reaches (onionNames : List String) (d : Device) (hk : d.files.Keyed)
    (hn : d.conns.Named) :
    fileMachine.Reaches (FileState.Resumes P) d.files (tryResendAll P env onionNames d).files := by
  induction onionNames generalizing d with
  | nil => exact Machine.reaches_refl _
  | cons onionName rest ih =>
    have hname := tryResend_reaches P env hk hn onionName
    have hconns := conns_tryResend P env d onionName
    rw [tryResendAll]
    split
    · rename_i d' hd
      rw [hd] at hname hconns
      apply Machine.reaches_trans hname
      exact ih d' (FileState.keyed_of_reaches hk hname) (hconns.symm ▸ hn)
    · rename_i d' hd
      rw [hd] at hname
      exact hname

theorem updateSocketStatus_reaches {d : Device} (hk : d.files.Keyed) (hn : d.conns.Named)
    (item : MessageItem Bytes) (status : Nat) (sharedKey : Option Bytes) :
    fileMachine.Reaches (FileState.Resumes P) d.files
      (d.updateSocketStatus P env item status sharedKey).1.files := by
  have hupdated : (d.conns.updateStatus item.onionName item.socket status sharedKey).Named :=
    Connections.named_step d.conns (.status _ _ _ _) hn
  rw [updateSocketStatus]
  split
  · exact tryResend_reaches P env (d := { d with
      conns := d.conns.updateStatus item.onionName item.socket status sharedKey }) hk hupdated
      item.onionName
  · exact Machine.reaches_refl _

theorem files_connectReady (d : Device × Bool) : (connectReady d).files = d.1.files := by
  obtain ⟨d, complete⟩ := d
  cases complete <;> rfl

theorem sendMessage_reaches {d₀ d : Device} {sent : Bool} {onionName : String} {socket : Nat}
    {cell : Cell} {f : Device → Device} (hk : d₀.files.Keyed) (hn : d₀.conns.Named)
    (hfiles : d.files = d₀.files) (hconns : d.conns = d₀.conns)
    (hf : ∀ d : Device, d.files.Keyed → d.conns.Named →
      fileMachine.Reaches (FileState.Resumes P) d.files (f d).files) :
    fileMachine.Reaches (FileState.Resumes P) d₀.files
      (d.sendMessage sent onionName socket cell f).files := by
  rw [← hfiles] at hk ⊢
  rw [← hconns] at hn
  rw [sendMessage]
  split
  · exact hf (d.transmit socket cell) hk hn
  · exact Machine.reaches_refl _

theorem handShakeMessageHandle_reaches {d : Device} (hk : d.files.Keyed) (hn : d.conns.Named)
    (item : MessageItem Bytes) :
    fileMachine.Reaches (FileState.Resumes P) d.files
      (d.handShakeMessageHandle P env item).files := by
  have hestablished (d : Device) (hk : d.files.Keyed) (hn : d.conns.Named)
      (sharedKey : Option Bytes) : fileMachine.Reaches (FileState.Resumes P) d.files
      (connectReady (d.updateSocketStatus P env item 1 sharedKey)).files := by
    rw [files_connectReady]
    exact updateSocketStatus_reaches hk hn item 1 sharedKey
  rw [handShakeMessageHandle]
  split
  · split
    · rw [receiveSessionRequest]
      split
      · dsimp only
        split
        · exact Machine.reaches_refl _
        · rw [files_sendMessage_id]
          exact Machine.reaches_refl _
      · exact Machine.reaches_refl _
    split
    · rw [receiveSessionAuth]
      split
      · dsimp only
        split
        · exact sendMessage_reaches hk hn (files_setKeys d _) (conns_setKeys d _)
            (fun d hk hn => updateSocketStatus_reaches hk hn item 0 _)
        · exact Machine.reaches_refl _
      · exact Machine.reaches_refl _
    split
    · rw [receiveSessionExchange]
      split
      · exact sendMessage_reaches hk hn rfl rfl (fun d hk hn => hestablished d hk hn _)
      · exact Machine.reaches_refl _
    split
    · rw [receiveSessionDone]
      split
      · exact hestablished d hk hn none
      · exact Machine.reaches_refl _
    · exact Machine.reaches_refl _
  · exact Machine.reaches_refl _

variable (P) in
def ReadPermitted (d : Device) (s : FileState) (op : FileOp) : Prop :=
  ∃ item rest, d.recieveQueue = item :: rest ∧
    ((item.type = 0 ∧ s.Resumes P op) ∨ (item.type = 1 ∧ DataPermitted P d item s op))

def transportItem (d : Device) (socket : Nat) : Option ConnectionStatusItem :=
  (d.transport socket).bind (fun t =>
    t.mailItem.bind (fun mail => d.conns.statusItem mail.onionName t.socket))

def removedItem (d : Device) (env : Env) : Event → Option ConnectionStatusItem
  | .receiveCell socket cell =>
      if Message.parse cell d.privateKey = none then
        (d.transportItem socket).filter (fun item => item.status = 0)
      else none
  | .hangUp socket => d.transportItem socket
  | .startHandShake onionName purpose =>
      if env.sent 0 then none
      else (d.conns.getConnectionStatusItemByOnionName onionName purpose).filter
        (fun item => item.shareKey.isNone)
  | _ => none

def Stops (d : Device) (env : Env) (e : Event) (op : FileOp) : Prop :=
  ∃ item ∈ d.removedItem env e, item.purpose = Constant.socketPurposeFile ∧
    op = .stopTasks item.onionName

variable (P) in
def FilePermitted (d : Device) (env : Env) (e : Event) (s : FileState) (op : FileOp) : Prop :=
  match e with
  | .accept _ => False
  | .connect _ _ _ => False
  | .receiveCell _ _ => d.Stops env e op
  | .hangUp _ => d.Stops env e op
  | .startHandShake _ _ => d.Stops env e op
  | .read => d.ReadPermitted P s op
  | .write => op = .dequeue
  | .sendText _ _ _ => ∃ items, op = .queue items ∧ NoPieces items
  | .sendFile fileFullPath content remoteOnion messageID => FileState.Hands P
      (FileTask.ofFile P d.keys.keyFile remoteOnion fileFullPath content messageID) s op
  | .sendBytes fileFullPath bitmapBytes remoteOnion messageID => FileState.Hands P
      (FileTask.ofBitmap P d.keys.keyFile remoteOnion fileFullPath bitmapBytes messageID) s op
  | .register position => op = .register position
  | .tryResendAll => s.Resumes P op

variable (P) in
def ReadReported (d : Device) (s : FileState) (op : FileOp) : Prop :=
  ∃ item rest, d.recieveQueue = item :: rest ∧
    ((item.type = 0 ∧ s.Resumes P op) ∨ (item.type = 1 ∧ DataReported P d item s op))

theorem read_files_reported {d : Device} (hk : d.files.Keyed) (hn : d.conns.Named) :
    fileMachine.Reaches (d.ReadReported P) d.files (d.read P env).files := by
  rw [read]
  split
  · exact Machine.reaches_refl _
  · rename_i item rest hqueue
    dsimp only
    split
    · rename_i htype
      refine Machine.reaches_mono (fun s op hop => ⟨item, rest, hqueue, .inl ⟨htype, hop⟩⟩) ?_
      exact handShakeMessageHandle_reaches (d := { d with recieveQueue := rest }) hk hn item
    · split
      · rename_i htype
        refine Machine.reaches_mono (fun s op hop => ⟨item, rest, hqueue, .inr ⟨htype, hop⟩⟩) ?_
        exact dataMessageHandle_reported (d := { d with recieveQueue := rest }) hk
          (fun statusItem hstatus => Connections.onionName_of_named hn hstatus)
      · exact Machine.reaches_refl _

theorem read_files_reaches {d : Device} (hk : d.files.Keyed) (hn : d.conns.Named) :
    fileMachine.Reaches (d.ReadPermitted P) d.files (d.read P env).files := by
  refine Machine.reaches_mono ?_ (read_files_reported hk hn)
  rintro s op ⟨item, rest, hqueue, hhandshake | ⟨htype, hdata⟩⟩
  · exact ⟨item, rest, hqueue, .inl hhandshake⟩
  · exact ⟨item, rest, hqueue, .inr ⟨htype, hdata.1⟩⟩

theorem deleteStatusItem_reaches (d : Device) (item : ConnectionStatusItem) :
    fileMachine.Reaches (fun _ op => op = .stopTasks item.onionName ∧
      item.purpose = Constant.socketPurposeFile) d.files (d.deleteStatusItem item).files := by
  rw [deleteStatusItem]
  split
  · rename_i hpurpose
    exact FileState.reaches_op (.stopTasks item.onionName) ⟨rfl, hpurpose⟩
  · exact Machine.reaches_refl _

theorem endTransport_reaches {d : Device} {socket : Nat} {t : Transport} {e : Event}
    (htransport : d.transport socket = some t)
    (hremoved : ∀ item, d.transportItem socket = some item → d.removedItem env e = some item) :
    fileMachine.Reaches (fun _ op => d.Stops env e op) d.files (d.endTransport t).files := by
  rw [endTransport]
  split
  · rename_i item hitem
    have htransportItem : d.transportItem socket = some item := by
      rw [transportItem, htransport, Option.bind_some, hitem]
    refine Machine.reaches_mono ?_ (deleteStatusItem_reaches d item)
    intro s op hop
    exact ⟨item, hremoved item htransportItem, hop.2, hop.1⟩
  · exact Machine.reaches_refl _

theorem parseRemote_eq_parse (cell : Cell) (localPrivateKey : PrivateKey)
    (remotePulicKey : PublicKey) :
    Message.parseRemote cell localPrivateKey remotePulicKey = Message.parse cell localPrivateKey :=
  rfl

theorem readCell_files (d : Device) (mail : MailItem) (t : Transport) (cell : Cell) :
    (d.readCell mail t cell).files = d.files ∨
      (Message.parse cell d.privateKey = none ∧
        ∃ item, d.conns.statusItem mail.onionName t.socket = some item ∧ item.status = 0 ∧
          (d.readCell mail t cell).files = (d.endTransport t).files) := by
  rw [readCell]
  split
  · exact .inl rfl
  · rename_i item hitem
    split
    · rename_i hstatus
      split
      · rename_i hparse
        rw [parseRemote_eq_parse] at hparse
        exact .inr ⟨hparse, item, hitem, hstatus, rfl⟩
      · exact .inl rfl
    · split
      · split
        · exact .inl rfl
        · exact .inl rfl
      · exact .inl rfl

theorem receiveCell_files_reaches (d : Device) (socket : Nat) (cell : Cell) :
    fileMachine.Reaches (fun _ op => d.Stops env (.receiveCell socket cell) op) d.files
      (d.receiveCell socket cell).files := by
  rw [receiveCell]
  split
  · exact Machine.reaches_refl _
  · rename_i t htransport
    split
    · exact Machine.reaches_refl _
    · split
      · rename_i mail hmail
        rcases readCell_files d mail t cell with hsame | ⟨hparse, item, hitem, hstatus, hend⟩
        · rw [hsame]
          exact Machine.reaches_refl _
        · rw [hend]
          apply endTransport_reaches htransport
          intro found hfound
          have hsame : found = item := by
            rw [transportItem, htransport, Option.bind_some, hmail, Option.bind_some, hitem,
              Option.some.injEq] at hfound
            exact hfound.symm
          rw [removedItem, if_pos hparse, hfound, hsame, Option.filter_some,
            if_pos (decide_eq_true hstatus)]
      · split
        · exact Machine.reaches_refl _
        · rename_i mail hidentify
          rcases readCell_files (d.bindPeer t mail).1 mail (d.bindPeer t mail).2 cell with
            hsame | ⟨hparse, -⟩
          · exact hsame ▸ Machine.reaches_refl _
          · -- a first cell that names a contact has been opened already
            obtain ⟨externalPayload, hopened, -⟩ := Option.bind_eq_some_iff.mp hidentify
            cases hparse.symm.trans hopened

theorem startHandShakeProcess_reaches (d : Device) (onionName : String) (purpose : Nat) :
    fileMachine.Reaches (fun _ op => d.Stops env (.startHandShake onionName purpose) op) d.files
      (d.startHandShakeProcess P env onionName purpose).files := by
  rw [startHandShakeProcess]
  split
  · rename_i item mail handShakeMessage hitem _ _
    split
    · exact Machine.reaches_refl _
    · rename_i hkey
      split
      · exact Machine.reaches_refl _
      · dsimp only
        split
        · exact Machine.reaches_refl _
        · rename_i hsent
          have hremoved : d.removedItem env (.startHandShake onionName purpose) = some item := by
            rw [removedItem, if_neg hsent, hitem, Option.filter_some, if_pos]
            simpa using hkey
          refine Machine.reaches_mono ?_
            (deleteStatusItem_reaches (d.setKeys d.keys.openRequest) item)
          rintro s op ⟨rfl, hpurpose⟩
          exact ⟨item, hremoved, hpurpose, rfl⟩
  · exact Machine.reaches_refl _

theorem queueFileMeta_reaches (d : Device) (remoteOnion : String) {task : FileTask}
    (messageID : Nat) (honion : task.onionName = remoteOnion) :
    fileMachine.Reaches (FileState.Hands P task) d.files
      (d.queueFileMeta P env remoteOnion task messageID).files := by
  rw [queueFileMeta]
  dsimp only
  split
  · exact FileState.reaches_op (.startRegister (task.setStatus .notStart))
      ⟨.notStart, rfl, .inl rfl⟩
  · rename_i statusItem hitem
    split
    · exact Machine.reaches_refl _
    · rename_i sharedKey hkey
      refine FileState.reaches_op_then (.queue
        [metaItem P env remoteOnion statusItem.socket sharedKey task messageID])
        (noPieces_metaItem _ _ _ _ _) (FileState.reaches_op (.startRegister task)
          ⟨task.status, rfl, .inr ⟨_, List.mem_append_right _ List.mem_cons_self, ?_⟩⟩)
      exact ⟨honion.symm, env.ambient 0, sharedKey, messageID, rfl⟩

theorem files_reput (d : Device) (item : MessageItem (Option Cell)) :
    (d.reput item).files = d.files := by
  have htext : (d.failText item).files = d.files := by
    rw [failText]
    split
    · rfl
    · rfl
  rw [reput]
  split
  · rfl
  · dsimp only
    split
    · split
      · exact htext
      · exact htext
    · exact htext

theorem write_files (d : Device) : (d.write env).files = d.files.step .dequeue := by
  rw [write]
  split
  · rename_i hqueue
    rw [FileState.step, files, hqueue, List.tail_nil]
  · rename_i item rest hqueue
    have hdequeue : d.files.step .dequeue = { d.files with sendQueue := rest } := by
      rw [FileState.step, files, hqueue, List.tail_cons]
    rw [hdequeue]
    dsimp only
    split
    · exact files_reput _ item
    · split
      · rfl
      · exact files_reput _ item

theorem step_files_reaches {d : Device} (hk : d.files.Keyed) (hn : d.conns.Named) (e : Event) :
    fileMachine.Reaches (d.FilePermitted P env e) d.files (d.step P env e).files := by
  cases e with
  | accept socket => exact Machine.reaches_refl _
  | receiveCell socket cell => exact receiveCell_files_reaches d socket cell
  | hangUp socket =>
    rw [step, hangUp]
    split
    · exact Machine.reaches_refl _
    · rename_i t htransport
      exact endTransport_reaches (e := .hangUp socket) htransport (fun item hitem => hitem)
  | connect onionName purpose socket =>
    rw [step, connect]
    split
    · exact Machine.reaches_refl _
    · exact Machine.reaches_refl _
  | startHandShake onionName purpose =>
    rw [step]
    exact startHandShakeProcess_reaches d onionName purpose
  | read => exact read_files_reaches hk hn
  | write =>
    rw [step, write_files]
    exact FileState.reaches_op .dequeue rfl
  | sendText messageContent remoteOnion messageID =>
    rw [step, handleTextMessageSend]
    split
    · exact Machine.reaches_refl _
    · split
      · exact Machine.reaches_refl _
      · rename_i sharedKey hkey
        refine FileState.reaches_op (.queue _) ⟨_, rfl, ?_⟩
        intro i hi
        have hdata : i.data = Message.packDataPayload
            (d.keys.textPayload P (env.ambient 0) messageContent messageID) (some sharedKey) := by
          rw [List.mem_singleton.mp hi]
        exact noPieces_text hdata
  | sendFile fileFullPath content remoteOnion messageID =>
    exact queueFileMeta_reaches d remoteOnion messageID rfl
  | sendBytes fileFullPath bitmapBytes remoteOnion messageID =>
    exact queueFileMeta_reaches d remoteOnion messageID rfl
  | register position =>
    rw [step, registerTask]
    split
    · exact Machine.reaches_refl _
    · rename_i task htask
      have hregister : d.files.step (.register position) = { d.files with
          senderFileMap := d.senderFileMap.put task.fileName task
          registering := d.registering.eraseIdx position } := by
        rw [FileState.step]
        simp only [files, htask]
      have hreaches : fileMachine.Reaches (d.FilePermitted P env (.register position)) d.files
          (d.files.step (.register position)) := FileState.reaches_op (.register position) rfl
      rw [hregister] at hreaches
      exact hreaches
  | tryResendAll => exact tryResendAll_reaches _ d hk hn

variable (P) in
def handedTask (d : Device) : Event → Option FileTask
  | .sendFile fileFullPath content remoteOnion messageID =>
      some (FileTask.ofFile P d.keys.keyFile remoteOnion fileFullPath content messageID)
  | .sendBytes fileFullPath bitmapBytes remoteOnion messageID =>
      some (FileTask.ofBitmap P d.keys.keyFile remoteOnion fileFullPath bitmapBytes messageID)
  | _ => none

theorem admits_filePermitted {Q R : FileTask → Prop} {d : Device} {e : Event} {s : FileState}
    {op : FileOp} (hQ : ∀ task status, Q task → Q (FileTask.setStatus task status))
    (hR : ∀ task status, R task → R (FileTask.setStatus task status)) (h : s.All Q R)
    (hhanded : ∀ task ∈ d.handedTask P e, R task)
    (hread : e = .read → d.ReadPermitted P s op → s.Admits Q R op)
    (hop : d.FilePermitted P env e s op) : s.Admits Q R op := by
  have hstops (hstop : d.Stops env e op) : s.Admits Q R op := by
    obtain ⟨item, -, -, rfl⟩ := hstop
    exact fun fileName task hget => hQ task .stop (h.1 fileName task hget)
  cases e with
  | accept socket => exact absurd hop id
  | connect onionName purpose socket => exact absurd hop id
  | receiveCell socket cell => exact hstops hop
  | hangUp socket => exact hstops hop
  | startHandShake onionName purpose => exact hstops hop
  | read => exact hread rfl hop
  | write =>
    obtain rfl := hop
    exact trivial
  | sendText messageContent remoteOnion messageID =>
    obtain ⟨items, rfl, -⟩ := hop
    exact trivial
  | sendFile fileFullPath content remoteOnion messageID =>
    exact FileState.admits_hands hR (hhanded _ rfl) hop
  | sendBytes fileFullPath bitmapBytes remoteOnion messageID =>
    exact FileState.admits_hands hR (hhanded _ rfl) hop
  | register position =>
    obtain rfl := hop
    exact trivial
  | tryResendAll => exact FileState.admits_resumes hQ h hop

def Sound (d : Device) : Prop := d.files.Keyed ∧ d.conns.Named

theorem sound_step {d : Device} (h : d.Sound) (e : Event) : (d.step P env e).Sound :=
  ⟨FileState.keyed_of_reaches h.1 (step_files_reaches h.1 h.2 e), named_deviceStep h.2 e⟩

def machine (P : Platform) : Machine Device (Env × Event) :=
  ⟨fun d e => d.step P e.1 e.2⟩

theorem sound_run {d : Device} (h : d.Sound) (events : List (Env × Event)) :
    ((machine P).run d events).Sound :=
  (machine P).run_invariant (I := Sound) (fun _ e hd => sound_step hd e.2) events h

end Device

end TorChat
