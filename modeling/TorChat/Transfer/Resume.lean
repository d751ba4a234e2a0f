import TorChat.Transfer.Isolation
import TorChat.Transfer.Chunking

namespace TorChat

open Library (Bytes HashMap Machine)

namespace FileTask

-- what the constructors fill in and no setter takes away again
def Built (task : FileTask) : Prop :=
  match task.direction with
  | .send => task.messageID.isSome ∧
      ∀ n < task.totalPieceNumber.toNat, (task.filePieceContentMap.get? n).isSome
  | .recieve => task.messageID = none

theorem built_ofFile (P : Platform) (keyFile : Bytes) (onionName filePath : String)
    (content : Bytes) (messageID : Nat) :
    (ofFile P keyFile onionName filePath content messageID).Built :=
  ⟨rfl, fun _ hn => cutFile_holds _ hn⟩

theorem built_ofBitmap (P : Platform) (keyFile : Bytes) (onionName filePath : String)
    (bitmapBytes : Bytes) (messageID : Nat) :
    (ofBitmap P keyFile onionName filePath bitmapBytes messageID).Built :=
  ⟨rfl, fun _ hn => cutBitmap_holds _ hn⟩

theorem built_recievePieceData {task : FileTask} (h : task.Built) (pieceID : Nat)
    (content : Bytes) : (task.recievePieceData pieceID content).Built := by
  rw [Built] at h ⊢
  have hdirection : (task.recievePieceData pieceID content).direction = task.direction := rfl
  rw [hdirection]
  cases hd : task.direction with
  | send =>
    rw [hd] at h
    refine ⟨h.1, fun n hn => ?_⟩
    have hput : (task.recievePieceData pieceID content).filePieceContentMap =
        task.filePieceContentMap.put pieceID content := rfl
    rw [hput, HashMap.get?_put]
    split
    · rfl
    · exact h.2 n hn
  | recieve =>
    rw [hd] at h
    exact h

def Waits (peer : String) (task : FileTask) : Prop :=
  task.onionName = peer ∧ task.direction = .recieve ∧ task.status = .stop

instance (peer : String) (task : FileTask) : Decidable (task.Waits peer) :=
  inferInstanceAs (Decidable (_ ∧ _ ∧ _))

def resumed (peer : String) (task : FileTask) : FileTask :=
  if task.onionName = peer then
    match task.direction, task.status with
    | .send, .notStart => task
    | .send, _ => task.setStatus .transferrring
    | .recieve, .stop => task.setStatus .ckSend
    | .recieve, _ => task
  else task

end FileTask

namespace ConnectionItems

theorem getConnByPurpose_keyed {connection : ConnectionItems}
    (h : ∃ item ∈ connection, item.shareKey.isSome) (purpose : Nat) :
    ∃ found sharedKey, connection.getConnByPurpose purpose = some found ∧
      found.shareKey = some sharedKey := by
  obtain ⟨item, hmem, hkey⟩ := h
  have hlisted : item ∈ connection.filter (fun item => item.shareKey.isSome) :=
    List.mem_filter.mpr ⟨hmem, hkey⟩
  rw [getConnByPurpose]
  split
  · rename_i found hfind
    have hfound := List.find?_some hfind
    rw [Bool.and_eq_true] at hfound
    obtain ⟨sharedKey, hshare⟩ := Option.isSome_iff_exists.mp hfound.2
    exact ⟨found, sharedKey, rfl, hshare⟩
  · split
    · rename_i found hlast
      have hfound := (List.mem_filter.mp (List.mem_of_getLast? hlast)).2
      obtain ⟨sharedKey, hshare⟩ := Option.isSome_iff_exists.mp hfound
      exact ⟨found, sharedKey, rfl, hshare⟩
    · rename_i hlast
      rw [List.getLast?_eq_none_iff.mp hlast] at hlisted
      exact absurd hlisted List.not_mem_nil

end ConnectionItems

namespace Resume

section Statement

variable (P : Platform)

-- the file that a 'ck' cell asks for
def ckHash (i : MessageItem (Option Cell)) : Option Bytes :=
  match i.data with
  | some (.data _ plain) =>
      if Message.parseMessageType plain = some Constant.dataAck then do
        let internalPayload ← Message.parseExternalPaylod P plain
        let message ← DataMessage.parseACKDataMessage internalPayload
        if message.messageType > 0 ∧ message.ackok = Constant.dataCkContent then
          some message.messageHash
        else none
      else none
  | _ => none

def IsPiece (i : MessageItem (Option Cell)) (task : FileTask) (n : Nat) : Prop :=
  ∃ (amb : Ambient) (keys : KeyState) (sharedKey : Bytes) (messageID : Nat) (fileContent : Bytes),
    task.filePieceContentMap.get? n = some fileContent ∧
      i.data = FileMessage.buildFileDataMessage P amb keys (some sharedKey) task.fileNameHash n
        fileContent messageID

-- what a send task of the peer is owed: its META again, or every piece not yet acknowledged
def Served (peer : String) (items : List (MessageItem (Option Cell))) (task : FileTask) : Prop :=
  task.onionName = peer → task.direction = .send →
    if task.status = .notStart then ∃ i ∈ items, FileTask.Announces P i task
    else ∀ n < task.totalPieceNumber.toNat, n ∉ task.fileTransferStatusMap →
      ∃ i ∈ items, i.onionName = peer ∧ IsPiece P i task n

structure Total (peer : String) (d : Device) (result : Device × Bool) : Prop where
  completes : result.2 = true
  queue : ∃ items, result.1.sendQueue = d.sendQueue ++ items ∧
    items.filterMap (ckHash P) =
      (d.senderFileMap.values.filter (fun task => task.Waits peer)).map
        (fun task => task.fileNameHash) ∧
    ∀ task ∈ d.senderFileMap.values, Served P peer items task
  tasks : ∀ name, result.1.senderFileMap.get? name =
    (d.senderFileMap.get? name).map (fun task => task.resumed peer)

structure Started (d : Device) : Prop where
  noTasks : d.senderFileMap = ∅
  noCalls : d.registering = []
  named : d.conns.Named

def HasKey (d : Device) (peer : String) : Prop :=
  ∃ items, d.conns.allConByOnionName.get? peer = some items ∧
    ∃ item ∈ items, item.shareKey.isSome

end Statement

section Invariant

variable {P : Platform}

theorem built_handed {d : Device} {e : Device.Event} :
    ∀ task ∈ d.handedTask P e, task.Built := by
  intro task htask
  cases e with
  | sendFile fileFullPath content remoteOnion messageID =>
    obtain rfl := Option.some.inj htask
    exact FileTask.built_ofFile P _ _ _ _ _
  | sendBytes fileFullPath bitmapBytes remoteOnion messageID =>
    obtain rfl := Option.some.inj htask
    exact FileTask.built_ofBitmap P _ _ _ _ _
  | _ => cases htask

theorem admits_data {d : Device} {item : MessageItem Bytes} {s : FileState} {op : FileOp}
    (h : s.All FileTask.Built FileTask.Built) (hop : d.DataPermitted P item s op) :
    s.Admits FileTask.Built FileTask.Built op := by
  cases op with
  | mark fileName status => exact fun task hget => h.1 fileName task hget
  | recievePiece fileName pieceID fileContent =>
    exact fun task hget => FileTask.built_recievePieceData (h.1 fileName task hget) _ _
  | acknowledge fileName pieceID => exact fun task hget => h.1 fileName task hget
  | put task =>
    obtain ⟨announced, hannounced, rfl⟩ := hop
    obtain ⟨-, fileName, fileSize, contentHash, rfl⟩ := Device.announced_ofMeta hannounced
    exact rfl
  | remove fileName => exact trivial
  | queue items => exact trivial
  | stopTasks onionName => exact absurd hop id
  | dequeue => exact absurd hop id
  | startRegister task => exact absurd hop id
  | register position => exact absurd hop id

theorem admits_permitted {d : Device} {env : Env} {e : Device.Event} {s : FileState} {op : FileOp}
    (h : s.All FileTask.Built FileTask.Built) (hop : d.FilePermitted P env e s op) :
    s.Admits FileTask.Built FileTask.Built op := by
  refine Device.admits_filePermitted (fun _ _ ht => ht) (fun _ _ ht => ht) h built_handed ?_ hop
  rintro - ⟨item, rest, -, ⟨-, hresumes⟩ | ⟨-, hdata⟩⟩
  · exact FileState.admits_resumes (fun _ _ ht => ht) h hresumes
  · exact admits_data h hdata

theorem built_step {d : Device} {env : Env} (hs : d.Sound)
    (h : d.files.All FileTask.Built FileTask.Built) (e : Device.Event) :
    (d.step P env e).files.All FileTask.Built FileTask.Built :=
  (Machine.reaches_invariant (I := fun s => s.Keyed ∧ s.All FileTask.Built FileTask.Built)
    (fun s op hq hop => ⟨FileState.keyed_step s op hq.1,
      FileState.all_step hq.1 (fun _ ht => ht) hq.2 (admits_permitted hq.2 hop)⟩)
    (Device.step_files_reaches hs.1 hs.2 e) ⟨hs.1, h⟩).2

theorem built_run {d : Device} (hd : Started d) (events : List (Env × Device.Event)) :
    ((Device.machine P).run d events).Sound ∧
      ((Device.machine P).run d events).files.All FileTask.Built FileTask.Built := by
  refine (Device.machine P).run_invariant
    (I := fun d => d.Sound ∧ d.files.All FileTask.Built FileTask.Built)
    (fun q e hq => ⟨Device.sound_step hq.1 e.2, built_step hq.1 hq.2 e.2⟩) events
    ⟨⟨FileState.keyed_of_empty hd.noTasks, hd.named⟩, ?_, ?_⟩
  · intro fileName task hget
    rw [show d.files.senderFileMap = ∅ from hd.noTasks] at hget
    cases hget
  · intro task htask
    rw [show d.files.registering = [] from hd.noCalls] at htask
    cases htask

end Invariant

section Cells

variable {P : Platform} {env : Env}

theorem ckHash_of_messageType {i : MessageItem (Option Cell)}
    (h : i.messageType ≠ some Constant.dataAck) : ckHash P i = none := by
  rw [ckHash]
  split
  · rename_i sharedKey plain hdata
    rw [MessageItem.messageType, hdata] at h
    exact if_neg h
  · rfl

theorem ckHash_packed {n id length : Nat} {amb : Ambient} {internalPayload pointers : Bytes}
    {sharedKey : Option Bytes} {i : MessageItem (Option Cell)} (hn : n < 256)
    (hne : n ≠ Constant.dataAck)
    (hdata : i.data = Message.packDataPayload (Message.externalPayload P amb n id internalPayload
      pointers length) sharedKey) : ckHash P i = none :=
  ckHash_of_messageType (fun htype =>
    hne (MessageItem.messageType_packDataPayload hn hdata htype).symm)

theorem ckHash_meta {amb : Ambient} {sharedKey : Option Bytes} {fileName : String}
    {fileSize messageID : Nat} {contentHash : Bytes} {i : MessageItem (Option Cell)}
    (hdata : i.data = FileMessage.buildFileMetaMessage P amb sharedKey fileName fileSize
      contentHash messageID) : ckHash P i = none := by
  rw [FileMessage.buildFileMetaMessage] at hdata
  exact ckHash_packed (by decide) (by decide) hdata

theorem ckHash_piece {amb : Ambient} {keys : KeyState} {sharedKey : Option Bytes}
    {fileNameHash fileContent : Bytes} {n messageID : Nat} {i : MessageItem (Option Cell)}
    (hdata : i.data = FileMessage.buildFileDataMessage P amb keys sharedKey fileNameHash n
      fileContent messageID) : ckHash P i = none := by
  rw [FileMessage.buildFileDataMessage, FileMessage.createFileMessage] at hdata
  exact ckHash_packed (by decide) (by decide) hdata

theorem pieceItems_complete (build : Nat → Bytes → MessageItem (Option Cell))
    {pieces : HashMap Nat Bytes} {is : List Nat} (h : ∀ i ∈ is, (pieces.get? i).isSome) :
    (Device.pieceItems build pieces is).2 = true ∧
      ∀ i ∈ is, ∃ fileContent, pieces.get? i = some fileContent ∧
        build i fileContent ∈ (Device.pieceItems build pieces is).1 := by
  induction is with
  | nil => exact ⟨rfl, fun i hi => absurd hi List.not_mem_nil⟩
  | cons first is ih =>
    obtain ⟨hcomplete, hbuilt⟩ := ih (fun i hi => h i (List.mem_cons_of_mem first hi))
    obtain ⟨fileContent, hget⟩ := Option.isSome_iff_exists.mp (h first List.mem_cons_self)
    rw [Device.pieceItems, hget]
    refine ⟨hcomplete, fun i hi => ?_⟩
    rcases List.mem_cons.mp hi with rfl | hrest
    · exact ⟨fileContent, hget, List.mem_cons_self⟩
    · obtain ⟨content, hcontent, hmem⟩ := hbuilt i hrest
      exact ⟨content, hcontent, List.mem_cons_of_mem _ hmem⟩

end Cells

section Walk

variable {P : Platform} {env : Env} {peer : String} {conn : ConnectionStatusItem}
  {sharedKey : Bytes}

structure Serves (P : Platform) (peer : String) (tasks : List FileTask) (d : Device)
    (result : Device × Bool) (items : List (MessageItem (Option Cell))) : Prop where
  completes : result.2 = true
  queue : result.1.sendQueue = d.sendQueue ++ items
  noCk : ∀ i ∈ items, ckHash P i = none
  served : ∀ task ∈ tasks, Served P peer items task
  resumed : ∀ task ∈ tasks, result.1.senderFileMap.get? task.fileName = some (task.resumed peer)
  others : ∀ name, name ∉ tasks.map (fun task => task.fileName) →
    result.1.senderFileMap.get? name = d.senderFileMap.get? name

theorem served_mono {items more : List (MessageItem (Option Cell))} {task : FileTask}
    (hsub : ∀ i ∈ items, i ∈ more) (h : Served P peer items task) :
    Served P peer more task := by
  intro honion hsend
  have hserved := h honion hsend
  split
  · rename_i hstatus
    rw [if_pos hstatus] at hserved
    obtain ⟨i, hi, hannounces⟩ := hserved
    exact ⟨i, hsub i hi, hannounces⟩
  · rename_i hstatus
    rw [if_neg hstatus] at hserved
    intro n hn hmissing
    obtain ⟨i, hi, hpiece⟩ := hserved n hn hmissing
    exact ⟨i, hsub i hi, hpiece⟩

theorem serves_nil (d : Device) : Serves P peer [] d (d, true) [] where
  completes := rfl
  queue := (List.append_nil _).symm
  noCk := fun _ hi => absurd hi List.not_mem_nil
  served := fun _ htask => absurd htask List.not_mem_nil
  resumed := fun _ htask => absurd htask List.not_mem_nil
  others := fun _ _ => rfl

theorem serves_cons {task : FileTask} {tasks : List FileTask} {d d' : Device} {done : Bool}
    {result : Device × Bool} {items items' : List (MessageItem (Option Cell))}
    (hname : task.fileName ∉ tasks.map (fun task => task.fileName))
    (hfirst : Serves P peer [task] d (d', done) items)
    (hrest : Serves P peer tasks d' result items') :
    Serves P peer (task :: tasks) d result (items ++ items') where
  completes := hrest.completes
  queue := by rw [hrest.queue, hfirst.queue, List.append_assoc]
  noCk := by
    intro i hi
    rcases List.mem_append.mp hi with hold | hnew
    · exact hfirst.noCk i hold
    · exact hrest.noCk i hnew
  served := by
    intro t ht
    rcases List.mem_cons.mp ht with rfl | hlater
    · exact served_mono (fun i hi => List.mem_append_left _ hi)
        (hfirst.served t List.mem_cons_self)
    · exact served_mono (fun i hi => List.mem_append_right _ hi) (hrest.served t hlater)
  resumed := by
    intro t ht
    rcases List.mem_cons.mp ht with rfl | hlater
    · rw [hrest.others t.fileName hname]
      exact hfirst.resumed t List.mem_cons_self
    · exact hrest.resumed t hlater
  others := by
    intro name hother
    rw [List.map_cons, List.mem_cons, not_or] at hother
    rw [hrest.others name hother.2]
    refine hfirst.others name (fun hmem => hother.1 ?_)
    exact List.mem_singleton.mp hmem

theorem serves_unchanged {d : Device} {task : FileTask} {items : List (MessageItem (Option Cell))}
    (hget : d.senderFileMap.get? task.fileName = some task) (hsame : task.resumed peer = task)
    (hnoCk : ∀ i ∈ items, ckHash P i = none) (hserved : Served P peer items task) :
    Serves P peer [task] d (d.enqueue items, true) items where
  completes := rfl
  queue := rfl
  noCk := hnoCk
  served := fun t ht => (List.mem_singleton.mp ht).symm ▸ hserved
  resumed := by
    intro t ht
    rw [List.mem_singleton.mp ht, hsame]
    exact hget
  others := fun _ _ => rfl

theorem serves_nothing {d : Device} {task : FileTask}
    (hget : d.senderFileMap.get? task.fileName = some task) (hsame : task.resumed peer = task)
    (hserved : Served P peer [] task) : Serves P peer [task] d (d, true) [] := by
  have hnone := serves_unchanged hget hsame (fun _ hi => absurd hi List.not_mem_nil) hserved
  rw [Device.enqueue, List.append_nil] at hnone
  exact hnone

theorem served_of_recieve {items : List (MessageItem (Option Cell))} {task : FileTask}
    (h : task.direction = .recieve) : Served P peer items task := by
  intro _ hsend
  cases h.symm.trans hsend

theorem resend_serves {d : Device} {task : FileTask} {messageID : Nat} (hk : d.files.Keyed)
    (hget : d.senderFileMap.get? task.fileName = some task) (honion : task.onionName = peer)
    (hsend : task.direction = .send) (hstatus : task.status ≠ .notStart)
    (hpieces : ∀ n < task.totalPieceNumber.toNat, (task.filePieceContentMap.get? n).isSome)
    (hconn : conn.onionName = peer) (hkey : conn.shareKey = some sharedKey) :
    ∃ items, Serves P peer [task] d ((d.modifyTask task (fun t => t.setStatus .transferrring)
      ).resend P env task conn messageID) items := by
  have hmissing : ∀ n ∈ (List.range task.totalPieceNumber.toNat).filter
      (fun i => i ∉ task.fileTransferStatusMap), (task.filePieceContentMap.get? n).isSome :=
    fun n hn => hpieces n (List.mem_range.mp (List.mem_filter.mp hn).1)
  obtain ⟨hcomplete, hbuilt⟩ := pieceItems_complete (Device.pieceItem P env d.keys conn.onionName
    conn.socket none (some sharedKey) task.fileNameHash messageID) hmissing
  have hmap := FileState.get?_modify_of_keyed hk task.fileName
  have hresumed : task.resumed peer = task.setStatus .transferrring := by
    rw [FileTask.resumed, if_pos honion, hsend]
    cases hs : task.status with
    | notStart => exact absurd hs hstatus
    | _ => rfl
  rw [Device.resend, hkey]
  refine ⟨_, hcomplete, rfl, ?_, ?_, ?_, ?_⟩
  · intro i hi
    obtain ⟨n, fileContent, -, rfl⟩ := Device.mem_pieceItems hi
    exact ckHash_piece (show _ = FileMessage.buildFileDataMessage P (env.ambient n) d.keys
      (some sharedKey) task.fileNameHash n fileContent messageID from rfl)
  · intro t ht
    obtain rfl := List.mem_singleton.mp ht
    intro _ _
    rw [if_neg hstatus]
    intro n hn hnew
    obtain ⟨fileContent, hcontent, hmem⟩ := hbuilt n (List.mem_filter.mpr
      ⟨List.mem_range.mpr hn, decide_eq_true hnew⟩)
    exact ⟨_, hmem, hconn, env.ambient n, d.keys, sharedKey, messageID, fileContent, hcontent, rfl⟩
  · intro t ht
    rw [List.mem_singleton.mp ht, hresumed]
    have hown := hmap task.fileName (fun t => t.setStatus .transferrring)
    rw [if_pos rfl] at hown
    exact hown.trans (congrArg (Option.map _) hget)
  · intro name hother
    have hname : name ≠ task.fileName := fun hname => hother (List.mem_singleton.mpr hname)
    have hkept := hmap name (fun t => t.setStatus .transferrring)
    rw [if_neg hname] at hkept
    exact hkept

variable (P env) in
theorem resendTask_serves {d : Device} {task : FileTask} (hk : d.files.Keyed)
    (hget : d.senderFileMap.get? task.fileName = some task) (hbuilt : task.Built)
    (hwaits : ¬ task.Waits peer) (hconn : conn.onionName = peer)
    (hkey : conn.shareKey = some sharedKey) :
    ∃ items, Serves P peer [task] d (d.resendTask P env peer conn sharedKey task) items := by
  rw [Device.resendTask]
  by_cases honion : task.onionName = peer
  · rw [if_neg (not_not.mpr honion)]
    rw [FileTask.Built] at hbuilt
    cases hdirection : task.direction with
    | send =>
      rw [hdirection] at hbuilt
      obtain ⟨messageID, hid⟩ := Option.isSome_iff_exists.mp hbuilt.1
      by_cases hstatus : task.status = .notStart
      · dsimp only
        rw [if_pos hstatus, hid]
        refine ⟨_, serves_unchanged hget ?_ ?_ ?_⟩
        · rw [FileTask.resumed, if_pos honion, hdirection, hstatus]
        · intro i hi
          rw [List.mem_singleton.mp hi]
          exact ckHash_meta (Device.data_metaItem peer conn.socket sharedKey task messageID)
        · intro _ _
          rw [if_pos hstatus]
          exact ⟨_, List.mem_cons_self, honion.symm, env.ambient 0, sharedKey, messageID, rfl⟩
      · dsimp only
        rw [if_neg hstatus, hid]
        exact resend_serves hk hget honion hdirection hstatus hbuilt.2 hconn hkey
    | recieve =>
      have hstatus : task.status ≠ .stop := fun hs => hwaits ⟨honion, hdirection, hs⟩
      dsimp only
      rw [if_neg hstatus]
      refine ⟨[], serves_nothing hget ?_ (served_of_recieve hdirection)⟩
      rw [FileTask.resumed, if_pos honion, hdirection]
      cases hs : task.status with
      | stop => exact absurd hs hstatus
      | _ => rfl
  · rw [if_pos honion]
    refine ⟨[], serves_nothing hget ?_ (fun hpeer => absurd hpeer honion)⟩
    rw [FileTask.resumed, if_neg honion]

variable (P env) in
theorem resendTasks_serves {tasks : List FileTask} {d : Device} (hk : d.files.Keyed)
    (hnames : (tasks.map (fun task => task.fileName)).Nodup)
    (hget : ∀ task ∈ tasks, d.senderFileMap.get? task.fileName = some task)
    (hfine : ∀ task ∈ tasks, task.Built ∧ ¬ task.Waits peer) (hconn : conn.onionName = peer)
    (hkey : conn.shareKey = some sharedKey) :
    ∃ items, Serves P peer tasks d (Device.resendTasks P env peer conn sharedKey tasks d)
      items := by
  induction tasks generalizing d with
  | nil => exact ⟨[], serves_nil d⟩
  | cons task tasks ih =>
    have hown := hget task List.mem_cons_self
    obtain ⟨hbuilt, hwaits⟩ := hfine task List.mem_cons_self
    obtain ⟨items, hfirst⟩ := resendTask_serves P env hk hown hbuilt hwaits hconn hkey
    rw [List.map_cons, List.nodup_cons] at hnames
    have hkeyed : (d.resendTask P env peer conn sharedKey task).1.files.Keyed :=
      FileState.keyed_of_reaches hk (Device.resendTask_reaches hk
        ⟨task, hown, task.restatus_refl⟩ hconn)
    have hlater : ∀ t ∈ tasks, (d.resendTask P env peer conn sharedKey task
        ).1.senderFileMap.get? t.fileName = some t := by
      intro t ht
      rw [hfirst.others t.fileName ?_]
      · exact hget t (List.mem_cons_of_mem task ht)
      · intro hmem
        have hname : t.fileName = task.fileName := List.mem_singleton.mp hmem
        exact hnames.1 (hname ▸ List.mem_map.mpr ⟨t, ht, rfl⟩)
    obtain ⟨items', hrest⟩ := ih hkeyed hnames.2 hlater
      (fun t ht => hfine t (List.mem_cons_of_mem task ht))
    have hcompletes := hfirst.completes
    rw [Device.resendTasks]
    generalize d.resendTask P env peer conn sharedKey task = result at *
    obtain ⟨d', complete⟩ := result
    obtain rfl : complete = true := hcompletes
    exact ⟨items ++ items', serves_cons hnames.1 hfirst hrest⟩

theorem resendTask_waits {d : Device} {task : FileTask} (hwaits : task.Waits peer)
    (hid : task.messageID = none) :
    (d.resendTask P env peer conn sharedKey task).2 = false := by
  obtain ⟨honion, hdirection, hstatus⟩ := hwaits
  rw [Device.resendTask, if_neg (not_not.mpr honion), hdirection]
  dsimp only
  rw [if_pos hstatus, hid]

-- one waiting receive task ends the walk, wherever it stands in the map
theorem resendTasks_waits {tasks : List FileTask} {d : Device} {task : FileTask}
    (hmem : task ∈ tasks) (hwaits : task.Waits peer) (hid : task.messageID = none) :
    (Device.resendTasks P env peer conn sharedKey tasks d).2 = false := by
  induction tasks generalizing d with
  | nil => exact absurd hmem List.not_mem_nil
  | cons first tasks ih =>
    rw [Device.resendTasks]
    split
    · rename_i d' hfirst
      rcases List.mem_cons.mp hmem with rfl | hlater
      · have hstuck : (d.resendTask P env peer conn sharedKey task).2 = false :=
          resendTask_waits hwaits hid
        rw [hfirst] at hstuck
        cases hstuck
      · exact ih hlater
    · rfl

end Walk

section Calls

variable {P : Platform} {env : Env} {peer : String} {d : Device}

variable (P env peer) in
theorem resendTexts_noCk (d : Device) :
    ∃ texts, (d.resendTexts P env peer).sendQueue = d.sendQueue ++ texts ∧
      (∀ i ∈ texts, ckHash P i = none) ∧
      (d.resendTexts P env peer).senderFileMap = d.senderFileMap := by
  rw [Device.resendTexts]
  split
  · refine ⟨_, rfl, ?_, rfl⟩
    intro i hi
    obtain ⟨n, hn, rfl⟩ := List.mem_mapIdx.mp hi
    exact ckHash_packed (n := Constant.dataMessage) (by decide) (by decide) rfl
  · exact ⟨[], (List.append_nil _).symm, fun _ hi => absurd hi List.not_mem_nil, rfl⟩

theorem keyed_connection (hkey : HasKey d peer) :
    ∃ conn sharedKey, d.conns.getConnectionStatusItemByOnionName peer
      Constant.socketPurposeFile = some conn ∧ conn.shareKey = some sharedKey := by
  obtain ⟨items, hitems, hkeyed⟩ := hkey
  obtain ⟨conn, sharedKey, hfound, hshare⟩ := ConnectionItems.getConnByPurpose_keyed hkeyed
    Constant.socketPurposeFile
  exact ⟨conn, sharedKey, by
    rw [Connections.getConnectionStatusItemByOnionName, hitems, Option.bind_some, hfound], hshare⟩

theorem tryResend_eq {conn : ConnectionStatusItem} {sharedKey : Bytes}
    (hfound : d.conns.getConnectionStatusItemByOnionName peer Constant.socketPurposeFile =
      some conn) (hkey : conn.shareKey = some sharedKey) :
    d.tryResend P env peer = Device.resendTasks P env peer conn sharedKey d.senderFileMap.values
      (d.resendTexts P env peer) := by
  obtain ⟨texts, -, -, hmap⟩ := resendTexts_noCk P env peer d
  rw [Device.tryResend, Device.conns_resendTexts, hfound]
  dsimp only
  rw [hkey, hmap]

theorem names_nodup (hk : d.files.Keyed) :
    (d.senderFileMap.values.map (fun task => task.fileName)).Nodup := by
  have hkeys : d.senderFileMap.values.map (fun task => task.fileName) =
      d.senderFileMap.keys := by
    rw [HashMap.values, List.map_map]
    refine List.map_congr_left ?_
    intro e he
    exact hk e.1 e.2 (HashMap.get?_eq_some_iff.mpr he)
  rw [hkeys]
  exact d.senderFileMap.keys_nodup

theorem tryResend_total (hs : d.Sound) (hkey : HasKey d peer)
    (hbuilt : ∀ task ∈ d.senderFileMap.values, task.Built)
    (hnone : ∀ task ∈ d.senderFileMap.values, ¬ task.Waits peer) :
    Total P peer d (d.tryResend P env peer) := by
  obtain ⟨conn, sharedKey, hfound, hshare⟩ := keyed_connection hkey
  obtain ⟨texts, hqueue, htexts, hmap⟩ := resendTexts_noCk P env peer d
  have hkeyed : (d.resendTexts P env peer).files.Keyed := by
    intro name task hget
    rw [show (d.resendTexts P env peer).files.senderFileMap = d.senderFileMap from hmap] at hget
    exact hs.1 name task hget
  have hstored : ∀ task ∈ d.senderFileMap.values,
      (d.resendTexts P env peer).senderFileMap.get? task.fileName = some task := by
    intro task htask
    obtain ⟨name, hget⟩ := HashMap.mem_values.mp htask
    rw [hmap, show task.fileName = name from hs.1 name task hget]
    exact hget
  rw [tryResend_eq hfound hshare]
  obtain ⟨items, hserves⟩ := resendTasks_serves P env hkeyed (names_nodup hs.1) hstored
    (fun task htask => ⟨hbuilt task htask, hnone task htask⟩)
    (Connections.onionName_of_named_purpose hs.2 hfound) hshare
  refine ⟨hserves.completes, ⟨texts ++ items, ?_, ?_, ?_⟩, ?_⟩
  · rw [hserves.queue, hqueue, List.append_assoc]
  · have hwaiting : d.senderFileMap.values.filter (fun task => task.Waits peer) = [] := by
      rw [List.filter_eq_nil_iff]
      intro task htask
      rw [decide_eq_true_eq]
      exact hnone task htask
    rw [hwaiting, List.map_nil, List.filterMap_eq_nil_iff]
    intro i hi
    rcases List.mem_append.mp hi with htext | hitem
    · exact htexts i htext
    · exact hserves.noCk i hitem
  · intro task htask
    exact served_mono (fun i hi => List.mem_append_right _ hi) (hserves.served task htask)
  · intro name
    cases hget : d.senderFileMap.get? name with
    | none =>
      rw [hserves.others name (fun hname => ?_), hmap, hget]
      · rfl
      · obtain ⟨task, htask, rfl⟩ := List.mem_map.mp hname
        rw [← hmap, hstored task htask] at hget
        cases hget
    | some task =>
      have htask : task ∈ d.senderFileMap.values := HashMap.mem_values.mpr ⟨name, hget⟩
      rw [← show task.fileName = name from hs.1 name task hget]
      exact hserves.resumed task htask

variable (P env) in
theorem tryResend_waits (hkey : HasKey d peer) {task : FileTask}
    (htask : task ∈ d.senderFileMap.values) (hbuilt : task.Built) (hwaits : task.Waits peer) :
    (d.tryResend P env peer).2 = false := by
  obtain ⟨conn, sharedKey, hfound, hshare⟩ := keyed_connection hkey
  rw [tryResend_eq hfound hshare]
  rw [FileTask.Built, hwaits.2.1] at hbuilt
  exact resendTasks_waits htask hwaits hbuilt

end Calls

theorem resume_total_iff (P : Platform) (env : Env) {d : Device} (hd : Started d)
    (events : List (Env × Device.Event)) {peer : String}
    (hkey : HasKey ((Device.machine P).run d events) peer) :
    Total P peer ((Device.machine P).run d events)
        (((Device.machine P).run d events).tryResend P env peer) ↔
      ∀ task ∈ ((Device.machine P).run d events).senderFileMap.values, ¬ task.Waits peer := by
  obtain ⟨hsound, hall⟩ := built_run (P := P) hd events
  have hbuilt : ∀ task ∈ ((Device.machine P).run d events).senderFileMap.values,
      task.Built := by
    intro task htask
    obtain ⟨name, hget⟩ := HashMap.mem_values.mp htask
    exact hall.1 name task hget
  constructor
  · intro htotal task htask hwaits
    have hstuck := tryResend_waits P env hkey htask (hbuilt task htask) hwaits
    cases htotal.completes.symm.trans hstuck
  · exact tryResend_total hsound hkey hbuilt

theorem started_twoPeers : Started TaskIsolation.twoPeers :=
  ⟨rfl, rfl, TaskIsolation.sound_twoPeers.2⟩

def sent : List (Env × Device.Event) := [({}, .sendFile "f" [7] "p1" 1000), ({}, .register 0)]

theorem resume_total_iff_sent :
    Total demoPlatform "p1" ((Device.machine demoPlatform).run TaskIsolation.twoPeers sent)
      (((Device.machine demoPlatform).run TaskIsolation.twoPeers sent).tryResend demoPlatform {}
        "p1") := by
  have hkey : HasKey ((Device.machine demoPlatform).run TaskIsolation.twoPeers sent) "p1" :=
    ⟨[TaskIsolation.established "p1" 1 [1]], by decide +kernel, _, List.mem_cons_self, rfl⟩
  exact (resume_total_iff demoPlatform {} started_twoPeers sent hkey).mpr (by decide +kernel)

def fileMeta (fileName : String) (sharedKey : Bytes) : Cell :=
  .data sharedKey (Message.externalPayload demoPlatform {} Constant.dataFileMeta 1000
    (FileMessage.metaPayload demoPlatform fileName 1 (demoPlatform.sha1 [7]))
    (FileMessage.placeholderPointer ++ FileMessage.placeholderPointer) Constant.externalDataLegth)

def announced : List (Env × Device.Event) :=
  [({}, .receiveCell 1 (fileMeta "f" [1])), ({}, .read)]

-- the peer announced a file and its connection is still keyed: the resume throws
theorem announced_file_stops_resume :
    ¬ ∀ (P : Platform) (env : Env) (d : Device), Started d →
      ∀ (events : List (Env × Device.Event)) (peer : String),
        HasKey ((Device.machine P).run d events) peer →
          Total P peer ((Device.machine P).run d events)
            (((Device.machine P).run d events).tryResend P env peer) := by
  intro h
  have hkey : HasKey ((Device.machine demoPlatform).run TaskIsolation.twoPeers announced) "p1" :=
    ⟨[{ TaskIsolation.established "p1" 1 [1] with purpose := Constant.socketPurposeFile }],
      by decide +kernel, _, List.mem_cons_self, rfl⟩
  have hstuck : (((Device.machine demoPlatform).run TaskIsolation.twoPeers announced).tryResend
      demoPlatform {} "p1").2 = false := by decide +kernel
  have htotal := h demoPlatform {} _ started_twoPeers announced "p1" hkey
  cases htotal.completes.symm.trans hstuck

end Resume

end TorChat
