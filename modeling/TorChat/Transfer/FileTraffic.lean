import TorChat.Transfer.FileCells
import TorChat.Server.Emissions

namespace TorChat

open Library (Bytes HashMap)

-- what one device does on one connection for the file of one name
namespace FileTraffic

structure Channel where
  peer : String
  socket : Nat
  sharedKey : Bytes
  keyFile : Bytes

structure Own where
  task : Option FileTask := none
  registering : List FileTask := []
  file : Option Bytes := none
  completed : Bool := false
  deriving DecidableEq

def completes (fileName : String) : Notice → Bool
  | .fileComplete name _ => name = fileName
  | _ => false

def own (fileName : String) (d : Device) : Own where
  task := d.senderFileMap.get? fileName
  registering := d.registering.filter (fun task => task.fileName = fileName)
  file := d.receiveFiles.get? fileName
  completed := d.notices.any (completes fileName)

def onSocket (socket : Nat) (xs : List (Nat × Cell)) : List Cell :=
  (xs.filter (fun x => x.1 = socket)).map (fun x => x.2)

section Statement

variable (P : Platform) (c : Channel) (fileName : String)

def nameHash : Bytes := P.sha1 (getBytes fileName)

def said (cells : List Cell) : List FileCell :=
  cells.filterMap (FileCell.heardCell P c.sharedKey (nameHash P fileName))

def sent (d : Device) : List Cell := onSocket c.socket d.written

def queuedCells (items : List (MessageItem (Option Cell))) : List Cell :=
  onSocket c.socket (Device.queued items)

def connItem (purpose : Nat) : ConnectionStatusItem :=
  { onionName := c.peer, socket := c.socket, status := 1, shareKey := some c.sharedKey
    purpose := purpose }

structure Hashed (task : FileTask) : Prop where
  hash : task.fileNameHash = P.sha1 (getBytes task.fileName)
  name : task.fileNameHash = nameHash P fileName → task.fileName = fileName

def Addressed (item : MessageItem Bytes) : Prop :=
  item.type = 1 ∧ item.onionName = c.peer ∧ item.socket = c.socket

structure Established (d : Device) : Prop where
  keyFile : d.keys.keyFile = c.keyFile
  conns : ∃ purpose, d.conns.allConByOnionName.get? c.peer = some [connItem c purpose]
  transport : ∃ t mail, d.transport c.socket = some t ∧ t.mailItem = some mail ∧
    mail.onionName = c.peer
  tasks : ∀ name task, d.senderFileMap.get? name = some task →
    task.fileName = name ∧ Hashed P fileName task
  registering : ∀ task ∈ d.registering, Hashed P fileName task
  sendQueue : ∀ item ∈ d.sendQueue, item.data.isSome
  recieveQueue : ∀ item ∈ d.recieveQueue, Addressed c item

structure Acts (d d' : Device) (out queue : List FileCell) (o : Own) : Prop where
  established : Established P c fileName d'
  inbox : d'.recieveQueue = d.recieveQueue
  out : ∃ cells, sent c d' = sent c d ++ cells ∧ said P c fileName cells = out
  queue : ∃ items, d'.sendQueue = d.sendQueue ++ items ∧
    said P c fileName (queuedCells c items) = queue
  own : own fileName d' = o

end Statement

variable {P : Platform} {c : Channel} {fileName : String} {d₀ d : Device}
  {out queue : List FileCell} {o : Own}

theorem onSocket_append (socket : Nat) (xs ys : List (Nat × Cell)) :
    onSocket socket (xs ++ ys) = onSocket socket xs ++ onSocket socket ys := by
  rw [onSocket, List.filter_append, List.map_append]
  rfl

theorem said_append (cells cells' : List Cell) :
    said P c fileName (cells ++ cells') = said P c fileName cells ++ said P c fileName cells' :=
  List.filterMap_append

theorem queuedCells_append (items items' : List (MessageItem (Option Cell))) :
    queuedCells c (items ++ items') = queuedCells c items ++ queuedCells c items' := by
  rw [queuedCells, Device.queued, List.filterMap_append]
  exact onSocket_append c.socket _ _

theorem said_onSocket_nil {xs : List (Nat × Cell)}
    (h : ∀ x ∈ xs, FileCell.heardCell P c.sharedKey (nameHash P fileName) x.2 = none) :
    said P c fileName (onSocket c.socket xs) = [] := by
  rw [said, List.filterMap_eq_nil_iff]
  intro cell hcell
  obtain ⟨x, hx, rfl⟩ := List.mem_map.mp hcell
  exact h x (List.mem_filter.mp hx).1

theorem acts_refl (h : Established P c fileName d) :
    Acts P c fileName d d [] [] (own fileName d) :=
  ⟨h, rfl, ⟨[], (List.append_nil _).symm, rfl⟩, ⟨[], (List.append_nil _).symm, rfl⟩, rfl⟩

def rest (d : Device) : Connections × List Transport × List FileTask ×
    List (MessageItem (Option Cell)) × List (MessageItem Bytes) × List (Nat × Cell) :=
  (d.conns, d.transports, d.registering, d.sendQueue, d.recieveQueue, d.written)

theorem acts_change {d' : Device} (h : Acts P c fileName d₀ d out queue o)
    (hrest : rest d' = rest d) (hkeyFile : d'.keys.keyFile = c.keyFile)
    (htasks : ∀ name task, d'.senderFileMap.get? name = some task →
      task.fileName = name ∧ Hashed P fileName task) :
    Acts P c fileName d₀ d' out queue (own fileName d') := by
  obtain ⟨hconns, htransports, hregistering, hsend, hrecieve, hwritten⟩ :
      d'.conns = d.conns ∧ d'.transports = d.transports ∧ d'.registering = d.registering ∧
        d'.sendQueue = d.sendQueue ∧ d'.recieveQueue = d.recieveQueue ∧
          d'.written = d.written := by
    simpa only [rest, Prod.mk.injEq] using hrest
  constructor
  · constructor
    · exact hkeyFile
    · rw [hconns]
      exact h.established.conns
    · rw [Device.transport, htransports]
      exact h.established.transport
    · exact htasks
    · rw [hregistering]
      exact h.established.registering
    · rw [hsend]
      exact h.established.sendQueue
    · rw [hrecieve]
      exact h.established.recieveQueue
  · exact hrecieve.trans h.inbox
  · rw [sent, hwritten]
    exact h.out
  · rw [hsend]
    exact h.queue
  · rfl

theorem acts_own {o' : Own} (h : Acts P c fileName d₀ d out queue o) (ho : o = o') :
    Acts P c fileName d₀ d out queue o' := ho ▸ h

theorem keyFile_writeBack (hne : c.keyFile ≠ []) {keys : KeyState}
    (hkeys : keys.keyFile = c.keyFile) : keys.writeBack.keyFile = c.keyFile := by
  rw [KeyState.writeBack_eq_self (hkeys ▸ hne), hkeys]

theorem acts_setKeys (h : Acts P c fileName d₀ d out queue o) {keys : KeyState}
    (hkeys : keys.keyFile = c.keyFile) : Acts P c fileName d₀ (d.setKeys keys) out queue o := by
  refine acts_own (acts_change h rfl hkeys h.established.tasks) ?_
  exact h.own

theorem acts_notify (h : Acts P c fileName d₀ d out queue o) (notice : Notice)
    (hnotice : completes fileName notice = false) :
    Acts P c fileName d₀ (d.notify notice) out queue o := by
  refine acts_own (acts_change h rfl h.established.keyFile h.established.tasks) ?_
  rw [← h.own]
  simp only [own, Device.notify, List.any_append, List.any_cons, List.any_nil, hnotice,
    Bool.or_false]

theorem acts_notify_complete (h : Acts P c fileName d₀ d out queue o) (messageID : Nat) :
    Acts P c fileName d₀ (d.notify (.fileComplete fileName messageID)) out queue
      { o with completed := true } := by
  refine acts_own (acts_change h rfl h.established.keyFile h.established.tasks) ?_
  rw [← h.own]
  simp only [own, Device.notify, List.any_append, List.any_cons, List.any_nil, completes,
    decide_true, Bool.or_false, Bool.or_true]

theorem acts_updateConnectionPurpose (h : Acts P c fileName d₀ d out queue o)
    {item : MessageItem Bytes} (hitem : Addressed c item) (purpose : Nat) :
    Acts P c fileName d₀ (d.updateConnectionPurpose item purpose) out queue o where
  established := by
    obtain ⟨hkeys, ⟨old, hconns⟩, htransport, htasks, hregistering, hsend, hrecieve⟩ :=
      h.established
    refine ⟨hkeys, ⟨purpose, ?_⟩, htransport, htasks, hregistering, hsend, hrecieve⟩
    obtain ⟨-, honion, hsocket⟩ := hitem
    have hone : ConnectionItems.updateConnectionPurpose [connItem c old] c.socket purpose =
        [connItem c purpose] := by
      rw [ConnectionItems.updateConnectionPurpose, ConnectionItems.modifyBySocket,
        if_pos (show (connItem c old).socket = c.socket from rfl)]
      rfl
    rw [Device.updateConnectionPurpose, honion, hsocket]
    simp only [Connections.updateConnectionPurpose, Connections.modifyItems, hconns,
      Connections.setItems, HashMap.get?_put_self, hone]
  inbox := h.inbox
  out := h.out
  queue := h.queue
  own := h.own

theorem acts_transmit (h : Acts P c fileName d₀ d out queue o) (socket : Nat) (cell : Cell) :
    Acts P c fileName d₀ (d.transmit socket cell)
      (out ++ said P c fileName (onSocket c.socket [(socket, cell)])) queue o where
  established := by
    obtain ⟨hkeys, hconns, htransport, htasks, hregistering, hsend, hrecieve⟩ := h.established
    exact ⟨hkeys, hconns, htransport, htasks, hregistering, hsend, hrecieve⟩
  inbox := h.inbox
  out := by
    obtain ⟨cells, hsent, hsaid⟩ := h.out
    refine ⟨cells ++ onSocket c.socket [(socket, cell)], ?_, ?_⟩
    · rw [← List.append_assoc, ← hsent]
      exact onSocket_append c.socket d.written [(socket, cell)]
    · rw [said_append, hsaid]
  queue := h.queue
  own := h.own

theorem acts_transmit_none (h : Acts P c fileName d₀ d out queue o) {socket : Nat} {cell : Cell}
    (hcell : FileCell.heardCell P c.sharedKey (nameHash P fileName) cell = none) :
    Acts P c fileName d₀ (d.transmit socket cell) out queue o := by
  have hnothing : said P c fileName (onSocket c.socket [(socket, cell)]) = [] :=
    said_onSocket_nil (fun x hx => by rw [List.mem_singleton.mp hx, hcell])
  have htransmit := acts_transmit h socket cell
  rw [hnothing, List.append_nil] at htransmit
  exact htransmit

theorem acts_transmit_some (h : Acts P c fileName d₀ d out queue o) {socket : Nat} {cell : Cell}
    {x : FileCell} (hsocket : socket = c.socket)
    (hcell : FileCell.heardCell P c.sharedKey (nameHash P fileName) cell = some x) :
    Acts P c fileName d₀ (d.transmit socket cell) (out ++ [x]) queue o := by
  have hone : said P c fileName (onSocket c.socket [(socket, cell)]) = [x] := by
    rw [onSocket, List.filter_cons_of_pos (by simp [hsocket]), List.filter_nil, List.map_singleton,
      said, List.filterMap_cons_some hcell, List.filterMap_nil]
  have htransmit := acts_transmit h socket cell
  rw [hone] at htransmit
  exact htransmit

theorem acts_enqueue (h : Acts P c fileName d₀ d out queue o)
    {items : List (MessageItem (Option Cell))} (hitems : ∀ item ∈ items, item.data.isSome) :
    Acts P c fileName d₀ (d.enqueue items) out
      (queue ++ said P c fileName (queuedCells c items)) o where
  established := by
    obtain ⟨hkeys, hconns, htransport, htasks, hregistering, hsend, hrecieve⟩ := h.established
    refine ⟨hkeys, hconns, htransport, htasks, hregistering, fun item hitem => ?_, hrecieve⟩
    exact (List.mem_append.mp hitem).elim (hsend item) (hitems item)
  inbox := h.inbox
  out := h.out
  queue := by
    obtain ⟨old, hqueue, hsaid⟩ := h.queue
    refine ⟨old ++ items, ?_, ?_⟩
    · rw [← List.append_assoc, ← hqueue]
      rfl
    · rw [queuedCells_append, said_append, hsaid]
  own := h.own

def Unheard (P : Platform) (c : Channel) (fileName : String)
    (item : MessageItem (Option Cell)) : Prop :=
  ∃ cell, item.data = some cell ∧
    FileCell.heardCell P c.sharedKey (nameHash P fileName) cell = none

theorem acts_enqueue_none (h : Acts P c fileName d₀ d out queue o)
    {items : List (MessageItem (Option Cell))}
    (hitems : ∀ item ∈ items, Unheard P c fileName item) :
    Acts P c fileName d₀ (d.enqueue items) out queue o := by
  have hdata : ∀ item ∈ items, item.data.isSome := by
    intro item hitem
    obtain ⟨cell, hcell, -⟩ := hitems item hitem
    rw [hcell]
    rfl
  have hnothing : said P c fileName (queuedCells c items) = [] := by
    refine said_onSocket_nil (fun x hx => ?_)
    obtain ⟨item, hitem, -, hcell⟩ := Device.mem_queued.mp hx
    obtain ⟨cell, hdata, hnone⟩ := hitems item hitem
    rw [← Option.some.inj (hdata.symm.trans hcell), hnone]
  have henqueue := acts_enqueue h hdata
  rw [hnothing, List.append_nil] at henqueue
  exact henqueue

theorem get?_modifyTask (h : Established P c fileName d) (task : FileTask)
    (f : FileTask → FileTask) (name : String) :
    (d.modifyTask task f).senderFileMap.get? name =
      if name = task.fileName then (d.senderFileMap.get? name).map f
      else d.senderFileMap.get? name :=
  FileState.get?_modify_of_keyed (s := d.files) (fun name task hget => (h.tasks name task hget).1)
    task.fileName name f

theorem acts_modifyTask (h : Acts P c fileName d₀ d out queue o) (task : FileTask)
    {f : FileTask → FileTask}
    (hf : ∀ t, (f t).fileName = t.fileName ∧ (f t).fileNameHash = t.fileNameHash) :
    Acts P c fileName d₀ (d.modifyTask task f) out queue
      { o with task := if fileName = task.fileName then o.task.map f else o.task } := by
  refine acts_own (acts_change h rfl h.established.keyFile ?_) ?_
  · intro name t hget
    rw [get?_modifyTask h.established] at hget
    split at hget
    · obtain ⟨old, hold, rfl⟩ := Option.map_eq_some_iff.mp hget
      obtain ⟨hfile, hhashed⟩ := h.established.tasks name old hold
      obtain ⟨hname, hhash⟩ := hf old
      refine ⟨hname.trans hfile, ?_, ?_⟩
      · rw [hhash, hname, hhashed.hash]
      · rw [hhash, hname]
        exact hhashed.name
    · exact h.established.tasks name t hget
  · rw [← h.own]
    simp only [own, get?_modifyTask h.established]
    rfl

theorem acts_modifyTask_other (h : Acts P c fileName d₀ d out queue o) {task : FileTask}
    (hother : task.fileName ≠ fileName) (f : FileTask → FileTask)
    (hf : ∀ t, (f t).fileName = t.fileName ∧ (f t).fileNameHash = t.fileNameHash) :
    Acts P c fileName d₀ (d.modifyTask task f) out queue o := by
  have hmodify := acts_modifyTask h task hf
  rw [if_neg hother.symm] at hmodify
  exact hmodify

theorem acts_putTask (h : Acts P c fileName d₀ d out queue o) {task : FileTask}
    (hhashed : Hashed P fileName task) :
    Acts P c fileName d₀ (d.putTask task) out queue
      { o with task := if fileName = task.fileName then some task else o.task } := by
  refine acts_own (acts_change h rfl h.established.keyFile ?_) ?_
  · intro name t hget
    rw [Device.putTask, HashMap.get?_put] at hget
    split at hget
    · rename_i hname
      obtain rfl := Option.some.inj hget
      exact ⟨hname.symm, hhashed⟩
    · exact h.established.tasks name t hget
  · rw [← h.own]
    simp only [own, Device.putTask, HashMap.get?_put]

theorem acts_removeTask (h : Acts P c fileName d₀ d out queue o) (task : FileTask) :
    Acts P c fileName d₀ (d.removeTask task) out queue
      { o with task := if fileName = task.fileName then none else o.task } := by
  refine acts_own (acts_change h rfl h.established.keyFile ?_) ?_
  · intro name t hget
    rw [Device.removeTask, HashMap.get?_remove] at hget
    split at hget
    · cases hget
    · exact h.established.tasks name t hget
  · rw [← h.own]
    simp only [own, Device.removeTask, HashMap.get?_remove]

theorem acts_removeTask_other (h : Acts P c fileName d₀ d out queue o) {task : FileTask}
    (hother : task.fileName ≠ fileName) :
    Acts P c fileName d₀ (d.removeTask task) out queue o := by
  have hremove := acts_removeTask h task
  rw [if_neg hother.symm] at hremove
  exact hremove

theorem acts_receiveFile (h : Acts P c fileName d₀ d out queue o) (name : String)
    (content : Bytes) :
    Acts P c fileName d₀ { d with receiveFiles := d.receiveFiles.put name content } out queue
      { o with file := if fileName = name then some content else o.file } := by
  refine acts_own (acts_change h rfl h.established.keyFile h.established.tasks) ?_
  rw [← h.own]
  simp only [own, HashMap.get?_put]

theorem acts_receiveFile_other (h : Acts P c fileName d₀ d out queue o) {name : String}
    (hother : name ≠ fileName) (content : Option Bytes) :
    Acts P c fileName d₀
      { d with receiveFiles := content.elim d.receiveFiles (d.receiveFiles.put name) } out queue
      o := by
  cases content with
  | none => exact h
  | some content =>
    have hreceive := acts_receiveFile h name content
    rw [if_neg hother.symm] at hreceive
    exact hreceive

end FileTraffic

end TorChat
