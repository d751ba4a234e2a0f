import TorChat.Transfer.OwnCells
import TorChat.Message.MetaRoundTrip

namespace TorChat

open Library (Bytes HashMap)
open Constant (filePieceSize)

namespace FileTraffic

section Statement

variable (P : Platform) (c : Channel) (fileName : String) (d : Device)

def inbox : List FileCell :=
  d.recieveQueue.filterMap (fun item => FileCell.heard P (nameHash P fileName) item.data)

def flight (delivered : Nat) : List FileCell := said P c fileName ((sent c d).drop delivered)

def waiting : List FileCell := said P c fileName (queuedCells c d.sendQueue)

-- the receiver reads the length of the name from one byte
def announcedName (name : String) : String :=
  newString ((getBytes name).take ((getBytes name).length % 256))

structure OtherName (name : String) : Prop where
  sent : P.sha1 (getBytes name) ≠ nameHash P fileName
  announced : P.sha1 (getBytes (announcedName name)) ≠ nameHash P fileName

end Statement

variable {P : Platform} {env : Env} {c : Channel} {fileName : String} {d d' : Device}
  {out queue : List FileCell} {o : Own}

section Acting

variable (h : Acts P c fileName d d' out queue o)

include h

theorem inbox_acts : inbox P fileName d' = inbox P fileName d := by
  rw [inbox, h.inbox]
  rfl

theorem waiting_acts : waiting P c fileName d' = waiting P c fileName d ++ queue := by
  obtain ⟨items, hqueue, hsaid⟩ := h.queue
  rw [waiting, hqueue, queuedCells_append, said_append, hsaid]
  rfl

theorem sent_acts : (sent c d).length ≤ (sent c d').length := by
  obtain ⟨cells, hsent, -⟩ := h.out
  rw [hsent, List.length_append]
  exact Nat.le_add_right _ _

theorem flight_acts {delivered : Nat} (hle : delivered ≤ (sent c d).length) :
    flight P c fileName d' delivered = flight P c fileName d delivered ++ out := by
  obtain ⟨cells, hsent, hsaid⟩ := h.out
  rw [flight, hsent, List.drop_append_of_le_length hle, said_append, hsaid]
  rfl

end Acting

section Sending

theorem heardCell_packed_none {raw k : Bytes} {cell : Cell}
    (hpacked : Message.packDataPayload raw (some k) = some cell)
    (hnone : ∀ cell, Message.packDataPayload raw (some c.sharedKey) = some cell →
      FileCell.heardCell P c.sharedKey (nameHash P fileName) cell = none) :
    FileCell.heardCell P c.sharedKey (nameHash P fileName) cell = none := by
  by_cases hkey : k = c.sharedKey
  · exact hnone cell (hkey ▸ hpacked)
  · obtain rfl := Option.some.inj hpacked
    rw [FileCell.heardCell, Message.parseDataPayload, if_neg hkey]
    rfl

theorem acts_created (h : Acts P c fileName d d' out queue o) (onionName : String)
    (purpose : Nat) : Acts P c fileName d
      { d' with conns := d'.conns.createConnectionAsyc onionName purpose } out queue o where
  established := by
    obtain ⟨hkeys, hconns, htransport, htasks, hregistering, hsend, hrecieve⟩ := h.established
    refine ⟨hkeys, ?_, htransport, htasks, hregistering, hsend, hrecieve⟩
    rw [Connections.createConnectionAsyc]
    split
    · exact hconns
    · exact hconns
  inbox := h.inbox
  out := h.out
  queue := h.queue
  own := h.own

theorem acts_sendText (hne : c.keyFile ≠ []) (h : Established P c fileName d)
    (messageContent remoteOnion : String) (messageID : Nat) :
    Acts P c fileName d (d.handleTextMessageSend P env messageContent remoteOnion messageID)
      [] [] (own fileName d) := by
  rw [Device.handleTextMessageSend]
  split
  · exact acts_created (acts_refl h) remoteOnion Constant.socketPurposeText
  · split
    · exact acts_notify (acts_refl h) (.offlineText remoteOnion messageContent messageID) rfl
    · rename_i statusItem sharedKey hkey
      have hkeys : (d.keys.textSent messageID).keyFile = c.keyFile :=
        keyFile_writeBack hne h.keyFile
      refine acts_enqueue_none (acts_setKeys (acts_refl h) hkeys) (fun i hi => ?_)
      obtain rfl := List.mem_singleton.mp hi
      refine ⟨_, rfl, heardCell_packed_none rfl (fun cell hcell => ?_)⟩
      exact FileCell.not_heardCell_text hcell

end Sending

section Offering

theorem acts_registering (h : Acts P c fileName d d' out queue o) {tasks : List FileTask}
    (htasks : ∀ task ∈ tasks, Hashed P fileName task) :
    Acts P c fileName d { d' with registering := tasks } out queue
      { o with registering := tasks.filter (fun task => task.fileName = fileName) } where
  established := by
    obtain ⟨hkeys, hconns, htransport, hmap, -, hsend, hrecieve⟩ := h.established
    exact ⟨hkeys, hconns, htransport, hmap, htasks, hsend, hrecieve⟩
  inbox := h.inbox
  out := h.out
  queue := h.queue
  own := by
    rw [← h.own]
    rfl

theorem hashed_append {tasks : List FileTask} (h : ∀ task ∈ tasks, Hashed P fileName task)
    {task : FileTask} (htask : Hashed P fileName task) :
    ∀ t ∈ tasks ++ [task], Hashed P fileName t := by
  intro t ht
  rcases List.mem_append.mp ht with hold | hnew
  · exact h t hold
  · exact List.mem_singleton.mp hnew ▸ htask

theorem acts_registering_other (h : Acts P c fileName d d' out queue (own fileName d))
    (htasks : ∀ t ∈ d.registering, Hashed P fileName t) {task : FileTask}
    (htask : Hashed P fileName task) (hname : task.fileName ≠ fileName) :
    Acts P c fileName d { d' with registering := d.registering ++ [task] } out queue
      (own fileName d) := by
  have hsame : (d.registering ++ [task]).filter (fun t => t.fileName = fileName) =
      (own fileName d).registering := by
    rw [List.filter_append, List.filter_cons_of_neg (by simpa using hname), List.filter_nil,
      List.append_nil]
    rfl
  have hacts := acts_registering h (hashed_append htasks htask)
  rw [hsame] at hacts
  exact hacts

theorem unheard_metaItem {remoteOnion : String} {socket messageID : Nat} {sharedKey : Bytes}
    {task : FileTask} (hother : OtherName P fileName task.fileName) :
    Unheard P c fileName
      (Device.metaItem P env remoteOnion socket sharedKey task messageID) := by
  refine ⟨_, rfl, heardCell_packed_none rfl (fun cell hcell => ?_)⟩
  refine FileCell.not_heardCell_meta hcell (fun announced hparse => ?_)
  obtain ⟨htask, -⟩ := FileCell.spoken_of_parsed hparse
  have hname := MetaRoundTrip.fileName_of_parse hparse
  rw [htask]
  change P.sha1 (getBytes announced.fileName) ≠ _
  rw [hname]
  exact hother.announced

theorem acts_queueFileMeta_other (h : Established P c fileName d) (remoteOnion : String)
    {task : FileTask} (hhash : task.fileNameHash = P.sha1 (getBytes task.fileName))
    (hother : OtherName P fileName task.fileName) (messageID : Nat) :
    Acts P c fileName d (d.queueFileMeta P env remoteOnion task messageID) [] []
      (own fileName d) := by
  have hsent : Acts P c fileName d (d.setKeys (d.keys.sendFile messageID)) [] []
      (own fileName d) := acts_setKeys (acts_refl h) h.keyFile
  have hhashed : Hashed P fileName task := hashed_of_name hhash (hhash ▸ hother.sent)
  have hname : task.fileName ≠ fileName := fun hsame => hother.sent (by rw [hsame]; rfl)
  rw [Device.queueFileMeta]
  dsimp only
  split
  · have hstopped : Hashed P fileName (task.setStatus .notStart) := ⟨hhashed.hash, hhashed.name⟩
    exact acts_registering_other hsent h.registering hstopped hname
  · split
    · exact hsent
    · refine acts_registering_other (acts_enqueue_none hsent (fun i hi => ?_)) h.registering
        hhashed hname
      rw [List.mem_singleton.mp hi]
      exact unheard_metaItem hother

theorem fileConnection_peer (h : Established P c fileName d) :
    ∃ purpose, d.fileConnection c.peer = some (connItem c purpose) := by
  obtain ⟨purpose, hconns⟩ := h.conns
  refine ⟨purpose, ?_⟩
  have hone (wanted : Nat) : d.conns.getConnectionStatusItemByOnionName c.peer wanted =
      some (connItem c purpose) := by
    rw [Connections.getConnectionStatusItemByOnionName, hconns, Option.bind_some,
      ConnectionItems.getConnByPurpose]
    split
    · rename_i item hfind
      rw [List.mem_singleton.mp (List.mem_of_find?_eq_some hfind)]
    · rfl
  rw [Device.fileConnection, hone, Option.some_or]

theorem acts_queueFileMeta_own (h : Established P c fileName d) {task : FileTask}
    (hname : task.fileName = fileName) (hhash : task.fileNameHash = nameHash P fileName)
    (hlong : (getBytes fileName).length < 256) (hsize : task.totalSize < 2 ^ 63)
    (hcontent : task.contentHash.length = 20) {messageID : Nat} (hid : messageID < 2 ^ 31) :
    Acts P c fileName d (d.queueFileMeta P env c.peer task messageID) []
      [FileCell.ofTask task]
      { own fileName d with registering := (own fileName d).registering ++ [task] } := by
  obtain ⟨purpose, hconn⟩ := fileConnection_peer h
  have hkeys : Acts P c fileName d (d.setKeys (d.keys.sendFile messageID)) [] []
      (own fileName d) := acts_setKeys (acts_refl h) h.keyFile
  have hsome : ∀ i ∈ [Device.metaItem P env c.peer c.socket c.sharedKey task messageID],
      i.data.isSome := by
    intro i hi
    rw [List.mem_singleton.mp hi]
    rfl
  obtain ⟨cell, hdata⟩ : ∃ cell, (Device.metaItem P env c.peer c.socket c.sharedKey task
      messageID).data = some cell := ⟨_, rfl⟩
  have hcell : FileCell.heardCell P c.sharedKey (nameHash P fileName) cell =
      some (FileCell.ofTask task) := by
    rw [nameHash, ← hname]
    exact FileCell.heardCell_meta hid (hname ▸ hlong) hsize hcontent hdata
  have hqueued := acts_enqueue hkeys hsome
  rw [List.nil_append, said_queued_one rfl hdata hcell] at hqueued
  have hhashed : Hashed P fileName task := ⟨by rw [hhash, hname]; rfl, fun _ => hname⟩
  have hacts := acts_registering hqueued (hashed_append h.registering hhashed)
  rw [List.filter_append, List.filter_cons_of_pos (by simpa using hname), List.filter_nil]
    at hacts
  rw [Device.queueFileMeta, hconn]
  exact hacts

end Offering

section Registering

theorem filter_eraseIdx {α : Type} (p : α → Bool) {xs : List α} {i : Nat} {x : α}
    (h : xs[i]? = some x) : ∃ before after,
      xs.filter p = before ++ ([x].filter p ++ after) ∧
        (xs.eraseIdx i).filter p = before ++ after := by
  induction xs generalizing i with
  | nil => cases h
  | cons y ys ih =>
    cases i with
    | zero =>
      obtain rfl := Option.some.inj h
      exact ⟨[], ys.filter p, by rw [List.nil_append, ← List.filter_append]; rfl, rfl⟩
    | succ i =>
      obtain ⟨before, after, hfilter, herase⟩ := ih h
      refine ⟨[y].filter p ++ before, after, ?_, ?_⟩
      · rw [List.append_assoc, ← hfilter, ← List.filter_append]
        rfl
      · rw [List.append_assoc, ← herase, ← List.filter_append]
        rfl

theorem acts_register (h : Established P c fileName d) {position : Nat} {task : FileTask}
    (hget : d.registering[position]? = some task) :
    Acts P c fileName d (d.registerTask position) [] []
      { own fileName d with
        task := if fileName = task.fileName then some task else (own fileName d).task
        registering := (d.registering.eraseIdx position).filter
          (fun task => task.fileName = fileName) } := by
  have hhashed := h.registering task (List.mem_of_getElem? hget)
  rw [Device.registerTask, hget]
  exact acts_registering (acts_putTask (acts_refl h) hhashed)
    (fun t ht => h.registering t (List.mem_of_mem_eraseIdx ht))

theorem acts_register_other (h : Established P c fileName d) {position : Nat} {task : FileTask}
    (hget : d.registering[position]? = some task) (hname : task.fileName ≠ fileName) :
    Acts P c fileName d (d.registerTask position) [] [] (own fileName d) := by
  have hacts : Acts P c fileName d (d.registerTask position) [] [] _ := acts_register h hget
  obtain ⟨before, after, hfilter, herase⟩ :=
    filter_eraseIdx (fun task : FileTask => decide (task.fileName = fileName)) hget
  rw [List.filter_cons_of_neg (by simpa using hname), List.filter_nil, List.nil_append] at hfilter
  rw [if_neg hname.symm, herase, ← hfilter] at hacts
  exact hacts

theorem acts_register_own (h : Established P c fileName d) {position : Nat} {task mine : FileTask}
    (hget : d.registering[position]? = some task) (hname : task.fileName = fileName)
    (hmine : (own fileName d).registering = [mine]) :
    Acts P c fileName d (d.registerTask position) [] []
      { own fileName d with task := some mine, registering := [] } := by
  have hacts : Acts P c fileName d (d.registerTask position) [] [] _ := acts_register h hget
  obtain ⟨before, after, hfilter, herase⟩ :=
    filter_eraseIdx (fun task : FileTask => decide (task.fileName = fileName)) hget
  rw [List.filter_cons_of_pos (by simpa using hname), List.filter_nil] at hfilter
  have hone : before ++ task :: after = [mine] := hfilter.symm.trans hmine
  obtain ⟨rfl, rfl, rfl⟩ : before = [] ∧ task = mine ∧ after = [] := by
    cases before with
    | nil => exact ⟨rfl, List.cons.inj hone⟩
    | cons first rest => exact absurd (List.cons.inj hone).2 (by simp)
  rw [if_pos hname.symm, herase] at hacts
  exact hacts

end Registering

section Moving

theorem heard_write (hsent : ∀ n, env.sent n = true) (h : Established P c fileName d)
    {delivered : Nat} (hle : delivered ≤ (sent c d).length) :
    Established P c fileName (d.write env) ∧
    delivered ≤ (sent c (d.write env)).length ∧
    inbox P fileName (d.write env) = inbox P fileName d ∧
    own fileName (d.write env) = own fileName d ∧
    ∃ xs, waiting P c fileName d = xs ++ waiting P c fileName (d.write env) ∧
      flight P c fileName (d.write env) delivered = flight P c fileName d delivered ++ xs := by
  cases hqueue : d.sendQueue with
  | nil =>
    rw [Device.write, hqueue]
    exact ⟨h, hle, rfl, rfl, [], rfl, (List.append_nil _).symm⟩
  | cons item rest =>
    obtain ⟨cell, hdata⟩ := Option.isSome_iff_exists.mp
      (h.sendQueue item (hqueue ▸ List.mem_cons_self))
    have hwrite : d.write env = { d with sendQueue := rest }.transmit item.socket cell := by
      rw [Device.write, hqueue]
      dsimp only
      rw [hdata]
      exact if_pos (hsent 0)
    have hmoved : sent c (d.write env) = sent c d ++ queuedCells c [item] := by
      have hqueued : Device.queued [item] = [(item.socket, cell)] := by
        rw [Device.queued, List.filterMap_cons_some (by rw [hdata, Option.map_some])]
        rfl
      rw [hwrite, queuedCells, hqueued]
      exact onSocket_append c.socket d.written [(item.socket, cell)]
    refine ⟨?_, ?_, ?_, ?_, said P c fileName (queuedCells c [item]), ?_, ?_⟩
    · rw [hwrite]
      obtain ⟨hkeys, hconns, htransport, htasks, hregistering, hsend, hrecieve⟩ := h
      exact ⟨hkeys, hconns, htransport, htasks, hregistering,
        fun i hi => hsend i (hqueue ▸ List.mem_cons_of_mem item hi), hrecieve⟩
    · rw [hmoved, List.length_append]
      exact Nat.le_add_right_of_le hle
    · rw [hwrite]
      rfl
    · rw [hwrite]
      rfl
    · rw [hwrite, waiting, hqueue, ← List.singleton_append, queuedCells_append, said_append]
      rfl
    · rw [flight, hmoved, List.drop_append_of_le_length hle, said_append]
      rfl

theorem readCell_online {mail : MailItem} {t : Transport} {purpose : Nat} {cell : Cell}
    (hitem : d.conns.statusItem mail.onionName t.socket = some (connItem c purpose)) :
    d.readCell mail t cell =
      match Message.parseDataPayload cell (some c.sharedKey) with
      | none => d
      | some raw => d.handCell mail t 1 raw := by
  have hstatus : (connItem c purpose).status = 1 := rfl
  rw [Device.readCell, hitem]
  dsimp only
  rw [if_neg (by omega), if_pos hstatus]
  rfl

theorem heard_receiveCell (h : Established P c fileName d) (cell : Cell) :
    Established P c fileName (d.receiveCell c.socket cell) ∧
    sent c (d.receiveCell c.socket cell) = sent c d ∧
    (d.receiveCell c.socket cell).sendQueue = d.sendQueue ∧
    inbox P fileName (d.receiveCell c.socket cell) = inbox P fileName d ++
      said P c fileName [cell] ∧
    own fileName (d.receiveCell c.socket cell) = own fileName d := by
  obtain ⟨t, mail, htransport, hmail, honion⟩ := h.transport
  obtain ⟨purpose, hconns⟩ := h.conns
  have hsocket : t.socket = c.socket := Device.transport_socket htransport
  have hitem : d.conns.statusItem mail.onionName t.socket = some (connItem c purpose) := by
    rw [Connections.statusItem, honion, hsocket, Connections.getConnectionStatusItem, hconns,
      Option.bind_some, ConnectionItems.getConnBySocket,
      List.find?_cons_of_pos (by simp [connItem]), Option.some_or]
  by_cases hzeros : cell = .zeros
  · rw [Device.receiveCell, htransport, hzeros]
    exact ⟨h, rfl, rfl, (List.append_nil _).symm, rfl⟩
  have hread : d.receiveCell c.socket cell = d.readCell mail t cell := by
    rw [Device.receiveCell, htransport]
    dsimp only
    rw [if_neg hzeros, hmail]
  cases hparse : Message.parseDataPayload cell (some c.sharedKey) with
  | none =>
    have hsame : d.readCell mail t cell = d := by
      rw [readCell_online hitem, hparse]
    have hsilent : said P c fileName [cell] = [] := by
      rw [said, List.filterMap_cons_none (by rw [FileCell.heardCell, hparse]; rfl),
        List.filterMap_nil]
    rw [hread, hsame, hsilent]
    exact ⟨h, rfl, rfl, (List.append_nil _).symm, rfl⟩
  | some raw =>
    have hhanded : d.readCell mail t cell = d.handCell mail t 1 raw := by
      rw [readCell_online hitem, hparse]
    rw [hread, hhanded]
    refine ⟨?_, rfl, rfl, ?_, rfl⟩
    · obtain ⟨hkeys, hconns, htransport, htasks, hregistering, hsend, hrecieve⟩ := h
      refine ⟨hkeys, hconns, htransport, htasks, hregistering, hsend, fun i hi => ?_⟩
      rcases List.mem_append.mp hi with hold | hnew
      · exact hrecieve i hold
      · rw [List.mem_singleton.mp hnew]
        exact ⟨rfl, honion, hsocket⟩
    · rw [inbox, Device.handCell, List.filterMap_append]
      congr 1
      rw [said, List.filterMap_cons, List.filterMap_cons, FileCell.heardCell, hparse]
      rfl

end Moving

end FileTraffic

end TorChat
