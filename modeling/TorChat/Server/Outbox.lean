import TorChat.Server.FileRuns

namespace TorChat

open Library (Bytes HashMap)

namespace Cell

variable (P : Platform)

def Carries (cell : Cell) (messageType messageID : Nat) (internalPayload : Bytes) : Prop :=
  ∃ sharedKey amb pointers length, cell = .data sharedKey
    (Message.externalPayload P amb messageType messageID internalPayload pointers length)

def Quiet (cell : Cell) : Prop :=
  ∀ sharedKey raw, cell = .data sharedKey raw →
    ∃ messageType, Message.parseMessageType raw = some messageType ∧
      messageType ≠ Constant.dataFileReady ∧ messageType ≠ Constant.dataFileData ∧
        messageType ≠ Constant.dataAck

def Ready (fileNameHash : Bytes) (cell : Cell) : Prop :=
  ∃ messageID, cell.Carries P Constant.dataFileReady messageID fileNameHash

def Piece (fileNameHash : Bytes) (cell : Cell) : Prop :=
  ∃ messageID pieceID fileContent, cell.Carries P Constant.dataFileData messageID
    (FileMessage.dataPayload fileNameHash pieceID fileContent)

def FileAck (fileNameHash : Bytes) (ack : String) (pieceID : Nat) (cell : Cell) : Prop :=
  ∃ messageID keys, cell.Carries P Constant.dataAck messageID
    (DataMessage.ackPayload keys 2 pieceID ack fileNameHash)

def TextAck (messageID : Nat) (cell : Cell) : Prop :=
  ∃ keys messageHash, messageHash.length = 20 ∧ cell.Carries P Constant.dataAck messageID
    (DataMessage.ackPayload keys 0 1 Constant.dataAckContent messageHash)

variable {P}

theorem quiet_zeros : Quiet .zeros := by
  intro sharedKey raw h
  cases h

theorem quiet_build (handShake : HandShakeMessage) (payload : Bytes) :
    Quiet (handShake.build payload) := by
  intro sharedKey raw h
  cases h

theorem quiet_of_carries {cell : Cell} {messageType messageID : Nat} {internalPayload : Bytes}
    (h : cell.Carries P messageType messageID internalPayload) (hlt : messageType < 256)
    (hready : messageType ≠ Constant.dataFileReady)
    (hdata : messageType ≠ Constant.dataFileData) (hack : messageType ≠ Constant.dataAck) :
    cell.Quiet := by
  intro sharedKey raw hcell
  obtain ⟨_, amb, pointers, length, rfl⟩ := h
  cases hcell
  exact ⟨messageType, Message.parseMessageType_externalPayload P amb hlt, hready, hdata, hack⟩

theorem carries_pack {amb : Ambient} {messageType messageID : Nat}
    {internalPayload pointers : Bytes} {length : Nat} {sharedKey : Option Bytes} {cell : Cell}
    (h : Message.packDataPayload (Message.externalPayload P amb messageType messageID
      internalPayload pointers length) sharedKey = some cell) :
    cell.Carries P messageType messageID internalPayload := by
  obtain ⟨key, -, rfl⟩ := Option.map_eq_some_iff.mp h
  exact ⟨key, amb, pointers, length, rfl⟩

theorem carries_ack {amb : Ambient} {keys : KeyState} {sharedKey : Option Bytes}
    {ackMessageType pieceID messageID : Nat} {ack : String} {messageHash : Bytes} {cell : Cell}
    (h : DataMessage.buildACKDataMessage P amb keys sharedKey ackMessageType pieceID ack
      messageHash messageID = some cell) :
    cell.Carries P Constant.dataAck messageID
      (DataMessage.ackPayload keys ackMessageType pieceID ack messageHash) := carries_pack h

end Cell

namespace Device

def account (d : Device) : String × PrivateKey × HashMap String MailItem :=
  (d.onionName, d.privateKey, d.mailList)

def mail (d : Device) : (String × PrivateKey × HashMap String MailItem) × List (Nat × Cell) ×
    List (MessageItem (Option Cell)) × List Notice :=
  (d.account, d.written, d.sendQueue, d.notices)

def queued (items : List (MessageItem (Option Cell))) : List (Nat × Cell) :=
  items.filterMap (fun item => item.data.map (fun cell => (item.socket, cell)))

def outbox (d : Device) : List (Nat × Cell) := d.written ++ queued d.sendQueue

theorem mem_queued {items : List (MessageItem (Option Cell))} {x : Nat × Cell} :
    x ∈ queued items ↔ ∃ item ∈ items, item.socket = x.1 ∧ item.data = some x.2 := by
  rw [queued, List.mem_filterMap]
  constructor
  · rintro ⟨item, hitem, hx⟩
    obtain ⟨cell, hcell, rfl⟩ := Option.map_eq_some_iff.mp hx
    exact ⟨item, hitem, rfl, hcell⟩
  · rintro ⟨item, hitem, hsocket, hcell⟩
    refine ⟨item, hitem, ?_⟩
    rw [hcell, Option.map_some, hsocket]

structure Emits (X : Nat × Cell → Prop) (N : Notice → Prop) (d d' : Device) : Prop where
  account : d'.account = d.account
  written : d.written <+: d'.written
  outbox : ∀ x ∈ d'.outbox, x ∈ d.outbox ∨ X x
  noticed : d.notices <+: d'.notices
  notices : ∀ n ∈ d'.notices, n ∈ d.notices ∨ N n

variable {X X' : Nat × Cell → Prop} {N N' : Notice → Prop} {d₀ d d' d'' : Device}

theorem emits_of_eq (h : d'.mail = d.mail) : Emits X N d d' := by
  obtain ⟨haccount, hwritten, hqueue, hnotices⟩ : d'.account = d.account ∧
      d'.written = d.written ∧ d'.sendQueue = d.sendQueue ∧ d'.notices = d.notices := by
    simpa [mail] using h
  constructor
  · exact haccount
  · rw [hwritten]
  · intro x hx
    rw [outbox, hwritten, hqueue] at hx
    exact .inl hx
  · rw [hnotices]
  · intro n hn
    rw [hnotices] at hn
    exact .inl hn

theorem emits_refl (d : Device) : Emits X N d d := emits_of_eq rfl

theorem emits_trans (h : Emits X N d d') (h' : Emits X N d' d'') : Emits X N d d'' where
  account := h'.account.trans h.account
  written := h.written.trans h'.written
  outbox := fun x hx => (h'.outbox x hx).elim (h.outbox x) .inr
  noticed := h.noticed.trans h'.noticed
  notices := fun n hn => (h'.notices n hn).elim (h.notices n) .inr

theorem emits_mono (hX : ∀ x, X x → X' x) (hN : ∀ n, N n → N' n) (h : Emits X N d d') :
    Emits X' N' d d' where
  account := h.account
  written := h.written
  outbox := fun x hx => (h.outbox x hx).imp_right (hX x)
  noticed := h.noticed
  notices := fun n hn => (h.notices n hn).imp_right (hN n)

theorem emits_setKeys (h : Emits X N d₀ d) (keys : KeyState) : Emits X N d₀ (d.setKeys keys) :=
  emits_trans h (emits_of_eq rfl)

theorem emits_modifyTask (h : Emits X N d₀ d) (task : FileTask) (f : FileTask → FileTask) :
    Emits X N d₀ (d.modifyTask task f) := emits_trans h (emits_of_eq rfl)

theorem emits_putTask (h : Emits X N d₀ d) (task : FileTask) : Emits X N d₀ (d.putTask task) :=
  emits_trans h (emits_of_eq rfl)

theorem emits_updateConnectionPurpose (h : Emits X N d₀ d) (item : MessageItem Bytes)
    (purpose : Nat) : Emits X N d₀ (d.updateConnectionPurpose item purpose) :=
  emits_trans h (emits_of_eq rfl)

theorem emits_deleteConnection (h : Emits X N d₀ d) (onionName : String) (socket : Nat) :
    Emits X N d₀ (d.deleteConnection onionName socket) := emits_trans h (emits_of_eq rfl)

theorem emits_transmit (h : Emits X N d₀ d) {socket : Nat} {cell : Cell}
    (hx : X (socket, cell)) : Emits X N d₀ (d.transmit socket cell) := by
  apply emits_trans h
  refine ⟨rfl, List.prefix_append _ _, ?_, List.prefix_rfl, fun _ hn => .inl hn⟩
  intro x hmem
  rw [outbox, transmit, List.append_assoc, List.mem_append, List.mem_append] at hmem
  rcases hmem with hwritten | hnew | hqueued
  · exact .inl (List.mem_append_left _ hwritten)
  · rw [List.mem_singleton.mp hnew]
    exact .inr hx
  · exact .inl (List.mem_append_right _ hqueued)

theorem emits_enqueue (h : Emits X N d₀ d) {items : List (MessageItem (Option Cell))}
    (hitems : ∀ item ∈ items, ∀ cell, item.data = some cell → X (item.socket, cell)) :
    Emits X N d₀ (d.enqueue items) := by
  apply emits_trans h
  refine ⟨rfl, List.prefix_rfl, ?_, List.prefix_rfl, fun _ hn => .inl hn⟩
  intro x hmem
  rcases List.mem_append.mp hmem with hwritten | hqueued
  · exact .inl (List.mem_append_left _ hwritten)
  · obtain ⟨item, hitem, hsocket, hcell⟩ := mem_queued.mp hqueued
    rcases List.mem_append.mp hitem with hold | hnew
    · exact .inl (List.mem_append_right _ (mem_queued.mpr ⟨item, hold, hsocket, hcell⟩))
    · have hx := hitems item hnew x.2 hcell
      rw [hsocket] at hx
      exact .inr hx

theorem emits_notify (h : Emits X N d₀ d) {notice : Notice} (hnotice : N notice) :
    Emits X N d₀ (d.notify notice) := by
  apply emits_trans h
  refine ⟨rfl, List.prefix_rfl, fun _ hx => .inl hx, List.prefix_append _ _, ?_⟩
  intro n hn
  rcases List.mem_append.mp hn with hold | hnew
  · exact .inl hold
  · rw [List.mem_singleton.mp hnew]
    exact .inr hnotice

theorem emits_sendMessage {sent : Bool} {onionName : String} {socket : Nat} {cell : Cell}
    {f : Device → Device} (h : Emits X N d₀ d) (hx : X (socket, cell))
    (hf : Emits X N (d.transmit socket cell) (f (d.transmit socket cell))) :
    Emits X N d₀ (d.sendMessage sent onionName socket cell f) := by
  rw [sendMessage]
  split
  · exact emits_trans (emits_transmit h hx) hf
  · exact emits_deleteConnection h onionName socket

variable {P : Platform} {env : Env}

def role (d : Device) (fileName : String) : Option (Direction × Bytes) :=
  (d.senderFileMap.get? fileName).map (fun task => (task.direction, task.fileNameHash))

theorem role_modifyTask (d : Device) (task : FileTask) {f : FileTask → FileTask}
    (hf : ∀ t, ((f t).direction, (f t).fileNameHash) = (t.direction, t.fileNameHash)) :
    (d.modifyTask task f).role = d.role := by
  funext fileName
  rw [role, role, modifyTask, HashMap.get?_map, Option.map_map]
  congr 1
  funext t
  rw [Function.comp_apply]
  split
  · exact hf t
  · rfl

variable (P) in
def Resent (role : String → Option (Direction × Bytes)) (x : Nat × Cell) : Prop :=
  x.2.Quiet ∨ ∃ fileName fileNameHash,
    (role fileName = some (.send, fileNameHash) ∧ x.2.Piece P fileNameHash) ∨
    (role fileName = some (.recieve, fileNameHash) ∧
      ∃ count, x.2.FileAck P fileNameHash Constant.dataCkContent count)

theorem quiet_text {amb : Ambient} {keys : KeyState} {internalPayload : Bytes}
    {messageID : Nat} {sharedKey : Option Bytes} {cell : Cell}
    (h : Message.packDataPayload (Message.createDataMessageExternalPaylod P amb keys
      Constant.dataMessage internalPayload messageID) sharedKey = some cell) : cell.Quiet :=
  Cell.quiet_of_carries (Cell.carries_pack h) (by decide) (by decide) (by decide) (by decide)

theorem quiet_metaItem {onionName : String} {socket : Nat} {sharedKey : Bytes}
    {task : FileTask} {messageID : Nat} {cell : Cell}
    (h : (metaItem P env onionName socket sharedKey task messageID).data = some cell) :
    cell.Quiet := by
  rw [data_metaItem, FileMessage.buildFileMetaMessage] at h
  exact Cell.quiet_of_carries (Cell.carries_pack h) (by decide) (by decide) (by decide) (by decide)

theorem emits_resendTexts (d : Device) (onionName : String) {X : Nat × Cell → Prop}
    (hX : ∀ socket cell, cell.Quiet → X (socket, cell)) :
    Emits X N d (d.resendTexts P env onionName) := by
  rw [resendTexts]
  split
  · rename_i conn hconn
    rw [resendText]
    refine emits_trans (emits_enqueue (emits_refl d) ?_) (emits_of_eq rfl)
    intro item hitem cell hcell
    obtain ⟨n, hn, rfl⟩ := List.mem_mapIdx.mp hitem
    exact hX _ _ (quiet_text hcell)
  · exact emits_refl d

theorem piece_of_mem_pieceItems {keys : KeyState} {onionName : String} {socket : Nat}
    {hs : Option HandShakeMessage} {sharedKey : Option Bytes} {fileNameHash : Bytes}
    {pieces : HashMap Nat Bytes} {messageID : Nat} {is : List Nat}
    {i : MessageItem (Option Cell)} {cell : Cell}
    (h : i ∈ (pieceItems (pieceItem P env keys onionName socket hs sharedKey fileNameHash
      messageID) pieces is).1) (hcell : i.data = some cell) : cell.Piece P fileNameHash := by
  obtain ⟨n, fileContent, -, rfl⟩ := mem_pieceItems h
  exact ⟨messageID, n, fileContent, Cell.carries_pack hcell⟩

theorem emits_enqueuePieces (h : Emits X N d₀ d) {items : List (MessageItem (Option Cell))}
    (hitems : ∀ item ∈ items, ∀ cell, item.data = some cell → X (item.socket, cell)) :
    Emits X N d₀ (d.enqueuePieces items) := emits_setKeys (emits_enqueue h hitems) _

theorem emits_resend (h : Emits X N d₀ d) (task : FileTask) (statusItem : ConnectionStatusItem)
    (messageID : Nat) (hX : ∀ socket cell, cell.Piece P task.fileNameHash → X (socket, cell)) :
    Emits X N d₀ (d.resend P env task statusItem messageID).1 := by
  rw [resend]
  split
  · exact h
  · exact emits_enqueuePieces h (fun item hitem cell hcell =>
      hX _ _ (piece_of_mem_pieceItems hitem hcell))

theorem role_resend (d : Device) (task : FileTask) (statusItem : ConnectionStatusItem)
    (messageID : Nat) : (d.resend P env task statusItem messageID).1.role = d.role := by
  rw [resend]
  split
  · rfl
  · rfl

theorem emits_resendTask (d : Device) (onionName : String) (conn : ConnectionStatusItem)
    (sharedKey : Bytes) {task : FileTask} {fileName : String}
    {role : String → Option (Direction × Bytes)}
    (hrole : role fileName = some (task.direction, task.fileNameHash)) :
    Emits (Resent P role) N d (d.resendTask P env onionName conn sharedKey task).1 := by
  rw [resendTask]
  split
  · exact emits_refl d
  · cases hdirection : task.direction with
    | send =>
      dsimp only
      split
      · split
        · exact emits_refl d
        · apply emits_enqueue (emits_refl d)
          intro item hitem cell hcell
          rw [List.mem_singleton.mp hitem] at hcell
          exact .inl (quiet_metaItem hcell)
      · have hmarked : Emits (Resent P role) N d
            (d.modifyTask task (fun t => t.setStatus .transferrring)) :=
          emits_modifyTask (emits_refl d) task _
        split
        · exact hmarked
        · apply emits_resend hmarked
          intro socket cell hpiece
          exact .inr ⟨fileName, _, .inl ⟨by rw [hrole, hdirection], hpiece⟩⟩
    | recieve =>
      dsimp only
      split
      · split
        · exact emits_setKeys (emits_refl d) _
        · refine emits_modifyTask (emits_enqueue (emits_setKeys (emits_refl d) _) ?_) _ _
          intro item hitem cell hcell
          rw [List.mem_singleton.mp hitem] at hcell
          dsimp only at hcell
          have hcarries := Cell.carries_ack hcell
          exact .inr ⟨fileName, _, .inr ⟨by rw [hrole, hdirection], _, _, d.keys, hcarries⟩⟩
      · exact emits_refl d

variable (P env) in
theorem role_resendTask (d : Device) (onionName : String) (conn : ConnectionStatusItem)
    (sharedKey : Bytes) (task : FileTask) :
    (d.resendTask P env onionName conn sharedKey task).1.role = d.role := by
  rw [resendTask]
  split
  · rfl
  · cases task.direction with
    | send =>
      dsimp only
      split
      · split
        · rfl
        · rfl
      · split
        · exact role_modifyTask d task (fun _ => rfl)
        · rw [role_resend]
          exact role_modifyTask d task (fun _ => rfl)
    | recieve =>
      dsimp only
      split
      · split
        · rfl
        · exact role_modifyTask _ task (fun _ => rfl)
      · rfl

variable (P env N) in
theorem emits_resendTasks (onionName : String) (conn : ConnectionStatusItem) (sharedKey : Bytes)
    {role : String → Option (Direction × Bytes)} (tasks : List FileTask) (d : Device)
    (hrole : ∀ task ∈ tasks, ∃ fileName,
      role fileName = some (task.direction, task.fileNameHash)) :
    Emits (Resent P role) N d (resendTasks P env onionName conn sharedKey tasks d).1 ∧
      (resendTasks P env onionName conn sharedKey tasks d).1.role = d.role := by
  induction tasks generalizing d with
  | nil => exact ⟨emits_refl d, rfl⟩
  | cons task tasks ih =>
    obtain ⟨fileName, hfileName⟩ := hrole task List.mem_cons_self
    have htask : Emits (Resent P role) N d
        (d.resendTask P env onionName conn sharedKey task).1 :=
      emits_resendTask d onionName conn sharedKey hfileName
    have hkept := role_resendTask P env d onionName conn sharedKey task
    rw [resendTasks]
    split
    · rename_i d' hd
      rw [hd] at htask hkept
      obtain ⟨hrest, hrestRole⟩ := ih d' (fun t ht => hrole t (List.mem_cons_of_mem task ht))
      exact ⟨emits_trans htask hrest, hrestRole.trans hkept⟩
    · rename_i d' hd
      rw [hd] at htask hkept
      exact ⟨htask, hkept⟩

variable (P env) in
theorem role_resendTexts (d : Device) (onionName : String) :
    (d.resendTexts P env onionName).role = d.role := by
  rw [resendTexts]
  split
  · rfl
  · rfl

theorem role_of_mem_values (d : Device) {task : FileTask} (h : task ∈ d.senderFileMap.values) :
    ∃ fileName, d.role fileName = some (task.direction, task.fileNameHash) := by
  obtain ⟨fileName, hget⟩ := HashMap.mem_values.mp h
  refine ⟨fileName, ?_⟩
  rw [role, hget, Option.map_some]

variable (P env) in
theorem emits_tryResend (d : Device) (onionName : String) :
    Emits (Resent P d.role) N d (d.tryResend P env onionName).1 ∧
      (d.tryResend P env onionName).1.role = d.role := by
  have htexts : Emits (Resent P d.role) N d (d.resendTexts P env onionName) :=
    emits_resendTexts d onionName (fun _ _ hquiet => .inl hquiet)
  have hrole := role_resendTexts P env d onionName
  rw [tryResend]
  split
  · split
    · rename_i conn _ _ sharedKey _
      obtain ⟨htasks, hkept⟩ := emits_resendTasks N P env onionName conn
        sharedKey _ (d.resendTexts P env onionName) (fun task ht => role_of_mem_values _ ht)
      rw [hrole] at htasks
      exact ⟨emits_trans htexts htasks, hkept.trans hrole⟩
    · exact ⟨htexts, hrole⟩
  · exact ⟨htexts, hrole⟩

theorem emits_tryResendAll (onionNames : List String) (d : Device) :
    Emits (Resent P d.role) N d (tryResendAll P env onionNames d) := by
  induction onionNames generalizing d with
  | nil => exact emits_refl d
  | cons onionName rest ih =>
    obtain ⟨hname, hrole⟩ := emits_tryResend P env (N := N) d onionName
    rw [tryResendAll]
    split
    · rename_i d' hd
      rw [hd] at hname hrole
      have hrest := ih d'
      rw [hrole] at hrest
      exact emits_trans hname hrest
    · rename_i d' hd
      rw [hd] at hname
      exact hname

variable (P env) in
theorem emits_updateSocketStatus (d : Device) (item : MessageItem Bytes) (status : Nat)
    (sharedKey : Option Bytes) {role : String → Option (Direction × Bytes)}
    (hrole : d.role = role) :
    Emits (Resent P role) N d (d.updateSocketStatus P env item status sharedKey).1 := by
  subst hrole
  have hstatus : Emits (Resent P d.role) N d { d with
      conns := d.conns.updateStatus item.onionName item.socket status sharedKey } :=
    emits_of_eq rfl
  rw [updateSocketStatus]
  split
  · exact emits_trans hstatus (emits_tryResend P env { d with
      conns := d.conns.updateStatus item.onionName item.socket status sharedKey } item.onionName).1
  · exact hstatus

theorem emits_connectReady {d : Device × Bool} (h : Emits X N d₀ d.1)
    (hnotice : N .startCommunicationSuccess) : Emits X N d₀ (connectReady d) := by
  obtain ⟨d, complete⟩ := d
  cases complete with
  | false => exact h
  | true => exact emits_notify h hnotice

theorem emits_established (d : Device) (item : MessageItem Bytes) (sharedKey : Option Bytes)
    {role : String → Option (Direction × Bytes)} (hrole : d.role = role)
    (h : N .startCommunicationSuccess) :
    Emits (Resent P role) N d (connectReady (d.updateSocketStatus P env item 1 sharedKey)) :=
  emits_connectReady (emits_updateSocketStatus P env d item 1 sharedKey hrole) h

theorem emits_handShakeMessageHandle (d : Device) (item : MessageItem Bytes)
    {role : String → Option (Direction × Bytes)} (hrole : d.role = role)
    (h : N .startCommunicationSuccess) :
    Emits (Resent P role) N d (d.handShakeMessageHandle P env item) := by
  subst hrole
  have hquiet (socket : Nat) (handShake : HandShakeMessage) (payload : Bytes) :
      Resent P d.role (socket, handShake.build payload) :=
    .inl (Cell.quiet_build handShake payload)
  have hkeys (keys : KeyState) : Emits (Resent P d.role) N d (d.setKeys keys) :=
    emits_setKeys (emits_refl d) keys
  rw [handShakeMessageHandle]
  split
  · split
    · rw [receiveSessionRequest]
      split
      · have hstatus (keys : KeyState) : Emits (Resent P d.role) N d
            ((d.setKeys keys).updateSocketStatus P env item 0 none).1 :=
          emits_trans (hkeys keys) (emits_updateSocketStatus P env _ item 0 none rfl)
        dsimp only
        split
        · exact emits_setKeys (hstatus _) _
        · exact emits_sendMessage (emits_setKeys (hstatus _) _) (hquiet _ _ _) (emits_refl _)
      · exact emits_refl d
    split
    · rw [receiveSessionAuth]
      split
      · dsimp only
        split
        · exact emits_sendMessage (hkeys _) (hquiet _ _ _)
            (emits_updateSocketStatus P env _ item 0 _ rfl)
        · exact hkeys _
      · exact emits_refl d
    split
    · rw [receiveSessionExchange]
      split
      · exact emits_sendMessage (emits_refl d) (hquiet _ _ _)
          (emits_established _ item _ rfl h)
      · exact emits_refl d
    split
    · rw [receiveSessionDone]
      split
      · exact emits_established d item none rfl h
      · exact emits_refl d
    · exact emits_refl d
  · exact emits_refl d

end Device

end TorChat
