import TorChat.Server.ConnectionState

namespace TorChat

open Library (Bytes HashMap Machine)

namespace Device

variable {P : Platform} {env : Env}

def shell (d : Device) : Connections × List (MessageItem Bytes) × List Transport :=
  (d.conns, d.recieveQueue, d.transports)

theorem conns_setKeys (d : Device) (keys : KeyState) : (d.setKeys keys).conns = d.conns := rfl

@[simp] theorem shell_setKeys (d : Device) (keys : KeyState) : (d.setKeys keys).shell = d.shell :=
  rfl

@[simp] theorem shell_transmit (d : Device) (socket : Nat) (cell : Cell) :
    (d.transmit socket cell).shell = d.shell := rfl

@[simp] theorem shell_modifyTask (d : Device) (task : FileTask) (f : FileTask → FileTask) :
    (d.modifyTask task f).shell = d.shell := rfl

def Holds (d d' : Device) : Prop := connMachine.Reaches ConnOp.Keeps d.conns d'.conns

def Framed (who : Option (String × Nat)) (d d' : Device) : Prop :=
  connMachine.Reaches (ConnOp.Within who) d.conns d'.conns ∧
    d'.recieveQueue = d.recieveQueue ∧ d'.transports = d.transports

variable {who : Option (String × Nat)}

theorem holds_of_framed {d d' : Device} (h : d.Framed who d') : d.Holds d' :=
  Machine.reaches_mono ConnOp.keeps_of_within h.1

theorem framed_of_eq {d d' : Device} (h : d'.shell = d.shell) : d.Framed who d' := by
  obtain ⟨hconns, hqueue, htransports⟩ : d'.conns = d.conns ∧
      d'.recieveQueue = d.recieveQueue ∧ d'.transports = d.transports := by
    simpa [shell] using h
  refine ⟨?_, hqueue, htransports⟩
  rw [hconns]
  exact Machine.reaches_refl _

theorem framed_trans {d d' d'' : Device} (h : d.Framed who d') (h' : d'.Framed who d'') :
    d.Framed who d'' :=
  ⟨Machine.reaches_trans h.1 h'.1, h'.2.1.trans h.2.1, h'.2.2.trans h.2.2⟩

theorem framed_deleteConnection (d : Device) (onionName : String) (socket : Nat) :
    d.Framed who (d.deleteConnection onionName socket) :=
  ⟨Connections.reaches_delete trivial, rfl, rfl⟩

theorem framed_setKeys (d : Device) (keys : KeyState) : d.Framed who (d.setKeys keys) :=
  framed_of_eq rfl

theorem framed_sendMessage {d₀ d : Device} {sent : Bool} {onionName : String} {socket : Nat}
    {cell : Cell} {f : Device → Device} (h : d₀.Framed who d)
    (hf : ∀ d : Device, d.Framed who (f d)) :
    d₀.Framed who (d.sendMessage sent onionName socket cell f) := by
  apply framed_trans h
  rw [sendMessage]
  split
  · exact hf (d.transmit socket cell)
  · exact framed_deleteConnection d onionName socket

theorem framed_id (d : Device) : d.Framed who (id d) := framed_of_eq rfl

-- what a resume of the file tasks leaves of the device
def Resumed (d d' : Device) : Prop :=
  ∃ keys sendQueue senderFileMap, d' = { d with
    keys := keys, sendQueue := sendQueue, senderFileMap := senderFileMap }

theorem resumed_refl (d : Device) : d.Resumed d := ⟨d.keys, d.sendQueue, d.senderFileMap, rfl⟩

theorem resumed_trans {d d' d'' : Device} (h : d.Resumed d') (h' : d'.Resumed d'') :
    d.Resumed d'' := by
  obtain ⟨keys, queue, map, rfl⟩ := h
  obtain ⟨keys', queue', map', rfl⟩ := h'
  exact ⟨keys', queue', map', rfl⟩

theorem shell_of_resumed {d d' : Device} (h : d.Resumed d') : d'.shell = d.shell := by
  obtain ⟨keys, queue, map, rfl⟩ := h
  rfl

theorem resumed_resend (d : Device) (task : FileTask) (statusItem : ConnectionStatusItem)
    (messageID : Nat) : d.Resumed (d.resend P env task statusItem messageID).1 := by
  rw [resend]
  split
  · exact resumed_refl d
  · exact ⟨_, _, d.senderFileMap, rfl⟩

theorem resumed_resendTask (d : Device) (onionName : String) (conn : ConnectionStatusItem)
    (sharedKey : Bytes) (task : FileTask) :
    d.Resumed (d.resendTask P env onionName conn sharedKey task).1 := by
  rw [resendTask]
  split
  · exact resumed_refl d
  · cases task.direction with
    | send =>
      dsimp only
      split
      · split
        · exact resumed_refl d
        · exact ⟨d.keys, _, d.senderFileMap, rfl⟩
      · have hstatus : d.Resumed (d.modifyTask task (fun t => t.setStatus .transferrring)) :=
          ⟨d.keys, d.sendQueue, _, rfl⟩
        split
        · exact hstatus
        · exact resumed_trans hstatus (resumed_resend _ task conn _)
    | recieve =>
      dsimp only
      split
      · split
        · exact ⟨_, d.sendQueue, d.senderFileMap, rfl⟩
        · exact ⟨_, _, _, rfl⟩
      · exact resumed_refl d

theorem resumed_resendTasks (onionName : String) (conn : ConnectionStatusItem)
    (sharedKey : Bytes) (tasks : List FileTask) (d : Device) :
    d.Resumed (resendTasks P env onionName conn sharedKey tasks d).1 := by
  induction tasks generalizing d with
  | nil => exact resumed_refl d
  | cons task tasks ih =>
    have htask : d.Resumed (d.resendTask P env onionName conn sharedKey task).1 :=
      resumed_resendTask d onionName conn sharedKey task
    rw [resendTasks]
    split
    · rename_i d' hd
      rw [hd] at htask
      exact resumed_trans htask (ih d')
    · rename_i d' hd
      rw [hd] at htask
      exact htask

variable (P env) in
theorem resumed_tryResend (d : Device) (onionName : String) :
    (d.resendTexts P env onionName).Resumed (d.tryResend P env onionName).1 := by
  rw [tryResend]
  split
  · split
    · exact resumed_resendTasks _ _ _ _ _
    · exact resumed_refl _
  · exact resumed_refl _

variable (P env) in
theorem shell_tryResend (d : Device) (onionName : String) :
    (d.tryResend P env onionName).1.shell = d.shell := by
  have htext : (d.resendTexts P env onionName).shell = d.shell := by
    rw [resendTexts]
    split
    · rfl
    · rfl
  exact (shell_of_resumed (resumed_tryResend P env d onionName)).trans htext

variable (P env) in
theorem conns_tryResend (d : Device) (onionName : String) :
    (d.tryResend P env onionName).1.conns = d.conns :=
  congrArg Prod.fst (shell_tryResend P env d onionName)

variable (P env) in
theorem written_tryResend (d : Device) (onionName : String) :
    (d.tryResend P env onionName).1.written = d.written := by
  have htext : (d.resendTexts P env onionName).written = d.written := by
    rw [resendTexts]
    split
    · rfl
    · rfl
  obtain ⟨keys, queue, map, hresumed⟩ := resumed_tryResend P env d onionName
  rw [hresumed, htext]

theorem shell_tryResendAll (onionNames : List String) (d : Device) :
    (tryResendAll P env onionNames d).shell = d.shell := by
  induction onionNames generalizing d with
  | nil => rfl
  | cons onionName rest ih =>
    have hname := shell_tryResend P env d onionName
    rw [tryResendAll]
    split
    · rename_i d' hd
      rw [ih, ← hname, hd]
    · rename_i d' hd
      rw [← hname, hd]

variable (P env) in
theorem shell_updateSocketStatus (d : Device) (item : MessageItem Bytes) (status : Nat)
    (sharedKey : Option Bytes) : (d.updateSocketStatus P env item status sharedKey).1.shell =
      (d.conns.updateStatus item.onionName item.socket status sharedKey, d.recieveQueue,
        d.transports) := by
  rw [updateSocketStatus]
  split
  · exact shell_tryResend P env _ item.onionName
  · rfl

theorem shell_connectReady (d : Device × Bool) : (connectReady d).shell = d.1.shell := by
  obtain ⟨d, complete⟩ := d
  cases complete <;> rfl

def peerOf (item : MessageItem Bytes) : Option (String × Nat) := some (item.onionName, item.socket)

variable (P env) in
theorem framed_updateSocketStatus (d : Device) (item : MessageItem Bytes) (status : Nat)
    (sharedKey : Option Bytes) :
    d.Framed (peerOf item) (d.updateSocketStatus P env item status sharedKey).1 := by
  have hshell := shell_updateSocketStatus P env d item status sharedKey
  have hstatus : d.Framed (peerOf item) {
      d with conns := d.conns.updateStatus item.onionName item.socket status sharedKey } :=
    ⟨Connections.reaches_status rfl, rfl, rfl⟩
  exact framed_trans hstatus (framed_of_eq hshell)

theorem framed_receiveSessionRequest (d : Device) (item : MessageItem Bytes) :
    d.Framed (peerOf item) (d.receiveSessionRequest P env item) := by
  rw [receiveSessionRequest]
  split
  · rename_i fileName fileIndex _ _
    have hstatus := framed_updateSocketStatus P env
      (d.setKeys (d.keys.acceptRequest fileName fileIndex)) item 0 none
    dsimp only
    split
    · exact hstatus
    · exact framed_sendMessage (framed_trans hstatus (framed_setKeys _ _)) framed_id
  · exact framed_of_eq rfl

theorem framed_receiveSessionAuth (d : Device) (item : MessageItem Bytes)
    (internalPayload : Bytes) : d.Framed (peerOf item) (d.receiveSessionAuth P env item internalPayload) := by
  rw [receiveSessionAuth]
  split
  · dsimp only
    split
    · exact framed_sendMessage (framed_setKeys d _)
        (fun d => framed_updateSocketStatus P env d item 0 _)
    · exact framed_of_eq rfl
  · exact framed_of_eq rfl

theorem framed_established (d : Device) (item : MessageItem Bytes) (sharedKey : Option Bytes) :
    d.Framed (peerOf item) (connectReady (d.updateSocketStatus P env item 1 sharedKey)) :=
  framed_trans (framed_updateSocketStatus P env d item 1 sharedKey)
    (framed_of_eq (shell_connectReady _))

theorem framed_handShakeMessageHandle (d : Device) (item : MessageItem Bytes) :
    d.Framed (peerOf item) (d.handShakeMessageHandle P env item) := by
  rw [handShakeMessageHandle]
  split
  · split
    · exact framed_receiveSessionRequest d item
    split
    · exact framed_receiveSessionAuth d item _
    split
    · rw [receiveSessionExchange]
      split
      · exact framed_sendMessage (framed_of_eq rfl) (fun d => framed_established d item _)
      · exact framed_of_eq rfl
    split
    · rw [receiveSessionDone]
      split
      · exact framed_established d item none
      · exact framed_of_eq rfl
    · exact framed_of_eq rfl
  · exact framed_of_eq rfl

theorem framed_receiveTextMessage (d : Device) (internalPayload : Bytes)
    (statusItem : ConnectionStatusItem) (item : MessageItem Bytes) (messageID : Nat) :
    d.Framed who (d.receiveTextMessage P env internalPayload statusItem item messageID) := by
  rw [receiveTextMessage]
  split
  · exact framed_of_eq rfl
  · dsimp only
    split
    · split
      · exact framed_of_eq rfl
      · exact framed_of_eq rfl
    · split
      · exact framed_sendMessage (framed_of_eq rfl) framed_id
      · exact framed_sendMessage (framed_of_eq rfl) framed_id

theorem framed_updateConnectionPurpose (d : Device) (item : MessageItem Bytes) (purpose : Nat) :
    d.Framed who (d.updateConnectionPurpose item purpose) :=
  ⟨Connections.reaches_purpose trivial, rfl, rfl⟩

theorem framed_prepareReceiveFile (d : Device) (internalPayload : Bytes)
    (statusItem : ConnectionStatusItem) (item : MessageItem Bytes) (messageID : Nat) :
    d.Framed who (d.prepareReceiveFile P env internalPayload statusItem item messageID) := by
  have hpurpose (keys : KeyState) : d.Framed who
      ((d.setKeys keys).updateConnectionPurpose item Constant.socketPurposeFile) :=
    framed_updateConnectionPurpose (d.setKeys keys) item Constant.socketPurposeFile
  rw [prepareReceiveFile]
  split
  · exact framed_of_eq rfl
  · dsimp only
    split
    · exact hpurpose _
    · split
      · exact hpurpose _
      · exact framed_sendMessage (framed_trans (hpurpose _) (framed_setKeys _ _))
          (fun _ => framed_of_eq rfl)

theorem framed_sendFileShards (d : Device) (internalPayload : Bytes)
    (statusItem : ConnectionStatusItem) (item : MessageItem Bytes) (messageID : Nat) :
    d.Framed who (d.sendFileShards P env internalPayload statusItem item messageID) := by
  have hpurpose (keys : KeyState) : d.Framed who
      ((d.setKeys keys).updateConnectionPurpose item Constant.socketPurposeFile) :=
    framed_updateConnectionPurpose (d.setKeys keys) item Constant.socketPurposeFile
  rw [sendFileShards]
  split
  · exact framed_of_eq rfl
  · dsimp only
    split
    · exact hpurpose _
    · split
      · exact hpurpose _
      · exact hpurpose _

theorem framed_receiveAllFileShards (d : Device) (task : FileTask)
    (statusItem : ConnectionStatusItem) (item : MessageItem Bytes) (messageID : Nat) :
    d.Framed who (d.receiveAllFileShards P env task statusItem item messageID) := by
  rw [receiveAllFileShards]
  split
  · dsimp only
    split
    · exact framed_of_eq rfl
    · split
      · exact framed_of_eq rfl
      · split
        · exact framed_of_eq rfl
        · exact ⟨Connections.reaches_delete trivial, rfl, rfl⟩
  · exact framed_of_eq rfl

theorem shell_notify_if (c : Prop) [Decidable c] (d : Device) (notice : Notice) :
    (if c then d.notify notice else d).shell = d.shell := by
  split <;> rfl

theorem framed_receiveFileShards (d : Device) (internalPayload : Bytes)
    (statusItem : ConnectionStatusItem) (item : MessageItem Bytes) (messageID : Nat) :
    d.Framed who (d.receiveFileShards P env internalPayload statusItem item messageID) := by
  rw [receiveFileShards]
  split
  · exact framed_of_eq rfl
  · dsimp only
    split
    · exact framed_of_eq rfl
    · split
      · exact framed_of_eq rfl
      · split
        · apply framed_of_eq
          rw [shell_setKeys, shell_notify_if]
          rfl
        · refine framed_trans ?_ (framed_receiveAllFileShards _ _ statusItem item messageID)
          split
          · apply framed_of_eq
            rw [shell_transmit, shell_setKeys, shell_notify_if]
            rfl
          · refine framed_trans (framed_of_eq ?_) (framed_deleteConnection _ _ _)
            rw [shell_modifyTask, shell_setKeys, shell_notify_if]
            rfl

theorem framed_receiveAck (d : Device) (internalPayload : Bytes)
    (statusItem : ConnectionStatusItem) (item : MessageItem Bytes) (messageID : Nat) :
    d.Framed who (d.receiveAck P env internalPayload statusItem item messageID) := by
  rw [receiveAck]
  split
  · exact framed_of_eq rfl
  · split
    · rw [receiveFileAck]
      split
      · exact framed_of_eq rfl
      · split
        · dsimp only
          split
          · exact framed_of_eq rfl
          · exact framed_of_eq rfl
        · split
          · exact framed_of_eq (shell_of_resumed (resumed_resend _ _ _ _))
          · exact framed_of_eq rfl
    · exact framed_of_eq rfl

theorem framed_dataMessageHandle (d : Device) (item : MessageItem Bytes) :
    d.Framed who (d.dataMessageHandle P env item) := by
  rw [dataMessageHandle]
  split
  · exact framed_of_eq rfl
  · split
    · exact framed_of_eq rfl
    · split
      · rw [dispatchDataMessage]
        split
        · exact framed_receiveTextMessage d _ _ item _
        split
        · exact framed_prepareReceiveFile d _ _ item _
        split
        · exact framed_sendFileShards d _ _ item _
        split
        · exact framed_receiveFileShards d _ _ item _
        split
        · rw [receiveFileDone]
          split
          · exact framed_of_eq rfl
          · split
            · exact framed_of_eq rfl
            · exact framed_of_eq rfl
        split
        · exact framed_receiveAck d _ _ item _
        · exact framed_of_eq rfl
      · exact framed_of_eq rfl

variable (P env) in
theorem framed_read {d : Device} {item : MessageItem Bytes} {rest : List (MessageItem Bytes)}
    (hqueue : d.recieveQueue = item :: rest) :
    ({ d with recieveQueue := rest } : Device).Framed (peerOf item) (d.read P env) := by
  rw [read, hqueue]
  dsimp only
  split
  · exact framed_handShakeMessageHandle { d with recieveQueue := rest } item
  · split
    · exact framed_dataMessageHandle { d with recieveQueue := rest } item
    · exact framed_of_eq rfl

theorem holds_read (d : Device) : d.Holds (d.read P env) := by
  cases hqueue : d.recieveQueue with
  | nil =>
    rw [read, hqueue]
    exact Machine.reaches_refl _
  | cons item rest =>
    have hframed := framed_read P env hqueue
    exact Machine.reaches_mono ConnOp.keeps_of_within hframed.1

theorem framed_deleteStatusItem (d : Device) (item : ConnectionStatusItem) :
    d.Framed who (d.deleteStatusItem item) := by
  rw [deleteStatusItem]
  split
  · exact framed_deleteConnection (d.stopTasks item.onionName) item.onionName item.socket
  · exact framed_deleteConnection d item.onionName item.socket

variable (who) in
theorem framed_endTransport (d : Device) (t : Transport) :
    ∃ d', d.Framed who d' ∧ d.endTransport t = d'.closeTransport t.socket := by
  rw [endTransport]
  split
  · exact ⟨_, framed_deleteStatusItem d _, rfl⟩
  · exact ⟨d, framed_of_eq rfl, rfl⟩

theorem holds_endTransport (d : Device) (t : Transport) : d.Holds (d.endTransport t) := by
  obtain ⟨d', hframed, heq⟩ := framed_endTransport none d t
  rw [heq]
  exact Machine.reaches_mono ConnOp.keeps_of_within hframed.1

theorem holds_readCell (d : Device) (mail : MailItem) (t : Transport) (cell : Cell) :
    d.Holds (d.readCell mail t cell) := by
  have hsame : d.Holds d := Machine.reaches_refl _
  rw [readCell]
  split
  · exact hsame
  · split
    · split
      · exact holds_endTransport d t
      · exact hsame
    · split
      · split
        · exact hsame
        · exact hsame
      · exact hsame

theorem data_of_parseDataPayload {cell : Cell} {sharedKey : Option Bytes} {plain : Bytes}
    (h : Message.parseDataPayload cell sharedKey = some plain) : ∃ key, cell = .data key plain := by
  unfold Message.parseDataPayload at h
  split at h
  · rename_i key raw sharedKey
    split at h
    · obtain rfl := Option.some.inj h
      exact ⟨key, rfl⟩
    · cases h
  · cases h

theorem readCell_cases (d : Device) (mail : MailItem) (t : Transport) (cell : Cell) :
    d.readCell mail t cell = d ∨ d.readCell mail t cell = d.endTransport t ∨
      ∃ type plain, d.readCell mail t cell = d.handCell mail t type plain ∧
        (type = 0 → Message.parseRemote cell d.privateKey mail.publicKey = some plain) ∧
        (type = 1 → ∃ sharedKey, cell = .data sharedKey plain) := by
  rw [readCell]
  split
  · exact .inl rfl
  · split
    · split
      · exact .inr (.inl rfl)
      · rename_i externalPayload hparse
        exact .inr (.inr ⟨0, externalPayload, rfl, fun _ => hparse, fun h => absurd h (by decide)⟩)
    · split
      · split
        · exact .inl rfl
        · rename_i externalPayload hparse
          exact .inr (.inr ⟨1, externalPayload, rfl, fun h => absurd h (by decide),
            fun _ => data_of_parseDataPayload hparse⟩)
      · exact .inl rfl

theorem framed_reput (d : Device) (item : MessageItem (Option Cell)) :
    d.Framed who (d.reput item) := by
  rw [reput]
  split
  · exact framed_of_eq rfl
  · have htext : d.Framed who (d.failText item) := by
      rw [failText]
      split
      · exact framed_of_eq rfl
      · exact framed_of_eq rfl
    apply framed_trans htext
    dsimp only
    split
    · split
      · exact framed_of_eq rfl
      · exact framed_of_eq rfl
    · exact ⟨Connections.reaches_delete trivial, rfl, rfl⟩

theorem framed_write (d : Device) : d.Framed who (d.write env) := by
  rw [write]
  split
  · exact framed_of_eq rfl
  · rename_i item rest hqueue
    dsimp only
    split
    · exact framed_reput { d with sendQueue := rest } item
    · split
      · exact framed_of_eq rfl
      · exact framed_reput { d with sendQueue := rest } item

variable (P env who) in
theorem framed_startHandShakeProcess (d : Device) (onionName : String) (purpose : Nat) :
    ∃ d' added, d.Framed who d' ∧ d.startHandShakeProcess P env onionName purpose =
      { d' with transports := d'.transports ++ added } := by
  have hsame (d' : Device) : d' = { d' with transports := d'.transports ++ [] } := by
    rw [List.append_nil]
  rw [startHandShakeProcess]
  split
  · split
    · exact ⟨d, [], framed_of_eq rfl, hsame d⟩
    · split
      · exact ⟨_, [], framed_setKeys d _, hsame _⟩
      · dsimp only
        split
        · refine ⟨_, [_], ?_, rfl⟩
          exact framed_of_eq rfl
        · exact ⟨_, [], framed_deleteStatusItem (d.setKeys d.keys.openRequest) _, hsame _⟩
  · exact ⟨d, [], framed_of_eq rfl, hsame d⟩

theorem shell_queueFileMeta (d : Device) (remoteOnion : String) (task : FileTask)
    (messageID : Nat) : (d.queueFileMeta P env remoteOnion task messageID).shell = d.shell := by
  rw [queueFileMeta]
  dsimp only
  split
  · rfl
  · split
    · rfl
    · rfl

theorem framed_handleTextMessageSend (d : Device) (messageContent remoteOnion : String)
    (messageID : Nat) :
    d.Framed who (d.handleTextMessageSend P env messageContent remoteOnion messageID) := by
  rw [handleTextMessageSend]
  split
  · exact ⟨Connections.reaches_create trivial, rfl, rfl⟩
  · split
    · exact framed_of_eq rfl
    · exact framed_of_eq rfl

theorem shell_registerTask (d : Device) (position : Nat) :
    (d.registerTask position).shell = d.shell := by
  rw [registerTask]
  split
  · rfl
  · rfl

def Adds (d : Device) (item : ConnectionStatusItem) : Event → Prop
  | .receiveCell socket cell => item.socket = socket ∧ ∃ t mail, d.transport socket = some t ∧
      t.mailItem = none ∧ d.identify cell = some mail ∧ item.onionName = mail.onionName
  | .connect onionName _ socket => item.socket = socket ∧ (d.mailList.get? onionName).isSome
  | _ => False

def ConnPermitted (d : Device) (e : Event) (_ : Connections) : ConnOp → Prop
  | .add item => d.Adds item e
  | .delete _ _ => True
  | .status _ _ _ _ => True
  | .purpose _ _ _ => True
  | .create _ _ => True

theorem connPermitted_of_keeps {d : Device} {e : Event} (conns : Connections) (op : ConnOp)
    (h : ConnOp.Keeps conns op) : d.ConnPermitted e conns op := by
  cases op with
  | add item => exact absurd h id
  | delete onionName socket => trivial
  | status onionName socket status sharedKey => trivial
  | purpose onionName socket purpose => trivial
  | create onionName purpose => trivial

theorem transport_socket {d : Device} {socket : Nat} {t : Transport}
    (h : d.transport socket = some t) : t.socket = socket := by
  simpa using List.find?_some h

theorem receiveCell_conns_reaches (d : Device) (socket : Nat) (cell : Cell) :
    connMachine.Reaches (d.ConnPermitted (.receiveCell socket cell)) d.conns
      (d.receiveCell socket cell).conns := by
  have hold {d₀ d' : Device} (h : d₀.Holds d') : connMachine.Reaches
      (d.ConnPermitted (.receiveCell socket cell)) d₀.conns d'.conns :=
    Machine.reaches_mono connPermitted_of_keeps h
  have hsame (d' : Device) : d'.Holds d' := Machine.reaches_refl _
  rw [receiveCell]
  split
  · exact hold (hsame d)
  · rename_i t htransport
    split
    · exact hold (hsame d)
    · split
      · exact hold (holds_readCell d _ t cell)
      · rename_i hmail
        split
        · exact hold (hsame d)
        · rename_i mail hidentify
          have hadd : d.Adds { onionName := mail.onionName, socket := t.socket }
              (.receiveCell socket cell) :=
            ⟨transport_socket htransport, t, mail, htransport, hmail, hidentify, rfl⟩
          refine Machine.reaches_trans (Connections.reaches_add hadd) ?_
          exact hold (holds_readCell (d.bindPeer t mail).1 mail (d.bindPeer t mail).2 cell)

theorem step_conns_reaches (d : Device) (e : Event) :
    connMachine.Reaches (d.ConnPermitted e) d.conns (d.step P env e).conns := by
  have hold {d' : Device} (h : d.Holds d') :
      connMachine.Reaches (d.ConnPermitted e) d.conns d'.conns :=
    Machine.reaches_mono connPermitted_of_keeps h
  have hframed {d' : Device} (h : d.Framed none d') :
      connMachine.Reaches (d.ConnPermitted e) d.conns d'.conns := hold (holds_of_framed h)
  have hsame : d.Holds d := Machine.reaches_refl _
  cases e with
  | accept socket => exact hold hsame
  | receiveCell socket cell => exact receiveCell_conns_reaches d socket cell
  | hangUp socket =>
    rw [step, hangUp]
    split
    · exact hold hsame
    · exact hold (holds_endTransport d _)
  | connect onionName purpose socket =>
    rw [step, connect]
    split
    · exact hold hsame
    · rename_i mail hmail
      exact Connections.reaches_add ⟨rfl, Option.isSome_of_eq_some hmail⟩
  | startHandShake onionName purpose =>
    obtain ⟨d', added, hd', heq⟩ := framed_startHandShakeProcess P env none d onionName purpose
    rw [step, heq]
    exact hold (Machine.reaches_mono ConnOp.keeps_of_within hd'.1)
  | read => exact hold (holds_read d)
  | write => exact hframed (framed_write d)
  | sendText messageContent remoteOnion messageID =>
    exact hframed (framed_handleTextMessageSend d messageContent remoteOnion messageID)
  | sendFile fileFullPath content remoteOnion messageID =>
    exact hframed (framed_of_eq (shell_queueFileMeta d remoteOnion _ messageID))
  | sendBytes fileFullPath bitmapBytes remoteOnion messageID =>
    exact hframed (framed_of_eq (shell_queueFileMeta d remoteOnion _ messageID))
  | register position => exact hframed (framed_of_eq (shell_registerTask d position))
  | tryResendAll => exact hframed (framed_of_eq (shell_tryResendAll _ d))

theorem named_deviceStep {d : Device} (h : d.conns.Named) (e : Event) :
    (d.step P env e).conns.Named :=
  Connections.named_of_reaches (step_conns_reaches d e) h

end Device

end TorChat
