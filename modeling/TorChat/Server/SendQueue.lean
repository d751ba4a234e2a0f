import TorChat.Server.Emissions

namespace TorChat

open Library (Bytes HashMap)

namespace Device

section Append

-- the sending threads only append to the queue, and every appended item carries a cell
def AppendsCells (d d' : Device) : Prop :=
  ∃ items, d'.sendQueue = d.sendQueue ++ items ∧ ∀ i ∈ items, i.data.isSome

variable {d₀ d d' : Device}

theorem appendsCells_of_eq (h : d'.sendQueue = d.sendQueue) : AppendsCells d d' :=
  ⟨[], h.trans (List.append_nil _).symm, fun _ hi => absurd hi List.not_mem_nil⟩

theorem appendsCells_trans (h : AppendsCells d₀ d) (h' : AppendsCells d d') :
    AppendsCells d₀ d' := by
  obtain ⟨items, hqueue, hitems⟩ := h
  obtain ⟨items', hqueue', hitems'⟩ := h'
  refine ⟨items ++ items', by rw [hqueue', hqueue, List.append_assoc], ?_⟩
  intro i hi
  rcases List.mem_append.mp hi with hold | hnew
  · exact hitems i hold
  · exact hitems' i hnew

theorem appendsCells_enqueue (h : d.sendQueue = d₀.sendQueue)
    {items : List (MessageItem (Option Cell))} (hitems : ∀ i ∈ items, i.data.isSome) :
    AppendsCells d₀ (d.enqueue items) :=
  ⟨items, by rw [enqueue, h], hitems⟩

theorem appendsCells_enqueuePieces (h : d.sendQueue = d₀.sendQueue)
    {items : List (MessageItem (Option Cell))} (hitems : ∀ i ∈ items, i.data.isSome) :
    AppendsCells d₀ (d.enqueuePieces items) :=
  ⟨items, by rw [enqueuePieces, enqueue, setKeys, h], hitems⟩

theorem sendQueue_sendMessage {sent : Bool} {onionName : String} {socket : Nat} {cell : Cell}
    {f : Device → Device} (h : (f (d.transmit socket cell)).sendQueue = d.sendQueue) :
    (d.sendMessage sent onionName socket cell f).sendQueue = d.sendQueue := by
  rw [sendMessage]
  split
  · exact h
  · rfl

end Append

section Resend

variable {P : Platform} {env : Env} {conn : ConnectionStatusItem} {sharedKey : Bytes}

theorem isSome_pieceItem {keys : KeyState} {onionName : String} {socket : Nat}
    {hs : Option HandShakeMessage} {sharedKey : Option Bytes} {fileNameHash : Bytes}
    {messageID : Nat} {pieces : HashMap Nat Bytes} {is : List Nat} (hkey : sharedKey.isSome)
    {i : MessageItem (Option Cell)} (h : i ∈ (pieceItems (pieceItem P env keys onionName socket hs
      sharedKey fileNameHash messageID) pieces is).1) : i.data.isSome := by
  obtain ⟨n, fileContent, -, rfl⟩ := mem_pieceItems h
  obtain ⟨key, rfl⟩ := Option.isSome_iff_exists.mp hkey
  rfl

theorem appendsCells_resend {d₀ : Device} (d : Device) (h : d.sendQueue = d₀.sendQueue)
    (task : FileTask) (statusItem : ConnectionStatusItem) (messageID : Nat) :
    AppendsCells d₀ (d.resend P env task statusItem messageID).1 := by
  rw [resend]
  split
  · exact appendsCells_of_eq h
  · exact appendsCells_enqueuePieces h (fun i hi => isSome_pieceItem rfl hi)

theorem appendsCells_resendTask (d : Device) (onionName : String) (task : FileTask) :
    AppendsCells d (d.resendTask P env onionName conn sharedKey task).1 := by
  rw [resendTask]
  split
  · exact appendsCells_of_eq rfl
  · cases task.direction with
    | send =>
      dsimp only
      split
      · split
        · exact appendsCells_of_eq rfl
        · refine appendsCells_enqueue rfl (fun i hi => ?_)
          rw [List.mem_singleton.mp hi]
          rfl
      · split
        · exact appendsCells_of_eq rfl
        · exact appendsCells_resend _ rfl task conn _
    | recieve =>
      dsimp only
      split
      · split
        · exact appendsCells_of_eq rfl
        · refine ⟨_, rfl, fun i hi => ?_⟩
          rw [List.mem_singleton.mp hi]
          rfl
      · exact appendsCells_of_eq rfl

theorem appendsCells_resendTasks (onionName : String) (tasks : List FileTask) (d : Device) :
    AppendsCells d (resendTasks P env onionName conn sharedKey tasks d).1 := by
  induction tasks generalizing d with
  | nil => exact appendsCells_of_eq rfl
  | cons task tasks ih =>
    have htask : AppendsCells d (d.resendTask P env onionName conn sharedKey task).1 :=
      appendsCells_resendTask d onionName task
    rw [resendTasks]
    split
    · rename_i d' hd
      rw [hd] at htask
      exact appendsCells_trans htask (ih d')
    · rename_i d' hd
      rw [hd] at htask
      exact htask

variable (P env) in
theorem appendsCells_tryResend (d : Device) (onionName : String) :
    AppendsCells (d.resendTexts P env onionName) (d.tryResend P env onionName).1 := by
  rw [tryResend]
  split
  · split
    · exact appendsCells_resendTasks onionName _ _
    · exact appendsCells_of_eq rfl
  · exact appendsCells_of_eq rfl

end Resend

section Handlers

variable {P : Platform} {env : Env} {d : Device} {item : MessageItem Bytes}
  {statusItem : ConnectionStatusItem} {messageID messageType : Nat} {internalPayload : Bytes}

theorem sendQueue_prepareReceiveFile (d : Device) (internalPayload : Bytes)
    (statusItem : ConnectionStatusItem) (item : MessageItem Bytes) (messageID : Nat) :
    (d.prepareReceiveFile P env internalPayload statusItem item messageID).sendQueue =
      d.sendQueue := by
  rw [prepareReceiveFile]
  split
  · rfl
  · dsimp only
    split
    · rfl
    · split
      · rfl
      · rename_i finalPayload _
        exact (sendQueue_sendMessage rfl).trans rfl

theorem sendQueue_receiveAllFileShards (d : Device) (task : FileTask)
    (statusItem : ConnectionStatusItem) (item : MessageItem Bytes) (messageID : Nat) :
    (d.receiveAllFileShards P env task statusItem item messageID).sendQueue = d.sendQueue := by
  rw [receiveAllFileShards]
  split
  · dsimp only
    split
    · rfl
    · split
      · rfl
      · split
        · rfl
        · rfl
  · rfl

theorem sendQueue_receiveFileShards (d : Device) (internalPayload : Bytes)
    (statusItem : ConnectionStatusItem) (item : MessageItem Bytes) (messageID : Nat) :
    (d.receiveFileShards P env internalPayload statusItem item messageID).sendQueue =
      d.sendQueue := by
  have hnotify (c : Prop) [Decidable c] (d : Device) (notice : Notice) :
      (if c then d.notify notice else d).sendQueue = d.sendQueue := by
    split
    · rfl
    · rfl
  rw [receiveFileShards]
  split
  · rfl
  · dsimp only
    split
    · rfl
    · split
      · rfl
      · split
        · exact hnotify _ _ _
        · rw [sendQueue_receiveAllFileShards]
          split
          · exact hnotify _ _ _
          · exact hnotify _ _ _

theorem appendsCells_sendFileShards (d : Device) (internalPayload : Bytes)
    (item : MessageItem Bytes) (messageID : Nat) (hkey : statusItem.shareKey.isSome) :
    AppendsCells d (d.sendFileShards P env internalPayload statusItem item messageID) := by
  rw [sendFileShards]
  split
  · exact appendsCells_of_eq rfl
  · dsimp only
    split
    · exact appendsCells_of_eq rfl
    · split
      · exact appendsCells_of_eq rfl
      · exact appendsCells_enqueuePieces rfl (fun i hi => isSome_pieceItem hkey hi)

theorem appendsCells_receiveAck (d : Device) (internalPayload : Bytes)
    (statusItem : ConnectionStatusItem) (item : MessageItem Bytes) (messageID : Nat) :
    AppendsCells d (d.receiveAck P env internalPayload statusItem item messageID) := by
  rw [receiveAck]
  split
  · exact appendsCells_of_eq rfl
  · rename_i message _
    split
    · rw [receiveFileAck]
      split
      · exact appendsCells_of_eq rfl
      · rename_i found _
        split
        · dsimp only
          split
          · refine appendsCells_enqueue rfl (fun i hi => ?_)
            rw [List.mem_singleton.mp hi]
            rfl
          · exact appendsCells_of_eq rfl
        · split
          · exact appendsCells_resend d rfl found statusItem messageID
          · exact appendsCells_of_eq rfl
    · exact appendsCells_of_eq rfl

theorem appendsCells_dispatchDataMessage (hkey : statusItem.shareKey.isSome) :
    AppendsCells d
      (d.dispatchDataMessage P env statusItem item messageID messageType internalPayload) := by
  rw [dispatchDataMessage]
  split
  · exact appendsCells_of_eq (congrArg FileState.sendQueue
      (files_receiveTextMessage d internalPayload statusItem item messageID))
  split
  · exact appendsCells_of_eq (sendQueue_prepareReceiveFile d internalPayload statusItem item _)
  split
  · exact appendsCells_sendFileShards d internalPayload item messageID hkey
  split
  · exact appendsCells_of_eq (sendQueue_receiveFileShards d internalPayload statusItem item _)
  split
  · rw [receiveFileDone]
    split
    · exact appendsCells_of_eq rfl
    · split
      · exact appendsCells_of_eq rfl
      · exact appendsCells_of_eq rfl
  split
  · exact appendsCells_receiveAck d internalPayload statusItem item messageID
  · exact appendsCells_of_eq rfl

variable (P env) in
theorem appendsCells_dataMessageHandle (d : Device) (item : MessageItem Bytes) :
    AppendsCells d (d.dataMessageHandle P env item) := by
  rcases dataMessageHandle_cases P env d item with
    hsame | ⟨statusItem, messageID, messageType, internalPayload, hreads, heq⟩
  · exact appendsCells_of_eq (by rw [hsame])
  · rw [heq]
    exact appendsCells_dispatchDataMessage (Option.isNone_eq_false_iff.mp hreads.key)

theorem sendQueue_of_mail {d d' : Device} (h : d'.mail = d.mail) : d'.sendQueue = d.sendQueue :=
  congrArg (fun mail => mail.2.2.1) h

end Handlers

end Device

end TorChat
