import TorChat.Server.Step
import TorChat.Util.DemoPlatform

namespace TorChat

open Library (Bytes HashMap)

namespace SendCalls

section Model

variable (P : Platform) (env : Env)

-- every send call is made for one peer under one message number
structure Addressee where
  remoteOnion : String
  messageID : Nat
  deriving DecidableEq, Repr

-- reading the share key of a connection that was not found throws
def textReturns (d : Device) (remoteOnion : String) : Bool :=
  (d.conns.getConnectionStatusItemByOnionName remoteOnion Constant.socketPurposeText).isSome

def sendText (d : Device) (messageContent : String) (peer : Addressee) : Device × Bool :=
  (d.handleTextMessageSend P env messageContent peer.remoteOnion peer.messageID,
    textReturns d peer.remoteOnion)

-- printing the share key for the META throws when it is null
def metaReturns (d : Device) (remoteOnion : String) : Bool :=
  match d.fileConnection remoteOnion with
  | none => true
  | some statusItem => statusItem.shareKey.isSome

-- the call as one thread runs it: its META, then its own senderFileMap.put
def sendTask (d : Device) (task : FileTask) (peer : Addressee) : Device × Bool :=
  if metaReturns d peer.remoteOnion then
    ((d.queueFileMeta P env peer.remoteOnion task peer.messageID).registerTask d.registering.length,
      true)
  else (d.queueFileMeta P env peer.remoteOnion task peer.messageID, false)

-- a file that cannot be read has no content
inductive Source where
  | file (fileFullPath : String) (content : Option Bytes)
  | bytes (fileFullPath : String) (bitmapBytes : Bytes)
  deriving DecidableEq, Repr

-- the constructor prints the hash of the file, which throws when getFileSHA1 returned null
def Source.task (d : Device) (peer : Addressee) : Source → Option FileTask
  | .file fileFullPath content =>
      content.map (fun content =>
        FileTask.ofFile P d.keys.keyFile peer.remoteOnion fileFullPath content peer.messageID)
  | .bytes fileFullPath bitmapBytes =>
      some (FileTask.ofBitmap P d.keys.keyFile peer.remoteOnion fileFullPath bitmapBytes
        peer.messageID)

inductive Call where
  | text (messageContent : String)
  | task (source : Source)
  deriving DecidableEq, Repr

def run (d : Device) (peer : Addressee) : Call → Device × Bool
  | .text messageContent => sendText P env d messageContent peer
  | .task source =>
      match source.task P d peer with
      | none => (d, false)
      | some task => sendTask P env d task peer

end Model

section Statement

variable (P : Platform) (d d' : Device) (peer : Addressee)

inductive InOnePlace (messageContent : String) : Prop where
  | queued (item : MessageItem (Option Cell)) (hpeer : item.onionName = peer.remoteOnion)
      (htext : item.rawMessage = messageContent) (hdata : item.data.isSome)
      (hqueue : d'.sendQueue = d.sendQueue ++ [item]) (hnotices : d'.notices = d.notices)
      (hfailed : d'.failedQueue = d.failedQueue)
  | offline (hqueue : d'.sendQueue = d.sendQueue)
      (hnotices : d'.notices =
        d.notices ++ [.offlineText peer.remoteOnion messageContent peer.messageID])
      (hfailed : d'.failedQueue = d.failedQueue)
  | failed (hqueue : d'.sendQueue = d.sendQueue) (hnotices : d'.notices = d.notices)
      (hfailed : d'.failedQueue = d.failedQueue ++ [{
        onionName := peer.remoteOnion, rawMessage := messageContent }])

structure Registered (task : FileTask) : Prop where
  listed : ∃ status, d'.senderFileMap.get? task.fileName = some (task.setStatus status) ∧
    (d'.sendQueue = d.sendQueue → status = .notStart)
  kept : ∀ name old, d.senderFileMap.get? name = some old → old.status ≠ .compelete →
    d'.senderFileMap.get? name = some old

def Placed : Call → Prop
  | .text messageContent => InOnePlace d d' peer messageContent
  | .task source => ∃ task ∈ source.task P d peer, Registered d d' task

def NotLost (env : Env) (call : Call) : Prop :=
  (run P env d peer call).2 = true ∧ Placed P d (run P env d peer call).1 peer call

-- without a connection for its META the task is registered as not started
def firstStatus : TaskStatus :=
  if (d.fileConnection peer.remoteOnion).isNone then .notStart else .stop

-- a text finds a connection, keyed or not; a file can be read and finds none or a keyed one, and
-- under its name no unfinished task is registered but an identical one
def Handled : Call → Prop
  | .text _ => textReturns d peer.remoteOnion = true
  | .task source => ∃ task ∈ source.task P d peer, metaReturns d peer.remoteOnion = true ∧
      ∀ old, d.senderFileMap.get? task.fileName = some old →
        old.status = .compelete ∨ old = task.setStatus (firstStatus d peer)

end Statement

section Texts

variable (P : Platform) (env : Env) {d : Device} {peer : Addressee} {messageContent : String}

theorem text_in_one_place (h : textReturns d peer.remoteOnion = true) :
    InOnePlace d (sendText P env d messageContent peer).1 peer messageContent := by
  obtain ⟨statusItem, hfound⟩ := Option.isSome_iff_exists.mp h
  rw [sendText, Device.handleTextMessageSend, hfound]
  dsimp only
  cases hkey : statusItem.shareKey with
  | none => exact .offline rfl rfl rfl
  | some sharedKey => exact .queued _ rfl rfl rfl rfl rfl rfl

end Texts

section Tasks

variable (P : Platform) (env : Env) {d : Device} {peer : Addressee} {task : FileTask}

theorem registerTask_own {d' : Device} (task : FileTask)
    (h : d'.registering = d.registering ++ [task]) :
    (d'.registerTask d.registering.length).senderFileMap =
      d'.senderFileMap.put task.fileName task ∧
    (d'.registerTask d.registering.length).sendQueue = d'.sendQueue := by
  have hget : d'.registering[d.registering.length]? = some task := by
    rw [h, List.getElem?_concat_length]
  rw [Device.registerTask, hget]
  exact ⟨rfl, rfl⟩

theorem senderFileMap_sendTask (hstatus : task.status = .stop)
    (h : metaReturns d peer.remoteOnion = true) :
    (sendTask P env d task peer).1.senderFileMap =
        d.senderFileMap.put task.fileName (task.setStatus (firstStatus d peer)) ∧
      ((sendTask P env d task peer).1.sendQueue = d.sendQueue →
        firstStatus d peer = .notStart) := by
  rw [sendTask, if_pos h, firstStatus]
  rw [metaReturns] at h
  cases hfound : d.fileConnection peer.remoteOnion with
  | none =>
    have hqueued : (d.queueFileMeta P env peer.remoteOnion task peer.messageID).registering =
        d.registering ++ [task.setStatus .notStart] := by
      rw [Device.queueFileMeta, hfound]
      rfl
    obtain ⟨hmap, -⟩ := registerTask_own _ hqueued
    refine ⟨hmap.trans ?_, fun _ => rfl⟩
    rw [Device.queueFileMeta, hfound]
    rfl
  | some statusItem =>
    rw [hfound] at h
    obtain ⟨sharedKey, hkey⟩ := Option.isSome_iff_exists.mp h
    have hsame : task.setStatus .stop = task := by rw [FileTask.setStatus, ← hstatus]
    have hqueued : (d.queueFileMeta P env peer.remoteOnion task peer.messageID).registering =
        d.registering ++ [task] := by
      rw [Device.queueFileMeta, hfound]
      dsimp only
      rw [hkey]
      rfl
    obtain ⟨hmap, hqueue⟩ := registerTask_own _ hqueued
    have hmeta : (d.queueFileMeta P env peer.remoteOnion task peer.messageID).sendQueue =
        d.sendQueue ++ [Device.metaItem P env peer.remoteOnion statusItem.socket sharedKey task
          peer.messageID] ∧
        (d.queueFileMeta P env peer.remoteOnion task peer.messageID).senderFileMap =
          d.senderFileMap := by
      rw [Device.queueFileMeta, hfound]
      dsimp only
      rw [hkey]
      exact ⟨rfl, rfl⟩
    refine ⟨?_, fun hnone => ?_⟩
    · rw [hmap, hmeta.2]
      simp only [Option.isNone_some, Bool.false_eq_true, if_false, hsame]
    · rw [hqueue, hmeta.1] at hnone
      exact absurd hnone (by simp)

theorem registered_iff (hstatus : task.status = .stop)
    (h : metaReturns d peer.remoteOnion = true) :
    Registered d (sendTask P env d task peer).1 task ↔
      ∀ old, d.senderFileMap.get? task.fileName = some old →
        old.status = .compelete ∨ old = task.setStatus (firstStatus d peer) := by
  obtain ⟨hmap, hqueue⟩ := senderFileMap_sendTask P env hstatus h
  constructor
  · intro hregistered old hold
    by_contra hlost
    push Not at hlost
    have hkept := hregistered.kept _ old hold hlost.1
    rw [hmap, HashMap.get?_put_self] at hkept
    exact hlost.2 (Option.some.inj hkept).symm
  · intro hsame
    refine ⟨⟨firstStatus d peer, ?_, hqueue⟩, ?_⟩
    · rw [hmap, HashMap.get?_put_self]
    · intro name old hold hunfinished
      rw [hmap, HashMap.get?_put]
      split
      · rename_i hname
        rw [hname] at hold
        rw [(hsame old hold).resolve_left hunfinished]
      · exact hold

theorem status_task {source : Source} (h : source.task P d peer = some task) :
    task.status = .stop := by
  cases source with
  | file fileFullPath content =>
    obtain ⟨readable, -, rfl⟩ := Option.map_eq_some_iff.mp h
    rfl
  | bytes fileFullPath bitmapBytes =>
    obtain rfl := Option.some.inj h
    rfl

end Tasks

theorem send_not_lost_iff (P : Platform) (env : Env) (d : Device) (peer : Addressee)
    (call : Call) : NotLost P d peer env call ↔ Handled P d peer call := by
  cases call with
  | text messageContent =>
    constructor
    · intro h
      exact h.1
    · intro h
      exact ⟨h, text_in_one_place P env h⟩
  | task source =>
    rw [NotLost, Placed, Handled, run]
    cases htask : source.task P d peer with
    | none =>
      refine iff_of_false (fun h => absurd h.1 Bool.false_ne_true) ?_
      rintro ⟨task, hmem, -⟩
      exact absurd hmem (Option.not_mem_none task)
    | some task =>
      simp only [Option.mem_def, Option.some.injEq, exists_eq_left']
      by_cases hreturns : metaReturns d peer.remoteOnion = true
      · rw [registered_iff P env (status_task P htask) hreturns, and_iff_right hreturns]
        refine and_iff_right ?_
        rw [sendTask, if_pos hreturns]
      · refine iff_of_false (fun h => ?_) (fun h => hreturns h.1)
        rw [sendTask, if_neg hreturns] at h
        exact absurd h.1 Bool.false_ne_true

def unconnected : Device where
  onionName := "me"
  privateKey := ⟨0⟩
  keys := { keyFile := [5] }

-- the first text to a peer throws and is neither queued, handed over nor kept as failed
theorem first_text_lost : ¬ ∀ P env d peer call, NotLost P d peer env call := by
  intro h
  have hsent := h demoPlatform {} unconnected ⟨"p1", 1⟩ (.text "hi")
  have hthrows : textReturns unconnected "p1" = false := by decide +kernel
  exact absurd (hthrows.symm.trans hsent.1) Bool.false_ne_true

end SendCalls

end TorChat
