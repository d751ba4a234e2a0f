import TorChat.Server.SendQueue
import TorChat.Transfer.Resume

namespace TorChat

open Library (Bytes HashMap Machine)

namespace DataBeforeKeys

section Statement

variable (P : Platform)

def NonNull (d : Device) : Prop := ∀ i ∈ d.sendQueue, i.data.isSome

-- when the peer has failed texts and a connection is found for them, it has its key
def TextsKeyed (d : Device) (peer : String) : Prop :=
  ∀ conn, d.conns.getConnectionStatusItemByOnionName peer Constant.socketPurposeText = some conn →
    conn.shareKey.isSome ∨ ∀ tmp ∈ d.failedQueue, tmp.onionName ≠ peer

-- a keyed peer with a waiting receive task: its resume ends in an exception
def Throws (d : Device) (peer : String) : Prop :=
  Resume.HasKey d peer ∧ ∃ task ∈ d.senderFileMap.values, task.Waits peer

-- up to the first contact whose resume throws
def WalkKeyed (d : Device) : List String → Prop
  | [] => True
  | peer :: rest => TextsKeyed d peer ∧ (¬ Throws d peer → WalkKeyed d rest)

-- the key with which a handshake cell makes the session ready
def agreed (env : Env) (item : MessageItem Bytes) : Option (Option Bytes) :=
  match Message.parseMessageType item.data, Message.parseExternalPaylod P item.data with
  | some messageType, some internalPayload =>
      if messageType = Constant.sessionExchange then
        match HandShakeMessage.parseSessionExchangePaylod internalPayload,
          item.handShakeMessage with
        | some sharedKey, some _ => if env.sent 0 then some (some sharedKey) else none
        | _, _ => none
      else if messageType = Constant.sessionDone ∧ internalPayload.length = 0 then some none
      else none
  | _, _ => none

def keyAgreed (d : Device) (item : MessageItem Bytes) (sharedKey : Option Bytes) : Device :=
  { d with conns := d.conns.updateStatus item.onionName item.socket 1 sharedKey }

def Resumable (d : Device) (e : Env × Device.Event) : Prop :=
  match e.2 with
  | .read => ∀ item ∈ d.recieveQueue.head?, item.type = 0 → ∀ sharedKey ∈ agreed P e.1 item,
      TextsKeyed (keyAgreed d item sharedKey) item.onionName
  | .tryResendAll => WalkKeyed d (d.mailList.values.map (fun mail => mail.onionName))
  | _ => True

end Statement

section Peer

variable {P : Platform} {env : Env} {d d' : Device} {peer : String}

theorem nonNull_appends (h : Device.AppendsCells d d') : NonNull d' ↔ NonNull d := by
  obtain ⟨items, hqueue, hitems⟩ := h
  constructor
  · intro hd i hi
    exact hd i (by rw [hqueue]; exact List.mem_append_left _ hi)
  · intro hd i hi
    rw [hqueue] at hi
    rcases List.mem_append.mp hi with hold | hnew
    · exact hd i hold
    · exact hitems i hnew

theorem nonNull_resendTexts_iff (h : NonNull d) :
    NonNull (d.resendTexts P env peer) ↔ TextsKeyed d peer := by
  rw [Device.resendTexts, TextsKeyed]
  cases hconn : d.conns.getConnectionStatusItemByOnionName peer Constant.socketPurposeText with
  | none =>
    refine ⟨fun _ conn hfound => ?_, fun _ => h⟩
    cases hfound
  | some conn =>
    constructor
    · intro hqueue found hfound
      obtain rfl := Option.some.inj hfound
      by_contra hlost
      push Not at hlost
      obtain ⟨hkey, tmp, htmp, honion⟩ := hlost
      have hmine : tmp ∈ d.failedQueue.filter (fun tmp => tmp.onionName = peer) :=
        List.mem_filter.mpr ⟨htmp, decide_eq_true honion⟩
      obtain ⟨n, hn, hget⟩ := List.mem_iff_getElem.mp hmine
      have hnull := hqueue _ (List.mem_append_right _ (List.mem_mapIdx.mpr ⟨n, hn, rfl⟩))
      exact hkey (Option.isSome_map.symm.trans hnull)
    · intro hkeyed i hi
      rcases List.mem_append.mp hi with hold | hnew
      · exact h i hold
      · obtain ⟨n, hn, rfl⟩ := List.mem_mapIdx.mp hnew
        rcases hkeyed conn rfl with hkey | hnone
        · exact Option.isSome_map.trans hkey
        · have hmine := List.mem_filter.mp (List.getElem_mem hn)
          exact absurd (of_decide_eq_true hmine.2) (hnone _ hmine.1)

theorem nonNull_tryResend_iff (h : NonNull d) :
    NonNull (d.tryResend P env peer).1 ↔ TextsKeyed d peer :=
  (nonNull_appends (Device.appendsCells_tryResend P env d peer)).trans (nonNull_resendTexts_iff h)

theorem failedQueue_resendTexts {tmp : FailedTextMessage}
    (h : tmp ∈ (d.resendTexts P env peer).failedQueue) : tmp ∈ d.failedQueue := by
  rw [Device.resendTexts] at h
  split at h
  · exact (List.mem_filter.mp h).1
  · exact h

theorem failedQueue_resendTexts_of_ne {tmp : FailedTextMessage} (h : tmp ∈ d.failedQueue)
    (hne : tmp.onionName ≠ peer) : tmp ∈ (d.resendTexts P env peer).failedQueue := by
  rw [Device.resendTexts]
  split
  · exact List.mem_filter.mpr ⟨h, decide_eq_true hne⟩
  · exact h

theorem failedQueue_tryResend (d : Device) :
    (d.tryResend P env peer).1.failedQueue = (d.resendTexts P env peer).failedQueue := by
  obtain ⟨keys, queue, map, hresumed⟩ := Device.resumed_tryResend P env d peer
  rw [hresumed]

-- what is left of the failed texts after one peer's resume is what the other peers had
theorem textsKeyed_tryResend (hkeyed : TextsKeyed d peer) (other : String) :
    TextsKeyed (d.tryResend P env peer).1 other ↔ TextsKeyed d other := by
  rw [TextsKeyed, TextsKeyed, Device.conns_tryResend]
  constructor
  · intro h conn hconn
    by_cases hother : other = peer
    · rw [hother] at hconn ⊢
      exact hkeyed conn hconn
    · refine (h conn hconn).imp_right (fun hnone tmp htmp honion => ?_)
      refine hnone tmp ?_ honion
      rw [failedQueue_tryResend]
      exact failedQueue_resendTexts_of_ne htmp (honion ▸ hother)
  · intro h conn hconn
    refine (h conn hconn).imp_right (fun hnone tmp htmp => hnone tmp ?_)
    rw [failedQueue_tryResend] at htmp
    exact failedQueue_resendTexts htmp

end Peer

section Walk

variable {P : Platform} {env : Env} {d : Device} {peer : String}

structure Healthy (d : Device) : Prop where
  sound : d.Sound
  built : d.files.All FileTask.Built FileTask.Built

theorem built_values (h : Healthy d) : ∀ task ∈ d.senderFileMap.values, task.Built := by
  intro task htask
  obtain ⟨name, hget⟩ := HashMap.mem_values.mp htask
  exact h.built.1 name task hget

theorem healthy_tryResend (h : Healthy d) : Healthy (d.tryResend P env peer).1 := by
  have hreaches := Device.tryResend_reaches P env h.sound.1 h.sound.2 peer
  have hboth := Machine.reaches_invariant
    (I := fun s => s.Keyed ∧ s.All FileTask.Built FileTask.Built)
    (fun s op hs hop => ⟨FileState.keyed_step s op hs.1, FileState.all_step hs.1 (fun _ ht => ht)
      hs.2 (FileState.admits_resumes (fun _ _ ht => ht) hs.2 hop)⟩) hreaches
    ⟨h.sound.1, h.built⟩
  refine ⟨⟨hboth.1, ?_⟩, hboth.2⟩
  rw [Device.conns_tryResend]
  exact h.sound.2

theorem tryResend_keyless (h : ¬ Resume.HasKey d peer) :
    d.tryResend P env peer = (d.resendTexts P env peer, true) := by
  rw [Device.tryResend, Device.conns_resendTexts]
  split
  · rename_i conn hconn
    split
    · rename_i sharedKey hkey
      obtain ⟨items, hitems, hfind⟩ := Option.bind_eq_some_iff.mp hconn
      exact absurd ⟨items, hitems, conn, ConnectionItems.mem_of_getConnByPurpose hfind,
        Option.isSome_iff_exists.mpr ⟨sharedKey, hkey⟩⟩ h
    · rfl
  · rfl

theorem tryResend_completes_iff (h : Healthy d) :
    (d.tryResend P env peer).2 = true ↔ ¬ Throws d peer := by
  constructor
  · rintro hcompletes ⟨hkey, task, htask, hwaits⟩
    have hstuck := Resume.tryResend_waits P env hkey htask (built_values h task htask) hwaits
    cases hcompletes.symm.trans hstuck
  · intro hthrows
    by_cases hkey : Resume.HasKey d peer
    · have hnone : ∀ task ∈ d.senderFileMap.values, ¬ task.Waits peer :=
        fun task htask hwaits => hthrows ⟨hkey, task, htask, hwaits⟩
      exact (Resume.tryResend_total h.sound hkey (built_values h) hnone).completes
    · rw [tryResend_keyless hkey]

theorem waits_resumed {task : FileTask} (h : ¬ task.Waits peer) (other : String) :
    (task.resumed peer).Waits other ↔ task.Waits other := by
  rw [FileTask.resumed]
  split
  · rename_i honion
    split
    · rfl
    · rename_i hsend _
      constructor
      · rintro ⟨-, hdirection, -⟩
        cases hsend.symm.trans hdirection
      · rintro ⟨-, hdirection, -⟩
        cases hsend.symm.trans hdirection
    · rename_i hdirection hstatus
      exact absurd ⟨honion, hdirection, hstatus⟩ h
    · rfl
  · rfl

theorem waiting_tryResend (h : Healthy d) (hthrows : ¬ Throws d peer) (other : String) :
    (∃ task ∈ (d.tryResend P env peer).1.senderFileMap.values, task.Waits other) ↔
      ∃ task ∈ d.senderFileMap.values, task.Waits other := by
  by_cases hkey : Resume.HasKey d peer
  · have hnone : ∀ task ∈ d.senderFileMap.values, ¬ task.Waits peer :=
      fun task htask hwaits => hthrows ⟨hkey, task, htask, hwaits⟩
    have htotal : Resume.Total P peer d (d.tryResend P env peer) :=
      Resume.tryResend_total h.sound hkey (built_values h) hnone
    constructor
    · rintro ⟨task, htask, hwaits⟩
      obtain ⟨name, hget⟩ := HashMap.mem_values.mp htask
      rw [htotal.tasks] at hget
      obtain ⟨old, hold, rfl⟩ := Option.map_eq_some_iff.mp hget
      have hmem : old ∈ d.senderFileMap.values := HashMap.mem_values.mpr ⟨name, hold⟩
      exact ⟨old, hmem, (waits_resumed (hnone old hmem) other).mp hwaits⟩
    · rintro ⟨task, htask, hwaits⟩
      obtain ⟨name, hget⟩ := HashMap.mem_values.mp htask
      refine ⟨task.resumed peer, HashMap.mem_values.mpr ⟨name, ?_⟩,
        (waits_resumed (hnone task htask) other).mpr hwaits⟩
      rw [htotal.tasks, hget, Option.map_some]
  · obtain ⟨texts, -, -, hmap⟩ := Resume.resendTexts_noCk P env peer d
    rw [tryResend_keyless hkey, hmap]

theorem throws_tryResend (h : Healthy d) (hthrows : ¬ Throws d peer) (other : String) :
    Throws (d.tryResend P env peer).1 other ↔ Throws d other := by
  rw [Throws, Throws, waiting_tryResend h hthrows, Resume.HasKey, Resume.HasKey,
    Device.conns_tryResend]

theorem walkKeyed_tryResend (h : Healthy d) (hkeyed : TextsKeyed d peer)
    (hthrows : ¬ Throws d peer) (peers : List String) :
    WalkKeyed (d.tryResend P env peer).1 peers ↔ WalkKeyed d peers := by
  induction peers with
  | nil => rfl
  | cons other rest ih =>
    rw [WalkKeyed, WalkKeyed, textsKeyed_tryResend hkeyed, throws_tryResend h hthrows, ih]

theorem sendQueue_resendTexts_grows (d : Device) :
    d.sendQueue <+: (d.resendTexts P env peer).sendQueue := by
  rw [Device.resendTexts]
  split
  · exact List.prefix_append _ _
  · exact List.prefix_rfl

theorem sendQueue_tryResend_grows (d : Device) :
    d.sendQueue <+: (d.tryResend P env peer).1.sendQueue := by
  obtain ⟨items, hqueue, -⟩ := Device.appendsCells_tryResend P env d peer
  rw [hqueue]
  exact (sendQueue_resendTexts_grows d).trans (List.prefix_append _ _)

theorem sendQueue_tryResendAll_grows (peers : List String) (d : Device) :
    d.sendQueue <+: (Device.tryResendAll P env peers d).sendQueue := by
  induction peers generalizing d with
  | nil => exact List.prefix_rfl
  | cons peer rest ih =>
    have hpeer : d.sendQueue <+: (d.tryResend P env peer).1.sendQueue :=
      sendQueue_tryResend_grows d
    rw [Device.tryResendAll]
    split
    · rename_i d' hd
      rw [hd] at hpeer
      exact hpeer.trans (ih d')
    · rename_i d' hd
      rw [hd] at hpeer
      exact hpeer

theorem nonNull_of_grows {d' : Device} (hgrows : d.sendQueue <+: d'.sendQueue)
    (h : NonNull d') : NonNull d := fun i hi => h i (hgrows.subset hi)

theorem nonNull_tryResendAll_iff (peers : List String) (d : Device) (hd : Healthy d)
    (h : NonNull d) : NonNull (Device.tryResendAll P env peers d) ↔ WalkKeyed d peers := by
  induction peers generalizing d with
  | nil => exact ⟨fun _ => trivial, fun _ => h⟩
  | cons peer rest ih =>
    have hpeer : NonNull (d.tryResend P env peer).1 ↔ TextsKeyed d peer := nonNull_tryResend_iff h
    have hcompletes : (d.tryResend P env peer).2 = true ↔ ¬ Throws d peer :=
      tryResend_completes_iff hd
    have hnext : Healthy (d.tryResend P env peer).1 := healthy_tryResend hd
    have hwalk : TextsKeyed d peer → ¬ Throws d peer →
        (WalkKeyed (d.tryResend P env peer).1 rest ↔ WalkKeyed d rest) :=
      fun hkeyed hthrows => walkKeyed_tryResend hd hkeyed hthrows rest
    rw [WalkKeyed, ← hpeer, ← hcompletes, Device.tryResendAll]
    rw [← hpeer, ← hcompletes] at hwalk
    generalize d.tryResend P env peer = result at hnext hwalk
    obtain ⟨d', complete⟩ := result
    cases complete with
    | false =>
      refine ⟨fun hnull => ⟨hnull, fun hfalse => ?_⟩, fun hboth => hboth.1⟩
      cases hfalse
    | true =>
      constructor
      · intro hall
        have hnull : NonNull d' := nonNull_of_grows (sendQueue_tryResendAll_grows rest d') hall
        exact ⟨hnull, fun hdone => (hwalk hnull hdone).mp ((ih d' hnext hnull).mp hall)⟩
      · rintro ⟨hnull, hrest⟩
        exact (ih d' hnext hnull).mpr ((hwalk hnull rfl).mpr (hrest rfl))

end Walk

section Handshake

variable {P : Platform} {env : Env} {d d' : Device}

theorem nonNull_of_eq (hqueue : d'.sendQueue = d.sendQueue) (h : NonNull d) : NonNull d' :=
  fun i hi => h i (hqueue ▸ hi)

theorem nonNull_connectReady (result : Device × Bool) :
    NonNull (Device.connectReady result) ↔ NonNull result.1 := by
  obtain ⟨d, complete⟩ := result
  cases complete with
  | false => exact Iff.rfl
  | true => exact Iff.rfl

theorem nonNull_established_iff (h : NonNull d) (item : MessageItem Bytes)
    (sharedKey : Option Bytes) :
    NonNull (Device.connectReady (d.updateSocketStatus P env item 1 sharedKey)) ↔
      TextsKeyed (keyAgreed d item sharedKey) item.onionName := by
  rw [nonNull_connectReady, Device.updateSocketStatus]
  exact nonNull_tryResend_iff (d := keyAgreed d item sharedKey) h

theorem sendQueue_receiveSessionRequest (d : Device) (item : MessageItem Bytes) :
    (d.receiveSessionRequest P env item).sendQueue = d.sendQueue := by
  rw [Device.receiveSessionRequest]
  split
  · dsimp only
    split
    · rfl
    · exact (Device.sendQueue_sendMessage rfl).trans rfl
  · rfl

theorem sendQueue_receiveSessionAuth (d : Device) (item : MessageItem Bytes)
    (internalPayload : Bytes) :
    (d.receiveSessionAuth P env item internalPayload).sendQueue = d.sendQueue := by
  rw [Device.receiveSessionAuth]
  split
  · dsimp only
    split
    · exact (Device.sendQueue_sendMessage rfl).trans rfl
    · rfl
  · rfl

variable (P env) in
theorem nonNull_handShakeMessageHandle_iff (h : NonNull d) (item : MessageItem Bytes) :
    NonNull (d.handShakeMessageHandle P env item) ↔
      ∀ sharedKey ∈ agreed P env item,
        TextsKeyed (keyAgreed d item sharedKey) item.onionName := by
  have hquiet {d' : Device} (hqueue : d'.sendQueue = d.sendQueue) :
      NonNull d' ↔ ∀ sharedKey ∈ (none : Option (Option Bytes)),
        TextsKeyed (keyAgreed d item sharedKey) item.onionName := by
    refine ⟨fun _ sharedKey hkey => ?_, fun _ => nonNull_of_eq hqueue h⟩
    cases hkey
  have hready {d' : Device} {sharedKey : Option Bytes}
      (hnext : NonNull d' ↔ TextsKeyed (keyAgreed d item sharedKey) item.onionName) :
      NonNull d' ↔ ∀ key ∈ some sharedKey,
        TextsKeyed (keyAgreed d item key) item.onionName := by
    rw [hnext]
    refine ⟨fun hkeyed key hkey => ?_, fun hkeyed => hkeyed sharedKey rfl⟩
    rw [← Option.some.inj hkey]
    exact hkeyed
  rw [Device.handShakeMessageHandle, agreed]
  cases Message.parseMessageType item.data with
  | none => exact hquiet rfl
  | some messageType =>
    cases Message.parseExternalPaylod P item.data with
    | none => exact hquiet rfl
    | some internalPayload =>
      dsimp only
      by_cases hexchange : messageType = Constant.sessionExchange
      · subst hexchange
        rw [if_neg (by decide), if_neg (by decide), if_pos rfl, if_pos rfl,
          Device.receiveSessionExchange]
        cases HandShakeMessage.parseSessionExchangePaylod internalPayload with
        | none => exact hquiet rfl
        | some sharedKey =>
          cases item.handShakeMessage with
          | none => exact hquiet rfl
          | some handShakeMessage =>
            dsimp only
            rw [Device.sendMessage]
            split
            · exact hready (nonNull_established_iff (d := d.transmit _ _) h item (some sharedKey))
            · exact hquiet rfl
      · rw [if_neg hexchange, if_neg hexchange]
        split
        · rename_i hrequest
          rw [if_neg (fun hdone => absurd (hrequest.symm.trans hdone.1) (by decide))]
          exact hquiet (sendQueue_receiveSessionRequest d item)
        split
        · rename_i hauth
          rw [if_neg (fun hdone => absurd (hauth.symm.trans hdone.1) (by decide))]
          exact hquiet (sendQueue_receiveSessionAuth d item internalPayload)
        split
        · rename_i hdone
          rw [Device.receiveSessionDone]
          split
          · rename_i hempty
            rw [if_pos ⟨hdone, hempty⟩]
            exact hready (nonNull_established_iff h item none)
          · rename_i hfull
            rw [if_neg (fun hboth => hfull hboth.2)]
            exact hquiet rfl
        · rename_i hother
          rw [if_neg (fun hboth => hother hboth.1)]
          exact hquiet rfl

end Handshake

section Steps

variable {P : Platform} {env : Env} {d : Device}

theorem nonNull_read_iff (h : NonNull d) :
    NonNull (d.read P env) ↔ Resumable P d (env, .read) := by
  rw [Resumable]
  cases hqueue : d.recieveQueue with
  | nil =>
    have hread : d.read P env = d := by rw [Device.read, hqueue]
    rw [hread]
    refine ⟨fun _ item hitem => ?_, fun _ => h⟩
    cases hitem
  | cons item rest =>
    rw [Device.read, hqueue]
    dsimp only
    have hhead : ∀ found ∈ (item :: rest).head?, found = item :=
      fun found hfound => (Option.some.inj hfound).symm
    by_cases htype : item.type = 0
    · rw [if_pos htype]
      have hhandled := nonNull_handShakeMessageHandle_iff P env
        (d := { d with recieveQueue := rest }) h item
      rw [hhandled]
      constructor
      · intro hkeyed found hfound _
        rw [hhead found hfound]
        exact hkeyed
      · intro hguard
        exact hguard item rfl htype
    · rw [if_neg htype]
      refine ⟨fun _ found hfound hzero => ?_, fun _ => ?_⟩
      · exact absurd (hhead found hfound ▸ hzero) htype
      · split
        · exact (nonNull_appends (Device.appendsCells_dataMessageHandle P env
            { d with recieveQueue := rest } item)).mpr h
        · exact h

theorem nonNull_write (h : NonNull d) : NonNull (d.write env) := by
  rw [Device.write]
  split
  · exact h
  · rename_i item rest hqueue
    have hrest : NonNull { d with sendQueue := rest } :=
      fun i hi => h i (hqueue ▸ List.mem_cons_of_mem item hi)
    have hreput : NonNull (Device.reput { d with sendQueue := rest } item) :=
      nonNull_of_eq (Device.sendQueue_of_mail (Device.mail_reput _ item)) hrest
    dsimp only
    split
    · exact hreput
    · split
      · exact hrest
      · exact hreput

theorem sendQueue_startHandShakeProcess (d : Device) (onionName : String) (purpose : Nat) :
    (d.startHandShakeProcess P env onionName purpose).sendQueue = d.sendQueue := by
  rw [Device.startHandShakeProcess]
  split
  · split
    · rfl
    · split
      · rfl
      · dsimp only
        split
        · rfl
        · exact Device.sendQueue_of_mail (Device.mail_deleteStatusItem _ _)
  · rfl

theorem appendsCells_handleTextMessageSend (d : Device) (messageContent remoteOnion : String)
    (messageID : Nat) :
    Device.AppendsCells d
      (d.handleTextMessageSend P env messageContent remoteOnion messageID) := by
  rw [Device.handleTextMessageSend]
  split
  · exact Device.appendsCells_of_eq rfl
  · split
    · exact Device.appendsCells_of_eq rfl
    · refine Device.appendsCells_enqueue rfl (fun i hi => ?_)
      rw [List.mem_singleton.mp hi]
      rfl

theorem appendsCells_queueFileMeta (d : Device) (remoteOnion : String) (task : FileTask)
    (messageID : Nat) :
    Device.AppendsCells d (d.queueFileMeta P env remoteOnion task messageID) := by
  rw [Device.queueFileMeta]
  dsimp only
  split
  · exact Device.appendsCells_of_eq rfl
  · split
    · exact Device.appendsCells_of_eq rfl
    · refine ⟨_, rfl, fun i hi => ?_⟩
      rw [List.mem_singleton.mp hi]
      rfl

theorem nonNull_step_iff (hd : Healthy d) (h : NonNull d) (e : Env × Device.Event) :
    NonNull (d.step P e.1 e.2) ↔ Resumable P d e := by
  obtain ⟨env, event⟩ := e
  have hsame {d' : Device} (hqueue : d'.sendQueue = d.sendQueue) : NonNull d' ↔ True :=
    iff_true_intro (nonNull_of_eq hqueue h)
  have happends {d' : Device} (hqueue : Device.AppendsCells d d') : NonNull d' ↔ True :=
    iff_true_intro ((nonNull_appends hqueue).mpr h)
  cases event with
  | accept socket => exact hsame rfl
  | receiveCell socket cell =>
    exact hsame (Device.sendQueue_of_mail (Device.mail_receiveCell d socket cell))
  | hangUp socket =>
    refine hsame ?_
    rw [Device.step, Device.hangUp]
    split
    · rfl
    · exact Device.sendQueue_of_mail (Device.mail_endTransport d _)
  | connect onionName purpose socket =>
    refine hsame ?_
    rw [Device.step, Device.connect]
    split
    · rfl
    · rfl
  | startHandShake onionName purpose =>
    refine hsame ?_
    rw [Device.step]
    exact sendQueue_startHandShakeProcess d onionName purpose
  | read => exact nonNull_read_iff h
  | write => exact iff_true_intro (nonNull_write h)
  | sendText messageContent remoteOnion messageID =>
    exact happends (appendsCells_handleTextMessageSend d messageContent remoteOnion messageID)
  | sendFile fileFullPath content remoteOnion messageID =>
    exact happends (appendsCells_queueFileMeta d remoteOnion _ messageID)
  | sendBytes fileFullPath bitmapBytes remoteOnion messageID =>
    exact happends (appendsCells_queueFileMeta d remoteOnion _ messageID)
  | register position =>
    refine hsame ?_
    rw [Device.step, Device.registerTask]
    split
    · rfl
    · rfl
  | tryResendAll => exact nonNull_tryResendAll_iff _ d hd h

end Steps

theorem healthy_step {P : Platform} {d : Device} {env : Env} (h : Healthy d)
    (e : Device.Event) : Healthy (d.step P env e) :=
  ⟨Device.sound_step h.sound e, Resume.built_step h.sound h.built e⟩

-- no null item in any state that a run passes through
theorem no_null_item_iff (P : Platform) {d : Device} (hd : Resume.Started d)
    (hqueue : d.sendQueue = []) (events : List (Env × Device.Event)) :
    (∀ before, before <+: events → NonNull ((Device.machine P).run d before)) ↔
      (Device.machine P).Guarded (Resumable P) d events := by
  have hhealthy : Healthy d := by
    obtain ⟨hsound, hbuilt⟩ := Resume.built_run (P := P) hd []
    exact ⟨hsound, hbuilt⟩
  have hstart : NonNull d := by
    intro i hi
    rw [hqueue] at hi
    cases hi
  exact ((Device.machine P).guarded_iff_prefixes (I := NonNull) (J := Healthy)
    (fun q e hq => healthy_step hq e.2) (fun q e hq hnull => nonNull_step_iff hq hnull e) events
    hhealthy hstart).symm

def reconnected : List (Env × Device.Event) :=
  [({}, .sendText "hi" "p1" 7), ({ sent := fun _ => false }, .write),
    ({}, .connect "p1" Constant.socketPurposeText 3)]

theorem walkKeyed_of_keyed {d : Device} {peers : List String}
    (h : ∀ peer ∈ peers, (d.conns.getConnectionStatusItemByOnionName peer
      Constant.socketPurposeText).all (fun conn => conn.shareKey.isSome) = true) :
    WalkKeyed d peers := by
  induction peers with
  | nil => trivial
  | cons peer rest ih =>
    obtain ⟨hpeer, hrest⟩ := List.forall_mem_cons.mp h
    refine ⟨fun conn hconn => .inl ?_, fun _ => ih hrest⟩
    rw [hconn] at hpeer
    exact hpeer

-- a second connection to the peer is keyed as well
def doublyConnected : Device :=
  { TaskIsolation.twoPeers with
    conns := TaskIsolation.twoPeers.conns.addNewConnection (TaskIsolation.established "p1" 3 [3]) }

-- the text fails on one connection and is packed again for the other
def resent : List (Env × Device.Event) :=
  [({}, .sendText "hi" "p1" 7), ({ sent := fun _ => false }, .write), ({}, .tryResendAll)]

theorem no_null_item_iff_resent :
    let d := (Device.machine demoPlatform).run doublyConnected resent
    NonNull d ∧ d.sendQueue.map (fun i => i.socket) = [3] := by
  have hstarted : Resume.Started doublyConnected :=
    ⟨rfl, rfl, Connections.named_addNewConnection TaskIsolation.sound_twoPeers.2 _⟩
  have hkeyed : Resumable demoPlatform ((Device.machine demoPlatform).run doublyConnected
      (resent.take 2)) (({} : Env), .tryResendAll) := walkKeyed_of_keyed (by decide +kernel)
  exact ⟨(no_null_item_iff demoPlatform hstarted rfl resent).mpr
    ⟨trivial, trivial, hkeyed, trivial⟩ resent List.prefix_rfl, by decide +kernel⟩

-- the text failed on the broken connection and is packed for the new one before its handshake
theorem reconnect_queues_null_item :
    ¬ ∀ (P : Platform) (d : Device), Resume.Started d → d.sendQueue = [] →
      ∀ events before : List (Env × Device.Event), before <+: events →
        NonNull ((Device.machine P).run d before) := by
  intro h
  have hnull : ∃ i ∈ ((Device.machine demoPlatform).run TaskIsolation.twoPeers
      (reconnected ++ [(({} : Env), .tryResendAll)])).sendQueue, i.data = none := by
    decide +kernel
  obtain ⟨i, hi, hdata⟩ := hnull
  have hsome := h demoPlatform _ Resume.started_twoPeers rfl _ _ List.prefix_rfl i hi
  rw [hdata] at hsome
  cases hsome

end DataBeforeKeys

end TorChat
