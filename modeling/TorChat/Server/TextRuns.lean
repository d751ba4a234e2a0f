import TorChat.Server.TextQueue
import TorChat.Library.Ledger
import TorChat.Util.DemoPlatform

namespace TorChat

open Library (Bytes HashMap Machine)

namespace Device

variable {P : Platform} {env : Env} {d : Device}

def pending (d : Device) : List FailedTextMessage := texts d.sendQueue ++ d.failedQueue

-- a text that finds a keyed connection is queued; the others never reach sendQueue
def accepted (d : Device) (e : Env × Event) : List FailedTextMessage :=
  match e.2 with
  | .sendText messageContent remoteOnion _ =>
      match d.conns.getConnectionStatusItemByOnionName remoteOnion Constant.socketPurposeText with
      | some statusItem =>
          if statusItem.shareKey.isSome then
            [{ onionName := remoteOnion, rawMessage := messageContent }]
          else []
      | none => []
  | _ => []

def posted (d : Device) (e : Env × Event) : List (MessageItem (Option Cell)) :=
  match e.2, d.sendQueue with
  | .write, item :: _ => if item.isText && item.data.isSome && e.1.sent 0 then [item] else []
  | _, _ => []

def DataOnly (d : Device) : Prop := ∀ i ∈ d.sendQueue, i.type = 1

-- what is queued is no text, or the cell encloses the text of its item
def Enclosing (P : Platform) (d : Device) : Prop :=
  ∀ i ∈ d.sendQueue, i.NoText ∨
    i.type = 1 ∧ i.isText = true ∧ ∃ sharedKey, i.Encloses P sharedKey

-- the text cells among the written ones are, in order, those of the items
inductive Posts (P : Platform) : List (Nat × Cell) → List (MessageItem (Option Cell)) → Prop
  | nil : Posts P [] []
  | other {x : Nat × Cell} {cells : List (Nat × Cell)} {items : List (MessageItem (Option Cell))}
      (h : ¬ x.2.IsText) (hrest : Posts P cells items) : Posts P (x :: cells) items
  | text {item : MessageItem (Option Cell)} {cell : Cell} {cells : List (Nat × Cell)}
      {items : List (MessageItem (Option Cell))} (hdata : item.data = some cell)
      (htext : cell.IsText) (hencloses : ∃ sharedKey, item.Encloses P sharedKey)
      (hrest : Posts P cells items) : Posts P ((item.socket, cell) :: cells) (item :: items)

theorem posts_append {cells cells' : List (Nat × Cell)}
    {items items' : List (MessageItem (Option Cell))} (h : Posts P cells items)
    (h' : Posts P cells' items') : Posts P (cells ++ cells') (items ++ items') := by
  induction h with
  | nil => exact h'
  | other hother _ ih => exact .other hother ih
  | text hdata htext hencloses _ ih => exact .text hdata htext hencloses ih

theorem posts_noText {cells : List (Nat × Cell)} (h : ∀ x ∈ cells, ¬ x.2.IsText) :
    Posts P cells [] := by
  induction cells with
  | nil => exact .nil
  | cons x cells ih =>
    exact .other (h x List.mem_cons_self) (ih (fun y hy => h y (List.mem_cons_of_mem x hy)))

theorem isText_of_encloses {item : MessageItem (Option Cell)} {sharedKey : Option Bytes}
    {cell : Cell} (h : item.Encloses P sharedKey) (hdata : item.data = some cell) :
    cell.IsText := by
  obtain ⟨amb, keys, internalPayload, messageID, -, hpack⟩ := h
  rw [hdata, eq_comm, Message.packDataPayload, Option.map_eq_some_iff] at hpack
  obtain ⟨key, -, rfl⟩ := hpack
  exact ⟨key, _, rfl, Message.parseMessageType_externalPayload P amb (by decide)⟩

theorem pending_of_moves {X : MessageItem (Option Cell) → Prop} {d d' : Device}
    (h : Moves X d d') : d'.pending.Perm d.pending := by
  obtain ⟨items, hqueue, hfailed, -⟩ := h.queue
  rw [pending, pending, hqueue, texts_append, List.append_assoc]
  exact hfailed.append_left _

theorem dataOnly_of_enclosing (hd : d.Enclosing P) : d.DataOnly :=
  fun i hi => (hd i hi).elim (fun hplain => hplain.1) (fun htext => htext.1)

theorem enclosing_of_moves {d' : Device} (hd : d.Enclosing P) (h : Requeues P d d') :
    d'.Enclosing P := by
  obtain ⟨items, hqueue, -, hitems⟩ := h.queue
  intro i hi
  rw [hqueue] at hi
  rcases List.mem_append.mp hi with hold | hnew
  · exact hd i hold
  · refine (hitems i hnew).imp_right ?_
    rintro ⟨htype, htext, statusItem, -, -, hencloses⟩
    exact ⟨htype, htext, _, hencloses⟩

structure Reputs (d d' : Device) (item : MessageItem (Option Cell)) : Prop where
  written : d'.written = d.written
  sendQueue : d'.sendQueue = d.sendQueue
  failedQueue : d'.failedQueue = d.failedQueue ++ texts [item]

theorem reputs_reput (d : Device) {item : MessageItem (Option Cell)} (htype : item.type = 1) :
    Reputs d (d.reput item) item := by
  have hfail : Reputs d (d.failText item) item := by
    rw [failText]
    split
    · rename_i hpurpose
      have htext : item.isText = true := decide_eq_true hpurpose
      refine ⟨rfl, rfl, ?_⟩
      rw [texts, List.filter_cons_of_pos htext]
      rfl
    · rename_i hpurpose
      have htext : ¬ item.isText = true := by
        rw [MessageItem.isText, decide_eq_true_iff]
        exact hpurpose
      refine ⟨rfl, rfl, ?_⟩
      rw [texts, List.filter_cons_of_neg htext]
      exact (List.append_nil _).symm
  obtain ⟨hwritten, hqueue, hfailed⟩ := hfail
  have hne : ¬ item.type = 0 := by omega
  rw [reput, if_neg hne]
  dsimp only
  split
  · split
    · exact ⟨hwritten, hqueue, hfailed⟩
    · exact ⟨hwritten, hqueue, hfailed⟩
  · exact ⟨hwritten, hqueue, hfailed⟩

inductive Writes (env : Env) (d d' : Device) : Prop where
  | idle (hqueue : d.sendQueue = []) (hsame : d' = d)
  | written (item : MessageItem (Option Cell)) (rest : List (MessageItem (Option Cell)))
      (cell : Cell) (hqueue : d.sendQueue = item :: rest) (hcell : item.data = some cell)
      (hsent : env.sent 0 = true)
      (hview : d'.textView = (d.written ++ [(item.socket, cell)], rest, d.failedQueue))
  | failed (item : MessageItem (Option Cell)) (rest : List (MessageItem (Option Cell)))
      (hqueue : d.sendQueue = item :: rest) (hfails : item.data.isSome = false ∨ env.sent 0 = false)
      (hview : d'.textView = (d.written, rest, d.failedQueue ++ texts [item]))

theorem writes_write (hd : d.DataOnly) : Writes env d (d.write env) := by
  rw [write]
  split
  · rename_i hqueue
    exact .idle hqueue rfl
  · rename_i item rest hqueue
    have htype : item.type = 1 := hd item (hqueue ▸ List.mem_cons_self)
    have hreput : (reput { d with sendQueue := rest } item).textView =
        (d.written, rest, d.failedQueue ++ texts [item]) := by
      obtain ⟨hwritten, hsend, hfailed⟩ := reputs_reput { d with sendQueue := rest } htype
      rw [textView, hwritten, hsend, hfailed]
    dsimp only
    split
    · rename_i hdata
      exact .failed item rest hqueue (.inl (by rw [hdata]; rfl)) hreput
    · rename_i cell hcell
      split
      · rename_i hsent
        exact .written item rest cell hqueue hcell hsent rfl
      · rename_i hsent
        exact .failed item rest hqueue (.inr (by simpa using hsent)) hreput

theorem texts_cons (item : MessageItem (Option Cell))
    (items : List (MessageItem (Option Cell))) :
    texts (item :: items) = texts [item] ++ texts items := texts_append [item] items

theorem texts_singleton (item : MessageItem (Option Cell)) :
    texts [item] = if item.isText then [item.text] else [] := by
  rw [texts]
  cases htext : item.isText with
  | true =>
    rw [List.filter_cons_of_pos htext]
    rfl
  | false =>
    rw [List.filter_cons_of_neg (by rw [htext]; decide)]
    rfl

theorem pending_write (hd : d.DataOnly) :
    ((d.write env).pending ++ (posted d (env, .write)).map MessageItem.text).Perm d.pending := by
  rcases writes_write hd with ⟨hqueue, hsame⟩ | ⟨item, rest, cell, hqueue, hcell,
    hsent, hview⟩ | ⟨item, rest, hqueue, hfails, hview⟩
  · have hposted : posted d (env, .write) = [] := by
      simp only [posted, hqueue]
    rw [hsame, hposted, List.map_nil, List.append_nil]
  · obtain ⟨-, hsend, hfailed⟩ : (d.write env).written = _ ∧ (d.write env).sendQueue = rest ∧
        (d.write env).failedQueue = d.failedQueue := by
      simpa [textView] using hview
    have hposted : (posted d (env, .write)).map MessageItem.text = texts [item] := by
      simp only [posted, hqueue, hcell, hsent, texts_singleton, Option.isSome_some, Bool.and_true]
      split <;> rfl
    rw [pending, pending, hsend, hfailed, hposted, hqueue, texts_cons item rest,
      List.append_assoc (texts [item])]
    exact List.perm_append_comm
  · obtain ⟨-, hsend, hfailed⟩ : (d.write env).written = _ ∧ (d.write env).sendQueue = rest ∧
        (d.write env).failedQueue = d.failedQueue ++ texts [item] := by
      simpa [textView] using hview
    have hposted : posted d (env, .write) = [] := by
      have hnot : (item.isText && item.data.isSome && env.sent 0) = false := by
        rcases hfails with hdata | hsent
        · rw [hdata, Bool.and_false, Bool.false_and]
        · rw [hsent, Bool.and_false]
      simp only [posted, hqueue, hnot, Bool.false_eq_true, if_false]
    rw [pending, pending, hsend, hfailed, hposted, hqueue, texts_cons item rest, List.map_nil,
      List.append_nil, ← List.append_assoc, List.append_assoc (texts [item])]
    exact List.perm_append_comm

variable (P env) in
theorem requeues_step (d : Device) {e : Event} (hwrite : e ≠ .write)
    (htext : ∀ messageContent remoteOnion messageID,
      e ≠ .sendText messageContent remoteOnion messageID) :
    Requeues P d (d.step P env e) := by
  cases e with
  | accept socket => exact moves_of_view rfl
  | receiveCell socket cell => exact requeues_of_moves (moves_receiveCell d socket cell)
  | hangUp socket =>
    rw [step, hangUp]
    split
    · exact requeues_refl d
    · exact requeues_of_moves (moves_of_view (textView_endTransport d _))
  | connect onionName purpose socket =>
    rw [step, connect]
    split
    · exact requeues_refl d
    · exact moves_of_view rfl
  | startHandShake onionName purpose =>
    exact requeues_of_moves (moves_startHandShakeProcess P env d onionName purpose)
  | read => exact requeues_read d
  | write => exact absurd rfl hwrite
  | sendText messageContent remoteOnion messageID =>
    exact absurd rfl (htext messageContent remoteOnion messageID)
  | sendFile fileFullPath content remoteOnion messageID =>
    exact requeues_of_moves (moves_queueFileMeta P env d remoteOnion _ messageID)
  | sendBytes fileFullPath bitmapBytes remoteOnion messageID =>
    exact requeues_of_moves (moves_queueFileMeta P env d remoteOnion _ messageID)
  | register position =>
    rw [step, registerTask]
    split
    · exact requeues_refl d
    · exact moves_of_view rfl
  | tryResendAll =>
    have hconns : (tryResendAll P env (d.mailList.values.map (fun mail => mail.onionName)) d).conns =
        d.conns := congrArg Prod.fst (shell_tryResendAll _ d)
    rw [step, Requeues, hconns]
    exact moves_tryResendAll P env _ d

inductive SendsText (P : Platform) (d d' : Device) (message : FailedTextMessage) : Prop where
  | refused (haccepted : ∀ statusItem, d.conns.getConnectionStatusItemByOnionName
      message.onionName Constant.socketPurposeText = some statusItem →
        statusItem.shareKey.isSome = false) (hview : d'.textView = d.textView)
  | queued (item : MessageItem (Option Cell)) (statusItem : ConnectionStatusItem)
      (hkeyed : d.conns.getConnectionStatusItemByOnionName message.onionName
        Constant.socketPurposeText = some statusItem ∧ statusItem.shareKey.isSome = true)
      (hview : d'.textView = (d.written, d.sendQueue ++ [item], d.failedQueue))
      (htype : item.type = 1) (htext : item.isText = true) (hmessage : item.text = message)
      (hsealed : item.Sealed P d'.conns)

variable (P env) in
theorem sendsText_handleTextMessageSend (d : Device) (messageContent remoteOnion : String)
    (messageID : Nat) :
    SendsText P d (d.handleTextMessageSend P env messageContent remoteOnion messageID)
      { onionName := remoteOnion, rawMessage := messageContent } := by
  rw [handleTextMessageSend]
  split
  · rename_i hnone
    refine .refused ?_ rfl
    intro statusItem hsome
    dsimp only at hsome
    rw [hnone] at hsome
    cases hsome
  · rename_i statusItem hsome
    split
    · rename_i hkey
      refine .refused ?_ rfl
      intro other hother
      dsimp only at hother
      rw [hsome] at hother
      obtain rfl := Option.some.inj hother
      rw [hkey]
      rfl
    · rename_i sharedKey hkey
      dsimp only
      refine .queued _ statusItem ⟨hsome, by rw [hkey]; rfl⟩ rfl rfl rfl rfl ?_
      refine ⟨statusItem, hsome, rfl, env.ambient 0, d.keys, _, messageID, .inr rfl, ?_⟩
      rw [hkey]
      rfl

theorem accepted_sendText {messageContent remoteOnion : String} {messageID : Nat} :
    accepted d (env, .sendText messageContent remoteOnion messageID) =
      match d.conns.getConnectionStatusItemByOnionName remoteOnion Constant.socketPurposeText with
      | some statusItem =>
          if statusItem.shareKey.isSome then
            [{ onionName := remoteOnion, rawMessage := messageContent }]
          else []
      | none => [] := rfl

theorem pending_sendText (d : Device) (messageContent remoteOnion : String) (messageID : Nat) :
    (d.handleTextMessageSend P env messageContent remoteOnion messageID).pending.Perm
      (d.pending ++ accepted d (env, .sendText messageContent remoteOnion messageID)) := by
  rcases sendsText_handleTextMessageSend P env d messageContent remoteOnion messageID with
    ⟨hrefused, hview⟩ | ⟨item, statusItem, hkeyed, hview, -, htext, hmessage, -⟩
  · have haccepted : accepted d (env, .sendText messageContent remoteOnion messageID) = [] := by
      rw [accepted_sendText]
      split
      · rename_i statusItem hsome
        have hkey := hrefused statusItem hsome
        rw [if_neg (by rw [hkey]; decide)]
      · rfl
    rw [haccepted, List.append_nil]
    exact pending_of_moves (X := MessageItem.NoText) (moves_of_view hview)
  · obtain ⟨-, hsend, hfailed⟩ :
        (d.handleTextMessageSend P env messageContent remoteOnion messageID).written = _ ∧
        (d.handleTextMessageSend P env messageContent remoteOnion messageID).sendQueue =
          d.sendQueue ++ [item] ∧
        (d.handleTextMessageSend P env messageContent remoteOnion messageID).failedQueue =
          d.failedQueue := by
      simpa [textView] using hview
    dsimp only at hkeyed
    rw [accepted_sendText, hkeyed.1]
    dsimp only
    rw [if_pos hkeyed.2, pending, pending, hsend, hfailed, texts_append, texts_singleton,
      if_pos htext, hmessage, List.append_assoc, List.append_assoc]
    exact List.perm_append_comm.append_left _

theorem posted_of_ne {e : Event} (h : e ≠ .write) : posted d (env, e) = [] := by
  cases e with
  | write => exact absurd rfl h
  | _ => rfl

theorem pending_step (hd : d.DataOnly) (e : Env × Event) :
    ((d.step P e.1 e.2).pending ++ (posted d e).map MessageItem.text).Perm
      (d.pending ++ accepted d e) := by
  obtain ⟨env, e⟩ := e
  by_cases hwrite : e = .write
  · subst hwrite
    have haccepted : accepted d (env, .write) = [] := rfl
    rw [haccepted, List.append_nil]
    exact pending_write hd
  · rw [posted_of_ne hwrite, List.map_nil, List.append_nil]
    cases e with
    | sendText messageContent remoteOnion messageID =>
      exact pending_sendText d messageContent remoteOnion messageID
    | _ =>
      have haccepted : ∀ e : Event, (∀ messageContent remoteOnion messageID,
          e ≠ .sendText messageContent remoteOnion messageID) → accepted d (env, e) = [] := by
        intro e he
        cases e with
        | sendText messageContent remoteOnion messageID =>
          exact absurd rfl (he messageContent remoteOnion messageID)
        | _ => rfl
      rw [haccepted _ (fun _ _ _ => by simp), List.append_nil]
      exact pending_of_moves (requeues_step P env d hwrite (fun _ _ _ => by simp))

theorem enclosing_write (hd : d.Enclosing P) : (d.write env).Enclosing P := by
  have hkept {items : List (MessageItem (Option Cell))} {item : MessageItem (Option Cell)}
      (hqueue : d.sendQueue = item :: items) (hsend : (d.write env).sendQueue = items) :
      (d.write env).Enclosing P := by
    rw [Enclosing, hsend]
    exact fun i hi => hd i (hqueue ▸ List.mem_cons_of_mem item hi)
  rcases writes_write (dataOnly_of_enclosing hd) with ⟨hqueue, hsame⟩ |
    ⟨item, rest, cell, hqueue, hcell, hsent, hview⟩ | ⟨item, rest, hqueue, hfails, hview⟩
  · rw [hsame]
    exact hd
  · exact hkept hqueue (congrArg (fun view => view.2.1) hview)
  · exact hkept hqueue (congrArg (fun view => view.2.1) hview)

theorem enclosing_sendText (hd : d.Enclosing P) (messageContent remoteOnion : String)
    (messageID : Nat) :
    (d.handleTextMessageSend P env messageContent remoteOnion messageID).Enclosing P := by
  rcases sendsText_handleTextMessageSend P env d messageContent remoteOnion messageID with
    ⟨-, hview⟩ | ⟨item, statusItem, -, hview, htype, htext, -, hsealed⟩
  · have hsend := congrArg (fun view => view.2.1) hview
    dsimp only [textView] at hsend
    rw [Enclosing, hsend]
    exact hd
  · have hsend := congrArg (fun view => view.2.1) hview
    dsimp only [textView] at hsend
    rw [Enclosing, hsend]
    refine List.forall_mem_append.mpr ⟨hd, ?_⟩
    intro i hi
    obtain ⟨_, -, -, hencloses⟩ := hsealed
    rw [List.mem_singleton.mp hi]
    exact .inr ⟨htype, htext, _, hencloses⟩

theorem enclosing_step (hd : d.Enclosing P) (e : Env × Event) :
    (d.step P e.1 e.2).Enclosing P := by
  obtain ⟨env, e⟩ := e
  by_cases hwrite : e = .write
  · subst hwrite
    exact enclosing_write hd
  · cases e with
    | sendText messageContent remoteOnion messageID =>
      exact enclosing_sendText hd messageContent remoteOnion messageID
    | _ => exact enclosing_of_moves hd (requeues_step P env d hwrite (fun _ _ _ => by simp))

theorem posts_write (hd : d.Enclosing P) : ∃ cells, (d.write env).written = d.written ++ cells ∧
    Posts P cells (posted d (env, .write)) := by
  rcases writes_write (dataOnly_of_enclosing hd) with ⟨hqueue, hsame⟩ |
    ⟨item, rest, cell, hqueue, hcell, hsent, hview⟩ | ⟨item, rest, hqueue, hfails, hview⟩
  · refine ⟨[], by rw [hsame, List.append_nil], ?_⟩
    simp only [posted, hqueue]
    exact .nil
  · refine ⟨[(item.socket, cell)], congrArg Prod.fst hview, ?_⟩
    simp only [posted, hqueue, hcell, hsent, Option.isSome_some, Bool.and_true]
    rcases hd item (hqueue ▸ List.mem_cons_self) with hplain | ⟨-, htext, hencloses⟩
    · rw [if_neg (by rw [hplain.2.1]; decide)]
      exact .other (hplain.2.2 cell hcell) .nil
    · rw [if_pos htext]
      exact .text hcell (isText_of_encloses hencloses.choose_spec hcell) hencloses .nil
  · refine ⟨[], (congrArg Prod.fst hview).trans (List.append_nil _).symm, ?_⟩
    have hnot : (item.isText && item.data.isSome && env.sent 0) = false := by
      rcases hfails with hdata | hsent
      · rw [hdata, Bool.and_false, Bool.false_and]
      · rw [hsent, Bool.and_false]
    simp only [posted, hqueue, hnot, Bool.false_eq_true, if_false]
    exact .nil

theorem posts_step (hd : d.Enclosing P) (e : Env × Event) :
    ∃ cells, (d.step P e.1 e.2).written = d.written ++ cells ∧ Posts P cells (posted d e) := by
  obtain ⟨env, e⟩ := e
  by_cases hwrite : e = .write
  · subst hwrite
    exact posts_write hd
  · rw [posted_of_ne hwrite]
    cases e with
    | sendText messageContent remoteOnion messageID =>
      refine ⟨[], ?_, .nil⟩
      rw [List.append_nil]
      rcases sendsText_handleTextMessageSend P env d messageContent remoteOnion messageID with
        ⟨-, hview⟩ | ⟨item, statusItem, -, hview, -⟩
      · exact congrArg Prod.fst hview
      · exact congrArg Prod.fst hview
    | _ =>
      obtain ⟨cells, hwritten, hcells⟩ :=
        (requeues_step P env d hwrite (fun _ _ _ => by simp)).written
      exact ⟨cells, hwritten, posts_noText hcells⟩

theorem texts_conserved (P : Platform) {d : Device} (hd : d.Enclosing P)
    (events : List (Env × Event)) :
    let d' := (machine P).run d events
    ∃ cells sent, d'.written = d.written ++ cells ∧ Posts P cells sent ∧
      (d'.pending ++ sent.map MessageItem.text).Perm
        (d.pending ++ (machine P).emitted accepted d events) := by
  have hI (d : Device) (e : Env × Event) (hd : d.Enclosing P) :
      ((machine P).step d e).Enclosing P := enclosing_step hd e
  have hlog (d : Device) (e : Env × Event) (hd : d.Enclosing P) :
      ∃ cells, ((machine P).step d e).written = d.written ++ cells ∧ Posts P cells (posted d e) :=
    posts_step hd e
  obtain ⟨cells, hwritten, hposts⟩ := (machine P).emitted_logged .nil posts_append hI hlog events hd
  refine ⟨cells, (machine P).emitted posted d events, hwritten, hposts, ?_⟩
  rw [← (machine P).emitted_map]
  exact (machine P).emitted_conserved hI
    (fun d e hd => pending_step (dataOnly_of_enclosing hd) e) events hd

def befriended : Device where
  onionName := "alice"
  privateKey := ⟨1⟩
  keys := { keyFile := [5] }
  mailList := HashMap.put ∅ "bob" (.ofContact demoPlatform "bob" ⟨2⟩)
  conns := (({} : Connections).addNewConnection {
    onionName := "bob", socket := 7, shareKey := some [1] }).addNewConnection {
      onionName := "bob", socket := 8, shareKey := some [2] }

-- the first write fails, and the text goes out again on the other connection
def resending : List (Env × Event) :=
  [({}, .sendText "hi" "bob" 1), ({ sent := fun _ => false }, .write), ({}, .tryResendAll),
    ({}, .write)]

theorem texts_conserved_resent :
    let d' := (machine demoPlatform).run befriended resending
    (∃ cells sent, d'.written = befriended.written ++ cells ∧ Posts demoPlatform cells sent ∧
      (d'.pending ++ sent.map MessageItem.text).Perm
        (befriended.pending ++ (machine demoPlatform).emitted accepted befriended resending)) ∧
      d'.pending = [] ∧ d'.written.map Prod.fst = [8] :=
  ⟨texts_conserved demoPlatform (fun _ hi => absurd hi List.not_mem_nil) _,
    by decide +kernel, by decide +kernel⟩

section Sealing

variable {C C' : Connections → Prop} {T T' : FailedTextMessage → Prop}

def Traced (P : Platform) (C : Connections → Prop) (T : FailedTextMessage → Prop)
    (i : MessageItem (Option Cell)) : Prop :=
  i.isText = true ∧ T i.text ∧ ∃ conns, C conns ∧ i.Sealed P conns

structure Kept (P : Platform) (C : Connections → Prop) (T : FailedTextMessage → Prop)
    (d : Device) : Prop where
  queue : ∀ i ∈ d.sendQueue, i.type = 1 ∧ (i.NoText ∨ Traced P C T i)
  failed : ∀ message ∈ d.failedQueue, T message
  written : ∀ x ∈ d.written, x.2.IsText →
    ∃ i : MessageItem (Option Cell), i.socket = x.1 ∧ i.data = some x.2 ∧ Traced P C T i

theorem traced_mono (hC : ∀ conns, C conns → C' conns) (hT : ∀ message, T message → T' message)
    {i : MessageItem (Option Cell)} (h : Traced P C T i) : Traced P C' T' i := by
  obtain ⟨htext, hmessage, conns, hconns, hsealed⟩ := h
  exact ⟨htext, hT _ hmessage, conns, hC _ hconns, hsealed⟩

theorem kept_mono (hC : ∀ conns, C conns → C' conns) (hT : ∀ message, T message → T' message)
    (h : Kept P C T d) : Kept P C' T' d where
  queue := fun i hi => ⟨(h.queue i hi).1, (h.queue i hi).2.imp_right (traced_mono hC hT)⟩
  failed := fun message hmessage => hT _ (h.failed message hmessage)
  written := by
    intro x hx htext
    obtain ⟨i, hsocket, hdata, htraced⟩ := h.written x hx htext
    exact ⟨i, hsocket, hdata, traced_mono hC hT htraced⟩

theorem mem_texts {items : List (MessageItem (Option Cell))} {message : FailedTextMessage} :
    message ∈ texts items ↔ ∃ i ∈ items, i.isText = true ∧ i.text = message := by
  rw [texts, List.mem_map]
  constructor
  · rintro ⟨i, hi, rfl⟩
    exact ⟨i, (List.mem_filter.mp hi).1, (List.mem_filter.mp hi).2, rfl⟩
  · rintro ⟨i, hi, htext, rfl⟩
    exact ⟨i, List.mem_filter.mpr ⟨hi, htext⟩, rfl⟩

theorem kept_requeues {d' : Device} (h : Kept P C T d) (hstep : Requeues P d d')
    (hconns : C d'.conns) : Kept P C T d' := by
  obtain ⟨⟨cells, hwritten, hcells⟩, items, hqueue, hfailed, hitems⟩ := hstep
  have hback : ∀ message ∈ texts items ++ d'.failedQueue, T message :=
    fun message hmessage => h.failed message (hfailed.mem_iff.mp hmessage)
  constructor
  · intro i hi
    rw [hqueue] at hi
    rcases List.mem_append.mp hi with hold | hnew
    · exact h.queue i hold
    · rcases hitems i hnew with hplain | ⟨htype, htext, hsealed⟩
      · exact ⟨hplain.1, .inl hplain⟩
      · have hmessage : i.text ∈ texts items := mem_texts.mpr ⟨i, hnew, htext, rfl⟩
        exact ⟨htype, .inr ⟨htext, hback _ (List.mem_append_left _ hmessage), _, hconns, hsealed⟩⟩
  · exact fun message hmessage => hback _ (List.mem_append_right _ hmessage)
  · intro x hx htext
    rw [hwritten] at hx
    rcases List.mem_append.mp hx with hold | hnew
    · exact h.written x hold htext
    · exact absurd htext (hcells x hnew)

theorem dataOnly_of_kept (h : Kept P C T d) : d.DataOnly := fun i hi => (h.queue i hi).1

theorem kept_write (h : Kept P C T d) : Kept P C T (d.write env) := by
  have hrest {item : MessageItem (Option Cell)} {rest : List (MessageItem (Option Cell))}
      (hqueue : d.sendQueue = item :: rest) :
      ∀ i ∈ rest, i.type = 1 ∧ (i.NoText ∨ Traced P C T i) :=
    fun i hi => h.queue i (hqueue ▸ List.mem_cons_of_mem item hi)
  have hhead {item : MessageItem (Option Cell)} {rest : List (MessageItem (Option Cell))}
      (hqueue : d.sendQueue = item :: rest) : item.NoText ∨ Traced P C T item :=
    (h.queue item (hqueue ▸ List.mem_cons_self)).2
  rcases writes_write (dataOnly_of_kept h) with ⟨hqueue, hsame⟩ |
    ⟨item, rest, cell, hqueue, hcell, hsent, hview⟩ | ⟨item, rest, hqueue, hfails, hview⟩
  · rw [hsame]
    exact h
  · obtain ⟨hwritten, hsend, hfailed⟩ : (d.write env).written = d.written ++
        [(item.socket, cell)] ∧ (d.write env).sendQueue = rest ∧
          (d.write env).failedQueue = d.failedQueue := by
      simpa [textView] using hview
    constructor
    · rw [hsend]
      exact hrest hqueue
    · rw [hfailed]
      exact h.failed
    · intro x hx htext
      rw [hwritten] at hx
      rcases List.mem_append.mp hx with hold | hnew
      · exact h.written x hold htext
      · obtain rfl := List.mem_singleton.mp hnew
        rcases hhead hqueue with hplain | htraced
        · exact absurd htext (hplain.2.2 cell hcell)
        · exact ⟨item, rfl, hcell, htraced⟩
  · obtain ⟨hwritten, hsend, hfailed⟩ : (d.write env).written = d.written ∧
        (d.write env).sendQueue = rest ∧
          (d.write env).failedQueue = d.failedQueue ++ texts [item] := by
      simpa [textView] using hview
    constructor
    · rw [hsend]
      exact hrest hqueue
    · rw [hfailed]
      refine List.forall_mem_append.mpr ⟨h.failed, ?_⟩
      intro message hmessage
      obtain ⟨i, hi, htext, rfl⟩ := mem_texts.mp hmessage
      obtain rfl := List.mem_singleton.mp hi
      rcases hhead hqueue with hplain | htraced
      · rw [hplain.2.1] at htext
        cases htext
      · exact htraced.2.1
    · rw [hwritten]
      exact h.written

theorem kept_sendText (h : Kept P C T d) (messageContent remoteOnion : String) (messageID : Nat)
    (hconns : C (d.handleTextMessageSend P env messageContent remoteOnion messageID).conns)
    (haccepted : ∀ message ∈ accepted d (env, .sendText messageContent remoteOnion messageID),
      T message) :
    Kept P C T (d.handleTextMessageSend P env messageContent remoteOnion messageID) := by
  rcases sendsText_handleTextMessageSend P env d messageContent remoteOnion messageID with
    ⟨-, hview⟩ | ⟨item, statusItem, hkeyed, hview, htype, htext, hmessage, hsealed⟩
  · exact kept_requeues h (moves_of_view hview) hconns
  · obtain ⟨hwritten, hsend, hfailed⟩ :
        (d.handleTextMessageSend P env messageContent remoteOnion messageID).written = d.written ∧
        (d.handleTextMessageSend P env messageContent remoteOnion messageID).sendQueue =
          d.sendQueue ++ [item] ∧
        (d.handleTextMessageSend P env messageContent remoteOnion messageID).failedQueue =
          d.failedQueue := by
      simpa [textView] using hview
    dsimp only at hkeyed
    rw [accepted_sendText, hkeyed.1] at haccepted
    dsimp only at haccepted
    rw [if_pos hkeyed.2] at haccepted
    constructor
    · rw [hsend]
      refine List.forall_mem_append.mpr ⟨h.queue, ?_⟩
      intro i hi
      obtain rfl := List.mem_singleton.mp hi
      refine ⟨htype, .inr ⟨htext, ?_, _, hconns, hsealed⟩⟩
      rw [hmessage]
      exact haccepted _ List.mem_cons_self
    · rw [hfailed]
      exact h.failed
    · rw [hwritten]
      exact h.written

theorem kept_step (h : Kept P C T d) (e : Env × Event) (hconns : C (d.step P e.1 e.2).conns)
    (haccepted : ∀ message ∈ accepted d e, T message) : Kept P C T (d.step P e.1 e.2) := by
  obtain ⟨env, e⟩ := e
  by_cases hwrite : e = .write
  · subst hwrite
    exact kept_write h
  · cases e with
    | sendText messageContent remoteOnion messageID =>
      exact kept_sendText h messageContent remoteOnion messageID hconns haccepted
    | _ => exact kept_requeues h (requeues_step P env d hwrite (fun _ _ _ => by simp)) hconns

variable (P) in
def Passed (d : Device) (events : List (Env × Event)) (conns : Connections) : Prop :=
  ∃ before, before <+: events ∧ conns = ((machine P).run d before).conns

variable (P) in
def Accepted (d : Device) (events : List (Env × Event)) (message : FailedTextMessage) : Prop :=
  ∃ before e, before ++ [e] <+: events ∧ message ∈ accepted ((machine P).run d before) e

structure Silent (d : Device) : Prop where
  sendQueue : d.sendQueue = []
  failedQueue : d.failedQueue = []
  written : d.written = []

theorem kept_run (hd : d.Silent) (events : List (Env × Event)) :
    Kept P (Passed P d events) (Accepted P d events) ((machine P).run d events) := by
  refine (machine P).run_history
    (J := fun events d' => Kept P (Passed P d events) (Accepted P d events) d') ?_ ?_ events
  · constructor
    · rw [hd.sendQueue]
      exact fun i hi => absurd hi List.not_mem_nil
    · rw [hd.failedQueue]
      exact fun message hmessage => absurd hmessage List.not_mem_nil
    · rw [hd.written]
      exact fun x hx => absurd hx List.not_mem_nil
  · intro events e hkept
    have hearlier : events <+: events ++ [e] := List.prefix_append events [e]
    refine kept_step (kept_mono ?_ ?_ hkept) e ?_ ?_
    · rintro conns ⟨before, hbefore, rfl⟩
      exact ⟨before, hbefore.trans hearlier, rfl⟩
    · rintro message ⟨before, e', hbefore, hmessage⟩
      exact ⟨before, e', hbefore.trans hearlier, hmessage⟩
    · refine ⟨events ++ [e], List.prefix_rfl, ?_⟩
      rw [(machine P).run_append]
      rfl
    · exact fun message hmessage => ⟨events, e, List.prefix_rfl, hmessage⟩

theorem texts_sealed_for_addressee (P : Platform) {d : Device} (hd : d.Silent)
    (events : List (Env × Event)) {socket : Nat} {cell : Cell}
    (hwritten : (socket, cell) ∈ ((machine P).run d events).written) (htext : cell.IsText) :
    ∃ i : MessageItem (Option Cell), i.socket = socket ∧ i.data = some cell ∧
      (∃ before e, before ++ [e] <+: events ∧
        i.text ∈ accepted ((machine P).run d before) e) ∧
      ∃ before, before <+: events ∧ i.Sealed P ((machine P).run d before).conns := by
  obtain ⟨i, hsocket, hdata, -, haccepted, conns, ⟨before, hbefore, rfl⟩, hsealed⟩ :=
    (kept_run hd events).written (socket, cell) hwritten htext
  exact ⟨i, hsocket, hdata, haccepted, before, hbefore, hsealed⟩

theorem texts_sealed_hi :
    let d : Device := {
      onionName := "alice", privateKey := ⟨1⟩, keys := { keyFile := [5] }
      conns := ({} : Connections).addNewConnection {
        onionName := "bob", socket := 7, shareKey := some [1] } }
    let events : List (Env × Event) := [({}, .sendText "hi" "bob" 1), ({}, .write)]
    ∃ i : MessageItem (Option Cell), i.socket = 7 ∧
      i.data = some (.data [1] (d.keys.textPayload demoPlatform {} "hi" 1)) ∧
      (∃ before e, before ++ [e] <+: events ∧
        i.text ∈ accepted ((machine demoPlatform).run d before) e) ∧
      ∃ before, before <+: events ∧
        i.Sealed demoPlatform ((machine demoPlatform).run d before).conns :=
  texts_sealed_for_addressee demoPlatform ⟨rfl, rfl, rfl⟩ _ List.mem_cons_self
    ⟨[1], _, rfl, Message.parseMessageType_externalPayload demoPlatform {} (by decide)⟩

end Sealing

end Device

end TorChat
