import TorChat.Server.Network
import TorChat.Text.TextAck
import TorChat.Util.DemoPlatform

namespace TorChat

open Library (Bytes HashMap Machine)

structure MsgListBean where
  textContent : String
  friendOrionid : String
  messageID : Nat
  isAcked : Nat
  fromSelf : Bool
  deriving DecidableEq, Repr

namespace MsgListSQLiteHelper

def updateIsAck2 (table : List MsgListBean) (messageID ack : Nat) : List MsgListBean :=
  table.map (fun row => if row.messageID = messageID then { row with isAcked := ack } else row)

end MsgListSQLiteHelper

namespace Delivery

-- the rows of the database and the list of the open chat, which holds the rows of all chats
structure Chat where
  table : List MsgListBean := []
  mMsgList : List MsgListBean := []

namespace Chat

def beans (chat : Chat) : List MsgListBean := chat.table ++ chat.mMsgList

def initContent (chat : Chat) : Chat := { chat with mMsgList := chat.table }

def insert (chat : Chat) (bean : MsgListBean) : Chat :=
  { table := chat.table ++ [bean], mMsgList := chat.mMsgList ++ [bean] }

def sendTextMessage (chat : Chat) (textMessage orionId : String) (messageID : Nat) : Chat :=
  chat.insert { textContent := textMessage, friendOrionid := orionId, messageID := messageID
                isAcked := 0, fromSelf := true }

def receiveMessage (chat : Chat) (mess peerHostname : String) (messageID : Nat) : Chat :=
  chat.insert { textContent := mess, friendOrionid := peerHostname, messageID := messageID
                isAcked := 1, fromSelf := false }

def ackMatchAt (ack : Nat) (chat : Chat) (i : Nat) : Chat :=
  match chat.mMsgList[i]? with
  | none => chat
  | some bean =>
      if bean.messageID = ack then
        { table := MsgListSQLiteHelper.updateIsAck2 chat.table bean.messageID 1
          mMsgList := chat.mMsgList.set i { bean with isAcked := 1 } }
      else chat

def ackMatch (chat : Chat) (ack : Nat) : Chat :=
  (List.range chat.mMsgList.length).foldl (ackMatchAt ack) chat

def onReceive (chat : Chat) : Notice → Chat
  | .hasReceivedMessage message peerHostname messageID =>
      chat.receiveMessage message peerHostname messageID
  | .peerHasReceivedMessage messageID => chat.ackMatch messageID
  | _ => chat

end Chat

variable {ι : Type}

structure Phones (ι : Type) where
  network : Network ι
  chats : ι → Chat

inductive Event (ι : Type) where
  | network (e : Network.Event ι)
  | initContent (i : ι)
  | sendTextMessage (i : ι) (textMessage orionId : String) (messageID : Nat)
  | onReceive (i : ι) (position : Nat)

def sentTexts (s : Phones ι) (i : ι) (messageID : Nat) : List MsgListBean :=
  (s.chats i).beans.filter (fun bean => bean.fromSelf && decide (bean.messageID = messageID))

def Displays (text : String) (messageID : Nat) : Notice → Bool
  | .hasReceivedMessage message _ id => decide (message = text) && decide (id = messageID)
  | _ => false

def Shown (net : Network ι) (bean : MsgListBean) : Prop :=
  ∃ j, (net j).onionName = bean.friendOrionid ∧
    (net j).notices.any (Displays bean.textContent bean.messageID) = true

def Sound (s : Phones ι) : Prop :=
  ∀ i, ∀ bean ∈ (s.chats i).beans, bean.fromSelf = true → bean.isAcked = 1 →
    Shown s.network bean

structure Started (s : Phones ι) : Prop where
  written : ∀ i, (s.network i).written = []
  sendQueue : ∀ i, (s.network i).sendQueue = []
  recieveQueue : ∀ i, (s.network i).recieveQueue = []
  notices : ∀ i, (s.network i).notices = []
  chats : ∀ i, (s.chats i).beans = []

section Runs

variable (P : Platform) (W : Wiring ι)

def readsText (d : Device) : Option (Nat × Nat × Bytes) := do
  let item ← d.recieveQueue.head?
  let statusItem ← d.conns.getConnectionStatusItem item.onionName item.socket
  let _ ← statusItem.shareKey
  let messageID ← Message.parseMessageID item.data
  let internalPayload ← Message.parseExternalPaylod P item.data
  let _ ← d.keys.getRecordXOR item.data messageID
  if item.type = 1 ∧ Message.parseMessageType item.data = some Constant.dataMessage then
    some (item.socket, messageID, internalPayload)
  else none

def readsAck (d : Device) : Option (Nat × Nat) := do
  let item ← d.recieveQueue.head?
  let messageID ← d.readAck P item
  if item.type = 1 then some (item.socket, messageID) else none

def ackedText : Cell → Option Nat
  | .data _ raw => Device.acknowledgedText P raw
  | _ => none

-- a text that is read is the text that the other end has stored under this ID
def Decrypts (s : Phones ι) (i : ι) : Prop :=
  ∀ read ∈ readsText P (s.network i), ∀ other ∈ W.peer (i, read.1),
    ∀ bean ∈ sentTexts s other.1 read.2.1, bean.isAcked ≠ 1 →
      bean.friendOrionid = (s.network i).onionName →
        (s.network i).keys.readText P read.2.2 = some bean.textContent

-- an acknowledgement comes from the peer of each text that is stored under its ID
def FromPeer (s : Phones ι) (i : ι) : Prop :=
  ∀ read ∈ readsAck P (s.network i), ∀ other ∈ W.peer (i, read.1),
    ∀ bean ∈ sentTexts s i read.2, bean.isAcked ≠ 1 →
      bean.friendOrionid = (s.network other.1).onionName

def Unused (s : Phones ι) (i : ι) (messageID : Nat) : Prop :=
  ∀ j, ∀ x ∈ (s.network j).outbox, ackedText P x.2 = some messageID →
    ∀ other ∈ W.peer (j, x.1), other.1 ≠ i

def Faithful (s : Phones ι) : Event ι → Prop
  | .network e => ∀ t ∈ Network.taken W s.network e, t.event = .read →
      Decrypts P W s t.device ∧ FromPeer P W s t.device
  | .sendTextMessage i _ _ messageID => Unused P W s i messageID
  | _ => True

variable [DecidableEq ι]

def updateChat (s : Phones ι) (i : ι) (f : Chat → Chat) : Phones ι :=
  { s with chats := Function.update s.chats i (f (s.chats i)) }

def step (s : Phones ι) : Event ι → Phones ι
  | .network e => { s with network := Network.step P W s.network e }
  | .initContent i => updateChat s i Chat.initContent
  | .sendTextMessage i textMessage orionId messageID =>
      updateChat s i (fun chat => chat.sendTextMessage textMessage orionId messageID)
  | .onReceive i position =>
      match (s.network i).notices[position]? with
      | none => s
      | some notice => updateChat s i (fun chat => chat.onReceive notice)

def machine : Machine (Phones ι) (Event ι) := ⟨step P W⟩

end Runs

section Chats

variable {chat : Chat} {bean : MsgListBean}

theorem mem_insert {new : MsgListBean} (h : bean ∈ (chat.insert new).beans) :
    bean ∈ chat.beans ∨ bean = new := by
  simp only [Chat.insert, Chat.beans, List.mem_append, List.mem_singleton] at h ⊢
  rcases h with (h | h) | (h | h)
  · exact .inl (.inl h)
  · exact .inr h
  · exact .inl (.inr h)
  · exact .inr h

theorem mem_updateIsAck2 {table : List MsgListBean} {messageID ack : Nat}
    (h : bean ∈ MsgListSQLiteHelper.updateIsAck2 table messageID ack) :
    bean ∈ table ∨ ∃ old ∈ table, old.messageID = messageID ∧
      bean = { old with isAcked := ack } := by
  obtain ⟨old, hold, heq⟩ := List.mem_map.mp h
  split at heq
  · rename_i hid
    exact .inr ⟨old, hold, hid, heq.symm⟩
  · exact .inl (heq ▸ hold)

def Acked (ack : Nat) (old new : MsgListBean) : Prop :=
  new = old ∨ (old.messageID = ack ∧ new = { old with isAcked := 1 })

theorem acked_trans {ack : Nat} {old mid new : MsgListBean} (h : Acked ack old mid)
    (h' : Acked ack mid new) : Acked ack old new := by
  rcases h' with rfl | ⟨hid, rfl⟩
  · exact h
  · rcases h with rfl | ⟨hold, rfl⟩
    · exact .inr ⟨hid, rfl⟩
    · exact .inr ⟨hold, rfl⟩

theorem mem_ackMatchAt {ack i : Nat} (h : bean ∈ (Chat.ackMatchAt ack chat i).beans) :
    ∃ old ∈ chat.beans, Acked ack old bean := by
  rw [Chat.ackMatchAt] at h
  split at h
  · exact ⟨bean, h, .inl rfl⟩
  · rename_i found hfound
    split at h
    · rename_i hid
      rcases List.mem_append.mp h with htable | hlist
      · rcases mem_updateIsAck2 htable with hold | ⟨old, hold, holdID, rfl⟩
        · exact ⟨bean, List.mem_append_left _ hold, .inl rfl⟩
        · exact ⟨old, List.mem_append_left _ hold, .inr ⟨holdID.trans hid, rfl⟩⟩
      · rcases List.mem_or_eq_of_mem_set hlist with hold | rfl
        · exact ⟨bean, List.mem_append_right _ hold, .inl rfl⟩
        · exact ⟨found, List.mem_append_right _ (List.mem_of_getElem? hfound), .inr ⟨hid, rfl⟩⟩
    · exact ⟨bean, h, .inl rfl⟩

theorem mem_ackMatch {ack : Nat} (h : bean ∈ (chat.ackMatch ack).beans) :
    ∃ old ∈ chat.beans, Acked ack old bean := by
  rw [Chat.ackMatch] at h
  generalize List.range chat.mMsgList.length = positions at h
  induction positions generalizing chat with
  | nil => exact ⟨bean, h, .inl rfl⟩
  | cons i rest ih =>
    obtain ⟨mid, hmid, hacked⟩ := ih h
    obtain ⟨old, hold, hstep⟩ := mem_ackMatchAt hmid
    exact ⟨old, hold, acked_trans hstep hacked⟩

end Chats

section Invariants

variable {P : Platform} {W : Wiring ι} {s : Phones ι}

theorem mem_sentTexts {i : ι} {messageID : Nat} {bean : MsgListBean} :
    bean ∈ sentTexts s i messageID ↔
      bean ∈ (s.chats i).beans ∧ bean.fromSelf = true ∧ bean.messageID = messageID := by
  rw [sentTexts, List.mem_filter, Bool.and_eq_true, decide_eq_true_iff]

theorem shown_of_mem {net : Network ι} {bean : MsgListBean} (j : ι) (peer : String)
    (hname : (net j).onionName = bean.friendOrionid)
    (hmem : .hasReceivedMessage bean.textContent peer bean.messageID ∈ (net j).notices) :
    Shown net bean :=
  ⟨j, hname, List.any_eq_true.mpr ⟨_, hmem, by simp [Displays]⟩⟩

variable (P W) in
structure Invariant (s : Phones ι) : Prop where
  carried : Network.Carried W s.network
  acks : ∀ j, ∀ x ∈ (s.network j).outbox, ∀ other, W.peer (j, x.1) = some other →
    ∀ messageID, ackedText P x.2 = some messageID → ∀ bean ∈ sentTexts s other.1 messageID,
      bean.friendOrionid = (s.network j).onionName → Shown s.network bean
  origin : ∀ i messageID, .peerHasReceivedMessage messageID ∈ (s.network i).notices →
    ∃ j, ∃ x ∈ (s.network j).written, ackedText P x.2 = some messageID ∧
      ∃ other, W.peer (j, x.1) = some other ∧ other.1 = i
  noticed : ∀ i messageID, .peerHasReceivedMessage messageID ∈ (s.network i).notices →
    ∀ bean ∈ sentTexts s i messageID, Shown s.network bean
  sound : Sound s

theorem written_subset_outbox (d : Device) {x : Nat × Cell} (h : x ∈ d.written) :
    x ∈ d.outbox := List.mem_append_left _ h

theorem ackedText_data {x : Nat × Cell} {messageID : Nat}
    (h : ackedText P x.2 = some messageID) : ∃ sharedKey raw, x.2 = .data sharedKey raw ∧
      Device.acknowledgedText P raw = some messageID := by
  cases hcell : x.2 with
  | data sharedKey raw =>
    rw [hcell] at h
    exact ⟨sharedKey, raw, rfl, h⟩
  | zeros =>
    rw [hcell] at h
    cases h
  | handshake recipient rawData signature =>
    rw [hcell] at h
    cases h
  | raw bytes =>
    rw [hcell] at h
    cases h

theorem readsText_of_reads {d : Device} {item : MessageItem Bytes}
    {rest : List (MessageItem Bytes)} {statusItem : ConnectionStatusItem} {messageID : Nat}
    {internalPayload : Bytes} (hqueue : d.recieveQueue = item :: rest) (hdata : item.type = 1)
    (h : d.Reads P item statusItem messageID Constant.dataMessage internalPayload)
    (hpointers : (d.keys.getRecordXOR item.data messageID).isSome) :
    readsText P d = some (item.socket, messageID, internalPayload) := by
  obtain ⟨sharedKey, hkey⟩ := Option.isSome_iff_exists.mp (Option.isNone_eq_false_iff.mp h.key)
  obtain ⟨keys, hkeys⟩ := Option.isSome_iff_exists.mp hpointers
  simp only [readsText, hqueue, List.head?_cons, h.conn, hkey, h.id, h.payload, hkeys, h.type,
    hdata, and_self, if_true, Option.bind_eq_bind, Option.bind_some]

theorem readsAck_of_readAck {d : Device} {item : MessageItem Bytes}
    {rest : List (MessageItem Bytes)} {messageID : Nat} (hqueue : d.recieveQueue = item :: rest)
    (hdata : item.type = 1) (h : d.readAck P item = some messageID) :
    readsAck P d = some (item.socket, messageID) := by
  simp only [readsAck, hqueue, List.head?_cons, h, hdata, if_true, Option.bind_eq_bind,
    Option.bind_some]

theorem acknowledged_of_readAck {d : Device} {item : MessageItem Bytes} {messageID : Nat}
    (h : d.readAck P item = some messageID) :
    Device.acknowledgedText P item.data = some messageID := by
  simp only [Device.readAck, Option.bind_eq_bind, Option.bind_eq_some_iff] at h
  obtain ⟨_, -, _, -, hack⟩ := h
  exact hack

-- an acknowledgement that is read was written by the device at the other end
theorem ack_written {i : ι} {item : MessageItem Bytes} {rest : List (MessageItem Bytes)}
    {messageID : Nat} (h : Invariant P W s)
    (hqueue : (s.network i).recieveQueue = item :: rest) (hdata : item.type = 1)
    (hack : (s.network i).readAck P item = some messageID) :
    ∃ j socket cell, W.peer (i, item.socket) = some (j, socket) ∧
      (socket, cell) ∈ (s.network j).written ∧ ackedText P cell = some messageID := by
  obtain ⟨j, socket, sharedKey, hpeer, hwritten⟩ :=
    h.carried i item (by rw [hqueue]; exact List.mem_cons_self) hdata
  exact ⟨j, socket, _, hpeer, hwritten, acknowledged_of_readAck hack⟩

-- the rows of own texts are old rows, perhaps acknowledged by a notice
def Refreshes (s : Phones ι) (i : ι) (chat : Chat) : Prop :=
  ∀ bean ∈ chat.beans, bean.fromSelf = true → ∃ old ∈ (s.chats i).beans, bean = old ∨
    (.peerHasReceivedMessage old.messageID ∈ (s.network i).notices ∧
      bean = { old with isAcked := 1 })

theorem shown_refreshed {i : ι} {chat : Chat} (h : Invariant P W s)
    (hf : Refreshes s i chat) {bean : MsgListBean} (hbean : bean ∈ chat.beans)
    (hself : bean.fromSelf = true) (hacked : bean.isAcked = 1) : Shown s.network bean := by
  obtain ⟨old, hold, rfl | ⟨hnotice, rfl⟩⟩ := hf bean hbean hself
  · exact h.sound i bean hold hself hacked
  · exact h.noticed i old.messageID hnotice old (mem_sentTexts.mpr ⟨hold, hself, rfl⟩)

theorem refreshes_onReceive {i : ι} {notice : Notice}
    (hnotice : notice ∈ (s.network i).notices) :
    Refreshes s i ((s.chats i).onReceive notice) := by
  intro bean hbean hself
  cases notice with
  | hasReceivedMessage message peerHostname messageID =>
    rcases mem_insert hbean with hold | rfl
    · exact ⟨bean, hold, .inl rfl⟩
    · cases hself
  | peerHasReceivedMessage messageID =>
    obtain ⟨old, hold, rfl | ⟨rfl, rfl⟩⟩ := mem_ackMatch hbean
    · exact ⟨bean, hold, .inl rfl⟩
    · exact ⟨old, hold, .inr ⟨hnotice, rfl⟩⟩
  | startCommunicationSuccess => exact ⟨bean, hbean, .inl rfl⟩
  | offlineText remoteOnion messageContent messageID => exact ⟨bean, hbean, .inl rfl⟩
  | recieveOnlineFile fileName totalSize messageID => exact ⟨bean, hbean, .inl rfl⟩
  | fileMessage fileName percent messageID => exact ⟨bean, hbean, .inl rfl⟩
  | fileComplete fileName messageID => exact ⟨bean, hbean, .inl rfl⟩

theorem invariant_started (h : Started s) : Invariant P W s where
  carried := by
    intro i item hitem
    rw [h.recieveQueue i] at hitem
    cases hitem
  acks := by
    intro j x hx
    rw [Device.outbox, h.written j, h.sendQueue j] at hx
    cases hx
  origin := by
    intro i messageID hn
    rw [h.notices i] at hn
    cases hn
  noticed := by
    intro i messageID hn
    rw [h.notices i] at hn
    cases hn
  sound := by
    intro i bean hbean
    rw [h.chats i] at hbean
    cases hbean

variable [DecidableEq ι]

theorem shown_take {net : Network ι} {bean : MsgListBean} (h : Shown net bean)
    (t : Network.Taken ι) : Shown (Network.take P net t) bean := by
  obtain ⟨j, hname, hshown⟩ := h
  refine ⟨j, (Network.onionName_take t j).trans hname, ?_⟩
  obtain ⟨n, hn, hdisplays⟩ := List.any_eq_true.mp hshown
  exact List.any_eq_true.mpr ⟨n, (Network.notices_take t j).subset hn, hdisplays⟩

theorem acks_take {t : Network.Taken ι} (h : Invariant P W s)
    (hg : t.event = .read → Decrypts P W s t.device ∧ FromPeer P W s t.device) {j : ι}
    {x : Nat × Cell} (hx : x ∈ (Network.take P s.network t j).outbox) {other : ι × Nat}
    (hother : W.peer (j, x.1) = some other) {messageID : Nat}
    (hack : ackedText P x.2 = some messageID) {bean : MsgListBean}
    (hbean : bean ∈ sentTexts s other.1 messageID)
    (hname : bean.friendOrionid = (s.network j).onionName) :
    Shown (Network.take P s.network t) bean := by
  rcases Network.take_emits P s.network t j with ⟨rfl, hemits⟩ | ⟨-, heq⟩
  · rcases hemits.outbox x hx with hold | hnew
    · exact shown_take (h.acks t.device x hold other hother messageID hack bean hbean hname) t
    · obtain ⟨sharedKey, raw, hcell, hraw⟩ := ackedText_data hack
      rcases hnew with hresent | ⟨hread, item, rest, hqueue, htype, hemission⟩
      · exact absurd hraw (Device.not_acknowledged_of_resent hresent hcell)
      · obtain ⟨statusItem, internalPayload, hreads, hpointers, hsocket⟩ :=
          Device.acknowledged_emission hemission hcell hraw
        obtain ⟨hmem, hself, rfl⟩ := mem_sentTexts.mp hbean
        by_cases hacked : bean.isAcked = 1
        · exact shown_take (h.sound other.1 bean hmem hself hacked) t
        · rw [hsocket] at hother
          have htext := (hg hread).1 _ (readsText_of_reads hqueue htype hreads hpointers) other
            hother bean hbean hacked hname
          have hshows := Device.read_shows t.env hqueue htype hreads hpointers htext
          refine shown_of_mem t.device statusItem.onionName ?_ ?_
          · rw [Network.onionName_take, hname]
          · rw [Network.take_self, hread]
            exact hshows
  · rw [heq] at hx
    exact shown_take (h.acks j x hx other hother messageID hack bean hbean hname) t

theorem noticed_take {t : Network.Taken ι} (h : Invariant P W s)
    (hg : t.event = .read → Decrypts P W s t.device ∧ FromPeer P W s t.device) {i : ι}
    {messageID : Nat}
    (hn : .peerHasReceivedMessage messageID ∈ (Network.take P s.network t i).notices) :
    (∃ j, ∃ x ∈ (s.network j).written, ackedText P x.2 = some messageID ∧
      ∃ other, W.peer (j, x.1) = some other ∧ other.1 = i) ∧
      ∀ bean ∈ sentTexts s i messageID, Shown s.network bean := by
  rcases Network.take_emits P s.network t i with ⟨rfl, hemits⟩ | ⟨-, heq⟩
  · rcases hemits.notices _ hn with hold | hnew
    · exact ⟨h.origin _ messageID hold, h.noticed _ messageID hold⟩
    · obtain ⟨hread, item, rest, hqueue, hdata, hack⟩ := hnew messageID rfl
      obtain ⟨j, socket, cell, hpeer, hwritten, hcell⟩ := ack_written h hqueue hdata hack
      have hback := W.symm _ _ hpeer
      refine ⟨⟨j, (socket, cell), hwritten, hcell, _, hback, rfl⟩, ?_⟩
      intro bean hbean
      obtain ⟨hmem, hself, -⟩ := mem_sentTexts.mp hbean
      by_cases hacked : bean.isAcked = 1
      · exact h.sound _ bean hmem hself hacked
      · have hname := (hg hread).2 _ (readsAck_of_readAck hqueue hdata hack) _ hpeer bean hbean
          hacked
        exact h.acks j _ (written_subset_outbox _ hwritten) _ hback messageID hcell bean hbean hname
  · rw [heq] at hn
    exact ⟨h.origin i messageID hn, h.noticed i messageID hn⟩

theorem invariant_take {e : Network.Event ι} {t : Network.Taken ι} (h : Invariant P W s)
    (ht : Network.taken W s.network e = some t)
    (hg : t.event = .read → Decrypts P W s t.device ∧ FromPeer P W s t.device) :
    Invariant P W { s with network := Network.take P s.network t } where
  carried := Network.carried_take h.carried ht
  acks := by
    intro j x hx other hother messageID hack bean hbean hname
    dsimp only at hname
    rw [Network.onionName_take] at hname
    exact acks_take h hg hx hother hack hbean hname
  origin := by
    intro i messageID hn
    obtain ⟨j, x, hx, horigin⟩ := (noticed_take h hg hn).1
    exact ⟨j, x, (Network.written_take t j).subset hx, horigin⟩
  noticed := fun i messageID hn bean hbean =>
    shown_take ((noticed_take h hg hn).2 bean hbean) t
  sound := fun i bean hbean hself hacked => shown_take (h.sound i bean hbean hself hacked) t

theorem mem_beans_updateChat {i k : ι} {f : Chat → Chat} {bean : MsgListBean}
    (h : bean ∈ ((updateChat s i f).chats k).beans) :
    bean ∈ (s.chats k).beans ∨ k = i ∧ bean ∈ (f (s.chats i)).beans := by
  rw [updateChat] at h
  dsimp only at h
  rw [Function.update_apply] at h
  split at h
  · rename_i hk
    exact .inr ⟨hk, h⟩
  · exact .inl h

theorem invariant_refresh {i : ι} {f : Chat → Chat} (h : Invariant P W s)
    (hf : Refreshes s i (f (s.chats i))) : Invariant P W (updateChat s i f) := by
  have hsent : ∀ k messageID, ∀ bean ∈ sentTexts (updateChat s i f) k messageID,
      ∃ old ∈ sentTexts s k messageID, bean = old ∨ bean = { old with isAcked := 1 } := by
    intro k messageID bean hbean
    obtain ⟨hmem, hself, hid⟩ := mem_sentTexts.mp hbean
    rcases mem_beans_updateChat hmem with hold | ⟨rfl, hnew⟩
    · exact ⟨bean, mem_sentTexts.mpr ⟨hold, hself, hid⟩, .inl rfl⟩
    · obtain ⟨old, hold, rfl | ⟨-, rfl⟩⟩ := hf bean hnew hself
      · exact ⟨bean, mem_sentTexts.mpr ⟨hold, hself, hid⟩, .inl rfl⟩
      · exact ⟨old, mem_sentTexts.mpr ⟨hold, hself, hid⟩, .inr rfl⟩
  refine ⟨h.carried, ?_, h.origin, ?_, ?_⟩
  · intro j x hx other hother messageID hack bean hbean hname
    obtain ⟨old, hold, rfl | rfl⟩ := hsent _ _ bean hbean
    · exact h.acks j x hx other hother messageID hack bean hold hname
    · exact h.acks j x hx other hother messageID hack old hold hname
  · intro k messageID hn bean hbean
    obtain ⟨old, hold, rfl | rfl⟩ := hsent _ _ bean hbean
    · exact h.noticed k messageID hn bean hold
    · exact h.noticed k messageID hn old hold
  · intro k bean hbean hself hacked
    rcases mem_beans_updateChat hbean with hold | ⟨rfl, hnew⟩
    · exact h.sound k bean hold hself hacked
    · exact shown_refreshed h hf hnew hself hacked

theorem invariant_sendTextMessage {i : ι} {textMessage orionId : String} {messageID : Nat}
    (h : Invariant P W s) (hunused : Unused P W s i messageID) :
    Invariant P W (updateChat s i
      (fun chat => chat.sendTextMessage textMessage orionId messageID)) := by
  have hsent : ∀ k id, ∀ bean ∈ sentTexts (updateChat s i
      (fun chat => chat.sendTextMessage textMessage orionId messageID)) k id,
      bean ∈ sentTexts s k id ∨ k = i ∧ id = messageID := by
    intro k id bean hbean
    obtain ⟨hmem, hself, hid⟩ := mem_sentTexts.mp hbean
    rcases mem_beans_updateChat hmem with hold | ⟨rfl, hnew⟩
    · exact .inl (mem_sentTexts.mpr ⟨hold, hself, hid⟩)
    · rcases mem_insert hnew with hold | rfl
      · exact .inl (mem_sentTexts.mpr ⟨hold, hself, hid⟩)
      · exact .inr ⟨rfl, hid.symm⟩
  refine ⟨h.carried, ?_, h.origin, ?_, ?_⟩
  · intro j x hx other hother id hack bean hbean hname
    rcases hsent _ _ bean hbean with hold | ⟨hi, rfl⟩
    · exact h.acks j x hx other hother id hack bean hold hname
    · exact absurd hi (hunused j x hx hack other hother)
  · intro k id hn bean hbean
    rcases hsent _ _ bean hbean with hold | ⟨rfl, rfl⟩
    · exact h.noticed k id hn bean hold
    · obtain ⟨j, x, hx, hack, other, hother, hi⟩ := h.origin _ _ hn
      exact absurd hi (hunused j x (written_subset_outbox _ hx) hack other hother)
  · intro k bean hbean hself hacked
    rcases mem_beans_updateChat hbean with hold | ⟨rfl, hnew⟩
    · exact h.sound k bean hold hself hacked
    · rcases mem_insert hnew with hold | rfl
      · exact h.sound _ bean hold hself hacked
      · cases hacked

theorem invariant_step (s : Phones ι) (e : Event ι) (h : Invariant P W s)
    (hg : Faithful P W s e) : Invariant P W (step P W s e) := by
  cases e with
  | network e =>
    rw [step, Network.step]
    split
    · exact h
    · rename_i t ht
      exact invariant_take h ht (hg t ht)
  | initContent i =>
    refine invariant_refresh h (fun bean hbean _ => ⟨bean, ?_, .inl rfl⟩)
    exact List.mem_append_left _ ((List.mem_append.mp hbean).elim id id)
  | sendTextMessage i textMessage orionId messageID => exact invariant_sendTextMessage h hg
  | onReceive i position =>
    rw [step]
    split
    · exact h
    · rename_i notice hnotice
      exact invariant_refresh h (refreshes_onReceive (List.mem_of_getElem? hnotice))

end Invariants

theorem acked_texts_shown [DecidableEq ι] {P : Platform} {W : Wiring ι} {s : Phones ι}
    (hs : Started s) {events : List (Event ι)}
    (h : (machine P W).Guarded (Faithful P W) s events) : Sound ((machine P W).run s events) :=
  ((machine P W).guarded_invariant invariant_step h (invariant_started hs)).sound

section Instances

variable (P : Platform) (W : Wiring ι) [DecidableEq ι]

instance (s : Phones ι) (i : ι) : Decidable (Decrypts P W s i) :=
  inferInstanceAs (Decidable (∀ read ∈ readsText P (s.network i), ∀ other ∈ W.peer (i, read.1),
    ∀ bean ∈ sentTexts s other.1 read.2.1, bean.isAcked ≠ 1 →
      bean.friendOrionid = (s.network i).onionName →
        (s.network i).keys.readText P read.2.2 = some bean.textContent))

instance (s : Phones ι) (i : ι) : Decidable (FromPeer P W s i) :=
  inferInstanceAs (Decidable (∀ read ∈ readsAck P (s.network i), ∀ other ∈ W.peer (i, read.1),
    ∀ bean ∈ sentTexts s i read.2, bean.isAcked ≠ 1 →
      bean.friendOrionid = (s.network other.1).onionName))

instance [Fintype ι] (s : Phones ι) (i : ι) (messageID : Nat) :
    Decidable (Unused P W s i messageID) :=
  inferInstanceAs (Decidable (∀ j, ∀ x ∈ (s.network j).outbox,
    ackedText P x.2 = some messageID → ∀ other ∈ W.peer (j, x.1), other.1 ≠ i))

instance [Fintype ι] (s : Phones ι) (e : Event ι) : Decidable (Faithful P W s e) :=
  match e with
  | .network e => inferInstanceAs (Decidable (∀ t ∈ Network.taken W s.network e,
      t.event = .read → Decrypts P W s t.device ∧ FromPeer P W s t.device))
  | .sendTextMessage i _ _ messageID => inferInstanceAs (Decidable (Unused P W s i messageID))
  | .initContent _ => isTrue trivial
  | .onReceive _ _ => isTrue trivial

end Instances

def oneLink : Wiring Bool where
  peer x :=
    if x = (false, 1) then some (true, 2) else if x = (true, 2) then some (false, 1) else none
  symm := by
    intro x y h
    split at h
    · rename_i hx
      rw [hx, ← Option.some.inj h]
      rfl
    · split at h
      · rename_i hx
        rw [hx, ← Option.some.inj h]
        rfl
      · cases h
  distinct := by
    intro x y h
    split at h
    · rename_i hx
      rw [hx, ← Option.some.inj h]
      exact Bool.false_ne_true
    · split at h
      · rename_i hx
        rw [hx, ← Option.some.inj h]
        exact Bool.false_ne_true.symm
      · cases h

def phone (onionName friend : String) (socket : Nat) (keyFile : Bytes) : Device where
  onionName := onionName
  privateKey := ⟨0⟩
  keys := { keyFile := keyFile }
  conns := ({} : Connections).addNewConnection {
    onionName := friend, socket := socket, status := 1, shareKey := some [1] }
  transports := [{ socket := socket, mailItem := some (.ofContact demoPlatform friend ⟨1⟩) }]

def alice (keyFile : Bytes) : Device := phone "alice" "bob" 1 keyFile

def bob (keyFile : Bytes) : Device := phone "bob" "alice" 2 keyFile

def connected (aliceFile bobFile : Bytes) : Phones Bool where
  network i := if i then bob bobFile else alice aliceFile
  chats _ := {}

theorem started_connected (aliceFile bobFile : Bytes) : Started (connected aliceFile bobFile) where
  written i := by cases i <;> rfl
  sendQueue i := by cases i <;> rfl
  recieveQueue i := by cases i <;> rfl
  notices i := by cases i <;> rfl
  chats _ := rfl

def textAndAck : List (Event Bool) :=
  [.sendTextMessage false "hi" "bob" 1000, .network (.act false {} (.sendText "hi" "bob" 1000)),
    .network (.act false {} .write), .network (.deliver false 0),
    .network (.act true {} .read), .network (.deliver true 0),
    .network (.act false {} .read), .onReceive false 0]

theorem acked_texts_shown_same_file :
    Sound ((machine demoPlatform oneLink).run (connected [1] [1]) textAndAck) :=
  acked_texts_shown (started_connected [1] [1]) (by decide +kernel)

theorem unread_text_acked : Started (connected [1] [1, 9]) ∧
    ¬ Sound ((machine demoPlatform oneLink).run (connected [1] [1, 9]) textAndAck) := by
  refine ⟨started_connected [1] [1, 9], ?_⟩
  intro h
  have hacked : ∃ bean ∈ (((machine demoPlatform oneLink).run (connected [1] [1, 9])
      textAndAck).chats false).beans, bean.fromSelf = true ∧ bean.isAcked = 1 := by
    decide +kernel
  have hnothing : (((machine demoPlatform oneLink).run (connected [1] [1, 9])
      textAndAck).network true).notices = [] := by decide +kernel
  have halice : (((machine demoPlatform oneLink).run (connected [1] [1, 9])
      textAndAck).network false).notices = [.peerHasReceivedMessage 1000] := by decide +kernel
  obtain ⟨bean, hbean, hself, hack⟩ := hacked
  obtain ⟨j, -, hshown⟩ := h false bean hbean hself hack
  cases j with
  | true =>
    rw [hnothing] at hshown
    cases hshown
  | false =>
    rw [halice] at hshown
    cases hshown

end Delivery

end TorChat
