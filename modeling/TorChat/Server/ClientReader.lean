import TorChat.Server.CellReader

namespace TorChat

open Library (Bytes Segment frames)
open RequestHandler (cellSize)

namespace ClientTransport

-- the fields of the connection are those the other threads have left when a cell is handled
structure Client where
  mailItem : MailItem
  localPrivateKey : PrivateKey
  handShakeMessage : HandShakeMessage
  socket : Nat
  statusItem : Nat → ConnectionStatusItem

inductive Handling where
  | skipped
  | queued (item : MessageItem Bytes)
  | threw
  deriving DecidableEq, Repr

structure Handled where
  recieveQueue : List (MessageItem Bytes)
  deleted : List ConnectionStatusItem
  deriving DecidableEq, Repr

namespace Client

variable (C : Crypto) (client : Client)

def messageItem (externalPayload : Bytes) (type : Nat) : MessageItem Bytes where
  onionName := client.mailItem.onionName
  socket := client.socket
  data := externalPayload
  type := type
  purpose := 0
  handShakeMessage := some client.handShakeMessage

def handleCell (k : Nat) (b : Bytes) : Handling :=
  if b = List.replicate cellSize 0 then .skipped
  else if (client.statusItem k).status = 0 then
    match Wire.parse C b client.localPrivateKey with
    | none => .threw
    | some externalPayload => .queued (client.messageItem externalPayload 0)
  else if (client.statusItem k).status = 1 then
    match Wire.parseDataPayload C b (client.statusItem k).shareKey with
    | none => .skipped
    | some externalPayload => .queued (client.messageItem externalPayload 1)
  else .skipped

def closed (k : Nat) (queue : List (MessageItem Bytes)) : Handled where
  recieveQueue := queue
  deleted := [client.statusItem k]

def handleLoop : Nat → Nat → List (MessageItem Bytes) → InputStream → Option Handled
  | 0, _, _, _ => none
  | fuel + 1, k, queue, input =>
      match readExactly fuel input with
      | none => none
      | some (none, _) => some (client.closed k queue)
      | some (some b, rest) =>
          match client.handleCell C k b with
          | .skipped => handleLoop fuel (k + 1) queue rest
          | .queued item => handleLoop fuel (k + 1) (queue ++ [item]) rest
          | .threw => some (client.closed k queue)

def handle (sent : Bool) (fuel : Nat) (input : InputStream) : Option Handled :=
  if sent then client.handleLoop C fuel 0 [] input else some (client.closed 0 [])

def Throws (k : Nat) (b : Bytes) : Prop :=
  b ≠ List.replicate cellSize 0 ∧ (client.statusItem k).status = 0 ∧
    Wire.parse C b client.localPrivateKey = none

-- an exception of the stream, or a cell that the handler cannot read, is still to come
def Stops (input : InputStream) (k : Nat) : Prop :=
  input.breaks = true ∨
    ∃ i b, (frames cellSize input.bytes)[i]? = some b ∧ client.Throws C (k + i) b

def CellQueued (input : InputStream) (k : Nat) (item : MessageItem Bytes) : Prop :=
  ∃ i b, (frames cellSize input.bytes)[i]? = some b ∧
    client.handleCell C (k + i) b = .queued item

def Ends (sent : Bool) (input : InputStream) : Prop :=
  ∃ fuel handled, client.handle C sent fuel input = some handled ∧
    (∃ k, handled.deleted = [client.statusItem k]) ∧
    ∀ item ∈ handled.recieveQueue, client.CellQueued C input 0 item

theorem handleCell_threw {k : Nat} {b : Bytes} :
    client.handleCell C k b = .threw ↔ client.Throws C k b := by
  rw [handleCell, Throws]
  by_cases hzeros : b = List.replicate cellSize 0
  · simp [hzeros]
  · by_cases hstatus : (client.statusItem k).status = 0
    · rw [if_neg hzeros, if_pos hstatus]
      cases hparse : Wire.parse C b client.localPrivateKey with
      | none => simp [hzeros, hstatus]
      | some externalPayload => simp
    · rw [if_neg hzeros, if_neg hstatus]
      refine ⟨fun h => ?_, fun h => absurd h.2.1 hstatus⟩
      split at h
      · split at h <;> cases h
      · cases h

variable {client} {fuel k : Nat} {queue : List (MessageItem Bytes)} {input : InputStream}
  {handled : Handled}

theorem frames_shift {b : Bytes} {i : Nat} (h : cellSize ≤ input.bytes.length)
    (hi : (frames cellSize (input.skip cellSize).bytes)[i]? = some b) :
    (frames cellSize input.bytes)[i + 1]? = some b := by
  rw [CellReader.frames_cons h, List.getElem?_cons_succ, ← InputStream.bytes_skip]
  exact hi

theorem frames_first (h : cellSize ≤ input.bytes.length) :
    (frames cellSize input.bytes)[0]? = some (input.bytes.take cellSize) := by
  rw [CellReader.frames_cons h]
  rfl

theorem cellQueued_shift {item : MessageItem Bytes} (h : cellSize ≤ input.bytes.length)
    (hitem : client.CellQueued C (input.skip cellSize) (k + 1) item) :
    client.CellQueued C input k item := by
  obtain ⟨i, b, hi, hqueued⟩ := hitem
  refine ⟨i + 1, b, frames_shift h hi, ?_⟩
  rwa [Nat.add_right_comm k 1 i] at hqueued

theorem stops_iff (hle : cellSize ≤ input.bytes.length) :
    client.Stops C input k ↔ client.Throws C k (input.bytes.take cellSize) ∨
      client.Stops C (input.skip cellSize) (k + 1) := by
  constructor
  · rintro (hbreaks | ⟨i, b, hi, hthrows⟩)
    · exact .inr (.inl hbreaks)
    · cases i with
      | zero =>
        rw [frames_first hle] at hi
        cases hi
        exact .inl hthrows
      | succ i =>
        rw [CellReader.frames_cons hle, List.getElem?_cons_succ, ← InputStream.bytes_skip] at hi
        exact .inr (.inr ⟨i, b, hi, by rwa [Nat.add_right_comm k 1 i]⟩)
  · rintro (hthrows | hbreaks | ⟨i, b, hi, hthrows⟩)
    · exact .inr ⟨0, _, frames_first hle, hthrows⟩
    · exact .inl hbreaks
    · refine .inr ⟨i + 1, b, frames_shift hle hi, ?_⟩
      rwa [Nat.add_right_comm k 1 i] at hthrows

theorem handleLoop_spec (h : client.handleLoop C fuel k queue input = some handled) :
    client.Stops C input k ∧ (∃ k, handled.deleted = [client.statusItem k]) ∧
      ∀ item ∈ handled.recieveQueue, item ∈ queue ∨ client.CellQueued C input k item := by
  induction fuel generalizing k queue input with
  | zero => cases h
  | succ fuel ih =>
    rw [handleLoop] at h
    split at h
    · cases h
    · rename_i hread
      cases h
      exact ⟨.inl (CellReader.breaks_of_null hread), ⟨k, rfl⟩, fun item hitem => .inl hitem⟩
    · rename_i b rest hread
      obtain ⟨hle, rfl, rfl, _⟩ := CellReader.readExactly_iff.mp ⟨_, hread⟩
      split at h
      · obtain ⟨hstops, hdeleted, hqueue⟩ := ih h
        refine ⟨(stops_iff C hle).mpr (.inr hstops), hdeleted, fun item hitem => ?_⟩
        exact (hqueue item hitem).imp_right (cellQueued_shift C hle)
      · rename_i item hitem
        obtain ⟨hstops, hdeleted, hqueue⟩ := ih h
        refine ⟨(stops_iff C hle).mpr (.inr hstops), hdeleted, fun other hother => ?_⟩
        rcases hqueue other hother with hin | hnew
        · rcases List.mem_append.mp hin with hold | hsame
          · exact .inl hold
          · rw [List.mem_singleton.mp hsame]
            exact .inr ⟨0, _, frames_first hle, hitem⟩
        · exact .inr (cellQueued_shift C hle hnew)
      · rename_i hthrew
        cases h
        have hthrows := (handleCell_threw C client).mp hthrew
        exact ⟨(stops_iff C hle).mpr (.inl hthrows), ⟨k, rfl⟩, fun item hitem => .inl hitem⟩

theorem handleLoop_cell (client : Client) (k : Nat) (queue : List (MessageItem Bytes))
    (hle : cellSize ≤ input.bytes.length) (hfuel : input.spread cellSize < fuel) :
    client.handleLoop C (fuel + 1) k queue input =
      match client.handleCell C k (input.bytes.take cellSize) with
      | .skipped => client.handleLoop C fuel (k + 1) queue (input.skip cellSize)
      | .queued item => client.handleLoop C fuel (k + 1) (queue ++ [item]) (input.skip cellSize)
      | .threw => some (client.closed k queue) := by
  have hread : readExactly fuel input =
      some (some (input.bytes.take cellSize), input.skip cellSize) :=
    CellReader.readLoop_of_gathers (Nat.zero_le _) hfuel ⟨hle, rfl, rfl, fun _ _ => rfl⟩
  rw [handleLoop, hread]

-- by induction on the complete cells that are left
theorem handleLoop_ends (client : Client) (k : Nat) (queue : List (MessageItem Bytes))
    (input : InputStream) (h : client.Stops C input k) :
    ∃ enough handled, ∀ fuel, enough ≤ fuel →
      client.handleLoop C (fuel + 1) k queue input = some handled := by
  induction hn : input.bytes.length / cellSize generalizing k queue input with
  | zero =>
    have hlt : input.bytes.length < cellSize := (Nat.div_eq_zero_iff_lt (by decide)).mp hn
    rcases h with hbreaks | ⟨i, b, hi, _⟩
    · obtain ⟨enough, rest, hread⟩ : ∃ enough rest, ∀ fuel, enough ≤ fuel →
          readExactly fuel input = some (none, rest) :=
        CellReader.null_of_breaks hbreaks (by rw [List.length_nil]; omega)
      refine ⟨enough, client.closed k queue, fun fuel hfuel => ?_⟩
      rw [handleLoop, hread fuel hfuel]
    · rw [CellReader.frames_nil hlt] at hi
      cases hi
  | succ n ih =>
    have hle : cellSize ≤ input.bytes.length := (Nat.div_pos_iff.mp (by omega)).2
    have hcount : (input.skip cellSize).bytes.length / cellSize = n := by
      rw [InputStream.cells_skip, hn, Nat.add_sub_cancel]
    by_cases hthrows : client.Throws C k (input.bytes.take cellSize)
    · refine ⟨input.spread cellSize + 1, client.closed k queue, fun fuel hfuel => ?_⟩
      rw [handleLoop_cell C client k queue hle hfuel, (handleCell_threw C client).mpr hthrows]
    · have hstops := ((stops_iff C hle).mp h).resolve_left hthrows
      have hlater : ∀ queue', ∃ enough handled, ∀ fuel, enough ≤ fuel →
          client.handleLoop C fuel (k + 1) queue' (input.skip cellSize) = some handled := by
        intro queue'
        obtain ⟨enough, handled, hrec⟩ := ih (k + 1) queue' (input.skip cellSize) hstops hcount
        refine ⟨enough + 1, handled, fun fuel hfuel => ?_⟩
        obtain ⟨fuel, rfl⟩ := Nat.exists_eq_add_of_le' (Nat.le_trans (Nat.le_add_left 1 _) hfuel)
        exact hrec fuel (by omega)
      cases hcell : client.handleCell C k (input.bytes.take cellSize) with
      | threw => exact absurd ((handleCell_threw C client).mp hcell) hthrows
      | skipped =>
        obtain ⟨enough, handled, hrec⟩ := hlater queue
        refine ⟨enough + input.spread cellSize + 1, handled, fun fuel hfuel => ?_⟩
        rw [handleLoop_cell C client k queue hle (by omega), hcell]
        exact hrec fuel (by omega)
      | queued item =>
        obtain ⟨enough, handled, hrec⟩ := hlater (queue ++ [item])
        refine ⟨enough + input.spread cellSize + 1, handled, fun fuel hfuel => ?_⟩
        rw [handleLoop_cell C client k queue hle (by omega), hcell]
        exact hrec fuel (by omega)

-- at the end of the stream the reads bring nothing for ever
theorem handle_ends_iff (client : Client) (sent : Bool) (input : InputStream) :
    client.Ends C sent input ↔ sent = false ∨ input.breaks = true ∨
      ∃ i b, (frames cellSize input.bytes)[i]? = some b ∧ client.Throws C i b := by
  have hstops : client.Stops C input 0 ↔ input.breaks = true ∨
      ∃ i b, (frames cellSize input.bytes)[i]? = some b ∧ client.Throws C i b := by
    simp only [Stops, Nat.zero_add]
  rw [← hstops]
  cases sent with
  | false =>
    refine ⟨fun _ => .inl rfl, fun _ => ⟨0, client.closed 0 [], rfl, ⟨0, rfl⟩, ?_⟩⟩
    exact fun item hitem => absurd hitem List.not_mem_nil
  | true =>
    constructor
    · rintro ⟨fuel, handled, h, _⟩
      exact .inr (handleLoop_spec C h).1
    · rintro (hsent | h)
      · cases hsent
      · obtain ⟨enough, handled, hrun⟩ := handleLoop_ends C client 0 [] input h
        have hhandle := hrun enough (Nat.le_refl enough)
        obtain ⟨_, hdeleted, hqueue⟩ := handleLoop_spec C hhandle
        refine ⟨enough + 1, handled, hhandle, hdeleted, fun item hitem => ?_⟩
        rcases hqueue item hitem with hnone | hqueued
        · exact absurd hnone List.not_mem_nil
        · exact hqueued

end Client

def idleClient : Client where
  mailItem := { onionName := "b.onion", onionHash := [], publicKey := ⟨1⟩ }
  localPrivateKey := ⟨1⟩
  handShakeMessage := {
    remoteOnion := "b.onion", localPrivateKey := ⟨1⟩, remotePublickey := ⟨1⟩ }
  socket := 1
  statusItem _ := { onionName := "b.onion", socket := 1 }

theorem idleClient_never_ends : ¬ idleClient.Ends demoCrypto true { segments := [] } := by
  rintro ⟨fuel, handled, h, _⟩
  obtain ⟨hbreaks | ⟨i, b, hi, _⟩, _⟩ := Client.handleLoop_spec demoCrypto h
  · cases hbreaks
  · cases hi

end ClientTransport

end TorChat
