import TorChat.Text.Framing
import TorChat.Library.Segments

namespace TorChat

open Library (Bytes Segment frames)
open RequestHandler (cellSize)

structure InputStream where
  segments : List (Segment UInt8)
  -- whether an exception follows the last byte, instead of the end of the stream
  breaks : Bool := false

namespace InputStream

inductive Read where
  | bytes (bs : Bytes) (rest : InputStream)
  | endOfStream
  | exception

def bytes (input : InputStream) : Bytes := Segment.join input.segments

def read (input : InputStream) (len : Nat) : Read :=
  match input.segments with
  | [] => if input.breaks then .exception else .endOfStream
  | s :: _ =>
      .bytes (s.val.take len)
        { input with segments := Segment.skip (min len s.val.length) input.segments }

def skip (input : InputStream) (n : Nat) : InputStream :=
  { input with segments := Segment.skip n input.segments }

def spread (input : InputStream) (n : Nat) : Nat := Segment.spread n input.segments

theorem bytes_skip (input : InputStream) (n : Nat) :
    (input.skip n).bytes = input.bytes.drop n := Segment.join_skip n input.segments

theorem skip_skip (input : InputStream) (m n : Nat) :
    (input.skip m).skip n = input.skip (m + n) := by
  rw [skip, skip, Segment.skip_skip]
  rfl

theorem skip_none (input : InputStream) (n : Nat) : input.skip (0 * n) = input := by
  rw [Nat.zero_mul, skip, Segment.skip_zero]

theorem skip_more (input : InputStream) (i n : Nat) :
    input.skip ((i + 1) * n) = (input.skip n).skip (i * n) := by
  rw [skip_skip, Nat.succ_mul, Nat.add_comm]

theorem cells_skip (input : InputStream) (n : Nat) :
    (input.skip n).bytes.length / n = input.bytes.length / n - 1 := by
  have hdiv := Nat.sub_mul_div input.bytes.length n 1
  rwa [Nat.mul_one, ← List.length_drop, ← bytes_skip] at hdiv

theorem read_bytes {input rest : InputStream} {len : Nat} {bs : Bytes} (hlen : 0 < len)
    (h : input.read len = .bytes bs rest) :
    0 < bs.length ∧ bs.length ≤ len ∧ bs.length ≤ input.bytes.length ∧
      bs = input.bytes.take bs.length ∧ rest = input.skip bs.length ∧
      input.spread len = rest.spread (len - bs.length) + 1 := by
  obtain ⟨segments, breaks⟩ := input
  cases segments with
  | nil =>
    rw [read] at h
    dsimp only at h
    split at h <;> cases h
  | cons s more =>
    cases h
    have hpos := s.length_pos
    have hbytes : bytes ⟨s :: more, breaks⟩ = s.val ++ Segment.join more :=
      Segment.join_cons s more
    rw [List.length_take, hbytes, List.length_append]
    refine ⟨by omega, by omega, by omega, ?_, rfl, Segment.spread_first hlen s more⟩
    rw [List.take_append_of_le_length (by omega), List.take_eq_take_iff]
    omega

theorem read_of_bytes_ne {input : InputStream} (len : Nat) (h : input.bytes ≠ []) :
    ∃ bs rest, input.read len = .bytes bs rest := by
  obtain ⟨segments, breaks⟩ := input
  cases segments with
  | nil => exact absurd rfl h
  | cons s more => exact ⟨_, _, rfl⟩

end InputStream

namespace CellReader

-- the result is the cell, or null, with what is left of the stream; out of fuel, it still loops
def readLoop (giveUp : Nat → Bool) :
    Nat → Bytes → Nat → InputStream → Option (Option Bytes × InputStream)
  | 0, _, _, _ => none
  | fuel + 1, b, count, input =>
      if cellSize ≤ b.length then some (some b, input)
      else
        match input.read (cellSize - b.length) with
        | .exception => some (none, input)
        | .endOfStream =>
            if giveUp (count + 1) then some (none, input)
            else readLoop giveUp fuel b (count + 1) input
        | .bytes bs rest =>
            if giveUp (count + 1) then some (none, rest)
            else readLoop giveUp fuel (b ++ bs) (count + 1) rest

def readExactly (giveUp : Nat → Bool) (fuel : Nat) (input : InputStream) :
    Option (Option Bytes × InputStream) :=
  readLoop giveUp fuel [] 0 input

inductive CellsRead (readExactly : Nat → InputStream → Option (Option Bytes × InputStream)) :
    InputStream → List Bytes → Prop where
  | cell {fuel : Nat} {input rest : InputStream} {b : Bytes} {cells : List Bytes} :
      readExactly fuel input = some (some b, rest) → CellsRead readExactly rest cells →
      CellsRead readExactly input (b :: cells)
  | noCell {input : InputStream} :
      (∀ fuel b rest, readExactly fuel input ≠ some (some b, rest)) →
      CellsRead readExactly input []

end CellReader

namespace ServerTransport

def giveUp (count : Nat) : Bool := decide (10 < count)

def readExactly (fuel : Nat) (input : InputStream) : Option (Option Bytes × InputStream) :=
  CellReader.readExactly giveUp fuel input

end ServerTransport

namespace ClientTransport

def readExactly (fuel : Nat) (input : InputStream) : Option (Option Bytes × InputStream) :=
  CellReader.readExactly (fun _ => false) fuel input

end ClientTransport

namespace CellReader

structure Gathers (giveUp : Nat → Bool) (b : Bytes) (count : Nat) (input : InputStream)
    (cell : Bytes) (rest : InputStream) : Prop where
  enough : cellSize - b.length ≤ input.bytes.length
  cell_eq : cell = b ++ input.bytes.take (cellSize - b.length)
  rest_eq : rest = input.skip (cellSize - b.length)
  patient : ∀ j < input.spread (cellSize - b.length), giveUp (count + j + 1) = false

variable {giveUp : Nat → Bool} {fuel count : Nat} {b bs cell : Bytes}
  {input next rest : InputStream}

theorem gathers_step (hb : b.length < cellSize)
    (h : input.read (cellSize - b.length) = .bytes bs next) :
    Gathers giveUp b count input cell rest ↔
      giveUp (count + 1) = false ∧ Gathers giveUp (b ++ bs) (count + 1) next cell rest := by
  obtain ⟨hpos, hlen, hle, hbs, rfl, hspread⟩ := InputStream.read_bytes (by omega) h
  have hlength : cellSize - (b ++ bs).length = cellSize - b.length - bs.length := by
    rw [List.length_append]
    omega
  have htake : b ++ input.bytes.take (cellSize - b.length) =
      b ++ bs ++ (input.bytes.drop bs.length).take (cellSize - b.length - bs.length) := by
    rw [List.append_assoc]
    congr 1
    have hsum : cellSize - b.length = bs.length + (cellSize - b.length - bs.length) := by omega
    rw [hsum, List.take_add, ← hbs]
    congr 2
    omega
  have hskip : input.skip (cellSize - b.length) =
      (input.skip bs.length).skip (cellSize - b.length - bs.length) := by
    rw [InputStream.skip_skip]
    congr 1
    omega
  constructor
  · intro hg
    refine ⟨hg.patient 0 (by omega), ?_, ?_, ?_, ?_⟩
    · have henough := hg.enough
      rw [hlength, InputStream.bytes_skip, List.length_drop]
      omega
    · rw [hg.cell_eq, htake, hlength, InputStream.bytes_skip]
    · rw [hg.rest_eq, hskip, hlength]
    · intro j hj
      rw [hlength] at hj
      have hpatient := hg.patient (j + 1) (by omega)
      rwa [Nat.add_right_comm count 1 j]
  · rintro ⟨hfirst, hg⟩
    refine ⟨?_, ?_, ?_, ?_⟩
    · have henough := hg.enough
      rw [hlength, InputStream.bytes_skip, List.length_drop] at henough
      omega
    · rw [hg.cell_eq, htake, hlength, InputStream.bytes_skip]
    · rw [hg.rest_eq, hskip, hlength]
    · intro j hj
      cases j with
      | zero => exact hfirst
      | succ j =>
        have hpatient := hg.patient j (by rw [hlength]; omega)
        rwa [Nat.add_right_comm count 1 j] at hpatient

theorem gathers_full (hb : b.length = cellSize) :
    Gathers giveUp b count input cell rest ↔ cell = b ∧ rest = input := by
  have hzero : cellSize - b.length = 0 := by omega
  constructor
  · intro hg
    have hcell := hg.cell_eq
    have hrest := hg.rest_eq
    rw [hzero] at hcell hrest
    rw [List.take_zero, List.append_nil] at hcell
    refine ⟨hcell, hrest.trans ?_⟩
    rw [InputStream.skip, Segment.skip_zero]
  · rintro ⟨rfl, rfl⟩
    refine ⟨by omega, by rw [hzero, List.take_zero, List.append_nil], ?_, ?_⟩
    · rw [hzero, InputStream.skip, Segment.skip_zero]
    · intro j hj
      rw [hzero, InputStream.spread, Segment.spread_zero] at hj
      omega

theorem gathers_of_readLoop (hb : b.length ≤ cellSize)
    (h : readLoop giveUp fuel b count input = some (some cell, rest)) :
    Gathers giveUp b count input cell rest := by
  induction fuel generalizing b count input with
  | zero => cases h
  | succ fuel ih =>
    rw [readLoop] at h
    split at h
    · cases h
      exact (gathers_full (by omega)).mpr ⟨rfl, rfl⟩
    · rename_i hshort
      have hlt : b.length < cellSize := Nat.not_le.mp hshort
      split at h
      · cases h
      · rename_i hread
        have hbytes : input.bytes = [] := by
          by_contra hne
          obtain ⟨bs, next, hbs⟩ := InputStream.read_of_bytes_ne (cellSize - b.length) hne
          rw [hread] at hbs
          cases hbs
        split at h
        · cases h
        · have henough := (ih hb h).enough
          rw [hbytes, List.length_nil] at henough
          omega
      · rename_i bs next hread
        split at h
        · cases h
        · rename_i hpatient
          obtain ⟨_, hlen, _⟩ := InputStream.read_bytes (by omega) hread
          refine (gathers_step hlt hread).mpr ⟨Bool.not_eq_true _ ▸ hpatient, ih ?_ h⟩
          rw [List.length_append]
          omega

theorem readLoop_of_gathers (hb : b.length ≤ cellSize)
    (hfuel : input.spread (cellSize - b.length) < fuel)
    (hg : Gathers giveUp b count input cell rest) :
    readLoop giveUp fuel b count input = some (some cell, rest) := by
  induction fuel generalizing b count input with
  | zero => omega
  | succ fuel ih =>
    rw [readLoop]
    split
    · obtain ⟨rfl, rfl⟩ := (gathers_full (by omega)).mp hg
      rfl
    · rename_i hshort
      have hlt : b.length < cellSize := Nat.not_le.mp hshort
      have hne : input.bytes ≠ [] := by
        intro hnil
        have henough := hg.enough
        rw [hnil, List.length_nil] at henough
        omega
      obtain ⟨bs, next, hread⟩ := InputStream.read_of_bytes_ne (cellSize - b.length) hne
      obtain ⟨hpatient, hnext⟩ := (gathers_step hlt hread).mp hg
      obtain ⟨_, hlen, _, _, _, hspread⟩ := InputStream.read_bytes (by omega) hread
      rw [hread]
      dsimp only
      rw [hpatient, if_neg Bool.false_ne_true]
      refine ih ?_ ?_ hnext
      · rw [List.length_append]
        omega
      · have hlength : cellSize - (b ++ bs).length = cellSize - b.length - bs.length := by
          rw [List.length_append]
          omega
        rw [hlength]
        omega

theorem breaks_of_null (h : readLoop (fun _ => false) fuel b count input = some (none, rest)) :
    input.breaks = true := by
  induction fuel generalizing b count input with
  | zero => cases h
  | succ fuel ih =>
    obtain ⟨segments, breaks⟩ := input
    rw [readLoop] at h
    split at h
    · cases h
    · cases segments with
      | nil =>
        cases breaks with
        | true => rfl
        | false =>
          have hrec := ih h
          exact hrec
      | cons s more =>
        have hrec := ih h
        exact hrec

theorem null_of_breaks (hbreaks : input.breaks = true)
    (hshort : b.length + input.bytes.length < cellSize) :
    ∃ enough rest, ∀ fuel, enough ≤ fuel →
      readLoop (fun _ => false) fuel b count input = some (none, rest) := by
  obtain ⟨segments, breaks⟩ := input
  induction segments generalizing b count with
  | nil =>
    refine ⟨1, ⟨[], breaks⟩, fun fuel hfuel => ?_⟩
    obtain ⟨fuel, rfl⟩ := Nat.exists_eq_add_of_le' hfuel
    have hb : ¬ cellSize ≤ b.length := by omega
    have hread : InputStream.read ⟨[], breaks⟩ (cellSize - b.length) = .exception :=
      if_pos hbreaks
    rw [readLoop, if_neg hb, hread]
  | cons s more ih =>
    have hbytes : InputStream.bytes ⟨s :: more, breaks⟩ = s.val ++ Segment.join more :=
      Segment.join_cons s more
    rw [hbytes, List.length_append] at hshort
    have hle : s.val.length ≤ cellSize - b.length := by omega
    have hmore :
        (b ++ s.val).length + (InputStream.bytes ⟨more, breaks⟩).length < cellSize := by
      have hlast : InputStream.bytes ⟨more, breaks⟩ = Segment.join more := rfl
      rw [List.length_append, hlast]
      omega
    have hlater : ∃ enough rest, ∀ fuel, enough ≤ fuel →
        readLoop (fun _ => false) fuel (b ++ s.val) (count + 1) ⟨more, breaks⟩ =
          some (none, rest) := ih hbreaks hmore
    obtain ⟨enough, rest, hrec⟩ := hlater
    refine ⟨enough + 1, rest, fun fuel hfuel => ?_⟩
    have hsucc := Nat.le_trans (Nat.le_add_left 1 enough) hfuel
    obtain ⟨fuel, rfl⟩ := Nat.exists_eq_add_of_le' hsucc
    have hb : ¬ cellSize ≤ b.length := by omega
    have hread : InputStream.read ⟨s :: more, breaks⟩ (cellSize - b.length) =
        .bytes s.val ⟨more, breaks⟩ := by
      rw [InputStream.read]
      dsimp only
      rw [List.take_of_length_le hle, Nat.min_eq_right hle, Segment.skip_first]
    rw [readLoop, if_neg hb, hread]
    exact hrec fuel (by omega)

theorem readExactly_iff :
    (∃ fuel, readExactly giveUp fuel input = some (some cell, rest)) ↔
      cellSize ≤ input.bytes.length ∧ cell = input.bytes.take cellSize ∧
        rest = input.skip cellSize ∧
        ∀ j < input.spread cellSize, giveUp (j + 1) = false := by
  constructor
  · rintro ⟨fuel, h⟩
    obtain ⟨henough, hcell, hrest, hpatient⟩ := gathers_of_readLoop (Nat.zero_le _) h
    refine ⟨henough, hcell, hrest, fun j hj => ?_⟩
    have := hpatient j hj
    rwa [Nat.zero_add] at this
  · rintro ⟨henough, hcell, hrest, hpatient⟩
    refine ⟨_, readLoop_of_gathers (Nat.zero_le _) (Nat.lt_succ_self _)
      ⟨henough, hcell, hrest, fun j hj => ?_⟩⟩
    rw [Nat.zero_add]
    exact hpatient j hj

theorem cellsRead_unique {cells cells' : List Bytes}
    (h : CellsRead (readExactly giveUp) input cells)
    (h' : CellsRead (readExactly giveUp) input cells') : cells = cells' := by
  induction h generalizing cells' with
  | cell hread _ ih =>
    cases h' with
    | cell hread' hmore' =>
      obtain ⟨_, hb, hrest, _⟩ := readExactly_iff.mp ⟨_, hread⟩
      obtain ⟨_, hb', hrest', _⟩ := readExactly_iff.mp ⟨_, hread'⟩
      rw [hb, hb', ih (hrest'.trans hrest.symm ▸ hmore')]
    | noCell hnone => exact absurd hread (hnone _ _ _)
  | noCell hnone =>
    cases h' with
    | cell hread' _ => exact absurd hread' (hnone _ _ _)
    | noCell _ => rfl

theorem frames_nil {xs : Bytes} (h : xs.length < cellSize) : frames cellSize xs = [] := by
  rw [Library.frames, Nat.div_eq_of_lt h]
  rfl

theorem frames_cons {xs : Bytes} (h : cellSize ≤ xs.length) :
    frames cellSize xs = xs.take cellSize :: frames cellSize (xs.drop cellSize) := by
  have hdiv : xs.length / cellSize = (xs.length - cellSize) / cellSize + 1 :=
    Nat.div_eq_sub_div (by decide) h
  rw [Library.frames, hdiv, Library.blocks, Library.frames, List.length_drop]

theorem cellsRead_cons (hle : cellSize ≤ input.bytes.length) {cells : List Bytes} :
    CellsRead (readExactly giveUp) input (input.bytes.take cellSize :: cells) ↔
      (∀ j < input.spread cellSize, giveUp (j + 1) = false) ∧
        CellsRead (readExactly giveUp) (input.skip cellSize) cells := by
  constructor
  · rintro (⟨hread, hcells⟩ | _)
    obtain ⟨_, _, hrest, hpatient⟩ := readExactly_iff.mp ⟨_, hread⟩
    exact ⟨hpatient, hrest ▸ hcells⟩
  · rintro ⟨hpatient, hcells⟩
    obtain ⟨fuel, hread⟩ := readExactly_iff.mpr ⟨hle, rfl, rfl, hpatient⟩
    exact .cell hread hcells

theorem cellsRead_frames (giveUp : Nat → Bool) (input : InputStream) :
    CellsRead (readExactly giveUp) input (frames cellSize input.bytes) ↔
      ∀ i < input.bytes.length / cellSize,
        ∀ j < (input.skip (i * cellSize)).spread cellSize, giveUp (j + 1) = false := by
  induction hn : input.bytes.length / cellSize generalizing input with
  | zero =>
    have hlt : input.bytes.length < cellSize := (Nat.div_eq_zero_iff_lt (by decide)).mp hn
    rw [frames_nil hlt]
    refine ⟨fun _ i hi => absurd hi (Nat.not_lt_zero i), fun _ => .noCell ?_⟩
    intro fuel b rest h
    have henough := (readExactly_iff.mp ⟨fuel, h⟩).1
    omega
  | succ n ih =>
    have hle : cellSize ≤ input.bytes.length := (Nat.div_pos_iff.mp (by omega)).2
    have hcount : (input.skip cellSize).bytes.length / cellSize = n := by
      rw [InputStream.cells_skip, hn, Nat.add_sub_cancel]
    have hmore := ih (input.skip cellSize) hcount
    rw [frames_cons hle, ← InputStream.bytes_skip, cellsRead_cons hle, hmore]
    constructor
    · rintro ⟨hfirst, hlater⟩ i hi
      cases i with
      | zero => rwa [InputStream.skip_none]
      | succ i =>
        rw [InputStream.skip_more]
        exact hlater i (by omega)
    · intro hpatient
      have hfirst := hpatient 0 (Nat.succ_pos n)
      rw [InputStream.skip_none] at hfirst
      refine ⟨hfirst, fun i hi => ?_⟩
      rw [← InputStream.skip_more]
      exact hpatient (i + 1) (by omega)

theorem cellsRead_iff_frames (giveUp : Nat → Bool) (input : InputStream) :
    (∀ cells, CellsRead (readExactly giveUp) input cells ↔
        cells = frames cellSize input.bytes) ↔
      ∀ i < input.bytes.length / cellSize,
        ∀ j < (input.skip (i * cellSize)).spread cellSize, giveUp (j + 1) = false := by
  rw [← cellsRead_frames giveUp input]
  constructor
  · intro h
    exact (h _).mpr rfl
  · intro h cells
    exact ⟨fun hcells => cellsRead_unique hcells h, fun heq => heq ▸ h⟩

end CellReader

namespace ServerTransport

theorem readLoop_returns {fuel count : Nat} (b : Bytes) (input : InputStream)
    (hfuel : 11 < fuel + count) (hcount : count ≤ 10) :
    ∃ result, CellReader.readLoop giveUp fuel b count input = some result := by
  induction fuel generalizing b count input with
  | zero => omega
  | succ fuel ih =>
    rw [CellReader.readLoop]
    split
    · exact ⟨_, rfl⟩
    · split
      · exact ⟨_, rfl⟩
      all_goals
        split
        · exact ⟨_, rfl⟩
        · rename_i hpatient
          have hnext : count + 1 ≤ 10 := by
            rw [giveUp, decide_eq_true_eq] at hpatient
            omega
          exact ih _ _ (by omega) hnext

theorem readExactly_returns (input : InputStream) :
    ∃ result, readExactly 12 input = some result :=
  readLoop_returns [] input (by decide) (by decide)

def lengths (input : InputStream) : List Nat := input.segments.map (fun s => s.val.length)

theorem arrivals_full {arrivals : List Nat} {count : Nat} {b stream : Bytes}
    (h : cellSize ≤ b.length) :
    RequestHandler.readLoop arrivals count b stream = some (b, stream) := by
  cases arrivals <;> rw [RequestHandler.readLoop, if_pos h]

theorem arrivals_nil {count : Nat} {b stream : Bytes} (h : b.length < cellSize) :
    RequestHandler.readLoop [] count b stream = none := by
  rw [RequestHandler.readLoop, if_neg (Nat.not_le.mpr h)]

-- one read takes the first segment, or as much of it as the cell still lacks
theorem arrivals_read {count : Nat} {b : Bytes} (s : Segment UInt8) (more : List (Segment UInt8))
    (breaks : Bool) (hshort : ¬ cellSize ≤ b.length) (hcount : ¬ count + 1 > 10) :
    let input : InputStream := ⟨s :: more, breaks⟩
    let next := input.skip (min (cellSize - b.length) s.val.length)
    RequestHandler.readLoop (lengths input) count b input.bytes =
      RequestHandler.readLoop (lengths next) (count + 1)
        (b ++ s.val.take (cellSize - b.length)) next.bytes := by
  intro input next
  have hbytes : input.bytes = s.val ++ Segment.join more := Segment.join_cons s more
  have htake : input.bytes.take (min s.val.length (cellSize - b.length)) =
      s.val.take (cellSize - b.length) := by
    rw [hbytes, List.take_append_of_le_length (by omega), List.take_eq_take_iff]
    omega
  have hdrop : input.bytes.drop (min s.val.length (cellSize - b.length)) = next.bytes := by
    rw [Nat.min_comm]
    exact (input.bytes_skip _).symm
  have hstep : RequestHandler.readLoop (lengths input) count b input.bytes =
      RequestHandler.readLoop (more.map (fun s => s.val.length)) (count + 1)
        (b ++ s.val.take (cellSize - b.length)) next.bytes := by
    rw [lengths, List.map_cons, RequestHandler.readLoop, if_neg hshort]
    dsimp only
    rw [if_neg hcount, htake, hdrop]
  rw [hstep]
  by_cases hlen : s.val.length ≤ cellSize - b.length
  · have hnext : next.segments = more := by
      have hmin : min (cellSize - b.length) s.val.length = s.val.length := Nat.min_eq_right hlen
      dsimp only [next, input, InputStream.skip]
      rw [hmin, Segment.skip_first]
    rw [lengths, hnext]
  · have hfull : cellSize ≤ (b ++ s.val.take (cellSize - b.length)).length := by
      rw [List.length_append, List.length_take]
      omega
    rw [arrivals_full hfull, arrivals_full hfull]

-- the reads of the text stream are the lengths of the segments
theorem readLoop_eq_arrivals {fuel count : Nat} {b : Bytes} {input rest : InputStream}
    {cell : Option Bytes}
    (h : CellReader.readLoop giveUp fuel b count input = some (cell, rest)) :
    RequestHandler.readLoop (lengths input) count b input.bytes =
      cell.map (fun cell => (cell, rest.bytes)) := by
  induction fuel generalizing b count input with
  | zero => cases h
  | succ fuel ih =>
    rw [CellReader.readLoop] at h
    split at h
    · rename_i hfull
      rw [arrivals_full hfull]
      cases h
      rfl
    · rename_i hshort
      have hnil : RequestHandler.readLoop [] count b input.bytes = none :=
        arrivals_nil (Nat.not_le.mp hshort)
      obtain ⟨segments, breaks⟩ := input
      cases segments with
      | nil =>
        rw [lengths, List.map_nil, hnil]
        cases breaks with
        | true =>
          cases h
          rfl
        | false =>
          dsimp only [InputStream.read] at h
          rw [if_neg Bool.false_ne_true] at h
          dsimp only at h
          split at h
          · cases h
            rfl
          · have hrec := ih h
            rw [lengths, List.map_nil, arrivals_nil (Nat.not_le.mp hshort)] at hrec
            exact hrec
      | cons s more =>
        dsimp only [InputStream.read] at h
        split at h
        · rename_i hgive
          cases h
          rw [lengths, List.map_cons, RequestHandler.readLoop, if_neg hshort]
          exact if_pos (of_decide_eq_true hgive)
        · rename_i hgive
          rw [arrivals_read s more breaks hshort (fun hc => hgive (decide_eq_true hc))]
          exact ih h

theorem readExactly_eq_arrivals {fuel : Nat} {input rest : InputStream} {cell : Option Bytes}
    (h : readExactly fuel input = some (cell, rest)) :
    RequestHandler.readExactly (lengths input) input.bytes =
      cell.map (fun cell => (cell, rest.bytes)) :=
  readLoop_eq_arrivals h

end ServerTransport

-- a cell spread over more than ten reads is given up
theorem readers_cut_stream_iff (input : InputStream) :
    ((∀ cells, CellReader.CellsRead ServerTransport.readExactly input cells ↔
        cells = frames cellSize input.bytes) ∧
      ∀ cells, CellReader.CellsRead ClientTransport.readExactly input cells ↔
        cells = frames cellSize input.bytes) ↔
      ∀ i < input.bytes.length / cellSize,
        (input.skip (i * cellSize)).spread cellSize ≤ 10 := by
  have hserver := CellReader.cellsRead_iff_frames ServerTransport.giveUp input
  have hclient := (CellReader.cellsRead_iff_frames (fun _ => false) input).mpr
    (fun _ _ _ _ => rfl)
  constructor
  · rintro ⟨h, _⟩ i hi
    by_contra hmany
    have hpatient := hserver.mp h i hi 10 (by omega)
    rw [ServerTransport.giveUp, decide_eq_false_iff_not] at hpatient
    omega
  · intro h
    refine ⟨hserver.mpr (fun i hi j hj => ?_), hclient⟩
    have hfew := h i hi
    exact decide_eq_false (by omega)

def slowSegment : Segment UInt8 := ⟨List.replicate 187 7, by decide⟩

def slowInput : InputStream := { segments := List.replicate 11 slowSegment }

theorem slowInput_cell_dropped :
    ¬ ((∀ cells, CellReader.CellsRead ServerTransport.readExactly slowInput cells ↔
          cells = frames cellSize slowInput.bytes) ∧
        ∀ cells, CellReader.CellsRead ClientTransport.readExactly slowInput cells ↔
          cells = frames cellSize slowInput.bytes) := by
  rintro ⟨h, _⟩
  have hserver := CellReader.cellsRead_iff_frames ServerTransport.giveUp slowInput
  have hpatient := hserver.mp h 0 (by decide +kernel) 10 (by decide +kernel)
  exact absurd hpatient (by decide)

end TorChat
