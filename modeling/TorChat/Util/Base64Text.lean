import TorChat.Util.Base64

namespace TorChat

open Library (Bytes)

namespace Base64

section Characters

open Library.Base64 (sextets ofNat_eq lt_of_mem_sextets)

theorem isData_sextetByte {n : Nat} (h : n < 64) : isData (sextetByte n).toNat = true := by
  have hlt := (sextetByte_table n h).2.2.1
  have hne : UInt8.ofNat n ≠ 255 := by
    intro heq
    have hn := congrArg UInt8.toNat heq
    rw [UInt8.toNat_ofNat', Nat.mod_eq_of_lt (by omega)] at hn
    have h255 : (255 : UInt8).toNat = 255 := rfl
    omega
  rw [isData, base64Alphabet_sextet h, Bool.and_eq_true, decide_eq_true_iff]
  exact ⟨by rw [baseLength]; omega, by simpa using hne⟩

theorem data_of_isData {d : Nat} (h : isData d = true) : ∃ n < 64, d = (sextetByte n).toNat := by
  have hlt := h
  rw [isData, Bool.and_eq_true, decide_eq_true_iff] at hlt
  exact ⟨_, isData_spec d hlt.1 h⟩

theorem isData_pad : isData pad.toNat = false := by decide

theorem isPad_pad : isPad pad.toNat = true := by decide

theorem isPad_sextetByte {n : Nat} (h : n < 64) : isPad (sextetByte n).toNat = false := by
  have hne := sextetByte_ne_pad h
  rw [isPad, decide_eq_false_iff_not]
  exact fun heq => hne (UInt8.toNat_inj.mp heq)

theorem toNat_octet {n : Nat} (h : n < 256) : (UInt8.ofNat n).toNat = n := by
  rw [UInt8.toNat_ofNat', Nat.mod_eq_of_lt (by omega)]

theorem low_zero_iff (q : Nat) : (UInt8.ofNat q &&& 0xf ≠ 0 ↔ q % 16 ≠ 0) ∧
    (UInt8.ofNat q &&& 0x3 ≠ 0 ↔ q % 4 ≠ 0) := by
  have hzero {n : Nat} (hn : n < 256) : UInt8.ofNat n = 0 ↔ n = 0 := by
    rw [← UInt8.toNat_inj, toNat_octet hn]
    rfl
  exact ⟨not_congr (low_eq q 4 ▸ hzero (by omega)), not_congr (low_eq q 2 ▸ hzero (by omega))⟩

def chars (x : Bytes) : List Nat := (encoded x).map UInt8.toNat

theorem chars_octets {p q r s : Nat} (hp : p < 64) (hq : q < 64) (hr : r < 64) (hs : s < 64)
    (x : Bytes) : chars (UInt8.ofNat (p * 4 + q / 16) :: UInt8.ofNat (q % 16 * 16 + r / 4) ::
      UInt8.ofNat (r % 4 * 64 + s) :: x) =
      (sextetByte p).toNat :: (sextetByte q).toNat :: (sextetByte r).toNat ::
        (sextetByte s).toNat :: chars x := by
  rw [chars, encoded_cons, toNat_octet (by omega), toNat_octet (by omega), toNat_octet (by omega)]
  simp only [List.map_cons]
  rw [show (p * 4 + q / 16) / 4 = p by omega,
    show (p * 4 + q / 16) % 4 * 16 + (q % 16 * 16 + r / 4) / 16 = q by omega,
    show (q % 16 * 16 + r / 4) % 16 * 4 + (r % 4 * 64 + s) / 64 = r by omega,
    show (r % 4 * 64 + s) % 64 = s by omega]
  rfl

theorem chars_one {p q : Nat} (hp : p < 64) (hq : q < 64) (hlow : q % 16 = 0) :
    chars [UInt8.ofNat (p * 4 + q / 16)] =
      [(sextetByte p).toNat, (sextetByte q).toNat, pad.toNat, pad.toNat] := by
  rw [chars, encoded_eq, sextets, toNat_octet (by omega), show (p * 4 + q / 16) / 4 = p by omega,
    show (p * 4 + q / 16) % 4 * 16 = q by omega]
  rfl

theorem chars_two {p q r : Nat} (hp : p < 64) (hq : q < 64) (hr : r < 64) (hlow : r % 4 = 0) :
    chars [UInt8.ofNat (p * 4 + q / 16), UInt8.ofNat (q % 16 * 16 + r / 4)] =
      [(sextetByte p).toNat, (sextetByte q).toNat, (sextetByte r).toNat, pad.toNat] := by
  rw [chars, encoded_eq, sextets, toNat_octet (by omega), toNat_octet (by omega),
    show (p * 4 + q / 16) / 4 = p by omega,
    show (p * 4 + q / 16) % 4 * 16 + (q % 16 * 16 + r / 4) / 16 = q by omega,
    show (q % 16 * 16 + r / 4) % 16 * 4 = r by omega]
  rfl

theorem decodeLast_accepts {d1 d2 d3 d4 : Nat} {x : Bytes}
    (h : decodeLast d1 d2 d3 d4 = some x) : x ≠ [] ∧ [d1, d2, d3, d4] = chars x := by
  rw [decodeLast] at h
  dsimp only at h
  split at h
  · cases h
  · rename_i hdata
    rw [Bool.or_eq_true, not_or, Bool.not_eq_true', Bool.not_eq_true', Bool.not_eq_false,
      Bool.not_eq_false] at hdata
    obtain ⟨p, hp, rfl⟩ := data_of_isData hdata.1
    obtain ⟨q, hq, rfl⟩ := data_of_isData hdata.2
    rw [base64Alphabet_sextet hp, base64Alphabet_sextet hq, firstByte_eq hq] at h
    split at h
    · split at h
      · rename_i hpads
        rw [Bool.and_eq_true, isPad, isPad, decide_eq_true_iff, decide_eq_true_iff] at hpads
        obtain ⟨rfl, rfl⟩ := hpads
        split at h
        · cases h
        · rename_i hlow
          rw [(low_zero_iff q).1, not_not] at hlow
          cases h
          exact ⟨List.cons_ne_nil _ _, (chars_one hp hq hlow).symm⟩
      · split at h
        · rename_i hpads
          rw [Bool.and_eq_true, isPad, isPad, decide_eq_true_iff] at hpads
          obtain ⟨hd3, rfl⟩ := hpads
          split at h
          · cases h
          · rename_i hlow
            by_cases hdata3 : isData d3 = true
            · obtain ⟨r, hr, rfl⟩ := data_of_isData hdata3
              rw [base64Alphabet_sextet hr, (low_zero_iff r).2, not_not] at hlow
              rw [base64Alphabet_sextet hr, secondByte_eq hr] at h
              cases h
              exact ⟨List.cons_ne_nil _ _, (chars_two hp hq hr hlow).symm⟩
            · have h255 : base64Alphabet d3 = 255 := by
                by_cases hlt : d3 < 255
                · simpa [isData, baseLength, hlt] using hdata3
                · unfold base64Alphabet
                  rw [if_neg (by omega), if_neg (by omega), if_neg (by omega),
                    if_neg (by omega), if_neg (by omega)]
              rw [h255] at hlow
              exact absurd (by decide) hlow
        · cases h
    · rename_i hdata'
      rw [Bool.or_eq_true, not_or, Bool.not_eq_true', Bool.not_eq_true', Bool.not_eq_false,
        Bool.not_eq_false] at hdata'
      obtain ⟨r, hr, rfl⟩ := data_of_isData hdata'.1
      obtain ⟨s, hs, rfl⟩ := data_of_isData hdata'.2
      rw [base64Alphabet_sextet hr, base64Alphabet_sextet hs, secondByte_eq hr,
        thirdByte_eq hs] at h
      cases h
      exact ⟨List.cons_ne_nil _ _, (chars_octets hp hq hr hs []).symm⟩

theorem decodeChars_accepts {cs : List Nat} {x : Bytes} (hlength : cs.length % 4 = 0)
    (h : decodeChars cs = some x) : cs = chars x := by
  fun_induction decodeChars cs generalizing x with
  | case1 d1 d2 d3 d4 => exact (decodeLast_accepts h).2
  | case2 d1 d2 d3 d4 base64Data hrest hdata => cases h
  | case3 d1 d2 d3 d4 base64Data hrest hdata b1 b2 b3 b4 =>
    rename_i ih
    simp only [Bool.or_eq_true, not_or, Bool.not_eq_true', Bool.not_eq_false] at hdata
    obtain ⟨⟨⟨h1, h2⟩, h3⟩, h4⟩ := hdata
    obtain ⟨p, hp, rfl⟩ := data_of_isData h1
    obtain ⟨q, hq, rfl⟩ := data_of_isData h2
    obtain ⟨r, hr, rfl⟩ := data_of_isData h3
    obtain ⟨s, hs, rfl⟩ := data_of_isData h4
    obtain ⟨y, hy, rfl⟩ := Option.map_eq_some_iff.mp h
    simp only [List.length_cons] at hlength
    rw [ih (by omega) hy]
    simp only [b1, b2, b3, b4, base64Alphabet_sextet hp, base64Alphabet_sextet hq,
      base64Alphabet_sextet hr, base64Alphabet_sextet hs, firstByte_eq hq,
      secondByte_eq hr, thirdByte_eq hs]
    exact (chars_octets hp hq hr hs y).symm
  | case4 cs hone hmore =>
    cases h
    have hnil : cs = [] := by
      match cs, hmore with
      | [], _ => rfl
      | [a], _ => simp at hlength
      | [a, b], _ => simp at hlength
      | [a, b, c], _ => simp at hlength
      | a :: b :: c :: d :: rest, hmore => exact absurd rfl (hmore a b c d rest)
    rw [hnil]
    rfl

theorem decodeLast_three {p q r s : Nat} (hp : p < 64) (hq : q < 64) (hr : r < 64) (hs : s < 64) :
    decodeLast (sextetByte p).toNat (sextetByte q).toNat (sextetByte r).toNat
      (sextetByte s).toNat = some [UInt8.ofNat (p * 4 + q / 16),
        UInt8.ofNat (q % 16 * 16 + r / 4), UInt8.ofNat (r % 4 * 64 + s)] := by
  simp only [decodeLast, isData_sextetByte hp, isData_sextetByte hq, isData_sextetByte hr,
    isData_sextetByte hs, base64Alphabet_sextet hp, base64Alphabet_sextet hq,
    base64Alphabet_sextet hr, base64Alphabet_sextet hs, firstByte_eq hq,
    secondByte_eq hr, thirdByte_eq hs, Bool.not_true, Bool.or_self, if_false,
    Bool.false_eq_true]

theorem decodeLast_two {p q r : Nat} (hp : p < 64) (hq : q < 64) (hr : r < 64)
    (hlow : r % 4 = 0) :
    decodeLast (sextetByte p).toNat (sextetByte q).toNat (sextetByte r).toNat pad.toNat =
      some [UInt8.ofNat (p * 4 + q / 16), UInt8.ofNat (q % 16 * 16 + r / 4)] := by
  have hzero : ¬ (UInt8.ofNat r &&& 0x3 ≠ 0) := by
    rw [(low_zero_iff r).2, not_not]
    exact hlow
  simp only [decodeLast, isData_sextetByte hp, isData_sextetByte hq, isData_sextetByte hr,
    isData_pad, isPad_pad, isPad_sextetByte hr, base64Alphabet_sextet hp,
    base64Alphabet_sextet hq, base64Alphabet_sextet hr, if_neg hzero, firstByte_eq hq,
    secondByte_eq hr, Bool.not_true, Bool.not_false, Bool.or_self, Bool.or_true,
    Bool.and_true, Bool.false_eq_true, if_false, if_true]

theorem decodeLast_one {p q : Nat} (hp : p < 64) (hq : q < 64) (hlow : q % 16 = 0) :
    decodeLast (sextetByte p).toNat (sextetByte q).toNat pad.toNat pad.toNat =
      some [UInt8.ofNat (p * 4 + q / 16)] := by
  have hzero : ¬ (UInt8.ofNat q &&& 0xf ≠ 0) := by
    rw [(low_zero_iff q).1, not_not]
    exact hlow
  simp only [decodeLast, isData_sextetByte hp, isData_sextetByte hq, isData_pad, isPad_pad,
    base64Alphabet_sextet hp, base64Alphabet_sextet hq, if_neg hzero, firstByte_eq hq,
    Bool.not_true, Bool.not_false, Bool.or_self, Bool.and_self, Bool.false_eq_true, if_false,
    if_true]

theorem decodeChars_cons {p q r s : Nat} (hp : p < 64) (hq : q < 64) (hr : r < 64) (hs : s < 64)
    {cs : List Nat} {x : Bytes} (h : decodeChars cs = some x) :
    decodeChars ((sextetByte p).toNat :: (sextetByte q).toNat :: (sextetByte r).toNat ::
      (sextetByte s).toNat :: cs) = some (UInt8.ofNat (p * 4 + q / 16) ::
        UInt8.ofNat (q % 16 * 16 + r / 4) :: UInt8.ofNat (r % 4 * 64 + s) :: x) := by
  cases cs with
  | nil =>
    cases h
    exact decodeLast_three hp hq hr hs
  | cons c cs =>
    rw [decodeChars]
    · simp only [isData_sextetByte hp, isData_sextetByte hq, isData_sextetByte hr,
        isData_sextetByte hs, base64Alphabet_sextet hp, base64Alphabet_sextet hq,
        base64Alphabet_sextet hr, base64Alphabet_sextet hs, firstByte_eq hq,
        secondByte_eq hr, thirdByte_eq hs, Bool.not_true, Bool.or_self, if_false,
        Bool.false_eq_true, h]
      rfl
    · intro hnil
      cases hnil

theorem decodeChars_chars (x : Bytes) : decodeChars (chars x) = some x := by
  fun_induction sextets x with
  | case1 b1 b2 b3 x ih =>
    have h1 := b1.toNat_lt
    have h2 := b2.toNat_lt
    have h3 := b3.toNat_lt
    rw [chars, encoded_cons]
    refine (decodeChars_cons (by omega) (by omega) (by omega) (by omega) ih).trans ?_
    rw [ofNat_eq (b := b1) (by omega), ofNat_eq (b := b2) (by omega),
      ofNat_eq (b := b3) (by omega)]
  | case2 b1 b2 =>
    have h1 := b1.toNat_lt
    have h2 := b2.toNat_lt
    rw [chars, encoded_eq, sextets]
    refine (decodeLast_two (p := b1.toNat / 4) (q := b1.toNat % 4 * 16 + b2.toNat / 16)
      (r := b2.toNat % 16 * 4) (by omega) (by omega) (by omega) (by omega)).trans ?_
    rw [ofNat_eq (b := b1) (by omega), ofNat_eq (b := b2) (by omega)]
  | case3 b1 =>
    have h1 := b1.toNat_lt
    rw [chars, encoded_eq, sextets]
    refine (decodeLast_one (p := b1.toNat / 4) (q := b1.toNat % 4 * 16) (by omega) (by omega)
      (by omega)).trans ?_
    rw [ofNat_eq (b := b1) (by omega)]
  | case4 => rfl

end Characters

section Texts

def isSpace (c : Char) : Bool := isWhiteSpace c.toNat

theorem ascii_digit {n : Nat} (h : n < 64) : (Library.Base64.digit n).toNat < 128 ∧
    isSpace (Library.Base64.digit n) = false := by
  obtain ⟨-, -, hlt, -, hdigit, hspace⟩ := sextetByte_table n h
  rw [isSpace, hdigit]
  exact ⟨hlt, hspace⟩

theorem mem_encode {x : Bytes} {c : Char} (h : c ∈ Library.Base64.encode x) :
    c = '=' ∨ ∃ n < 64, c = Library.Base64.digit n := by
  rcases List.mem_append.mp h with hdigit | hpad
  · obtain ⟨n, hn, rfl⟩ := List.mem_map.mp hdigit
    exact .inr ⟨n, Library.Base64.lt_of_mem_sextets hn, rfl⟩
  · exact .inl (List.mem_replicate.mp hpad).2

theorem ascii_encode {x : Bytes} {c : Char} (h : c ∈ Library.Base64.encode x) :
    c.toNat < 128 ∧ isSpace c = false := by
  rcases mem_encode h with rfl | ⟨n, hn, rfl⟩
  · decide
  · exact ascii_digit hn

theorem chars_eq (x : Bytes) : chars x = (Library.Base64.encode x).flatMap utf16 := by
  rw [chars, encoded, List.map_map]
  have hascii : ∀ cs : List Char, (∀ c ∈ cs, c.toNat < 128) →
      cs.map (UInt8.toNat ∘ fun c => UInt8.ofNat c.toNat) = cs.flatMap utf16 := by
    intro cs hcs
    induction cs with
    | nil => rfl
    | cons c cs ih =>
      have hc := hcs c List.mem_cons_self
      rw [List.map_cons, List.flatMap_cons, ih (fun c hc => hcs c (List.mem_cons_of_mem _ hc)),
        utf16, if_pos (by omega), Function.comp_apply, toNat_octet (by omega)]
      rfl
  exact hascii _ (fun c hc => (ascii_encode hc).1)

theorem removeWhiteSpace_utf16 (c : Char) :
    removeWhiteSpace (utf16 c) = if isSpace c then [] else utf16 c := by
  rw [utf16]
  split
  · rw [removeWhiteSpace, List.filter_singleton, isSpace]
    cases isWhiteSpace c.toNat <;> rfl
  · rename_i hlarge
    have hspace (n : Nat) (hn : 0x80 ≤ n) : isWhiteSpace n = false := by
      simp only [isWhiteSpace, Bool.or_eq_false_iff, decide_eq_false_iff_not]
      omega
    rw [isSpace, hspace c.toNat (by omega), removeWhiteSpace, List.filter_eq_self.mpr]
    · rfl
    · intro n hn
      rw [List.mem_cons, List.mem_singleton] at hn
      rw [hspace n (by omega)]
      rfl

theorem removeWhiteSpace_flatMap (cs : List Char) : removeWhiteSpace (cs.flatMap utf16) =
    (cs.filter (fun c => !isSpace c)).flatMap utf16 := by
  induction cs with
  | nil => rfl
  | cons c cs ih =>
    have hc := removeWhiteSpace_utf16 c
    rw [removeWhiteSpace] at hc ih ⊢
    rw [List.flatMap_cons, List.filter_append, hc, ih, List.filter_cons]
    cases isSpace c <;> rfl

theorem utf16_inj {c c' : Char} (h' : c'.toNat < 128) {xs ys : List Nat}
    (h : utf16 c ++ xs = utf16 c' ++ ys) : c = c' ∧ xs = ys := by
  have hc' : utf16 c' = [c'.toNat] := by rw [utf16, if_pos (by omega)]
  by_cases hsmall : c.toNat < 0x10000
  · rw [hc', utf16, if_pos hsmall] at h
    obtain ⟨hhead, htail⟩ := List.cons.inj h
    exact ⟨Char.toNat_inj.mp hhead, htail⟩
  · rw [hc', utf16, if_neg hsmall] at h
    have hhead := (List.cons.inj h).1
    omega

theorem flatMap_utf16_inj {cs ds : List Char} (hds : ∀ d ∈ ds, d.toNat < 128)
    (h : cs.flatMap utf16 = ds.flatMap utf16) : cs = ds := by
  have hpos (c : Char) (rest : List Nat) : utf16 c ++ rest ≠ [] := by
    rw [utf16]
    split
    · exact List.cons_ne_nil _ _
    · exact List.cons_ne_nil _ _
  induction ds generalizing cs with
  | nil =>
    cases cs with
    | nil => rfl
    | cons c cs => exact absurd h (hpos c _)
  | cons d ds ih =>
    cases cs with
    | nil => exact absurd h.symm (hpos d _)
    | cons c cs =>
      rw [List.flatMap_cons, List.flatMap_cons] at h
      obtain ⟨rfl, hrest⟩ := utf16_inj (hds d List.mem_cons_self) h
      rw [ih (fun d hd => hds d (List.mem_cons_of_mem _ hd)) hrest]

theorem decode2_iff_chars (encoded : String) (x : Bytes) :
    decode2 encoded = some x ↔ removeWhiteSpace (toCharArray encoded) = chars x := by
  rw [decode2]
  constructor
  · intro h
    split at h
    · cases h
    · rename_i hlength
      exact decodeChars_accepts (not_not.mp hlength) h
  · intro h
    have hlength : (chars x).length % 4 = 0 := by
      rw [chars, List.length_map, length_encoded]
      omega
    rw [h, if_neg (not_not.mpr hlength)]
    exact decodeChars_chars x

theorem decode2_accepted {encoded : String} {x : Bytes} (h : decode2 encoded = some x) :
    encoded.toList.filter (fun c => !isSpace c) = Library.Base64.encode x := by
  rw [decode2_iff_chars, toCharArray, removeWhiteSpace_flatMap, chars_eq] at h
  exact flatMap_utf16_inj (fun c hc => (ascii_encode hc).1) h

theorem decode2_accepts_iff (encoded : String) (x : Bytes) : decode2 encoded = some x ↔
    encoded.toList.filter (fun c => !isSpace c) = Library.Base64.encode x := by
  refine ⟨decode2_accepted, fun h => ?_⟩
  rw [decode2_iff_chars, toCharArray, removeWhiteSpace_flatMap, chars_eq, h]

theorem getBytes_ascii {s : String} (h : ∀ c ∈ s.toList, c.toNat < 128) :
    getBytes s = s.toList.map (fun c => UInt8.ofNat c.toNat) := by
  have hsplit : getBytes s = s.toList.flatMap String.utf8EncodeChar := by
    rw [← getBytes_ofList, String.ofList_toList]
  rw [hsplit]
  generalize s.toList = cs at h
  induction cs with
  | nil => rfl
  | cons c cs ih =>
    have hc := h c List.mem_cons_self
    have hsize : c.utf8Size = 1 := by
      rw [Char.utf8Size_eq_one_iff]
      exact UInt32.le_iff_toNat_le.mpr (Nat.le_of_lt_succ hc)
    rw [List.flatMap_cons, List.map_cons, ih (fun c hc => h c (List.mem_cons_of_mem _ hc)),
      String.utf8EncodeChar_eq_singleton hsize]
    rfl

theorem base64_of_space {c : Char} (h : isSpace c = true) : c.toNat < 128 ∧
    UInt8.ofNat c.toNat ≠ pad ∧ base64Alphabet (UInt8.ofNat c.toNat).toNat = 255 := by
  simp only [isSpace, isWhiteSpace, Bool.or_eq_true, decide_eq_true_iff] at h
  rcases h with ((h | h) | h) | h <;> rw [h] <;> decide

theorem keeps_encode {x : Bytes} {c : Char} (h : c ∈ Library.Base64.encode x) :
    UInt8.ofNat c.toNat = pad ∨ base64Alphabet (UInt8.ofNat c.toNat).toNat ≠ 255 := by
  rcases mem_encode h with rfl | ⟨n, hn, rfl⟩
  · exact .inl (by decide)
  · refine .inr ?_
    have hne := isData_sextetByte hn
    rw [isData, Bool.and_eq_true] at hne
    exact bne_iff_ne.mp hne.2

theorem decoders_agree {encoded : String} {x : Bytes} (h : decode2 encoded = some x) :
    decodeBase64 (getBytes encoded) = some x := by
  have hchars := decode2_accepted h
  have hcases : ∀ c ∈ encoded.toList, isSpace c = true ∨ c ∈ Library.Base64.encode x := by
    intro c hc
    by_cases hspace : isSpace c = true
    · exact .inl hspace
    · rw [← hchars]
      exact .inr (List.mem_filter.mpr ⟨hc, by simp [hspace]⟩)
  have hascii : ∀ c ∈ encoded.toList, c.toNat < 128 := by
    intro c hc
    rcases hcases c hc with hspace | hmem
    · exact (base64_of_space hspace).1
    · exact (ascii_encode hmem).1
  have hbytes : ∀ b ∈ getBytes encoded, b < 128 := by
    intro b hb
    rw [getBytes_ascii hascii] at hb
    obtain ⟨c, hc, rfl⟩ := List.mem_map.mp hb
    have hlt := hascii c hc
    rw [UInt8.lt_iff_toNat_lt, toNat_octet (by omega)]
    exact hlt
  refine decodeBase64_of_discard ?_
  rw [discardNonBase64_eq hbytes, getBytes_ascii hascii, List.filter_map, Base64.encoded, ← hchars]
  refine congrArg some (congrArg (List.map _) (List.filter_congr ?_))
  intro c hc
  by_cases hspace : isSpace c = true
  · obtain ⟨-, hpad, hdrop⟩ := base64_of_space hspace
    rw [Function.comp_apply, hdrop, hspace]
    simp [hpad]
  · have hkeep := keeps_encode ((hcases c hc).resolve_left hspace)
    simpa [hspace] using hkeep

theorem decoders_agree_folded : decodeBase64 (getBytes "AQL6\r\n/w==") = some [1, 2, 250, 255] := by
  have haccepted : decode2 "AQL6\r\n/w==" = some [1, 2, 250, 255] := by decide
  exact decoders_agree haccepted

end Texts

end Base64

end TorChat
