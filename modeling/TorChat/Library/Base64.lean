import TorChat.Library.ByteString

namespace TorChat.Library.Base64

def alphabet : List Char :=
  "ABCDEFGHIJKLMNOPQRSTUVWXYZabcdefghijklmnopqrstuvwxyz0123456789+/".toList

def digit (n : Nat) : Char := alphabet.getD n 'A'

def value (c : Char) : Option Nat := alphabet.idxOf? c

def sextets : Bytes → List Nat
  | a :: b :: c :: rest =>
      a.toNat / 4 :: (a.toNat % 4 * 16 + b.toNat / 16) ::
        (b.toNat % 16 * 4 + c.toNat / 64) :: c.toNat % 64 :: sextets rest
  | [a, b] => [a.toNat / 4, a.toNat % 4 * 16 + b.toNat / 16, b.toNat % 16 * 4]
  | [a] => [a.toNat / 4, a.toNat % 4 * 16]
  | [] => []

def octets : List Nat → Bytes
  | p :: q :: r :: s :: rest =>
      UInt8.ofNat (p * 4 + q / 16) :: UInt8.ofNat (q % 16 * 16 + r / 4) ::
        UInt8.ofNat (r % 4 * 64 + s) :: octets rest
  | [p, q, r] => [UInt8.ofNat (p * 4 + q / 16), UInt8.ofNat (q % 16 * 16 + r / 4)]
  | [p, q] => [UInt8.ofNat (p * 4 + q / 16)]
  | _ => []

def encode (bytes : Bytes) : List Char :=
  (sextets bytes).map digit ++ List.replicate ((3 - bytes.length % 3) % 3) '='

def decode (chars : List Char) : Bytes :=
  octets ((chars.takeWhile (· ≠ '=')).filterMap value)

theorem digit_spec : ∀ n < 64, value (digit n) = some n ∧ digit n ≠ '=' ∧ ' ' < digit n := by
  decide +kernel

theorem lt_of_mem_sextets {bytes : Bytes} {n : Nat} (h : n ∈ sextets bytes) : n < 64 := by
  fun_induction sextets bytes with
  | case1 a b c rest ih =>
    have ha := a.toNat_lt
    have hb := b.toNat_lt
    have hc := c.toNat_lt
    simp only [List.mem_cons] at h
    rcases h with rfl | rfl | rfl | rfl | hrest
    · omega
    · omega
    · omega
    · omega
    · exact ih hrest
  | case2 a b =>
    have ha := a.toNat_lt
    have hb := b.toNat_lt
    simp only [List.mem_cons, List.not_mem_nil, or_false] at h
    omega
  | case3 a =>
    have ha := a.toNat_lt
    simp only [List.mem_cons, List.not_mem_nil, or_false] at h
    omega
  | case4 => exact absurd h List.not_mem_nil

theorem sextets_length (bytes : Bytes) :
    (sextets bytes).length + (3 - bytes.length % 3) % 3 = 4 * ((bytes.length + 2) / 3) := by
  fun_induction sextets bytes with
  | case1 a b c rest ih =>
    simp only [List.length_cons]
    omega
  | case2 a b => simp
  | case3 a => simp
  | case4 => rfl

theorem encode_length (bytes : Bytes) : (encode bytes).length = 4 * ((bytes.length + 2) / 3) := by
  rw [encode, List.length_append, List.length_map, List.length_replicate, sextets_length]

theorem ofNat_eq {b : UInt8} {n : Nat} (h : n = b.toNat) : UInt8.ofNat n = b := by
  rw [h, UInt8.ofNat_toNat]

theorem octets_sextets (bytes : Bytes) : octets (sextets bytes) = bytes := by
  fun_induction sextets bytes with
  | case1 a b c rest ih =>
    have hb := b.toNat_lt
    have hc := c.toNat_lt
    rw [octets, ih, ofNat_eq (b := a) (by omega), ofNat_eq (b := b) (by omega),
      ofNat_eq (b := c) (by omega)]
  | case2 a b =>
    have hb := b.toNat_lt
    rw [octets, ofNat_eq (b := a) (by omega), ofNat_eq (b := b) (by omega)]
  | case3 a => rw [octets, ofNat_eq (b := a) (by omega)]
  | case4 => rfl

theorem decode_encode (bytes : Bytes) : decode (encode bytes) = bytes := by
  have hdigits : ∀ c ∈ (sextets bytes).map digit, decide (c ≠ '=') = true := by
    intro c hc
    obtain ⟨n, hn, rfl⟩ := List.mem_map.mp hc
    exact decide_eq_true (digit_spec n (lt_of_mem_sextets hn)).2.1
  have hpad : (List.replicate ((3 - bytes.length % 3) % 3) '=').takeWhile (· ≠ '=') = [] := by
    cases (3 - bytes.length % 3) % 3 <;> rfl
  have hvalues : ((sextets bytes).map digit).filterMap value = sextets bytes := by
    rw [List.filterMap_map]
    refine (List.filterMap_congr ?_).trans List.filterMap_some
    intro n hn
    exact (digit_spec n (lt_of_mem_sextets hn)).1
  rw [decode, encode, List.takeWhile_append_of_pos hdigits, hpad, List.append_nil, hvalues,
    octets_sextets]

theorem space_lt_of_mem_encode {bytes : Bytes} {c : Char} (h : c ∈ encode bytes) : ' ' < c := by
  rcases List.mem_append.mp h with hdigit | hpad
  · obtain ⟨n, hn, rfl⟩ := List.mem_map.mp hdigit
    exact (digit_spec n (lt_of_mem_sextets hn)).2.2
  · rw [(List.mem_replicate.mp hpad).2]
    decide

theorem digit_ascii : ∀ n < 64, (digit n).utf8Size = 1 ∧ digit n ≠ '-' := by
  decide +kernel

theorem ascii_of_mem_encode {bytes : Bytes} {c : Char} (h : c ∈ encode bytes) :
    c.utf8Size = 1 ∧ c ≠ '-' := by
  rcases List.mem_append.mp h with hdigit | hpad
  · obtain ⟨n, hn, rfl⟩ := List.mem_map.mp hdigit
    exact digit_ascii n (lt_of_mem_sextets hn)
  · rw [(List.mem_replicate.mp hpad).2]
    decide

end TorChat.Library.Base64
