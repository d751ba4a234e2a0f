import TorChat.Library.Base64
import TorChat.Util.Platform
import Mathlib.Data.List.TakeWhile

namespace TorChat

open Library (Bytes)

namespace Base64

def baseLength : Nat := 255

def pad : UInt8 := 61

-- a byte of the array is kept as its bit pattern, so -1 is 255
def base64Alphabet (octect : Nat) : UInt8 :=
  if 65 ≤ octect ∧ octect ≤ 90 then UInt8.ofNat (octect - 65)
  else if 97 ≤ octect ∧ octect ≤ 122 then UInt8.ofNat (octect - 97 + 26)
  else if 48 ≤ octect ∧ octect ≤ 57 then UInt8.ofNat (octect - 48 + 52)
  else if octect = 43 then 62
  else if octect = 47 then 63
  else 255

-- none stands for an exception, and below for a null result as well
def lookUpBase64Alphabet (i : UInt8) : Option UInt8 :=
  if i ≤ 25 then some (65 + i)
  else if i ≤ 51 then some (97 + (i - 26))
  else if i ≤ 61 then some (48 + (i - 52))
  else if i = 62 then some 43
  else if i = 63 then some 47
  else none

-- the shift of a byte extends its sign
def shiftRight (b : UInt8) (n : UInt8) : UInt8 := (b.toInt8 >>> n.toInt8).toUInt8

def val1 (b1 : UInt8) : UInt8 :=
  if b1 &&& 0x80 = 0 then shiftRight b1 2 else shiftRight b1 2 ^^^ 0xc0

def val2 (b2 : UInt8) : UInt8 :=
  if b2 &&& 0x80 = 0 then shiftRight b2 4 else shiftRight b2 4 ^^^ 0xf0

def val3 (b3 : UInt8) : UInt8 :=
  if b3 &&& 0x80 = 0 then shiftRight b3 6 else shiftRight b3 6 ^^^ 0xfc

def encodeTriplet (b1 b2 b3 : UInt8) : Option Bytes :=
  let l := b2 &&& 0x0f
  let k := b1 &&& 0x03
  [val1 b1, val2 b2 ||| (k <<< 4), (l <<< 2) ||| val3 b3, b3 &&& 0x3f].mapM lookUpBase64Alphabet

def encodeTriplets : Nat → Bytes → Option Bytes
  | 0, _ => some []
  | i + 1, b1 :: b2 :: b3 :: binaryData => do
      let triplet ← encodeTriplet b1 b2 b3
      let triplets ← encodeTriplets i binaryData
      return triplet ++ triplets
  | _ + 1, _ => none

def encodeRest (fewerThan24bits : Int) (binaryData : Bytes) : Option Bytes :=
  if fewerThan24bits = 8 then
    match binaryData with
    | b1 :: _ =>
        let k := b1 &&& 0x03
        ([val1 b1, k <<< 4].mapM lookUpBase64Alphabet).map (· ++ [pad, pad])
    | _ => none
  else if fewerThan24bits = 16 then
    match binaryData with
    | b1 :: b2 :: _ =>
        let l := b2 &&& 0x0f
        let k := b1 &&& 0x03
        ([val1 b1, val2 b2 ||| (k <<< 4), l <<< 2].mapM lookUpBase64Alphabet).map (· ++ [pad])
    | _ => none
  else some []

def encodeBase64 (binaryData : Bytes) : Option Bytes :=
  let lengthDataBits := (binaryData.length * 8 : Int).bmod (2 ^ 32)
  let fewerThan24bits := lengthDataBits.tmod 24
  let numberTriplets := lengthDataBits.tdiv 24
  let encodedDataLength :=
    if fewerThan24bits ≠ 0 then (numberTriplets + 1) * 4 else numberTriplets * 4
  if encodedDataLength < 0 then none
  else do
    let triplets ← encodeTriplets numberTriplets.toNat binaryData
    let rest ← encodeRest fewerThan24bits (binaryData.drop (numberTriplets.toNat * 3))
    let written := triplets ++ rest
    return written ++ List.replicate (encodedDataLength.toNat - written.length) 0

-- base64Alphabet has no entry for a negative byte
def isBase64 (octect : UInt8) : Option Bool :=
  if octect = pad then some true
  else if 128 ≤ octect then none
  else some (base64Alphabet octect.toNat ≠ 255)

def discardNonBase64 : Bytes → Option Bytes
  | [] => some []
  | b :: data => do
      let keep ← isBase64 b
      let packedData ← discardNonBase64 data
      return if keep then b :: packedData else packedData

def firstByte (b1 b2 : UInt8) : UInt8 := b1 <<< 2 ||| shiftRight b2 4

def secondByte (b2 b3 : UInt8) : UInt8 := ((b2 &&& 0xf) <<< 4) ||| (shiftRight b3 2 &&& 0xf)

def thirdByte (b3 b4 : UInt8) : UInt8 := b3 <<< 6 ||| b4

def store (decodedData : Bytes) (i : Nat) (b : UInt8) : Option Bytes :=
  if i < decodedData.length then some (decodedData.set i b) else none

def decodeQuadruple (m1 m2 marker0 marker1 : UInt8) (encodedIndex : Nat) (decodedData : Bytes) :
    Option Bytes :=
  let b1 := base64Alphabet m1.toNat
  let b2 := base64Alphabet m2.toNat
  if marker0 ≠ pad ∧ marker1 ≠ pad then do
    let b3 := base64Alphabet marker0.toNat
    let b4 := base64Alphabet marker1.toNat
    let decodedData ← store decodedData encodedIndex (firstByte b1 b2)
    let decodedData ← store decodedData (encodedIndex + 1) (secondByte b2 b3)
    store decodedData (encodedIndex + 2) (thirdByte b3 b4)
  else if marker0 = pad then store decodedData encodedIndex (firstByte b1 b2)
  else do
    let b3 := base64Alphabet marker0.toNat
    let decodedData ← store decodedData encodedIndex (firstByte b1 b2)
    store decodedData (encodedIndex + 1) (secondByte b2 b3)

def decodeQuadruples : Bytes → Nat → Bytes → Option Bytes
  | m1 :: m2 :: marker0 :: marker1 :: base64Data, encodedIndex, decodedData => do
      let decodedData ← decodeQuadruple m1 m2 marker0 marker1 encodedIndex decodedData
      decodeQuadruples base64Data (encodedIndex + 3) decodedData
  | _, _, decodedData => some decodedData

def decodeBase64 (base64Data : Bytes) : Option Bytes := do
  let base64Data ← discardNonBase64 base64Data
  let numberQuadruple := base64Data.length / 4
  let lastData := (base64Data.reverse.dropWhile (· = pad)).length
  if lastData = 0 then return []
  else if lastData < numberQuadruple then none
  else decodeQuadruples base64Data 0 (List.replicate (lastData - numberQuadruple) 0)

def utf16 (c : Char) : List Nat :=
  if c.toNat < 0x10000 then [c.toNat]
  else [0xd800 + (c.toNat - 0x10000) / 0x400, 0xdc00 + (c.toNat - 0x10000) % 0x400]

def toCharArray (s : String) : List Nat := s.toList.flatMap utf16

def isWhiteSpace (octect : Nat) : Bool :=
  octect = 0x20 || octect = 0xd || octect = 0xa || octect = 0x9

def isData (octect : Nat) : Bool := octect < baseLength && base64Alphabet octect != 255

def isPad (octect : Nat) : Bool := octect = pad.toNat

def removeWhiteSpace (data : List Nat) : List Nat := data.filter (fun c => !isWhiteSpace c)

def decodeLast (d1 d2 d3 d4 : Nat) : Option Bytes :=
  if !isData d1 || !isData d2 then none
  else
    let b1 := base64Alphabet d1
    let b2 := base64Alphabet d2
    if !isData d3 || !isData d4 then
      if isPad d3 && isPad d4 then
        if b2 &&& 0xf ≠ 0 then none else some [firstByte b1 b2]
      else if !isPad d3 && isPad d4 then
        let b3 := base64Alphabet d3
        if b3 &&& 0x3 ≠ 0 then none else some [firstByte b1 b2, secondByte b2 b3]
      else none
    else
      let b3 := base64Alphabet d3
      let b4 := base64Alphabet d4
      some [firstByte b1 b2, secondByte b2 b3, thirdByte b3 b4]

def decodeChars : List Nat → Option Bytes
  | [d1, d2, d3, d4] => decodeLast d1 d2 d3 d4
  | d1 :: d2 :: d3 :: d4 :: base64Data =>
      if !isData d1 || !isData d2 || !isData d3 || !isData d4 then none
      else
        let b1 := base64Alphabet d1
        let b2 := base64Alphabet d2
        let b3 := base64Alphabet d3
        let b4 := base64Alphabet d4
        (decodeChars base64Data).map
          ([firstByte b1 b2, secondByte b2 b3, thirdByte b3 b4] ++ ·)
  | _ => some []

def decode2 (encoded : String) : Option Bytes :=
  let base64Data := removeWhiteSpace (toCharArray encoded)
  if base64Data.length % 4 ≠ 0 then none else decodeChars base64Data

section Alphabet

def sextetByte (n : Nat) : UInt8 := UInt8.ofNat (Library.Base64.digit n).toNat

theorem sextetByte_table : ∀ n < 64, lookUpBase64Alphabet (UInt8.ofNat n) = some (sextetByte n) ∧
    base64Alphabet (sextetByte n).toNat = UInt8.ofNat n ∧ (sextetByte n).toNat < 128 ∧
      sextetByte n ≠ pad ∧ (Library.Base64.digit n).toNat = (sextetByte n).toNat ∧
        isWhiteSpace (sextetByte n).toNat = false := by
  decide +kernel

theorem mapM_lookUpBase64Alphabet {ns : List Nat} (h : ∀ n ∈ ns, n < 64) :
    (ns.map UInt8.ofNat).mapM lookUpBase64Alphabet = some (ns.map sextetByte) := by
  induction ns with
  | nil => rfl
  | cons n ns ih =>
    obtain ⟨hn, hns⟩ := List.forall_mem_cons.mp h
    rw [List.map_cons, List.mapM_cons, (sextetByte_table n hn).1, ih hns]
    rfl

theorem isData_spec : ∀ octect < 255, isData octect = true →
    (base64Alphabet octect).toNat < 64 ∧
      octect = (sextetByte (base64Alphabet octect).toNat).toNat := by
  decide +kernel

end Alphabet

section Bits

theorem join_eq {s v : Nat} (hs : s < 8) (hv : v < 2 ^ s) (k : Nat) :
    UInt8.ofNat k <<< UInt8.ofNat s ||| UInt8.ofNat v = UInt8.ofNat (k * 2 ^ s + v) := by
  rw [← UInt8.ofNat_shiftLeft k s hs, ← UInt8.ofNat_or, ← Nat.shiftLeft_add_eq_or_of_lt hv,
    Nat.shiftLeft_eq]

theorem join_two {v : Nat} (hv : v < 4) (k : Nat) :
    UInt8.ofNat k <<< 2 ||| UInt8.ofNat v = UInt8.ofNat (k * 4 + v) :=
  join_eq (s := 2) (by decide) hv k

theorem join_four {v : Nat} (hv : v < 16) (k : Nat) :
    UInt8.ofNat k <<< 4 ||| UInt8.ofNat v = UInt8.ofNat (k * 16 + v) :=
  join_eq (s := 4) (by decide) hv k

theorem shift_two (k : Nat) : UInt8.ofNat k <<< 2 = UInt8.ofNat (k * 4) := by
  rw [← Nat.shiftLeft_eq k 2, UInt8.ofNat_shiftLeft k 2 (by decide)]
  rfl

theorem shift_four (k : Nat) : UInt8.ofNat k <<< 4 = UInt8.ofNat (k * 16) := by
  rw [← Nat.shiftLeft_eq k 4, UInt8.ofNat_shiftLeft k 4 (by decide)]
  rfl

theorem low_eq (n s : Nat) : UInt8.ofNat n &&& UInt8.ofNat (2 ^ s - 1) = UInt8.ofNat (n % 2 ^ s) := by
  rw [← UInt8.ofNat_and, Nat.and_two_pow_sub_one_eq_mod]

theorem shiftRight_table : ∀ n < 256,
    val1 (UInt8.ofNat n) = UInt8.ofNat (n / 4) ∧ val2 (UInt8.ofNat n) = UInt8.ofNat (n / 16) ∧
      val3 (UInt8.ofNat n) = UInt8.ofNat (n / 64) ∧
        (n < 128 → shiftRight (UInt8.ofNat n) 2 = UInt8.ofNat (n / 4) ∧
          shiftRight (UInt8.ofNat n) 4 = UInt8.ofNat (n / 16)) := by
  decide +kernel

theorem vals_eq (b : UInt8) : val1 b = UInt8.ofNat (b.toNat / 4) ∧
    val2 b = UInt8.ofNat (b.toNat / 16) ∧ val3 b = UInt8.ofNat (b.toNat / 64) := by
  obtain ⟨h1, h2, h3, -⟩ := shiftRight_table b.toNat b.toNat_lt
  rw [UInt8.ofNat_toNat] at h1 h2 h3
  exact ⟨h1, h2, h3⟩

theorem lows_eq (b : UInt8) : b &&& 0x03 = UInt8.ofNat (b.toNat % 4) ∧
    b &&& 0x0f = UInt8.ofNat (b.toNat % 16) ∧ b &&& 0x3f = UInt8.ofNat (b.toNat % 64) := by
  have h (s : Nat) := low_eq b.toNat s
  rw [UInt8.ofNat_toNat] at h
  exact ⟨h 2, h 4, h 6⟩

theorem firstByte_eq {p q : Nat} (hq : q < 64) :
    firstByte (UInt8.ofNat p) (UInt8.ofNat q) = UInt8.ofNat (p * 4 + q / 16) := by
  rw [firstByte, ((shiftRight_table q (by omega)).2.2.2 (by omega)).2]
  exact join_two (by omega) p

theorem secondByte_eq {q r : Nat} (hr : r < 64) :
    secondByte (UInt8.ofNat q) (UInt8.ofNat r) = UInt8.ofNat (q % 16 * 16 + r / 4) := by
  rw [secondByte, ((shiftRight_table r (by omega)).2.2.2 (by omega)).1]
  rw [show UInt8.ofNat q &&& 0xf = UInt8.ofNat (q % 16) from low_eq q 4,
    show UInt8.ofNat (r / 4) &&& 0xf = UInt8.ofNat (r / 4 % 16) from low_eq (r / 4) 4,
    Nat.mod_eq_of_lt (show r / 4 < 16 by omega)]
  exact join_four (by omega) (q % 16)

theorem thirdByte_eq {r s : Nat} (hs : s < 64) :
    thirdByte (UInt8.ofNat r) (UInt8.ofNat s) = UInt8.ofNat (r % 4 * 64 + s) := by
  have hjoin : thirdByte (UInt8.ofNat r) (UInt8.ofNat s) = UInt8.ofNat (r * 64 + s) :=
    join_eq (s := 6) (by decide) (by omega) r
  rw [hjoin, UInt8.ofNat_eq_iff_mod_eq_toNat, UInt8.toNat_ofNat']
  omega

end Bits

section Encoding

open Library.Base64 (sextets octets lt_of_mem_sextets)

def encoded (x : Bytes) : Bytes := (Library.Base64.encode x).map (fun c => UInt8.ofNat c.toNat)

theorem encoded_eq (x : Bytes) : encoded x =
    (sextets x).map sextetByte ++ List.replicate ((3 - x.length % 3) % 3) pad := by
  rw [encoded, Library.Base64.encode, List.map_append, List.map_map, List.map_replicate]
  rfl

theorem encodeTriplet_eq (b1 b2 b3 : UInt8) : encodeTriplet b1 b2 b3 =
    some ((sextets [b1, b2, b3]).map sextetByte) := by
  have h2 := b2.toNat_lt
  have h3 := b3.toNat_lt
  rw [← mapM_lookUpBase64Alphabet (fun _ => lt_of_mem_sextets)]
  simp only [encodeTriplet, vals_eq, lows_eq, sextets, List.map_cons, List.map_nil]
  rw [UInt8.or_comm, join_four (by omega), join_two (by omega)]

theorem encodeRest_one (b1 : UInt8) (z : Bytes) :
    encodeRest 8 (b1 :: z) = some (encoded [b1]) := by
  have hlow : ∀ n ∈ sextets [b1], n < 64 := fun _ => lt_of_mem_sextets
  have hlookUp := mapM_lookUpBase64Alphabet hlow
  simp only [sextets, List.map_cons, List.map_nil] at hlookUp
  simp only [encodeRest, encoded_eq, vals_eq, lows_eq, if_true]
  rw [shift_four, hlookUp]
  rfl

theorem encodeRest_two (b1 b2 : UInt8) (z : Bytes) :
    encodeRest 16 (b1 :: b2 :: z) = some (encoded [b1, b2]) := by
  have h2 := b2.toNat_lt
  have h8 : (16 : Int) ≠ 8 := by decide
  have hlow : ∀ n ∈ sextets [b1, b2], n < 64 := fun _ => lt_of_mem_sextets
  have hlookUp := mapM_lookUpBase64Alphabet hlow
  simp only [sextets, List.map_cons, List.map_nil] at hlookUp
  simp only [encodeRest, encoded_eq, vals_eq, lows_eq, if_true, if_neg h8]
  rw [UInt8.or_comm, join_four (by omega), shift_two, hlookUp]
  rfl

theorem encodeTriplets_eq (x z : Bytes) : ∃ triplets rest,
    encodeTriplets (x.length / 3) (x ++ z) = some triplets ∧
    encodeRest (x.length % 3 * 8 : Nat) ((x ++ z).drop (x.length / 3 * 3)) = some rest ∧
    triplets ++ rest = encoded x := by
  fun_induction sextets x with
  | case1 b1 b2 b3 x ih =>
    obtain ⟨triplets, rest, htriplets, hrest, hsum⟩ := ih
    have hdiv : (b1 :: b2 :: b3 :: x).length / 3 = x.length / 3 + 1 := by
      simp only [List.length_cons]
      omega
    have hmod : (b1 :: b2 :: b3 :: x).length % 3 = x.length % 3 := by
      simp only [List.length_cons]
      omega
    refine ⟨(sextets [b1, b2, b3]).map sextetByte ++ triplets, rest, ?_, ?_, ?_⟩
    · rw [hdiv, List.cons_append, List.cons_append, List.cons_append, encodeTriplets,
        encodeTriplet_eq, htriplets]
      rfl
    · rw [hdiv, hmod, show (x.length / 3 + 1) * 3 = x.length / 3 * 3 + 3 by omega]
      exact hrest
    · rw [List.append_assoc, hsum, encoded_eq, encoded_eq, hmod, ← List.append_assoc,
        ← List.map_append]
      rfl
  | case2 b1 b2 =>
    refine ⟨[], encoded [b1, b2], by simp [encodeTriplets], ?_, rfl⟩
    simpa using encodeRest_two b1 b2 z
  | case3 b1 =>
    refine ⟨[], encoded [b1], by simp [encodeTriplets], ?_, rfl⟩
    simpa using encodeRest_one b1 z
  | case4 => exact ⟨[], [], rfl, rfl, rfl⟩

theorem length_encoded (x : Bytes) : (encoded x).length = 4 * ((x.length + 2) / 3) := by
  rw [encoded, List.length_map, Library.Base64.encode_length]

theorem fewerThan24bits_eq (n : Nat) : ((n * 8 : Nat) : Int).tmod 24 = (n % 3 * 8 : Nat) := by
  rw [Int.tmod_eq_emod_of_nonneg (by omega)]
  omega

theorem numberTriplets_eq (n : Nat) : ((n * 8 : Nat) : Int).tdiv 24 = (n / 3 : Nat) := by
  rw [Int.tdiv_eq_ediv_of_nonneg (by omega)]
  omega

theorem encodedDataLength_eq (x : Bytes) :
    (if ((x.length % 3 * 8 : Nat) : Int) ≠ 0 then (((x.length / 3 : Nat) : Int) + 1) * 4
      else ((x.length / 3 : Nat) : Int) * 4) = ((encoded x).length : Nat) := by
  rw [length_encoded]
  split
  · omega
  · omega

theorem encodeBase64_append {x z : Bytes}
    (h : ((x ++ z).length * 8 : Int).bmod (2 ^ 32) = (x.length * 8 : Nat)) :
    encodeBase64 (x ++ z) = some (encoded x) := by
  obtain ⟨triplets, rest, htriplets, hrest, hsum⟩ := encodeTriplets_eq x z
  have hnonneg : ¬ ((encoded x).length : Int) < 0 := by omega
  unfold encodeBase64
  simp only [h]
  rw [fewerThan24bits_eq, numberTriplets_eq, encodedDataLength_eq, if_neg hnonneg,
    Int.toNat_natCast, Int.toNat_natCast, htriplets, hrest]
  change some (triplets ++ rest ++ _) = some (encoded x)
  rw [hsum, Nat.sub_self, List.replicate_zero, List.append_nil]

theorem encodeBase64_eq {x : Bytes} (h : x.length < 2 ^ 28) :
    encodeBase64 x = some (encoded x) := by
  have hbits : ((x ++ []).length * 8 : Int).bmod (2 ^ 32) = (x.length * 8 : Nat) := by
    rw [List.append_nil, Int.bmod_eq_of_le (by omega) (by omega)]
    omega
  have hencode := encodeBase64_append hbits
  rwa [List.append_nil] at hencode

-- a product that wraps to a negative number leaves an array of zeros, or none
theorem encodeBase64_negative {x : Bytes} (h : (x.length * 8 : Int).bmod (2 ^ 32) < 0) :
    encodeBase64 x = none ∨ ∃ n, encodeBase64 x = some (List.replicate n 0) := by
  unfold encodeBase64
  generalize (x.length * 8 : Int).bmod (2 ^ 32) = bits at h
  obtain ⟨m, rfl⟩ : ∃ m : Nat, bits = -(m : Int) := ⟨bits.natAbs, by omega⟩
  have hmod : (-(m : Int)).tmod 24 = -((m % 24 : Nat) : Int) := by
    rw [Int.neg_tmod, Int.tmod_eq_emod_of_nonneg (by omega)]
    omega
  have hdiv : (-(m : Int)).tdiv 24 = -((m / 24 : Nat) : Int) := by
    rw [Int.neg_tdiv, Int.tdiv_eq_ediv_of_nonneg (by omega)]
    omega
  have htriplets : (-((m / 24 : Nat) : Int)).toNat = 0 := by omega
  have hrest (data : Bytes) : encodeRest (-((m % 24 : Nat) : Int)) data = some [] := by
    unfold encodeRest
    rw [if_neg (by omega), if_neg (by omega)]
  simp only [hmod, hdiv, htriplets, encodeTriplets, hrest]
  split
  · split
    · exact .inl rfl
    · exact .inr ⟨_, rfl⟩
  · split
    · exact .inl rfl
    · exact .inr ⟨_, rfl⟩

theorem encoded_cons (b1 b2 b3 : UInt8) (x : Bytes) : encoded (b1 :: b2 :: b3 :: x) =
    sextetByte (b1.toNat / 4) :: sextetByte (b1.toNat % 4 * 16 + b2.toNat / 16) ::
      sextetByte (b2.toNat % 16 * 4 + b3.toNat / 64) :: sextetByte (b3.toNat % 64) ::
        encoded x := by
  have hmod : (b1 :: b2 :: b3 :: x).length % 3 = x.length % 3 := by
    simp only [List.length_cons]
    omega
  rw [encoded_eq, encoded_eq, hmod]
  rfl

theorem mem_encoded {x : Bytes} {b : UInt8} (h : b ∈ encoded x) :
    b = pad ∨ ∃ n < 64, b = sextetByte n := by
  rw [encoded_eq] at h
  rcases List.mem_append.mp h with hdigit | hpad
  · obtain ⟨n, hn, rfl⟩ := List.mem_map.mp hdigit
    exact .inr ⟨n, Library.Base64.lt_of_mem_sextets hn, rfl⟩
  · exact .inl (List.mem_replicate.mp hpad).2

end Encoding

section Decoding

open Library.Base64 (sextets ofNat_eq sextets_length lt_of_mem_sextets)

theorem base64Alphabet_sextet {n : Nat} (h : n < 64) :
    base64Alphabet (sextetByte n).toNat = UInt8.ofNat n :=
  (sextetByte_table n h).2.1

theorem sextetByte_ne_pad {n : Nat} (h : n < 64) : sextetByte n ≠ pad :=
  (sextetByte_table n h).2.2.2.1

theorem store_append (done rest : Bytes) (old b : UInt8) {i : Nat} (hi : i = done.length) :
    store (done ++ old :: rest) i b = some (done ++ b :: rest) := by
  rw [store, hi, if_pos (by simp), List.set_append_right _ _ (Nat.le_refl _), Nat.sub_self,
    List.set_cons_zero]

theorem decodeQuadruple_three {p q r s : Nat} (hp : p < 64) (hq : q < 64) (hr : r < 64)
    (hs : s < 64) (done rest : Bytes) (x y z : UInt8) :
    decodeQuadruple (sextetByte p) (sextetByte q) (sextetByte r) (sextetByte s) done.length
      (done ++ x :: y :: z :: rest) =
      some (done ++ UInt8.ofNat (p * 4 + q / 16) :: UInt8.ofNat (q % 16 * 16 + r / 4) ::
        UInt8.ofNat (r % 4 * 64 + s) :: rest) := by
  rw [decodeQuadruple]
  dsimp only
  rw [if_pos ⟨sextetByte_ne_pad hr, sextetByte_ne_pad hs⟩, base64Alphabet_sextet hp,
    base64Alphabet_sextet hq, base64Alphabet_sextet hr, base64Alphabet_sextet hs,
    firstByte_eq hq, secondByte_eq hr, thirdByte_eq hs]
  have hfirst := store_append done (y :: z :: rest) x (UInt8.ofNat (p * 4 + q / 16)) rfl
  have hsecond := store_append (done ++ [UInt8.ofNat (p * 4 + q / 16)]) (z :: rest) y
    (UInt8.ofNat (q % 16 * 16 + r / 4)) (i := done.length + 1) (by simp)
  have hthird := store_append (done ++ [UInt8.ofNat (p * 4 + q / 16),
    UInt8.ofNat (q % 16 * 16 + r / 4)]) rest z (UInt8.ofNat (r % 4 * 64 + s))
    (i := done.length + 2) (by simp)
  simp only [List.append_assoc, List.cons_append, List.nil_append] at hsecond hthird
  rw [hfirst, Option.bind_eq_bind, Option.bind_some, hsecond, Option.bind_some, hthird]

theorem decodeQuadruple_two {p q r : Nat} (hp : p < 64) (hq : q < 64) (hr : r < 64)
    (done rest : Bytes) (x y : UInt8) :
    decodeQuadruple (sextetByte p) (sextetByte q) (sextetByte r) pad done.length
      (done ++ x :: y :: rest) =
      some (done ++ UInt8.ofNat (p * 4 + q / 16) :: UInt8.ofNat (q % 16 * 16 + r / 4) ::
        rest) := by
  rw [decodeQuadruple]
  dsimp only
  rw [if_neg (fun h => h.2 rfl), if_neg (sextetByte_ne_pad hr), base64Alphabet_sextet hp,
    base64Alphabet_sextet hq, base64Alphabet_sextet hr, firstByte_eq hq,
    secondByte_eq hr]
  have hfirst := store_append done (y :: rest) x (UInt8.ofNat (p * 4 + q / 16)) rfl
  have hsecond := store_append (done ++ [UInt8.ofNat (p * 4 + q / 16)]) rest y
    (UInt8.ofNat (q % 16 * 16 + r / 4)) (i := done.length + 1) (by simp)
  simp only [List.append_assoc, List.cons_append, List.nil_append] at hsecond
  rw [hfirst, Option.bind_eq_bind, Option.bind_some, hsecond]

theorem decodeQuadruple_one {p q : Nat} (hp : p < 64) (hq : q < 64) (done rest : Bytes)
    (x : UInt8) :
    decodeQuadruple (sextetByte p) (sextetByte q) pad pad done.length (done ++ x :: rest) =
      some (done ++ UInt8.ofNat (p * 4 + q / 16) :: rest) := by
  rw [decodeQuadruple]
  dsimp only
  rw [if_neg (fun h => h.1 rfl), if_pos rfl, base64Alphabet_sextet hp, base64Alphabet_sextet hq,
    firstByte_eq hq]
  exact store_append done rest x _ rfl

theorem decodeQuadruples_encoded (x done : Bytes) :
    decodeQuadruples (encoded x) done.length (done ++ List.replicate x.length 0) =
      some (done ++ x) := by
  fun_induction sextets x generalizing done with
  | case1 b1 b2 b3 x ih =>
    have h1 := b1.toNat_lt
    have h2 := b2.toNat_lt
    have h3 := b3.toNat_lt
    have hstep := ih (done ++ [b1, b2, b3])
    simp only [List.length_append, List.length_cons, List.length_nil, Nat.zero_add,
      Nat.reduceAdd, List.append_assoc, List.cons_append, List.nil_append] at hstep
    rw [encoded_cons, decodeQuadruples]
    simp only [List.length_cons, List.replicate_succ]
    rw [decodeQuadruple_three (by omega) (by omega) (by omega) (by omega), Option.bind_eq_bind,
      Option.bind_some, ofNat_eq (b := b1) (by omega), ofNat_eq (b := b2) (by omega),
      ofNat_eq (b := b3) (by omega), hstep]
  | case2 b1 b2 =>
    have h1 := b1.toNat_lt
    have h2 := b2.toNat_lt
    have hencoded : encoded [b1, b2] = [sextetByte (b1.toNat / 4),
        sextetByte (b1.toNat % 4 * 16 + b2.toNat / 16), sextetByte (b2.toNat % 16 * 4), pad] :=
      encoded_eq [b1, b2]
    rw [hencoded, decodeQuadruples]
    simp only [List.length_cons, List.length_nil, List.replicate_succ, List.replicate_zero]
    rw [decodeQuadruple_two (by omega) (by omega) (by omega), Option.bind_eq_bind,
      Option.bind_some, ofNat_eq (b := b1) (by omega), ofNat_eq (b := b2) (by omega)]
    rfl
  | case3 b1 =>
    have h1 := b1.toNat_lt
    have hencoded : encoded [b1] = [sextetByte (b1.toNat / 4),
        sextetByte (b1.toNat % 4 * 16), pad, pad] := encoded_eq [b1]
    rw [hencoded, decodeQuadruples]
    simp only [List.length_cons, List.length_nil, List.replicate_succ, List.replicate_zero]
    rw [decodeQuadruple_one (by omega) (by omega), Option.bind_eq_bind, Option.bind_some,
      ofNat_eq (b := b1) (by omega)]
    rfl
  | case4 => rfl

theorem lastData_encoded (x : Bytes) :
    ((encoded x).reverse.dropWhile (· = pad)).length = (sextets x).length := by
  have hdigits : ((sextets x).map sextetByte).reverse.dropWhile (· = pad) =
      ((sextets x).map sextetByte).reverse := by
    rw [List.dropWhile_eq_self_iff]
    intro hpos
    have hmem := List.getElem_mem hpos
    rw [List.mem_reverse] at hmem
    obtain ⟨n, hn, heq⟩ := List.mem_map.mp hmem
    rw [← heq]
    simpa using sextetByte_ne_pad (lt_of_mem_sextets hn)
  rw [encoded_eq, List.reverse_append, List.reverse_replicate,
    List.dropWhile_append_of_pos (by simp), hdigits, List.length_reverse, List.length_map]

theorem decodeBase64_of_discard {x data : Bytes} (h : discardNonBase64 data = some (encoded x)) :
    decodeBase64 data = some x := by
  have hsextets := sextets_length x
  rw [decodeBase64, h, Option.bind_eq_bind, Option.bind_some]
  dsimp only
  rw [lastData_encoded, length_encoded]
  split
  · have hnil : x = [] := List.length_eq_zero_iff.mp (by omega)
    rw [hnil]
    rfl
  · rw [if_neg (by omega), show (sextets x).length - 4 * ((x.length + 2) / 3) / 4 = x.length by omega]
    exact decodeQuadruples_encoded x []

theorem discardNonBase64_eq {data : Bytes} (h : ∀ b ∈ data, b < 128) : discardNonBase64 data =
    some (data.filter (fun b => b = pad || base64Alphabet b.toNat ≠ 255)) := by
  induction data with
  | nil => rfl
  | cons b data ih =>
    have hb : ¬ 128 ≤ b := by
      have hlt := h b List.mem_cons_self
      rw [UInt8.lt_iff_toNat_lt] at hlt
      rw [UInt8.le_iff_toNat_le]
      omega
    have hkeep : isBase64 b = some (b = pad || base64Alphabet b.toNat ≠ 255) := by
      rw [isBase64, if_neg hb]
      by_cases hpad : b = pad
      · rw [if_pos hpad]
        simp [hpad]
      · rw [if_neg hpad]
        simp [hpad]
    rw [discardNonBase64, hkeep, ih (fun b hb => h b (List.mem_cons_of_mem _ hb)), List.filter_cons]
    rfl

theorem discardNonBase64_encoded (x : Bytes) : discardNonBase64 (encoded x) = some (encoded x) := by
  have hascii : ∀ b ∈ encoded x, b < 128 := by
    intro b hb
    rcases mem_encoded hb with rfl | ⟨n, hn, rfl⟩
    · decide
    · exact UInt8.lt_iff_toNat_lt.mpr (sextetByte_table n hn).2.2.1
  rw [discardNonBase64_eq hascii, List.filter_eq_self.mpr]
  intro b hb
  rcases mem_encoded hb with rfl | ⟨n, hn, rfl⟩
  · rfl
  · have hne : UInt8.ofNat n ≠ 255 := by
      intro heq
      have := congrArg UInt8.toNat heq
      rw [UInt8.toNat_ofNat', Nat.mod_eq_of_lt (by omega)] at this
      have h255 : (255 : UInt8).toNat = 255 := rfl
      omega
    rw [base64Alphabet_sextet hn]
    simp [hne]

end Decoding

section RoundTrip

theorem decodeBase64_zeros (n : Nat) : decodeBase64 (List.replicate n 0) = some [] := by
  have hzero : base64Alphabet (0 : UInt8).toNat = 255 := by decide
  have hdiscard : discardNonBase64 (List.replicate n 0) = some (encoded []) := by
    rw [discardNonBase64_eq, List.filter_eq_nil_iff.mpr]
    · rfl
    · intro b hb
      rw [(List.mem_replicate.mp hb).2]
      decide
    · intro b hb
      rw [(List.mem_replicate.mp hb).2]
      decide
  exact decodeBase64_of_discard hdiscard

theorem decodeBase64_inverts_iff (binaryData : Bytes) :
    (encodeBase64 binaryData).bind decodeBase64 = some binaryData ↔
      binaryData.length < 2 ^ 28 := by
  constructor
  · intro h
    by_contra hlength
    by_cases hbits : (binaryData.length * 8 : Int).bmod (2 ^ 32) < 0
    · rcases encodeBase64_negative hbits with hnone | ⟨n, hzeros⟩
      · rw [hnone] at h
        cases h
      · rw [hzeros, Option.bind_some, decodeBase64_zeros] at h
        have hnil := congrArg List.length (Option.some.inj h)
        rw [List.length_nil] at hnil
        omega
    · have hmod : (binaryData.length * 8 : Int).bmod (2 ^ 32) =
          (binaryData.length % 2 ^ 29 * 8 : Nat) := by
        rw [Int.bmod_def] at hbits ⊢
        split at hbits
        · rename_i hlt
          rw [if_pos hlt]
          omega
        · omega
      have hshort : binaryData.length % 2 ^ 29 < 2 ^ 28 := by
        rw [Int.bmod_def] at hbits
        split at hbits
        · omega
        · omega
      have htake : (binaryData.take (binaryData.length % 2 ^ 29)).length =
          binaryData.length % 2 ^ 29 := by
        rw [List.length_take]
        omega
      have hencode := encodeBase64_append (x := binaryData.take (binaryData.length % 2 ^ 29))
        (z := binaryData.drop (binaryData.length % 2 ^ 29))
        (by rw [List.take_append_drop, htake, hmod])
      rw [List.take_append_drop] at hencode
      rw [hencode, Option.bind_some,
        decodeBase64_of_discard (discardNonBase64_encoded _)] at h
      have hsame := congrArg List.length (Option.some.inj h)
      omega
  · intro h
    rw [encodeBase64_eq h, Option.bind_some]
    exact decodeBase64_of_discard (discardNonBase64_encoded binaryData)

end RoundTrip

end Base64

end TorChat
