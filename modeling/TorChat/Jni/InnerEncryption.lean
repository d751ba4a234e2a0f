import TorChat.Util.DemoPlatform
import TorChat.Util.FileTask
import TorChat.Library.Chunks

namespace TorChat

open Library (Bytes slice? slice?_middle chunkCount_eq)
open FileTask (toInt toInt_of_small)
open DemoPlatform (littleEndian byteToInteger_littleEndian decrypt_encrypt)

namespace ServiceLoaderImpl

-- The length of a new array is an int: one that wraps below zero throws.
def newPadded (decode : Bytes) (length : Int) : Option Bytes :=
  if toInt length < 0 then none
  else some (decode ++ List.replicate ((toInt length).toNat - decode.length)
    (UInt8.ofNat (16 - decode.length % 16)))

def lenpaddingExact (decode : Bytes) : Option Bytes :=
  let blocktail := decode.length % 16
  let blocknum := decode.length / 16
  if decode.length < 16 then newPadded decode 16
  else if blocktail ≠ 0 then newPadded decode (16 * blocknum + 16 : Nat)
  else some decode

theorem newPadded_eq_some (decode : Bytes) {length : Nat} (h : length < 2 ^ 31) :
    newPadded decode length = some (decode ++ List.replicate (length - decode.length)
      (UInt8.ofNat (16 - decode.length % 16))) := by
  have hint : toInt length = length := toInt_of_small (by omega) (by omega)
  rw [newPadded, hint, if_neg (by omega), Int.toNat_natCast]

theorem lenpaddingExact_eq_some {decode : Bytes} (h : decode.length ≤ 2 ^ 31 - 16) :
    lenpaddingExact decode = some (lenpadding decode) := by
  rw [lenpaddingExact, lenpadding]
  split
  · exact newPadded_eq_some decode (by decide)
  · split
    · exact newPadded_eq_some decode (by omega)
    · rfl

theorem lenpaddingExact_eq_none {decode : Bytes} (h : 2 ^ 31 - 16 < decode.length)
    (hlt : decode.length < 2 ^ 31) : lenpaddingExact decode = none := by
  have hblock : 16 * (decode.length / 16) + 16 = 2 ^ 31 := by omega
  have hwrap : toInt ((2 ^ 31 : Nat) : Int) < 0 := by decide
  simp only [lenpaddingExact, hblock]
  rw [if_neg (by omega), if_pos (by omega), newPadded, if_pos hwrap]

theorem lenpadding_length (decode : Bytes) :
    (lenpadding decode).length = 16 * max 1 (decode.length ⌈/⌉ 16) := by
  rw [chunkCount_eq (by decide), lenpadding]
  split
  · rw [List.length_append, List.length_replicate]
    split <;> omega
  · split
    · rename_i htail
      rw [List.length_append, List.length_replicate]
      omega
    · rename_i htail
      rw [if_pos (not_not.mp htail)]
      omega

structure Padded (decode padded : Bytes) : Prop where
  pos : 0 < padded.length
  blocks : 16 ∣ padded.length
  keeps : decode <+: padded

theorem padded_lenpadding (decode : Bytes) : Padded decode (lenpadding decode) := by
  have hlength := lenpadding_length decode
  obtain ⟨tail, htail⟩ := JniEntryUtils.lenpadding_prefix decode
  refine ⟨?_, ?_, ?_⟩
  · rw [hlength]
    omega
  · rw [hlength]
    exact dvd_mul_right _ _
  · rw [htail]
    exact List.prefix_append decode tail

end ServiceLoaderImpl

namespace JniEntryUtils

open ServiceLoaderImpl

-- the log line with the hex digits of the result is left out, as are the limits of memory: for
-- results of 2 ^ 30 bytes and more its text could not be built
def entryExact (P : Platform) (keyFile : Bytes) (sourceFileByte : Bytes) : Option Bytes := do
  let decodeEntry ← lenpaddingExact sourceFileByte
  let ivEntry ← lenpaddingExact (getBytes "++++")
  let key := getBytes (getFileKeyLocation keyFile (getKeyIndex keyFile))
  return P.encryptLokiccByte decodeEntry key ivEntry sourceFileByte.length

def decryExact (P : Platform) (keyFile : Bytes) (ciphertextByte : Bytes) : Option Bytes := do
  let ivDecry ← lenpaddingExact (getBytes "++++")
  let key := getBytes (getFileKeyLocation keyFile (getKeyIndex keyFile))
  let en := P.decryLokicccByte ciphertextByte key ivDecry
  let length ← byteToInteger en
  slice? en 4 length

theorem lenpaddingExact_iv : lenpaddingExact (getBytes "++++") = some entryIv :=
  lenpaddingExact_eq_some (by decide)

theorem entryExact_eq_some (P : Platform) (keyFile : Bytes) {x : Bytes}
    (h : x.length ≤ 2 ^ 31 - 16) : entryExact P keyFile x = some (entry P keyFile x) := by
  rw [entryExact, lenpaddingExact_eq_some h, lenpaddingExact_iv]
  rfl

theorem decryExact_eq (P : Platform) (keyFile ciphertextByte : Bytes) :
    decryExact P keyFile ciphertextByte = decry P keyFile ciphertextByte := by
  rw [decryExact, lenpaddingExact_iv]
  rfl

-- The native pair, on inputs whose four longer result is still an array.
def NativeInverts (P : Platform) : Prop :=
  ∀ (p key iv : Bytes) (len : Nat), p.length + 4 < 2 ^ 31 → len < 2 ^ 31 →
    P.decryLokicccByte (P.encryptLokiccByte p key iv len) key iv = littleEndian len ++ p

theorem nativeInverts_demo : NativeInverts demoPlatform := by
  intro p key iv len _ _
  exact decrypt_encrypt p key iv len

theorem decry_entry {P : Platform} (hP : NativeInverts P) (keyFile : Bytes) {x : Bytes}
    (h : x.length ≤ 2 ^ 31 - 16) : decry P keyFile (entry P keyFile x) = some x := by
  have hceil : x.length ⌈/⌉ 16 ≤ 2 ^ 27 - 1 := by
    rw [chunkCount_eq (by decide)]
    split <;> omega
  have hpadded : (lenpadding x).length + 4 < 2 ^ 31 := by
    rw [lenpadding_length]
    omega
  have hlength : x.length < 2 ^ 31 := by omega
  obtain ⟨tail, htail⟩ := lenpadding_prefix x
  rw [decry, decryAt, entry, entryAt, hP _ _ _ _ hpadded hlength]
  rw [byteToInteger_littleEndian hlength, Option.bind_some, htail]
  exact slice?_middle rfl rfl

structure RoundTrips (P : Platform) (keyFile x : Bytes) : Prop where
  decrypted : (entryExact P keyFile x).bind (decryExact P keyFile) = some x
  padded : ∃ padding, lenpaddingExact x = some padding ∧ Padded x padding

theorem roundTrips_of_length_le {P : Platform} (hP : NativeInverts P) (keyFile : Bytes) {x : Bytes}
    (h : x.length ≤ 2 ^ 31 - 16) : RoundTrips P keyFile x := by
  refine ⟨?_, lenpadding x, lenpaddingExact_eq_some h, padded_lenpadding x⟩
  rw [entryExact_eq_some P keyFile h, Option.bind_some, decryExact_eq]
  exact decry_entry hP keyFile h

theorem not_roundTrips (P : Platform) (keyFile : Bytes) {x : Bytes}
    (h : 2 ^ 31 - 16 < x.length) (hlt : x.length < 2 ^ 31) : ¬ RoundTrips P keyFile x := by
  intro hround
  obtain ⟨padding, hpadding, _⟩ := hround.padded
  rw [lenpaddingExact_eq_none h hlt] at hpadding
  cases hpadding

theorem roundTrips_iff {P : Platform} (hP : NativeInverts P) (keyFile : Bytes) {x : Bytes}
    (hx : x.length < 2 ^ 31) : RoundTrips P keyFile x ↔ x.length ≤ 2 ^ 31 - 16 := by
  constructor
  · intro hround
    by_contra hlong
    exact not_roundTrips P keyFile (not_le.mp hlong) hx hround
  · exact roundTrips_of_length_le hP keyFile

theorem roundTrips_fullBlock : RoundTrips demoPlatform [7] (getBytes "one full block!!") :=
  (roundTrips_iff nativeInverts_demo [7] (by decide)).mpr (by decide)

def longInput : Bytes := List.replicate (2 ^ 31 - 15) 0

theorem longInput_length : longInput.length = 2 ^ 31 - 15 := List.length_replicate

theorem longInput_fails :
    NativeInverts demoPlatform ∧ longInput.length < 2 ^ 31 ∧
      entryExact demoPlatform [7] longInput = none ∧ ¬ RoundTrips demoPlatform [7] longInput := by
  have hlong : 2 ^ 31 - 16 < longInput.length := by
    rw [longInput_length]
    decide
  have hlt : longInput.length < 2 ^ 31 := by
    rw [longInput_length]
    decide
  refine ⟨nativeInverts_demo, hlt, ?_, not_roundTrips demoPlatform [7] hlong hlt⟩
  rw [entryExact, lenpaddingExact_eq_none hlong hlt]
  rfl

end JniEntryUtils

end TorChat
