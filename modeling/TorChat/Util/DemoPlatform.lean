import TorChat.Jni.KeyFile
import Mathlib.Tactic.Ring

namespace TorChat

open Library (Bytes slice? slice?_middle)

namespace DemoPlatform

def digest (n : Nat) (b : Bytes) : Bytes := (b ++ List.replicate n 0).take n

theorem digest_length (n : Nat) (b : Bytes) : (digest n b).length = n := by
  simp [digest]

def mask (key : Bytes) : UInt8 := key.foldl (· + ·) 0

def littleEndian (n : Nat) : Bytes :=
  [UInt8.ofNat n, UInt8.ofNat (n / 256), UInt8.ofNat (n / 256 ^ 2), UInt8.ofNat (n / 256 ^ 3)]

def encrypt (input key _iv : Bytes) (entryLen : Nat) : Bytes :=
  (littleEndian entryLen ++ input ++ List.replicate 4 0).map (· ^^^ mask key)

def decrypt (input key _iv : Bytes) : Bytes :=
  (input.map (· ^^^ mask key)).take (input.length - 4)

theorem decrypt_encrypt (input key iv : Bytes) (n : Nat) :
    decrypt (encrypt input key iv n) key iv = littleEndian n ++ input := by
  have hmap : (encrypt input key iv n).map (· ^^^ mask key) =
      littleEndian n ++ input ++ List.replicate 4 0 := by
    simp [encrypt, Function.comp_def, UInt8.xor_assoc]
  rw [decrypt, hmap, List.take_append_of_le_length]
  · refine List.take_of_length_le ?_
    simp only [encrypt, List.length_map, List.length_append, List.length_replicate]
    omega
  · simp only [encrypt, List.length_map, List.length_append, List.length_replicate]
    omega

theorem byteToInteger_littleEndian {n : Nat} (h : n < 2 ^ 31) (rest : Bytes) :
    ServiceLoaderImpl.byteToInteger (littleEndian n ++ rest) = some n := by
  simp only [littleEndian, List.cons_append, ServiceLoaderImpl.byteToInteger, UInt8.toNat_ofNat',
    Option.some.injEq]
  omega

end DemoPlatform

def demoPlatform : Platform where
  sha1 := DemoPlatform.digest 20
  sha256 := DemoPlatform.digest 32
  encryptLokiccByte := DemoPlatform.encrypt
  decryLokicccByte := DemoPlatform.decrypt
  sha1_length := DemoPlatform.digest_length 20
  sha256_length := DemoPlatform.digest_length 32

namespace JniEntryUtils

theorem lenpadding_prefix (decode : Bytes) :
    ∃ tail, ServiceLoaderImpl.lenpadding decode = decode ++ tail := by
  unfold ServiceLoaderImpl.lenpadding
  dsimp only
  split
  · exact ⟨_, rfl⟩
  · split
    · exact ⟨_, rfl⟩
    · exact ⟨[], (List.append_nil decode).symm⟩

theorem decryAt_entryAt_demo (keyFile : Bytes) (index : Nat) {x : Bytes} (h : x.length < 2 ^ 31) :
    decryAt demoPlatform keyFile index (entryAt demoPlatform keyFile index x) = some x := by
  obtain ⟨tail, htail⟩ := lenpadding_prefix x
  simp only [decryAt, entryAt, demoPlatform, DemoPlatform.decrypt_encrypt,
    DemoPlatform.byteToInteger_littleEndian h, Option.bind_some, htail]
  exact slice?_middle rfl rfl

theorem entry_demo_length_ge (keyFile x : Bytes) :
    x.length + 8 ≤ (entry demoPlatform keyFile x).length := by
  obtain ⟨tail, htail⟩ := lenpadding_prefix x
  rw [entry, entryAt, htail]
  simp only [demoPlatform, DemoPlatform.encrypt, DemoPlatform.littleEndian, List.length_map,
    List.length_append, List.length_replicate, List.length_cons, List.length_nil]
  omega

theorem decry_entry_demo (keyFile : Bytes) {x : Bytes} (h : x.length < 2 ^ 31) :
    decry demoPlatform keyFile (entry demoPlatform keyFile x) = some x :=
  decryAt_entryAt_demo keyFile (getKeyIndex keyFile) h

end JniEntryUtils

end TorChat
