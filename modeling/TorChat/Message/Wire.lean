import TorChat.Library.BlockCipher
import TorChat.Message.Message

namespace TorChat

open Library (Bytes BlockCipher)

structure Crypto where
  aes : BlockCipher 16
  rsaEncrypt : Nat → PublicKey → Bytes → Bytes
  rsaDecrypt : PrivateKey → Bytes → Option Bytes
  rsaSign : PrivateKey → Bytes → Bytes
  rsaEncrypt_length : ∀ seed key raw, (rsaEncrypt seed key raw).length = 128
  rsaSign_length : ∀ key content, (rsaSign key content).length = 128
  rsaDecrypt_rsaEncrypt : ∀ seed key raw, raw.length = 16 →
    rsaDecrypt key (rsaEncrypt seed key.publicKey raw) = some raw

namespace DemoCrypto

def keyBlock (key : Bytes) : Bytes := (key ++ List.replicate 16 0).take 16

theorem keyBlock_length (key : Bytes) : (keyBlock key).length = 16 := by
  rw [keyBlock, List.length_take, List.length_append, List.length_replicate]
  omega

def aes : BlockCipher 16 where
  encipher key block := Library.xorBytes (keyBlock key) block
  decipher key block := Library.xorBytes (keyBlock key) block
  encipher_length key _ h := Library.xorBytes_length (keyBlock_length key) h
  decipher_length key _ h := Library.xorBytes_length (keyBlock_length key) h
  decipher_encipher key _ h := Library.xorBytes_cancel ((keyBlock_length key).trans h.symm)

def rsaFill (id : Nat) (raw : Bytes) : Bytes :=
  (raw ++ List.replicate 128 (UInt8.ofNat id)).take 128

theorem rsaFill_length (id : Nat) (raw : Bytes) : (rsaFill id raw).length = 128 := by
  rw [rsaFill, List.length_take, List.length_append, List.length_replicate]
  omega

def rsaOpen (id : Nat) (enc : Bytes) : Option Bytes :=
  if enc = rsaFill id (enc.take 16) then some (enc.take 16) else none

theorem rsaOpen_rsaFill (id : Nat) {raw : Bytes} (h : raw.length = 16) :
    rsaOpen id (rsaFill id raw) = some raw := by
  have htake : (rsaFill id raw).take 16 = raw := by
    rw [rsaFill, List.take_take, List.take_append_of_le_length (by omega),
      List.take_of_length_le (by omega)]
  rw [rsaOpen, htake, if_pos rfl]

end DemoCrypto

def demoCrypto : Crypto where
  aes := DemoCrypto.aes
  rsaEncrypt _ key raw := DemoCrypto.rsaFill key.id raw
  rsaDecrypt key enc := DemoCrypto.rsaOpen key.id enc
  rsaSign key content := DemoCrypto.rsaFill key.id content
  rsaEncrypt_length _ key raw := DemoCrypto.rsaFill_length key.id raw
  rsaSign_length key content := DemoCrypto.rsaFill_length key.id content
  rsaDecrypt_rsaEncrypt _ key _ h := DemoCrypto.rsaOpen_rsaFill key.id h

namespace AESCrypto

variable (C : Crypto)

def keyLengths : List Nat := [16, 24, 32]

-- the initialisation vector is cut from the key
def encrypt (key raw : Bytes) : Option Bytes :=
  if key.length ∈ keyLengths then
    (Message.subBytes key 0 16).map (fun iv => C.aes.encrypt key iv raw)
  else none

def decrypt (key enc : Bytes) : Option Bytes :=
  if key.length ∈ keyLengths then
    (Message.subBytes key 0 16).bind (fun iv => C.aes.decrypt key iv enc)
  else none

theorem keyIv {key : Bytes} (h : key.length ∈ keyLengths) :
    ∃ iv, Message.subBytes key 0 16 = some iv ∧ iv.length = 16 := by
  have hlength : 0 + 16 ≤ key.length := by
    simp only [keyLengths, List.mem_cons, List.not_mem_nil, or_false] at h
    omega
  have hiv : Message.subBytes key 0 16 = some ((key.drop 0).take 16) := by
    rw [Message.subBytes, Library.slice?, if_pos hlength]
  exact ⟨_, hiv, Library.slice?_length hiv⟩

theorem encrypt_spec {key : Bytes} (h : key.length ∈ keyLengths) (raw : Bytes) :
    ∃ enc, encrypt C key raw = some enc ∧ enc.length = (raw.length / 16 + 1) * 16 ∧
      decrypt C key enc = some raw := by
  obtain ⟨iv, hiv, hlength⟩ := keyIv h
  refine ⟨C.aes.encrypt key iv raw, ?_, ?_, ?_⟩
  · rw [encrypt, if_pos h, hiv, Option.map_some]
  · exact C.aes.encrypt_length key (by decide) hlength raw
  · rw [decrypt, if_pos h, hiv, Option.bind_some]
    exact C.aes.decrypt_encrypt key (by decide) (by decide) hlength raw

theorem decrypt_length_lt {key enc raw : Bytes} (hne : enc ≠ [])
    (h : decrypt C key enc = some raw) : raw.length < enc.length := by
  rw [decrypt] at h
  split at h
  · obtain ⟨iv, hiv, hdecrypt⟩ := Option.bind_eq_some_iff.mp h
    exact C.aes.decrypt_length_lt key (Library.slice?_length hiv) hne hdecrypt
  · cases h

end AESCrypto

namespace SecureRandomUtil

def randomByte (amb : Ambient) (i : Nat) : UInt8 :=
  if amb.draw (3 * i) % 2 = 0 then
    let choice := if amb.draw (3 * i + 1) % 2 = 0 then 65 else 97
    UInt8.ofNat (choice + amb.draw (3 * i + 2) % 26)
  else UInt8.ofNat (48 + amb.draw (3 * i + 1) % 10)

def getRandom (amb : Ambient) (length : Nat) : Bytes := (List.range length).map (randomByte amb)

@[simp] theorem getRandom_length (amb : Ambient) (length : Nat) :
    (getRandom amb length).length = length := by
  rw [getRandom, List.length_map, List.length_range]

end SecureRandomUtil

namespace Wire

variable (C : Crypto) (amb : Ambient)

def sealData (allData : Bytes) (remotePulicKey : PublicKey) : Option Bytes :=
  let aesKey := SecureRandomUtil.getRandom amb 16
  (AESCrypto.encrypt C aesKey allData).map (fun encrypt_text =>
    C.rsaEncrypt (amb.draw 48) remotePulicKey aesKey ++ encrypt_text)

def build (rawData : Bytes) (localPrivateKey : PrivateKey) (remotePulicKey : PublicKey) :
    Option Bytes :=
  let signature := C.rsaSign localPrivateKey rawData
  sealData C amb (rawData ++ signature) remotePulicKey

def parse (rawData : Bytes) (localPrivateKey : PrivateKey) : Option Bytes := do
  let encrypt_key_server ← Message.subBytes rawData 0 128
  let encrypt_text_server ← Message.subBytes rawData 128 1920
  let aesKey1 ← C.rsaDecrypt localPrivateKey encrypt_key_server
  let encrypt_text1 ← AESCrypto.decrypt C aesKey1 encrypt_text_server
  Message.subBytes encrypt_text1 0 1790

def packDataPayload (rawData : Bytes) (sharedKey : Option Bytes) : Option Bytes :=
  sharedKey.bind (fun aesKey => AESCrypto.encrypt C aesKey rawData)

def parseDataPayload (rawData : Bytes) (sharedKey : Option Bytes) : Option Bytes :=
  sharedKey.bind (fun aesKey => AESCrypto.decrypt C aesKey rawData)

end Wire

def Signature.bytes (C : Crypto) : Signature → Bytes
  | .sign key content => C.rsaSign key content
  | .other bytes => bytes

def Cell.wire (C : Crypto) (amb : Ambient) : Cell → Option Bytes
  | .zeros => some (List.replicate 2048 0)
  | .handshake recipient rawData signature =>
      Wire.sealData C amb (rawData ++ signature.bytes C) recipient
  | .data sharedKey rawData => AESCrypto.encrypt C sharedKey rawData
  | .raw bytes => some bytes

namespace Wire

variable (C : Crypto) (amb : Ambient)

theorem wire_build (rawData : Bytes) (localPrivateKey : PrivateKey) (remotePulicKey : PublicKey) :
    (Message.build rawData localPrivateKey remotePulicKey).wire C amb =
      build C amb rawData localPrivateKey remotePulicKey := rfl

theorem wire_packDataPayload (rawData : Bytes) (sharedKey : Option Bytes) :
    (Message.packDataPayload rawData sharedKey).bind (Cell.wire C amb) =
      packDataPayload C rawData sharedKey := by
  cases sharedKey with
  | none => rfl
  | some key => rfl

theorem sealData_spec (allData : Bytes) (h : 1904 ≤ allData.length)
    (hle : allData.length < 1920) (localPrivateKey : PrivateKey) :
    ∃ bytes, sealData C amb allData localPrivateKey.publicKey = some bytes ∧
      bytes.length = 2048 ∧ parse C bytes localPrivateKey = Message.subBytes allData 0 1790 := by
  have hkey : (SecureRandomUtil.getRandom amb 16).length ∈ AESCrypto.keyLengths := by
    rw [SecureRandomUtil.getRandom_length]
    decide
  obtain ⟨enc, henc, hlength, hdec⟩ := AESCrypto.encrypt_spec C hkey allData
  have htext : enc.length = 1920 := by
    rw [hlength, show allData.length / 16 = 119 by omega]
  have hrsa := C.rsaEncrypt_length (amb.draw 48) localPrivateKey.publicKey
    (SecureRandomUtil.getRandom amb 16)
  refine ⟨C.rsaEncrypt (amb.draw 48) localPrivateKey.publicKey
    (SecureRandomUtil.getRandom amb 16) ++ enc, ?_, ?_, ?_⟩
  · rw [sealData, henc, Option.map_some]
  · rw [List.length_append, hrsa, htext]
  · have hfirst := Library.slice?_prefix (b := enc) hrsa
    have hsecond := Library.slice?_suffix hrsa htext
    rw [parse, Message.subBytes, hfirst, Message.subBytes, hsecond]
    simp only [Option.bind_eq_bind, Option.bind_some, hdec,
      C.rsaDecrypt_rsaEncrypt _ _ _ (SecureRandomUtil.getRandom_length amb 16)]

theorem build_spec {rawData : Bytes} (h : rawData.length = 1790)
    (localPrivateKey remotePrivateKey : PrivateKey) :
    ∃ bytes, build C amb rawData localPrivateKey remotePrivateKey.publicKey = some bytes ∧
      bytes.length = 2048 ∧ parse C bytes remotePrivateKey = some rawData := by
  have hsign := C.rsaSign_length localPrivateKey rawData
  obtain ⟨bytes, hbytes, hlength, hparse⟩ := sealData_spec C amb
    (rawData ++ C.rsaSign localPrivateKey rawData)
    (by rw [List.length_append]; omega) (by rw [List.length_append]; omega) remotePrivateKey
  exact ⟨bytes, hbytes, hlength, hparse.trans (Library.slice?_prefix h)⟩

theorem packDataPayload_spec (rawData : Bytes) {sharedKey : Bytes}
    (hkey : sharedKey.length ∈ AESCrypto.keyLengths) :
    ∃ bytes, packDataPayload C rawData (some sharedKey) = some bytes ∧
      bytes.length = (rawData.length / 16 + 1) * 16 ∧
      parseDataPayload C bytes (some sharedKey) = some rawData := by
  obtain ⟨enc, henc, hlength, hdec⟩ := AESCrypto.encrypt_spec C hkey rawData
  exact ⟨enc, henc, hlength, hdec⟩

end Wire

end TorChat
