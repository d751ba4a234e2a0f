import TorChat.Util.Platform

namespace TorChat

open Library (Bytes slice?)

namespace ServiceLoaderImpl

def hexDigit (n : Nat) : Char := "0123456789ABCDEF".toList.getD n '0'

def bytesToHexString (src : Bytes) : String :=
  String.ofList (src.flatMap (fun b => [hexDigit (b.toNat / 16), hexDigit (b.toNat % 16)]))

def byteToInteger : Bytes → Option Nat
  | b0 :: b1 :: b2 :: b3 :: _ => some (min (2 ^ 31 - 1)
      (b0.toNat + b1.toNat * 256 + b2.toNat * 256 ^ 2 + b3.toNat * 256 ^ 3))
  | _ => none

def keySkip (postions : Int) : Nat :=
  if postions = 0 then 1 else ((postions - 1) * 32 + 1).toNat

def readKey (keyFile : Bytes) (skip : Nat) : Bytes :=
  let read := (keyFile.drop skip).take 32
  read ++ List.replicate (32 - read.length) 0

def getFileKeyLocation (keyFile : Bytes) (postions : Int) : String :=
  if postions < 0 ∨ postions > 255 then "密钥用尽"
  else bytesToHexString (readKey keyFile (keySkip postions))

def setFileKeyLocation (keyFile : Bytes) (location : Int) : Bytes :=
  if location < 0 ∨ location > 255 then keyFile
  else UInt8.ofNat location.toNat :: keyFile.tail

def lenpadding (decode : Bytes) : Bytes :=
  let blocktail := decode.length % 16
  let blocknum := decode.length / 16
  let paddingByte := UInt8.ofNat (16 - blocktail)
  if decode.length < 16 then
    decode ++ List.replicate (16 - decode.length) paddingByte
  else if blocktail ≠ 0 then
    decode ++ List.replicate (16 * blocknum + 16 - decode.length) paddingByte
  else decode

end ServiceLoaderImpl

namespace JniEntryUtils

open ServiceLoaderImpl

def getKeyIndex (keyFile : Bytes) : Nat := (keyFile.headD 0).toNat

def setFileKeyLocation (keyFile : Bytes) (index : Int) : Bytes :=
  ServiceLoaderImpl.setFileKeyLocation keyFile index

def keyFileIsExhausted (keyFile : Bytes) : Bool := decide (getKeyIndex keyFile > 255)

def entryIv : Bytes := lenpadding (getBytes "++++")

def entryAt (P : Platform) (keyFile : Bytes) (index : Nat) (encode : Bytes) : Bytes :=
  P.encryptLokiccByte (lenpadding encode) (getBytes (getFileKeyLocation keyFile index)) entryIv
    encode.length

def decryAt (P : Platform) (keyFile : Bytes) (index : Nat) (decodeEntry : Bytes) : Option Bytes :=
  let en := P.decryLokicccByte decodeEntry (getBytes (getFileKeyLocation keyFile index)) entryIv
  (byteToInteger en).bind (fun length => slice? en 4 length)

def entry (P : Platform) (keyFile : Bytes) (sourceFileByte : Bytes) : Bytes :=
  entryAt P keyFile (getKeyIndex keyFile) sourceFileByte

def decry (P : Platform) (keyFile : Bytes) (ciphertextByte : Bytes) : Option Bytes :=
  decryAt P keyFile (getKeyIndex keyFile) ciphertextByte

theorem getKeyIndex_le (keyFile : Bytes) : getKeyIndex keyFile ≤ 255 :=
  Nat.le_of_lt_succ (keyFile.headD 0).toNat_lt

theorem getKeyIndex_set (keyFile : Bytes) (index : Nat) :
    getKeyIndex (setFileKeyLocation keyFile index) =
      if index ≤ 255 then index else getKeyIndex keyFile := by
  unfold setFileKeyLocation ServiceLoaderImpl.setFileKeyLocation
  split
  · rename_i h
    rw [if_neg (by omega)]
  · rename_i h
    rw [if_pos (by omega)]
    simp only [getKeyIndex, List.headD_cons, Int.toNat_natCast, UInt8.toNat_ofNat']
    omega

theorem tail_set (keyFile : Bytes) (index : Int) :
    (setFileKeyLocation keyFile index).tail = keyFile.tail := by
  unfold setFileKeyLocation ServiceLoaderImpl.setFileKeyLocation
  split <;> simp

theorem getKeyIndex_writeBack (keyFile : Bytes) :
    getKeyIndex (setFileKeyLocation keyFile (getKeyIndex keyFile)) = getKeyIndex keyFile := by
  rw [getKeyIndex_set]
  split <;> rfl

theorem writeBack_eq_self {keyFile : Bytes} (h : keyFile ≠ []) :
    setFileKeyLocation keyFile (getKeyIndex keyFile) = keyFile := by
  have hle := getKeyIndex_le keyFile
  unfold setFileKeyLocation ServiceLoaderImpl.setFileKeyLocation
  rw [if_neg (by omega)]
  cases keyFile with
  | nil => exact absurd rfl h
  | cons b rest => simp [getKeyIndex]

theorem keySkip_pos {positions : Int} (h : 0 ≤ positions) : 1 ≤ keySkip positions := by
  unfold keySkip
  split <;> omega

theorem getFileKeyLocation_congr {keyFile keyFile' : Bytes} (positions : Int)
    (h : keyFile.tail = keyFile'.tail) :
    getFileKeyLocation keyFile positions = getFileKeyLocation keyFile' positions := by
  unfold getFileKeyLocation
  split
  · rfl
  · rename_i hrange
    have hskip : 1 ≤ keySkip positions := keySkip_pos (by omega)
    have hdrop : ∀ file : Bytes, file.drop (keySkip positions) =
        file.tail.drop (keySkip positions - 1) := by
      intro file
      rw [← List.drop_one, List.drop_drop, Nat.add_sub_cancel' hskip]
    simp only [readKey, hdrop, h]

theorem entry_congr (P : Platform) {keyFile keyFile' : Bytes}
    (htail : keyFile.tail = keyFile'.tail) (hindex : getKeyIndex keyFile = getKeyIndex keyFile')
    (x : Bytes) : entry P keyFile x = entry P keyFile' x := by
  simp only [entry, entryAt, hindex, getFileKeyLocation_congr _ htail]

theorem keyFileIsExhausted_eq_false (keyFile : Bytes) : keyFileIsExhausted keyFile = false := by
  have := getKeyIndex_le keyFile
  simp only [keyFileIsExhausted, decide_eq_false_iff_not]
  omega

end JniEntryUtils

end TorChat
