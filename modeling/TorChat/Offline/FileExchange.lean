import TorChat.Library.Base64
import TorChat.Message.Wire
import TorChat.Util.FileTask
import Mathlib.Data.List.DropRight

namespace TorChat

open Library (Bytes BlockCipher Base64.encode Base64.decode)

namespace Offline

structure AesKey where
  keyValue : String
  length_mem : (getBytes keyValue).length ∈ AESCrypto.keyLengths
  iv_length : (getBytes (String.ofList (keyValue.toList.take 16))).length = 16

namespace AesKey

def raw (key : AesKey) : Bytes := getBytes key.keyValue

def iv (key : AesKey) : Bytes := getBytes (String.ofList (key.keyValue.toList.take 16))

theorem length_iv (key : AesKey) : key.iv.length = 16 := key.iv_length

end AesKey

def blank (c : Char) : Bool := decide (c ≤ ' ')

def trimChars (cs : List Char) : List Char := (cs.dropWhile blank).rdropWhile blank

def trim (s : String) : String := String.ofList (trimChars s.toList)

variable (A : BlockCipher 16) (key : AesKey)

-- a result that does not fit an array is an exception, which AesUtils turns into null
def encodeBase64String (encrypted : Bytes) : Option String :=
  if (Base64.encode encrypted).length < 2 ^ 31 then
    some (String.ofList (Base64.encode encrypted))
  else none

namespace AesUtils

def encrypt (str : String) : Option String :=
  encodeBase64String (A.encrypt key.raw key.iv (getBytes str))

def decrypt (str : String) : Option String :=
  (A.decrypt key.raw key.iv (Base64.decode str.toList)).map newString

end AesUtils

namespace AesTools

def getEncryptContent (content : String) : Option String := AesUtils.encrypt A key (trim content)

def getDecryptContent (content : String) : Option String := AesUtils.decrypt A key (trim content)

def getEncryptBytes (data : Bytes) : Bytes := A.ecbEncrypt key.raw data

def getDecryptBytes (encryptedData : Bytes) : Bytes :=
  (A.ecbDecrypt key.raw encryptedData).getD []

end AesTools

namespace FileUtils

-- the size is summed up in an int; new byte[num] throws when it is negative
def readContent (content : Bytes) : Option Bytes :=
  let num := FileTask.toInt content.length
  if num < 0 then none else some (content.take num.toNat)

def getFileCiphertext (content : Bytes) : Option String :=
  (readContent content).bind (fun fileContent =>
    AesTools.getEncryptContent A key (newString fileContent))

def getFileCipherBytes (content : Bytes) : Option Bytes :=
  (readContent content).map (AesTools.getEncryptBytes A key)

def writeCiphertextToFile (content : Bytes) : Option Bytes :=
  (getFileCiphertext A key content).map getBytes

def writeBytesCiphertextToFile (content : Bytes) : Option Bytes := getFileCipherBytes A key content

def cipherBytesToFile (cipher : Bytes) : Option Bytes :=
  (readContent cipher).map (AesTools.getDecryptBytes A key)

end FileUtils

def streamSuffixes : List String :=
  [".mp4", ".mp3", ".png", ".jpg", ".peg", ".jpj", ".ico", ".gif"]

def endsWith (name suffix : String) : Bool := suffix.toList.isSuffixOf name.toList

def isStream (name : String) : Bool := streamSuffixes.any (endsWith name)

def sendPic (name : String) (content : Bytes) : Option Bytes :=
  if isStream name then FileUtils.writeBytesCiphertextToFile A key content
  else FileUtils.writeCiphertextToFile A key content

-- readLine drops the line ends and the loop appends the lines to one another
def joinedLines (s : String) : String :=
  String.ofList (s.toList.filter (fun c => c ≠ '\n' && c ≠ '\r'))

-- a null text throws after the target file was opened and emptied
def getOfflineFile (body : Bytes) : Bytes :=
  match AesTools.getDecryptContent A key (joinedLines (newString body)) with
  | none => []
  | some decryptBuffer => getBytes decryptBuffer ++ [10]

def getOfflinePic (body : Bytes) : Option Bytes := FileUtils.cipherBytesToFile A key body

def getOffLineFileList (name : String) (body : Bytes) : Option Bytes :=
  if isStream name then getOfflinePic A key body else some (getOfflineFile A key body)

def stored (name : String) (content : Bytes) : Option Bytes :=
  (sendPic A key name content).bind (getOffLineFileList A key name)

structure PlainText (content : Bytes) (s : String) : Prop where
  trimmed : trim s = s
  content_eq : content = getBytes s ++ [10]
  fits : 4 * ((((getBytes s).length / 16 + 1) * 16 + 2) / 3) < 2 ^ 31

def Survives (name : String) (content : Bytes) : Prop :=
  if isStream name then (content.length / 16 + 1) * 16 < 2 ^ 31
  else ∃ s, PlainText content s

section Trim

theorem dropWhile_trimChars (cs : List Char) : (trimChars cs).dropWhile blank = trimChars cs := by
  rw [List.dropWhile_eq_self_iff]
  intro hpos
  have hpre : trimChars cs <+: cs.dropWhile blank := List.rdropWhile_prefix blank _
  have hfull : 0 < (cs.dropWhile blank).length := lt_of_lt_of_le hpos hpre.length_le
  rw [hpre.getElem hpos]
  exact List.dropWhile_get_zero_not blank cs hfull

theorem trimChars_idempotent (cs : List Char) : trimChars (trimChars cs) = trimChars cs := by
  conv_lhs => rw [trimChars, dropWhile_trimChars, trimChars]
  exact List.rdropWhile_idempotent blank _

theorem trimChars_concat {cs : List Char} {c : Char} (hc : blank c = true)
    (hcs : trimChars cs = cs) : trimChars (cs ++ [c]) = cs := by
  rw [trimChars, List.dropWhile_append]
  split
  · rename_i hempty
    rw [trimChars, List.isEmpty_iff.mp hempty, List.rdropWhile_nil] at hcs
    rw [List.dropWhile_cons_of_pos hc, List.dropWhile_nil, List.rdropWhile_nil]
    exact hcs
  · rw [List.rdropWhile_concat_pos blank _ _ hc]
    exact hcs

theorem trim_idempotent (s : String) : trim (trim s) = trim s := by
  rw [trim, trim, String.toList_ofList, trimChars_idempotent]

theorem newString_line (s : String) : newString (getBytes s ++ [10]) =
    String.ofList (s.toList ++ ['\n']) := by
  have hbytes : getBytes (String.ofList (s.toList ++ ['\n'])) = getBytes s ++ [10] := by
    conv_rhs => rw [← String.ofList_toList (s := s)]
    rw [getBytes_ofList, getBytes_ofList, List.flatMap_append]
    rfl
  rw [← hbytes, newString_getBytes]

theorem trim_line {s : String} (h : trim s = s) : trim (newString (getBytes s ++ [10])) = s := by
  have hcs : trimChars s.toList = s.toList := by
    have := congrArg String.toList h
    rwa [trim, String.toList_ofList] at this
  rw [newString_line, trim, String.toList_ofList, trimChars_concat (by decide) hcs,
    String.ofList_toList]

theorem trimChars_of_no_blank {cs : List Char} (h : ∀ c ∈ cs, blank c = false) :
    trimChars cs = cs := by
  have hdrop : cs.dropWhile blank = cs := by
    rw [List.dropWhile_eq_self_iff]
    intro hpos
    rw [h _ (List.getElem_mem hpos)]
    decide
  rw [trimChars, hdrop, List.rdropWhile_eq_self_iff]
  intro hne
  rw [h _ (List.getLast_mem hne)]
  decide

end Trim

section TextRoute

theorem joinedLines_encode (encrypted : Bytes) :
    joinedLines (String.ofList (Base64.encode encrypted)) =
      String.ofList (Base64.encode encrypted) := by
  rw [joinedLines, String.toList_ofList, List.filter_eq_self.mpr]
  intro c hc
  have hspace := Library.Base64.space_lt_of_mem_encode hc
  have hn : c ≠ '\n' := by
    rintro rfl
    exact absurd hspace (by decide)
  have hr : c ≠ '\r' := by
    rintro rfl
    exact absurd hspace (by decide)
  simp [hn, hr]

theorem trim_encode (encrypted : Bytes) :
    trim (String.ofList (Base64.encode encrypted)) = String.ofList (Base64.encode encrypted) := by
  rw [trim, String.toList_ofList, trimChars_of_no_blank]
  intro c hc
  exact decide_eq_false (Char.not_le.mpr (Library.Base64.space_lt_of_mem_encode hc))

theorem decrypt_encrypted (s : String) :
    AesUtils.decrypt A key (String.ofList (Base64.encode
      (A.encrypt key.raw key.iv (getBytes s)))) = some s := by
  have hplain := A.decrypt_encrypt key.raw (by decide : 0 < 16) (by decide : 16 < 256)
    key.length_iv (getBytes s)
  rw [AesUtils.decrypt, String.toList_ofList, Library.Base64.decode_encode, hplain,
    Option.map_some, newString_getBytes]

theorem getOfflineFile_encrypted (s : String) :
    getOfflineFile A key (getBytes (String.ofList (Base64.encode
      (A.encrypt key.raw key.iv (getBytes s))))) = getBytes s ++ [10] := by
  have hdecrypt : AesTools.getDecryptContent A key (joinedLines (newString (getBytes
      (String.ofList (Base64.encode (A.encrypt key.raw key.iv (getBytes s))))))) = some s := by
    rw [newString_getBytes, joinedLines_encode, AesTools.getDecryptContent, trim_encode,
      decrypt_encrypted]
  unfold getOfflineFile
  rw [hdecrypt]

theorem encrypted_length (s : String) :
    (Base64.encode (A.encrypt key.raw key.iv (getBytes s))).length =
      4 * ((((getBytes s).length / 16 + 1) * 16 + 2) / 3) := by
  rw [Library.Base64.encode_length,
    A.encrypt_length key.raw (by decide : 0 < 16) key.length_iv (getBytes s)]

theorem readContent_of_lt {content : Bytes} (h : content.length < 2 ^ 31) :
    FileUtils.readContent content = some content := by
  have hnum : FileTask.toInt content.length = content.length :=
    FileTask.toInt_of_small (by omega) (by omega)
  rw [FileUtils.readContent, hnum, if_neg (by omega), Int.toNat_natCast, List.take_length]

theorem readContent_length {content read : Bytes}
    (h : FileUtils.readContent content = some read) : read.length < 2 ^ 31 := by
  have hlt := FileTask.toInt_lt content.length
  rw [FileUtils.readContent] at h
  split at h
  · cases h
  · obtain rfl := Option.some.inj h
    rw [List.length_take]
    omega

theorem stored_text {name : String} (hname : isStream name = false) (content : Bytes) :
    stored A key name content = (FileUtils.readContent content).bind (fun fileContent =>
      if 4 * ((((getBytes (trim (newString fileContent))).length / 16 + 1) * 16 + 2) / 3) < 2 ^ 31
      then some (getBytes (trim (newString fileContent)) ++ [10]) else none) := by
  rw [stored, sendPic, hname]
  cases hread : FileUtils.readContent content with
  | none => simp [FileUtils.writeCiphertextToFile, FileUtils.getFileCiphertext, hread]
  | some fileContent =>
    simp only [Bool.false_eq_true, if_false, FileUtils.writeCiphertextToFile,
      FileUtils.getFileCiphertext, hread, Option.bind_some, AesTools.getEncryptContent,
      AesUtils.encrypt, encodeBase64String, encrypted_length]
    split
    · rw [Option.map_some, Option.bind_some, getOffLineFileList, hname,
        getOfflineFile_encrypted]
      rfl
    · rfl

theorem stored_text_iff {name : String} (hname : isStream name = false) (content : Bytes) :
    stored A key name content = some content ↔ ∃ s, PlainText content s := by
  rw [stored_text A key hname]
  constructor
  · intro h
    obtain ⟨fileContent, hread, hstored⟩ := Option.bind_eq_some_iff.mp h
    split at hstored
    · rename_i hfits
      have heq := Option.some.inj hstored
      exact ⟨trim (newString fileContent), trim_idempotent _, heq.symm, hfits⟩
    · cases hstored
  · rintro ⟨s, htrim, rfl, hfits⟩
    have hlength : (getBytes s ++ [10]).length < 2 ^ 31 := by
      rw [List.length_append, List.length_singleton]
      omega
    rw [readContent_of_lt hlength, Option.bind_some, trim_line htrim, if_pos hfits]

end TextRoute

section StreamRoute

theorem getDecryptBytes_length_le (encryptedData : Bytes) :
    (AesTools.getDecryptBytes A key encryptedData).length ≤ encryptedData.length := by
  rw [AesTools.getDecryptBytes]
  cases h : A.ecbDecrypt key.raw encryptedData with
  | none => exact Nat.zero_le _
  | some plain => exact A.ecbDecrypt_length_le key.raw h

theorem getOffLineFileList_stream {name : String} (hname : isStream name = true) (body : Bytes) :
    getOffLineFileList A key name body = getOfflinePic A key body := by
  unfold getOffLineFileList
  exact if_pos hname

theorem sendPic_stream {name : String} (hname : isStream name = true) (body : Bytes) :
    sendPic A key name body = FileUtils.writeBytesCiphertextToFile A key body := by
  unfold sendPic
  exact if_pos hname

theorem stored_stream {name : String} (hname : isStream name = true) (content : Bytes) :
    stored A key name content = (FileUtils.readContent content).bind (fun fileContent =>
      (FileUtils.readContent (AesTools.getEncryptBytes A key fileContent)).map
        (AesTools.getDecryptBytes A key)) := by
  unfold stored
  rw [sendPic_stream A key hname]
  unfold FileUtils.writeBytesCiphertextToFile FileUtils.getFileCipherBytes
  rw [Option.bind_map]
  refine Option.bind_congr ?_
  intro fileContent _
  rw [Function.comp_apply, getOffLineFileList_stream A key hname, getOfflinePic,
    FileUtils.cipherBytesToFile]

theorem stored_stream_iff {name : String} (hname : isStream name = true) (content : Bytes) :
    stored A key name content = some content ↔ (content.length / 16 + 1) * 16 < 2 ^ 31 := by
  rw [stored_stream A key hname]
  constructor
  · intro h
    obtain ⟨fileContent, hread, hstored⟩ := Option.bind_eq_some_iff.mp h
    obtain ⟨received, hreceived, heq⟩ := Option.map_eq_some_iff.mp hstored
    have hshort := readContent_length hreceived
    have hle := getDecryptBytes_length_le A key received
    rw [heq] at hle
    have hsame : FileUtils.readContent content = some content := readContent_of_lt (by omega)
    obtain rfl := Option.some.inj (hsame.symm.trans hread)
    obtain ⟨full, hfull⟩ : ∃ full, full = AesTools.getEncryptBytes A key content := ⟨_, rfl⟩
    have hlength : full.length = (content.length / 16 + 1) * 16 := by
      rw [hfull]
      exact A.ecbEncrypt_length key.raw (by decide : 0 < 16) content
    rw [← hfull] at hreceived
    by_contra hlong
    have hmax : full.length = 2 ^ 31 := by omega
    have hwrap : FileTask.toInt full.length < 0 := by
      rw [hmax]
      decide
    rw [FileUtils.readContent] at hreceived
    simp only [hwrap, if_true] at hreceived
    cases hreceived
  · intro h
    have hlength : (AesTools.getEncryptBytes A key content).length < 2 ^ 31 := by
      rw [AesTools.getEncryptBytes, A.ecbEncrypt_length key.raw (by decide : 0 < 16)]
      exact h
    have hplain := A.ecbDecrypt_ecbEncrypt key.raw (by decide : 0 < 16) (by decide : 16 < 256)
      content
    rw [readContent_of_lt (by omega), Option.bind_some, readContent_of_lt hlength,
      Option.map_some, AesTools.getDecryptBytes, AesTools.getEncryptBytes, hplain,
      Option.getD_some]

end StreamRoute

def sampleKey : AesKey where
  keyValue := "852099ded7ee76aa"
  length_mem := by decide +kernel
  iv_length := by decide +kernel

end Offline

end TorChat
