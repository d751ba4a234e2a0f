import TorChat.Library.Chunks
import TorChat.Library.Delimited
import TorChat.Offline.TextRouting

namespace TorChat

open Library (Bytes BlockCipher Base64.encode chunk NoStart before segments)

namespace DigestUtils

def sha256HexBytes (P : Platform) (data : Bytes) : String :=
  String.ofList ((P.sha256 data).flatMap
    (fun b => [hexDigit (b.toNat / 16), hexDigit (b.toNat % 16)]))

end DigestUtils

namespace Offline

open DigestUtils (hexDigit sha256Hex sha256HexBytes)

section Ascii

theorem getBytes_append (s t : String) : getBytes (s ++ t) = getBytes s ++ getBytes t := by
  conv_lhs => rw [← String.ofList_toList (s := s), ← String.ofList_toList (s := t),
    ← String.ofList_append]
  conv_rhs => rw [← String.ofList_toList (s := s), ← String.ofList_toList (s := t)]
  rw [getBytes_ofList, getBytes_ofList, getBytes_ofList, List.flatMap_append]

theorem ascii_of_mem_utf8EncodeChar {c : Char} {b : UInt8} (hb : b.toNat < 128)
    (h : b ∈ String.utf8EncodeChar c) : c.toNat = b.toNat := by
  rw [String.utf8EncodeChar] at h
  split at h
  · have hval : c.val.toNat = c.toNat := rfl
    rw [List.mem_singleton.mp h, UInt8.toNat_ofNat', hval, Nat.mod_eq_of_lt (by omega)]
  · exfalso
    split at h
    · simp only [List.mem_cons, List.not_mem_nil, or_false] at h
      rcases h with rfl | rfl <;> rw [UInt8.toNat_ofNat'] at hb <;> omega
    · split at h
      · simp only [List.mem_cons, List.not_mem_nil, or_false] at h
        rcases h with rfl | rfl | rfl <;> rw [UInt8.toNat_ofNat'] at hb <;> omega
      · simp only [List.mem_cons, List.not_mem_nil, or_false] at h
        rcases h with rfl | rfl | rfl | rfl <;> rw [UInt8.toNat_ofNat'] at hb <;> omega

theorem return_notMem_getBytes {s : String} (h : '\r' ∉ s.toList) : (13 : UInt8) ∉ getBytes s := by
  rw [← String.ofList_toList (s := s), getBytes_ofList]
  intro hmem
  obtain ⟨c, hc, hb⟩ := List.mem_flatMap.mp hmem
  have hvalue : c.toNat = '\r'.toNat := ascii_of_mem_utf8EncodeChar (by decide) hb
  rw [Char.toNat_inj.mp hvalue] at hc
  exact h hc

end Ascii

section Body

def boundary : String := "---------------------------123821742118716"

-- an entry whose value is null is left out
def entryText (entry : String × Option String) : String :=
  match entry.2 with
  | none => ""
  | some inputValue =>
      "\r\n" ++ ("--" ++ boundary) ++ "\r\n" ++
        ("Content-Disposition: form-data; name=\"" ++ entry.1 ++ "\"") ++ "\r\n" ++ "\r\n" ++
        inputValue

def textParts (textMap : List (String × Option String)) : Bytes :=
  getBytes (String.join (textMap.map entryText))

def fileContentType (contentType filename : String) : String :=
  let matched :=
    if contentType = "" then contentType
    else if endsWith filename ".png" then "image/png"
    else if endsWith filename ".jpg" || endsWith filename ".jpeg" || endsWith filename ".jpe" then
      "image/jpeg"
    else if endsWith filename ".gif" then "image/gif"
    else if endsWith filename ".ico" then "image/image/x-icon"
    else contentType
  if matched = "" then "application/octet-stream" else matched

def picContentType (contentType : String) : String :=
  if contentType = "" then "application/octet-stream" else contentType

def fileHeader (inputName filename contentType : String) : String :=
  "\r\n" ++ ("--" ++ boundary) ++ "\r\n" ++
    ("Content-Disposition: form-data; name=\"" ++ inputName ++ "\"; filename=\"" ++ filename ++
      "\"") ++ "\r\n" ++ ("Content-Type:" ++ contentType) ++ "\r\n" ++ "\r\n"

def endData : String := "\r\n" ++ ("--" ++ boundary) ++ "--\r\n"

-- the loop writes the file in blocks of 2048 bytes
def copied (content : Bytes) : Bytes :=
  (List.range (content.length ⌈/⌉ 2048)).flatMap (chunk 2048 content)

def SendOfflineFile.formBody (textMap : List (String × Option String)) (filename contentType : String)
    (content : Bytes) : Bytes :=
  textParts textMap ++
    getBytes (fileHeader "message" filename (fileContentType contentType filename)) ++
    copied content ++ getBytes endData

-- picByte is only compared with null
def SendOfflinePic2.formBody (textMap : List (String × Option String)) (_picByte : Bytes)
    (contentType : String) : Bytes :=
  textParts textMap ++ getBytes (fileHeader "message" "filename.jpg" (picContentType contentType)) ++
    getBytes endData

def Plain (value : String) : Prop := '\r' ∉ value.toList ∧ value.toList.head? ≠ some '-'

-- the ids are hex digests, the type is a constant and the time is digits between signs
structure Form where
  fromId : String
  toId : String
  type : String
  timestamp : String
  fromId_plain : Plain fromId
  toId_plain : Plain toId
  type_plain : Plain type
  timestamp_plain : Plain timestamp

-- the card's file system keeps control characters out of a name
structure FileName where
  text : String
  plain : '\r' ∉ text.toList

def Form.fields (form : Form) (hash : String) : List (String × Option String) :=
  [("from_id", some form.fromId), ("to_id", some form.toId), ("type", some form.type),
    ("timestamp", some form.timestamp), ("hash", some hash)]

inductive Upload where
  | pic (picByte : Bytes)
  | file (name : FileName) (content : Bytes)

variable (P : Platform) (A : BlockCipher 16) (key : AesKey)

-- entrySet lists the fields of the HashMap in an order of its own
inductive Writes (form : Form) : Upload → Bytes → Prop where
  | pic (picByte : Bytes) (textMap : List (String × Option String))
      (horder : textMap.Perm (form.fields (sha256HexBytes P picByte))) :
      Writes form (.pic picByte) (SendOfflinePic2.formBody textMap picByte "")
  | file (name : FileName) (content cipher fileContent : Bytes)
      (textMap : List (String × Option String))
      (hcipher : sendPic A key name.text content = some cipher)
      (hread : FileUtils.readContent cipher = some fileContent)
      (horder : textMap.Perm (form.fields (sha256HexBytes P fileContent))) :
      Writes form (.file name content) (SendOfflineFile.formBody textMap name.text "" cipher)

end Body

section Parts

def crlf : Bytes := [13, 10]

def dashes : Bytes := getBytes ("--" ++ boundary)

def delimiter : Bytes := 13 :: 10 :: dashes

def partNamed (name : String) (segment : Bytes) : Bool :=
  (crlf ++ getBytes ("Content-Disposition: form-data; name=\"" ++ name ++ "\"")).isPrefixOf segment

def partContent (segment : Bytes) : Option Bytes :=
  (segment.dropInfix? (crlf ++ crlf)).map (fun cut => cut.2)

-- what a reader of the body finds under a name: the text between the delimiters, after the
-- blank line
def field (name : String) (body : Bytes) : Option Bytes :=
  ((segments delimiter body.length body).find? (partNamed name)).bind partContent

def CarriesHashed (P : Platform) (body : Bytes) : Prop :=
  ∃ part, field "message" body = some part ∧
    field "hash" body = some (getBytes (sha256HexBytes P part))

def nameBytes (name : String) : Bytes :=
  getBytes ("Content-Disposition: form-data; name=\"" ++ name ++ "\"")

def textSegment (entry : String × String) : Bytes :=
  crlf ++ (nameBytes entry.1 ++ (crlf ++ (crlf ++ getBytes entry.2)))

def headSegment (inputName filename contentType : String) : Bytes :=
  crlf ++ (getBytes ("Content-Disposition: form-data; name=\"" ++ inputName ++ "\"; filename=\"" ++
    filename ++ "\"") ++ (crlf ++ getBytes ("Content-Type:" ++ contentType)))

theorem getBytes_crlf : getBytes "\r\n" = crlf := by decide +kernel

theorem delimiter_eq : crlf ++ dashes = delimiter := rfl

theorem getBytes_entryText (entry : String × String) :
    getBytes (entryText (entry.1, some entry.2)) = delimiter ++ textSegment entry := by
  simp only [entryText, getBytes_append _ "\r\n", getBytes_append "\r\n", getBytes_append _ entry.2,
    getBytes_append _ ("Content-Disposition: form-data; name=\"" ++ entry.1 ++ "\""), getBytes_crlf,
    List.append_assoc, ← delimiter_eq, dashes, textSegment, nameBytes]

theorem getBytes_fileHeader (inputName filename contentType : String) :
    getBytes (fileHeader inputName filename contentType) =
      delimiter ++ (headSegment inputName filename contentType ++ (crlf ++ crlf)) := by
  simp only [fileHeader, getBytes_append _ "\r\n", getBytes_append "\r\n",
    getBytes_append _ ("Content-Type:" ++ contentType),
    getBytes_append _ ("Content-Disposition: form-data; name=\"" ++ inputName ++
      "\"; filename=\"" ++ filename ++ "\""), getBytes_crlf,
    List.append_assoc, ← delimiter_eq, dashes, headSegment]

theorem getBytes_endData : getBytes endData = delimiter ++ getBytes "--\r\n" := by
  simp only [endData, getBytes_append _ "--\r\n", getBytes_append "\r\n", getBytes_crlf,
    ← delimiter_eq, dashes]

end Parts

section Segments

variable {e xs ys zs : Bytes}

theorem noStart_crlf : NoStart (13 :: 10 :: e) (crlf ++ xs) ys ↔
    ¬ e <+: xs ++ ys ∧ NoStart (13 :: 10 :: e) xs ys := by
  have hnewline : ¬ 13 :: 10 :: e <+: (10 : UInt8) :: (xs ++ ys) := by
    intro h
    have hhead := (List.cons_prefix_cons.mp h).1
    revert hhead
    decide
  have hreturn : 13 :: 10 :: e <+: (13 : UInt8) :: (10 :: xs ++ ys) ↔ e <+: xs ++ ys := by
    rw [List.cons_append, List.cons_prefix_cons, List.cons_prefix_cons]
    simp
  rw [crlf, List.cons_append, List.cons_append, List.nil_append, Library.noStart_cons,
    Library.noStart_cons, hreturn]
  simp only [hnewline, not_false_eq_true, true_and]

theorem dashes_eq : dashes = 45 :: getBytes ("-" ++ boundary) := by decide +kernel

theorem return_notMem_dashes : (13 : UInt8) ∉ 10 :: dashes := by decide +kernel

theorem not_dashes (h : zs.head? ≠ some 45) : ¬ dashes <+: zs := by
  rw [dashes_eq]
  rintro ⟨rest, rfl⟩
  exact h rfl

theorem not_crlf (h : zs.head? ≠ some 13) : ¬ crlf <+: zs := by
  rintro ⟨rest, rfl⟩
  exact h rfl

theorem getBytes_C (s : String) : getBytes ("C" ++ s) = 67 :: getBytes s := by
  rw [getBytes_append]
  rfl

theorem head?_nameBytes (name : String) : (nameBytes name).head? = some 67 := by
  have hsplit : "Content-Disposition: form-data; name=\"" ++ name ++ "\"" =
      "C" ++ ("ontent-Disposition: form-data; name=\"" ++ name ++ "\"") := by
    rw [← String.append_assoc, ← String.append_assoc]
    rfl
  rw [nameBytes, hsplit, getBytes_C]
  rfl

theorem return_notMem_nameBytes {name : String} (h : '\r' ∉ name.toList) :
    (13 : UInt8) ∉ nameBytes name := by
  apply return_notMem_getBytes
  simp only [String.toList_append, List.mem_append, not_or]
  exact ⟨⟨by decide, h⟩, by decide⟩

theorem head?_getBytes {value : String} (h : value.toList.head? ≠ some '-') :
    (getBytes value).head? ≠ some 45 := by
  rw [← String.ofList_toList (s := value), getBytes_ofList]
  cases hchars : value.toList with
  | nil => exact nofun
  | cons c cs =>
    rw [hchars] at h
    intro hhead
    rw [List.flatMap_cons] at hhead
    have hmem : (45 : UInt8) ∈ String.utf8EncodeChar c := by
      have hpos := c.utf8Size_pos
      rw [← String.length_utf8EncodeChar] at hpos
      obtain ⟨b, rest, hb⟩ := List.exists_cons_of_ne_nil (List.ne_nil_of_length_pos hpos)
      rw [hb] at hhead ⊢
      rw [← Option.some.inj hhead]
      exact List.mem_cons_self
    have hvalue : c.toNat = '-'.toNat := ascii_of_mem_utf8EncodeChar (by decide) hmem
    rw [Char.toNat_inj.mp hvalue] at h
    exact h rfl

theorem noStart_textSegment {entry : String × String} (hname : '\r' ∉ entry.1.toList)
    (hvalue : Plain entry.2) (zs : Bytes) :
    NoStart delimiter (textSegment entry) (delimiter ++ zs) := by
  have hnamed := head?_nameBytes entry.1
  have hhead := head?_getBytes hvalue.2
  rw [delimiter, textSegment, noStart_crlf]
  refine ⟨not_dashes ?_, Library.noStart_append.mpr
    ⟨Library.noStart_of_notMem (return_notMem_nameBytes hname), noStart_crlf.mpr
      ⟨not_dashes ?_, noStart_crlf.mpr ⟨not_dashes ?_,
        Library.noStart_of_notMem (return_notMem_getBytes hvalue.1)⟩⟩⟩⟩
  · rw [List.append_assoc, List.head?_append, hnamed]
    exact (by decide : some (67 : UInt8) ≠ some 45)
  · exact nofun
  · rw [List.head?_append]
    cases hfirst : (getBytes entry.2).head? with
    | none => exact nofun
    | some b => rw [hfirst] at hhead; exact hhead

theorem partContent_textSegment {entry : String × String} (hname : '\r' ∉ entry.1.toList) :
    partContent (textSegment entry) = some (getBytes entry.2) := by
  have hnamed := head?_nameBytes entry.1
  have hclear : NoStart (crlf ++ crlf) (crlf ++ nameBytes entry.1)
      (crlf ++ crlf ++ getBytes entry.2) := by
    refine noStart_crlf.mpr ⟨not_crlf ?_, Library.noStart_of_notMem (return_notMem_nameBytes hname)⟩
    rw [List.head?_append, hnamed]
    exact (by decide : some (67 : UInt8) ≠ some 13)
  have hcut := Library.dropInfix?_of_noStart hclear
  simp only [List.append_assoc] at hcut
  rw [partContent, textSegment, hcut]
  rfl

end Segments

section Message

variable {filename contentType : String} {content : Bytes}

def dispositionBytes (inputName filename : String) : Bytes :=
  getBytes ("Content-Disposition: form-data; name=\"" ++ inputName ++ "\"; filename=\"" ++
    filename ++ "\"")

theorem dispositionBytes_eq (inputName filename : String) :
    dispositionBytes inputName filename =
      nameBytes inputName ++ getBytes ("; filename=\"" ++ filename ++ "\"") := by
  have hquote : "\"; filename=\"" = "\"" ++ "; filename=\"" := rfl
  rw [dispositionBytes, nameBytes, hquote]
  simp only [getBytes_append, List.append_assoc]

structure PlainHead (filename contentType : String) : Prop where
  filename : '\r' ∉ filename.toList
  contentType : '\r' ∉ contentType.toList

theorem return_notMem_disposition (h : '\r' ∉ filename.toList) :
    (13 : UInt8) ∉ dispositionBytes "message" filename := by
  rw [dispositionBytes_eq]
  intro hmem
  rcases List.mem_append.mp hmem with hname | hfile
  · exact return_notMem_nameBytes (by decide) hname
  · refine return_notMem_getBytes ?_ hfile
    simp only [String.toList_append, List.mem_append, not_or]
    exact ⟨⟨by decide, h⟩, by decide⟩

theorem return_notMem_contentType (h : '\r' ∉ contentType.toList) :
    (13 : UInt8) ∉ getBytes ("Content-Type:" ++ contentType) := by
  apply return_notMem_getBytes
  simp only [String.toList_append, List.mem_append, not_or]
  exact ⟨by decide, h⟩

theorem head?_disposition (filename : String) (zs : Bytes) :
    (dispositionBytes "message" filename ++ zs).head? = some 67 := by
  rw [dispositionBytes_eq, List.append_assoc, List.head?_append, head?_nameBytes]
  rfl

theorem head?_contentType (contentType : String) (zs : Bytes) :
    (getBytes ("Content-Type:" ++ contentType) ++ zs).head? = some 67 := by
  have hsplit : "Content-Type:" ++ contentType = "C" ++ ("ontent-Type:" ++ contentType) := by
    rw [← String.append_assoc]
    rfl
  rw [hsplit, getBytes_C]
  rfl

-- both delimiters start with CR LF; what follows it in the header is a name or another CR
theorem noStart_headSegment {e : Bytes} (hplain : PlainHead filename contentType)
    (he : ∀ zs : Bytes, zs.head? = some 67 → ¬ e <+: zs) (ys : Bytes) :
    NoStart (13 :: 10 :: e) (headSegment "message" filename contentType) ys := by
  rw [headSegment, ← dispositionBytes, noStart_crlf]
  refine ⟨he _ ?_, Library.noStart_append.mpr
    ⟨Library.noStart_of_notMem (return_notMem_disposition hplain.filename), noStart_crlf.mpr
      ⟨he _ ?_, Library.noStart_of_notMem (return_notMem_contentType hplain.contentType)⟩⟩⟩
  · rw [List.append_assoc]
    exact head?_disposition filename _
  · exact head?_contentType contentType _

def messageSegment (filename contentType : String) (content : Bytes) : Bytes :=
  if dashes <+: content then headSegment "message" filename contentType ++ crlf
  else headSegment "message" filename contentType ++ (crlf ++ (crlf ++ before delimiter content))

theorem not_dashes_of_head {zs : Bytes} (h : zs.head? = some 67) : ¬ dashes <+: zs :=
  not_dashes (by rw [h]; decide)

theorem not_crlf_of_head {zs : Bytes} (h : zs.head? = some 67) : ¬ crlf <+: zs :=
  not_crlf (by rw [h]; decide)

variable (content) in
theorem segments_message (hplain : PlainHead filename contentType) (fuel : Nat) (closing : Bytes) :
    ∃ rest, segments delimiter (fuel + 1) (headSegment "message" filename contentType ++
      (crlf ++ (crlf ++ (content ++ (delimiter ++ closing))))) =
        messageSegment filename contentType content :: rest := by
  have hhead := noStart_headSegment hplain (fun _ => not_dashes_of_head)
  rw [messageSegment]
  split
  · rename_i hdashes
    obtain ⟨rest, rfl⟩ := hdashes
    have hclear : NoStart delimiter (headSegment "message" filename contentType ++ crlf)
        (delimiter ++ (rest ++ (delimiter ++ closing))) := by
      refine Library.noStart_append.mpr ⟨hhead _, ?_⟩
      have hcrlf : crlf = crlf ++ [] := (List.append_nil _).symm
      rw [hcrlf]
      exact noStart_crlf.mpr ⟨not_dashes nofun, Library.noStart_nil _ _⟩
    have hcut := Library.segments_cut hclear fuel
    rw [← delimiter_eq] at hcut ⊢
    simp only [List.append_assoc] at hcut ⊢
    exact ⟨_, hcut⟩
  · rename_i hdashes
    obtain ⟨tail, htail⟩ : ∃ tail, content ++ (delimiter ++ closing) =
        before delimiter content ++ (delimiter ++ tail) := by
      rcases Library.before_eq_or delimiter content with hall | ⟨rest, hrest⟩
      · exact ⟨closing, by rw [hall]⟩
      · refine ⟨rest ++ (delimiter ++ closing), ?_⟩
        conv_lhs => rw [hrest]
        simp only [List.append_assoc]
    have hcontent : ¬ dashes <+: before delimiter content ++ (delimiter ++ tail) := by
      rw [← htail]
      intro habove
      exact hdashes (Library.prefix_of_prefix_cons
        (fun hmem => return_notMem_dashes (List.mem_cons_of_mem _ hmem)) habove)
    have hclear : NoStart delimiter (headSegment "message" filename contentType ++
        (crlf ++ (crlf ++ before delimiter content))) (delimiter ++ tail) := by
      refine Library.noStart_append.mpr ⟨hhead _, noStart_crlf.mpr ⟨not_dashes nofun,
        noStart_crlf.mpr ⟨hcontent, Library.noStart_before return_notMem_dashes _ _⟩⟩⟩
    have hcut := Library.segments_cut hclear fuel
    simp only [List.append_assoc] at hcut
    rw [htail]
    exact ⟨_, hcut⟩

theorem partContent_messageSegment (hplain : PlainHead filename contentType) :
    partContent (messageSegment filename contentType content) =
      if dashes <+: content then none else some (before delimiter content) := by
  have hhead := noStart_headSegment hplain (fun _ => not_crlf_of_head)
  rw [messageSegment]
  split
  · have hclear : NoStart (crlf ++ crlf) (headSegment "message" filename contentType ++ crlf) [] := by
      refine Library.noStart_append.mpr ⟨hhead _, ?_⟩
      have hcrlf : crlf = crlf ++ [] := (List.append_nil _).symm
      rw [hcrlf]
      exact noStart_crlf.mpr ⟨not_crlf nofun, Library.noStart_nil _ _⟩
    rw [partContent, Library.dropInfix?_eq_none (by decide) hclear]
    rfl
  · have hcut := Library.dropInfix?_of_noStart (hhead (crlf ++ crlf ++ before delimiter content))
    simp only [crlf, List.cons_append, List.nil_append] at hcut ⊢
    rw [partContent]
    simp only [crlf, List.cons_append, List.nil_append]
    rw [hcut]
    rfl

end Message

section Lookup

variable {filename contentType : String} {content : Bytes}

def someValue (entry : String × String) : String × Option String := (entry.1, some entry.2)

theorem getBytes_join (texts : List String) :
    getBytes (String.join texts) = texts.flatMap getBytes := by
  induction texts with
  | nil => rfl
  | cons text texts ih => rw [String.join_cons, getBytes_append, ih, List.flatMap_cons]

theorem textParts_someValue (entries : List (String × String)) :
    textParts (entries.map someValue) =
      (entries.map textSegment).flatMap (fun part => delimiter ++ part) := by
  rw [textParts, getBytes_join, List.map_map, List.flatMap_map, List.flatMap_map]
  exact List.flatMap_congr (fun entry _ => getBytes_entryText entry)

theorem flatMap_rotate {α : Type} (d : List α) (parts : List (List α)) (tail : List α) :
    parts.flatMap (fun part => d ++ part) ++ (d ++ tail) =
      d ++ (parts.flatMap (fun part => part ++ d) ++ tail) := by
  induction parts with
  | nil => rfl
  | cons part parts ih => simp only [List.flatMap_cons, List.append_assoc, ih]

theorem length_le_flatMap {α : Type} {d : List α} (hd : d ≠ []) (parts : List (List α)) :
    parts.length ≤ (parts.flatMap (fun part => part ++ d)).length := by
  have hpos := List.length_pos_iff.mpr hd
  induction parts with
  | nil => exact Nat.zero_le _
  | cons part parts ih =>
    rw [List.flatMap_cons, List.length_append, List.length_append, List.length_cons]
    omega

def bodyOf (entries : List (String × String)) (filename contentType : String) (content : Bytes) :
    Bytes :=
  textParts (entries.map someValue) ++ getBytes (fileHeader "message" filename contentType) ++
    content ++ getBytes endData

structure PlainEntries (entries : List (String × String)) : Prop where
  name : ∀ entry ∈ entries, '\r' ∉ entry.1.toList
  value : ∀ entry ∈ entries, Plain entry.2

theorem segments_bodyOf {entries : List (String × String)} (hentries : PlainEntries entries)
    (hplain : PlainHead filename contentType) (content : Bytes) :
    ∃ rest, segments delimiter (bodyOf entries filename contentType content).length
      (bodyOf entries filename contentType content) =
        [] :: (entries.map textSegment ++ messageSegment filename contentType content :: rest) := by
  have hbody : bodyOf entries filename contentType content =
      ([] :: entries.map textSegment).flatMap (fun part => part ++ delimiter) ++
        (headSegment "message" filename contentType ++
          (crlf ++ (crlf ++ (content ++ (delimiter ++ getBytes "--\r\n"))))) := by
    rw [bodyOf, textParts_someValue, getBytes_fileHeader, getBytes_endData]
    simp only [List.append_assoc, List.flatMap_cons, List.nil_append]
    exact flatMap_rotate _ _ _
  obtain ⟨fuel, hfuel⟩ : ∃ fuel, (bodyOf entries filename contentType content).length =
      ([] :: entries.map textSegment).length + (fuel + 1) := by
    have hle := length_le_flatMap (by decide : delimiter ≠ []) ([] :: entries.map textSegment)
    have hlength := congrArg List.length hbody
    rw [List.length_append, @List.length_append _ (headSegment _ _ _),
      @List.length_append _ crlf] at hlength
    have hcrlf : crlf.length = 2 := rfl
    exact ⟨(bodyOf entries filename contentType content).length -
      ([] :: entries.map textSegment).length - 1, by omega⟩
  have hclear : ∀ part ∈ [] :: entries.map textSegment, ∀ zs,
      NoStart delimiter part (delimiter ++ zs) := by
    intro part hpart zs
    rcases List.mem_cons.mp hpart with rfl | hpart
    · exact Library.noStart_nil _ _
    · obtain ⟨entry, hentry, rfl⟩ := List.mem_map.mp hpart
      exact noStart_textSegment (hentries.name entry hentry) (hentries.value entry hentry) zs
  obtain ⟨rest, hrest⟩ := segments_message content hplain fuel (getBytes "--\r\n")
  refine ⟨rest, ?_⟩
  rw [hfuel, hbody, Library.segments_join hclear, hrest]
  rfl

theorem partNamed_iff {name : String} {segment : Bytes} :
    partNamed name segment = true ↔ crlf ++ nameBytes name <+: segment :=
  List.isPrefixOf_iff_prefix

theorem partNamed_self (name value : String) : partNamed name (textSegment (name, value)) = true :=
  partNamed_iff.mpr ⟨_, List.append_assoc _ _ _⟩

-- the names differ in their first letter, which is the 39th byte
theorem partNamed_other {name : String} {entry : String × String}
    (h : (nameBytes name).take 39 ≠ (nameBytes entry.1).take 39)
    (hname : 39 ≤ (nameBytes name).length) (hentry : 39 ≤ (nameBytes entry.1).length) :
    partNamed name (textSegment entry) = false := by
  rw [Bool.eq_false_iff]
  intro hnamed
  obtain ⟨rest, hrest⟩ := (List.prefix_append_right_inj crlf).mp (partNamed_iff.mp hnamed)
  apply h
  have htake := congrArg (List.take 39) hrest
  rwa [List.take_append_of_le_length hname, List.take_append_of_le_length hentry] at htake

theorem partNamed_message (filename contentType : String) (content : Bytes) :
    partNamed "message" (messageSegment filename contentType content) = true := by
  have hhead : crlf ++ nameBytes "message" <+: headSegment "message" filename contentType := by
    rw [headSegment, ← dispositionBytes, dispositionBytes_eq]
    simp only [List.append_assoc]
    exact (List.prefix_append_right_inj crlf).mpr (List.prefix_append _ _)
  rw [partNamed_iff, messageSegment]
  split
  · exact hhead.trans (List.prefix_append _ _)
  · exact hhead.trans (List.prefix_append _ _)

end Lookup

section Fields

variable {form : Form} {hash filename contentType : String} {entries : List (String × String)}
  {content : Bytes}

def Form.values (form : Form) (hash : String) : List (String × String) :=
  [("from_id", form.fromId), ("to_id", form.toId), ("type", form.type),
    ("timestamp", form.timestamp), ("hash", hash)]

theorem perm_map_someValue {textMap : List (String × Option String)}
    {values : List (String × String)} (h : textMap.Perm (values.map someValue)) :
    ∃ entries : List (String × String),
      textMap = entries.map someValue ∧ entries.Perm values := by
  refine ⟨textMap.map (fun e => (e.1, e.2.getD "")), ?_, ?_⟩
  · have hsame : ∀ e ∈ textMap, someValue (e.1, e.2.getD "") = e := by
      intro e he
      obtain ⟨value, _, rfl⟩ := List.mem_map.mp (h.mem_iff.mp he)
      rfl
    rw [List.map_map]
    exact ((List.map_congr_left hsame).trans (List.map_id _)).symm
  · have hperm := h.map (fun e => (e.1, e.2.getD ""))
    rw [List.map_map] at hperm
    have hsame : values.map ((fun e : String × Option String => (e.1, e.2.getD "")) ∘ someValue) =
        values := (List.map_congr_left (fun _ _ => rfl)).trans (List.map_id _)
    rwa [hsame] at hperm

theorem find?_eq_some_of_unique {α : Type} {p : α → Bool} {x : α} {xs : List α} (hx : x ∈ xs)
    (hp : p x = true) (hunique : ∀ y ∈ xs, p y = true → y = x) : xs.find? p = some x := by
  cases hfind : xs.find? p with
  | none => exact absurd hp (List.find?_eq_none.mp hfind x hx)
  | some y => rw [hunique y (List.mem_of_find?_eq_some hfind) (List.find?_some hfind)]

theorem name_of_mem_values {entry : String × String} (h : entry ∈ form.values hash) :
    entry.1 ∈ ["from_id", "to_id", "type", "timestamp"] ∨ entry = ("hash", hash) := by
  simp only [Form.values, List.mem_cons, List.not_mem_nil, or_false] at h
  rcases h with rfl | rfl | rfl | rfl | rfl
  · exact .inl (by simp)
  · exact .inl (by simp)
  · exact .inl (by simp)
  · exact .inl (by simp)
  · exact .inr rfl

theorem names_differ : ∀ name ∈ ["from_id", "to_id", "type", "timestamp"],
    (nameBytes "hash").take 39 ≠ (nameBytes name).take 39 ∧
      (nameBytes "message").take 39 ≠ (nameBytes name).take 39 ∧ 39 ≤ (nameBytes name).length := by
  decide +kernel

theorem message_differs_hash : (nameBytes "message").take 39 ≠ (nameBytes "hash").take 39 ∧
    39 ≤ (nameBytes "hash").length ∧ 39 ≤ (nameBytes "message").length := by
  decide +kernel

theorem find?_hash (h : entries.Perm (form.values hash)) :
    (entries.map textSegment).find? (partNamed "hash") = some (textSegment ("hash", hash)) := by
  apply find?_eq_some_of_unique
  · exact List.mem_map_of_mem (h.mem_iff.mpr (by simp [Form.values]))
  · exact partNamed_self "hash" hash
  · intro part hpart hnamed
    obtain ⟨entry, hentry, rfl⟩ := List.mem_map.mp hpart
    rcases name_of_mem_values (h.mem_iff.mp hentry) with hname | rfl
    · obtain ⟨hhash, _, hlength⟩ := names_differ entry.1 hname
      rw [partNamed_other hhash message_differs_hash.2.1 hlength] at hnamed
      cases hnamed
    · rfl

theorem find?_message (h : entries.Perm (form.values hash)) :
    (entries.map textSegment).find? (partNamed "message") = none := by
  rw [List.find?_eq_none]
  intro part hpart hnamed
  obtain ⟨entry, hentry, rfl⟩ := List.mem_map.mp hpart
  rcases name_of_mem_values (h.mem_iff.mp hentry) with hname | rfl
  · obtain ⟨_, hmessage, hlength⟩ := names_differ entry.1 hname
    rw [partNamed_other hmessage message_differs_hash.2.2 hlength] at hnamed
    cases hnamed
  · obtain ⟨hdiffer, hlength, hmessage⟩ := message_differs_hash
    rw [@partNamed_other "message" ("hash", hash) hdiffer hmessage hlength] at hnamed
    cases hnamed

theorem plainEntries_of_perm (hhash : Plain hash) (h : entries.Perm (form.values hash)) :
    PlainEntries entries := by
  constructor
  · intro entry hentry
    rcases name_of_mem_values (h.mem_iff.mp hentry) with hname | rfl
    · have hnames : ∀ name ∈ ["from_id", "to_id", "type", "timestamp"], '\r' ∉ name.toList := by
        decide
      exact hnames entry.1 hname
    · exact (by decide : '\r' ∉ "hash".toList)
  · intro entry hentry
    have hmem := h.mem_iff.mp hentry
    simp only [Form.values, List.mem_cons, List.not_mem_nil, or_false] at hmem
    rcases hmem with rfl | rfl | rfl | rfl | rfl
    · exact form.fromId_plain
    · exact form.toId_plain
    · exact form.type_plain
    · exact form.timestamp_plain
    · exact hhash

theorem not_partNamed_nil (name : String) : partNamed name [] = false := by
  rw [Bool.eq_false_iff]
  intro hnamed
  have hnil := List.prefix_nil.mp (partNamed_iff.mp hnamed)
  cases hnil

theorem field_hash (hhash : Plain hash) (hplain : PlainHead filename contentType)
    (h : entries.Perm (form.values hash)) :
    field "hash" (bodyOf entries filename contentType content) = some (getBytes hash) := by
  obtain ⟨rest, hsegments⟩ := segments_bodyOf (plainEntries_of_perm hhash h) hplain content
  rw [field, hsegments, List.find?_cons_of_neg (by rw [not_partNamed_nil]; decide),
    List.find?_append, find?_hash h, Option.some_or, Option.bind_some]
  exact partContent_textSegment (by exact (by decide : '\r' ∉ "hash".toList))

theorem field_message (hhash : Plain hash) (hplain : PlainHead filename contentType)
    (h : entries.Perm (form.values hash)) :
    field "message" (bodyOf entries filename contentType content) =
      if dashes <+: content then none else some (before delimiter content) := by
  obtain ⟨rest, hsegments⟩ := segments_bodyOf (plainEntries_of_perm hhash h) hplain content
  rw [field, hsegments, List.find?_cons_of_neg (by rw [not_partNamed_nil]; decide),
    List.find?_append, find?_message h, Option.none_or,
    List.find?_cons_of_pos (partNamed_message filename contentType content), Option.bind_some]
  exact partContent_messageSegment hplain

end Fields

section Hashed

variable {P : Platform} {A : BlockCipher 16} {key : AesKey} {form : Form}

theorem hexDigit_plain (n : Nat) : hexDigit n ≠ '\r' ∧ hexDigit n ≠ '-' := by
  have hdigits : ∀ m < 16, hexDigit m ≠ '\r' ∧ hexDigit m ≠ '-' := by decide
  by_cases hn : n < 16
  · exact hdigits n hn
  · have hlength : "0123456789abcdef".toList.length ≤ n := by
      simpa using hn
    rw [hexDigit, List.getD_eq_getElem?_getD, List.getElem?_eq_none hlength]
    decide

theorem plain_sha256HexBytes (P : Platform) (data : Bytes) : Plain (sha256HexBytes P data) := by
  have hchars : ∀ c ∈ (sha256HexBytes P data).toList, c ≠ '\r' ∧ c ≠ '-' := by
    intro c hc
    rw [sha256HexBytes, String.toList_ofList] at hc
    obtain ⟨b, _, hb⟩ := List.mem_flatMap.mp hc
    simp only [List.mem_cons, List.not_mem_nil, or_false] at hb
    rcases hb with rfl | rfl
    · exact hexDigit_plain _
    · exact hexDigit_plain _
  constructor
  · exact fun hmem => (hchars _ hmem).1 rfl
  · exact fun hhead => (hchars _ (List.mem_of_head? hhead)).2 rfl

theorem getBytes_injective {s t : String} (h : getBytes s = getBytes t) : s = t := by
  rw [← newString_getBytes s, h, newString_getBytes]

theorem length_getBytes_encode (bytes : Bytes) :
    (getBytes (String.ofList (Base64.encode bytes))).length = (Base64.encode bytes).length := by
  have hchars : ∀ cs : List Char, (∀ c ∈ cs, c.utf8Size = 1) →
      (cs.flatMap String.utf8EncodeChar).length = cs.length := by
    intro cs
    induction cs with
    | nil => exact fun _ => rfl
    | cons c cs ih =>
      intro h
      rw [List.flatMap_cons, List.length_append, String.length_utf8EncodeChar,
        h c List.mem_cons_self, ih (fun c' hc' => h c' (List.mem_cons_of_mem _ hc')),
        List.length_cons, Nat.add_comm]
  rw [getBytes_ofList]
  exact hchars _ (fun c hc => (Library.Base64.ascii_of_mem_encode hc).1)

theorem cipher_length {name : String} {content cipher : Bytes}
    (h : sendPic A key name content = some cipher) : cipher.length ≤ 2 ^ 31 := by
  rw [sendPic] at h
  split at h
  · rw [FileUtils.writeBytesCiphertextToFile, FileUtils.getFileCipherBytes] at h
    obtain ⟨fileContent, hread, rfl⟩ := Option.map_eq_some_iff.mp h
    have hlt := readContent_length hread
    have hlength := A.ecbEncrypt_length key.raw (by decide : 0 < 16) fileContent
    rw [AesTools.getEncryptBytes, hlength]
    omega
  · rw [FileUtils.writeCiphertextToFile, FileUtils.getFileCiphertext] at h
    obtain ⟨text, htext, rfl⟩ := Option.map_eq_some_iff.mp h
    obtain ⟨fileContent, _, hencrypted⟩ := Option.bind_eq_some_iff.mp htext
    rw [AesTools.getEncryptContent, AesUtils.encrypt, encodeBase64String] at hencrypted
    split at hencrypted
    · rename_i hlt
      rw [← Option.some.inj hencrypted, length_getBytes_encode]
      exact hlt.le
    · cases hencrypted

theorem readContent_cipher {name : String} {content cipher fileContent : Bytes}
    (h : sendPic A key name content = some cipher)
    (hread : FileUtils.readContent cipher = some fileContent) : fileContent = cipher := by
  rcases Nat.lt_or_eq_of_le (cipher_length h) with hlt | heq
  · exact Option.some.inj (hread.symm.trans (readContent_of_lt hlt))
  · have hnum : FileTask.toInt cipher.length < 0 := by
      rw [heq]
      decide
    rw [FileUtils.readContent, if_pos hnum] at hread
    cases hread

theorem copied_eq (content : Bytes) : copied content = content :=
  Library.flatMap_chunk_eq_self (Library.le_chunkCount_mul (by decide) _)

theorem fileContentType_empty (filename : String) :
    fileContentType "" filename = "application/octet-stream" := rfl

def Upload.Intact (P : Platform) (A : BlockCipher 16) (key : AesKey) : Upload → Prop
  | .pic picByte => sha256HexBytes P picByte = sha256HexBytes P []
  | .file name content => ∀ cipher, sendPic A key name.text content = some cipher →
      ¬ dashes <+: cipher ∧
        sha256HexBytes P (before delimiter cipher) = sha256HexBytes P cipher

theorem carriesHashed_bodyOf_iff {hash filename contentType : String}
    {entries : List (String × String)} {content : Bytes} (hhash : Plain hash)
    (hplain : PlainHead filename contentType) (h : entries.Perm (form.values hash)) :
    CarriesHashed P (bodyOf entries filename contentType content) ↔
      ¬ dashes <+: content ∧ sha256HexBytes P (before delimiter content) = hash := by
  rw [CarriesHashed, field_hash hhash hplain h, field_message hhash hplain h]
  split
  · rename_i hdashes
    refine iff_of_false ?_ (fun hboth => hboth.1 hdashes)
    rintro ⟨part, hpart, _⟩
    cases hpart
  · rename_i hdashes
    constructor
    · rintro ⟨part, hpart, hsame⟩
      rw [Option.some.inj hpart]
      exact ⟨hdashes, (getBytes_injective (Option.some.inj hsame)).symm⟩
    · rintro ⟨_, hsame⟩
      exact ⟨_, rfl, by rw [hsame]⟩

end Hashed

section Caller

structure UtcTime where
  year : Nat
  month : Nat
  day : Nat
  hour : Nat
  minute : Nat
  second : Nat
  deriving DecidableEq, Repr

def digits (width n : Nat) : List Char :=
  List.replicate (width - (Nat.toDigits 10 n).length) '0' ++ Nat.toDigits 10 n

def get_UTCTime (time : UtcTime) : String :=
  String.ofList (digits 4 time.year ++ '-' :: digits 2 time.month ++ '-' :: digits 2 time.day ++
    ' ' :: digits 2 time.hour ++ ':' :: digits 2 time.minute ++ ':' :: digits 2 time.second)

inductive FileType where
  | file
  | pic
  | sendOfflineFile
  deriving DecidableEq, Repr

def FileType.text : FileType → String
  | file => "file"
  | pic => "pic"
  | sendOfflineFile => "send_offline_file"

theorem isDigit_of_mem_digits {width n : Nat} {c : Char} (h : c ∈ digits width n) :
    c.isDigit = true := by
  rcases List.mem_append.mp h with hpad | hdigit
  · rw [(List.mem_replicate.mp hpad).2]
    decide
  · exact Nat.isDigit_of_mem_toDigits (by decide) (by decide) hdigit

theorem return_notMem_digits (width n : Nat) : '\r' ∉ digits width n := fun hmem =>
  absurd (isDigit_of_mem_digits hmem) (by decide)

theorem digits_ne_nil (width n : Nat) : digits width n ≠ [] := by
  intro hnil
  exact Nat.toDigits_ne_nil (List.append_eq_nil_iff.mp hnil).2

theorem plain_get_UTCTime (time : UtcTime) : Plain (get_UTCTime time) := by
  rw [get_UTCTime, Plain, String.toList_ofList]
  constructor
  · simp [return_notMem_digits]
  · obtain ⟨c, cs, hyear⟩ := List.exists_cons_of_ne_nil (digits_ne_nil 4 time.year)
    have hdigit := @isDigit_of_mem_digits 4 time.year c (by simp [hyear])
    rw [hyear]
    intro hhead
    rw [Option.some.inj hhead] at hdigit
    exact absurd hdigit (by decide)

theorem plain_fileType (type : FileType) : Plain type.text := by
  cases type <;> exact ⟨by decide, by decide⟩

def uploadForm (P : Platform) (onionName orionId : String) (type : FileType) (time : UtcTime) :
    Form :=
  { fromId := sha256Hex P onionName
    toId := sha256Hex P orionId
    type := type.text
    timestamp := get_UTCTime time
    fromId_plain := plain_sha256HexBytes P _
    toId_plain := plain_sha256HexBytes P _
    type_plain := plain_fileType type
    timestamp_plain := plain_get_UTCTime time }

end Caller

theorem multipart_carries_hashed_iff (P : Platform) (A : BlockCipher 16) (key : AesKey)
    (form : Form) (upload : Upload) (body : Bytes) (h : Writes P A key form upload body) :
    CarriesHashed P body ↔ upload.Intact P A key := by
  cases h with
  | pic picByte textMap horder =>
    obtain ⟨entries, rfl, hperm⟩ := @perm_map_someValue textMap (form.values _) horder
    have hbody : SendOfflinePic2.formBody (entries.map someValue) picByte "" =
        bodyOf entries "filename.jpg" (picContentType "") [] := by
      rw [SendOfflinePic2.formBody, bodyOf, List.append_nil]
    rw [hbody, carriesHashed_bodyOf_iff (plain_sha256HexBytes P picByte) ⟨by decide, by decide⟩ hperm]
    rw [Upload.Intact, eq_comm]
    exact and_iff_right (by decide +kernel)
  | file name content cipher fileContent textMap hcipher hread horder =>
    obtain ⟨entries, rfl, hperm⟩ := @perm_map_someValue textMap (form.values _) horder
    obtain rfl := readContent_cipher hcipher hread
    have hbody : SendOfflineFile.formBody (entries.map someValue) name.text "" fileContent =
        bodyOf entries name.text (fileContentType "" name.text) fileContent := by
      rw [SendOfflineFile.formBody, bodyOf, copied_eq]
    rw [hbody, carriesHashed_bodyOf_iff (plain_sha256HexBytes P fileContent)
      ⟨name.plain, by rw [fileContentType_empty]; decide⟩ hperm]
    constructor
    · intro hintact cipher hsent
      obtain rfl := Option.some.inj (hsent.symm.trans hcipher)
      exact hintact
    · exact fun hintact => hintact fileContent hcipher

def picForm : Form :=
  uploadForm demoPlatform "alice.onion" "bob.onion" .file ⟨2021, 8, 6, 13, 35, 0⟩

theorem multipart_carries_empty_pic : CarriesHashed demoPlatform
    (SendOfflinePic2.formBody (picForm.fields (sha256HexBytes demoPlatform [])) [] "") :=
  (multipart_carries_hashed_iff demoPlatform DemoCrypto.aes sampleKey picForm (.pic []) _
    (.pic [] _ (List.Perm.refl _))).mpr rfl

theorem picture_bytes_not_sent : ¬ ∀ (P : Platform) (A : BlockCipher 16) (key : AesKey)
    (form : Form) (upload : Upload) (body : Bytes), Writes P A key form upload body →
      CarriesHashed P body := by
  intro hall
  have hcarries := hall demoPlatform DemoCrypto.aes sampleKey picForm (.pic [255, 216]) _
    (.pic [255, 216] _ (List.Perm.refl _))
  have hbody : SendOfflinePic2.formBody (picForm.fields (sha256HexBytes demoPlatform [255, 216]))
      [255, 216] "" = bodyOf (picForm.values (sha256HexBytes demoPlatform [255, 216]))
        "filename.jpg" (picContentType "") [] := by
    rw [SendOfflinePic2.formBody, bodyOf, List.append_nil]
    rfl
  rw [hbody, carriesHashed_bodyOf_iff (plain_sha256HexBytes _ _) ⟨by decide, by decide⟩
    (List.Perm.refl _)] at hcarries
  have hsame := hcarries.2
  revert hsame
  decide +kernel

end Offline

end TorChat
