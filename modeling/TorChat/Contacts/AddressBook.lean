import TorChat.Contacts.MailList
import TorChat.Library.Fields
import TorChat.Offline.TextRouting

namespace TorChat

open Library (Bytes fields split)
open DigestUtils (sha256Hex)

namespace FilePathUtils

def contactName : String := "contact.txt"

end FilePathUtils

namespace FileUtil

-- the directory of the user; a file that is missing is an exception
def readFileFromSdcardChatUser (userInfoFile : String → Option Bytes) (fileName : String) :
    Option String :=
  (userInfoFile fileName).map newString

end FileUtil

namespace AddressBookTool

open FileUtil (readFileFromSdcardChatUser)
open Offline (trim)

structure ImportedContact extends AddressBookBean where
  gender : Nat := 1
  headImagePath : String := "Temporarily none"
  remotePublicKey : String
  remaks : String := "Temporarily none"
  deriving DecidableEq, Repr

section Model

variable (P : Platform) (tools : AesTools) (userInfoFile : String → Option Bytes)

def publicKeyFile (decryptRemoteOnionName : String) : String :=
  sha256Hex P decryptRemoteOnionName ++ "_public_key"

-- a piece without a blank, and the hash of a name that does not decrypt, are exceptions
def insertContact (splited : String) : Option ImportedContact :=
  match split ' ' splited with
  | remoteOnionName :: nickName :: _ =>
      match tools.getDecryptContent remoteOnionName with
      | none => none
      | some decryptRemoteOnionName =>
          (readFileFromSdcardChatUser userInfoFile (publicKeyFile P decryptRemoteOnionName)).map
            (fun remotePublicKey =>
              { nickName := nickName, remoteOnionName := remoteOnionName
                remotePublicKey := trim remotePublicKey })
  | _ => none

def insertAddressBookBean : Option (List ImportedContact) :=
  (readFileFromSdcardChatUser userInfoFile FilePathUtils.contactName).bind
    (fun content => (split '\r' content).mapM (insertContact P tools userInfoFile))

end Model

def OneLine (text : String) : Prop := ∀ c ∈ text.toList, c ≠ '\r' ∧ c ≠ '\n'

instance (text : String) : Decidable (OneLine text) :=
  decidable_of_iff (text.toList.all (fun c => decide (c ≠ '\r' ∧ c ≠ '\n')) = true) (by
    rw [OneLine, List.all_eq_true]
    simp only [decide_eq_true_eq])

structure ContactLine where
  remoteOnionName : String
  nickName : String
  onion_line : OneLine remoteOnionName
  nick_line : OneLine nickName
  onion_word : ' ' ∉ remoteOnionName.toList

def ContactLine.text (line : ContactLine) : String :=
  line.remoteOnionName ++ " " ++ line.nickName

def contactText (lines : List ContactLine) (closed : Bool) : String :=
  String.intercalate "\r\n" (lines.map ContactLine.text) ++ if closed then "\r\n" else ""

section Statement

variable (P : Platform) (tools : AesTools) (userInfoFile : String → Option Bytes)

def KeyFile (line : ContactLine) (key : Bytes) : Prop :=
  ∃ name, tools.getDecryptContent line.remoteOnionName = some name ∧
    userInfoFile (publicKeyFile P name) = some key

structure SameContact (line : ContactLine) (bean : ImportedContact) : Prop where
  remoteOnionName : bean.remoteOnionName = line.remoteOnionName
  nickName : bean.nickName = line.nickName

structure WithoutTerminators (bean : ImportedContact) : Prop where
  nickName : OneLine bean.nickName
  headImagePath : OneLine bean.headImagePath
  remoteOnionName : OneLine bean.remoteOnionName
  remotePublicKey : OneLine bean.remotePublicKey
  remaks : OneLine bean.remaks

def Imported (lines : List ContactLine) (result : Option (List ImportedContact)) : Prop :=
  ∃ list, result = some list ∧ List.Forall₂ SameContact lines list ∧
    ∀ bean ∈ list, WithoutTerminators bean

-- the only line, whose nickname is one word and whose key stands on one line
structure OnlyContact (line : ContactLine) : Prop where
  word : line.nickName ≠ "" ∧ ' ' ∉ line.nickName.toList
  key_line : ∀ key, KeyFile P tools userInfoFile line key → OneLine (trim (newString key))

end Statement

section Pieces

variable {P : Platform} {tools : AesTools} {userInfoFile : String → Option Bytes}
  {line : ContactLine}

theorem text_toList (line : ContactLine) :
    line.text.toList = line.remoteOnionName.toList ++ ' ' :: line.nickName.toList := by
  rw [ContactLine.text, String.toList_append, String.toList_append, List.append_assoc]
  rfl

theorem oneLine_text (line : ContactLine) : OneLine line.text := by
  intro c hc
  rw [text_toList, List.mem_append, List.mem_cons] at hc
  rcases hc with honion | rfl | hnick
  · exact line.onion_line c honion
  · exact ⟨by decide, by decide⟩
  · exact line.nick_line c hnick

theorem split_text (hword : line.nickName ≠ "" ∧ ' ' ∉ line.nickName.toList) :
    split ' ' line.text = [line.remoteOnionName, line.nickName] := by
  have hne : line.nickName.toList ≠ [] := by simpa using hword.1
  rw [split, text_toList, Library.fields_pair line.onion_word hword.2 hne]
  simp only [List.map_cons, String.ofList_toList, List.map_nil]

theorem insertContact_some {splited : String} {bean : ImportedContact}
    (h : insertContact P tools userInfoFile splited = some bean) :
    ∃ more, split ' ' splited = bean.remoteOnionName :: bean.nickName :: more ∧
      ∃ name key, tools.getDecryptContent bean.remoteOnionName = some name ∧
        userInfoFile (publicKeyFile P name) = some key ∧
          bean = { nickName := bean.nickName, remoteOnionName := bean.remoteOnionName
                   remotePublicKey := trim (newString key) } := by
  rw [insertContact] at h
  split at h
  · rename_i remoteOnionName nickName more hsplit
    split at h
    · cases h
    · rename_i name hname
      rw [readFileFromSdcardChatUser, Option.map_map, Option.map_eq_some_iff] at h
      obtain ⟨key, hkey, rfl⟩ := h
      exact ⟨more, hsplit, name, key, hname, hkey, rfl⟩
  · cases h

theorem split_word (h : ∃ nickName more,
    split ' ' line.text = line.remoteOnionName :: nickName :: more ∧ nickName = line.nickName) :
    line.nickName ≠ "" ∧ ' ' ∉ line.nickName.toList := by
  obtain ⟨nickName, more, hsplit, rfl⟩ := h
  constructor
  · intro hempty
    have hlength := Library.length_fields_concat line.onion_word
    have hfields := congrArg List.length hsplit
    rw [split, text_toList, hempty, List.length_map, List.length_cons, List.length_cons] at hfields
    rw [String.toList_empty] at hfields
    omega
  · have hmem : line.nickName ∈ split ' ' line.text := by
      rw [hsplit]
      exact List.mem_cons_of_mem _ List.mem_cons_self
    obtain ⟨part, hpart, hname⟩ := List.mem_map.mp hmem
    rw [← hname, String.toList_ofList]
    exact Library.notMem_of_mem_fields hpart

theorem insertContact_text (hword : line.nickName ≠ "" ∧ ' ' ∉ line.nickName.toList) {key : Bytes}
    (hkey : KeyFile P tools userInfoFile line key) :
    insertContact P tools userInfoFile line.text =
      some { nickName := line.nickName, remoteOnionName := line.remoteOnionName
             remotePublicKey := trim (newString key) } := by
  obtain ⟨name, hname, hfile⟩ := hkey
  rw [insertContact, split_text hword]
  dsimp only
  rw [hname]
  dsimp only
  rw [readFileFromSdcardChatUser, hfile]
  rfl

end Pieces

section Import

variable {P : Platform} {tools : AesTools} {userInfoFile : String → Option Bytes}
  {line : ContactLine} {lines : List ContactLine} {closed : Bool}

theorem insert_eq (hfile : userInfoFile FilePathUtils.contactName =
    some (getBytes (contactText lines closed))) :
    insertAddressBookBean P tools userInfoFile =
      (split '\r' (contactText lines closed)).mapM (insertContact P tools userInfoFile) := by
  rw [insertAddressBookBean, readFileFromSdcardChatUser, hfile, Option.map_some,
    newString_getBytes, Option.bind_some]

theorem contactText_open (line : ContactLine) : contactText [line] false = line.text := by
  rw [contactText, List.map_singleton, String.intercalate_singleton]
  exact String.append_empty

theorem split_open (line : ContactLine) : split '\r' (contactText [line] false) = [line.text] := by
  have hplain : '\r' ∉ line.text.toList := fun hmem => (oneLine_text line _ hmem).1 rfl
  rw [contactText_open, split, Library.fields_of_notMem hplain, List.map_singleton,
    String.ofList_toList]

theorem contactText_closed (line : ContactLine) (lines : List ContactLine)
    (h : lines ≠ [] ∨ closed = true) :
    ∃ rest, (contactText (line :: lines) closed).toList =
      line.text.toList ++ '\r' :: '\n' :: rest := by
  cases lines with
  | nil =>
    obtain rfl := h.resolve_left (fun hne => hne rfl)
    refine ⟨[], ?_⟩
    rw [contactText, List.map_singleton, String.intercalate_singleton, String.toList_append]
    rfl
  | cons next lines =>
    refine ⟨(contactText (next :: lines) closed).toList, ?_⟩
    rw [contactText, List.map_cons, List.map_cons, String.intercalate_cons_cons,
      String.append_assoc, String.append_assoc, String.toList_append, String.toList_append]
    rfl

-- the line feed behind the first carriage return starts the next piece
theorem split_closed (line : ContactLine) (lines : List ContactLine)
    (h : lines ≠ [] ∨ closed = true) :
    ∃ part parts, split '\r' (contactText (line :: lines) closed) =
      line.text :: String.ofList ('\n' :: part) :: parts := by
  obtain ⟨rest, hrest⟩ := contactText_closed line lines h
  have hplain : '\r' ∉ line.text.toList := fun hmem => (oneLine_text line _ hmem).1 rfl
  obtain ⟨part, parts, hparts⟩ := Library.fields_append_cons (c := '\n') hplain (by decide) rest
  refine ⟨part, parts.map String.ofList, ?_⟩
  rw [split, hrest, hparts, List.map_cons, List.map_cons, String.ofList_toList]

theorem onion_of_line_feed {part : List Char} {bean : ImportedContact}
    (h : insertContact P tools userInfoFile (String.ofList ('\n' :: part)) = some bean) :
    ¬ OneLine bean.remoteOnionName := by
  obtain ⟨more, hsplit, _⟩ := insertContact_some h
  have hblank : '\n' ≠ ' ' := by decide
  obtain ⟨word, words, hwords⟩ := Library.fields_cons_ne hblank part
  rw [split, String.toList_ofList, hwords, List.map_cons] at hsplit
  rw [← (List.cons.inj hsplit).1]
  intro hline
  have hmem : '\n' ∈ (String.ofList ('\n' :: word)).toList := by simp
  exact (hline '\n' hmem).2 rfl

theorem not_imported_closed (hfile : userInfoFile FilePathUtils.contactName =
    some (getBytes (contactText (line :: lines) closed))) (h : lines ≠ [] ∨ closed = true) :
    ¬ Imported (line :: lines) (insertAddressBookBean P tools userInfoFile) := by
  rintro ⟨list, hlist, _, hplain⟩
  obtain ⟨part, parts, hparts⟩ := split_closed line lines h
  rw [insert_eq hfile, hparts, List.mapM_cons, List.mapM_cons] at hlist
  simp only [Option.bind_eq_bind, Option.bind_eq_some_iff, Option.pure_def, Option.some.injEq]
    at hlist
  obtain ⟨bean, _, rest, ⟨bean', hbean', more, _, rfl⟩, rfl⟩ := hlist
  have hmem : bean' ∈ bean :: bean' :: more := List.mem_cons_of_mem bean List.mem_cons_self
  exact onion_of_line_feed hbean' (hplain bean' hmem).remoteOnionName

theorem onlyContact_of_imported (hfile : userInfoFile FilePathUtils.contactName =
    some (getBytes (contactText [line] false)))
    (h : Imported [line] (insertAddressBookBean P tools userInfoFile)) :
    OnlyContact P tools userInfoFile line := by
  obtain ⟨list, hlist, hsame, hplain⟩ := h
  rw [insert_eq hfile, split_open, List.mapM_cons, List.mapM_nil] at hlist
  simp only [Option.bind_eq_bind, Option.bind_eq_some_iff, Option.pure_def, Option.some.injEq,
    exists_eq_left'] at hlist
  obtain ⟨bean, hbean, rfl⟩ := hlist
  obtain ⟨⟨honion, hnick⟩, _⟩ := List.forall₂_cons.mp hsame
  obtain ⟨more, hsplit, name, key, hname, hkey, heq⟩ := insertContact_some hbean
  refine ⟨split_word ⟨bean.nickName, more, ?_, hnick⟩, ?_⟩
  · rw [hsplit, honion]
  · rintro key' ⟨name', hname', hkey'⟩
    rw [honion, hname'] at hname
    obtain rfl := Option.some.inj hname
    rw [hkey'] at hkey
    obtain rfl := Option.some.inj hkey
    have hline := (hplain bean List.mem_cons_self).remotePublicKey
    rw [heq] at hline
    exact hline

theorem imported_of_onlyContact (hfile : userInfoFile FilePathUtils.contactName =
    some (getBytes (contactText [line] false))) {key : Bytes}
    (hkey : KeyFile P tools userInfoFile line key) (h : OnlyContact P tools userInfoFile line) :
    Imported [line] (insertAddressBookBean P tools userInfoFile) := by
  have hbean := insertContact_text h.word hkey
  have hnone : OneLine "Temporarily none" := by decide
  have hplain : WithoutTerminators { nickName := line.nickName
                                     remoteOnionName := line.remoteOnionName
                                     remotePublicKey := trim (newString key) } :=
    ⟨line.nick_line, hnone, line.onion_line, h.key_line key hkey, hnone⟩
  refine ⟨_, ?_, .cons ⟨rfl, rfl⟩ .nil, List.forall_mem_singleton.mpr hplain⟩
  rw [insert_eq hfile, split_open, List.mapM_cons, List.mapM_nil, hbean]
  rfl

end Import

theorem address_book_imported_iff (P : Platform) (tools : AesTools)
    (userInfoFile : String → Option Bytes) (line : ContactLine) (lines : List ContactLine)
    (closed : Bool) (hfile : userInfoFile FilePathUtils.contactName =
      some (getBytes (contactText (line :: lines) closed)))
    (hkeys : ∀ other ∈ line :: lines, ∃ key, KeyFile P tools userInfoFile other key) :
    Imported (line :: lines) (insertAddressBookBean P tools userInfoFile) ↔
      lines = [] ∧ closed = false ∧ OnlyContact P tools userInfoFile line := by
  by_cases hmore : lines ≠ [] ∨ closed = true
  · refine iff_of_false (not_imported_closed hfile hmore) ?_
    rintro ⟨hnil, hopen, _⟩
    rcases hmore with hne | hclosed
    · exact hne hnil
    · rw [hopen] at hclosed
      cases hclosed
  · obtain ⟨rfl, rfl⟩ : lines = [] ∧ closed = false := by simpa using hmore
    obtain ⟨key, hkey⟩ := hkeys line List.mem_cons_self
    constructor
    · intro h
      exact ⟨rfl, rfl, onlyContact_of_imported hfile h⟩
    · rintro ⟨_, _, hone⟩
      exact imported_of_onlyContact hfile hkey hone

def bobLine : ContactLine where
  remoteOnionName := "bob.onion"
  nickName := "Bob"
  onion_line := by decide
  nick_line := by decide
  onion_word := by decide

def userFiles (closed : Bool) (fileName : String) : Option Bytes :=
  if fileName = FilePathUtils.contactName then some (getBytes (contactText [bobLine] closed))
  else some (getBytes "key\r\n")

theorem keyFile_bob (closed : Bool) {key : Bytes} :
    KeyFile demoPlatform MailList.demoTools (userFiles closed) bobLine key ↔
      key = getBytes "key\r\n" := by
  have hfile : userFiles closed (publicKeyFile demoPlatform "bob.onion") =
      some (getBytes "key\r\n") := if_neg (by decide +kernel)
  constructor
  · rintro ⟨name, hname, hkey⟩
    obtain rfl : "bob.onion" = name := Option.some.inj hname
    rw [hfile] at hkey
    exact (Option.some.inj hkey).symm
  · rintro rfl
    exact ⟨"bob.onion", rfl, hfile⟩

theorem address_book_imported_bob : Imported [bobLine]
    (insertAddressBookBean demoPlatform MailList.demoTools (userFiles false)) := by
  have hkeys : ∀ other ∈ [bobLine], ∃ key,
      KeyFile demoPlatform MailList.demoTools (userFiles false) other key :=
    List.forall_mem_singleton.mpr ⟨_, (keyFile_bob false).mpr rfl⟩
  refine (address_book_imported_iff demoPlatform MailList.demoTools (userFiles false) bobLine []
    false rfl hkeys).mpr ⟨rfl, rfl, ⟨by decide, by decide⟩, fun key hkey => ?_⟩
  rw [(keyFile_bob false).mp hkey, newString_getBytes]
  decide +kernel

theorem closed_contact_file_throws : ¬ ∀ (P : Platform) (tools : AesTools)
    (userInfoFile : String → Option Bytes) (line : ContactLine) (lines : List ContactLine)
    (closed : Bool), userInfoFile FilePathUtils.contactName =
      some (getBytes (contactText (line :: lines) closed)) →
    (∀ other ∈ line :: lines, ∃ key, KeyFile P tools userInfoFile other key) →
    Imported (line :: lines) (insertAddressBookBean P tools userInfoFile) := by
  intro hall
  have himported := hall demoPlatform MailList.demoTools (userFiles true) bobLine [] true rfl
    (List.forall_mem_singleton.mpr ⟨_, (keyFile_bob true).mpr rfl⟩)
  exact not_imported_closed rfl (.inr rfl) himported

end AddressBookTool

end TorChat
