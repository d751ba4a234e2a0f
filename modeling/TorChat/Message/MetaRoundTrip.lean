import TorChat.Message.FileMessage
import TorChat.Util.Decoding
import TorChat.Util.DemoPlatform

namespace TorChat

open Library (Bytes slice? beBytes)

namespace MetaRoundTrip

variable (P : Platform)

-- what the two sending constructors put into a task
structure Announceable (sent : FileTask) : Prop where
  nameHash : sent.fileNameHash = P.sha1 (getBytes sent.fileName)
  size : sent.totalSize < 2 ^ 63
  content : sent.contentHash.length = 20

structure SameFile (sent received : FileTask) : Prop where
  fileName : received.fileName = sent.fileName
  totalSize : received.totalSize = sent.totalSize
  contentHash : received.contentHash = sent.contentHash
  fileNameHash : received.fileNameHash = sent.fileNameHash

def RoundTrips (onionName : String) (sent : FileTask) : Prop :=
  ∃ received, FileMessage.parseFileMetaMessage P onionName
      (FileMessage.metaPayload P sent.fileName sent.totalSize sent.contentHash) = some received ∧
    SameFile sent received

variable {P} {onionName : String} {sent : FileTask}

theorem announceable_ofFile (keyFile : Bytes) (filePath : String) {content : Bytes}
    (messageID : Nat) (h : content.length < 2 ^ 63) :
    Announceable P (FileTask.ofFile P keyFile onionName filePath content messageID) :=
  ⟨rfl, h, P.sha1_length content⟩

theorem announceable_ofBitmap (keyFile : Bytes) (filePath : String) {bitmapBytes : Bytes}
    (messageID : Nat) (h : bitmapBytes.length < 2 ^ 63) :
    Announceable P (FileTask.ofBitmap P keyFile onionName filePath bitmapBytes messageID) :=
  ⟨rfl, h, P.sha1_length bitmapBytes⟩

theorem roundTrips_of_short (h : Announceable P sent)
    (hname : (getBytes sent.fileName).length ≤ 255) : RoundTrips P onionName sent := by
  have hparse := FileMessage.parseFileMetaMessage_metaPayload P onionName
    (by omega : (getBytes sent.fileName).length < 256) h.size h.content
  exact ⟨_, hparse, ⟨rfl, rfl, rfl, h.nameHash.symm⟩⟩

theorem parseInt16_byte (n : Nat) : parseInt16 (beBytes 1 n) = some (n % 256) := by
  have hlt : n % 256 < 256 := Nat.mod_lt n (by decide)
  have hnat : Library.beNat (beBytes 1 n) = n % 256 := Library.beNat_beBytes 1 n
  rw [parseInt16, hnat, if_pos ⟨List.cons_ne_nil _ _, by omega⟩]

-- the length byte holds the length modulo 256, so the receiver cuts the name off
theorem fileName_of_parse {fileName : String} {fileSize : Nat} {contentHash : Bytes}
    {received : FileTask} (h : FileMessage.parseFileMetaMessage P onionName
      (FileMessage.metaPayload P fileName fileSize contentHash) = some received) :
    received.fileName =
      newString ((getBytes fileName).take ((getBytes fileName).length % 256)) := by
  have hle : (getBytes fileName).length % 256 ≤ (getBytes fileName).length := Nat.mod_le _ _
  have hlength : Message.subBytes (FileMessage.metaPayload P fileName fileSize contentHash) 0 1 =
      some (beBytes 1 (getBytes fileName).length) := Library.slice?_prefix (by simp)
  have hread : parseInt16 (beBytes 1 (getBytes fileName).length) =
      some ((getBytes fileName).length % 256) := parseInt16_byte _
  have hname : Message.subBytes (FileMessage.metaPayload P fileName fileSize contentHash) 1
      ((getBytes fileName).length % 256) =
        some ((getBytes fileName).take ((getBytes fileName).length % 256)) := by
    rw [FileMessage.metaPayload, Message.subBytes, Library.slice?_append_right (by simp),
      Library.beBytes_length, Nat.sub_self, Library.slice?_append_left (by omega), slice?,
      if_pos (by omega), List.drop_zero]
  rw [FileMessage.parseFileMetaMessage, hlength, Option.bind_some, hread, Option.bind_eq_bind,
    Option.bind_some, hname] at h
  simp only [Option.bind_eq_bind, Option.bind_some, Option.bind_eq_some_iff] at h
  obtain ⟨_, -, _, -, _, -, hreceived⟩ := h
  rw [← Option.some.inj hreceived]
  rfl

theorem not_roundTrips_of_long (hname : 255 < (getBytes sent.fileName).length) :
    ¬ RoundTrips P onionName sent := by
  rintro ⟨received, hparse, hsame⟩
  have hcut := hsame.fileName.symm.trans (fileName_of_parse hparse)
  refine newString_cut_ne ?_ hcut.symm
  have := Nat.mod_add_div (getBytes sent.fileName).length 256
  omega

theorem meta_round_trips_iff (h : Announceable P sent) :
    RoundTrips P onionName sent ↔ (getBytes sent.fileName).length ≤ 255 := by
  constructor
  · intro htrip
    by_contra hlong
    exact not_roundTrips_of_long (by omega) htrip
  · exact roundTrips_of_short h

def picture (fileName : String) : FileTask :=
  .ofBitmap demoPlatform [3] "bob" fileName [1, 2] 1000

theorem meta_round_trips_iff_picture : RoundTrips demoPlatform "alice" (picture "/sdcard/图.png") :=
  (meta_round_trips_iff (announceable_ofBitmap [3] "/sdcard/图.png" 1000 (by decide))).mpr
    (by decide +kernel)

theorem long_name_cut : ¬ ∀ (P : Platform) (onionName : String) (sent : FileTask),
    Announceable P sent → RoundTrips P onionName sent := by
  intro hall
  refine not_roundTrips_of_long ?_ (hall demoPlatform "alice"
    (picture (String.ofList (List.replicate 256 'a')))
    (announceable_ofBitmap [3] _ 1000 (by decide)))
  decide +kernel

end MetaRoundTrip

end TorChat
