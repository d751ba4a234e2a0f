import TorChat.Offline.FileExchange

namespace TorChat

namespace Offline

inductive OfflineEvent where
  | sendOfflineText
  | sendOfflineFile
  | sendOfflinePic
  deriving DecidableEq, Repr

structure Posted where
  type : OfflineEvent
  message : String
  peerHostname : String
  deriving DecidableEq, Repr

-- what the request ends in: a body under status 200, any other status, or an exception, which
-- formUpload catches wherever it is thrown
inductive Answer where
  | ok (lines : List String)
  | error
  | exception
  deriving DecidableEq, Repr

namespace Answer

def res : Answer → String
  | ok lines => String.join (lines.map (fun line => line ++ "\n"))
  | error => "错误"
  | exception => ""

end Answer

def seconds (currentTimeMillis : Int) : Int := currentTimeMillis.tdiv 1000

-- a division by zero seconds throws, and the handler only logs it
def formUpload (type : OfflineEvent) (answer : Answer) (fileLength : Nat) (messageID : String)
    (startMillis endMillis : Int) : List Posted :=
  let elapsed := seconds endMillis - seconds startMillis
  if elapsed = 0 then []
  else
    let speed := (fileLength : Int).tdiv elapsed
    if speed > 1024 then
      [⟨type, answer.res, messageID ++ "," ++ toString (speed.tdiv 1024) ++ " KB/s"⟩]
    else [⟨type, answer.res, messageID ++ "," ++ toString speed ++ " b/s"⟩]

def SendOfflineFile.formUpload (answer : Answer) (fileLength : Nat) (messageID : String)
    (startMillis endMillis : Int) : List Posted :=
  Offline.formUpload .sendOfflineFile answer fileLength messageID startMillis endMillis

def SendOfflinePic2.formUpload (answer : Answer) (fileLength : Nat) (messageID : String)
    (startMillis endMillis : Int) : List Posted :=
  Offline.formUpload .sendOfflinePic answer fileLength messageID startMillis endMillis

def NamesMessage (messageID : String) (posted : Posted) : Prop :=
  ∃ speed, posted.peerHostname = messageID ++ "," ++ speed

def ReportsOnce (type : OfflineEvent) (answer : Answer) (messageID : String)
    (events : List Posted) : Prop :=
  ∃ posted, events = [posted] ∧ posted.type = type ∧ posted.message = answer.res ∧
    NamesMessage messageID posted

section Report

variable {type : OfflineEvent} {answer : Answer} {fileLength : Nat} {messageID : String}
  {startMillis endMillis : Int}

theorem formUpload_same_second (h : seconds startMillis = seconds endMillis) :
    formUpload type answer fileLength messageID startMillis endMillis = [] := by
  have hzero : seconds endMillis - seconds startMillis = 0 := by omega
  rw [formUpload]
  exact if_pos hzero

theorem reportsOnce_formUpload (h : seconds startMillis ≠ seconds endMillis) :
    ReportsOnce type answer messageID
      (formUpload type answer fileLength messageID startMillis endMillis) := by
  have hne : seconds endMillis - seconds startMillis ≠ 0 := by omega
  rw [formUpload]
  simp only [hne, if_false]
  split
  · exact ⟨_, rfl, rfl, rfl, _, String.append_assoc⟩
  · exact ⟨_, rfl, rfl, rfl, _, String.append_assoc⟩

theorem reportsOnce_iff : ReportsOnce type answer messageID
    (formUpload type answer fileLength messageID startMillis endMillis) ↔
      seconds startMillis ≠ seconds endMillis := by
  constructor
  · rintro ⟨posted, hevents, _⟩ hsame
    rw [formUpload_same_second hsame] at hevents
    cases hevents
  · exact reportsOnce_formUpload

end Report

theorem uploads_report_once_iff (answer : Answer) (fileLength : Nat) (messageID : String)
    (startMillis endMillis : Int) :
    (ReportsOnce .sendOfflineFile answer messageID
        (SendOfflineFile.formUpload answer fileLength messageID startMillis endMillis) ↔
      seconds startMillis ≠ seconds endMillis) ∧
    (ReportsOnce .sendOfflinePic answer messageID
        (SendOfflinePic2.formUpload answer fileLength messageID startMillis endMillis) ↔
      seconds startMillis ≠ seconds endMillis) :=
  ⟨reportsOnce_iff, reportsOnce_iff⟩

theorem fast_upload_unreported : ¬ ∀ (answer : Answer) (fileLength : Nat) (messageID : String)
    (startMillis endMillis : Int), startMillis ≤ endMillis →
      ReportsOnce .sendOfflineFile answer messageID
        (SendOfflineFile.formUpload answer fileLength messageID startMillis endMillis) := by
  intro hall
  have hreported := hall (.ok ["ok"]) 5000 "4242" 1000 1800 (by decide)
  exact reportsOnce_iff.mp hreported (by decide)

end Offline

end TorChat
