import TorChat.Library.Latest
import TorChat.Util.KeyState
import Mathlib.Data.Prod.Lex

namespace TorChat

open Library (later latest keysOf)

namespace RecordXOR

-- a larger file name comes later; the index counts back from the end of the file
def endPointer (record : RecordXOR) : ℕ ×ₗ ℕᵒᵈ :=
  toLex (record.endFileName, OrderDual.toDual record.endFileIndex)

variable {record other : RecordXOR}

theorem endPointer_le_iff : record.endPointer ≤ other.endPointer ↔
    record.endFileName < other.endFileName ∨
      record.endFileName = other.endFileName ∧ other.endFileIndex ≤ record.endFileIndex :=
  Prod.Lex.le_iff

end RecordXOR

namespace XORutil

open RecordXOR (endPointer)

def changed (commonRecordXOR recordXOR : RecordXOR) : RecordXOR :=
  if changecommonRecordXOR commonRecordXOR recordXOR then recordXOR else commonRecordXOR

def changedAll (commonRecordXOR : RecordXOR) (recordXORs : List RecordXOR) : RecordXOR :=
  recordXORs.foldl changed commonRecordXOR

theorem changecommonRecordXOR_iff (common record : RecordXOR) :
    changecommonRecordXOR common record = true ↔ common.endPointer ≤ record.endPointer := by
  rw [RecordXOR.endPointer_le_iff, changecommonRecordXOR]
  split
  · rename_i hlt
    simp [hlt]
  · rename_i hnot
    split
    · rename_i heq
      simp [heq]
    · rename_i hne
      simp [hnot, hne]

theorem changed_eq_later : changed = later endPointer := by
  funext common record
  simp only [changed, later, changecommonRecordXOR_iff]

theorem changedAll_eq_latest (common : RecordXOR) (records : List RecordXOR) :
    changedAll common records = latest endPointer common records := by
  rw [changedAll, changed_eq_later]
  rfl

theorem records_converge (common : RecordXOR) (records reordered : List RecordXOR)
    (h : ∀ record, record ∈ reordered ↔ record ∈ records) :
    (changedAll common reordered).endPointer = (changedAll common records).endPointer ∧
      IsGreatest (keysOf endPointer common records)
        (changedAll common reordered).endPointer := by
  rw [changedAll_eq_latest, changedAll_eq_latest, Library.key_latest_congr endPointer common h]
  exact ⟨rfl, Library.isGreatest_latest endPointer common records⟩

theorem records_converge_twice :
    (changedAll {} [⟨1, 1, 1, 9, none⟩, ⟨1, 1, 1, 4, none⟩, ⟨1, 1, 1, 9, none⟩]).endPointer =
        (changedAll {} [⟨1, 1, 1, 4, none⟩, ⟨1, 1, 1, 9, none⟩]).endPointer ∧
      IsGreatest (keysOf endPointer {} [⟨1, 1, 1, 4, none⟩, ⟨1, 1, 1, 9, none⟩])
        (changedAll {} [⟨1, 1, 1, 9, none⟩, ⟨1, 1, 1, 4, none⟩, ⟨1, 1, 1, 9, none⟩]).endPointer :=
  records_converge {} [⟨1, 1, 1, 4, none⟩, ⟨1, 1, 1, 9, none⟩]
    [⟨1, 1, 1, 9, none⟩, ⟨1, 1, 1, 4, none⟩, ⟨1, 1, 1, 9, none⟩] (by simp [or_comm, or_left_comm])

end XORutil

end TorChat
