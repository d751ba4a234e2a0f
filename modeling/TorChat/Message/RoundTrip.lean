import TorChat.Message.Message
import Mathlib.Tactic.Ring

namespace TorChat.Message

open Library

variable (P : Platform) (amb : Ambient) {messageType messageID : Nat}
  {internalPayload pointers : Bytes} {length : Nat}

@[simp] theorem createMessageHeader_length (n t i : Nat) :
    (createMessageHeader amb n t i).length = 13 := by
  simp [createMessageHeader, Constant.applicationId]

@[simp] theorem hashed_length (messageType messageID : Nat) (internalPayload : Bytes) :
    (hashed P amb messageType messageID internalPayload).length =
      13 + internalPayload.length + 20 := by
  simp only [hashed, List.length_append, createMessageHeader_length, P.sha1_length]

theorem hashed_append (messageType messageID : Nat) (internalPayload tail : Bytes) :
    hashed P amb messageType messageID internalPayload ++ tail =
      createMessageHeader amb internalPayload.length messageType messageID ++
        (internalPayload ++
          (P.sha1 (createMessageHeader amb internalPayload.length messageType messageID ++
            internalPayload) ++ tail)) := by
  simp only [hashed, List.append_assoc]

theorem externalPayload_eq (messageType messageID : Nat) (internalPayload pointers : Bytes)
    (length : Nat) :
    ∃ rest, externalPayload P amb messageType messageID internalPayload pointers length =
      hashed P amb messageType messageID internalPayload ++ (pointers ++ rest) := by
  refine ⟨AESCrypto.paddingToLength amb
    (hashed P amb messageType messageID internalPayload ++ pointers) length, ?_⟩
  simp only [externalPayload, List.append_assoc]

theorem externalPayload_length
    (h : 13 + internalPayload.length + 20 + pointers.length ≤ length) :
    (externalPayload P amb messageType messageID internalPayload pointers length).length =
      length := by
  simp only [externalPayload, List.length_append, hashed_length,
    AESCrypto.paddingToLength_length]
  omega

theorem header_messageID (n t i : Nat) :
    subBytes (createMessageHeader amb n t i) 6 4 = some (beBytes 4 i) := by
  have h : createMessageHeader amb n t i =
      (Constant.applicationId ++ beBytes 4 amb.utcTimestamp) ++
        (beBytes 4 i ++ (beBytes 1 t ++ beBytes 2 n)) := by
    simp only [createMessageHeader, List.append_assoc]
  rw [h]
  exact slice?_middle (by simp [Constant.applicationId]) (by simp)

theorem header_messageType (n t i : Nat) :
    subBytes (createMessageHeader amb n t i) 10 1 = some (beBytes 1 t) := by
  have h : createMessageHeader amb n t i =
      (Constant.applicationId ++ beBytes 4 amb.utcTimestamp ++ beBytes 4 i) ++
        (beBytes 1 t ++ beBytes 2 n) := by
    simp only [createMessageHeader, List.append_assoc]
  rw [h]
  exact slice?_middle (by simp [Constant.applicationId]) (by simp)

theorem header_payloadLength (n t i : Nat) :
    subBytes (createMessageHeader amb n t i) 11 2 = some (beBytes 2 n) := by
  have h : createMessageHeader amb n t i =
      (Constant.applicationId ++ beBytes 4 amb.utcTimestamp ++ beBytes 4 i ++ beBytes 1 t) ++
        (beBytes 2 n ++ []) := by
    simp only [createMessageHeader, List.append_assoc, List.append_nil]
  rw [h]
  exact slice?_middle (by simp [Constant.applicationId]) (by simp)

section Hashed

variable (tail : Bytes)

theorem subBytes_hashed_header {i n : Nat} (h : i + n ≤ 13) :
    subBytes (hashed P amb messageType messageID internalPayload ++ tail) i n =
      subBytes (createMessageHeader amb internalPayload.length messageType messageID) i n := by
  rw [hashed_append]
  exact slice?_append_left (by rw [createMessageHeader_length]; exact h)

theorem parseMessageType_hashed (h : messageType < 256) :
    parseMessageType (hashed P amb messageType messageID internalPayload ++ tail) =
      some messageType := by
  rw [parseMessageType, Constant.byteMessageTypeBegin, subBytes_hashed_header P amb tail
    (by omega), header_messageType, Option.bind_some]
  exact parseInt16_beBytes (by omega) (by omega) (by omega)

theorem parseMessageID_hashed (h : messageID < 2 ^ 31) :
    parseMessageID (hashed P amb messageType messageID internalPayload ++ tail) =
      some messageID := by
  rw [parseMessageID, Constant.byteMessageTimestampBegin, subBytes_hashed_header P amb tail
    (by omega), header_messageID, Option.bind_some]
  exact parseInt16_beBytes (by omega) (by omega) h

theorem payloadLength_hashed (h : internalPayload.length < 65536) :
    payloadLength (hashed P amb messageType messageID internalPayload ++ tail) =
      some internalPayload.length := by
  rw [payloadLength, Constant.bytePayloadLengthBegin, subBytes_hashed_header P amb tail
    (by omega), header_payloadLength, Option.bind_some]
  exact parseInt16_beBytes (by omega) (by omega) (by omega)

theorem parseExternalPaylod_hashed (h : internalPayload.length < 65536) :
    parseExternalPaylod P (hashed P amb messageType messageID internalPayload ++ tail) =
      some internalPayload := by
  have hinternal : subBytes (hashed P amb messageType messageID internalPayload ++ tail)
      Constant.byteInternalPayloadBegin internalPayload.length = some internalPayload := by
    rw [hashed_append]
    exact slice?_middle (createMessageHeader_length ..) rfl
  have hcell14 : subBytes (hashed P amb messageType messageID internalPayload ++ tail) 0
      (Constant.byteInternalPayloadBegin + internalPayload.length) =
        some (createMessageHeader amb internalPayload.length messageType messageID ++
          internalPayload) := by
    rw [hashed_append, ← List.append_assoc]
    exact slice?_prefix (by
      simp only [List.length_append, createMessageHeader_length,
        Constant.byteInternalPayloadBegin])
  have hhash : subBytes (hashed P amb messageType messageID internalPayload ++ tail)
      (Constant.byteInternalPayloadBegin + internalPayload.length) 20 =
        some (P.sha1 (createMessageHeader amb internalPayload.length messageType messageID ++
          internalPayload)) := by
    rw [hashed_append, ← List.append_assoc]
    exact slice?_middle (by
      simp only [List.length_append, createMessageHeader_length,
        Constant.byteInternalPayloadBegin]) (P.sha1_length _)
  rw [parseExternalPaylod, payloadLength_hashed P amb tail h]
  simp only [Option.bind_eq_bind, Option.bind_some, hinternal, hcell14, hhash, if_true]

theorem pointerAt_hashed (h : internalPayload.length < 65536) (offset count : Nat) :
    pointerAt (hashed P amb messageType messageID internalPayload ++ tail) offset count =
      (subBytes tail offset count).bind parseInt16 := by
  have hslice : subBytes (hashed P amb messageType messageID internalPayload ++ tail)
      (Constant.byteInternalPayloadBegin + internalPayload.length + Constant.byteExternalHash +
        offset) count = subBytes tail offset count := by
    have hlength := hashed_length P amb messageType messageID internalPayload
    rw [subBytes, slice?_append_right (by
      rw [hlength, Constant.byteInternalPayloadBegin, Constant.byteExternalHash]
      omega), hlength, Constant.byteInternalPayloadBegin, Constant.byteExternalHash,
      Nat.add_sub_cancel_left, subBytes]
  rw [pointerAt, payloadLength_hashed P amb tail h]
  simp only [Option.bind_eq_bind, Option.bind_some, hslice]

end Hashed

theorem parseMessageType_externalPayload (h : messageType < 256) :
    parseMessageType
      (externalPayload P amb messageType messageID internalPayload pointers length) =
        some messageType := by
  obtain ⟨rest, hrest⟩ :=
    externalPayload_eq P amb messageType messageID internalPayload pointers length
  rw [hrest, parseMessageType_hashed P amb _ h]

theorem parseMessageID_externalPayload (h : messageID < 2 ^ 31) :
    parseMessageID
      (externalPayload P amb messageType messageID internalPayload pointers length) =
        some messageID := by
  obtain ⟨rest, hrest⟩ :=
    externalPayload_eq P amb messageType messageID internalPayload pointers length
  rw [hrest, parseMessageID_hashed P amb _ h]

theorem parseExternalPaylod_externalPayload (h : internalPayload.length < 65536) :
    parseExternalPaylod P
      (externalPayload P amb messageType messageID internalPayload pointers length) =
        some internalPayload := by
  obtain ⟨rest, hrest⟩ :=
    externalPayload_eq P amb messageType messageID internalPayload pointers length
  rw [hrest, parseExternalPaylod_hashed P amb _ h]

theorem payloadLength_le {n : Nat}
    (h : payloadLength (externalPayload P amb messageType messageID internalPayload pointers
      length) = some n) : n ≤ internalPayload.length := by
  obtain ⟨rest, hrest⟩ :=
    externalPayload_eq P amb messageType messageID internalPayload pointers length
  rw [hrest, payloadLength, Constant.bytePayloadLengthBegin, subBytes_hashed_header P amb _
    (by omega), header_payloadLength, Option.bind_some, parseInt16, beNat_beBytes] at h
  split at h
  · have hn := Option.some.inj h
    rw [← hn]
    exact Nat.mod_le _ _
  · cases h

theorem parseExternalPaylod_prefix {read : Bytes}
    (h : parseExternalPaylod P (externalPayload P amb messageType messageID internalPayload
      pointers length) = some read) : read <+: internalPayload := by
  simp only [parseExternalPaylod, Option.bind_eq_bind, Option.bind_eq_some_iff, ite_self,
    Option.some.injEq] at h
  obtain ⟨n, hn, read, hread, -, -, -, -, rfl⟩ := h
  have hle := payloadLength_le P amb hn
  obtain ⟨rest, hrest⟩ :=
    externalPayload_eq P amb messageType messageID internalPayload pointers length
  have hheader : (createMessageHeader amb internalPayload.length messageType messageID).length =
      Constant.byteInternalPayloadBegin := createMessageHeader_length amb _ _ _
  rw [hrest, hashed_append, subBytes, slice?_append_right hheader.le, hheader, Nat.sub_self,
    slice?_append_left (by omega)] at hread
  obtain ⟨-, rfl⟩ := slice?_eq_some hread
  exact List.take_prefix n _

theorem pointerAt_externalPayload {offset count : Nat} (h : internalPayload.length < 65536)
    (hp : offset + count ≤ pointers.length) :
    pointerAt (externalPayload P amb messageType messageID internalPayload pointers length)
      offset count = (subBytes pointers offset count).bind parseInt16 := by
  obtain ⟨rest, hrest⟩ :=
    externalPayload_eq P amb messageType messageID internalPayload pointers length
  rw [hrest, pointerAt_hashed P amb _ h, subBytes, slice?_append_left hp, subBytes]

end TorChat.Message
