import TorChat.Util.Platform

namespace TorChat

open Library (Bytes)

theorem utf8EncodeChar_inj {c c' : Char} {x y : Bytes}
    (h : String.utf8EncodeChar c ++ x = String.utf8EncodeChar c' ++ y) : c = c' := by
  have hdecode (c : Char) (x : Bytes) :
      ByteArray.utf8DecodeChar? (String.utf8EncodeChar c ++ x).toByteArray 0 = some c := by
    rw [List.toByteArray_append]
    exact ByteArray.utf8DecodeChar?_utf8EncodeChar_append
  have hc := hdecode c x
  rw [h, hdecode c' y] at hc
  exact (Option.some.inj hc).symm

theorem getBytes_of_fromUTF8? {b : Bytes} {s : String}
    (h : String.fromUTF8? ⟨b.toArray⟩ = some s) : getBytes s = b := by
  rw [String.fromUTF8?] at h
  split at h
  · rw [← Option.some.inj h]
    exact List.toList_toArray
  · cases h

theorem decodeChar?_spec {b : Bytes} {n : Nat} {c : Char} (h : decodeChar? b n = some c) :
    b.take n = String.utf8EncodeChar c ∧ n = c.utf8Size := by
  rw [decodeChar?] at h
  split at h
  · rename_i c' hchar
    obtain ⟨s, hs, hlist⟩ := Option.map_eq_some_iff.mp hchar
    have hbytes := getBytes_of_fromUTF8? hs
    split at h
    · cases h
    · rename_i hlength
      obtain rfl := Option.some.inj h
      have hs' : s = String.ofList [c'] := by rw [← hlist, String.ofList_toList]
      have htake : b.take n = String.utf8EncodeChar c' := by
        rw [← hbytes, hs', getBytes_ofList, List.flatMap_singleton]
      refine ⟨htake, ?_⟩
      have hsize := congrArg List.length htake
      rw [String.length_utf8EncodeChar, List.length_take] at hsize
      omega
  · cases h

theorem decodeChar?_encoded (c : Char) (rest : Bytes) (n : Nat) :
    decodeChar? (String.utf8EncodeChar c ++ rest) n =
      if n = c.utf8Size then some c else none := by
  have hlength := String.length_utf8EncodeChar c
  split
  · rename_i hn
    have htake : (String.utf8EncodeChar c ++ rest).take n = getBytes (String.ofList [c]) := by
      rw [hn, ← hlength, List.take_left, getBytes_ofList, List.flatMap_singleton]
    have hfrom : String.fromUTF8? ⟨(getBytes (String.ofList [c])).toArray⟩ =
        some (String.ofList [c]) := by
      have hb : (⟨(getBytes (String.ofList [c])).toArray⟩ : ByteArray) =
          (String.ofList [c]).toByteArray := by simp [getBytes]
      rw [hb]
      simp only [String.fromUTF8?, (String.ofList [c]).isValidUTF8, dite_true]
      rfl
    rw [decodeChar?, htake, hfrom, Option.map_some, String.toList_ofList]
    dsimp only
    rw [if_neg]
    rw [List.length_append, hlength]
    omega
  · rename_i hn
    cases hdecode : decodeChar? (String.utf8EncodeChar c ++ rest) n with
    | none => rfl
    | some c' =>
      obtain ⟨htake, hsize⟩ := decodeChar?_spec hdecode
      have hsplit : String.utf8EncodeChar c' ++ (String.utf8EncodeChar c ++ rest).drop n =
          String.utf8EncodeChar c ++ rest := by
        rw [← htake, List.take_append_drop]
      rw [utf8EncodeChar_inj hsplit] at hsize
      exact absurd hsize hn

theorem decodeReplacing_encoded (c : Char) (rest : Bytes) (fuel : Nat) :
    decodeReplacing (fuel + 1) (String.utf8EncodeChar c ++ rest) =
      c :: decodeReplacing fuel rest := by
  have hlength := String.length_utf8EncodeChar c
  have hpos := c.utf8Size_pos
  have hfour := c.utf8Size_le_four
  have hfind : [1, 2, 3, 4].findSome? (fun n =>
      (decodeChar? (String.utf8EncodeChar c ++ rest) n).map (fun c => (c, n))) =
        some (c, c.utf8Size) := by
    simp only [decodeChar?_encoded, List.findSome?_cons, List.findSome?_nil]
    have hcases : c.utf8Size = 1 ∨ c.utf8Size = 2 ∨ c.utf8Size = 3 ∨ c.utf8Size = 4 := by omega
    rcases hcases with h | h | h | h <;> rw [h] <;> rfl
  cases hbytes : String.utf8EncodeChar c ++ rest with
  | nil =>
    have := congrArg List.length hbytes
    rw [List.length_append, hlength, List.length_nil] at this
    omega
  | cons b bs =>
    rw [decodeReplacing]
    · rw [← hbytes, hfind]
      dsimp only
      rw [← hlength, List.drop_left]
    · exact List.cons_ne_nil b bs

theorem malformedLength_pos (b : Bytes) : 1 ≤ malformedLength b := by
  rw [malformedLength.eq_def]
  split
  · split
    · exact le_refl 1
    · split <;> decide
  · exact le_refl 1

-- a character cut off, a surrogate, an overlong start and a byte that begins nothing
example : malformedLength [0xE5, 0x9B] = 2 ∧ malformedLength [0xF0, 0x9F, 0x98, 0x41] = 3 ∧
    malformedLength [0xED, 0xA0, 0x80] = 3 ∧ malformedLength [0xE0, 0x80, 0x80] = 1 ∧
    malformedLength [0xFF, 0xFF] = 1 := by decide

theorem decodeReplacing_length_le (fuel : Nat) (b : Bytes) :
    (decodeReplacing fuel b).length ≤ b.length := by
  induction fuel generalizing b with
  | zero => exact Nat.zero_le _
  | succ fuel ih =>
    cases b with
    | nil => exact Nat.zero_le _
    | cons first rest =>
      rw [decodeReplacing]
      · split
        · rename_i c n hfind
          have hn : 1 ≤ n := by
            obtain ⟨m, hm, hmap⟩ := List.exists_of_findSome?_eq_some hfind
            obtain ⟨c', -, heq⟩ := Option.map_eq_some_iff.mp hmap
            rw [← (Prod.mk.inj heq).2]
            simp at hm
            omega
          have hdrop := ih ((first :: rest).drop n)
          simp only [List.length_drop, List.length_cons] at hdrop ⊢
          omega
        · have hpos := malformedLength_pos (first :: rest)
          have hdrop := ih ((first :: rest).drop (malformedLength (first :: rest)))
          simp only [List.length_drop, List.length_cons] at hdrop ⊢
          omega
      · exact List.cons_ne_nil first rest

theorem encoded_length_le (cs : List Char) :
    (cs.flatMap String.utf8EncodeChar).length ≤ 4 * cs.length := by
  induction cs with
  | nil => exact Nat.zero_le _
  | cons c cs ih =>
    have hfour := c.utf8Size_le_four
    rw [List.flatMap_cons, List.length_append, String.length_utf8EncodeChar, List.length_cons]
    omega

-- a text cut off inside a character: the characters before the cut, then at most three others
theorem decodeReplacing_cut (cs : List Char) (n fuel : Nat) (hfuel : n ≤ fuel)
    (hn : n ≤ (cs.flatMap String.utf8EncodeChar).length) :
    ∃ kept others, decodeReplacing fuel ((cs.flatMap String.utf8EncodeChar).take n) =
      kept ++ others ∧ others.length ≤ 3 ∧
        (kept.flatMap String.utf8EncodeChar).length ≤ n := by
  induction cs generalizing n fuel with
  | nil =>
    have hzero : n = 0 := by simpa using hn
    subst hzero
    refine ⟨[], decodeReplacing fuel [], rfl, ?_, le_refl 0⟩
    exact le_trans (decodeReplacing_length_le fuel []) (by decide)
  | cons c cs ih =>
    have hlength := String.length_utf8EncodeChar c
    have hpos := c.utf8Size_pos
    have hfour := c.utf8Size_le_four
    rw [List.flatMap_cons, List.length_append, hlength] at hn
    rw [List.flatMap_cons]
    by_cases hcut : n < c.utf8Size
    · refine ⟨[], _, (List.nil_append _).symm, ?_, Nat.zero_le n⟩
      refine le_trans (decodeReplacing_length_le fuel _) ?_
      rw [List.length_take]
      omega
    · obtain ⟨fuel, rfl⟩ : ∃ m, fuel = m + 1 := ⟨fuel - 1, by omega⟩
      obtain ⟨kept, others, hdecode, hothers, hkept⟩ :=
        ih (n - c.utf8Size) fuel (by omega) (by omega)
      refine ⟨c :: kept, others, ?_, hothers, ?_⟩
      · rw [List.take_append, hlength, List.take_of_length_le (by omega),
          decodeReplacing_encoded, hdecode, List.cons_append]
      · rw [List.flatMap_cons, List.length_append, hlength]
        omega

theorem newString_cut_ne {s : String} {n : Nat} (h : n + 12 < (getBytes s).length) :
    newString ((getBytes s).take n) ≠ s := by
  intro heq
  rw [newString] at heq
  split at heq
  · rename_i s' hs
    have hbytes := congrArg List.length (getBytes_of_fromUTF8? hs)
    rw [heq, List.length_take] at hbytes
    omega
  · have hs : s = String.ofList s.toList := String.ofList_toList.symm
    have hbytes : getBytes s = s.toList.flatMap String.utf8EncodeChar := by
      rw [← getBytes_ofList, ← hs]
    have hn : n ≤ (s.toList.flatMap String.utf8EncodeChar).length := by
      rw [← hbytes]
      omega
    obtain ⟨kept, others, hdecode, hothers, hkept⟩ := decodeReplacing_cut s.toList n
      ((s.toList.flatMap String.utf8EncodeChar).take n).length
      (by rw [List.length_take]; omega) hn
    rw [hbytes, hdecode] at heq
    have hwhole : s.toList = kept ++ others := by rw [← heq, String.toList_ofList]
    have hsmall := encoded_length_le others
    rw [hbytes, hwhole, List.flatMap_append, List.length_append] at h
    omega

end TorChat
