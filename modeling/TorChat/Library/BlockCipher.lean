import TorChat.Library.ByteString

namespace TorChat.Library

section Frames

variable {α : Type}

def blocks (size : Nat) : Nat → List α → List (List α)
  | 0, _ => []
  | n + 1, xs => xs.take size :: blocks size n (xs.drop size)

def frames (size : Nat) (xs : List α) : List (List α) := blocks size (xs.length / size) xs

@[simp] theorem blocks_length (size n : Nat) (xs : List α) : (blocks size n xs).length = n := by
  induction n generalizing xs with
  | zero => rfl
  | succ n ih => rw [blocks, List.length_cons, ih]

@[simp] theorem frames_length (size : Nat) (xs : List α) :
    (frames size xs).length = xs.length / size := blocks_length ..

theorem blocks_append {size : Nat} (n m : Nat) {xs ys : List α} (h : xs.length = n * size) :
    blocks size (n + m) (xs ++ ys) = blocks size n xs ++ blocks size m ys := by
  induction n generalizing xs with
  | zero =>
    rw [Nat.zero_mul, List.length_eq_zero_iff] at h
    subst h
    rw [Nat.zero_add]
    rfl
  | succ n ih =>
    rw [Nat.succ_mul] at h
    have hdrop : (xs.drop size).length = n * size := by
      rw [List.length_drop]
      omega
    rw [Nat.add_right_comm, blocks, blocks, List.take_append_of_le_length (by omega),
      List.drop_append_of_le_length (by omega), ih hdrop, List.cons_append]

theorem frames_append {size : Nat} (hs : 0 < size) {xs ys : List α} (h : size ∣ xs.length) :
    frames size (xs ++ ys) = frames size xs ++ frames size ys := by
  obtain ⟨n, hn⟩ := h
  have hdiv : xs.length / size = n := by rw [hn, Nat.mul_div_cancel_left n hs]
  have hsum : (xs ++ ys).length / size = n + ys.length / size := by
    rw [List.length_append, hn, Nat.mul_add_div hs]
  rw [frames, frames, frames, hsum, hdiv]
  exact blocks_append n _ (by rw [hn, Nat.mul_comm])

theorem frames_self {size : Nat} (hs : 0 < size) {xs : List α} (h : xs.length = size) :
    frames size xs = [xs] := by
  rw [frames, h, Nat.div_self hs, blocks, blocks, ← h, List.take_length]

theorem flatten_length {size : Nat} {bs : List (List α)} (h : ∀ b ∈ bs, b.length = size) :
    bs.flatten.length = bs.length * size := by
  induction bs with
  | nil => simp
  | cons b bs ih =>
    rw [List.flatten_cons, List.length_append, h b List.mem_cons_self,
      ih (fun b' hb' => h b' (List.mem_cons_of_mem b hb')), List.length_cons, Nat.succ_mul,
      Nat.add_comm]

theorem frames_flatten {size : Nat} (hs : 0 < size) {bs : List (List α)}
    (h : ∀ b ∈ bs, b.length = size) : frames size bs.flatten = bs := by
  induction bs with
  | nil => simp [frames, blocks]
  | cons b bs ih =>
    have hb := h b List.mem_cons_self
    rw [List.flatten_cons, frames_append hs (by rw [hb]), frames_self hs hb,
      ih (fun b' hb' => h b' (List.mem_cons_of_mem b hb')), List.singleton_append]

theorem flatten_blocks {size n : Nat} {xs : List α} (h : xs.length = n * size) :
    (blocks size n xs).flatten = xs := by
  induction n generalizing xs with
  | zero =>
    rw [Nat.zero_mul, List.length_eq_zero_iff] at h
    subst h
    rfl
  | succ n ih =>
    rw [Nat.succ_mul] at h
    rw [blocks, List.flatten_cons, ih (by rw [List.length_drop]; omega), List.take_append_drop]

theorem flatten_frames {size : Nat} {xs : List α} (h : size ∣ xs.length) :
    (frames size xs).flatten = xs :=
  flatten_blocks (Nat.div_mul_cancel h).symm

theorem length_of_mem_blocks {size n : Nat} {xs b : List α} (h : n * size ≤ xs.length)
    (hb : b ∈ blocks size n xs) : b.length = size := by
  induction n generalizing xs with
  | zero => exact absurd hb List.not_mem_nil
  | succ n ih =>
    rw [Nat.succ_mul] at h
    rcases List.mem_cons.mp hb with rfl | hrest
    · rw [List.length_take]
      omega
    · exact ih (by rw [List.length_drop]; omega) hrest

theorem length_of_mem_frames {size : Nat} {xs b : List α} (hb : b ∈ frames size xs) :
    b.length = size :=
  length_of_mem_blocks (Nat.div_mul_le_self _ _) hb

end Frames

section Padding

def padCount (size length : Nat) : Nat := size - length % size

def pad (size : Nat) (xs : Bytes) : Bytes :=
  xs ++ List.replicate (padCount size xs.length) (UInt8.ofNat (padCount size xs.length))

def unpad (size : Nat) (xs : Bytes) : Option Bytes :=
  match xs.getLast? with
  | none => some []
  | some last =>
      if 0 < last.toNat ∧ last.toNat ≤ size ∧ last.toNat ≤ xs.length ∧
          xs.drop (xs.length - last.toNat) = List.replicate last.toNat last then
        some (xs.take (xs.length - last.toNat))
      else none

theorem padCount_bounds {size : Nat} (hs : 0 < size) (length : Nat) :
    0 < padCount size length ∧ padCount size length ≤ size := by
  have hmod := Nat.mod_lt length hs
  rw [padCount]
  omega

theorem pad_length {size : Nat} (hs : 0 < size) (xs : Bytes) :
    (pad size xs).length = (xs.length / size + 1) * size := by
  have hmod := Nat.mod_lt xs.length hs
  have hdiv := Nat.div_add_mod xs.length size
  rw [pad, List.length_append, List.length_replicate, padCount, Nat.succ_mul, Nat.mul_comm]
  omega

theorem unpad_pad {size : Nat} (hs : 0 < size) (hsize : size < 256) (xs : Bytes) :
    unpad size (pad size xs) = some xs := by
  obtain ⟨hpos, hle⟩ := padCount_bounds hs xs.length
  have hbyte : (UInt8.ofNat (padCount size xs.length)).toNat = padCount size xs.length := by
    rw [UInt8.toNat_ofNat', Nat.mod_eq_of_lt (by omega)]
  have hlast : (pad size xs).getLast? = some (UInt8.ofNat (padCount size xs.length)) := by
    rw [pad, List.getLast?_append, List.getLast?_replicate, if_neg (by omega), Option.some_or]
  have hlength : (pad size xs).length - padCount size xs.length = xs.length := by
    rw [pad, List.length_append, List.length_replicate, Nat.add_sub_cancel]
  have hdrop : (pad size xs).drop xs.length = List.replicate (padCount size xs.length)
      (UInt8.ofNat (padCount size xs.length)) := by
    rw [pad, List.drop_left]
  have htake : (pad size xs).take xs.length = xs := by rw [pad, List.take_left]
  have hcount : padCount size xs.length ≤ (pad size xs).length := by
    rw [pad, List.length_append, List.length_replicate]
    omega
  rw [unpad, hlast]
  dsimp only
  rw [hbyte, hlength, hdrop, htake, if_pos ⟨hpos, hle, hcount, rfl⟩]

theorem unpad_length_lt {size : Nat} {xs ys : Bytes} (hne : xs ≠ [])
    (h : unpad size xs = some ys) : ys.length < xs.length := by
  rw [unpad] at h
  split at h
  · rename_i hlast
    exact absurd (List.getLast?_eq_none_iff.mp hlast) hne
  · split at h
    · rename_i hvalid
      have hpos : 0 < xs.length := List.length_pos_iff.mpr hne
      obtain rfl := Option.some.inj h
      rw [List.length_take]
      omega
    · cases h

end Padding

def xorBytes (xs ys : Bytes) : Bytes := List.zipWith (· ^^^ ·) xs ys

theorem xorBytes_length {size : Nat} {xs ys : Bytes} (hx : xs.length = size)
    (hy : ys.length = size) : (xorBytes xs ys).length = size := by
  rw [xorBytes, List.length_zipWith, hx, hy, Nat.min_self]

theorem xorBytes_cancel {xs ys : Bytes} (h : xs.length = ys.length) :
    xorBytes xs (xorBytes xs ys) = ys := by
  induction xs generalizing ys with
  | nil =>
    rw [List.length_nil] at h
    rw [List.length_eq_zero_iff.mp h.symm]
    rfl
  | cons x xs ih =>
    cases ys with
    | nil => cases h
    | cons y ys =>
      have hbyte : x ^^^ (x ^^^ y) = y := by rw [← UInt8.xor_assoc, UInt8.xor_self, UInt8.zero_xor]
      have hrest := ih (Nat.succ.inj h)
      simp only [xorBytes, List.zipWith_cons_cons, hbyte, List.cons.injEq, true_and] at hrest ⊢
      exact hrest

structure BlockCipher (size : Nat) where
  encipher : Bytes → Bytes → Bytes
  decipher : Bytes → Bytes → Bytes
  encipher_length : ∀ key block, block.length = size → (encipher key block).length = size
  decipher_length : ∀ key block, block.length = size → (decipher key block).length = size
  decipher_encipher : ∀ key block, block.length = size → decipher key (encipher key block) = block

namespace BlockCipher

variable {size : Nat} (C : BlockCipher size) (key : Bytes)

def cbcEncrypt : Bytes → List Bytes → List Bytes
  | _, [] => []
  | chain, block :: rest =>
      C.encipher key (xorBytes chain block) ::
        cbcEncrypt (C.encipher key (xorBytes chain block)) rest

def cbcDecrypt : Bytes → List Bytes → List Bytes
  | _, [] => []
  | chain, block :: rest => xorBytes chain (C.decipher key block) :: cbcDecrypt block rest

def encrypt (iv plain : Bytes) : Bytes :=
  (C.cbcEncrypt key iv (frames size (pad size plain))).flatten

def decrypt (iv encrypted : Bytes) : Option Bytes :=
  if size ∣ encrypted.length then
    unpad size (C.cbcDecrypt key iv (frames size encrypted)).flatten
  else none

@[simp] theorem cbcEncrypt_length (chain : Bytes) (bs : List Bytes) :
    (C.cbcEncrypt key chain bs).length = bs.length := by
  induction bs generalizing chain with
  | nil => rfl
  | cons b bs ih => rw [cbcEncrypt, List.length_cons, ih, List.length_cons]

@[simp] theorem cbcDecrypt_length (chain : Bytes) (bs : List Bytes) :
    (C.cbcDecrypt key chain bs).length = bs.length := by
  induction bs generalizing chain with
  | nil => rfl
  | cons b bs ih => rw [cbcDecrypt, List.length_cons, ih, List.length_cons]

theorem length_of_mem_cbcEncrypt {chain : Bytes} {bs : List Bytes} (hchain : chain.length = size)
    (hbs : ∀ b ∈ bs, b.length = size) : ∀ b ∈ C.cbcEncrypt key chain bs, b.length = size := by
  induction bs generalizing chain with
  | nil => exact fun b hb => absurd hb List.not_mem_nil
  | cons block rest ih =>
    have hfirst := C.encipher_length key _
      (xorBytes_length hchain (hbs block List.mem_cons_self))
    intro b hb
    rcases List.mem_cons.mp hb with rfl | hrest
    · exact hfirst
    · exact ih hfirst (fun b' hb' => hbs b' (List.mem_cons_of_mem block hb')) b hrest

theorem length_of_mem_cbcDecrypt {chain : Bytes} {bs : List Bytes} (hchain : chain.length = size)
    (hbs : ∀ b ∈ bs, b.length = size) : ∀ b ∈ C.cbcDecrypt key chain bs, b.length = size := by
  induction bs generalizing chain with
  | nil => exact fun b hb => absurd hb List.not_mem_nil
  | cons block rest ih =>
    have hblock := hbs block List.mem_cons_self
    intro b hb
    rcases List.mem_cons.mp hb with rfl | hrest
    · exact xorBytes_length hchain (C.decipher_length key block hblock)
    · exact ih hblock (fun b' hb' => hbs b' (List.mem_cons_of_mem block hb')) b hrest

theorem cbcDecrypt_cbcEncrypt {chain : Bytes} {bs : List Bytes} (hchain : chain.length = size)
    (hbs : ∀ b ∈ bs, b.length = size) :
    C.cbcDecrypt key chain (C.cbcEncrypt key chain bs) = bs := by
  induction bs generalizing chain with
  | nil => rfl
  | cons block rest ih =>
    have hblock := hbs block List.mem_cons_self
    have hxor := xorBytes_length hchain hblock
    rw [cbcEncrypt, cbcDecrypt, C.decipher_encipher key _ hxor,
      xorBytes_cancel (hchain.trans hblock.symm),
      ih (C.encipher_length key _ hxor) (fun b hb => hbs b (List.mem_cons_of_mem block hb))]

theorem encrypt_length (hs : 0 < size) {iv : Bytes} (hiv : iv.length = size) (plain : Bytes) :
    (C.encrypt key iv plain).length = (plain.length / size + 1) * size := by
  rw [encrypt, flatten_length (C.length_of_mem_cbcEncrypt key hiv
    (fun b hb => length_of_mem_frames hb)), cbcEncrypt_length, frames_length, pad_length hs,
    Nat.mul_div_cancel _ hs]

theorem decrypt_encrypt (hs : 0 < size) (hsize : size < 256) {iv : Bytes}
    (hiv : iv.length = size) (plain : Bytes) :
    C.decrypt key iv (C.encrypt key iv plain) = some plain := by
  have hpadded : size ∣ (pad size plain).length := by
    rw [pad_length hs]
    exact Nat.dvd_mul_left _ _
  have hframes : frames size (C.encrypt key iv plain) =
      C.cbcEncrypt key iv (frames size (pad size plain)) :=
    frames_flatten hs (C.length_of_mem_cbcEncrypt key hiv (fun b hb => length_of_mem_frames hb))
  have hdvd : size ∣ (C.encrypt key iv plain).length := by
    rw [C.encrypt_length key hs hiv]
    exact Nat.dvd_mul_left _ _
  rw [decrypt, if_pos hdvd, hframes, C.cbcDecrypt_cbcEncrypt key hiv
    (fun b hb => length_of_mem_frames hb), flatten_frames hpadded, unpad_pad hs hsize]

theorem decrypt_length_lt {iv encrypted plain : Bytes} (hiv : iv.length = size)
    (hne : encrypted ≠ []) (h : C.decrypt key iv encrypted = some plain) :
    plain.length < encrypted.length := by
  rw [decrypt] at h
  split at h
  · rename_i hdvd
    have hlength : (C.cbcDecrypt key iv (frames size encrypted)).flatten.length =
        encrypted.length := by
      rw [flatten_length (C.length_of_mem_cbcDecrypt key hiv
        (fun b hb => length_of_mem_frames hb)), cbcDecrypt_length, frames_length,
        Nat.div_mul_cancel hdvd]
    rw [← hlength]
    refine unpad_length_lt ?_ h
    intro hnil
    rw [hnil, List.length_nil] at hlength
    exact hne (List.length_eq_zero_iff.mp hlength.symm)
  · cases h

def ecbEncrypt (plain : Bytes) : Bytes :=
  ((frames size (pad size plain)).map (C.encipher key)).flatten

def ecbDecrypt (encrypted : Bytes) : Option Bytes :=
  if size ∣ encrypted.length then
    unpad size ((frames size encrypted).map (C.decipher key)).flatten
  else none

theorem length_of_mem_map {f : Bytes → Bytes} (hf : ∀ b, b.length = size → (f b).length = size)
    {xs : Bytes} : ∀ b ∈ (frames size xs).map f, b.length = size := by
  intro b hb
  obtain ⟨block, hblock, rfl⟩ := List.mem_map.mp hb
  exact hf block (length_of_mem_frames hblock)

theorem ecbEncrypt_length (hs : 0 < size) (plain : Bytes) :
    (C.ecbEncrypt key plain).length = (plain.length / size + 1) * size := by
  rw [ecbEncrypt, flatten_length (length_of_mem_map (C.encipher_length key)), List.length_map,
    frames_length, pad_length hs, Nat.mul_div_cancel _ hs]

theorem ecbDecrypt_ecbEncrypt (hs : 0 < size) (hsize : size < 256) (plain : Bytes) :
    C.ecbDecrypt key (C.ecbEncrypt key plain) = some plain := by
  have hpadded : size ∣ (pad size plain).length := by
    rw [pad_length hs]
    exact Nat.dvd_mul_left _ _
  have hdvd : size ∣ (C.ecbEncrypt key plain).length := by
    rw [C.ecbEncrypt_length key hs]
    exact Nat.dvd_mul_left _ _
  have hblocks : ((frames size (pad size plain)).map (C.encipher key)).map (C.decipher key) =
      frames size (pad size plain) := by
    rw [List.map_map]
    refine (List.map_congr_left ?_).trans (List.map_id _)
    intro block hblock
    exact C.decipher_encipher key block (length_of_mem_frames hblock)
  rw [ecbDecrypt, if_pos hdvd, ecbEncrypt,
    frames_flatten hs (length_of_mem_map (C.encipher_length key)), hblocks,
    flatten_frames hpadded, unpad_pad hs hsize]

theorem ecbDecrypt_length_le {encrypted plain : Bytes}
    (h : C.ecbDecrypt key encrypted = some plain) : plain.length ≤ encrypted.length := by
  rw [ecbDecrypt] at h
  split at h
  · rename_i hdvd
    have hlength : ((frames size encrypted).map (C.decipher key)).flatten.length =
        encrypted.length := by
      rw [flatten_length (length_of_mem_map (C.decipher_length key)), List.length_map,
        frames_length, Nat.div_mul_cancel hdvd]
    rw [← hlength]
    by_cases hnil : ((frames size encrypted).map (C.decipher key)).flatten = []
    · rw [hnil] at h
      obtain rfl := Option.some.inj h
      exact Nat.zero_le _
    · exact Nat.le_of_lt (unpad_length_lt hnil h)
  · cases h

end BlockCipher

end TorChat.Library
