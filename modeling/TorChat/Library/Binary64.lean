import Mathlib

namespace TorChat.Library.Binary64

open Float.Model (Format UnpackedFloat)
open Float.Model.UnpackedFloat (ExtendedMantissa Sign roundWithAccuracy)

section Integers

-- the natural numbers that a double holds exactly
def Held (n : Nat) : Prop := ∃ k j, k < 2 ^ 53 ∧ j ≤ 971 ∧ n = k * 2 ^ j

def mantissa (n : Nat) : Nat := n * 2 ^ (52 - n.log2) / 2 ^ (n.log2 - 52)

def exponent (n : Nat) : Int := n.log2 - 52

-- m * 2 ^ e is the number n
def Stands (m : Nat) (e : Int) (n : Nat) : Prop :=
  ∃ a b : Nat, (a : Int) - b = e ∧ m * 2 ^ a = n * 2 ^ b

variable {m n k : Nat} {e : Int}

theorem held_of_lt (h : n < 2 ^ 53) : Held n := ⟨n, 0, h, by decide, (Nat.mul_one n).symm⟩

theorem log2_mul_pow (hm : m ≠ 0) (k : Nat) : (m * 2 ^ k).log2 = m.log2 + k := by
  induction k with
  | zero => rw [Nat.pow_zero, Nat.mul_one, Nat.add_zero]
  | succ k ih =>
    have hne : m * 2 ^ k ≠ 0 := Nat.mul_ne_zero hm (Nat.two_pow_pos k).ne'
    rw [Nat.pow_succ', Nat.mul_left_comm, Nat.log2_two_mul hne, ih, Nat.add_assoc]

theorem held_log2 (h : Held n) (hn : n ≠ 0) :
    n.log2 ≤ 1023 ∧ 2 ^ (n.log2 - 52) ∣ n := by
  obtain ⟨k, j, hk, hj, rfl⟩ := h
  have hk0 : k ≠ 0 := by
    rintro rfl
    exact hn (Nat.zero_mul _)
  have hlog : k.log2 < 53 := (Nat.log2_lt hk0).mpr hk
  rw [log2_mul_pow hk0]
  exact ⟨by omega, Nat.dvd_trans (Nat.pow_dvd_pow 2 (by omega)) (Nat.dvd_mul_left _ _)⟩

theorem mantissa_mul (h : Held n) (hn : n ≠ 0) :
    mantissa n * 2 ^ (n.log2 - 52) = n * 2 ^ (52 - n.log2) := by
  obtain ⟨_, hdvd⟩ := held_log2 h hn
  rw [mantissa, Nat.div_mul_cancel]
  exact Nat.dvd_trans hdvd (Nat.dvd_mul_right _ _)

theorem mantissa_bounds (hn : n ≠ 0) : 2 ^ 52 ≤ mantissa n ∧ mantissa n < 2 ^ 53 := by
  have hlow := Nat.log2_self_le hn
  have hhigh : n < 2 ^ (n.log2 + 1) := Nat.lt_log2_self
  rw [mantissa, Nat.le_div_iff_mul_le (Nat.two_pow_pos _), Nat.div_lt_iff_lt_mul (Nat.two_pow_pos _),
    ← Nat.pow_add, ← Nat.pow_add]
  have hsplit : 52 + (n.log2 - 52) = n.log2 + (52 - n.log2) := by omega
  have hsplit' : 53 + (n.log2 - 52) = n.log2 + 1 + (52 - n.log2) := by omega
  rw [hsplit, hsplit', Nat.pow_add, Nat.pow_add 2 (n.log2 + 1)]
  exact ⟨Nat.mul_le_mul_right _ hlow, Nat.mul_lt_mul_of_pos_right hhigh (Nat.two_pow_pos _)⟩

theorem mantissa_ne_zero (hn : n ≠ 0) : mantissa n ≠ 0 :=
  (Nat.lt_of_lt_of_le (by decide) (mantissa_bounds hn).1).ne'

theorem log2_mantissa (hn : n ≠ 0) : (mantissa n).log2 = 52 :=
  (Nat.log2_eq_iff (mantissa_ne_zero hn)).mpr (mantissa_bounds hn)

theorem stands_mantissa (h : Held n) (hn : n ≠ 0) : Stands (mantissa n) (exponent n) n := by
  refine ⟨n.log2 - 52, 52 - n.log2, ?_, mantissa_mul h hn⟩
  rw [exponent]
  omega

theorem stands_self (n : Nat) : Stands n 0 n := ⟨0, 0, rfl, rfl⟩

theorem stands_pow (h : Stands m e n) {a b : Nat} (hab : (a : Int) - b = e) :
    m * 2 ^ a = n * 2 ^ b := by
  obtain ⟨a', b', hab', heq⟩ := h
  have hsum : a + b' = a' + b := by omega
  refine Nat.eq_of_mul_eq_mul_right (Nat.two_pow_pos b') ?_
  calc m * 2 ^ a * 2 ^ b' = m * 2 ^ a' * 2 ^ b := by
        rw [Nat.mul_assoc, ← Nat.pow_add, hsum, Nat.pow_add, Nat.mul_assoc]
    _ = n * 2 ^ b * 2 ^ b' := by rw [heq, Nat.mul_right_comm]

theorem stands_shiftLeft (h : Stands m e n) (k : Nat) : Stands (m <<< k) (e - k) n := by
  obtain ⟨a, b, hab, heq⟩ := h
  refine ⟨a, b + k, by omega, ?_⟩
  rw [Nat.shiftLeft_eq, Nat.mul_right_comm, heq, Nat.pow_add, Nat.mul_assoc]

theorem stands_mul {m' n' : Nat} {e' : Int} (h : Stands m e n) (h' : Stands m' e' n') :
    Stands (m * m') (e + e') (n * n') := by
  obtain ⟨a, b, hab, heq⟩ := h
  obtain ⟨a', b', hab', heq'⟩ := h'
  refine ⟨a + a', b + b', by omega, ?_⟩
  rw [Nat.pow_add, Nat.mul_mul_mul_comm, heq, heq', Nat.pow_add, Nat.mul_mul_mul_comm]

theorem stands_log2 (h : Stands m e n) (hm : m ≠ 0) (hn : n ≠ 0) : (m.log2 : Int) + e = n.log2 := by
  obtain ⟨a, b, hab, heq⟩ := h
  have hlog := congrArg Nat.log2 heq
  rw [log2_mul_pow hm, log2_mul_pow hn] at hlog
  omega

theorem stands_unique {m' : Nat} {e' : Int} (h : Stands m e n) (h' : Stands m' e' n) (he : e ≤ e') :
    m = m' * 2 ^ (e' - e).toNat := by
  obtain ⟨a, b, hab, heq⟩ := h
  have heq' : m' * 2 ^ (a + (e' - e).toNat) = n * 2 ^ b := stands_pow h' (by omega)
  refine Nat.eq_of_mul_eq_mul_right (Nat.two_pow_pos a) ?_
  rw [heq, ← heq', Nat.mul_assoc, ← Nat.pow_add, Nat.add_comm a]

theorem ne_zero_of_stands (hm : m ≠ 0) (h : Stands m e n) : n ≠ 0 := by
  obtain ⟨a, b, _, heq⟩ := h
  rintro rfl
  rw [Nat.zero_mul] at heq
  exact Nat.mul_ne_zero hm (Nat.two_pow_pos a).ne' heq

end Integers

section Rounding

variable {m n : Nat} {e : Int} {s : Sign}

def exactly (m : Nat) : ExtendedMantissa := ⟨m, false, false⟩

theorem shiftRight_exactly (m k : Nat) : exactly (m * 2 ^ k) >>> k = exactly m := by
  change k.repeat ExtendedMantissa.shiftRightOne _ = _
  induction k generalizing m with
  | zero => rw [Nat.pow_zero, Nat.mul_one]; rfl
  | succ k ih =>
    rw [Nat.repeat, Nat.pow_succ', ← Nat.mul_assoc, ih, exactly, ExtendedMantissa.shiftRightOne]
    simp [exactly]

theorem targetExponent_eq (hm : m ≠ 0) (hn : n ≠ 0) (h : Stands m e n) :
    Format.binary64.targetExponent (Float.Model.totalExponent m e) = exponent n := by
  have hlog := stands_log2 h hm hn
  rw [Format.targetExponent, Float.Model.totalExponent, exponent]
  have hbits : (Format.binary64.mantissaBits : Int) = 53 := rfl
  have hmin : Format.binary64.minExponent = -1074 := rfl
  rw [hbits, hmin]
  omega

theorem shiftToTargetExponent_eq (hm : m ≠ 0) (hn : n ≠ 0) (hheld : Held n) (h : Stands m e n)
    (he : e ≤ exponent n) :
    Float.Model.UnpackedFloat.shiftToTargetExponent Format.binary64 m e .exact =
      (exactly (mantissa n), exponent n) := by
  rw [Float.Model.UnpackedFloat.shiftToTargetExponent, targetExponent_eq hm hn h,
    Float.Model.UnpackedFloat.shiftToExponent]
  have hshift := stands_unique h (stands_mantissa hheld hn) he
  have hexact : ExtendedMantissa.ofMantissaAndAccuracy m .exact = exactly m := rfl
  rw [hexact, Prod.mk.injEq]
  refine ⟨?_, by omega⟩
  conv_lhs => rw [hshift]
  exact shiftRight_exactly _ _

def integral (s : Sign) (n : Nat) : UnpackedFloat :=
  if h : n = 0 then .zero s
  else .finite s (mantissa n) (exponent n) (Nat.lt_of_lt_of_le (by decide) (mantissa_bounds h).1)

theorem roundWithAccuracy_eq (hm : m ≠ 0) (hheld : Held n) (h : Stands m e n)
    (he : e ≤ exponent n) : roundWithAccuracy Format.binary64 s m e .exact = integral s n := by
  have hn := ne_zero_of_stands hm h
  have hne := mantissa_ne_zero hn
  have hrounded : (exactly (mantissa n)).roundedMantissa = mantissa n := rfl
  rw [roundWithAccuracy, shiftToTargetExponent_eq hm hn hheld h he]
  dsimp only
  rw [hrounded, shiftToTargetExponent_eq hne hn hheld (stands_mantissa hheld hn) (Int.le_refl _)]
  dsimp only
  refine (dif_neg hne).trans ?_
  rw [integral, dif_neg hn]
  rfl

theorem round_eq (hm : m ≠ 0) (hheld : Held n) (h : Stands m e n) :
    UnpackedFloat.round Format.binary64 s m e = integral s n := by
  have hn := ne_zero_of_stands hm h
  rw [UnpackedFloat.round, targetExponent_eq hm hn h, Float.Model.UnpackedFloat.decreaseExponent]
  dsimp only
  have hshifted : m <<< (e - exponent n).toNat ≠ 0 := by
    rw [Nat.shiftLeft_eq]
    exact Nat.mul_ne_zero hm (Nat.two_pow_pos _).ne'
  exact roundWithAccuracy_eq hshifted hheld (stands_shiftLeft h _) (by omega)

theorem decreaseExponent_stands (h : Stands m e n) {e' : Int} (he : e' ≤ e) :
    Stands (Float.Model.UnpackedFloat.decreaseExponent m e e').1 e' n := by
  have hshift := stands_shiftLeft h (e - e').toNat
  have hexponent : e - (e - e').toNat = e' := by omega
  rwa [hexponent] at hshift

end Rounding

section Packing

open Float.Model.UnpackedFloat (packComponents)

variable {n : Nat}

theorem append_mantissa (hn : n ≠ 0) :
    ((1#1 : BitVec 1) ++ BitVec.ofNat 52 (mantissa n)).toNat = mantissa n := by
  obtain ⟨hlow, hhigh⟩ := mantissa_bounds hn
  rw [BitVec.toNat_append, ← Nat.shiftLeft_add_eq_or_of_lt (BitVec.isLt _), BitVec.toNat_ofNat,
    BitVec.toNat_ofNat, Nat.shiftLeft_eq]
  omega

theorem pack_integral (hheld : Held n) (hn : n ≠ 0) (s : Sign) :
    UnpackedFloat.pack Format.binary64 (integral s n) = packComponents Format.binary64 s
      (BitVec.ofNat 11 (n.log2 + 1023)) (BitVec.ofNat 52 (mantissa n)) := by
  obtain ⟨hlog, _⟩ := held_log2 hheld hn
  have hbits : (mantissa n).log2 + 1 = Format.binary64.mantissaBits := by
    rw [log2_mantissa hn]
    rfl
  have hbiased : (exponent n + Format.binary64.exponentBias +
      Format.binary64.mantissaBitsWithoutImplicit).toNat = n.log2 + 1023 := by
    have hbias : (Format.binary64.exponentBias : Int) = 1023 := rfl
    have hplain : (Format.binary64.mantissaBitsWithoutImplicit : Int) = 52 := rfl
    rw [hbias, hplain, exponent]
    omega
  rw [integral, dif_neg hn, Float.Model.UnpackedFloat.pack.eq_def]
  dsimp only
  rw [hbiased, if_neg (by omega), if_pos hbits]

-- neither the exponent of the infinities nor the one of the subnormal numbers
theorem biased_normal {k : Nat} (hk : k ≤ 1023) : (BitVec.ofNat 11 (k + 1023)).toNat = k + 1023 ∧
    BitVec.ofNat 11 (k + 1023) ≠ -1#11 ∧ BitVec.ofNat 11 (k + 1023) ≠ 0#11 := by
  have hexponent : (BitVec.ofNat 11 (k + 1023)).toNat = k + 1023 := by
    rw [BitVec.toNat_ofNat, Nat.mod_eq_of_lt (by omega)]
  refine ⟨hexponent, fun heq => ?_, fun heq => ?_⟩
  · have hall := congrArg BitVec.toNat heq
    rw [hexponent] at hall
    have hlast : (-1#11 : BitVec 11).toNat = 2047 := rfl
    omega
  · have hzero := congrArg BitVec.toNat heq
    rw [hexponent, BitVec.toNat_zero] at hzero
    omega

theorem unpack_pack_integral (hheld : Held n) (s : Sign) :
    (Float.Model.pack (integral s n)).unpack = integral s n := by
  by_cases hn : n = 0
  · subst hn
    cases s with
    | negative => rfl
    | positive => rfl
  · obtain ⟨hexponent, hinfinity, hsubnormal⟩ := biased_normal (held_log2 hheld hn).1
    rw [Float.Model.pack, Float.Model.unpack]
    dsimp only
    rw [pack_integral hheld hn, UnpackedFloat.unpack, integral, dif_neg hn]
    simp only [Float.Model.UnpackedFloat.unpackExponent_packComponents,
      Float.Model.UnpackedFloat.unpackMantissa_packComponents,
      Float.Model.UnpackedFloat.unpackSign_packComponents, Sign.ofBitVec_toBitVec, hinfinity,
      hsubnormal, if_false, hexponent, append_mantissa hn]
    have hbias : (Format.binary64.exponentBias : Int) = 1023 := rfl
    rw [UnpackedFloat.finite.injEq, hbias, exponent]
    exact ⟨rfl, rfl, by omega⟩

end Packing

section Holding

open Float.Model.UnpackedFloat (decreaseExponent divCore)

def signOf (r : Int) : Sign := if r < 0 then .negative else .positive

-- zero is the positive one
structure Holds (x : Float.Model) (r : Int) : Prop where
  held : Held r.natAbs
  unpack : x.unpack = integral (signOf r) r.natAbs

variable {x y : Float.Model} {a b r : Int} {n : Nat}

theorem holds_pack {u : UnpackedFloat} (held : Held r.natAbs)
    (h : u = integral (signOf r) r.natAbs) : Holds (Float.Model.pack u) r :=
  ⟨held, by rw [h]; exact unpack_pack_integral held _⟩

theorem integral_zero : integral (signOf 0) (Int.natAbs 0) = .zero .positive := rfl

theorem integral_of_ne (hr : r ≠ 0) : ∃ h, integral (signOf r) r.natAbs =
    .finite (signOf r) (mantissa r.natAbs) (exponent r.natAbs) h :=
  ⟨_, dif_neg (Int.natAbs_ne_zero.mpr hr)⟩

theorem apply_signOf (r : Int) (m n : Nat) (p q : Nat) (h : m * 2 ^ p = n * 2 ^ q)
    (hn : n = r.natAbs) : (signOf r).apply m * 2 ^ p = r * 2 ^ q := by
  have hcast : (m : Int) * 2 ^ p = (n : Int) * 2 ^ q := by exact_mod_cast h
  rw [signOf]
  split
  · have habs : (n : Int) = -r := by omega
    rw [Sign.apply, Int.neg_mul, hcast, habs, Int.neg_mul, Int.neg_neg]
  · have habs : (n : Int) = r := by omega
    rw [Sign.apply, hcast, habs]

theorem normalize_eq {M : Int} {e : Int} {p q : Nat} (hpq : (p : Int) - q = e)
    (h : M * 2 ^ p = r * 2 ^ q) (held : Held r.natAbs) :
    UnpackedFloat.normalize Format.binary64 M e .positive = integral (signOf r) r.natAbs := by
  have hstands : Stands M.natAbs e r.natAbs := by
    refine ⟨p, q, hpq, ?_⟩
    have habs := congrArg Int.natAbs h
    rwa [Int.natAbs_mul, Int.natAbs_mul, Int.natAbs_pow, Int.natAbs_pow] at habs
  have hpow : ∀ k : Nat, (0 : Int) < 2 ^ k := fun k => Int.pow_pos (by decide)
  rw [UnpackedFloat.normalize]
  rcases Int.lt_trichotomy M 0 with hneg | rfl | hpos
  · have hr : r < 0 := by
      by_contra hr
      have hleft := Int.mul_neg_of_neg_of_pos hneg (hpow p)
      have hright := Int.mul_nonneg (Int.not_lt.mp hr) (Int.le_of_lt (hpow q))
      omega
    have habs : (-M).toNat = M.natAbs := by omega
    rw [Int.compare_eq_lt.mpr hneg, signOf, if_pos hr]
    dsimp only
    rw [habs]
    exact round_eq (by omega) held hstands
  · have hr : r = 0 := by
      rw [Int.zero_mul] at h
      exact (Int.mul_eq_zero.mp h.symm).resolve_right (Int.ne_of_gt (hpow q))
    rw [hr]
    rfl
  · have hr : 0 < r := by
      by_contra hr
      have hleft := Int.mul_pos hpos (hpow p)
      have hright := Int.mul_nonpos_of_nonpos_of_nonneg (Int.not_lt.mp hr) (Int.le_of_lt (hpow q))
      omega
    have habs : M.toNat = M.natAbs := by omega
    rw [Int.compare_eq_gt.mpr hpos, signOf, if_neg (by omega)]
    dsimp only
    rw [habs]
    exact round_eq (by omega) held hstands

-- both mantissas at the smaller exponent
theorem aligned (ha : a ≠ 0) (hb : b ≠ 0) (helda : Held a.natAbs) (heldb : Held b.natAbs) :
    ∃ p q : Nat, (p : Int) - q = min (exponent a.natAbs) (exponent b.natAbs) ∧
      (signOf a).apply (decreaseExponent (mantissa a.natAbs) (exponent a.natAbs)
        (min (exponent a.natAbs) (exponent b.natAbs))).1 * 2 ^ p = a * 2 ^ q ∧
      (signOf b).apply (decreaseExponent (mantissa b.natAbs) (exponent b.natAbs)
        (min (exponent a.natAbs) (exponent b.natAbs))).1 * 2 ^ p = b * 2 ^ q := by
  have hstands := decreaseExponent_stands (stands_mantissa helda (Int.natAbs_ne_zero.mpr ha))
    (Int.min_le_left (exponent a.natAbs) (exponent b.natAbs))
  have hstands' := decreaseExponent_stands (stands_mantissa heldb (Int.natAbs_ne_zero.mpr hb))
    (Int.min_le_right (exponent a.natAbs) (exponent b.natAbs))
  obtain ⟨p, q, hpq, heq⟩ := hstands
  exact ⟨p, q, hpq, apply_signOf a _ _ p q heq rfl, apply_signOf b _ _ p q (stands_pow hstands' hpq) rfl⟩

theorem signOf_natCast (n : Nat) : signOf n = .positive := if_neg (by omega)

theorem neg_signOf (hb : b ≠ 0) : -signOf b = signOf (0 - b) := by
  rw [signOf, signOf]
  split
  · rw [if_neg (by omega)]
    rfl
  · rw [if_pos (by omega)]
    rfl

theorem holds_add (hx : Holds x a) (hy : Holds y b) (held : Held (a + b).natAbs) :
    Holds (x + y) (a + b) := by
  refine holds_pack held ?_
  rw [hx.unpack, hy.unpack]
  by_cases ha : a = 0
  · subst ha
    rw [integral_zero, Int.zero_add]
    by_cases hb : b = 0
    · subst hb
      rfl
    · obtain ⟨_, hfinite⟩ := integral_of_ne hb
      rw [hfinite]
      rfl
  · by_cases hb : b = 0
    · subst hb
      obtain ⟨_, hfinite⟩ := integral_of_ne ha
      rw [integral_zero, Int.add_zero, hfinite]
      rfl
    · obtain ⟨_, hfinite⟩ := integral_of_ne ha
      obtain ⟨_, hfinite'⟩ := integral_of_ne hb
      obtain ⟨p, q, hpq, heq, heq'⟩ := aligned ha hb hx.held hy.held
      rw [hfinite, hfinite']
      refine normalize_eq hpq ?_ held
      rw [Int.add_mul, Int.add_mul]
      exact congrArg₂ (· + ·) heq heq'

theorem holds_sub (hx : Holds x a) (hy : Holds y b) (held : Held (a - b).natAbs) :
    Holds (x - y) (a - b) := by
  refine holds_pack held ?_
  rw [hx.unpack, hy.unpack]
  by_cases hb : b = 0
  · subst hb
    rw [integral_zero, Int.sub_zero]
    by_cases ha : a = 0
    · subst ha
      rfl
    · obtain ⟨_, hfinite⟩ := integral_of_ne ha
      rw [hfinite]
      rfl
  · obtain ⟨_, hfinite'⟩ := integral_of_ne hb
    by_cases ha : a = 0
    · subst ha
      rw [integral_zero, hfinite', ← neg_signOf hb, Int.zero_sub, Int.natAbs_neg, integral,
        dif_neg (Int.natAbs_ne_zero.mpr hb)]
      rfl
    · obtain ⟨_, hfinite⟩ := integral_of_ne ha
      obtain ⟨p, q, hpq, heq, heq'⟩ := aligned ha hb hx.held hy.held
      rw [hfinite, hfinite']
      refine normalize_eq hpq ?_ held
      rw [Int.sub_mul, Int.sub_mul]
      exact congrArg₂ (· - ·) heq heq'

theorem holds_mul {a b : Nat} (hx : Holds x a) (hy : Holds y b) (held : Held (a * b)) :
    Holds (x * y) ((a * b : Nat) : Int) := by
  refine holds_pack held ?_
  rw [hx.unpack, hy.unpack]
  by_cases ha : a = 0
  · subst ha
    rw [Nat.zero_mul]
    by_cases hb : b = 0
    · subst hb
      rfl
    · obtain ⟨_, hfinite⟩ := integral_of_ne (Int.natCast_ne_zero.mpr hb)
      rw [hfinite, signOf_natCast]
      rfl
  · obtain ⟨_, hfinite⟩ := integral_of_ne (Int.natCast_ne_zero.mpr ha)
    by_cases hb : b = 0
    · subst hb
      rw [hfinite, signOf_natCast, Nat.mul_zero]
      rfl
    · obtain ⟨_, hfinite'⟩ := integral_of_ne (Int.natCast_ne_zero.mpr hb)
      have hmantissa := Nat.mul_ne_zero (mantissa_ne_zero ha) (mantissa_ne_zero hb)
      have hlog : a.log2 + b.log2 ≤ (a * b).log2 := by
        rw [Nat.le_log2 (Nat.mul_ne_zero ha hb), Nat.pow_add]
        exact Nat.mul_le_mul (Nat.log2_self_le ha) (Nat.log2_self_le hb)
      rw [hfinite, hfinite', signOf_natCast, signOf_natCast, signOf_natCast]
      refine roundWithAccuracy_eq hmantissa held
        (stands_mul (stands_mantissa hx.held ha) (stands_mantissa hy.held hb)) ?_
      rw [exponent, exponent, exponent, Int.natAbs_natCast, Int.natAbs_natCast, Int.natAbs_natCast]
      omega

theorem mul_finite (s s' : Sign) (m m' : Nat) (e e' : Int) (h : 0 < m) (h' : 0 < m') :
    UnpackedFloat.mul Format.binary64 (.finite s m e h) (.finite s' m' e' h') =
      roundWithAccuracy Format.binary64 (s * s') (m * m') (e + e') .exact := rfl

theorem div_finite (s s' : Sign) (m m' : Nat) (e e' : Int) (h : 0 < m) (h' : 0 < m') :
    UnpackedFloat.div Format.binary64 (.finite s m e h) (.finite s' m' e' h') =
      roundWithAccuracy Format.binary64 (s / s') (divCore Format.binary64 m e m' e').1
        (divCore Format.binary64 m e m' e').2.1 (divCore Format.binary64 m e m' e').2.2 := rfl

theorem holds_ofScientific (held : Held n) : Holds (Float.Model.ofScientific n 0) n := by
  refine holds_pack held ?_
  rw [UnpackedFloat.ofScientific, signOf_natCast, Int.natAbs_natCast]
  by_cases hn : n = 0
  · rw [dif_pos hn, hn]
    rfl
  · have hbig : ¬ ((0 : Int) > 2 ^ Format.binary64.exponentBits) := by decide
    have hsmall : ¬ ((0 : Int) < -((2 ^ Format.binary64.exponentBits : Int) + n.log2)) := by
      have hbits : (2 ^ Format.binary64.exponentBits : Int) = 2048 := rfl
      rw [hbits]
      omega
    have hmantissa : (n <<< Format.binary64.mantissaBits) * 10 ^ (0 : Int).toNat =
        n <<< Format.binary64.mantissaBits := Nat.mul_one _
    rw [dif_neg hn, if_neg hbig, if_neg hsmall, if_pos (Int.le_refl 0), mul_finite, hmantissa,
      Int.add_zero]
    refine roundWithAccuracy_eq ?_ held ?_ ?_
    · rw [Nat.shiftLeft_eq]
      exact Nat.mul_ne_zero hn (Nat.two_pow_pos _).ne'
    · have hstands := stands_shiftLeft (stands_self n) Format.binary64.mantissaBits
      rwa [Int.zero_sub] at hstands
    · have hbits : (Format.binary64.mantissaBits : Int) = 53 := rfl
      rw [hbits, exponent]
      omega

theorem divCore_tenths (hn : n ≠ 0) : ∃ k : Nat, divCore Format.binary64 (n * 10) 0 10 0 =
    (n <<< k, -(k : Int), .exact) ∧ -(k : Int) ≤ exponent n := by
  have hlog : (n * 10).log2 < n.log2 + 5 := by
    rw [Nat.log2_lt (by omega)]
    have hhigh : n < 2 ^ (n.log2 + 1) := Nat.lt_log2_self
    rw [Nat.pow_add] at hhigh ⊢
    omega
  have htarget : Format.binary64.targetExponent (Float.Model.totalExponent (n * 10) 0 -
      Float.Model.totalExponent 10 0) ≤ exponent n := by
    have hbits : (Format.binary64.mantissaBits : Int) = 53 := rfl
    have hmin : Format.binary64.minExponent = -1074 := rfl
    have hten : (10 : Nat).log2 = 3 := by decide
    rw [Format.targetExponent, Float.Model.totalExponent, Float.Model.totalExponent, exponent, hbits,
      hmin, hten]
    omega
  rw [divCore]
  generalize Format.binary64.targetExponent (Float.Model.totalExponent (n * 10) 0 -
    Float.Model.totalExponent 10 0) = target at htarget
  refine ⟨(-(min 0 target)).toNat, ?_, by omega⟩
  have hshift : ((0 : Int) - 0 - min (0 - 0) target).toNat = (-(min 0 target)).toNat := by omega
  have hdvd : (n * 10) <<< (-(min 0 target)).toNat = n <<< (-(min 0 target)).toNat * 10 := by
    rw [Nat.shiftLeft_eq, Nat.shiftLeft_eq, Nat.mul_right_comm]
  rw [hshift, hdvd, Nat.mul_div_cancel _ (by decide), Nat.mul_mod_left, Prod.mk.injEq, Prod.mk.injEq]
  exact ⟨rfl, by omega, rfl⟩

-- one digit behind the point, and it is zero
theorem holds_ofTenths (held : Held n) : Holds (Float.Model.ofScientific (n * 10) (-1)) n := by
  refine holds_pack held ?_
  rw [UnpackedFloat.ofScientific, signOf_natCast, Int.natAbs_natCast]
  by_cases hn : n = 0
  · rw [hn]
    rfl
  · have hten : n * 10 ≠ 0 := by omega
    have hbits : (2 ^ Format.binary64.exponentBits : Int) = 2048 := rfl
    rw [dif_neg hten, if_neg (by rw [hbits]; omega), if_neg (by rw [hbits]; omega),
      if_neg (by decide)]
    have hpow : 10 ^ (-(-1 : Int)).toNat = 10 := rfl
    obtain ⟨k, hcore, hk⟩ := divCore_tenths hn
    rw [div_finite, hpow, hcore]
    refine roundWithAccuracy_eq ?_ held ?_ hk
    · rw [Nat.shiftLeft_eq]
      exact Nat.mul_ne_zero hn (Nat.two_pow_pos k).ne'
    · have hstands := stands_shiftLeft (stands_self n) k
      rwa [Int.zero_sub] at hstands

end Holding

end TorChat.Library.Binary64
