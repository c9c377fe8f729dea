import Mathlib.Algebra.Group.Nat.Defs
import SpriteBlocks.Decimal.Binary
import SpriteBlocks.Stage.Sprite

/-!
# Truncation

A double that is made a number of 32 bits loses its fraction and is held between
the bounds. Here this is said of the exact value that its bits stand for. A
number of 32 bits that is made a double stands for itself.
-/
namespace SpriteBlocks
namespace Decimal
open Float.Model UnpackedFloat

/-- The whole part of a number above zero; none below. -/
def Reading.whole : Reading → Nat
  | .finite false b => b.numerator 0 / b.denominator 0
  | _ => 0

def readUnpacked : UnpackedFloat → Reading
  | .notANumber => .notANumber
  | .infinity s => .infinite (s == .negative)
  | .zero s => .finite (s == .negative) ⟨0, minExponent⟩
  | .finite s m e _ => .finite (s == .negative) ⟨m, e⟩

theorem readUnpacked_finite (s : Sign) (m : Nat) (e : Int) (hm : 0 < m) :
    readUnpacked (.finite s m e hm) = .finite (s == .negative) ⟨m, e⟩ := rfl

section Fields
variable (b : BitVec Format.binary64.numBits)

theorem toNat_unpackMantissa : (unpackMantissa b).toNat = b.toNat % Nat.pow 2 52 := by
  rw [unpackMantissa, BitVec.toNat_cast, BitVec.extractLsb_toNat]
  rfl

theorem toNat_unpackExponent :
    (unpackExponent b).toNat = b.toNat / Nat.pow 2 52 % Nat.pow 2 11 := by
  rw [unpackExponent, BitVec.toNat_cast, BitVec.extractLsb_toNat, Nat.shiftRight_eq_div_pow]
  rfl

theorem ofBitVec_unpackSign :
    (Sign.ofBitVec (unpackSign b) == .negative) = decide (Nat.pow 2 63 ≤ b.toNat) := by
  have hsign : (unpackSign b).toNat = b.toNat / Nat.pow 2 63 := by
    change (b.extractLsb 63 63).toNat = _
    rw [BitVec.extractLsb_toNat, Nat.shiftRight_eq_div_pow]
    exact Nat.mod_eq_of_lt (Nat.div_lt_of_lt_mul b.isLt)
  have hzero : unpackSign b = 0#1 ↔ b.toNat < Nat.pow 2 63 := by
    rw [BitVec.toNat_eq, hsign]
    exact Nat.div_eq_zero_iff_lt (by decide)
  by_cases hb : b.toNat < Nat.pow 2 63
  · rw [Sign.ofBitVec, if_pos (hzero.2 hb), decide_eq_false (Nat.not_le_of_lt hb)]
    rfl
  · rw [Sign.ofBitVec, if_neg (mt hzero.1 hb), decide_eq_true (Nat.le_of_not_lt hb)]
    rfl

theorem unpack_eq_infinity (hones : unpackExponent b = -1#_) (hempty : unpackMantissa b = 0#_) :
    UnpackedFloat.unpack .binary64 b = .infinity (Sign.ofBitVec (unpackSign b)) :=
  (if_pos hones).trans (if_pos hempty)

theorem unpack_eq_notANumber (hones : unpackExponent b = -1#_) (hempty : unpackMantissa b ≠ 0#_) :
    UnpackedFloat.unpack .binary64 b = .notANumber :=
  (if_pos hones).trans (if_neg hempty)

theorem unpack_eq_zero (hones : unpackExponent b ≠ -1#_) (hleast : unpackExponent b = 0#_)
    (hempty : unpackMantissa b = 0#_) :
    UnpackedFloat.unpack .binary64 b = .zero (Sign.ofBitVec (unpackSign b)) :=
  (if_neg hones).trans ((if_pos hleast).trans (dif_pos hempty))

theorem unpack_eq_subnormal (hones : unpackExponent b ≠ -1#_) (hleast : unpackExponent b = 0#_)
    (hempty : unpackMantissa b ≠ 0#_) : ∃ hpos, UnpackedFloat.unpack .binary64 b =
      .finite (Sign.ofBitVec (unpackSign b)) (unpackMantissa b).toNat
        ((unpackExponent b).toNat - 1075 + 1) hpos :=
  ⟨_, (if_neg hones).trans ((if_pos hleast).trans (dif_neg hempty))⟩

theorem unpack_eq_normal (hones : unpackExponent b ≠ -1#_) (hleast : unpackExponent b ≠ 0#_) :
    ∃ hpos, UnpackedFloat.unpack .binary64 b =
      .finite (Sign.ofBitVec (unpackSign b)) (1#1 ++ unpackMantissa b).toNat
        ((unpackExponent b).toNat - 1075) hpos :=
  ⟨_, (if_neg hones).trans (if_neg hleast)⟩

end Fields

/-- A normal double has one bit more than its pattern shows. -/
theorem toNat_implicit (fraction : BitVec 52) :
    (1#1 ++ fraction).toNat = fraction.toNat + Nat.pow 2 52 := by
  rw [BitVec.toNat_append, ← Nat.shiftLeft_add_eq_or_of_lt fraction.isLt, Nat.add_comm]
  rfl

/-- The bits of a double say what the unpacked double stands for. -/
theorem read_eq (x : Float) : read x = readUnpacked x.toModel.unpack := by
  let b : BitVec Format.binary64.numBits := x.toModel.toBits.toBitVec
  have hmantissa := toNat_unpackMantissa b
  have hexponent := toNat_unpackExponent b
  have hones : unpackExponent b = -1#_ ↔ b.toNat / Nat.pow 2 52 % Nat.pow 2 11 = 2047 := by
    rw [BitVec.toNat_eq, hexponent]
    rfl
  have hleast : unpackExponent b = 0#_ ↔ b.toNat / Nat.pow 2 52 % Nat.pow 2 11 = 0 := by
    rw [BitVec.toNat_eq, hexponent]
    rfl
  have hempty : unpackMantissa b = 0#_ ↔ b.toNat % Nat.pow 2 52 = 0 := by
    rw [BitVec.toNat_eq, hmantissa]
    rfl
  have himplicit : (1#1 ++ unpackMantissa b).toNat = b.toNat % Nat.pow 2 52 + Nat.pow 2 52 :=
    (toNat_implicit _).trans (congrArg (· + Nat.pow 2 52) hmantissa)
  change read x = readUnpacked (UnpackedFloat.unpack Format.binary64 b)
  have hread : x.toBits.toNat = b.toNat := rfl
  simp only [read, hread, ← hones, ← hleast, ← hempty, ← ofBitVec_unpackSign]
  by_cases hspecial : unpackExponent b = -1#_
  · rw [if_pos hspecial]
    by_cases hzero : unpackMantissa b = 0#_
    · rw [unpack_eq_infinity b hspecial hzero, if_pos hzero]
      rfl
    · rw [unpack_eq_notANumber b hspecial hzero, if_neg hzero]
      rfl
  · rw [if_neg hspecial]
    by_cases hsmall : unpackExponent b = 0#_
    · rw [if_pos hsmall]
      by_cases hzero : unpackMantissa b = 0#_
      · rw [unpack_eq_zero b hspecial hsmall hzero, hempty.1 hzero]
        rfl
      · obtain ⟨_, hunpack⟩ := unpack_eq_subnormal b hspecial hsmall hzero
        rw [hunpack, readUnpacked_finite, hmantissa, hsmall]
        rfl
    · obtain ⟨_, hunpack⟩ := unpack_eq_normal b hspecial hsmall
      rw [if_neg hsmall, hunpack, readUnpacked_finite, himplicit, hexponent]

theorem whole_finite (m : Nat) (e : Int) :
    (Reading.finite false ⟨m, e⟩).whole = m * 2 ^ e.toNat / 2 ^ (-e).toNat := by
  change m * 2 ^ e.toNat * 1 / (2 ^ (-e).toNat * 1) = _
  rw [Nat.mul_one, Nat.mul_one]

theorem whole_zero : (readUnpacked (.zero .positive)).whole = 0 := by
  refine (whole_finite 0 minExponent).trans ?_
  rw [Nat.zero_mul, Nat.zero_div]

theorem mantissa_shiftRight (em : ExtendedMantissa) (k : Nat) :
    (em >>> k).mantissa = em.mantissa / 2 ^ k := by
  induction k with
  | zero => exact (Nat.div_one _).symm
  | succ k ih =>
    change (em >>> k).mantissa / 2 = _
    rw [ih, Nat.div_div_eq_div_mul, Nat.pow_succ]

theorem roundToInt_positive (m : Nat) (e : Int) :
    roundToInt .positive m e = (m * 2 ^ e.toNat / 2 ^ (-e).toNat : Nat) := by
  have hshift : (0 - (e - ((e - 0).toNat : Int))).toNat = (-e).toNat := by omega
  simp only [roundToInt, decreaseExponent, shiftToExponent, Sign.apply, mantissa_shiftRight, hshift]
  rw [Int.sub_zero, Nat.shiftLeft_eq]
  rfl

theorem toNat_ofNatClamp (n : Nat) : (UInt32.ofNatClamp n).toNat = min n 4294967295 := by
  by_cases hn : n < UInt32.size
  · rw [UInt32.toNat_ofNatClamp_of_lt hn]
    exact (Nat.min_eq_left (Nat.le_of_lt_succ hn)).symm
  · rw [UInt32.toNat_ofNatClamp_of_le (Nat.le_of_not_lt hn)]
    exact (Nat.min_eq_right (Nat.le_of_lt (Nat.le_of_not_lt hn))).symm

theorem toNat_toUInt32_unpacked {u : UnpackedFloat} (hu : u.isFinite = true) :
    u.toUInt32.toNat = min (readUnpacked u).whole 4294967295 := by
  rw [UnpackedFloat.toUInt32, toNat_ofNatClamp]
  congr 1
  cases u with
  | notANumber => cases hu
  | infinity s => cases hu
  | zero s =>
    cases s with
    | negative => rfl
    | positive => exact whole_zero.symm
  | finite s m e hm =>
    cases s with
    | negative => exact Int.toNat_neg_natCast _
    | positive =>
      change (roundToInt .positive m e).toNat = (Reading.finite false ⟨m, e⟩).whole
      rw [roundToInt_positive, whole_finite, Int.toNat_natCast]

theorem lt_iff (x y : Float) : x < y ↔ x.toModel.unpack.lt y.toModel.unpack = true := by
  change decide (x.toModel < y.toModel) = true ↔ _
  exact decide_eq_true_iff

theorem unpack_zero : (0.0 : Float).toModel.unpack = .zero .positive := rfl

theorem unpack_largest : (4294967295.0 : Float).toModel.unpack =
    .finite .positive (4294967295 * 2 ^ 21) (-21) (by decide) := rfl

/-- A normal double has all bits of its significand; the others have the least exponent. -/
theorem normal_of_read {x : Float} {negative : Bool} {b : Binary}
    (h : read x = .finite negative b) : b.exponent = minExponent ∨ 2 ^ 52 ≤ b.significand := by
  simp only [read] at h
  split at h
  · split at h <;> cases h
  · split at h
    · cases h
      exact .inl rfl
    · cases h
      exact .inr (Nat.le_add_left _ _)

/-- Above the largest number of 32 bits the whole part is no smaller. -/
theorem whole_of_largest_lt {x : Float} (h : 4294967295.0 < x) (hx : x.isFinite = true) :
    4294967295 ≤ (read x).whole := by
  rw [lt_iff, unpack_largest] at h
  have hread := read_eq x
  change x.toModel.unpack.isFinite = true at hx
  cases hu : x.toModel.unpack with rw [hu] at h hx hread
  | notANumber => cases hx
  | infinity s => cases hx
  | zero s => cases h
  | finite s m e hm =>
    cases s with
    | negative => cases h
    | positive =>
      have hnormal : e = minExponent ∨ 2 ^ 52 ≤ m := normal_of_read hread
      change read x = .finite false ⟨m, e⟩ at hread
      rw [hread, whole_finite, Nat.le_div_iff_mul_le (Nat.two_pow_pos _)]
      have horder : -21 < e ∨ -21 = e ∧ 4294967295 * 2 ^ 21 < m := by
        have hcompare := Option.some.inj (eq_of_beq h)
        rwa [Ordering.then_eq_lt, Int.compare_eq_lt, Int.compare_eq_eq, Nat.compare_eq_lt]
          at hcompare
      rcases horder with he | ⟨rfl, hlt⟩
      · -- The exponent is not the least one, so no bit of the significand is missing.
        have hbits : 2 ^ 52 ≤ m := hnormal.resolve_left (by unfold minExponent; omega)
        calc 4294967295 * 2 ^ (-e).toNat ≤ 2 ^ 32 * 2 ^ 20 :=
              Nat.mul_le_mul (by decide) (Nat.pow_le_pow_right (by decide) (by omega))
          _ ≤ m := hbits
          _ ≤ m * 2 ^ e.toNat := Nat.le_mul_of_pos_right m (Nat.two_pow_pos _)
      · exact Nat.le_trans (Nat.le_of_lt hlt) (Nat.le_of_eq (Nat.mul_one m).symm)

theorem whole_of_neg {x : Float} (h : x < 0.0) : (read x).whole = 0 := by
  rw [lt_iff, unpack_zero] at h
  rw [read_eq]
  cases hu : x.toModel.unpack with rw [hu] at h
  | notANumber => rfl
  | infinity s => rfl
  | zero s => cases h
  | finite s m e hm =>
    cases s with
    | negative => rfl
    | positive => cases h

/-- A number that is held between the bounds of 32 bits and made one of 32 bits
is its whole part, held between the bounds. -/
theorem toNat_toUInt32_clamp {x : Float} (hx : x.isFinite = true) :
    (Sprite.clamp 0.0 4294967295.0 x).toUInt32.toNat = min (read x).whole 4294967295 := by
  simp only [Sprite.clamp]
  by_cases hneg : x < 0.0
  · rw [if_pos hneg, whole_of_neg hneg]
    rfl
  · rw [if_neg hneg]
    by_cases hlarge : 4294967295.0 < x
    · rw [if_pos hlarge, Nat.min_eq_right (whole_of_largest_lt hlarge hx)]
      rfl
    · rw [if_neg hlarge, read_eq]
      exact toNat_toUInt32_unpacked hx

theorem log2_mul_two_pow {m : Nat} (hm : m ≠ 0) (j : Nat) : (m * 2 ^ j).log2 = m.log2 + j := by
  induction j with
  | zero => rw [Nat.pow_zero, Nat.mul_one, Nat.add_zero]
  | succ j ih =>
    have hne : m * 2 ^ j ≠ 0 := Nat.mul_ne_zero hm (Nat.pos_iff_ne_zero.1 (Nat.two_pow_pos j))
    rw [Nat.pow_succ, ← Nat.mul_assoc, Nat.mul_comm _ 2, Nat.log2_two_mul hne, ih, Nat.add_assoc]

/-- No bit is lost if those shifted out are zero. -/
theorem shiftRight_mul_two_pow (m j : Nat) :
    (⟨m * 2 ^ j, false, false⟩ : ExtendedMantissa) >>> j = ⟨m, false, false⟩ := by
  induction j generalizing m with
  | zero => rw [Nat.pow_zero, Nat.mul_one]; rfl
  | succ j ih =>
    change ((⟨m * 2 ^ (j + 1), false, false⟩ : ExtendedMantissa) >>> j).shiftRightOne = _
    rw [Nat.pow_succ', ← Nat.mul_assoc, ih]
    simp [ExtendedMantissa.shiftRightOne]

theorem targetExponent_eq (t : Int) :
    Format.binary64.targetExponent t = max (t - 53) minExponent := rfl

/-- The topmost bit of a double is its sign. -/
theorem ofBitVec_unpackSign_packComponents (s : Sign) (e : BitVec 11) (m : BitVec 52) :
    Sign.ofBitVec (unpackSign (packComponents .binary64 s e m)) = s := by
  have htop : unpackSign (packComponents .binary64 s e m) = s.toBitVec := by
    change (s.toBitVec ++ e ++ m).extractLsb' 63 1 = s.toBitVec
    rw [BitVec.extractLsb'_append_eq_of_le (by decide),
      BitVec.extractLsb'_append_eq_of_le (by decide)]
    exact BitVec.extractLsb'_eq_self
  rw [htop]
  cases s <;> rfl

section Exact
variable {m : Nat} {e : Int} (hm : m.log2 = 52) (he : minExponent ≤ e)
include hm he

theorem shiftToTargetExponent_exact (j : Nat) :
    shiftToTargetExponent .binary64 (m * 2 ^ j) (e - j) .exact = (⟨m, false, false⟩, e) := by
  have hne : m ≠ 0 := by
    rintro rfl
    cases hm
  have htarget : Format.binary64.targetExponent (totalExponent (m * 2 ^ j) (e - j)) = e := by
    rw [totalExponent, log2_mul_two_pow hne, hm, targetExponent_eq]
    omega
  have hshift : (e - (e - (j : Int))).toNat = j := by omega
  have hback : e - (j : Int) + j = e := by omega
  simp only [shiftToTargetExponent, htarget, shiftToExponent, hshift, hback,
    ExtendedMantissa.ofMantissaAndAccuracy, shiftRight_mul_two_pow]

/-- A number that a double can hold is rounded to itself. -/
theorem roundWithAccuracy_exact (s : Sign) (hpos : 0 < m) (j : Nat) :
    roundWithAccuracy .binary64 s (m * 2 ^ j) (e - j) .exact = .finite s m e hpos := by
  have hagain : shiftToTargetExponent .binary64 m e .exact = (⟨m, false, false⟩, e) := by
    simpa using shiftToTargetExponent_exact hm he 0
  have hrounded : (⟨m, false, false⟩ : ExtendedMantissa).roundedMantissa = m := rfl
  rw [roundWithAccuracy, shiftToTargetExponent_exact hm he]
  dsimp only
  rw [hrounded, hagain]
  exact dif_neg (Nat.pos_iff_ne_zero.1 hpos)

/-- A number that a double can hold is read as it was written. -/
theorem unpack_pack (he' : e ≤ 971) (s : Sign) (hpos : 0 < m) :
    (Float.Model.pack (.finite s m e hpos)).unpack = .finite s m e hpos := by
  unfold minExponent at he
  -- The exponent as the bits have it: neither zero nor all ones.
  obtain ⟨b, hb⟩ : ∃ b : Nat, e + 1075 = b := Int.eq_ofNat_of_zero_le (by omega)
  have hbiased : (e + Format.binary64.exponentBias +
      Format.binary64.mantissaBitsWithoutImplicit).toNat = b := by
    change (e + 1023 + 52).toNat = b
    omega
  have hpacked : UnpackedFloat.pack .binary64 (.finite s m e hpos) =
      packComponents .binary64 s (BitVec.ofNat 11 b) (BitVec.ofNat 52 m) := by
    rw [← hbiased]
    refine (if_neg ?_).trans (if_pos (congrArg (· + 1) hm))
    change ¬ 2 ^ 11 ≤ (e + 1023 + 52).toNat + 1
    omega
  change UnpackedFloat.unpack .binary64 (UnpackedFloat.pack .binary64 (.finite s m e hpos)) = _
  rw [hpacked]
  have hnat : (BitVec.ofNat 11 b).toNat = b := by
    rw [BitVec.toNat_ofNat]
    omega
  have hones : ¬ BitVec.ofNat 11 b = -1#11 := fun heq => by
    have hb' : (BitVec.ofNat 11 b).toNat = 2047 := by rw [heq]; rfl
    omega
  have hleast : ¬ BitVec.ofNat 11 b = 0#11 := fun heq => by
    have hb' : (BitVec.ofNat 11 b).toNat = 0 := by rw [heq]; rfl
    omega
  have himplicit : (1#1 ++ BitVec.ofNat 52 m).toNat = m := by
    have hbounds := (Nat.log2_eq_iff (Nat.pos_iff_ne_zero.1 hpos)).1 hm
    rw [toNat_implicit, BitVec.toNat_ofNat]
    change m % 2 ^ 52 + 2 ^ 52 = m
    omega
  obtain ⟨_, hunpack⟩ := unpack_eq_normal (packComponents .binary64 s (BitVec.ofNat 11 b)
    (BitVec.ofNat 52 m)) (by rwa [unpackExponent_packComponents])
    (by rwa [unpackExponent_packComponents])
  rw [hunpack, UnpackedFloat.finite.injEq, ofBitVec_unpackSign_packComponents,
    unpackMantissa_packComponents, unpackExponent_packComponents]
  exact ⟨rfl, himplicit, by omega⟩

end Exact

section Natural
variable {k : Nat} (hk : 0 < k) (hlarge : k < 2 ^ 53)

include hk in
theorem scaled_pos : 0 < k * 2 ^ (52 - k.log2) := Nat.mul_pos hk (Nat.two_pow_pos _)

/-- The literal one by which the conversion of natural numbers multiplies. -/
theorem unpack_one : Float.exactlyRepresentablePowersOfTen[0].toModel.unpack =
    .finite .positive (2 ^ 52) (-52) (by decide) := rfl

include hlarge

/-- The conversion goes by way of the words of 64 bits. -/
theorem ofNat_eq_mul : Float.ofNat k =
    .ofModel (.ofNat k) * Float.exactlyRepresentablePowersOfTen[0] := by
  have hword : k.toUInt64.toNat = k := UInt64.toNat_ofNat_of_lt' (by
    change k < 2 ^ 64
    omega)
  have hfactor : k.toUInt64.toFloat = .ofModel (.ofNat k) :=
    congrArg (fun n => Float.ofModel (.ofNat n)) hword
  rw [← hfactor]
  change Float.ofScientific k false 0 = _
  rw [Float.ofScientific, dif_pos ⟨hlarge, Nat.zero_le _⟩]
  simp only [Bool.false_eq_true, if_false]

include hk

theorem log2_le : k.log2 ≤ 52 :=
  Nat.le_of_lt_succ ((Nat.log2_lt (Nat.pos_iff_ne_zero.1 hk)).2 hlarge)

theorem log2_scaled : (k * 2 ^ (52 - k.log2)).log2 = 52 := by
  have hlog := log2_le hk hlarge
  rw [log2_mul_two_pow (Nat.pos_iff_ne_zero.1 hk)]
  omega

theorem ofNat_unpacked : UnpackedFloat.ofNat .binary64 k =
    .finite .positive (k * 2 ^ (52 - k.log2)) (k.log2 - 52) (scaled_pos hk) := by
  have hlog := log2_le hk hlarge
  have hsign : compare (k : Int) 0 = .gt := Int.compare_eq_gt.2 (by omega)
  have htarget : Format.binary64.targetExponent (totalExponent k 0) = k.log2 - 52 := by
    rw [totalExponent, targetExponent_eq, minExponent]
    omega
  have hshift : (0 - ((k.log2 : Int) - 52)).toNat = 52 - k.log2 := by omega
  have hexponent : (0 : Int) - (52 - k.log2 : Nat) = k.log2 - 52 := by omega
  -- Scaled up the number has all bits, and none is left to be rounded.
  have hexact := roundWithAccuracy_exact (log2_scaled hk hlarge) (e := (k.log2 : Int) - 52)
    (by unfold minExponent; omega) .positive (scaled_pos hk) 0
  rw [Nat.pow_zero, Nat.mul_one, Int.natCast_zero, Int.sub_zero] at hexact
  have hround : UnpackedFloat.round .binary64 .positive k 0 =
      roundWithAccuracy .binary64 .positive (k * 2 ^ (52 - k.log2)) (k.log2 - 52) .exact := by
    simp only [UnpackedFloat.round, htarget, decreaseExponent, hshift, hexponent, Nat.shiftLeft_eq]
  rw [UnpackedFloat.ofNat, UnpackedFloat.ofInt, UnpackedFloat.normalize, hsign]
  exact hround.trans hexact

theorem unpack_ofNat : (Float.ofNat k).toModel.unpack =
    .finite .positive (k * 2 ^ (52 - k.log2)) (k.log2 - 52) (scaled_pos hk) := by
  have hlog := log2_le hk hlarge
  have hleast : minExponent ≤ (k.log2 : Int) - 52 := by
    unfold minExponent
    omega
  have hpacked := unpack_pack (log2_scaled hk hlarge) hleast (by omega) .positive (scaled_pos hk)
  have hmul : UnpackedFloat.mul .binary64
      (.finite .positive (k * 2 ^ (52 - k.log2)) (k.log2 - 52) (scaled_pos hk))
      (.finite .positive (2 ^ 52) (-52) (by decide)) = _ :=
    roundWithAccuracy_exact (log2_scaled hk hlarge) hleast .positive (scaled_pos hk) 52
  have hproduct : (Float.ofNat k).toModel.unpack = (Float.Model.pack (UnpackedFloat.mul .binary64
      (Float.Model.pack (UnpackedFloat.ofNat .binary64 k)).unpack
      (.finite .positive (2 ^ 52) (-52) (by decide)))).unpack := by
    rw [ofNat_eq_mul hlarge, ← unpack_one]
    rfl
  rw [hproduct, ofNat_unpacked hk hlarge, hpacked, hmul, hpacked]

end Natural

/-- A natural number of at most 53 bits is finite as a double and whole. -/
theorem read_ofNat {k : Nat} (hlarge : k < 2 ^ 53) :
    (Float.ofNat k).isFinite = true ∧ (read (Float.ofNat k)).whole = k := by
  rcases Nat.eq_zero_or_pos k with rfl | hk
  · have hzero : (Float.ofNat 0).toModel.unpack = .zero .positive := rfl
    refine ⟨rfl, ?_⟩
    rw [read_eq, hzero]
    exact whole_zero
  · have hlog := log2_le hk hlarge
    have hunpack := unpack_ofNat hk hlarge
    refine ⟨congrArg UnpackedFloat.isFinite hunpack, ?_⟩
    rw [read_eq, hunpack]
    refine (whole_finite _ _).trans ?_
    have hright : ((k.log2 : Int) - 52).toNat = 0 := by omega
    have hleft : (-((k.log2 : Int) - 52)).toNat = 52 - k.log2 := by omega
    rw [hright, hleft, Nat.pow_zero, Nat.mul_one]
    exact Nat.mul_div_cancel k (Nat.two_pow_pos _)

end Decimal
end SpriteBlocks
