import Mathlib
import ResilientHttp.Backoff

/-!
# Powers of the growth

The wait of an attempt is computed in floating-point numbers: the least wait times a power of the
growth. No factor is below one, and rounding to the nearest number does not take a product of such
factors below one. So what is computed never vanishes when its fraction is cut off.
-/
namespace ResilientHttp.Growth
open Float.Model Float.Model.UnpackedFloat

/-- At least one: infinite, or with 53 binary digits of which the first stands before the point. -/
def Large : UnpackedFloat → Prop
  | .infinity .positive => True
  | .finite .positive m e _ => m.log2 = 52 ∧ -52 ≤ e
  | _ => False

theorem large_infinity {s : Sign} : Large (.infinity s) ↔ s = .positive := by
  cases s <;> simp [Large]

theorem large_finite {s : Sign} {m : Nat} {e : Int} {h : 0 < m} :
    Large (.finite s m e h) ↔ s = .positive ∧ m.log2 = 52 ∧ -52 ≤ e := by
  cases s <;> simp [Large]

theorem not_large_zero {s : Sign} : ¬ Large (.zero s) := id

theorem not_large_notANumber : ¬ Large .notANumber := id

/-! ## Bits -/

section
variable (b : BitVec 64)

theorem unpackMantissa_toNat : (@unpackMantissa Format.binary64 b).toNat = b.toNat % 2 ^ 52 := by
  simp [unpackMantissa]

theorem unpackExponent_toNat :
    (@unpackExponent Format.binary64 b).toNat = b.toNat / 2 ^ 52 % 2 ^ 11 := by
  simp [unpackExponent, Nat.shiftRight_eq_div_pow]

theorem unpackSign_toNat : (@unpackSign Format.binary64 b).toNat = b.toNat / 2 ^ 63 := by
  have hb := b.isLt
  simp [unpackSign, Nat.shiftRight_eq_div_pow]
  omega

theorem packComponents_toNat (s : Sign) (e : BitVec 11) (m : BitVec 52) :
    (packComponents Format.binary64 s e m).toNat =
      s.toBitVec.toNat * 2 ^ 63 + e.toNat * 2 ^ 52 + m.toNat := by
  have he := e.isLt
  have hm := m.isLt
  simp only [packComponents]
  rw [BitVec.toNat_append, BitVec.toNat_append, ← Nat.shiftLeft_add_eq_or_of_lt hm,
    ← Nat.shiftLeft_add_eq_or_of_lt he, Nat.shiftLeft_eq, Nat.shiftLeft_eq]
  omega

/-- The first digit, which the bits leave out, makes 53 of them. -/
theorem log2_append_one (m : BitVec 52) : (1#1 ++ m).toNat.log2 = 52 := by
  have hm := m.isLt
  have happend : (1#1 ++ m).toNat = 2 ^ 52 + m.toNat := by
    rw [BitVec.toNat_append, ← Nat.shiftLeft_add_eq_or_of_lt hm]
    rfl
  rw [happend, Nat.log2_eq_iff (by omega)]
  omega

/-- The numbers that are at least one lie between one and infinity, and so do their bits. -/
theorem large_unpack_iff : Large (UnpackedFloat.unpack Format.binary64 b) ↔
    1023 <<< 52 ≤ b.toNat ∧ b.toNat ≤ 2047 <<< 52 := by
  have hb := b.isLt
  obtain ⟨q, r, hr, hq⟩ : ∃ q r, r < 2 ^ 52 ∧ b.toNat = 2 ^ 52 * q + r :=
    ⟨_, _, Nat.mod_lt _ (Nat.two_pow_pos 52), (Nat.div_add_mod b.toNat (2 ^ 52)).symm⟩
  have hmantissa : (@unpackMantissa Format.binary64 b).toNat = r := by
    rw [unpackMantissa_toNat]
    omega
  have hexponent : (@unpackExponent Format.binary64 b).toNat = q % 2 ^ 11 := by
    rw [unpackExponent_toNat]
    omega
  have hsign : Sign.ofBitVec (@unpackSign Format.binary64 b) = .positive ↔ q < 2 ^ 11 := by
    simp only [Sign.ofBitVec, ← BitVec.toNat_inj, unpackSign_toNat, BitVec.toNat_zero]
    split <;> simp <;> omega
  have hones : (-1#11).toNat = 2047 := rfl
  have hbias : (Format.binary64.exponentBias : Int) = 1023 := rfl
  simp only [UnpackedFloat.unpack, ← BitVec.toNat_inj, hmantissa, hexponent, hones, hbias,
    BitVec.toNat_zero]
  split
  · split
    · rw [large_infinity, hsign]
      omega
    · simp only [not_large_notANumber, false_iff]
      omega
  · split
    · split
      · simp only [not_large_zero, false_iff]
        omega
      · have hlog : r.log2 < 52 := (Nat.log2_lt (by assumption)).mpr hr
        rw [large_finite, hsign]
        omega
    · rw [large_finite, hsign, log2_append_one]
      omega

/-- What the bits tell has 53 digits, or it is smaller than all numbers that do. -/
theorem log2_of_unpack {s : Sign} {m : Nat} {e : Int} {h : 0 < m}
    (hu : UnpackedFloat.unpack Format.binary64 b = .finite s m e h) : m.log2 = 52 ∨ e = -1074 := by
  have hbias : (Format.binary64.exponentBias : Int) = 1023 := rfl
  simp only [UnpackedFloat.unpack, hbias] at hu
  split at hu
  · split at hu <;> cases hu
  · split at hu
    · rename_i hzero
      split at hu
      · cases hu
      · cases hu
        right
        rw [hzero]
        rfl
    · cases hu
      exact .inl (log2_append_one _)

end

/-- Storing a number as bits may make it infinite, and that is all. -/
theorem large_pack {u : UnpackedFloat} (hu : Large u) :
    Large (UnpackedFloat.unpack Format.binary64 (UnpackedFloat.pack Format.binary64 u)) := by
  rw [large_unpack_iff]
  cases u with
  | notANumber => exact hu.elim
  | zero s => exact hu.elim
  | infinity s =>
    obtain rfl := large_infinity.mp hu
    decide
  | finite s m e h =>
    obtain ⟨rfl, hm, he⟩ := large_finite.mp hu
    have hbias : (Format.binary64.exponentBias : Int) = 1023 := rfl
    have hbits : Format.binary64.mantissaBits = 53 := rfl
    simp only [UnpackedFloat.pack, hbias, hbits, hm]
    split
    · decide
    · rw [if_true, packComponents_toNat]
      simp only [BitVec.toNat_ofNat, Sign.toBitVec]
      omega

/-! ## Rounding -/

theorem shift_mantissa (a : ExtendedMantissa) (k : Nat) :
    (a >>> k).mantissa = a.mantissa / 2 ^ k := by
  induction k with
  | zero => simp [HShiftRight.hShiftRight, Nat.repeat]
  | succ k ih =>
    change (a >>> k).mantissa / 2 = _
    rw [ih, Nat.div_div_eq_div_mul, Nat.pow_succ]

theorem mantissa_le_rounded (a : ExtendedMantissa) : a.mantissa ≤ a.roundedMantissa := by
  obtain ⟨m, r, s⟩ := a
  cases r <;> cases s <;>
    simp [ExtendedMantissa.roundedMantissa, ExtendedMantissa.accuracy, Accuracy.roundToNearestEven]

/-- A number that is at least one is written with 53 digits, and the rest is cut off. -/
theorem shiftToTarget_large {m : Nat} {e : Int} (hm : 52 ≤ m.log2) (he : 0 ≤ m.log2 + e) :
    (shiftToTargetExponent Format.binary64 m e .exact).1.mantissa.log2 = 52 ∧
      -52 ≤ (shiftToTargetExponent Format.binary64 m e .exact).2 := by
  have htarget : Format.binary64.targetExponent (totalExponent m e) = m.log2 + e - 52 := by
    have hbits : (Format.binary64.mantissaBits : Int) = 53 := rfl
    have hleast : Format.binary64.minExponent = -1074 := rfl
    rw [Format.targetExponent, totalExponent, hbits, hleast]
    omega
  have hshift : ((m.log2 : Int) + e - 52 - e).toNat = m.log2 - 52 := by omega
  simp only [shiftToTargetExponent, shiftToExponent, htarget, hshift, shift_mantissa,
    ExtendedMantissa.ofMantissaAndAccuracy]
  refine ⟨?_, by omega⟩
  rw [Nat.log2_eq_log_two, Nat.log_div_base_pow, ← Nat.log2_eq_log_two]
  omega

/-- Rounding may carry to a further digit, so that the number is shifted once more. -/
theorem large_round {m : Nat} {e : Int} (hm : 52 ≤ m.log2) (he : 0 ≤ m.log2 + e) :
    Large (roundWithAccuracy Format.binary64 .positive m e .exact) := by
  obtain ⟨hlog, hexp⟩ := shiftToTarget_large hm he
  have hle := mantissa_le_rounded (shiftToTargetExponent Format.binary64 m e .exact).1
  have hround : 52 ≤ (shiftToTargetExponent Format.binary64 m e .exact).1.roundedMantissa.log2 := by
    rw [← hlog, Nat.log2_eq_log_two, Nat.log2_eq_log_two]
    exact Nat.log_mono_right hle
  have hwhole :
      0 ≤ ((shiftToTargetExponent Format.binary64 m e .exact).1.roundedMantissa.log2 : Int) +
        (shiftToTargetExponent Format.binary64 m e .exact).2 := by omega
  obtain ⟨hlog', hexp'⟩ := shiftToTarget_large hround hwhole
  simp only [roundWithAccuracy]
  split
  · rename_i hzero
    rw [hzero] at hlog'
    cases hlog'
  · exact ⟨hlog', hexp'⟩

theorem large_mul {u v : UnpackedFloat} (hu : Large u) (hv : Large v) :
    Large (UnpackedFloat.mul Format.binary64 u v) := by
  cases u with
  | notANumber => exact hu.elim
  | zero s => exact hu.elim
  | infinity s =>
    obtain rfl := large_infinity.mp hu
    cases v with
    | notANumber => exact hv.elim
    | zero s => exact hv.elim
    | infinity s =>
      obtain rfl := large_infinity.mp hv
      exact hu
    | finite s m e h =>
      obtain ⟨rfl, -, -⟩ := large_finite.mp hv
      exact hu
  | finite s m e h =>
    obtain ⟨rfl, hm, he⟩ := large_finite.mp hu
    cases v with
    | notANumber => exact hv.elim
    | zero s => exact hv.elim
    | infinity s =>
      obtain rfl := large_infinity.mp hv
      exact hv
    | finite s m' e' h' =>
      obtain ⟨rfl, hm', he'⟩ := large_finite.mp hv
      -- Two numbers of 53 digits have a product of at least 105.
      have hlog : 104 ≤ (m * m').log2 := by
        have hl := Nat.log2_self_le (Nat.ne_of_gt h)
        have hl' := Nat.log2_self_le (Nat.ne_of_gt h')
        rw [hm] at hl
        rw [hm'] at hl'
        rw [Nat.le_log2 (Nat.ne_of_gt (Nat.mul_pos h h')), show 104 = 52 + 52 from rfl, Nat.pow_add]
        exact Nat.mul_le_mul hl hl'
      exact large_round (by omega) (by omega)

/-! ## Order -/

theorem one_unpack :
    (1.0 : Float).toModel.unpack = .finite .positive (2 ^ 52) (-52) (by decide) := rfl

theorem one_le_iff (x : Float) : 1.0 ≤ x ↔ Large x.toModel.unpack := by
  have hle : 1.0 ≤ x ↔ UnpackedFloat.le (1.0 : Float).toModel.unpack x.toModel.unpack = true :=
    decide_eq_true_iff
  rw [hle, one_unpack]
  cases hu : x.toModel.unpack with
  | notANumber => exact iff_of_false (by decide) id
  | zero s => exact iff_of_false (by cases s <;> decide) id
  | infinity s => cases s <;> simp [UnpackedFloat.le, UnpackedFloat.compare, Large]
  | finite s m e h =>
    cases s with
    | negative => simp [UnpackedFloat.le, UnpackedFloat.compare, Large]
    | positive =>
      have hlog := log2_of_unpack _ hu
      have hm : m.log2 = 52 → 2 ^ 52 ≤ m := fun h' => h' ▸ Nat.log2_self_le (Nat.ne_of_gt h)
      simp only [UnpackedFloat.le, UnpackedFloat.compare, Large, Option.any_some]
      rcases lt_trichotomy (-52) e with he | rfl | he
      · rw [compare_lt_iff_lt.mpr he]
        exact iff_of_true rfl ⟨by omega, by omega⟩
      · rw [compare_eq_iff_eq.mpr rfl]
        have hlog := hlog.resolve_right (by decide)
        exact iff_of_true (Nat.isLE_compare.mpr (hm hlog)) ⟨hlog, Int.le_refl _⟩
      · rw [compare_gt_iff_gt.mpr he]
        exact iff_of_false Bool.false_ne_true (by omega)

theorem one_le_of_lt {x : Float} (h : 1.0 < x) : 1.0 ≤ x := by
  have hlt : UnpackedFloat.lt (1.0 : Float).toModel.unpack x.toModel.unpack = true :=
    decide_eq_true_iff.mp h
  refine decide_eq_true_iff.mpr ?_
  change UnpackedFloat.le _ _ = true
  simp only [UnpackedFloat.lt, beq_iff_eq] at hlt
  simp only [UnpackedFloat.le, hlt, Option.any_some]
  rfl

theorem one_le_iff_toBits (x : Float) :
    1.0 ≤ x ↔ 1023 <<< 52 ≤ x.toBits.toNat ∧ x.toBits.toNat ≤ 2047 <<< 52 :=
  (one_le_iff x).trans (large_unpack_iff _)

theorem one_le_ofBits {n : Nat} (h : 1023 <<< 52 ≤ n) (h' : n ≤ 2047 <<< 52) :
    1.0 ≤ Float.ofBits n.toUInt64 := by
  have hn : n.toUInt64.toBitVec.toNat = n := Nat.mod_eq_of_lt (by omega)
  refine (one_le_iff _).mpr (large_pack ((large_unpack_iff _).mpr ?_))
  rw [hn]
  exact ⟨h, h'⟩

theorem one_le_mul {x y : Float} (hx : 1.0 ≤ x) (hy : 1.0 ≤ y) : 1.0 ≤ x * y :=
  (one_le_iff _).mpr
    (large_pack (large_mul ((one_le_iff x).mp hx) ((one_le_iff y).mp hy)))

/-! ## The wait before chance changes it -/

theorem one_le_powerFrom {result base : Float} (hr : 1.0 ≤ result) (hb : 1.0 ≤ base)
    (exponent fuel : Nat) : 1.0 ≤ Backoff.powerFrom result base exponent fuel := by
  induction fuel generalizing result base exponent with
  | zero => exact hr
  | succ fuel ih =>
    have hresult : 1.0 ≤ if exponent % 2 = 1 then result * base else result := by
      split
      · exact one_le_mul hr hb
      · exact hr
    simp only [Backoff.powerFrom]
    split
    · exact hresult
    · exact ih hresult (one_le_mul hb hb) _

theorem one_le_power {base : Float} (hb : 1.0 ≤ base) (exponent : Nat) :
    1.0 ≤ Backoff.power base exponent :=
  one_le_powerFrom (by decide) hb _ _

section
variable {n : Nat}

theorem two_pow_le_div (k : Nat) (hn : 0 < n) (hk : k ≤ n.log2) :
    2 ^ k ≤ n / 1 <<< (n.log2 - k) := by
  rw [Nat.one_shiftLeft, Nat.le_div_iff_mul_le (Nat.two_pow_pos _), ← Nat.pow_add,
    Nat.add_sub_cancel' hk]
  exact Nat.log2_self_le (Nat.ne_of_gt hn)

theorem two_pow_le_shiftLeft (k : Nat) (hn : 0 < n) (hk : n.log2 ≤ k) :
    2 ^ k ≤ n <<< (k - n.log2) := by
  rw [Nat.shiftLeft_eq, ← Nat.add_sub_cancel' hk, Nat.add_sub_cancel_left, Nat.pow_add]
  exact Nat.mul_le_mul_right _ (Nat.log2_self_le (Nat.ne_of_gt hn))

/-- Scaling by the exponent leaves 53 digits before the point. -/
theorem exponentOf_one (hn : 0 < n) : Binary64.exponentOf n 1 = n.log2 - 52 := by
  have hguess : (n.log2 : Int) - Nat.log2 1 - 53 = n.log2 - 53 := rfl
  simp only [Binary64.exponentOf, hguess]
  rw [if_neg (c := _ < 1 <<< 53)]
  · rw [if_neg (by omega)]
    omega
  · rw [Nat.not_lt]
    split
    · have hshift : ((n.log2 : Int) - 53).toNat = n.log2 - 53 := by omega
      rw [hshift]
      exact two_pow_le_div 53 hn (by omega)
    · have hshift : (-((n.log2 : Int) - 53)).toNat = 53 - n.log2 := by omega
      rw [hshift, Nat.div_one]
      exact two_pow_le_shiftLeft 53 hn (by omega)

/-- Rounded digits and their exponent, put together as bits. -/
theorem bits_bounds {m : Nat} {q : Int} (hm : 1 <<< 52 ≤ m) (hq : -52 ≤ q) :
    1023 <<< 52 ≤ min (if m < 1 <<< 52 then m else m - 1 <<< 52 + (q + 1075).toNat <<< 52)
      Binary64.infinityBits := by
  refine le_min ?_ (by decide)
  rw [if_neg (Nat.not_lt.mpr hm)]
  refine Nat.le_trans ?_ (Nat.le_add_left _ _)
  rw [Nat.shiftLeft_eq, Nat.shiftLeft_eq]
  exact Nat.mul_le_mul_right _ (by omega)

theorem nearestBits_one (hn : 0 < n) :
    1023 <<< 52 ≤ Binary64.nearestBits n 1 ∧ Binary64.nearestBits n 1 ≤ 2047 <<< 52 := by
  have hlow : 1 <<< 52 ≤
      (if 0 ≤ (n.log2 : Int) - 52 then n else n <<< (-((n.log2 : Int) - 52)).toNat) /
      if 0 ≤ (n.log2 : Int) - 52 then 1 <<< ((n.log2 : Int) - 52).toNat else 1 := by
    split
    · have hshift : ((n.log2 : Int) - 52).toNat = n.log2 - 52 := by omega
      rw [hshift]
      exact two_pow_le_div 52 hn (by omega)
    · have hshift : (-((n.log2 : Int) - 52)).toNat = 52 - n.log2 := by omega
      rw [hshift, Nat.div_one]
      exact two_pow_le_shiftLeft 52 hn (by omega)
  have hround (m : Nat) (down : Bool) : m ≤ if down then m else m + 1 := by split <;> omega
  simp only [Binary64.nearestBits, if_neg (Nat.ne_of_gt hn), exponentOf_one hn]
  exact ⟨bits_bounds (hlow.trans (hround _ _)) (by omega), Nat.min_le_right _ _⟩

theorem one_le_ofNat (hn : 0 < n) : 1.0 ≤ Binary64.ofNat n :=
  one_le_ofBits (nearestBits_one hn).1 (nearestBits_one hn).2

end

theorem floor_pos {a : Binary64.Magnitude} (hm : 2 ^ 52 ≤ a.mantissa) (he : -52 ≤ a.exponent) :
    0 < a.floor := by
  obtain ⟨m, e⟩ := a
  dsimp only at hm he
  cases e with
  | ofNat e =>
    simp only [Binary64.Magnitude.floor, Nat.shiftLeft_eq]
    exact Nat.mul_pos (by omega) (Nat.two_pow_pos e)
  | negSucc e =>
    simp only [Binary64.Magnitude.floor, Nat.shiftRight_eq_div_pow]
    have hpow : 2 ^ (e + 1) ≤ 2 ^ 52 := Nat.pow_le_pow_right (by decide) (by omega)
    exact Nat.div_pos (hpow.trans hm) (Nat.two_pow_pos _)

theorem clampedFloor_pos {x : Float} (hx : 1.0 ≤ x) {max : Nat} (hm : 0 < max) :
    0 < Binary64.clampedFloor max x := by
  obtain ⟨hl, hu⟩ := (one_le_iff_toBits x).mp hx
  have hnan : x.isNaN = false := by
    have hlarge := (one_le_iff x).mp hx
    change x.toModel.unpack.isNaN = false
    cases h : x.toModel.unpack with
    | notANumber =>
      rw [h] at hlarge
      exact hlarge.elim
    | _ => rfl
  have hneg : Binary64.isNegative x = false := by
    rw [Binary64.isNegative, decide_eq_false_iff_not]
    omega
  simp only [Binary64.clampedFloor, hneg, hnan, Bool.or_false, Bool.false_eq_true, if_false]
  split
  · exact hm
  · rename_i hbinade
    have hleast : 1023 ≤ Binary64.binade x.toBits.toNat := by
      simp only [Binary64.binade, Nat.shiftRight_eq_div_pow] at hbinade ⊢
      omega
    rw [Binary64.magnitude, if_neg (by omega)]
    exact Nat.lt_min.mpr ⟨hm, floor_pos (Nat.le_add_right _ _) (by simp only; omega)⟩

end ResilientHttp.Growth
