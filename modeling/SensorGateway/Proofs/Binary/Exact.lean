import Mathlib.Algebra.Order.Field.Power
import Mathlib.Data.Int.Log
import Mathlib.Data.Rat.Floor
import Mathlib.Tactic.Positivity
import Mathlib.Tactic.Ring
import SensorGateway.Binary.Format

/-!
Roundings that change nothing.

A pattern without its sign stands for a rational number, its `value`. Rounding starts from a ratio of
naturals and knows nothing of patterns. If the ratio is the value of a pattern, the exponent that the
rounding chooses is the one of the pattern (`exponent_chosen`), the scaled ratio is a whole number,
and what comes out is the pattern (`roundedBits_of_value`).

Every finite number of 32 bits is one of 64 bits: shifting its significand up to the width of the
wider format lowers the exponent by no more than the wider format allows (`exists_widened`). So a
temperature that is written to the database and read back is the same temperature
(`convert_convert`). What is no number stays none.
-/

set_option autoImplicit false

namespace SensorGateway.Binary

/-! ## Ratios -/

theorem scaled_snd_pos (num : Nat) {den : Nat} (hden : 0 < den) (e : Int) :
    0 < (scaled num den e).2 := by
  rcases e with k | k
  · exact hden
  · exact Nat.mul_pos hden (Nat.two_pow_pos (k + 1))

/-- Scaling by an exponent multiplies the ratio by that power of two. One of the two numbers takes
the power, depending on its sign, so that both stay whole. -/
theorem scaled_ratio (num : Nat) (den : Nat) (e : Int) :
    ((scaled num den e).1 : ℚ) / (scaled num den e).2 = num / den * 2 ^ e := by
  rcases e with k | k
  · show ((num * 2 ^ k : ℕ) : ℚ) / den = num / den * 2 ^ (k : ℤ)
    rw [zpow_natCast]
    push_cast
    ring
  · show (num : ℚ) / ((den * 2 ^ (k + 1) : ℕ) : ℚ) = num / den * 2 ^ Int.negSucc k
    rw [zpow_negSucc]
    push_cast
    rw [div_mul_eq_div_div, div_eq_mul_inv (_ / _)]

/-- A ratio that is a whole number has nothing to be rounded. -/
theorem roundHalfEven_mul (m : Nat) {den : Nat} (hden : 0 < den) :
    roundHalfEven (m * den) den = m := by
  have hq : m * den / den = m := Nat.mul_div_cancel m hden
  have hr : m * den % den = 0 := Nat.mul_mod_left m den
  unfold roundHalfEven
  simp only [hq, hr]
  rw [if_pos (by omega)]

theorem lt_two_zpow_iff {v : ℚ} (hv : 0 < v) (e : ℤ) : v < 2 ^ e ↔ Int.log 2 v < e := by
  have h := Int.lt_zpow_iff_log_lt (b := 2) one_lt_two (x := e) hv
  exact_mod_cast h

theorem two_zpow_le_iff {v : ℚ} (hv : 0 < v) (e : ℤ) : 2 ^ e ≤ v ↔ e ≤ Int.log 2 v := by
  have h := Int.zpow_le_iff_le_log (b := 2) one_lt_two (x := e) hv
  exact_mod_cast h

/-- **The guess is the logarithm or one more than it.** The difference of the lengths of numerator and
denominator is off by less than one either way, and the comparison of the scaled ratio with one tells
which of the two it is. -/
theorem floorLog2_eq_log {num den : Nat} (hnum : 0 < num) (hden : 0 < den) :
    floorLog2 num den = Int.log 2 ((num : ℚ) / den) := by
  have hvalue : 0 < (num : ℚ) / den := by positivity
  have hlow : ∀ {n : ℕ}, 0 < n → (2 : ℚ) ^ (n.log2 : ℤ) ≤ n := by
    intro n hn
    rw [zpow_natCast]
    exact_mod_cast Nat.log2_self_le (Nat.ne_of_gt hn)
  have hhigh : ∀ n : ℕ, (n : ℚ) < 2 ^ ((n.log2 : ℤ) + 1) := by
    intro n
    have hlt := @Nat.lt_log2_self n
    have hcast : (n : ℚ) < 2 ^ (n.log2 + 1) := by exact_mod_cast hlt
    exact_mod_cast hcast
  have hupper : (num : ℚ) / den < 2 ^ ((num.log2 : ℤ) - den.log2 + 1) := by
    have hsplit : (num.log2 : ℤ) - den.log2 + 1 = num.log2 + 1 - den.log2 := by ring
    rw [hsplit, zpow_sub₀ two_ne_zero]
    exact div_lt_div₀ (hhigh num) (hlow hden) (by positivity) (by positivity)
  have hlower : (2 : ℚ) ^ ((num.log2 : ℤ) - den.log2 - 1) ≤ num / den := by
    have hsplit : (num.log2 : ℤ) - den.log2 - 1 = num.log2 - (den.log2 + 1) := by ring
    rw [hsplit, zpow_sub₀ two_ne_zero]
    exact div_le_div₀ (by positivity) (hlow hnum) (by positivity) (le_of_lt (hhigh den))
  -- scaled by the guess, the ratio is at least one exactly if the guess is not too large
  have hscaled := scaled_ratio num den (-((num.log2 : ℤ) - den.log2))
  have hpos := scaled_snd_pos num hden (-((num.log2 : ℤ) - den.log2))
  -- so the logarithm is the guess or one less, and the comparison decides
  rw [lt_two_zpow_iff hvalue] at hupper
  rw [two_zpow_le_iff hvalue] at hlower
  have hguess : ((scaled num den (-((num.log2 : ℤ) - den.log2))).2
        ≤ (scaled num den (-((num.log2 : ℤ) - den.log2))).1)
      ↔ (num.log2 : ℤ) - den.log2 ≤ Int.log 2 ((num : ℚ) / den) := by
    rw [← two_zpow_le_iff hvalue, ← Nat.cast_le (α := ℚ), ← one_le_div (Nat.cast_pos.mpr hpos),
      hscaled, zpow_neg, ← div_eq_mul_inv, one_le_div (by positivity)]
  unfold floorLog2
  dsimp only
  split
  next hle =>
    have := hguess.mp hle
    omega
  next hlt =>
    have := mt hguess.mpr hlt
    omega

/-! ## The number of a pattern -/

/-- The significand of a pattern without its sign. -/
def significand (f : BinaryFormat) (u : Nat) : Nat :=
  if u / 2 ^ f.fractionBits = 0 then u % 2 ^ f.fractionBits
  else 2 ^ f.fractionBits + u % 2 ^ f.fractionBits

/-- The exponent of a pattern without its sign. -/
def exponent (f : BinaryFormat) (u : Nat) : Int :=
  f.minExponent + (u / 2 ^ f.fractionBits - 1 : Nat)

/-- **The number that a pattern without its sign stands for.** -/
def value (f : BinaryFormat) (u : Nat) : ℚ := significand f u * 2 ^ exponent f u

variable {f g : BinaryFormat} {u : Nat}

/-- A pattern in front of infinity decodes to its significand and exponent. Where the exponent field
is zero the leading bit is missing, and the exponent is that of field one. -/
theorem decode_of_finite {x : Binary f} (h : x.unsigned < f.infinityBits) :
    x.decode = .finite x.negative (significand f x.unsigned) (exponent f x.unsigned) := by
  have hnot : ¬ x.unsigned = f.infinityBits := by omega
  have hnan : ¬ f.infinityBits < x.unsigned := by omega
  unfold decode
  dsimp only
  rw [if_neg hnot, if_neg hnan]
  unfold significand exponent
  split
  next hzero =>
    have hfield : x.unsigned / 2 ^ f.fractionBits = 0 := hzero
    rw [if_pos hfield, hfield]
    simp
  next hsome =>
    have hfield : ¬ x.unsigned / 2 ^ f.fractionBits = 0 := hsome
    rw [if_neg hfield]
    rfl

/-- A pattern is its exponent's steps and its significand. -/
theorem steps_add_significand (f : BinaryFormat) (u : Nat) :
    (u / 2 ^ f.fractionBits - 1) * 2 ^ f.fractionBits + significand f u = u := by
  have hsplit := Nat.div_add_mod u (2 ^ f.fractionBits)
  unfold significand
  by_cases hfield : u / 2 ^ f.fractionBits = 0
  · rw [hfield, Nat.mul_zero] at hsplit
    rw [if_pos hfield, hfield, Nat.zero_sub, Nat.zero_mul]
    exact hsplit
  · -- the leading bit that the significand adds is the step that the exponent leaves out
    have hone : u / 2 ^ f.fractionBits = u / 2 ^ f.fractionBits - 1 + 1 :=
      (Nat.sub_add_cancel (Nat.pos_of_ne_zero hfield)).symm
    have hsteps : (u / 2 ^ f.fractionBits - 1) * 2 ^ f.fractionBits + 2 ^ f.fractionBits
        = 2 ^ f.fractionBits * (u / 2 ^ f.fractionBits) := by
      rw [← Nat.succ_mul, Nat.succ_eq_add_one, ← hone, Nat.mul_comm]
    rw [if_neg hfield]
    omega

/-- A significand has one bit more than are stored of it. -/
theorem significand_lt (f : BinaryFormat) (u : Nat) :
    significand f u < 2 ^ (f.fractionBits + 1) := by
  have hmod := Nat.mod_lt u (Nat.two_pow_pos f.fractionBits)
  unfold significand
  rw [Nat.pow_succ]
  split
  · omega
  · omega

theorem value_zero (f : BinaryFormat) : value f 0 = 0 := by
  simp [value, significand]

/-- No other pattern without a sign stands for zero. -/
theorem eq_zero_of_value (h : value f u = 0) : u = 0 := by
  have hpower : (2 : ℚ) ^ exponent f u ≠ 0 := zpow_ne_zero _ two_ne_zero
  have hzero : significand f u = 0 := by
    have hcast := (mul_eq_zero.mp h).resolve_right hpower
    exact_mod_cast hcast
  have hpattern := steps_add_significand f u
  -- a leading bit would make the significand positive
  have hfield : u / 2 ^ f.fractionBits = 0 := by
    by_contra hsome
    have hpos := Nat.two_pow_pos f.fractionBits
    rw [significand, if_neg hsome] at hzero
    omega
  rw [hfield, hzero] at hpattern
  omega

/-! ## Rounding the number of a pattern -/

/-- **The exponent that a rounding chooses for the number of a pattern is that of the pattern.** -/
theorem exponent_chosen (hpos : 0 < value f u) :
    max f.minExponent (Int.log 2 (value f u) - f.fractionBits) = exponent f u := by
  by_cases hfield : u / 2 ^ f.fractionBits = 0
  · -- the number is too small for a greater exponent than the least
    have hexponent : exponent f u = f.minExponent := by simp [exponent, hfield]
    have hsmall : value f u < 2 ^ ((f.fractionBits : ℤ) + f.minExponent) := by
      have hmod := Nat.mod_lt u (Nat.two_pow_pos f.fractionBits)
      have hlt : significand f u < 2 ^ f.fractionBits := by rwa [significand, if_pos hfield]
      rw [zpow_add₀ two_ne_zero, zpow_natCast, value, hexponent]
      exact mul_lt_mul_of_pos_right (by exact_mod_cast hlt) (by positivity)
    rw [lt_two_zpow_iff hpos] at hsmall
    omega
  · -- the leading bit puts the number between two powers of two side by side
    have hlow : (2 : ℚ) ^ ((f.fractionBits : ℤ) + exponent f u) ≤ value f u := by
      have hle : 2 ^ f.fractionBits ≤ significand f u := by
        rw [significand, if_neg hfield]
        exact Nat.le_add_right _ _
      rw [zpow_add₀ two_ne_zero, zpow_natCast, value]
      exact mul_le_mul_of_nonneg_right (by exact_mod_cast hle) (by positivity)
    have hhigh : value f u < 2 ^ ((f.fractionBits : ℤ) + 1 + exponent f u) := by
      have hlt := significand_lt f u
      have hcast : ((f.fractionBits : ℤ) + 1) = ((f.fractionBits + 1 : ℕ) : ℤ) := by push_cast; rfl
      rw [zpow_add₀ two_ne_zero, hcast, zpow_natCast, value]
      exact mul_lt_mul_of_pos_right (by exact_mod_cast hlt) (by positivity)
    rw [two_zpow_le_iff hpos] at hlow
    rw [lt_two_zpow_iff hpos] at hhigh
    have hleast : f.minExponent ≤ exponent f u := by
      unfold exponent
      omega
    omega

/-- **A ratio that is the number of a pattern is rounded to the pattern.** -/
theorem roundedBits_of_value (hu : u < f.infinityBits) {num den : Nat} (hden : 0 < den)
    (hvalue : (num : ℚ) / den = value f u) : roundedBits f num den = u := by
  unfold roundedBits
  by_cases hnum : num = 0
  · rw [hnum, Nat.cast_zero, zero_div] at hvalue
    rw [if_pos hnum]
    exact (eq_zero_of_value hvalue.symm).symm
  · have hpos : 0 < value f u := by
      rw [← hvalue]
      exact div_pos (Nat.cast_pos.mpr (Nat.pos_of_ne_zero hnum)) (Nat.cast_pos.mpr hden)
    have hchosen := exponent_chosen hpos
    rw [← hvalue, ← floorLog2_eq_log (Nat.pos_of_ne_zero hnum) hden] at hchosen
    have hratio := scaled_ratio num den (-exponent f u)
    have hdpos := scaled_snd_pos num hden (-exponent f u)
    -- scaling undoes the exponent and leaves the significand
    have hwhole : (scaled num den (-exponent f u)).1
        = significand f u * (scaled num den (-exponent f u)).2 := by
      rw [hvalue, value, mul_assoc, ← zpow_add₀ two_ne_zero, add_neg_cancel, zpow_zero, mul_one,
        div_eq_iff (by exact_mod_cast Nat.ne_of_gt hdpos)] at hratio
      exact_mod_cast hratio
    have hsteps : (exponent f u - f.minExponent).toNat = u / 2 ^ f.fractionBits - 1 := by
      unfold exponent
      omega
    have hpattern : (exponent f u - f.minExponent).toNat * Nat.pow 2 f.fractionBits
        + significand f u = u := by
      rw [hsteps]
      exact steps_add_significand f u
    rw [if_neg hnum]
    simp only [hchosen]
    rw [hwhole, roundHalfEven_mul _ hdpos, hpattern, Nat.min_eq_right (Nat.le_of_lt hu)]

/-! ## Signs -/

/-- All patterns up to infinity leave the place of the sign free. -/
theorem infinityBits_lt_signPlace (f : BinaryFormat) : f.infinityBits < f.signPlace := by
  have hplace : f.signPlace = 2 ^ f.exponentBits * 2 ^ f.fractionBits := Nat.pow_add _ _ _
  rw [hplace]
  refine Nat.mul_lt_mul_of_pos_right ?_ (Nat.two_pow_pos _)
  exact Nat.sub_lt (Nat.two_pow_pos _) Nat.one_pos

theorem unsigned_withSign (negative : Bool) {bits : Nat} (h : bits < f.signPlace) :
    (withSign negative bits : Binary f).unsigned = bits := by
  rcases negative
  · exact Nat.mod_eq_of_lt h
  · show (f.signPlace + bits) % f.signPlace = bits
    rw [Nat.add_mod_left, Nat.mod_eq_of_lt h]

theorem negative_withSign (negative : Bool) {bits : Nat} (h : bits < f.signPlace) :
    (withSign negative bits : Binary f).negative = negative := by
  rcases negative
  · exact decide_eq_false (Nat.not_le.mpr h)
  · exact decide_eq_true (Nat.le_add_right _ _)

/-- **A pattern is its sign and the rest.** The bound says that there is nothing in front of the
place of the sign. -/
theorem withSign_unsigned {x : Binary f} (h : x.bits < 2 * f.signPlace) :
    withSign x.negative x.unsigned = x := by
  have hsplit := Nat.mod_add_div x.bits f.signPlace
  unfold withSign unsigned negative
  by_cases hsign : f.signPlace ≤ x.bits
  · have hone : x.bits / f.signPlace = 1 :=
      Nat.div_eq_of_lt_le (by rwa [Nat.one_mul]) (by omega)
    rw [hone, Nat.mul_one] at hsplit
    rw [if_pos (decide_eq_true hsign)]
    congr 1
    omega
  · have hsmall : x.bits % f.signPlace = x.bits := Nat.mod_eq_of_lt (Nat.not_le.mp hsign)
    rw [if_neg (by simpa using hsign), hsmall]

/-! ## Another format -/

/-- A finite number is encoded by rounding its significand, scaled by its exponent. -/
theorem encode_finite (negative : Bool) (m : Nat) (e : Int) :
    (encode (.finite negative m e) : Binary g)
      = withSign negative (roundedBits g (scaled m 1 e).1 (scaled m 1 e).2) := rfl

/-- **A number that both formats have is converted to its own pattern there.** -/
theorem convert_of_value {x : Binary f} (hx : x.unsigned < f.infinityBits) {w : Nat}
    (hw : w < g.infinityBits) (hvalue : value g w = value f x.unsigned) :
    (x.convert : Binary g) = withSign x.negative w := by
  have hratio := scaled_ratio (significand f x.unsigned) 1 (exponent f x.unsigned)
  have hpos := scaled_snd_pos (significand f x.unsigned) Nat.one_pos (exponent f x.unsigned)
  rw [Nat.cast_one, div_one] at hratio
  have hrounded := roundedBits_of_value hw hpos (hratio.trans hvalue.symm)
  rw [convert, decode_of_finite hx, encode_finite, hrounded]

/-- A significand of full width, with an exponent that the format has, makes a pattern. -/
theorem exists_pattern {m : Nat} {e : Int} (hlow : 2 ^ g.fractionBits ≤ m)
    (hhigh : m < 2 ^ (g.fractionBits + 1)) (hleast : g.minExponent ≤ e)
    (hgreatest : (e - g.minExponent).toNat + 2 < 2 ^ g.exponentBits) :
    ∃ w, w < g.infinityBits ∧ value g w = m * 2 ^ e := by
  obtain ⟨fraction, rfl⟩ := Nat.exists_eq_add_of_le hlow
  rw [Nat.pow_succ] at hhigh
  have hfraction : fraction < 2 ^ g.fractionBits := by omega
  have hpos := Nat.two_pow_pos g.fractionBits
  obtain ⟨steps, hsteps⟩ := Int.eq_ofNat_of_zero_le (Int.sub_nonneg.mpr hleast)
  -- the leading bit is not stored: it is what makes the exponent field one more than the steps
  have hfield : (fraction + (steps + 1) * 2 ^ g.fractionBits) / 2 ^ g.fractionBits = steps + 1 := by
    rw [Nat.add_mul_div_right _ _ hpos, Nat.div_eq_of_lt hfraction, Nat.zero_add]
  have hmod : (fraction + (steps + 1) * 2 ^ g.fractionBits) % 2 ^ g.fractionBits = fraction := by
    rw [Nat.add_mul_mod_self_right, Nat.mod_eq_of_lt hfraction]
  refine ⟨fraction + (steps + 1) * 2 ^ g.fractionBits, ?_, ?_⟩
  · have hfew : steps + 1 + 1 ≤ 2 ^ g.exponentBits - 1 := by
      -- the greatest exponent field is that of infinity, which the steps stay below
      rw [hsteps, Int.toNat_natCast] at hgreatest
      omega
    calc fraction + (steps + 1) * 2 ^ g.fractionBits
        < 2 ^ g.fractionBits + (steps + 1) * 2 ^ g.fractionBits := by omega
      _ = (steps + 1 + 1) * 2 ^ g.fractionBits := by rw [Nat.add_mul (steps + 1)]; omega
      _ ≤ g.infinityBits := Nat.mul_le_mul_right _ hfew
  · have hsignificand : significand g (fraction + (steps + 1) * 2 ^ g.fractionBits)
        = 2 ^ g.fractionBits + fraction := by
      rw [significand, hfield, hmod, if_neg (Nat.succ_ne_zero steps)]
    have hexponent : exponent g (fraction + (steps + 1) * 2 ^ g.fractionBits) = e := by
      rw [exponent, hfield, Nat.add_sub_cancel, ← hsteps]
      omega
    rw [value, hsignificand, hexponent]

/-- A number whose significand is not too wide is a pattern: shifting fills the width, and the exponent
pays for the shift. -/
theorem exists_shifted {m : Nat} {e : Int} (hm : m ≠ 0) (hwidth : m.log2 ≤ g.fractionBits)
    (hleast : g.minExponent ≤ e - (g.fractionBits - m.log2 : ℕ))
    (hgreatest : (e - g.minExponent).toNat + 2 < 2 ^ g.exponentBits) :
    ∃ w, w < g.infinityBits ∧ value g w = m * 2 ^ e := by
  -- the significand lies between two powers of two, and so does the shifted one
  have hbelow := Nat.log2_self_le hm
  have habove := @Nat.lt_log2_self m
  have hfull : 2 ^ g.fractionBits ≤ m * 2 ^ (g.fractionBits - m.log2) := by
    have hshift : 2 ^ g.fractionBits = 2 ^ m.log2 * 2 ^ (g.fractionBits - m.log2) := by
      rw [← Nat.pow_add]
      congr 1
      omega
    rw [hshift]
    exact Nat.mul_le_mul_right _ hbelow
  have hfits : m * 2 ^ (g.fractionBits - m.log2) < 2 ^ (g.fractionBits + 1) := by
    have hshift : 2 ^ (g.fractionBits + 1) = 2 ^ (m.log2 + 1) * 2 ^ (g.fractionBits - m.log2) := by
      rw [← Nat.pow_add]
      congr 1
      omega
    rw [hshift]
    exact Nat.mul_lt_mul_of_pos_right habove (Nat.two_pow_pos _)
  obtain ⟨w, hw, hvalue⟩ := exists_pattern hfull hfits hleast (by omega)
  refine ⟨w, hw, ?_⟩
  rw [hvalue, zpow_sub₀ two_ne_zero, zpow_natCast]
  push_cast
  rw [mul_assoc, mul_div_cancel₀ _ (by positivity)]

/-- **Every finite number of 32 bits is one of 64 bits.** -/
theorem exists_widened {u : Nat} (hu : u < BinaryFormat.single.infinityBits) :
    ∃ w, w < BinaryFormat.double.infinityBits ∧ value .double w = value .single u := by
  by_cases hzero : significand .single u = 0
  · refine ⟨0, by decide, ?_⟩
    rw [value_zero, value, hzero, Nat.cast_zero, zero_mul]
  · -- a significand has 24 bits at most, and the exponents lie between two bounds
    have hwidth : (significand .single u).log2 < 24 :=
      (Nat.log2_lt hzero).mpr (significand_lt .single u)
    have hexponent : -149 ≤ exponent .single u ∧ exponent .single u ≤ 104 := by
      have hinfinity : BinaryFormat.single.infinityBits = 255 * 2 ^ 23 := by decide
      have hfraction : BinaryFormat.single.fractionBits = 23 := rfl
      have hleast : BinaryFormat.single.minExponent = -149 := by decide
      rw [exponent, hfraction, hleast]
      omega
    -- with all of its 52 places to shift by, the least exponent is still above that of 64 bits
    have hfraction : BinaryFormat.double.fractionBits = 52 := rfl
    have hleast : BinaryFormat.double.minExponent = -1074 := by decide
    have hgreatest : 2 ^ BinaryFormat.double.exponentBits = 2048 := by decide
    refine exists_shifted hzero ?_ ?_ ?_
    · omega
    · omega
    · omega

/-! ## Temperatures in the wider format and back -/

theorem decode_of_infinite {x : Binary f} (h : x.unsigned = f.infinityBits) :
    x.decode = .infinite x.negative := by
  unfold decode
  exact if_pos h

/-- Every pattern behind infinity decodes to the same thing, whatever its bits are. -/
theorem decode_of_isNaN {x : Binary f} (h : x.isNaN = true) : x.decode = .nan := by
  have hlt : f.infinityBits < x.unsigned := of_decide_eq_true h
  unfold decode
  exact (if_neg (Nat.ne_of_gt hlt)).trans (if_pos hlt)

/-- **A temperature in the wider format** has its sign, is zero if it is, and comes back as it was.
-/
theorem widened {x : Temperature} (hnan : x.isNaN = false) :
    ∃ w, w ≤ BinaryFormat.double.infinityBits
      ∧ (x.convert : Binary .double) = withSign x.negative w
      ∧ (w = 0 ↔ x.unsigned = 0)
      ∧ (x.convert : Binary .double).convert = (withSign x.negative x.unsigned : Temperature) := by
  have hplace := infinityBits_lt_signPlace .double
  have hle : x.unsigned ≤ BinaryFormat.single.infinityBits :=
    Nat.not_lt.mp (of_decide_eq_false hnan)
  rcases Nat.lt_or_eq_of_le hle with hfinite | hinfinite
  · obtain ⟨w, hw, hvalue⟩ := exists_widened hfinite
    have hconvert := convert_of_value hfinite hw hvalue
    have hunsigned := unsigned_withSign x.negative (hw.trans hplace)
    refine ⟨w, Nat.le_of_lt hw, hconvert, ⟨?_, ?_⟩, ?_⟩
    · rintro rfl
      rw [value_zero] at hvalue
      exact eq_zero_of_value hvalue.symm
    · intro hzero
      rw [hzero, value_zero] at hvalue
      exact eq_zero_of_value hvalue
    · rw [hconvert]
      have hback := convert_of_value (g := .single) (by rwa [hunsigned]) hfinite
        (hvalue.symm.trans (by rw [hunsigned]))
      rw [hback, negative_withSign x.negative (hw.trans hplace)]
  · -- infinity has no value, but both formats have it, and one goes over into the other
    have hconvert : (x.convert : Binary .double)
        = withSign x.negative BinaryFormat.double.infinityBits := by
      rw [convert, decode_of_infinite hinfinite]
      rfl
    have hsome : x.unsigned ≠ 0 := by
      rw [hinfinite]
      decide
    refine ⟨_, Nat.le_refl _, hconvert, ⟨fun h => ?_, fun h => absurd h hsome⟩, ?_⟩
    · exact absurd h (by decide)
    · have hback := decode_of_infinite (unsigned_withSign (f := .double) x.negative hplace)
      rw [hconvert, convert, hback, negative_withSign x.negative hplace, hinfinite]
      rfl

/-- **A temperature that is stored and read back is the same temperature.** -/
theorem convert_convert {x : Temperature} (hnan : x.isNaN = false) (hbits : x.bits < 2 ^ 32) :
    (x.convert : Binary .double).convert = x := by
  obtain ⟨w, -, -, -, hback⟩ := widened hnan
  exact hback.trans (withSign_unsigned hbits)

/-- **What is no number stays none,** and nothing else becomes one. -/
theorem isNaN_convert (x : Temperature) : (x.convert : Binary .double).isNaN = x.isNaN := by
  by_cases hnan : x.isNaN = true
  · rw [convert, decode_of_isNaN hnan, hnan]
    decide
  · obtain ⟨w, hw, hconvert, -⟩ := widened (Bool.eq_false_iff.mpr hnan)
    have hplace := Nat.lt_of_le_of_lt hw (infinityBits_lt_signPlace .double)
    rw [hconvert, isNaN, unsigned_withSign _ hplace, Bool.eq_false_iff.mpr hnan]
    exact decide_eq_false (Nat.not_lt.mpr hw)

/-- Only zero becomes zero: a temperature of the least size is still far from it in the wider
format. -/
theorem unsigned_convert_eq_zero {x : Temperature} (hnan : x.isNaN = false) :
    (x.convert : Binary .double).unsigned = 0 ↔ x.unsigned = 0 := by
  obtain ⟨w, hw, hconvert, hzero, -⟩ := widened hnan
  have hplace := Nat.lt_of_le_of_lt hw (infinityBits_lt_signPlace .double)
  rw [hconvert, unsigned_withSign _ hplace]
  exact hzero

end SensorGateway.Binary
