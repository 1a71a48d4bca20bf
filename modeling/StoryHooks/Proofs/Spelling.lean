import Mathlib.Algebra.Order.Archimedean.Basic
import Mathlib.Data.Int.Log
import Mathlib.Data.Rat.Floor
import Mathlib.Tactic.FieldSimp
import Mathlib.Tactic.IntervalCases
import Mathlib.Tactic.Positivity
import StoryHooks.Number.Format

/-!
# How a format spells its numbers

A number of a binary format is a mantissa times a power of two. Each has one spelling in which the
mantissa fills a binade, or the exponent is the smallest there is. Its pattern is that spelling read
as one natural number.

Results:
1. `floorLog2_eq_log`: the logarithm of a ratio is that of the rational number.
2. `Spells.unique`: a number has one spelling.
3. `decode_cases`, `decode_pattern`: patterns and spellings stand for each other.
-/

namespace StoryHooks.Number

/-! ## Powers of two -/

/-- A mantissa times a power of two. -/
def scaled (mantissa : Nat) (exponent : Int) : ℚ := mantissa * 2 ^ exponent

theorem scaled_zero (exponent : Int) : scaled 0 exponent = 0 := by
  rw [scaled, Nat.cast_zero, zero_mul]

theorem scaled_two_pow (k : Nat) (exponent : Int) :
    scaled (2 ^ k) exponent = 2 ^ (k + exponent) := by
  rw [scaled, Nat.cast_pow, Nat.cast_two, zpow_add₀ two_ne_zero, zpow_natCast]

theorem scaled_inj {mantissa mantissa' : Nat} {exponent : Int} :
    scaled mantissa exponent = scaled mantissa' exponent ↔ mantissa = mantissa' := by
  rw [scaled, scaled, mul_left_inj' (zpow_ne_zero exponent two_ne_zero), Nat.cast_inj]

theorem scaled_lt_scaled {mantissa mantissa' : Nat} {exponent : Int} :
    scaled mantissa exponent < scaled mantissa' exponent ↔ mantissa < mantissa' := by
  rw [scaled, scaled, mul_lt_mul_iff_left₀ (zpow_pos two_pos exponent), Nat.cast_lt]

/-- What is shifted into the mantissa is taken from the exponent. -/
theorem scaled_shift (mantissa shift : Nat) (exponent : Int) :
    scaled (mantissa <<< shift) (exponent - shift) = scaled mantissa exponent := by
  rw [scaled, scaled, Nat.shiftLeft_eq, Nat.cast_mul, Nat.cast_pow, Nat.cast_two,
    zpow_sub₀ two_ne_zero, zpow_natCast]
  field_simp

theorem shiftLeft_pos {n : Nat} (hn : n ≠ 0) (shift : Nat) : 0 < n <<< shift := by
  rw [Nat.shiftLeft_eq]
  exact Nat.mul_pos (Nat.pos_of_ne_zero hn) (Nat.two_pow_pos shift)

/-- A power of two that multiplies a ratio is shifted into its numerator or its denominator. -/
theorem shifted_div (num den : Nat) (exponent : Int) :
    ((num <<< exponent.toNat : Nat) : ℚ) / (den <<< (-exponent).toNat : Nat) =
      num / den * 2 ^ exponent := by
  rcases exponent.eq_nat_or_neg with ⟨n, rfl | rfl⟩
  · simp [Nat.shiftLeft_eq, div_mul_eq_mul_div]
  · simp [Nat.shiftLeft_eq, div_mul_eq_div_div, ← div_eq_mul_inv]

theorem log_eq_of_bounds {r : ℚ} {k : Int} (hlow : 2 ^ k ≤ r) (hhigh : r < 2 ^ (k + 1)) :
    Int.log 2 r = k := by
  have hr : 0 < r := (zpow_pos two_pos k).trans_le hlow
  have hle : k ≤ Int.log 2 r := (Int.zpow_le_iff_le_log one_lt_two hr).mp hlow
  have hlt : Int.log 2 r < k + 1 := (Int.lt_zpow_iff_log_lt one_lt_two hr).mp hhigh
  omega

/-- A ratio is compared with a power of two by shifting one of its parts. -/
theorem shiftLeft_le_shiftLeft_iff {num den : Nat} (hden : den ≠ 0) (exponent : Int) :
    den <<< exponent.toNat ≤ num <<< (-exponent).toNat ↔ (2 : ℚ) ^ exponent ≤ num / den := by
  have hshifted : (0 : ℚ) < (den <<< exponent.toNat : Nat) := by
    rw [Nat.shiftLeft_eq]
    positivity
  have hratio := shifted_div num den (-exponent)
  rw [neg_neg, zpow_neg, ← div_eq_mul_inv] at hratio
  rw [← Nat.cast_le (α := ℚ), ← one_le_div hshifted, hratio,
    one_le_div (zpow_pos two_pos exponent)]

/-- The binary logarithms of two numbers give that of their ratio up to one. -/
theorem ratio_bounds {num den : Nat} (hnum : num ≠ 0) (hden : den ≠ 0) :
    (2 : ℚ) ^ ((num.log2 : Int) - den.log2 - 1) ≤ num / den ∧
      (num / den : ℚ) < 2 ^ ((num.log2 : Int) - den.log2 + 1) := by
  have hd : (0 : ℚ) < den := by positivity
  have hnlow : (2 : ℚ) ^ num.log2 ≤ num := mod_cast Nat.log2_self_le hnum
  have hnhigh : (num : ℚ) < 2 ^ (num.log2 + 1) := mod_cast Nat.lt_log2_self
  have hdlow : (2 : ℚ) ^ den.log2 ≤ den := mod_cast Nat.log2_self_le hden
  have hdhigh : (den : ℚ) < 2 ^ (den.log2 + 1) := mod_cast Nat.lt_log2_self
  constructor
  · calc (2 : ℚ) ^ ((num.log2 : Int) - den.log2 - 1)
        = 2 ^ num.log2 / 2 ^ (den.log2 + 1) := by
          rw [sub_sub, zpow_sub₀ two_ne_zero]
          norm_cast
      _ ≤ num / den := by gcongr
  · calc (num / den : ℚ)
        < 2 ^ (num.log2 + 1) / 2 ^ den.log2 := by gcongr
      _ = 2 ^ ((num.log2 : Int) - den.log2 + 1) := by
          rw [sub_add_eq_add_sub, zpow_sub₀ two_ne_zero]
          norm_cast

theorem floorLog2_eq_log {num den : Nat} (hnum : num ≠ 0) (hden : den ≠ 0) :
    floorLog2 num den = Int.log 2 (num / den : ℚ) := by
  obtain ⟨hlow, hhigh⟩ := ratio_bounds hnum hden
  simp only [floorLog2, shiftLeft_le_shiftLeft_iff hden]
  split
  · next hguess => exact (log_eq_of_bounds hguess hhigh).symm
  · next hguess =>
    rw [not_le] at hguess
    exact (log_eq_of_bounds hlow (by rwa [sub_add_cancel])).symm

/-! ## Spellings -/

namespace Format

/-- Enough bits to tell an infinity from NaN and from a finite number. -/
structure Proper (f : Format) : Prop where
  two_le_precision : 2 ≤ f.precision
  exponentBits_pos : 0 < f.exponentBits

theorem single_proper : single.Proper := ⟨by decide, by decide⟩

theorem double_proper : double.Proper := ⟨by decide, by decide⟩

theorem binade_pos (f : Format) : 0 < f.binade := Nat.two_pow_pos _

theorem two_mul_binade {f : Format} (hf : f.Proper) : 2 * f.binade = 2 ^ f.precision := by
  have hone : f.precision - 1 + 1 = f.precision :=
    Nat.sub_add_cancel (Nat.le_of_lt hf.two_le_precision)
  rw [← hone, Nat.pow_succ']
  rfl

theorem binade_even {f : Format} (hf : f.Proper) : f.binade % 2 = 0 := by
  have htwo : f.precision - 2 + 1 = f.precision - 1 := by
    have := hf.two_le_precision
    omega
  rw [binade, ← htwo]
  exact Nat.mul_mod_left _ 2

theorem two_le_exponents {f : Format} (hf : f.Proper) : 2 ≤ f.exponents :=
  Nat.le_self_pow hf.exponentBits_pos.ne' 2

/-- The mantissa and exponent are as the format spells them: the mantissa is below two binades, and
fills one unless the exponent is the smallest. -/
structure Spells (f : Format) (mantissa : Nat) (exponent : Int) : Prop where
  mantissa_lt : mantissa < 2 * f.binade
  minExponent_le : f.minExponent ≤ exponent
  full : f.binade ≤ mantissa ∨ exponent = f.minExponent

/-- The pattern of a spelling, without the sign. -/
def pattern (f : Format) (mantissa : Nat) (exponent : Int) : Nat :=
  (exponent - f.minExponent).toNat * f.binade + mantissa

section Spells
variable {f : Format} {mantissa fraction : Nat} {exponent : Int}

theorem pattern_min (f : Format) (mantissa : Nat) :
    f.pattern mantissa f.minExponent = mantissa := by
  rw [pattern, sub_self, Int.toNat_zero, Nat.zero_mul, Nat.zero_add]

/-- The leading bit of a full mantissa counts as one more in the exponent field. -/
theorem pattern_full (f : Format) (steps fraction : Nat) :
    f.pattern (f.binade + fraction) (f.minExponent + steps) =
      (steps + 1) * f.binade + fraction := by
  rw [pattern, add_sub_cancel_left, Int.toNat_natCast, Nat.add_one_mul, Nat.add_assoc]

/-- A mantissa falls short of a binade, at the smallest exponent, or fills one, some steps on. -/
theorem Spells.cases (hs : f.Spells mantissa exponent) :
    (mantissa < f.binade ∧ exponent = f.minExponent) ∨
    ∃ steps fraction : Nat, fraction < f.binade ∧ mantissa = f.binade + fraction ∧
      exponent = f.minExponent + steps := by
  by_cases hfull : f.binade ≤ mantissa
  · obtain ⟨fraction, rfl⟩ := Nat.exists_eq_add_of_le hfull
    obtain ⟨steps, rfl⟩ := Int.le.dest hs.minExponent_le
    have hlt := hs.mantissa_lt
    exact .inr ⟨steps, fraction, by omega, rfl, rfl⟩
  · exact .inl ⟨Nat.not_le.mp hfull, hs.full.resolve_left hfull⟩

/-- A full mantissa at a greater exponent makes a greater number. -/
theorem Spells.scaled_lt {mantissa' : Nat} {exponent' : Int} (hs : f.Spells mantissa exponent)
    (hfull : f.binade ≤ mantissa') (hlt : exponent < exponent') :
    scaled mantissa exponent < scaled mantissa' exponent' := by
  obtain ⟨steps, rfl⟩ := Int.le.dest (Int.add_one_le_of_lt hlt)
  have hexponent : exponent + 1 + steps - (steps + 1 : Nat) = exponent := by omega
  rw [← scaled_shift mantissa' (steps + 1), hexponent, scaled_lt_scaled, Nat.shiftLeft_eq]
  calc mantissa < f.binade * 2 := Nat.mul_comm 2 _ ▸ hs.mantissa_lt
    _ ≤ mantissa' * 2 ^ (steps + 1) :=
      Nat.mul_le_mul hfull (Nat.le_self_pow (Nat.succ_ne_zero steps) 2)

/-- The exponent of a spelling is as small as it can be. -/
theorem Spells.exponent_le {mantissa' : Nat} {exponent' : Int} (hs : f.Spells mantissa exponent)
    (hs' : f.Spells mantissa' exponent')
    (h : scaled mantissa exponent = scaled mantissa' exponent') : exponent ≤ exponent' := by
  by_contra hlt
  have hmin := hs'.minExponent_le
  exact (hs'.scaled_lt (hs.full.resolve_right (by omega)) (by omega)).ne h.symm

/-- A number has one spelling. -/
theorem Spells.unique {mantissa' : Nat} {exponent' : Int} (hs : f.Spells mantissa exponent)
    (hs' : f.Spells mantissa' exponent')
    (h : scaled mantissa exponent = scaled mantissa' exponent') :
    mantissa = mantissa' ∧ exponent = exponent' := by
  obtain rfl := le_antisymm (hs.exponent_le hs' h) (hs'.exponent_le hs h.symm)
  exact ⟨scaled_inj.mp h, rfl⟩

/-- The exponent field of a finite number is not that of infinity. -/
theorem fields_lt_infinity_iff {biased : Nat} (hfraction : fraction < f.binade) :
    biased * f.binade + fraction < f.infinity ↔ biased < f.exponents - 1 := by
  constructor
  · intro h
    exact Nat.lt_of_mul_lt_mul_right (Nat.lt_of_le_of_lt (Nat.le_add_right _ _) h)
  · intro h
    calc biased * f.binade + fraction
        < (biased + 1) * f.binade := by rw [Nat.add_one_mul]; omega
      _ ≤ f.infinity := Nat.mul_le_mul_right _ h

/-- A full mantissa is finite if its exponent leaves room for two more binades. -/
theorem pattern_lt_infinity_iff (hs : f.Spells mantissa exponent) (hfull : f.binade ≤ mantissa) :
    f.pattern mantissa exponent < f.infinity ↔ exponent + 3 ≤ f.minExponent + f.exponents := by
  rcases hs.cases with ⟨hlt, -⟩ | ⟨steps, fraction, hfraction, rfl, rfl⟩
  · exact absurd hfull (Nat.not_le.mpr hlt)
  · rw [pattern_full, fields_lt_infinity_iff hfraction]
    omega

end Spells

/-! ## Patterns -/

section Patterns
variable {f : Format} {bits mantissa : Nat} {exponent : Int}

/-- A pattern is read by its fields. -/
theorem decode_fields {biased fraction : Nat} (hbiased : biased < f.exponents)
    (hfraction : fraction < f.binade) (negative : Bool) :
    f.decode (negative.toNat * f.signWeight + (biased * f.binade + fraction)) =
      if biased = f.exponents - 1 then
        if fraction = 0 then .infinite negative else .nan
      else if biased = 0 then .finite negative fraction f.minExponent
      else .finite negative (f.binade + fraction) (f.minExponent + (biased - 1 : Nat)) := by
  have hbits : negative.toNat * f.signWeight + (biased * f.binade + fraction) =
      fraction + (biased + negative.toNat * f.exponents) * f.binade := by
    rw [signWeight]
    ring
  have hdiv : (fraction + (biased + negative.toNat * f.exponents) * f.binade) / f.binade =
      biased + negative.toNat * f.exponents := by
    rw [Nat.add_mul_div_right _ _ f.binade_pos, Nat.div_eq_of_lt hfraction, Nat.zero_add]
  have hmod : (fraction + (biased + negative.toNat * f.exponents) * f.binade) % f.binade =
      fraction := by
    rw [Nat.add_mul_mod_self_right, Nat.mod_eq_of_lt hfraction]
  have hnegative : ((biased + negative.toNat * f.exponents) / f.exponents % 2 == 1) = negative := by
    rw [Nat.add_mul_div_right _ _ (Nat.zero_lt_of_lt hbiased), Nat.div_eq_of_lt hbiased]
    cases negative <;> rfl
  rw [hbits, decode]
  simp only [signWeight, Nat.mul_comm f.exponents f.binade, ← Nat.div_div_eq_div_mul, hdiv, hmod,
    hnegative, Nat.add_mul_mod_self_right, Nat.mod_eq_of_lt hbiased]

/-- Every pattern has its fields. -/
theorem exists_fields (h : bits < 2 * f.signWeight) :
    ∃ (negative : Bool) (biased fraction : Nat), biased < f.exponents ∧ fraction < f.binade ∧
      bits = negative.toNat * f.signWeight + (biased * f.binade + fraction) := by
  have hsign : bits / f.signWeight < 2 := Nat.div_lt_of_lt_mul (Nat.mul_comm 2 _ ▸ h)
  have hweight : 0 < f.signWeight := Nat.pos_of_ne_zero (by rintro hz; simp [hz] at h)
  have hrest : bits % f.signWeight < f.binade * f.exponents :=
    Nat.mul_comm f.exponents f.binade ▸ Nat.mod_lt bits hweight
  have hbits : bits = bits / f.signWeight * f.signWeight +
      (bits % f.signWeight / f.binade * f.binade + bits % f.signWeight % f.binade) := by
    rw [Nat.div_add_mod', Nat.div_add_mod']
  have htoNat : (decide (bits / f.signWeight = 1)).toNat = bits / f.signWeight := by
    interval_cases bits / f.signWeight <;> rfl
  exact ⟨decide (bits / f.signWeight = 1), _, _, Nat.div_lt_of_lt_mul hrest,
    Nat.mod_lt _ f.binade_pos, htoNat.symm ▸ hbits⟩

/-- A spelling below infinity is what its pattern is read as. -/
theorem decode_pattern (hs : f.Spells mantissa exponent)
    (hfinite : f.pattern mantissa exponent < f.infinity) (negative : Bool) :
    f.decode (negative.toNat * f.signWeight + f.pattern mantissa exponent) =
      .finite negative mantissa exponent := by
  rcases hs.cases with ⟨hlt, rfl⟩ | ⟨steps, fraction, hfraction, rfl, rfl⟩
  · rw [pattern_min, ← Nat.zero_add mantissa, ← Nat.zero_mul f.binade] at hfinite ⊢
    have hbiased := (fields_lt_infinity_iff hlt).mp hfinite
    rw [decode_fields (by omega) hlt, if_neg hbiased.ne, if_pos rfl]
    simp
  · rw [pattern_full] at hfinite ⊢
    have hbiased := (fields_lt_infinity_iff hfraction).mp hfinite
    rw [decode_fields (by omega) hfraction, if_neg hbiased.ne, if_neg (Nat.succ_ne_zero steps),
      Nat.add_sub_cancel]

/-- The fields of a finite number are those of a spelling. -/
theorem exists_spells {biased fraction : Nat} (hbiased : biased < f.exponents - 1)
    (hfraction : fraction < f.binade) :
    ∃ mantissa exponent, f.Spells mantissa exponent ∧
      f.pattern mantissa exponent = biased * f.binade + fraction := by
  cases biased with
  | zero =>
    refine ⟨fraction, f.minExponent, ⟨by omega, le_rfl, .inr rfl⟩, ?_⟩
    rw [pattern_min, Nat.zero_mul, Nat.zero_add]
  | succ steps =>
    exact ⟨f.binade + fraction, f.minExponent + steps,
      ⟨by omega, by omega, .inl (Nat.le_add_right _ _)⟩, f.pattern_full steps fraction⟩

/-- A pattern is that of NaN, of an infinity, or of a spelling. -/
theorem decode_cases (h : bits < 2 * f.signWeight) :
    f.decode bits = .nan ∨
    (∃ negative, f.decode bits = .infinite negative ∧
      bits = negative.toNat * f.signWeight + f.infinity) ∨
    ∃ negative mantissa exponent, f.decode bits = .finite negative mantissa exponent ∧
      f.Spells mantissa exponent ∧ f.pattern mantissa exponent < f.infinity ∧
      bits = negative.toNat * f.signWeight + f.pattern mantissa exponent := by
  obtain ⟨negative, biased, fraction, hbiased, hfraction, rfl⟩ := exists_fields h
  by_cases htop : biased = f.exponents - 1
  · rw [decode_fields hbiased hfraction, if_pos htop]
    split
    · next hzero =>
      refine .inr (.inl ⟨negative, rfl, ?_⟩)
      rw [hzero, htop, infinity, Nat.add_zero]
    · exact .inl rfl
  · have hlt : biased < f.exponents - 1 := by omega
    obtain ⟨mantissa, exponent, hs, hpattern⟩ := exists_spells hlt hfraction
    rw [← fields_lt_infinity_iff hfraction, ← hpattern] at hlt
    rw [← hpattern]
    exact .inr (.inr ⟨negative, mantissa, exponent, decode_pattern hs hlt negative, hs, hlt, rfl⟩)

end Patterns

end Format

end StoryHooks.Number
