import Mathlib.Tactic.Linarith
import StoryHooks.Proofs.Spelling

/-!
# Rounding

A ratio is rounded to the closest of all the numbers that a format would spell if its exponents
could grow without end; one that is too great for its patterns is infinite. Of two that are equally
close the one with the even mantissa is taken.

Results:
1. `roundHalfEven_closest`: rounding to naturals.
2. `nearest_closest`: rounding to the numbers of a format.
3. `nearest_of_spells`: so a number of the format is rounded to itself.
-/

namespace StoryHooks.Number

/-! ## Rounding to naturals -/

/-- What is rounded is less than a half away, or a half and the result is even. -/
theorem roundHalfEven_cases (num : Nat) {den : Nat} (hden : 0 < den) :
    |(num / den : ℚ) - roundHalfEven num den| < 1 / 2 ∨
      |(num / den : ℚ) - roundHalfEven num den| = 1 / 2 ∧ roundHalfEven num den % 2 = 0 := by
  have hd : (0 : ℚ) < den := Nat.cast_pos.mpr hden
  have hratio : (num / den : ℚ) = (num / den : Nat) + (num % den : Nat) / den := by
    rw [div_eq_iff hd.ne', add_mul, div_mul_cancel₀ _ hd.ne']
    exact_mod_cast (Nat.div_add_mod' num den).symm
  have hrest : (0 : ℚ) ≤ (num % den : Nat) / den := by positivity
  have hrest' : ((num % den : Nat) / den : ℚ) < 1 := by
    rw [div_lt_one hd]
    exact_mod_cast Nat.mod_lt num hden
  rw [hratio, roundHalfEven]
  rcases Nat.lt_trichotomy (2 * (num % den)) den with hlt | heq | hlt
  · have hhalf : ((num % den : Nat) / den : ℚ) < 1 / 2 := by
      rw [div_lt_div_iff₀ hd two_pos]
      exact_mod_cast (show num % den * 2 < 1 * den by omega)
    left
    rw [if_pos hlt, add_sub_cancel_left, abs_of_nonneg hrest]
    exact hhalf
  · have hhalf : ((num % den : Nat) / den : ℚ) = 1 / 2 := by
      rw [div_eq_div_iff hd.ne' two_ne_zero]
      exact_mod_cast (show num % den * 2 = 1 * den by omega)
    right
    rw [if_neg (by omega), if_neg (by omega), hhalf]
    rcases Nat.mod_two_eq_zero_or_one (num / den) with heven | hodd
    · rw [heven]
      refine ⟨?_, heven⟩
      norm_num
    · rw [hodd]
      refine ⟨?_, by omega⟩
      push_cast
      rw [add_sub_add_left_eq_sub]
      norm_num
  · have hhalf : (1 / 2 : ℚ) < (num % den : Nat) / den := by
      rw [div_lt_div_iff₀ two_pos hd]
      exact_mod_cast (show 1 * den < num % den * 2 by omega)
    left
    rw [if_neg (by omega), if_pos hlt]
    push_cast
    rw [add_sub_add_left_eq_sub, abs_lt]
    constructor <;> linarith

theorem abs_sub_roundHalfEven_le (num : Nat) {den : Nat} (hden : 0 < den) :
    |(num / den : ℚ) - roundHalfEven num den| ≤ 1 / 2 := by
  rcases roundHalfEven_cases num hden with h | ⟨h, -⟩
  · exact h.le
  · exact h.le

/-- No integer is closer, and another one is as close only if the result is even. -/
theorem roundHalfEven_closest (num : Nat) {den : Nat} (hden : 0 < den) (k : Int) :
    |(num / den : ℚ) - roundHalfEven num den| ≤ |(num / den : ℚ) - k| ∧
      (|(num / den : ℚ) - k| = |(num / den : ℚ) - roundHalfEven num den| →
        k = roundHalfEven num den ∨ roundHalfEven num den % 2 = 0) := by
  by_cases hk : k = roundHalfEven num den
  · rw [hk, Int.cast_natCast]
    exact ⟨le_rfl, fun _ => .inl rfl⟩
  · have hapart : (1 : ℚ) ≤ |(k : ℚ) - roundHalfEven num den| := by
      exact_mod_cast Int.one_le_abs (sub_ne_zero.mpr hk)
    have htriangle : |(k : ℚ) - roundHalfEven num den| ≤
        |(num / den : ℚ) - roundHalfEven num den| + |(num / den : ℚ) - k| := by
      rw [add_comm, abs_sub_comm (num / den : ℚ) k]
      exact abs_sub_le _ _ _
    rcases roundHalfEven_cases num hden with h | ⟨h, heven⟩
    · exact ⟨by linarith, fun heq => absurd heq (by linarith)⟩
    · exact ⟨by linarith, fun _ => .inr heven⟩

/-! ## Rounding to the numbers of a format -/

namespace Format

/-- The mantissa that a ratio is rounded to in multiples of a unit. -/
def mantissaAt (unit : Int) (num den : Nat) : Nat :=
  roundHalfEven (num <<< (-unit).toNat) (den <<< unit.toNat)

theorem units_eq (num den : Nat) (unit : Int) :
    ((num <<< (-unit).toNat : Nat) : ℚ) / (den <<< unit.toNat : Nat) = num / den / 2 ^ unit := by
  have hratio := shifted_div num den (-unit)
  rwa [neg_neg, zpow_neg, ← div_eq_mul_inv] at hratio

theorem nearest_eq (f : Format) {num : Nat} (hnum : num ≠ 0) (den : Nat) :
    f.nearest num den = min f.infinity
      (f.pattern (mantissaAt (f.unitExponent num den) num den) (f.unitExponent num den)) := by
  rw [nearest, if_neg hnum]
  rfl

section Unit
variable (num : Nat) {den : Nat} (hden : den ≠ 0) (unit : Int)
include hden

theorem abs_sub_mantissaAt_le :
    |(num / den / 2 ^ unit : ℚ) - mantissaAt unit num den| ≤ 1 / 2 := by
  have hclose := abs_sub_roundHalfEven_le (num <<< (-unit).toNat) (shiftLeft_pos hden unit.toNat)
  rwa [units_eq] at hclose

/-- No multiple of the unit is closer, and another one is as close only if the mantissa is even. -/
theorem mantissaAt_closest (k : Nat) :
    |(num / den : ℚ) - scaled (mantissaAt unit num den) unit| ≤ |(num / den : ℚ) - scaled k unit| ∧
      (|(num / den : ℚ) - scaled k unit| =
          |(num / den : ℚ) - scaled (mantissaAt unit num den) unit| →
        k = mantissaAt unit num den ∨ mantissaAt unit num den % 2 = 0) := by
  have hunit : (0 : ℚ) < 2 ^ unit := zpow_pos two_pos unit
  have hdistance (n : Nat) :
      |(num / den : ℚ) - scaled n unit| = |(num / den / 2 ^ unit : ℚ) - n| * 2 ^ unit := by
    rw [← abs_of_pos hunit, ← abs_mul, abs_of_pos hunit, sub_mul, div_mul_cancel₀ _ hunit.ne']
    rfl
  have hclosest := roundHalfEven_closest (num <<< (-unit).toNat) (shiftLeft_pos hden unit.toNat) k
  rw [units_eq, Int.cast_natCast, Nat.cast_inj] at hclosest
  rw [hdistance, hdistance, mul_left_inj' hunit.ne']
  exact ⟨mul_le_mul_of_nonneg_right hclosest.1 hunit.le, hclosest.2⟩

end Unit

section UnitExponent
variable {f : Format} {num den : Nat} (hnum : num ≠ 0) (hden : den ≠ 0)
include hnum hden

/-- A ratio is less than two binades of its unit. -/
theorem lt_scaled_unitExponent (hf : f.Proper) :
    (num / den : ℚ) < scaled (2 * f.binade) (f.unitExponent num den) := by
  have hp := hf.two_le_precision
  rw [two_mul_binade hf, scaled_two_pow]
  refine (Int.lt_zpow_succ_log_self one_lt_two _).trans_le ?_
  rw [unitExponent, floorLog2_eq_log hnum hden]
  exact zpow_le_zpow_right₀ one_le_two (by omega)

/-- A ratio is a binade of its unit at least, unless there is no smaller unit. -/
theorem scaled_unitExponent_le (hunit : f.unitExponent num den ≠ f.minExponent) :
    scaled f.binade (f.unitExponent num den) ≤ num / den := by
  have hr : (0 : ℚ) < num / den := by positivity
  have hlog : ((f.precision - 1 : Nat) : Int) + f.unitExponent num den =
      Int.log 2 (num / den : ℚ) := by
    rw [unitExponent, floorLog2_eq_log hnum hden] at hunit ⊢
    omega
  rw [show f.binade = 2 ^ (f.precision - 1) from rfl, scaled_two_pow, hlog]
  exact Int.zpow_log_le_self one_lt_two hr

/-- A mantissa fills two binades at most. -/
theorem mantissaAt_le (hf : f.Proper) :
    mantissaAt (f.unitExponent num den) num den ≤ 2 * f.binade := by
  have hunit : (0 : ℚ) < 2 ^ f.unitExponent num den := zpow_pos two_pos _
  have hlt : (num / den / 2 ^ f.unitExponent num den : ℚ) < (2 * f.binade : Nat) :=
    (div_lt_iff₀ hunit).mpr (lt_scaled_unitExponent hnum hden hf)
  have hclose := abs_le.mp (abs_sub_mantissaAt_le num hden (f.unitExponent num den))
  refine Nat.le_of_lt_succ ?_
  rw [← Nat.cast_lt (α := ℚ), Nat.cast_succ]
  linarith

/-- It fills one at least, unless there is no smaller unit. -/
theorem le_mantissaAt (hunit : f.unitExponent num den ≠ f.minExponent) :
    f.binade ≤ mantissaAt (f.unitExponent num den) num den := by
  have hpos : (0 : ℚ) < 2 ^ f.unitExponent num den := zpow_pos two_pos _
  have hle : (f.binade : ℚ) ≤ num / den / 2 ^ f.unitExponent num den :=
    (le_div_iff₀ hpos).mpr (scaled_unitExponent_le hnum hden hunit)
  have hclose := abs_le.mp (abs_sub_mantissaAt_le num hden (f.unitExponent num den))
  refine Nat.le_of_lt_succ ?_
  rw [← Nat.cast_lt (α := ℚ), Nat.cast_succ]
  linarith

end UnitExponent

/-- The spelling is that of the closest number there is to a ratio, and its mantissa is even if
another is as close. -/
structure Closest (f : Format) (r : ℚ) (mantissa : Nat) (exponent : Int) : Prop where
  spells : f.Spells mantissa exponent
  le {mantissa' : Nat} {exponent' : Int} : f.Spells mantissa' exponent' →
    |r - scaled mantissa exponent| ≤ |r - scaled mantissa' exponent'|
  even_of_eq {mantissa' : Nat} {exponent' : Int} : f.Spells mantissa' exponent' →
    |r - scaled mantissa' exponent'| = |r - scaled mantissa exponent| →
      scaled mantissa' exponent' = scaled mantissa exponent ∨ mantissa % 2 = 0

section Nearest
variable {f : Format} {num den mantissa : Nat} {exponent unit : Int}

/-- No number of the format is closer than the multiple of the unit, and another one is as close
only if the mantissa is even. -/
theorem mantissaAt_closest_of_spells (hden : den ≠ 0)
    (hbinade : unit ≠ f.minExponent → scaled f.binade unit ≤ num / den)
    (hs : f.Spells mantissa exponent) :
    |(num / den : ℚ) - scaled (mantissaAt unit num den) unit| ≤
        |(num / den : ℚ) - scaled mantissa exponent| ∧
      (|(num / den : ℚ) - scaled mantissa exponent| =
          |(num / den : ℚ) - scaled (mantissaAt unit num den) unit| →
        scaled mantissa exponent = scaled (mantissaAt unit num den) unit ∨
          mantissaAt unit num den % 2 = 0) := by
  by_cases hle : unit ≤ exponent
  · obtain ⟨shift, rfl⟩ := Int.le.dest hle
    have hscaled := scaled_shift mantissa shift (unit + shift)
    rw [add_sub_cancel_right] at hscaled
    rw [← hscaled, scaled_inj]
    exact mantissaAt_closest num hden unit (mantissa <<< shift)
  · -- the number is less than a binade of the unit, which is a multiple and no more than the ratio
    have hexponent := hs.minExponent_le
    have hratio := hbinade (by omega)
    have hless := hs.scaled_lt le_rfl (Int.not_le.mp hle)
    have hgrid := (mantissaAt_closest num hden unit f.binade).1
    rw [abs_of_nonneg (sub_nonneg.mpr hratio)] at hgrid
    rw [abs_of_nonneg (sub_nonneg.mpr (hless.le.trans hratio))]
    exact ⟨by linarith, fun heq => absurd heq (by linarith)⟩

/-- A mantissa of two binades is one binade at the next exponent. -/
theorem pattern_carry (hmin : f.minExponent ≤ unit) :
    f.pattern f.binade (unit + 1) = f.pattern (2 * f.binade) unit := by
  rw [pattern, pattern, show (unit + 1 - f.minExponent).toNat = (unit - f.minExponent).toNat + 1 by
    omega, Nat.add_one_mul, Nat.add_assoc, Nat.two_mul]

theorem scaled_carry (f : Format) (unit : Int) :
    scaled f.binade (unit + 1) = scaled (2 * f.binade) unit := by
  have hscaled := scaled_shift f.binade 1 (unit + 1)
  rw [Nat.cast_one, add_sub_cancel_right, Nat.shiftLeft_eq, Nat.pow_one, Nat.mul_comm] at hscaled
  exact hscaled.symm

/-- A ratio is rounded to the closest number, or to infinity where that has no pattern. -/
theorem nearest_closest (hf : f.Proper) (num : Nat) (hden : den ≠ 0) :
    ∃ mantissa exponent, f.Closest (num / den) mantissa exponent ∧
      f.nearest num den = min f.infinity (f.pattern mantissa exponent) := by
  by_cases hnum : num = 0
  · have hzero : f.Spells 0 f.minExponent :=
      ⟨Nat.mul_pos two_pos f.binade_pos, le_rfl, .inr rfl⟩
    refine ⟨0, f.minExponent, ⟨hzero, fun _ => ?_, fun _ _ => .inr rfl⟩, ?_⟩
    · rw [hnum, scaled_zero, Nat.cast_zero, zero_div, sub_self, abs_zero]
      exact abs_nonneg _
    · rw [nearest, if_pos hnum, pattern_min, Nat.min_zero]
  · have hmin : f.minExponent ≤ f.unitExponent num den := le_max_left _ _
    have hclosest {mantissa : Nat} {exponent : Int} (hs : f.Spells mantissa exponent) :=
      mantissaAt_closest_of_spells hden (scaled_unitExponent_le hnum hden) hs
    rw [f.nearest_eq hnum]
    rcases Nat.lt_or_eq_of_le (mantissaAt_le hnum hden hf) with hlt | hcarry
    · refine ⟨_, _, ⟨⟨hlt, hmin, ?_⟩, fun hs => (hclosest hs).1, fun hs => (hclosest hs).2⟩, rfl⟩
      by_cases hunit : f.unitExponent num den = f.minExponent
      · exact .inr hunit
      · exact .inl (le_mantissaAt hnum hden hunit)
    · rw [hcarry, ← scaled_carry] at hclosest
      have hspells : f.Spells f.binade (f.unitExponent num den + 1) :=
        ⟨by have := f.binade_pos; omega, by omega, .inl le_rfl⟩
      refine ⟨_, _, ⟨hspells, fun hs => (hclosest hs).1, fun _ _ => .inr (binade_even hf)⟩, ?_⟩
      rw [hcarry, pattern_carry hmin]

/-- A number of the format is rounded to the pattern of its spelling. -/
theorem nearest_of_spells (hf : f.Proper) (hs : f.Spells mantissa exponent) (hden : den ≠ 0)
    (h : (num / den : ℚ) = scaled mantissa exponent) :
    f.nearest num den = min f.infinity (f.pattern mantissa exponent) := by
  obtain ⟨mantissa', exponent', hclosest, hnearest⟩ := nearest_closest hf num hden
  have hle := hclosest.le hs
  rw [h, sub_self, abs_zero, abs_nonpos_iff, sub_eq_zero] at hle
  obtain ⟨rfl, rfl⟩ := hs.unique hclosest.spells hle
  exact hnearest

end Nearest

end Format

end StoryHooks.Number
