import StoryHooks.Proofs.RoundTrip

/-!
# Numbers that are integers

A number passes for an integer if it is one, in the exact sense: its value is the integer, whatever
its mantissa and exponent are. No rounding and no bound of the format comes into it.

Results:
1. `scaled_eq_natCast_iff`: when a mantissa times a power of two is a natural number, by its bits.
2. `Datum.toInt?_eq_some_iff`: the integer of a datum is its value.
3. `integral?_eq_some_iff_test`: to cut off the fraction and compare with the numbers nearest to the
   least and the greatest integer comes to the same.
4. `number_converts_exactly`: what is converted, to what, and what is refused.
-/

namespace StoryHooks

namespace Number

/-- The value of a datum, if it is finite. -/
def Datum.value? : Datum → Option ℚ
  | .finite negative mantissa exponent =>
    some (if negative then -scaled mantissa exponent else scaled mantissa exponent)
  | _ => none

theorem scaled_nonneg (mantissa : Nat) (exponent : Int) : 0 ≤ scaled mantissa exponent :=
  mul_nonneg mantissa.cast_nonneg (zpow_nonneg two_pos.le exponent)

/-- A mantissa times a power of two is a natural number if no bit is worth less than one. -/
theorem scaled_eq_natCast_iff {mantissa n : Nat} {exponent : Int} :
    scaled mantissa exponent = n ↔
      mantissa % 1 <<< (-exponent).toNat = 0 ∧
        mantissa <<< exponent.toNat >>> (-exponent).toNat = n := by
  rcases exponent.eq_nat_or_neg with ⟨k, rfl | rfl⟩
  · have hscaled : scaled mantissa k = (mantissa <<< k : Nat) := by
      rw [scaled, Nat.shiftLeft_eq, zpow_natCast]
      push_cast
      rfl
    rw [hscaled, Nat.cast_inj]
    simp [Nat.mod_one]
  · have hpow : ((2 ^ k : Nat) : ℚ) ≠ 0 := Nat.cast_ne_zero.mpr (Nat.two_pow_pos k).ne'
    have hscaled : scaled mantissa (-k) = n ↔ mantissa = n * 2 ^ k := by
      rw [scaled, zpow_neg, zpow_natCast, ← div_eq_mul_inv, ← Nat.cast_ofNat, ← Nat.cast_pow,
        div_eq_iff hpow, ← Nat.cast_mul, Nat.cast_inj]
    rw [hscaled, neg_neg, Int.toNat_natCast, Int.toNat_neg_natCast, Nat.shiftLeft_zero,
      Nat.shiftRight_eq_div_pow, Nat.one_shiftLeft]
    constructor
    · rintro rfl
      exact ⟨Nat.mul_mod_left n _, Nat.mul_div_left n (Nat.two_pow_pos k)⟩
    · rintro ⟨hmod, rfl⟩
      exact (Nat.div_mul_cancel (Nat.dvd_of_mod_eq_zero hmod)).symm

/-- The integer that a datum stands for is its value. -/
theorem Datum.toInt?_eq_some_iff {d : Datum} {n : Int} :
    d.toInt? = some n ↔ d.value? = some (n : ℚ) := by
  cases d with
  | nan | infinite => exact ⟨nofun, nofun⟩
  | finite negative mantissa exponent =>
    have hsigned (magnitude : Nat) :
        ((if negative then -(magnitude : Int) else magnitude : Int) : ℚ) =
          if negative then -(magnitude : ℚ) else magnitude := by
      cases negative <;> simp only [Bool.false_eq_true, if_false, if_true, Int.cast_neg,
        Int.cast_natCast]
    rw [toInt?, truncate?, value?, Option.ite_none_right_eq_some, Option.some.injEq,
      Option.some.injEq]
    constructor
    · rintro ⟨hmod, rfl⟩
      rw [hsigned, scaled_eq_natCast_iff.mpr ⟨hmod, rfl⟩]
    · intro hvalue
      have hscaled : scaled mantissa exponent = n.natAbs := by
        rw [Nat.cast_natAbs, Int.cast_abs, ← hvalue]
        cases negative <;> simp [abs_of_nonneg (scaled_nonneg mantissa exponent)]
      obtain ⟨hmod, hmagnitude⟩ := scaled_eq_natCast_iff.mp hscaled
      refine ⟨hmod, Int.cast_injective (α := ℚ) ?_⟩
      rw [hmagnitude, hsigned, ← hscaled]
      exact hvalue

/-- A datum of an integer is not changed when its fraction is cut off. -/
theorem Datum.truncate?_of_value? {d : Datum} {n : Int} (h : d.value? = some (n : ℚ)) :
    d.truncate? = some n := by
  have hint := toInt?_eq_some_iff.mpr h
  cases d with
  | nan | infinite => cases h
  | finite negative mantissa exponent =>
    rw [toInt?, Option.ite_none_right_eq_some] at hint
    exact hint.2

namespace Double

/-- The number nearest to an integer. -/
def ofInt (n : Int) : Double := .ofDatum (.finite (n < 0) n.natAbs 0)

theorem value?_ofInt_minValue :
    (ofInt Int64.minValue.toInt).datum.value? = some (-2 ^ 63 : ℚ) := by
  have hdatum : (ofInt Int64.minValue.toInt).datum = .finite true (Nat.pow 2 52) 11 := by
    decide +kernel
  rw [hdatum, Datum.value?, scaled]
  norm_num

/-- The greatest integer of 64 bits has more bits than a mantissa, and is rounded up. -/
theorem value?_ofInt_maxValue :
    (ofInt Int64.maxValue.toInt).datum.value? = some (2 ^ 63 : ℚ) := by
  have hdatum : (ofInt Int64.maxValue.toInt).datum = .finite false (Nat.pow 2 52) 11 := by
    decide +kernel
  rw [hdatum, Datum.value?, scaled]
  norm_num

end Double

end Number

namespace LuaValue

open Number (Double)

theorem integral?_eq_some_iff {x : Double} {n : Int64} :
    integral? x = some n ↔ x.datum.value? = some (n.toInt : ℚ) := by
  rw [integral?, Option.bind_eq_some_iff]
  constructor
  · rintro ⟨k, hk, hn⟩
    rw [int64?_eq_some_iff.mp hn]
    exact Number.Datum.toInt?_eq_some_iff.mp hk
  · intro hvalue
    exact ⟨n.toInt, Number.Datum.toInt?_eq_some_iff.mpr hvalue, int64?_eq_some_iff.mpr rfl⟩

/-! ## The test by bounds -/

/-- Cutting its fraction off leaves the number what it is, and it lies between the numbers nearest to
the least and to the greatest integer of 64 bits, the greatest one excluded. -/
def PassesTest (x : Double) (n : Int) : Prop :=
  x.datum.truncate? = some n ∧ x.datum.value? = some (n : ℚ) ∧
    ∃ least greatest : ℚ, (Double.ofInt Int64.minValue.toInt).datum.value? = some least ∧
      (Double.ofInt Int64.maxValue.toInt).datum.value? = some greatest ∧
      least ≤ n ∧ n < greatest

theorem exists_int64_iff {n : Int} :
    (∃ i : Int64, i.toInt = n) ↔ -2 ^ 63 ≤ n ∧ n < 2 ^ 63 := by
  constructor
  · rintro ⟨i, rfl⟩
    exact ⟨i.minValue_le_toInt, Int.lt_of_le_sub_one i.toInt_le⟩
  · rintro ⟨hlow, hhigh⟩
    exact ⟨.ofInt n, Int64.toInt_ofInt_of_le hlow hhigh⟩

theorem exists_int32_iff {n : Int} :
    (∃ i : Int32, i.toInt = n) ↔ -2 ^ 31 ≤ n ∧ n < 2 ^ 31 := by
  constructor
  · rintro ⟨i, rfl⟩
    exact ⟨i.minValue_le_toInt, Int.lt_of_le_sub_one i.toInt_le⟩
  · rintro ⟨hlow, hhigh⟩
    exact ⟨.ofInt n, Int32.toInt_ofInt_of_le hlow hhigh⟩

/-- The test by bounds lets exactly those numbers pass that are integers of 64 bits: the greatest of
them is rounded up to the first one that does not fit. -/
theorem integral?_eq_some_iff_test {x : Double} {n : Int} :
    (∃ i : Int64, i.toInt = n ∧ integral? x = some i) ↔ PassesTest x n := by
  constructor
  · rintro ⟨i, rfl, hi⟩
    have hvalue := integral?_eq_some_iff.mp hi
    obtain ⟨hlow, hhigh⟩ := exists_int64_iff.mp ⟨i, rfl⟩
    refine ⟨Number.Datum.truncate?_of_value? hvalue, hvalue, _, _, Double.value?_ofInt_minValue,
      Double.value?_ofInt_maxValue, ?_, ?_⟩
    · exact_mod_cast hlow
    · exact_mod_cast hhigh
  · rintro ⟨-, hvalue, least, greatest, hleast, hgreatest, hlow, hhigh⟩
    cases hleast.symm.trans Double.value?_ofInt_minValue
    cases hgreatest.symm.trans Double.value?_ofInt_maxValue
    obtain ⟨i, rfl⟩ := exists_int64_iff.mpr ⟨by exact_mod_cast hlow, by exact_mod_cast hhigh⟩
    exact ⟨i, rfl, integral?_eq_some_iff.mpr hvalue⟩

/-! ## Both types of integers -/

section Conversions
variable {x : Double} {v : Value}

/-- A number becomes an integer of 32 bits by way of one of 64 bits. -/
theorem integral?_bind_int32? {i : Int32} :
    ((integral? x).bind fun n => int32? n.toInt) = some i ↔
      x.datum.value? = some (i.toInt : ℚ) := by
  rw [Option.bind_eq_some_iff]
  constructor
  · rintro ⟨n, hn, hi⟩
    rw [int32?_eq_some_iff.mp hi]
    exact integral?_eq_some_iff.mp hn
  · intro hvalue
    refine ⟨i.toInt64, integral?_eq_some_iff.mpr ?_, int32?_toInt64 i⟩
    rw [Int32.toInt_toInt64]
    exact hvalue

theorem toValue_integer_integer {n : Int64} :
    toValue .integer (.integer n) = .ok v ↔ ∃ i : Int32, i.toInt = n.toInt ∧ v = .integer i := by
  simp only [toValue, ← int32?_eq_some_iff]
  cases int32? n.toInt with
  | none => simp
  | some i => simp [eq_comm]

theorem toValue_integer_number :
    toValue .integer (.number x) = .ok v ↔
      ∃ i : Int32, x.datum.value? = some (i.toInt : ℚ) ∧ v = .integer i := by
  simp only [toValue, ← integral?_bind_int32?]
  cases (integral? x).bind fun n => int32? n.toInt with
  | none => simp
  | some i => simp [eq_comm]

theorem toValue_integer64_number :
    toValue .integer64 (.number x) = .ok v ↔
      ∃ i : Int64, x.datum.value? = some (i.toInt : ℚ) ∧ v = .integer64 i := by
  simp only [toValue, ← integral?_eq_some_iff]
  cases integral? x with
  | none => simp
  | some i => simp [eq_comm]

/-- The integers that a type of integers has values for. -/
def Spans : ValueType → Int → Prop
  | .integer, n => -2 ^ 31 ≤ n ∧ n < 2 ^ 31
  | .integer64, n => -2 ^ 63 ≤ n ∧ n < 2 ^ 63
  | _, _ => False

section Asked
variable {type : ValueType} (htype : type = .integer ∨ type = .integer64)
include htype

theorem exists_toValue_number_iff :
    (∃ v, toValue type (.number x) = .ok v) ↔
      ∃ n : Int, x.datum.value? = some (n : ℚ) ∧ Spans type n := by
  rcases htype with rfl | rfl
  · simp only [toValue_integer_number, Spans, ← exists_int32_iff]
    constructor
    · rintro ⟨_, i, hvalue, rfl⟩
      exact ⟨_, hvalue, i, rfl⟩
    · rintro ⟨_, hvalue, i, rfl⟩
      exact ⟨_, i, hvalue, rfl⟩
  · simp only [toValue_integer64_number, Spans, ← exists_int64_iff]
    constructor
    · rintro ⟨_, i, hvalue, rfl⟩
      exact ⟨_, hvalue, i, rfl⟩
    · rintro ⟨_, hvalue, i, rfl⟩
      exact ⟨_, i, hvalue, rfl⟩

/-- A number that is not converted is refused as not integral. -/
theorem toValue_number_eq_error_iff :
    toValue type (.number x) = .error (.notIntegral x) ↔
      ∀ n : Int, x.datum.value? = some (n : ℚ) → ¬ Spans type n := by
  have hends : toValue type (.number x) = .error (.notIntegral x) ↔
      ¬ ∃ v, toValue type (.number x) = .ok v := by
    constructor
    · rintro herror ⟨v, hv⟩
      cases herror.symm.trans hv
    · intro hnone
      rcases htype with rfl | rfl
      all_goals
        simp only [toValue] at hnone ⊢
        split at hnone
        · exact absurd ⟨_, rfl⟩ hnone
        · rfl
  rw [hends, exists_toValue_number_iff htype]
  push Not
  exact Iff.rfl

/-- What is not finite, has a fraction or is too great is refused. -/
theorem toValue_number_of_unfit (h : x.datum = .nan ∨ (∃ negative, x.datum = .infinite negative) ∨
    ∃ q : ℚ, x.datum.value? = some q ∧ (Int.fract q ≠ 0 ∨ 2 ^ 63 ≤ q)) :
    toValue type (.number x) = .error (.notIntegral x) := by
  refine (toValue_number_eq_error_iff htype).mpr fun n hvalue hspans => ?_
  rcases h with hnan | ⟨negative, hinfinite⟩ | ⟨q, hq, hfract | hgreat⟩
  · rw [hnan] at hvalue
    cases hvalue
  · rw [hinfinite] at hvalue
    cases hvalue
  · cases hq.symm.trans hvalue
    exact hfract (Int.fract_intCast n)
  · cases hq.symm.trans hvalue
    have hbelow : n < 2 ^ 63 := by
      rcases htype with rfl | rfl
      · exact hspans.2.trans (by norm_num)
      · exact hspans.2
    exact hbelow.not_ge (by exact_mod_cast hgreat)

end Asked

/-- An integer and a number of the same value come to the same integer, or to none. -/
theorem toValue_integer_congr {n : Int64} (h : x.datum.value? = some (n.toInt : ℚ))
    {type : ValueType} (htype : type = .integer ∨ type = .integer64) :
    toValue type (.integer n) = .ok v ↔ toValue type (.number x) = .ok v := by
  have hsame (k : Int) : x.datum.value? = some (k : ℚ) ↔ k = n.toInt := by
    rw [h, Option.some.injEq, Int.cast_inj, eq_comm]
  rcases htype with rfl | rfl
  · simp only [toValue_integer_integer, toValue_integer_number, hsame]
  · simp only [toValue_integer64_number, hsame, Int64.toInt_inj]
    rw [exists_eq_left]
    exact ⟨fun hv => (Except.ok.inj hv).symm, congrArg Except.ok ∘ Eq.symm⟩

end Conversions

/-- Every 64-bit number, asked for as an integer of 64 or of 32 bits:

* it is converted exactly if it is finite and its value is an integer of that many bits, and then to
  that integer; otherwise it is refused as not integral;
* so NaN, the infinities, numbers with a fraction, and those from `2^63` on are refused, the least
  integer is converted, and both zeros come to 0;
* what passes for an integer of 64 bits is what the test by bounds lets pass, where the greatest
  integer is rounded up to `2^63`;
* an integer and a number that has its value come to the same, or are both refused. -/
theorem number_converts_exactly :
    (∀ (x : Double) (v : Value), toValue .integer64 (.number x) = .ok v ↔
      ∃ n : Int64, x.datum.value? = some (n.toInt : ℚ) ∧ v = .integer64 n) ∧
    (∀ (x : Double) (v : Value), toValue .integer (.number x) = .ok v ↔
      ∃ n : Int32, x.datum.value? = some (n.toInt : ℚ) ∧ v = .integer n) ∧
    (∀ (x : Double) (type : ValueType), type = .integer ∨ type = .integer64 →
      (toValue type (.number x) = .error (.notIntegral x) ↔
        ∀ n : Int, x.datum.value? = some (n : ℚ) → ¬ Spans type n) ∧
      (x.datum = .nan ∨ (∃ negative, x.datum = .infinite negative) ∨
          (∃ q : ℚ, x.datum.value? = some q ∧ (Int.fract q ≠ 0 ∨ 2 ^ 63 ≤ q)) →
        toValue type (.number x) = .error (.notIntegral x))) ∧
    (∀ x : Double, x.datum.value? = some (-2 ^ 63 : ℚ) →
      toValue .integer64 (.number x) = .ok (.integer64 Int64.minValue)) ∧
    (∀ x : Double, x.datum.value? = some 0 →
      toValue .integer64 (.number x) = .ok (.integer64 0) ∧
      toValue .integer (.number x) = .ok (.integer 0)) ∧
    (∀ (x : Double) (n : Int), (∃ i : Int64, i.toInt = n ∧ integral? x = some i) ↔ PassesTest x n) ∧
    (∀ (n : Int64) (x : Double), x.datum.value? = some (n.toInt : ℚ) →
      ∀ (type : ValueType), type = .integer ∨ type = .integer64 → ∀ v,
        toValue type (.integer n) = .ok v ↔ toValue type (.number x) = .ok v) := by
  refine ⟨fun _ _ => toValue_integer64_number, fun _ _ => toValue_integer_number,
    fun x type htype => ⟨toValue_number_eq_error_iff htype, ?_⟩, ?_, ?_,
    fun _ _ => integral?_eq_some_iff_test, fun _ _ h _ htype _ => toValue_integer_congr h htype⟩
  · exact toValue_number_of_unfit htype
  · intro x hx
    have hleast : ((Int64.minValue.toInt : Int) : ℚ) = -2 ^ 63 := by
      rw [show Int64.minValue.toInt = -2 ^ 63 from rfl]
      norm_num
    exact toValue_integer64_number.mpr ⟨_, hx.trans (congrArg some hleast.symm), rfl⟩
  · intro x hx
    exact ⟨toValue_integer64_number.mpr ⟨0, hx.trans (congrArg some Int.cast_zero.symm), rfl⟩,
      toValue_integer_number.mpr ⟨0, hx.trans (congrArg some Int.cast_zero.symm), rfl⟩⟩

/-- The number nearest to the greatest integer is refused, and a zero with a sign is zero. -/
example :
    toValue .integer64 (.number (.ofInt Int64.maxValue.toInt)) =
        .error (.notIntegral ⟨0x43E0000000000000⟩) ∧
      toValue .integer (.number ⟨0x8000000000000000⟩) = .ok (.integer 0) := by
  decide +kernel

end LuaValue

end StoryHooks
