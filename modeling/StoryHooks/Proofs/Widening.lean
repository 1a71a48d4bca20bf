import StoryHooks.Proofs.Rounding

/-!
# Widening a number and rounding it back

Writing a number rounds it to the format, and reading it gives what it was rounded to. A wider
format spells every number of a narrower one, with a longer mantissa, so nothing is lost on the way
there; and on the way back the closest number is the number itself.

Results:
1. `rounds_encode`: what is read is what was written, rounded.
2. `widen_decode`: a wider format takes a number as it is, and rounding gives the pattern back.
3. `Double.datum_ofSingle`, `Double.toSingle_ofSingle`: so do 32-bit numbers as 64-bit ones.
-/

namespace StoryHooks.Number

namespace Format

/-! ## Writing and reading -/

section Encoding
variable {f : Format} {mantissa mantissa' : Nat} {exponent exponent' : Int}

/-- The ratio that a number is written as. -/
theorem ratio_eq_scaled (mantissa : Nat) (exponent : Int) :
    ((mantissa <<< exponent.toNat : Nat) : ℚ) / (1 <<< (-exponent).toNat : Nat) =
      scaled mantissa exponent := by
  rw [shifted_div, Nat.cast_one, div_one]
  rfl

/-- A number is written as the pattern of its spelling, however it is given. -/
theorem encode_of_spells (hf : f.Proper) (hs : f.Spells mantissa exponent)
    (hfinite : f.pattern mantissa exponent < f.infinity)
    (h : scaled mantissa' exponent' = scaled mantissa exponent) (negative : Bool) :
    f.encode (.finite negative mantissa' exponent') =
      negative.toNat * f.signWeight + f.pattern mantissa exponent := by
  have hratio := (ratio_eq_scaled mantissa' exponent').trans h
  have hden := (shiftLeft_pos one_ne_zero (-exponent').toNat).ne'
  rw [encode, nearest_of_spells hf hs hden hratio, min_eq_right hfinite.le]

theorem decode_infinity (hf : f.Proper) (negative : Bool) :
    f.decode (f.encode (.infinite negative)) = .infinite negative := by
  have hexponents := two_le_exponents hf
  have hdecode := decode_fields (show f.exponents - 1 < f.exponents by omega) f.binade_pos negative
  rwa [if_pos rfl, if_pos rfl] at hdecode

theorem decode_quietNaN (hf : f.Proper) : f.decode (f.encode .nan) = .nan := by
  have hexponents := two_le_exponents hf
  have htwo : 2 ≤ f.binade := Nat.le_self_pow (by have := hf.two_le_precision; omega) 2
  have hdecode := decode_fields (show f.exponents - 1 < f.exponents by omega)
    (show f.binade / 2 < f.binade by omega) false
  rwa [if_pos rfl, if_neg (by omega), Bool.toNat_false, Nat.zero_mul, Nat.zero_add] at hdecode

theorem nearest_le_infinity (f : Format) (num den : Nat) : f.nearest num den ≤ f.infinity := by
  rw [nearest]
  split
  · exact Nat.zero_le _
  · exact min_le_left _ _

/-- What is written takes no more bits than the format has. -/
theorem encode_lt (hf : f.Proper) (d : Datum) : f.encode d < 2 * f.signWeight := by
  have hexponents := two_le_exponents hf
  have hbinade := f.binade_pos
  have hweight : f.infinity + f.binade = f.signWeight := by
    rw [infinity, signWeight, ← Nat.add_one_mul, Nat.sub_add_cancel (by omega)]
  cases d with
  | nan =>
    rw [encode, quietNaN]
    omega
  | infinite negative =>
    rw [encode]
    cases negative <;> simp <;> omega
  | finite negative mantissa exponent =>
    have hnearest := f.nearest_le_infinity (mantissa <<< exponent.toNat) (1 <<< (-exponent).toNat)
    rw [encode]
    cases negative <;> simp <;> omega

/-- What a datum is rounded to: a number to the closest one, or to infinity if that has no pattern,
and anything else to itself. -/
def Rounds (f : Format) : Datum → Datum → Prop
  | .finite negative mantissa exponent, d => ∃ mantissa' exponent',
    f.Closest (scaled mantissa exponent) mantissa' exponent' ∧
      d = if f.pattern mantissa' exponent' < f.infinity then .finite negative mantissa' exponent'
        else .infinite negative
  | d, d' => d' = d

theorem rounds_encode (hf : f.Proper) (d : Datum) : f.Rounds d (f.decode (f.encode d)) := by
  cases d with
  | nan => exact decode_quietNaN hf
  | infinite negative => exact decode_infinity hf negative
  | finite negative mantissa exponent =>
    obtain ⟨mantissa', exponent', hclosest, hnearest⟩ := nearest_closest hf
      (mantissa <<< exponent.toNat) (shiftLeft_pos one_ne_zero (-exponent).toNat).ne'
    rw [ratio_eq_scaled] at hclosest
    refine ⟨mantissa', exponent', hclosest, ?_⟩
    rw [encode, hnearest]
    split
    · next hfinite =>
      rw [min_eq_right hfinite.le]
      exact decode_pattern hclosest.spells hfinite negative
    · next hlarge =>
      rw [min_eq_left (Nat.not_lt.mp hlarge)]
      exact decode_infinity hf negative

end Encoding

end Format

/-- The two stand for the same number, or are both NaN. -/
def Datum.SameNumber : Datum → Datum → Prop
  | .nan, .nan => True
  | .infinite negative, .infinite negative' => negative = negative'
  | .finite negative mantissa exponent, .finite negative' mantissa' exponent' =>
    negative = negative' ∧ scaled mantissa exponent = scaled mantissa' exponent'
  | _, _ => False

/-! ## A wider format -/

namespace Format

/-- The format `g` spells every number of `f`: it has as long mantissas, and as small and as great
numbers with mantissas that are full. -/
structure Within (f g : Format) : Prop where
  precision_le : f.precision ≤ g.precision
  smallest_le : g.minExponent + (g.precision - 1 : Nat) ≤ f.minExponent
  greatest_le : f.minExponent + f.exponents ≤ g.minExponent + g.exponents

theorem single_within_double : single.Within double :=
  ⟨by decide, by decide, by decide⟩

section Wider
variable {f g : Format} {mantissa : Nat} {exponent : Int}

/-- A mantissa can be shifted until it is full. -/
theorem shifted_full (hmantissa : mantissa ≠ 0) (hlog : mantissa.log2 ≤ g.precision - 1) :
    g.binade ≤ mantissa <<< (g.precision - 1 - mantissa.log2) ∧
      mantissa <<< (g.precision - 1 - mantissa.log2) < 2 * g.binade := by
  have hbinade : g.binade = 2 ^ mantissa.log2 * 2 ^ (g.precision - 1 - mantissa.log2) := by
    rw [← Nat.pow_add, Nat.add_sub_cancel' hlog]
    rfl
  rw [hbinade, Nat.shiftLeft_eq, ← Nat.mul_assoc, ← Nat.pow_succ']
  exact ⟨Nat.mul_le_mul_right _ (Nat.log2_self_le hmantissa),
    Nat.mul_lt_mul_of_pos_right Nat.lt_log2_self (Nat.two_pow_pos _)⟩

/-- A spelling below infinity has a spelling in a wider format. -/
theorem Spells.widen (hs : f.Spells mantissa exponent)
    (hfinite : f.pattern mantissa exponent < f.infinity) (hf : f.Proper) (hg : g.Proper)
    (h : f.Within g) :
    ∃ mantissa' exponent', g.Spells mantissa' exponent' ∧
      g.pattern mantissa' exponent' < g.infinity ∧
      scaled mantissa exponent = scaled mantissa' exponent' := by
  obtain ⟨hprecision, hsmallest, hgreatest⟩ := h
  by_cases hzero : mantissa = 0
  · have hinfinity : 0 < g.infinity :=
      Nat.mul_pos (by have := two_le_exponents hg; omega) g.binade_pos
    refine ⟨0, g.minExponent, ⟨Nat.mul_pos two_pos g.binade_pos, le_rfl, .inr rfl⟩, ?_, ?_⟩
    · rwa [pattern_min]
    · rw [hzero, scaled_zero, scaled_zero]
  · have hmin := hs.minExponent_le
    have hlog : mantissa.log2 < f.precision :=
      (Nat.log2_lt hzero).mpr (two_mul_binade hf ▸ hs.mantissa_lt)
    obtain ⟨hfull', hlt'⟩ := shifted_full (g := g) hzero (by omega)
    have hs' : g.Spells (mantissa <<< (g.precision - 1 - mantissa.log2))
        (exponent - (g.precision - 1 - mantissa.log2 : Nat)) :=
      ⟨hlt', by omega, .inl hfull'⟩
    refine ⟨_, _, hs', (pattern_lt_infinity_iff hs' hfull').mpr ?_, (scaled_shift _ _ _).symm⟩
    by_cases hfull : f.binade ≤ mantissa
    · have hexponent := (pattern_lt_infinity_iff hs hfull).mp hfinite
      omega
    · obtain rfl := hs.full.resolve_left hfull
      have hexponents := two_le_exponents hf
      have hshort : mantissa.log2 < f.precision - 1 :=
        (Nat.log2_lt hzero).mpr (Nat.not_le.mp hfull)
      omega

/-- A wider format takes a number as it is, and rounding gives the pattern back. -/
theorem widen_decode {bits : Nat} (hf : f.Proper) (hg : g.Proper) (h : f.Within g)
    (hbits : bits < 2 * f.signWeight) :
    (g.decode (g.encode (f.decode bits))).SameNumber (f.decode bits) ∧
      (f.encode (g.decode (g.encode (f.decode bits))) = bits ∨ f.decode bits = .nan) := by
  rcases decode_cases hbits with hd | ⟨negative, hd, rfl⟩ | ⟨negative, m, e, hd, hs, hfinite, rfl⟩
  · rw [hd, decode_quietNaN hg]
    exact ⟨trivial, .inr rfl⟩
  · rw [hd, decode_infinity hg]
    exact ⟨rfl, .inl rfl⟩
  · obtain ⟨m', e', hs', hfinite', hscaled⟩ := hs.widen hfinite hf hg h
    rw [hd, encode_of_spells hg hs' hfinite' hscaled, decode_pattern hs' hfinite']
    exact ⟨⟨rfl, hscaled.symm⟩, .inl (encode_of_spells hf hs hfinite hscaled.symm negative)⟩

end Wider

end Format

/-! ## Numbers of 32 and 64 bits -/

namespace Single

theorem bits_lt (x : Single) : x.bits.toNat < 2 * Format.single.signWeight := x.bits.toNat_lt

theorem datum_ofDatum (d : Datum) :
    (ofDatum d).datum = Format.single.decode (Format.single.encode d) := by
  rw [datum, ofDatum, UInt32.toNat_ofNat_of_lt' (Format.encode_lt Format.single_proper d)]

end Single

namespace Double

theorem datum_ofDatum (d : Datum) :
    (ofDatum d).datum = Format.double.decode (Format.double.encode d) := by
  rw [datum, ofDatum, UInt64.toNat_ofNat_of_lt' (Format.encode_lt Format.double_proper d)]

/-- A 32-bit number stands for the same as a 64-bit one. -/
theorem datum_ofSingle (x : Single) : (ofSingle x).datum.SameNumber x.datum := by
  rw [ofSingle, datum_ofDatum]
  exact (Format.widen_decode Format.single_proper Format.double_proper
    Format.single_within_double x.bits_lt).1

/-- A 64-bit number is rounded to the closest 32-bit one. -/
theorem rounds_toSingle (x : Double) : Format.single.Rounds x.datum x.toSingle.datum := by
  rw [toSingle, Single.datum_ofDatum]
  exact Format.rounds_encode Format.single_proper x.datum

/-- Rounding the 64-bit number gives the 32-bit number back. -/
theorem toSingle_ofSingle (x : Single) : (ofSingle x).toSingle.Same x := by
  have hwidened := (Format.widen_decode Format.single_proper Format.double_proper
    Format.single_within_double x.bits_lt).2
  have hdatum : (ofSingle x).datum = Format.double.decode (Format.double.encode x.datum) :=
    datum_ofDatum x.datum
  rcases hwidened with hbits | hnan
  · left
    rw [toSingle, Single.ofDatum, hdatum]
    exact congrArg Single.mk ((congrArg Nat.toUInt32 hbits).trans x.bits.ofNat_toNat)
  · have hdatumNaN : x.datum = .nan := hnan
    right
    rw [toSingle, Single.datum_ofDatum, hdatum, hdatumNaN,
      Format.decode_quietNaN Format.double_proper, Format.decode_quietNaN Format.single_proper]
    exact ⟨rfl, rfl⟩

/-- The smallest 32-bit number has a full mantissa among those of 64 bits. -/
example : (ofSingle ⟨1⟩).bits = 0x36A0000000000000 := by decide +kernel

end Double

end StoryHooks.Number
