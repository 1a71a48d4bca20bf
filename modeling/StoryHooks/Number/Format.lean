/-!
# Binary floating-point formats

A format is given by the bits of its significand and of its exponent; the bit pattern of a number
is a natural number. `Format.decode` says which real number a pattern stands for, exactly, as a
mantissa times a power of two, and `Format.nearest` picks the pattern nearest to a ratio of
naturals, a tie going to the even pattern. Both work on natural numbers only, so their laws need no
facts about machine arithmetic.
-/

namespace StoryHooks.Number

/-- What a bit pattern stands for: `finite negative mantissa exponent` is
`(-1)^negative * mantissa * 2^exponent`. -/
inductive Datum
  | nan
  | infinite (negative : Bool)
  | finite (negative : Bool) (mantissa : Nat) (exponent : Int)
deriving DecidableEq, Repr

/-- A binary format: `precision` counts the bits of a normal significand with its leading one. -/
structure Format where
  precision : Nat
  exponentBits : Nat
deriving DecidableEq, Repr

def Format.single : Format := ⟨24, 8⟩

def Format.double : Format := ⟨53, 11⟩

/-- The quotient of two naturals rounded to the nearest natural, a tie going to the even one. -/
def roundHalfEven (num den : Nat) : Nat :=
  let down := num / den
  let rest := num % den
  if 2 * rest < den then down
  else if den < 2 * rest then down + 1
  else down + down % 2

/-- The greatest `e` with `2^e ≤ num / den`, for positive `num` and `den`. -/
def floorLog2 (num den : Nat) : Int :=
  let guess : Int := (num.log2 : Int) - den.log2
  if den <<< guess.toNat ≤ num <<< (-guess).toNat then guess else guess - 1

namespace Format

/-- The patterns of one binade: the weight of the exponent field. -/
def binade (f : Format) : Nat := Nat.pow 2 (f.precision - 1)

/-- The number of values of the exponent field. -/
def exponents (f : Format) : Nat := Nat.pow 2 f.exponentBits

/-- The exponent of the unit of the smallest numbers. -/
def minExponent (f : Format) : Int := 3 - (f.exponents / 2 : Nat) - f.precision

/-- The pattern of positive infinity. -/
def infinity (f : Format) : Nat := (f.exponents - 1) * f.binade

def signWeight (f : Format) : Nat := f.exponents * f.binade

/-- The one pattern written for every NaN. -/
def quietNaN (f : Format) : Nat := f.infinity + f.binade / 2

/-- The number that a pattern stands for. A zero exponent field is read like a one, without the
leading bit. -/
def decode (f : Format) (bits : Nat) : Datum :=
  let fraction := bits % f.binade
  let biased := bits / f.binade % f.exponents
  let negative := bits / f.signWeight % 2 == 1
  if biased = f.exponents - 1 then
    if fraction = 0 then .infinite negative else .nan
  else if biased = 0 then .finite negative fraction f.minExponent
  else .finite negative (f.binade + fraction) (f.minExponent + (biased - 1 : Nat))

/-- The exponent of the unit that numbers as large as `num / den` are multiples of. -/
def unitExponent (f : Format) (num den : Nat) : Int :=
  max f.minExponent (floorLog2 num den - (f.precision - 1 : Nat))

/-- The pattern of the number nearest to `num / den`. Patterns are ordered as their numbers are, so
a mantissa that rounds up to the next binade carries into the exponent field by itself; what
reaches past the largest number is infinite. -/
def nearest (f : Format) (num den : Nat) : Nat :=
  if num = 0 then 0
  else
    let unit := f.unitExponent num den
    let mantissa := roundHalfEven (num <<< (-unit).toNat) (den <<< unit.toNat)
    min f.infinity ((unit - f.minExponent).toNat * f.binade + mantissa)

/-- The pattern nearest to a datum. -/
def encode (f : Format) : Datum → Nat
  | .nan => f.quietNaN
  | .infinite negative => negative.toNat * f.signWeight + f.infinity
  | .finite negative mantissa exponent =>
    negative.toNat * f.signWeight +
      f.nearest (mantissa <<< exponent.toNat) (1 <<< (-exponent).toNat)

end Format

/-- A 32-bit number, by its bit pattern. -/
structure Single where
  bits : UInt32
deriving DecidableEq, Repr

structure Double where
  bits : UInt64
deriving DecidableEq, Repr

namespace Single

def datum (x : Single) : Datum := Format.single.decode x.bits.toNat

def ofDatum (d : Datum) : Single := ⟨(Format.single.encode d).toUInt32⟩

/-- Two numbers are the same if their patterns are, or if both are NaN. -/
def Same (x y : Single) : Prop := x = y ∨ (x.datum = .nan ∧ y.datum = .nan)

instance (x y : Single) : Decidable (x.Same y) := by unfold Same; infer_instance

def ofInt (n : Int) : Single := ofDatum (.finite (n < 0) n.natAbs 0)

end Single

namespace Double

def datum (x : Double) : Datum := Format.double.decode x.bits.toNat

def ofDatum (d : Datum) : Double := ⟨(Format.double.encode d).toUInt64⟩

/-- The 64-bit number that stands for the same value as a 32-bit one. -/
def ofSingle (x : Single) : Double := ofDatum x.datum

def toSingle (x : Double) : Single := Single.ofDatum x.datum

/-- The 64-bit number nearest to a ratio of naturals, with a sign. -/
def ofRatio (negative : Bool) (num den : Nat) : Double :=
  ⟨(negative.toNat * Format.double.signWeight + Format.double.nearest num den).toUInt64⟩

end Double

/-- The integer part of a finite datum. -/
def Datum.truncate? : Datum → Option Int
  | .finite negative mantissa exponent =>
    let magnitude : Int := (mantissa <<< exponent.toNat >>> (-exponent).toNat : Nat)
    some (if negative then -magnitude else magnitude)
  | _ => none

/-- The integer that a datum stands for, if it stands for one: no bit of it is worth less. -/
def Datum.toInt? (d : Datum) : Option Int :=
  match d with
  | .finite _ mantissa exponent =>
    if mantissa % 1 <<< (-exponent).toNat = 0 then d.truncate? else none
  | _ => none

end StoryHooks.Number
