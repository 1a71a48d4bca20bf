import StoryHooks.Number.Format

/-!
# Decimal texts of binary numbers

Three steps, kept apart. `Shortest.digits` picks the fewest digits that read back as the same
number, `Rounded.digits` a fixed count of them; both compare exactly, in naturals. A `Layout` then
says how digits are written: all of them around a point, or with an exponent.
-/

namespace StoryHooks.Number

/-- `coefficient * 10^scale`. -/
structure Decimal where
  coefficient : Nat
  scale : Int
deriving DecidableEq, Repr

def digitsOf (n : Nat) : List Char := Nat.toDigits 10 n

/-- The least `k` with `num / den < 10^k`, for positive `num` and `den`. -/
def magnitude10 (num den : Nat) : Int :=
  if den ≤ num then (digitsOf (num / den)).length
  else
    let places := (digitsOf (den / num)).length
    if num * Nat.pow 10 (places - 1) = den then 2 - (places : Int) else 1 - (places : Int)

/-- A positive number `mantissa * 2^exponent` with the numbers that round to it, all measured in
quarters of the unit, so that they are naturals. -/
structure Rounding where
  low : Nat
  value : Nat
  high : Nat
  exponent : Int
  inclusive : Bool
deriving Repr

/-- Halfway to both neighbours. Below a power of two the neighbour is half a unit away. The ends
round to the number itself when its mantissa is even. -/
def Rounding.of (f : Format) (mantissa : Nat) (exponent : Int) : Rounding :=
  { low := 4 * mantissa - (if mantissa = f.binade then 1 else 2)
    value := 4 * mantissa
    high := 4 * mantissa + 2
    exponent := exponent - 2
    inclusive := mantissa % 2 = 0 }

namespace Rounding

/-- So many quarters as a multiple of the unit of a decimal grid: the numerator. -/
def numerator (r : Rounding) (scale : Int) (n : Nat) : Nat :=
  n <<< r.exponent.toNat * Nat.pow 10 (-scale).toNat

/-- The denominator that goes with `numerator`. -/
def denominator (r : Rounding) (scale : Int) : Nat :=
  1 <<< (-r.exponent).toNat * Nat.pow 10 scale.toNat

/-- Whether the grid point rounds to the number. -/
def covers (r : Rounding) (scale : Int) (point : Nat) : Bool :=
  let place := point * r.denominator scale
  if r.inclusive then r.numerator scale r.low ≤ place && place ≤ r.numerator scale r.high
  else r.numerator scale r.low < place && place < r.numerator scale r.high

/-- The point of a decimal grid that rounds to the number, if there is one. If a point does, so
does one of the number's two neighbours on the grid; of two the nearer is taken, and the upper one
of two at the same distance. -/
def onGrid (r : Rounding) (scale : Int) : Option Decimal :=
  let point := r.numerator scale r.value / r.denominator scale
  let rest := r.numerator scale r.value % r.denominator scale
  match r.covers scale point, r.covers scale (point + 1) with
  | true, true =>
    some ⟨if 2 * rest < r.denominator scale then point else point + 1, scale⟩
  | true, false => some ⟨point, scale⟩
  | false, true => some ⟨point + 1, scale⟩
  | false, false => none

/-- The fewest digits that read back as the number: the coarsest grid with a point that rounds to
it. The first grid tried is that of the next power of ten, which a number just under one may round
to. Seventeen digits always do in the formats used here. -/
def shortest (r : Rounding) : Decimal :=
  let size := magnitude10 (r.value <<< r.exponent.toNat) (1 <<< (-r.exponent).toNat)
  ((List.range 18).findSome? fun n => r.onGrid (size - (n : Nat))).getD
    ⟨r.numerator (size - 17) r.value / r.denominator (size - 17), size - 17⟩

end Rounding

/-- `num / den` rounded to `count` significant digits, a tie going to the even last digit. -/
def significant (count : Nat) (num den : Nat) : Decimal :=
  let scale := magnitude10 num den - count
  let coefficient := roundHalfEven (num * Nat.pow 10 (-scale).toNat) (den * Nat.pow 10 scale.toNat)
  ⟨coefficient, scale⟩

/-- All digits around a decimal point, as many zeros as it takes, and no point after a whole
number. -/
def positional (d : Decimal) : List Char :=
  let digits := digitsOf d.coefficient
  if 0 ≤ d.scale then digits ++ List.replicate d.scale.toNat '0'
  else
    let places := (-d.scale).toNat
    if places < digits.length then
      digits.take (digits.length - places) ++ '.' :: digits.drop (digits.length - places)
    else '0' :: '.' :: (List.replicate (places - digits.length) '0' ++ digits)

/-- Trailing zeros moved from the coefficient into the scale. -/
def trimZeros : Nat → Decimal → Decimal
  | 0, d => d
  | fuel + 1, d =>
    if d.coefficient % 10 = 0 then trimZeros fuel ⟨d.coefficient / 10, d.scale + 1⟩ else d

/-- One digit before the point, then a signed exponent of at least two digits. -/
def exponential (d : Decimal) : List Char :=
  let digits := digitsOf d.coefficient
  let exponent : Int := d.scale + (digits.length - 1 : Nat)
  let mantissa := match digits with
    | first :: second :: rest => first :: '.' :: second :: rest
    | one => one
  let size := digitsOf exponent.natAbs
  let padded := List.replicate (2 - size.length) '0' ++ size
  mantissa ++ 'e' :: (if exponent < 0 then '-' else '+') :: padded

def signed (negative : Bool) (text : String) : String := if negative then "-" ++ text else text

/-- The shortest text that reads back, in positional notation at every size. -/
def Datum.shortestText (f : Format) : Datum → String
  | .nan => "NaN"
  | .infinite negative => signed negative "inf"
  | .finite negative 0 _ => signed negative "0"
  | .finite negative mantissa exponent =>
    signed negative (String.ofList (positional (Rounding.of f mantissa exponent).shortest))

/-- A text of at most `count` significant digits without trailing zeros: positional while the
leading digit stands no further than four places after the point and within `count` places before
it, else with an exponent. -/
def Datum.generalText (count : Nat) : Datum → String
  | .nan => "nan"
  | .infinite negative => signed negative "inf"
  | .finite negative 0 _ => signed negative "0"
  | .finite negative mantissa exponent =>
    let rounded := significant count (mantissa <<< exponent.toNat) (1 <<< (-exponent).toNat)
    let leading : Int := rounded.scale + ((digitsOf rounded.coefficient).length - 1 : Nat)
    let trimmed := trimZeros count rounded
    signed negative (String.ofList
      (if leading < -4 ∨ (count : Int) ≤ leading then exponential trimmed else positional trimmed))

def Single.shortestText (x : Single) : String := x.datum.shortestText Format.single

def Double.shortestText (x : Double) : String := x.datum.shortestText Format.double

end StoryHooks.Number
