import StoryHooks.Number.Format

/-!
# Reading numerals

A numeral is written in decimal or, after `0x`, in hexadecimal; with a point or an exponent it
stands for a binary fraction, otherwise for an integer. Hexadecimal integers wrap around at 64 bits,
decimal ones that do not fit are read as fractions.
-/

namespace StoryHooks.Number

inductive Numeral
  | integer (n : Int)
  | fraction (x : Double)
deriving DecidableEq, Repr

namespace Numeral

def isBlank (c : Char) : Bool := c == ' ' || (9 ≤ c.toNat && c.toNat ≤ 13)

/-- The value of a digit in a base up to 16. -/
def digit? (base : Nat) (c : Char) : Option Nat :=
  let value :=
    if c.isDigit then c.toNat - '0'.toNat
    else if 'a' ≤ c && c ≤ 'f' then c.toNat - 'a'.toNat + 10
    else if 'A' ≤ c && c ≤ 'F' then c.toNat - 'A'.toNat + 10
    else 16
  if value < base then some value else none

/-- The digits at the front of a text, and what follows them. -/
def takeDigits (base : Nat) : List Char → List Nat × List Char
  | [] => ([], [])
  | c :: cs =>
    match digit? base c with
    | none => ([], c :: cs)
    | some d =>
      let (ds, rest) := takeDigits base cs
      (d :: ds, rest)

def ofDigits (base : Nat) (digits : List Nat) : Nat := digits.foldl (fun n d => n * base + d) 0

def takeSign : List Char → Bool × List Char
  | '-' :: cs => (true, cs)
  | '+' :: cs => (false, cs)
  | cs => (false, cs)

/-- A base, the letter that opens an exponent, what an exponent is a power of, and how many of
those powers a digit is worth. -/
structure Radix where
  base : Nat
  exponentMark : Char
  exponentBase : Nat
  digitWeight : Nat

def Radix.decimal : Radix := ⟨10, 'e', 10, 1⟩

def Radix.hexadecimal : Radix := ⟨16, 'p', 2, 4⟩

/-- The exponent that ends a numeral; zero where there is none. -/
def exponent? (r : Radix) : List Char → Option Int
  | [] => some 0
  | c :: cs =>
    if c.toLower = r.exponentMark then
      let (negative, cs) := takeSign cs
      match takeDigits 10 cs with
      | (d :: ds, []) =>
        let magnitude : Int := ofDigits 10 (d :: ds)
        some (if negative then -magnitude else magnitude)
      | _ => none
    else none

/-- The digits of a fraction, point left out, with the power that they are scaled by. -/
def scaledDigits? (r : Radix) (cs : List Char) : Option (Nat × Int) :=
  let (whole, rest) := takeDigits r.base cs
  let (part, rest) := match rest with
    | '.' :: cs => takeDigits r.base cs
    | rest => ([], rest)
  if whole.isEmpty && part.isEmpty then none
  else
    (exponent? r rest).map fun exponent =>
      (ofDigits r.base (whole ++ part), exponent - r.digitWeight * part.length)

/-- Beyond this many powers every number is infinite, and below as many negative ones zero. -/
def maxPowers : Nat := 1200

/-- The number nearest to a scaled coefficient. -/
def scaled (r : Radix) (negative : Bool) (coefficient : Nat) (exponent : Int) : Double :=
  let size : Int := (Nat.toDigits r.exponentBase coefficient).length
  if coefficient = 0 ∨ exponent + size < -maxPowers then .ofRatio negative 0 1
  else if maxPowers < exponent + size then .ofDatum (.infinite negative)
  else
    .ofRatio negative (coefficient * Nat.pow r.exponentBase exponent.toNat)
      (Nat.pow r.exponentBase (-exponent).toNat)

def fraction? (r : Radix) (negative : Bool) (cs : List Char) : Option Numeral :=
  (scaledDigits? r cs).map fun (coefficient, exponent) =>
    .fraction (scaled r negative coefficient exponent)

/-- Reads a numeral without blanks around it, sign and base known. -/
def ofBody? (r : Radix) (negative : Bool) (cs : List Char) : Option Numeral :=
  match takeDigits r.base cs with
  | (d :: ds, []) =>
    let magnitude := ofDigits r.base (d :: ds)
    let n : Int := if negative then -magnitude else magnitude
    if r.base = 16 then some (.integer (n.bmod UInt64.size))
    else if Int64.minValue.toInt ≤ n ∧ n ≤ Int64.maxValue.toInt then some (.integer n)
    else fraction? r negative cs
  | _ => fraction? r negative cs

def trim (cs : List Char) : List Char :=
  ((cs.dropWhile isBlank).reverse.dropWhile isBlank).reverse

def ofChars? (cs : List Char) : Option Numeral :=
  match takeSign (trim cs) with
  | (negative, '0' :: 'x' :: cs) | (negative, '0' :: 'X' :: cs) => ofBody? .hexadecimal negative cs
  | (negative, cs) => ofBody? .decimal negative cs

/-- The integer part of what a numeral stands for, unless that is infinite. -/
def truncate? : Numeral → Option Int
  | .integer n => some n
  | .fraction x => x.datum.truncate?

end Numeral

end StoryHooks.Number
