import StoryHooks.Document.Value
import StoryHooks.Number.Numeral

/-!
# TOML scalars without quotes

Booleans, integers, floats, dates and times: each is recognised from the whole run of characters
that it may consist of. An integer is recognised by its outward form; whether that spells a number
matters only to those who ask for the number.
-/

namespace StoryHooks.Document

/-- The digits of a run in which single underscores may stand between digits. -/
def plainDigits? (isDigit : Char → Bool) : List Char → Option (List Char)
  | [] => none
  | [c] => if isDigit c then some [c] else none
  | c :: '_' :: d :: cs =>
    if isDigit c && isDigit d then (plainDigits? isDigit (d :: cs)).map (c :: ·) else none
  | c :: cs => if isDigit c then (plainDigits? isDigit cs).map (c :: ·) else none

def isDigitOf (base : Nat) (c : Char) : Bool := (Number.Numeral.digit? base c).isSome

/-- The number of a run of digits of a base. -/
def naturalOf? (base : Nat) (cs : List Char) : Option Nat :=
  (plainDigits? (isDigitOf base) cs).map fun digits =>
    Number.Numeral.ofDigits base (digits.filterMap (Number.Numeral.digit? base))

/-- The sign in front of a number and what follows it. An underscore may part the two, and only then
are needless zeros in front of the number allowed, which is told as well. -/
def takeLooseSign (cs : List Char) : Bool × Bool × List Char :=
  match cs with
  | '-' :: '_' :: cs => (true, true, cs)
  | '+' :: '_' :: cs => (false, true, cs)
  | '-' :: cs => (true, false, cs)
  | '+' :: cs => (false, false, cs)
  | cs => (false, false, cs)

/-- Whether a number has no needless zero in front. -/
def isTrimmed (cs : List Char) : Bool :=
  match cs with
  | '0' :: _ :: _ => false
  | _ => true

/-- The parts of a text between its underscores. -/
def groups : List Char → List (List Char)
  | [] => [[]]
  | '_' :: cs => [] :: groups cs
  | c :: cs =>
    match groups cs with
    | group :: rest => (c :: group) :: rest
    | [] => [[c]]

/-- Whether groups can stand behind an underscore. Each begins with a digit of some base, and each
but the last ends with one. -/
def areLaterGroups : List (List Char) → Bool
  | [] => true
  | [last] => last.head?.any (isDigitOf 16)
  | group :: rest =>
    group.head?.any (isDigitOf 16) && group.getLast?.any (isDigitOf 16) && areLaterGroups rest

/-- Whether a text has the outward form of a decimal integer, after its sign: digits up to the first
underscore, and groups that can stand behind one. After a loose sign all groups stand behind one.
A point or an exponent makes it no integer. -/
def isDecimalForm (loose : Bool) (cs : List Char) : Bool :=
  (cs.all fun c => c != '.' && c != 'e' && c != 'E') &&
    match loose, groups cs with
    | false, first :: later =>
      isTrimmed cs && !first.isEmpty && first.all Char.isDigit && areLaterGroups later
    | _, later => areLaterGroups later

/-- A number in another base, after the mark of the base. Without any digits it still passes for an
integer. -/
def radixInteger? (base : Nat) (cs : List Char) : Option (Option Int) :=
  if cs.isEmpty then some none else (naturalOf? base cs).map fun n => some (n : Int)

/-- An integer: decimal with a sign or not, or without a sign in another base. A text can have the
outward form of an integer and spell none. -/
def integer? : List Char → Option (Option Int)
  | '0' :: 'x' :: cs => radixInteger? 16 cs
  | '0' :: 'o' :: cs => radixInteger? 8 cs
  | '0' :: 'b' :: cs => radixInteger? 2 cs
  | cs =>
    let (negative, loose, cs) := takeLooseSign cs
    if isDecimalForm loose cs then
      some ((naturalOf? 10 cs).map fun n => if negative then -(n : Int) else n)
    else none

def exponentOf? (cs : List Char) : Option Int :=
  match Number.Numeral.takeSign cs with
  | (negative, cs) => (naturalOf? 10 cs).map fun n => if negative then -(n : Int) else n

/-- Whether a float with digits is too large for a 64-bit number. -/
def floatTooLarge? (cs : List Char) : Option Bool := do
  let (_, loose, cs) := takeLooseSign cs
  let isMark := fun c => c == 'e' || c == 'E'
  let mantissa := cs.takeWhile fun c => !isMark c
  let whole := mantissa.takeWhile fun c => c != '.'
  if !loose && !isTrimmed whole then none
  let wholeDigits ← plainDigits? Char.isDigit whole
  let part ← match mantissa.dropWhile fun c => c != '.' with
    | [] => some []
    | _ :: part => plainDigits? Char.isDigit part
  let exponent ← match cs.dropWhile fun c => !isMark c with
    | [] => if part.isEmpty then none else some 0
    | _ :: cs => exponentOf? cs
  let coefficient :=
    Number.Numeral.ofDigits 10 ((wholeDigits ++ part).filterMap (Number.Numeral.digit? 10))
  let x := Number.Numeral.scaled .decimal false coefficient (exponent - part.length)
  some (x.datum == .infinite false)

/-- A float with digits or by name. -/
def float? (cs : List Char) : Option Bool :=
  match (Number.Numeral.takeSign cs).2 with
  | ['i', 'n', 'f'] | ['n', 'a', 'n'] => some false
  | _ => floatTooLarge? cs

/-- A number of exactly so many digits in a range. -/
def fieldIn (width low high : Nat) (cs : List Char) : Bool :=
  cs.length == width && cs.all Char.isDigit &&
    (let n := Number.Numeral.ofDigits 10 (cs.filterMap (Number.Numeral.digit? 10))
     low ≤ n && n ≤ high)

def numberOf (cs : List Char) : Nat :=
  Number.Numeral.ofDigits 10 (cs.filterMap (Number.Numeral.digit? 10))

def daysOf (year month : Nat) : Nat :=
  if month = 2 then
    if year % 4 = 0 ∧ (year % 100 ≠ 0 ∨ year % 400 = 0) then 29 else 28
  else if month = 4 ∨ month = 6 ∨ month = 9 ∨ month = 11 then 30
  else 31

def isDate : List Char → Bool
  | y1 :: y2 :: y3 :: y4 :: '-' :: m1 :: m2 :: '-' :: day =>
    let year := [y1, y2, y3, y4]
    let month := [m1, m2]
    fieldIn 4 0 9999 year && fieldIn 2 1 12 month &&
      fieldIn 2 1 (daysOf (numberOf year) (numberOf month)) day
  | _ => false

/-- Whether a text is the distance of a local time from universal time. -/
def isOffset : List Char → Bool
  | ['Z'] | ['z'] => true
  | sign :: h1 :: h2 :: ':' :: minute =>
    (sign == '+' || sign == '-') && fieldIn 2 0 23 [h1, h2] && fieldIn 2 0 59 minute
  | _ => false

/-- What follows the seconds with their fraction, if the text starts with them. -/
def seconds? : List Char → Option (List Char)
  | s1 :: s2 :: cs =>
    if fieldIn 2 0 60 [s1, s2] then
      match cs with
      | '.' :: cs =>
        if (cs.takeWhile Char.isDigit).isEmpty then none else some (cs.dropWhile Char.isDigit)
      | cs => some cs
    else none
  | _ => none

/-- What follows a time of day, if the text starts with one. The seconds may be left out. -/
def time? : List Char → Option (List Char)
  | h1 :: h2 :: ':' :: m1 :: m2 :: cs =>
    if fieldIn 2 0 23 [h1, h2] && fieldIn 2 0 59 [m1, m2] then
      match cs with
      | ':' :: cs => seconds? cs
      | cs => some cs
    else none
  | _ => none

/-- Whether a text is a date, a time, or both with or without an offset. -/
def isDatetime (cs : List Char) : Bool :=
  if time? cs == some [] then true
  else if cs.length = 10 then isDate cs
  else
    isDate (cs.take 10) &&
      match cs.drop 10 with
      | 'T' :: cs | 't' :: cs | ' ' :: cs =>
        match time? cs with
        | some [] => true
        | some offset => isOffset offset
        | none => false
      | _ => false

def scalar? (cs : List Char) : Option Value :=
  if cs == ['t', 'r', 'u', 'e'] then some (.boolean true)
  else if cs == ['f', 'a', 'l', 's', 'e'] then some (.boolean false)
  else
    match integer? cs, float? cs with
    | some n, _ => some (.integer n)
    | none, some tooLarge => some (.float tooLarge)
    | none, none => if isDatetime cs then some .datetime else none

/-- The marks and blanks that end a scalar without quotes. -/
def scalarEnds : List Char :=
  ['=', ',', '[', ']', '\x7b', '\x7d', ' ', '\t', '\x23', '\r', '\n', '\x27', '\x22']

def isScalarChar (c : Char) : Bool := !scalarEnds.contains c

/-- Reads a scalar without quotes. A date and a time may have one blank between them. -/
def scalar (cs : List Char) : Option (Value × List Char) :=
  let run := cs.takeWhile isScalarChar
  let rest := cs.dropWhile isScalarChar
  match rest with
  | ' ' :: d :: more =>
    if isDate run && d.isDigit then
      let time := (d :: more).takeWhile isScalarChar
      (scalar? (run ++ ' ' :: time)).map fun value => (value, (d :: more).dropWhile isScalarChar)
    else (scalar? run).map fun value => (value, rest)
  | _ => (scalar? run).map fun value => (value, rest)

end StoryHooks.Document
