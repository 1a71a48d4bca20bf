/-!
# Texts

Classes of characters as ranges of code points, hexadecimal digits, texts without the blanks at
their ends, and script errors without the calls that led to them.
-/

namespace StoryHooks.Text

/-! ## Ranges of characters -/

/-- The first and the last code point of a range. -/
abbrev CharRange := Nat × Nat

def inRanges (ranges : List CharRange) (c : Char) : Bool :=
  ranges.any fun range => range.1 ≤ c.toNat && c.toNat ≤ range.2

/-! ## Hexadecimal digits -/

def hex (n : Nat) : String := String.ofList (Nat.toDigits 16 n)

def hexPadded (width n : Nat) : String :=
  let digits := Nat.toDigits 16 n
  String.ofList (List.replicate (width - digits.length) '0' ++ digits)

/-! ## Blanks -/

/-- What Unicode calls white space. -/
def blankRanges : List CharRange :=
  [ (0x09, 0x0D), (0x20, 0x20), (0x85, 0x85), (0xA0, 0xA0), (0x1680, 0x1680), (0x2000, 0x200A)
  , (0x2028, 0x2029), (0x202F, 0x202F), (0x205F, 0x205F), (0x3000, 0x3000) ]

def isBlankChar (c : Char) : Bool := inRanges blankRanges c

def trimBlanks (cs : List Char) : List Char :=
  ((cs.dropWhile isBlankChar).reverse.dropWhile isBlankChar).reverse

/-! ## Messages without their traceback -/

def tracebackMark : List Char := "\nstack traceback:".toList

def beforeTraceback : List Char → List Char
  | [] => []
  | c :: cs => if tracebackMark.isPrefixOf (c :: cs) then [] else c :: beforeTraceback cs

/-- What stands before the first traceback. -/
def withoutTraceback (message : String) : String := String.ofList (beforeTraceback message.toList)

end StoryHooks.Text
