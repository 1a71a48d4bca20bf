import StoryHooks.Script.LuaValue
import StoryHooks.Number.Numeral

/-!
# Arguments of script functions

A function made available to scripts asks for texts, natural numbers and functions, and takes what
can be read as one: numbers as texts, numerals as numbers, fractions without their fractional part.
-/

namespace StoryHooks.LuaValue

def toText? : LuaValue → Option String
  | string bytes => (Text.Utf8.decode bytes).toOption
  | integer n => some (toString n.toInt)
  | number x => some (numberText x)
  | _ => none

def natural32? (n : Int) : Option UInt32 :=
  if 0 ≤ n ∧ n < UInt32.size then some n.toNat.toUInt32 else none

def byteChars (bytes : List UInt8) : List Char := bytes.map fun b => Char.ofNat b.toNat

/-- The 32-bit natural number of an integer, another number or a numeral. -/
def toNatural32? : LuaValue → Option UInt32
  | integer n => natural32? n.toInt
  | number x => x.datum.truncate?.bind natural32?
  | string bytes =>
    ((Number.Numeral.ofChars? (byteChars bytes)).bind Number.Numeral.truncate?).bind natural32?
  | _ => none

def toCallable? : LuaValue → Option Script.Callable
  | function callable => some callable
  | _ => none

end StoryHooks.LuaValue
