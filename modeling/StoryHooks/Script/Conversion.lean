import StoryHooks.Script.LuaValue
import StoryHooks.Value

/-!
# Native values and Lua values

Every native value has a Lua value. Back again, a type is asked for or inferred: integral numbers
pass where an integer is asked for and integers where a real is, and nothing else changes its kind.
-/

namespace StoryHooks

inductive ConversionError
  | outOfRange (n : Int64)
  | notIntegral (x : Number.Double)
  | unexpected (expected : ValueType) (found : LuaValue)
  | notUtf8 (defect : Text.Utf8.Defect)
  | noCounterpart (found : LuaValue)
deriving DecidableEq, Repr

def ConversionError.message : ConversionError → String
  | outOfRange n => "integer " ++ toString n.toInt ++ " out of range"
  | notIntegral x => "number " ++ x.shortestText ++ " is not an integer"
  | unexpected expected found => "expected " ++ expected.name ++ ", got " ++ found.kindName
  | notUtf8 defect => "error converting Lua string to &str (" ++ defect.message ++ ")"
  | noCounterpart found => found.kindName ++ " has no Osiris representation"

def Value.toLua : Value → LuaValue
  | .none => .nil
  | .integer n => .integer n.toInt64
  | .integer64 n => .integer n
  | .real x => .number (.ofSingle x)
  | .string s | .guidString s => .ofText s

namespace LuaValue

def int32? (n : Int) : Option Int32 :=
  if Int32.minValue.toInt ≤ n ∧ n ≤ Int32.maxValue.toInt then some (Int32.ofInt n) else none

def int64? (n : Int) : Option Int64 :=
  if Int64.minValue.toInt ≤ n ∧ n ≤ Int64.maxValue.toInt then some (Int64.ofInt n) else none

/-- The integer that a number is, if it is one and fits into 64 bits. -/
def integral? (x : Number.Double) : Option Int64 := x.datum.toInt?.bind int64?

def decode (bytes : List UInt8) : Except ConversionError String :=
  match Text.Utf8.decode bytes with
  | .ok text => .ok text
  | .error defect => .error (.notUtf8 defect)

def toValue (type : ValueType) (value : LuaValue) : Except ConversionError Value :=
  match type, value with
  | .none, .nil => .ok .none
  | .integer, .integer n =>
    match int32? n.toInt with
    | some i => .ok (.integer i)
    | none => .error (.outOfRange n)
  | .integer, .number x =>
    match (integral? x).bind fun n => int32? n.toInt with
    | some i => .ok (.integer i)
    | none => .error (.notIntegral x)
  | .integer64, .integer n => .ok (.integer64 n)
  | .integer64, .number x =>
    match integral? x with
    | some n => .ok (.integer64 n)
    | none => .error (.notIntegral x)
  | .real, .number x => .ok (.real x.toSingle)
  | .real, .integer n => .ok (.real (.ofInt n.toInt))
  | .string, .string bytes => (decode bytes).map .string
  | .guidString, .string bytes => (decode bytes).map .guidString
  | type, value => .error (.unexpected type value)

/-- The native value of the type that fits best: an integer of 32 bits where they suffice. -/
def infer (value : LuaValue) : Except ConversionError Value :=
  match value with
  | .nil => .ok .none
  | .integer n =>
    match int32? n.toInt with
    | some i => .ok (.integer i)
    | none => .ok (.integer64 n)
  | .number x => .ok (.real x.toSingle)
  | .string bytes => (decode bytes).map .string
  | value => .error (.noCounterpart value)

end LuaValue

end StoryHooks
