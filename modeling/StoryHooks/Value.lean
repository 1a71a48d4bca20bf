import StoryHooks.Number.Decimal

/-!
# Native values

The values that the engine hands to the bridge, their types and their texts.
-/

namespace StoryHooks

inductive ValueType
  | none
  | integer
  | integer64
  | real
  | string
  | guidString
deriving DecidableEq, Repr

namespace ValueType

def all : List ValueType := [none, integer, integer64, real, string, guidString]

def name : ValueType → String
  | none => "None"
  | integer => "Integer"
  | integer64 => "Integer64"
  | real => "Real"
  | string => "String"
  | guidString => "GuidString"

end ValueType

inductive Value
  | none
  | integer (n : Int32)
  | integer64 (n : Int64)
  | real (x : Number.Single)
  | string (s : String)
  | guidString (s : String)
deriving DecidableEq, Repr

namespace Value

def type : Value → ValueType
  | none => .none
  | integer _ => .integer
  | integer64 _ => .integer64
  | real _ => .real
  | string _ => .string
  | guidString _ => .guidString

/-- The text of a value. Strings stand between quotes as they are, without escapes. -/
def text : Value → String
  | none => "<none>"
  | integer n => toString n.toInt
  | integer64 n => toString n.toInt
  | real x => x.shortestText
  | string s | guidString s => "\"" ++ s ++ "\""

end Value

end StoryHooks
