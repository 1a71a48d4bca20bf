import StoryHooks.Number.Decimal
import StoryHooks.Script.Body
import StoryHooks.Text.Utf8

/-!
# Lua values

The values of a Lua state, as far as the bridge can tell them apart. A Lua string is a sequence of
bytes, which need not be UTF-8.
-/

namespace StoryHooks

inductive LuaValue
  | nil
  | boolean (b : Bool)
  | integer (n : Int64)
  | number (x : Number.Double)
  | string (bytes : List UInt8)
  | table
  | function (callable : Script.Callable)
  | thread
  | userdata
  | lightUserdata
deriving DecidableEq, Repr

namespace LuaValue

def ofText (s : String) : LuaValue := string (Text.Utf8.encode s)

/-- The name of the kind of a value, integers and other numbers apart. -/
def kindName : LuaValue → String
  | nil => "nil"
  | boolean _ => "boolean"
  | integer _ => "integer"
  | number _ => "number"
  | string _ => "string"
  | table => "table"
  | function _ => "function"
  | thread => "thread"
  | userdata => "userdata"
  | lightUserdata => "lightuserdata"

/-- The name that Lua's own errors use, where all numbers are of one kind and a userdata goes by the
type of what it holds, a byte. -/
def typeName : LuaValue → String
  | integer _ => "number"
  | userdata => "u8"
  | lightUserdata => "userdata"
  | value => value.kindName

def shownDigits : Nat := 14

/-- The text of a number: what looks like an integer is told from one by a final `.0`. -/
def numberText (x : Number.Double) : String :=
  let text := x.datum.generalText shownDigits
  if text.toList.all fun c => c.isDigit || c == '-' then text ++ ".0" else text

/-- The text of a value. Bytes that are not UTF-8 are not reached by it: all strings that the
bridge shows were made from texts. Functions are not told apart. -/
def text : LuaValue → String
  | nil => "nil"
  | boolean b => toString b
  | integer n => toString n.toInt
  | number x => numberText x
  | string bytes => (Text.Utf8.decode bytes).toOption.getD ""
  | value => value.kindName

end LuaValue

end StoryHooks
