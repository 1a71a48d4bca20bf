import StoryHooks.Script.Machine
import StoryHooks.Script.Conversion
import StoryHooks.Text.Basic

/-!
# The Lua machine

Slots are Lua values. Handlers are kept by the Lua state, so none can be found once that is gone.
Calls into the state nest up to a limit, and so do the statements and expressions of a script.
-/

namespace StoryHooks

/-- What the global of the module for scripts holds. -/
inductive ModuleGlobal
  /-- The module, with its version if it was marked, and whether its functions know the manager. -/
  | module (version : Option Int64) (linked : Bool)
  | other (v : LuaValue)
deriving DecidableEq

/-- What the bridge knows of the Lua state beside its functions. -/
structure LuaState where
  global : ModuleGlobal
deriving DecidableEq

def LuaState.initial : LuaState := ⟨.module none true⟩

/-- A script error as Lua hands it out, without the calls that led to it. The text ends before its
first null character. -/
def LuaState.raisedMessage (message : String) : String :=
  Text.withoutTraceback
    ("runtime error: " ++ String.ofList (message.toList.takeWhile (· != '\x00')))

/-- How many calls into a Lua state can be in progress at once. -/
def LuaState.maxNesting : Nat := 199

instance : Script.Dialect LuaState where
  Slot := LuaValue
  Argument := LuaValue
  handlerSlot _ callable := .function callable
  valueSlot _ value := .ok value.toLua
  messageSlot := .ofText
  callable?
    | .function callable => some callable
    | _ => none
  argument? := some
  text := LuaValue.text
  isText
    | .string _ => true
    | _ => false
  raisedMessage := LuaState.raisedMessage
  stray _ := []
  callFault? _ count :=
    if Script.maxSlots ≤ count then some Script.uncountableFault else none
  maxNesting := some LuaState.maxNesting
  handlersOutlive := false

end StoryHooks
