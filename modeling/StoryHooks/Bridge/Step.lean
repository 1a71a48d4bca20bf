import StoryHooks.Arguments.Source
import StoryHooks.Subscription.Roster
import StoryHooks.Script.LuaValue

/-!
# Steps

What is asked of a bridge, from outside or by a handler body while it runs: changes to the story,
subscriptions, story loads, calls of the engine, and requests to the script machine.
-/

namespace StoryHooks

open Script (Body)

/-- One of the eight calls that the patched engine makes into the bridge. -/
inductive EngineCall
  | insertPre (node : NodeId) (tuple : Option Ring) (deleted : Bool)
  | insertPost (node : NodeId) (tuple : Option Ring) (deleted : Bool)
  | queryPre (node : NodeId) (args : Option Chain)
  | queryPost (node : NodeId) (args : Option Chain) (succeeded : Bool)
  | callPre (function : FunctionId) (args : Option Chain)
  | callPost (function : FunctionId) (args : Option Chain) (succeeded : Bool)
  | eventPre (function : FunctionId) (args : Option Chain)
  | eventPost (function : FunctionId) (args : Option Chain)
deriving DecidableEq, Repr

namespace EngineCall

/-- The key that the call fires. Queries are never deleted, and whether an operation succeeded makes
no difference. -/
def key : EngineCall → RouteKey
  | insertPre node _ deleted => .node node false deleted
  | insertPost node _ deleted => .node node true deleted
  | queryPre node _ => .node node false false
  | queryPost node _ _ => .node node true false
  | callPre function _ | eventPre function _ => .function function false
  | callPost function _ _ | eventPost function _ => .function function true

def arguments : EngineCall → Arguments
  | insertPre _ tuple _ | insertPost _ tuple _ => .ofRing? tuple
  | queryPre _ args | queryPost _ args _ | callPre _ args | callPost _ args _
  | eventPre _ args | eventPost _ args => .ofChain? args

end EngineCall

/-- What a script passes to a function: a value, or a new function with a body. -/
inductive ScriptArgument (σ : Type)
  | value (v : LuaValue)
  | function (body : Body σ)

/-- The scripts that are run for their effect on the bridge alone. -/
inductive Script.Sample
  /-- Does nothing. -/
  | noop
  /-- Is no script at all. -/
  | malformed
  /-- Raises an error. -/
  | raising
  /-- Calls a function that the module for scripts does not have. -/
  | missingFunction
deriving DecidableEq, Repr

/-- A request that only one of the script machines understands. -/
inductive OwnStep (σ : Type)
  /-- Leave stray values behind after each call. -/
  | leaveBehind (count : Nat)
  /-- Refuse the values of a type. -/
  | reject (type : ValueType)
  /-- Run a script that registers a listener; directly, or by way of the bridge. -/
  | register (args : List (ScriptArgument σ)) (direct : Bool)
  | script (sample : Script.Sample) (direct : Bool)
  /-- Set the global of the module for scripts, mark the module, and install it once more; an
  orphan does not know the manager. -/
  | reinstall (global : Option LuaValue) (mark orphan : Bool)
  | describeMachine

inductive StackStep
  /-- Run a handler under the guard. -/
  | guard (handler : HandlerRef) (args : Arguments)
  | depth
  | check (slots : Nat)
  | pushHandler (handler : HandlerRef)
  | pushValue (value : Value)
  | call (count : Nat)
  | topText
  | pop (count : Nat)
deriving Repr

/-- One step. Where a step names a way, it goes through the binding or the bound sink, or straight
to the manager. -/
inductive Step
  | define (name : String) (arity : UInt32) (symbol : Symbol)
  | remove (name : String) (arity : UInt32)
  | clearSymbols
  | addHandler (body : Body Step)
  | subscribe (signature : Signature) (handler : HandlerRef)
  | loadStory (viaManager : Bool)
  | setMerging (merging : Bool) (viaManager : Bool)
  | hook
  | failNextInstall
  | fire (call : EngineCall) (viaManager : Bool)
  | run (key : RouteKey) (args : Arguments)
  | countHandlers (key : RouteKey)
  | describe
  | shutDown
  | drop
  | stack (step : StackStep)
  | own (step : OwnStep Step)

end StoryHooks
