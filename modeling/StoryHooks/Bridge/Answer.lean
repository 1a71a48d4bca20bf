import StoryHooks.Subscription.Roster
import StoryHooks.Script.Machine
import StoryHooks.Script.LuaValue
import StoryHooks.Text.Basic

/-!
# Answers to steps
-/

namespace StoryHooks

/-- How one invocation of a handler ended. -/
inductive HandlerOutcome
  | completed
  /-- The handler raised a script error. -/
  | scriptError (message : String)
  /-- The call could not be prepared, or a native fault unwound out of it. -/
  | fault (message : String)
  /-- The machine had no room for the call. -/
  | skipped (e : Script.MachineError)
deriving DecidableEq, Repr

def HandlerOutcome.isFailure : HandlerOutcome → Bool
  | completed => false
  | _ => true

/-- The outcome as it is shown, a script error without its traceback. -/
def HandlerOutcome.shown : HandlerOutcome → HandlerOutcome
  | scriptError message => scriptError (Text.withoutTraceback message)
  | outcome => outcome

structure Invocation where
  handler : HandlerRef
  outcome : HandlerOutcome
deriving DecidableEq, Repr

structure DispatchOutcome where
  invoked : Nat
  failed : Nat
deriving DecidableEq, Repr

/-- The sum of the invocations that a firing has made. -/
def DispatchOutcome.ofInvocations (invocations : List Invocation) : DispatchOutcome :=
  ⟨invocations.length, invocations.countP fun i => i.outcome.isFailure⟩

/-- Why a script that registers a listener, or any script, came to nothing. -/
inductive ScriptFailure
  /-- The machine takes no scripts and no handlers any more. -/
  | machineShutDown
  /-- An argument, counted from one, cannot be read as what the function asks for. -/
  | badArgument (position : Nat)
  | malformed
  /-- A Lua error with its message. -/
  | lua (message : String)
  /-- The global of the module for scripts is not a table. -/
  | notATable
deriving DecidableEq, Repr

def machineShutDownMessage : String := "Lua runtime has been shut down"

inductive Answer
  | done
  | ok
  | count (n : Nat)
  | flag (b : Bool)
  | text (s : String)
  | report (report : ResolutionReport)
  | dispatched (outcome : DispatchOutcome)
  | guarded (outcome : HandlerOutcome)
  | returned
  | failed
  | refused (e : Script.MachineError)
  | script (failure : ScriptFailure)
  | value (v : LuaValue)
  /-- The manager is gone. -/
  | dropped
  /-- No sink is bound, or none that is still there. -/
  | noSink
  /-- The script machine was shut down. -/
  | unpinned
  /-- A native fault unwinds out of the step. -/
  | faulted (fault : Script.Fault)
deriving DecidableEq

end StoryHooks
