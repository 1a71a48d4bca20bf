import StoryHooks.Bridge.Scenario
import StoryHooks.Bridge.Registration
import StoryHooks.Settings.Loading

/-!
# Scenarios on the Lua machine
-/

namespace StoryHooks

open Script

namespace LuaState

def describeMachine (m : Machine LuaState) : String :=
  "LuaRuntime \x7b alive: " ++ toString m.alive
    ++ ", handlers: " ++ toString m.handlers.length
    ++ ", stack_depth: " ++ toString m.depth ++ " \x7d"

instance : OwnDialect LuaState where
  perform
    | .register args direct, w => w.runRegister args direct
    | .script sample direct, w => w.runSample sample direct
    | .reinstall global mark orphan, w => w.reinstall global mark orphan
    | .describeMachine, w => (.text (describeMachine w.machine), w)
    | .leaveBehind _, w | .reject _, w => (.done, w)
  describe w :=
    "LuaBridge \x7b generation: " ++ toString w.generation.toNat
      ++ ", manager: " ++ w.describeManager ++ " \x7d"
  shutDownEvents m := if m.alive then [.machineShutDown] else []

/-- A bridge with a Lua machine, after the events that led to it. -/
def start (settings : Settings) (events : List Event) : World LuaState :=
  .start (.start settings.maxStackSlots .initial) settings
    (events ++ [.machineCreated settings.maxStackSlots])

/-- A bridge with the settings of a file, or the defaults if there is no file. -/
def startFromFile (path : String) (state : Settings.FileState) (env : Environment) :
    Except (Settings.LoadError × List Event) (World LuaState) :=
  match Settings.loadOrDefault path state env with
  | (.error e, events) => .error (e, events)
  | (.ok settings, events) => .ok (start settings events)

def loadErrorMessage (e : Settings.LoadError) : String := "Configuration error: " ++ e.message

end LuaState

end StoryHooks
