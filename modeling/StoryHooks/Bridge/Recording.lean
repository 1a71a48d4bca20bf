import StoryHooks.Bridge.Scenario
import StoryHooks.Script.Recording

/-!
# Scenarios on the recording machine
-/

namespace StoryHooks

open Script

namespace Recording

def start (stackLimit : Nat) (settings : Settings) : World Recording :=
  .start (.start stackLimit .initial) settings []

def configure (w : World Recording) (change : Recording → Recording) : World Recording :=
  w.setMachine { w.machine with own := change w.machine.own }

instance : OwnDialect Recording where
  perform
    | .leaveBehind count, w => (.done, configure w fun own => own.leaveBehind count)
    | .reject type, w => (.done, configure w fun own => own.reject type)
    | _, w => (.done, w)
  describe w := w.describeManager
  shutDownEvents _ := []

end Recording

end StoryHooks
