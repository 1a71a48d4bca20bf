import StoryHooks.Script.Machine

/-!
# The recording machine

A machine for tests. It can be told to refuse values of a type and to leave stray values behind
after each call, and its handlers survive a shutdown.
-/

namespace StoryHooks.Script

inductive RecordedSlot
  | handler (handler : HandlerRef) (callable : Callable)
  | value (value : Value)
  /-- The message of a script error. -/
  | error (message : String)
deriving DecidableEq, Repr

structure Recording where
  rejected : List ValueType
  strayCount : Nat
deriving DecidableEq, Repr

namespace Recording

/-- Nothing is refused and nothing left behind. -/
def initial : Recording := ⟨[], 0⟩

/-- Refuses the values of a type from now on. -/
def reject (r : Recording) (type : ValueType) : Recording :=
  { r with rejected := r.rejected ++ [type] }

/-- Leaves that many values behind after each call from now on. -/
def leaveBehind (r : Recording) (count : Nat) : Recording := { r with strayCount := count }

def rejection (type : ValueType) : String := type.name ++ " values are rejected"

end Recording

def RecordedSlot.text : RecordedSlot → String
  | .handler ref _ => ref.text
  | .value v => v.text
  | .error message => message

instance : Dialect Recording where
  Slot := RecordedSlot
  Argument := Value
  handlerSlot := .handler
  valueSlot settings value :=
    if value.type ∈ settings.rejected then .error (Recording.rejection value.type)
    else .ok (.value value)
  messageSlot := .error
  callable?
    | .handler _ callable => some callable
    | _ => none
  argument?
    | .value value => some value
    | _ => none
  text := RecordedSlot.text
  isText _ := true
  raisedMessage message := message
  stray settings := List.replicate settings.strayCount (.value .none)
  callFault? depth count := if depth < count + 1 then some shortStackFault else none
  maxNesting := none
  handlersOutlive := true

end StoryHooks.Script
