import StoryHooks.Bridge.Perform

/-!
# Scenarios

A list of steps performed one after the other, each with an account of what it answered, what it
caused and how it left the world.
-/

namespace StoryHooks

open Script

structure ManagerStatus where
  dispatchDepth : Nat
  subscriptions : Nat
  hooked : Bool
  storyLoaded : Bool
  merging : Bool
  generation : UInt32
deriving DecidableEq, Repr

structure Status where
  manager : Option ManagerStatus
  stackDepth : Nat
  alive : Bool
  /-- The calls that have reached a function so far. -/
  calls : Nat
  /-- The handlers that can be found. -/
  handlers : Nat
  installs : Nat
  binds : Nat
  bound : Bool
  sink : Bool
deriving DecidableEq, Repr

/-- The account of a step. A step that used up the budget has no answer and changed nothing. -/
structure StepAccount (α : Type) where
  answer : Option Answer
  nested : List NestedRecord
  calls : List (CallRecord α)
  events : List Event
  status : Status

namespace World

variable {δ : Type} [Dialect δ]

def status (w : World δ) : Status :=
  { manager :=
      if w.managed then
        some
          { dispatchDepth := w.manager.pool.depth
            subscriptions := w.manager.roster.size
            hooked := w.manager.hooked
            storyLoaded := w.manager.storyLoaded
            merging := w.manager.merging
            generation := w.generation }
      else none
    stackDepth := w.machine.depth
    alive := w.machine.alive
    calls := w.calls.length
    handlers := w.machine.handlers.length
    installs := w.installer.installs
    binds := w.installer.binds
    bound := w.installer.bound
    sink := w.hasSink }

def account (w w' : World δ) (answer : Option Answer) : StepAccount (Dialect.Argument δ) :=
  { answer
    nested := w'.nested.drop w.nested.length
    calls := w'.calls.drop w.calls.length
    events := w'.events.drop w.events.length
    status := w'.status }

def runWithin [OwnDialect δ] (budget : Nat) :
    List Step → World δ → List (StepAccount (Dialect.Argument δ))
  | [], _ => []
  | s :: steps, w =>
    match stepWithin budget s w with
    | none => w.account w none :: runWithin budget steps w
    | some (answer, w') => w.account w' (some answer) :: runWithin budget steps w'

/-- How deep handler bodies may nest in a scenario. Each level of nesting stands for calls on the
native stack, which ends long before this. -/
def nestingBudget : Nat := 1000000

def run [OwnDialect δ] (steps : List Step) (w : World δ) :
    List (StepAccount (Dialect.Argument δ)) :=
  runWithin nestingBudget steps w

end World

end StoryHooks
