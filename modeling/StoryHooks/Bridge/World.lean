import StoryHooks.Bridge.Step
import StoryHooks.Bridge.Answer
import StoryHooks.Diagnostics
import StoryHooks.Pool.Basic
import StoryHooks.Settings.Basic

/-!
# The world of a bridge

Everything that a step can change: the script machine and its functions, the callback manager, the
story's symbols, the hook installer, and the journals of what has happened. Journals only grow.
-/

namespace StoryHooks

open Script

/-- The layer that patches the engine. It can be told to fail once. -/
structure Installer where
  installs : Nat
  binds : Nat
  failNext : Bool
  bound : Bool
deriving DecidableEq, Repr

def Installer.initial : Installer := ⟨0, 0, false, false⟩

/-- Tries to patch the engine. A failure that was armed is used up by the attempt. -/
def Installer.install (i : Installer) : Bool × Installer :=
  if i.failNext then (false, { i with failNext := false })
  else (true, { i with installs := i.installs + 1 })

def Installer.bind (i : Installer) (bound : Bool) : Installer :=
  { i with binds := i.binds + 1, bound }

structure Manager where
  roster : Roster
  pool : Pool
  /-- All dispatch is gated while the engine merges story data. -/
  merging : Bool
  storyLoaded : Bool
  /-- The engine is patched and calls into this manager. -/
  hooked : Bool
deriving Repr

def Manager.ofSettings (s : Settings) : Manager :=
  ⟨.empty s.querySuffix, .withLevels s.poolLevels, false, false, false⟩

/-- A function of the scripts with the number of its runs so far. -/
structure ScriptFunction where
  body : Body Step
  runs : Nat

/-- A call that reached a function, with what it was passed. -/
structure CallRecord (α : Type) where
  function : Nat
  arguments : List α

/-- A step that a function has performed: its position in the body, its answer, and the dispatch
depth and the stack depth right after it. There is no dispatch depth without a manager. -/
structure NestedRecord where
  function : Nat
  position : Nat
  answer : Answer
  dispatchDepth : Option Nat
  stackDepth : Nat

/-- What a manager did, told in its own terms and not in those of its reports. -/
inductive Act
  /-- It took a subscription, in a story with these symbols. -/
  | subscribed (signature : Signature) (handler : HandlerRef) (symbols : SymbolTable)
  /-- It rebuilt all routes, in a story with these symbols. -/
  | loaded (symbols : SymbolTable) (report : ResolutionReport)
  /-- It tried to hook the engine. -/
  | hookTried (succeeded : Bool)
  /-- It took a snapshot of the handlers of a key and began to run them. -/
  | firingBegan (key : RouteKey) (ids : List SubscriptionId)
  /-- It ran the handlers of the innermost firing to the last. -/
  | firingEnded (invocations : List Invocation)

/-- The bridge and everything around it that a step can change. -/
structure World (δ : Type) [Dialect δ] where
  machine : Machine δ
  /-- The functions of the scripts, a function's number being its position. -/
  functions : List ScriptFunction
  symbols : SymbolTable
  installer : Installer
  manager : Manager
  /-- The manager and its binding are still there. -/
  managed : Bool
  /-- The number of stories loaded through the binding. -/
  generation : UInt32
  /-- What was reported. -/
  events : List Event
  calls : List (CallRecord (Dialect.Argument δ))
  nested : List NestedRecord
  /-- Nothing is decided by the history; it is what a report or a route can be held against. -/
  history : List Act

namespace World

variable {δ : Type} [Dialect δ]

def start (machine : Machine δ) (settings : Settings) (events : List Event) : World δ :=
  { machine
    functions := []
    symbols := .empty
    installer := .initial
    manager := .ofSettings settings
    managed := true
    generation := 0
    events
    calls := []
    nested := []
    history := [] }

def setMachine (w : World δ) (machine : Machine δ) : World δ := { w with machine }

def setRoster (w : World δ) (roster : Roster) : World δ :=
  { w with manager := { w.manager with roster } }

def setPool (w : World δ) (pool : Pool) : World δ := { w with manager := { w.manager with pool } }

def reportAll (w : World δ) (events : List Event) : World δ :=
  { w with events := w.events ++ events }

def report (w : World δ) (e : Event) : World δ := w.reportAll [e]

def enact (w : World δ) (act : Act) : World δ := { w with history := w.history ++ [act] }

/-- The number of firings in progress; zero without a manager. -/
def dispatchDepth (w : World δ) : Nat := if w.managed then w.manager.pool.depth else 0

/-- The sink is bound and still there. -/
def hasSink (w : World δ) : Bool := w.installer.bound && w.managed

def addFunction (w : World δ) (body : Body Step) : Nat × World δ :=
  (w.functions.length, { w with functions := w.functions ++ [⟨body, 0⟩] })

def countRun (w : World δ) (number : Nat) (function : ScriptFunction) : World δ :=
  { w with functions := w.functions.set number { function with runs := function.runs + 1 } }

/-- Stores a handler in the machine, if it still takes any. -/
def storeHandler? (w : World δ) (callable : Callable) : Option (HandlerRef × World δ) :=
  (w.machine.store? callable).map fun (handler, machine) => (handler, w.setMachine machine)

end World

end StoryHooks
