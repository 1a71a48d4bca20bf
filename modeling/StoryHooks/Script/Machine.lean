import StoryHooks.Script.Body
import StoryHooks.Subscription.Roster
import StoryHooks.Value

/-!
# Script machines

A script machine is driven through a stack of slots: make room, push a handler, push its arguments,
call. How slots hold handlers and values, and what a call leaves behind, differs from one machine
to another; a `Dialect` says how. The protocol itself is the same for all and stands here once.
-/

namespace StoryHooks.Script

inductive MachineError
  | unknownHandler (number : Nat)
  | conversion (reason : String)
  | stackExhausted (requested limit : Nat)
deriving DecidableEq, Repr

def MachineError.message : MachineError → String
  | unknownHandler number => "Unknown handler reference " ++ toString number
  | conversion reason => "Value conversion failed: " ++ reason
  | stackExhausted requested limit =>
    "Script stack exhausted: " ++ toString requested ++ " slots requested, limit is " ++
      toString limit

/-- What one kind of script machine decides for itself. `δ` holds the settings of such a machine. -/
class Dialect (δ : Type) where
  /-- What the stack is made of. -/
  Slot : Type
  /-- What a handler body is passed. -/
  Argument : Type
  /-- The slot of a handler, given what its reference leads to. -/
  handlerSlot : HandlerRef → Callable → Slot
  /-- The slot of a native value, or the reason why there is none. -/
  valueSlot : δ → Value → Except String Slot
  messageSlot : String → Slot
  /-- What a slot can be called as. -/
  callable? : Slot → Option Callable
  /-- What a slot is passed as. -/
  argument? : Slot → Option Argument
  /-- The text of a slot in a diagnostic. -/
  text : Slot → String
  /-- Whether the text of a slot is at hand. Otherwise it takes a call to get it. -/
  isText : Slot → Bool
  /-- What a script error says of itself once it has left the call. -/
  raisedMessage : String → String
  /-- The slots that a call leaves behind, topmost first. -/
  stray : δ → List Slot
  /-- The fault of a call that asks for so many arguments from a stack of some depth. Without one it
  takes the slots that there are, if they are too few. -/
  callFault? : (depth count : Nat) → Option Fault
  /-- How many calls can be in progress at once, if there is a limit. -/
  maxNesting : Option Nat
  /-- Whether handlers can be stored and found after the machine was shut down. -/
  handlersOutlive : Bool

/-- A script machine: whether it is up, the slots it may hold, its stack with the topmost slot
first, and the handlers stored in it, a handler's reference being its position. -/
structure Machine (δ : Type) [Dialect δ] where
  alive : Bool
  limit : Nat
  slots : List (Dialect.Slot δ)
  handlers : List Callable
  /-- The functions stored so far, in order. Nothing is decided by them; they stay when the machine
  is shut down. -/
  stored : List Callable
  /-- The number of calls in progress. -/
  nesting : Nat
  /-- The settings that only this kind of machine has. -/
  own : δ

/-- The largest number of slots that can be asked for; larger sums stop there. -/
def maxSlots : Nat := UInt64.size - 1

def notCallableMessage : String := "attempt to call a non-function value"

/-- What a call says that is made with too few slots. -/
def shortStackFault : Fault := .text "attempt to subtract with overflow"

/-- What a call says whose slots are more than can be counted. -/
def uncountableFault : Fault := .text "attempt to add with overflow"

def overflowMessage : String := "C stack overflow"

/-- What a call has taken from the stack. -/
structure Frame (α : Type) where
  callable : Option Callable
  arguments : List α

namespace Machine

variable {δ : Type} [Dialect δ]

def start (limit : Nat) (own : δ) : Machine δ := ⟨true, limit, [], [], [], 0, own⟩

def depth (m : Machine δ) : Nat := m.slots.length

def checkStack (m : Machine δ) (slots : Nat) : Except MachineError Unit :=
  let requested := min (m.depth + slots) maxSlots
  if m.limit < requested then .error (.stackExhausted requested m.limit) else .ok ()

def push (m : Machine δ) (slot : Dialect.Slot δ) : Machine δ := { m with slots := slot :: m.slots }

def pushHandler (m : Machine δ) (handler : HandlerRef) : Except MachineError (Machine δ) :=
  match m.handlers[handler.number]? with
  | none => .error (.unknownHandler handler.number)
  | some callable => .ok (m.push (Dialect.handlerSlot handler callable))

def pushValue (m : Machine δ) (value : Value) : Except MachineError (Machine δ) :=
  match Dialect.valueSlot m.own value with
  | .error reason => .error (.conversion reason)
  | .ok slot => .ok (m.push slot)

/-- Pushes values up to the first that is refused. What was pushed before it stays. -/
def pushValues (m : Machine δ) : List Value → Option MachineError × Machine δ
  | [] => (none, m)
  | value :: values =>
    match m.pushValue value with
    | .error e => (some e, m)
    | .ok m' => m'.pushValues values

def marshal (m : Machine δ) (handler : HandlerRef) (values : List Value) :
    Option MachineError × Machine δ :=
  match m.pushHandler handler with
  | .error e => (some e, m)
  | .ok m' => m'.pushValues values

def pop (m : Machine δ) (count : Nat) : Machine δ := { m with slots := m.slots.drop count }

def restore (m : Machine δ) (depth : Nat) : Machine δ := m.pop (m.depth - depth)

/-- Whether so many more calls can be in progress. -/
def hasRoomFor (m : Machine δ) (calls : Nat) : Bool :=
  match Dialect.maxNesting δ with
  | none => true
  | some limit => m.nesting + calls ≤ limit

def enter (m : Machine δ) : Machine δ := { m with nesting := m.nesting + 1 }

def leave (m : Machine δ) : Machine δ := { m with nesting := m.nesting - 1 }

/-- How the innermost call ends whose body ends in a certain way. An error and a fault are handed
out by one more call; without room for that they turn into the error that says so. -/
def settle (m : Machine δ) : Ending → Ending
  | .returns => .returns
  | ending => if m.hasRoomFor 1 then ending else .raises overflowMessage

/-- The text of the topmost slot, if there is one and room for the call that its text may take. -/
def topText? (m : Machine δ) : Option String :=
  match m.slots with
  | [] => none
  | slot :: _ =>
    if Dialect.isText (δ := δ) slot || m.hasRoomFor 1 then some (Dialect.text (δ := δ) slot)
    else none

/-- Takes a function and its arguments from the stack. -/
def detach (m : Machine δ) (count : Nat) : Except Fault (Frame (Dialect.Argument δ) × Machine δ) :=
  match Dialect.callFault? δ m.depth count with
  | some fault => .error fault
  | none =>
    let rest := m.pop (count + 1)
    match (m.slots.take (count + 1)).reverse with
    | [] => .ok (⟨none, []⟩, rest)
    | slot :: slots =>
      .ok (⟨Dialect.callable? slot, slots.filterMap Dialect.argument?⟩, rest)

/-- Leaves the slots behind that calls leave behind in this machine. -/
def leaveStray (m : Machine δ) : Machine δ := { m with slots := Dialect.stray m.own ++ m.slots }

def leaveRaised (m : Machine δ) (message : String) : Machine δ :=
  m.leaveStray.push (Dialect.messageSlot (Dialect.raisedMessage δ message))

def leaveNotCallable (m : Machine δ) : Machine δ := m.push (Dialect.messageSlot notCallableMessage)

def store (m : Machine δ) (callable : Callable) : Machine δ :=
  { m with handlers := m.handlers ++ [callable], stored := m.stored ++ [callable] }

/-- Stores a handler under the next reference, if the machine still takes any. -/
def store? (m : Machine δ) (callable : Callable) : Option (HandlerRef × Machine δ) :=
  if m.alive || Dialect.handlersOutlive δ then some (⟨m.handlers.length⟩, m.store callable)
  else none

/-- Shuts the machine down: the stack is dropped, and the handlers with it where they do not outlive
their machine. -/
def shutDown (m : Machine δ) : Machine δ :=
  { m with
    alive := false
    slots := []
    handlers := if Dialect.handlersOutlive δ then m.handlers else [] }

end Machine

end StoryHooks.Script
