import StoryHooks.Bridge.Manager

/-!
# Running handlers

A handler body performs steps, and a step may fire handlers again. The knot is cut at the steps:
everything here is told how a step of a body is performed. A step that is not performed to its end,
because the budget for nesting is used up, leaves no world behind, and neither does anything that
contains it.

The guard shields the engine from a handler: whatever the handler does, the guard ends with an
outcome, and drops what stands on the script stack above the depth that it found.
-/

namespace StoryHooks

open Script

/-- An answer and the world it leaves; none if the budget for nesting was used up. -/
abbrev Performed (δ : Type) [Dialect δ] := Option (Answer × World δ)

/-- How a step of a handler body is performed. -/
abbrev Perform (δ : Type) [Dialect δ] := Step → World δ → Performed δ

inductive CallResult
  | returned
  | failed
  | faulted (fault : Fault)
deriving DecidableEq, Repr

namespace World

variable {δ : Type} [Dialect δ]

def note (w : World δ) (function position : Nat) (answer : Answer) : World δ :=
  { w with
    nested := w.nested ++
      [ { function, position, answer
          dispatchDepth := if w.managed then some w.manager.pool.depth else none
          stackDepth := w.machine.depth } ] }

/-- Performs the steps of a body from a position on. A step that faults ends the body. -/
def runSteps (perform : Perform δ) (function : Nat) :
    Nat → List Step → World δ → Option (Option Fault × World δ)
  | _, [], w => some (none, w)
  | position, step :: steps, w =>
    match perform step w with
    | none => none
    | some (.faulted fault, w) => some (some fault, w)
    | some (answer, w) =>
      runSteps perform function (position + 1) steps (w.note function position answer)

/-- Runs a function: notes the call, counts the run, performs the steps if this run has any, and
ends. -/
def runFunction (perform : Perform δ) (number : Nat) (arguments : List (Dialect.Argument δ))
    (w : World δ) : Option (Ending × World δ) :=
  let w := { w with calls := w.calls ++ [⟨number, arguments⟩] }
  match w.functions[number]? with
  | none => some (.returns, w)
  | some function =>
    let performs := function.body.performs function.runs w.dispatchDepth
    let w := w.countRun number function
    if performs then
      match runSteps perform number 0 function.body.steps w with
      | none => none
      | some (some fault, w) => some (.faults fault, w)
      | some (none, w) => some (function.body.ending, w)
    else some (function.body.ending, w)

def runCallable (perform : Perform δ) (callable : Callable) (arguments : List (Dialect.Argument δ))
    (w : World δ) : Option (Ending × World δ) :=
  match callable with
  | .inert => some (.returns, w)
  | .body number => runFunction perform number arguments w

/-- Takes a function and its arguments from the script stack and calls it, if there is room for one
more call. A script error leaves its message on the stack, a fault leaves nothing. -/
def call (perform : Perform δ) (count : Nat) (w : World δ) : Option (CallResult × World δ) :=
  match w.machine.detach count with
  | .error fault => some (.faulted fault, w)
  | .ok (frame, machine) =>
    let w := w.setMachine machine
    match frame.callable with
    | none => some (.failed, w.setMachine w.machine.leaveNotCallable)
    | some callable =>
      if w.machine.hasRoomFor 1 then
        match runCallable perform callable frame.arguments (w.setMachine w.machine.enter) with
        | none => none
        | some (ending, w) =>
          let machine := w.machine.leave
          match w.machine.settle ending with
          | .returns => some (.returned, w.setMachine machine.leaveStray)
          | .raises message => some (.failed, w.setMachine (machine.leaveRaised message))
          | .faults fault => some (.faulted fault, w.setMachine machine)
      else some (.failed, w.setMachine (w.machine.leaveRaised overflowMessage))

def restore (w : World δ) (depth : Nat) : World δ :=
  w.setMachine (w.machine.restore depth)

def topText (w : World δ) : String := w.machine.topText?.getD ""

/-- Ends an invocation with a fault. What the call has left on the stack is reported in its place;
the outcome keeps the text of the fault. -/
def faultOut (w : World δ) (handler : HandlerRef) (entry : Nat) (message : String) :
    HandlerOutcome × World δ :=
  if entry < w.machine.depth then
    (.fault message, (w.report (.callbackFailed handler w.topText)).restore entry)
  else (.fault message, w.report (.callbackFaulted handler message))

/-- Runs one handler and isolates its failure. -/
def guard (perform : Perform δ) (handler : HandlerRef) (args : Arguments) (w : World δ) :
    Option (HandlerOutcome × World δ) :=
  let slots := 1 + args.count
  match w.machine.checkStack slots with
  | .error e => some (.skipped e, w.report (.handlerSkipped handler slots e))
  | .ok _ =>
    let entry := w.machine.depth
    match w.machine.marshal handler args.values with
    | (some e, machine) => some ((w.setMachine machine).faultOut handler entry e.message)
    | (none, machine) =>
      match call perform args.values.length (w.setMachine machine) with
      | none => none
      | some (.returned, w) => some (.completed, w.restore entry)
      | some (.failed, w) =>
        some (.scriptError w.topText, (w.report (.handlerFailed handler w.topText)).restore entry)
      | some (.faulted fault, w) => some (w.faultOut handler entry fault.message)

/-- Runs the handlers of a snapshot from a position on, one after the other. The level of the
snapshot is read anew before each; it must be read to its end within the budget. -/
def runLevel (perform : Perform δ) (snapshot : Snapshot) (args : Arguments) :
    Nat → Nat → World δ → Option (List Invocation × World δ)
  | 0, position, w =>
    match w.manager.pool.get? snapshot position with
    | none => some ([], w)
    | some _ => none
  | budget + 1, position, w =>
    match w.manager.pool.get? snapshot position with
    | none => some ([], w)
    | some id =>
      match w.manager.roster.handler? id with
      | none => runLevel perform snapshot args budget (position + 1) w
      | some handler =>
        match guard perform handler args w with
        | none => none
        | some (outcome, w) =>
          match runLevel perform snapshot args budget (position + 1) w with
          | none => none
          | some (invocations, w) => some (⟨handler, outcome⟩ :: invocations, w)

/-- Fires a key: runs every handler routed to it, unless dispatch is gated, no handler is routed
there, or the script machine was shut down. The handlers are those routed when the firing begins. -/
def runHandlers (perform : Perform δ) (key : RouteKey) (args : Arguments) (w : World δ) :
    Option (Except OutOfOrder (List Invocation) × World δ) :=
  if w.manager.merging then some (.ok [], w)
  else
    let ids := w.manager.roster.handlersFor key
    if ids.isEmpty then some (.ok [], w)
    else if !w.machine.alive then some (.ok [], w.report (.machineUnavailable key))
    else
      let (snapshot, pool) := w.manager.pool.enter ids
      let w := (w.setPool pool).enact (.firingBegan key ids)
      match runLevel perform snapshot args ids.length 0 w with
      | none => none
      | some (invocations, w) =>
        match w.manager.pool.exit snapshot with
        | .error e => some (.error e, w)
        | .ok pool =>
          some (.ok invocations, (w.setPool pool).enact (.firingEnded invocations))

def fire (perform : Perform δ) (engineCall : EngineCall) (w : World δ) :
    Option (Except OutOfOrder (List Invocation) × World δ) :=
  runHandlers perform engineCall.key engineCall.arguments w

end World

end StoryHooks
