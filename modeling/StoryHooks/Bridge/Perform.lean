import StoryHooks.Bridge.Dispatch

/-!
# Performing steps

One step against a world, and the budget that bounds how deep handler bodies nest.
-/

namespace StoryHooks

open Script

/-- A dialect that understands requests of its own, which run no handler. -/
class OwnDialect (δ : Type) [Dialect δ] where
  perform : OwnStep Step → World δ → Answer × World δ
  /-- The text that describes a world to a reader. -/
  describe : World δ → String
  /-- What is reported when the machine is shut down. -/
  shutDownEvents : Machine δ → List Event

namespace World

variable {δ : Type} [Dialect δ]

def describeManager (w : World δ) : String :=
  let m := w.manager
  "CallbackManager \x7b subscribers: " ++ toString m.roster.size
    ++ ", routes: " ++ toString m.roster.activeRoutes
    ++ ", depth: " ++ toString m.pool.depth
    ++ ", merging: " ++ toString m.merging
    ++ ", story_loaded: " ++ toString m.storyLoaded
    ++ ", hooked: " ++ toString m.hooked ++ " \x7d"

def whileManaged (w : World δ) (act : World δ → Performed δ) : Performed δ :=
  if w.managed then act w else some (.dropped, w)

/-- The answer of a firing whose invocations are not asked for. -/
def fired : Option (Except OutOfOrder (List Invocation) × World δ) → Performed δ
  | none => none
  | some (.ok _, w) => some (.done, w)
  | some (.error e, w) => some (.faulted (.text e.message), w)

/-- The answer of a firing whose invocations are summed up. -/
def dispatched : Option (Except OutOfOrder (List Invocation) × World δ) → Performed δ
  | none => none
  | some (.ok invocations, w) => some (.dispatched (.ofInvocations invocations), w)
  | some (.error e, w) => some (.faulted (.text e.message), w)

def pushed (w : World δ) : Except MachineError (Machine δ) → Performed δ
  | .error e => some (.refused e, w)
  | .ok machine => some (.ok, w.setMachine machine)

def stackStep (perform : Perform δ) (w : World δ) : StackStep → Performed δ
  | .guard handler args =>
    match guard perform handler args w with
    | none => none
    | some (outcome, w) => some (.guarded outcome.shown, w)
  | .depth => some (.count w.machine.depth, w)
  | .check slots =>
    match w.machine.checkStack slots with
    | .error e => some (.refused e, w)
    | .ok _ => some (.ok, w)
  | .pushHandler handler => w.pushed (w.machine.pushHandler handler)
  | .pushValue value => w.pushed (w.machine.pushValue value)
  | .call count =>
    match call perform count w with
    | none => none
    | some (.returned, w) => some (.returned, w)
    | some (.failed, w) => some (.failed, w)
    | some (.faulted fault, w) => some (.faulted fault, w)
  | .topText =>
    match w.machine.topText? with
    | none => some (.done, w)
    | some text => some (.text (Text.withoutTraceback text), w)
  | .pop count => some (.done, w.setMachine (w.machine.pop count))

/-- One step, with the steps of handler bodies performed as told. -/
def step [OwnDialect δ] (perform : Perform δ) : Step → World δ → Performed δ
  | .define name arity symbol, w =>
    some (.done, { w with symbols := w.symbols.define name arity symbol })
  | .remove name arity, w => some (.done, { w with symbols := w.symbols.remove name arity })
  | .clearSymbols, w => some (.done, { w with symbols := .empty })
  | .addHandler body, w =>
    let (number, w) := w.addFunction body
    match w.storeHandler? (.body number) with
    | none => some (.script .machineShutDown, w)
    | some (handler, w) => some (.count handler.number, w)
  | .subscribe signature handler, w =>
    w.whileManaged fun w =>
      let (id, w) := w.subscribe signature handler
      some (.count id, w)
  | .loadStory viaManager, w =>
    w.whileManaged fun w =>
      let (report, w) := if viaManager then w.loadStory else w.bindStory
      some (.report report, w)
  | .setMerging merging _, w => w.whileManaged fun w => some (.done, w.setMerging merging)
  | .hook, w =>
    w.whileManaged fun w =>
      let w := w.hook
      some (.flag w.manager.hooked, w)
  | .failNextInstall, w =>
    some (.done, { w with installer := { w.installer with failNext := true } })
  | .fire engineCall viaManager, w =>
    if viaManager then w.whileManaged fun w => fired (fire perform engineCall w)
    else if w.hasSink then fired (fire perform engineCall w)
    else some (.noSink, w)
  | .run key args, w => w.whileManaged fun w => dispatched (runHandlers perform key args w)
  | .countHandlers key, w =>
    w.whileManaged fun w => some (.count (w.manager.roster.handlersFor key).length, w)
  | .describe, w => w.whileManaged fun w => some (.text (OwnDialect.describe w), w)
  | .shutDown, w =>
    some (.done,
      (w.setMachine w.machine.shutDown).reportAll (OwnDialect.shutDownEvents w.machine))
  | .drop, w => some (.done, w.dropManager)
  | .stack request, w =>
    if w.machine.alive then w.stackStep perform request else some (.unpinned, w)
  | .own request, w => some (OwnDialect.perform request w)

/-- A step whose handler bodies nest no deeper than the budget. -/
def stepWithin [OwnDialect δ] : Nat → Perform δ
  | 0 => fun _ _ => none
  | budget + 1 => step (stepWithin budget)

end World

end StoryHooks
