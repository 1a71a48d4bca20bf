import StoryHooks.Bridge.Perform
import StoryHooks.Proofs.Protocol

/-!
# What a run keeps

A body performs steps, and a step may fire handlers whose bodies perform steps again. A relation
between worlds that the guard is within, and every firing as a whole, is therefore kept by each
step as soon as it is kept by the steps of bodies, and so by every run. Relations between what is
seen beside the script stack are of this kind, and what the books of the manager hold is so seen:
the guard does not touch them.

Results:
1. `step_carried`: a step stays within such a relation if the steps of bodies do.
2. `Course.carried`: so does a run, whichever steps its bodies choose as they go along.
3. `Sees.guard`, `Sees.stackStep`: what is seen beside the stack changes in bodies only.
4. `OnBooks.carried`, `Kept.carriedBy`: a relation between books is one, and stays within every
   step if it does within every change of the books.
5. `stepWithin_stepwise`: what a bridge performs is a run of this kind.
-/

namespace StoryHooks

open Script

/-- What is on the books of a world: all of it that subscribing, loading and routing depend on. The
rest is the script machine with its functions, and journals of what scripts did and was reported. -/
structure Books where
  manager : Manager
  symbols : SymbolTable
  installer : Installer
  managed : Bool
  generation : UInt32
  history : List Act

namespace World

variable {δ : Type} [Dialect δ]

def books (w : World δ) : Books :=
  ⟨w.manager, w.symbols, w.installer, w.managed, w.generation, w.history⟩

section Books
variable {w w' : World δ}

theorem manager_of_books (h : w'.books = w.books) : w'.manager = w.manager :=
  congrArg Books.manager h

theorem history_of_books (h : w'.books = w.books) : w'.history = w.history :=
  congrArg Books.history h

@[simp] theorem books_note (w : World δ) (function position : Nat) (answer : Answer) :
    (w.note function position answer).books = w.books := rfl

theorem length_functions_countRun (w : World δ) (number : Nat) (function : ScriptFunction) :
    (w.countRun number function).functions.length = w.functions.length := List.length_set

@[simp] theorem books_addFunction (w : World δ) (body : Body Step) :
    (w.addFunction body).2.books = w.books := rfl

/-- A handler is stored after those that are there, and nothing else changes. -/
theorem storeHandler?_cases {callable : Callable} {handler : HandlerRef}
    (h : w.storeHandler? callable = some (handler, w')) :
    (w.machine.alive || Dialect.handlersOutlive δ) = true ∧
      handler = ⟨w.machine.handlers.length⟩ ∧
      w' = w.setMachine (w.machine.store callable) := by
  unfold storeHandler? Machine.store? at h
  obtain ⟨stored, hs, he⟩ := Option.map_eq_some_iff.mp h
  obtain ⟨htakes, hs⟩ := Option.ite_none_right_eq_some.mp hs
  cases hs
  cases he
  exact ⟨htakes, rfl, rfl⟩

/-- A machine that is up takes any handler. -/
theorem storeHandler?_of_alive (h : w.machine.alive = true) (callable : Callable) :
    w.storeHandler? callable =
      some (⟨w.machine.handlers.length⟩, w.setMachine (w.machine.store callable)) := by
  simp only [storeHandler?, Machine.store?, h, Bool.true_or, if_true, Option.map_some]

theorem books_storeHandler? {callable : Callable} {handler : HandlerRef}
    (h : w.storeHandler? callable = some (handler, w')) : w'.books = w.books := by
  obtain ⟨_, _, rfl⟩ := storeHandler?_cases h
  rfl

end Books

/-! ## Firings as a whole -/

/-- A firing of the key takes a snapshot: dispatch is not gated, a handler is routed there, and the
machine is up. -/
def Fires (w : World δ) (key : RouteKey) : Prop :=
  w.manager.merging = false ∧ w.manager.roster.handlersFor key ≠ [] ∧ w.machine.alive = true

/-- The snapshot that the next firing takes. -/
def nextSnapshot (w : World δ) : Snapshot := ⟨w.manager.pool.depth⟩

/-- The world of a firing that has just taken its snapshot. -/
def began (w : World δ) (key : RouteKey) : World δ :=
  let ids := w.manager.roster.handlersFor key
  (w.setPool (w.manager.pool.enter ids).2).enact (.firingBegan key ids)

/-- Gives the snapshot of a firing back, after its last handler. -/
def finish (snapshot : Snapshot) (invocations : List Invocation) (w : World δ) :
    Except OutOfOrder (List Invocation) × World δ :=
  match w.manager.pool.exit snapshot with
  | .error e => (.error e, w)
  | .ok pool => (.ok invocations, (w.setPool pool).enact (.firingEnded invocations))

/-- A firing that takes a snapshot runs its level and gives the snapshot back. -/
theorem runHandlers_of_fires {w : World δ} {key : RouteKey} (h : w.Fires key)
    (perform : Perform δ) (args : Arguments) :
    runHandlers perform key args w =
      (runLevel perform w.nextSnapshot args (w.manager.roster.handlersFor key).length 0
        (w.began key)).map fun done => finish w.nextSnapshot done.1 done.2 := by
  obtain ⟨hm, hne, ha⟩ := h
  have he : (w.manager.roster.handlersFor key).isEmpty = false := by
    simpa using hne
  simp only [runHandlers, hm, he, ha, Bool.false_eq_true, if_false, Bool.not_true, began,
    nextSnapshot, Pool.enter]
  split
  · next hr => rw [hr, Option.map_none]
  · next hr =>
    rw [hr, Option.map_some, finish]
    split
    · next hx => simp only [hx]
    · next hx => simp only [hx]

/-- Any other firing starts no handler. A machine that is down is reported, if that is the
reason. -/
theorem runHandlers_of_not_fires {w : World δ} {key : RouteKey} (h : ¬ w.Fires key)
    (perform : Perform δ) (args : Arguments) :
    runHandlers perform key args w = some (.ok [],
      if w.manager.merging = true ∨ w.manager.roster.handlersFor key = [] then w
      else w.report (.machineUnavailable key)) := by
  unfold runHandlers
  by_cases hm : w.manager.merging = true
  · simp [hm]
  by_cases he : w.manager.roster.handlersFor key = []
  · simp [hm, he]
  have ha : w.machine.alive = false := by
    simpa [Fires, hm, he] using h
  simp [hm, he, ha]

end World

/-! ## Relations that are carried -/

section Carried
variable {δ : Type} [Dialect δ]

namespace World

/-- The steps of bodies stay within a relation. -/
def Keeping (R : World δ → World δ → Prop) (perform : Perform δ) : Prop :=
  ∀ (s : Step) (w : World δ) (answer : Answer) (w' : World δ),
    perform s w = some (answer, w') → R w w'

/-- The bodies of handlers stay within a relation. -/
def BodiesKeeping (R : World δ → World δ → Prop) (perform : Perform δ) : Prop :=
  ∀ (callable : Callable) (arguments : List (Dialect.Argument δ)) (ending : Ending)
    (w w' : World δ), runCallable perform callable arguments w = some (ending, w') → R w w'

end World

/-- A relation that goes on from step to step. What scripts note of themselves is no part of it. -/
structure Along (R : World δ → World δ → Prop) : Prop where
  trans {u v w : World δ} : R u v → R v w → R u w
  noted {w w' : World δ} : w'.books = w.books → w'.machine = w.machine →
    w'.events = w.events → w'.functions.length = w.functions.length → R w w'

theorem Along.refl {R : World δ → World δ → Prop} (hR : Along R) (w : World δ) : R w w :=
  hR.noted rfl rfl rfl rfl

/-- A relation that the guard stays within if the bodies do, and every firing as a whole if what
happens during the firing does. -/
structure Carried (R : World δ → World δ → Prop) : Prop extends Along R where
  guard {perform : Perform δ} {handler : HandlerRef} {args : Arguments} {w w' : World δ}
    {outcome : HandlerOutcome} : World.BodiesKeeping R perform →
    World.guard perform handler args w = some (outcome, w') → R w w'
  unavailable (w : World δ) (key : RouteKey) : R w (w.report (.machineUnavailable key))
  firing {w u : World δ} {key : RouteKey} (invocations : List Invocation) : w.Fires key →
    R (w.began key) u → R w (World.finish w.nextSnapshot invocations u).2

namespace World

variable {R : World δ → World δ → Prop} {perform : Perform δ}

section Bodies
variable (hR : Along R) (hp : Keeping R perform)
include hR hp

theorem runSteps_carried {function position : Nat} {steps : List Step} {w w' : World δ}
    {fault : Option Fault}
    (h : runSteps perform function position steps w = some (fault, w')) : R w w' := by
  induction steps generalizing position w with
  | nil => cases h; exact hR.refl _
  | cons step steps ih =>
    rw [runSteps] at h
    split at h
    · cases h
    · next hs => cases h; exact hp _ _ _ _ hs
    · next hs =>
      refine hR.trans (hp _ _ _ _ hs) (hR.trans ?_ (ih h))
      exact hR.noted (books_note _ function position _) rfl rfl rfl

theorem runFunction_carried {number : Nat} {arguments : List (Dialect.Argument δ)}
    {w w' : World δ} {ending : Ending}
    (h : runFunction perform number arguments w = some (ending, w')) : R w w' := by
  unfold runFunction at h
  dsimp only at h
  split at h
  · cases h; exact hR.noted rfl rfl rfl rfl
  · next function _ =>
    have hentered : R w
        (countRun { w with calls := w.calls ++ [⟨number, arguments⟩] } number function) :=
      hR.noted rfl rfl rfl (length_functions_countRun _ number function)
    split at h
    · split at h
      · cases h
      all_goals next hs => cases h; exact hR.trans hentered (runSteps_carried hR hp hs)
    · cases h; exact hentered

theorem bodies_carried : BodiesKeeping R perform := by
  intro callable arguments ending w w' h
  cases callable with
  | inert => cases h; exact hR.refl _
  | body number => exact runFunction_carried hR hp h

end Bodies

variable (hR : Carried R) (hp : Keeping R perform)
include hR hp

theorem guard_carried {handler : HandlerRef} {args : Arguments} {w w' : World δ}
    {outcome : HandlerOutcome} (h : guard perform handler args w = some (outcome, w')) :
    R w w' := hR.guard (bodies_carried hR.toAlong hp) h

theorem runLevel_carried {snapshot : Snapshot} {args : Arguments} {budget position : Nat}
    {w w' : World δ} {invocations : List Invocation}
    (h : runLevel perform snapshot args budget position w = some (invocations, w')) : R w w' := by
  induction budget generalizing position w invocations with
  | zero =>
    rw [runLevel] at h
    split at h
    · cases h; exact hR.refl _
    · cases h
  | succ budget ih =>
    rw [runLevel] at h
    split at h
    · cases h; exact hR.refl _
    split at h
    · exact ih h
    split at h
    · cases h
    · next hg =>
      split at h
      · cases h
      · next hl => cases h; exact hR.trans (guard_carried hR hp hg) (ih hl)

theorem runHandlers_carried {key : RouteKey} {args : Arguments} {w w' : World δ}
    {result : Except OutOfOrder (List Invocation)}
    (h : runHandlers perform key args w = some (result, w')) : R w w' := by
  by_cases hf : w.Fires key
  · rw [runHandlers_of_fires hf] at h
    obtain ⟨done, hl, he⟩ := Option.map_eq_some_iff.mp h
    have hfiring := hR.firing done.1 hf (runLevel_carried hR hp hl)
    rw [he] at hfiring
    exact hfiring
  · rw [runHandlers_of_not_fires hf] at h
    cases h
    split
    · exact hR.refl w
    · exact hR.unavailable w key

end World

/-- A step fires the handlers of a key. -/
def Step.fires : Step → Bool
  | .fire .. | .run .. => true
  | _ => false

/-- A relation that firings are carried along, and that every allowed step stays within. -/
structure CarriedBy [OwnDialect δ] (allowed : Step → Prop) (R : World δ → World δ → Prop) : Prop
    extends Carried R where
  step {perform : Perform δ} {s : Step} {w w' : World δ} {answer : Answer} : allowed s →
    s.fires = false → World.BodiesKeeping R perform →
    World.step perform s w = some (answer, w') → R w w'

/-- A step that fires the handlers of a key leaves the world that this leads to, or the world as it
is if what it asks first is refused. -/
theorem World.step_of_fires [OwnDialect δ] {perform : Perform δ} {s : Step} {w w' : World δ}
    {answer : Answer} (hs : s.fires = true) (h : step perform s w = some (answer, w')) :
    w' = w ∨ ∃ key args result, runHandlers perform key args w = some (result, w') := by
  cases s with
  | fire engineCall viaManager =>
    have hfire : ∀ {answer}, fired (fire perform engineCall w) = some (answer, w') →
        ∃ result, runHandlers perform engineCall.key engineCall.arguments w =
          some (result, w') := by
      intro answer h
      unfold fired at h
      split at h <;> cases h
      all_goals next hr => exact ⟨_, hr⟩
    simp only [step, whileManaged] at h
    split at h
    · split at h
      · exact .inr ⟨_, _, hfire h⟩
      · cases h; exact .inl rfl
    · split at h
      · exact .inr ⟨_, _, hfire h⟩
      · cases h; exact .inl rfl
  | run key args =>
    simp only [step, whileManaged] at h
    split at h
    · unfold dispatched at h
      split at h <;> cases h
      all_goals next hr => exact .inr ⟨_, _, _, hr⟩
    · cases h; exact .inl rfl
  | _ => cases hs

/-- Any allowed step stays within a relation that is carried, if the steps of bodies do. -/
theorem World.step_carried [OwnDialect δ] {allowed : Step → Prop} {R : World δ → World δ → Prop}
    (hR : CarriedBy allowed R) {perform : Perform δ} (hp : Keeping R perform) {s : Step}
    {w w' : World δ} {answer : Answer} (ha : allowed s)
    (h : step perform s w = some (answer, w')) : R w w' := by
  cases hs : s.fires with
  | true =>
    rcases step_of_fires hs h with rfl | ⟨_, _, _, hr⟩
    · exact hR.refl _
    · exact runHandlers_carried hR.toCarried hp hr
  | false => exact hR.step ha hs (bodies_carried hR.toAlong hp) h

end Carried

/-! ## Relations beside the stack -/

/-- What is seen of a world whatever stands on the script stack, whichever calls are in progress and
whatever was reported. -/
structure BesideStack {δ α : Type} [Dialect δ] (view : World δ → α) : Prop where
  noted {w w' : World δ} : w'.books = w.books → w'.machine = w.machine →
    w'.functions.length = w.functions.length → view w' = view w
  stack (w : World δ) (slots : List (Dialect.Slot δ)) (nesting : Nat) :
    view (w.setMachine { w.machine with slots, nesting }) = view w

/-- A relation that looks at what is seen of two worlds alone. -/
structure Sees {δ α : Type} [Dialect δ] (view : World δ → α) (R : World δ → World δ → Prop) :
    Prop where
  trans {u v w : World δ} : R u v → R v w → R u w
  same {w w' : World δ} : view w' = view w → R w w'

section Sees
variable {δ α : Type} [Dialect δ] {view : World δ → α} (hview : BesideStack view)
include hview

/-- A call takes slots off the stack and nothing else. -/
theorem BesideStack.detach_eq {w : World δ} {count : Nat} {frame : Frame (Dialect.Argument δ)}
    {machine : Machine δ} (h : w.machine.detach count = .ok (frame, machine))
    (slots : List (Dialect.Slot δ)) (nesting : Nat) :
    view (w.setMachine { machine with slots, nesting }) = view w := by
  obtain rfl := Machine.eq_pop_of_detach h
  exact hview.stack w slots nesting

/-- What a call or the guard does after a body has ended is not seen. -/
theorem BesideStack.returned_eq (u : World δ) (ending : Ending) :
    view (u.returned ending) = view u :=
  hview.stack u _ _

variable {R : World δ → World δ → Prop} (hR : Sees view R) {perform : Perform δ}
  (hbodies : World.BodiesKeeping R perform) {v w : World δ}
include hR hbodies

namespace Sees

/-- What is seen changes in the body of a handler, if the guard runs one. -/
theorem guard {handler : HandlerRef} {args : Arguments} {outcome : HandlerOutcome}
    (h : World.guard perform handler args w = some (outcome, v)) : R w v := by
  obtain ⟨events, _, ⟨_, rfl⟩ | ⟨_, _, ending, u, hrun, rfl⟩⟩ := World.guard_cases h
  · exact hR.same (hview.noted rfl rfl rfl)
  · -- the body runs between entering the call and cutting the stack back, and neither is seen
    have hentered : R w (w.setMachine w.machine.enter) := hR.same (hview.stack w _ _)
    have hcut := hview.stack ((u.returned ending).reportAll events)
      (((u.returned ending).machine.restore w.machine.depth).slots) u.machine.leave.nesting
    have hreported : view ((u.returned ending).reportAll events) = view (u.returned ending) :=
      hview.noted rfl rfl rfl
    have hended := hcut.trans (hreported.trans (hview.returned_eq u ending))
    exact hR.trans (hR.trans hentered (hbodies _ _ _ _ _ hrun)) (hR.same hended)

theorem call {count : Nat} {result : CallResult}
    (h : World.call perform count w = some (result, v)) : R w v := by
  cases World.calls_of_call h with
  | refused => exact hR.same rfl
  | notCallable hd | noRoom hd => exact hR.same (hview.detach_eq hd _ _)
  | @ran _ machine _ ending u hd _ _ hrun =>
    have hentered : R w (w.setMachine machine.enter) := hR.same (hview.detach_eq hd _ _)
    have hended := hview.returned_eq u ending
    exact hR.trans (hR.trans hentered (hbodies _ _ _ _ _ hrun)) (hR.same hended)

/-- So it does in all requests to the script stack. -/
theorem stackStep {request : StackStep} {answer : Answer}
    (h : w.stackStep perform request = some (answer, v)) : R w v := by
  cases request with
  | guard handler args =>
    simp only [World.stackStep] at h
    split at h
    · cases h
    · next hg => cases h; exact hR.guard hview hbodies hg
  | call count =>
    simp only [World.stackStep] at h
    split at h
    · cases h
    all_goals next hc => cases h; exact hR.call hview hbodies hc
  | depth => cases h; exact hR.same rfl
  | pop count => cases h; exact hR.same (hview.stack w _ _)
  | check slots | topText =>
    simp only [World.stackStep] at h
    split at h <;> cases h <;> exact hR.same rfl
  | pushHandler handler =>
    simp only [World.stackStep, World.pushed, Machine.pushHandler] at h
    cases hh : w.machine.handlers[handler.number]? with
    | none => simp only [hh] at h; cases h; exact hR.same rfl
    | some callable => simp only [hh] at h; cases h; exact hR.same (hview.stack w _ _)
  | pushValue value =>
    simp only [World.stackStep, World.pushed, Machine.pushValue] at h
    cases hv : Dialect.valueSlot w.machine.own value with
    | error reason => simp only [hv] at h; cases h; exact hR.same rfl
    | ok slot => simp only [hv] at h; cases h; exact hR.same (hview.stack w _ _)

end Sees

end Sees

/-! ## Relations between books -/

/-- A relation that what leaves the books alone stays within, and every firing as a whole if what
happens during the firing does. -/
structure OnBooks {δ : Type} [Dialect δ] (R : World δ → World δ → Prop) : Prop where
  trans {u v w : World δ} : R u v → R v w → R u w
  books {w w' : World δ} : w'.books = w.books → R w w'
  firing {w u : World δ} {key : RouteKey} (invocations : List Invocation) : w.Fires key →
    R (w.began key) u → R w (World.finish w.nextSnapshot invocations u).2

theorem World.besideStack_books {δ : Type} [Dialect δ] :
    BesideStack (World.books : World δ → Books) :=
  ⟨fun hb _ _ => hb, fun _ _ _ => rfl⟩

namespace OnBooks

variable {δ : Type} [Dialect δ] {R : World δ → World δ → Prop} (hR : OnBooks R) {u v w : World δ}
include hR

/-- What comes first and leaves the books alone makes no difference. -/
theorem after (h : R u v) (hb : u.books = w.books) : R w v := hR.trans (hR.books hb) h

/-- Nor does what comes last. -/
theorem before (h : R w u) (hb : v.books = u.books) : R w v := hR.trans h (hR.books hb)

theorem sees : Sees World.books R := ⟨hR.trans, hR.books⟩

/-- The guard touches the books only through the body that it runs. -/
theorem carried : Carried R where
  trans := hR.trans
  noted hb _ _ _ := hR.books hb
  guard hbodies h := hR.sees.guard World.besideStack_books hbodies h
  unavailable _ _ := hR.books rfl
  firing := hR.firing

end OnBooks

/-- A relation that every change of the books stays within, and every firing as a whole if what
happens during the firing does. -/
structure Kept {δ : Type} [Dialect δ] (R : World δ → World δ → Prop) : Prop where
  trans {u v w : World δ} : R u v → R v w → R u w
  books {w w' : World δ} : w'.books = w.books → R w w'
  symbols (w : World δ) (symbols : SymbolTable) : R w { w with symbols }
  generation (w : World δ) (generation : UInt32) : R w { w with generation }
  failNext (w : World δ) : R w { w with installer := { w.installer with failNext := true } }
  hook (w : World δ) : R w w.hook
  subscribe (w : World δ) (signature : Signature) (handler : HandlerRef) :
    R w (w.subscribe signature handler).2
  loadStory (w : World δ) : R w w.loadStory.2
  setMerging (w : World δ) (merging : Bool) : R w (w.setMerging merging)
  dropManager (w : World δ) : R w w.dropManager
  firing {w u : World δ} {key : RouteKey} (invocations : List Invocation) : w.Fires key →
    R (w.began key) u → R w (World.finish w.nextSnapshot invocations u).2

/-- What one kind of machine is asked for on its own leaves the books alone, or makes one
subscription. -/
class LawfulOwn (δ : Type) [Dialect δ] [OwnDialect δ] : Prop where
  own_books (request : OwnStep Step) (w : World δ) :
    (OwnDialect.perform request w).2.books = w.books ∨
      ∃ (u : World δ) (signature : Signature) (handler : HandlerRef), u.books = w.books ∧
        (OwnDialect.perform request w).2.books = (u.subscribe signature handler).2.books

theorem Kept.onBooks {δ : Type} [Dialect δ] {R : World δ → World δ → Prop} (hR : Kept R) :
    OnBooks R :=
  ⟨hR.trans, hR.books, hR.firing⟩

namespace Kept

variable {δ : Type} [Dialect δ] {R : World δ → World δ → Prop} (hR : Kept R)
include hR

theorem carried : Carried R := hR.onBooks.carried

/-- Steps of all kinds stay within it. -/
theorem carriedBy [OwnDialect δ] [LawfulOwn δ] (allowed : Step → Prop) : CarriedBy allowed R where
  toCarried := hR.carried
  step {_ s w w' _} _ hs hbodies h := by
    cases s with
    | fire | run => cases hs
    | define | remove | clearSymbols => cases h; exact hR.symbols w _
    | addHandler body =>
      simp only [World.step] at h
      split at h
      · cases h; exact hR.books (World.books_addFunction w body)
      · next hs =>
        cases h
        exact hR.onBooks.after (hR.books (World.books_storeHandler? hs))
          (World.books_addFunction w body)
    | subscribe signature handler =>
      simp only [World.step, World.whileManaged] at h
      split at h <;> cases h
      · exact hR.subscribe w signature handler
      · exact hR.books rfl
    | loadStory viaManager =>
      simp only [World.step, World.whileManaged] at h
      split at h
      · cases viaManager <;> cases h
        · exact hR.trans (hR.generation w _) (hR.onBooks.after (hR.loadStory _) rfl)
        · exact hR.loadStory w
      · cases h; exact hR.books rfl
    | setMerging merging viaManager =>
      simp only [World.step, World.whileManaged] at h
      split at h <;> cases h
      · exact hR.setMerging w merging
      · exact hR.books rfl
    | hook =>
      simp only [World.step, World.whileManaged] at h
      split at h <;> cases h
      · exact hR.hook w
      · exact hR.books rfl
    | failNextInstall => cases h; exact hR.failNext w
    | countHandlers | describe =>
      simp only [World.step, World.whileManaged] at h
      split at h <;> cases h <;> exact hR.books rfl
    | shutDown => cases h; exact hR.books rfl
    | drop => cases h; exact hR.dropManager w
    | stack request =>
      simp only [World.step] at h
      split at h
      · exact hR.onBooks.sees.stackStep World.besideStack_books hbodies h
      · cases h; exact hR.books rfl
    | own request =>
      obtain rfl := congrArg Prod.snd (Option.some.inj h)
      rcases LawfulOwn.own_books request w with hb | ⟨u, signature, handler, hu, hb⟩
      · exact hR.books hb
      · exact hR.onBooks.before (hR.onBooks.after (hR.subscribe u signature handler) hu) hb

end Kept

namespace World

section Kept
variable {δ : Type} [Dialect δ] {R : World δ → World δ → Prop} (hR : Kept R)
  {perform : Perform δ} (hp : Keeping R perform)
include hR hp

theorem guard_kept {handler : HandlerRef} {args : Arguments} {w w' : World δ}
    {outcome : HandlerOutcome} (h : guard perform handler args w = some (outcome, w')) :
    R w w' := guard_carried hR.carried hp h

/-- A step stays within a kept relation if the steps of bodies do. -/
theorem step_kept [OwnDialect δ] [LawfulOwn δ] {s : Step} {w w' : World δ} {answer : Answer}
    (h : step perform s w = some (answer, w')) : R w w' :=
  step_carried (hR.carriedBy fun _ => True) hp trivial h

end Kept

end World

/-! ## Runs -/

section Course
variable {δ : Type} [Dialect δ] [OwnDialect δ]

/-- `Course allowed w v`: steps of an allowed kind lead from `w` to `v`. Whatever is performed in
the place of a body's step, and it may be chosen in view of the world, is a course again. -/
inductive Course (allowed : Step → Prop) : World δ → World δ → Prop
  | refl (w : World δ) : Course allowed w w
  | step {w u v : World δ} {perform : Perform δ} {s : Step} {answer : Answer} :
      Course allowed w u →
      (∀ s u answer u', perform s u = some (answer, u') → Course allowed u u') →
      allowed s → World.step perform s u = some (answer, v) → Course allowed w v

/-- What is performed in the place of a body's step is a course of allowed steps. -/
def Stepwise (allowed : Step → Prop) (perform : Perform δ) : Prop :=
  World.Keeping (Course allowed) perform

/-- The steps of all kinds. -/
def anyStep : Step → Prop := fun _ => True

/-- One allowed step is a course. -/
theorem Course.single {allowed : Step → Prop} {perform : Perform δ} {s : Step} {w v : World δ}
    {answer : Answer} (hp : Stepwise allowed perform) (ha : allowed s)
    (h : World.step perform s w = some (answer, v)) : Course allowed w v :=
  .step (.refl w) hp ha h

theorem Course.trans {allowed : Step → Prop} {u v w : World δ} (hu : Course allowed u v)
    (hv : Course allowed v w) : Course allowed u w := by
  induction hv with
  | refl _ => exact hu
  | step _ hp ha hs ih _ => exact .step (ih hu) hp ha hs

/-- What a bridge performs is a course, however deep its bodies may nest. -/
theorem stepWithin_stepwise (budget : Nat) :
    Stepwise anyStep (World.stepWithin budget : Perform δ) := by
  induction budget with
  | zero => intro s w answer w' h; cases h
  | succ budget ih => intro s w answer w' h; exact Course.single ih trivial h

/-- A step of an allowed kind, whose handler bodies perform such steps only and nest no deeper than
the budget. A run in which another step comes up does not end. -/
def World.stepOnly (allowed : Step → Prop) [DecidablePred allowed] : Nat → Perform δ
  | 0 => fun _ _ => none
  | budget + 1 => fun s w => if allowed s then World.step (stepOnly allowed budget) s w else none

/-- What is performed so is a course of the allowed steps. -/
theorem stepOnly_stepwise (allowed : Step → Prop) [DecidablePred allowed] (budget : Nat) :
    Stepwise allowed (World.stepOnly allowed budget : Perform δ) := by
  induction budget with
  | zero => intro s w answer w' h; cases h
  | succ budget ih =>
    intro s w answer w' h
    obtain ⟨ha, hs⟩ := Option.ite_none_right_eq_some.mp h
    exact Course.single ih ha hs

theorem Course.mono {allowed allowed' : Step → Prop} (hallowed : ∀ s, allowed s → allowed' s)
    {w v : World δ} (h : Course allowed w v) : Course allowed' w v := by
  induction h with
  | refl w => exact .refl w
  | step _ _ ha hs ih hp => exact .step ih hp (hallowed _ ha) hs

theorem Stepwise.mono {allowed allowed' : Step → Prop} (hallowed : ∀ s, allowed s → allowed' s)
    {perform : Perform δ} (hp : Stepwise allowed perform) : Stepwise allowed' perform :=
  fun s w answer w' h => (hp s w answer w' h).mono hallowed

/-- A run stays within a relation that is carried, whichever steps its bodies choose as they go
along. -/
theorem Course.carried {allowed : Step → Prop} {R : World δ → World δ → Prop}
    (hR : CarriedBy allowed R) {w v : World δ} (h : Course allowed w v) : R w v := by
  induction h with
  | refl w => exact hR.refl w
  | step _ _ ha hs ih hp => exact hR.trans ih (World.step_carried hR hp ha hs)

theorem Stepwise.carried {allowed : Step → Prop} {R : World δ → World δ → Prop}
    (hR : CarriedBy allowed R) {perform : Perform δ} (hp : Stepwise allowed perform) :
    World.Keeping R perform :=
  fun s w answer w' h => (hp s w answer w' h).carried hR

/-- So does it within a relation between books. -/
theorem Course.kept [LawfulOwn δ] {allowed : Step → Prop} {R : World δ → World δ → Prop}
    (hR : Kept R) {w v : World δ} (h : Course allowed w v) : R w v :=
  h.carried (hR.carriedBy allowed)

theorem Stepwise.keeping [LawfulOwn δ] {allowed : Step → Prop} {R : World δ → World δ → Prop}
    (hR : Kept R) {perform : Perform δ} (hp : Stepwise allowed perform) :
    World.Keeping R perform :=
  fun s w answer w' h => (hp s w answer w' h).kept hR

end Course

end StoryHooks
