import StoryHooks.Proofs.Course

/-!
# The moments of a run

A run is looked at wherever something can be seen of it: between the steps of the host, when a body
starts, between the steps of a body, and between two handlers of a firing. The level of a moment is
the number of firings that are then between taking their snapshot and giving it back.

Results:
1. `Follows.step_eq`: a step comes to the same end whichever way the steps of bodies are performed,
   if the ways agree wherever the run passes through.
2. `MomentFrom.keeps`: what passes along a relation that is carried, and goes up with a firing that
   takes its snapshot, holds at every moment on from a world where it does. `MomentFrom.related`: a
   relation that looks beside the stack holds between a world and every moment on from it.
3. `Moment.keeps`: what holds where a bridge is put together and passes along a relation that is
   kept holds at every moment.
4. `step_eq_of_moments`: no moment is missing. A step runs bodies where as many firings are in
   progress as around it, and one more if it is a firing itself; what would be performed in any
   other world makes no difference to it.
-/

namespace StoryHooks

open Script

namespace World

variable {δ : Type} [Dialect δ]

/-- The world in which the body of a function starts: the call is noted and the run counted. -/
def entered (w : World δ) (number : Nat) (arguments : List (Dialect.Argument δ))
    (function : ScriptFunction) : World δ :=
  let w : World δ := { w with calls := w.calls ++ [⟨number, arguments⟩] }
  w.countRun number function

/-- Runs the body of a function that was entered: its steps, if this run performs any, and then its
ending. A step that faults ends it. -/
def runBody (perform : Perform δ) (number : Nat) (body : Body Step) (performs : Bool)
    (w : World δ) : Option (Ending × World δ) :=
  if performs then
    match runSteps perform number 0 body.steps w with
    | none => none
    | some (some fault, v) => some (.faults fault, v)
    | some (none, v) => some (body.ending, v)
  else some (body.ending, w)

/-- A function that is known has its call noted and its run counted, and its body is run. -/
theorem runFunction_of_known {w : World δ} {number : Nat} {function : ScriptFunction}
    (h : w.functions[number]? = some function) (perform : Perform δ)
    (arguments : List (Dialect.Argument δ)) :
    runFunction perform number arguments w =
      (w.entered number arguments function).runBody perform number function.body
        (function.body.performs function.runs w.dispatchDepth) := by
  simp only [runFunction, h]
  rfl

/-- A call with the frame on the stack of `w` goes to a function of the scripts, whose body starts
in `v`. -/
inductive CallStarts (count : Nat) (w : World δ) : World δ → Prop
  | mk {frame : Frame (Dialect.Argument δ)} {machine : Machine δ} {number : Nat}
      {function : ScriptFunction} :
      w.machine.detach count = .ok (frame, machine) → frame.callable = some (.body number) →
      machine.hasRoomFor 1 = true → w.functions[number]? = some function →
      CallStarts count w ((w.setMachine machine.enter).entered number frame.arguments function)

/-- The guard, about to run a handler in `w`, goes through to its body, which starts in `v`. -/
inductive GuardStarts (handler : HandlerRef) (args : Arguments) (w : World δ) : World δ → Prop
  | mk {machine : Machine δ} {v : World δ} :
      w.machine.checkStack (1 + args.count) = .ok () →
      w.machine.marshal handler args.values = (none, machine) →
      CallStarts args.values.length (w.setMachine machine) v → GuardStarts handler args w v

section View
variable {α : Type} {view : World δ → α} (hview : BesideStack view) {w v : World δ}
include hview

theorem entered_view_eq (w : World δ) (number : Nat) (arguments : List (Dialect.Argument δ))
    (function : ScriptFunction) : view (w.entered number arguments function) = view w :=
  hview.noted rfl rfl (length_functions_countRun _ number function)

/-- What is seen beside the stack is the same where a body starts. -/
theorem CallStarts.view_eq {count : Nat} (h : w.CallStarts count v) : view v = view w := by
  obtain ⟨hd, _, _, _⟩ := h
  exact (entered_view_eq hview _ _ _ _).trans (hview.detach_eq hd _ _)

theorem GuardStarts.view_eq {handler : HandlerRef} {args : Arguments}
    (h : w.GuardStarts handler args v) : view v = view w := by
  obtain ⟨_, hm, hc⟩ := h
  obtain ⟨_, _, _, _, rfl⟩ := Machine.marshal_of_none hm
  exact (hc.view_eq hview).trans (hview.stack w _ _)

end View

theorem CallStarts.books_eq {count : Nat} {w v : World δ} (h : w.CallStarts count v) :
    v.books = w.books :=
  h.view_eq besideStack_books

theorem GuardStarts.books_eq {handler : HandlerRef} {args : Arguments} {w v : World δ}
    (h : w.GuardStarts handler args v) : v.books = w.books :=
  h.view_eq besideStack_books

/-- A body starts only if there is room and its handler is stored. -/
theorem GuardStarts.prepared {handler : HandlerRef} {args : Arguments} {w v : World δ}
    (h : w.GuardStarts handler args v) :
    w.machine.checkStack (1 + args.count) = .ok () ∧
      ∃ stored, w.machine.handlers[handler.number]? = some stored := by
  obtain ⟨hroom, hm, _⟩ := h
  obtain ⟨stored, _, hstored, _, _⟩ := Machine.marshal_of_none hm
  exact ⟨hroom, stored, hstored⟩

/-- The body of a stored handler starts if there is room and the machine takes the call. -/
theorem guardStarts_iff {w v : World δ} {handler : HandlerRef} {args : Arguments}
    {stored : Callable} {slots : List (Dialect.Slot δ)} {arguments : List (Dialect.Argument δ)}
    (hroom : w.machine.checkStack (1 + args.count) = .ok ())
    (hh : w.machine.handlers[handler.number]? = some stored)
    (hpasses : w.machine.Passes args.values slots arguments) :
    w.GuardStarts handler args v ↔ ∃ number function,
      Dialect.callable? (Dialect.handlerSlot (δ := δ) handler stored) = some (.body number) ∧
      w.functions[number]? = some function ∧
      v = (w.setMachine w.machine.enter).entered number arguments function := by
  have hmarshal := Machine.marshal_of_slotted hh hpasses.slotted
  have hdetach := hpasses.detach_eq (Dialect.handlerSlot handler stored)
  constructor
  · rintro ⟨_, hm, hd, hc, _, hf⟩
    cases hmarshal.symm.trans hm
    cases hdetach.symm.trans hd
    exact ⟨_, _, hc, hf, rfl⟩
  · rintro ⟨number, function, hc, hf, rfl⟩
    exact .mk hroom hmarshal (.mk (w := w.setMachine _) hdetach hc hpasses.hasRoom hf)

/-! ## One run that follows another -/

/-- The second way to perform the steps of bodies follows the first through worlds that have the
property: there it comes to the same end, if the first comes to an end, and what both lead to has
the property again. -/
structure Follows (allowed : Step → Prop) (M : World δ → Prop) (perform perform' : Perform δ) :
    Prop where
  agrees {s : Step} {w : World δ} {done : Answer × World δ} :
    M w → perform s w = some done → perform' s w = some done
  noted {s : Step} {w v : World δ} {answer : Answer} (function position : Nat) :
    M w → perform s w = some (answer, v) → M (v.note function position answer)
  guarded {w v : World δ} {handler : HandlerRef} {args : Arguments} {outcome : HandlerOutcome} :
    M w → guard perform handler args w = some (outcome, v) →
    guard perform' handler args w = some (outcome, v) → M v
  body {w v : World δ} {handler : HandlerRef} {args : Arguments} :
    M w → w.GuardStarts handler args v → M v
  called {w v : World δ} {count : Nat} :
    M w → allowed (.stack (.call count)) → w.CallStarts count v → M v

namespace Follows

variable {allowed : Step → Prop} {M : World δ → Prop} {perform perform' : Perform δ}
  (hM : Follows allowed M perform perform') {w : World δ}
include hM

theorem runSteps_eq {function position : Nat} {steps : List Step} {done : Option Fault × World δ}
    (hw : M w) (h : runSteps perform function position steps w = some done) :
    runSteps perform' function position steps w = some done := by
  induction steps generalizing position w with
  | nil => exact h
  | cons step steps ih =>
    rw [runSteps] at h ⊢
    cases hs : perform step w with
    | none => rw [hs] at h; cases h
    | some performed =>
      obtain ⟨answer, u⟩ := performed
      rw [hs] at h
      rw [hM.agrees hw hs]
      cases answer with
      | faulted fault => exact h
      | _ => exact ih (hM.noted function position hw hs) h

theorem runCallable_eq {callable : Callable} {arguments : List (Dialect.Argument δ)}
    {done : Ending × World δ}
    (h : runCallable perform callable arguments w = some done)
    (hw : ∀ number function, callable = .body number → w.functions[number]? = some function →
      M (w.entered number arguments function)) :
    runCallable perform' callable arguments w = some done := by
  cases callable with
  | inert => exact h
  | body number =>
    rw [runCallable] at h ⊢
    cases hf : w.functions[number]? with
    | none => simpa only [runFunction, hf] using h
    | some function =>
      rw [runFunction_of_known hf, runBody] at h ⊢
      split at h
      · next hperforms =>
        rw [if_pos hperforms]
        have hentered := hw number function rfl hf
        split at h
        · cases h
        all_goals next hs => rw [hM.runSteps_eq hentered hs]; exact h
      · next hperforms => rwa [if_neg hperforms]

theorem call_eq {count : Nat} {done : CallResult × World δ}
    (hw : ∀ v, w.CallStarts count v → M v) (h : call perform count w = some done) :
    call perform' count w = some done := by
  unfold call at h ⊢
  cases hd : w.machine.detach count with
  | error fault => rwa [hd] at h
  | ok detached =>
    obtain ⟨frame, machine⟩ := detached
    simp only [hd] at h ⊢
    cases hc : frame.callable with
    | none => simpa only [hc] using h
    | some callable =>
      simp only [hc] at h ⊢
      split at h
      · next hroom =>
        rw [if_pos hroom]
        split at h
        · cases h
        · next hs =>
          have hbody := hM.runCallable_eq hs fun number function hn hf =>
            hw _ (.mk hd (hn ▸ hc) hroom hf)
          rw [hbody]
          exact h
      · next hroom => rwa [if_neg hroom]

theorem guard_eq {handler : HandlerRef} {args : Arguments} {done : HandlerOutcome × World δ}
    (hw : M w) (h : guard perform handler args w = some done) :
    guard perform' handler args w = some done := by
  unfold guard at h ⊢
  dsimp only at h ⊢
  cases hs : w.machine.checkStack (1 + args.count) with
  | error e => rwa [hs] at h
  | ok room =>
    cases hm : w.machine.marshal handler args.values with
    | mk refusal machine =>
      simp only [hs, hm] at h ⊢
      cases refusal with
      | some e => exact h
      | none =>
        dsimp only at h ⊢
        cases hc : call perform args.values.length (w.setMachine machine) with
        | none => rw [hc] at h; cases h
        | some called =>
          rw [hM.call_eq (fun v hv => hM.body hw (.mk hs hm hv)) hc]
          rwa [hc] at h

theorem runLevel_eq {snapshot : Snapshot} {args : Arguments} {budget position : Nat}
    {done : List Invocation × World δ} (hw : M w)
    (h : runLevel perform snapshot args budget position w = some done) :
    runLevel perform' snapshot args budget position w = some done := by
  induction budget generalizing position w done with
  | zero => exact h
  | succ budget ih =>
    rw [runLevel] at h ⊢
    cases hget : w.manager.pool.get? snapshot position with
    | none => rwa [hget] at h
    | some id =>
      simp only [hget] at h ⊢
      cases hh : w.manager.roster.handler? id with
      | none => simp only [hh] at h ⊢; exact ih hw h
      | some handler =>
        simp only [hh] at h ⊢
        split at h
        · cases h
        · next hg =>
          have hg' := hM.guard_eq hw hg
          rw [hg']
          dsimp only
          split at h
          · cases h
          · next hl => rw [ih (hM.guarded hw hg hg') hl]; exact h

theorem runHandlers_eq {key : RouteKey} {args : Arguments}
    {done : Except OutOfOrder (List Invocation) × World δ} (hw : w.Fires key → M (w.began key))
    (h : runHandlers perform key args w = some done) :
    runHandlers perform' key args w = some done := by
  by_cases hf : w.Fires key
  · rw [runHandlers_of_fires hf] at h ⊢
    obtain ⟨ran, hl, he⟩ := Option.map_eq_some_iff.mp h
    rw [hM.runLevel_eq (hw hf) hl, Option.map_some, he]
  · rwa [runHandlers_of_not_fires hf] at h ⊢

/-- A step that comes to its end one way comes to the same end the other way, if the property holds
wherever the step takes a snapshot, or where it is performed if it takes none. -/
theorem step_eq [OwnDialect δ] {s : Step} {done : Answer × World δ}
    (hfires : s.fires = true → ∀ key, w.Fires key → M (w.began key))
    (hw : s.fires = false → M w) (ha : allowed s) (h : step perform s w = some done) :
    step perform' s w = some done := by
  cases s with
  | fire engineCall viaManager =>
    have hfire (hfired : fired (fire perform engineCall w) = some done) :
        fired (fire perform' engineCall w) = some done := by
      unfold fired fire at hfired
      split at hfired
      · cases hfired
      all_goals next hr => rw [fire, hM.runHandlers_eq (hfires rfl _) hr]; exact hfired
    simp only [step, whileManaged] at h ⊢
    split at h
    · next hv =>
      rw [if_pos hv]
      split at h
      · next hm => rw [if_pos hm]; exact hfire h
      · next hm => rwa [if_neg hm]
    · next hv =>
      rw [if_neg hv]
      split at h
      · next hs => rw [if_pos hs]; exact hfire h
      · next hs => rwa [if_neg hs]
  | run key args =>
    simp only [step, whileManaged] at h ⊢
    split at h
    · next hm =>
      rw [if_pos hm]
      unfold dispatched at h
      split at h
      · cases h
      all_goals next hr => rw [hM.runHandlers_eq (hfires rfl key) hr]; exact h
    · next hm => rwa [if_neg hm]
  | stack request =>
    simp only [step] at h ⊢
    split at h
    · next halive =>
      rw [if_pos halive]
      cases request with
      | guard handler args =>
        simp only [stackStep] at h ⊢
        split at h
        · cases h
        · next hg => rw [hM.guard_eq (hw rfl) hg]; exact h
      | call count =>
        simp only [stackStep] at h ⊢
        split at h
        · cases h
        all_goals next hc => rw [hM.call_eq (fun v hv => hM.called (hw rfl) ha hv) hc]; exact h
      | _ => exact h
    · next halive => rwa [if_neg halive]
  | _ => exact h

end Follows

end World

variable {δ : Type} [Dialect δ] [OwnDialect δ] {allowed : Step → Prop} {outer level : Nat}

/-! ## The moments on from a world -/

/-- `MomentFrom allowed w level u`: a run that goes on from `w` by allowed steps passes through `u`
while so many firings more are in progress.

* `here`: nothing has happened since.
* `course`, `noted`: the host or a body has performed steps; a step of a body is noted.
* `began`: a firing has taken its snapshot.
* `guarded`: a firing has run a handler.
* `body`, `called`: the body of a handler starts, called by the guard or, if that is allowed, from
  the bare stack. -/
inductive MomentFrom (allowed : Step → Prop) (w : World δ) : Nat → World δ → Prop
  | here : MomentFrom allowed w 0 w
  | course {level : Nat} {u v : World δ} :
      MomentFrom allowed w level u → Course allowed u v → MomentFrom allowed w level v
  | noted {level : Nat} {u : World δ} (function position : Nat) (answer : Answer) :
      MomentFrom allowed w level u →
      MomentFrom allowed w level (u.note function position answer)
  | began {level : Nat} {u : World δ} {key : RouteKey} : MomentFrom allowed w level u →
      u.Fires key → MomentFrom allowed w (level + 1) (u.began key)
  | guarded {level : Nat} {u v : World δ} {perform : Perform δ} {handler : HandlerRef}
      {args : Arguments} {outcome : HandlerOutcome} :
      MomentFrom allowed w level u → Stepwise allowed perform →
      World.guard perform handler args u = some (outcome, v) → MomentFrom allowed w level v
  | body {level : Nat} {u v : World δ} {handler : HandlerRef} {args : Arguments} :
      MomentFrom allowed w level u → u.GuardStarts handler args v → MomentFrom allowed w level v
  | called {level : Nat} {u v : World δ} {count : Nat} : MomentFrom allowed w level u →
      allowed (.stack (.call count)) → u.CallStarts count v → MomentFrom allowed w level v

/-- A property that passes along a relation that is carried and to the start of a body, and goes up
with a firing that takes its snapshot, is one of all moments on from a world that has it. -/
theorem MomentFrom.keeps {R : World δ → World δ → Prop} (hR : CarriedBy allowed R)
    {I : Nat → World δ → Prop} (along : ∀ {level u v}, R u v → I level u → I level v)
    (began : ∀ {level u key}, u.Fires key → I level u → I (level + 1) (u.began key))
    (body : ∀ {level u v handler args}, u.GuardStarts handler args v → I level u → I level v)
    (called : ∀ {level u v count}, allowed (.stack (.call count)) → u.CallStarts count v →
      I level u → I level v)
    {w u : World δ} (hw : I 0 w) (hu : MomentFrom allowed w level u) : I level u := by
  induction hu with
  | here => exact hw
  | course _ hc ih => exact along (hc.carried hR) ih
  | noted function position answer _ ih =>
    exact along (hR.noted (World.books_note _ function position answer) rfl rfl rfl) ih
  | began _ hf ih => exact began hf ih
  | guarded _ hp hg ih => exact along (World.guard_carried hR.toCarried (hp.carried hR) hg) ih
  | body _ hs ih => exact body hs ih
  | called _ ha hs ih => exact called ha hs ih

/-- A relation that looks beside the stack and is carried, and that the snapshot of a firing stays
within, holds between a world and all moments on from it. -/
theorem MomentFrom.related {α : Type} {view : World δ → α} (hview : BesideStack view)
    {R : World δ → World δ → Prop} (hsees : Sees view R) (hR : CarriedBy allowed R)
    (began : ∀ u key, R u (u.began key)) {w u : World δ} (hu : MomentFrom allowed w level u) :
    R w u := by
  refine hu.keeps (I := fun _ => R w) hR (fun huv hu => hR.trans hu huv) ?_ ?_ ?_ (hR.refl w)
  · intro _ u key _ hu
    exact hR.trans hu (began u key)
  · intro _ _ _ _ _ hs hu
    exact hR.trans hu (hsees.same (hs.view_eq hview))
  · intro _ _ _ _ _ hs hu
    exact hR.trans hu (hsees.same (hs.view_eq hview))

/-- A moment on from one on from a world is one on from that world. -/
theorem MomentFrom.after {allowed' : Step → Prop} (hallowed : ∀ s, allowed s → allowed' s)
    {w v u : World δ} (hv : MomentFrom allowed' w outer v) (hu : MomentFrom allowed v level u) :
    MomentFrom allowed' w (outer + level) u := by
  induction hu with
  | here => exact hv
  | course _ hc ih => exact ih.course (hc.mono hallowed)
  | noted function position answer _ ih => exact ih.noted function position answer
  | began _ hf ih => exact ih.began hf
  | guarded _ hp hg ih => exact ih.guarded (hp.mono hallowed) hg
  | body _ hs ih => exact ih.body hs
  | called _ ha hs ih => exact ih.called (hallowed _ ha) hs

/-! ## Moments -/

/-- `Moment allowed level w`: a run by allowed steps, on from a bridge that was just put together,
passes through `w` while so many firings are in progress. -/
def Moment (allowed : Step → Prop) (level : Nat) (w : World δ) : Prop :=
  ∃ limit own settings events,
    MomentFrom allowed (.start (.start limit own) settings events) level w

namespace Moment

variable {w v : World δ}

theorem start (limit : Nat) (own : δ) (settings : Settings) (events : List Event) :
    Moment allowed 0 (World.start (.start limit own) settings events) :=
  ⟨limit, own, settings, events, .here⟩

/-- A moment on from a moment is one. -/
theorem after (hw : Moment anyStep outer w) (hv : MomentFrom allowed w level v) :
    Moment anyStep (outer + level) v := by
  obtain ⟨_, _, _, _, hw⟩ := hw
  exact ⟨_, _, _, _, hw.after (fun _ _ => trivial) hv⟩

theorem course (hw : Moment allowed level w) (hc : Course allowed w v) :
    Moment allowed level v := by
  obtain ⟨_, _, _, _, hw⟩ := hw
  exact ⟨_, _, _, _, hw.course hc⟩

theorem began (hw : Moment allowed level w) {key : RouteKey} (hf : w.Fires key) :
    Moment allowed (level + 1) (w.began key) := by
  obtain ⟨_, _, _, _, hw⟩ := hw
  exact ⟨_, _, _, _, hw.began hf⟩

theorem called (hw : Moment allowed level w) {count : Nat} (ha : allowed (.stack (.call count)))
    (hs : w.CallStarts count v) : Moment allowed level v := by
  obtain ⟨_, _, _, _, hw⟩ := hw
  exact ⟨_, _, _, _, hw.called ha hs⟩

/-- A property of the moments of a run needs to hold at the start, to pass along a relation that is
kept, and to go up with a firing that takes its snapshot. -/
theorem keeps [LawfulOwn δ] {R : World δ → World δ → Prop} (hR : Kept R)
    {I : Nat → World δ → Prop}
    (start : ∀ limit own settings events, I 0 (.start (.start limit own) settings events))
    (along : ∀ {level w v}, R w v → I level w → I level v)
    (began : ∀ {level w key}, w.Fires key → I level w → I (level + 1) (w.began key))
    (h : Moment allowed level w) : I level w := by
  obtain ⟨limit, own, settings, events, h⟩ := h
  refine h.keeps (I := I) (hR.carriedBy allowed) along began ?_ ?_
    (start limit own settings events)
  · exact fun hs => along (hR.books hs.books_eq)
  · exact fun _ hs => along (hR.books hs.books_eq)

end Moment

/-- The world after the host has performed steps, within a budget for each. -/
def World.afterSteps? (budget : Nat) (steps : List Step) (w : World δ) : Option (World δ) :=
  steps.foldlM (fun w s => (World.stepWithin budget s w).map Prod.snd) w

/-- What the host has performed leads from moment to moment. -/
theorem Moment.afterSteps? {budget : Nat} {steps : List Step} {w v : World δ}
    (hw : Moment anyStep level w) (h : w.afterSteps? budget steps = some v) :
    Moment anyStep level v := by
  induction steps generalizing w with
  | nil => cases h; exact hw
  | cons s steps ih =>
    obtain ⟨_, hfirst, hrest⟩ := Option.bind_eq_some_iff.mp h
    obtain ⟨⟨answer, u⟩, hs, rfl⟩ := Option.map_eq_some_iff.mp hfirst
    exact ih (hw.course (stepWithin_stepwise budget s w answer u hs)) hrest

theorem Moment.get {limit budget : Nat} {own : δ} {settings : Settings} {events : List Event}
    {steps : List Step}
    (h : ((World.start (.start limit own) settings events).afterSteps? budget steps).isSome) :
    Moment anyStep 0 (Option.get _ h) :=
  (Moment.start limit own settings events).afterSteps? (Option.some_get h).symm

/-- The world after steps have been performed one after the other in some way. -/
def World.afterEach? (perform : Perform δ) (steps : List Step) (w : World δ) :
    Option (World δ) :=
  steps.foldlM (fun w s => (perform s w).map Prod.snd) w

/-- Steps that are each a course are one together. -/
theorem Course.afterEach? {perform : Perform δ} (hp : Stepwise allowed perform)
    {steps : List Step} {w v : World δ} (h : w.afterEach? perform steps = some v) :
    Course allowed w v := by
  induction steps generalizing w with
  | nil => cases h; exact .refl _
  | cons s steps ih =>
    obtain ⟨_, hfirst, hrest⟩ := Option.bind_eq_some_iff.mp h
    obtain ⟨⟨answer, u⟩, hs, rfl⟩ := Option.map_eq_some_iff.mp hfirst
    exact (hp s w answer u hs).trans (ih hrest)

/-! ## No moment is missing -/

/-- The number of firings in progress around the bodies that a step runs, given the number of those
around the step. -/
def Step.levelWithin (s : Step) (level : Nat) : Nat := if s.fires then level + 1 else level

namespace World

/-- No moment is missing: bodies perform their steps at moments of the one level that the step calls
for, and what would be performed in any other world makes no difference to it. -/
theorem step_eq_of_moments {perform perform' : Perform δ} (hp : Stepwise allowed perform)
    {w u : World δ} (hu : MomentFrom allowed w level u) {s : Step} (ha : allowed s)
    (agree : ∀ s' v, MomentFrom allowed w (s.levelWithin level) v →
      perform' s' v = perform s' v) : step perform' s u = step perform s u := by
  have hfires (h : s.fires = true) (key : RouteKey) (hf : u.Fires key) :
      MomentFrom allowed w (s.levelWithin level) (u.began key) := by
    rw [Step.levelWithin, if_pos h]
    exact hu.began hf
  have hhere (h : s.fires = false) : MomentFrom allowed w (s.levelWithin level) u := by
    rw [Step.levelWithin, if_neg (ne_true_of_eq_false h)]
    exact hu
  have hforth : Follows allowed (MomentFrom allowed w (s.levelWithin level)) perform perform' :=
    { agrees := fun hv h => (agree _ _ hv).trans h
      noted := fun function position hv h =>
        (hv.course (hp _ _ _ _ h)).noted function position _
      guarded := fun hv h _ => hv.guarded hp h
      body := .body
      called := .called }
  have hback : Follows allowed (MomentFrom allowed w (s.levelWithin level)) perform' perform :=
    { agrees := fun hv h => (agree _ _ hv).symm.trans h
      noted := fun function position hv h =>
        (hv.course (hp _ _ _ _ ((agree _ _ hv).symm.trans h))).noted function position _
      guarded := fun hv _ h => hv.guarded hp h
      body := .body
      called := .called }
  exact Option.ext fun done =>
    ⟨hback.step_eq hfires hhere ha, hforth.step_eq hfires hhere ha⟩

end World

end StoryHooks
