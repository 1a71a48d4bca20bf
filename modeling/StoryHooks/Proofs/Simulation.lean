import StoryHooks.Proofs.Alike
import StoryHooks.Proofs.Budget
import StoryHooks.Proofs.StackRoom

/-!
# The recording machine simulates the Lua machine

The two machines build frames, find handlers and leave failures behind each in its own way. A
scenario of steps that both understand comes to the same on either, as long as calls do not nest
deeper than the Lua machine can take.

Results:
1. `Alike.guard`: the guard ends alike in worlds that look alike, if the steps of bodies do.
2. `Alike.step`: so does every step that the machines share.
3. `Abreast.alike`: whatever two runs pass through at the same moment looks alike.
4. `machines_run_alike`: the two do and see the same at every moment, and go on so.
-/

namespace StoryHooks

open Script

/-! ## Verdicts -/

/-- Which handler was run and whether it failed. The words of a failure are the machine's own, and
at the limit to nesting a fault may turn into an error. -/
def Invocation.verdict (i : Invocation) : HandlerRef × Bool := (i.handler, i.outcome.isFailure)

/-- What a firing sums up to is a matter of the verdicts. -/
theorem DispatchOutcome.ofInvocations_verdict (invocations : List Invocation) :
    ofInvocations invocations = ⟨(invocations.map Invocation.verdict).length,
      (invocations.map Invocation.verdict).countP Prod.snd⟩ := by
  rw [List.length_map, List.countP_map]
  rfl

def verdicts : Except OutOfOrder (List Invocation) → Except OutOfOrder (List (HandlerRef × Bool)) :=
  Except.map (List.map Invocation.verdict)

/-- Firings with the same verdicts end in the same error or sum up to the same. -/
theorem verdicts_cases {result result' : Except OutOfOrder (List Invocation)}
    (h : verdicts result' = verdicts result) :
    (∃ e, result = .error e ∧ result' = .error e) ∨
    ∃ invocations invocations', result = .ok invocations ∧ result' = .ok invocations' ∧
      DispatchOutcome.ofInvocations invocations' = DispatchOutcome.ofInvocations invocations := by
  match result, result', h with
  | .error e, .error _, h => cases h; exact .inl ⟨e, rfl, rfl⟩
  | .ok invocations, .ok invocations', h =>
    refine .inr ⟨invocations, invocations', rfl, rfl, ?_⟩
    rw [DispatchOutcome.ofInvocations_verdict, DispatchOutcome.ofInvocations_verdict,
      Except.ok.inj h]

/-! ## Calls and steps of both machines -/

/-- The recording machine pushes and passes values as they are, if it refuses none of them. -/
theorem Script.Machine.passes_recorded {m : Machine Recording} {values : List Value}
    (h : ∀ value ∈ values, value.type ∉ m.own.rejected) :
    m.Passes values (values.map RecordedSlot.value) values where
  slotted := by
    simp only [Machine.Slotted, List.map_map]
    exact List.map_congr_left fun value hvalue => if_neg (h value hvalue)
  arguments_eq := by
    rw [List.filterMap_map]
    exact List.filterMap_some
  callFault?_eq := if_neg (by omega)
  hasRoom := rfl

/-- The Lua machine pushes and passes them as Lua values. -/
theorem Script.Machine.passes_toLua {m : Machine LuaState} (h : m.nesting < LuaState.maxNesting)
    {values : List Value} (hcount : values.length < maxSlots) :
    m.Passes values (values.map Value.toLua) (values.map Value.toLua) where
  slotted := by
    simp only [Machine.Slotted, List.map_map]
    exact List.map_congr_left fun _ _ => rfl
  arguments_eq := List.filterMap_some
  callFault?_eq := by
    refine if_neg ?_
    rw [List.length_map]
    exact Nat.not_le.mpr hcount
  hasRoom := decide_eq_true h

/-- Both machines understand the step and answer in the same terms, and it comes with no more
arguments than can be counted. -/
def Step.isShared : Step → Bool
  | .describe | .shutDown | .stack _ | .own _ => false
  | .fire engineCall _ => engineCall.arguments.count < maxSlots
  | .run _ args => args.count < maxSlots
  | _ => true

/-- The steps that the two machines share. -/
def shared : Step → Prop := fun s => s.isShared = true

instance : DecidablePred shared := fun s => inferInstanceAs (Decidable (s.isShared = true))

namespace World

/-- Two ways to perform something end alike: neither comes to an end, or both do, with results that
are the same in the given respect and in worlds that are related. -/
inductive EndsAlike {α β : Type} (R : World Recording → World LuaState → Prop) (respect : α → β) :
    Option (α × World Recording) → Option (α × World LuaState) → Prop
  | neither : EndsAlike R respect none none
  | both {a a' : α} {v : World Recording} {v' : World LuaState} : respect a' = respect a →
      R v v' → EndsAlike R respect (some (a, v)) (some (a', v'))

section EndsAlike
variable {α β : Type} {R S : World Recording → World LuaState → Prop} {respect : α → β}
  {done : Option (α × World Recording)} {done' : Option (α × World LuaState)}
  (h : EndsAlike R respect done done')
include h

theorem EndsAlike.related {a a' : α} {v : World Recording} {v' : World LuaState}
    (hd : done = some (a, v)) (hd' : done' = some (a', v')) : R v v' := by
  cases h with
  | neither => cases hd
  | both _ hv => cases hd; cases hd'; exact hv

/-- The worlds are related otherwise, too, if all are in which the two come to an end. -/
theorem EndsAlike.of_related
    (hS : ∀ {a v a' v'}, done = some (a, v) → done' = some (a', v') → S v v') :
    EndsAlike S respect done done' := by
  cases h with
  | neither => exact .neither
  | both hrespect _ => exact .both hrespect (hS rfl rfl)

end EndsAlike

/-- The steps of bodies end alike, while so many calls are in progress. -/
def PerformsAlike (nesting : Nat) (perform : Perform Recording) (perform' : Perform LuaState) :
    Prop :=
  ∀ s w w', Alike nesting w w' → EndsAlike (Alike nesting) id (perform s w) (perform' s w')

namespace Alike

variable {nesting : Nat} {perform : Perform Recording} {perform' : Perform LuaState}
  {w : World Recording} {w' : World LuaState}

/-! ## Bodies -/

section Bodies
variable (hp : PerformsAlike nesting perform perform')
include hp

theorem runSteps (function position : Nat) (steps : List Step) (h : Alike nesting w w') :
    EndsAlike (Alike nesting) id (runSteps perform function position steps w)
      (World.runSteps perform' function position steps w') := by
  induction steps generalizing position w w' with
  | nil => exact .both rfl h
  | cons step steps ih =>
    rw [World.runSteps, World.runSteps]
    have hd := hp step w w' h
    generalize perform step w = done, perform' step w' = done' at hd ⊢
    cases hd with
    | neither => exact .neither
    | @both answer answer' _ _ ha hv =>
      cases ha
      cases answer with
      | faulted fault => exact .both rfl hv
      | _ => exact ih _ (hv.note function position _)

theorem runCallable (callable : Callable) (arguments : List Value) (h : Alike nesting w w') :
    EndsAlike (Alike nesting) id (runCallable perform callable arguments w)
      (World.runCallable perform' callable (arguments.map Value.toLua) w') := by
  cases callable with
  | inert => exact .both rfl h
  | body number =>
    rw [World.runCallable, World.runCallable]
    cases hf : w.functions[number]? with
    | none =>
      have hf' : w'.functions[number]? = none := h.functions_eq ▸ hf
      simp only [runFunction, hf, hf']
      exact .both rfl (h.called number arguments)
    | some function =>
      have hf' : w'.functions[number]? = some function := h.functions_eq ▸ hf
      have hentered := h.entered number arguments function
      rw [runFunction_of_known hf, runFunction_of_known hf',
        dispatchDepth_of_workings h.workings_eq, runBody, runBody]
      split
      · have hd := runSteps hp number 0 function.body.steps hentered
        generalize World.runSteps perform number 0 function.body.steps _ = done,
          World.runSteps perform' number 0 function.body.steps _ = done' at hd ⊢
        cases hd with
        | neither => exact .neither
        | @both fault _ _ _ hfault hv =>
          cases hfault
          cases fault <;> exact .both rfl hv
      · exact .both rfl hentered

end Bodies

/-! ## The guard -/

section Guard

/-- A call is made on both. -/
theorem enter (h : Alike nesting w w') :
    Alike (nesting + 1) (w.setMachine w.machine.enter) (w'.setMachine w'.machine.enter) := by
  have hentered : Machine.Alike (nesting + 1) w.machine.enter w'.machine.enter :=
    { h.machine with
      nesting_eq := congrArg (· + 1) h.machine.nesting_eq
      nesting_eq' := congrArg (· + 1) h.machine.nesting_eq' }
  exact h.setMachine hentered

/-- A call is over on both, whatever was reported. -/
theorem left (h : Alike (nesting + 1) w w') (events events' : List Event) :
    Alike nesting ((w.setMachine w.machine.leave).reportAll events)
      ((w'.setMachine w'.machine.leave).reportAll events') := by
  have hleft : Machine.Alike nesting w.machine.leave w'.machine.leave :=
    { h.machine with
      nesting_eq := congrArg (· - 1) h.machine.nesting_eq
      nesting_eq' := congrArg (· - 1) h.machine.nesting_eq' }
  exact (h.setMachine hleft).reportAll events events'

/-- The guard concludes in the same way on both where the bodies have ended in the same way. -/
theorem concluded (h : Alike (nesting + 1) w w') (handler : HandlerRef) (ending : Ending) :
    EndsAlike (Alike nesting) HandlerOutcome.isFailure
      (some (w.concluded handler 0 ending)) (some (w'.concluded handler 0 ending)) := by
  obtain ⟨outcome, events, houtcome, hfailure⟩ := w.concluded_cases handler ending
  obtain ⟨outcome', events', houtcome', hfailure'⟩ := w'.concluded_cases handler ending
  rw [h.machine.depth_eq] at houtcome
  rw [h.machine.depth_eq'] at houtcome'
  rw [houtcome, houtcome']
  exact .both (hfailure'.trans hfailure.symm) (h.left events events')

theorem checkStack_eq (h : Alike nesting w w') (slots : Nat) :
    w'.machine.checkStack slots = w.machine.checkStack slots := by
  simp only [Machine.checkStack, h.depth_eq, h.machine.limit_eq]

/-- Both machines take a call with the same values, each in its own slots. -/
theorem passes (h : Alike nesting w w') (hroom : nesting < LuaState.maxNesting)
    {values : List Value} (hcount : values.length < maxSlots) :
    w.machine.Passes values (values.map RecordedSlot.value) values ∧
      w'.machine.Passes values (values.map Value.toLua) (values.map Value.toLua) := by
  have hroom' : w'.machine.nesting < LuaState.maxNesting := h.machine.nesting_eq' ▸ hroom
  have hrejected : ∀ value ∈ values, value.type ∉ w.machine.own.rejected := fun _ _ =>
    h.machine.own_eq ▸ List.not_mem_nil
  exact ⟨Machine.passes_recorded hrejected, Machine.passes_toLua hroom' hcount⟩

section Body
variable {handler : HandlerRef} {args : Arguments} (hroom : nesting < LuaState.maxNesting)
  (hcount : args.count < maxSlots) (h : Alike nesting w w')
include hroom hcount h

/-- The body of a handler starts on both machines or on neither. -/
theorem body_iff :
    (∃ v', w'.GuardStarts handler args v') ↔ ∃ v, w.GuardStarts handler args v := by
  obtain ⟨hpasses, hpasses'⟩ := h.passes hroom hcount
  have hcheck := h.checkStack_eq (1 + args.count)
  have hhandlers := h.machine.handlers_eq
  have hfunctions := h.functions_eq
  constructor
  · rintro ⟨v', hv'⟩
    obtain ⟨hfits', stored, hh'⟩ := hv'.prepared
    obtain ⟨number, function, hc, hf, _⟩ := (guardStarts_iff hfits' hh' hpasses').mp hv'
    exact ⟨_, (guardStarts_iff (hcheck.symm.trans hfits') (hhandlers ▸ hh') hpasses).mpr
      ⟨number, function, hc, hfunctions ▸ hf, rfl⟩⟩
  · rintro ⟨v, hv⟩
    obtain ⟨hfits, stored, hh⟩ := hv.prepared
    obtain ⟨number, function, hc, hf, _⟩ := (guardStarts_iff hfits hh hpasses).mp hv
    exact ⟨_, (guardStarts_iff (hcheck.trans hfits) (hhandlers ▸ hh) hpasses').mpr
      ⟨number, function, hc, hfunctions ▸ hf, rfl⟩⟩

/-- Where it starts the worlds look alike again. -/
theorem body {v : World Recording} {v' : World LuaState} (hv : w.GuardStarts handler args v)
    (hv' : w'.GuardStarts handler args v') : Alike (nesting + 1) v v' := by
  obtain ⟨hpasses, hpasses'⟩ := h.passes hroom hcount
  obtain ⟨hfits, stored, hh⟩ := hv.prepared
  obtain ⟨hfits', stored', hh'⟩ := hv'.prepared
  obtain ⟨number, function, hc, hf, rfl⟩ := (guardStarts_iff hfits hh hpasses).mp hv
  obtain ⟨number', function', hc', hf', rfl⟩ := (guardStarts_iff hfits' hh' hpasses').mp hv'
  rw [h.machine.handlers_eq, hh] at hh'
  cases hh'
  cases hc.symm.trans hc'
  rw [h.functions_eq, hf] at hf'
  cases hf'
  exact h.enter.entered number args.values function

end Body

variable (hp : PerformsAlike (nesting + 1) perform perform')
  (hroom : nesting < LuaState.maxNesting)
include hp hroom

/-- A handler that is stored runs its body on both machines. -/
theorem guard_of_stored {handler : HandlerRef} {args : Arguments} {stored : Callable}
    (h : Alike nesting w w') (hcount : args.count < maxSlots)
    (hfits : w.machine.checkStack (1 + args.count) = .ok ())
    (hh : w.machine.handlers[handler.number]? = some stored) :
    EndsAlike (Alike nesting) HandlerOutcome.isFailure (guard perform handler args w)
      (guard perform' handler args w') := by
  have hfits' := (h.checkStack_eq (1 + args.count)).trans hfits
  have hh' : w'.machine.handlers[handler.number]? = some stored := h.machine.handlers_eq ▸ hh
  obtain ⟨hpasses, hpasses'⟩ := h.passes hroom hcount
  rw [guard_of_known hfits hh hpasses rfl perform, guard_of_known hfits' hh' hpasses' rfl perform',
    h.machine.depth_eq, h.machine.depth_eq']
  have hd := runCallable hp stored args.values h.enter
  generalize World.runCallable perform stored args.values _ = done,
    World.runCallable perform' stored (args.values.map Value.toLua) _ = done' at hd ⊢
  cases hd with
  | neither => exact .neither
  | both hending hu =>
    cases hending
    exact concluded hu handler _

/-- The guard brings worlds that look alike to the same end. -/
theorem guard (handler : HandlerRef) {args : Arguments} (hcount : args.count < maxSlots)
    (h : Alike nesting w w') :
    EndsAlike (Alike nesting) HandlerOutcome.isFailure (guard perform handler args w)
      (World.guard perform' handler args w') := by
  cases hfits : w.machine.checkStack (1 + args.count) with
  | error e =>
    rw [guard_of_refused hfits, guard_of_refused ((h.checkStack_eq _).trans hfits)]
    exact .both rfl (h.reportAll [_] [_])
  | ok room =>
    cases hh : w.machine.handlers[handler.number]? with
    | none =>
      have hh' : w'.machine.handlers[handler.number]? = none := h.machine.handlers_eq ▸ hh
      rw [guard_of_unknown hfits hh, guard_of_unknown ((h.checkStack_eq _).trans hfits) hh']
      exact .both rfl (h.reportAll [_] [_])
    | some stored =>
      exact guard_of_stored hp hroom h hcount hfits hh

end Guard

/-! ## Firings -/

/-- A firing gives its snapshot back on both machines, or on neither. -/
theorem finished (h : Alike nesting w w') (snapshot : Snapshot)
    {invocations invocations' : List Invocation}
    (hi : invocations'.map Invocation.verdict = invocations.map Invocation.verdict) :
    EndsAlike (Alike nesting) verdicts (some (World.finish snapshot invocations w))
      (some (World.finish snapshot invocations' w')) := by
  refine .both ?_ (h.finish snapshot invocations invocations')
  rw [h.manager_eq]
  split
  · rfl
  · exact congrArg Except.ok hi

section Firing
variable (hp : PerformsAlike (nesting + 1) perform perform')
  (hroom : nesting < LuaState.maxNesting)
include hp hroom

theorem runLevel (snapshot : Snapshot) {args : Arguments} (hcount : args.count < maxSlots)
    (budget position : Nat) (h : Alike nesting w w') :
    EndsAlike (Alike nesting) (List.map Invocation.verdict)
      (runLevel perform snapshot args budget position w)
      (World.runLevel perform' snapshot args budget position w') := by
  induction budget generalizing position w w' with
  | zero =>
    rw [World.runLevel, World.runLevel, h.manager_eq]
    split
    · exact .both rfl h
    · exact .neither
  | succ budget ih =>
    rw [World.runLevel, World.runLevel, h.manager_eq]
    split
    · exact .both rfl h
    split
    · exact ih _ h
    · next handler _ =>
      have hd := guard hp hroom handler hcount h
      generalize World.guard perform handler args w = done,
        World.guard perform' handler args w' = done' at hd ⊢
      cases hd with
      | neither => exact .neither
      | @both outcome outcome' u u' houtcome hu =>
        have hrest := ih (position + 1) hu
        dsimp only
        generalize World.runLevel perform snapshot args budget (position + 1) u = rest,
          World.runLevel perform' snapshot args budget (position + 1) u' = rest' at hrest ⊢
        cases hrest with
        | neither => exact .neither
        | both hinvocations hv =>
          refine .both ?_ hv
          simp only [List.map_cons, hinvocations, Invocation.verdict, houtcome]

theorem runHandlers (key : RouteKey) {args : Arguments} (hcount : args.count < maxSlots)
    (h : Alike nesting w w') :
    EndsAlike (Alike nesting) verdicts (runHandlers perform key args w)
      (World.runHandlers perform' key args w') := by
  by_cases hf : w.Fires key
  · have hsnapshot : w'.nextSnapshot = w.nextSnapshot := by
      simp only [nextSnapshot, h.manager_eq]
    rw [runHandlers_of_fires hf, runHandlers_of_fires ((h.fires_iff key).mpr hf), h.manager_eq,
      hsnapshot]
    have hd := runLevel hp hroom w.nextSnapshot hcount
      (w.manager.roster.handlersFor key).length 0 (h.began key)
    generalize World.runLevel perform _ args _ 0 (w.began key) = done,
      World.runLevel perform' _ args _ 0 (w'.began key) = done' at hd ⊢
    cases hd with
    | neither => exact .neither
    | both hinvocations hu => exact finished hu _ hinvocations
  · rw [runHandlers_of_not_fires hf, runHandlers_of_not_fires (mt (h.fires_iff key).mp hf),
      h.manager_eq]
    split
    · exact .both rfl h
    · exact .both rfl (h.reportAll [_] [_])

end Firing

/-! ## Steps -/

theorem whileManaged {act : World Recording → Performed Recording}
    {act' : World LuaState → Performed LuaState} (h : Alike nesting w w')
    (hact : EndsAlike (Alike nesting) id (act w) (act' w')) :
    EndsAlike (Alike nesting) id (w.whileManaged act) (w'.whileManaged act') := by
  unfold World.whileManaged
  rw [h.managed_eq]
  split
  · exact hact
  · exact .both rfl h

section Step
variable (hp : PerformsAlike (nesting + 1) perform perform')
  (hroom : nesting < LuaState.maxNesting)
include hp hroom

theorem fired {engineCall : EngineCall} (hcount : engineCall.arguments.count < maxSlots)
    (h : Alike nesting w w') :
    EndsAlike (Alike nesting) id (fired (fire perform engineCall w))
      (World.fired (fire perform' engineCall w')) := by
  have hd := runHandlers hp hroom engineCall.key hcount h
  unfold fire
  generalize World.runHandlers perform engineCall.key engineCall.arguments w = done,
    World.runHandlers perform' engineCall.key engineCall.arguments w' = done' at hd ⊢
  cases hd with
  | neither => exact .neither
  | both hresult hv =>
    rcases verdicts_cases hresult with ⟨e, rfl, rfl⟩ | ⟨_, _, rfl, rfl, _⟩
    · exact .both rfl hv
    · exact .both rfl hv

theorem dispatched (key : RouteKey) {args : Arguments} (hcount : args.count < maxSlots)
    (h : Alike nesting w w') :
    EndsAlike (Alike nesting) id (dispatched (World.runHandlers perform key args w))
      (World.dispatched (World.runHandlers perform' key args w')) := by
  have hd := runHandlers hp hroom key hcount h
  generalize World.runHandlers perform key args w = done,
    World.runHandlers perform' key args w' = done' at hd ⊢
  cases hd with
  | neither => exact .neither
  | both hresult hv =>
    rcases verdicts_cases hresult with ⟨e, rfl, rfl⟩ | ⟨_, _, rfl, rfl, hsame⟩
    · exact .both rfl hv
    · exact .both (congrArg Answer.dispatched hsame) hv

/-- A step that both machines understand ends alike on both. -/
theorem step {s : Step} (hs : shared s) (h : Alike nesting w w') :
    EndsAlike (Alike nesting) id (step perform s w) (World.step perform' s w') := by
  cases s with
  | define name arity symbol => exact .both rfl (h.editSymbols (·.define name arity symbol))
  | remove name arity => exact .both rfl (h.editSymbols (·.remove name arity))
  | clearSymbols => exact .both rfl (h.editSymbols fun _ => .empty)
  | addHandler body =>
    have hadded := h.addFunction body
    have hnumber : (w'.addFunction body).1 = (w.addFunction body).1 :=
      congrArg List.length h.functions_eq
    obtain ⟨handler, v, v', hstored, hstored', hv⟩ :=
      hadded.storeHandler? (.body (w.addFunction body).1)
    simp only [World.step, hnumber, hstored, hstored']
    exact .both rfl hv
  | subscribe signature handler =>
    obtain ⟨hid, _⟩ := subscribe_workings h.workings_eq signature handler
    simp only [World.step]
    refine h.whileManaged ?_
    exact .both (congrArg Answer.count hid) (h.subscribe signature handler)
  | loadStory viaManager =>
    simp only [World.step]
    refine h.whileManaged ?_
    cases viaManager with
    | true => exact .both (congrArg Answer.report (loadStory_workings h.workings_eq).1) h.loadStory
    | false => exact .both (congrArg Answer.report (bindStory_workings h.workings_eq).1) h.bindStory
  | setMerging merging _ =>
    simp only [World.step]
    refine h.whileManaged ?_
    exact .both rfl (h.setMerging merging)
  | hook =>
    have hhooked := congrArg Manager.hooked h.hook.manager_eq
    simp only [World.step]
    refine h.whileManaged ?_
    exact .both (congrArg Answer.flag hhooked) h.hook
  | failNextInstall => exact .both rfl h.failNextInstall
  | fire engineCall viaManager =>
    have hfired := fired hp hroom (of_decide_eq_true hs) h
    simp only [World.step]
    cases viaManager with
    | true =>
      simp only [if_true]
      exact h.whileManaged hfired
    | false =>
      simp only [Bool.false_eq_true, if_false, h.hasSink_eq]
      split
      · exact hfired
      · exact .both rfl h
  | run key args =>
    simp only [World.step]
    exact h.whileManaged (dispatched hp hroom key (of_decide_eq_true hs) h)
  | countHandlers key =>
    have hlength := congrArg (fun m : Manager => (m.roster.handlersFor key).length) h.manager_eq
    simp only [World.step]
    refine h.whileManaged ?_
    exact .both (congrArg Answer.count hlength) h
  | drop => exact .both rfl h.dropManager
  | describe | shutDown | stack | own => cases hs

end Step

end Alike

/-- Shared steps end alike on both, whose bodies perform shared steps only and nest no deeper than
the Lua machine can take. -/
theorem stepOnly_alike {budget nesting : Nat} (hroom : nesting + budget ≤ LuaState.maxNesting) :
    PerformsAlike nesting (stepOnly shared budget) (stepOnly shared budget) := by
  -- bodies have one level less to go, and one call more is in progress
  induction budget generalizing nesting with
  | zero => exact fun _ _ _ _ => .neither
  | succ budget ih =>
    intro s w w' h
    have hbodies : PerformsAlike (nesting + 1) (stepOnly shared budget) (stepOnly shared budget) :=
      ih (by omega)
    by_cases hs : shared s
    · simp only [stepOnly, if_pos hs]
      exact h.step hbodies (by omega) hs
    · simp only [stepOnly, if_neg hs]
      exact .neither

/-! ## Runs -/

/-- `Abreast nesting w w'`: a scenario of shared steps passes through `w` on the recording machine
and through `w'` on the Lua machine at the same moment, while so many calls are in progress.

* `start`: two bridges were just put together, with the same settings and the same limit.
* `performed`, `noted`: the host or a body has performed a step; a step of a body is noted.
* `began`: a firing has taken its snapshot.
* `guarded`: a firing has run a handler.
* `body`: the body of a handler starts. -/
inductive Abreast : Nat → World Recording → World LuaState → Prop
  | start (limit : Nat) (own : LuaState) (settings : Settings) (events events' : List Event) :
      Abreast 0 (.start (.start limit .initial) settings events)
        (.start (.start limit own) settings events')
  | performed {nesting budget : Nat} {s : Step} {w v : World Recording} {w' v' : World LuaState}
      {answer answer' : Answer} : Abreast nesting w w' →
      nesting + budget ≤ LuaState.maxNesting → stepOnly shared budget s w = some (answer, v) →
      stepOnly shared budget s w' = some (answer', v') → Abreast nesting v v'
  | noted {nesting : Nat} {w : World Recording} {w' : World LuaState} (function position : Nat)
      (answer : Answer) : Abreast nesting w w' →
      Abreast nesting (w.note function position answer) (w'.note function position answer)
  | began {nesting : Nat} {w : World Recording} {w' : World LuaState} {key : RouteKey} :
      Abreast nesting w w' → w.Fires key → Abreast nesting (w.began key) (w'.began key)
  | guarded {nesting budget : Nat} {w v : World Recording} {w' v' : World LuaState}
      {handler : HandlerRef} {args : Arguments} {outcome outcome' : HandlerOutcome} :
      Abreast nesting w w' → nesting + 1 + budget ≤ LuaState.maxNesting →
      args.count < maxSlots →
      guard (stepOnly shared budget) handler args w = some (outcome, v) →
      guard (stepOnly shared budget) handler args w' = some (outcome', v') → Abreast nesting v v'
  | body {nesting : Nat} {w v : World Recording} {w' v' : World LuaState} {handler : HandlerRef}
      {args : Arguments} : Abreast nesting w w' → nesting < LuaState.maxNesting →
      args.count < maxSlots → w.GuardStarts handler args v → w'.GuardStarts handler args v' →
      Abreast (nesting + 1) v v'

theorem alike_start (limit : Nat) (own : LuaState) (settings : Settings)
    (events events' : List Event) :
    Alike 0 (.start (.start limit .initial) settings events)
      (.start (.start limit own) settings events') :=
  ⟨⟨rfl, rfl, rfl, rfl, rfl, rfl, rfl, rfl, rfl⟩, rfl, rfl, rfl, rfl⟩

namespace Abreast

variable {nesting : Nat} {w : World Recording} {w' : World LuaState}

/-- Two moments that are passed at the same time look alike. -/
theorem alike (h : Abreast nesting w w') : Alike nesting w w' := by
  induction h with
  | start limit own settings events events' => exact alike_start limit own settings events events'
  | performed _ hroom hs hs' ih => exact (stepOnly_alike hroom _ _ _ ih).related hs hs'
  | noted function position answer _ ih => exact ih.note function position answer
  | began _ _ ih => exact ih.began _
  | guarded _ hroom hcount hg hg' ih =>
    exact (ih.guard (stepOnly_alike hroom) (by omega) _ hcount).related hg hg'
  | body _ hroom hcount hs hs' ih => exact ih.body hroom hcount hs hs'

/-- A shared step ends alike on both, and what it leads to is the same moment again. -/
theorem stepOnly {budget : Nat} (hroom : nesting + budget ≤ LuaState.maxNesting) (s : Step)
    (h : Abreast nesting w w') :
    EndsAlike (Abreast nesting) id (stepOnly shared budget s w)
      (World.stepOnly shared budget s w') :=
  (stepOnly_alike hroom s w w' h.alike).of_related (h.performed hroom)

/-- So do shared steps one after the other. -/
theorem afterEach? {budget : Nat} (hroom : nesting + budget ≤ LuaState.maxNesting)
    (steps : List Step) (h : Abreast nesting w w') :
    Option.Rel (Abreast nesting) (w.afterEach? (World.stepOnly shared budget) steps)
      (w'.afterEach? (World.stepOnly shared budget) steps) := by
  induction steps generalizing w w' with
  | nil => exact .some h
  | cons s steps ih =>
    have hd := h.stepOnly hroom s
    simp only [World.afterEach?, List.foldlM_cons] at ih ⊢
    generalize World.stepOnly shared budget s w = done,
      World.stepOnly shared budget s w' = done' at hd ⊢
    cases hd with
    | neither => exact .none
    | both _ hv => exact ih hv

end Abreast

/-- At every moment of a scenario that the two machines run, nested or not: the functions have been
called in the same order, on the Lua machine with the Lua values of what the recording machine
passed; the steps of bodies have had the same answers at the same depths; and the dispatch depth,
the depth of the stack and the routes are the same.

From there on, shared steps come to their end on both or on neither, each with the same answer, and
that is what a bridge performs; a firing takes its snapshot on both or on neither; the body of a
handler starts on both or on neither; and the guard finds that the handler failed on both or on
neither. Each time the machines are at the same moment again.

Calls nest as deep as the Lua machine can take. One more it refuses without calling anything, and
there is no ending of a function that it could report. -/
theorem machines_run_alike {nesting : Nat} {w : World Recording} {w' : World LuaState}
    (h : Abreast nesting w w') :
    w'.calls = w.calls.map CallRecord.toLua ∧ w'.nested = w.nested ∧
    w'.dispatchDepth = w.dispatchDepth ∧ w'.machine.depth = w.machine.depth ∧
    w'.manager.roster = w.manager.roster ∧
    (∀ budget, nesting + budget ≤ LuaState.maxNesting →
      (∀ steps, Option.Rel (Abreast nesting) (w.afterEach? (stepOnly shared budget) steps)
        (w'.afterEach? (stepOnly shared budget) steps)) ∧
      ∀ s,
        EndsAlike (Abreast nesting) id (stepOnly shared budget s w)
          (stepOnly shared budget s w') ∧
        ∀ more, budget ≤ more →
          (∀ done, stepOnly shared budget s w = some done → stepWithin more s w = some done) ∧
          ∀ done, stepOnly shared budget s w' = some done → stepWithin more s w' = some done) ∧
    (∀ key, (w'.Fires key ↔ w.Fires key) ∧
      (w.Fires key → Abreast nesting (w.began key) (w'.began key))) ∧
    ∀ handler args, args.count < maxSlots →
      (nesting < LuaState.maxNesting →
        ((∃ v', w'.GuardStarts handler args v') ↔ ∃ v, w.GuardStarts handler args v) ∧
        ∀ v v', w.GuardStarts handler args v → w'.GuardStarts handler args v' →
          Abreast (nesting + 1) v v') ∧
      ∀ budget, nesting + 1 + budget ≤ LuaState.maxNesting →
        EndsAlike (Abreast nesting) HandlerOutcome.isFailure
          (guard (stepOnly shared budget) handler args w)
          (guard (stepOnly shared budget) handler args w') := by
  have halike := h.alike
  refine ⟨halike.calls_eq, halike.nested_eq, dispatchDepth_of_workings halike.workings_eq,
    halike.depth_eq, congrArg Manager.roster halike.manager_eq, ?_, ?_, ?_⟩
  · intro budget hroom
    refine ⟨fun steps => h.afterEach? hroom steps, fun s => ⟨h.stepOnly hroom s, ?_⟩⟩
    intro more hle
    exact ⟨fun done hs => stepWithin_mono hle _ _ _ (stepOnly_extends shared budget _ _ _ hs),
      fun done hs => stepWithin_mono hle _ _ _ (stepOnly_extends shared budget _ _ _ hs)⟩
  · exact fun key => ⟨halike.fires_iff key, h.began⟩
  · intro handler args hcount
    constructor
    · intro hroom
      exact ⟨halike.body_iff hroom hcount, fun _ _ hv hv' => h.body hroom hcount hv hv'⟩
    · intro budget hroom
      have hends := halike.guard (stepOnly_alike hroom) (by omega) handler hcount
      exact hends.of_related (h.guarded hroom hcount)

/-- A story with two handlers of one key. The first fires another key, whose handler faults, loads
the story again, and raises an error; the second subscribes to a symbol that there is not. The
first attempt to hook the engine fails. -/
def nestedFailures : List Step :=
  [.failNextInstall, .define "Hit" 1 ⟨.event, ⟨7⟩, none⟩, .define "Deep" 1 ⟨.event, ⟨8⟩, none⟩,
    .addHandler ⟨[.run (.function ⟨8⟩ false) (.slice [.string "deep"]), .loadStory false],
      .raises "no", none, none⟩,
    .addHandler ⟨[.subscribe ⟨"Gone", 2, .after⟩ ⟨0⟩], .returns, none, none⟩,
    .addHandler ⟨[.setMerging true false, .setMerging false false], .faults (.text "oh"),
      none, none⟩,
    .subscribe ⟨"Hit", 1, .before⟩ ⟨0⟩, .subscribe ⟨"Hit", 1, .before⟩ ⟨1⟩,
    .subscribe ⟨"Deep", 1, .before⟩ ⟨2⟩, .loadStory false]

def recordedFailures : World Recording :=
  ((Recording.start 8 {}).afterEach? (stepOnly shared 1) nestedFailures).get (by decide +kernel)

def luaFailures : World LuaState :=
  ((World.start (.start 8 .initial) {} []).afterEach? (stepOnly shared 1) nestedFailures).get
    (by decide +kernel)

theorem abreast_failures : Abreast 0 recordedFailures luaFailures := by
  apply Option.rel_some_some.mp
  rw [recordedFailures, luaFailures, Option.some_get, Option.some_get]
  exact (Abreast.start 8 .initial {} [] []).afterEach? (by decide) nestedFailures

/-- The two handlers of the key are run on both machines with the same outcome, and three functions
are called each time. -/
theorem failures_run_alike : ∃ v v',
    stepWithin 3 (.run (.function ⟨7⟩ false) (.slice [.integer 1])) recordedFailures =
      some (.dispatched ⟨2, 1⟩, v) ∧
    stepWithin 3 (.run (.function ⟨7⟩ false) (.slice [.integer 1])) luaFailures =
      some (.dispatched ⟨2, 1⟩, v') ∧
    v.calls.map CallRecord.function = [0, 2, 1] ∧ v'.calls = v.calls.map CallRecord.toLua ∧
    v'.nested = v.nested ∧ v'.machine.depth = v.machine.depth := by
  let s : Step := .run (.function ⟨7⟩ false) (.slice [.integer 1])
  obtain ⟨_, _, _, _, _, hsteps, _⟩ := machines_run_alike abreast_failures
  obtain ⟨_, hstep⟩ := hsteps 3 (by decide)
  obtain ⟨hends, hextends⟩ := hstep s
  obtain ⟨hwithin, hwithin'⟩ := hextends 3 (Nat.le_refl 3)
  have hrun : (stepOnly shared 3 s recordedFailures).map
      (fun done => (done.1, done.2.calls.map CallRecord.function)) =
        some (.dispatched ⟨2, 1⟩, [0, 2, 1]) := by decide +kernel
  obtain ⟨⟨answer, v⟩, hs, he⟩ := Option.map_eq_some_iff.mp hrun
  obtain ⟨rfl, hcalled⟩ := Prod.mk.inj he
  cases hs' : stepOnly shared 3 s luaFailures with
  | none => rw [hs, hs'] at hends; cases hends
  | some done' =>
    rw [hs, hs'] at hends
    cases hends with
    | both hanswer hv =>
      cases hanswer
      obtain ⟨hcalls, hnested, _, hdepth, _⟩ := machines_run_alike hv
      exact ⟨_, _, hwithin _ hs, hwithin' _ hs', hcalled, hcalls, hnested, hdepth⟩

end World

end StoryHooks
