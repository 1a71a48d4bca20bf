import StoryHooks.Proofs.Holdings
import StoryHooks.Proofs.StackRoom

/-!
# Shutting the Lua machine down

The machine may be shut down at any time: by the host, or by a handler while firings are in progress
that have copied the ids of further handlers. Its functions are gone then, and so is its stack.

Results:
1. `Onward.grows`: functions are stored after those that were there, wherever the run gets to, and
   the machine never comes up again. While it is up its handlers are the functions that were stored.
2. `Held.reference_lasts`: so a reference leads to the function stored under it for good, and is not
   given out again.
3. `Down.invokeEach_eq`: handlers that are left to run when the machine goes down fail one by one,
   and no body is entered.
4. `shutDown_is_final`: all of this at any moment of any run that leaves the bare stack alone.
-/

namespace StoryHooks

open Script

/-- The steps that store a function: they add a handler or register a listener. -/
def Step.stores : Step → Bool
  | .addHandler _ | .own (.register ..) => true
  | _ => false

namespace World

variable {u v w : World LuaState}

/-! ## The functions that were stored -/

/-- The handlers of a machine that is up are the functions that were stored, each in its place. One
that is down has none. -/
def Held (w : World LuaState) : Prop :=
  w.machine.handlers = if w.machine.alive then w.machine.stored else []

theorem Held.handlers_eq (h : w.Held) (ha : w.machine.alive = true) :
    w.machine.handlers = w.machine.stored := by
  rw [h, if_pos ha]

theorem Held.of_holdings (h : w.Held) (hv : v.holdings = w.holdings) : v.Held := by
  rw [Held, handlers_of_holdings hv, alive_of_holdings hv, stored_of_holdings hv]
  exact h

/-- `Grows w v`: after `w` functions may have been stored behind those that were there, or the
machine may have been shut down, and that is all until `v`. -/
structure Grows (w v : World LuaState) : Prop where
  stored : w.machine.stored <+: v.machine.stored
  alive : v.machine.alive = true → w.machine.alive = true
  held : w.Held → v.Held

theorem Grows.of_holdings (h : v.holdings = w.holdings) : w.Grows v where
  stored := stored_of_holdings h ▸ List.prefix_rfl
  alive hv := alive_of_holdings h ▸ hv
  held hw := hw.of_holdings h

theorem Grows.trans (huv : u.Grows v) (hvw : v.Grows w) : u.Grows w where
  stored := huv.stored.trans hvw.stored
  alive hw := huv.alive (hvw.alive hw)
  held hu := hvw.held (huv.held hu)

theorem sees_grows : Sees holdings Grows := ⟨.trans, .of_holdings⟩

/-- Storing a function puts it behind the others. -/
theorem Grows.storeHandler? {callable : Callable} {handler : HandlerRef}
    (h : w.storeHandler? callable = some (handler, v)) : w.Grows v := by
  obtain ⟨ha, hv⟩ := alive_of_storeHandler? h
  refine ⟨⟨[callable], (stored_of_storeHandler? h).symm⟩, fun _ => ha, fun hw => ?_⟩
  obtain ⟨_, _, rfl⟩ := storeHandler?_cases h
  rw [Held, if_pos hv]
  exact congrArg (· ++ [callable]) (hw.handlers_eq ha)

theorem Grows.subscribe (w : World LuaState) (signature : Signature) (handler : HandlerRef) :
    w.Grows (w.subscribe signature handler).2 := by
  have hm := w.subscribe_machine signature handler
  refine ⟨⟨[], by rw [hm, List.append_nil]⟩, fun ha => ?_, fun hw => ?_⟩
  · rwa [hm] at ha
  · rwa [Held, hm]

theorem Grows.shutDown (w : World LuaState) : w.Grows (w.setMachine w.machine.shutDown) :=
  ⟨List.prefix_rfl, nofun, fun _ => rfl⟩

theorem carriedBy_grows (allowed : Step → Prop) : CarriedBy allowed Grows := by
  refine carriedBy_shifts sees_grows ?_
  intro s w v _ h
  cases h with
  | kept h => exact .of_holdings h
  | stored hu hs hv =>
    have hstored := (Grows.of_holdings hu).trans (.storeHandler? hs)
    exact hstored.trans (.of_holdings hv)
  | @subscribed signature handler _ hv =>
    exact (Grows.subscribe w signature handler).trans (.of_holdings hv)
  | @registered _ _ _ x _ _ signature handler hu hs hv =>
    have hstored := (Grows.of_holdings hu).trans (.storeHandler? hs)
    exact (hstored.trans (.subscribe x signature handler)).trans (.of_holdings hv)
  | closed hv => exact (Grows.shutDown w).trans (.of_holdings hv)

theorem grows_of_momentFrom {allowed : Step → Prop} {level : Nat}
    (h : MomentFrom allowed w level u) : w.Grows u :=
  h.related besideStack_holdings sees_grows (carriedBy_grows allowed) fun _ _ => .of_holdings rfl

/-- A step that runs no body stores nothing, or adds a handler or registers a listener and stores
that one function. -/
theorem step_stored {perform : Perform LuaState} {s : Step} {answer : Answer}
    (hf : s.fires = false) (ha : s.addressesStack = false)
    (h : step perform s w = some (answer, v)) :
    v.machine.stored = w.machine.stored ∨
      s.stores = true ∧ ∃ callable, v.machine.stored = w.machine.stored ++ [callable] := by
  cases step_shifts hf ha h with
  | kept h => exact .inl (stored_of_holdings h)
  | @stored _ _ _ _ callable _ hu hs hv =>
    refine .inr ⟨rfl, callable, ?_⟩
    rw [stored_of_holdings hv, stored_of_storeHandler? hs, stored_of_holdings hu]
  | subscribed hv => exact .inl ((stored_of_holdings hv).trans (stored_subscribe ..))
  | @registered _ _ _ _ _ callable _ _ hu hs hv =>
    refine .inr ⟨rfl, callable, ?_⟩
    rw [stored_of_holdings hv, stored_subscribe, stored_of_storeHandler? hs, stored_of_holdings hu]
  | closed hv => exact .inl ((stored_of_holdings hv).trans rfl)

/-! ## Wherever the run gets to -/

/-- `Onward w u`: a run that has passed through `w` may pass through `u` afterwards, whichever
firings and bodies were in progress in `w` and have come to their end since.

* `here`: nothing has happened since.
* `moment`: the run goes on as it does from any world.
* `returned`: a body ends in some way, and its call with it.
* `cleared`: the guard that made a call reports something or nothing, and cuts the stack back.
* `gaveBack`: the innermost firing gives its snapshot back. -/
inductive Onward {δ : Type} [Dialect δ] [OwnDialect δ] (w : World δ) : World δ → Prop
  | here : Onward w w
  | moment {u v : World δ} {level : Nat} :
      Onward w u → MomentFrom anyStep u level v → Onward w v
  | returned {u : World δ} (ending : Ending) : Onward w u → Onward w (u.returned ending)
  | cleared {u : World δ} (events : List Event) (depth : Nat) :
      Onward w u → Onward w ((u.reportAll events).restore depth)
  | gaveBack {u : World δ} (invocations : List Invocation) :
      Onward w u → Onward w (u.gaveBack invocations)

theorem Onward.grows (h : Onward w u) : w.Grows u := by
  induction h with
  | here => exact .of_holdings rfl
  | moment _ hm ih => exact ih.trans (grows_of_momentFrom hm)
  | returned | cleared | gaveBack => next ih => exact ih.trans (.of_holdings rfl)

/-- A function keeps its place among those that are stored. -/
theorem Grows.stored_at (h : w.Grows u) {number : Nat} {callable : Callable}
    (hstored : w.machine.stored[number]? = some callable) :
    u.machine.stored[number]? = some callable := by
  obtain ⟨later, he⟩ := h.stored
  obtain ⟨hlt, _⟩ := List.getElem?_eq_some_iff.mp hstored
  rw [← he, List.getElem?_append_left hlt, hstored]

/-- A reference leads to the function stored in its place, or nowhere. -/
theorem Held.pushHandler_eq (h : w.Held) (ha : w.machine.alive = true) (number : Nat) :
    w.machine.pushHandler ⟨number⟩ =
      match w.machine.stored[number]? with
      | some callable => .ok (w.machine.push (LuaValue.function callable))
      | none => .error (.unknownHandler number) := by
  rw [Machine.pushHandler, h.handlers_eq ha]
  cases w.machine.stored[number]? <;> rfl

/-- The next function is stored in the next place, under the reference to it. -/
theorem Held.storeHandler?_cases (h : w.Held) {callable : Callable} {handler : HandlerRef}
    (hs : w.storeHandler? callable = some (handler, v)) :
    handler = ⟨w.machine.stored.length⟩ ∧ v.machine.stored = w.machine.stored ++ [callable] := by
  have hh := h.handlers_eq (alive_of_storeHandler? hs).1
  obtain ⟨_, rfl, _⟩ := World.storeHandler?_cases hs
  have hnext := congrArg (fun handlers => HandlerRef.mk handlers.length) hh
  exact ⟨hnext, stored_of_storeHandler? hs⟩

/-- Wherever the run gets to with its machine up, the reference under which a function was stored
leads to it, and is not given out for another. -/
theorem Held.reference_lasts (h : w.Held) {callable : Callable} {handler : HandlerRef}
    (hs : w.storeHandler? callable = some (handler, v)) (hu : Onward v u)
    (ha : u.machine.alive = true) :
    u.machine.pushHandler handler = .ok (u.machine.push (LuaValue.function callable)) ∧
      ∀ callable' handler' x, u.storeHandler? callable' = some (handler', x) →
        handler' ≠ handler := by
  obtain ⟨rfl, hv⟩ := h.storeHandler?_cases hs
  have hheld : u.Held := hu.grows.held ((Grows.storeHandler? hs).held h)
  have hplace : u.machine.stored[w.machine.stored.length]? = some callable :=
    hu.grows.stored_at (hv ▸ List.getElem?_concat_length)
  constructor
  · rw [hheld.pushHandler_eq ha, hplace]
  · rintro callable' handler' x hs' rfl
    obtain ⟨hnext, _⟩ := hheld.storeHandler?_cases hs'
    obtain ⟨hlt, _⟩ := List.getElem?_eq_some_iff.mp hplace
    exact Nat.ne_of_lt hlt (congrArg HandlerRef.number hnext)

/-- The machine is down, and its handlers are gone. -/
structure Down (w : World LuaState) : Prop where
  alive_eq : w.machine.alive = false
  handlers_eq : w.machine.handlers = []

theorem Held.down (h : w.Held) (ha : w.machine.alive = false) : w.Down :=
  ⟨ha, by rw [h, ha]; rfl⟩

theorem Down.held (h : w.Down) : w.Held := by
  rw [Held, h.handlers_eq, h.alive_eq]
  rfl

/-- A machine that is down stays down. -/
theorem Grows.down (h : w.Grows v) (hw : w.Down) : v.Down := by
  refine (h.held hw.held).down (Bool.eq_false_iff.mpr fun hv => ?_)
  exact Bool.false_ne_true (hw.alive_eq.symm.trans (h.alive hv))

theorem down_shutDown (w : World LuaState) : (w.setMachine w.machine.shutDown).Down := ⟨rfl, rfl⟩

/-! ## A machine that is down -/

namespace Down

variable (h : w.Down)
include h

theorem reportAll (events : List Event) : (w.reportAll events).Down := ⟨h.alive_eq, h.handlers_eq⟩

theorem report (event : Event) : (w.report event).Down := h.reportAll [event]

theorem pushHandler_eq (number : Nat) :
    w.machine.pushHandler ⟨number⟩ = .error (.unknownHandler number) := by
  simp only [Machine.pushHandler, h.handlers_eq, List.getElem?_nil]

theorem registerListener_ne_ok (linked : Bool) (args : ListenerArguments)
    (id : SubscriptionId) (v : World LuaState) :
    w.registerListener linked args ≠ .ok (id, v) := by
  intro hr
  obtain ⟨_, _, _, _, _, hs, _⟩ := registerListener_cases hr
  rw [storeHandler?_of_down h.alive_eq] at hs
  cases hs

theorem runRegister_eq (args : List (ScriptArgument Step)) (direct : Bool) :
    ∃ failure functions, w.runRegister args direct = (.script failure, { w with functions }) := by
  obtain ⟨functions, ⟨failure, hr⟩ | ⟨_, _, _, _, _, hr, _⟩⟩ := w.runRegister_ends args direct
  · exact ⟨failure, functions, hr⟩
  · have hmade : Down { w with functions } := ⟨h.alive_eq, h.handlers_eq⟩
    exact absurd hr (hmade.registerListener_ne_ok _ _ _ _)

theorem not_fires (key : RouteKey) : ¬ w.Fires key :=
  fun hf => Bool.false_ne_true (h.alive_eq.symm.trans hf.2.2)

theorem not_guardStarts {handler : HandlerRef} {args : Arguments} :
    ¬ w.GuardStarts handler args v := by
  rintro ⟨_, hm, _⟩
  obtain ⟨stored, _, hstored, _⟩ := Machine.marshal_of_none hm
  rw [h.handlers_eq] at hstored
  cases hstored

/-- The guard fails and reports so, and does nothing else: neither the outcome nor the world depends
on what steps of bodies would come to. -/
theorem guard_eq (handler : HandlerRef) (args : Arguments) :
    ∃ outcome event,
      (∀ perform, guard perform handler args w = some (outcome, w.report event)) ∧
      outcome ≠ .completed := by
  cases hroom : w.machine.checkStack (1 + args.count) with
  | error e => exact ⟨_, _, fun perform => guard_of_refused hroom, nofun⟩
  | ok room =>
    have hunknown : w.machine.handlers[handler.number]? = none := by
      rw [h.handlers_eq, List.getElem?_nil]
    exact ⟨_, _, guard_of_unknown hroom hunknown, nofun⟩

/-- Handlers in turn each fail and are reported. -/
theorem invokeEach_eq (args : Arguments) (handlers : List HandlerRef) :
    ∃ invocations events,
      (∀ perform, invokeEach perform args handlers w = some (invocations, w.reportAll events)) ∧
      invocations.map Invocation.handler = handlers ∧
      ∀ i ∈ invocations, i.outcome ≠ .completed := by
  induction handlers generalizing w with
  | nil => exact ⟨[], [], fun _ => by rw [reportAll_nil, invokeEach], rfl, List.forall_mem_nil _⟩
  | cons handler handlers ih =>
    obtain ⟨outcome, event, hguard, hfailed⟩ := h.guard_eq handler args
    obtain ⟨invocations, events, hrest, hhandlers, hall⟩ := ih (h.report event)
    refine ⟨⟨handler, outcome⟩ :: invocations, event :: events, ?_, ?_, ?_⟩
    · intro perform
      rw [invokeEach, hguard]
      dsimp only
      rw [hrest]
      dsimp only
      rw [report_reportAll]
    · rw [List.map_cons, hhandlers]
    · exact List.forall_mem_cons.mpr ⟨hfailed, hall⟩

end Down

/-- What is left of a bridge whose machine was shut down: no handler can be pushed, stored or
registered, and no body starts. A firing is skipped as a whole, and handlers that are left of one
that began before each fail, whatever steps of bodies would come to. -/
structure OutOfService (w : World LuaState) : Prop where
  alive_eq : w.machine.alive = false
  pushHandler_eq (number : Nat) :
    w.machine.pushHandler ⟨number⟩ = .error (.unknownHandler number)
  storeHandler?_eq (callable : Callable) : w.storeHandler? callable = none
  registerListener_ne_ok (linked : Bool) (args : ListenerArguments) (id : SubscriptionId)
    (v : World LuaState) : w.registerListener linked args ≠ .ok (id, v)
  runRegister_eq (args : List (ScriptArgument Step)) (direct : Bool) : ∃ failure functions,
    w.runRegister args direct = (.script failure, { w with functions })
  not_guardStarts (handler : HandlerRef) (args : Arguments) (v : World LuaState) :
    ¬ w.GuardStarts handler args v
  stack_eq (perform : Perform LuaState) (request : StackStep) :
    step perform (.stack request) w = some (.unpinned, w)
  dispatched_eq (perform : Perform LuaState) (key : RouteKey) (args : Arguments) :
    dispatched (runHandlers perform key args w) = some (.dispatched ⟨0, 0⟩,
      if w.manager.merging = true ∨ w.manager.roster.handlersFor key = [] then w
      else w.report (.machineUnavailable key))
  invokeEach_eq (args : Arguments) (handlers : List HandlerRef) : ∃ invocations events,
    (∀ perform, invokeEach perform args handlers w = some (invocations, w.reportAll events)) ∧
    invocations.map Invocation.handler = handlers ∧ ∀ i ∈ invocations, i.outcome ≠ .completed

theorem Down.outOfService (h : w.Down) : w.OutOfService where
  alive_eq := h.alive_eq
  pushHandler_eq := h.pushHandler_eq
  storeHandler?_eq := storeHandler?_of_down h.alive_eq
  registerListener_ne_ok := h.registerListener_ne_ok
  runRegister_eq := h.runRegister_eq
  not_guardStarts _ _ _ := h.not_guardStarts
  stack_eq perform request := by
    simp only [step, h.alive_eq, Bool.false_eq_true, if_false]
  dispatched_eq perform key args := by
    rw [runHandlers_of_not_fires (h.not_fires key)]
    rfl
  invokeEach_eq := h.invokeEach_eq

/-! ## Any firing at any depth -/

section Moment
variable {limit level : Nat} {own : LuaState} {settings : Settings} {events : List Event}
  {perform : Perform LuaState}

/-- Wherever a run gets to, a machine that is up has the handlers that were stored. -/
theorem held_of_moment {allowed : Step → Prop}
    (hw : MomentFrom allowed (.start (.start limit own) settings events) level w) : w.Held :=
  (grows_of_momentFrom hw).held rfl

/-- A firing that is left with some handlers when the machine goes down counts each of them as
invoked and failed, and gives its snapshot back. -/
theorem runHandlers_of_down (hw : w.Sound) (hp : Keeping KeepsSound perform) {key : RouteKey}
    (hf : w.Fires key) (args : Arguments) :
    ∃ handlers : List HandlerRef,
      (w.manager.roster.handlersFor key).map w.manager.roster.handler? = handlers.map some ∧
      ∀ before after done u, handlers = before ++ after →
        invokeEach perform args before (w.began key) = some (done, u) → u.Down →
        ∃ failed events, runHandlers perform key args w =
            some (.ok (done ++ failed), (u.reportAll events).gaveBack (done ++ failed)) ∧
          failed.map Invocation.handler = after ∧ (∀ i ∈ failed, i.outcome ≠ .completed) ∧
          DispatchOutcome.ofInvocations (done ++ failed) =
            ⟨handlers.length, (DispatchOutcome.ofInvocations done).failed + after.length⟩ := by
  obtain ⟨handlers, hh, hrun⟩ := hw.runHandlers_eq hp key args
  refine ⟨handlers, hh, ?_⟩
  rintro before after done u rfl hbefore hu
  obtain ⟨failed, events, hafter, hhandlers, hall⟩ := hu.invokeEach_eq args after
  refine ⟨failed, events, ?_, hhandlers, hall, ?_⟩
  · rw [hrun hf, invokeEach_append, hbefore, Option.bind_some, hafter]
    rfl
  · have hcount : failed.countP (fun i => i.outcome ≠ .completed) = failed.length :=
      List.countP_eq_length.mpr fun i hi => by simpa using hall i hi
    have hbefores := congrArg List.length (invokeEach_handlers hbefore)
    have hafters := congrArg List.length hhandlers
    rw [List.length_map] at hbefores hafters
    rw [DispatchOutcome.ofInvocations_eq, DispatchOutcome.ofInvocations_eq, List.countP_append,
      hcount, List.length_append, List.length_append, hbefores, hafters]

/-- At any moment of a run that leaves the bare stack alone, whatever handlers do. While the machine
is up, a reference leads to the function in its place among those that were stored, counted from
zero, and nowhere if there are not so many. A function is stored behind the others, under the next
reference. Wherever the run gets to, the functions that were stored are still the first; while the
machine is up, the reference leads to its function, and it is not given out for another. Of the
steps that run no body, none stores more than the one handler that it adds, or the one listener that
it registers. The stack is empty, and the dispatch depth is the number of firings in progress.

From a shutdown on, wherever the run gets to: nothing can be pushed, stored or registered, and no
body starts. A later firing is skipped as a whole. One that is in progress when the machine goes
down counts the handlers that are left as invoked and failed; it ends, and leaves the dispatch depth
as it was and the stack empty. -/
theorem shutDown_is_final (hw : MomentFrom (sparing ([] : List LuaValue))
      (.start (.start limit own) settings events) level w)
    (hp : Stepwise (sparing ([] : List LuaValue)) perform) :
    (w.machine.alive = true →
      (∀ number, w.machine.pushHandler ⟨number⟩ =
        match w.machine.stored[number]? with
        | some callable => .ok (w.machine.push (LuaValue.function callable))
        | none => .error (.unknownHandler number)) ∧
      ∀ callable, ∃ v, w.storeHandler? callable = some (⟨w.machine.stored.length⟩, v)) ∧
    (∀ callable handler v, w.storeHandler? callable = some (handler, v) →
      handler = ⟨w.machine.stored.length⟩ ∧ v.machine.stored = w.machine.stored ++ [callable] ∧
      ∀ u, Onward v u → u.machine.alive = true →
        u.machine.pushHandler handler = .ok (u.machine.push (LuaValue.function callable)) ∧
        ∀ callable' handler' x, u.storeHandler? callable' = some (handler', x) →
          handler' ≠ handler) ∧
    (∀ u, Onward w u → w.machine.stored <+: u.machine.stored) ∧
    (∀ s answer v, s.fires = false → s.addressesStack = false →
      step perform s w = some (answer, v) → v.machine.stored = w.machine.stored ∨
        s.stores = true ∧ ∃ callable, v.machine.stored = w.machine.stored ++ [callable]) ∧
    w.machine.depth = 0 ∧ w.manager.pool.depth = level ∧
    (w.machine.alive = false → w.OutOfService) ∧
    (∀ answer v, step perform .shutDown w = some (answer, v) →
      ∀ u, Onward v u → u.OutOfService) ∧
    ∀ key args,
      (Finishing perform → runHandlers perform key args w ≠ none) ∧
      (∀ result v, runHandlers perform key args w = some (result, v) →
        v.machine.depth = 0 ∧ v.manager.pool.depth = level) ∧
      (w.Fires key → ∃ handlers : List HandlerRef,
        (w.manager.roster.handlersFor key).map w.manager.roster.handler? = handlers.map some ∧
        ∀ before after done u, handlers = before ++ after →
          invokeEach perform args before (w.began key) = some (done, u) →
          u.machine.alive = false →
          ∃ failed events, runHandlers perform key args w =
              some (.ok (done ++ failed), (u.reportAll events).gaveBack (done ++ failed)) ∧
            failed.map Invocation.handler = after ∧ (∀ i ∈ failed, i.outcome ≠ .completed) ∧
            DispatchOutcome.ofInvocations (done ++ failed) =
              ⟨handlers.length, (DispatchOutcome.ofInvocations done).failed + after.length⟩) := by
  have hheld : w.Held := held_of_moment hw
  have hmoment : Moment anyStep (0 + level) w := (Moment.start limit own settings events).after hw
  rw [Nat.zero_add] at hmoment
  obtain ⟨hsound, hdepth, _⟩ := hmoment.sound
  have hkeeping := (hp.mono fun _ _ => trivial : Stepwise anyStep perform).keeping keeps_kept
  let first : World LuaState := .start (.start limit own) settings events
  have hsame : first.SameStack w := sameStack_of_momentFrom hw
  have hslots : w.machine.slots = [] := hsame.slots_eq
  refine ⟨?_, ?_, fun u hu => hu.grows.stored, fun _ _ _ => step_stored, ?_, hdepth, ?_, ?_, ?_⟩
  · intro ha
    refine ⟨hheld.pushHandler_eq ha, fun callable => ?_⟩
    have hs := storeHandler?_of_alive ha callable
    rw [hheld.handlers_eq ha] at hs
    exact ⟨_, hs⟩
  · intro callable handler v hs
    obtain ⟨hnext, hstored⟩ := hheld.storeHandler?_cases hs
    exact ⟨hnext, hstored, fun u hu ha => hheld.reference_lasts hs hu ha⟩
  · rw [Machine.depth, hslots]
    rfl
  · exact fun ha => (hheld.down ha).outOfService
  · intro answer v h u hu
    cases h
    exact (hu.grows.down (w.down_shutDown.reportAll _)).outOfService
  · intro key args
    refine ⟨fun ht => runHandlers_ne_none ht hkeeping hsound key args, ?_, ?_⟩
    · intro result v h
      have hR : CarriedBy (sparing ([] : List LuaValue)) (KeepsSlots w.machine.slots) :=
        hslots ▸ carriedBy_sparing w.machine.slots
      have hsame : w.SameStack v := runHandlers_carried hR.toCarried (hp.carried hR) h rfl
      obtain ⟨_, hkept⟩ := runHandlers_carried keeps_kept.carried hkeeping h hsound
      constructor
      · rw [hsame.depth_eq, Machine.depth, hslots]
        rfl
      · exact hkept.depth_eq.trans hdepth
    · intro hf
      obtain ⟨handlers, hh, hleft⟩ := runHandlers_of_down hsound hkeeping hf args
      refine ⟨handlers, hh, ?_⟩
      intro before after done u hsplit hbefore hu
      have hat := invokeEach_each (I := MomentFrom (sparing ([] : List LuaValue))
        (.start (.start limit own) settings events) (level + 1)) (P := fun _ => True)
        (fun _ _ _ _ hx hg => ⟨trivial, hx.guarded hp hg⟩) (hw.began hf) hbefore
      exact hleft before after done u hsplit hbefore ((held_of_moment hat.2).down hu)

end Moment

/-- A bridge with two handlers of one key. The first fires another key, whose first handler shuts
the machine down, and raises an error then. -/
def closing : World LuaState :=
  ((LuaState.start {} []).afterEach? (stepOnly (sparing ([] : List LuaValue)) 1)
    [.define "Hit" 1 ⟨.event, ⟨7⟩, none⟩, .define "Deep" 1 ⟨.event, ⟨8⟩, none⟩,
      .addHandler ⟨[.run (.function ⟨8⟩ false) .none], .raises "no", none, none⟩,
      .addHandler ⟨[.shutDown], .returns, none, none⟩,
      .addHandler ⟨[], .returns, none, none⟩,
      .subscribe ⟨"Hit", 1, .before⟩ ⟨0⟩, .subscribe ⟨"Hit", 1, .before⟩ ⟨2⟩,
      .subscribe ⟨"Deep", 1, .before⟩ ⟨1⟩, .subscribe ⟨"Deep", 1, .before⟩ ⟨2⟩,
      .loadStory false]).get (by decide +kernel)

theorem momentFrom_closing :
    MomentFrom (sparing ([] : List LuaValue)) (LuaState.start {} []) 0 closing :=
  .course .here (Course.afterEach? (stepOnly_stepwise _ 1) (Option.some_get _).symm)

/-- A fourth function gets the fourth reference. The firing in which the machine goes down counts
the handler that is left as failed, and leaves no level and nothing on the stack. -/
theorem closing_leaves_nothing :
    (∃ v, closing.storeHandler? .inert = some (⟨3⟩, v) ∧
      v.machine.pushHandler ⟨3⟩ = .ok (v.machine.push (LuaValue.function .inert))) ∧
    (∃ failed v, runHandlers (stepOnly (sparing ([] : List LuaValue)) 3) (.function ⟨7⟩ false)
        .none closing = some (.ok ([⟨⟨0⟩, .scriptError "runtime error: no"⟩] ++ failed), v) ∧
      failed.map Invocation.handler = [⟨2⟩] ∧ (∀ i ∈ failed, i.outcome ≠ .completed) ∧
      v.machine.alive = false ∧ v.machine.depth = 0 ∧ v.manager.pool.depth = 0) ∧
    ∃ v, step (stepOnly (sparing ([] : List LuaValue)) 3) .shutDown closing = some (.done, v) ∧
      v.OutOfService := by
  have hp : Stepwise (sparing ([] : List LuaValue))
      (stepOnly (sparing ([] : List LuaValue)) 3 : Perform LuaState) := stepOnly_stepwise _ 3
  obtain ⟨hup, hstores, _, _, _, _, _, hclosed, hfirings⟩ := shutDown_is_final momentFrom_closing hp
  obtain ⟨_, hends, hleft⟩ := hfirings (.function ⟨7⟩ false) .none
  have ha : closing.machine.alive = true := by decide +kernel
  have hthree : closing.machine.stored.length = 3 := by decide +kernel
  refine ⟨?_, ?_, ?_⟩
  · obtain ⟨v, hs⟩ := (hup ha).2 .inert
    rw [hthree] at hs
    obtain ⟨_, _, hlater⟩ := hstores .inert _ v hs
    exact ⟨v, hs, (hlater v .here (alive_of_storeHandler? hs).2).1⟩
  · obtain ⟨handlers, hh, hsplit⟩ :=
      hleft ⟨by decide +kernel, by decide +kernel, by decide +kernel⟩
    have hids : (closing.manager.roster.handlersFor (.function ⟨7⟩ false)).map
        closing.manager.roster.handler? = [⟨0⟩, ⟨2⟩].map some := by decide +kernel
    have htwo : handlers = [⟨0⟩] ++ [⟨2⟩] :=
      (List.map_inj_right fun _ _ => Option.some.inj).mp (hh.symm.trans hids)
    have hfirst : (invokeEach (stepOnly (sparing ([] : List LuaValue)) 3) .none [⟨0⟩]
        (closing.began (.function ⟨7⟩ false))).map
          (fun done => (done.1, done.2.machine.alive)) =
        some ([⟨⟨0⟩, .scriptError "runtime error: no"⟩], false) := by decide +kernel
    obtain ⟨⟨done, u⟩, hbefore, he⟩ := Option.map_eq_some_iff.mp hfirst
    obtain ⟨rfl, hu⟩ := Prod.mk.inj he
    obtain ⟨failed, events, hrun, hhandlers, hall, _⟩ := hsplit _ _ _ _ htwo hbefore hu
    obtain ⟨hdepth, hlevel⟩ := hends _ _ hrun
    exact ⟨failed, _, hrun, hhandlers, hall, hu, hdepth, hlevel⟩
  · exact ⟨_, rfl, hclosed _ _ rfl _ .here⟩

end World

end StoryHooks
