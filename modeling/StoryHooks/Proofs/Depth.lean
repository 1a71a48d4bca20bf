import StoryHooks.Proofs.Firing

/-!
# Dispatch depth

A firing goes up one level when it takes its snapshot and comes down again when it gives the
snapshot back. Handlers fail in many ways in between; none of them gets past the guard, so none of
them leaves a level behind.

Results:
1. `runHandlers_ok`: the snapshot that a firing gives back is the innermost one.
2. `step_ne_none`: a step comes to its end if the steps of bodies do.
3. `depth_counts_firings`: at any moment of any run the depth is the number of firings in progress,
   bodies perform their steps at that depth, and nothing that reenters the manager faults.
-/

namespace StoryHooks

open Script

/-- Whether a step is a call of the engine into the manager, a subscription or a story load. -/
def Step.reenters : Step → Bool
  | .fire .. | .run .. | .subscribe .. | .loadStory _ => true
  | _ => false

/-- Whether an answer says that a fault has unwound through the step. -/
def Answer.isFault : Answer → Bool
  | .faulted _ => true
  | _ => false

namespace World

variable {δ : Type} [Dialect δ]

/-! ## Firings end in order -/

section Sound
variable {perform : Perform δ} (hp : Keeping KeepsSound perform) {w : World δ} (hw : w.Sound)
include hp hw

/-- The snapshot that a firing gives back is the innermost one. -/
theorem runHandlers_ok {key : RouteKey} {args : Arguments} {v : World δ}
    {result : Except OutOfOrder (List Invocation)}
    (h : runHandlers perform key args w = some (result, v)) :
    ∃ invocations, result = .ok invocations := by
  by_cases hf : w.Fires key
  · obtain ⟨handlers, _, hrun⟩ := hw.runHandlers_eq hp key args
    rw [hrun hf] at h
    obtain ⟨done, _, he⟩ := Option.map_eq_some_iff.mp h
    cases he
    exact ⟨done.1, rfl⟩
  · rw [runHandlers_of_not_fires hf] at h
    cases h
    exact ⟨[], rfl⟩

theorem fired_not_fault {key : RouteKey} {args : Arguments} {v : World δ} {answer : Answer}
    (h : fired (runHandlers perform key args w) = some (answer, v)) : answer.isFault = false := by
  unfold fired at h
  split at h
  · cases h
  · cases h
    rfl
  · next hr =>
    obtain ⟨_, he⟩ := runHandlers_ok hp hw hr
    cases he

theorem dispatched_not_fault {key : RouteKey} {args : Arguments} {v : World δ} {answer : Answer}
    (h : dispatched (runHandlers perform key args w) = some (answer, v)) :
    answer.isFault = false := by
  unfold dispatched at h
  split at h
  · cases h
  · cases h
    rfl
  · next hr =>
    obtain ⟨_, he⟩ := runHandlers_ok hp hw hr
    cases he

/-- A step that reenters the manager does not fault. -/
theorem step_not_fault [OwnDialect δ] {s : Step} (hs : s.reenters = true) {answer : Answer}
    {v : World δ} (h : step perform s w = some (answer, v)) : answer.isFault = false := by
  cases s with
  | fire engineCall viaManager =>
    simp only [step, whileManaged, fire] at h
    split at h <;> split at h
    · exact fired_not_fault hp hw h
    · cases h
      rfl
    · exact fired_not_fault hp hw h
    · cases h
      rfl
  | run key args =>
    simp only [step, whileManaged] at h
    split at h
    · exact dispatched_not_fault hp hw h
    · cases h
      rfl
  | subscribe signature handler =>
    simp only [step, whileManaged] at h
    split at h <;> cases h <;> rfl
  | loadStory viaManager =>
    simp only [step, whileManaged] at h
    split at h
    · cases viaManager <;> cases h <;> rfl
    · cases h
      rfl
  | _ => cases hs

end Sound

/-! ## Steps end -/

/-- Every step of a body comes to an end. -/
def Finishing (perform : Perform δ) : Prop := ∀ (s : Step) (w : World δ), perform s w ≠ none

section Finishing
variable {perform : Perform δ} (ht : Finishing perform)
include ht

theorem runSteps_ne_none (function position : Nat) (steps : List Step) (w : World δ) :
    runSteps perform function position steps w ≠ none := by
  induction steps generalizing position w with
  | nil => exact Option.some_ne_none _
  | cons step steps ih =>
    rw [runSteps]
    split
    · next hs => exact absurd hs (ht step w)
    · exact Option.some_ne_none _
    · exact ih _ _

theorem runCallable_ne_none (callable : Callable) (arguments : List (Dialect.Argument δ))
    (w : World δ) : runCallable perform callable arguments w ≠ none := by
  cases callable with
  | inert => exact Option.some_ne_none _
  | body number =>
    simp only [runCallable]
    cases hf : w.functions[number]? with
    | none =>
      simp only [runFunction, hf]
      exact Option.some_ne_none _
    | some function =>
      rw [runFunction_of_known hf, runBody]
      split
      · split
        · next hs => exact absurd hs (runSteps_ne_none ht _ _ _ _)
        · exact Option.some_ne_none _
        · exact Option.some_ne_none _
      · exact Option.some_ne_none _

theorem call_ne_none (count : Nat) (w : World δ) : call perform count w ≠ none := by
  unfold call
  split
  · exact Option.some_ne_none _
  dsimp only
  split
  · exact Option.some_ne_none _
  split
  · split
    · next hc => exact absurd hc (runCallable_ne_none ht _ _ _)
    · split <;> exact Option.some_ne_none _
  · exact Option.some_ne_none _

theorem guard_ne_none (handler : HandlerRef) (args : Arguments) (w : World δ) :
    guard perform handler args w ≠ none := by
  unfold guard
  dsimp only
  split
  · exact Option.some_ne_none _
  split
  · exact Option.some_ne_none _
  split
  · next hc => exact absurd hc (call_ne_none ht _ _)
  all_goals exact Option.some_ne_none _

theorem invokeEach_ne_none (args : Arguments) (handlers : List HandlerRef) (w : World δ) :
    invokeEach perform args handlers w ≠ none := by
  induction handlers generalizing w with
  | nil => exact Option.some_ne_none _
  | cons handler handlers ih =>
    rw [invokeEach]
    split
    · next hg => exact absurd hg (guard_ne_none ht handler args w)
    · split
      · next hrest => exact absurd hrest (ih _)
      · exact Option.some_ne_none _

variable (hp : Keeping KeepsSound perform) {w : World δ} (hw : w.Sound)
include hp hw

theorem runHandlers_ne_none (key : RouteKey) (args : Arguments) :
    runHandlers perform key args w ≠ none := by
  by_cases hf : w.Fires key
  · obtain ⟨handlers, _, hrun⟩ := hw.runHandlers_eq hp key args
    rw [hrun hf, Ne, Option.map_eq_none_iff]
    exact invokeEach_ne_none ht args handlers _
  · rw [runHandlers_of_not_fires hf]
    exact Option.some_ne_none _

/-- A step comes to its end if the steps of bodies do. -/
theorem step_ne_none [OwnDialect δ] (s : Step) : step perform s w ≠ none := by
  cases s with
  | fire engineCall viaManager =>
    have hfired : fired (fire perform engineCall w) ≠ none := by
      unfold fired
      split
      · next hr => exact absurd hr (runHandlers_ne_none ht hp hw _ _)
      all_goals exact Option.some_ne_none _
    simp only [step, whileManaged]
    split <;> split
    · exact hfired
    · exact Option.some_ne_none _
    · exact hfired
    · exact Option.some_ne_none _
  | run key args =>
    simp only [step, whileManaged]
    split
    · unfold dispatched
      split
      · next hr => exact absurd hr (runHandlers_ne_none ht hp hw key args)
      all_goals exact Option.some_ne_none _
    · exact Option.some_ne_none _
  | stack request =>
    simp only [step]
    split
    · cases request with
      | guard handler args =>
        simp only [stackStep]
        split
        · next hg => exact absurd hg (guard_ne_none ht handler args w)
        · exact Option.some_ne_none _
      | call count =>
        simp only [stackStep]
        split
        · next hc => exact absurd hc (call_ne_none ht count w)
        all_goals exact Option.some_ne_none _
      | depth | pop count => exact Option.some_ne_none _
      | check slots | topText =>
        simp only [stackStep]
        split <;> exact Option.some_ne_none _
      | pushHandler handler | pushValue value =>
        simp only [stackStep, pushed]
        split <;> exact Option.some_ne_none _
    · exact Option.some_ne_none _
  | addHandler body =>
    simp only [step]
    split <;> exact Option.some_ne_none _
  | subscribe | loadStory | setMerging | hook | countHandlers | describe =>
    simp only [step, whileManaged]
    split <;> exact Option.some_ne_none _
  | _ => exact Option.some_ne_none _

end Finishing

/-! ## Any step at any moment -/

section Moment
variable [OwnDialect δ] [LawfulOwn δ] {allowed : Step → Prop} {level : Nat} {w : World δ}
  {perform : Perform δ}

/-- Between the steps of the host no firing is in progress. -/
theorem depth_afterSteps? {budget limit : Nat} {own : δ} {settings : Settings}
    {events : List Event} {steps : List Step}
    (h : (start (.start limit own) settings events).afterSteps? budget steps = some w) :
    w.manager.pool.depth = 0 :=
  ((Moment.start limit own settings events).afterSteps? h).sound.2.1

/-- At any moment of any run, whatever handlers do: the dispatch depth is the number of firings that
have taken their snapshot and not given it back, and a step leaves it as it was. A firing that takes
its snapshot goes up one level, runs its handlers from there and gives the snapshot back. So bodies
perform their steps at the depth of the step that runs them, and one deeper if it is a firing: what
would be performed at another depth makes no difference. The next firing finds its level in the
pool, and gives back the innermost snapshot. A step that reenters the manager does not fault, and
any step comes to its end if the steps of bodies do. Each id that was given out can be routed, and
so can the id of a subscription that is made now. -/
theorem depth_counts_firings (hw : Moment allowed level w) (hp : Stepwise allowed perform) :
    w.manager.pool.depth = level ∧ (w.managed = true → w.dispatchDepth = level) ∧
    w.begun = w.ended + level ∧
    (∀ s answer v, step perform s w = some (answer, v) →
      v.manager.pool.depth = level ∧ v.begun = v.ended + level) ∧
    (∀ key, w.Fires key → Moment allowed (level + 1) (w.began key) ∧
      (w.began key).manager.pool.depth = level + 1 ∧
      ∀ args, runHandlers perform key args w =
        (runLevel perform w.nextSnapshot args (w.manager.roster.handlersFor key).length 0
          (w.began key)).map fun done => finish w.nextSnapshot done.1 done.2) ∧
    (∀ s, allowed s → ∀ perform',
      (∀ s' v, Moment allowed (s.levelWithin level) v →
        v.manager.pool.depth = s.levelWithin level →
        v.begun = v.ended + s.levelWithin level → perform' s' v = perform s' v) →
      step perform' s w = step perform s w) ∧
    (∀ key, w.manager.pool.depth < (w.began key).manager.pool.levels.length) ∧
    (∀ key args result v, runHandlers perform key args w = some (result, v) →
      ∃ invocations, result = .ok invocations) ∧
    (∀ s, s.reenters = true → ∀ answer v, step perform s w = some (answer, v) →
      answer.isFault = false) ∧
    (Finishing perform → ∀ s, step perform s w ≠ none) ∧
    (∀ symbols id, id < w.manager.roster.size →
      (w.manager.roster.route? symbols id).isSome = true) ∧
    ∀ signature handler symbols,
      ((w.manager.roster.add signature handler).2.route? symbols w.manager.roster.size).isSome =
        true := by
  obtain ⟨hs, hd, hb⟩ := hw.sound
  have hkeeping := hp.keeping keeps_kept
  refine ⟨hd, ?_, hb, ?_, ?_, ?_, ?_, ?_, ?_, ?_, ?_, ?_⟩
  · intro hm
    rw [dispatchDepth, if_pos hm, hd]
  · intro s answer v h
    obtain ⟨_, hk⟩ := step_kept keeps_kept hkeeping h hs
    have := hk.balanced
    exact ⟨hk.depth_eq.trans hd, by omega⟩
  · intro key hf
    have hbegan := hw.began hf
    exact ⟨hbegan, hbegan.sound.2.1, runHandlers_of_fires hf perform⟩
  · intro s ha perform' agree
    obtain ⟨_, _, _, _, hfrom⟩ := hw
    refine step_eq_of_moments hp hfrom ha fun s' v hv => ?_
    have hmoment : Moment allowed (s.levelWithin level) v := ⟨_, _, _, _, hv⟩
    obtain ⟨_, hdepth, hbegun⟩ := hmoment.sound
    exact agree s' v hmoment hdepth hbegun
  · intro key
    exact Pool.depth_lt_length_enter hs.depth_le _
  · intro key args result v h
    exact runHandlers_ok hkeeping hs h
  · intro s hr answer v h
    exact step_not_fault hkeeping hs hr h
  · intro ht s
    exact step_ne_none ht hkeeping hs s
  · intro symbols id hid
    exact Roster.route?_isSome hid symbols
  · intro signature handler symbols
    have hid : w.manager.roster.size < (w.manager.roster.add signature handler).2.size := by
      rw [Roster.size_add]
      exact Nat.lt_succ_self _
    exact Roster.route?_isSome hid symbols

end Moment

/-- In the middle of its firing the handler that fires its key again finds one firing in progress,
before and after. In between bodies perform their steps below two. -/
theorem depth_within_resubscribing :
    (resubscribing.began (.function ⟨7⟩ false)).dispatchDepth = 1 ∧
    step (fun s w => if w.manager.pool.depth = 2 then stepWithin 2 s w else none)
        (.run (.function ⟨7⟩ false) .none) (resubscribing.began (.function ⟨7⟩ false)) =
      step (stepWithin 2) (.run (.function ⟨7⟩ false) .none)
        (resubscribing.began (.function ⟨7⟩ false)) ∧
    (∃ answer v, step (stepWithin 2) (.run (.function ⟨7⟩ false) .none)
        (resubscribing.began (.function ⟨7⟩ false)) = some (answer, v) ∧
      v.manager.pool.depth = 1 ∧ answer.isFault = false) ∧
    step (fun _ w => some (.done, w)) (.run (.function ⟨7⟩ false) .none)
      (resubscribing.began (.function ⟨7⟩ false)) ≠ none := by
  have hw : Moment anyStep 1 (resubscribing.began (.function ⟨7⟩ false)) :=
    moment_resubscribing.began fires_resubscribing
  have hidle : Stepwise anyStep (fun _ w => some (.done, w) : Perform Recording) := by
    intro s w answer v h
    cases h
    exact .refl w
  obtain ⟨_, hdepth, _, hstep, _, hwithin, _, _, hfault, _⟩ :=
    depth_counts_firings hw (stepWithin_stepwise 2)
  obtain ⟨_, _, _, _, _, _, _, _, _, hends, _⟩ := depth_counts_firings hw hidle
  have hreturns : (step (stepWithin 2) (.run (.function ⟨7⟩ false) .none)
      (resubscribing.began (.function ⟨7⟩ false))).isSome = true := by decide +kernel
  obtain ⟨⟨answer, v⟩, hr⟩ := Option.isSome_iff_exists.mp hreturns
  refine ⟨hdepth (by decide +kernel), ?_, ⟨answer, v, hr, (hstep _ _ _ hr).1, ?_⟩, ?_⟩
  · exact hwithin _ trivial _ fun s' v _ hv _ => if_pos hv
  · exact hfault _ rfl _ _ hr
  · exact hends (fun _ _ => Option.some_ne_none _) _

end World

end StoryHooks
