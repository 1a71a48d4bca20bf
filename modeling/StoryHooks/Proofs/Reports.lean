import StoryHooks.Proofs.Budget
import StoryHooks.Proofs.Depth
import StoryHooks.Proofs.Routes

/-!
# Failures and their reports

What comes of a firing is known to nobody but the reports, and reports are made in many places: by
the guard, wherever an invocation may break off, by each attempt to hook the engine, and of each
subscription that a story refuses. Every failure is reported in just one of them, and nothing else
is reported as an error or a warning.

Results:
1. `guard_addsUp`: the guard reports an invocation that did not complete as one error, beside what
   its body reports.
2. `step_addsUp`: what a step reports adds up to the failures among its acts, if that holds of the
   steps of bodies.
3. `reports_match_failures`: so it does for any run on from any moment.
-/

namespace StoryHooks

open Script

/-! ## Failures among the acts of the manager -/

namespace Act

/-- The invocations of a firing that did not complete. -/
def failedInvocations : Act → Nat
  | .firingEnded invocations => invocations.countP fun i => i.outcome ≠ .completed
  | _ => 0

/-- A failed attempt to hook the engine. -/
def failedHooks : Act → Nat
  | .hookTried false => 1
  | _ => 0

/-- The subscriptions that are refused in the report of a load. -/
def rejections : Act → Nat
  | .loaded _ report => report.rejected.length
  | _ => 0

/-- What is counted of each act, over all of them. -/
@[simp] def total (count : Act → Nat) : List Act → Nat
  | [] => 0
  | act :: acts => count act + total count acts

@[simp] theorem total_append (count : Act → Nat) (acts acts' : List Act) :
    total count (acts ++ acts') = total count acts + total count acts' := by
  induction acts with
  | nil => exact (Nat.zero_add _).symm
  | cons act acts ih => rw [List.cons_append, total, total, ih, Nat.add_assoc]

end Act

/-- The subscriptions among the acts that a loaded story refused as soon as they were made. Whether
a story was loaded before the acts is told by the flag. -/
def lateRefusals (suffix : String) : Bool → List Act → Nat
  | _, [] => 0
  | _, .loaded .. :: acts => lateRefusals suffix true acts
  | loaded, .subscribed signature _ symbols :: acts =>
    (if loaded ∧ (signature.resolve suffix symbols).isOk = false then 1 else 0) +
      lateRefusals suffix loaded acts
  | loaded, _ :: acts => lateRefusals suffix loaded acts

theorem lateRefusals_append (suffix : String) (loaded : Bool) (acts acts' : List Act) :
    lateRefusals suffix loaded (acts ++ acts') =
      lateRefusals suffix loaded acts +
        lateRefusals suffix (loaded || acts.any Act.loads) acts' := by
  induction acts generalizing loaded with
  | nil => simp [lateRefusals]
  | cons act acts ih =>
    cases act with
    | loaded symbols report =>
      simpa [lateRefusals, Act.loads] using ih true
    | subscribed signature handler symbols =>
      simp only [List.cons_append, lateRefusals, ih, List.any_cons, Act.loads, Bool.false_or,
        Nat.add_assoc]
    | hookTried | firingBegan | firingEnded =>
      simpa [lateRefusals, Act.loads] using ih loaded

/-- The number of the events that have a level. -/
def countLevel (level : Level) (events : List Event) : Nat :=
  events.countP fun event => event.level = level

theorem countLevel_append (level : Level) (events events' : List Event) :
    countLevel level (events ++ events') = countLevel level events + countLevel level events' :=
  List.countP_append

theorem countLevel_eq (level : Level) (events : List Event) :
    countLevel level events = (events.map Event.level).count level := by
  rw [countLevel, List.count, List.countP_map]
  refine List.countP_congr fun event _ => ?_
  simp

/-- An event that is neither an error nor a warning. -/
def Event.Quiet (event : Event) : Prop := (event.level == .error || event.level == .warn) = false

theorem Event.Quiet.levels {event : Event} (h : event.Quiet) :
    event.level ≠ .error ∧ event.level ≠ .warn := by
  simpa [Quiet] using h

theorem countLevel_of_quiet {events : List Event} (h : ∀ event ∈ events, event.Quiet) :
    countLevel .error events = 0 ∧ countLevel .warn events = 0 := by
  constructor
  · exact List.countP_eq_zero.mpr fun event he => by simpa using (h event he).levels.1
  · exact List.countP_eq_zero.mpr fun event he => by simpa using (h event he).levels.2

namespace World

variable {δ : Type} [Dialect δ]

/-! ## Accounts that add up -/

/-- On the way from `w` to `v` these acts were performed and these events reported, and they add up:
there is an error for each failed invocation and each failed attempt to hook the engine, and a
warning for each subscription that was refused, at a load or when it was made. So many of the failed
invocations belong to a firing that is still in progress. -/
structure Tally (loose : Nat) (w v : World δ) (acts : List Act) (events : List Event) : Prop where
  history_eq : v.history = w.history ++ acts
  events_eq : v.events = w.events ++ events
  errors_eq : countLevel .error events =
    Act.total Act.failedInvocations acts + Act.total Act.failedHooks acts + loose
  warnings_eq : countLevel .warn events = Act.total Act.rejections acts +
    lateRefusals w.manager.roster.suffix w.manager.storyLoaded acts
  storyLoaded_eq : v.manager.storyLoaded = (w.manager.storyLoaded || acts.any Act.loads)
  suffix_eq : v.manager.roster.suffix = w.manager.roster.suffix

/-- What was reported on the way from `w` to `v` adds up. -/
def AddsUp (loose : Nat) (w v : World δ) : Prop := ∃ acts events, Tally loose w v acts events

section AddsUp
variable {loose more : Nat} {u v w : World δ}

theorem Tally.trans {acts acts' : List Act} {events events' : List Event}
    (h : Tally loose u v acts events) (h' : Tally more v w acts' events') :
    Tally (loose + more) u w (acts ++ acts') (events ++ events') where
  history_eq := by rw [h'.history_eq, h.history_eq, List.append_assoc]
  events_eq := by rw [h'.events_eq, h.events_eq, List.append_assoc]
  errors_eq := by
    rw [countLevel_append, h.errors_eq, h'.errors_eq]
    simp only [Act.total_append]
    omega
  warnings_eq := by
    rw [countLevel_append, h.warnings_eq, h'.warnings_eq, lateRefusals_append, h.suffix_eq,
      h.storyLoaded_eq]
    simp only [Act.total_append]
    omega
  storyLoaded_eq := by
    rw [h'.storyLoaded_eq, h.storyLoaded_eq, List.any_append, Bool.or_assoc]
  suffix_eq := h'.suffix_eq.trans h.suffix_eq

theorem AddsUp.trans (h : AddsUp loose u v) (h' : AddsUp more v w) : AddsUp (loose + more) u w := by
  obtain ⟨_, _, ht⟩ := h
  obtain ⟨_, _, ht'⟩ := h'
  exact ⟨_, _, ht.trans ht'⟩

/-- What adds up by itself may come first. -/
theorem AddsUp.andThen (h : AddsUp 0 u v) (h' : AddsUp loose v w) : AddsUp loose u w :=
  Nat.zero_add loose ▸ h.trans h'

/-- What leaves the books alone and reports no failure. -/
theorem AddsUp.of_quiet {events : List Event} (hh : v.history = w.history)
    (hl : v.manager.storyLoaded = w.manager.storyLoaded)
    (hx : v.manager.roster.suffix = w.manager.roster.suffix) (he : v.events = w.events ++ events)
    (hquiet : ∀ event ∈ events, event.Quiet) : AddsUp 0 w v := by
  obtain ⟨herrors, hwarnings⟩ := countLevel_of_quiet hquiet
  refine ⟨[], events, ?_, he, herrors, hwarnings, ?_, hx⟩
  · rw [hh, List.append_nil]
  · rw [hl, List.any_nil, Bool.or_false]

theorem AddsUp.of_silent (hh : v.history = w.history)
    (hl : v.manager.storyLoaded = w.manager.storyLoaded)
    (hx : v.manager.roster.suffix = w.manager.roster.suffix) (he : v.events = w.events) :
    AddsUp 0 w v :=
  .of_quiet hh hl hx (he.trans (List.append_nil _).symm) (List.forall_mem_nil _)

/-- What changes the books in ways that have no part in this, and reports nothing. -/
theorem AddsUp.of_books (hb : v.books = w.books) (he : v.events = w.events) : AddsUp 0 w v :=
  .of_silent (history_of_books hb) (congrArg Manager.storyLoaded (manager_of_books hb))
    (congrArg (fun m => m.roster.suffix) (manager_of_books hb)) he

theorem AddsUp.refl (w : World δ) : AddsUp 0 w w := .of_books rfl rfl

/-- Failed invocations that are reported and belong to no firing that has ended. -/
theorem AddsUp.of_reported {events : List Event} (hb : v.books = w.books)
    (he : v.events = w.events ++ events)
    (hlevels : events.map Event.level = .replicate loose .error) : AddsUp loose w v := by
  have hm := manager_of_books hb
  refine ⟨[], events, ?_, he, ?_, ?_, ?_, ?_⟩
  · rw [history_of_books hb, List.append_nil]
  · rw [countLevel_eq, hlevels, List.count_replicate_self]
    exact (Nat.zero_add _).symm
  · rw [countLevel_eq, hlevels, List.count_replicate]
    rfl
  · rw [hm, List.any_nil, Bool.or_false]
  · rw [hm]

end AddsUp

/-! ## What the manager does -/

section Manager
variable (w : World δ)

theorem hook_suffix : w.hook.manager.roster.suffix = w.manager.roster.suffix := by
  rw [hook_roster]

theorem hookActs_tally :
    countLevel .error w.hookEvents = Act.total Act.failedInvocations w.hookActs +
        Act.total Act.failedHooks w.hookActs ∧
      countLevel .warn w.hookEvents = 0 ∧ Act.total Act.rejections w.hookActs = 0 := by
  unfold hookEvents hookActs
  split
  · exact ⟨rfl, rfl, rfl⟩
  · cases w.installer.failNext <;> exact ⟨rfl, rfl, rfl⟩

theorem lateRefusals_hookActs (suffix : String) (loaded : Bool) :
    lateRefusals suffix loaded w.hookActs = 0 ∧ w.hookActs.any Act.loads = false := by
  unfold hookActs
  split <;> exact ⟨rfl, rfl⟩

theorem hook_addsUp : AddsUp 0 w w.hook := by
  obtain ⟨herrors, hwarnings, hrejections⟩ := w.hookActs_tally
  obtain ⟨hlate, hloads⟩ := w.lateRefusals_hookActs w.manager.roster.suffix w.manager.storyLoaded
  refine ⟨w.hookActs, w.hookEvents, w.hook_history, w.hook_events, herrors, ?_, ?_, w.hook_suffix⟩
  · rw [hwarnings, hrejections, hlate]
  · rw [hook_storyLoaded, hloads, Bool.or_false]

theorem lateEvents_tally (signature : Signature) :
    countLevel .error (w.lateEvents signature) = 0 ∧
      countLevel .warn (w.lateEvents signature) =
        if (signature.resolve w.manager.roster.suffix w.symbols).isOk = false then 1 else 0 := by
  unfold lateEvents Roster.resolve
  cases signature.resolve w.manager.roster.suffix w.symbols <;> exact ⟨rfl, rfl⟩

theorem subscribe_addsUp (signature : Signature) (handler : HandlerRef) :
    AddsUp 0 w (w.subscribe signature handler).2 := by
  have hadded : (Event.subscriberAdded signature handler).Quiet := rfl
  obtain ⟨haddedErrors, haddedWarnings⟩ :=
    countLevel_of_quiet (List.forall_mem_singleton.mpr hadded)
  obtain ⟨herrors, hwarnings, hrejections⟩ := w.hookActs_tally
  obtain ⟨hlate, hloads⟩ := w.lateRefusals_hookActs w.manager.roster.suffix w.manager.storyLoaded
  obtain ⟨hlateErrors, hlateWarnings⟩ := w.lateEvents_tally signature
  refine ⟨_, _, w.subscribe_history signature handler, w.subscribe_events signature handler,
    ?_, ?_, ?_, w.subscribe_suffix signature handler⟩
  all_goals unfold lateActs
  · rw [← List.singleton_append, countLevel_append, haddedErrors]
    split
    · rw [countLevel_append, herrors, hlateErrors]
      simp [Act.failedInvocations, Act.failedHooks]
    · rfl
  · rw [← List.singleton_append, countLevel_append, haddedWarnings]
    split
    · next hloaded =>
      rw [countLevel_append, hwarnings, hlateWarnings, lateRefusals, hlate]
      simp [Act.rejections, hrejections, hloaded]
    · next hloaded =>
      simp [countLevel, lateRefusals, Act.rejections, hloaded]
  · rw [subscribe_storyLoaded, List.any_cons]
    split
    · rw [hloads]
      exact (Bool.or_false _).symm
    · exact (Bool.or_false _).symm

theorem loadRefusals_tally (report : ResolutionReport) :
    let events := report.rejected.map (fun rejected => Event.loadRefusal rejected.2) ++
      [.subscribersResolved report.registered report.rejected.length]
    countLevel .error events = 0 ∧ countLevel .warn events = report.rejected.length := by
  intro events
  constructor
  · simp [events, countLevel, Event.level, List.countP_map, Function.comp_def]
  · simp [events, countLevel, Event.level, List.countP_map, Function.comp_def]

theorem loadStory_addsUp : AddsUp 0 w w.loadStory.2 := by
  obtain ⟨herrors, hwarnings, hrejections⟩ := w.hookActs_tally
  obtain ⟨hlate, hloads⟩ := w.lateRefusals_hookActs w.manager.roster.suffix w.manager.storyLoaded
  obtain ⟨hloadErrors, hloadWarnings⟩ := loadRefusals_tally w.loadStory.1
  have hh := w.loadStory_history
  rw [List.append_assoc] at hh
  refine ⟨_, _, hh, w.loadStory_events, ?_, ?_, ?_, w.loadStory_suffix⟩
  · rw [countLevel_append, herrors, hloadErrors]
    simp [Act.failedInvocations, Act.failedHooks]
  · rw [countLevel_append, hwarnings, hloadWarnings, lateRefusals_append, hlate]
    simp [hrejections, Act.rejections, lateRefusals]
  · rw [loadStory_storyLoaded, List.any_append]
    simp [Act.loads]

end Manager

end World

/-! ## Requests to one machine alone -/

/-- What one kind of machine is asked for on its own reports no failure but those of a subscription,
and neither does its shutdown. -/
class ReportingOwn (δ : Type) [Dialect δ] [OwnDialect δ] : Prop where
  own_addsUp (request : OwnStep Step) (w : World δ) :
    w.AddsUp 0 (OwnDialect.perform request w).2
  shutDown_quiet (m : Machine δ) : ∀ event ∈ OwnDialect.shutDownEvents m, event.Quiet

instance : ReportingOwn Recording where
  own_addsUp request w := by
    cases request <;> exact .of_books rfl rfl
  shutDown_quiet _ := List.forall_mem_nil _

theorem World.reportAll_scriptEvents (w : World LuaState) (completed : Bool) :
    w.AddsUp 0 (w.reportAll (scriptEvents completed)) := by
  refine .of_quiet rfl rfl rfl rfl fun event he => ?_
  obtain ⟨_, rfl⟩ := List.mem_ite_nil_right.mp he |>.imp_right List.mem_singleton.mp
  exact rfl

instance : ReportingOwn LuaState where
  own_addsUp request w := by
    cases request with
    | register args direct =>
      obtain ⟨functions, h | ⟨_, handler, u, signature, completed, hs, h⟩⟩ :=
        w.runRegister_cases args direct
      · exact .of_books ((congrArg World.books h).trans rfl) ((congrArg World.events h).trans rfl)
      · have hstored : w.AddsUp 0 u := by
          obtain ⟨_, _, rfl⟩ := World.storeHandler?_cases hs
          exact .of_books rfl rfl
        have hsubscribed := hstored.andThen (u.subscribe_addsUp signature handler)
        exact h.symm ▸ hsubscribed.andThen (World.reportAll_scriptEvents _ completed)
    | script sample direct =>
      obtain ⟨completed, h⟩ := w.runSample_eq sample direct
      exact h.symm ▸ w.reportAll_scriptEvents completed
    | reinstall global mark orphan =>
      obtain ⟨_, h⟩ := w.reinstall_eq global mark orphan
      exact .of_books ((congrArg World.books h).trans rfl) ((congrArg World.events h).trans rfl)
    | leaveBehind | reject | describeMachine => exact .of_books rfl rfl
  shutDown_quiet m event he := by
    obtain ⟨_, rfl⟩ := List.mem_ite_nil_right.mp he |>.imp_right List.mem_singleton.mp
    exact rfl

/-! ## Invocations, firings and steps -/

/-- The number of failed invocations that an outcome makes: one, unless the handler completed. -/
def HandlerOutcome.failures (outcome : HandlerOutcome) : Nat :=
  if outcome = .completed then 0 else 1

theorem HandlerOutcome.reported_levels (outcome : HandlerOutcome) :
    (if outcome = .completed then [] else [Level.error]) =
      .replicate outcome.failures .error := by
  unfold failures
  split <;> rfl

/-- A step asks for the guard to run a handler, without a firing. -/
def Step.guards : Step → Bool
  | .stack (.guard ..) => true
  | _ => false

/-- The steps that have the guard run handlers only by way of a firing. -/
def unguarded : Step → Prop := fun s => s.guards = false

instance : DecidablePred unguarded := fun s => inferInstanceAs (Decidable (s.guards = false))

namespace World

variable {δ : Type} [Dialect δ] {perform : Perform δ}

/-- What is reported adds up, as long as every firing in progress has its level. -/
def Accounted (w v : World δ) : Prop := KeepsSound w v ∧ (w.Sound → w.AddsUp 0 v)

theorem Accounted.along : Along (Accounted : World δ → World δ → Prop) where
  trans h h' := ⟨h.1.trans h'.1, fun hw => (h.2 hw).andThen (h'.2 (h.1 hw).1)⟩
  noted hb _ he _ := ⟨keeps_kept.books hb, fun _ => .of_books hb he⟩

theorem Accounted.keeping (hp : Keeping Accounted perform) : Keeping KeepsSound perform :=
  fun s w answer v h => (hp s w answer v h).1

/-- A firing that gives its snapshot back makes its failed invocations part of the acts. -/
theorem gaveBack_addsUp {w u : World δ} {key : RouteKey} {invocations : List Invocation}
    (h : (w.began key).AddsUp (invocations.countP fun i => i.outcome ≠ .completed) u) :
    w.AddsUp 0 (u.gaveBack invocations) := by
  obtain ⟨acts, events, ht⟩ := h
  have hloaded : (w.began key).manager.storyLoaded = w.manager.storyLoaded := rfl
  have hsuffix : (w.began key).manager.roster.suffix = w.manager.roster.suffix := rfl
  refine ⟨.firingBegan key (w.manager.roster.handlersFor key) ::
    (acts ++ [.firingEnded invocations]), events, ?_, ht.events_eq, ?_, ?_, ?_, ht.suffix_eq⟩
  · rw [gaveBack_history, ht.history_eq, began_history]
    simp only [List.append_assoc, List.cons_append, List.nil_append]
  · rw [ht.errors_eq]
    simp only [Act.total, Act.total_append, Act.failedInvocations, Act.failedHooks]
    omega
  · rw [ht.warnings_eq, hloaded, hsuffix, ← List.singleton_append, lateRefusals_append,
      lateRefusals_append]
    simp [Act.rejections, Act.loads, lateRefusals]
  · have hgave : (u.gaveBack invocations).manager.storyLoaded = u.manager.storyLoaded := rfl
    rw [hgave, ht.storyLoaded_eq, hloaded]
    simp [Act.loads]

section Invocation
variable (hp : Keeping Accounted perform) {w v : World δ} (hw : w.Sound)
include hp hw

/-- The guard reports an invocation that did not complete as one error, beside what its body
reports. -/
theorem guard_addsUp {handler : HandlerRef} {args : Arguments} {outcome : HandlerOutcome}
    (h : guard perform handler args w = some (outcome, v)) : w.AddsUp outcome.failures v := by
  obtain ⟨events, hlevels, hcases⟩ := guard_cases h
  rw [outcome.reported_levels] at hlevels
  rcases hcases with ⟨_, rfl⟩ | ⟨callable, arguments, ending, u, hrun, rfl⟩
  · exact .of_reported rfl rfl hlevels
  · obtain ⟨_, hbody⟩ := bodies_carried Accounted.along hp callable arguments ending _ u hrun
    have hentered : w.AddsUp 0 (w.setMachine w.machine.enter) := .of_books rfl rfl
    have hbodyEnded := hentered.andThen (hbody ⟨hw.depth_le, hw.routed⟩)
    exact hbodyEnded.andThen (.of_reported rfl rfl hlevels)

/-- So do handlers in turn, as many times as one of them did not complete. -/
theorem invokeEach_addsUp {args : Arguments} {handlers : List HandlerRef}
    {invocations : List Invocation}
    (h : invokeEach perform args handlers w = some (invocations, v)) :
    w.AddsUp (invocations.countP fun i => i.outcome ≠ .completed) v := by
  induction handlers generalizing w invocations with
  | nil => cases h; exact .refl _
  | cons handler handlers ih =>
    rw [invokeEach] at h
    split at h
    · cases h
    · next outcome u hg =>
      split at h
      · cases h
      · next rest _ hrest =>
        cases h
        obtain ⟨hu, _⟩ := guard_kept keeps_kept (Accounted.keeping hp) hg hw
        have hboth := (guard_addsUp hp hw hg).trans (ih hu hrest)
        have hcount : outcome.failures + rest.countP (fun i => i.outcome ≠ .completed) =
            (⟨handler, outcome⟩ :: rest).countP fun i : Invocation => i.outcome ≠ .completed := by
          rw [List.countP_cons, Nat.add_comm, HandlerOutcome.failures]
          by_cases ho : outcome = .completed <;> simp [ho]
        rwa [hcount] at hboth

theorem runHandlers_addsUp {key : RouteKey} {args : Arguments}
    {result : Except OutOfOrder (List Invocation)}
    (h : runHandlers perform key args w = some (result, v)) : w.AddsUp 0 v := by
  by_cases hf : w.Fires key
  · obtain ⟨handlers, _, hrun⟩ := hw.runHandlers_eq (Accounted.keeping hp) key args
    rw [hrun hf] at h
    obtain ⟨done, hi, he⟩ := Option.map_eq_some_iff.mp h
    cases he
    exact gaveBack_addsUp (invokeEach_addsUp hp (hw.began key) hi)
  · rw [runHandlers_of_not_fires hf] at h
    cases h
    split
    · exact .refl w
    · exact .of_quiet rfl rfl rfl rfl (List.forall_mem_singleton.mpr rfl)

/-- What a step reports adds up, if what the steps of bodies report does. -/
theorem step_addsUp [OwnDialect δ] [ReportingOwn δ] {s : Step} {answer : Answer}
    (ha : unguarded s) (h : step perform s w = some (answer, v)) : w.AddsUp 0 v := by
  cases s with
  | fire | run =>
    rcases step_of_fires rfl h with rfl | ⟨_, _, _, hr⟩
    · exact .refl _
    · exact runHandlers_addsUp hp hw hr
  | define | remove | clearSymbols | failNextInstall =>
    cases h
    exact .of_silent rfl rfl rfl rfl
  | addHandler body =>
    simp only [step] at h
    split at h
    · cases h; exact .of_books rfl rfl
    · next hs =>
      obtain ⟨_, _, rfl⟩ := storeHandler?_cases hs
      cases h
      exact .of_books rfl rfl
  | subscribe signature handler =>
    simp only [step, whileManaged] at h
    split at h <;> cases h
    · exact w.subscribe_addsUp signature handler
    · exact .refl _
  | loadStory viaManager =>
    simp only [step, whileManaged] at h
    split at h
    · cases viaManager <;> cases h
      · let counted : World δ := { w with generation := w.generation + 1 }
        have hcounted : w.AddsUp 0 (counted.report (.storyLoaded counted.generation)) :=
          .of_quiet rfl rfl rfl rfl (List.forall_mem_singleton.mpr rfl)
        exact hcounted.andThen (loadStory_addsUp _)
      · exact w.loadStory_addsUp
    · cases h; exact .refl _
  | setMerging merging viaManager =>
    simp only [step, whileManaged] at h
    split at h <;> cases h
    · exact .of_quiet rfl rfl rfl rfl (List.forall_mem_singleton.mpr rfl)
    · exact .refl _
  | hook =>
    simp only [step, whileManaged] at h
    split at h <;> cases h
    · exact w.hook_addsUp
    · exact .refl _
  | countHandlers | describe =>
    simp only [step, whileManaged] at h
    split at h <;> cases h <;> exact .refl _
  | shutDown =>
    cases h
    exact .of_quiet rfl rfl rfl rfl (ReportingOwn.shutDown_quiet _)
  | drop =>
    cases h
    have hm := w.dropManager_manager
    exact .of_silent w.dropManager_history (congrArg Manager.storyLoaded hm)
      (congrArg (fun m => m.roster.suffix) hm) w.dropManager_events
  | stack request =>
    simp only [step] at h
    split at h
    · cases request with
      | guard handler args => cases ha
      | call count =>
        have hcall {result : CallResult} {u : World δ}
            (hc : call perform count w = some (result, u)) : w.AddsUp 0 u := by
          cases calls_of_call hc with
          | refused | notCallable | noRoom => exact .of_books rfl rfl
          | @ran _ machine _ _ _ _ _ _ hrun =>
            obtain ⟨_, hbody⟩ := bodies_carried Accounted.along hp _ _ _ _ _ hrun
            have hentered : w.AddsUp 0 (w.setMachine machine.enter) := .of_books rfl rfl
            have hended := hentered.andThen (hbody ⟨hw.depth_le, hw.routed⟩)
            exact hended.andThen (.of_books rfl rfl)
        simp only [stackStep] at h
        split at h
        · cases h
        all_goals next hc => cases h; exact hcall hc
      | depth | pop count => cases h; exact .of_books rfl rfl
      | check slots | topText =>
        simp only [stackStep] at h
        split at h <;> cases h <;> exact .refl _
      | pushHandler handler | pushValue value =>
        simp only [stackStep, pushed] at h
        split at h <;> cases h <;> exact .of_books rfl rfl
    · cases h; exact .refl _
  | own request =>
    obtain rfl := congrArg Prod.snd (Option.some.inj h)
    exact ReportingOwn.own_addsUp request w

end Invocation

end World

/-! ## Runs -/

section Run
variable {δ : Type} [Dialect δ] [OwnDialect δ] [LawfulOwn δ] [ReportingOwn δ] {w v : World δ}

theorem World.step_accounted {perform : Perform δ} (hp : World.Keeping World.Accounted perform)
    {s : Step} {answer : Answer} (ha : unguarded s)
    (h : World.step perform s w = some (answer, v)) : World.Accounted w v :=
  ⟨World.step_kept World.keeps_kept (World.Accounted.keeping hp) h,
    fun hw => World.step_addsUp hp hw ha h⟩

theorem Course.accounted (h : Course unguarded w v) : World.Accounted w v := by
  induction h with
  | refl w => exact World.Accounted.along.refl w
  | step _ _ ha hs ih hp => exact World.Accounted.along.trans ih (World.step_accounted hp ha hs)

end Run

namespace World

variable {δ : Type} [Dialect δ] [OwnDialect δ] [LawfulOwn δ] [ReportingOwn δ]
  {allowed : Step → Prop} {level : Nat} {w : World δ} {perform : Perform δ}

/-- From any moment of any run on, whatever handlers do: what is reported adds up. There is one
error for each invocation that did not complete, in any firing, and one for each failed attempt to
hook the engine; there is one warning for each subscription that a load rejects, and one for each
that is refused when it is made. Nothing else is reported as either.

The guard reports an invocation that did not complete as one error, beside what the body of the
handler reports, and one that completed not at all. A firing that takes a snapshot notes the
invocations that it ends with, any other ends with none; and a load notes the report that it
answers. -/
theorem reports_match_failures (hw : Moment allowed level w) (hp : Stepwise unguarded perform) :
    (∀ v, Course unguarded w v → w.AddsUp 0 v) ∧
    (∀ handler args outcome v, guard perform handler args w = some (outcome, v) →
      w.AddsUp outcome.failures v ∧
      (outcome = .completed → ∃ callable arguments ending u,
        runCallable perform callable arguments (w.setMachine w.machine.enter) = some (ending, u) ∧
        v.events = u.events ∧ v.history = u.history)) ∧
    (∀ key args result v, runHandlers perform key args w = some (result, v) →
      ∃ invocations, result = .ok invocations ∧
      (w.Fires key → ∃ acts, v.history = w.history ++
        .firingBegan key (w.manager.roster.handlersFor key) ::
          (acts ++ [.firingEnded invocations])) ∧
      (¬ w.Fires key → invocations = [] ∧ v.history = w.history)) ∧
    ∀ viaManager report v,
      step perform (.loadStory viaManager) w = some (.report report, v) →
      v.history = w.history ++ w.hookActs ++ [.loaded w.symbols report] := by
  have hsound := hw.sound.1
  have haccounted : Keeping Accounted perform :=
    fun s u answer v h => (hp s u answer v h).accounted
  have hkeeping := Accounted.keeping haccounted
  refine ⟨fun v hc => hc.accounted.2 hsound, ?_, ?_, ?_⟩
  · intro handler args outcome v hg
    refine ⟨guard_addsUp haccounted hsound hg, ?_⟩
    rintro rfl
    obtain ⟨events, hlevels, ⟨hfailed, _⟩ | ⟨callable, arguments, ending, u, hrun, rfl⟩⟩ :=
      guard_cases hg
    · exact absurd rfl hfailed
    · obtain rfl : events = [] := List.map_eq_nil_iff.mp hlevels
      exact ⟨callable, arguments, ending, u, hrun, List.append_nil _, rfl⟩
  · intro key args result v h
    obtain ⟨invocations, rfl⟩ := runHandlers_ok hkeeping hsound h
    refine ⟨invocations, rfl, ?_, ?_⟩
    · intro hf
      obtain ⟨handlers, _, hrun⟩ := hsound.runHandlers_eq hkeeping key args
      rw [hrun hf] at h
      obtain ⟨⟨_, u⟩, hi, he⟩ := Option.map_eq_some_iff.mp h
      cases he
      obtain ⟨acts, _, ht⟩ := invokeEach_addsUp haccounted (hsound.began key) hi
      refine ⟨acts, ?_⟩
      rw [gaveBack_history, ht.history_eq, began_history]
      simp only [List.append_assoc, List.cons_append, List.nil_append]
    · intro hf
      rw [runHandlers_of_not_fires hf] at h
      cases h
      refine ⟨rfl, ?_⟩
      split <;> rfl
  · intro viaManager report v h
    simp only [step, whileManaged] at h
    split at h
    · cases viaManager <;> cases h
      · exact loadStory_history _
      · exact w.loadStory_history
    · cases h

/-- A bridge whose engine could not be hooked, with a subscription to a symbol that is not there and
a handler that lets the next attempt fail as well, subscribes to another such symbol, loads the
story, fires its own key again and raises an error. -/
def troubled : World Recording :=
  ((Recording.start 8 {}).afterSteps? 1
    [.define "Hit" 1 ⟨.event, ⟨7⟩, none⟩,
      .addHandler ⟨[.failNextInstall, .subscribe ⟨"Miss", 2, .after⟩ ⟨0⟩, .loadStory false,
        .run (.function ⟨7⟩ false) .none], .raises "no", some 1, none⟩,
      .subscribe ⟨"Hit", 1, .before⟩ ⟨0⟩, .subscribe ⟨"Gone", 0, .before⟩ ⟨0⟩,
      .failNextInstall, .loadStory false]).get (by decide +kernel)

/-- Its firing reports three errors, of the attempt, the nested invocation and the outer one; and
three warnings, of the subscription that is made and of the two that the load rejects. -/
theorem troubled_reports_match :
    ∃ v, step (stepOnly unguarded 2) (.run (.function ⟨7⟩ false) .none) troubled =
        some (.dispatched ⟨1, 1⟩, v) ∧
      troubled.AddsUp 0 v ∧
      countLevel .error (v.events.drop troubled.events.length) = 3 ∧
      countLevel .warn (v.events.drop troubled.events.length) = 3 := by
  have hends : (step (stepOnly unguarded 2) (.run (.function ⟨7⟩ false) .none) troubled).map
      (fun done => (done.1, countLevel .error (done.2.events.drop troubled.events.length),
        countLevel .warn (done.2.events.drop troubled.events.length))) =
      some (.dispatched ⟨1, 1⟩, 3, 3) := by decide +kernel
  obtain ⟨⟨answer, v⟩, hs, he⟩ := Option.map_eq_some_iff.mp hends
  obtain ⟨rfl, hcounts⟩ := Prod.mk.inj he
  obtain ⟨herrors, hwarnings⟩ := Prod.mk.inj hcounts
  have hw : Moment anyStep 0 troubled := Moment.get _
  have hp : Stepwise unguarded (stepOnly unguarded 2 : Perform Recording) := stepOnly_stepwise _ 2
  obtain ⟨hruns, _⟩ := reports_match_failures hw hp
  exact ⟨v, hs, hruns v (.single hp (show Step.guards _ = false from rfl) hs), herrors, hwarnings⟩

end World

end StoryHooks
