import StoryHooks.Proofs.ScriptStack

/-!
# Room for an invocation

A handler is skipped if the stack has no room for it and its arguments. A body runs on the stack
that the guard found, so nesting takes no room away: wherever a run has got to, a handler finds the
room that was there when the outermost firing began.

Results:
1. `sameStack_of_momentFrom`: the stack is the same at every moment of a run that spares it.
2. `SameStack.guard_skipped_iff`: a handler is skipped exactly if it would have been at the start.
3. `skips_are_local`: so are all handlers of a firing at any depth, and no body is entered then.
-/

namespace StoryHooks

open Script

variable {δ : Type} [Dialect δ]

namespace Script.Machine

variable {m : Machine δ} {slots : Nat} (h : m.depth + slots < UInt64.size)
include h

/-- As long as slots can be counted, all that are asked for are. -/
theorem checkStack_eq :
    m.checkStack slots =
      if m.limit < m.depth + slots then .error (.stackExhausted (m.depth + slots) m.limit)
      else .ok () := by
  have hmin : min (m.depth + slots) maxSlots = m.depth + slots :=
    Nat.min_eq_left (Nat.le_sub_one_of_lt h)
  rw [checkStack, hmin]

/-- They are refused exactly if there are too few of them. -/
theorem checkStack_eq_error_iff :
    m.checkStack slots = .error (.stackExhausted (m.depth + slots) m.limit) ↔
      m.limit < m.depth + slots := by
  rw [checkStack_eq h]
  by_cases hlimit : m.limit < m.depth + slots <;> simp [hlimit]

end Script.Machine

namespace World

variable {perform : Perform δ} {handler : HandlerRef} {args : Arguments} {u v w : World δ}

/-! ## The guard and the room it asks for -/

/-- A handler without room is reported, and nothing else happens. -/
theorem guard_of_refused {e : MachineError}
    (h : w.machine.checkStack (1 + args.count) = .error e) :
    guard perform handler args w =
      some (.skipped e, w.report (.handlerSkipped handler (1 + args.count) e)) := by
  simp only [guard, h]

/-- No handler is skipped for any other reason. -/
theorem guard_skipped_iff {outcome : HandlerOutcome}
    (h : guard perform handler args w = some (outcome, v)) (e : MachineError) :
    outcome = .skipped e ↔ w.machine.checkStack (1 + args.count) = .error e := by
  cases hs : w.machine.checkStack (1 + args.count) with
  | error refusal =>
    rw [guard_of_refused hs] at h
    cases h
    constructor <;> rintro ⟨⟩ <;> rfl
  | ok room =>
    refine iff_of_false ?_ nofun
    rintro rfl
    simp only [guard, hs] at h
    split at h
    · obtain ⟨_, _, hout⟩ := faultOut_eq (w.setMachine _) handler w.machine.depth _
      rw [hout] at h
      cases h
    · split at h
      · cases h
      · cases h
      · cases h
      · next fault u _ =>
        obtain ⟨_, _, hout⟩ := faultOut_eq u handler w.machine.depth fault.message
        rw [hout] at h
        cases h

/-- A body starts on the stack that the guard found. -/
theorem GuardStarts.machine_eq (h : w.GuardStarts handler args v) :
    v.machine = w.machine.enter := by
  obtain ⟨_, hm, hc⟩ := h
  obtain ⟨hd, _, _, _⟩ := hc
  obtain ⟨stored, slots, _, hslots, rfl⟩ := Machine.marshal_of_none hm
  rw [← hslots.length_eq] at hd
  rcases w.machine.detach_marshalled (Dialect.handlerSlot handler stored) slots with
    ⟨_, hfault⟩ | htaken
  · cases hfault.symm.trans hd
  · cases htaken.symm.trans hd
    rfl

/-- Without room no body starts. -/
theorem not_guardStarts_of_refused {e : MachineError}
    (h : w.machine.checkStack (1 + args.count) = .error e) : ¬ w.GuardStarts handler args v := by
  rintro ⟨hs, _, _⟩
  cases h.symm.trans hs

/-! ## The room there was at the start -/

/-- How a handler is refused that asks for room for these arguments and itself above the stack of
`w`. -/
def refusal (w : World δ) (args : Arguments) : MachineError :=
  .stackExhausted (w.machine.depth + 1 + args.count) w.machine.limit

namespace SameStack

variable (h : w.SameStack u)
include h

theorem report (event : Event) : w.SameStack (u.report event) := h.trans ⟨rfl, rfl⟩

theorem checkStack_iff (hsmall : w.machine.depth + 1 + args.count < UInt64.size) :
    u.machine.checkStack (1 + args.count) = .error (w.refusal args) ↔
      w.machine.limit < w.machine.depth + 1 + args.count := by
  have hroom := Nat.add_assoc w.machine.depth 1 args.count
  rw [hroom, ← h.depth_eq] at hsmall
  rw [refusal, hroom, ← h.depth_eq, ← h.limit_eq]
  exact Machine.checkStack_eq_error_iff hsmall

section Small
variable (hsmall : w.machine.depth + 1 + args.count < UInt64.size)
include hsmall

/-- A handler that the guard has run was skipped exactly if the stack of `w` has no room for it. -/
theorem guard_skipped_iff {outcome : HandlerOutcome}
    (hg : guard perform handler args u = some (outcome, v)) :
    outcome = .skipped (w.refusal args) ↔ w.machine.limit < w.machine.depth + 1 + args.count :=
  (World.guard_skipped_iff hg _).trans (h.checkStack_iff hsmall)

variable (hfull : w.machine.limit < w.machine.depth + 1 + args.count)
include hfull

theorem guard_eq (perform : Perform δ) (handler : HandlerRef) :
    guard perform handler args u = some (.skipped (w.refusal args),
      u.report (.handlerSkipped handler (1 + args.count) (w.refusal args))) :=
  guard_of_refused ((h.checkStack_iff hsmall).mpr hfull)

theorem not_guardStarts : ¬ u.GuardStarts handler args v :=
  not_guardStarts_of_refused ((h.checkStack_iff hsmall).mpr hfull)

/-- Where there is no room, handlers are skipped and reported in turn, and nothing else happens. -/
theorem invokeEach_eq (perform : Perform δ) (handlers : List HandlerRef) :
    invokeEach perform args handlers u =
      some (handlers.map fun handler => ⟨handler, .skipped (w.refusal args)⟩,
        u.reportAll (handlers.map fun handler =>
          .handlerSkipped handler (1 + args.count) (w.refusal args))) := by
  induction handlers generalizing u with
  | nil => rw [List.map_nil, List.map_nil, reportAll_nil, invokeEach]
  | cons handler handlers ih =>
    rw [invokeEach, h.guard_eq hsmall hfull]
    dsimp only
    rw [ih (h.report _)]
    dsimp only
    rw [report_reportAll, List.map_cons, List.map_cons]

end Small

end SameStack

/-! ## Any firing at any depth -/

section Moment
variable [OwnDialect δ] [SparingOwn δ] {outer level : Nat}

/-- The stack is the same at every moment of a run whose steps spare it. -/
theorem sameStack_of_momentFrom (hu : MomentFrom (sparing w.machine.slots) w level u) :
    w.SameStack u := by
  refine hu.keeps (I := fun _ => w.SameStack) (carriedBy_sparing w.machine.slots) ?_ ?_ ?_ ?_
    (.of_machine_eq rfl)
  · exact fun hkeeps h => h.trans (hkeeps h.slots_eq)
  · exact fun _ h => h.trans (.of_machine_eq rfl)
  · intro _ u v handler args hs h
    have hv : u.SameStack v := by constructor <;> rw [hs.machine_eq] <;> rfl
    exact h.trans hv
  · exact fun ha => nomatch ha

/-- Handlers that run in turn where the stack is that of `w` are skipped exactly if it has no room
for them, whatever the earlier ones do. -/
theorem invokeEach_skipped_iff (hp : Stepwise (sparing w.machine.slots) perform)
    (hu : w.SameStack u) (hsmall : w.machine.depth + 1 + args.count < UInt64.size)
    {handlers : List HandlerRef} {invocations : List Invocation}
    (h : invokeEach perform args handlers u = some (invocations, v)) :
    ∀ i ∈ invocations, (i.outcome = .skipped (w.refusal args) ↔
      w.machine.limit < w.machine.depth + 1 + args.count) := by
  have hR := carriedBy_sparing w.machine.slots
  have heach := invokeEach_each (I := w.SameStack) (P := fun outcome =>
    outcome = .skipped (w.refusal args) ↔ w.machine.limit < w.machine.depth + 1 + args.count)
    ?_ hu h
  · exact heach.1
  · intro handler u outcome v hu hg
    have hv : u.SameStack v := guard_carried hR.toCarried (hp.carried hR) hg hu.slots_eq
    exact ⟨hu.guard_skipped_iff hsmall hg, hu.trans hv⟩

/-- Wherever a run has got to on from `w`, by steps that spare the stack: the stack is that of `w`,
and a body that starts finds it so. A handler that is about to run with some arguments is skipped
exactly if the stack of `w` has no room for it and them; then its body is not entered. The same goes
for all handlers of a firing, each of which is attempted: without room the firing ends with the
skips and their reports, and has done nothing else. -/
theorem skips_are_local [LawfulOwn δ] (hw : Moment anyStep outer w)
    (hu : MomentFrom (sparing w.machine.slots) w level u)
    (hp : Stepwise (sparing w.machine.slots) perform) :
    u.machine.slots = w.machine.slots ∧
    (∀ handler args v, u.GuardStarts handler args v → v.machine.slots = w.machine.slots) ∧
    ∀ args : Arguments, w.machine.depth + 1 + args.count < UInt64.size →
      let e := MachineError.stackExhausted (w.machine.depth + 1 + args.count) w.machine.limit
      let full := w.machine.limit < w.machine.depth + 1 + args.count
      (∀ handler,
        (∀ outcome v, guard perform handler args u = some (outcome, v) →
          (outcome = .skipped e ↔ full)) ∧
        (full → guard perform handler args u =
            some (.skipped e, u.report (.handlerSkipped handler (1 + args.count) e)) ∧
          ∀ v, ¬ u.GuardStarts handler args v)) ∧
      ∀ key, u.Fires key → ∃ handlers : List HandlerRef,
        (u.manager.roster.handlersFor key).map u.manager.roster.handler? = handlers.map some ∧
        (∀ result v, runHandlers perform key args u = some (result, v) →
          ∃ invocations, result = .ok invocations ∧
            invocations.map Invocation.handler = handlers ∧
            ∀ i ∈ invocations, (i.outcome = .skipped e ↔ full)) ∧
        (full → runHandlers perform key args u =
          some (.ok (handlers.map fun handler => ⟨handler, .skipped e⟩),
            ((u.began key).reportAll (handlers.map fun handler =>
              .handlerSkipped handler (1 + args.count) e)).gaveBack
                (handlers.map fun handler => ⟨handler, .skipped e⟩))) ∧
        (Finishing perform → runHandlers perform key args u ≠ none) := by
  have hsame := sameStack_of_momentFrom hu
  refine ⟨hsame.slots_eq, ?_, ?_⟩
  · intro handler args v hs
    exact (sameStack_of_momentFrom (hu.body hs)).slots_eq
  intro args hsmall e full
  refine ⟨?_, ?_⟩
  · intro handler
    refine ⟨fun outcome v hg => hsame.guard_skipped_iff hsmall hg, fun hfull => ⟨?_, ?_⟩⟩
    · exact hsame.guard_eq hsmall hfull perform handler
    · exact fun v => hsame.not_guardStarts hsmall hfull
  · intro key hf
    obtain ⟨hsound, _, _⟩ := (hw.after hu).sound
    have hkeeping := (hp.mono fun _ _ => trivial : Stepwise anyStep perform).keeping keeps_kept
    obtain ⟨handlers, hh, hrun⟩ := hsound.runHandlers_eq hkeeping key args
    have hbegan := sameStack_of_momentFrom (hu.began hf)
    refine ⟨handlers, hh, ?_, ?_, ?_⟩
    · intro result v h
      rw [hrun hf] at h
      obtain ⟨done, hi, he⟩ := Option.map_eq_some_iff.mp h
      cases he
      exact ⟨done.1, rfl, invokeEach_handlers hi, invokeEach_skipped_iff hp hbegan hsmall hi⟩
    · intro hfull
      rw [hrun hf, hbegan.invokeEach_eq hsmall hfull]
      rfl
    · intro ht
      exact runHandlers_ne_none ht hkeeping hsound key args

end Moment

/-- A bridge whose stack has room for three slots and holds one value, with two handlers of one key.
The first fires the key again, with two arguments. -/
def nearlyFull : World Recording :=
  ((Recording.start 3 {}).afterSteps? 1
    [.define "Hit" 1 ⟨.event, ⟨7⟩, none⟩,
      .addHandler ⟨[.run (.function ⟨7⟩ false) (.slice [.integer 1, .integer 2])], .returns, some 1,
        none⟩,
      .addHandler ⟨[], .raises "no", none, none⟩,
      .subscribe ⟨"Hit", 1, .before⟩ ⟨0⟩, .subscribe ⟨"Hit", 1, .before⟩ ⟨1⟩, .loadStory false,
      .stack (.pushValue (.integer 5))]).get (by decide +kernel)

theorem moment_nearlyFull : Moment anyStep 0 nearlyFull := Moment.get _

theorem fires_nearlyFull : nearlyFull.Fires (.function ⟨7⟩ false) :=
  ⟨by decide +kernel, by decide +kernel, by decide +kernel⟩

/-- The bridge when a firing of the key has begun. -/
def nearlyFullFiring : World Recording := nearlyFull.began (.function ⟨7⟩ false)

theorem fires_nearlyFullFiring : nearlyFullFiring.Fires (.function ⟨7⟩ false) :=
  ⟨by decide +kernel, by decide +kernel, by decide +kernel⟩

/-- Its firing runs a handler that fires again, and both handlers are skipped there. While the
firing is in progress there is room for one argument and none for two. -/
theorem nearlyFull_skips :
    (runHandlers (stepWithin 2) (.function ⟨7⟩ false) .none nearlyFull).map
      (fun done => done.2.nested.map NestedRecord.answer) = some [.dispatched ⟨2, 2⟩] ∧
    (∃ v, runHandlers (stepWithin 2) (.function ⟨7⟩ false) (.slice [.integer 1, .integer 2])
        nearlyFullFiring = some (.ok [⟨⟨0⟩, .skipped (.stackExhausted 4 3)⟩,
          ⟨⟨1⟩, .skipped (.stackExhausted 4 3)⟩], v)) ∧
    ∃ invocations v, runHandlers (stepWithin 2) (.function ⟨7⟩ false) (.slice [.integer 1])
        nearlyFullFiring = some (.ok invocations, v) ∧
      invocations.map Invocation.handler = [⟨0⟩, ⟨1⟩] ∧
      ∀ i ∈ invocations, i.outcome ≠ .skipped (.stackExhausted 3 3) := by
  have hu : MomentFrom (sparing nearlyFull.machine.slots) nearlyFull 1 nearlyFullFiring :=
    .began .here fires_nearlyFull
  have hextends : Extends (stepOnly (sparing nearlyFull.machine.slots) 2 : Perform Recording)
      (stepWithin 2) :=
    stepOnly_extends _ 2
  obtain ⟨_, _, hskips⟩ := skips_are_local moment_nearlyFull hu
    (stepOnly_stepwise (sparing nearlyFull.machine.slots) 2)
  have hids : (nearlyFullFiring.manager.roster.handlersFor (.function ⟨7⟩ false)).map
      nearlyFullFiring.manager.roster.handler? = [⟨0⟩, ⟨1⟩].map some := by decide +kernel
  have hinj {handlers : List HandlerRef} (h : [⟨0⟩, ⟨1⟩].map some = handlers.map some) :
      handlers = [⟨0⟩, ⟨1⟩] := (List.map_inj_right fun _ _ => Option.some.inj).mp h.symm
  have hdepth : nearlyFull.machine.depth = 1 := by decide +kernel
  have hlimit : nearlyFull.machine.limit = 3 := by decide +kernel
  rw [hdepth, hlimit] at hskips
  refine ⟨by decide +kernel, ?_, ?_⟩
  · obtain ⟨_, hfirings⟩ := hskips (.slice [.integer 1, .integer 2]) (by decide)
    obtain ⟨handlers, hh, _, hrun, _⟩ := hfirings _ fires_nearlyFullFiring
    obtain rfl := hinj (hids.symm.trans hh)
    exact ⟨_, runHandlers_extends hextends (hrun (by decide))⟩
  · obtain ⟨_, hfirings⟩ := hskips (.slice [.integer 1]) (by decide)
    obtain ⟨handlers, hh, hinvoked, _⟩ := hfirings _ fires_nearlyFullFiring
    obtain rfl := hinj (hids.symm.trans hh)
    have hends : (runHandlers (stepOnly (sparing nearlyFull.machine.slots) 2)
        (.function ⟨7⟩ false) (.slice [.integer 1]) nearlyFullFiring).isSome = true := by
      decide +kernel
    obtain ⟨⟨result, v⟩, hr⟩ := Option.isSome_iff_exists.mp hends
    obtain ⟨invocations, rfl, hhandlers, hskipped⟩ := hinvoked _ _ hr
    refine ⟨invocations, v, runHandlers_extends hextends hr, hhandlers, ?_⟩
    intro i hi hskip
    exact absurd ((hskipped i hi).mp hskip) (by decide)

end World

end StoryHooks
