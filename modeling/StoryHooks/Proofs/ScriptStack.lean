import StoryHooks.Proofs.Bookkeeping
import StoryHooks.Proofs.Budget
import StoryHooks.Proofs.Depth
import StoryHooks.Proofs.OwnRequests

/-!
# The script stack

An invocation pushes onto the script stack, and so do the invocations that are nested in it. A body
starts on the stack that the guard of its handler found, and the guard cuts back to that depth
whatever the body has come to. So nothing that bodies do by way of the manager shows on the stack.

Results:
1. `step_machine`: a step that asks nothing of the machine stores handlers there at most.
2. `carriedBy_sparing`: every step that does not address the stack leaves it as it was, if the steps
   of bodies do.
3. `guard_restores_stack`: after an invocation the stack is the one before, however it went.
-/

namespace StoryHooks

open Script

/-- A step spares the slots of the stack: it does not address the stack, and shuts the machine down
only if there are none. -/
def Step.spares {α : Type} (slots : List α) : Step → Bool
  | .stack _ => false
  | .shutDown => slots.isEmpty
  | _ => true

/-- The steps that spare the slots. -/
def sparing {α : Type} (slots : List α) : Step → Prop := fun s => s.spares slots = true

instance {α : Type} (slots : List α) : DecidablePred (sparing slots) :=
  fun s => inferInstanceAs (Decidable (s.spares slots = true))

variable {δ : Type} [Dialect δ]

namespace World

/-- `v` has the stack of `w`: the same slots under the same limit. -/
structure SameStack (w v : World δ) : Prop where
  slots_eq : v.machine.slots = w.machine.slots
  limit_eq : v.machine.limit = w.machine.limit

namespace SameStack

variable {u v w : World δ}

theorem of_machine_eq (h : v.machine = w.machine) : w.SameStack v := by
  constructor <;> rw [h]

theorem trans (hu : w.SameStack u) (hv : u.SameStack v) : w.SameStack v :=
  ⟨hv.slots_eq.trans hu.slots_eq, hv.limit_eq.trans hu.limit_eq⟩

theorem depth_eq (h : w.SameStack v) : v.machine.depth = w.machine.depth :=
  congrArg List.length h.slots_eq

end SameStack

end World

/-! ## Requests to one machine alone -/

/-- What one kind of machine is asked for on its own leaves the stack alone. -/
class SparingOwn (δ : Type) [Dialect δ] [OwnDialect δ] : Prop where
  own_sameStack (request : OwnStep Step) (w : World δ) :
    w.SameStack (OwnDialect.perform request w).2

instance : SparingOwn Recording where
  own_sameStack request w := by
    cases request <;> exact ⟨rfl, rfl⟩

/-- What a Lua machine is asked for stores handlers there and changes its settings at most. -/
theorem LuaState.own_machine (request : OwnStep Step) (w : World LuaState) :
    ∃ handlers stored own, (OwnDialect.perform request w).2.machine =
      { w.machine with handlers, stored, own } := by
  cases request with
  | register args direct =>
    obtain ⟨functions, h | ⟨callable, handler, u, signature, _, hs, h⟩⟩ :=
      w.runRegister_cases args direct
    · exact ⟨_, _, _, (congrArg World.machine h).trans rfl⟩
    · have hsubscribed := (congrArg World.machine h).trans (u.subscribe_machine signature handler)
      obtain ⟨_, _, rfl⟩ := World.storeHandler?_cases hs
      exact ⟨_, _, w.machine.own, hsubscribed⟩
  | script sample direct =>
    obtain ⟨_, h⟩ := w.runSample_eq sample direct
    exact ⟨_, _, _, (congrArg World.machine h).trans rfl⟩
  | reinstall global mark orphan =>
    obtain ⟨own, h⟩ := w.reinstall_eq global mark orphan
    exact ⟨_, _, own, (congrArg World.machine h).trans rfl⟩
  | leaveBehind | reject | describeMachine => exact ⟨_, _, _, rfl⟩

instance : SparingOwn LuaState where
  own_sameStack request w := by
    obtain ⟨_, _, _, h⟩ := LuaState.own_machine request w
    constructor <;> rw [h]

/-! ## Steps that ask nothing of the machine -/

/-- A step asks something of the machine: by way of its stack, in terms of its own, or to shut
down. -/
def Step.asksMachine : Step → Bool
  | .stack _ | .own _ | .shutDown => true
  | _ => false

/-- Any other step that fires nothing stores handlers in the machine at most. -/
theorem World.step_machine [OwnDialect δ] {perform : Perform δ} {s : Step} {w v : World δ}
    {answer : Answer} (hs : s.fires = false) (ha : s.asksMachine = false)
    (h : step perform s w = some (answer, v)) :
    ∃ handlers stored, v.machine = { w.machine with handlers, stored } := by
  cases s with
  | fire | run => cases hs
  | stack | own | shutDown => cases ha
  | define | remove | clearSymbols | failNextInstall => cases h; exact ⟨_, _, rfl⟩
  | addHandler body =>
    simp only [step] at h
    split at h
    · cases h; exact ⟨_, _, rfl⟩
    · next hstored =>
      cases h
      obtain ⟨_, _, rfl⟩ := storeHandler?_cases hstored
      exact ⟨_, _, rfl⟩
  | subscribe signature handler =>
    simp only [step, whileManaged] at h
    split at h <;> cases h
    · exact ⟨_, _, subscribe_machine w signature handler⟩
    · exact ⟨_, _, rfl⟩
  | loadStory viaManager =>
    simp only [step, whileManaged] at h
    split at h
    · cases viaManager <;> cases h
      all_goals exact ⟨_, _, loadStory_machine _⟩
    · cases h; exact ⟨_, _, rfl⟩
  | hook =>
    simp only [step, whileManaged] at h
    split at h <;> cases h
    · exact ⟨_, _, hook_machine w⟩
    · exact ⟨_, _, rfl⟩
  | setMerging | countHandlers | describe =>
    simp only [step, whileManaged] at h
    split at h <;> cases h <;> exact ⟨_, _, rfl⟩
  | drop => cases h; exact ⟨_, _, dropManager_machine w⟩

namespace World

/-! ## What invocations leave -/

/-- From a world with these slots on the stack to one with the same stack. -/
def KeepsSlots (slots : List (Dialect.Slot δ)) (w v : World δ) : Prop :=
  w.machine.slots = slots → w.SameStack v

/-- What a call leaves above the stack on which its body ended is cut off. -/
theorem restore_returned (u : World δ) (ending : Ending) (events : List Event) :
    ((u.returned ending).reportAll events).restore u.machine.depth =
      (u.setMachine u.machine.leave).reportAll events := by
  have hcut := u.machine.leave.restore_append (leftAbove u.machine (u.machine.settle ending))
  exact congrArg (fun machine => (u.setMachine machine).reportAll events) hcut

/-- The guard concludes with a failure unless the body has returned, and leaves the stack on which
it ended. -/
theorem concluded_cases (u : World δ) (handler : HandlerRef) (ending : Ending) :
    ∃ outcome events,
      u.concluded handler u.machine.depth ending =
        (outcome, (u.setMachine u.machine.leave).reportAll events) ∧
      outcome.isFailure = decide (ending ≠ .returns) := by
  simp only [ne_eq, ← u.machine.settle_eq_returns_iff ending]
  cases hs : u.machine.settle ending with
  | returns =>
    refine ⟨.completed, [], ?_, rfl⟩
    rw [← u.restore_returned ending, reportAll_nil]
    simp only [concluded, hs]
  | raises message =>
    refine ⟨.scriptError (u.returned ending).topText,
      [.handlerFailed handler (u.returned ending).topText], ?_, rfl⟩
    rw [← u.restore_returned ending]
    simp only [concluded, hs]
    rfl
  | faults fault =>
    obtain ⟨event, _, hout⟩ :=
      faultOut_eq (u.returned ending) handler u.machine.depth fault.message
    refine ⟨.fault fault.message, [event], ?_, rfl⟩
    rw [← u.restore_returned ending]
    simp only [concluded, hs, hout]
    rfl

section Invocation
variable {slots : List (Dialect.Slot δ)} {perform : Perform δ}

/-- The guard leaves the stack that it found, if the body of the handler leaves the one that it was
started on. -/
theorem guard_keepsSlots (hbodies : BodiesKeeping (KeepsSlots slots) perform)
    {handler : HandlerRef} {args : Arguments} {w v : World δ} {outcome : HandlerOutcome}
    (h : guard perform handler args w = some (outcome, v)) : KeepsSlots slots w v := by
  intro hw
  obtain ⟨events, _, ⟨_, rfl⟩ | ⟨callable, arguments, ending, u, hrun, rfl⟩⟩ := guard_cases h
  · exact ⟨rfl, rfl⟩
  · have hentered : w.SameStack (w.setMachine w.machine.enter) := ⟨rfl, rfl⟩
    have hu : w.SameStack u := hentered.trans (hbodies callable arguments ending _ u hrun hw)
    rw [← hu.depth_eq, restore_returned]
    exact hu.trans ⟨rfl, rfl⟩

theorem finish_machine (snapshot : Snapshot) (invocations : List Invocation) (w : World δ) :
    (finish snapshot invocations w).2.machine = w.machine := by
  unfold finish
  split <;> rfl

variable [OwnDialect δ] [SparingOwn δ]

/-- A step that spares the slots of the stack leaves them there, if the steps of bodies do. -/
theorem carriedBy_sparing (slots : List (Dialect.Slot δ)) :
    CarriedBy (sparing slots) (KeepsSlots slots) where
  trans hu hv hw := (hu hw).trans (hv ((hu hw).slots_eq.trans hw))
  noted _ hm _ _ _ := .of_machine_eq hm
  guard hbodies h := guard_keepsSlots hbodies h
  unavailable _ _ _ := ⟨rfl, rfl⟩
  firing {w _ key} invocations _ hu hw := by
    have hbegan : w.SameStack (w.began key) := ⟨rfl, rfl⟩
    exact (hbegan.trans (hu hw)).trans (.of_machine_eq (finish_machine _ invocations _))
  step {_ s w v _} ha hs _ h hw := by
    cases hm : s.asksMachine with
    | false =>
      obtain ⟨_, _, he⟩ := step_machine hs hm h
      constructor <;> rw [he]
    | true =>
      cases s with
      | stack request => cases ha
      | shutDown =>
        have hnone : slots = [] := List.isEmpty_iff.mp ha
        cases h
        exact ⟨(hw.trans hnone).symm, rfl⟩
      | own request =>
        obtain rfl := congrArg Prod.snd (Option.some.inj h)
        exact SparingOwn.own_sameStack request w
      | _ => cases hm

/-- Whatever is on the stack, whichever handler is asked for and with whatever arguments: an
invocation leaves the slots that it found, in order, whether it completes, ends with a script error
or a fault or is skipped. Its body may do anything, and let other bodies do anything, as long as no
one addresses the stack or shuts down a machine with something on it. It comes to its end if the
steps of bodies do. -/
theorem guard_restores_stack {w : World δ} (hp : Stepwise (sparing w.machine.slots) perform)
    (handler : HandlerRef) (args : Arguments) :
    (∀ outcome v, guard perform handler args w = some (outcome, v) →
      v.machine.slots = w.machine.slots) ∧
    (Finishing perform → guard perform handler args w ≠ none) := by
  have hR := carriedBy_sparing w.machine.slots
  constructor
  · intro outcome v h
    have hsame : w.SameStack v := guard_carried hR.toCarried (hp.carried hR) h rfl
    exact hsame.slots_eq
  · intro ht
    exact guard_ne_none ht handler args w

end Invocation

/-- A bridge with a value on the stack and one handler, which subscribes to its own key, loads the
story, fires the key again and raises an error. A machine that can leaves stray values behind. -/
def laden? [OwnDialect δ] (w : World δ) : Option (World δ) :=
  w.afterSteps? 1
    [.define "Hit" 1 ⟨.event, ⟨7⟩, none⟩,
      .addHandler ⟨[.subscribe ⟨"Hit", 1, .before⟩ ⟨0⟩, .loadStory false,
        .run (.function ⟨7⟩ false) .none], .raises "no", some 1, none⟩,
      .subscribe ⟨"Hit", 1, .before⟩ ⟨0⟩, .loadStory false,
      .stack (.pushValue (.integer 5)), .own (.leaveBehind 2)]

def ladenRecording : World Recording := (laden? (Recording.start 8 {})).get (by decide +kernel)

def ladenLua : World LuaState := (laden? (LuaState.start {} [])).get (by decide +kernel)

/-- The error of the handler, and those of the nested runs, leave the value on either stack. -/
theorem laden_stack_restored :
    ladenRecording.machine.depth = 1 ∧ ladenLua.machine.depth = 1 ∧
    (∃ v, guard (stepWithin 2) ⟨0⟩ .none ladenRecording = some (.scriptError "no", v) ∧
      v.machine.slots = ladenRecording.machine.slots) ∧
    (∃ v, guard (stepWithin 2) ⟨0⟩ .none ladenLua = some (.scriptError "runtime error: no", v) ∧
      v.machine.slots = ladenLua.machine.slots) ∧
    guard (fun _ w => some (.done, w)) ⟨0⟩ .none ladenRecording ≠ none := by
  refine ⟨by decide +kernel, by decide +kernel, ?_, ?_, ?_⟩
  · have hends : (guard (stepOnly (sparing ladenRecording.machine.slots) 2) ⟨0⟩ .none
        ladenRecording).map Prod.fst = some (.scriptError "no") := by decide +kernel
    obtain ⟨⟨_, v⟩, hg, rfl⟩ := Option.map_eq_some_iff.mp hends
    refine ⟨v, guard_extends (stepOnly_extends _ 2) hg, ?_⟩
    exact (guard_restores_stack (stepOnly_stepwise _ 2) ⟨0⟩ .none).1 _ v hg
  · have hends : (guard (stepOnly (sparing ladenLua.machine.slots) 2) ⟨0⟩ .none ladenLua).map
        Prod.fst = some (.scriptError "runtime error: no") := by decide +kernel
    obtain ⟨⟨_, v⟩, hg, rfl⟩ := Option.map_eq_some_iff.mp hends
    refine ⟨v, guard_extends (stepOnly_extends _ 2) hg, ?_⟩
    exact (guard_restores_stack (stepOnly_stepwise _ 2) ⟨0⟩ .none).1 _ v hg
  · have hidle : Stepwise (sparing ladenRecording.machine.slots)
        (fun _ w => some (.done, w) : Perform Recording) := by
      intro s w answer v h
      cases h
      exact .refl w
    exact (guard_restores_stack hidle ⟨0⟩ .none).2 fun _ _ => Option.some_ne_none _

end World

end StoryHooks
