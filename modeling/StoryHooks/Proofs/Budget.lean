import StoryHooks.Proofs.Moment

/-!
# Limits to nesting

A run that does not come to its end, because the budget is used up or because a step comes up that
is not allowed, leaves nothing behind. So a limit decides whether there is an end, and not which.

Results:
1. `step_extends`: a step that comes to its end does so too where more steps of bodies do.
2. `stepWithin_mono`: a larger budget changes nothing.
3. `stepOnly_extends`: nor does lifting a ban on steps that do not come up.
-/

namespace StoryHooks

open Script

namespace World

variable {δ : Type} [Dialect δ]

/-- What comes to an end in the first way comes to the same end in the second. -/
def Extends (perform perform' : Perform δ) : Prop :=
  ∀ (s : Step) (w : World δ) (done : Answer × World δ),
    perform s w = some done → perform' s w = some done

section Extends
variable {perform perform' : Perform δ} (hle : Extends perform perform') {w : World δ}
include hle

theorem Extends.follows : Follows anyStep (fun _ => True) perform perform' where
  agrees _ h := hle _ _ _ h
  noted _ _ _ _ := trivial
  guarded _ _ _ := trivial
  body _ _ := trivial
  called _ _ _ := trivial

theorem guard_extends {handler : HandlerRef} {args : Arguments} {done : HandlerOutcome × World δ}
    (h : guard perform handler args w = some done) :
    guard perform' handler args w = some done :=
  hle.follows.guard_eq trivial h

theorem runHandlers_extends {key : RouteKey} {args : Arguments}
    {done : Except OutOfOrder (List Invocation) × World δ}
    (h : runHandlers perform key args w = some done) :
    runHandlers perform' key args w = some done :=
  hle.follows.runHandlers_eq (fun _ => trivial) h

/-- A step that comes to its end does so too where more steps of bodies do. -/
theorem step_extends [OwnDialect δ] {s : Step} {done : Answer × World δ}
    (h : step perform s w = some done) : step perform' s w = some done :=
  hle.follows.step_eq (fun _ _ _ => trivial) (fun _ => trivial) trivial h

end Extends

/-! ## Budgets -/

variable [OwnDialect δ]

theorem stepWithin_succ (budget : Nat) :
    Extends (stepWithin budget : Perform δ) (stepWithin (budget + 1)) := by
  induction budget with
  | zero => intro s w done h; cases h
  | succ budget ih => intro s w done h; exact step_extends ih h

/-- What ends within a budget ends so within any larger one. -/
theorem stepWithin_mono {budget budget' : Nat} (h : budget ≤ budget') :
    Extends (stepWithin budget : Perform δ) (stepWithin budget') := by
  induction h with
  | refl => exact fun _ _ _ hs => hs
  | step _ ih => exact fun s w done hs => stepWithin_succ _ s w done (ih s w done hs)

/-- What ends by steps of an allowed kind ends so when all are allowed. -/
theorem stepOnly_extends (allowed : Step → Prop) [DecidablePred allowed] (budget : Nat) :
    Extends (stepOnly allowed budget : Perform δ) (stepWithin budget) := by
  induction budget with
  | zero => intro s w done h; cases h
  | succ budget ih =>
    intro s w done h
    obtain ⟨_, hs⟩ := Option.ite_none_right_eq_some.mp h
    exact step_extends ih hs

end World

end StoryHooks
