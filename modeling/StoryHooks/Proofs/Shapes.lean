import StoryHooks.Proofs.Circle
import StoryHooks.Proofs.Firing

/-!
# Shapes of arguments

A ring, a chain and a plain sequence of the same values cannot be told apart by what a firing does.

Results:
1. `Conveys.values_eq`: whatever the shape, the walk gives the values.
2. `runHandlers_congr`: a firing depends on the values of its arguments and on nothing else of them.
3. `shape_makes_no_difference`: so every shape makes for the same firing.
-/

namespace StoryHooks

/-- The links of the chain of a list hold the values of the list. No chain stands for no values. -/
theorem Chain.values_ofList? (values : List Value) :
    (Arguments.ofChain? (Chain.ofList? values)).values = values := by
  induction values with
  | nil => rfl
  | cons value values ih =>
    rw [Chain.ofList?]
    cases hrest : Chain.ofList? values with
    | none =>
      rw [hrest] at ih
      obtain rfl : [] = values := ih
      rfl
    | some rest =>
      rw [hrest] at ih
      exact congrArg (value :: ·) ih

namespace Arguments

/-- The ways to hand over a sequence of values: as it is; as a ring, however it came to be; or as a
chain. An empty sequence may come as a ring of none or without a ring, and comes without a chain. -/
inductive Conveys (values : List Value) : Arguments → Prop
  | slice : Conveys values (.slice values)
  | ring {edits : List Ring.Edit} :
      Ring.contents edits = values → Conveys values (.ofRing? (some (Ring.edited edits)))
  | noRing : values = [] → Conveys values (.ofRing? Option.none)
  | chain : Conveys values (.ofChain? (Chain.ofList? values))

theorem Conveys.values_eq {values : List Value} {args : Arguments} (h : Conveys values args) :
    args.values = values := by
  cases h with
  | slice => rfl
  | ring hedits => rw [← hedits]; exact Ring.toList_edited _
  | noRing hempty => exact hempty.symm
  | chain => exact Chain.values_ofList? values

end Arguments

namespace World

open Script

variable {δ : Type} [Dialect δ] {perform : Perform δ} {args args' : Arguments}
  (h : args.values = args'.values)
include h

/-- The guard makes room for the values, and passes them. -/
theorem guard_congr (handler : HandlerRef) (w : World δ) :
    guard perform handler args w = guard perform handler args' w := by
  simp only [guard, Arguments.count, h]

theorem runLevel_congr (snapshot : Snapshot) (budget position : Nat) (w : World δ) :
    runLevel perform snapshot args budget position w =
      runLevel perform snapshot args' budget position w := by
  induction budget generalizing position w with
  | zero => rfl
  | succ budget ih =>
    simp only [runLevel, guard_congr h, ih]

/-- A firing depends on the values of its arguments and on nothing else of them. -/
theorem runHandlers_congr (key : RouteKey) (w : World δ) :
    runHandlers perform key args w = runHandlers perform key args' w := by
  simp only [runHandlers, runLevel_congr h]

end World

open World

/-- Every shape of a sequence gives its values, each time that they are walked through, and their
number. A firing ends in the same way and leaves the same world behind whatever the shape of its
arguments is, and so does a call of the engine: the same calls, reports and routes, and the same of
all that the handlers do meanwhile. -/
theorem shape_makes_no_difference {values : List Value} {args args' : Arguments}
    (h : args.Conveys values) (h' : args'.Conveys values) :
    args.values = values ∧ args.count = values.length ∧
    ∀ (δ : Type) [Script.Dialect δ] (perform : Perform δ) (w : World δ),
      (∀ key, runHandlers perform key args w = runHandlers perform key args' w) ∧
      ∀ call call' : EngineCall, call.key = call'.key → call.arguments = args →
        call'.arguments = args' → fire perform call w = fire perform call' w := by
  have hvalues : args.values = args'.values := h.values_eq.trans h'.values_eq.symm
  refine ⟨h.values_eq, congrArg List.length h.values_eq, ?_⟩
  intro δ _ perform w
  refine ⟨fun key => runHandlers_congr hvalues key w, ?_⟩
  rintro call call' hkey rfl rfl
  rw [fire, fire, hkey]
  exact runHandlers_congr hvalues _ w

/-- A ring of two values that grew at both ends and was collected anew. -/
def ringOfTwo : Arguments :=
  .ofRing? (some (Ring.edited [.pushBack (.integer 1), .pushFront (.integer 0), .recollect]))

/-- That ring and a chain, handed to the handler that fires its key again. -/
theorem ring_and_chain_fire_alike :
    runHandlers (stepWithin 2) (.function ⟨7⟩ false) ringOfTwo resubscribing =
      runHandlers (stepWithin 2) (.function ⟨7⟩ false)
        (.ofChain? (Chain.ofList? [.integer 0, .integer 1])) resubscribing ∧
    ringOfTwo.count = 2 := by
  have hring : Arguments.Conveys [.integer 0, .integer 1] ringOfTwo := .ring rfl
  obtain ⟨_, hcount, hfire⟩ := shape_makes_no_difference hring .chain
  exact ⟨(hfire Script.Recording (stepWithin 2) resubscribing).1 _, hcount⟩

end StoryHooks
