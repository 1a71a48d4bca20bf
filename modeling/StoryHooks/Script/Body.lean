/-!
# Handler bodies

A handler body performs steps, on some of its runs, and then ends in one of three ways. What a step
is, is left open here.
-/

namespace StoryHooks.Script

inductive Fault
  | text (message : String)
  /-- The fault carries something other than a text. -/
  | nonText
deriving DecidableEq, Repr

def Fault.message : Fault → String
  | text message => message
  | nonText => "non-string panic payload"

/-- How a run of a body ends. -/
inductive Ending
  | returns
  /-- A script error. -/
  | raises (message : String)
  /-- A native fault, which unwinds out of the call. -/
  | faults (fault : Fault)
deriving DecidableEq, Repr

/-- A body over some type of steps. The steps are performed on the first `runs` runs, or on every
run, and only while the dispatch depth is below the bound, if there is one. -/
structure Body (σ : Type) where
  steps : List σ
  ending : Ending
  runs : Option Nat
  below : Option Nat

/-- Whether the steps are performed, after so many earlier runs and at this dispatch depth. -/
def Body.performs {σ : Type} (body : Body σ) (earlier depth : Nat) : Bool :=
  (match body.runs with
    | none => true
    | some limit => earlier < limit) &&
  (match body.below with
    | none => true
    | some bound => depth < bound)

/-- What a handler reference leads to: one of the script functions, by number, or a function that
does nothing and leaves no mark. -/
inductive Callable
  | body (number : Nat)
  | inert
deriving DecidableEq, Repr

end StoryHooks.Script
