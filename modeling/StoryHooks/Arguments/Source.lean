import StoryHooks.Arguments.Ring
import StoryHooks.Arguments.Chain

/-!
# Argument sources

What a firing passes to its handlers: a plain sequence, a ring or a chain. A handler sees the
values alone.
-/

namespace StoryHooks

inductive Arguments
  | slice (values : List Value)
  | tuple (ring : Ring)
  | chain (links : Chain)
deriving DecidableEq, Repr

namespace Arguments

def none : Arguments := slice []

/-- The values, in order; every call walks afresh. -/
def values : Arguments → List Value
  | .slice values => values
  | .tuple ring => ring.toList
  | .chain links => links.toList

def count (arguments : Arguments) : Nat := arguments.values.length

def ofRing? : Option Ring → Arguments
  | some ring => .tuple ring
  | Option.none => none

def ofChain? : Option Chain → Arguments
  | some links => .chain links
  | Option.none => none

end Arguments

end StoryHooks
