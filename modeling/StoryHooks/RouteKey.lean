import StoryHooks.Phase
import StoryHooks.Text.Basic

/-!
# Routing keys

A firing and the subscriptions that listen for it meet at a 64-bit key: a 32-bit id in the low half
and phase bits in the highest four. Keys of graph nodes use the two upper phase bits and keys of
engine functions exactly one of the two lower ones, so a node and a function of one number never
share a key.
-/

namespace StoryHooks

structure NodeId where
  number : UInt32
deriving DecidableEq, Repr

structure FunctionId where
  number : UInt32
deriving DecidableEq, Repr

namespace NodeId

def text (n : NodeId) : String := "node#" ++ toString n.number.toNat

end NodeId

namespace FunctionId

def text (f : FunctionId) : String := "fn#" ++ Text.hexPadded 8 f.number.toNat

end FunctionId

inductive PhaseFlag
  /-- A node firing after the operation. -/
  | afterTrigger
  /-- A node firing for a deletion. -/
  | deleteTrigger
  /-- A function firing before the call. -/
  | beforeFunction
  /-- A function firing after the call. -/
  | afterFunction
deriving DecidableEq, Repr

namespace PhaseFlag

def all : List PhaseFlag := [afterTrigger, deleteTrigger, beforeFunction, afterFunction]

def bit : PhaseFlag → UInt64
  | afterTrigger => 0x8000000000000000
  | deleteTrigger => 0x4000000000000000
  | beforeFunction => 0x2000000000000000
  | afterFunction => 0x1000000000000000

def name : PhaseFlag → String
  | afterTrigger => "AFTER_TRIGGER"
  | deleteTrigger => "DELETE_TRIGGER"
  | beforeFunction => "BEFORE_FUNCTION"
  | afterFunction => "AFTER_FUNCTION"

def bitIf (flag : PhaseFlag) (present : Bool) : UInt64 := if present then flag.bit else 0

end PhaseFlag

/-- A routing key. Keys are compared and never taken apart. -/
structure RouteKey where
  bits : UInt64
deriving DecidableEq, Repr

namespace RouteKey

/-- The key of an insertion into a node, or of a deletion from it. -/
def node (id : NodeId) (after deleted : Bool) : RouteKey :=
  ⟨id.number.toUInt64 |||
    (PhaseFlag.afterTrigger.bitIf after ||| PhaseFlag.deleteTrigger.bitIf deleted)⟩

/-- The key of an event or a call. -/
def function (id : FunctionId) (after : Bool) : RouteKey :=
  ⟨id.number.toUInt64 ||| (if after then PhaseFlag.afterFunction else PhaseFlag.beforeFunction).bit⟩

/-- The key that a subscription to a node listens on. -/
def ofNode (id : NodeId) (phase : Phase) : RouteKey := node id phase.isAfter phase.isDelete

/-- The key that a subscription to an event or a call listens on. Nothing is deleted there. -/
def ofFunction? (id : FunctionId) (phase : Phase) : Option RouteKey :=
  if phase.isDelete then none else some (function id phase.isAfter)

def has (key : RouteKey) (flag : PhaseFlag) : Bool := key.bits &&& flag.bit != 0

def flags (key : RouteKey) : List PhaseFlag := PhaseFlag.all.filter key.has

def text (key : RouteKey) : String := "0x" ++ Text.hexPadded 16 key.bits.toNat

def le (a b : RouteKey) : Bool := a.bits ≤ b.bits

/-- A list of keys in order, and how many different ones it holds. -/
def sort (keys : List RouteKey) : List RouteKey := keys.mergeSort le

end RouteKey

def Phase.sort (phases : List Phase) : List Phase := phases.mergeSort fun p q => p.rank ≤ q.rank

end StoryHooks
