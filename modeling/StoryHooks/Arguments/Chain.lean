import StoryHooks.Value

/-!
# Argument chains

The engine hands over the arguments of a query, a call or an event as a singly linked chain. A
chain is never empty: no chain at all stands for no arguments.
-/

namespace StoryHooks

/-- One parameter and, unless it is the last, the chain of those after it. -/
inductive Chain
  | last (value : Value)
  | link (value : Value) (rest : Chain)
deriving DecidableEq, Repr

namespace Chain

def toList : Chain → List Value
  | last value => [value]
  | link value rest => value :: rest.toList

def head : Chain → Value
  | last value | link value _ => value

def rest? : Chain → Option Chain
  | last _ => none
  | link _ rest => some rest

def ofList? : List Value → Option Chain
  | [] => none
  | value :: values =>
    match ofList? values with
    | none => some (last value)
    | some rest => some (link value rest)

end Chain

end StoryHooks
