import StoryHooks.Value

/-!
# Argument rings

The engine hands over the arguments of an insertion as a circular doubly linked list. Links live in
an arena and name each other by position; the link at position 0 is the head, which holds no value
and closes the circle. `Ring.toList` walks once around.
-/

namespace StoryHooks

/-- A link: its value, which only the head lacks, and the positions of its neighbours. -/
structure Link where
  item : Option Value
  next : Nat
  prev : Nat
deriving DecidableEq, Repr

structure Ring where
  links : List Link
deriving DecidableEq, Repr

namespace Ring

/-- The head alone, its own neighbour on both sides. -/
def empty : Ring := ⟨[⟨none, 0, 0⟩]⟩

def nextOf (r : Ring) (position : Nat) : Nat := (r.links[position]?.map Link.next).getD 0

def prevOf (r : Ring) (position : Nat) : Nat := (r.links[position]?.map Link.prev).getD 0

def itemOf (r : Ring) (position : Nat) : Option Value := r.links[position]?.bind Link.item

/-- Adds a link between two neighbours and makes it the neighbour of both. -/
def splice (r : Ring) (before after : Nat) (value : Value) : Ring :=
  let position := r.links.length
  let links := r.links ++ [⟨some value, after, before⟩]
  let links := links.modify before fun link => { link with next := position }
  ⟨links.modify after fun link => { link with prev := position }⟩

/-- Adds a value at the end: between the last link and the head. -/
def pushBack (r : Ring) (value : Value) : Ring := r.splice (r.prevOf 0) 0 value

/-- Adds a value at the front: between the head and the first link. -/
def pushFront (r : Ring) (value : Value) : Ring := r.splice 0 (r.nextOf 0) value

def isEmpty (r : Ring) : Bool := r.nextOf 0 == 0

/-- The values from a position on, until the walk is back at the head. The count bounds the walk;
a ring has fewer values than links. -/
def walk (r : Ring) : Nat → Nat → List Value
  | 0, _ => []
  | steps + 1, position =>
    if position = 0 then []
    else
      match r.itemOf position with
      | none => []
      | some value => value :: r.walk steps (r.nextOf position)

def toList (r : Ring) : List Value := r.walk r.links.length (r.nextOf 0)

def ofList (values : List Value) : Ring := values.foldl pushBack empty

inductive Edit
  | pushBack (value : Value)
  | pushFront (value : Value)
  /-- Collects the values of the ring into a new one. -/
  | recollect
deriving DecidableEq, Repr

def apply (r : Ring) : Edit → Ring
  | .pushBack value => r.pushBack value
  | .pushFront value => r.pushFront value
  | .recollect => ofList r.toList

/-- The rings that a list of changes passes through, the first one included. -/
def history (r : Ring) : List Edit → List Ring
  | [] => [r]
  | edit :: edits => r :: (r.apply edit).history edits

end Ring

end StoryHooks
