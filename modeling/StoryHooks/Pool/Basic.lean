/-!
# The pool of dispatch levels

A firing runs through a private copy of the ids it found, because its handlers may change what is
routed. Copies live in a pool with one level per nested firing. Levels are kept and reused, and the
pool grows when firings nest deeper than before. A snapshot names the level of its firing.
-/

namespace StoryHooks

/-- The level of one firing. It is given back exactly once. -/
structure Snapshot where
  level : Nat
deriving DecidableEq, Repr

structure Pool where
  levels : List (List Nat)
  depth : Nat
deriving DecidableEq, Repr

/-- A snapshot was given back that is not the innermost one. -/
structure OutOfOrder where
  level : Nat
  depth : Nat
deriving DecidableEq, Repr

def OutOfOrder.message (e : OutOfOrder) : String :=
  "pending callback exit out of order: snapshot depth " ++ toString e.level ++
    ", current depth " ++ toString e.depth

namespace Pool

def withLevels (count : Nat) : Pool := ⟨List.replicate count [], 0⟩

/-- Copies ids into the next level, which is added if the pool has none left. -/
def enter (p : Pool) (ids : List Nat) : Snapshot × Pool :=
  let levels := if p.levels.length ≤ p.depth then p.levels ++ [[]] else p.levels
  (⟨p.depth⟩, ⟨levels.set p.depth ids, p.depth + 1⟩)

def read (p : Pool) (s : Snapshot) : List Nat := (p.levels[s.level]?).getD []

def get? (p : Pool) (s : Snapshot) (index : Nat) : Option Nat := (p.read s)[index]?

def size (p : Pool) (s : Snapshot) : Nat := (p.read s).length

/-- Gives back the innermost level. Another one is refused: a level still being read could be
filled anew. -/
def exit (p : Pool) (s : Snapshot) : Except OutOfOrder Pool :=
  if 0 < p.depth ∧ s.level = p.depth - 1 then .ok { p with depth := p.depth - 1 }
  else .error ⟨s.level, p.depth⟩

/-- The number of levels, in use or not. -/
def levelCount (p : Pool) : Nat := p.levels.length

end Pool

end StoryHooks
