import StoryHooks.Pool.Basic

/-!
# Sessions with several pools

Snapshots are numbered in the order they are taken, over all pools. A snapshot may be read in a
pool that it was not taken from, or be given back to one; giving it back uses it up either way.
-/

namespace StoryHooks.Pool

inductive Request
  | enter (ids : List Nat)
  | exit (snapshot : Nat)
  | read (snapshot : Nat)
  | get (snapshot index : Nat)
deriving DecidableEq, Repr

inductive Reply
  | entered (number : Nat) (snapshot : Snapshot) (ids : List Nat)
  | exited
  | outOfOrder (e : OutOfOrder)
  | ids (ids : List Nat)
  | id (found : Option Nat)
  /-- The snapshot was given back before, or never taken. -/
  | consumed
deriving DecidableEq, Repr

/-- Pools and the snapshots taken from them; a snapshot that was given back leaves its place. -/
structure Session where
  pools : List Pool
  snapshots : List (Option Snapshot)
deriving DecidableEq, Repr

namespace Session

def start (levels : List Nat) : Session := ⟨levels.map withLevels, []⟩

def pool (s : Session) (index : Nat) : Pool := (s.pools[index]?).getD (withLevels 0)

def snapshot? (s : Session) (number : Nat) : Option Snapshot := (s.snapshots[number]?).join

def step (s : Session) (index : Nat) (request : Request) : Reply × Session :=
  let pool := s.pool index
  match request with
  | .enter ids =>
    let (snapshot, pool') := pool.enter ids
    (.entered s.snapshots.length snapshot (pool'.read snapshot),
      ⟨s.pools.set index pool', s.snapshots ++ [some snapshot]⟩)
  | .exit number =>
    match s.snapshot? number with
    | none => (.consumed, s)
    | some snapshot =>
      let snapshots := s.snapshots.set number none
      match pool.exit snapshot with
      | .ok pool' => (.exited, ⟨s.pools.set index pool', snapshots⟩)
      | .error e => (.outOfOrder e, { s with snapshots })
  | .read number =>
    match s.snapshot? number with
    | none => (.consumed, s)
    | some snapshot => (.ids (pool.read snapshot), s)
  | .get number position =>
    match s.snapshot? number with
    | none => (.consumed, s)
    | some snapshot => (.id (pool.get? snapshot position), s)

/-- The answers to a list of requests, each with its pool after it. -/
def run (s : Session) : List (Nat × Request) → List (Reply × Pool)
  | [] => []
  | (index, request) :: requests =>
    let (reply, s') := s.step index request
    (reply, s'.pool index) :: s'.run requests

end Session

end StoryHooks.Pool
