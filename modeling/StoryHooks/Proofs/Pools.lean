import StoryHooks.Pool.Session
import StoryHooks.Proofs.Levels

/-!
# Pools that share snapshots

A snapshot names a level and not a pool. It can be read in any pool, and be given back to any; a pool
that is as deep as the one it was taken from takes it for its own. So copies may go astray between
pools. What each pool counts does not: its depth is what was entered less what was given back to it,
and it has as many levels as it was ever deep, or had at the start.

Results:
1. `step_answers`: what a request can do to the pool that it is made to.
2. `accounts`: what a list of requests adds up to, from wherever it starts.
3. `pools_account`: what holds of each of several pools, whatever is handed from one to another.
-/

namespace StoryHooks.Pool

/-! ## What is asked of one pool -/

/-- A request to a pool, with its reply and the pool after it. -/
structure Turn where
  request : Request
  reply : Reply
  pool : Pool

def Request.enters : Request → Bool
  | .enter _ => true
  | _ => false

/-- The number of times that a level was entered. -/
def countEntered (turns : List Turn) : Nat := turns.countP fun turn => turn.request.enters

/-- The number of times that a level was given back. -/
def countReleased (turns : List Turn) : Nat := turns.countP fun turn => turn.reply = .exited

/-- The greatest depth reached. -/
def peak (turns : List Turn) : Nat :=
  turns.foldr (fun turn deepest => max turn.pool.depth deepest) 0

namespace Session

/-- The session after a list of requests. -/
def afterAll (s : Session) (requests : List (Nat × Request)) : Session :=
  requests.foldl (fun s request => (s.step request.1 request.2).2) s

/-- Those of a list of requests that are made to one pool. -/
def turns (s : Session) (index : Nat) (requests : List (Nat × Request)) : List Turn :=
  (requests.zip (s.run requests)).filterMap fun done =>
    if done.1.1 = index then some ⟨done.1.2, done.2.1, done.2.2⟩ else none

end Session

/-- What a request can come to, with the reply of the pool and the pool that it leaves.

* `entered`: ids were copied into the next level.
* `exited`: a snapshot of the innermost level was given back, wherever it was taken.
* `kept`: nothing has changed. A snapshot was refused, was used up before, or was only read. -/
inductive Answers (p : Pool) : Request → Reply → Pool → Prop
  | entered (number : Nat) (ids : List Nat) :
      Answers p (.enter ids) (.entered number ⟨p.depth⟩ ids) (p.enter ids).2
  | exited {number level : Nat} : p.depth = level + 1 →
      Answers p (.exit number) .exited { p with depth := level }
  | kept {request : Request} {reply : Reply} : request.enters = false → reply ≠ .exited →
      Answers p request reply p

namespace Answers

variable {p p' : Pool} {request : Request} {reply : Reply} (h : Answers p request reply p')
include h

/-- The depth goes up with what is entered and down with what is given back. -/
theorem depth_add_released :
    p'.depth + (if reply = .exited then 1 else 0) = p.depth + (if request.enters then 1 else 0) := by
  cases h with
  | entered => rfl
  | exited hd => rw [hd]; rfl
  | kept hr hreply => rw [if_neg hreply, hr]; rfl

variable (hp : p.depth ≤ p.levelCount)
include hp

theorem depth_le : p'.depth ≤ p'.levelCount := by
  cases h with
  | entered _ ids => exact depth_lt_length_enter hp ids
  | exited hd => exact Nat.le_trans (hd ▸ Nat.le_succ _) hp
  | kept => exact hp

/-- A pool grows by no more than the level that it goes down to. -/
theorem levelCount_eq : p'.levelCount = max p.levelCount p'.depth := by
  cases h with
  | entered _ ids => exact length_enter hp ids
  | exited hd => exact (Nat.max_eq_left (Nat.le_trans (hd ▸ Nat.le_succ _) hp)).symm
  | kept => exact (Nat.max_eq_left hp).symm

end Answers

/-! ## One request -/

namespace Session

variable {s : Session} {index other : Nat} {request : Request} {number : Nat} {snapshot : Snapshot}

theorem pool_set_self (h : index < s.pools.length) (p : Pool) (snapshots : List (Option Snapshot)) :
    pool ⟨s.pools.set index p, snapshots⟩ index = p := by
  rw [pool, List.getElem?_set_self h, Option.getD_some]

theorem step_exit_of_innermost (hs : s.snapshot? number = some snapshot)
    (hd : (s.pool index).depth = snapshot.level + 1) :
    s.step index (.exit number) =
      (.exited, ⟨s.pools.set index { s.pool index with depth := snapshot.level },
        s.snapshots.set number none⟩) := by
  simp only [step, hs, exit_of_innermost hd]

theorem step_exit_of_other (hs : s.snapshot? number = some snapshot)
    (hd : (s.pool index).depth ≠ snapshot.level + 1) :
    s.step index (.exit number) =
      (.outOfOrder ⟨snapshot.level, (s.pool index).depth⟩,
        { s with snapshots := s.snapshots.set number none }) := by
  simp only [step, hs, exit_of_other hd]

/-- What is given back was used up before, or is of the level that the pool is at, or is refused. -/
theorem step_exit_cases (s : Session) (index number : Nat) :
    (s.snapshot? number = none ∧ s.step index (.exit number) = (.consumed, s)) ∨
    (∃ snapshot, s.snapshot? number = some snapshot ∧
      (s.pool index).depth = snapshot.level + 1 ∧
      s.step index (.exit number) =
        (.exited, ⟨s.pools.set index { s.pool index with depth := snapshot.level },
          s.snapshots.set number none⟩)) ∨
    ∃ snapshot, s.snapshot? number = some snapshot ∧
      (s.pool index).depth ≠ snapshot.level + 1 ∧
      s.step index (.exit number) =
        (.outOfOrder ⟨snapshot.level, (s.pool index).depth⟩,
          { s with snapshots := s.snapshots.set number none }) := by
  cases hs : s.snapshot? number with
  | none => exact .inl ⟨rfl, by simp only [step, hs]⟩
  | some snapshot =>
    by_cases hd : (s.pool index).depth = snapshot.level + 1
    · exact .inr (.inl ⟨snapshot, rfl, hd, step_exit_of_innermost hs hd⟩)
    · exact .inr (.inr ⟨snapshot, rfl, hd, step_exit_of_other hs hd⟩)

theorem step_read (hs : s.snapshot? number = some snapshot) (index : Nat) :
    s.step index (.read number) = (.ids ((s.pool index).read snapshot), s) := by
  simp only [step, hs]

theorem step_get (hs : s.snapshot? number = some snapshot) (index position : Nat) :
    s.step index (.get number position) =
      (.id ((s.pool index).read snapshot)[position]?, s) := by
  simp only [step, hs, get?]

/-- A snapshot is used up by being given back, whether it is taken or refused. -/
theorem snapshot?_step_exit (s : Session) (index number : Nat) :
    (s.step index (.exit number)).2.snapshot? number = none := by
  have hspent : ((s.snapshots.set number none)[number]?).join = none := by
    rw [List.getElem?_set_self']
    cases s.snapshots[number]? <;> rfl
  rcases s.step_exit_cases index number with
    ⟨hs, hexit⟩ | ⟨_, _, _, hexit⟩ | ⟨_, _, _, hexit⟩
  · rw [hexit, hs]
  · rw [hexit]
    exact hspent
  · rw [hexit]
    exact hspent

/-- No pool changes but the one that a request is made to. -/
theorem pools_step (s : Session) (index : Nat) (request : Request) :
    (s.step index request).2.pools = s.pools ∨
      ∃ p, (s.step index request).2.pools = s.pools.set index p := by
  cases request with
  | enter ids => exact .inr ⟨_, rfl⟩
  | exit number =>
    rcases s.step_exit_cases index number with
      ⟨_, hexit⟩ | ⟨_, _, _, hexit⟩ | ⟨_, _, _, hexit⟩
    · exact .inl (congrArg (fun done => done.2.pools) hexit)
    · exact .inr ⟨_, congrArg (fun done => done.2.pools) hexit⟩
    · exact .inl (congrArg (fun done => done.2.pools) hexit)
  | read number | get number =>
    left
    cases hs : s.snapshot? number <;> simp only [step, hs]

theorem pool_step_of_ne (h : index ≠ other) (request : Request) :
    (s.step index request).2.pool other = s.pool other := by
  rcases s.pools_step index request with hpools | ⟨p, hpools⟩
  · rw [pool, hpools, pool]
  · rw [pool, hpools, List.getElem?_set_ne h, pool]

theorem length_pools_step (s : Session) (index : Nat) (request : Request) :
    (s.step index request).2.pools.length = s.pools.length := by
  rcases s.pools_step index request with hpools | ⟨p, hpools⟩
  · rw [hpools]
  · rw [hpools, List.length_set]

/-- What a request can do to the pool that it is made to. -/
theorem step_answers (hi : index < s.pools.length)
    (hd : (s.pool index).depth ≤ (s.pool index).levelCount) (request : Request) :
    Answers (s.pool index) request (s.step index request).1
      ((s.step index request).2.pool index) := by
  cases request with
  | enter ids =>
    have hentered : (s.step index (.enter ids)).2.pool index = ((s.pool index).enter ids).2 :=
      pool_set_self hi _ _
    have hread : ((s.pool index).enter ids).2.read ⟨(s.pool index).depth⟩ = ids :=
      read_enter hd ids
    have hreply : (s.step index (.enter ids)).1 =
        .entered s.snapshots.length ⟨(s.pool index).depth⟩ ids :=
      congrArg (Reply.entered s.snapshots.length ⟨(s.pool index).depth⟩) hread
    rw [hentered, hreply]
    exact .entered _ ids
  | exit number =>
    rcases s.step_exit_cases index number with
      ⟨_, hexit⟩ | ⟨_, _, hlevel, hexit⟩ | ⟨_, _, _, hexit⟩
    · rw [hexit]
      exact .kept rfl nofun
    · rw [hexit, pool_set_self hi]
      exact .exited hlevel
    · rw [hexit]
      exact .kept rfl nofun
  | read number | get number =>
    cases hs : s.snapshot? number <;> simp only [step, hs] <;> exact .kept rfl nofun

/-! ## Any requests -/

theorem turns_cons (s : Session) (index other : Nat) (request : Request)
    (requests : List (Nat × Request)) :
    s.turns index ((other, request) :: requests) =
      if other = index then
        ⟨request, (s.step other request).1, (s.step other request).2.pool other⟩ ::
          (s.step other request).2.turns index requests
      else (s.step other request).2.turns index requests := by
  simp only [turns, run, List.zip_cons_cons, List.filterMap_cons]
  by_cases h : other = index
  · simp only [if_pos h]
  · simp only [if_neg h]

theorem length_pools_afterAll (s : Session) (requests : List (Nat × Request)) :
    (s.afterAll requests).pools.length = s.pools.length := by
  induction requests generalizing s with
  | nil => rfl
  | cons request requests ih => exact (ih _).trans (length_pools_step s request.1 request.2)

end Session

/-- From `p` to `p'`, by turns that add up. -/
structure Accounts (p : Pool) (turns : List Turn) (p' : Pool) : Prop where
  depth_le : p'.depth ≤ p'.levelCount
  depth_add_released : p'.depth + countReleased turns = p.depth + countEntered turns
  levelCount_eq : p'.levelCount = max p.levelCount (peak turns)

namespace Accounts

variable {p p' p'' : Pool} {turns : List Turn} {request : Request} {reply : Reply}

theorem nil (h : p.depth ≤ p.levelCount) : Accounts p [] p :=
  ⟨h, rfl, (Nat.max_zero _).symm⟩

theorem cons (hp : p.depth ≤ p.levelCount) (h : Answers p request reply p')
    (hrest : Accounts p' turns p'') : Accounts p (⟨request, reply, p'⟩ :: turns) p'' where
  depth_le := hrest.depth_le
  depth_add_released := by
    have hfirst := h.depth_add_released
    have hturns := hrest.depth_add_released
    simp only [countReleased, countEntered, List.countP_cons, decide_eq_true_eq] at hturns ⊢
    omega
  levelCount_eq := by
    rw [hrest.levelCount_eq, h.levelCount_eq hp, Nat.max_assoc]
    rfl

end Accounts

/-- A list of requests adds up for each pool, from wherever it starts. The induction is on the
requests; those made to other pools leave this one alone, and turns of its own are what they can
be. -/
theorem Session.accounts {s : Session} {index : Nat} (hi : index < s.pools.length)
    (hd : (s.pool index).depth ≤ (s.pool index).levelCount) (requests : List (Nat × Request)) :
    Accounts (s.pool index) (s.turns index requests) ((s.afterAll requests).pool index) := by
  induction requests generalizing s with
  | nil => exact .nil hd
  | cons first requests ih =>
    obtain ⟨other, request⟩ := first
    have hi' : index < (s.step other request).2.pools.length := by
      rwa [length_pools_step]
    rw [turns_cons]
    by_cases h : other = index
    · subst h
      have hanswers := step_answers hi hd request
      rw [if_pos rfl]
      exact .cons hd hanswers (ih hi' (hanswers.depth_le hd))
    · have hsame : (s.step other request).2.pool index = s.pool index :=
        pool_step_of_ne h request
      rw [if_neg h, ← hsame]
      exact ih hi' (hsame ▸ hd)

theorem Session.pool_start {levels : List Nat} {index initial : Nat}
    (h : levels[index]? = some initial) : (start levels).pool index = withLevels initial := by
  rw [pool, start, List.getElem?_map, h]
  rfl

theorem levelCount_withLevels (count : Nat) : (withLevels count).levelCount = count :=
  List.length_replicate

/-- Several pools, and any requests to them, with snapshots read in and given back to pools that they
were not taken from. For each pool:

* its depth is the number of levels entered less those given back, there is a level for each, and it
  has as many levels as it ever was deep, or had at the start, and never fewer than before;
* a request to another pool leaves it alone;
* entering fills the level at its depth, which is there, and no other;
* a snapshot, wherever it was taken, is taken back exactly if it names the innermost level, and
  otherwise changes nothing in any pool; no level is touched, and the snapshot is used up;
* a snapshot, wherever it was taken, reads the level that it names, and nothing if there is none. -/
theorem pools_account (levels : List Nat) (requests : List (Nat × Request)) {index initial : Nat}
    (h : levels[index]? = some initial) :
    let session := (Session.start levels).afterAll requests
    let turns := (Session.start levels).turns index requests
    let pool := session.pool index
    (pool.depth + countReleased turns = countEntered turns ∧
      pool.depth ≤ pool.levelCount ∧
      pool.levelCount = max initial (peak turns) ∧
      ∀ later, pool.levelCount ≤ ((session.afterAll later).pool index).levelCount) ∧
    (∀ other request, other ≠ index → (session.step other request).2.pool index = pool) ∧
    (∀ ids,
      let entered := (session.step index (.enter ids)).2.pool index
      entered.levels[pool.depth]? = some ids ∧
      ∀ level, level ≠ pool.depth → entered.levels[level]? = pool.levels[level]?) ∧
    ∀ number snapshot, session.snapshot? number = some snapshot →
      let left := session.step index (.exit number)
      (left.1 = .exited ↔ snapshot.level + 1 = pool.depth) ∧
      (left.1 ≠ .exited → left.1 = .outOfOrder ⟨snapshot.level, pool.depth⟩ ∧
        left.2.pools = session.pools) ∧
      (left.2.pool index).levels = pool.levels ∧
      left.2.snapshot? number = none ∧
      session.step index (.read number) = (.ids (pool.read snapshot), session) ∧
      (∀ position, session.step index (.get number position) =
        (.id (pool.read snapshot)[position]?, session)) ∧
      pool.size snapshot = (pool.read snapshot).length ∧
      (∀ ids, pool.levels[snapshot.level]? = some ids → pool.read snapshot = ids) ∧
      (pool.levelCount ≤ snapshot.level → pool.read snapshot = []) := by
  intro session turns pool
  have hstart := Session.pool_start h
  have hi : index < (Session.start levels).pools.length := by
    rw [Session.start, List.length_map]
    exact (List.getElem?_eq_some_iff.mp h).1
  have hi' : index < session.pools.length := by
    rwa [Session.length_pools_afterAll]
  have haccounts : Accounts (withLevels initial) turns pool :=
    hstart ▸ Session.accounts hi (hstart ▸ Nat.zero_le _) requests
  have hd : pool.depth ≤ pool.levelCount := haccounts.depth_le
  refine ⟨⟨?_, hd, ?_, ?_⟩, ?_, ?_, ?_⟩
  · exact haccounts.depth_add_released.trans (Nat.zero_add _)
  · rw [haccounts.levelCount_eq, levelCount_withLevels]
  · intro later
    rw [(Session.accounts hi' hd later).levelCount_eq]
    exact Nat.le_max_left _ _
  · exact fun other request hne => Session.pool_step_of_ne hne request
  · intro ids
    have hentered : (session.step index (.enter ids)).2.pool index = (pool.enter ids).2 :=
      Session.pool_set_self hi' _ _
    rw [hentered]
    exact ⟨enter_getElem?_depth hd ids, fun level hl => enter_getElem?_of_ne hd ids hl⟩
  · intro number snapshot hs left
    have hexit : (left.1 = .exited ↔ snapshot.level + 1 = pool.depth) ∧
        (left.1 ≠ .exited → left.1 = .outOfOrder ⟨snapshot.level, pool.depth⟩ ∧
          left.2.pools = session.pools) ∧
        (left.2.pool index).levels = pool.levels := by
      by_cases hlevel : pool.depth = snapshot.level + 1
      · have hleft : left = _ := Session.step_exit_of_innermost hs hlevel
        rw [hleft, Session.pool_set_self hi']
        exact ⟨iff_of_true rfl hlevel.symm, fun hrefused => absurd rfl hrefused, rfl⟩
      · have hleft : left = _ := Session.step_exit_of_other hs hlevel
        rw [hleft]
        exact ⟨iff_of_false nofun (Ne.symm hlevel), fun _ => ⟨rfl, rfl⟩, rfl⟩
    obtain ⟨htaken, hrefused, hlevels⟩ := hexit
    refine ⟨htaken, hrefused, hlevels, session.snapshot?_step_exit index number,
      Session.step_read hs index, Session.step_get hs index, rfl, ?_, ?_⟩
    · intro ids hids
      rw [read, hids, Option.getD_some]
    · intro hnone
      rw [read, List.getElem?_eq_none hnone, Option.getD_none]

/-- Two pools, one with two levels and one with none. The copy that was entered first in the second
pool is given back to the first, which takes it for its own; the innermost one of the second is
refused there and lost. So the second pool stays at its depth, and refuses the copy of the first. -/
theorem strayed_accounts :
    let requests : List (Nat × Request) :=
      [(0, .enter [1]), (1, .enter [7]), (1, .enter [8, 9]), (0, .exit 2), (0, .exit 1)]
    let session := (Session.start [2, 0]).afterAll requests
    let turns := (Session.start [2, 0]).turns 1 requests
    (session.pool 1).depth + countReleased turns = countEntered turns ∧
      countReleased turns = 0 ∧ (session.pool 1).levelCount = max 0 (peak turns) ∧
      peak turns = 2 ∧ (session.step 1 (.exit 0)).1 = .outOfOrder ⟨0, 2⟩ ∧
      session.step 1 (.read 0) = (.ids [7], session) := by
  intro requests session turns
  have hpool : [2, 0][1]? = some 0 := rfl
  obtain ⟨⟨hdepth, -, hcount, -⟩, -, -, hsnapshots⟩ := pools_account [2, 0] requests hpool
  obtain ⟨-, hrefused, -, -, hread, -, -, hlevel, -⟩ := hsnapshots 0 ⟨0⟩ (by decide)
  rw [hlevel [7] (by decide)] at hread
  exact ⟨hdepth, by decide, hcount, by decide, (hrefused (by decide)).1, hread⟩

end StoryHooks.Pool
