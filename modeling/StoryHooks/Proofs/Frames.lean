import StoryHooks.Pool.Session
import StoryHooks.Proofs.Levels

/-!
# The pool as a stack of frames

What a pool is meant to be: a stack of frames, one for each snapshot that was not given back, each
with a copy of its own of the ids. The pool keeps the copies in levels instead, which it fills anew
as it goes up and down. A snapshot that is given back out of order is used up, and its frame stays.

Results:
1. `Agrees.step`: a request gets the same reply from the pool and the frames, and leaves them in
   agreement.
2. `run_eq_run`: so does every list of requests.
3. `pool_keeps_private_copies`: a snapshot reads the ids it was taken of for as long as it is held,
   and can be given back exactly when its frame is the innermost.
-/

namespace StoryHooks.Pool

/-- The copy of ids that a snapshot was taken of, with the number of the snapshot. -/
structure Frame where
  number : Nat
  ids : List Nat

/-- Frames, innermost first, and of each snapshot by number whether it can still be given back. -/
structure Frames where
  stack : List Frame
  held : List Bool

namespace Frames

def empty : Frames := ⟨[], []⟩

/-- A snapshot was taken and not used up. -/
def Holds (f : Frames) (number : Nat) : Prop := f.held[number]? = some true

instance (f : Frames) (number : Nat) : Decidable (f.Holds number) :=
  inferInstanceAs (Decidable (_ = _))

/-- The stack from the frame of a snapshot on, those further in left out. -/
def fromFrame (f : Frames) (number : Nat) : List Frame :=
  f.stack.dropWhile fun frame => frame.number != number

/-- The copy that a snapshot was taken of. -/
def copy (f : Frames) (number : Nat) : List Nat :=
  ((f.fromFrame number).head?.map Frame.ids).getD []

/-- The number of frames below that of a snapshot. -/
def level (f : Frames) (number : Nat) : Nat := (f.fromFrame number).length - 1

/-- The snapshot of the innermost frame. -/
def innermost? (f : Frames) : Option Nat := f.stack.head?.map Frame.number

/-- A new innermost frame, under the next number. -/
def push (f : Frames) (ids : List Nat) : Frames :=
  ⟨⟨f.held.length, ids⟩ :: f.stack, f.held ++ [true]⟩

/-- Uses a snapshot up. -/
def spend (f : Frames) (number : Nat) : Frames := { f with held := f.held.set number false }

/-- Drops the innermost frame. -/
def pop (f : Frames) : Frames := { f with stack := f.stack.tail }

def step (f : Frames) : Request → Reply × Frames
  | .enter ids => (.entered f.held.length ⟨f.stack.length⟩ ids, f.push ids)
  | .exit number =>
    if f.Holds number then
      if f.innermost? = some number then (.exited, (f.spend number).pop)
      else (.outOfOrder ⟨f.level number, f.stack.length⟩, f.spend number)
    else (.consumed, f)
  | .read number => if f.Holds number then (.ids (f.copy number), f) else (.consumed, f)
  | .get number index =>
    if f.Holds number then (.id (f.copy number)[index]?, f) else (.consumed, f)

/-- The answers to a list of requests, each with the number of frames after it. -/
def run (f : Frames) : List Request → List (Reply × Nat)
  | [] => []
  | request :: requests =>
    let (reply, f') := f.step request
    (reply, f'.stack.length) :: f'.run requests

/-- The frames after a list of requests. -/
def after (f : Frames) (requests : List Request) : Frames :=
  requests.foldl (fun f request => (f.step request).2) f

end Frames

/-- The session after a list of requests to its first pool. -/
def Session.after (s : Session) (requests : List Request) : Session :=
  requests.foldl (fun s request => (s.step 0 request).2) s

/-- The ids that snapshots were taken of, by number. -/
def taken (requests : List Request) : List (List Nat) :=
  requests.filterMap fun
    | .enter ids => some ids
    | _ => none

/-! ## Frames by themselves -/

namespace Frames

variable {f : Frames} {number other : Nat}

theorem lt_length_of_holds (h : f.Holds number) : number < f.held.length :=
  (List.getElem?_eq_some_iff.mp h).1

theorem holds_push_iff {ids : List Nat} :
    (f.push ids).Holds number ↔ f.Holds number ∨ number = f.held.length := by
  unfold Holds push
  rcases Nat.lt_trichotomy number f.held.length with hlt | rfl | hlt
  · rw [List.getElem?_append_left hlt]
    simp [Nat.ne_of_lt hlt]
  · simp
  · have hle : (f.held ++ [true]).length ≤ number := by
      rw [List.length_append]
      exact hlt
    rw [List.getElem?_eq_none hle, List.getElem?_eq_none (Nat.le_of_lt hlt)]
    simp [Nat.ne_of_gt hlt]

theorem holds_spend_iff : (f.spend number).Holds other ↔ f.Holds other ∧ other ≠ number := by
  unfold Holds spend
  by_cases h : other = number
  · subst h
    by_cases hlt : other < f.held.length
    · simp [List.getElem?_set_self hlt]
    · simp [hlt]
  · simp [List.getElem?_set_ne (Ne.symm h), h]

/-- Another frame on top makes no difference to the frames below. -/
theorem level_push {ids : List Nat} (h : number ≠ f.held.length) :
    (f.push ids).level number = f.level number := by
  simp only [level, fromFrame, push, List.dropWhile_cons, bne_iff_ne.mpr h.symm, if_true]

theorem level_push_self {ids : List Nat} : (f.push ids).level f.held.length = f.stack.length := by
  simp [level, fromFrame, push]

theorem level_spend : (f.spend number).level other = f.level other := rfl

theorem level_pop (hi : f.innermost? = some number) (h : other ≠ number) :
    f.pop.level other = f.level other := by
  obtain ⟨top, htop, rfl⟩ := Option.map_eq_some_iff.mp hi
  obtain ⟨below, hs⟩ := List.head?_eq_some_iff.mp htop
  simp only [level, fromFrame, pop, hs, List.tail_cons, List.dropWhile_cons, bne_iff_ne.mpr h.symm,
    if_true]

/-- Every frame has a number of its own, and every snapshot that is held has a frame. -/
structure Sound (f : Frames) : Prop where
  nodup : (f.stack.map Frame.number).Nodup
  lt_length : ∀ frame ∈ f.stack, frame.number < f.held.length
  exists_frame (number : Nat) : f.Holds number → ∃ frame ∈ f.stack, frame.number = number

theorem sound_empty : empty.Sound where
  nodup := List.nodup_nil
  lt_length _ h := nomatch h
  exists_frame _ h := nomatch h

section Sound
variable (hf : f.Sound)
include hf

/-- A snapshot that is held has its frame somewhere in the stack. -/
theorem Sound.exists_stack_eq (h : f.Holds number) :
    ∃ above frame below, f.stack = above ++ frame :: below ∧ frame.number = number := by
  obtain ⟨frame, hmem, hn⟩ := hf.exists_frame number h
  obtain ⟨above, below, hs⟩ := List.append_of_mem hmem
  exact ⟨above, frame, below, hs, hn⟩

variable {above below : List Frame} {frame : Frame} (hs : f.stack = above ++ frame :: below)
include hs

/-- No frame further in has the number of a frame. -/
theorem Sound.number_ne : ∀ inner ∈ above, inner.number ≠ frame.number := by
  have hn := hf.nodup
  rw [hs, List.map_append, List.map_cons, List.nodup_append] at hn
  intro inner hi
  exact hn.2.2 _ (List.mem_map_of_mem hi) _ List.mem_cons_self

theorem Sound.fromFrame_eq : f.fromFrame frame.number = frame :: below := by
  have habove : ∀ inner ∈ above, (inner.number != frame.number) = true := by
    intro inner hi
    exact bne_iff_ne.mpr (hf.number_ne hs inner hi)
  rw [fromFrame, hs, List.dropWhile_append_of_pos habove, List.dropWhile_cons_of_neg]
  simp

theorem Sound.copy_eq : f.copy frame.number = frame.ids := by
  rw [copy, hf.fromFrame_eq hs]
  rfl

theorem Sound.level_eq : f.level frame.number = below.length := by
  rw [level, hf.fromFrame_eq hs]
  rfl

/-- A frame is the innermost if there is none above it. -/
theorem Sound.innermost?_eq_iff : f.innermost? = some frame.number ↔ above = [] := by
  rw [innermost?, hs]
  cases above with
  | nil => simp
  | cons inner above =>
    have hne := hf.number_ne hs inner List.mem_cons_self
    simp [hne]

end Sound

theorem Sound.push (hf : f.Sound) (ids : List Nat) : (f.push ids).Sound where
  nodup := by
    refine List.nodup_cons.mpr ⟨?_, hf.nodup⟩
    intro hmem
    obtain ⟨frame, hframe, hn⟩ := List.mem_map.mp hmem
    exact Nat.lt_irrefl _ (hn ▸ hf.lt_length frame hframe)
  lt_length frame hframe := by
    have hlength : (f.push ids).held.length = f.held.length + 1 := by simp [Frames.push]
    rw [hlength]
    rcases List.mem_cons.mp hframe with rfl | hold
    · exact Nat.lt_succ_self _
    · exact Nat.lt_succ_of_lt (hf.lt_length frame hold)
  exists_frame number h := by
    rcases holds_push_iff.mp h with hold | rfl
    · obtain ⟨frame, hframe, hn⟩ := hf.exists_frame number hold
      exact ⟨frame, List.mem_cons_of_mem _ hframe, hn⟩
    · exact ⟨_, List.mem_cons_self, rfl⟩

theorem Sound.spend (hf : f.Sound) (number : Nat) : (f.spend number).Sound where
  nodup := hf.nodup
  lt_length frame hframe := by
    rw [Frames.spend, List.length_set]
    exact hf.lt_length frame hframe
  exists_frame other h := hf.exists_frame other (holds_spend_iff.mp h).1

/-- The innermost frame can be dropped once its snapshot is used up. -/
theorem Sound.pop_spend (hf : f.Sound) (h : f.innermost? = some number) :
    (f.spend number).pop.Sound where
  nodup := List.Nodup.sublist ((List.tail_sublist f.stack).map Frame.number) hf.nodup
  lt_length frame hframe := (hf.spend number).lt_length frame (List.mem_of_mem_tail hframe)
  exists_frame other ho := by
    obtain ⟨ho, hne⟩ := holds_spend_iff.mp ho
    obtain ⟨frame, hframe, rfl⟩ := hf.exists_frame other ho
    obtain ⟨top, htop, rfl⟩ := Option.map_eq_some_iff.mp h
    obtain ⟨below, hs⟩ := List.head?_eq_some_iff.mp htop
    have hmem := hs ▸ hframe
    rcases List.mem_cons.mp hmem with rfl | hbelow
    · exact absurd rfl hne
    · refine ⟨frame, ?_, rfl⟩
      show frame ∈ f.stack.tail
      rw [hs]
      exact hbelow

end Frames

/-! ## Agreement -/

/-- The levels in use of a pool are the copies in the frames, outermost first, and the snapshots
that were not given back name the levels of their frames. -/
structure Agrees (p : Pool) (snapshots : List (Option Snapshot)) (f : Frames) : Prop where
  sound : f.Sound
  depth_eq : p.depth = f.stack.length
  take_eq : p.levels.take p.depth = (f.stack.map Frame.ids).reverse
  length_eq : snapshots.length = f.held.length
  snapshot?_eq (number : Nat) :
    (snapshots[number]?).join = if f.Holds number then some ⟨f.level number⟩ else none

theorem agrees_withLevels (count : Nat) : Agrees (withLevels count) [] .empty where
  sound := Frames.sound_empty
  depth_eq := rfl
  take_eq := rfl
  length_eq := rfl
  snapshot?_eq _ := rfl

namespace Agrees

variable {p : Pool} {snapshots : List (Option Snapshot)} {f : Frames} {number : Nat}
  (h : Agrees p snapshots f)
include h

theorem depth_le : p.depth ≤ p.levels.length := by
  have hlength := congrArg List.length h.take_eq
  rw [List.length_take, List.length_reverse, List.length_map, ← h.depth_eq] at hlength
  omega

/-- The level of a frame holds the copy of that frame. -/
theorem read_eq (hn : f.Holds number) : p.read ⟨f.level number⟩ = f.copy number := by
  obtain ⟨above, frame, below, hs, rfl⟩ := h.sound.exists_stack_eq hn
  rw [h.sound.copy_eq hs, h.sound.level_eq hs]
  have hlt : below.length < p.depth := by
    rw [h.depth_eq, hs, List.length_append, List.length_cons]
    omega
  have hlevel : p.levels[below.length]? = some frame.ids := by
    rw [← List.getElem?_take_of_lt hlt, h.take_eq, hs]
    simp
  rw [read, hlevel]
  rfl

/-- The snapshot of the innermost frame can be given back, and no other. -/
theorem exit_eq (hn : f.Holds number) :
    p.exit ⟨f.level number⟩ =
      if f.innermost? = some number then .ok { p with depth := p.depth - 1 }
      else .error ⟨f.level number, f.stack.length⟩ := by
  obtain ⟨above, frame, below, hs, rfl⟩ := h.sound.exists_stack_eq hn
  have hdepth : p.depth = above.length + (below.length + 1) := by
    rw [h.depth_eq, hs, List.length_append, List.length_cons]
  rw [h.sound.level_eq hs, ← h.depth_eq]
  by_cases hi : above = []
  · have htop := (h.sound.innermost?_eq_iff hs).mpr hi
    subst hi
    have hlevel : p.depth = below.length + 1 := by simpa using hdepth
    rw [if_pos htop, exit_of_innermost hlevel, hlevel]
    rfl
  · have htop : f.innermost? ≠ some frame.number := mt (h.sound.innermost?_eq_iff hs).mp hi
    have hpos : 0 < above.length := List.length_pos_iff.mpr hi
    have hlevel : ¬ (0 < p.depth ∧ below.length = p.depth - 1) := by omega
    rw [if_neg htop, exit, if_neg hlevel]

/-! ### What requests leave behind -/

theorem enter (ids : List Nat) :
    Agrees (p.enter ids).2 (snapshots ++ [some ⟨p.depth⟩]) (f.push ids) where
  sound := h.sound.push ids
  depth_eq := congrArg (· + 1) h.depth_eq
  take_eq := by
    have hcopy : (p.enter ids).2.levels.take (p.depth + 1) = p.levels.take p.depth ++ [ids] :=
      take_enter h.depth_le ids
    show (p.enter ids).2.levels.take (p.depth + 1) = _
    rw [hcopy, h.take_eq, Frames.push, List.map_cons, List.reverse_cons]
  length_eq := by
    rw [List.length_append, h.length_eq, Frames.push, List.length_append]
    rfl
  snapshot?_eq number := by
    rcases Nat.lt_trichotomy number f.held.length with hlt | rfl | hlt
    · have hne := Nat.ne_of_lt hlt
      rw [List.getElem?_append_left (h.length_eq ▸ hlt), h.snapshot?_eq, Frames.level_push hne]
      simp only [Frames.holds_push_iff, hne, or_false]
    · have hheld : (f.push ids).Holds f.held.length := Frames.holds_push_iff.mpr (.inr rfl)
      rw [if_pos hheld, Frames.level_push_self, ← h.depth_eq, ← h.length_eq,
        List.getElem?_concat_length]
      rfl
    · have hlength : (snapshots ++ [some (⟨p.depth⟩ : Snapshot)]).length ≤ number := by
        rw [List.length_append, h.length_eq]
        exact hlt
      have hheld : ¬ (f.push ids).Holds number := by
        intro hn
        have := Frames.lt_length_of_holds hn
        rw [Frames.push, List.length_append, List.length_singleton] at this
        omega
      rw [if_neg hheld, List.getElem?_eq_none hlength]
      rfl

/-- A snapshot that is refused is used up, and all else stays. -/
theorem spend (number : Nat) : Agrees p (snapshots.set number none) (f.spend number) where
  sound := h.sound.spend number
  depth_eq := h.depth_eq
  take_eq := h.take_eq
  length_eq := by
    rw [List.length_set, h.length_eq, Frames.spend, List.length_set]
  snapshot?_eq other := by
    rw [Frames.level_spend]
    by_cases hne : other = number
    · subst hne
      have hheld : ¬ (f.spend other).Holds other := fun hn => (Frames.holds_spend_iff.mp hn).2 rfl
      rw [if_neg hheld]
      by_cases hlt : other < snapshots.length
      · rw [List.getElem?_set_self hlt]
        rfl
      · rw [List.getElem?_eq_none (by rw [List.length_set]; omega)]
        rfl
    · rw [List.getElem?_set_ne (Ne.symm hne), h.snapshot?_eq]
      simp only [Frames.holds_spend_iff, ne_eq, hne, not_false_eq_true, and_true]

/-- A snapshot that is given back takes its frame with it. -/
theorem exit (hi : f.innermost? = some number) :
    Agrees { p with depth := p.depth - 1 } (snapshots.set number none) (f.spend number).pop where
  sound := h.sound.pop_spend hi
  depth_eq := by
    show p.depth - 1 = f.stack.tail.length
    rw [h.depth_eq, List.length_tail]
  take_eq := by
    obtain ⟨top, htop, rfl⟩ := Option.map_eq_some_iff.mp hi
    obtain ⟨below, hs⟩ := List.head?_eq_some_iff.mp htop
    have hdepth : p.depth = below.length + 1 := by rw [h.depth_eq, hs, List.length_cons]
    have htake := h.take_eq
    rw [hs, hdepth, List.map_cons, List.reverse_cons] at htake
    show p.levels.take (p.depth - 1) = (f.stack.tail.map Frame.ids).reverse
    rw [hs, hdepth, Nat.add_sub_cancel]
    calc p.levels.take below.length
        = (p.levels.take (below.length + 1)).take below.length := by
          rw [List.take_take, Nat.min_eq_left (Nat.le_succ _)]
      _ = ((below.map Frame.ids).reverse ++ [top.ids]).take below.length := by rw [htake]
      _ = (below.map Frame.ids).reverse := by
          rw [List.take_left' (by simp)]
  length_eq := (h.spend number).length_eq
  snapshot?_eq other := by
    rw [(h.spend number).snapshot?_eq]
    by_cases hne : other = number
    · subst hne
      have hheld : ¬ (f.spend other).Holds other := fun hn => (Frames.holds_spend_iff.mp hn).2 rfl
      rw [if_neg hheld]
      exact (if_neg hheld).symm
    · have hlevel : (f.spend number).pop.level other = (f.spend number).level other :=
        Frames.level_pop hi hne
      rw [hlevel]
      rfl

theorem snapshot?_session (number : Nat) : (⟨[p], snapshots⟩ : Session).snapshot? number =
    if f.Holds number then some ⟨f.level number⟩ else none := h.snapshot?_eq number

/-- A snapshot that is held leaves its frame if that is the innermost; otherwise only the snapshot
is lost. -/
theorem step_exit (hn : f.Holds number) :
    (⟨[p], snapshots⟩ : Session).step 0 (.exit number) =
      if f.innermost? = some number then
        (.exited, ⟨[{ p with depth := p.depth - 1 }], snapshots.set number none⟩)
      else (.outOfOrder ⟨f.level number, p.depth⟩, ⟨[p], snapshots.set number none⟩) := by
  simp only [Session.step, Session.pool, h.snapshot?_session, if_pos hn, List.getElem?_cons_zero,
    Option.getD_some, h.exit_eq hn]
  by_cases hi : f.innermost? = some number
  · simp only [if_pos hi]
    rfl
  · simp only [if_neg hi, h.depth_eq]

/-- A request gets the same reply from the pool and the frames, and leaves them in agreement. -/
theorem step (request : Request) :
    ∃ p' snapshots', (⟨[p], snapshots⟩ : Session).step 0 request =
        ((f.step request).1, ⟨[p'], snapshots'⟩) ∧ Agrees p' snapshots' (f.step request).2 := by
  cases request with
  | enter ids =>
    refine ⟨_, _, ?_, h.enter ids⟩
    have hread : (p.enter ids).2.read (p.enter ids).1 = ids := read_enter h.depth_le ids
    show (Reply.entered snapshots.length (p.enter ids).1 ((p.enter ids).2.read (p.enter ids).1),
      _) = (Reply.entered f.held.length ⟨f.stack.length⟩ ids, _)
    rw [hread, h.length_eq, ← h.depth_eq]
    rfl
  | exit number =>
    by_cases hn : f.Holds number
    · rw [h.step_exit hn, Frames.step, if_pos hn]
      by_cases hi : f.innermost? = some number
      · rw [if_pos hi, if_pos hi]
        exact ⟨_, _, rfl, h.exit hi⟩
      · rw [if_neg hi, if_neg hi, h.depth_eq]
        exact ⟨_, _, rfl, h.spend number⟩
    · simp only [Session.step, h.snapshot?_session, if_neg hn, Frames.step]
      exact ⟨_, _, rfl, h⟩
  | read number =>
    by_cases hn : f.Holds number
    · simp only [Session.step, Session.pool, h.snapshot?_session, if_pos hn,
        Frames.step,
        List.getElem?_cons_zero, Option.getD_some, h.read_eq hn]
      exact ⟨_, _, rfl, h⟩
    · simp only [Session.step, h.snapshot?_session, if_neg hn, Frames.step]
      exact ⟨_, _, rfl, h⟩
  | get number index =>
    by_cases hn : f.Holds number
    · simp only [Session.step, Session.pool, h.snapshot?_session, if_pos hn,
        Frames.step,
        List.getElem?_cons_zero, Option.getD_some, get?, h.read_eq hn]
      exact ⟨_, _, rfl, h⟩
    · simp only [Session.step, h.snapshot?_session, if_neg hn, Frames.step]
      exact ⟨_, _, rfl, h⟩

/-- Every list of requests gets the same replies from the pool and from the frames. -/
theorem run_eq_run (requests : List Request) :
    ((⟨[p], snapshots⟩ : Session).run (requests.map (Prod.mk 0))).map
      (fun done => (done.1, done.2.depth)) = f.run requests := by
  induction requests generalizing p snapshots f with
  | nil => rfl
  | cons request requests ih =>
    obtain ⟨p', snapshots', hstep, h'⟩ := h.step request
    rw [List.map_cons, Session.run, Frames.run, hstep]
    show ((f.step request).1, p'.depth) :: _ = _
    rw [ih h', h'.depth_eq]

theorem after (requests : List Request) :
    ∃ p' snapshots', (⟨[p], snapshots⟩ : Session).after requests = ⟨[p'], snapshots'⟩ ∧
      Agrees p' snapshots' (f.after requests) := by
  induction requests generalizing p snapshots f with
  | nil => exact ⟨p, snapshots, rfl, h⟩
  | cons request requests ih =>
    obtain ⟨p', snapshots', hstep, h'⟩ := h.step request
    obtain ⟨p'', snapshots'', hafter, h''⟩ := ih h'
    refine ⟨p'', snapshots'', ?_, h''⟩
    rw [Session.after, List.foldl_cons, hstep]
    exact hafter

end Agrees

/-! ## Copies and what was entered -/

/-- The copies in the frames are the ids that were entered under their numbers. -/
structure Frames.Records (f : Frames) (past : List Request) : Prop where
  length_eq : f.held.length = (taken past).length
  ids_eq : ∀ frame ∈ f.stack, (taken past)[frame.number]? = some frame.ids

namespace Frames.Records

variable {f f' : Frames} {past : List Request} {request : Request} (h : f.Records past)
include h

/-- What enters nothing and adds no frame. -/
theorem of_stack_subset (ht : taken [request] = []) (hl : f'.held.length = f.held.length)
    (hs : f'.stack ⊆ f.stack) : f'.Records (past ++ [request]) := by
  have htaken : taken (past ++ [request]) = taken past := by
    rw [taken, List.filterMap_append]
    exact (congrArg (taken past ++ ·) ht).trans (List.append_nil _)
  refine ⟨?_, ?_⟩
  · rw [hl, htaken, h.length_eq]
  · intro frame hframe
    rw [htaken]
    exact h.ids_eq frame (hs hframe)

theorem push (ids : List Nat) : (f.push ids).Records (past ++ [.enter ids]) := by
  have htaken : taken (past ++ [.enter ids]) = taken past ++ [ids] := List.filterMap_append
  refine ⟨?_, ?_⟩
  · rw [Frames.push, htaken, List.length_append, List.length_append, h.length_eq]
    rfl
  · intro frame hframe
    rw [htaken]
    rcases List.mem_cons.mp hframe with rfl | hold
    · rw [h.length_eq, List.getElem?_concat_length]
    · have hids := h.ids_eq frame hold
      rw [List.getElem?_append_left (List.getElem?_eq_some_iff.mp hids).1, hids]

theorem spend (number : Nat) : (f.spend number).Records (past ++ [.exit number]) :=
  h.of_stack_subset rfl List.length_set (List.Subset.refl _)

theorem step (request : Request) : (f.step request).2.Records (past ++ [request]) := by
  cases request with
  | enter ids => exact h.push ids
  | exit number =>
    rw [Frames.step]
    split
    · split
      · exact h.of_stack_subset rfl List.length_set (List.tail_sublist _).subset
      · exact h.spend number
    · exact h.of_stack_subset rfl rfl (List.Subset.refl _)
  | read | get =>
    rw [Frames.step]
    split <;> exact h.of_stack_subset rfl rfl (List.Subset.refl _)

theorem after (requests : List Request) : (f.after requests).Records (past ++ requests) := by
  induction requests generalizing f past with
  | nil => rwa [List.append_nil]
  | cons request requests ih =>
    have hafter := ih (h.step request)
    rwa [List.append_assoc] at hafter

end Frames.Records

/-! ## Any requests to one pool -/

/-- Whatever is entered, given back and read, the pool answers as a stack of frames does that each
have a copy of their own, and its depth is the height of that stack. A snapshot that can still be
given back reads the ids that it was taken of and nothing behind them. Giving it back succeeds
exactly when its frame is the innermost; otherwise the pool stays as it is. -/
theorem pool_keeps_private_copies (count : Nat) (requests : List Request) :
    let session := (Session.start [count]).after requests
    let frames := Frames.empty.after requests
    ((Session.start [count]).run (requests.map (Prod.mk 0))).map
      (fun done => (done.1, done.2.depth)) = Frames.empty.run requests ∧
    (session.pool 0).depth = frames.stack.length ∧
    (∀ number, (session.snapshot? number).isSome = true ↔ frames.Holds number) ∧
    ∀ number snapshot, session.snapshot? number = some snapshot →
      (∃ ids, (taken requests)[number]? = some ids ∧
        (∀ index, (session.pool 0).get? snapshot index = ids[index]?) ∧
        (session.pool 0).size snapshot = ids.length) ∧
      ((session.step 0 (.exit number)).1 = .exited ↔ frames.innermost? = some number) ∧
      (frames.innermost? ≠ some number →
        (session.step 0 (.exit number)).1 =
          .outOfOrder ⟨snapshot.level, (session.pool 0).depth⟩ ∧
        (session.step 0 (.exit number)).2.pools = session.pools) := by
  have hstart := agrees_withLevels count
  intro session frames
  obtain ⟨p, snapshots, hsession, h⟩ :
    ∃ p snapshots, session = ⟨[p], snapshots⟩ ∧ Agrees p snapshots frames := hstart.after requests
  have hempty : Frames.empty.Records [] := ⟨rfl, List.forall_mem_nil _⟩
  have hrecords : frames.Records requests := hempty.after requests
  refine ⟨hstart.run_eq_run requests, ?_⟩
  clear_value session frames
  subst hsession
  refine ⟨h.depth_eq, ?_, ?_⟩
  · intro number
    rw [h.snapshot?_session]
    split <;> simp [*]
  · intro number snapshot hs
    rw [h.snapshot?_session] at hs
    obtain ⟨hn, rfl⟩ := Option.ite_none_right_eq_some.mp hs |>.imp_right Option.some.inj
    obtain ⟨above, frame, below, hstack, rfl⟩ := h.sound.exists_stack_eq hn
    have hread : p.read ⟨frames.level frame.number⟩ = frame.ids := by
      rw [h.read_eq hn, h.sound.copy_eq hstack]
    have hids := hrecords.ids_eq frame (hstack ▸ List.mem_append_right _ List.mem_cons_self)
    refine ⟨⟨frame.ids, hids, ?_, ?_⟩, ?_, ?_⟩
    · intro index
      exact congrArg (·[index]?) hread
    · exact congrArg List.length hread
    · rw [h.step_exit hn]
      split <;> simp [*]
    · intro hi
      rw [h.step_exit hn, if_neg hi]
      exact ⟨rfl, rfl⟩

/-- The level above an outer firing is given back and filled anew. The outer copy is as it was, and
cannot be given back before the inner one. -/
theorem outer_copy_survives :
    let session := (Session.start [0]).after [.enter [1, 2], .enter [9], .exit 1, .enter [7, 8, 9]]
    session.snapshot? 0 = some ⟨0⟩ ∧ (∀ index, (session.pool 0).get? ⟨0⟩ index = [1, 2][index]?) ∧
      (session.step 0 (.exit 0)).1 = .outOfOrder ⟨0, 2⟩ := by
  obtain ⟨_, _, _, hsnapshot⟩ :=
    pool_keeps_private_copies 0 [.enter [1, 2], .enter [9], .exit 1, .enter [7, 8, 9]]
  obtain ⟨⟨ids, hids, hget, _⟩, _, hrefused⟩ := hsnapshot 0 ⟨0⟩ (by decide)
  obtain rfl : [1, 2] = ids := Option.some.inj hids
  exact ⟨by decide, hget, (hrefused (by decide)).1⟩

end StoryHooks.Pool
