import StoryHooks.Proofs.Bookkeeping
import StoryHooks.Proofs.Levels
import StoryHooks.Proofs.Moment

/-!
# Snapshots in use

The level that a firing reads is private to it: whatever is performed before the snapshot is given
back leaves the level and the subscribers that it names as they were.

Results:
1. `keeps_kept`: the levels in use, their number and the subscribers so far survive every step.
2. `Moment.sound`: at every moment there is a level for each firing in progress, and every routed id
   has a subscriber.
-/

namespace StoryHooks

open Script

/-- A firing took its snapshot. -/
def Act.begins : Act → Bool
  | .firingBegan .. => true
  | _ => false

/-- A firing gave its snapshot back. -/
def Act.ends : Act → Bool
  | .firingEnded _ => true
  | _ => false

namespace World

variable {δ : Type} [Dialect δ]

/-- The number of firings that have taken their snapshot so far. -/
def begun (w : World δ) : Nat := w.history.countP Act.begins

/-- The number of firings that have given their snapshot back so far. -/
def ended (w : World δ) : Nat := w.history.countP Act.ends

/-- Each firing in progress has a level, and each routed id a subscriber. -/
structure Sound (w : World δ) : Prop where
  depth_le : w.manager.pool.depth ≤ w.manager.pool.levels.length
  routed (key : RouteKey) : ∀ id ∈ w.manager.roster.handlersFor key, id < w.manager.roster.size

/-- `v` has the levels in use of `w`, the subscribers of `w` before any others, and has seen as many
firings begin as end since `w`. -/
structure Keeps (w v : World δ) : Prop where
  depth_eq : v.manager.pool.depth = w.manager.pool.depth
  levels_eq (level : Nat) : level < w.manager.pool.depth →
    v.manager.pool.levels[level]? = w.manager.pool.levels[level]?
  subscribers : w.manager.roster.subscribers <+: v.manager.roster.subscribers
  balanced : v.begun + w.ended = w.begun + v.ended

namespace Keeps

variable {u v w : World δ}

theorem refl (w : World δ) : Keeps w w where
  depth_eq := rfl
  levels_eq _ _ := rfl
  subscribers := List.prefix_rfl
  balanced := rfl

theorem trans (h₁ : Keeps u v) (h₂ : Keeps v w) : Keeps u w where
  depth_eq := h₂.depth_eq.trans h₁.depth_eq
  levels_eq level hl :=
    (h₂.levels_eq level (h₁.depth_eq ▸ hl)).trans (h₁.levels_eq level hl)
  subscribers := h₁.subscribers.trans h₂.subscribers
  balanced := by
    have := h₁.balanced
    have := h₂.balanced
    omega

/-- A snapshot of a level in use reads the same. -/
theorem read_eq (h : Keeps w v) {snapshot : Snapshot}
    (hs : snapshot.level < w.manager.pool.depth) :
    v.manager.pool.read snapshot = w.manager.pool.read snapshot := by
  simp only [Pool.read, h.levels_eq snapshot.level hs]

/-- A subscription still has its handler. -/
theorem handler?_eq (h : Keeps w v) {id : SubscriptionId} {handler : HandlerRef}
    (hid : w.manager.roster.handler? id = some handler) :
    v.manager.roster.handler? id = some handler := by
  obtain ⟨later, hl⟩ := h.subscribers
  obtain ⟨subscriber, hs, rfl⟩ := Option.map_eq_some_iff.mp hid
  have hlt : id < w.manager.roster.subscribers.length := (List.getElem?_eq_some_iff.mp hs).1
  rw [Roster.handler?, ← hl, List.getElem?_append_left hlt, hs]
  rfl

/-- What leaves the pool alone, lets no firing begin or end and takes no subscriber away. -/
theorem of_pool_eq (hp : v.manager.pool = w.manager.pool) (hb : v.begun = w.begun)
    (he : v.ended = w.ended)
    (hs : w.manager.roster.subscribers <+: v.manager.roster.subscribers) : Keeps w v where
  depth_eq := by rw [hp]
  levels_eq _ _ := by rw [hp]
  subscribers := hs
  balanced := by rw [hb, he]

end Keeps

/-! ## The history of firings -/

section History
variable {w w' : World δ}

theorem begun_append {acts : List Act} (h : w'.history = w.history ++ acts) :
    w'.begun = w.begun + acts.countP Act.begins := by
  rw [begun, h, List.countP_append]
  rfl

theorem ended_append {acts : List Act} (h : w'.history = w.history ++ acts) :
    w'.ended = w.ended + acts.countP Act.ends := by
  rw [ended, h, List.countP_append]
  rfl

/-- Acts that are no part of a firing leave both counts alone. -/
theorem counts_append {acts : List Act} (h : w'.history = w.history ++ acts)
    (hb : acts.countP Act.begins = 0) (he : acts.countP Act.ends = 0) :
    w'.begun = w.begun ∧ w'.ended = w.ended := by
  rw [begun_append h, ended_append h, hb, he]
  exact ⟨rfl, rfl⟩

theorem counts_of_history_eq (h : w'.history = w.history) :
    w'.begun = w.begun ∧ w'.ended = w.ended :=
  have hh : w'.history = w.history ++ [] := by rw [h, List.append_nil]
  counts_append hh rfl rfl

theorem hookActs_counts (w : World δ) :
    w.hookActs.countP Act.begins = 0 ∧ w.hookActs.countP Act.ends = 0 := by
  unfold hookActs
  split <;> exact ⟨rfl, rfl⟩

theorem hook_counts (w : World δ) : w.hook.begun = w.begun ∧ w.hook.ended = w.ended :=
  counts_append w.hook_history w.hookActs_counts.1 w.hookActs_counts.2

theorem lateActs_counts (w : World δ) :
    w.lateActs.countP Act.begins = 0 ∧ w.lateActs.countP Act.ends = 0 := by
  unfold lateActs
  split
  · exact w.hookActs_counts
  · exact ⟨rfl, rfl⟩

theorem subscribe_counts (w : World δ) (signature : Signature) (handler : HandlerRef) :
    (w.subscribe signature handler).2.begun = w.begun ∧
      (w.subscribe signature handler).2.ended = w.ended := by
  refine counts_append (w.subscribe_history signature handler) ?_ ?_
  · exact w.lateActs_counts.1
  · exact w.lateActs_counts.2

theorem loadStory_counts (w : World δ) :
    w.loadStory.2.begun = w.begun ∧ w.loadStory.2.ended = w.ended := by
  have hh := w.loadStory_history
  rw [List.append_assoc] at hh
  refine counts_append hh ?_ ?_
  · rw [List.countP_append, w.hookActs_counts.1]
    rfl
  · rw [List.countP_append, w.hookActs_counts.2]
    rfl

end History

/-! ## What is kept -/

/-- What is kept as long as the world is sound. -/
def KeepsSound (w v : World δ) : Prop := w.Sound → v.Sound ∧ w.Keeps v

section KeepsSound
variable {u v w : World δ}

theorem KeepsSound.trans (h₁ : KeepsSound u v) (h₂ : KeepsSound v w) : KeepsSound u w := by
  intro hu
  obtain ⟨hv, huv⟩ := h₁ hu
  obtain ⟨hw, hvw⟩ := h₂ hv
  exact ⟨hw, huv.trans hvw⟩

/-- What leaves roster and pool alone and lets no firing begin or end. -/
theorem KeepsSound.of_roster_eq (hr : v.manager.roster = w.manager.roster)
    (hp : v.manager.pool = w.manager.pool) (hc : v.begun = w.begun ∧ v.ended = w.ended) :
    KeepsSound w v := by
  intro hw
  refine ⟨⟨?_, ?_⟩, .of_pool_eq hp hc.1 hc.2 ?_⟩
  · rw [hp]
    exact hw.depth_le
  · rw [hr]
    exact hw.routed
  · simp only [hr, List.prefix_rfl]

theorem KeepsSound.of_history_eq (hm : v.manager.roster = w.manager.roster)
    (hp : v.manager.pool = w.manager.pool) (hh : v.history = w.history) : KeepsSound w v :=
  .of_roster_eq hm hp (counts_of_history_eq hh)

theorem keepsSound_subscribe (w : World δ) (signature : Signature) (handler : HandlerRef) :
    KeepsSound w (w.subscribe signature handler).2 := by
  intro hw
  obtain ⟨hb, he⟩ := w.subscribe_counts signature handler
  refine ⟨⟨?_, ?_⟩, .of_pool_eq (w.subscribe_pool signature handler) hb he ?_⟩
  · rw [subscribe_pool]
    exact hw.depth_le
  · intro key id hid
    rw [subscribe_size]
    rw [subscribe_handlersFor] at hid
    rcases List.mem_append.mp hid with hold | hnew
    · exact Nat.lt_succ_of_lt (hw.routed key id hold)
    · obtain ⟨_, rfl⟩ := List.mem_ite_nil_right.mp hnew |>.imp_right List.mem_singleton.mp
      exact Nat.lt_succ_self _
  · rw [subscribe_subscribers]
    exact List.prefix_append _ _

theorem keepsSound_loadStory (w : World δ) : KeepsSound w w.loadStory.2 := by
  intro hw
  obtain ⟨hb, he⟩ := w.loadStory_counts
  refine ⟨⟨?_, ?_⟩, .of_pool_eq w.loadStory_pool hb he ?_⟩
  · rw [loadStory_pool]
    exact hw.depth_le
  · intro key id hid
    rw [loadStory_roster, Roster.handlersFor_reload] at hid
    rw [loadStory_size]
    exact List.mem_range.mp (List.mem_filter.mp hid).1
  · simp only [loadStory_subscribers, List.prefix_rfl]

theorem Sound.began (h : w.Sound) (key : RouteKey) : (w.began key).Sound :=
  ⟨Pool.depth_lt_length_enter h.depth_le _, h.routed⟩

theorem began_history (w : World δ) (key : RouteKey) :
    (w.began key).history =
      w.history ++ [.firingBegan key (w.manager.roster.handlersFor key)] := rfl

theorem began_begun (w : World δ) (key : RouteKey) : (w.began key).begun = w.begun + 1 :=
  begun_append (w.began_history key)

theorem began_ended (w : World δ) (key : RouteKey) : (w.began key).ended = w.ended :=
  ended_append (w.began_history key)

/-- The world of a firing that has just given its snapshot back. -/
def gaveBack (w : World δ) (invocations : List Invocation) : World δ :=
  (w.setPool { w.manager.pool with depth := w.manager.pool.depth - 1 }).enact
    (.firingEnded invocations)

theorem gaveBack_history (w : World δ) (invocations : List Invocation) :
    (w.gaveBack invocations).history = w.history ++ [.firingEnded invocations] := rfl

theorem gaveBack_begun (w : World δ) (invocations : List Invocation) :
    (w.gaveBack invocations).begun = w.begun :=
  begun_append (w.gaveBack_history invocations)

theorem gaveBack_ended (w : World δ) (invocations : List Invocation) :
    (w.gaveBack invocations).ended = w.ended + 1 :=
  ended_append (w.gaveBack_history invocations)

/-- At the end of a firing its snapshot is the innermost one, and is given back. -/
theorem Keeps.finish_eq {key : RouteKey} (h : (w.began key).Keeps u)
    (invocations : List Invocation) :
    finish w.nextSnapshot invocations u = (.ok invocations, u.gaveBack invocations) := by
  have hdepth : u.manager.pool.depth = w.nextSnapshot.level + 1 := h.depth_eq
  have hexit := Pool.exit_of_innermost hdepth
  have hlevel : w.nextSnapshot.level = u.manager.pool.depth - 1 := by omega
  rw [hlevel] at hexit
  simp only [finish, hexit]
  rfl

/-- A firing as a whole leaves the levels in use as they were: its own lies above them, and was
given back. -/
theorem keepsSound_firing {key : RouteKey} (invocations : List Invocation)
    (h : KeepsSound (w.began key) u) :
    KeepsSound w (finish w.nextSnapshot invocations u).2 := by
  intro hw
  obtain ⟨hu, hk⟩ := h (hw.began key)
  rw [hk.finish_eq]
  have hdepth : u.manager.pool.depth = w.manager.pool.depth + 1 := hk.depth_eq
  refine ⟨⟨?_, hu.routed⟩, ?_, ?_, hk.subscribers, ?_⟩
  · exact Nat.le_trans (Nat.sub_le _ 1) hu.depth_le
  · exact Nat.sub_eq_of_eq_add hdepth
  -- the level of the firing is the one above those in use, so writing it touched none of them
  · intro level hl
    have hentered : u.manager.pool.levels[level]? =
        (w.manager.pool.enter (w.manager.roster.handlersFor key)).2.levels[level]? :=
      hk.levels_eq level (Nat.lt_succ_of_lt hl)
    exact hentered.trans (Pool.enter_getElem?_of_lt hw.depth_le _ hl)
  · have hbalanced := hk.balanced
    rw [began_begun, began_ended] at hbalanced
    rw [gaveBack_begun, gaveBack_ended]
    omega

/-- The levels in use, their number and the subscribers so far survive every step. -/
theorem keeps_kept : Kept (KeepsSound : World δ → World δ → Prop) where
  trans := KeepsSound.trans
  books h := .of_history_eq (congrArg Manager.roster (manager_of_books h))
    (congrArg Manager.pool (manager_of_books h)) (history_of_books h)
  symbols _ _ := .of_history_eq rfl rfl rfl
  generation _ _ := .of_history_eq rfl rfl rfl
  failNext _ := .of_history_eq rfl rfl rfl
  hook w := .of_roster_eq w.hook_roster w.hook_pool w.hook_counts
  subscribe := keepsSound_subscribe
  loadStory := keepsSound_loadStory
  setMerging _ _ := .of_history_eq rfl rfl rfl
  dropManager w := .of_history_eq (congrArg Manager.roster w.dropManager_manager)
    (congrArg Manager.pool w.dropManager_manager) w.dropManager_history
  firing invocations _ h := keepsSound_firing invocations h

end KeepsSound

/-! ## At every moment -/

theorem sound_start (machine : Machine δ) (settings : Settings) (events : List Event) :
    (start machine settings events).Sound where
  depth_le := Nat.zero_le _
  routed _ _ hid := nomatch hid

end World

section Moment
variable {δ : Type} [Dialect δ] [OwnDialect δ] [LawfulOwn δ] {allowed : Step → Prop}

/-- At every moment there is a level for each firing in progress, every routed id has a subscriber,
and the firings in progress are those that have begun and not ended. -/
theorem Moment.sound {level : Nat} {w : World δ} (h : Moment allowed level w) :
    w.Sound ∧ w.manager.pool.depth = level ∧ w.begun = w.ended + level := by
  have hmoment := h.keeps (I := fun level w =>
    w.Sound ∧ w.manager.pool.depth = level ∧ w.begun = w.ended + level) World.keeps_kept
  refine hmoment ?_ ?_ ?_
  · intro limit own settings events
    exact ⟨World.sound_start _ settings events, rfl, rfl⟩
  · rintro level w v hkeeps ⟨hs, hd, hb⟩
    obtain ⟨hv, hk⟩ := hkeeps hs
    refine ⟨hv, hk.depth_eq.trans hd, ?_⟩
    have := hk.balanced
    omega
  · rintro level w key _ ⟨hs, hd, hb⟩
    refine ⟨hs.began key, congrArg (· + 1) hd, ?_⟩
    rw [World.began_begun, World.began_ended]
    omega

end Moment

end StoryHooks
