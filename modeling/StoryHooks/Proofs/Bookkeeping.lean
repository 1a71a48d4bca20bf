import StoryHooks.Bridge.Manager
import StoryHooks.Proofs.Rerouting

/-!
# What the manager writes into its books

Each operation of the manager, told by what it does to the roster, the pool, the story's symbols and
the history. None of them touches the script machine.
-/

namespace StoryHooks.World

open Script

variable {δ : Type} [Dialect δ] (w : World δ)

/-! ## Hooking -/

/-- The attempt that an occasion to hook the engine makes, if it makes one. -/
def hookActs : List Act := if w.manager.hooked then [] else [.hookTried (!w.installer.failNext)]

/-- Hooking changes the latch, the installer and the journals. -/
theorem hook_cases :
    (w.manager.hooked = true ∧ w.hook = w) ∨
    (w.manager.hooked = false ∧ w.installer.failNext = true ∧
      w.hook = ((w.setHook { w.installer with failNext := false } false).enact
        (.hookTried false)).report .hooksFailed) ∨
    (w.manager.hooked = false ∧ w.installer.failNext = false ∧
      w.hook = ((w.setHook ({ w.installer with installs := w.installer.installs + 1 }.bind true)
        true).enact (.hookTried true)).report .hooksInstalled) := by
  unfold hook Installer.install
  by_cases hh : w.manager.hooked = true
  · exact Or.inl ⟨hh, if_pos hh⟩
  · rw [if_neg hh]
    by_cases hf : w.installer.failNext = true
    · rw [if_pos hf]
      exact Or.inr (Or.inl ⟨Bool.eq_false_iff.mpr hh, hf, rfl⟩)
    · rw [if_neg hf]
      exact Or.inr (Or.inr ⟨Bool.eq_false_iff.mpr hh, Bool.eq_false_iff.mpr hf, rfl⟩)

@[simp] theorem hook_roster : w.hook.manager.roster = w.manager.roster := by
  rcases w.hook_cases with ⟨_, h⟩ | ⟨_, _, h⟩ | ⟨_, _, h⟩ <;> rw [h] <;> rfl

@[simp] theorem hook_pool : w.hook.manager.pool = w.manager.pool := by
  rcases w.hook_cases with ⟨_, h⟩ | ⟨_, _, h⟩ | ⟨_, _, h⟩ <;> rw [h] <;> rfl

@[simp] theorem hook_storyLoaded : w.hook.manager.storyLoaded = w.manager.storyLoaded := by
  rcases w.hook_cases with ⟨_, h⟩ | ⟨_, _, h⟩ | ⟨_, _, h⟩ <;> rw [h] <;> rfl

@[simp] theorem hook_symbols : w.hook.symbols = w.symbols := by
  rcases w.hook_cases with ⟨_, h⟩ | ⟨_, _, h⟩ | ⟨_, _, h⟩ <;> rw [h] <;> rfl

@[simp] theorem hook_machine : w.hook.machine = w.machine := by
  rcases w.hook_cases with ⟨_, h⟩ | ⟨_, _, h⟩ | ⟨_, _, h⟩ <;> rw [h] <;> rfl

theorem hook_history : w.hook.history = w.history ++ w.hookActs := by
  unfold hookActs
  rcases w.hook_cases with ⟨hh, h⟩ | ⟨hh, hf, h⟩ | ⟨hh, hf, h⟩
  · rw [h, hh]
    simp
  · rw [h, hh, hf]
    rfl
  · rw [h, hh, hf]
    rfl

/-- What that attempt reports. -/
def hookEvents : List Event :=
  if w.manager.hooked then []
  else [if w.installer.failNext then .hooksFailed else .hooksInstalled]

theorem hook_events : w.hook.events = w.events ++ w.hookEvents := by
  unfold hookEvents
  rcases w.hook_cases with ⟨hh, h⟩ | ⟨hh, hf, h⟩ | ⟨hh, hf, h⟩
  · rw [h, hh]
    simp
  · rw [h, hh, hf]
    rfl
  · rw [h, hh, hf]
    rfl

/-! ## Late routes -/

/-- What is reported of a subscription to a loaded story: its refusal, if it has no key there. -/
def lateEvents (signature : Signature) : List Event :=
  match w.manager.roster.resolve w.symbols signature with
  | .ok _ => []
  | .error e => [.lateRefusal e]

section RouteLate
variable (id : SubscriptionId)

@[simp] theorem routeLate_pool : (w.routeLate id).manager.pool = w.manager.pool := by
  unfold routeLate
  split <;> rfl

@[simp] theorem routeLate_storyLoaded :
    (w.routeLate id).manager.storyLoaded = w.manager.storyLoaded := by
  unfold routeLate
  split <;> rfl

@[simp] theorem routeLate_symbols : (w.routeLate id).symbols = w.symbols := by
  unfold routeLate
  split <;> rfl

@[simp] theorem routeLate_machine : (w.routeLate id).machine = w.machine := by
  unfold routeLate
  split <;> rfl

@[simp] theorem routeLate_history : (w.routeLate id).history = w.history := by
  unfold routeLate
  split <;> rfl

/-- A late route is added where the story gives a key, and nowhere else. -/
theorem routeLate_roster {signature : Signature}
    (h : w.manager.roster.signature? id = some signature) :
    (w.routeLate id).manager.roster =
      w.manager.roster.withRoute (w.manager.roster.keyOf? w.symbols id) id := by
  unfold routeLate
  rw [Roster.route?_eq h]
  cases hr : w.manager.roster.resolve w.symbols signature with
  | ok key => rfl
  | error e =>
    have hk : w.manager.roster.keyOf? w.symbols id = none := by
      simp [Roster.keyOf?, h, hr, Except.toOption]
    rw [hk]
    rfl

theorem routeLate_events {signature : Signature}
    (h : w.manager.roster.signature? id = some signature) :
    (w.routeLate id).events = w.events ++ w.lateEvents signature := by
  unfold routeLate lateEvents
  rw [Roster.route?_eq h]
  cases w.manager.roster.resolve w.symbols signature with
  | ok key => exact (List.append_nil _).symm
  | error e => rfl

end RouteLate

/-! ## Subscribing -/

section Subscribe
variable (signature : Signature) (handler : HandlerRef)

/-- The world of a subscription that has been added and not yet routed. -/
def enrolled : World δ :=
  ((w.setRoster (w.manager.roster.add signature handler).2).enact
    (.subscribed signature handler w.symbols)).report (.subscriberAdded signature handler)

theorem enrolled_hook_roster :
    (w.enrolled signature handler).hook.manager.roster =
      (w.manager.roster.add signature handler).2 := hook_roster _

theorem enrolled_hook_symbols : (w.enrolled signature handler).hook.symbols = w.symbols :=
  hook_symbols _

theorem enrolled_hook_signature? :
    (w.enrolled signature handler).hook.manager.roster.signature? w.manager.roster.size =
      some signature := by
  rw [enrolled_hook_roster]
  exact Roster.signature?_add_size w.manager.roster signature handler

theorem subscribe_snd :
    (w.subscribe signature handler).2 =
      if w.manager.storyLoaded then
        (w.enrolled signature handler).hook.routeLate w.manager.roster.size
      else w.enrolled signature handler := rfl

@[simp] theorem subscribe_pool :
    (w.subscribe signature handler).2.manager.pool = w.manager.pool := by
  rw [subscribe_snd]
  split
  · rw [routeLate_pool, hook_pool]
    rfl
  · rfl

@[simp] theorem subscribe_storyLoaded :
    (w.subscribe signature handler).2.manager.storyLoaded = w.manager.storyLoaded := by
  rw [subscribe_snd]
  split
  · rw [routeLate_storyLoaded, hook_storyLoaded]
    rfl
  · rfl

@[simp] theorem subscribe_symbols : (w.subscribe signature handler).2.symbols = w.symbols := by
  rw [subscribe_snd]
  split
  · rw [routeLate_symbols, hook_symbols]
    rfl
  · rfl

@[simp] theorem subscribe_machine : (w.subscribe signature handler).2.machine = w.machine := by
  rw [subscribe_snd]
  split
  · rw [routeLate_machine, hook_machine]
    rfl
  · rfl

/-- The key that a subscription made now is given at once: none before the first load. -/
def lateKey? : Option RouteKey :=
  if w.manager.storyLoaded then
    (w.manager.roster.add signature handler).2.keyOf? w.symbols w.manager.roster.size
  else none

theorem lateKey?_eq_some_iff {key : RouteKey} :
    w.lateKey? signature handler = some key ↔
      w.manager.storyLoaded ∧ w.manager.roster.resolve w.symbols signature = .ok key := by
  unfold lateKey?
  rw [Option.ite_none_right_eq_some, Roster.keyOf?_eq_some_iff]
  refine and_congr_right fun _ => ?_
  have hs := Roster.signature?_add_size w.manager.roster signature handler
  constructor
  · rintro ⟨_, hs', hk⟩
    cases hs.symm.trans hs'
    exact hk
  · exact fun hk => ⟨signature, hs, hk⟩

/-- What a subscription notes besides itself: none before the first load. -/
def lateActs : List Act := if w.manager.storyLoaded then w.hookActs else []

/-- A subscription is added to the roster, with a route if it is given a key at once. -/
theorem subscribe_roster :
    (w.subscribe signature handler).2.manager.roster =
      (w.manager.roster.add signature handler).2.withRoute (w.lateKey? signature handler)
        w.manager.roster.size := by
  rw [subscribe_snd, lateKey?]
  have hroster := w.enrolled_hook_roster signature handler
  have hsymbols := w.enrolled_hook_symbols signature handler
  split
  · rw [routeLate_roster _ _ (w.enrolled_hook_signature? signature handler), hroster, hsymbols]
  · rfl

theorem subscribe_subscribers :
    (w.subscribe signature handler).2.manager.roster.subscribers =
      w.manager.roster.subscribers ++ [⟨signature, handler⟩] := by
  rw [subscribe_roster, Roster.subscribers_withRoute, Roster.subscribers_add]

theorem subscribe_suffix :
    (w.subscribe signature handler).2.manager.roster.suffix = w.manager.roster.suffix := by
  rw [subscribe_roster, Roster.suffix_withRoute, Roster.suffix_add]

theorem subscribe_size :
    (w.subscribe signature handler).2.manager.roster.size = w.manager.roster.size + 1 := by
  rw [subscribe_roster, Roster.size_withRoute, Roster.size_add]

/-- A route makes no difference to the keys that a story gives. -/
theorem subscribe_keyOf? (symbols : SymbolTable) (id : SubscriptionId) :
    (w.subscribe signature handler).2.manager.roster.keyOf? symbols id =
      (w.manager.roster.add signature handler).2.keyOf? symbols id := by
  rw [subscribe_roster, Roster.keyOf?_congr (Roster.subscribers_withRoute ..)
    (Roster.suffix_withRoute ..)]

/-- The earlier subscriptions have the keys that they had. -/
theorem subscribe_keyOf?_of_lt {id : SubscriptionId} (hid : id < w.manager.roster.size)
    (symbols : SymbolTable) :
    (w.subscribe signature handler).2.manager.roster.keyOf? symbols id =
      w.manager.roster.keyOf? symbols id := by
  rw [subscribe_keyOf?]
  exact Roster.keyOf?_add w.manager.roster signature handler hid symbols

/-- A subscription joins the bucket of the key it is given at once, and no other bucket. -/
theorem subscribe_handlersFor (key : RouteKey) :
    (w.subscribe signature handler).2.manager.roster.handlersFor key =
      w.manager.roster.handlersFor key ++
        if w.lateKey? signature handler = some key then [w.manager.roster.size] else [] := by
  rw [subscribe_roster, Roster.handlersFor_withRoute, Roster.handlersFor_add]

theorem subscribe_routedIds :
    (w.subscribe signature handler).2.manager.roster.routedIds.Perm
      (w.manager.roster.routedIds ++
        if (w.lateKey? signature handler).isSome then [w.manager.roster.size] else []) := by
  rw [subscribe_roster]
  exact Roster.routedIds_withRoute _ _ _

theorem subscribe_history :
    (w.subscribe signature handler).2.history =
      w.history ++ .subscribed signature handler w.symbols :: w.lateActs := by
  rw [subscribe_snd, lateActs]
  split
  · rw [routeLate_history, hook_history]
    show w.history ++ [_] ++ w.hookActs = _
    rw [List.append_assoc]
    rfl
  · rfl

/-- A subscription is reported; so are the attempt to hook and the refusal that it may lead to. -/
theorem subscribe_events :
    (w.subscribe signature handler).2.events = w.events ++ .subscriberAdded signature handler ::
      if w.manager.storyLoaded then w.hookEvents ++ w.lateEvents signature else [] := by
  rw [subscribe_snd]
  have hroster := w.enrolled_hook_roster signature handler
  have hsymbols := w.enrolled_hook_symbols signature handler
  have hsignature := w.enrolled_hook_signature? signature handler
  split
  · rw [routeLate_events _ _ hsignature, hook_events, lateEvents, hroster, hsymbols]
    show w.events ++ [_] ++ w.hookEvents ++ w.lateEvents signature = _
    simp only [List.append_assoc, List.cons_append, List.nil_append]
  · rfl

end Subscribe

/-! ## Loading a story -/

@[simp] theorem loadStory_roster :
    w.loadStory.2.manager.roster = (w.manager.roster.reload w.symbols).1 := by
  show (w.hook.manager.roster.reload w.hook.symbols).1 = _
  rw [hook_roster, hook_symbols]

/-- The answer of a load is the report of the routes that it rebuilds. -/
theorem loadStory_fst : w.loadStory.1 = (w.manager.roster.reload w.symbols).2 := by
  show (w.hook.manager.roster.reload w.hook.symbols).2 = _
  rw [hook_roster, hook_symbols]

theorem loadStory_subscribers :
    w.loadStory.2.manager.roster.subscribers = w.manager.roster.subscribers := by
  rw [loadStory_roster, Roster.subscribers_reload]

theorem loadStory_suffix :
    w.loadStory.2.manager.roster.suffix = w.manager.roster.suffix := by
  rw [loadStory_roster, Roster.suffix_reload]

theorem loadStory_size : w.loadStory.2.manager.roster.size = w.manager.roster.size := by
  rw [loadStory_roster, Roster.size_reload]

@[simp] theorem loadStory_pool : w.loadStory.2.manager.pool = w.manager.pool := hook_pool w

@[simp] theorem loadStory_storyLoaded : w.loadStory.2.manager.storyLoaded = true := rfl

@[simp] theorem loadStory_symbols : w.loadStory.2.symbols = w.symbols := hook_symbols w

@[simp] theorem loadStory_machine : w.loadStory.2.machine = w.machine := hook_machine w

theorem loadStory_history :
    w.loadStory.2.history = w.history ++ w.hookActs ++ [.loaded w.symbols w.loadStory.1] := by
  have hloaded : w.loadStory.2.history =
      w.hook.history ++ [.loaded w.hook.symbols w.loadStory.1] := rfl
  rw [hloaded, hook_history, hook_symbols]

theorem loadStory_events :
    w.loadStory.2.events = w.events ++ (w.hookEvents ++
      (w.loadStory.1.rejected.map (fun rejected => .loadRefusal rejected.2) ++
        [.subscribersResolved w.loadStory.1.registered w.loadStory.1.rejected.length])) := by
  have hreported : w.loadStory.2.events = w.hook.events ++
      (w.loadStory.1.rejected.map (fun rejected => .loadRefusal rejected.2) ++
        [.subscribersResolved w.loadStory.1.registered w.loadStory.1.rejected.length]) := rfl
  rw [hreported, hook_events, List.append_assoc]

/-! ## Dropping the manager -/

@[simp] theorem dropManager_manager : w.dropManager.manager = w.manager := by
  unfold dropManager
  split <;> rfl

@[simp] theorem dropManager_machine : w.dropManager.machine = w.machine := by
  unfold dropManager
  split <;> rfl

@[simp] theorem dropManager_events : w.dropManager.events = w.events := by
  unfold dropManager
  split <;> rfl

@[simp] theorem dropManager_history : w.dropManager.history = w.history := by
  unfold dropManager
  split <;> rfl

end StoryHooks.World
