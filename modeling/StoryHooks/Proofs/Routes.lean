import StoryHooks.Proofs.Bookkeeping
import StoryHooks.Proofs.Moment
import StoryHooks.Proofs.OwnRequests

/-!
# Routes and their history

Routes come into being in two ways, late at a subscription and all anew at a load, in any order and
in the middle of firings too. What the map holds can nevertheless be read off the history alone: a
subscription is routed as the symbols said when it was last resolved.

Results:
1. `routed_kept`: subscribing, loading and everything else keep the map in step with the history.
2. `handlersFor_subscribeAll_loadStory`: loading after the subscriptions and subscribing after the
   load come to the same.
3. `routes_follow_history`: at any moment of any run the map is exactly what its history says.
-/

namespace StoryHooks

open Script

/-- The subscriber that an act adds to the roster. -/
def Act.subscriber? : Act → Option Subscriber
  | .subscribed signature handler _ => some ⟨signature, handler⟩
  | _ => none

/-- The act is the load of a story. -/
def Act.loads : Act → Bool
  | .loaded .. => true
  | _ => false

/-- The act has a part in routing. -/
def Act.routes : Act → Bool
  | .subscribed .. | .loaded .. => true
  | _ => false

/-- The symbols that a subscription was last resolved against, told from the acts so far with the
latest first. These are the symbols of the last load after it; if there was none, the symbols at the
time of the subscription itself, provided that a story had been loaded by then. -/
def routingTable? (id : SubscriptionId) : List Act → Option SymbolTable
  | [] => none
  | .loaded symbols _ :: earlier =>
    if id < (earlier.filterMap Act.subscriber?).length then some symbols
    else routingTable? id earlier
  | .subscribed _ _ symbols :: earlier =>
    if id = (earlier.filterMap Act.subscriber?).length then
      if earlier.any Act.loads then some symbols else none
    else routingTable? id earlier
  | _ :: earlier => routingTable? id earlier

section Idle
variable {acts : List Act} (h : ∀ act ∈ acts, act.routes = false)
include h

theorem filterMap_subscriber?_of_idle : acts.filterMap Act.subscriber? = [] := by
  rw [List.filterMap_eq_nil_iff]
  intro act ha
  cases act with
  | subscribed | loaded => cases h _ ha
  | _ => rfl

theorem any_loads_of_idle : acts.any Act.loads = false := by
  rw [List.any_eq_false]
  intro act ha
  cases act with
  | subscribed | loaded => cases h _ ha
  | _ => exact Bool.false_ne_true

theorem routingTable?_append_of_idle (id : SubscriptionId) (earlier : List Act) :
    routingTable? id (acts ++ earlier) = routingTable? id earlier := by
  induction acts with
  | nil => rfl
  | cons act acts ih =>
    have hrest := ih fun a ha => h a (List.mem_cons_of_mem _ ha)
    cases act with
    | subscribed | loaded => cases h _ List.mem_cons_self
    | _ => exact hrest

end Idle

/-- The ids of a list of numbers in order that pass a test, when one more number is looked at. -/
theorem filter_range_succ {n : Nat} {p q : Nat → Bool} (h : ∀ i, i < n → q i = p i) :
    (List.range (n + 1)).filter q = (List.range n).filter p ++ if q n then [n] else [] := by
  rw [List.range_succ, List.filter_append, List.filter_cons, List.filter_nil]
  congr 1
  exact List.filter_congr fun i hi => h i (List.mem_range.mp hi)

namespace World

variable {δ : Type} [Dialect δ]

/-- What a subscription came to when it was last resolved; none if it never was. -/
def effectiveRoute? (w : World δ) (id : SubscriptionId) : Option (Except ResolveError RouteKey) :=
  (routingTable? id w.history.reverse).bind fun symbols =>
    (w.manager.roster.signature? id).map fun signature =>
      w.manager.roster.resolve symbols signature

/-- The key that a subscription was last given, if it was given one. -/
def lastKey? (w : World δ) (id : SubscriptionId) : Option RouteKey :=
  (routingTable? id w.history.reverse).bind fun symbols => w.manager.roster.keyOf? symbols id

theorem lastKey?_eq (w : World δ) (id : SubscriptionId) :
    w.lastKey? id = (w.effectiveRoute? id).bind Except.toOption := by
  unfold lastKey? effectiveRoute? Roster.keyOf?
  cases routingTable? id w.history.reverse with
  | none => rfl
  | some symbols => cases w.manager.roster.signature? id <;> rfl

theorem lastKey?_eq_some_iff {w : World δ} {id : SubscriptionId} {key : RouteKey} :
    w.lastKey? id = some key ↔ w.effectiveRoute? id = some (.ok key) := by
  rw [lastKey?_eq]
  constructor
  · intro h
    obtain ⟨result, hr, ho⟩ := Option.bind_eq_some_iff.mp h
    cases result with
    | ok key' =>
      cases ho
      exact hr
    | error e => cases ho
  · intro h
    rw [h]
    rfl

/-- Roster and latch are what the history makes of them: the subscribers in order, and for each key
the subscriptions that were last given it, in order. -/
structure Routed (w : World δ) : Prop where
  subscribers_eq : w.manager.roster.subscribers = w.history.filterMap Act.subscriber?
  storyLoaded_eq : w.manager.storyLoaded = w.history.any Act.loads
  handlersFor_eq (key : RouteKey) : w.manager.roster.handlersFor key =
    (List.range w.manager.roster.size).filter fun id => w.lastKey? id = some key
  routedIds_perm : w.manager.roster.routedIds.Perm
    ((List.range w.manager.roster.size).filter fun id => (w.lastKey? id).isSome)

/-! ## Acts that route nothing -/

section Idle
variable {w v : World δ} {acts : List Act} (hidle : ∀ act ∈ acts, act.routes = false)
  (hh : v.history = w.history ++ acts)
include hidle hh

theorem routingTable?_of_idle (id : SubscriptionId) :
    routingTable? id v.history.reverse = routingTable? id w.history.reverse := by
  rw [hh, List.reverse_append]
  exact routingTable?_append_of_idle (fun act ha => hidle act (List.mem_reverse.mp ha)) id _

/-- What notes only acts that route nothing, and leaves roster and latch alone. -/
theorem Routed.of_idle (hr : v.manager.roster = w.manager.roster)
    (hl : v.manager.storyLoaded = w.manager.storyLoaded) (hw : w.Routed) : v.Routed := by
  have hkey : ∀ id, v.lastKey? id = w.lastKey? id := by
    intro id
    rw [lastKey?, routingTable?_of_idle hidle hh, hr]
    rfl
  refine ⟨?_, ?_, ?_, ?_⟩
  · rw [hr, hw.subscribers_eq, hh, List.filterMap_append, filterMap_subscriber?_of_idle hidle,
      List.append_nil]
  · rw [hl, hw.storyLoaded_eq, hh, List.any_append, any_loads_of_idle hidle, Bool.or_false]
  · intro key
    simp only [hr, hkey]
    exact hw.handlersFor_eq key
  · simp only [hr, hkey]
    exact hw.routedIds_perm

end Idle

theorem Routed.of_history_eq {w v : World δ} (hr : v.manager.roster = w.manager.roster)
    (hl : v.manager.storyLoaded = w.manager.storyLoaded) (hh : v.history = w.history)
    (hw : w.Routed) : v.Routed := by
  have hacts : v.history = w.history ++ [] := by rw [hh, List.append_nil]
  exact hw.of_idle (fun _ ha => absurd ha List.not_mem_nil) hacts hr hl

theorem hookActs_idle (w : World δ) : ∀ act ∈ w.hookActs, act.routes = false := by
  unfold hookActs
  split
  · exact fun _ ha => absurd ha List.not_mem_nil
  · intro act ha
    rw [List.mem_singleton.mp ha]
    rfl

theorem lateActs_idle (w : World δ) : ∀ act ∈ w.lateActs, act.routes = false := by
  unfold lateActs
  split
  · exact w.hookActs_idle
  · exact fun _ ha => absurd ha List.not_mem_nil

/-! ## A subscription -/

section Subscribe
variable {w : World δ} (hw : w.Routed) (signature : Signature) (handler : HandlerRef)
include hw

theorem Routed.length_subscribed :
    (w.history.reverse.filterMap Act.subscriber?).length = w.manager.roster.size := by
  rw [List.filterMap_reverse, List.length_reverse, ← hw.subscribers_eq]
  rfl

theorem Routed.any_loads_reverse :
    w.history.reverse.any Act.loads = w.manager.storyLoaded := by
  rw [List.any_reverse, hw.storyLoaded_eq]

/-- The new subscription is resolved against the symbols at hand, if a story is loaded; the tables
of the others are what they were. -/
theorem routingTable?_subscribe (id : SubscriptionId) :
    routingTable? id (w.subscribe signature handler).2.history.reverse =
      if id = w.manager.roster.size then
        if w.manager.storyLoaded then some w.symbols else none
      else routingTable? id w.history.reverse := by
  have hacts := w.lateActs_idle
  rw [subscribe_history, List.reverse_append, List.reverse_cons, List.append_assoc,
    routingTable?_append_of_idle fun act ha => hacts act (List.mem_reverse.mp ha),
    List.singleton_append]
  show (if id = (w.history.reverse.filterMap Act.subscriber?).length then _ else _) = _
  rw [hw.length_subscribed, hw.any_loads_reverse]

theorem lastKey?_subscribe_of_lt {id : SubscriptionId} (hid : id < w.manager.roster.size) :
    (w.subscribe signature handler).2.lastKey? id = w.lastKey? id := by
  unfold lastKey?
  rw [routingTable?_subscribe hw, if_neg (Nat.ne_of_lt hid)]
  congr 1
  funext symbols
  exact w.subscribe_keyOf?_of_lt signature handler hid symbols

theorem lastKey?_subscribe_self :
    (w.subscribe signature handler).2.lastKey? w.manager.roster.size =
      w.lateKey? signature handler := by
  rw [lastKey?, routingTable?_subscribe hw, if_pos rfl, lateKey?]
  split
  · rw [Option.bind_some, subscribe_keyOf?]
  · rfl

theorem routed_subscribe : (w.subscribe signature handler).2.Routed := by
  have hacts := w.lateActs_idle
  have hh := w.subscribe_history signature handler
  have hold : ∀ id, id < w.manager.roster.size →
      (w.subscribe signature handler).2.lastKey? id = w.lastKey? id :=
    fun id hid => lastKey?_subscribe_of_lt hw signature handler hid
  have hnew := lastKey?_subscribe_self hw signature handler
  refine ⟨?_, ?_, ?_, ?_⟩
  · rw [hh, List.filterMap_append, List.filterMap_cons, filterMap_subscriber?_of_idle hacts,
      ← hw.subscribers_eq, subscribe_subscribers]
    rfl
  · rw [hh, List.any_append, List.any_cons, any_loads_of_idle hacts, ← hw.storyLoaded_eq,
      subscribe_storyLoaded]
    exact (Bool.or_false _).symm
  -- the new id is the largest, so it comes last among those of its key
  · intro key
    rw [subscribe_size, filter_range_succ fun id hid => by rw [hold id hid], hnew,
      subscribe_handlersFor, hw.handlersFor_eq]
    simp only [decide_eq_true_eq]
  · rw [subscribe_size, filter_range_succ fun id hid => by rw [hold id hid], hnew]
    refine (w.subscribe_routedIds signature handler).trans ?_
    exact hw.routedIds_perm.append_right _

end Subscribe

/-! ## A load -/

section LoadStory
variable {w : World δ} (hw : w.Routed)
include hw

/-- A load resolves every subscription against the symbols at hand. -/
theorem lastKey?_loadStory {id : SubscriptionId} (hid : id < w.manager.roster.size) :
    w.loadStory.2.lastKey? id = w.manager.roster.keyOf? w.symbols id := by
  have htable : routingTable? id w.loadStory.2.history.reverse = some w.symbols := by
    rw [loadStory_history, List.reverse_append, List.reverse_append]
    show (if id < ((w.hookActs.reverse ++ w.history.reverse).filterMap Act.subscriber?).length
      then _ else _) = _
    have hidle : ∀ act ∈ w.hookActs.reverse, act.routes = false :=
      fun act ha => w.hookActs_idle act (List.mem_reverse.mp ha)
    rw [List.filterMap_append, filterMap_subscriber?_of_idle hidle, List.nil_append,
      hw.length_subscribed, if_pos hid]
  rw [lastKey?, htable, Option.bind_some, loadStory_roster, Roster.keyOf?_reload]

theorem routed_loadStory : w.loadStory.2.Routed := by
  have hkey : ∀ id ∈ List.range w.manager.roster.size,
      w.loadStory.2.lastKey? id = w.manager.roster.keyOf? w.symbols id :=
    fun id hid => lastKey?_loadStory hw (List.mem_range.mp hid)
  refine ⟨?_, ?_, ?_, ?_⟩
  · rw [loadStory_subscribers, loadStory_history, List.filterMap_append,
      List.filterMap_append, filterMap_subscriber?_of_idle w.hookActs_idle, ← hw.subscribers_eq]
    simp [Act.subscriber?]
  · rw [loadStory_storyLoaded, loadStory_history, List.any_append]
    exact (Bool.or_true _).symm
  · intro key
    rw [loadStory_size, loadStory_roster, Roster.handlersFor_reload]
    exact List.filter_congr fun id hid => by rw [hkey id hid]
  · rw [loadStory_size, loadStory_roster]
    refine (Roster.routedIds_reload _ _).trans (.of_eq ?_)
    exact List.filter_congr fun id hid => by rw [hkey id hid]

end LoadStory

/-! ## A firing -/

theorem routed_began {w : World δ} (key : RouteKey) (hw : w.Routed) : (w.began key).Routed := by
  refine Routed.of_idle (w := w) ?_ rfl rfl rfl hw
  intro act ha
  rw [List.mem_singleton.mp ha]
  rfl

theorem routed_firing {w u : World δ} {key : RouteKey} (invocations : List Invocation)
    (h : (w.began key).Routed → u.Routed) (hw : w.Routed) :
    (finish w.nextSnapshot invocations u).2.Routed := by
  have hu := h (routed_began key hw)
  unfold finish
  split
  · exact hu
  · refine Routed.of_idle (w := u) ?_ rfl rfl rfl hu
    intro act ha
    rw [List.mem_singleton.mp ha]
    rfl

/-- Subscribing, loading and everything else keep the map in step with the history. -/
theorem routed_kept : Kept fun w v : World δ => w.Routed → v.Routed where
  trans h₁ h₂ := h₂ ∘ h₁
  books h := .of_history_eq (congrArg Manager.roster (manager_of_books h))
    (congrArg Manager.storyLoaded (manager_of_books h)) (history_of_books h)
  symbols _ _ := .of_history_eq rfl rfl rfl
  generation _ _ := .of_history_eq rfl rfl rfl
  failNext _ := .of_history_eq rfl rfl rfl
  hook w := .of_idle w.hookActs_idle w.hook_history w.hook_roster w.hook_storyLoaded
  subscribe _ signature handler hw := routed_subscribe hw signature handler
  loadStory _ hw := routed_loadStory hw
  setMerging _ _ := .of_history_eq rfl rfl rfl
  dropManager w := .of_history_eq (congrArg Manager.roster w.dropManager_manager)
    (congrArg Manager.storyLoaded w.dropManager_manager) w.dropManager_history
  firing invocations _ h := routed_firing invocations h

theorem routed_start (machine : Machine δ) (settings : Settings) (events : List Event) :
    (start machine settings events).Routed where
  subscribers_eq := rfl
  storyLoaded_eq := rfl
  handlersFor_eq _ := rfl
  routedIds_perm := .refl _

/-! ## What the map of a routed world holds -/

section Routed
variable {w : World δ} (hw : w.Routed)
include hw

theorem Routed.mem_handlersFor {key : RouteKey} {id : SubscriptionId} :
    id ∈ w.manager.roster.handlersFor key ↔ w.effectiveRoute? id = some (.ok key) := by
  rw [hw.handlersFor_eq, List.mem_filter, decide_eq_true_eq, lastKey?_eq_some_iff, List.mem_range]
  constructor
  · exact And.right
  · intro h
    refine ⟨?_, h⟩
    obtain ⟨symbols, _, hs⟩ := Option.bind_eq_some_iff.mp h
    obtain ⟨signature, hsig, _⟩ := Option.map_eq_some_iff.mp hs
    exact Roster.signature?_lt hsig

theorem Routed.pairwise_handlersFor (key : RouteKey) :
    (w.manager.roster.handlersFor key).Pairwise (· < ·) := by
  rw [hw.handlersFor_eq]
  exact List.pairwise_lt_range.filter _

theorem Routed.nodup_routedIds : w.manager.roster.routedIds.Nodup := by
  rw [hw.routedIds_perm.nodup_iff]
  exact List.nodup_range.filter _

theorem Routed.mem_routedIds {id : SubscriptionId} :
    id ∈ w.manager.roster.routedIds ↔ ∃ key, w.effectiveRoute? id = some (.ok key) := by
  rw [hw.routedIds_perm.mem_iff, List.mem_filter, Option.isSome_iff_exists]
  simp only [← hw.mem_handlersFor, hw.handlersFor_eq, List.mem_filter, decide_eq_true_eq]
  exact exists_and_left.symm

theorem Routed.activeRoutes_eq :
    w.manager.roster.activeRoutes =
      ((List.range w.manager.roster.size).countP fun id =>
        (w.effectiveRoute? id).any Except.isOk) := by
  rw [← Roster.length_routedIds, hw.routedIds_perm.length_eq, List.countP_eq_length_filter]
  congr 2
  funext id
  rw [lastKey?_eq]
  rcases w.effectiveRoute? id with _ | ⟨_ | _⟩ <;> rfl

end Routed

/-! ## Loading first or last -/

/-- A subscription that has a key now is routed there by a load, whatever it came to before. -/
theorem mem_handlersFor_loadStory {w : World δ} {id : SubscriptionId} {signature : Signature}
    {key : RouteKey} (hs : w.manager.roster.signature? id = some signature)
    (hr : w.manager.roster.resolve w.symbols signature = .ok key) :
    id ∈ w.loadStory.2.manager.roster.handlersFor key := by
  have hid := Roster.signature?_lt hs
  rw [loadStory_roster, Roster.handlersFor_reload, List.mem_filter, decide_eq_true_eq]
  exact ⟨List.mem_range.mpr hid, Roster.keyOf?_eq_some_iff.mpr ⟨signature, hs, hr⟩⟩

/-- Makes subscriptions, one after the other. -/
def subscribeAll (w : World δ) (subscriptions : List (Signature × HandlerRef)) : World δ :=
  subscriptions.foldl (fun w s => (w.subscribe s.1 s.2).2) w

/-- A story is loaded, and every subscription is routed as the symbols at hand say. -/
structure Current (w : World δ) : Prop where
  loaded : w.manager.storyLoaded = true
  handlersFor_eq (key : RouteKey) : w.manager.roster.handlersFor key =
    (List.range w.manager.roster.size).filter fun id =>
      w.manager.roster.keyOf? w.symbols id = some key

theorem current_loadStory (w : World δ) : w.loadStory.2.Current where
  loaded := w.loadStory_storyLoaded
  handlersFor_eq key := by
    simp only [loadStory_roster, loadStory_symbols, Roster.handlersFor_reload, Roster.size_reload,
      Roster.keyOf?_reload]

/-- A subscription to a current story is routed like all others. -/
theorem Current.subscribe {w : World δ} (h : w.Current) (signature : Signature)
    (handler : HandlerRef) : (w.subscribe signature handler).2.Current where
  loaded := by rw [subscribe_storyLoaded, h.loaded]
  handlersFor_eq key := by
    have hold : ∀ id, id < w.manager.roster.size →
        decide ((w.subscribe signature handler).2.manager.roster.keyOf? w.symbols id = some key) =
          decide (w.manager.roster.keyOf? w.symbols id = some key) := by
      intro id hid
      rw [w.subscribe_keyOf?_of_lt signature handler hid]
    rw [subscribe_size, subscribe_symbols, filter_range_succ hold, subscribe_handlersFor,
      h.handlersFor_eq, lateKey?, if_pos h.loaded, subscribe_keyOf?]
    simp only [decide_eq_true_eq]

theorem Current.subscribeAll {w : World δ} (h : w.Current)
    (subscriptions : List (Signature × HandlerRef)) : (w.subscribeAll subscriptions).Current := by
  induction subscriptions generalizing w with
  | nil => exact h
  | cons s subscriptions ih => exact ih (h.subscribe s.1 s.2)

theorem subscribeAll_symbols (w : World δ) (subscriptions : List (Signature × HandlerRef)) :
    (w.subscribeAll subscriptions).symbols = w.symbols := by
  induction subscriptions generalizing w with
  | nil => rfl
  | cons s subscriptions ih => exact (ih _).trans (w.subscribe_symbols s.1 s.2)

/-- Subscriptions depend on nothing but the roster. -/
theorem subscribeAll_roster {w v : World δ}
    (hs : v.manager.roster.subscribers = w.manager.roster.subscribers)
    (hx : v.manager.roster.suffix = w.manager.roster.suffix)
    (subscriptions : List (Signature × HandlerRef)) :
    (v.subscribeAll subscriptions).manager.roster.subscribers =
        (w.subscribeAll subscriptions).manager.roster.subscribers ∧
      (v.subscribeAll subscriptions).manager.roster.suffix =
        (w.subscribeAll subscriptions).manager.roster.suffix := by
  induction subscriptions generalizing w v with
  | nil => exact ⟨hs, hx⟩
  | cons s subscriptions ih =>
    refine ih ?_ ?_
    · rw [subscribe_subscribers, subscribe_subscribers, hs]
    · rw [subscribe_suffix, subscribe_suffix, hx]

/-- Loading after the subscriptions and subscribing after the load come to the same. -/
theorem handlersFor_subscribeAll_loadStory (w : World δ)
    (subscriptions : List (Signature × HandlerRef)) (key : RouteKey) :
    (w.subscribeAll subscriptions).loadStory.2.manager.roster.handlersFor key =
      (w.loadStory.2.subscribeAll subscriptions).manager.roster.handlersFor key := by
  have hlate := (w.current_loadStory.subscribeAll subscriptions).handlersFor_eq key
  obtain ⟨hs, hx⟩ :=
    subscribeAll_roster w.loadStory_subscribers w.loadStory_suffix subscriptions
  rw [hlate, loadStory_roster, Roster.handlersFor_reload, subscribeAll_symbols,
    subscribeAll_symbols, loadStory_symbols]
  simp only [Roster.size, Roster.keyOf?_congr hs hx, hs]

end World

/-! ## Any moment -/

section Moment
variable {δ : Type} [Dialect δ] [OwnDialect δ] [LawfulOwn δ] {allowed : Step → Prop} {level : Nat}
  {w : World δ}

/-- At every moment the map is in step with the history. -/
theorem Moment.routed (hw : Moment allowed level w) : w.Routed := by
  refine hw.keeps (I := fun _ w => w.Routed) World.routed_kept ?_ ?_ ?_
  · intro limit own settings events
    exact World.routed_start _ settings events
  · intro _ _ _ hkeeps h
    exact hkeeps h
  · intro _ w key _ h
    exact World.routed_began key h

end Moment

namespace World

section Moment
variable {δ : Type} [Dialect δ] [OwnDialect δ] [LawfulOwn δ] {allowed : Step → Prop} {level : Nat}
  {w : World δ}

/-- At any moment of any run, whatever was subscribed, loaded, edited and fired before and within
handlers: the roster holds the subscriptions of the history, and the map leads each key, in order,
to exactly those whose effective route it is. So a subscription stands in the map at most once, and
not at all if it was last refused; the number of routes is the number of routed subscriptions; a
load routes again whatever it can; and loading last is the same as loading first. -/
theorem routes_follow_history (hw : Moment allowed level w) :
    w.manager.roster.subscribers = w.history.filterMap Act.subscriber? ∧
    (∀ key, (w.manager.roster.handlersFor key).Pairwise (· < ·) ∧
      ∀ id, id ∈ w.manager.roster.handlersFor key ↔ w.effectiveRoute? id = some (.ok key)) ∧
    w.manager.roster.routedIds.Nodup ∧
    (∀ id, id ∈ w.manager.roster.routedIds ↔ ∃ key, w.effectiveRoute? id = some (.ok key)) ∧
    w.manager.roster.activeRoutes =
      ((List.range w.manager.roster.size).countP fun id =>
        (w.effectiveRoute? id).any Except.isOk) ∧
    (∀ id signature key, w.manager.roster.signature? id = some signature →
      w.manager.roster.resolve w.symbols signature = .ok key →
      id ∈ w.loadStory.2.manager.roster.handlersFor key) ∧
    ∀ subscriptions key,
      (w.subscribeAll subscriptions).loadStory.2.manager.roster.handlersFor key =
        (w.loadStory.2.subscribeAll subscriptions).manager.roster.handlersFor key := by
  have hrouted := hw.routed
  refine ⟨hrouted.subscribers_eq, ?_, hrouted.nodup_routedIds, ?_, hrouted.activeRoutes_eq, ?_, ?_⟩
  · intro key
    exact ⟨hrouted.pairwise_handlersFor key, fun id => hrouted.mem_handlersFor⟩
  · intro id
    exact hrouted.mem_routedIds
  · intro id signature key hs hr
    exact mem_handlersFor_loadStory hs hr
  · intro subscriptions key
    exact handlersFor_subscribeAll_loadStory w subscriptions key

end Moment

/-- A bridge with two subscriptions to one symbol, after a load: the first came before the symbol
was defined, the second after it. -/
def definedLate : World Recording :=
  ((Recording.start 8 {}).afterSteps? 1
    [.loadStory true, .subscribe ⟨"Hit", 1, .before⟩ ⟨0⟩,
      .define "Hit" 1 ⟨.event, ⟨7⟩, none⟩, .subscribe ⟨"Hit", 1, .before⟩ ⟨1⟩]).get
    (by decide +kernel)

/-- The first was refused and is in no bucket. It comes back with the next load. -/
theorem definedLate_routes :
    0 ∉ definedLate.manager.roster.routedIds ∧
    1 ∈ definedLate.manager.roster.handlersFor (.function ⟨7⟩ false) ∧
    0 ∈ definedLate.loadStory.2.manager.roster.handlersFor (.function ⟨7⟩ false) := by
  have hw : Moment anyStep 0 definedLate := Moment.get _
  obtain ⟨_, hroutes, _, hrouted, _, hload, _⟩ := routes_follow_history hw
  refine ⟨?_, ?_, ?_⟩
  · intro h
    obtain ⟨key, hkey⟩ := (hrouted 0).mp h
    have hnone : definedLate.lastKey? 0 = none := by decide +kernel
    rw [lastKey?_eq_some_iff.mpr hkey] at hnone
    cases hnone
  · exact ((hroutes _).2 1).mpr (lastKey?_eq_some_iff.mp (by decide +kernel))
  · have hkey : definedLate.manager.roster.keyOf? definedLate.symbols 0 =
        some (.function ⟨7⟩ false) := by decide +kernel
    obtain ⟨signature, hs, hr⟩ := Roster.keyOf?_eq_some_iff.mp hkey
    exact hload 0 signature _ hs hr

end World

end StoryHooks
