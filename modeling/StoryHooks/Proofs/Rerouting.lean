import Mathlib.Data.List.Induction
import StoryHooks.Subscription.Roster

/-!
# Routes of a roster

A roster gets its routes in two ways: a subscription made late is routed by itself, and a load of a
story routes all of them anew. Both come down to the key that a story gives a subscription.

Results:
1. `handlersFor_route?`: routing one id adds it to the bucket of its key and nowhere else.
2. `handlersFor_reload`: after a load the bucket of a key holds, in order, exactly the ids that the
   story gives this key.
3. `routedIds_reload`: all buckets together hold every id that the story gives a key, once.
-/

namespace StoryHooks

/-! ## Buckets -/

namespace Multimap

variable {κ ν : Type} [DecidableEq κ]

/-- The values under all keys. -/
def values (m : Multimap κ ν) : List ν := m.buckets.flatMap Prod.snd

omit [DecidableEq κ] in
theorem length_values (m : Multimap κ ν) : m.values.length = m.size := by
  obtain ⟨buckets⟩ := m
  simp only [values, size]
  induction buckets with
  | nil => rfl
  | cons bucket rest ih => simp [ih]

/-- A push adds one value, wherever its bucket stands. -/
theorem values_push (m : Multimap κ ν) (key : κ) (value : ν) :
    (m.push key value).values.Perm (m.values ++ [value]) := by
  obtain ⟨buckets⟩ := m
  simp only [push, values]
  induction buckets with
  | nil => simp [pushInto]
  | cons bucket rest ih =>
    obtain ⟨k, values⟩ := bucket
    by_cases hk : k = key
    · simp only [pushInto, if_pos hk, List.flatMap_cons, List.append_assoc]
      exact List.Perm.append_left values List.perm_append_comm
    · simp only [pushInto, if_neg hk, List.flatMap_cons, List.append_assoc]
      exact List.Perm.append_left values ih

end Multimap

namespace Roster

/-- The ids in the buckets of all keys. -/
def routedIds (r : Roster) : List SubscriptionId := r.byKey.values

/-- The key that a story gives a subscription, if it gives one. -/
def keyOf? (r : Roster) (symbols : SymbolTable) (id : SubscriptionId) : Option RouteKey :=
  (r.signature? id).bind fun signature => (r.resolve symbols signature).toOption

theorem length_routedIds (r : Roster) : r.routedIds.length = r.activeRoutes :=
  Multimap.length_values r.byKey

theorem keyOf?_eq_some_iff {r : Roster} {symbols : SymbolTable} {id : SubscriptionId}
    {key : RouteKey} :
    r.keyOf? symbols id = some key ↔
      ∃ signature, r.signature? id = some signature ∧ r.resolve symbols signature = .ok key := by
  unfold keyOf?
  rw [Option.bind_eq_some_iff]
  constructor
  · rintro ⟨signature, hs, hk⟩
    refine ⟨signature, hs, ?_⟩
    cases hr : r.resolve symbols signature with
    | error e => rw [hr] at hk; cases hk
    | ok key' => rw [hr] at hk; cases hk; rfl
  · rintro ⟨signature, hs, hr⟩
    exact ⟨signature, hs, by rw [hr]; rfl⟩

theorem signature?_isSome {r : Roster} {id : SubscriptionId} (h : id < r.size) :
    (r.signature? id).isSome = true := by
  simpa [signature?, size] using h

theorem signature?_lt {r : Roster} {id : SubscriptionId} {signature : Signature}
    (h : r.signature? id = some signature) : id < r.size := by
  unfold signature? at h
  obtain ⟨subscriber, hs, _⟩ := Option.map_eq_some_iff.mp h
  exact (List.getElem?_eq_some_iff.mp hs).1

/-- The key of a subscription depends on the subscribers and the suffix alone. -/
theorem keyOf?_congr {r r' : Roster} (hs : r'.subscribers = r.subscribers)
    (hx : r'.suffix = r.suffix) (symbols : SymbolTable) (id : SubscriptionId) :
    r'.keyOf? symbols id = r.keyOf? symbols id := by
  simp only [keyOf?, signature?, resolve, hs, hx]

/-- Why a story gives a subscription no key, if it refuses it one. -/
def refusal? (r : Roster) (symbols : SymbolTable) (id : SubscriptionId) : Option ResolveError :=
  (r.signature? id).bind fun signature =>
    match r.resolve symbols signature with
    | .ok _ => none
    | .error e => some e

section
variable {r : Roster} {symbols : SymbolTable} {id : SubscriptionId} {signature : Signature}

theorem refusal?_eq_some_iff {e : ResolveError} :
    r.refusal? symbols id = some e ↔
      ∃ signature, r.signature? id = some signature ∧ r.resolve symbols signature = .error e := by
  unfold refusal?
  rw [Option.bind_eq_some_iff]
  refine exists_congr fun signature => and_congr_right fun _ => ?_
  cases r.resolve symbols signature <;> simp

theorem keyOf?_of_signature (h : r.signature? id = some signature) :
    r.keyOf? symbols id = (r.resolve symbols signature).toOption := by
  rw [keyOf?, h, Option.bind_some]

/-- A subscription is refused a key or gets one. -/
theorem isSome_refusal? (h : id < r.size) :
    (r.refusal? symbols id).isSome = !(r.keyOf? symbols id).isSome := by
  obtain ⟨signature, hs⟩ := Option.isSome_iff_exists.mp (signature?_isSome h)
  rw [keyOf?_of_signature hs, refusal?, hs, Option.bind_some]
  cases r.resolve symbols signature <;> rfl

/-- The refusal of a subscription depends on the subscribers and the suffix alone. -/
theorem refusal?_congr {r' : Roster} (hs : r'.subscribers = r.subscribers)
    (hx : r'.suffix = r.suffix) (symbols : SymbolTable) (id : SubscriptionId) :
    r'.refusal? symbols id = r.refusal? symbols id := by
  simp only [refusal?, signature?, resolve, hs, hx]

end

/-! ## Adding -/

section Add
variable (r : Roster) (signature : Signature) (handler : HandlerRef)

@[simp] theorem size_add : (r.add signature handler).2.size = r.size + 1 := by
  simp [add, size]

@[simp] theorem subscribers_add :
    (r.add signature handler).2.subscribers = r.subscribers ++ [⟨signature, handler⟩] := rfl

@[simp] theorem suffix_add : (r.add signature handler).2.suffix = r.suffix := rfl

@[simp] theorem handlersFor_add (key : RouteKey) :
    (r.add signature handler).2.handlersFor key = r.handlersFor key := rfl

theorem withSignature_add (signature' : Signature) :
    (r.add signature handler).2.withSignature signature' =
      r.withSignature signature' ++ if signature = signature' then [r.size] else [] :=
  Multimap.get_push r.bySignature signature signature' r.size

theorem signature?_add_size : (r.add signature handler).2.signature? r.size = some signature := by
  simp [signature?, add, size]

theorem signature?_add {id : SubscriptionId} (h : id < r.size) :
    (r.add signature handler).2.signature? id = r.signature? id := by
  simp only [signature?, subscribers_add]
  rw [List.getElem?_append_left h]

theorem keyOf?_add {id : SubscriptionId} (h : id < r.size) (symbols : SymbolTable) :
    (r.add signature handler).2.keyOf? symbols id = r.keyOf? symbols id := by
  unfold keyOf?
  rw [signature?_add r signature handler h]
  rfl

end Add

/-! ## Routing one id -/

/-- The roster with one more route, where there is a key for it. -/
def withRoute (r : Roster) (key : Option RouteKey) (id : SubscriptionId) : Roster :=
  match key with
  | some key => { r with byKey := r.byKey.push key id }
  | none => r

@[simp] theorem subscribers_withRoute (r : Roster) (key : Option RouteKey) (id : SubscriptionId) :
    (r.withRoute key id).subscribers = r.subscribers := by
  cases key <;> rfl

@[simp] theorem suffix_withRoute (r : Roster) (key : Option RouteKey) (id : SubscriptionId) :
    (r.withRoute key id).suffix = r.suffix := by
  cases key <;> rfl

@[simp] theorem unrouted_withRoute (r : Roster) (key : Option RouteKey) (id : SubscriptionId) :
    (r.withRoute key id).unrouted = r.unrouted := by
  cases key <;> rfl

@[simp] theorem size_withRoute (r : Roster) (key : Option RouteKey) (id : SubscriptionId) :
    (r.withRoute key id).size = r.size := by
  cases key <;> rfl

@[simp] theorem withSignature_withRoute (r : Roster) (key : Option RouteKey) (id : SubscriptionId)
    (signature : Signature) :
    (r.withRoute key id).withSignature signature = r.withSignature signature := by
  cases key <;> rfl

@[simp] theorem keyOf?_withRoute (r : Roster) (key : Option RouteKey) (routed : SubscriptionId)
    (symbols : SymbolTable) (id : SubscriptionId) :
    (r.withRoute key routed).keyOf? symbols id = r.keyOf? symbols id :=
  keyOf?_congr (subscribers_withRoute r key routed) (suffix_withRoute r key routed) symbols id

@[simp] theorem refusal?_withRoute (r : Roster) (key : Option RouteKey) (routed : SubscriptionId)
    (symbols : SymbolTable) (id : SubscriptionId) :
    (r.withRoute key routed).refusal? symbols id = r.refusal? symbols id :=
  refusal?_congr (subscribers_withRoute r key routed) (suffix_withRoute r key routed) symbols id

theorem handlersFor_withRoute (r : Roster) (key : Option RouteKey) (id : SubscriptionId)
    (key' : RouteKey) :
    (r.withRoute key id).handlersFor key' =
      r.handlersFor key' ++ if key = some key' then [id] else [] := by
  cases key with
  | none => simp [withRoute]
  | some key => simpa [withRoute, handlersFor] using Multimap.get_push r.byKey key key' id

theorem routedIds_withRoute (r : Roster) (key : Option RouteKey) (id : SubscriptionId) :
    (r.withRoute key id).routedIds.Perm (r.routedIds ++ if key.isSome then [id] else []) := by
  cases key with
  | none => simp [withRoute]
  | some key => simpa [withRoute, routedIds] using Multimap.values_push r.byKey key id

/-- An id that was given out has an answer, and its route is that of its key. -/
theorem route?_eq {r : Roster} {id : SubscriptionId} {signature : Signature}
    (h : r.signature? id = some signature) (symbols : SymbolTable) :
    r.route? symbols id =
      some (r.resolve symbols signature, r.withRoute (r.keyOf? symbols id) id) := by
  unfold route? keyOf?
  rw [h]
  simp only [Option.bind_some]
  cases r.resolve symbols signature <;> rfl

/-- An id that was given out has an answer. -/
theorem route?_isSome {r : Roster} {id : SubscriptionId} (h : id < r.size)
    (symbols : SymbolTable) : (r.route? symbols id).isSome = true := by
  obtain ⟨signature, hs⟩ := Option.isSome_iff_exists.mp (signature?_isSome h)
  rw [route?_eq hs symbols]
  rfl

/-- Routing one id adds it to the bucket of its key and nowhere else. -/
theorem handlersFor_route? {r r' : Roster} {symbols : SymbolTable} {id : SubscriptionId}
    {result : Except ResolveError RouteKey} (h : r.route? symbols id = some (result, r'))
    (key : RouteKey) :
    r'.handlersFor key =
      r.handlersFor key ++ if r.keyOf? symbols id = some key then [id] else [] := by
  cases hs : r.signature? id with
  | none => simp [route?, hs] at h
  | some signature =>
    rw [route?_eq hs symbols] at h
    cases h
    exact handlersFor_withRoute r _ id key

/-! ## Routing all ids -/

/-- The routes of a list of ids, added in order. -/
def withRoutes (r : Roster) (symbols : SymbolTable) (ids : List SubscriptionId) : Roster :=
  ids.foldl (fun r' id => r'.withRoute (r.keyOf? symbols id) id) r

/-- A report with one more id in it: counted if it got a key, listed if it was refused one. -/
def noting (report : ResolutionReport) (id : SubscriptionId) (key : Option RouteKey)
    (refusal : Option ResolveError) : ResolutionReport :=
  ⟨report.registered + key.toList.length,
    report.rejected ++ (refusal.map fun e => (id, e)).toList⟩

/-- One id of a load: its route is added, and the report takes note of it. -/
theorem routeEach_cons (symbols : SymbolTable) (id : SubscriptionId) (ids : List SubscriptionId)
    (r : Roster) (report : ResolutionReport) :
    routeEach symbols (id :: ids) (r, report) =
      routeEach symbols ids (r.withRoute (r.keyOf? symbols id) id,
        noting report id (r.keyOf? symbols id) (r.refusal? symbols id)) := by
  cases hs : r.signature? id with
  | none =>
    have hroute : r.route? symbols id = none := by simp [route?, hs]
    have hkey : r.keyOf? symbols id = none := by simp [keyOf?, hs]
    have hrefusal : r.refusal? symbols id = none := by simp [refusal?, hs]
    simp [routeEach, hroute, hkey, hrefusal, withRoute, noting]
  | some signature =>
    have hroute := route?_eq hs symbols
    rw [routeEach, hroute, keyOf?_of_signature hs, refusal?, hs, Option.bind_some]
    cases r.resolve symbols signature with
    | ok key => simp [Except.toOption, noting]
    | error e => simp [Except.toOption, noting]

theorem routeEach_fst (symbols : SymbolTable) (ids : List SubscriptionId) (r : Roster)
    (report : ResolutionReport) :
    (routeEach symbols ids (r, report)).1 = r.withRoutes symbols ids := by
  induction ids generalizing r report with
  | nil => rfl
  | cons id ids ih =>
    -- the roster of the rest has one route more, but its keys stay those of `r`
    rw [routeEach_cons, ih, withRoutes, withRoutes, List.foldl_cons]
    simp only [keyOf?_withRoute]

theorem withRoutes_concat (r : Roster) (symbols : SymbolTable) (ids : List SubscriptionId)
    (id : SubscriptionId) :
    r.withRoutes symbols (ids ++ [id]) =
      (r.withRoutes symbols ids).withRoute (r.keyOf? symbols id) id := by
  simp [withRoutes]

/-- Routes are all that is added. -/
theorem unrouted_withRoutes (r : Roster) (symbols : SymbolTable) (ids : List SubscriptionId) :
    (r.withRoutes symbols ids).unrouted = r.unrouted := by
  induction ids using List.reverseRecOn with
  | nil => rfl
  | append_singleton ids id ih => rw [withRoutes_concat, unrouted_withRoute, ih]

theorem handlersFor_withRoutes (r : Roster) (symbols : SymbolTable) (ids : List SubscriptionId)
    (key : RouteKey) :
    (r.withRoutes symbols ids).handlersFor key =
      r.handlersFor key ++ ids.filter fun id => r.keyOf? symbols id = some key := by
  induction ids using List.reverseRecOn with
  | nil => simp [withRoutes]
  | append_singleton ids id ih =>
    rw [withRoutes_concat, handlersFor_withRoute, ih, List.filter_append, List.append_assoc]
    by_cases h : r.keyOf? symbols id = some key <;> simp [h]

theorem routedIds_withRoutes (r : Roster) (symbols : SymbolTable) (ids : List SubscriptionId) :
    (r.withRoutes symbols ids).routedIds.Perm
      (r.routedIds ++ ids.filter fun id => (r.keyOf? symbols id).isSome) := by
  induction ids using List.reverseRecOn with
  | nil => simp [withRoutes]
  | append_singleton ids id ih =>
    rw [withRoutes_concat]
    refine (routedIds_withRoute _ _ id).trans ?_
    rw [List.filter_append, ← List.append_assoc]
    refine List.Perm.append ih ?_
    cases h : r.keyOf? symbols id <;> simp [h]

/-! ## Loading -/

section Reload
variable (r : Roster) (symbols : SymbolTable)

theorem reload_fst : (r.reload symbols).1 = r.unrouted.withRoutes symbols (List.range r.size) :=
  routeEach_fst symbols (List.range r.size) r.unrouted ⟨0, []⟩

/-- A load changes nothing but the routes. -/
theorem unrouted_reload : (r.reload symbols).1.unrouted = r.unrouted := by
  rw [reload_fst, unrouted_withRoutes]
  rfl

@[simp] theorem subscribers_reload : (r.reload symbols).1.subscribers = r.subscribers := by
  have hunrouted := congrArg Roster.subscribers (unrouted_reload r symbols)
  exact hunrouted

@[simp] theorem suffix_reload : (r.reload symbols).1.suffix = r.suffix := by
  have hunrouted := congrArg Roster.suffix (unrouted_reload r symbols)
  exact hunrouted

@[simp] theorem size_reload : (r.reload symbols).1.size = r.size := by
  simp [size]

@[simp] theorem withSignature_reload (signature : Signature) :
    (r.reload symbols).1.withSignature signature = r.withSignature signature := by
  have hunrouted := congrArg (withSignature · signature) (unrouted_reload r symbols)
  exact hunrouted

theorem keyOf?_reload (symbols' : SymbolTable) (id : SubscriptionId) :
    (r.reload symbols).1.keyOf? symbols' id = r.keyOf? symbols' id :=
  keyOf?_congr (subscribers_reload r symbols) (suffix_reload r symbols) symbols' id

/-- After a load the bucket of a key holds, in order, exactly the ids that the story gives this
key. -/
theorem handlersFor_reload (key : RouteKey) :
    (r.reload symbols).1.handlersFor key =
      (List.range r.size).filter fun id => r.keyOf? symbols id = some key := by
  rw [reload_fst, handlersFor_withRoutes]
  rfl

/-- After a load all buckets together hold every id that the story gives a key, once. -/
theorem routedIds_reload :
    (r.reload symbols).1.routedIds.Perm
      ((List.range r.size).filter fun id => (r.keyOf? symbols id).isSome) := by
  rw [reload_fst]
  exact routedIds_withRoutes r.unrouted symbols (List.range r.size)

end Reload

end Roster

end StoryHooks
