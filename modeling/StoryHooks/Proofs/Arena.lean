import StoryHooks.Proofs.Rerouting
import StoryHooks.Subscription.Session

/-!
# The arena of subscriptions

A firing that has begun knows its subscriptions by number only. So a number has to stand for the
same subscription for good, whatever is added, routed, refused or loaded meanwhile. What a roster
holds is read off the additions alone: the subscribers in the order they came, and each id under its
signature. The map by key is the one part that routing changes, and it holds ids that were given
out.

Results:
1. `Holds.step`: a request leaves what a roster holds as it is, but for an addition at the end.
2. `replies_added`: the ids are given out in order.
3. `arena_grows`: so after any requests an id answers with what it was given out for.
-/

namespace StoryHooks.Roster

/-- The subscriber that a request adds. -/
def Request.subscriber? : Request → Option Subscriber
  | .add s h => some ⟨s, h⟩
  | _ => none

/-- The id that a reply gives out. -/
def Reply.added? : Reply → Option SubscriptionId
  | .added id => some id
  | _ => none

/-- What requests add, in order. -/
def added (requests : List Request) : List Subscriber := requests.filterMap Request.subscriber?

theorem added_cons (request : Request) (requests : List Request) :
    added (request :: requests) = request.subscriber?.toList ++ added requests := by
  rw [added, List.filterMap_cons]
  cases request.subscriber? <;> rfl

/-- The session after a list of requests. -/
def Session.after (s : Session) (requests : List Request) : Session :=
  requests.foldl (fun s request => (s.step request).2) s

/-- The positions of the subscribers to a signature. -/
def idsOf (subscribers : List Subscriber) (signature : Signature) : List SubscriptionId :=
  (List.range subscribers.length).filter fun id =>
    subscribers[id]?.map Subscriber.signature = some signature

section IdsOf
variable {subscribers : List Subscriber} {signature : Signature}

theorem mem_idsOf {id : SubscriptionId} :
    id ∈ idsOf subscribers signature ↔
      subscribers[id]?.map Subscriber.signature = some signature := by
  rw [idsOf, List.mem_filter, decide_eq_true_iff, List.mem_range, and_iff_right_iff_imp]
  intro h
  obtain ⟨subscriber, hs, -⟩ := Option.map_eq_some_iff.mp h
  exact (List.getElem?_eq_some_iff.mp hs).1

theorem pairwise_idsOf : (idsOf subscribers signature).Pairwise (· < ·) :=
  List.pairwise_lt_range.filter _

theorem idsOf_concat (subscriber : Subscriber) :
    idsOf (subscribers ++ [subscriber]) signature =
      idsOf subscribers signature ++
        if subscriber.signature = signature then [subscribers.length] else [] := by
  have hold : (List.range subscribers.length).filter (fun id =>
      (subscribers ++ [subscriber])[id]?.map Subscriber.signature = some signature) =
      idsOf subscribers signature := by
    refine List.filter_congr fun id hid => ?_
    rw [List.getElem?_append_left (List.mem_range.mp hid)]
  rw [idsOf, List.length_append, List.length_singleton, List.range_succ, List.filter_append, hold]
  by_cases h : subscriber.signature = signature <;> simp [h]

end IdsOf

/-- What a roster holds are these subscribers: they are kept by position, their positions are listed
by signature, and no other positions are listed by key. -/
structure Holds (r : Roster) (subscribers : List Subscriber) : Prop where
  subscribers_eq : r.subscribers = subscribers
  withSignature_eq (signature : Signature) : r.withSignature signature = idsOf subscribers signature
  handlersFor_lt (key : RouteKey) : ∀ id ∈ r.handlersFor key, id < subscribers.length

namespace Holds

variable {r r' : Roster} {subscribers : List Subscriber}

theorem empty (suffix : String) : (Roster.empty suffix).Holds [] :=
  ⟨rfl, fun _ => rfl, fun _ => List.forall_mem_nil _⟩

theorem size_eq (h : r.Holds subscribers) : r.size = subscribers.length :=
  congrArg List.length h.subscribers_eq

theorem handler?_eq (h : r.Holds subscribers) (id : SubscriptionId) :
    r.handler? id = subscribers[id]?.map Subscriber.handler := by
  rw [handler?, h.subscribers_eq]

theorem exists_handler (h : r.Holds subscribers) {id : SubscriptionId}
    (hid : id < subscribers.length) : ∃ handler, r.handler? id = some handler := by
  rw [h.handler?_eq, List.getElem?_eq_getElem hid]
  exact ⟨_, rfl⟩

theorem signature?_eq (h : r.Holds subscribers) (id : SubscriptionId) :
    r.signature? id = subscribers[id]?.map Subscriber.signature := by
  rw [signature?, h.subscribers_eq]

theorem mem_withSignature (h : r.Holds subscribers) {signature : Signature} {id : SubscriptionId} :
    id ∈ r.withSignature signature ↔ r.signature? id = some signature := by
  rw [h.withSignature_eq, mem_idsOf, h.signature?_eq]

theorem add (h : r.Holds subscribers) (signature : Signature) (handler : HandlerRef) :
    (r.add signature handler).2.Holds (subscribers ++ [⟨signature, handler⟩]) where
  subscribers_eq := by rw [subscribers_add, h.subscribers_eq]
  withSignature_eq signature' := by
    rw [withSignature_add, h.withSignature_eq, h.size_eq, idsOf_concat]
  handlersFor_lt key id hid := by
    rw [List.length_append]
    exact Nat.lt_succ_of_lt (h.handlersFor_lt key id hid)

theorem route? (h : r.Holds subscribers) {symbols : SymbolTable} {id : SubscriptionId}
    {result : Except ResolveError RouteKey} (hr : r.route? symbols id = some (result, r')) :
    r'.Holds subscribers := by
  cases hs : r.signature? id with
  | none => simp [Roster.route?, hs] at hr
  | some signature =>
    rw [route?_eq hs symbols] at hr
    cases hr
    have hlt : id < subscribers.length := h.size_eq ▸ signature?_lt hs
    refine ⟨(subscribers_withRoute ..).trans h.subscribers_eq,
      fun _ => (withSignature_withRoute ..).trans (h.withSignature_eq _), fun key id' hid => ?_⟩
    rw [handlersFor_withRoute, List.mem_append] at hid
    rcases hid with hid | hid
    · exact h.handlersFor_lt key id' hid
    · rwa [(List.mem_ite_nil_right.mp hid).2 |> List.mem_singleton.mp]

theorem reload (h : r.Holds subscribers) (symbols : SymbolTable) :
    (r.reload symbols).1.Holds subscribers where
  subscribers_eq := (subscribers_reload ..).trans h.subscribers_eq
  withSignature_eq _ := (withSignature_reload ..).trans (h.withSignature_eq _)
  handlersFor_lt key id hid := by
    rw [handlersFor_reload] at hid
    exact h.size_eq ▸ List.mem_range.mp ((List.mem_filter.mp hid).1)

variable {s : Session}

/-- A request leaves what a roster holds as it is, but for an addition at the end. -/
theorem step (h : s.roster.Holds subscribers) (request : Request) :
    (s.step request).2.roster.Holds (subscribers ++ request.subscriber?.toList) := by
  have hsame {r : Roster} (hr : r.Holds subscribers) : r.Holds (subscribers ++ []) := by
    rwa [List.append_nil]
  cases request with
  | add signature handler => exact h.add signature handler
  | route id =>
    refine hsame ?_
    rw [Session.step]
    split
    · exact h
    · next hr => exact h.route? hr
  | reload => exact hsame (h.reload s.symbols)
  | _ => exact hsame h

theorem after (h : s.roster.Holds subscribers) (requests : List Request) :
    (s.after requests).roster.Holds (subscribers ++ added requests) := by
  induction requests generalizing s subscribers with
  | nil => rwa [added, List.filterMap_nil, List.append_nil]
  | cons request requests ih =>
    have hafter := ih (h.step request)
    rw [List.append_assoc] at hafter
    rwa [added_cons]

end Holds

namespace Session

variable {s : Session}

/-- An addition, and no other request, gives out an id: the number of subscribers before it. -/
theorem added?_step (s : Session) (request : Request) :
    (s.step request).1.added? = request.subscriber?.map fun _ => s.roster.size := by
  cases request with
  | route id =>
    rw [step]
    split <;> rfl
  | _ => rfl

/-- The ids are given out in order. -/
theorem replies_added {subscribers : List Subscriber} (h : s.roster.Holds subscribers)
    (requests : List Request) :
    (s.run requests).filterMap (fun done => done.1.added?) =
      List.range' subscribers.length (added requests).length := by
  induction requests generalizing s subscribers with
  | nil => rfl
  | cons request requests ih =>
    have hrest := ih (h.step request)
    rw [run, List.filterMap_cons, s.added?_step, hrest, added_cons]
    cases request.subscriber? with
    | none => simp
    | some subscriber =>
      simp only [Option.map_some, Option.toList_some, List.length_append, List.length_singleton,
        h.size_eq]
      rw [Nat.add_comm 1, List.range'_succ]

/-- Whatever requests are made of a new roster and the symbols:

* ids are given out in order, the next one being the number of additions so far, and from then on an
  id answers with the signature and the handler it was given out for;
* the ids of a signature are those given out for it, in increasing order, and only additions change
  them; so an id is found under exactly one signature;
* an id routed to a key was given out, and its handler is found. -/
theorem arena_grows (suffix : String) (requests : List Request) :
    let s := (start suffix).after requests
    ((start suffix).run requests).filterMap (fun done => done.1.added?) =
      List.range (added requests).length ∧
    s.roster.size = (added requests).length ∧
    (∀ id, s.roster.handler? id = (added requests)[id]?.map Subscriber.handler ∧
      s.roster.signature? id = (added requests)[id]?.map Subscriber.signature) ∧
    (∀ signature handler, ∃ t,
      s.step (.add signature handler) = (.added (added requests).length, t) ∧
      ∀ later, (t.after later).roster.handler? (added requests).length = some handler ∧
        (t.after later).roster.signature? (added requests).length = some signature) ∧
    (∀ signature, (s.roster.withSignature signature).Pairwise (· < ·) ∧
      (∀ id, id ∈ s.roster.withSignature signature ↔
        (added requests)[id]?.map Subscriber.signature = some signature) ∧
      ∀ later, added later = [] →
        (s.after later).roster.withSignature signature = s.roster.withSignature signature) ∧
    (∀ id < s.roster.size, ∃! signature, id ∈ s.roster.withSignature signature) ∧
    ∀ key, ∀ id ∈ s.roster.handlersFor key,
      id < s.roster.size ∧ ∃ handler, s.roster.handler? id = some handler := by
  have hstart : (start suffix).roster.Holds [] := .empty suffix
  intro s
  have hs : s.roster.Holds (added requests) := hstart.after requests
  refine ⟨?_, hs.size_eq, fun id => ⟨hs.handler?_eq id, hs.signature?_eq id⟩, ?_, ?_, ?_, ?_⟩
  · rw [replies_added hstart, List.range_eq_range']
    rfl
  · intro signature handler
    refine ⟨_, congrArg (fun id => (Reply.added id, _)) hs.size_eq, fun later => ?_⟩
    have ht := (hs.step (.add signature handler)).after later
    have hnew : (added requests ++ [⟨signature, handler⟩] ++ added later)[
        (added requests).length]? = some ⟨signature, handler⟩ := by
      simp
    exact ⟨(ht.handler?_eq _).trans (congrArg (Option.map Subscriber.handler) hnew),
      (ht.signature?_eq _).trans (congrArg (Option.map Subscriber.signature) hnew)⟩
  · intro signature
    refine ⟨hs.withSignature_eq signature ▸ pairwise_idsOf, fun id => ?_, fun later hnone => ?_⟩
    · rw [hs.withSignature_eq, mem_idsOf]
    · have hlater := hs.after later
      rw [hnone, List.append_nil] at hlater
      rw [hlater.withSignature_eq, hs.withSignature_eq]
  · intro id hid
    obtain ⟨signature, hsignature⟩ := Option.isSome_iff_exists.mp (signature?_isSome hid)
    refine ⟨signature, hs.mem_withSignature.mpr hsignature, fun signature' h => ?_⟩
    exact Option.some.inj ((hs.mem_withSignature.mp h).symm.trans hsignature)
  · intro key id hid
    have hlt := hs.handlersFor_lt key id hid
    exact ⟨hs.size_eq ▸ hlt, hs.exists_handler hlt⟩

/-- One subscription is routed by a load and then once more, another is refused. A load of a story
without the symbol takes both routes away and leaves the two ids where they were. -/
theorem arena_survives_loads :
    let hit : Signature := ⟨"Hit", 1, .before⟩
    let s := (start "__DEF__").after
      [.define "Hit" 1 ⟨.event, ⟨7⟩, none⟩, .add hit ⟨3⟩, .add ⟨"Miss", 0, .after⟩ ⟨5⟩, .reload,
        .route 0]
    s.roster.handlersFor (.function ⟨7⟩ false) = [0, 0] ∧
      (∃ handler, s.roster.handler? 0 = some handler) ∧
      (∃! signature, 1 ∈ s.roster.withSignature signature) ∧
      (s.after [.clear, .reload]).roster.withSignature hit = s.roster.withSignature hit ∧
      s.roster.withSignature hit = [0] := by
  obtain ⟨-, -, -, -, hlisted, hunique, hrouted⟩ := arena_grows "__DEF__"
    [.define "Hit" 1 ⟨.event, ⟨7⟩, none⟩, .add ⟨"Hit", 1, .before⟩ ⟨3⟩,
      .add ⟨"Miss", 0, .after⟩ ⟨5⟩, .reload, .route 0]
  exact ⟨by decide +kernel, (hrouted (.function ⟨7⟩ false) 0 (by decide +kernel)).2,
    hunique 1 (by decide +kernel), (hlisted _).2.2 [.clear, .reload] rfl, by decide +kernel⟩

end Session

end StoryHooks.Roster
