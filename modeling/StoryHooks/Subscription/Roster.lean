import StoryHooks.Subscription.Signature
import StoryHooks.Multimap

/-!
# The subscriber roster

Subscriptions are kept for good, in the order they arrive; the position is the id. Two maps lead to
ids: one by signature, filled as subscriptions arrive, and one by routing key, which is what a
firing looks up. The second depends on the loaded story and is rebuilt with it.
-/

namespace StoryHooks

/-- A handler of the script machine. Only the machine that issued it knows what it refers to. -/
structure HandlerRef where
  number : Nat
deriving DecidableEq, Repr

def HandlerRef.text (h : HandlerRef) : String := "handler#" ++ toString h.number

/-- The position of a subscription. -/
abbrev SubscriptionId := Nat

structure Subscriber where
  signature : Signature
  handler : HandlerRef
deriving DecidableEq, Repr

structure ResolutionReport where
  registered : Nat
  rejected : List (SubscriptionId × ResolveError)
deriving DecidableEq, Repr

/-- Subscriptions and the two maps that lead to them. -/
structure Roster where
  subscribers : List Subscriber
  bySignature : Multimap Signature SubscriptionId
  byKey : Multimap RouteKey SubscriptionId
  /-- What the name of a derived query is extended by to find the symbol behind it. -/
  suffix : String
deriving Repr

namespace Roster

def defaultSuffix : String := "__DEF__"

def empty (suffix : String) : Roster := ⟨[], .empty, .empty, suffix⟩

def size (r : Roster) : Nat := r.subscribers.length

def isEmpty (r : Roster) : Bool := r.subscribers.isEmpty

/-- Adds a subscription and gives it the next id. It has no route yet. -/
def add (r : Roster) (signature : Signature) (handler : HandlerRef) :
    SubscriptionId × Roster :=
  (r.size,
    { r with
      subscribers := r.subscribers ++ [⟨signature, handler⟩]
      bySignature := r.bySignature.push signature r.size })

def handler? (r : Roster) (id : SubscriptionId) : Option HandlerRef :=
  r.subscribers[id]?.map Subscriber.handler

def signature? (r : Roster) (id : SubscriptionId) : Option Signature :=
  r.subscribers[id]?.map Subscriber.signature

/-- The subscriptions to exactly this signature. -/
def withSignature (r : Roster) (signature : Signature) : List SubscriptionId :=
  r.bySignature.get signature

def handlersFor (r : Roster) (key : RouteKey) : List SubscriptionId := r.byKey.get key

def activeRoutes (r : Roster) : Nat := r.byKey.size

def resolve (r : Roster) (symbols : SymbolTable) (signature : Signature) :
    Except ResolveError RouteKey :=
  signature.resolve r.suffix symbols

/-- Resolves a subscription and, if that succeeds, routes its id. There is no answer for an id that
was never given out. -/
def route? (r : Roster) (symbols : SymbolTable) (id : SubscriptionId) :
    Option (Except ResolveError RouteKey × Roster) :=
  match r.signature? id with
  | none => none
  | some signature =>
    match r.resolve symbols signature with
    | .ok key => some (.ok key, { r with byKey := r.byKey.push key id })
    | .error e => some (.error e, r)

def unrouted (r : Roster) : Roster := { r with byKey := .empty }

def routeEach (symbols : SymbolTable) :
    List SubscriptionId → Roster × ResolutionReport → Roster × ResolutionReport
  | [], done => done
  | id :: ids, (r, report) =>
    match r.route? symbols id with
    | none => routeEach symbols ids (r, report)
    | some (.ok _, r') =>
      routeEach symbols ids (r', { report with registered := report.registered + 1 })
    | some (.error e, r') =>
      routeEach symbols ids (r', { report with rejected := report.rejected ++ [(id, e)] })

def reload (r : Roster) (symbols : SymbolTable) : Roster × ResolutionReport :=
  routeEach symbols (List.range r.size) (r.unrouted, ⟨0, []⟩)

end Roster

end StoryHooks
