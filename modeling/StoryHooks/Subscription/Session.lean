import StoryHooks.Subscription.Roster

/-!
# Sessions with a roster

A roster beside a symbol table, and the requests that a session makes of the two.
-/

namespace StoryHooks.Roster

inductive Request
  | define (name : String) (arity : UInt32) (symbol : Symbol)
  | remove (name : String) (arity : UInt32)
  | clear
  | lookup (name : String) (arity : UInt32)
  | add (signature : Signature) (handler : HandlerRef)
  | resolve (signature : Signature)
  | route (id : SubscriptionId)
  | reload
  | handlersFor (key : RouteKey)
  | withSignature (signature : Signature)
  | handler (id : SubscriptionId)
  | signature (id : SubscriptionId)
deriving Repr

inductive Reply
  | done
  | symbol (found : Option Symbol)
  | added (id : SubscriptionId)
  | resolved (result : Except ResolveError RouteKey)
  /-- The id was never given out. -/
  | unknownId
  | reloaded (report : ResolutionReport)
  | ids (ids : List SubscriptionId)
  | handler (found : Option HandlerRef)
  | signature (found : Option Signature)

structure Session where
  roster : Roster
  symbols : SymbolTable
deriving Repr

namespace Session

def start (suffix : String) : Session := ⟨.empty suffix, .empty⟩

def step (s : Session) : Request → Reply × Session
  | .define name arity symbol => (.done, { s with symbols := s.symbols.define name arity symbol })
  | .remove name arity => (.done, { s with symbols := s.symbols.remove name arity })
  | .clear => (.done, { s with symbols := .empty })
  | .lookup name arity => (.symbol (s.symbols.lookup name arity), s)
  | .add signature handler =>
    let (id, roster) := s.roster.add signature handler
    (.added id, { s with roster })
  | .resolve signature => (.resolved (s.roster.resolve s.symbols signature), s)
  | .route id =>
    match s.roster.route? s.symbols id with
    | none => (.unknownId, s)
    | some (result, roster) => (.resolved result, { s with roster })
  | .reload =>
    let (roster, report) := s.roster.reload s.symbols
    (.reloaded report, { s with roster })
  | .handlersFor key => (.ids (s.roster.handlersFor key), s)
  | .withSignature signature => (.ids (s.roster.withSignature signature), s)
  | .handler id => (.handler (s.roster.handler? id), s)
  | .signature id => (.signature (s.roster.signature? id), s)

/-- The answers to a list of requests, each with the roster after it. -/
def run (s : Session) : List Request → List (Reply × Roster)
  | [] => []
  | request :: requests =>
    let (reply, s') := s.step request
    (reply, s'.roster) :: s'.run requests

end Session

end StoryHooks.Roster
