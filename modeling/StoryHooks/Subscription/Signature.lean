import StoryHooks.Symbol

/-!
# What a subscription listens for

A signature names a story symbol by name and arity and a phase. Resolving it against a symbol table
gives the routing key of its firings, or the reason why it has none.
-/

namespace StoryHooks

/-- A story symbol, by name and arity, and the phase at which to run. -/
structure Signature where
  name : String
  arity : UInt32
  phase : Phase
deriving DecidableEq, Repr

namespace Signature

/-- `name/arity`. -/
def symbolText (s : Signature) : String := s.name ++ "/" ++ toString s.arity.toNat

/-- `name/arity (phase)`. -/
def text (s : Signature) : String := s.symbolText ++ " (" ++ s.phase.name ++ ")"

end Signature

inductive Refusal
  /-- The story has no such symbol, or no symbol behind a derived query. -/
  | symbolNotFound
  /-- The symbol is of a kind that cannot be hooked, or lacks the graph node that its kind needs. -/
  | notHookable
  /-- Events and calls are not deleted. -/
  | deleteTriggerUnsupported
deriving DecidableEq, Repr

/-- A refusal with the signature that it is about. -/
structure ResolveError where
  refusal : Refusal
  signature : Signature
deriving DecidableEq, Repr

namespace ResolveError

/-- The wording. A symbol is named as the subscriber wrote it. -/
def message (e : ResolveError) : String :=
  "Couldn't register Osiris subscriber for " ++ e.signature.symbolText ++ ": " ++
    match e.refusal with
    | .symbolNotFound => "Symbol not found in story."
    | .notHookable => "Symbol must be an event, query, call, DB, PROC or QRY."
    | .deleteTriggerUnsupported =>
      e.signature.phase.name ++ " triggers not supported on events or calls."

end ResolveError

/-- The key of a symbol at a phase. Events and calls are keyed by function, all else by node. -/
def Symbol.routeKey (symbol : Symbol) (phase : Phase) : Except Refusal RouteKey :=
  if ¬ symbol.kind.isHookable then .error .notHookable
  else if symbol.kind.isCallBoundary then
    match RouteKey.ofFunction? symbol.function phase with
    | some key => .ok key
    | none => .error .deleteTriggerUnsupported
  else
    match symbol.node with
    | some node => .ok (RouteKey.ofNode node phase)
    | none => .error .notHookable

/-- The symbol that a name stands for. A derived query is looked up once more, under its name with
the suffix of derived queries. -/
def SymbolTable.find (symbols : SymbolTable) (suffix : String) (name : String) (arity : UInt32) :
    Option Symbol :=
  match symbols.lookup name arity with
  | none => none
  | some symbol =>
    if symbol.kind = .derivedQuery then symbols.lookup (name ++ suffix) arity else some symbol

def Signature.resolve (s : Signature) (suffix : String) (symbols : SymbolTable) :
    Except ResolveError RouteKey :=
  match symbols.find suffix s.name s.arity with
  | none => .error ⟨.symbolNotFound, s⟩
  | some symbol =>
    match symbol.routeKey s.phase with
    | .ok key => .ok key
    | .error refusal => .error ⟨refusal, s⟩

end StoryHooks
