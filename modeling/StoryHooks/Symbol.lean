import StoryHooks.RouteKey

/-!
# Story symbols

The story's symbol table answers one question: what is `name/arity`?
-/

namespace StoryHooks

/-- The kinds of story symbols, as far as hooking them is concerned. -/
inductive SymbolKind
  /-- Raised by the engine; hooked where it is raised. -/
  | event
  /-- A built-in query with a graph node of its own. -/
  | query
  /-- An engine call; hooked where it is made. -/
  | call
  | database
  | proc
  /-- A query defined by the story. It is hooked through a symbol with a decorated name. -/
  | derivedQuery
  | other
deriving DecidableEq, Repr

namespace SymbolKind

/-- Hooked by function, where it is called, and not by graph node. -/
def isCallBoundary : SymbolKind → Bool
  | event | call => true
  | _ => false

/-- Can be hooked at all, given a graph node where one is needed. -/
def isHookable : SymbolKind → Bool
  | other => false
  | _ => true

def name : SymbolKind → String
  | event => "Event"
  | query => "Query"
  | call => "Call"
  | database => "Database"
  | proc => "Proc"
  | derivedQuery => "DerivedQuery"
  | other => "Other"

end SymbolKind

structure Symbol where
  kind : SymbolKind
  function : FunctionId
  /-- The graph node behind the symbol, if it has one. -/
  node : Option NodeId
deriving DecidableEq, Repr

/-- A symbol table: at most one symbol for a name and an arity. -/
structure SymbolTable where
  entries : List ((String × UInt32) × Symbol)
deriving Repr

namespace SymbolTable

def empty : SymbolTable := ⟨[]⟩

def lookup (t : SymbolTable) (name : String) (arity : UInt32) : Option Symbol :=
  t.entries.lookup (name, arity)

def remove (t : SymbolTable) (name : String) (arity : UInt32) : SymbolTable :=
  ⟨t.entries.filter fun entry => entry.1 ≠ (name, arity)⟩

/-- With a symbol, in place of an earlier one of that name and arity. -/
def define (t : SymbolTable) (name : String) (arity : UInt32) (symbol : Symbol) : SymbolTable :=
  ⟨((name, arity), symbol) :: (t.remove name arity).entries⟩

end SymbolTable

end StoryHooks
