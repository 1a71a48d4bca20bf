import StoryHooks.Text.Quoted

/-!
# Hook phases

The point, relative to an engine operation, at which a subscriber runs.
-/

namespace StoryHooks

/-- Before or after an operation, or before or after its deletion. -/
inductive Phase
  | before
  | after
  | beforeDelete
  | afterDelete
deriving DecidableEq, Repr, Inhabited

namespace Phase

def all : List Phase := [before, after, beforeDelete, afterDelete]

def rank : Phase → Nat
  | before => 0
  | after => 1
  | beforeDelete => 2
  | afterDelete => 3

def isAfter : Phase → Bool
  | after | afterDelete => true
  | before | beforeDelete => false

def isDelete : Phase → Bool
  | beforeDelete | afterDelete => true
  | before | after => false

def name : Phase → String
  | before => "before"
  | after => "after"
  | beforeDelete => "beforeDelete"
  | afterDelete => "afterDelete"

/-- The phase of a name. Names are case sensitive and stand alone. -/
def ofName? : String → Option Phase
  | "before" => some before
  | "after" => some after
  | "beforeDelete" => some beforeDelete
  | "afterDelete" => some afterDelete
  | _ => none

def unknownMessage (text : String) : String :=
  "Unknown hook phase " ++ Text.quoted text ++
    "; expected before, after, beforeDelete or afterDelete"

@[simp] theorem ofName?_name (p : Phase) : ofName? p.name = some p := by cases p <;> rfl

end Phase

end StoryHooks
