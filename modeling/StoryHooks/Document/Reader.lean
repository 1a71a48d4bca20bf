import StoryHooks.Document.Text
import StoryHooks.Document.Scalar

/-!
# TOML documents

A document is read line by line: a header changes the table that entries go to, and an entry is
added to that table. Only whether a text is a document and what it holds is told, not what is wrong
with a text that is none.
-/

namespace StoryHooks.Document

mutual

/-- A value. The budget shrinks with every value and element; the nesting counts the arrays and
inline tables around. -/
def value : Nat → Nat → Reader Value
  | 0, _, _ => none
  | fuel + 1, nesting, cs =>
    match cs with
    | '[' :: cs =>
      if maxNesting ≤ nesting then none
      else (items fuel (nesting + 1) cs).map fun (items, cs) => (.array false items, cs)
    | '\x7b' :: cs =>
      if maxNesting ≤ nesting then none
      else
        (fields fuel (nesting + 1) [] cs).map fun (entries, cs) => (.table .inline entries, cs)
    | '\x22' :: _ | '\x27' :: _ => (anyString cs).map fun (s, cs) => (.string s, cs)
    | cs => scalar cs

def items : Nat → Nat → Reader (List Value)
  | 0, _, _ => none
  | fuel + 1, nesting, cs => do
    let cs ← skipLines cs.length cs
    match cs with
    | ']' :: cs => some ([], cs)
    | cs =>
      let (item, cs) ← value fuel nesting cs
      let cs ← skipLines cs.length cs
      match cs with
      | ']' :: cs => some ([item], cs)
      | ',' :: cs => (items fuel nesting cs).map fun (rest, cs) => (item :: rest, cs)
      | _ => none

/-- The entries of an inline table, after its brace or a comma, added to those before them. Line
ends and comments may stand between all its parts. -/
def fields : Nat → Nat → Entries → Reader Entries
  | 0, _, _, _ => none
  | fuel + 1, nesting, entries, cs => do
    match ← skipLines cs.length cs with
    | '\x7d' :: cs => some (entries, cs)
    | cs =>
      let ((path, last), cs) ← key cs
      match ← skipLines cs.length cs with
      | '=' :: cs =>
        let (item, cs) ← value fuel nesting (← skipLines cs.length cs)
        let entries ← insertDotted path last item .inline entries
        match ← skipLines cs.length cs with
        | '\x7d' :: cs => some (entries, cs)
        | ',' :: cs => fields fuel nesting entries cs
        | _ => none
      | _ => none

end

/-- A document being read: its table and the path of the header that entries belong to. -/
structure Draft where
  root : Entries
  header : List String

def Draft.insert (d : Draft) (path : List String) (last : String) (value : Value) : Option Draft :=
  (edit false (insertDotted path last value) d.header .header d.root).map fun root =>
    { d with root }

/-- Turns to the table of a header. -/
def Draft.turn (d : Draft) (path : List String) (last : String) (change : Edit) : Option Draft :=
  (edit false change path .header d.root).map fun root => ⟨root, path ++ [last]⟩

/-- A header, after its brackets, and the brackets that close it. -/
def header (closing : List Char) : Reader (List String × String) := fun cs => do
  let (parts, cs) ← key (skipBlanks cs)
  if closing.isPrefixOf cs then some (parts, cs.drop closing.length) else none

/-- One line: nothing, a header or an entry. -/
def line (d : Draft) (cs : List Char) : Option (Draft × List Char) :=
  match skipBlanks cs with
  | '[' :: '[' :: cs => do
    let ((path, last), cs) ← header [']', ']'] cs
    let d ← d.turn path last (openItem last)
    (finishLine cs).map fun cs => (d, cs)
  | '[' :: cs => do
    let ((path, last), cs) ← header [']'] cs
    let d ← d.turn path last (openTable last)
    (finishLine cs).map fun cs => (d, cs)
  | cs =>
    match cs with
    | [] | '\n' :: _ | '\r' :: _ | '\x23' :: _ => (finishLine cs).map fun cs => (d, cs)
    | cs => do
      let ((path, last), cs) ← key cs
      match cs with
      | '=' :: cs =>
        let cs := skipBlanks cs
        let (item, cs) ← value (cs.length + 1) 0 cs
        let d ← d.insert path last item
        (finishLine cs).map fun cs => (d, cs)
      | _ => none

/-- All lines. Each takes at least one character. -/
def lines : Nat → Draft → List Char → Option Entries
  | _, d, [] => some d.root
  | 0, _, _ => none
  | fuel + 1, d, cs =>
    match line d cs with
    | none => none
    | some (d, cs) => lines fuel d cs

/-- The table of a document. A byte order mark in front is skipped. -/
def document? (text : String) : Option Entries :=
  let cs := match text.toList with
    | '\ufeff' :: cs => cs
    | cs => cs
  lines cs.length ⟨[], []⟩ cs

end StoryHooks.Document
