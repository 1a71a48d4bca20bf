/-!
# TOML values

A document is a table. A table remembers how it came to be, because that decides what may still be
added to it.
-/

namespace StoryHooks.Document

/-- How a table came to be. -/
inductive Origin
  /-- It has a header of its own, or is the document. -/
  | header
  /-- It is on the way to the table of a header. -/
  | implied
  /-- It is on the way to a dotted key. -/
  | dotted
  /-- It stands between braces and is complete. -/
  | inline
deriving DecidableEq, Repr

inductive Value
  | string (s : String)
  /-- What is written like an integer, and the number that it spells, if it spells one. -/
  | integer (n : Option Int)
  /-- A float; all that matters of it is whether it is too large for a 64-bit number. -/
  | float (tooLarge : Bool)
  | boolean (b : Bool)
  | datetime
  /-- An array; one that headers build can grow. -/
  | array (grows : Bool) (items : List Value)
  | table (origin : Origin) (entries : List (String × Value))

/-- The entries of a table, in order of appearance; no key occurs twice. -/
abbrev Entries := List (String × Value)

def Entries.put (entries : Entries) (key : String) (value : Value) : Entries :=
  if entries.any fun entry => entry.1 == key then
    entries.map fun entry => if entry.1 == key then (key, value) else entry
  else entries ++ [(key, value)]

/-- A change to the entries of the table reached, which is told how that table came to be. -/
abbrev Edit := Origin → Entries → Option Entries

/-- Changes the table at the end of a path. Tables missing on the way are created. A dotted key
passes through tables of dotted keys and headers' ways only; neither passes an inline table; the way
through an array of tables leads to its last one. -/
def edit (viaDots : Bool) (change : Edit) : List String → Edit
  | [], origin, entries => change origin entries
  | key :: path, _, entries =>
    match entries.lookup key with
    | none =>
      let origin := if viaDots then Origin.dotted else Origin.implied
      (edit viaDots change path origin []).map fun inner => entries.put key (.table origin inner)
    | some (.table origin inner) =>
      if origin = .inline || (viaDots && origin == .header) then none
      else
        (edit viaDots change path origin inner).map fun inner =>
          entries.put key (.table origin inner)
    | some (.array true items) =>
      match items.getLast? with
      | some (.table origin inner) =>
        (edit viaDots change path origin inner).map fun inner =>
          entries.put key (.array true (items.dropLast ++ [.table origin inner]))
      | _ => none
    | some _ => none

/-- Adds an entry under a dotted key. The table of the last part must be one of dotted keys, unless
the key has one part only. No key is given twice. -/
def insertDotted (path : List String) (key : String) (value : Value) : Edit :=
  edit true
    (fun origin entries =>
      if (origin = .dotted) = (path ≠ []) ∧ (entries.lookup key).isNone then
        some (entries ++ [(key, value)])
      else none)
    path

/-- Opens the table of a header: a new one, or one that other headers have implied. -/
def openTable (key : String) : Edit := fun _ entries =>
  match entries.lookup key with
  | none => some (entries.put key (.table .header []))
  | some (.table .implied inner) => some (entries.put key (.table .header inner))
  | some _ => none

/-- Opens the next table of an array of tables. -/
def openItem (key : String) : Edit := fun _ entries =>
  match entries.lookup key with
  | none => some (entries.put key (.array true [.table .header []]))
  | some (.array true items) => some (entries.put key (.array true (items ++ [.table .header []])))
  | some _ => none

end StoryHooks.Document
