import StoryHooks.Settings.Basic
import StoryHooks.Text.Alphanumeric

/-!
# Log filters

A filter is a list of directives. A directive gives the least severe level that is shown, for all
targets or for those whose name starts with a given one; of the directives that fit a target the one
with the longest name decides, and a target that none fits is silent.

A directive is read by its marks: an equals sign before the level, brackets around the spans that it
is for. The marks are looked for between the blanks at the ends of the directive, and where one
stands is counted in bytes from there; the texts between the marks are then taken by these counts
from the directive with its blanks. So blanks in front shift what is read, and a count that ends
inside a character is a fault.
-/

namespace StoryHooks

/-- For which targets, and how many of the levels, counted from the most severe. -/
structure Directive where
  target : Option String
  levels : Nat
  /-- The directive is for what happens in certain spans and says nothing of anything else. -/
  spanned : Bool
deriving DecidableEq, Repr

/-- Directives, no two of them for the same target. -/
structure LogFilter where
  directives : List Directive
deriving DecidableEq, Repr

inductive FilterError
  | malformed
  /-- A text between two marks would begin or end inside a character. -/
  | misaligned
deriving DecidableEq, Repr

/-! ## Levels -/

/-- The number that decimal digits spell, with or without a plus sign in front. -/
def LogFilter.number? (text : String) : Option Nat :=
  let digits := match text.toList with
    | '+' :: cs => cs
    | cs => cs
  if digits.isEmpty || !digits.all Char.isDigit then none
  else some (digits.foldl (fun n c => 10 * n + (c.toNat - '0'.toNat)) 0)

def LogFilter.levels? (text : String) : Option Nat :=
  match number? text with
  | some n => if n ≤ Level.all.length then some n else none
  | none =>
    if text.toLower == "off" then some 0
    else (Level.all.find? fun level => text.toLower == level.name).map Level.rank

namespace Directive

/-! ## Reading a directive -/

def byteWidth (cs : List Char) : Nat := cs.foldl (fun n c => n + c.utf8Size) 0

/-- The characters before and after so many bytes, unless that is inside a character. -/
def splitBytes? : List Char → Nat → Option (List Char × List Char)
  | cs, 0 => some ([], cs)
  | [], _ + 1 => none
  | c :: cs, n + 1 =>
    if c.utf8Size ≤ n + 1 then
      (splitBytes? cs (n + 1 - c.utf8Size)).map fun (before, after) => (c :: before, after)
    else none

/-- The text from one count of bytes to another. -/
def between (whole : List Char) (start stop : Nat) : Except FilterError String :=
  match splitBytes? whole stop with
  | none => .error .misaligned
  | some (before, _) =>
    match splitBytes? before start with
    | none => .error .misaligned
    | some (_, text) => .ok (String.ofList text)

def fromByte (whole : List Char) (start : Nat) : Except FilterError String :=
  between whole start (byteWidth whole)

def isNameStart (c : Char) : Bool :=
  c == '-' || c == ':' || c == '_' || Text.isAlphanumeric c

/-- The levels of the text after an equals sign; without any text it is all of them. -/
def levelsOf (text : String) : Except FilterError Nat :=
  if text.isEmpty then .ok Level.all.length
  else
    match LogFilter.levels? text with
    | some levels => .ok levels
    | none => .error .malformed

/-- A directive without marks: a level for all targets, or else a target at all levels. -/
def ofName (text : String) : Directive :=
  match LogFilter.levels? text with
  | some levels => ⟨none, levels, false⟩
  | none => ⟨some text, Level.all.length, false⟩

/-- What follows the brackets of spans: nothing, or an equals sign and a level. The count is that of
the bytes before it. -/
def afterSpans (whole : List Char) (target : Option String) (count : Nat) :
    List Char → Except FilterError Directive
  | [] => .ok ⟨target, Level.all.length, true⟩
  | '=' :: _ => do
    let levels ← levelsOf (← fromByte whole (count + 1))
    return ⟨target, levels, true⟩
  | _ => .error .malformed

/-- Reads the spans of a directive, after their bracket: a name, then one field in braces or none.
The count is that of the bytes before them. -/
def ofSpans (whole : List Char) (target : Option String) (count : Nat) (cs : List Char) :
    Except FilterError Directive := do
  let isMark := fun c => c == ']' || c == '\x7b'
  let stop := count + byteWidth (cs.takeWhile fun c => !isMark c)
  match cs.dropWhile fun c => !isMark c with
  | ']' :: cs =>
    let _ ← between whole count stop
    afterSpans whole target (stop + 1) cs
  | '\x7b' :: cs =>
    let _ ← between whole count stop
    let field := cs.takeWhile (· != '\x7d')
    let fieldStop := stop + 1 + byteWidth field
    match cs.dropWhile (· != '\x7d') with
    | '\x7d' :: cs =>
      if (← between whole (stop + 1) fieldStop).isEmpty then .error .malformed
      else
        match cs with
        | ']' :: cs => afterSpans whole target (fieldStop + 2) cs
        | _ => .error .malformed
    | _ => .error .malformed
  | _ => .error .malformed

def ofText (text : String) : Except FilterError Directive := do
  let whole := text.toList
  match Text.trimBlanks whole with
  | [] => .error .malformed
  | '[' :: cs => ofSpans whole none 1 cs
  | c :: cs =>
    if !isNameStart c then .error .malformed
    else
      let isMark := fun c => c == '=' || c == '['
      let stop := byteWidth ((c :: cs).takeWhile fun c => !isMark c)
      match (c :: cs).dropWhile fun c => !isMark c with
      | '=' :: _ =>
        let target ← between whole 0 stop
        let levels ← levelsOf (← fromByte whole (stop + 1))
        return ⟨some target, levels, false⟩
      | '[' :: cs =>
        let target ← between whole 0 stop
        ofSpans whole (some target) (stop + 1) cs
      | _ => return ofName text

end Directive

namespace LogFilter

/-! ## Filters -/

/-- Adds a directive, in place of an earlier one for the same target. -/
def add (f : LogFilter) (d : Directive) : LogFilter :=
  ⟨(f.directives.filter fun other => other.target ≠ d.target) ++ [d]⟩

/-- Reads a filter: directives with commas between them, empty ones skipped. The first directive
that cannot be read decides the error. -/
def ofText (text : String) : Except FilterError LogFilter := do
  let directives ← ((text.splitOn ",").filter fun part => !part.isEmpty).mapM Directive.ofText
  return (directives.filter fun d => !d.spanned).foldl add ⟨[]⟩

def fits (target : String) (d : Directive) : Bool :=
  match d.target with
  | none => true
  | some name => name.toList.isPrefixOf target.toList

/-- The length of the name that a directive is for. -/
def specificity (d : Directive) : Nat :=
  match d.target with
  | none => 0
  | some name => name.utf8ByteSize + 1

def levelsFor (f : LogFilter) (target : String) : Nat :=
  let fitting := f.directives.filter (fits target)
  let best := fitting.foldl (fun best d =>
    match best with
    | none => some d
    | some b => if specificity b ≤ specificity d then some d else some b) none
  (best.map Directive.levels).getD 0

/-- The filter that stands in for one that cannot be read. -/
def fallback : LogFilter := ⟨[⟨none, 3, false⟩]⟩

end LogFilter

structure LogOutput where
  filter : LogFilter
  ansi : Bool
  /-- The filter asked for could not be read. -/
  fellBack : Bool
deriving DecidableEq, Repr

namespace LogOutput

/-- The output that settings ask for. A filter that is malformed is replaced; one that would cut a
character apart is a fault, and there is no output. -/
def ofSettings? (s : Settings) : Option LogOutput :=
  match LogFilter.ofText s.logFilter with
  | .ok filter => some ⟨filter, s.ansi, false⟩
  | .error .malformed => some ⟨.fallback, s.ansi, true⟩
  | .error .misaligned => none

/-- Sets the output up, unless that was done before; the first set-up lasts. There is no answer if
setting it up is a fault. -/
def setUp? (current : Option LogOutput) (s : Settings) : Option (Bool × LogOutput) :=
  match current with
  | some output => some (false, output)
  | none => (ofSettings? s).map fun output => (true, output)

/-- The number of lines printed when a target logs once at each level. -/
def lines (output : LogOutput) (target : String) : Nat := output.filter.levelsFor target

/-- Whether escape characters are among what is printed then. -/
def escapes (output : LogOutput) (target : String) : Bool := output.ansi && 0 < output.lines target

end LogOutput

end StoryHooks
