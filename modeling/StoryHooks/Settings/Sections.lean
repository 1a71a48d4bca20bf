import StoryHooks.Settings.Basic
import StoryHooks.Document.Reader

/-!
# Settings in a document

A document has up to three sections. A section is a table of its fields or an array of them in
order; what is missing has its default. Keys that are not known are skipped, though not unread: a
number in them must be one that can be held at all.
-/

namespace StoryHooks.Settings

mutual

/-- Whether a value can be skipped: each integer in it spells a number of at most 128 bits, and no
float is too large. -/
def skippable : Document.Value → Bool
  | .integer (some n) => -(Nat.pow 2 127 : Nat) ≤ n && n < (Nat.pow 2 128 : Nat)
  | .integer none => false
  | .float tooLarge => !tooLarge
  | .array _ items => skippableItems items
  | .table _ entries => skippableEntries entries
  | .string _ | .boolean _ | .datetime => true

def skippableItems : List Document.Value → Bool
  | [] => true
  | item :: items => skippable item && skippableItems items

def skippableEntries : List (String × Document.Value) → Bool
  | [] => true
  | (_, value) :: entries => skippable value && skippableEntries entries

end

/-- Reads the value of a field into the settings. -/
abbrev Field := String × (Settings → Document.Value → Option Settings)

def ofCount (set : Settings → Nat → Settings) (s : Settings) : Document.Value → Option Settings
  | .integer (some n) => if 0 ≤ n ∧ n ≤ maxCount then some (set s n.toNat) else none
  | _ => none

def ofString (set : Settings → String → Settings) (s : Settings) : Document.Value → Option Settings
  | .string text => some (set s text)
  | _ => none

def ofBoolean (set : Settings → Bool → Settings) (s : Settings) : Document.Value → Option Settings
  | .boolean b => some (set s b)
  | _ => none

def dispatchFields : List Field :=
  [ ("pool_levels", ofCount fun s n => { s with poolLevels := n })
  , ("max_stack_slots", ofCount fun s n => { s with maxStackSlots := n }) ]

def resolutionFields : List Field :=
  [("user_query_suffix", ofString fun s text => { s with querySuffix := text })]

def loggingFields : List Field :=
  [ ("filter", ofString fun s text => { s with logFilter := text })
  , ("ansi", ofBoolean fun s b => { s with ansi := b }) ]

def ofEntries (fields : List Field) : Settings → Document.Entries → Option Settings
  | s, [] => some s
  | s, (key, value) :: entries =>
    match fields.lookup key with
    | some read => (read s value).bind fun s => ofEntries fields s entries
    | none => if skippable value then ofEntries fields s entries else none

/-- Reads an array of fields. What is left over is not looked at. -/
def ofItems : List Field → Settings → List Document.Value → Option Settings
  | (_, read) :: fields, s, value :: values => (read s value).bind fun s => ofItems fields s values
  | _, s, _ => some s

/-- Reads a section. A date has no fields of a section and leaves it as it is. -/
def ofSection (fields : List Field) (s : Settings) : Document.Value → Option Settings
  | .table _ entries => ofEntries fields s entries
  | .array _ items => ofItems fields s items
  | .datetime => some s
  | _ => none

def sections : List Field :=
  [ ("dispatch", ofSection dispatchFields)
  , ("resolution", ofSection resolutionFields)
  , ("logging", ofSection loggingFields) ]

def ofDocument? (text : String) : Option Settings :=
  (Document.document? text).bind fun entries => ofEntries sections {} entries

end StoryHooks.Settings
