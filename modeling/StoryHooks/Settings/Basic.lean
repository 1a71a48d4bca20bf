import StoryHooks.Diagnostics

/-!
# Settings

The settings of the bridge, their defaults, what makes them valid, and the two environment
variables that override some of them.
-/

namespace StoryHooks

structure Settings where
  /-- The levels that the dispatch pool starts with. -/
  poolLevels : Nat := 4
  /-- The slots that the script stack may grow to before a handler is skipped. -/
  maxStackSlots : Nat := 1000000
  /-- What the name of a derived query is extended by. -/
  querySuffix : String := Roster.defaultSuffix
  /-- The log filter, as directives. -/
  logFilter : String := "info"
  /-- Whether log lines are coloured. -/
  ansi : Bool := true
deriving DecidableEq, Repr

inductive SettingsFault
  | noStackSlots
  | emptyQuerySuffix
deriving DecidableEq, Repr

def SettingsFault.message : SettingsFault → String
  | noStackSlots => "dispatch.max_stack_slots must be greater than zero"
  | emptyQuerySuffix => "resolution.user_query_suffix must not be empty"

/-- The two variables that override settings; unset ones are absent. -/
structure Environment where
  logFilter : Option String
  stackSlots : Option String
deriving DecidableEq, Repr

def Environment.stackSlotsName : String := "OSIBRIDGE_MAX_STACK_SLOTS"

def maxCount : Nat := UInt64.size - 1

/-- The number of one or more ASCII digits, if it can be held. -/
def countOfDigits? (digits : List Char) : Option Nat :=
  if digits.isEmpty || digits.any fun c => !c.isDigit then none
  else
    let n := digits.foldl (fun n c => 10 * n + (c.toNat - '0'.toNat)) 0
    if n ≤ maxCount then some n else none

/-- The number of a text of ASCII digits, with one plus sign allowed before them. -/
def count? (text : String) : Option Nat :=
  match text.toList with
  | '+' :: digits => countOfDigits? digits
  | digits => countOfDigits? digits

def positiveCount? (text : String) : Option Nat :=
  (count? text).filter fun n => 0 < n

namespace Settings

def fault? (s : Settings) : Option SettingsFault :=
  if s.maxStackSlots = 0 then some .noStackSlots
  else if s.querySuffix.isEmpty then some .emptyQuerySuffix
  else none

def validate (s : Settings) : Except SettingsFault Settings :=
  match s.fault? with
  | some fault => .error fault
  | none => .ok s

/-- The log filter of the environment, unless it is unset or empty. -/
def overrideFilter (s : Settings) (setting : Option String) : Settings :=
  match setting with
  | some filter => if filter.isEmpty then s else { s with logFilter := filter }
  | none => s

/-- The stack slots of the environment, if they are a positive number. Any other text is reported
and changes nothing. -/
def overrideSlots (s : Settings) (setting : Option String) : Settings × List Event :=
  match setting with
  | some text =>
    match positiveCount? text with
    | some slots => ({ s with maxStackSlots := slots }, [])
    | none => (s, [.slotsIgnored Environment.stackSlotsName text])
  | none => (s, [])

/-- The settings under an environment, with what is reported on the way. -/
def override (s : Settings) (env : Environment) : Settings × List Event :=
  (s.overrideFilter env.logFilter).overrideSlots env.stackSlots

end Settings

end StoryHooks
