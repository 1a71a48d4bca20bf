import StoryHooks.Bridge.Manager
import StoryHooks.Script.Lua
import StoryHooks.Script.Coercion

/-!
# The module for scripts

Scripts subscribe by calling a function of a module. Its arguments are read from left to right;
then either nothing changes, or one handler is stored and one subscription made with it.
-/

namespace StoryHooks

open Script

inductive ListenerError
  | managerUnavailable
  | unknownPhase (text : String)
  | machineShutDown
deriving DecidableEq, Repr

def ListenerError.message : ListenerError → String
  | managerUnavailable => "Osiris callback manager is no longer available"
  | unknownPhase text => Phase.unknownMessage text
  | machineShutDown => machineShutDownMessage

structure ListenerArguments where
  name : String
  arity : UInt32
  phase : String
  handler : Callable
deriving DecidableEq, Repr

/-- Reads the arguments. A missing one is nil, and one too many is not looked at. The error is the
position, counted from one, of the first that cannot be read. -/
def ListenerArguments.read (args : List LuaValue) : Except Nat ListenerArguments :=
  let arg := fun (position : Nat) => (args[position]?).getD LuaValue.nil
  match (arg 0).toText?, (arg 1).toNatural32?, (arg 2).toText?, (arg 3).toCallable? with
  | none, _, _, _ => .error 1
  | _, none, _, _ => .error 2
  | _, _, none, _ => .error 3
  | _, _, _, none => .error 4
  | some name, some arity, some phase, some handler => .ok ⟨name, arity, phase, handler⟩

def scriptName : String := "script.lua"

def scriptPosition : String := "[string \"" ++ scriptName ++ "\"]:1: "

/-- What Lua says when a field of the module's global is called that is not there. -/
def missingFieldMessage (field : String) (global : ModuleGlobal) : String :=
  let absent := "attempt to call a nil value (field '" ++ field ++ "')"
  scriptPosition ++
    match global with
    | .module .. => absent
    | .other (.string _) => absent
    | .other v => "attempt to index a " ++ v.typeName ++ " value (global 'osiris')"

namespace World

/-- Registers a listener: the manager must be there, the phase known and the machine up. -/
def registerListener (w : World LuaState) (linked : Bool) (args : ListenerArguments) :
    Except ListenerError (SubscriptionId × World LuaState) :=
  if linked && w.managed then
    match Phase.ofName? args.phase with
    | none => .error (.unknownPhase args.phase)
    | some phase =>
      match w.storeHandler? args.handler with
      | none => .error .machineShutDown
      | some (handler, w) => .ok (w.subscribe ⟨args.name, args.arity, phase⟩ handler)
  else .error .managerUnavailable

def callRegister (w : World LuaState) (args : List LuaValue) :
    Except ScriptFailure (SubscriptionId × World LuaState) :=
  match w.machine.own.global with
  | .other v => .error (.lua (missingFieldMessage "register_listener" (.other v)))
  | .module _ linked =>
    match ListenerArguments.read args with
    | .error position => .error (.badArgument position)
    | .ok args =>
      match w.registerListener linked args with
      | .error e => .error (.lua e.message)
      | .ok done => .ok done

/-- Makes the functions among the arguments of a script, in order. -/
def makeArguments : List (ScriptArgument Step) → World LuaState → List LuaValue × World LuaState
  | [], w => ([], w)
  | .value v :: args, w =>
    let (values, w) := makeArguments args w
    (v :: values, w)
  | .function body :: args, w =>
    let (number, w) := w.addFunction body
    let (values, w) := makeArguments args w
    (.function (.body number) :: values, w)

/-- Whether a script runs by way of the bridge, which reports that it was loaded. -/
def viaBridge (w : World LuaState) (direct : Bool) : Bool := w.managed && !direct

/-- Runs a script, directly or by way of the bridge, which needs a machine that is up. Reading a
script takes room for as many calls as its statements and expressions nest deep. -/
def runScript (w : World LuaState) (direct : Bool) (deep : Nat)
    (script : World LuaState → Except ScriptFailure (Answer × World LuaState)) :
    Answer × World LuaState :=
  if w.viaBridge direct && !w.machine.alive then (.script .machineShutDown, w)
  else if !w.machine.hasRoomFor deep then (.script (.lua overflowMessage), w)
  else
    match script w with
    | .error failure => (.script failure, w)
    | .ok (answer, w') =>
      (answer, if w.viaBridge direct then w'.report (.scriptLoaded scriptName) else w')

/-- How deep the script nests that registers a listener: a statement, the value it assigns, the
arguments of the call that makes that value, and what those arguments are unpacked from. -/
def registrationDepth : Nat := 4

def runRegister (w : World LuaState) (args : List (ScriptArgument Step)) (direct : Bool) :
    Answer × World LuaState :=
  let (values, w) := makeArguments args w
  w.runScript direct registrationDepth fun w =>
    (w.callRegister values).map fun (id, w) => (.value (.integer (Int64.ofNat id)), w)

/-- How deep a sample script nests: a statement, and in it an expression or none. -/
def sampleDepth : Sample → Nat
  | .noop | .raising => 2
  | .malformed | .missingFunction => 1

/-- What a script says that calls a missing field of the module's global. The error is handed out by
a call from inside the script; without room for that the script says so. -/
def missingFieldError (w : World LuaState) (field : String) : String :=
  if w.machine.hasRoomFor 2 then missingFieldMessage field w.machine.own.global
  else scriptPosition ++ overflowMessage

def runSample (w : World LuaState) (sample : Sample) (direct : Bool) : Answer × World LuaState :=
  w.runScript direct (sampleDepth sample) fun w =>
    match sample with
    | .noop => .ok (.ok, w)
    | .malformed => .error .malformed
    | .raising => .error (.lua "script boom")
    | .missingFunction => .error (.lua (w.missingFieldError "missing"))

def setGlobal (w : World LuaState) (global : ModuleGlobal) : World LuaState :=
  w.setMachine { w.machine with own := { w.machine.own with global } }

def moduleVersion : Int64 := 2

/-- Installs the module into the table that the global holds, or into a new one for nil. The answer
is the version of the module. -/
def reinstall (w : World LuaState) (global : Option LuaValue) (mark orphan : Bool) :
    Answer × World LuaState :=
  let current := match global with
    | none => w.machine.own.global
    | some .table => .module none false
    | some v => .other v
  match current, mark with
  | .module version _, _ =>
    let version := if mark then some moduleVersion else version
    let answer := match version with
      | none => .nil
      | some version => .integer version
    (.value answer, w.setGlobal (.module version (w.managed && !orphan)))
  | .other .nil, false => (.value .nil, w.setGlobal (.module none (w.managed && !orphan)))
  | other, _ => (.script .notATable, w.setGlobal other)

end World

end StoryHooks
