import StoryHooks.Script.Machine
import StoryHooks.Text.Basic

/-!
# Diagnostics

What the bridge reports of its work: each event is a cause with its particulars. Level, message and
fields follow from the cause.
-/

namespace StoryHooks

inductive Level
  | error
  | warn
  | info
  | debug
  | trace
deriving DecidableEq, Repr

namespace Level

def name : Level → String
  | error => "error"
  | warn => "warn"
  | info => "info"
  | debug => "debug"
  | trace => "trace"

/-- The levels from the most to the least severe. -/
def all : List Level := [error, warn, info, debug, trace]

/-- The number of levels that are at least as severe. -/
def rank : Level → Nat
  | error => 1
  | warn => 2
  | info => 3
  | debug => 4
  | trace => 5

end Level

inductive Event
  | subscriberAdded (signature : Signature) (handler : HandlerRef)
  /-- A subscription made after the story was loaded has no route. -/
  | lateRefusal (e : ResolveError)
  /-- A subscription has no route in the story being loaded. -/
  | loadRefusal (e : ResolveError)
  | hooksFailed
  | hooksInstalled
  | storyLoaded (generation : UInt32)
  | subscribersResolved (registered rejected : Nat)
  | mergeChanged (merging : Bool)
  | machineUnavailable (key : RouteKey)
  | handlerSkipped (handler : HandlerRef) (slots : Nat) (e : Script.MachineError)
  /-- The handler raised a script error. -/
  | handlerFailed (handler : HandlerRef) (message : String)
  /-- A fault that left values on the stack, with the text of the topmost. -/
  | callbackFailed (handler : HandlerRef) (message : String)
  /-- A fault that left nothing on the stack. -/
  | callbackFaulted (handler : HandlerRef) (fault : String)
  | machineCreated (maxStackSlots : Nat)
  | machineShutDown
  | scriptLoaded (name : String)
  | slotsIgnored (name text : String)
  | settingsLoaded (path : String)
  | settingsMissing (path : String)
deriving DecidableEq, Repr

namespace Event

def level : Event → Level
  | hooksFailed | handlerSkipped .. | handlerFailed .. | callbackFailed .. | callbackFaulted .. =>
    .error
  | lateRefusal _ | loadRefusal _ | slotsIgnored .. => .warn
  | hooksInstalled | storyLoaded _ | subscribersResolved .. | machineShutDown | settingsLoaded _ =>
    .info
  | subscriberAdded .. | mergeChanged _ | machineUnavailable _ | machineCreated _ | scriptLoaded _
  | settingsMissing _ => .debug

def fullMessage : Event → String
  | subscriberAdded .. => "Osiris subscriber added"
  | lateRefusal e | loadRefusal e => e.message
  | hooksFailed => "Failed to install engine hooks: node VMTs not resolved"
  | hooksInstalled => "Osiris node hooks installed"
  | storyLoaded _ => "Osiris story loaded"
  | subscribersResolved .. => "Osiris subscribers resolved"
  | mergeChanged _ => "Osiris merge state changed"
  | machineUnavailable _ => "Script runtime unavailable, skipping Osiris dispatch"
  | handlerSkipped _ _ e => "Osiris event handler skipped: " ++ e.message
  | handlerFailed _ message => "Osiris event handler failed: " ++ message
  | callbackFailed _ message => "Osiris event callback failed: " ++ message
  | callbackFaulted _ fault => "Internal error during call Osiris event callback: " ++ fault
  | machineCreated _ => "Lua runtime created"
  | machineShutDown => "Lua runtime shut down"
  | scriptLoaded _ => "Lua script loaded"
  | slotsIgnored name text =>
    "Ignoring " ++ name ++ "=" ++ Text.quoted text ++ ": expected a positive integer"
  | settingsLoaded path => "Loaded bridge config from " ++ path
  | settingsMissing path => "No config at " ++ path ++ ", using defaults"

def message (e : Event) : String := Text.withoutTraceback e.fullMessage

def fields : Event → List (String × String)
  | subscriberAdded signature handler =>
    [("signature", signature.text), ("handler", handler.text)]
  | loadRefusal e => [("signature", e.signature.text)]
  | storyLoaded generation => [("generation", toString generation.toNat)]
  | subscribersResolved registered rejected =>
    [("registered", toString registered), ("rejected", toString rejected)]
  | mergeChanged merging => [("merging", toString merging)]
  | machineUnavailable key => [("node_ref", key.text)]
  | handlerSkipped handler slots _ => [("handler", handler.text), ("slots", toString slots)]
  | handlerFailed handler _ | callbackFailed handler _ | callbackFaulted handler _ =>
    [("handler", handler.text)]
  | machineCreated maxStackSlots => [("max_stack_slots", toString maxStackSlots)]
  | scriptLoaded name => [("script", name)]
  | lateRefusal _ | hooksFailed | hooksInstalled | machineShutDown | slotsIgnored ..
  | settingsLoaded _ | settingsMissing _ => []

end Event

end StoryHooks
