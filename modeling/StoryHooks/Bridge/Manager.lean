import StoryHooks.Bridge.World

/-!
# The callback manager

Subscribing, hooking the engine, loading stories and gating dispatch. None of these runs a handler.
-/

namespace StoryHooks.World

open Script

variable {δ : Type} [Dialect δ]

def setHook (w : World δ) (installer : Installer) (hooked : Bool) : World δ :=
  { w with installer, manager := { w.manager with hooked } }

def setStoryLoaded (w : World δ) : World δ :=
  { w with manager := { w.manager with storyLoaded := true } }

/-- Hooks the engine and binds the manager as its sink, unless that was done before. After a failed
attempt the next occasion tries again. -/
def hook (w : World δ) : World δ :=
  if w.manager.hooked then w
  else
    match w.installer.install with
    | (false, installer) =>
      ((w.setHook installer false).enact (.hookTried false)).report .hooksFailed
    | (true, installer) =>
      ((w.setHook (installer.bind true) true).enact (.hookTried true)).report .hooksInstalled

/-- Routes a subscription that was made after the story was loaded. -/
def routeLate (w : World δ) (id : SubscriptionId) : World δ :=
  match w.manager.roster.route? w.symbols id with
  | some (.ok _, roster) => w.setRoster roster
  | some (.error e, _) => w.report (.lateRefusal e)
  | none => w

/-- Adds a subscription. It always succeeds; a route is looked for at once when a story is loaded,
and otherwise at the next load. -/
def subscribe (w : World δ) (signature : Signature) (handler : HandlerRef) :
    SubscriptionId × World δ :=
  let (id, roster) := w.manager.roster.add signature handler
  let w := ((w.setRoster roster).enact (.subscribed signature handler w.symbols)).report
    (.subscriberAdded signature handler)
  (id, if w.manager.storyLoaded then w.hook.routeLate id else w)

/-- A story was loaded, or loaded again: hooks the engine and rebuilds all routes. -/
def loadStory (w : World δ) : ResolutionReport × World δ :=
  let w := w.hook
  let (roster, report) := w.manager.roster.reload w.symbols
  let w := (w.setRoster roster).setStoryLoaded
  (report, (w.enact (.loaded w.symbols report)).reportAll
    (report.rejected.map (fun rejected => .loadRefusal rejected.2) ++
      [.subscribersResolved report.registered report.rejected.length]))

/-- A story was loaded, by way of the binding, which counts the loads. -/
def bindStory (w : World δ) : ResolutionReport × World δ :=
  let w := { w with generation := w.generation + 1 }
  (w.report (.storyLoaded w.generation)).loadStory

def setMerging (w : World δ) (merging : Bool) : World δ :=
  let w := w.report (.mergeChanged merging)
  { w with manager := { w.manager with merging } }

/-- Drops the manager. Its sink is cleared if it was ever bound. -/
def dropManager (w : World δ) : World δ :=
  if w.managed then
    { w with
      managed := false
      installer := if w.manager.hooked then w.installer.bind false else w.installer }
  else w

end StoryHooks.World
