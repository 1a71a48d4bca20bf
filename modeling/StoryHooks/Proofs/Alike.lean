import StoryHooks.Proofs.Bookkeeping
import StoryHooks.Proofs.Moment
import StoryHooks.Script.Lua
import StoryHooks.Script.Recording

/-!
# Worlds that look alike

The recording machine stands in for the Lua machine in tests. Two bridges, one on either, look alike
if everything does that steps depend on or that shows of them, the wording of reports apart. What
the manager does is the same on any machine and leaves them alike.

Results:
1. `hook_workings`, `subscribe_workings`, `loadStory_workings`: what the manager works out depends
   on nothing else than what it works on.
2. `Alike.hook`, `Alike.subscribe`, `Alike.loadStory`: so worlds that look alike do so afterwards.
-/

namespace StoryHooks

open Script

/-- What the manager works on: all that subscribing, loading and routing depend on. -/
structure Workings where
  manager : Manager
  symbols : SymbolTable
  installer : Installer
  managed : Bool
  generation : UInt32

namespace World

section Workings
variable {δ δ' : Type} [Dialect δ] [Dialect δ'] {w : World δ} {w' : World δ'}

def workings (w : World δ) : Workings :=
  ⟨w.manager, w.symbols, w.installer, w.managed, w.generation⟩

theorem manager_of_workings (h : w'.workings = w.workings) : w'.manager = w.manager :=
  congrArg Workings.manager h

theorem symbols_of_workings (h : w'.workings = w.workings) : w'.symbols = w.symbols :=
  congrArg Workings.symbols h

theorem installer_of_workings (h : w'.workings = w.workings) : w'.installer = w.installer :=
  congrArg Workings.installer h

theorem managed_of_workings (h : w'.workings = w.workings) : w'.managed = w.managed :=
  congrArg Workings.managed h

theorem dispatchDepth_of_workings (h : w'.workings = w.workings) :
    w'.dispatchDepth = w.dispatchDepth := by
  simp only [dispatchDepth, manager_of_workings h, managed_of_workings h]

/-- A load hooks the engine and takes what the routes are rebuilt to. -/
theorem loadStory_reload (w : World δ) :
    w.loadStory.1 = (w.hook.manager.roster.reload w.hook.symbols).2 ∧
      w.loadStory.2.workings = World.workings
        (w.hook.setRoster (w.hook.manager.roster.reload w.hook.symbols).1).setStoryLoaded :=
  ⟨rfl, rfl⟩

variable (h : w'.workings = w.workings)
include h

theorem setRoster_workings (roster : Roster) :
    (w'.setRoster roster).workings = (w.setRoster roster).workings :=
  congrArg (fun x => { x with manager := { x.manager with roster } }) h

theorem setPool_workings (pool : Pool) :
    (w'.setPool pool).workings = (w.setPool pool).workings :=
  congrArg (fun x => { x with manager := { x.manager with pool } }) h

theorem setStoryLoaded_workings : w'.setStoryLoaded.workings = w.setStoryLoaded.workings :=
  congrArg (fun x => { x with manager := { x.manager with storyLoaded := true } }) h

theorem setHook_workings (installer : Installer) (hooked : Bool) :
    (w'.setHook installer hooked).workings = (w.setHook installer hooked).workings :=
  congrArg (fun x => { x with installer, manager := { x.manager with hooked } }) h

theorem setMerging_workings (merging : Bool) :
    (w'.setMerging merging).workings = (w.setMerging merging).workings :=
  congrArg (fun x => { x with manager := { x.manager with merging } }) h

theorem hook_workings : w'.hook.workings = w.hook.workings := by
  unfold hook
  rw [manager_of_workings h, installer_of_workings h]
  split
  · exact h
  · split <;> exact setHook_workings h _ _

theorem routeLate_workings (id : SubscriptionId) :
    (w'.routeLate id).workings = (w.routeLate id).workings := by
  unfold routeLate
  rw [manager_of_workings h, symbols_of_workings h]
  split
  · exact setRoster_workings h _
  · exact h
  · exact h

theorem subscribe_workings (signature : Signature) (handler : HandlerRef) :
    (w'.subscribe signature handler).1 = (w.subscribe signature handler).1 ∧
      (w'.subscribe signature handler).2.workings =
        (w.subscribe signature handler).2.workings := by
  have hm := manager_of_workings h
  constructor
  · exact congrArg (fun m => m.roster.size) hm
  · have henrolled : (w'.enrolled signature handler).workings =
        (w.enrolled signature handler).workings := by
      show (w'.setRoster _).workings = (w.setRoster _).workings
      rw [hm]
      exact setRoster_workings h _
    rw [subscribe_snd, subscribe_snd, hm]
    split
    · exact routeLate_workings (hook_workings henrolled) _
    · exact henrolled

theorem loadStory_workings :
    w'.loadStory.1 = w.loadStory.1 ∧ w'.loadStory.2.workings = w.loadStory.2.workings := by
  have hh := hook_workings h
  have hreload : w'.hook.manager.roster.reload w'.hook.symbols =
      w.hook.manager.roster.reload w.hook.symbols := by
    rw [manager_of_workings hh, symbols_of_workings hh]
  obtain ⟨hreport, hrouted⟩ := w.loadStory_reload
  obtain ⟨hreport', hrouted'⟩ := w'.loadStory_reload
  rw [hreport, hreport', hrouted, hrouted', hreload]
  exact ⟨rfl, setStoryLoaded_workings (setRoster_workings hh _)⟩

theorem bindStory_workings :
    w'.bindStory.1 = w.bindStory.1 ∧ w'.bindStory.2.workings = w.bindStory.2.workings :=
  loadStory_workings (congrArg (fun x => { x with generation := x.generation + 1 }) h)

theorem dropManager_workings : w'.dropManager.workings = w.dropManager.workings := by
  unfold dropManager
  rw [managed_of_workings h]
  split
  · exact congrArg (fun x => { x with
      managed := false
      installer := if x.manager.hooked then x.installer.bind false else x.installer }) h
  · exact h

theorem began_workings (key : RouteKey) :
    (w'.began key).workings = (w.began key).workings := by
  show (w'.setPool _).workings = (w.setPool _).workings
  rw [manager_of_workings h]
  exact setPool_workings h _

theorem finish_workings (snapshot : Snapshot) (invocations invocations' : List Invocation) :
    (finish snapshot invocations' w').2.workings = (finish snapshot invocations w).2.workings := by
  unfold finish
  rw [manager_of_workings h]
  split
  · exact h
  · exact setPool_workings h _

end Workings

/-- What the manager leaves alone: the machine and its functions, and the journals of scripts. -/
structure Elsewhere {δ : Type} [Dialect δ] (w v : World δ) : Prop where
  machine_eq : v.machine = w.machine
  functions_eq : v.functions = w.functions
  calls_eq : v.calls = w.calls
  nested_eq : v.nested = w.nested

section Elsewhere
variable {δ : Type} [Dialect δ] {u v w : World δ}

theorem Elsewhere.trans (h : w.Elsewhere u) (h' : u.Elsewhere v) : w.Elsewhere v :=
  ⟨h'.machine_eq.trans h.machine_eq, h'.functions_eq.trans h.functions_eq,
    h'.calls_eq.trans h.calls_eq, h'.nested_eq.trans h.nested_eq⟩

theorem hook_elsewhere (w : World δ) : w.Elsewhere w.hook := by
  rcases w.hook_cases with ⟨_, h⟩ | ⟨_, _, h⟩ | ⟨_, _, h⟩ <;> rw [h] <;> exact ⟨rfl, rfl, rfl, rfl⟩

theorem routeLate_elsewhere (w : World δ) (id : SubscriptionId) :
    w.Elsewhere (w.routeLate id) := by
  unfold routeLate
  split <;> exact ⟨rfl, rfl, rfl, rfl⟩

theorem subscribe_elsewhere (w : World δ) (signature : Signature) (handler : HandlerRef) :
    w.Elsewhere (w.subscribe signature handler).2 := by
  have henrolled : w.Elsewhere (w.enrolled signature handler) := ⟨rfl, rfl, rfl, rfl⟩
  rw [subscribe_snd]
  split
  · exact (henrolled.trans (hook_elsewhere _)).trans (routeLate_elsewhere _ _)
  · exact henrolled

theorem loadStory_elsewhere (w : World δ) : w.Elsewhere w.loadStory.2 := by
  refine w.hook_elsewhere.trans ?_
  unfold loadStory
  dsimp only
  generalize w.hook = hooked
  exact ⟨rfl, rfl, rfl, rfl⟩

theorem bindStory_elsewhere (w : World δ) : w.Elsewhere w.bindStory.2 := by
  let counted : World δ := { w with generation := w.generation + 1 }
  have hcounted : w.Elsewhere (counted.report (.storyLoaded counted.generation)) :=
    ⟨rfl, rfl, rfl, rfl⟩
  exact hcounted.trans (counted.report (.storyLoaded counted.generation)).loadStory_elsewhere

theorem dropManager_elsewhere (w : World δ) : w.Elsewhere w.dropManager := by
  unfold dropManager
  split <;> exact ⟨rfl, rfl, rfl, rfl⟩

theorem finish_elsewhere (snapshot : Snapshot) (invocations : List Invocation) (w : World δ) :
    w.Elsewhere (finish snapshot invocations w).2 := by
  unfold finish
  split <;> exact ⟨rfl, rfl, rfl, rfl⟩

end Elsewhere

end World

/-! ## Worlds on either machine -/

/-- The call as the Lua machine makes it. -/
def CallRecord.toLua (call : CallRecord Value) : CallRecord LuaValue :=
  ⟨call.function, call.arguments.map Value.toLua⟩

/-- Two machines look alike while so many calls are in progress: both are up, with nothing on the
stack, the same limit to it and the same handlers. The recording machine was told nothing. -/
structure Script.Machine.Alike (nesting : Nat) (m : Machine Recording) (m' : Machine LuaState) :
    Prop where
  alive : m.alive = true
  alive' : m'.alive = true
  own_eq : m.own = .initial
  nesting_eq : m.nesting = nesting
  nesting_eq' : m'.nesting = nesting
  depth_eq : m.depth = 0
  depth_eq' : m'.depth = 0
  limit_eq : m'.limit = m.limit
  handlers_eq : m'.handlers = m.handlers

namespace World

/-- Two worlds look alike while so many calls are in progress: so do their machines, their managers
work on the same, and their functions have made the same calls and performed the same steps. -/
structure Alike (nesting : Nat) (w : World Recording) (w' : World LuaState) : Prop where
  machine : Machine.Alike nesting w.machine w'.machine
  workings_eq : w'.workings = w.workings
  functions_eq : w'.functions = w.functions
  calls_eq : w'.calls = w.calls.map CallRecord.toLua
  nested_eq : w'.nested = w.nested

namespace Alike

variable {nesting : Nat} {v w : World Recording} {v' w' : World LuaState}
  (h : Alike nesting w w')
include h

theorem manager_eq : w'.manager = w.manager := manager_of_workings h.workings_eq

theorem managed_eq : w'.managed = w.managed := managed_of_workings h.workings_eq

theorem depth_eq : w'.machine.depth = w.machine.depth :=
  h.machine.depth_eq'.trans h.machine.depth_eq.symm

theorem hasSink_eq : w'.hasSink = w.hasSink :=
  congrArg (fun x : Workings => x.installer.bound && x.managed) h.workings_eq

/-- The manager does the same on both. -/
theorem of_elsewhere (hv : w.Elsewhere v) (hv' : w'.Elsewhere v')
    (hworkings : v'.workings = v.workings) : Alike nesting v v' where
  machine := by rw [hv.machine_eq, hv'.machine_eq]; exact h.machine
  workings_eq := hworkings
  functions_eq := by rw [hv.functions_eq, hv'.functions_eq, h.functions_eq]
  calls_eq := by rw [hv.calls_eq, hv'.calls_eq, h.calls_eq]
  nested_eq := by rw [hv.nested_eq, hv'.nested_eq, h.nested_eq]

/-- Only the machines change. -/
theorem setMachine {nesting' : Nat} {m : Machine Recording} {m' : Machine LuaState}
    (hm : Machine.Alike nesting' m m') : Alike nesting' (w.setMachine m) (w'.setMachine m') :=
  ⟨hm, h.workings_eq, h.functions_eq, h.calls_eq, h.nested_eq⟩

/-- What is reported is no part of it. -/
theorem reportAll (events events' : List Event) :
    Alike nesting (w.reportAll events) (w'.reportAll events') :=
  ⟨h.machine, h.workings_eq, h.functions_eq, h.calls_eq, h.nested_eq⟩

theorem hook : Alike nesting w.hook w'.hook :=
  h.of_elsewhere w.hook_elsewhere w'.hook_elsewhere (hook_workings h.workings_eq)

theorem subscribe (signature : Signature) (handler : HandlerRef) :
    Alike nesting (w.subscribe signature handler).2 (w'.subscribe signature handler).2 :=
  h.of_elsewhere (subscribe_elsewhere ..) (subscribe_elsewhere ..)
    (subscribe_workings h.workings_eq signature handler).2

theorem loadStory : Alike nesting w.loadStory.2 w'.loadStory.2 :=
  h.of_elsewhere w.loadStory_elsewhere w'.loadStory_elsewhere (loadStory_workings h.workings_eq).2

theorem bindStory : Alike nesting w.bindStory.2 w'.bindStory.2 :=
  h.of_elsewhere w.bindStory_elsewhere w'.bindStory_elsewhere (bindStory_workings h.workings_eq).2

theorem setMerging (merging : Bool) :
    Alike nesting (w.setMerging merging) (w'.setMerging merging) :=
  h.of_elsewhere ⟨rfl, rfl, rfl, rfl⟩ ⟨rfl, rfl, rfl, rfl⟩
    (setMerging_workings h.workings_eq merging)

/-- The symbols of the story are edited in the same way. -/
theorem editSymbols (edit : SymbolTable → SymbolTable) :
    Alike nesting { w with symbols := edit w.symbols } { w' with symbols := edit w'.symbols } :=
  h.of_elsewhere ⟨rfl, rfl, rfl, rfl⟩ ⟨rfl, rfl, rfl, rfl⟩
    (congrArg (fun x => { x with symbols := edit x.symbols }) h.workings_eq)

theorem failNextInstall :
    Alike nesting { w with installer := { w.installer with failNext := true } }
      { w' with installer := { w'.installer with failNext := true } } :=
  h.of_elsewhere ⟨rfl, rfl, rfl, rfl⟩ ⟨rfl, rfl, rfl, rfl⟩
    (congrArg (fun x => { x with installer := { x.installer with failNext := true } })
      h.workings_eq)

theorem dropManager : Alike nesting w.dropManager w'.dropManager :=
  h.of_elsewhere w.dropManager_elsewhere w'.dropManager_elsewhere
    (dropManager_workings h.workings_eq)

theorem note (function position : Nat) (answer : Answer) :
    Alike nesting (w.note function position answer) (w'.note function position answer) where
  machine := h.machine
  workings_eq := h.workings_eq
  functions_eq := h.functions_eq
  calls_eq := h.calls_eq
  nested_eq := by
    simp only [World.note, h.nested_eq, h.manager_eq, h.managed_eq, h.depth_eq]

theorem addFunction (body : Body Step) :
    Alike nesting (w.addFunction body).2 (w'.addFunction body).2 where
  machine := h.machine
  workings_eq := h.workings_eq
  functions_eq := by simp only [World.addFunction, h.functions_eq]
  calls_eq := h.calls_eq
  nested_eq := h.nested_eq

/-- A handler is stored on both, under the same reference. -/
theorem storeHandler? (callable : Callable) :
    ∃ handler v v', w.storeHandler? callable = some (handler, v) ∧
      w'.storeHandler? callable = some (handler, v') ∧ Alike nesting v v' := by
  have hs := storeHandler?_of_alive h.machine.alive callable
  have hs' := storeHandler?_of_alive h.machine.alive' callable
  rw [h.machine.handlers_eq] at hs'
  have hstored : Machine.Alike nesting (w.machine.store callable) (w'.machine.store callable) :=
    { h.machine with handlers_eq := congrArg (· ++ [callable]) h.machine.handlers_eq }
  exact ⟨_, _, _, hs, hs', h.setMachine hstored⟩

/-- A call is noted on both. -/
theorem called (number : Nat) (arguments : List Value) :
    Alike nesting { w with calls := w.calls ++ [⟨number, arguments⟩] }
      { w' with calls := w'.calls ++ [⟨number, arguments.map Value.toLua⟩] } where
  machine := h.machine
  workings_eq := h.workings_eq
  functions_eq := h.functions_eq
  calls_eq := by
    simp only [h.calls_eq, List.map_append, List.map_cons, List.map_nil, CallRecord.toLua]
  nested_eq := h.nested_eq

/-- A function that is called starts alike on both. -/
theorem entered (number : Nat) (arguments : List Value) (function : ScriptFunction) :
    Alike nesting (w.entered number arguments function)
      (w'.entered number (arguments.map Value.toLua) function) where
  machine := h.machine
  workings_eq := h.workings_eq
  functions_eq := by simp only [World.entered, countRun, h.functions_eq]
  calls_eq := (h.called number arguments).calls_eq
  nested_eq := h.nested_eq

/-! ## Firings -/

theorem fires_iff (key : RouteKey) : w'.Fires key ↔ w.Fires key := by
  simp only [Fires, h.manager_eq, h.machine.alive, h.machine.alive']

theorem began (key : RouteKey) : Alike nesting (w.began key) (w'.began key) :=
  h.of_elsewhere ⟨rfl, rfl, rfl, rfl⟩ ⟨rfl, rfl, rfl, rfl⟩ (began_workings h.workings_eq key)

theorem finish (snapshot : Snapshot) (invocations invocations' : List Invocation) :
    Alike nesting (finish snapshot invocations w).2 (World.finish snapshot invocations' w').2 :=
  h.of_elsewhere (finish_elsewhere ..) (finish_elsewhere ..)
    (finish_workings h.workings_eq snapshot invocations invocations')

end Alike

end World

end StoryHooks
