import StoryHooks.Proofs.Bookkeeping
import StoryHooks.Proofs.Moment
import StoryHooks.Proofs.OwnRequests

/-!
# Handlers and subscriptions

Two stores grow side by side: the script machine holds the functions that were stored as handlers,
and the roster the subscriptions, which name handlers. Few steps touch either.

Results:
1. `step_shifts`: what a step that fires nothing and does not address the stack makes of the two.
2. `carriedBy_shifts`: a relation that looks at the two alone, and that these changes stay within,
   is carried along a run.
-/

namespace StoryHooks

open Script

/-- A step addresses the script stack. -/
def Step.addressesStack : Step → Bool
  | .stack _ => true
  | _ => false

/-- The handlers in a machine that is up or not, the functions stored there so far, and the
subscriptions. -/
structure Holdings where
  alive : Bool
  handlers : List Callable
  stored : List Callable
  subscribers : List Subscriber

namespace World

variable {u v w : World LuaState}

def holdings (w : World LuaState) : Holdings :=
  ⟨w.machine.alive, w.machine.handlers, w.machine.stored, w.manager.roster.subscribers⟩

theorem alive_of_holdings (h : v.holdings = w.holdings) : v.machine.alive = w.machine.alive :=
  congrArg Holdings.alive h

theorem handlers_of_holdings (h : v.holdings = w.holdings) :
    v.machine.handlers = w.machine.handlers :=
  congrArg Holdings.handlers h

theorem stored_of_holdings (h : v.holdings = w.holdings) : v.machine.stored = w.machine.stored :=
  congrArg Holdings.stored h

theorem subscribers_of_holdings (h : v.holdings = w.holdings) :
    v.manager.roster.subscribers = w.manager.roster.subscribers :=
  congrArg Holdings.subscribers h

theorem holdings_eq (hm : v.machine = w.machine)
    (hr : v.manager.roster.subscribers = w.manager.roster.subscribers) :
    v.holdings = w.holdings := by
  simp only [holdings, hm, hr]

theorem holdings_finish (snapshot : Snapshot) (invocations : List Invocation)
    (w : World LuaState) : (finish snapshot invocations w).2.holdings = w.holdings := by
  unfold finish
  split <;> rfl

theorem stored_subscribe (w : World LuaState) (signature : Signature) (handler : HandlerRef) :
    (w.subscribe signature handler).2.machine.stored = w.machine.stored := by
  rw [subscribe_machine]

theorem stored_of_storeHandler? {callable : Callable} {handler : HandlerRef}
    (h : w.storeHandler? callable = some (handler, v)) :
    v.machine.stored = w.machine.stored ++ [callable] := by
  obtain ⟨_, _, rfl⟩ := storeHandler?_cases h
  rfl

/-- A machine that is down takes no handler. -/
theorem storeHandler?_of_down (h : w.machine.alive = false) (callable : Callable) :
    w.storeHandler? callable = none := by
  have hrefuses : (w.machine.alive || Dialect.handlersOutlive LuaState) = false := by
    rw [h]
    rfl
  simp only [storeHandler?, Machine.store?, hrefuses, Bool.false_eq_true, if_false,
    Option.map_none]

/-- Only a machine that is up takes a handler, and it stays up. -/
theorem alive_of_storeHandler? {callable : Callable} {handler : HandlerRef}
    (h : w.storeHandler? callable = some (handler, v)) :
    w.machine.alive = true ∧ v.machine.alive = true := by
  obtain ⟨htakes, _, rfl⟩ := storeHandler?_cases h
  have ha : w.machine.alive = true := (Bool.or_eq_true_iff.mp htakes).resolve_right nofun
  exact ⟨ha, ha⟩

/-! ## What steps make of them -/

/-- `Shifts w s v`: the step, which leads from `w` to `v`, leaves the holdings as they are, or it
makes one of these changes.

* `stored`, `subscribed`: a handler is stored, or a subscription made, and that is all.
* `registered`: a script has a handler stored and makes a subscription with it.
* `closed`: the machine is shut down. -/
inductive Shifts (w : World LuaState) : Step → World LuaState → Prop
  | kept {s : Step} {v : World LuaState} : v.holdings = w.holdings → Shifts w s v
  | stored {body : Body Step} {u x v : World LuaState} {callable : Callable}
      {handler : HandlerRef} : u.holdings = w.holdings →
      u.storeHandler? callable = some (handler, x) → v.holdings = x.holdings →
      Shifts w (.addHandler body) v
  | subscribed {signature : Signature} {handler : HandlerRef} {v : World LuaState} :
      v.holdings = (w.subscribe signature handler).2.holdings →
      Shifts w (.subscribe signature handler) v
  | registered {args : List (ScriptArgument Step)} {direct : Bool} {u x v : World LuaState}
      {callable : Callable} {signature : Signature} {handler : HandlerRef} :
      u.holdings = w.holdings → u.storeHandler? callable = some (handler, x) →
      v.holdings = (x.subscribe signature handler).2.holdings →
      Shifts w (.own (.register args direct)) v
  | closed {v : World LuaState} :
      v.holdings = (w.setMachine w.machine.shutDown).holdings → Shifts w .shutDown v

theorem step_shifts {perform : Perform LuaState} {s : Step} {answer : Answer}
    (hf : s.fires = false) (hs : s.addressesStack = false)
    (h : step perform s w = some (answer, v)) : Shifts w s v := by
  cases s with
  | fire | run => cases hf
  | stack => cases hs
  | define | remove | clearSymbols | failNextInstall => cases h; exact .kept rfl
  | addHandler body =>
    simp only [step] at h
    split at h
    · cases h; exact .kept rfl
    · next hstored =>
      cases h
      have hadded : (w.addFunction body).2.holdings = w.holdings := rfl
      exact .stored hadded hstored rfl
  | subscribe signature handler =>
    simp only [step, whileManaged] at h
    split at h <;> cases h
    · exact .subscribed rfl
    · exact .kept rfl
  | loadStory viaManager =>
    simp only [step, whileManaged] at h
    split at h
    · cases viaManager <;> cases h
      all_goals exact .kept (holdings_eq (loadStory_machine _) (loadStory_subscribers _))
    · cases h; exact .kept rfl
  | hook =>
    simp only [step, whileManaged] at h
    split at h <;> cases h
    · exact .kept (holdings_eq w.hook_machine (congrArg Roster.subscribers w.hook_roster))
    · exact .kept rfl
  | setMerging | countHandlers | describe =>
    simp only [step, whileManaged] at h
    split at h <;> cases h <;> exact .kept rfl
  | shutDown => cases h; exact .closed rfl
  | drop =>
    cases h
    have hm := w.dropManager_manager
    exact .kept (holdings_eq w.dropManager_machine (congrArg (fun m => m.roster.subscribers) hm))
  | own request =>
    obtain rfl := congrArg Prod.snd (Option.some.inj h)
    cases request with
    | register args direct =>
      obtain ⟨functions, hr | ⟨_, _, _, _, _, hs, hr⟩⟩ := w.runRegister_cases args direct
      · exact .kept ((congrArg holdings hr).trans rfl)
      · have hmade : holdings { w with functions } = w.holdings := rfl
        exact .registered hmade hs ((congrArg holdings hr).trans rfl)
    | script sample direct =>
      obtain ⟨_, hr⟩ := w.runSample_eq sample direct
      exact .kept ((congrArg holdings hr).trans rfl)
    | reinstall global mark orphan =>
      obtain ⟨_, hr⟩ := w.reinstall_eq global mark orphan
      exact .kept ((congrArg holdings hr).trans rfl)
    | leaveBehind | reject | describeMachine => exact .kept rfl

/-! ## What calls make of them -/

/-- What stands on the stack is no part of the holdings. -/
theorem besideStack_holdings : BesideStack holdings where
  noted hb hm _ := holdings_eq hm (congrArg (fun m => m.roster.subscribers) (manager_of_books hb))
  stack _ _ _ := rfl

/-- A relation that looks at the holdings alone, and that allowed steps stay within which neither
fire nor address the stack, is carried along. -/
theorem carriedBy_shifts {allowed : Step → Prop} {R : World LuaState → World LuaState → Prop}
    (hR : Sees holdings R) (hshifts : ∀ {s w v}, allowed s → Shifts w s v → R w v) :
    CarriedBy allowed R where
  trans := hR.trans
  noted hb hm _ hf := hR.same (besideStack_holdings.noted hb hm hf)
  guard hbodies h := hR.guard besideStack_holdings hbodies h
  unavailable _ _ := hR.same rfl
  firing {w u key} invocations _ hu := by
    have hbegan : (w.began key).holdings = w.holdings := rfl
    exact hR.trans (hR.trans (hR.same hbegan) hu) (hR.same (holdings_finish _ invocations u))
  step {_ s _ _ _} ha hf hbodies h := by
    cases hs : s.addressesStack with
    | false => exact hshifts ha (step_shifts hf hs h)
    | true =>
      cases s with
      | stack request =>
        simp only [step] at h
        split at h
        · exact hR.stackStep besideStack_holdings hbodies h
        · cases h; exact hR.same rfl
      | _ => cases hs

end World

end StoryHooks
