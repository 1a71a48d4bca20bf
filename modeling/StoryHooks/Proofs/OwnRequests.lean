import StoryHooks.Bridge.Lua
import StoryHooks.Bridge.Recording
import StoryHooks.Proofs.Course

/-!
# Requests to one machine alone

What only one kind of machine understands is told here by the world that it leaves. It does not
reach the books of the manager, with one exception: a script may subscribe.
-/

namespace StoryHooks

open Script

instance : LawfulOwn Recording where
  own_books request w := by
    left
    cases request <;> rfl

namespace World

/-! ## Scripts -/

/-- What the bridge reports of scripts: which it has run to their end. -/
def scriptEvents (completed : Bool) : List Event :=
  if completed then [.scriptLoaded scriptName] else []

/-- A script that fails leaves the world as it is; any other leaves it as it does by itself, and may
be reported. -/
theorem runScript_cases (w : World LuaState) (direct : Bool) (deep : Nat)
    (script : World LuaState → Except ScriptFailure (Answer × World LuaState)) :
    (∃ failure, w.runScript direct deep script = (.script failure, w)) ∨
    ∃ answer v, script w = .ok (answer, v) ∧
      w.runScript direct deep script =
        (answer, v.reportAll (scriptEvents (w.viaBridge direct))) := by
  unfold runScript scriptEvents
  split
  · exact .inl ⟨_, rfl⟩
  split
  · exact .inl ⟨_, rfl⟩
  split
  · exact .inl ⟨_, rfl⟩
  · next answer v hv =>
    refine .inr ⟨answer, v, hv, ?_⟩
    split
    · rfl
    · rw [reportAll_nil]

/-- A script that does nothing else may be reported. -/
theorem runSample_eq (w : World LuaState) (sample : Sample) (direct : Bool) :
    ∃ completed, (w.runSample sample direct).2 = w.reportAll (scriptEvents completed) := by
  rcases runScript_cases w direct (sampleDepth sample) _ with ⟨_, h⟩ | ⟨answer, v, hv, h⟩
  · exact ⟨false, (congrArg Prod.snd h).trans (reportAll_nil w).symm⟩
  · cases sample <;> cases hv
    exact ⟨_, congrArg Prod.snd h⟩

/-- The functions among the arguments of a script are added to those of the scripts. -/
theorem makeArguments_eq (args : List (ScriptArgument Step)) (w : World LuaState) :
    ∃ functions, (makeArguments args w).2 = { w with functions } := by
  induction args generalizing w with
  | nil => exact ⟨w.functions, rfl⟩
  | cons arg args ih =>
    cases arg with
    | value v => exact ih w
    | function body => exact ih (w.addFunction body).2

/-- A listener is registered only by a manager that is there, at a phase that is known and with a
machine that takes its handler, which is then what the subscription names. -/
theorem registerListener_cases {w v : World LuaState} {linked : Bool} {args : ListenerArguments}
    {id : SubscriptionId} (h : w.registerListener linked args = .ok (id, v)) :
    ∃ phase handler u, (linked && w.managed) = true ∧ Phase.ofName? args.phase = some phase ∧
      w.storeHandler? args.handler = some (handler, u) ∧
      (id, v) = u.subscribe ⟨args.name, args.arity, phase⟩ handler := by
  unfold registerListener at h
  split at h
  · next hm =>
    split at h
    · cases h
    · next phase hphase =>
      split at h
      · cases h
      · next handler u hs => exact ⟨phase, handler, u, hm, hphase, hs, (Except.ok.inj h).symm⟩
  · cases h

/-- A script that registers a listener adds its functions. Then it comes to nothing, or registers
the listener that its arguments are read as. -/
theorem runRegister_ends (w : World LuaState) (args : List (ScriptArgument Step))
    (direct : Bool) : ∃ functions,
      (∃ failure, w.runRegister args direct = (.script failure, { w with functions })) ∨
      ∃ linked listener id v, ListenerArguments.read (makeArguments args w).1 = .ok listener ∧
        registerListener { w with functions } linked listener = .ok (id, v) ∧
        w.runRegister args direct = (.value (.integer (Int64.ofNat id)),
          v.reportAll (scriptEvents (w.viaBridge direct))) := by
  obtain ⟨functions, hmade⟩ := makeArguments_eq args w
  refine ⟨functions, ?_⟩
  have hvia : (makeArguments args w).2.viaBridge direct = w.viaBridge direct := by
    rw [hmade]
    rfl
  have hscript : w.runRegister args direct =
      (makeArguments args w).2.runScript direct registrationDepth fun u =>
        (u.callRegister (makeArguments args w).1).map fun done =>
          (.value (.integer (Int64.ofNat done.1)), done.2) := rfl
  rw [← hmade, ← hvia, hscript]
  rcases runScript_cases (makeArguments args w).2 direct registrationDepth _ with
    ⟨failure, h⟩ | ⟨answer, v, hv, h⟩
  · exact .inl ⟨failure, h⟩
  · right
    cases hc : (makeArguments args w).2.callRegister (makeArguments args w).1 with
    | error failure => rw [hc] at hv; cases hv
    | ok done =>
      obtain ⟨id, u⟩ := done
      rw [hc] at hv
      cases hv
      unfold callRegister at hc
      split at hc
      · cases hc
      · next linked _ =>
        split at hc
        · cases hc
        · next listener hread =>
          split at hc
          · cases hc
          · next hr =>
            cases hc
            exact ⟨linked, listener, id, _, hread, hr, h⟩

/-- So it stores one handler and subscribes with it, or does neither. -/
theorem runRegister_cases (w : World LuaState) (args : List (ScriptArgument Step))
    (direct : Bool) : ∃ functions, (w.runRegister args direct).2 = { w with functions } ∨
      ∃ callable handler u signature completed,
        storeHandler? { w with functions } callable = some (handler, u) ∧
        (w.runRegister args direct).2 =
          (u.subscribe signature handler).2.reportAll (scriptEvents completed) := by
  obtain ⟨functions, ⟨_, h⟩ | ⟨_, listener, _, _, _, hr, h⟩⟩ := w.runRegister_ends args direct
  · exact ⟨functions, .inl (congrArg Prod.snd h)⟩
  · obtain ⟨_, handler, u, _, _, hs, hv⟩ := registerListener_cases hr
    obtain rfl := congrArg Prod.snd hv
    exact ⟨functions, .inr ⟨_, handler, u, _, _, hs, congrArg Prod.snd h⟩⟩

/-- Installing the module changes what the machine knows of the module, and nothing else. -/
theorem reinstall_eq (w : World LuaState) (global : Option LuaValue) (mark orphan : Bool) :
    ∃ own, (w.reinstall global mark orphan).2 = w.setMachine { w.machine with own } := by
  unfold reinstall
  extract_lets current
  generalize current = held
  cases held with
  | module version linked => exact ⟨_, rfl⟩
  | other v => cases v <;> cases mark <;> exact ⟨_, rfl⟩

end World

instance : LawfulOwn LuaState where
  own_books request w := by
    cases request with
    | register args direct =>
      obtain ⟨functions, h | ⟨_, handler, u, signature, _, hs, h⟩⟩ :=
        w.runRegister_cases args direct
      · exact .inl ((congrArg World.books h).trans rfl)
      · have hu := World.books_storeHandler? hs
        exact .inr ⟨u, signature, handler, hu, (congrArg World.books h).trans rfl⟩
    | script sample direct =>
      obtain ⟨_, h⟩ := w.runSample_eq sample direct
      exact .inl ((congrArg World.books h).trans rfl)
    | reinstall global mark orphan =>
      obtain ⟨_, h⟩ := w.reinstall_eq global mark orphan
      exact .inl ((congrArg World.books h).trans rfl)
    | leaveBehind | reject | describeMachine => exact .inl rfl

end StoryHooks
