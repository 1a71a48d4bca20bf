import StoryHooks.Proofs.ScriptStack

/-!
# The value stack

The host pushes a function and its arguments and calls it. The call takes them off before it runs
the body, and what it leaves goes where they were. The slots below are the caller's: the body finds
them there, as do all bodies that it sets going, and none of them touches the stack except through
the guard.

A fault is handed out by one more call. Where a Lua state has no room for that, the fault does not
get out: the call fails, with a message, like one whose body has raised an error.

Results:
1. `carriedBy_tidy`: tidy steps leave the number of calls in progress, and what calls leave behind.
2. `CallRuns.slots_eq`, `CallRuns.result_eq`: a body ends on the slots below the frame, and the call
   ends as the body does.
3. `call_leaves`: what a call leaves above them.
4. `stacks_honour_protocol`: the stacks of both machines keep to the protocol.
5. `deep_fault_leaves_message`: a fault that cannot get out leaves something, and a body that is set
   going can take more than its own if it addresses the stack.
-/

namespace StoryHooks

open Script

/-- A step does not address the stack, shut the machine down or have it leave stray slots behind. -/
def Step.tidy : Step → Bool
  | .stack _ | .shutDown | .own (.leaveBehind _) => false
  | _ => true

/-- The steps of that kind. -/
def tidy : Step → Prop := fun s => s.tidy = true

instance : DecidablePred tidy := fun s => inferInstanceAs (Decidable (s.tidy = true))

theorem sparing_of_tidy {α : Type} (slots : List α) (s : Step) (h : tidy s) : sparing slots s := by
  cases s with
  | stack | shutDown => cases h
  | _ => rfl

variable {δ : Type} [Dialect δ]

namespace World

/-! ## Calls in progress -/

/-- `v` has as many calls in progress as `w`, and its calls leave the same slots behind. -/
structure SameCalls (w v : World δ) : Prop where
  nesting_eq : v.machine.nesting = w.machine.nesting
  stray_eq : Dialect.stray v.machine.own = Dialect.stray w.machine.own

namespace SameCalls

variable {u v w : World δ}

theorem of_machine_eq (h : v.machine = w.machine) : w.SameCalls v := by
  constructor <;> rw [h]

theorem trans (hu : w.SameCalls u) (hv : u.SameCalls v) : w.SameCalls v :=
  ⟨hv.nesting_eq.trans hu.nesting_eq, hv.stray_eq.trans hu.stray_eq⟩

/-- Bodies end alike where as many calls are in progress. -/
theorem settle_eq (h : w.SameCalls v) (ending : Ending) :
    v.machine.settle ending = w.machine.settle ending := by
  have hroom : v.machine.hasRoomFor 1 = w.machine.hasRoomFor 1 := by
    simp only [Machine.hasRoomFor, h.nesting_eq]
  cases ending <;> simp only [Machine.settle, hroom]

end SameCalls

end World

/-- What one kind of machine is asked for on its own leaves the calls in progress alone, and what
calls leave behind unless it is asked for just that. -/
class TidyOwn (δ : Type) [Dialect δ] [OwnDialect δ] : Prop where
  own_sameCalls (request : OwnStep Step) (w : World δ) :
    tidy (.own request) → w.SameCalls (OwnDialect.perform request w).2

instance : TidyOwn Recording where
  own_sameCalls request w h := by
    cases request with
    | leaveBehind => cases h
    | _ => exact ⟨rfl, rfl⟩

instance : TidyOwn LuaState where
  own_sameCalls request w _ := by
    obtain ⟨_, _, _, h⟩ := LuaState.own_machine request w
    exact ⟨by rw [h], rfl⟩

namespace World

variable {perform : Perform δ} {u v w : World δ}

/-- The guard leaves as many calls in progress as it found, if the body of the handler does. -/
theorem guard_sameCalls (hbodies : BodiesKeeping SameCalls perform) {handler : HandlerRef}
    {args : Arguments} {outcome : HandlerOutcome}
    (h : guard perform handler args w = some (outcome, v)) : w.SameCalls v := by
  obtain ⟨events, _, ⟨_, rfl⟩ | ⟨callable, arguments, ending, u, hrun, rfl⟩⟩ := guard_cases h
  · exact .of_machine_eq rfl
  · have hu := hbodies callable arguments ending _ u hrun
    have hleft : u.machine.nesting - 1 = w.machine.nesting := by
      rw [hu.nesting_eq]
      rfl
    exact ⟨hleft, hu.stray_eq⟩

/-- A tidy step leaves the calls in progress alone, if the steps of bodies do. -/
theorem carriedBy_tidy [OwnDialect δ] [TidyOwn δ] :
    CarriedBy tidy (SameCalls : World δ → World δ → Prop) where
  trans := .trans
  noted _ hm _ _ := .of_machine_eq hm
  guard hbodies h := guard_sameCalls hbodies h
  unavailable _ _ := ⟨rfl, rfl⟩
  firing {w _ key} invocations _ hu := by
    have hbegan : w.SameCalls (w.began key) := ⟨rfl, rfl⟩
    exact (hbegan.trans hu).trans (.of_machine_eq (finish_machine _ invocations _))
  step {_ s w v _} ha hs _ h := by
    cases hm : s.asksMachine with
    | false =>
      obtain ⟨_, _, he⟩ := step_machine hs hm h
      constructor <;> rw [he]
    | true =>
      cases s with
      | stack | shutDown => cases ha
      | own request =>
        obtain rfl := congrArg Prod.snd (Option.some.inj h)
        exact TidyOwn.own_sameCalls request w ha
      | _ => cases hm

/-! ## One call -/

/-- A call with so many arguments runs a body, which ends in this way and leaves `u`. -/
inductive CallRuns (perform : Perform δ) (count : Nat) (w : World δ) : Ending → World δ → Prop
  | mk {frame : Frame (Dialect.Argument δ)} {machine : Machine δ} {callable : Callable}
      {ending : Ending} {u : World δ} :
      w.machine.detach count = .ok (frame, machine) → frame.callable = some callable →
      machine.hasRoomFor 1 = true →
      runCallable perform callable frame.arguments (w.setMachine machine.enter) =
        some (ending, u) →
      CallRuns perform count w ending u

/-- What a call comes to by its body, given whether a fault gets out of it. -/
def resultWithin (faultsOut : Bool) : Ending → CallResult
  | .returns => .returned
  | .raises _ => .failed
  | .faults fault => if faultsOut then .faulted fault else .failed

/-- What a call leaves above the slots that were below its frame: a message if it has failed, and
otherwise nothing. -/
def Leaves (lower slots : List (Dialect.Slot δ)) : CallResult → Prop
  | .failed => ∃ message, slots = Dialect.messageSlot message :: lower
  | .returned | .faulted _ => slots = lower

section Call
variable {count : Nat} {ending : Ending}

theorem CallRuns.call_eq (h : w.CallRuns perform count ending u) :
    call perform count w =
      some (resultOf (u.machine.settle ending), u.returned ending) := by
  obtain ⟨hd, hc, hroom, hrun⟩ := h
  rw [call_of_detached hd hc hroom, hrun, Option.map_some]

/-- A fault gets out if there is room for the call of the body and one more. -/
theorem resultOf_settle_enter (m : Machine δ) (ending : Ending) :
    resultOf (m.enter.settle ending) = resultWithin (m.hasRoomFor 2) ending := by
  have hroom : m.enter.hasRoomFor 1 = m.hasRoomFor 2 := rfl
  cases ending with
  | returns => rfl
  | raises message =>
    simp only [Machine.settle]
    split <;> rfl
  | faults fault =>
    simp only [Machine.settle, hroom, resultWithin]
    split <;> rfl

/-- A body that ends on these slots leaves them there, if the machine leaves nothing behind. -/
theorem returned_leaves (u : World δ) (ending : Ending) {lower : List (Dialect.Slot δ)}
    (hslots : u.machine.slots = lower) (hstray : Dialect.stray u.machine.own = []) :
    Leaves lower (u.returned ending).machine.slots (resultOf (u.machine.settle ending)) := by
  have hleft : (u.returned ending).machine.slots =
      leftAbove u.machine (u.machine.settle ending) ++ lower := by
    rw [← hslots]
    rfl
  rw [hleft]
  cases u.machine.settle ending with
  | returns => exact congrArg (· ++ lower) hstray
  | raises message =>
    exact ⟨Dialect.raisedMessage δ message, congrArg (_ :: · ++ lower) hstray⟩
  | faults fault => rfl

section Countable
variable (hcount : count < w.machine.depth)
  (hcountable : Dialect.callFault? δ w.machine.depth count = none)
include hcount hcountable

/-- A call that is not refused fails if the slot under the arguments cannot be called. -/
theorem call_of_notCallable {slot : Dialect.Slot δ} (hslot : w.machine.slots[count]? = some slot)
    (hnone : Dialect.callable? slot = none) (perform : Perform δ) :
    ∃ v, call perform count w = some (.failed, v) := by
  obtain ⟨frame, hd, hc⟩ := Machine.detach_of_countable hcount hcountable
  rw [hslot, Option.bind_some, hnone] at hc
  refine ⟨w.setMachine (w.machine.pop (count + 1)).leaveNotCallable, ?_⟩
  simp only [call, hd, hc]
  rfl

/-- It faults only if it runs a body that does. -/
theorem body_of_call_faulted {fault : Fault}
    (h : call perform count w = some (.faulted fault, v)) :
    ∃ u, w.CallRuns perform count (.faults fault) u := by
  generalize hr : CallResult.faulted fault = result at h
  cases calls_of_call h with
  | refused hd =>
    obtain ⟨_, htaken, _⟩ := Machine.detach_of_countable hcount hcountable
    cases hd.symm.trans htaken
  | notCallable | noRoom => cases hr
  | @ran _ _ _ ending u hd hc hroom hrun =>
    refine ⟨u, ?_⟩
    cases ending with
    | returns => cases hr
    | raises =>
      simp only [Machine.settle] at hr
      split at hr <;> cases hr
    | faults =>
      simp only [Machine.settle] at hr
      split at hr
      · cases hr
        exact .mk hd hc hroom hrun
      · cases hr

end Countable

variable [OwnDialect δ] (hp : Stepwise tidy perform)
include hp

/-- A body ends on the slots that were below the frame. -/
theorem CallRuns.slots_eq [SparingOwn δ] (h : w.CallRuns perform count ending u) :
    u.machine.slots = w.machine.slots.drop (count + 1) := by
  obtain ⟨hd, _, _, hrun⟩ := h
  obtain rfl := Machine.eq_pop_of_detach hd
  have hR := carriedBy_sparing (w.machine.slots.drop (count + 1))
  have hsparing := hp.mono (sparing_of_tidy (w.machine.slots.drop (count + 1)))
  have hbody := bodies_carried hR.toAlong (hsparing.carried hR) _ _ _ _ _ hrun
  exact (hbody rfl).slots_eq

variable [TidyOwn δ]

/-- It ends with its own call in progress beside those of the caller. -/
theorem CallRuns.sameCalls (h : w.CallRuns perform count ending u) :
    (w.setMachine w.machine.enter).SameCalls u := by
  obtain ⟨hd, _, _, hrun⟩ := h
  obtain rfl := Machine.eq_pop_of_detach hd
  have hbody := bodies_carried carriedBy_tidy.toAlong (hp.carried carriedBy_tidy) _ _ _ _ _ hrun
  exact ⟨hbody.nesting_eq, hbody.stray_eq⟩

/-- So the call ends as the body does, if a fault gets out. -/
theorem CallRuns.result_eq (h : w.CallRuns perform count ending u) :
    call perform count w =
      some (resultWithin (w.machine.hasRoomFor 2) ending, u.returned ending) := by
  have hsettled := (h.sameCalls hp).settle_eq ending
  rw [h.call_eq, hsettled]
  exact congrArg (fun result => some (result, _)) (resultOf_settle_enter w.machine ending)

/-- A fault for which there is no room leaves the message that says so. -/
theorem CallRuns.slots_of_full [SparingOwn δ] {fault : Fault}
    (h : w.CallRuns perform count (.faults fault) u) (hfull : w.machine.hasRoomFor 2 = false)
    (hstray : Dialect.stray w.machine.own = []) :
    (u.returned (.faults fault)).machine.slots =
      Dialect.messageSlot (Dialect.raisedMessage δ overflowMessage) ::
        w.machine.slots.drop (count + 1) := by
  have hroom : w.machine.enter.hasRoomFor 1 = false := hfull
  have hsettled : u.machine.settle (.faults fault) = .raises overflowMessage := by
    refine ((h.sameCalls hp).settle_eq _).trans ?_
    show (if w.machine.enter.hasRoomFor 1 then Ending.faults fault else _) = _
    rw [hroom]
    rfl
  have hnone : Dialect.stray u.machine.own = [] := (h.sameCalls hp).stray_eq.trans hstray
  simp only [returned, setMachine, leftAbove, hsettled, hnone, h.slots_eq hp, List.cons_append,
    List.nil_append]

/-- A call that is not refused leaves the slots below its frame, with a message above them if it has
failed and nothing otherwise. -/
theorem call_leaves [SparingOwn δ] (hstray : Dialect.stray w.machine.own = [])
    (hcount : count < w.machine.depth)
    (hcountable : Dialect.callFault? δ w.machine.depth count = none) {result : CallResult}
    (h : call perform count w = some (result, v)) :
    Leaves (w.machine.slots.drop (count + 1)) v.machine.slots result := by
  cases calls_of_call h with
  | refused hd =>
    obtain ⟨_, htaken, _⟩ := Machine.detach_of_countable hcount hcountable
    cases hd.symm.trans htaken
  | notCallable hd =>
    obtain rfl := Machine.eq_pop_of_detach hd
    exact ⟨notCallableMessage, rfl⟩
  | noRoom hd =>
    obtain rfl := Machine.eq_pop_of_detach hd
    refine ⟨Dialect.raisedMessage δ overflowMessage, congrArg (List.cons _) ?_⟩
    show Dialect.stray w.machine.own ++ w.machine.slots.drop (count + 1) = _
    rw [hstray, List.nil_append]
  | @ran _ _ _ ending u hd hc hroom hrun =>
    have hruns : w.CallRuns perform count ending u := .mk hd hc hroom hrun
    have hnone : Dialect.stray u.machine.own = [] := (hruns.sameCalls hp).stray_eq.trans hstray
    exact u.returned_leaves ending (hruns.slots_eq hp) hnone

end Call

/-! ## The protocol -/

/-- A call with so many arguments keeps to the protocol. -/
structure HonoursCall (faultsOut : Bool) (perform : Perform δ) (count : Nat) (w : World δ) :
    Prop where
  /-- The slots below the frame are still there, and above them is the message of a failure or
  nothing. -/
  leaves : ∀ result v, call perform count w = some (result, v) →
    Leaves (w.machine.slots.drop (count + 1)) v.machine.slots result
  /-- The call ends as the body does that it runs. -/
  result : ∀ ending u, w.CallRuns perform count ending u →
    ∃ v, call perform count w = some (resultWithin faultsOut ending, v)
  /-- If a fault of the body does not get out, the message tells of a want of room. -/
  overflow : faultsOut = false → ∀ fault u, w.CallRuns perform count (.faults fault) u →
    ∃ v, call perform count w = some (.failed, v) ∧
      v.machine.slots = Dialect.messageSlot (Dialect.raisedMessage δ overflowMessage) ::
        w.machine.slots.drop (count + 1)
  /-- Nothing else faults. -/
  faulted : ∀ fault v, call perform count w = some (.faulted fault, v) →
    ∃ u, w.CallRuns perform count (.faults fault) u
  /-- Without a function under the arguments the call fails. -/
  notCallable : ∀ slot, w.machine.slots[count]? = some slot → Dialect.callable? slot = none →
    ∃ v, call perform count w = some (.failed, v)
  /-- It comes to its end if the steps of bodies do. -/
  ends : Finishing perform → ∃ result v, call perform count w = some (result, v)

/-- Calls keep to the protocol that are not refused, on a machine that leaves nothing behind. -/
theorem honoursCall [OwnDialect δ] [SparingOwn δ] [TidyOwn δ] {count : Nat}
    (hp : Stepwise tidy perform) (hstray : Dialect.stray w.machine.own = [])
    (hcount : count < w.machine.depth)
    (hcountable : Dialect.callFault? δ w.machine.depth count = none) :
    w.HonoursCall (w.machine.hasRoomFor 2) perform count where
  leaves _ _ h := call_leaves hp hstray hcount hcountable h
  result _ _ h := ⟨_, h.result_eq hp⟩
  overflow hfull fault u h := by
    have hcall := h.result_eq hp
    rw [hfull] at hcall
    exact ⟨_, hcall, h.slots_of_full hp hfull hstray⟩
  faulted _ _ h := body_of_call_faulted hcount hcountable h
  notCallable _ hslot hnone := call_of_notCallable hcount hcountable hslot hnone perform
  ends ht := by
    obtain ⟨⟨result, v⟩, h⟩ := Option.ne_none_iff_exists'.mp (call_ne_none ht count w)
    exact ⟨result, v, h⟩

/-- The stack of `w` keeps to the protocol with every request, given whether a fault gets out of a
call. -/
structure HonoursProtocol [OwnDialect δ] (faultsOut : Bool) (w : World δ) : Prop where
  /-- Asking for room leaves the stack alone. -/
  check (perform : Perform δ) (slots : Nat) :
    w.stackStep perform (.check slots) = some (.ok, w) ∨
      ∃ e, w.stackStep perform (.check slots) = some (.refused e, w)
  /-- A handler that is stored is pushed as one slot, and no other. -/
  pushHandler (perform : Perform δ) (handler : HandlerRef) :
    (∃ stored, w.machine.handlers[handler.number]? = some stored ∧
      w.stackStep perform (.pushHandler handler) =
        some (.ok, w.setMachine (w.machine.push (Dialect.handlerSlot handler stored)))) ∨
      ∃ e, w.stackStep perform (.pushHandler handler) = some (.refused e, w)
  /-- A value that has a slot is pushed as that one slot, and no other. -/
  pushValue (perform : Perform δ) (value : Value) :
    (∃ slot, Dialect.valueSlot w.machine.own value = .ok slot ∧
      w.stackStep perform (.pushValue value) = some (.ok, w.setMachine (w.machine.push slot))) ∨
      ∃ e, w.stackStep perform (.pushValue value) = some (.refused e, w)
  /-- As many slots are popped as are asked for, or all. -/
  pop (perform : Perform δ) (count : Nat) : ∃ popped rest,
    w.machine.slots = popped ++ rest ∧ popped.length = min count w.machine.depth ∧
      w.stackStep perform (.pop count) =
        some (.done, w.setMachine { w.machine with slots := rest })
  /-- Bodies may perform tidy steps. -/
  call (perform : Perform δ) (count : Nat) : Stepwise tidy perform →
    count + 1 ≤ w.machine.depth → w.HonoursCall faultsOut perform count

/-- Any machine keeps to the protocol that leaves nothing behind and refuses no call outright. -/
theorem honoursProtocol [OwnDialect δ] [SparingOwn δ] [TidyOwn δ] (w : World δ)
    (hstray : Dialect.stray w.machine.own = [])
    (hcountable : ∀ count, count < w.machine.depth →
      Dialect.callFault? δ w.machine.depth count = none) :
    w.HonoursProtocol (w.machine.hasRoomFor 2) where
  check perform slots := by
    simp only [stackStep]
    split
    · exact .inr ⟨_, rfl⟩
    · exact .inl rfl
  pushHandler perform handler := by
    simp only [stackStep, pushed, Machine.pushHandler]
    cases hh : w.machine.handlers[handler.number]? with
    | none => exact .inr ⟨_, rfl⟩
    | some stored => exact .inl ⟨stored, rfl, rfl⟩
  pushValue perform value := by
    simp only [stackStep, pushed, Machine.pushValue]
    cases hv : Dialect.valueSlot w.machine.own value with
    | error reason => exact .inr ⟨_, rfl⟩
    | ok slot => exact .inl ⟨slot, rfl, rfl⟩
  pop perform count :=
    ⟨w.machine.slots.take count, w.machine.slots.drop count, (List.take_append_drop _ _).symm,
      List.length_take, rfl⟩
  call perform count hp hcount := honoursCall hp hstray hcount (hcountable count hcount)

/-- The stacks of both machines keep to the protocol, whatever they hold. A Lua stack has no more
slots than can be counted, and no fault gets out of a call beside which there is no room for one
more. A recording stack keeps to it unless it was asked to leave stray values behind. -/
theorem stacks_honour_protocol :
    (∀ w : World LuaState, w.machine.depth < UInt64.size →
      w.HonoursProtocol (decide (w.machine.nesting + 2 ≤ LuaState.maxNesting))) ∧
    ∀ w : World Recording, w.machine.own.strayCount = 0 → w.HonoursProtocol true := by
  constructor
  · intro w hdepth
    refine w.honoursProtocol rfl fun count hcount => if_neg ?_
    exact Nat.not_le.mpr (Nat.lt_of_lt_of_le hcount (Nat.le_sub_one_of_lt hdepth))
  · intro w hnone
    refine w.honoursProtocol ?_ fun count hcount => if_neg (Nat.not_lt.mpr hcount)
    show List.replicate w.machine.own.strayCount (RecordedSlot.value .none) = []
    rw [hnone, List.replicate_zero]

/-- A bridge whose stack holds a value, a handler, another value and a second handler. The first
handler fires a key, whose handler is the second, and raises an error. The second ends with a
fault. -/
def manned? [OwnDialect δ] (w : World δ) : Option (World δ) :=
  w.afterSteps? 1
    [.define "Hit" 1 ⟨.event, ⟨7⟩, none⟩,
      .addHandler ⟨[.run (.function ⟨7⟩ false) .none], .raises "no", none, none⟩,
      .addHandler ⟨[], .faults (.text "bad"), none, none⟩,
      .subscribe ⟨"Hit", 1, .before⟩ ⟨1⟩, .loadStory false,
      .stack (.pushValue (.integer 5)), .stack (.pushHandler ⟨0⟩),
      .stack (.pushValue (.integer 6)), .stack (.pushHandler ⟨1⟩)]

def mannedRecording : World Recording :=
  (manned? (Recording.start 8 {})).get (by decide +kernel)

def mannedLua : World LuaState := (manned? (LuaState.start {} [])).get (by decide +kernel)

theorem HonoursCall.leaves_of_result {faultsOut : Bool} {count : Nat} {result : CallResult}
    (h : w.HonoursCall faultsOut perform count)
    (hr : (call perform count w).map Prod.fst = some result) :
    ∃ v, call perform count w = some (result, v) ∧
      Leaves (w.machine.slots.drop (count + 1)) v.machine.slots result := by
  obtain ⟨⟨_, v⟩, hc, rfl⟩ := Option.map_eq_some_iff.mp hr
  exact ⟨v, hc, h.leaves _ _ hc⟩

/-- The last slot is a function that faults, the one below it no function, and the one below that a
function that fails. -/
theorem manned_calls :
    mannedLua.machine.depth < UInt64.size ∧ mannedRecording.machine.own.strayCount = 0 ∧
    (∃ v, call (stepOnly tidy 2) 0 mannedLua = some (.faulted (.text "bad"), v) ∧
      v.machine.slots = mannedLua.machine.slots.drop 1) ∧
    (∃ v, call (stepOnly tidy 2) 1 mannedLua = some (.failed, v) ∧
      ∃ message, v.machine.slots = .ofText message :: mannedLua.machine.slots.drop 2) ∧
    ∃ v, call (stepOnly tidy 2) 2 mannedRecording = some (.failed, v) ∧
      ∃ message, v.machine.slots = .error message :: mannedRecording.machine.slots.drop 3 := by
  obtain ⟨hlua, hrecording⟩ := stacks_honour_protocol
  have hdepth : mannedLua.machine.depth < UInt64.size := by decide +kernel
  have hnone : mannedRecording.machine.own.strayCount = 0 := by decide +kernel
  have hlua' := (hlua mannedLua hdepth).call (stepOnly tidy 2)
  have hrecording' := (hrecording mannedRecording hnone).call (stepOnly tidy 2)
  have hp {δ : Type} [Dialect δ] [OwnDialect δ] : Stepwise tidy (stepOnly tidy 2 : Perform δ) :=
    stepOnly_stepwise tidy 2
  refine ⟨hdepth, hnone, ?_, ?_, ?_⟩
  · exact (hlua' 0 hp (by decide +kernel)).leaves_of_result (by decide +kernel)
  · exact (hlua' 1 hp (by decide +kernel)).leaves_of_result (by decide +kernel)
  · exact (hrecording' 2 hp (by decide +kernel)).leaves_of_result (by decide +kernel)

/-! ## A fault in the innermost call -/

/-- A function that calls itself, as the first handler. -/
def dive : Body Step := ⟨[.stack (.pushHandler ⟨0⟩), .stack (.call 0)], .returns, none, none⟩

/-- A function that ends with a fault, as the second handler. -/
def sink : Body Step := ⟨[], .faults (.text "deep"), none, none⟩

/-- A bridge with these two handlers. -/
def diving : World LuaState :=
  ((LuaState.start {} []).afterSteps? 1 [.addHandler dive, .addHandler sink]).get
    (by decide +kernel)

/-- So many calls of the first handler are in progress, and the stack is empty. -/
structure Dived (calls : Nat) (w : World LuaState) : Prop where
  moment : Moment anyStep 0 w
  alive : w.machine.alive = true
  nesting_eq : w.machine.nesting = calls
  slots_eq : w.machine.slots = []
  handlers_eq : w.machine.handlers = [.body 0, .body 1]
  functions_eq : w.functions = [⟨dive, calls⟩, ⟨sink, 0⟩]

namespace Dived

variable {calls : Nat} {w : World LuaState}

/-- The world with a handler on the empty stack. -/
def laid (w : World LuaState) (function : Nat) : World LuaState :=
  w.setMachine (w.machine.push (.function (.body function)))

theorem laid_moment (h : Dived calls w) {number : Nat} (hnumber : number < 2) :
    Moment anyStep 0 (laid w number) := by
  have hstored : w.machine.handlers[number]? = some (.body number) := by
    rw [h.handlers_eq]
    match number, hnumber with
    | 0, _ | 1, _ => rfl
  have hstep : step (stepWithin 0) (.stack (.pushHandler ⟨number⟩)) w =
      some (.ok, laid w number) := by
    simp only [step, h.alive, if_true, stackStep, Machine.pushHandler, hstored]
    rfl
  exact h.moment.course (.single (stepWithin_stepwise 0) trivial hstep)

/-- A call takes that handler off again. -/
theorem detach_laid (w : World LuaState) (function : Nat) :
    (laid w function).machine.detach 0 = .ok (⟨some (.body function), []⟩, w.machine) := rfl

theorem hasRoomFor_eq (h : Dived calls w) (more : Nat) :
    w.machine.hasRoomFor more = decide (calls + more ≤ LuaState.maxNesting) := by
  rw [← h.nesting_eq]
  rfl

/-- One more call of the first handler. -/
theorem succ (h : Dived calls w) (hroom : calls + 1 ≤ LuaState.maxNesting) :
    ∃ v, Dived (calls + 1) v := by
  have hroom' : w.machine.hasRoomFor 1 = true := by
    rw [h.hasRoomFor_eq, decide_eq_true hroom]
  have hdive : (laid w 0).functions[0]? = some ⟨dive, calls⟩ := congrArg (·[0]?) h.functions_eq
  have hstarts := CallStarts.mk (detach_laid w 0) rfl hroom' hdive
  have hcalled := (h.laid_moment (by decide)).called trivial hstarts
  refine ⟨_, hcalled, h.alive, ?_, h.slots_eq, h.handlers_eq, ?_⟩
  · exact congrArg (· + 1) h.nesting_eq
  · exact congrArg (List.set · 0 ⟨dive, calls + 1⟩) h.functions_eq

/-- As many calls as there is room for. -/
theorem exists_of_le (calls : Nat) (hroom : calls ≤ LuaState.maxNesting) :
    ∃ w, Dived calls w := by
  induction calls with
  | zero => exact ⟨diving, Moment.get _, rfl, rfl, rfl, rfl, rfl⟩
  | succ calls ih =>
    obtain ⟨w, hw⟩ := ih (Nat.le_of_succ_le hroom)
    exact hw.succ hroom

/-- The second handler is called beside them, and faults. -/
theorem runs_sink (h : Dived calls w) (hroom : calls + 1 ≤ LuaState.maxNesting)
    (perform : Perform LuaState) :
    ∃ u, (laid w 1).CallRuns perform 0 (.faults (.text "deep")) u := by
  have hroom' : w.machine.hasRoomFor 1 = true := by
    rw [h.hasRoomFor_eq, decide_eq_true hroom]
  have hsink : (laid w 1).functions[1]? = some ⟨sink, 0⟩ := congrArg (·[1]?) h.functions_eq
  refine ⟨((laid w 1).setMachine w.machine.enter).entered 1 [] ⟨sink, 0⟩,
    .mk (detach_laid w 1) rfl hroom' ?_⟩
  exact runFunction_of_known (w := (laid w 1).setMachine w.machine.enter) hsink perform []

end Dived

/-- A bridge with a value and a handler on the stack. The handler fires a key, and the body of the
handler that is run there takes more from the stack than is its own. -/
def reaching : World Recording :=
  ((Recording.start 8 {}).afterSteps? 1
    [.define "Hit" 1 ⟨.event, ⟨7⟩, none⟩,
      .addHandler ⟨[.run (.function ⟨7⟩ false) .none], .returns, none, none⟩,
      .addHandler ⟨[.stack (.pop 3)], .returns, none, none⟩,
      .subscribe ⟨"Hit", 1, .before⟩ ⟨1⟩, .loadStory false,
      .stack (.pushValue (.integer 5)), .stack (.pushHandler ⟨0⟩)]).get (by decide +kernel)

/-- If the last call for which there is room goes to a handler that faults, the fault leaves a
message where it should leave nothing. And what is below the frame is not safe from a body that
merely sets others going, if one of these addresses the stack. -/
theorem deep_fault_leaves_message :
    (¬ ∀ (level : Nat) (w u v : World LuaState) (perform : Perform LuaState) (count : Nat)
      (fault : Fault) (result : CallResult), Moment anyStep level w →
      w.machine.depth < UInt64.size → count + 1 ≤ w.machine.depth → Stepwise tidy perform →
      w.CallRuns perform count (.faults fault) u → call perform count w = some (result, v) →
      v.machine.slots = w.machine.slots.drop (count + 1)) ∧
    ¬ ∀ (w v : World Recording) (budget count number : Nat), Moment anyStep 0 w →
      w.machine.own.strayCount = 0 → count + 1 ≤ w.machine.depth →
      w.machine.slots[count]?.bind Dialect.callable? = some (.body number) →
      (w.functions[number]?.map fun function => function.body.steps.all Step.tidy) = some true →
      call (stepWithin budget) count w = some (.returned, v) →
      v.machine.slots = w.machine.slots.drop (count + 1) := by
  constructor
  · intro hall
    obtain ⟨w, hw⟩ := Dived.exists_of_le 198 (by decide)
    have hdepth : (Dived.laid w 1).machine.depth = 1 :=
      congrArg (fun slots => slots.length + 1) hw.slots_eq
    have hp : Stepwise tidy (stepOnly tidy 1 : Perform LuaState) := stepOnly_stepwise tidy 1
    obtain ⟨u, hruns⟩ := hw.runs_sink (by decide) (stepOnly tidy 1)
    -- the body takes the last room that there is, and none is left to hand its fault out
    have hroom : (Dived.laid w 1).machine.hasRoomFor 2 = false := hw.hasRoomFor_eq 2
    have hcall := hruns.result_eq hp
    rw [hroom] at hcall
    have hsame := hall 0 _ _ _ _ _ _ _ (hw.laid_moment (by decide)) (by rw [hdepth]; decide)
      (Nat.le_of_eq hdepth.symm) hp hruns hcall
    obtain ⟨message, hleft⟩ := call_leaves hp rfl (by rw [hdepth]; decide) rfl hcall
    exact List.cons_ne_self _ _ (hleft.symm.trans hsame)
  · intro hall
    have hends : (call (stepWithin 2) 0 reaching).map
        (fun done => (done.1, done.2.machine.depth)) = some (.returned, 0) := by decide +kernel
    obtain ⟨⟨result, v⟩, hcall, he⟩ := Option.map_eq_some_iff.mp hends
    obtain ⟨rfl, hempty⟩ := Prod.mk.inj he
    have hsame := hall reaching v 2 0 0 (Moment.get _) (by decide +kernel) (by decide +kernel)
      (by decide +kernel) (by decide +kernel) hcall
    have hlower : (reaching.machine.slots.drop 1).length = 1 := by decide +kernel
    have hbelow : v.machine.slots.length = 1 := (congrArg List.length hsame).trans hlower
    exact Nat.one_ne_zero (hbelow.symm.trans hempty)

end World

end StoryHooks
