import StoryHooks.Proofs.Outcomes
import StoryHooks.Proofs.ScriptStack

/-!
# What a report says of a failure

The report of a failed invocation is the last thing that the guard makes of it. The message carries
the text of the failure, but for a fault that leaves slots on the stack: then it shows the topmost of
them instead. An argument that is refused always leaves some, the handler at least.

Results:
1. `guard_of_firstRejected`: a refused argument is reported by the slot that was pushed before it.
2. `faultLeaves_iff_of_sparing`: no other fault leaves a slot, unless bodies address the stack.
3. `failure_named_unless_left`: the text of a failure is reported, or a slot covers it.
-/

namespace StoryHooks

open Script

/-- The text of a failure. -/
def HandlerOutcome.cause? : HandlerOutcome → Option String
  | .completed => none
  | .scriptError message | .fault message => some message
  | .skipped e => some e.message

/-- The text of the failure stands in the message of the event. -/
def Event.Names (event : Event) (outcome : HandlerOutcome) : Prop :=
  ∀ cause, outcome.cause? = some cause → cause.toList <:+: event.fullMessage.toList

theorem Event.names_of_append {event : Event} {outcome : HandlerOutcome} {opening cause : String}
    (hcause : outcome.cause? = some cause) (hmessage : event.fullMessage = opening ++ cause) :
    event.Names outcome := by
  intro text htext
  cases hcause.symm.trans htext
  rw [hmessage, String.toList_append]
  exact (List.suffix_append _ _).isInfix

namespace World

variable {perform : Perform Recording} {w v : World Recording} {handler : HandlerRef}
  {args : Arguments}

/-! ## What is left on the stack -/

/-- The topmost slot of a handler and the arguments that were pushed before one was refused. -/
def lastPushed (w : World Recording) (handler : HandlerRef) (callable : Callable)
    (args : Arguments) : RecordedSlot :=
  ((w.machine.accepted args.values).map RecordedSlot.value).getLastD (.handler handler callable)

/-- An invocation ends with a fault that leaves slots above the depth that the guard found, this one
on top of them: an argument is refused, or the body faults on a stack that it has pushed to. -/
inductive FaultLeaves (perform : Perform Recording) (handler : HandlerRef) (args : Arguments)
    (w : World Recording) : RecordedSlot → Prop
  | refused {callable : Callable} {value : Value} :
      w.machine.checkStack (1 + args.count) = .ok () →
      w.machine.handlers[handler.number]? = some callable →
      w.machine.firstRejected? args.values = some value →
      FaultLeaves perform handler args w (w.lastPushed handler callable args)
  | faulted {callable : Callable} {fault : Fault} {u : World Recording} {slot : RecordedSlot}
      {slots : List RecordedSlot} :
      w.machine.checkStack (1 + args.count) = .ok () →
      w.machine.handlers[handler.number]? = some callable →
      w.machine.firstRejected? args.values = none →
      runCallable perform callable args.values (w.setMachine w.machine.enter) =
        some (.faults fault, u) →
      u.machine.slots = slot :: slots → w.machine.depth ≤ slots.length →
      FaultLeaves perform handler args w slot

/-- What was pushed last is on top. -/
theorem reverse_append_eq_cons {α : Type} (pushed : List α) (first : α) (slots : List α) :
    ∃ rest, pushed.reverse ++ first :: slots = pushed.getLastD first :: rest := by
  rcases List.eq_nil_or_concat pushed with rfl | ⟨earlier, last, rfl⟩
  · exact ⟨slots, rfl⟩
  · refine ⟨earlier.reverse ++ first :: slots, ?_⟩
    rw [List.concat_eq_append, List.reverse_concat, List.getLastD_concat]
    rfl

theorem restore_of_le {entry : Nat} (h : v.machine.depth ≤ entry) : v.restore entry = v :=
  congrArg v.setMachine (Machine.restore_of_le h)

theorem faultOut_of_le {entry : Nat} (h : v.machine.depth ≤ entry) (handler : HandlerRef)
    (message : String) :
    v.faultOut handler entry message =
      (.fault message, v.report (.callbackFaulted handler message)) :=
  if_neg (Nat.not_lt.mpr h)

theorem faultOut_of_left {entry : Nat} {slot : RecordedSlot} {slots : List RecordedSlot}
    (hslots : v.machine.slots = slot :: slots) (hdepth : entry ≤ slots.length)
    (handler : HandlerRef) (message : String) :
    v.faultOut handler entry message =
      (.fault message, (v.report (.callbackFailed handler slot.text)).restore entry) := by
  have hdeeper : entry < v.machine.depth := by
    rw [Machine.depth, hslots]
    exact Nat.lt_succ_of_le hdepth
  have htext : v.topText = slot.text := by
    rw [topText, Machine.topText?, hslots]
    rfl
  rw [faultOut, if_pos hdeeper, htext]

/-! ## One report for each way to fail -/

/-- An argument that is refused is reported by what was pushed before it. -/
theorem guard_of_firstRejected {callable : Callable} {value : Value}
    (hroom : w.machine.checkStack (1 + args.count) = .ok ())
    (hh : w.machine.handlers[handler.number]? = some callable)
    (hvalue : w.machine.firstRejected? args.values = some value) (perform : Perform Recording) :
    guard perform handler args w =
      some (.fault (MachineError.conversion (Recording.rejection value.type)).message,
        w.report (.callbackFailed handler (w.lastPushed handler callable args).text)) := by
  have hmarshal := Machine.marshal_of_firstRejected hh hvalue
  obtain ⟨rest, hrest⟩ := reverse_append_eq_cons
    ((w.machine.accepted args.values).map RecordedSlot.value)
    (RecordedSlot.handler handler callable) w.machine.slots
  have hdepth : w.machine.depth ≤ rest.length := by
    have hlength := congrArg List.length hrest
    simp only [List.length_append, List.length_cons] at hlength
    rw [Machine.depth]
    omega
  have hout := faultOut_of_left (v := w.setMachine { w.machine with
    slots := ((w.machine.accepted args.values).map RecordedSlot.value).reverse ++
      RecordedSlot.handler handler callable :: w.machine.slots }) hrest hdepth handler
  simp only [guard, hroom, hmarshal, hout]
  have hcut := w.restore_setMachine_append
    (((w.machine.accepted args.values).map RecordedSlot.value).reverse ++
      [RecordedSlot.handler handler callable])
  rw [List.append_assoc, List.singleton_append] at hcut
  exact congrArg (fun u : World Recording => some
    (HandlerOutcome.fault (MachineError.conversion (Recording.rejection value.type)).message,
      u.report (.callbackFailed handler (w.lastPushed handler callable args).text))) hcut

section Known
variable {callable : Callable} {slot : RecordedSlot}
  (hroom : w.machine.checkStack (1 + args.count) = .ok ())
  (hh : w.machine.handlers[handler.number]? = some callable)
include hroom hh

theorem faultLeaves_of_rejected_iff {value : Value}
    (hvalue : w.machine.firstRejected? args.values = some value) :
    FaultLeaves perform handler args w slot ↔ slot = w.lastPushed handler callable args := by
  constructor
  · intro hleft
    cases hleft with
    | refused _ hh' =>
      cases hh.symm.trans hh'
      rfl
    | faulted _ _ hnone => cases hvalue.symm.trans hnone
  · rintro rfl
    exact .refused hroom hh hvalue

theorem faultLeaves_of_run_iff {ending : Ending} {u : World Recording}
    (hvalues : w.machine.firstRejected? args.values = none)
    (hrun : runCallable perform callable args.values (w.setMachine w.machine.enter) =
      some (ending, u)) :
    FaultLeaves perform handler args w slot ↔ ∃ fault slots, ending = .faults fault ∧
      u.machine.slots = slot :: slots ∧ w.machine.depth ≤ slots.length := by
  constructor
  · intro hleft
    cases hleft with
    | refused _ _ hvalue => cases hvalues.symm.trans hvalue
    | faulted _ hh' _ hrun' hslots hdepth =>
      cases hh.symm.trans hh'
      cases hrun.symm.trans hrun'
      exact ⟨_, _, rfl, hslots, hdepth⟩
  · rintro ⟨fault, slots, rfl, hslots, hdepth⟩
    exact .faulted hroom hh hvalues hrun hslots hdepth

end Known

/-- Bodies that do not address the stack leave nothing on it as they fault. -/
theorem faultLeaves_iff_of_sparing (hp : Stepwise (sparing w.machine.slots) perform)
    {slot : RecordedSlot} :
    FaultLeaves perform handler args w slot ↔
      w.machine.checkStack (1 + args.count) = .ok () ∧
        ∃ callable value, w.machine.handlers[handler.number]? = some callable ∧
          w.machine.firstRejected? args.values = some value ∧
          slot = w.lastPushed handler callable args := by
  constructor
  · intro hleft
    cases hleft with
    | refused hroom hh hvalue => exact ⟨hroom, _, _, hh, hvalue, rfl⟩
    | @faulted callable fault u slot slots _ _ _ hrun hslots hdepth =>
      have hR : CarriedBy (sparing w.machine.slots) (KeepsSlots w.machine.slots) :=
        carriedBy_sparing w.machine.slots
      have hkept : (w.setMachine w.machine.enter).SameStack u :=
        bodies_carried hR.toAlong (hp.carried hR) _ _ _ _ _ hrun rfl
      have hlength : u.machine.slots.length = w.machine.slots.length :=
        congrArg List.length hkept.slots_eq
      rw [hslots, List.length_cons] at hlength
      exact absurd hdepth (Nat.not_le.mpr (Nat.lt_of_succ_le (Nat.le_of_eq hlength)))
  · rintro ⟨hroom, _, _, hh, hvalue, rfl⟩
    exact .refused hroom hh hvalue

/-! ## The last report of an invocation -/

/-- An invocation that ends in a failure makes this report last, before the stack is cut back. It is
an error, and names the failure; but if a slot is left it shows that slot instead. -/
structure Diagnosed (entry : Nat) (handler : HandlerRef) (outcome : HandlerOutcome)
    (left : RecordedSlot → Prop) (v : World Recording) (event : Event) : Prop where
  level_eq : event.level = .error
  reported : ∃ u : World Recording, v = (u.report event).restore entry
  covered : ∀ slot, left slot → event = .callbackFailed handler slot.text
  named : (∀ slot, ¬ left slot) → event.Names outcome

section Diagnosed
variable {entry : Nat} {outcome : HandlerOutcome} {left : RecordedSlot → Prop}
  {u : World Recording} {event : Event}

theorem Diagnosed.getLast?_events (h : Diagnosed entry handler outcome left v event) :
    v.events.getLast? = some event := by
  obtain ⟨u, rfl⟩ := h.reported
  exact List.getLast?_concat

theorem Diagnosed.bare (hlevel : event.level = .error)
    (hv : v = (u.report event).restore entry) (hnames : event.Names outcome)
    (hleft : ∀ slot, ¬ left slot) : Diagnosed entry handler outcome left v event where
  level_eq := hlevel
  reported := ⟨u, hv⟩
  covered slot h := absurd h (hleft slot)
  named _ := hnames

theorem Diagnosed.under {slot : RecordedSlot}
    (hv : v = (u.report (.callbackFailed handler slot.text)).restore entry)
    (hleft : ∀ other, left other ↔ other = slot) :
    Diagnosed entry handler outcome left v (.callbackFailed handler slot.text) where
  level_eq := rfl
  reported := ⟨u, hv⟩
  covered other h := by rw [(hleft other).mp h]
  named h := absurd ((hleft slot).mpr rfl) (h slot)

/-- A body that has ended is reported with its own text, or with the topmost slot if it has left one
as it faulted. -/
theorem concluded_diagnosed {ending : Ending} (hending : ending ≠ .returns)
    (hleft : ∀ slot, left slot ↔ ∃ fault slots, ending = .faults fault ∧
      u.machine.slots = slot :: slots ∧ entry ≤ slots.length) :
    ∃ event, Diagnosed entry handler (u.concluded handler entry ending).1 left
      (u.concluded handler entry ending).2 event := by
  cases ending with
  | returns => exact absurd rfl hending
  | raises message =>
    refine ⟨_, .bare rfl rfl (Event.names_of_append rfl rfl) fun slot hslot => ?_⟩
    obtain ⟨_, _, hfaults, -⟩ := (hleft slot).mp hslot
    cases hfaults
  | faults fault =>
    have hconcluded : u.concluded handler entry (.faults fault) =
        (u.returned (.faults fault)).faultOut handler entry fault.message := rfl
    have hslots : (u.returned (.faults fault)).machine.slots = u.machine.slots := rfl
    rw [hconcluded]
    by_cases hdeeper : entry < u.machine.depth
    · obtain ⟨slot, slots, hcons⟩ := List.exists_cons_of_length_pos (Nat.zero_lt_of_lt hdeeper)
      have hdepth : entry ≤ slots.length := by
        rw [Machine.depth, hcons] at hdeeper
        exact Nat.le_of_lt_succ hdeeper
      rw [faultOut_of_left (hslots.trans hcons) hdepth]
      refine ⟨_, .under rfl fun other => (hleft other).trans ?_⟩
      constructor
      · rintro ⟨_, _, -, hcons', -⟩
        cases hcons.symm.trans hcons'
        rfl
      · rintro rfl
        exact ⟨fault, slots, rfl, hcons, hdepth⟩
    · have hdepth : (u.returned (.faults fault)).machine.depth ≤ entry := Nat.not_lt.mp hdeeper
      have hkept := restore_of_le (v := (u.returned (.faults fault)).report
        (.callbackFaulted handler fault.message)) hdepth
      rw [faultOut_of_le hdepth]
      refine ⟨_, .bare rfl hkept.symm (Event.names_of_append rfl rfl) ?_⟩
      intro slot hslot
      obtain ⟨_, slots, -, hcons, hentry⟩ := (hleft slot).mp hslot
      rw [Machine.depth, hcons] at hdeeper
      exact hdeeper (Nat.lt_succ_of_le hentry)

end Diagnosed

/-- Whatever is on the stack, whichever handler is asked for and with whatever arguments: a failed
invocation makes the report of its failure last, as an error. The message carries the text of the
failure, be it a script error, a fault or a refusal of room, unless a fault leaves slots above those
that the guard found. Then it shows the topmost of them: what was pushed last before an argument was
refused, or what a body has on the stack as it faults. Without a refused argument the failure is
named if no body addresses the stack or shuts down a machine with something on it. -/
theorem failure_named_unless_left {outcome : HandlerOutcome}
    (h : guard perform handler args w = some (outcome, v)) (hfailure : outcome.isFailure = true) :
    ∃ event,
      Diagnosed w.machine.depth handler outcome (FaultLeaves perform handler args w) v event ∧
      (Stepwise (sparing w.machine.slots) perform →
        w.machine.firstRejected? args.values = none → event.Names outcome) := by
  suffices hreport : ∃ event, Diagnosed w.machine.depth handler outcome
      (FaultLeaves perform handler args w) v event by
    obtain ⟨event, hevent⟩ := hreport
    refine ⟨event, hevent, fun hp hvalues => hevent.named fun slot hleft => ?_⟩
    obtain ⟨-, _, _, -, hvalue, -⟩ := (faultLeaves_iff_of_sparing hp).mp hleft
    cases hvalues.symm.trans hvalue
  have hsame {u : World Recording} (hu : u.machine = w.machine) :
      u = u.restore w.machine.depth := by
    rw [← hu]
    exact (restore_of_le (Nat.le_refl _)).symm
  cases hroom : w.machine.checkStack (1 + args.count) with
  | error e =>
    rw [guard_of_refused hroom] at h
    cases h
    refine ⟨_, .bare rfl (hsame rfl) (Event.names_of_append rfl rfl) ?_⟩
    rintro slot (⟨hok, -, -⟩ | ⟨hok, -, -, -, -, -⟩) <;> cases hroom.symm.trans hok
  | ok room =>
    cases hh : w.machine.handlers[handler.number]? with
    | none =>
      rw [guard_of_unknown hroom hh] at h
      cases h
      refine ⟨_, .bare rfl (hsame rfl) (Event.names_of_append rfl rfl) ?_⟩
      rintro slot (⟨-, hknown, -⟩ | ⟨-, hknown, -, -, -, -⟩) <;> cases hh.symm.trans hknown
    | some callable =>
      cases hvalues : w.machine.firstRejected? args.values with
      | some value =>
        rw [guard_of_firstRejected hroom hh hvalues] at h
        cases h
        exact ⟨_, .under (hsame rfl) fun _ => faultLeaves_of_rejected_iff hroom hh hvalues⟩
      | none =>
        rw [guard_of_known hroom hh (Machine.passes_of_firstRejected hvalues) rfl,
          Option.map_eq_some_iff] at h
        obtain ⟨⟨ending, u⟩, hrun, hconcluded⟩ := h
        obtain ⟨rfl, rfl⟩ := Prod.mk.inj hconcluded
        refine concluded_diagnosed ?_ fun _ => faultLeaves_of_run_iff hroom hh hvalues hrun
        rintro rfl
        cases hfailure

/-- A bridge whose machine refuses reals, with one handler. -/
def refusing : World Recording :=
  ((Recording.start maxSlots {}).afterSteps? 1
    [.addHandler ⟨[], .returns, none, none⟩, .own (.reject .real)]).get (by decide +kernel)

def integerAndReal : Arguments := .slice [.integer 1, .real (.ofInt 2)]

/-- There is room for an integer and a real there, but the real is refused. -/
theorem refusing_refuses_real :
    refusing.machine.checkStack (1 + integerAndReal.count) = .ok () ∧
      refusing.machine.handlers[0]? = some (.body 0) ∧
      refusing.machine.firstRejected? integerAndReal.values = some (.real (.ofInt 2)) := by
  decide +kernel

/-- A handler that the bridge does not have is named. A refused argument is not: the integer that
went before it shows. -/
theorem refusing_diagnosed :
    (∃ (v : World Recording) (event : Event),
      guard (stepOnly (sparing refusing.machine.slots) 1) ⟨7⟩ (.slice [.integer 1]) refusing =
        some (.fault "Unknown handler reference 7", v) ∧
      (HandlerOutcome.fault "Unknown handler reference 7").isFailure = true ∧
      v.events.getLast? = some event ∧ event.Names (.fault "Unknown handler reference 7")) ∧
    ∃ v : World Recording,
      guard (stepWithin 1) ⟨0⟩ integerAndReal refusing =
        some (.fault "Value conversion failed: Real values are rejected", v) ∧
      (HandlerOutcome.fault "Value conversion failed: Real values are rejected").isFailure = true ∧
      v.events.getLast? = some (.callbackFailed ⟨0⟩ "1") := by
  constructor
  · have hroom : refusing.machine.checkStack 2 = .ok () := by decide +kernel
    have hunknown : refusing.machine.handlers[7]? = none := by decide +kernel
    have h : guard (stepOnly (sparing refusing.machine.slots) 1) ⟨7⟩ (.slice [.integer 1])
        refusing = _ := guard_of_unknown hroom hunknown _
    obtain ⟨event, hevent, hnames⟩ := failure_named_unless_left h rfl
    exact ⟨_, event, h, rfl, hevent.getLast?_events,
      hnames (stepOnly_stepwise _ 1) (by decide +kernel)⟩
  · obtain ⟨hroom, hh, hvalue⟩ := refusing_refuses_real
    have h : guard (stepWithin 1) ⟨0⟩ integerAndReal refusing = _ :=
      guard_of_firstRejected hroom hh hvalue _
    obtain ⟨event, hevent, -⟩ := failure_named_unless_left h rfl
    have hcovered : event = .callbackFailed ⟨0⟩ "1" :=
      hevent.covered _ (.refused hroom hh hvalue)
    exact ⟨_, h, rfl, hcovered ▸ hevent.getLast?_events⟩

/-- What is reported of the real that is refused there does not say so. -/
theorem refused_argument_not_named :
    ∃ v event, guard (stepWithin 1) ⟨0⟩ integerAndReal refusing =
        some (.fault "Value conversion failed: Real values are rejected", v) ∧
      v.events.getLast? = some event ∧
      event.fullMessage = "Osiris event callback failed: 1" ∧
      ¬ event.Names (.fault "Value conversion failed: Real values are rejected") := by
  obtain ⟨hroom, hh, hvalue⟩ := refusing_refuses_real
  refine ⟨_, .callbackFailed ⟨0⟩ "1", guard_of_firstRejected hroom hh hvalue _, ?_, rfl, ?_⟩
  · exact List.getLast?_concat
  · intro hnames
    have hinfix := hnames _ rfl
    revert hinfix
    decide +kernel

end World

end StoryHooks
