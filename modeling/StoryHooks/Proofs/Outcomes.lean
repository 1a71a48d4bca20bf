import StoryHooks.Proofs.Simulation
import StoryHooks.Proofs.StackRoom

/-!
# How an invocation ends

Three things can keep the guard from a body, and they come up in this order: there is no room, the
handler is not stored, an argument is of a type that the machine refuses. Otherwise the body runs,
once, and the guard tells of it what it came to, whatever else the call has left on the stack.

Results:
1. `numbered_of_moment`: on the recording machine a handler reference is the number of its function.
2. `marshal_eq_conversion`: the first argument of a refused type is the one that counts.
3. `concluded_recorded`: an outcome is that of the body.
4. `guard_classifies`: all of it together, for any stack, any settings and any arguments.
-/

namespace StoryHooks

open Script

/-- What the guard makes of the way in which a body ended. -/
def HandlerOutcome.ofEnding : Ending → HandlerOutcome
  | .returns => .completed
  | .raises message => .scriptError message
  | .faults reason => .fault reason.message

/-! ## Handlers by number -/

namespace World

variable {w v : World Recording}

/-- The machine has stored the functions of the scripts as its handlers, each under its number. -/
def Numbered (w : World Recording) : Prop :=
  w.machine.handlers = (List.range w.functions.length).map .body

/-- The handlers of the machine and the number of functions. -/
def stock (w : World Recording) : List Callable × Nat := (w.machine.handlers, w.functions.length)

theorem besideStack_stock : BesideStack stock where
  noted _ hm hf := by rw [stock, stock, hm, hf]
  stack _ _ _ := rfl

theorem Numbered.of_stock (hw : w.Numbered) (h : v.stock = w.stock) : v.Numbered := by
  obtain ⟨hhandlers, hlength⟩ := Prod.mk.inj h
  rw [Numbered, hhandlers, hlength]
  exact hw

theorem Elsewhere.stock_eq (h : w.Elsewhere v) : v.stock = w.stock := by
  rw [stock, stock, h.machine_eq, h.functions_eq]

/-- Handlers outlive the machine, so it takes any at any time. -/
theorem storeHandler?_isSome (w : World Recording) (callable : Callable) :
    (w.storeHandler? callable).isSome = true := by
  have htakes : (w.machine.alive || Dialect.handlersOutlive Recording) = true := Bool.or_true _
  simp only [storeHandler?, Machine.store?, htakes, if_true, Option.map_some, Option.isSome_some]

/-- A function that is added is stored under its number. -/
theorem Numbered.stored (hw : w.Numbered) (body : Body Step) {handler : HandlerRef}
    (h : (w.addFunction body).2.storeHandler? (.body w.functions.length) = some (handler, v)) :
    v.Numbered := by
  obtain ⟨_, _, rfl⟩ := storeHandler?_cases h
  simp only [Numbered, setMachine, Machine.store, addFunction, List.length_append,
    List.length_singleton, List.range_succ, List.map_append, List.map_singleton]
  rw [hw]

theorem sees_numbered : Sees stock fun w v : World Recording => w.Numbered → v.Numbered where
  trans huv hvw hu := hvw (huv hu)
  same h hw := hw.of_stock h

/-- Every step that makes a function stores it, and nothing is ever taken out. -/
theorem carriedBy_numbered :
    CarriedBy anyStep fun w v : World Recording => w.Numbered → v.Numbered where
  trans := sees_numbered.trans
  noted hb hm _ hf := sees_numbered.same (besideStack_stock.noted hb hm hf)
  guard hbodies h := sees_numbered.guard besideStack_stock hbodies h
  unavailable _ _ := id
  firing {w u key} invocations _ hu hw := by
    have hbegan : (w.began key).Numbered := hw.of_stock rfl
    exact (hu hbegan).of_stock (finish_elsewhere _ invocations u).stock_eq
  step {_ s w v _} _ hf hbodies h hw := by
    cases s with
    | fire | run => cases hf
    | define | remove | clearSymbols | failNextInstall | shutDown =>
      cases h
      exact hw.of_stock rfl
    | addHandler body =>
      obtain ⟨⟨handler, u⟩, hstored⟩ := Option.isSome_iff_exists.mp
        ((w.addFunction body).2.storeHandler?_isSome (.body w.functions.length))
      have hnumber : (w.addFunction body).1 = w.functions.length := rfl
      simp only [step, hnumber, hstored] at h
      cases h
      exact hw.stored body hstored
    | subscribe signature handler =>
      simp only [step, whileManaged] at h
      split at h <;> cases h
      · exact hw.of_stock (subscribe_elsewhere w signature handler).stock_eq
      · exact hw
    | loadStory viaManager =>
      simp only [step, whileManaged] at h
      split at h
      · cases viaManager <;> cases h
        · exact hw.of_stock w.bindStory_elsewhere.stock_eq
        · exact hw.of_stock w.loadStory_elsewhere.stock_eq
      · cases h; exact hw
    | hook =>
      simp only [step, whileManaged] at h
      split at h <;> cases h
      · exact hw.of_stock w.hook_elsewhere.stock_eq
      · exact hw
    | setMerging | countHandlers | describe =>
      simp only [step, whileManaged] at h
      split at h <;> cases h <;> exact hw.of_stock rfl
    | drop =>
      cases h
      exact hw.of_stock w.dropManager_elsewhere.stock_eq
    | stack request =>
      simp only [step] at h
      split at h
      · exact sees_numbered.stackStep besideStack_stock hbodies h hw
      · cases h; exact hw
    | own request => cases request <;> cases h <;> exact hw.of_stock rfl

/-- Handlers go by the numbers of their functions wherever a run has got to. -/
theorem numbered_of_moment {level : Nat} (h : Moment anyStep level w) : w.Numbered := by
  obtain ⟨limit, own, settings, events, hw⟩ := h
  have hstart : Numbered (.start (.start limit own) settings events) := rfl
  exact hw.related besideStack_stock sees_numbered carriedBy_numbered
    (fun _ _ hu => hu.of_stock rfl) hstart

/-- A reference that is known leads to the function of its number. -/
theorem Numbered.known (hw : w.Numbered) {number : Nat} (h : number < w.machine.handlers.length) :
    w.machine.handlers[number]? = some (.body number) ∧
      ∃ function, w.functions[number]? = some function := by
  have hlt : number < w.functions.length := by
    rwa [hw, List.length_map, List.length_range] at h
  refine ⟨?_, w.functions[number], List.getElem?_eq_getElem hlt⟩
  rw [hw, List.getElem?_map, List.getElem?_range hlt, Option.map_some]

end World

/-! ## Arguments that are refused -/

namespace Script.Machine

variable {m : Machine Recording}

/-- The first of some values that is of a type that the machine refuses. -/
def firstRejected? (m : Machine Recording) (values : List Value) : Option Value :=
  values.find? fun value => value.type ∈ m.own.rejected

/-- The arguments before the first one of a refused type. -/
def accepted (m : Machine Recording) (values : List Value) : List Value :=
  values.takeWhile fun value => value.type ∉ m.own.rejected

theorem pushValue_of_rejected {value : Value} (h : value.type ∈ m.own.rejected) :
    m.pushValue value = .error (.conversion (Recording.rejection value.type)) := by
  have hslot : Dialect.valueSlot m.own value = .error (Recording.rejection value.type) := if_pos h
  rw [pushValue, hslot]

theorem pushValue_of_accepted {value : Value} (h : value.type ∉ m.own.rejected) :
    m.pushValue value = .ok (m.push (RecordedSlot.value value)) := by
  have hslot : Dialect.valueSlot m.own value = .ok (RecordedSlot.value value) := if_neg h
  rw [pushValue, hslot]

/-- Arguments are pushed up to the first one of a refused type. -/
theorem pushValues_of_firstRejected {values : List Value} {value : Value}
    (h : m.firstRejected? values = some value) :
    m.pushValues values = (some (.conversion (Recording.rejection value.type)),
      { m with slots := ((m.accepted values).map RecordedSlot.value).reverse ++ m.slots }) := by
  induction values generalizing m with
  | nil => cases h
  | cons first values ih =>
    by_cases hfirst : first.type ∈ m.own.rejected
    · have hnone : m.accepted (first :: values) = [] :=
        List.takeWhile_cons_of_neg (by simpa using hfirst)
      simp only [firstRejected?, List.find?_cons, hfirst, decide_true] at h
      cases h
      rw [pushValues, pushValue_of_rejected hfirst, hnone]
      rfl
    · have hmore : m.accepted (first :: values) = first :: m.accepted values :=
        List.takeWhile_cons_of_pos (by simpa using hfirst)
      simp only [firstRejected?, List.find?_cons, hfirst, decide_false] at h
      have hrest := ih (m := m.push (RecordedSlot.value first)) h
      rw [pushValues, pushValue_of_accepted hfirst, hmore, List.map_cons, List.reverse_cons,
        List.append_assoc]
      exact hrest

/-- Of the arguments of a handler that is stored, those before the first one of a refused type stay
on the stack. -/
theorem marshal_of_firstRejected {handler : HandlerRef} {callable : Callable} {values : List Value}
    {value : Value} (hh : m.handlers[handler.number]? = some callable)
    (h : m.firstRejected? values = some value) :
    m.marshal handler values = (some (.conversion (Recording.rejection value.type)),
      { m with
        slots := ((m.accepted values).map RecordedSlot.value).reverse ++
          RecordedSlot.handler handler callable :: m.slots }) := by
  have hpushed : (m.push (RecordedSlot.handler handler callable)).firstRejected? values =
      some value := h
  simp only [marshal, pushHandler, hh]
  exact pushValues_of_firstRejected hpushed

/-- Of the arguments of a handler that is stored, the first of a refused type is the one that
counts. -/
theorem marshal_eq_conversion {handler : HandlerRef} {callable : Callable} {values : List Value}
    {value : Value} (hh : m.handlers[handler.number]? = some callable)
    (h : m.firstRejected? values = some value) :
    ∃ m', m.marshal handler values = (some (.conversion (Recording.rejection value.type)), m') :=
  ⟨_, marshal_of_firstRejected hh h⟩

/-- Where none is refused the machine takes the call. -/
theorem passes_of_firstRejected {values : List Value} (h : m.firstRejected? values = none) :
    m.Passes values (values.map RecordedSlot.value) values :=
  passes_recorded fun value hvalue => by simpa using List.find?_eq_none.mp h value hvalue

end Script.Machine

/-- What is said of an unknown handler is never said of a value. -/
theorem Script.MachineError.unknownHandler_ne_conversion (number : Nat) (reason : String) :
    (unknownHandler number).message ≠ (conversion reason).message := by
  unfold message
  dsimp only
  intro h
  have hchars := congrArg String.toList h
  rw [String.toList_append, String.toList_append] at hchars
  simp at hchars

namespace World

/-! ## What the guard tells of a body -/

/-- The message of a script error is on top of the stack, above the stray values, and the guard
reads it from there. Calls are noted where bodies start and nowhere else. -/
theorem concluded_recorded (u : World Recording) (handler : HandlerRef) (entry : Nat)
    (ending : Ending) :
    (u.concluded handler entry ending).1 = .ofEnding ending ∧
      (u.concluded handler entry ending).2.calls = u.calls := by
  cases ending with
  | returns => exact ⟨rfl, rfl⟩
  | raises message => exact ⟨rfl, rfl⟩
  | faults reason =>
    have hconcluded : u.concluded handler entry (.faults reason) =
        (u.returned (.faults reason)).faultOut handler entry reason.message := rfl
    obtain ⟨_, _, hout⟩ :=
      faultOut_eq (u.returned (.faults reason)) handler entry reason.message
    rw [hconcluded, hout]
    exact ⟨rfl, rfl⟩

/-! ## All invocations -/

/-- The guard ends an invocation with this outcome by itself: no body starts, and one error is
reported and nothing else happens. -/
structure EndsAtOnce {δ : Type} [Dialect δ] (w : World δ) (handler : HandlerRef)
    (args : Arguments) (outcome : HandlerOutcome) : Prop where
  guard_eq : ∃ event : Event, event.level = .error ∧
    ∀ perform, guard perform handler args w = some (outcome, w.report event)
  not_guardStarts (v : World δ) : ¬ w.GuardStarts handler args v

section EndsAtOnce
variable {δ : Type} [Dialect δ] {w : World δ} {handler : HandlerRef} {args : Arguments}

theorem endsAtOnce_of_refused {e : MachineError}
    (h : w.machine.checkStack (1 + args.count) = .error e) :
    w.EndsAtOnce handler args (.skipped e) where
  guard_eq := ⟨.handlerSkipped handler (1 + args.count) e, rfl, fun _ => guard_of_refused h⟩
  not_guardStarts _ := not_guardStarts_of_refused h

theorem endsAtOnce_of_unprepared {e : MachineError} {machine : Machine δ}
    (hroom : w.machine.checkStack (1 + args.count) = .ok ())
    (hm : w.machine.marshal handler args.values = (some e, machine)) :
    w.EndsAtOnce handler args (.fault e.message) where
  guard_eq := guard_of_unprepared hroom hm
  not_guardStarts _ := by
    rintro ⟨_, hprepared, _⟩
    cases hm.symm.trans hprepared

/-- An invocation ends at once with one outcome at most. -/
theorem EndsAtOnce.unique {outcome outcome' : HandlerOutcome}
    (h : w.EndsAtOnce handler args outcome) (h' : w.EndsAtOnce handler args outcome') :
    outcome = outcome' := by
  obtain ⟨_, _, hguard⟩ := h.guard_eq
  obtain ⟨_, _, hguard'⟩ := h'.guard_eq
  have hsame := (hguard fun _ _ => none).symm.trans (hguard' _)
  exact congrArg Prod.fst (Option.some.inj hsame)

end EndsAtOnce

variable {w : World Recording}

/-- Where nothing stands in the way the body of the handler runs, once. -/
theorem guard_of_numbered (hw : w.Numbered) {handler : HandlerRef} {args : Arguments}
    (hroom : w.machine.checkStack (1 + args.count) = .ok ())
    (hknown : handler.number < w.machine.handlers.length)
    (hrejected : w.machine.firstRejected? args.values = none) :
    ∃ function, w.functions[handler.number]? = some function ∧
      let started := (w.setMachine w.machine.enter).entered handler.number args.values function
      started.calls = w.calls ++ [⟨handler.number, args.values⟩] ∧
      (∀ v, w.GuardStarts handler args v ↔ v = started) ∧
      ∀ perform, (guard perform handler args w).map (fun done => (done.1, done.2.calls)) =
        (started.runBody perform handler.number function.body
          (function.body.performs function.runs w.dispatchDepth)).map fun done =>
            (.ofEnding done.1, done.2.calls) := by
  obtain ⟨hh, function, hf⟩ := hw.known hknown
  have hpasses := Machine.passes_of_firstRejected hrejected
  refine ⟨function, hf, rfl, fun v => ?_, fun perform => ?_⟩
  · rw [guardStarts_iff hroom hh hpasses]
    constructor
    · rintro ⟨number, function', hc, hf', rfl⟩
      cases hc
      cases hf.symm.trans hf'
      rfl
    · rintro rfl
      exact ⟨handler.number, function, rfl, hf, rfl⟩
  · have hrun := runFunction_of_known (w := w.setMachine w.machine.enter) hf perform args.values
    rw [guard_of_known hroom hh hpasses rfl perform, runCallable, hrun, Option.map_map]
    refine congrArg (fun conclude => Option.map conclude _) (funext fun done => ?_)
    obtain ⟨houtcome, hcalls⟩ := done.2.concluded_recorded handler w.machine.depth done.1
    exact Prod.ext houtcome hcalls

/-- Any handler with any arguments on any stack, whatever the machine was told. The guard asks for
room for the handler and its arguments.

* It skips the handler exactly if there is no room.
* Otherwise it ends at once with the fault of an unknown handler exactly if the machine has none
  under this reference. A body that faults can say the same words, but then it has started.
* Otherwise, if an argument is of a refused type, it ends at once with the fault of the first one.
* Otherwise the body starts, with one call noted for it, and the outcome is what the body comes to,
  whatever stray values the call has left.

To end at once is to enter no body, note no call and report one error. -/
theorem guard_classifies (hw : w.Numbered) (handler : HandlerRef) (args : Arguments)
    (hsmall : w.machine.depth + 1 + args.count < UInt64.size) :
    let needed := w.machine.depth + 1 + args.count
    let full := w.machine.limit < needed
    let unknown := w.machine.handlers.length ≤ handler.number
    let rejected := w.machine.firstRejected? args.values
    (full → w.EndsAtOnce handler args (.skipped (.stackExhausted needed w.machine.limit))) ∧
    (∀ perform e v, guard perform handler args w = some (.skipped e, v) → full) ∧
    (¬ full → (unknown ↔ w.EndsAtOnce handler args
      (.fault (MachineError.unknownHandler handler.number).message))) ∧
    (¬ full → ¬ unknown → ∀ value, rejected = some value → w.EndsAtOnce handler args
      (.fault (MachineError.conversion (Recording.rejection value.type)).message)) ∧
    (¬ full → ¬ unknown → rejected = none → ∃ function,
      w.functions[handler.number]? = some function ∧
      let started := (w.setMachine w.machine.enter).entered handler.number args.values function
      started.calls = w.calls ++ [⟨handler.number, args.values⟩] ∧
      (∀ v, w.GuardStarts handler args v ↔ v = started) ∧
      ∀ perform, (guard perform handler args w).map (fun done => (done.1, done.2.calls)) =
        (started.runBody perform handler.number function.body
          (function.body.performs function.runs w.dispatchDepth)).map fun done =>
            (.ofEnding done.1, done.2.calls)) := by
  intro needed full unknown rejected
  have hneeded : w.machine.depth + (1 + args.count) = needed := (Nat.add_assoc _ 1 _).symm
  have hcounted : w.machine.depth + (1 + args.count) < UInt64.size := hneeded ▸ hsmall
  have hrefused (h : full) : w.machine.checkStack (1 + args.count) =
      .error (.stackExhausted needed w.machine.limit) := by
    rw [Machine.checkStack_eq hcounted, hneeded, if_pos h]
  have hroom (h : ¬ full) : w.machine.checkStack (1 + args.count) = .ok () := by
    rw [Machine.checkStack_eq hcounted, hneeded, if_neg h]
  have hmarshal (h : unknown) : w.machine.marshal handler args.values =
      (some (.unknownHandler handler.number), w.machine) := by
    simp only [Machine.marshal, Machine.pushHandler, List.getElem?_eq_none h]
  have hconversion (hfull : ¬ full) (hknown : ¬ unknown) (value : Value)
      (hvalue : rejected = some value) : w.EndsAtOnce handler args
        (.fault (MachineError.conversion (Recording.rejection value.type)).message) := by
    obtain ⟨_, hm⟩ := Machine.marshal_eq_conversion (hw.known (Nat.lt_of_not_le hknown)).1 hvalue
    exact endsAtOnce_of_unprepared (hroom hfull) hm
  refine ⟨fun h => endsAtOnce_of_refused (hrefused h), ?_, ?_, hconversion, ?_⟩
  · intro perform e v hg
    by_contra hfull
    cases (hroom hfull).symm.trans ((World.guard_skipped_iff hg e).mp rfl)
  · refine fun hfull => ⟨fun h => endsAtOnce_of_unprepared (hroom hfull) (hmarshal h), ?_⟩
    intro hends
    by_contra hknown
    cases hvalues : rejected with
    | none =>
      obtain ⟨_, _, _, hstarts, _⟩ :=
        guard_of_numbered hw (hroom hfull) (Nat.lt_of_not_le hknown) hvalues
      exact hends.not_guardStarts _ ((hstarts _).mpr rfl)
    | some value =>
      have hsame := hends.unique (hconversion hfull hknown value hvalues)
      exact MachineError.unknownHandler_ne_conversion _ _ (HandlerOutcome.fault.inj hsame)
  · intro hfull hknown hvalues
    exact guard_of_numbered hw (hroom hfull) (Nat.lt_of_not_le hknown) hvalues

/-- A bridge whose stack has room for four slots and holds one value. Its machine refuses reals and
leaves two stray values behind after each call. -/
def choosy : World Recording :=
  ((Recording.start 4 {}).afterSteps? 1
    [.addHandler ⟨[], .returns, none, none⟩, .addHandler ⟨[], .raises "no", none, none⟩,
      .own (.reject .real), .own (.leaveBehind 2),
      .stack (.pushValue (.integer 5))]).get (by decide +kernel)

/-- The four ways on this bridge. Three arguments are one too many, even for a handler that is not
there; and an unknown handler is no better with a real for an argument. -/
theorem choosy_classified :
    let real := Value.real (.ofInt 1)
    let two := Value.integer 2
    choosy.EndsAtOnce ⟨7⟩ (.slice [real, two, two]) (.skipped (.stackExhausted 5 4)) ∧
      choosy.EndsAtOnce ⟨7⟩ (.slice [real]) (.fault "Unknown handler reference 7") ∧
      choosy.EndsAtOnce ⟨0⟩ (.slice [two, real])
        (.fault "Value conversion failed: Real values are rejected") ∧
      (∃ v, choosy.GuardStarts ⟨1⟩ (.slice [two]) v ∧ v.calls = choosy.calls ++ [⟨1, [two]⟩]) ∧
      (guard (stepWithin 1) ⟨1⟩ (.slice [two]) choosy).map Prod.fst = some (.scriptError "no") := by
  intro real two
  have hw : choosy.Numbered := numbered_of_moment (Moment.get _)
  obtain ⟨hskipped, -⟩ :=
    guard_classifies hw ⟨7⟩ (.slice [real, two, two]) (by decide +kernel)
  obtain ⟨-, -, hunknown, -⟩ := guard_classifies hw ⟨7⟩ (.slice [real]) (by decide +kernel)
  obtain ⟨-, -, -, hrefused, -⟩ :=
    guard_classifies hw ⟨0⟩ (.slice [two, real]) (by decide +kernel)
  obtain ⟨-, -, -, -, hbody⟩ := guard_classifies hw ⟨1⟩ (.slice [two]) (by decide +kernel)
  obtain ⟨_, _, hcalls, hstarts, _⟩ :=
    hbody (by decide +kernel) (by decide +kernel) (by decide +kernel)
  exact ⟨hskipped (by decide +kernel), (hunknown (by decide +kernel)).mp (by decide +kernel),
    hrefused (by decide +kernel) (by decide +kernel) real (by decide +kernel),
    ⟨_, (hstarts _).mpr rfl, hcalls⟩, by decide +kernel⟩

end World

end StoryHooks
