import StoryHooks.Bridge.Dispatch

/-!
# The stack protocol of one invocation

The guard pushes a handler and its arguments, the call takes them off again, and whatever is left
above the depth at entry is dropped. So a body starts on the stack that the guard found.

Results:
1. `marshal_of_none`, `marshal_of_some`: what is pushed for a handler and its arguments.
2. `eq_pop_of_detach`, `callable_of_detach`: what a call takes off, and what of it is called.
   `detach_marshalled`: a call takes off exactly what was pushed.
3. `guard_cases`: the guard reports what did not complete and changes nothing else, or it runs one
   body on the stack that it found and cuts the stack back to the depth that it found.
4. `guard_of_known`: it runs the body of a stored handler if nothing stands in the way.
-/

namespace StoryHooks

open Script

namespace Script.Machine

variable {δ : Type} [Dialect δ] {m m' : Machine δ}

/-- The slots are those of the values, in order, and every value has one. -/
def Slotted (own : δ) (values : List Value) (slots : List (Dialect.Slot δ)) : Prop :=
  values.map (Dialect.valueSlot own) = slots.map .ok

theorem Slotted.cons {own : δ} {value : Value} {slot : Dialect.Slot δ} {values : List Value}
    {slots : List (Dialect.Slot δ)} (h : Dialect.valueSlot own value = .ok slot)
    (hs : Slotted own values slots) : Slotted own (value :: values) (slot :: slots) := by
  rw [Slotted, List.map_cons, List.map_cons, h, hs]

theorem Slotted.length_eq {own : δ} {values : List Value} {slots : List (Dialect.Slot δ)}
    (h : Slotted own values slots) : slots.length = values.length := by
  have hlength := congrArg List.length h
  rw [List.length_map, List.length_map] at hlength
  exact hlength.symm

theorem Slotted.ne_error {own : δ} {values : List Value} {slots : List (Dialect.Slot δ)}
    (h : Slotted own values slots) {value : Value} (hvalue : value ∈ values) (reason : String) :
    Dialect.valueSlot own value ≠ .error reason := by
  intro hrefused
  have hmem : Dialect.valueSlot own value ∈ values.map (Dialect.valueSlot own) :=
    List.mem_map_of_mem hvalue
  rw [h, hrefused] at hmem
  obtain ⟨_, _, he⟩ := List.mem_map.mp hmem
  cases he

/-- Arguments are pushed in order: all of them, or those before the first that is refused. -/
theorem pushValues_cases (m : Machine δ) (values : List Value) :
    (∃ slots, Slotted m.own values slots ∧
      m.pushValues values = (none, { m with slots := slots.reverse ++ m.slots })) ∨
    ∃ before value after slots reason, values = before ++ value :: after ∧
      Slotted m.own before slots ∧ Dialect.valueSlot m.own value = .error reason ∧
      m.pushValues values =
        (some (.conversion reason), { m with slots := slots.reverse ++ m.slots }) := by
  induction values generalizing m with
  | nil => exact .inl ⟨[], rfl, rfl⟩
  | cons value values ih =>
    cases hslot : Dialect.valueSlot m.own value with
    | error reason =>
      refine .inr ⟨[], value, values, [], reason, rfl, rfl, hslot, ?_⟩
      simp only [pushValues, pushValue, hslot]
      rfl
    | ok slot =>
      have hpush : m.pushValues (value :: values) = (m.push slot).pushValues values := by
        simp only [pushValues, pushValue, hslot]
      rw [hpush]
      rcases ih (m.push slot) with
        ⟨slots, hs, hp⟩ | ⟨before, refused, after, slots, reason, rfl, hs, hr, hp⟩
      · refine .inl ⟨slot :: slots, .cons hslot hs, ?_⟩
        rw [hp, List.reverse_cons, List.append_assoc]
        rfl
      · refine .inr
          ⟨value :: before, refused, after, slot :: slots, reason, rfl, .cons hslot hs, hr, ?_⟩
        rw [hp, List.reverse_cons, List.append_assoc]
        rfl

/-- A call that is prepared has the handler on the stack and above it the arguments. -/
theorem marshal_of_none {handler : HandlerRef} {values : List Value}
    (h : m.marshal handler values = (none, m')) :
    ∃ callable slots,
      m.handlers[handler.number]? = some callable ∧ Slotted m.own values slots ∧
      m' =
        { m with slots := slots.reverse ++ Dialect.handlerSlot handler callable :: m.slots } := by
  unfold marshal pushHandler at h
  cases hc : m.handlers[handler.number]? with
  | none => simp only [hc] at h; cases h
  | some callable =>
    simp only [hc] at h
    rcases (m.push (Dialect.handlerSlot handler callable)).pushValues_cases values with
      ⟨slots, hs, hp⟩ | ⟨_, _, _, _, _, _, _, _, hp⟩
    · rw [hp] at h
      cases h
      exact ⟨callable, slots, rfl, hs, rfl⟩
    · rw [hp] at h
      cases h

/-- A call that cannot be prepared may leave slots above those that were there. -/
theorem marshal_of_some {handler : HandlerRef} {values : List Value} {e : MachineError}
    (h : m.marshal handler values = (some e, m')) :
    ∃ pushed, m' = { m with slots := pushed ++ m.slots } := by
  unfold marshal pushHandler at h
  cases hc : m.handlers[handler.number]? with
  | none =>
    simp only [hc] at h
    cases h
    exact ⟨[], rfl⟩
  | some callable =>
    simp only [hc] at h
    rcases (m.push (Dialect.handlerSlot handler callable)).pushValues_cases values with
      ⟨_, _, hp⟩ | ⟨_, _, _, slots, _, _, _, _, hp⟩
    · rw [hp] at h
      cases h
    · rw [hp] at h
      cases h
      refine ⟨slots.reverse ++ [Dialect.handlerSlot handler callable], ?_⟩
      rw [List.append_assoc]
      rfl

/-- What stands above a stack is dropped when it is cut back to its depth. -/
theorem restore_append (m : Machine δ) (above : List (Dialect.Slot δ)) :
    ({ m with slots := above ++ m.slots } : Machine δ).restore m.depth = m := by
  have hcut : (above ++ m.slots).length - m.slots.length = above.length := by
    rw [List.length_append, Nat.add_sub_cancel]
  simp only [restore, pop, depth, hcut, List.drop_left]

/-- A stack that is no deeper is not cut. -/
theorem restore_of_le {depth : Nat} (h : m.depth ≤ depth) : m.restore depth = m := by
  rw [restore, Nat.sub_eq_zero_of_le h]
  rfl

/-- A call takes its frame off the stack and changes nothing else. -/
theorem eq_pop_of_detach {count : Nat} {frame : Frame (Dialect.Argument δ)}
    (h : m.detach count = .ok (frame, m')) : m' = m.pop (count + 1) := by
  unfold detach at h
  split at h
  · cases h
  · dsimp only at h
    split at h <;> cases h <;> rfl

/-- What it calls is the slot under the arguments. -/
theorem callable_of_detach {count : Nat} {frame : Frame (Dialect.Argument δ)}
    (hcount : count < m.depth) (h : m.detach count = .ok (frame, m')) :
    frame.callable = m.slots[count]?.bind Dialect.callable? := by
  have hslot : m.slots[count]? = some m.slots[count] := List.getElem?_eq_getElem hcount
  have htaken : (m.slots.take (count + 1)).reverse =
      m.slots[count] :: (m.slots.take count).reverse := by
    rw [List.take_add_one, hslot, Option.toList_some, List.reverse_append, List.reverse_singleton,
      List.singleton_append]
  unfold detach at h
  split at h
  · cases h
  · rw [htaken] at h
    cases h
    rw [hslot, Option.bind_some]

/-- A call that is not refused takes its frame off. -/
theorem detach_of_countable {count : Nat} (hcount : count < m.depth)
    (h : Dialect.callFault? δ m.depth count = none) : ∃ frame,
      m.detach count = .ok (frame, m.pop (count + 1)) ∧
        frame.callable = m.slots[count]?.bind Dialect.callable? := by
  cases hd : m.detach count with
  | error fault =>
    simp only [detach, h] at hd
    split at hd <;> cases hd
  | ok detached =>
    obtain ⟨frame, rest⟩ := detached
    exact ⟨frame, by rw [eq_pop_of_detach hd], callable_of_detach hcount hd⟩

/-- A call takes a handler and its arguments off the stack, unless it is refused outright. -/
theorem detach_marshalled (m : Machine δ) (slot : Dialect.Slot δ) (slots : List (Dialect.Slot δ)) :
    let marshalled : Machine δ := { m with slots := slots.reverse ++ slot :: m.slots }
    (∃ fault, marshalled.detach slots.length = .error fault) ∨
      marshalled.detach slots.length =
        .ok (⟨Dialect.callable? slot, slots.filterMap Dialect.argument?⟩, m) := by
  intro marshalled
  have hsplit : slots.reverse ++ slot :: m.slots = (slot :: slots).reverse ++ m.slots := by
    rw [List.reverse_cons, List.append_assoc]
    rfl
  have hlength : slots.length + 1 = (slot :: slots).reverse.length := by simp
  unfold marshalled detach
  split
  · exact .inl ⟨_, rfl⟩
  · right
    simp only [hsplit, pop, hlength, List.take_left, List.drop_left, List.reverse_reverse]

/-- Values that all have slots are pushed in order. -/
theorem pushValues_of_slotted {values : List Value} {slots : List (Dialect.Slot δ)}
    (h : Slotted m.own values slots) :
    m.pushValues values = (none, { m with slots := slots.reverse ++ m.slots }) := by
  rcases m.pushValues_cases values with
    ⟨slots', hs, hp⟩ | ⟨before, value, after, slots', reason, rfl, hs, hrefused, hp⟩
  · have hsame : slots' = slots :=
      (List.map_inj_right fun _ _ => Except.ok.inj).mp (hs.symm.trans h)
    rw [hp, hsame]
  · exact absurd hrefused (h.ne_error (List.mem_append_right before List.mem_cons_self) reason)

/-- A stored handler is pushed with its arguments. -/
theorem marshal_of_slotted {handler : HandlerRef} {callable : Callable} {values : List Value}
    {slots : List (Dialect.Slot δ)} (hh : m.handlers[handler.number]? = some callable)
    (hs : Slotted m.own values slots) :
    m.marshal handler values = (none,
      { m with slots := slots.reverse ++ Dialect.handlerSlot handler callable :: m.slots }) := by
  have hslots : Slotted (m.push (Dialect.handlerSlot handler callable)).own values slots := hs
  simp only [marshal, pushHandler, hh]
  exact pushValues_of_slotted hslots

/-- For want of room an ending may turn into another, but not into a return. -/
theorem settle_eq_returns_iff (m : Machine δ) (ending : Ending) :
    m.settle ending = .returns ↔ ending = .returns := by
  cases ending with
  | returns => exact ⟨fun _ => rfl, fun _ => rfl⟩
  | raises | faults =>
    refine ⟨fun h => ?_, nofun⟩
    simp only [settle] at h
    split at h <;> cases h

/-- The machine takes a call with the values: they have these slots, which are passed as these
arguments, and nothing stands in the way of the call. -/
structure Passes (m : Machine δ) (values : List Value) (slots : List (Dialect.Slot δ))
    (arguments : List (Dialect.Argument δ)) : Prop where
  slotted : Slotted m.own values slots
  arguments_eq : slots.filterMap Dialect.argument? = arguments
  callFault?_eq : Dialect.callFault? δ (m.depth + 1 + slots.length) slots.length = none
  hasRoom : m.hasRoomFor 1 = true

/-- Such a call takes the handler and the arguments off the stack that they were pushed on. -/
theorem Passes.detach_eq {values : List Value} {slots : List (Dialect.Slot δ)}
    {arguments : List (Dialect.Argument δ)} (h : m.Passes values slots arguments)
    (slot : Dialect.Slot δ) :
    Machine.detach { m with slots := slots.reverse ++ slot :: m.slots } values.length =
      .ok (⟨Dialect.callable? slot, arguments⟩, m) := by
  rw [← h.slotted.length_eq, ← h.arguments_eq]
  rcases m.detach_marshalled slot slots with ⟨fault, hrefused⟩ | htaken
  · have hdepth : Machine.depth { m with slots := slots.reverse ++ slot :: m.slots } =
        m.depth + 1 + slots.length := by
      simp only [Machine.depth, List.length_append, List.length_reverse, List.length_cons]
      omega
    unfold Machine.detach at hrefused
    rw [hdepth, h.callFault?_eq] at hrefused
    dsimp only at hrefused
    split at hrefused <;> cases hrefused
  · exact htaken

end Script.Machine

namespace World

variable {δ : Type} [Dialect δ] {perform : Perform δ} {w v : World δ}

/-! ## One call -/

/-- What a call leaves above the stack of the body that it ran: stray slots after a body that
returned, a message above them after one that raised an error, nothing after one that faulted. -/
def leftAbove (m : Machine δ) : Ending → List (Dialect.Slot δ)
  | .returns => Dialect.stray m.own
  | .raises message => Dialect.messageSlot (Dialect.raisedMessage δ message) :: Dialect.stray m.own
  | .faults _ => []

/-- The world of a call whose body has ended. -/
def returned (w : World δ) (ending : Ending) : World δ :=
  w.setMachine { w.machine.leave with
    slots := leftAbove w.machine (w.machine.settle ending) ++ w.machine.slots }

/-- The result of a call whose body has ended in some way. -/
def resultOf : Ending → CallResult
  | .returns => .returned
  | .raises _ => .failed
  | .faults fault => .faulted fault

/-- What a call can come to, with the result and the world it leaves. -/
inductive Calls (perform : Perform δ) (count : Nat) (w : World δ) : CallResult → World δ → Prop
  | refused {fault : Fault} :
      w.machine.detach count = .error fault → Calls perform count w (.faulted fault) w
  | notCallable {frame : Frame (Dialect.Argument δ)} {machine : Machine δ} :
      w.machine.detach count = .ok (frame, machine) → frame.callable = none →
      Calls perform count w .failed (w.setMachine machine.leaveNotCallable)
  | noRoom {frame : Frame (Dialect.Argument δ)} {machine : Machine δ} {callable : Callable} :
      w.machine.detach count = .ok (frame, machine) → frame.callable = some callable →
      machine.hasRoomFor 1 = false →
      Calls perform count w .failed (w.setMachine (machine.leaveRaised overflowMessage))
  | ran {frame : Frame (Dialect.Argument δ)} {machine : Machine δ} {callable : Callable}
      {ending : Ending} {u : World δ} :
      w.machine.detach count = .ok (frame, machine) → frame.callable = some callable →
      machine.hasRoomFor 1 = true →
      runCallable perform callable frame.arguments (w.setMachine machine.enter) =
        some (ending, u) →
      Calls perform count w (resultOf (u.machine.settle ending)) (u.returned ending)

theorem calls_of_call {count : Nat} {result : CallResult}
    (h : call perform count w = some (result, v)) : Calls perform count w result v := by
  unfold call at h
  cases hd : w.machine.detach count with
  | error fault =>
    simp only [hd] at h
    cases h
    exact .refused hd
  | ok detached =>
    obtain ⟨frame, machine⟩ := detached
    simp only [hd] at h
    cases hc : frame.callable with
    | none =>
      simp only [hc] at h
      cases h
      exact .notCallable hd hc
    | some callable =>
      simp only [hc] at h
      by_cases hroom : machine.hasRoomFor 1 = true
      · rw [if_pos (show (w.setMachine machine).machine.hasRoomFor 1 = true from hroom)] at h
        split at h
        · cases h
        · next ending u hrun =>
          have hran := Calls.ran hd hc hroom hrun
          unfold returned at hran
          split at h
          all_goals next hs => rw [hs] at hran; cases h; exact hran
      · rw [if_neg (show ¬ (w.setMachine machine).machine.hasRoomFor 1 = true from hroom)] at h
        cases h
        exact .noRoom hd hc (Bool.eq_false_iff.mpr hroom)

/-- A call of a handler that was pushed with its arguments runs no body and leaves something above
the stack that was there before; or it runs the body of the handler on that stack. -/
theorem call_marshalled {handler : HandlerRef} {values : List Value} {machine : Machine δ}
    {result : CallResult} (hm : w.machine.marshal handler values = (none, machine))
    (hc : call perform values.length (w.setMachine machine) = some (result, v)) :
    (result ≠ .returned ∧
      ∃ above, v = w.setMachine { w.machine with slots := above ++ w.machine.slots }) ∨
    ∃ stored slots callable ending u, w.machine.handlers[handler.number]? = some stored ∧
      Machine.Slotted w.machine.own values slots ∧
      Dialect.callable? (Dialect.handlerSlot (δ := δ) handler stored) = some callable ∧
      w.machine.hasRoomFor 1 = true ∧
      runCallable perform callable (slots.filterMap Dialect.argument?)
        (w.setMachine w.machine.enter) = some (ending, u) ∧
      result = resultOf (u.machine.settle ending) ∧ v = u.returned ending := by
  obtain ⟨stored, slots, hstored, hslots, rfl⟩ := Machine.marshal_of_none hm
  rw [← hslots.length_eq] at hc
  have hdetach := w.machine.detach_marshalled (Dialect.handlerSlot handler stored) slots
  have hcalls := calls_of_call hc
  rcases hdetach with ⟨fault, hfault⟩ | htaken
  · cases hcalls with
    | refused =>
      refine .inl ⟨nofun, slots.reverse ++ [Dialect.handlerSlot handler stored], ?_⟩
      rw [List.append_assoc]
      rfl
    | notCallable hd | noRoom hd | ran hd => exact absurd (hfault.symm.trans hd) nofun
  · cases hcalls with
    | refused hd => exact absurd (htaken.symm.trans hd) nofun
    | notCallable hd =>
      cases htaken.symm.trans hd
      exact .inl ⟨nofun, [Dialect.messageSlot notCallableMessage], rfl⟩
    | noRoom hd =>
      cases htaken.symm.trans hd
      exact .inl ⟨nofun, Dialect.messageSlot (Dialect.raisedMessage δ overflowMessage) ::
        Dialect.stray w.machine.own, rfl⟩
    | ran hd hcallable hroom hrun =>
      cases htaken.symm.trans hd
      exact .inr ⟨stored, slots, _, _, _, hstored, hslots, hcallable, hroom, hrun, rfl, rfl⟩

/-! ## One invocation -/

/-- What is left above the depth that the guard found does not last. -/
theorem restore_setMachine_append (w : World δ) (above : List (Dialect.Slot δ)) :
    (w.setMachine { w.machine with slots := above ++ w.machine.slots }).restore w.machine.depth =
      w := by
  have hcut := w.machine.restore_append above
  simp only [restore, setMachine, hcut]

theorem reportAll_nil (w : World δ) : w.reportAll [] = w := by
  rw [reportAll, List.append_nil]

theorem report_reportAll (w : World δ) (event : Event) (events : List Event) :
    (w.report event).reportAll events = w.reportAll (event :: events) := by
  simp only [report, reportAll, List.append_assoc, List.singleton_append]

/-- An invocation that ends with a fault is reported once, as an error, and the stack cut back. -/
theorem faultOut_eq (w : World δ) (handler : HandlerRef) (entry : Nat) (message : String) :
    ∃ event : Event, event.level = .error ∧
      w.faultOut handler entry message = (.fault message, (w.report event).restore entry) := by
  unfold faultOut
  split
  · exact ⟨_, rfl, rfl⟩
  · next hle =>
    refine ⟨.callbackFaulted handler message, rfl, ?_⟩
    have hsame : w.restore entry = w := by
      rw [restore, Machine.restore_of_le (Nat.le_of_not_lt hle)]
      rfl
    show _ = (_, (w.restore entry).report _)
    rw [hsame]

/-- An invocation that cannot be prepared is reported, and nothing else happens. -/
theorem guard_of_unprepared {handler : HandlerRef} {args : Arguments} {e : MachineError}
    {machine : Machine δ} (hroom : w.machine.checkStack (1 + args.count) = .ok ())
    (hm : w.machine.marshal handler args.values = (some e, machine)) :
    ∃ event : Event, event.level = .error ∧ ∀ perform : Perform δ,
      guard perform handler args w = some (.fault e.message, w.report event) := by
  obtain ⟨pushed, rfl⟩ := Machine.marshal_of_some hm
  obtain ⟨event, hlevel, hout⟩ := faultOut_eq
    (w.setMachine { w.machine with slots := pushed ++ w.machine.slots }) handler w.machine.depth
    e.message
  refine ⟨event, hlevel, fun perform => ?_⟩
  simp only [guard, hroom, hm, hout]
  exact congrArg (fun u => some (_, World.report u event)) (w.restore_setMachine_append pushed)

/-- A handler that is not stored is reported, and nothing else happens. -/
theorem guard_of_unknown {handler : HandlerRef} {args : Arguments}
    (hroom : w.machine.checkStack (1 + args.count) = .ok ())
    (h : w.machine.handlers[handler.number]? = none) (perform : Perform δ) :
    guard perform handler args w =
      some (.fault (MachineError.unknownHandler handler.number).message,
        w.report (.callbackFaulted handler
          (MachineError.unknownHandler handler.number).message)) := by
  have hmarshal : w.machine.marshal handler args.values =
      (some (.unknownHandler handler.number), w.machine) := by
    simp only [Machine.marshal, Machine.pushHandler, h]
  simp only [guard, hroom, hmarshal]
  exact congrArg some (if_neg (Nat.lt_irrefl w.machine.depth))

/-- The guard reports every outcome but completion, as one error. It does nothing else; or it runs
one body, on the stack that it found, and cuts the stack back to the depth that it found. -/
theorem guard_cases {handler : HandlerRef} {args : Arguments} {outcome : HandlerOutcome}
    (h : guard perform handler args w = some (outcome, v)) :
    ∃ events : List Event,
      events.map Event.level = (if outcome = .completed then [] else [.error]) ∧
      ((outcome ≠ .completed ∧ v = w.reportAll events) ∨
      ∃ callable arguments ending u,
        runCallable perform callable arguments (w.setMachine w.machine.enter) = some (ending, u) ∧
        v = ((u.returned ending).reportAll events).restore w.machine.depth) := by
  have hguard := h
  unfold guard at h
  dsimp only at h
  split at h
  · cases h
    exact ⟨[_], rfl, .inl ⟨nofun, rfl⟩⟩
  next hroom =>
  split at h
  · next hm =>
    obtain ⟨event, hlevel, hunprepared⟩ := guard_of_unprepared hroom hm
    rw [hunprepared] at hguard
    cases hguard
    exact ⟨[event], congrArg (fun level => [level]) hlevel, .inl ⟨nofun, rfl⟩⟩
  · next machine hm =>
    cases hc : call perform args.values.length (w.setMachine machine) with
    | none => rw [hc] at h; cases h
    | some called =>
      obtain ⟨result, u⟩ := called
      have hend : ∃ events : List Event, v = (u.reportAll events).restore w.machine.depth ∧
          events.map Event.level = (if outcome = .completed then [] else [.error]) ∧
          (result ≠ .returned → outcome ≠ .completed) := by
        rw [hc] at h
        cases result with
        | returned =>
          cases h
          exact ⟨[], by rw [reportAll_nil], rfl, fun hr => absurd rfl hr⟩
        | failed =>
          cases h
          exact ⟨[_], rfl, rfl, fun _ => nofun⟩
        | faulted fault =>
          obtain ⟨event, hlevel, hout⟩ :=
            faultOut_eq u handler w.machine.depth fault.message
          have hout' := hout.symm.trans (Option.some.inj h)
          cases hout'
          exact ⟨[event], rfl, congrArg (fun level => [level]) hlevel, fun _ => nofun⟩
      obtain ⟨events, rfl, hlevels, hfailed⟩ := hend
      refine ⟨events, hlevels, ?_⟩
      rcases call_marshalled hm hc with
        ⟨hr, above, rfl⟩ | ⟨_, _, callable, ending, u', _, _, _, _, hrun, _, rfl⟩
      · refine .inl ⟨hfailed hr, ?_⟩
        exact congrArg (World.reportAll · events) (w.restore_setMachine_append above)
      · exact .inr ⟨callable, _, ending, u', hrun, rfl⟩

/-! ## One invocation that nothing stands in the way of -/

/-- What the guard makes of a call whose body has ended: an outcome, with the stack cut back to the
depth that it found. -/
def concluded (u : World δ) (handler : HandlerRef) (entry : Nat) (ending : Ending) :
    HandlerOutcome × World δ :=
  let v := u.returned ending
  match u.machine.settle ending with
  | .returns => (.completed, v.restore entry)
  | .raises _ =>
    (.scriptError v.topText, (v.report (.handlerFailed handler v.topText)).restore entry)
  | .faults fault => v.faultOut handler entry fault.message

/-- A call of a function that is on the stack with its arguments, if nothing stands in its way. -/
theorem call_of_detached {count : Nat} {frame : Frame (Dialect.Argument δ)} {machine : Machine δ}
    {callable : Callable} (hd : w.machine.detach count = .ok (frame, machine))
    (hc : frame.callable = some callable) (hroom : machine.hasRoomFor 1 = true)
    (perform : Perform δ) :
    call perform count w =
      (runCallable perform callable frame.arguments (w.setMachine machine.enter)).map fun done =>
        (resultOf (done.2.machine.settle done.1), done.2.returned done.1) := by
  have hroom' : (w.setMachine machine).machine.hasRoomFor 1 = true := hroom
  simp only [call, hd, hc, hroom', if_true]
  have hentered : (w.setMachine machine).setMachine (w.setMachine machine).machine.enter =
      w.setMachine machine.enter := rfl
  rw [hentered]
  cases runCallable perform callable frame.arguments (w.setMachine machine.enter) with
  | none => rfl
  | some done =>
    obtain ⟨ending, u⟩ := done
    simp only [Option.map_some, returned]
    cases u.machine.settle ending <;> rfl

/-- A stored handler runs its body on the stack that the guard found, if there is room and the
machine takes the call. -/
theorem guard_of_known {handler : HandlerRef} {args : Arguments} {stored callable : Callable}
    {slots : List (Dialect.Slot δ)} {arguments : List (Dialect.Argument δ)}
    (hroom : w.machine.checkStack (1 + args.count) = .ok ())
    (hh : w.machine.handlers[handler.number]? = some stored)
    (hpasses : w.machine.Passes args.values slots arguments)
    (hc : Dialect.callable? (Dialect.handlerSlot (δ := δ) handler stored) = some callable)
    (perform : Perform δ) :
    guard perform handler args w =
      (runCallable perform callable arguments (w.setMachine w.machine.enter)).map fun done =>
        done.2.concluded handler w.machine.depth done.1 := by
  have hmarshal := Machine.marshal_of_slotted hh hpasses.slotted
  have hd := hpasses.detach_eq (Dialect.handlerSlot handler stored)
  have hcall : call perform args.values.length (w.setMachine
      { w.machine with
        slots := slots.reverse ++ Dialect.handlerSlot handler stored :: w.machine.slots }) =
      (runCallable perform callable arguments (w.setMachine w.machine.enter)).map fun done =>
        (resultOf (done.2.machine.settle done.1), done.2.returned done.1) :=
    call_of_detached (w := w.setMachine _) hd hc hpasses.hasRoom perform
  simp only [guard, hroom, hmarshal, hcall]
  cases runCallable perform callable arguments (w.setMachine w.machine.enter) with
  | none => rfl
  | some done =>
    obtain ⟨ending, u⟩ := done
    simp only [Option.map_some, concluded]
    cases u.machine.settle ending <;> rfl

end World

end StoryHooks
