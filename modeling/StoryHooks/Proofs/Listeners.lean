import StoryHooks.Proofs.Holdings
import StoryHooks.Proofs.Shutdown

/-!
# Registering a listener

A script that registers a listener passes three checks before anything is changed: the manager must
be there, the phase known, and the machine up. After that nothing can go wrong any more: a failed
attempt to hook the engine or a symbol that the story lacks is reported, and the listener stays.

Results:
1. `registerListener_eq_error_iff`: when there is a script error.
2. `registerListener_registers`: what happens otherwise.
3. `carriedBy_aligned`: where all handlers and subscriptions come from listeners, a subscription has
   the handler of its own number.
4. `register_all_or_nothing`: both, in any state, and for the scripts that register.
-/

namespace StoryHooks

open Script

/-- The names of the phases, and no others, are read as phases. -/
theorem Phase.ofName?_eq_some_iff {text : String} {phase : Phase} :
    Phase.ofName? text = some phase ↔ text = phase.name := by
  constructor
  · intro h
    unfold ofName? at h
    split at h <;> cases h <;> rfl
  · rintro rfl
    exact ofName?_name phase

theorem Phase.ofName?_eq_none_iff {text : String} :
    Phase.ofName? text = none ↔ ∀ phase : Phase, text ≠ phase.name := by
  rw [Option.eq_none_iff_forall_ne_some]
  exact forall_congr' fun phase => not_congr ofName?_eq_some_iff

/-- A subscription joins the ids of its signature, whatever becomes of its route. -/
theorem World.subscribe_withSignature {δ : Type} [Dialect δ] (w : World δ) (signature : Signature)
    (handler : HandlerRef) (signature' : Signature) :
    (w.subscribe signature handler).2.manager.roster.withSignature signature' =
      w.manager.roster.withSignature signature' ++
        if signature = signature' then [w.manager.roster.size] else [] := by
  rw [subscribe_roster, Roster.withSignature_withRoute, Roster.withSignature_add]

namespace World

variable {v w : World LuaState} {linked : Bool} {args : ListenerArguments}

/-! ## One listener -/

/-- The reasons for which no listener is registered. -/
def Refuses (w : World LuaState) (linked : Bool) (phase : String) : Prop :=
  (linked && w.managed) = false ∨ (∀ p : Phase, phase ≠ p.name) ∨ w.machine.alive = false

theorem registerListener_eq_error_iff :
    (∃ e, w.registerListener linked args = .error e) ↔ w.Refuses linked args.phase := by
  unfold registerListener Refuses
  rw [← Phase.ofName?_eq_none_iff]
  cases hm : linked && w.managed with
  | false => simp
  | true =>
    cases hp : Phase.ofName? args.phase with
    | none => simp
    | some phase =>
      cases ha : w.machine.alive with
      | false => simp [storeHandler?_of_down ha]
      | true => simp [storeHandler?_of_alive ha]

/-- `Registered w signature callable id v`: between `w` and `v` one function was stored, under the
next reference, and one subscription made with it, under the next id. It is found by its signature,
and, if a story is loaded, by its key or by the warning that it has none. -/
structure Registered (w : World LuaState) (signature : Signature) (callable : Callable)
    (id : SubscriptionId) (v : World LuaState) : Prop where
  id_eq : id = w.manager.roster.size
  machine_eq : v.machine = { w.machine with
    handlers := w.machine.handlers ++ [callable]
    stored := w.machine.stored ++ [callable] }
  subscribers_eq : v.manager.roster.subscribers =
    w.manager.roster.subscribers ++ [⟨signature, ⟨w.machine.handlers.length⟩⟩]
  withSignature_eq (signature' : Signature) : v.manager.roster.withSignature signature' =
    w.manager.roster.withSignature signature' ++ if signature = signature' then [id] else []
  handlersFor_eq (key : RouteKey) : v.manager.roster.handlersFor key =
    w.manager.roster.handlersFor key ++
      if w.manager.storyLoaded ∧ w.manager.roster.resolve w.symbols signature = .ok key then [id]
      else []
  events_eq : v.events =
    w.events ++ .subscriberAdded signature ⟨w.machine.handlers.length⟩ ::
      if w.manager.storyLoaded then w.hookEvents ++
        match w.manager.roster.resolve w.symbols signature with
        | .ok _ => []
        | .error e => [.lateRefusal e]
      else []

/-- A listener that is not refused is registered. -/
theorem registerListener_registers {id : SubscriptionId}
    (h : w.registerListener linked args = .ok (id, v)) :
    ∃ phase : Phase, args.phase = phase.name ∧
      Registered w ⟨args.name, args.arity, phase⟩ args.handler id v := by
  obtain ⟨phase, handler, u, _, hphase, hs, hv⟩ := registerListener_cases h
  refine ⟨phase, Phase.ofName?_eq_some_iff.mp hphase, ?_⟩
  obtain ⟨_, rfl, rfl⟩ := storeHandler?_cases hs
  obtain rfl := congrArg Prod.snd hv
  have hkey := subscribe_handlersFor (w.setMachine (w.machine.store args.handler))
    ⟨args.name, args.arity, phase⟩ ⟨w.machine.handlers.length⟩
  simp only [lateKey?_eq_some_iff] at hkey
  obtain rfl := congrArg Prod.fst hv
  exact {
    id_eq := rfl
    machine_eq := subscribe_machine ..
    subscribers_eq := subscribe_subscribers ..
    withSignature_eq := subscribe_withSignature _ _ _
    handlersFor_eq := hkey
    events_eq := subscribe_events .. }

/-! ## The script that registers it -/

/-- Where the module is installed, the script has room and its arguments can be read, it fails for
no other reasons. -/
theorem runRegister_fails_iff {version : Option Int64} {script : List (ScriptArgument Step)}
    (hglobal : w.machine.own.global = .module version linked)
    (hroom : w.machine.hasRoomFor registrationDepth = true)
    (hread : ListenerArguments.read (makeArguments script w).1 = .ok args) (direct : Bool) :
    (∃ failure v, w.runRegister script direct = (.script failure, v)) ↔
      w.Refuses linked args.phase := by
  obtain ⟨functions, hmade⟩ := makeArguments_eq script w
  have hrefuses : Refuses { w with functions } linked args.phase ↔ w.Refuses linked args.phase :=
    .rfl
  rw [← hrefuses]
  simp only [runRegister, hmade, runScript, callRegister, hglobal, hread]
  split
  · next hdown =>
    have ha : w.machine.alive = false := by
      have hnot := (Bool.and_eq_true_iff.mp hdown).2
      simpa using hnot
    exact iff_of_true ⟨_, _, rfl⟩ (.inr (.inr ha))
  · have hfits : Machine.hasRoomFor w.machine registrationDepth = true := hroom
    rw [hfits, ← registerListener_eq_error_iff]
    cases registerListener { w with functions } linked args with
    | error e => exact iff_of_true ⟨_, _, rfl⟩ ⟨e, rfl⟩
    | ok done =>
      obtain ⟨id, v⟩ := done
      refine iff_of_false ?_ nofun
      rintro ⟨_, _, h⟩
      cases h

/-! ## Listeners alone -/

/-- A subscription has the handler of its own number, and while the machine is up there are as many
handlers as subscriptions. -/
structure Aligned (w : World LuaState) : Prop where
  handler_eq {id : SubscriptionId} {subscriber : Subscriber} :
    w.manager.roster.subscribers[id]? = some subscriber → subscriber.handler = ⟨id⟩
  length_eq : w.machine.alive = true → w.machine.handlers.length = w.manager.roster.size

theorem Aligned.of_holdings (h : w.Aligned) (hv : v.holdings = w.holdings) : v.Aligned where
  handler_eq hid := h.handler_eq (subscribers_of_holdings hv ▸ hid)
  length_eq ha := by
    rw [handlers_of_holdings hv, Roster.size, subscribers_of_holdings hv]
    exact h.length_eq (alive_of_holdings hv ▸ ha)

/-- A listener's handler and its subscription go under the same number. -/
theorem Aligned.registered (h : w.Aligned) {signature : Signature} {callable : Callable}
    {handler : HandlerRef} {u : World LuaState}
    (hs : w.storeHandler? callable = some (handler, u)) :
    (u.subscribe signature handler).2.Aligned := by
  have hlength := h.length_eq (alive_of_storeHandler? hs).1
  obtain ⟨_, rfl, rfl⟩ := storeHandler?_cases hs
  constructor
  · intro id subscriber hid
    rw [subscribe_subscribers] at hid
    rcases Nat.lt_trichotomy id w.manager.roster.size with hlt | rfl | hgt
    · exact h.handler_eq ((List.getElem?_append_left hlt).symm.trans hid)
    · cases List.getElem?_concat_length.symm.trans hid
      exact congrArg HandlerRef.mk hlength
    · refine absurd hid ?_
      rw [List.getElem?_eq_none]
      · exact nofun
      · rw [List.length_append]
        exact hgt
  · intro _
    rw [subscribe_machine, subscribe_size]
    show (w.machine.handlers ++ [callable]).length = w.manager.roster.size + 1
    rw [List.length_append, hlength]
    rfl

end World

/-- A step stores a handler, or makes a subscription, and does not do both. -/
def Step.bypassesListeners : Step → Bool
  | .addHandler _ | .subscribe .. => true
  | _ => false

/-- The steps that store handlers and subscribe only by registering listeners. -/
def registering : Step → Prop := fun s => s.bypassesListeners = false

instance : DecidablePred registering :=
  fun s => inferInstanceAs (Decidable (s.bypassesListeners = false))

namespace World

variable {w : World LuaState}

theorem sees_aligned : Sees holdings fun w v : World LuaState => w.Aligned → v.Aligned :=
  ⟨fun hu hv h => hv (hu h), fun h hw => hw.of_holdings h⟩

theorem carriedBy_aligned :
    CarriedBy registering fun w v : World LuaState => w.Aligned → v.Aligned := by
  refine carriedBy_shifts sees_aligned ?_
  intro s w v ha h hw
  cases h with
  | kept h => exact hw.of_holdings h
  | stored | subscribed => cases ha
  | registered hu hs hv => exact ((hw.of_holdings hu).registered hs).of_holdings hv
  | closed hv =>
    have hclosed : (w.setMachine w.machine.shutDown).Aligned := ⟨hw.handler_eq, nofun⟩
    exact hclosed.of_holdings hv

theorem aligned_of_momentFrom {limit level : Nat} {own : LuaState} {settings : Settings}
    {events : List Event}
    (hw : MomentFrom registering (.start (.start limit own) settings events) level w) :
    w.Aligned := by
  have hstart : Aligned (.start (.start limit own) settings events) :=
    ⟨fun hid => (nomatch List.getElem?_nil.symm.trans hid), fun _ => rfl⟩
  exact hw.related besideStack_holdings sees_aligned carriedBy_aligned
    (fun _ _ hu => hu.of_holdings rfl) hstart

/-! ## Any call in any state -/

/-- In any state, at top level or in the middle of a handler. Registering a listener fails exactly
if the manager is gone, the phase is not one of the four or the machine is down; and if it does not
fail, one function is stored and one subscription made with it. A script that registers a listener
fails and leaves everything but its own functions as it was, or registers the listener that its
arguments are read as and answers the id. Where the module is installed, the script has room and its
arguments can be read, it fails for the three reasons only.

Wherever a run gets to in which all handlers and subscriptions come from listeners, a subscription
has the handler of its own number, and no handler is without a subscription. -/
theorem register_all_or_nothing (w : World LuaState) :
    (∀ linked args,
      ((∃ e, w.registerListener linked args = .error e) ↔ w.Refuses linked args.phase) ∧
      ∀ id v, w.registerListener linked args = .ok (id, v) →
        ∃ phase : Phase, args.phase = phase.name ∧
          Registered w ⟨args.name, args.arity, phase⟩ args.handler id v) ∧
    (∀ perform script direct, ∃ functions,
      (∃ failure, step perform (.own (.register script direct)) w =
        some (.script failure, { w with functions })) ∨
      ∃ args phase id u, ListenerArguments.read (makeArguments script w).1 = .ok args ∧
        args.phase = Phase.name phase ∧
        Registered { w with functions } ⟨args.name, args.arity, phase⟩ args.handler id u ∧
        step perform (.own (.register script direct)) w =
          some (.value (.integer (Int64.ofNat id)),
            u.reportAll (scriptEvents (w.viaBridge direct)))) ∧
    (∀ perform script direct version linked args,
      w.machine.own.global = .module version linked →
      w.machine.hasRoomFor registrationDepth = true →
      ListenerArguments.read (makeArguments script w).1 = .ok args →
      ((∃ failure v, step perform (.own (.register script direct)) w =
        some (.script failure, v)) ↔ w.Refuses linked args.phase)) ∧
    ∀ limit own settings events level,
      MomentFrom registering (.start (.start limit own) settings events) level w → w.Aligned := by
  refine ⟨fun linked args => ⟨registerListener_eq_error_iff, ?_⟩, ?_, ?_, ?_⟩
  · exact fun id v h => registerListener_registers h
  · intro perform script direct
    have hstep : step perform (.own (.register script direct)) w =
        some (w.runRegister script direct) := rfl
    rw [hstep]
    obtain ⟨functions, ⟨failure, h⟩ | ⟨_, args, id, u, hread, hr, h⟩⟩ :=
      w.runRegister_ends script direct
    · exact ⟨functions, .inl ⟨failure, congrArg some h⟩⟩
    · obtain ⟨phase, hphase, hregistered⟩ := registerListener_registers hr
      exact ⟨functions, .inr ⟨args, phase, id, u, hread, hphase, hregistered, congrArg some h⟩⟩
  · intro perform script direct version linked args hglobal hroom hread
    have hstep : step perform (.own (.register script direct)) w =
        some (w.runRegister script direct) := rfl
    rw [hstep, ← runRegister_fails_iff hglobal hroom hread direct]
    simp only [Option.some.injEq]
  · exact fun _ _ _ _ _ h => aligned_of_momentFrom h

/-- The script that registers a function which performs some steps, for the event `Hit`. -/
def listening (phase : String) (steps : List Step) : Step :=
  .own (.register [.value (.ofText "Hit"), .value (.integer 1), .value (.ofText phase),
    .function ⟨steps, .returns, some 1, none⟩] false)

/-- A bridge with a loaded story and one listener, which registers another when it runs. The engine
could not be hooked, and a phase was misspelt. -/
def listened : World LuaState :=
  ((LuaState.start {} []).afterEach? (stepOnly registering 3)
    [.define "Hit" 1 ⟨.event, ⟨7⟩, none⟩, listening "before" [listening "after" []],
      .failNextInstall, .loadStory false, .failNextInstall, listening "During" [],
      .run (.function ⟨7⟩ false) .none]).get (by decide +kernel)

theorem momentFrom_listened :
    MomentFrom registering (LuaState.start {} []) 0 listened :=
  .course .here (Course.afterEach? (stepOnly_stepwise _ 3) (Option.some_get _).symm)

/-- It has two subscriptions, each with the handler of its number. A third listener is refused at a
phase that is unknown, and registered at one that is known. -/
theorem listened_registers :
    listened.manager.roster.size = 2 ∧ listened.Aligned ∧
    (∃ e, listened.registerListener true ⟨"Hit", 1, "During", .inert⟩ = .error e) ∧
    (∃ v, listened.registerListener true ⟨"Hit", 1, "after", .inert⟩ = .ok (2, v) ∧
      Registered listened ⟨"Hit", 1, .after⟩ .inert 2 v) ∧
    ∃ failure v, step (stepWithin 1) (listening "During" []) listened =
      some (.script failure, v) := by
  obtain ⟨hregister, _, hscript, haligned⟩ := register_all_or_nothing listened
  obtain ⟨hrefused, _⟩ := hregister true ⟨"Hit", 1, "During", .inert⟩
  obtain ⟨_, hregistered⟩ := hregister true ⟨"Hit", 1, "after", .inert⟩
  have hunknown : ∀ phase : Phase, "During" ≠ phase.name := by
    intro phase
    cases phase <;> decide
  have htaken : (listened.registerListener true ⟨"Hit", 1, "after", .inert⟩).toOption.map
      Prod.fst = some 2 := by decide +kernel
  obtain ⟨⟨id, v⟩, hr, rfl⟩ := Option.map_eq_some_iff.mp htaken
  have hok : listened.registerListener true ⟨"Hit", 1, "after", .inert⟩ = .ok (2, v) := by
    cases he : listened.registerListener true ⟨"Hit", 1, "after", .inert⟩ with
    | error e => rw [he] at hr; cases hr
    | ok done => rw [he] at hr; cases hr; rfl
  obtain ⟨phase, hphase, hv⟩ := hregistered _ _ hok
  obtain rfl : phase = .after := by
    cases phase <;> first | rfl | exact absurd hphase (by decide)
  refine ⟨by decide +kernel, haligned _ _ _ _ _ momentFrom_listened,
    hrefused.mpr (.inr (.inl hunknown)), ⟨v, hok, hv⟩, ?_⟩
  exact (hscript _ _ _ none true ⟨"Hit", 1, "During", _⟩ (by decide +kernel) (by decide +kernel)
    rfl).mpr (.inr (.inl hunknown))

end World

end StoryHooks
