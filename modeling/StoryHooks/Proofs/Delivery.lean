import StoryHooks.Proofs.Firing
import StoryHooks.Proofs.Keys
import StoryHooks.Proofs.Routes

/-!
# Which calls reach which subscriptions

A subscription is found by name in the symbols and a call of the engine by the place where it is
made. The two meet at a key, and nobody looks at either once the key is there.

Results:
1. `exists_lastSymbol?`: a routed subscription has a symbol that it was last resolved to, and has
   the key of that symbol.
2. `engineCall_reaches`: at any moment of any run a call reaches exactly the routed subscriptions
   that ask for it.
-/

namespace StoryHooks

open Script

/-- A signature has a key only through a symbol. -/
theorem Signature.resolve_eq_ok {signature : Signature} {suffix : String} {symbols : SymbolTable}
    {key : RouteKey} (h : signature.resolve suffix symbols = .ok key) :
    ∃ symbol, symbols.find suffix signature.name signature.arity = some symbol ∧
      symbol.routeKey signature.phase = .ok key := by
  unfold resolve at h
  split at h
  · cases h
  · next symbol hs =>
    split at h
    · next hk =>
      cases h
      exact ⟨symbol, hs, hk⟩
    · cases h

namespace World

variable {δ : Type} [Dialect δ]

/-- The symbol that a subscription was last resolved to, if there was one. -/
def lastSymbol? (w : World δ) (id : SubscriptionId) : Option Symbol :=
  (routingTable? id w.history.reverse).bind fun symbols =>
    (w.manager.roster.signature? id).bind fun signature =>
      symbols.find w.manager.roster.suffix signature.name signature.arity

/-- A routed subscription has a symbol that it was last resolved to, and has the key of that
symbol. -/
theorem exists_lastSymbol? {w : World δ} {id : SubscriptionId} {key : RouteKey}
    (h : w.effectiveRoute? id = some (.ok key)) :
    ∃ signature symbol, w.manager.roster.signature? id = some signature ∧
      w.lastSymbol? id = some symbol ∧ symbol.routeKey signature.phase = .ok key := by
  obtain ⟨symbols, ht, hs⟩ := Option.bind_eq_some_iff.mp h
  obtain ⟨signature, hsig, hr⟩ := Option.map_eq_some_iff.mp hs
  obtain ⟨symbol, hfind, hkey⟩ := Signature.resolve_eq_ok hr
  refine ⟨signature, symbol, hsig, ?_, hkey⟩
  rw [lastSymbol?, ht, Option.bind_some, hsig, Option.bind_some, hfind]

/-- Whether an operation succeeded makes no difference to what its call does. -/
theorem fire_withSucceeded (perform : Perform δ) (call : EngineCall) (succeeded : Bool)
    (w : World δ) : fire perform (call.withSucceeded succeeded) w = fire perform call w := by
  unfold fire
  rw [call.key_withSucceeded, call.arguments_withSucceeded]

/-- At any moment of any run with dispatch open and the machine up: a call of the engine runs the
handlers of a list of routed subscriptions, in the order of their ids, and a routed subscription is
on the list exactly if the call is one that it asks for, going by the symbol that it was last
resolved to. -/
theorem engineCall_reaches [OwnDialect δ] [LawfulOwn δ] {allowed : Step → Prop} {level : Nat}
    {w : World δ} {perform : Perform δ} (hw : Moment allowed level w)
    (hp : Stepwise allowed perform) (hm : w.manager.merging = false)
    (ha : w.machine.alive = true) (call : EngineCall) :
    ∃ (ids : List SubscriptionId) (handlers : List HandlerRef),
      ids.map w.manager.roster.handler? = handlers.map some ∧ ids.Pairwise (· < ·) ∧
      fire perform call w =
        (if ids = [] then some (.ok [], w)
        else (invokeEach perform call.arguments handlers (w.began call.key)).map fun done =>
          (.ok done.1, done.2.gaveBack done.1)) ∧
      (∀ id ∈ ids, id ∈ w.manager.roster.routedIds) ∧
      (∀ id ∈ w.manager.roster.routedIds, ∃ signature symbol,
        w.manager.roster.signature? id = some signature ∧ w.lastSymbol? id = some symbol ∧
        (id ∈ ids ↔ symbol.AsksFunction signature.phase call ∨
          symbol.AsksNode signature.phase call)) ∧
      ∀ succeeded, fire perform (call.withSucceeded succeeded) w = fire perform call w := by
  have hrouted := hw.routed
  obtain ⟨hs, _, _⟩ := hw.sound
  obtain ⟨handlers, hh, hrun⟩ :=
    hs.runHandlers_eq (hp.keeping keeps_kept) call.key call.arguments
  refine ⟨w.manager.roster.handlersFor call.key, handlers, hh,
    hrouted.pairwise_handlersFor call.key, ?_, ?_, ?_, ?_⟩
  · split
    · next hnone =>
      have hf : ¬ w.Fires call.key := fun hf => hf.2.1 hnone
      rw [fire, runHandlers_of_not_fires hf, if_pos (Or.inr hnone)]
    · next hsome =>
      exact hrun ⟨hm, hsome, ha⟩
  · intro id hid
    exact hrouted.mem_routedIds.mpr ⟨_, hrouted.mem_handlersFor.mp hid⟩
  · intro id hid
    obtain ⟨key, hkey⟩ := hrouted.mem_routedIds.mp hid
    obtain ⟨signature, symbol, hsig, hsymbol, hroute⟩ := exists_lastSymbol? hkey
    refine ⟨signature, symbol, hsig, hsymbol, ?_⟩
    -- the subscription stands in one bucket only, and the call looks into one only
    rw [← Symbol.routeKey_eq_key_iff hroute, hrouted.mem_handlersFor, hkey, Option.some.injEq,
      Except.ok.injEq]
  · intro succeeded
    exact fire_withSucceeded perform call succeeded w

/-- A bridge with two subscriptions, to an event and to a database whose function and node have the
same number. -/
def sameNumber : World Recording :=
  ((Recording.start 8 {}).afterSteps? 1
    [.define "Hit" 1 ⟨.event, ⟨7⟩, none⟩, .define "Fact" 1 ⟨.database, ⟨0⟩, some ⟨7⟩⟩,
      .subscribe ⟨"Hit", 1, .before⟩ ⟨0⟩, .subscribe ⟨"Fact", 1, .before⟩ ⟨1⟩,
      .loadStory false]).get (by decide +kernel)

/-- The event reaches the first and not the second. -/
theorem sameNumber_reaches :
    ∃ ids : List SubscriptionId, 0 ∈ ids ∧ 1 ∉ ids ∧ ∃ handlers : List HandlerRef,
      ids.map sameNumber.manager.roster.handler? = handlers.map some ∧
      fire (stepWithin 1) (.eventPre ⟨7⟩ none) sameNumber =
        (invokeEach (stepWithin 1) .none handlers
          (sameNumber.began (.function ⟨7⟩ false))).map fun done =>
            (.ok done.1, done.2.gaveBack done.1) := by
  have hw : Moment anyStep 0 sameNumber := Moment.get _
  obtain ⟨ids, handlers, hh, _, hfire, _, hasks, _⟩ := engineCall_reaches hw
    (stepWithin_stepwise 1) (by decide +kernel) (by decide +kernel) (.eventPre ⟨7⟩ none)
  have hevent : 0 ∈ ids := by
    obtain ⟨signature, symbol, hs, hl, hiff⟩ := hasks 0 (by decide +kernel)
    have hs' : sameNumber.manager.roster.signature? 0 = some ⟨"Hit", 1, .before⟩ := by
      decide +kernel
    have hl' : sameNumber.lastSymbol? 0 = some ⟨.event, ⟨7⟩, none⟩ := by decide +kernel
    cases hs.symm.trans hs'
    cases hl.symm.trans hl'
    exact hiff.mpr (Or.inl ⟨Or.inl rfl, rfl, Or.inl ⟨rfl, rfl⟩⟩)
  have hnode : 1 ∉ ids := by
    obtain ⟨signature, symbol, hs, hl, hiff⟩ := hasks 1 (by decide +kernel)
    have hl' : sameNumber.lastSymbol? 1 = some ⟨.database, ⟨0⟩, some ⟨7⟩⟩ := by decide +kernel
    cases hl.symm.trans hl'
    intro hmem
    rcases hiff.mp hmem with ⟨hkind, _⟩ | ⟨_, node, _, hsite, _⟩
    · rcases hkind with hkind | hkind <;> cases hkind
    · cases hsite
  refine ⟨ids, hevent, hnode, handlers, hh, ?_⟩
  rw [hfire, if_neg (List.ne_nil_of_mem hevent)]
  rfl

end World

end StoryHooks
