import StoryHooks.Proofs.OwnRequests
import StoryHooks.Proofs.Snapshot

/-!
# What one firing does

A firing reads its level and the roster anew before each handler, while the handlers subscribe, load
stories and fire again. It comes to the same as running the handlers that were routed when it began.

Results:
1. `runLevel_eq_invokeEach`: reading a level to its end is running the handlers it names in turn.
2. `Sound.runHandlers_eq`: so a firing is these handlers in turn, between taking its snapshot
   and giving it back.
3. `firing_invokes_each_once`: which handlers a firing runs, in which order, and what it sums up to,
   at any moment of any run.
-/

namespace StoryHooks

open Script

/-- An outcome is a failure if the handler was not run to its end. -/
theorem HandlerOutcome.isFailure_eq (o : HandlerOutcome) :
    o.isFailure = decide (o ≠ .completed) := by
  cases o <;> rfl

theorem DispatchOutcome.ofInvocations_eq (invocations : List Invocation) :
    ofInvocations invocations =
      ⟨invocations.length, invocations.countP fun i => i.outcome ≠ .completed⟩ := by
  simp only [ofInvocations, HandlerOutcome.isFailure_eq]

/-- Ids that were given out have handlers. -/
theorem Roster.exists_handlers (r : Roster) {ids : List SubscriptionId}
    (h : ∀ id ∈ ids, id < r.size) :
    ∃ handlers : List HandlerRef, ids.map r.handler? = handlers.map some := by
  induction ids with
  | nil => exact ⟨[], rfl⟩
  | cons id ids ih =>
    obtain ⟨handlers, hh⟩ := ih fun i hi => h i (List.mem_cons_of_mem _ hi)
    have hlt : id < r.subscribers.length := h id List.mem_cons_self
    refine ⟨r.subscribers[id].handler :: handlers, ?_⟩
    rw [List.map_cons, List.map_cons, hh, handler?, List.getElem?_eq_getElem hlt]
    rfl

namespace World

variable {δ : Type} [Dialect δ]

/-- Runs handlers under the guard, one after the other, whatever becomes of each. -/
def invokeEach (perform : Perform δ) (args : Arguments) :
    List HandlerRef → World δ → Option (List Invocation × World δ)
  | [], w => some ([], w)
  | handler :: handlers, w =>
    match guard perform handler args w with
    | none => none
    | some (outcome, w) =>
      match invokeEach perform args handlers w with
      | none => none
      | some (invocations, w) => some (⟨handler, outcome⟩ :: invocations, w)

section InvokeEach
variable {perform : Perform δ} {args : Arguments}

theorem invokeEach_handlers {handlers : List HandlerRef} {w v : World δ}
    {invocations : List Invocation}
    (h : invokeEach perform args handlers w = some (invocations, v)) :
    invocations.map Invocation.handler = handlers := by
  induction handlers generalizing w invocations with
  | nil => cases h; rfl
  | cons handler handlers ih =>
    rw [invokeEach] at h
    split at h
    · cases h
    split at h
    · cases h
    · next hrest =>
      cases h
      rw [List.map_cons, ih hrest]

/-- Handlers in turn may be split into those that come first and the rest. -/
theorem invokeEach_append (before after : List HandlerRef) (w : World δ) :
    invokeEach perform args (before ++ after) w =
      (invokeEach perform args before w).bind fun done =>
        (invokeEach perform args after done.2).map fun rest => (done.1 ++ rest.1, rest.2) := by
  induction before generalizing w with
  | nil =>
    rw [List.nil_append, invokeEach, Option.bind_some]
    exact Option.map_id'.symm
  | cons handler before ih =>
    rw [List.cons_append, invokeEach, invokeEach]
    cases guard perform handler args w with
    | none => rfl
    | some done =>
      obtain ⟨outcome, u⟩ := done
      simp only [ih]
      cases invokeEach perform args before u with
      | none => rfl
      | some first =>
        simp only [Option.bind_some]
        cases invokeEach perform args after first.2 <;> rfl

/-- What the guard brings about from a world of some kind, and a world of that kind again, handlers
in turn bring about one by one. -/
theorem invokeEach_each {I : World δ → Prop} {P : HandlerOutcome → Prop}
    (hguard : ∀ handler u outcome v, I u → guard perform handler args u = some (outcome, v) →
      P outcome ∧ I v)
    {handlers : List HandlerRef} {w v : World δ} {invocations : List Invocation} (hw : I w)
    (h : invokeEach perform args handlers w = some (invocations, v)) :
    (∀ i ∈ invocations, P i.outcome) ∧ I v := by
  induction handlers generalizing w invocations with
  | nil => cases h; exact ⟨List.forall_mem_nil _, hw⟩
  | cons handler handlers ih =>
    rw [invokeEach] at h
    split at h
    · cases h
    · next hg =>
      obtain ⟨hfirst, hu⟩ := hguard _ _ _ _ hw hg
      split at h
      · cases h
      · next hrest =>
        cases h
        obtain ⟨hall, hv⟩ := ih hu hrest
        exact ⟨List.forall_mem_cons.mpr ⟨hfirst, hall⟩, hv⟩

theorem invokeEach_kept {R : World δ → World δ → Prop} (hR : Kept R) (hp : Keeping R perform)
    {handlers : List HandlerRef} {w v : World δ} {invocations : List Invocation}
    (h : invokeEach perform args handlers w = some (invocations, v)) : R w v := by
  have heach := invokeEach_each (I := R w) (P := fun _ => True) ?_ (hR.books rfl) h
  · exact heach.2
  · intro handler u outcome v hu hg
    exact ⟨trivial, hR.trans hu (guard_kept hR hp hg)⟩

/-- Reading a level to its end is running the handlers it names in turn. What the handlers do
changes neither the level, which is in use, nor the subscribers that its ids lead to. -/
theorem runLevel_eq_invokeEach (hp : Keeping KeepsSound perform) {base v : World δ}
    {snapshot : Snapshot} (hs : snapshot.level < base.manager.pool.depth)
    {past rest : List SubscriptionId} (hread : base.manager.pool.read snapshot = past ++ rest)
    {handlers : List HandlerRef}
    (hh : rest.map base.manager.roster.handler? = handlers.map some)
    (hv : v.Sound) (hk : base.Keeps v) :
    runLevel perform snapshot args rest.length past.length v =
      invokeEach perform args handlers v := by
  -- `past` is what has been read; the world `v` moves, and everything is read as in `base`
  induction rest generalizing past handlers v with
  | nil =>
    obtain rfl : handlers = [] := List.map_eq_nil_iff.mp hh.symm
    have hget : v.manager.pool.get? snapshot past.length = none := by
      rw [Pool.get?, hk.read_eq hs, hread, List.append_nil]
      exact List.getElem?_eq_none (Nat.le_refl _)
    simp only [List.length_nil, runLevel, hget, invokeEach]
  | cons id rest ih =>
    obtain ⟨handler, handlers, rfl, hid, hrest⟩ := List.map_eq_cons_iff.mp hh.symm
    have hget : v.manager.pool.get? snapshot past.length = some id := by
      rw [Pool.get?, hk.read_eq hs, hread, List.getElem?_append_right (Nat.le_refl _), Nat.sub_self]
      rfl
    have hhandler := hk.handler?_eq hid.symm
    rw [List.length_cons, runLevel, invokeEach, hget]
    simp only [hhandler]
    cases hg : guard perform handler args v with
    | none => rfl
    | some done =>
      obtain ⟨outcome, u⟩ := done
      obtain ⟨hu, hvu⟩ := guard_kept keeps_kept hp hg hv
      have hpast : base.manager.pool.read snapshot = (past ++ [id]) ++ rest := by
        rw [hread, List.append_assoc]
        rfl
      have hnext := ih hpast hrest.symm hu (hk.trans hvu)
      rw [List.length_append, List.length_singleton] at hnext
      cases hlast : invokeEach perform args handlers u with
      | none => simp only [hnext, hlast]
      | some done => simp only [hnext, hlast]

/-- The ids routed to a key have handlers, and a firing that takes a snapshot of them runs these
handlers in turn and gives the snapshot back. -/
theorem Sound.runHandlers_eq {w : World δ} (hw : w.Sound) (hp : Keeping KeepsSound perform)
    (key : RouteKey) (args : Arguments) :
    ∃ handlers : List HandlerRef,
      (w.manager.roster.handlersFor key).map w.manager.roster.handler? = handlers.map some ∧
      (w.Fires key → runHandlers perform key args w =
        (invokeEach perform args handlers (w.began key)).map fun done =>
          (.ok done.1, done.2.gaveBack done.1)) := by
  obtain ⟨handlers, hh⟩ := w.manager.roster.exists_handlers (hw.routed key)
  refine ⟨handlers, hh, ?_⟩
  intro hf
  have hbegan := hw.began key
  have hread : (w.began key).manager.pool.read w.nextSnapshot =
      [] ++ w.manager.roster.handlersFor key := Pool.read_enter hw.depth_le _
  have hlevel : runLevel perform w.nextSnapshot args (w.manager.roster.handlersFor key).length 0
      (w.began key) = invokeEach perform args handlers (w.began key) :=
    runLevel_eq_invokeEach hp (Nat.lt_succ_self _) hread hh hbegan (.refl _)
  rw [runHandlers_of_fires hf, hlevel]
  cases hi : invokeEach perform args handlers (w.began key) with
  | none => rfl
  | some done =>
    obtain ⟨_, hk⟩ := invokeEach_kept keeps_kept hp hi hbegan
    rw [Option.map_some, Option.map_some, hk.finish_eq]

end InvokeEach

/-! ## Any firing at any moment -/

section Moment
variable [OwnDialect δ] [LawfulOwn δ] {allowed : Step → Prop} {level : Nat} {w : World δ}
  {perform : Perform δ}

/-- At any moment of any run, whatever handlers do: a firing of a key makes one invocation for each
id that was routed there when it began, of the handler of that id and in that order, and counts the
invocations and those of them that did not complete. If dispatch is gated, no id is routed there or
the machine is down, no handler is started; then the last of these reasons is reported and nothing
else changes. -/
theorem firing_invokes_each_once (hw : Moment allowed level w) (hp : Stepwise allowed perform)
    (key : RouteKey) (args : Arguments) :
    (w.Fires key →
      ∃ handlers : List HandlerRef,
        (w.manager.roster.handlersFor key).map w.manager.roster.handler? = handlers.map some ∧
        runHandlers perform key args w =
          (invokeEach perform args handlers (w.began key)).map (fun done =>
            (.ok done.1, done.2.gaveBack done.1)) ∧
        ∀ invocations v, runHandlers perform key args w = some (.ok invocations, v) →
          invocations.map Invocation.handler = handlers ∧
          DispatchOutcome.ofInvocations invocations =
            ⟨(w.manager.roster.handlersFor key).length,
              invocations.countP fun i => i.outcome ≠ .completed⟩) ∧
    (¬ w.Fires key →
      runHandlers perform key args w = some (.ok [],
        if w.manager.merging = true ∨ w.manager.roster.handlersFor key = [] then w
        else w.report (.machineUnavailable key)) ∧
      DispatchOutcome.ofInvocations [] = ⟨0, 0⟩) := by
  constructor
  · intro hf
    obtain ⟨hs, _, _⟩ := hw.sound
    obtain ⟨handlers, hh, hrun⟩ := hs.runHandlers_eq (hp.keeping keeps_kept) key args
    refine ⟨handlers, hh, hrun hf, ?_⟩
    intro invocations v h
    rw [hrun hf] at h
    obtain ⟨done, hi, he⟩ := Option.map_eq_some_iff.mp h
    cases he
    have hinvoked := invokeEach_handlers hi
    refine ⟨hinvoked, ?_⟩
    have hlength : done.1.length = (w.manager.roster.handlersFor key).length := by
      rw [← List.length_map Invocation.handler, hinvoked, ← List.length_map some, ← hh,
        List.length_map]
    rw [DispatchOutcome.ofInvocations_eq, hlength]
  · intro hf
    exact ⟨runHandlers_of_not_fires hf perform args, rfl⟩

end Moment

/-- A bridge with one handler, which subscribes to its own key, loads the story, fires the key again
and raises an error. -/
def resubscribing : World Recording :=
  ((Recording.start 8 {}).afterSteps? 1
    [.define "Hit" 1 ⟨.event, ⟨7⟩, none⟩,
      .addHandler ⟨[.subscribe ⟨"Hit", 1, .before⟩ ⟨0⟩, .loadStory false,
        .run (.function ⟨7⟩ false) .none], .raises "no", some 1, none⟩,
      .subscribe ⟨"Hit", 1, .before⟩ ⟨0⟩, .loadStory false]).get (by decide +kernel)

theorem moment_resubscribing : Moment anyStep 0 resubscribing := Moment.get _

theorem fires_resubscribing : resubscribing.Fires (.function ⟨7⟩ false) :=
  ⟨by decide +kernel, by decide +kernel, by decide +kernel⟩

/-- Its firing invokes it once; the subscription that it makes meanwhile is left to the next. -/
theorem resubscribing_invokes_once :
    ∃ (invocations : List Invocation) (v : World Recording),
      runHandlers (stepWithin 2) (.function ⟨7⟩ false) .none resubscribing =
        some (.ok invocations, v) ∧
      invocations.map Invocation.handler = [⟨0⟩] ∧
      (DispatchOutcome.ofInvocations invocations).invoked = 1 := by
  obtain ⟨handlers, hh, hrun, hsum⟩ := (firing_invokes_each_once moment_resubscribing
    (stepWithin_stepwise 2) (.function ⟨7⟩ false) .none).1 fires_resubscribing
  have hids : (resubscribing.manager.roster.handlersFor (.function ⟨7⟩ false)).map
      resubscribing.manager.roster.handler? = [⟨0⟩].map some := by decide +kernel
  have hone : handlers = [⟨0⟩] :=
    (List.map_inj_right fun _ _ => Option.some.inj).mp (hh.symm.trans hids)
  have hends : (runHandlers (stepWithin 2) (.function ⟨7⟩ false) .none resubscribing).isSome =
      true := by decide +kernel
  obtain ⟨result, hr⟩ := Option.isSome_iff_exists.mp hends
  obtain ⟨done, _, rfl⟩ := Option.map_eq_some_iff.mp (hrun.symm.trans hr)
  obtain ⟨hinvoked, hinvocations⟩ := hsum _ _ hr
  refine ⟨_, _, hr, hinvoked.trans hone, ?_⟩
  rw [hinvocations, ← List.length_map, hids]
  rfl

end World

end StoryHooks
