import StoryHooks.Proofs.Routes

/-!
# The latch

The engine is hooked once, and its calls are bound to the manager then. Three requests give occasion
to it, each under a condition of its own; an attempt may fail, any number of times; and all of this
happens within handlers too. The latch is what shows of it: whether the engine is hooked, what the
installer has counted and bound, whether the manager is there, and how the attempts so far ended.

Results:
1. `leads_kept`: whatever a run does, it leads the latch on by occasions, by failures that are
   armed, and by dropping the manager.
2. `latch_of_occasion`, `makes_of_not_occasion`: a step that is an occasion makes an attempt if it
   finds the latch open; any other step makes those that the steps of bodies make.
3. `hooked_once`: so at any moment of any run the counters, the latch and the sink are in step.
-/

namespace StoryHooks

open Script

/-- How the attempt to hook the engine ended that an act is. -/
def Act.attempt? : Act → Option Bool
  | .hookTried succeeded => some succeeded
  | _ => none

/-- The attempts to hook the engine so far, and what they are made with. -/
structure Latch where
  hooked : Bool
  installer : Installer
  managed : Bool
  attempts : List Bool

namespace Latch

def initial : Latch := ⟨false, .initial, true, []⟩

/-- An occasion to hook the engine: nothing happens if it is hooked. Otherwise an armed failure is
used up, or the engine is hooked and the sink bound. -/
def attempt (l : Latch) : Latch :=
  if l.hooked then l
  else if l.installer.failNext then
    { l with
      installer := { l.installer with failNext := false }
      attempts := l.attempts ++ [false] }
  else
    { l with
      hooked := true
      installer := { l.installer with installs := l.installer.installs + 1 }.bind true
      attempts := l.attempts ++ [true] }

section Attempt
variable {l : Latch}

theorem attempt_of_hooked (h : l.hooked = true) : l.attempt = l := if_pos h

theorem attempt_of_armed (h : l.hooked = false) (hf : l.installer.failNext = true) :
    l.attempt = { l with
      installer := { l.installer with failNext := false }, attempts := l.attempts ++ [false] } := by
  rw [attempt, if_neg (Bool.eq_false_iff.mp h), if_pos hf]

theorem attempt_of_unarmed (h : l.hooked = false) (hf : l.installer.failNext = false) :
    l.attempt = { l with
      hooked := true
      installer := { l.installer with installs := l.installer.installs + 1 }.bind true
      attempts := l.attempts ++ [true] } := by
  rw [attempt, if_neg (Bool.eq_false_iff.mp h), if_neg (Bool.eq_false_iff.mp hf)]

/-- An attempt is made if the latch is open. It fails if a failure was armed, and uses it up. -/
theorem attempt_eq (l : Latch) :
    l.attempt.attempts = l.attempts ++ (if l.hooked then [] else [!l.installer.failNext]) ∧
      l.attempt.hooked = (l.hooked || !l.installer.failNext) ∧
      l.attempt.installer.failNext = (l.hooked && l.installer.failNext) := by
  cases hh : l.hooked with
  | true => rw [attempt_of_hooked hh, hh]; simp
  | false =>
    cases hf : l.installer.failNext with
    | true => rw [attempt_of_armed hh hf]; exact ⟨rfl, hh, rfl⟩
    | false => rw [attempt_of_unarmed hh hf]; exact ⟨rfl, rfl, hf⟩

end Attempt

/-- A failure of the next attempt is armed. -/
def arm (l : Latch) : Latch := { l with installer := { l.installer with failNext := true } }

/-- The manager is dropped, and the sink cleared if it was ever bound. -/
def drop (l : Latch) : Latch :=
  if l.managed then
    { l with
      managed := false
      installer := if l.hooked then l.installer.bind false else l.installer }
  else l

/-- One latch leads to another by any number of occasions, failures that are armed, and drops of the
manager. -/
inductive Leads (l : Latch) : Latch → Prop
  | refl : Leads l l
  | attempt {l' : Latch} : Leads l l' → Leads l l'.attempt
  | arm {l' : Latch} : Leads l l' → Leads l l'.arm
  | drop {l' : Latch} : Leads l l' → Leads l l'.drop

theorem Leads.trans {l l' l'' : Latch} (h : Leads l l') (h' : Leads l' l'') : Leads l l'' := by
  induction h' with
  | refl => exact h
  | attempt _ ih => exact ih.attempt
  | arm _ ih => exact ih.arm
  | drop _ ih => exact ih.drop

/-- On the way from one latch to another these attempts were made, in this order. Where none was
made, it is as open as it was, and an armed failure is not used up. -/
structure Makes (l : Latch) (made : List Bool) (l' : Latch) : Prop where
  attempts_eq : l'.attempts = l.attempts ++ made
  hooked_eq : made = [] → l'.hooked = l.hooked
  failNext_of : made = [] → l.installer.failNext = true → l'.installer.failNext = true

theorem Makes.of_eq {l l' : Latch} (h : l' = l) : l.Makes [] l' := by
  rw [h]
  exact ⟨(List.append_nil _).symm, fun _ => rfl, fun _ => id⟩

theorem Makes.trans {l l' l'' : Latch} {made made' : List Bool} (h : l.Makes made l')
    (h' : l'.Makes made' l'') : l.Makes (made ++ made') l'' where
  attempts_eq := by rw [h'.attempts_eq, h.attempts_eq, List.append_assoc]
  hooked_eq hnil := by
    obtain ⟨hm, hm'⟩ := List.append_eq_nil_iff.mp hnil
    rw [h'.hooked_eq hm', h.hooked_eq hm]
  failNext_of hnil := by
    obtain ⟨hm, hm'⟩ := List.append_eq_nil_iff.mp hnil
    exact h'.failNext_of hm' ∘ h.failNext_of hm

/-- A property of attempts in order that holds of none at all, and of some and more after them if it
holds of both. -/
structure Composes (P : List Bool → Prop) : Prop where
  nil : P []
  append {made made' : List Bool} : P made → P made' → P (made ++ made')

theorem composes_nil : Composes (· = []) := ⟨rfl, fun h h' => List.append_eq_nil_iff.mpr ⟨h, h'⟩⟩

theorem makes_arm (l : Latch) : l.Makes [] l.arm :=
  ⟨(List.append_nil _).symm, fun _ => rfl, fun _ _ => rfl⟩

theorem makes_drop (l : Latch) : l.Makes [] l.drop := by
  unfold drop
  split
  · refine ⟨(List.append_nil _).symm, fun _ => rfl, fun _ hf => ?_⟩
    show (if l.hooked then l.installer.bind false else l.installer).failNext = true
    split <;> exact hf
  · exact .of_eq rfl

/-! ## What the attempts come to -/

/-- Some attempts failed, and the last succeeded if the engine is hooked. As long as the manager is
there, the installer has counted one success then and is bound. -/
structure InStep (l : Latch) : Prop where
  attempts_eq : ∃ failures,
    l.attempts = List.replicate failures false ++ if l.hooked then [true] else []
  installer_eq : l.managed = true → l.installer =
    ⟨l.hooked.toNat, l.hooked.toNat, l.installer.failNext, l.hooked⟩

theorem inStep_initial : initial.InStep := ⟨⟨0, rfl⟩, fun _ => rfl⟩

theorem InStep.attempt {l : Latch} (h : l.InStep) : l.attempt.InStep := by
  unfold Latch.attempt
  split
  · exact h
  next hopen =>
    have hopen : l.hooked = false := Bool.eq_false_iff.mpr hopen
    obtain ⟨failures, hattempts⟩ := h.attempts_eq
    rw [hopen] at hattempts
    split
    · refine ⟨⟨failures + 1, ?_⟩, fun hm => ?_⟩
      · simp [hattempts, hopen, List.replicate_succ']
      · rw [h.installer_eq hm]
    · refine ⟨⟨failures, ?_⟩, fun hm => ?_⟩
      · simp [hattempts]
      · rw [h.installer_eq hm, hopen]
        rfl

theorem InStep.arm {l : Latch} (h : l.InStep) : l.arm.InStep :=
  ⟨h.attempts_eq, fun hm => congrArg (fun i => { i with failNext := true }) (h.installer_eq hm)⟩

theorem InStep.drop {l : Latch} (h : l.InStep) : l.drop.InStep := by
  unfold Latch.drop
  split
  · exact ⟨h.attempts_eq, nofun⟩
  · exact h

theorem Leads.inStep {l : Latch} (h : initial.Leads l) : l.InStep := by
  induction h with
  | refl => exact inStep_initial
  | attempt _ ih => exact ih.attempt
  | arm _ ih => exact ih.arm
  | drop _ ih => exact ih.drop

/-- A latch that is closed stays so: no attempt is made any more, and an armed failure is kept. -/
theorem Leads.closed {l l' : Latch} (h : Leads l l') (hooked : l.hooked = true) :
    l'.hooked = true ∧ l'.attempts = l.attempts ∧
      l'.installer.installs = l.installer.installs ∧
      (l.installer.failNext = true → l'.installer.failNext = true) := by
  induction h with
  | refl => exact ⟨hooked, rfl, rfl, id⟩
  | attempt _ ih =>
    rw [Latch.attempt, if_pos ih.1]
    exact ih
  | arm _ ih => exact ⟨ih.1, ih.2.1, ih.2.2.1, fun _ => rfl⟩
  | drop _ ih =>
    unfold Latch.drop
    split
    · rw [if_pos ih.1]
      exact ih
    · exact ih

end Latch

namespace World

variable {δ : Type} [Dialect δ]

def attempts (w : World δ) : List Bool := w.history.filterMap Act.attempt?

def latch (w : World δ) : Latch := ⟨w.manager.hooked, w.installer, w.managed, w.attempts⟩

/-! ## What the manager does to the latch -/

section Manager
variable {w v : World δ}

theorem latch_of_books (h : v.books = w.books) : v.latch = w.latch :=
  congrArg (fun b : Books =>
    (⟨b.manager.hooked, b.installer, b.managed, b.history.filterMap Act.attempt?⟩ : Latch)) h

/-- An act adds to the attempts what it is of one, and leaves the rest of the latch alone. -/
theorem latch_enact (w : World δ) (act : Act) :
    (w.enact act).latch =
      { w.latch with attempts := w.latch.attempts ++ act.attempt?.toList } := by
  have hattempts : (w.enact act).attempts = w.attempts ++ act.attempt?.toList := by
    show (w.history ++ [act]).filterMap Act.attempt? = _
    rw [List.filterMap_append]
    cases h : act.attempt? <;> simp [attempts, h]
  exact congrArg (Latch.mk w.manager.hooked w.installer w.managed) hattempts

theorem latch_enact_of_none {act : Act} (w : World δ) (h : act.attempt? = none) :
    (w.enact act).latch = w.latch := by
  rw [latch_enact, h, Option.toList_none, List.append_nil]

theorem latch_hook (w : World δ) : w.hook.latch = w.latch.attempt := by
  rcases w.hook_cases with ⟨hh, h⟩ | ⟨hh, hf, h⟩ | ⟨hh, hf, h⟩
  · rw [h, Latch.attempt_of_hooked hh]
  · rw [h, Latch.attempt_of_armed hh hf]
    refine (latch_enact (w.setHook _ false) (.hookTried false)).trans ?_
    exact congrArg (fun hooked => Latch.mk hooked _ _ _) hh.symm
  · rw [h, Latch.attempt_of_unarmed hh hf]
    exact latch_enact (w.setHook _ true) (.hookTried true)

theorem latch_routeLate (w : World δ) (id : SubscriptionId) :
    (w.routeLate id).latch = w.latch := by
  unfold routeLate
  split <;> rfl

/-- A subscription is an occasion once a story was loaded. -/
theorem latch_subscribe (w : World δ) (signature : Signature) (handler : HandlerRef) :
    (w.subscribe signature handler).2.latch =
      if w.manager.storyLoaded then w.latch.attempt else w.latch := by
  have henrolled : (w.enrolled signature handler).latch = w.latch :=
    latch_enact_of_none (w.setRoster _) rfl
  rw [subscribe_snd]
  split
  · rw [latch_routeLate, latch_hook, henrolled]
  · exact henrolled

theorem latch_loadStory (w : World δ) : w.loadStory.2.latch = w.latch.attempt := by
  rw [← latch_hook]
  exact latch_enact_of_none (w.hook.setRoster _).setStoryLoaded rfl

theorem latch_dropManager (w : World δ) : w.dropManager.latch = w.latch.drop := by
  unfold dropManager Latch.drop
  split
  · next hm =>
    rw [if_pos (show w.latch.managed = true from hm)]
    rfl
  · next hm => rw [if_neg (show ¬ w.latch.managed = true from hm)]

theorem latch_began (w : World δ) (key : RouteKey) : (w.began key).latch = w.latch :=
  latch_enact_of_none (w.setPool _) rfl

theorem latch_finish (snapshot : Snapshot) (invocations : List Invocation) (w : World δ) :
    (finish snapshot invocations w).2.latch = w.latch := by
  unfold finish
  split
  · rfl
  · exact latch_enact_of_none (w.setPool _) rfl

/-- Whatever a run does, it leads the latch on. -/
theorem leads_kept : Kept fun w v : World δ => w.latch.Leads v.latch where
  trans h h' := h.trans h'
  books h := latch_of_books h ▸ .refl
  symbols _ _ := .refl
  generation _ _ := .refl
  failNext _ := .arm .refl
  hook w := w.latch_hook ▸ .attempt .refl
  subscribe w signature handler := by
    rw [latch_subscribe]
    split
    · exact .attempt .refl
    · exact .refl
  loadStory w := w.latch_loadStory ▸ .attempt .refl
  setMerging _ _ := .refl
  dropManager w := w.latch_dropManager ▸ .drop .refl
  firing invocations _ h := by
    rw [latch_finish]
    rwa [latch_began] at h

end Manager

/-! ## Occasions -/

section Occasion
variable [OwnDialect δ]

/-- The step is an occasion to hook the engine: it asks the manager to hook it, to load a story, or
to take a subscription when a story was loaded before. -/
def Occasion (w : World δ) : Step → Prop
  | .hook | .loadStory _ => w.managed = true
  | .subscribe .. => w.managed = true ∧ w.manager.storyLoaded = true
  | .own request => w.manager.storyLoaded = true ∧
    ∃ (u : World δ) (signature : Signature) (handler : HandlerRef), u.books = w.books ∧
      (OwnDialect.perform request w).2.books = (u.subscribe signature handler).2.books
  | _ => False

variable {w v : World δ} {perform : Perform δ} {s : Step} {answer : Answer}

/-- An occasion makes an attempt if it finds the latch open. -/
theorem latch_of_occasion (hs : w.Occasion s) (h : step perform s w = some (answer, v)) :
    v.latch = w.latch.attempt := by
  cases s with
  | hook =>
    simp only [step, whileManaged, if_pos (show w.managed = true from hs)] at h
    cases h
    exact w.latch_hook
  | loadStory viaManager =>
    simp only [step, whileManaged, if_pos (show w.managed = true from hs)] at h
    cases viaManager <;> cases h
    · exact latch_loadStory _
    · exact latch_loadStory _
  | subscribe signature handler =>
    obtain ⟨hm, hl⟩ := hs
    simp only [step, whileManaged, if_pos hm] at h
    cases h
    rw [latch_subscribe, if_pos hl]
  | own request =>
    obtain ⟨hl, u, signature, handler, hu, hb⟩ := hs
    obtain rfl := congrArg Prod.snd (Option.some.inj h)
    rw [latch_of_books hb, latch_subscribe, manager_of_books hu, if_pos hl, latch_of_books hu]
  | _ => cases hs

/-- From `w` to `v` attempts to hook the engine were made that `P` holds of, as a list. -/
def Makes (P : List Bool → Prop) (w v : World δ) : Prop :=
  ∃ made, P made ∧ w.latch.Makes made v.latch

section Makes
variable {P : List Bool → Prop} (hP : Latch.Composes P)
include hP

omit [OwnDialect δ] in
theorem Makes.of_eq (h : v.latch = w.latch) : w.Makes P v := ⟨[], hP.nil, .of_eq h⟩

omit [OwnDialect δ] in
theorem makes_onBooks : OnBooks (Makes P : World δ → World δ → Prop) where
  trans := by
    rintro u v w ⟨_, hm, h⟩ ⟨_, hm', h'⟩
    exact ⟨_, hP.append hm hm', h.trans h'⟩
  books h := .of_eq hP (latch_of_books h)
  firing invocations _ h := by
    unfold Makes
    rw [latch_finish]
    rwa [Makes, latch_began] at h

/-- A step that fires nothing and is no occasion makes the attempts of the bodies that it runs. -/
theorem makes_of_bodies [LawfulOwn δ] (hs : ¬ w.Occasion s) (hfires : s.fires = false)
    (hbodies : BodiesKeeping (Makes P) perform) (h : step perform s w = some (answer, v)) :
    w.Makes P v := by
  have hbooks := makes_onBooks (δ := δ) hP
  cases s with
  | fire | run => cases hfires
  | define | remove | clearSymbols => cases h; exact .of_eq hP rfl
  | addHandler body =>
    simp only [step] at h
    split at h
    · cases h; exact .of_eq hP rfl
    · next hstored =>
      cases h
      exact hbooks.after (.of_eq hP (latch_of_books (books_storeHandler? hstored)))
        (books_addFunction w body)
  | subscribe signature handler =>
    simp only [step, whileManaged] at h
    split at h <;> cases h
    · next hm =>
      refine .of_eq hP ?_
      rw [latch_subscribe, if_neg fun hl => hs ⟨hm, hl⟩]
    · exact .of_eq hP rfl
  | loadStory viaManager | hook =>
    simp only [step, whileManaged] at h
    split at h
    · next hm => exact absurd hm hs
    · cases h; exact .of_eq hP rfl
  | setMerging merging viaManager =>
    simp only [step, whileManaged] at h
    split at h <;> cases h <;> exact .of_eq hP rfl
  | failNextInstall => cases h; exact ⟨[], hP.nil, w.latch.makes_arm⟩
  | countHandlers | describe =>
    simp only [step, whileManaged] at h
    split at h <;> cases h <;> exact .of_eq hP rfl
  | shutDown => cases h; exact .of_eq hP rfl
  | drop =>
    cases h
    exact ⟨[], hP.nil, w.latch_dropManager ▸ w.latch.makes_drop⟩
  | stack request =>
    simp only [step] at h
    split at h
    · exact hbooks.sees.stackStep besideStack_books hbodies h
    · cases h; exact .of_eq hP rfl
  | own request =>
    obtain rfl := congrArg Prod.snd (Option.some.inj h)
    rcases LawfulOwn.own_books request w with hb | ⟨u, signature, handler, hu, hb⟩
    · exact .of_eq hP (latch_of_books hb)
    · refine .of_eq hP ?_
      have hl : ¬ w.manager.storyLoaded = true :=
        fun hl => hs ⟨hl, u, signature, handler, hu, hb⟩
      rw [latch_of_books hb, latch_subscribe, manager_of_books hu, if_neg hl, latch_of_books hu]

/-- No step but an occasion makes an attempt itself: those that it makes are those of the steps of
bodies, one after the other. -/
theorem makes_of_not_occasion [LawfulOwn δ] (hp : Keeping (Makes P) perform)
    (hs : ¬ w.Occasion s) (h : step perform s w = some (answer, v)) : w.Makes P v := by
  have hbooks := makes_onBooks (δ := δ) hP
  cases hfires : s.fires with
  | true =>
    rcases step_of_fires hfires h with rfl | ⟨_, _, _, hr⟩
    · exact hbooks.books rfl
    · exact runHandlers_carried hbooks.carried hp hr
  | false =>
    exact makes_of_bodies hP hs hfires (bodies_carried hbooks.carried.toAlong hp) h

end Makes

end Occasion

end World

/-! ## Runs -/

/-- The step may be an occasion to hook the engine, depending on the world. -/
def Step.mayHook : Step → Bool
  | .hook | .loadStory _ | .subscribe .. | .own _ => true
  | _ => false

/-- The steps that are never an occasion. -/
def unhooking : Step → Prop := fun s => s.mayHook = false

instance : DecidablePred unhooking := fun s => inferInstanceAs (Decidable (s.mayHook = false))

section Run
variable {δ : Type} [Dialect δ] [OwnDialect δ] [LawfulOwn δ] {allowed : Step → Prop} {level : Nat}
  {w v : World δ}

omit [LawfulOwn δ] in
theorem World.not_occasion_of_unhooking {s : Step} (h : unhooking s) : ¬ w.Occasion s := by
  cases s with
  | hook | loadStory | subscribe | own => cases h
  | _ => exact id

/-- No moment on from a world by steps that are no occasions comes after another attempt. -/
theorem MomentFrom.makes_nil (h : MomentFrom unhooking w level v) : w.latch.Makes [] v.latch := by
  suffices w.Makes (· = []) v by
    obtain ⟨_, rfl, hmakes⟩ := this
    exact hmakes
  have hbooks := World.makes_onBooks (δ := δ) Latch.composes_nil
  have hcarried : CarriedBy unhooking (World.Makes (δ := δ) (· = [])) :=
    { hbooks.carried with
      step := fun ha hfires hbodies hs => World.makes_of_bodies Latch.composes_nil
        (World.not_occasion_of_unhooking ha) hfires hbodies hs }
  exact h.related World.besideStack_books hbooks.sees hcarried fun u key =>
    .of_eq Latch.composes_nil (World.latch_began u key)

/-- Whatever a run passes through on from a world, the latch has been led on. -/
theorem MomentFrom.leads (h : MomentFrom allowed w level v) : w.latch.Leads v.latch :=
  h.related World.besideStack_books World.leads_kept.onBooks.sees
    (World.leads_kept.carriedBy allowed) fun u key => World.latch_began u key ▸ .refl

/-- At every moment the latch has been led on from that of a bridge just put together. -/
theorem Moment.leads (hw : Moment allowed level w) : Latch.initial.Leads w.latch := by
  refine hw.keeps (I := fun _ w => Latch.initial.Leads w.latch) World.leads_kept ?_ ?_ ?_
  · intro _ _ _ _
    exact .refl
  · intro _ _ _ hled h
    exact h.trans hled
  · intro _ w key _ h
    rwa [World.latch_began]

end Run

namespace World

variable {δ : Type} [Dialect δ] [OwnDialect δ] [LawfulOwn δ] {allowed : Step → Prop} {level : Nat}
  {w : World δ}

/-- At any moment of any run, whatever was requested before and within handlers:

* as long as the manager is there, the installer has counted one success and one binding if the
  engine is hooked and none otherwise, and the sink is bound just then: what is fired by way of it
  reaches this manager;
* some attempts failed, and the last succeeded if the engine is hooked;
* a hooked engine stays hooked, no attempt is made any more, and an armed failure is kept;
* an occasion makes an attempt if the engine is not hooked, which fails if a failure was armed and
  uses it up; no other step makes one unless a step of a body does, and neither does a run without
  occasions; so a failed attempt is made up for at the next occasion;
* subscriptions and loads come to the same answers and routes however the attempt ends;
* dropping the manager clears the sink, by one more binding, if the engine was hooked, and leaves
  the installer alone otherwise. -/
theorem hooked_once (hw : Moment allowed level w) :
    (w.managed = true →
      w.installer = ⟨w.manager.hooked.toNat, w.manager.hooked.toNat, w.installer.failNext,
        w.manager.hooked⟩ ∧
      ∀ (perform : Perform δ) (engineCall : EngineCall),
        step perform (.fire engineCall false) w =
          if w.manager.hooked then step perform (.fire engineCall true) w
          else some (.noSink, w)) ∧
    (∃ failures, w.attempts =
      List.replicate failures false ++ if w.manager.hooked then [true] else []) ∧
    w.manager.storyLoaded = w.history.any Act.loads ∧
    (∀ level v, MomentFrom anyStep w level v → w.manager.hooked = true →
      v.manager.hooked = true ∧ v.attempts = w.attempts ∧
      v.installer.installs = w.installer.installs ∧
      (w.installer.failNext = true → v.installer.failNext = true)) ∧
    (∀ (perform : Perform δ) s answer v, step perform s w = some (answer, v) →
      (w.Occasion s →
        v.attempts = w.attempts ++
          (if w.manager.hooked then [] else [!w.installer.failNext]) ∧
        v.manager.hooked = (w.manager.hooked || !w.installer.failNext) ∧
        v.installer.failNext = (w.manager.hooked && w.installer.failNext)) ∧
      (¬ w.Occasion s → ∀ P, Latch.Composes P → Keeping (Makes P) perform → w.Makes P v)) ∧
    (∀ level v, MomentFrom unhooking w level v → w.latch.Makes [] v.latch) ∧
    (w.managed = true → ∀ (perform : Perform δ),
      (∀ signature handler, ∃ v,
        step perform (.subscribe signature handler) w = some (.count w.manager.roster.size, v) ∧
        ∀ key, v.manager.roster.handlersFor key = w.manager.roster.handlersFor key ++
          if w.manager.storyLoaded ∧ w.manager.roster.resolve w.symbols signature = .ok key
          then [w.manager.roster.size] else []) ∧
      (∀ viaManager, ∃ v,
        step perform (.loadStory viaManager) w =
          some (.report (w.manager.roster.reload w.symbols).2, v) ∧
        v.manager.roster = (w.manager.roster.reload w.symbols).1) ∧
      ∃ v, step perform .drop w = some (.done, v) ∧ v.managed = false ∧
        v.installer =
          if w.manager.hooked then
            { w.installer with binds := w.installer.binds + 1, bound := false }
          else w.installer) := by
  have hled := hw.leads
  have hstep := hled.inStep
  refine ⟨fun hm => ⟨hstep.installer_eq hm, ?_⟩, hstep.attempts_eq, hw.routed.storyLoaded_eq, ?_,
    ?_, fun _ v hv => hv.makes_nil, ?_⟩
  · intro perform engineCall
    have hsink : w.hasSink = w.manager.hooked := by
      rw [hasSink, hm, Bool.and_true]
      exact congrArg Installer.bound (hstep.installer_eq hm)
    simp only [step, whileManaged, hsink, hm, if_true, Bool.false_eq_true, if_false]
  · intro _ v hv hooked
    exact hv.leads.closed hooked
  · intro perform s answer v h
    refine ⟨fun hs => ?_, fun hs P hP hp => makes_of_not_occasion hP hp hs h⟩
    have hattempt := w.latch.attempt_eq
    rwa [← latch_of_occasion hs h] at hattempt
  · intro hm perform
    simp only [step, whileManaged, hm, if_true]
    refine ⟨fun signature handler => ⟨_, rfl, fun key => ?_⟩, fun viaManager => ?_, _, rfl, ?_⟩
    · rw [subscribe_handlersFor]
      simp only [lateKey?_eq_some_iff]
    · cases viaManager with
      | false =>
        exact ⟨w.bindStory.2, congrArg (fun r => some (Answer.report r, w.bindStory.2))
          (loadStory_fst _), loadStory_roster _⟩
      | true =>
        exact ⟨w.loadStory.2, congrArg (fun r => some (Answer.report r, w.loadStory.2))
          w.loadStory_fst, w.loadStory_roster⟩
    · unfold dropManager
      rw [if_pos hm]
      exact ⟨rfl, rfl⟩

/-- A bridge whose engine could not be hooked when the story was loaded. The next attempt will fail
as well. -/
def denied : World Recording :=
  ((Recording.start 8 {}).afterSteps? 1
    [.define "Hit" 1 ⟨.event, ⟨7⟩, none⟩, .subscribe ⟨"Hit", 1, .before⟩ ⟨0⟩, .failNextInstall,
      .loadStory true, .failNextInstall]).get (by decide +kernel)

/-- It is asked to subscribe, to hook the engine, and to fail once more. -/
def mended : World Recording :=
  (denied.afterSteps? 1
    [.subscribe ⟨"Hit", 1, .before⟩ ⟨0⟩, .hook, .failNextInstall]).get (by decide +kernel)

/-- The subscription makes the attempt that fails, and is routed nevertheless. The next attempt
succeeds, so the failure that is armed last stays armed; dropping the manager clears the sink. -/
theorem denied_hooks_later :
    (∃ v, step (stepWithin 1) (.subscribe ⟨"Hit", 1, .before⟩ ⟨0⟩) denied = some (.count 1, v) ∧
      v.attempts = [false, false] ∧ v.manager.hooked = false ∧
      v.manager.roster.handlersFor (.function ⟨7⟩ false) = [0, 1]) ∧
    (∀ level v, MomentFrom unhooking denied level v → v.attempts = [false]) ∧
    mended.installer = ⟨1, 1, true, true⟩ ∧
    (∀ level v, MomentFrom anyStep mended level v →
      v.attempts = [false, false, true] ∧ v.installer.failNext = true) ∧
    ∃ v, step (stepWithin 1) .drop mended = some (.done, v) ∧
      v.installer = ⟨1, 2, true, false⟩ := by
  have hdenied : Moment anyStep 0 denied := Moment.get _
  have hmended : Moment anyStep 0 mended := hdenied.afterSteps? (Option.some_get _).symm
  refine ⟨?_, ?_, ?_, ?_, ?_⟩
  · obtain ⟨-, -, -, -, hsteps, -, hmanaged⟩ := hooked_once hdenied
    obtain ⟨v, hv, hroutes⟩ :=
      (hmanaged (by decide +kernel) (stepWithin 1)).1 ⟨"Hit", 1, .before⟩ ⟨0⟩
    obtain ⟨hattempts, hhooked, -⟩ :=
      (hsteps _ _ _ _ hv).1 (show _ ∧ _ from ⟨by decide +kernel, by decide +kernel⟩)
    refine ⟨v, hv, hattempts.trans (by decide +kernel), hhooked.trans (by decide +kernel), ?_⟩
    exact (hroutes _).trans (by decide +kernel)
  · intro level v hv
    obtain ⟨-, -, -, -, -, hidle, -⟩ := hooked_once hdenied
    exact (hidle level v hv).attempts_eq.trans (by decide +kernel)
  · obtain ⟨hmanaged, -⟩ := hooked_once hmended
    exact (hmanaged (by decide +kernel)).1.trans (by decide +kernel)
  · intro level v hv
    obtain ⟨-, -, -, hclosed, -⟩ := hooked_once hmended
    obtain ⟨-, hattempts, -, hfail⟩ := hclosed level v hv (by decide +kernel)
    exact ⟨hattempts.trans (by decide +kernel), hfail (by decide +kernel)⟩
  · obtain ⟨-, -, -, -, -, -, hmanaged⟩ := hooked_once hmended
    obtain ⟨v, hv, -, hinstaller⟩ := (hmanaged (by decide +kernel) (stepWithin 1)).2.2
    exact ⟨v, hv, hinstaller.trans (by decide +kernel)⟩

end World

end StoryHooks
