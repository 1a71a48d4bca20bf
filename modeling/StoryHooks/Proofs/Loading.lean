import StoryHooks.Bridge.Lua
import StoryHooks.Proofs.Overrides

/-!
# Loading settings

Settings are read from a text, or from a file and then overridden, or, where there is no file, taken
from the defaults and overridden. On all of these ways they are validated last, so the bridge is
never put together from settings that are not valid.

Results:
1. `ofText_eq_ok_iff`, `load_cases`: which settings come out of a text, and what a file comes to.
2. `loadOrDefault_absent`, `loadOrDefault_of_ne_absent`: the defaults stand for a missing file only.
3. `load_of_unset`: under an empty environment a file is as good as its text.
4. `load_mends_slots`: what the environment can mend.
5. `loading_laws`: all of these together.
-/

namespace StoryHooks.Settings

variable {path text : String} {state : FileState} {env : Environment} {s s' : Settings}

theorem checked_of_valid (h : s.Valid) : s.checked = .ok s := by
  rw [checked, validate, fault?_eq_none_iff.mpr h]

theorem checked_eq_ok_iff : s.checked = .ok s' ↔ s' = s ∧ s.Valid := by
  constructor
  · intro h
    cases hfault : s.fault? with
    | none =>
      have hvalid := fault?_eq_none_iff.mp hfault
      rw [checked_of_valid hvalid] at h
      cases h
      exact ⟨rfl, hvalid⟩
    | some fault =>
      rw [checked, validate, hfault] at h
      cases h
  · rintro ⟨rfl, h⟩
    exact checked_of_valid h

theorem ofText_eq_ok_iff : ofText text = .ok s ↔ ofDocument? text = some s ∧ s.Valid := by
  unfold ofText
  split
  · next hnone => simp [hnone]
  · next s' hsome =>
    rw [checked_eq_ok_iff, hsome, Option.some.injEq]
    constructor
    · rintro ⟨rfl, h⟩
      exact ⟨rfl, h⟩
    · rintro ⟨rfl, h⟩
      exact ⟨rfl, h⟩

/-- Validating comes to no other error than a fault. -/
theorem checked_ne_notFound (s : Settings) (missing : String) :
    s.checked ≠ .error (.notFound missing) := by
  unfold checked
  split <;> nofun

/-! ## A file -/

theorem readFile_text (path text : String) :
    readFile path (.file (Text.Utf8.encode text)) = .ok text := by
  rw [readFile, Text.Utf8.decode_encode]

theorem readFile_ne_notFound (h : state ≠ .absent) (missing : String) :
    readFile path state ≠ .error (.notFound missing) := by
  unfold readFile
  split
  · exact absurd rfl h
  · nofun
  · split <;> nofun

theorem load_of_unread {e : LoadError} (hread : readFile path state = .error e) :
    load path state env = (.error e, []) := by
  simp only [load, hread]

theorem load_of_malformed (hread : readFile path state = .ok text)
    (hdocument : ofDocument? text = none) : load path state env = (.error .malformed, []) := by
  simp only [load, hread, hdocument]

theorem load_of_document (hread : readFile path state = .ok text)
    (hdocument : ofDocument? text = some s) :
    (load path state env).1 = (s.override env).1.checked := by
  simp only [load, hread, hdocument]
  cases (s.override env).1.checked <;> rfl

/-- A file is not read, or its text is no document of settings, or the settings of the document are
overridden and validated. -/
theorem load_cases (path : String) (state : FileState) (env : Environment) :
    (∃ e, readFile path state = .error e ∧ load path state env = (.error e, [])) ∨
    load path state env = (.error .malformed, []) ∨
    ∃ s : Settings, (load path state env).1 = (s.override env).1.checked := by
  cases hread : readFile path state with
  | error e => exact .inl ⟨e, rfl, load_of_unread hread⟩
  | ok text =>
    cases hdocument : ofDocument? text with
    | none => exact .inr (.inl (load_of_malformed hread hdocument))
    | some s => exact .inr (.inr ⟨s, load_of_document hread hdocument⟩)

theorem valid_of_load (h : (load path state env).1 = .ok s) : s.Valid := by
  rcases load_cases path state env with ⟨e, -, hload⟩ | hload | ⟨s₀, hload⟩
  · rw [hload] at h
    cases h
  · rw [hload] at h
    cases h
  · obtain ⟨rfl, hvalid⟩ := checked_eq_ok_iff.mp (hload.symm.trans h)
    exact hvalid

theorem load_ne_notFound (h : state ≠ .absent) (missing : String) :
    (load path state env).1 ≠ .error (.notFound missing) := by
  rcases load_cases path state env with ⟨e, hread, hload⟩ | hload | ⟨s, hload⟩
  · rw [hload]
    intro he
    cases he
    exact readFile_ne_notFound h missing hread
  · rw [hload]
    nofun
  · rw [hload]
    exact checked_ne_notFound _ missing

/-- Under an empty environment a file is as good as its text. -/
theorem load_of_unset (path text : String) :
    (load path (.file (Text.Utf8.encode text)) ⟨none, none⟩).1 = ofText text := by
  have hread := readFile_text path text
  unfold ofText
  split
  · next hdocument => rw [load_of_malformed hread hdocument]
  · next s hdocument => rw [load_of_document hread hdocument]; rfl

/-- Where the slots are all that is wrong with a file, the environment mends it by spelling a
positive number. -/
theorem load_mends_slots (hdocument : ofDocument? text = some s) (hslots : s.maxStackSlots = 0)
    (hsuffix : s.querySuffix ≠ "") (path : String) (env : Environment) :
    (load path (.file (Text.Utf8.encode text)) env).1 = .ok s' ↔
      ∃ setting n, env.stackSlots = some setting ∧ SpellsCount setting n ∧
        s' = { s.overrideFilter env.logFilter with maxStackSlots := n } := by
  rw [load_of_document (readFile_text path text) hdocument, checked_eq_ok_iff]
  constructor
  · rintro ⟨rfl, hvalid⟩
    by_contra hnone
    have hnot : ∀ setting, env.stackSlots = some setting → ∀ n, ¬ SpellsCount setting n := by
      intro setting henv n hn
      exact hnone ⟨setting, n, henv, hn, congrArg Prod.fst (override_of_spells henv hn)⟩
    rw [override_of_not_spells hnot, overrideFilter_eq] at hvalid
    exact hvalid.slots_pos.ne' hslots
  · rintro ⟨setting, n, henv, hn, rfl⟩
    rw [override_of_spells henv hn, overrideFilter_eq]
    exact ⟨rfl, hn.pos, hsuffix⟩

/-! ## A file or the defaults -/

/-- The defaults stand for a missing file. -/
theorem loadOrDefault_absent (path : String) (env : Environment) :
    loadOrDefault path .absent env =
      (.ok (({} : Settings).override env).1,
        .settingsMissing path :: (({} : Settings).override env).2) := by
  have hload : load path .absent env = (.error (.notFound path), []) := load_of_unread rfl
  simp only [loadOrDefault, hload, loadDefaults, checked_of_valid (defaults_valid.override env)]

/-- They stand for nothing else. -/
theorem loadOrDefault_of_ne_absent (h : state ≠ .absent) :
    loadOrDefault path state env = load path state env := by
  unfold loadOrDefault
  split
  · next hload => exact absurd (congrArg Prod.fst hload) (load_ne_notFound h _)
  · rfl

theorem valid_of_loadOrDefault (h : (loadOrDefault path state env).1 = .ok s) : s.Valid := by
  by_cases hstate : state = .absent
  · rw [hstate, loadOrDefault_absent] at h
    cases h
    exact defaults_valid.override env
  · rw [loadOrDefault_of_ne_absent hstate] at h
    exact valid_of_load h

/-- A bridge has the settings that were loaded for it, and they are valid. -/
theorem valid_of_startFromFile {w : World LuaState}
    (h : LuaState.startFromFile path state env = .ok w) :
    ∃ s events, loadOrDefault path state env = (.ok s, events) ∧ w = LuaState.start s events ∧
      s.Valid := by
  unfold LuaState.startFromFile at h
  split at h
  · cases h
  · next s events hload =>
    cases h
    exact ⟨s, events, hload, rfl, valid_of_loadOrDefault (congrArg Prod.fst hload)⟩

/-- Whatever is at the path, and whatever the two variables are set to, if they are set to a text at
all:

* settings that come out of a text, out of a file, or out of a file or the defaults, are valid, and
  so are those that a bridge is put together from: its stack may grow, and the suffix is not empty;
* where the defaults may stand for a file, its absence is no error, but gives the defaults under the
  environment; in every other case nothing is different from loading the file;
* under an empty environment a file gives the settings of its text, or the same error;
* a text that has no stack slots, and nothing else wrong with it, is accepted exactly if the
  environment spells a positive number of them, which is then in effect. -/
theorem loading_laws :
    ((∀ text s, ofText text = .ok s → s.Valid) ∧
      (∀ path state env s, (load path state env).1 = .ok s → s.Valid) ∧
      (∀ path state env s, (loadOrDefault path state env).1 = .ok s → s.Valid) ∧
      ∀ path state env w, LuaState.startFromFile path state env = .ok w →
        (∃ s events, loadOrDefault path state env = (.ok s, events) ∧
          w = LuaState.start s events) ∧
        0 < w.machine.limit ∧ w.manager.roster.suffix ≠ "") ∧
    ((∀ path state env missing, (loadOrDefault path state env).1 ≠ .error (.notFound missing)) ∧
      (∀ path env, loadOrDefault path .absent env =
        (.ok (({} : Settings).override env).1,
          .settingsMissing path :: (({} : Settings).override env).2)) ∧
      ∀ path state env, state ≠ .absent →
        loadOrDefault path state env = load path state env) ∧
    (∀ path text,
      (load path (.file (Text.Utf8.encode text)) ⟨none, none⟩).1 = ofText text) ∧
    ∀ text s, ofDocument? text = some s → s.maxStackSlots = 0 → s.querySuffix ≠ "" →
      ∀ path env s', (load path (.file (Text.Utf8.encode text)) env).1 = .ok s' ↔
        ∃ setting n, env.stackSlots = some setting ∧ SpellsCount setting n ∧
          s' = { s.overrideFilter env.logFilter with maxStackSlots := n } := by
  refine ⟨⟨fun _ _ h => (ofText_eq_ok_iff.mp h).2, fun _ _ _ _ => valid_of_load,
    fun _ _ _ _ => valid_of_loadOrDefault, ?_⟩, ⟨?_, loadOrDefault_absent,
    fun _ _ _ => loadOrDefault_of_ne_absent⟩, load_of_unset, ?_⟩
  · intro path state env w h
    obtain ⟨s, events, hload, rfl, hvalid⟩ := valid_of_startFromFile h
    exact ⟨⟨s, events, hload, rfl⟩, hvalid.slots_pos, hvalid.suffix_ne⟩
  · intro path state env missing
    by_cases hstate : state = .absent
    · rw [hstate, loadOrDefault_absent]
      nofun
    · rw [loadOrDefault_of_ne_absent hstate]
      exact load_ne_notFound hstate missing
  · intro text s hdocument hslots hsuffix path env s'
    exact load_mends_slots hdocument hslots hsuffix path env

/-- A document that leaves the script stack no slots. -/
def slotless : String := "[dispatch]\nmax_stack_slots = 0\n"

/-- The environment gives it some, if the number has no more than 64 bits. A directory is no missing
file, while a missing one still makes a bridge whose stack may grow. -/
theorem slotless_mended :
    (load "bridge.toml" (.file (Text.Utf8.encode slotless)) ⟨none, some "+0064"⟩).1 =
        .ok { maxStackSlots := 64 } ∧
      (∀ s, (load "bridge.toml" (.file (Text.Utf8.encode slotless))
        ⟨none, some "18446744073709551616"⟩).1 ≠ .ok s) ∧
      loadOrDefault "bridge.toml" .directory ⟨none, some "64"⟩ =
        load "bridge.toml" .directory ⟨none, some "64"⟩ ∧
      ∃ w, LuaState.startFromFile "bridge.toml" .absent ⟨none, some "64"⟩ = .ok w ∧
        0 < w.machine.limit := by
  obtain ⟨⟨-, -, -, hstart⟩, ⟨-, hdefault, hother⟩, -, hmends⟩ := loading_laws
  have hdocument : ofDocument? slotless = some { maxStackSlots := 0 } := by decide +kernel
  refine ⟨?_, ?_, hother "bridge.toml" .directory ⟨none, some "64"⟩ nofun, ?_⟩
  · have h64 : SpellsCount "+0064" 64 := positiveCount?_eq_some_iff.mp (by decide +kernel)
    exact (hmends _ _ hdocument rfl (by decide) _ _ _).mpr ⟨_, _, rfl, h64, rfl⟩
  · intro s h
    obtain ⟨setting, n, henv, hn, -⟩ := (hmends _ _ hdocument rfl (by decide) _ _ _).mp h
    cases henv
    have hnone : positiveCount? "18446744073709551616" = none := by decide +kernel
    exact positiveCount?_eq_none_iff.mp hnone n hn
  · have hloaded := hdefault "bridge.toml" ⟨none, some "64"⟩
    have hmade : ∃ w, LuaState.startFromFile "bridge.toml" .absent ⟨none, some "64"⟩ = .ok w := by
      rw [LuaState.startFromFile, hloaded]
      exact ⟨_, rfl⟩
    obtain ⟨w, hw⟩ := hmade
    exact ⟨w, hw, (hstart _ _ _ w hw).2.1⟩

end StoryHooks.Settings
