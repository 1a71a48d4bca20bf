import Mathlib.Data.List.Induction
import Mathlib.Data.Nat.Digits.Defs
import StoryHooks.Settings.Basic

/-!
# Settings under an environment

Two variables of the environment override settings. That of the filter is taken as it is, unless it
is empty. That of the stack slots has to spell a positive number; any other text is reported and
changes nothing. So an override can mend settings, and cannot spoil them.

Results:
1. `positiveCount?_eq_some_iff`: which texts are taken for which number of slots.
2. `override_of_spells`, `override_of_misspelt`, `override_of_unset`: the settings under an
   environment.
3. `Valid.override`: valid settings stay valid.
4. `override_override`: the same environment changes nothing a second time.
5. `override_laws`: all of these together.
-/

namespace StoryHooks

/-! ## Texts that spell a number -/

/-- The number that decimal digits denote, the last of them being the units. -/
def denoted (digits : List Char) : Nat :=
  Nat.ofDigits 10 (digits.reverse.map fun c => c.toNat - '0'.toNat)

theorem denoted_concat (digits : List Char) (c : Char) :
    denoted (digits ++ [c]) = 10 * denoted digits + (c.toNat - '0'.toNat) := by
  rw [denoted, List.reverse_append, List.reverse_singleton, List.singleton_append, List.map_cons,
    Nat.ofDigits_cons, Nat.add_comm]
  rfl

theorem foldl_eq_denoted (digits : List Char) :
    digits.foldl (fun n c => 10 * n + (c.toNat - '0'.toNat)) 0 = denoted digits := by
  induction digits using List.reverseRecOn with
  | nil => rfl
  | append_singleton digits c ih =>
    rw [List.foldl_append, List.foldl_cons, List.foldl_nil, ih, denoted_concat]

/-- The digits denote a positive number of 64 bits. Zeros may lead. -/
structure DenotesCount (digits : List Char) (n : Nat) : Prop where
  ne_nil : digits ≠ []
  isDigit : ∀ c ∈ digits, c.isDigit = true
  denoted_eq : denoted digits = n
  pos : 0 < n
  lt : n < 2 ^ 64

/-- The text is decimal digits that denote a positive number of 64 bits, after a plus sign or
nothing. -/
def SpellsCount (text : String) (n : Nat) : Prop :=
  ∃ digits, (text.toList = digits ∨ text.toList = '+' :: digits) ∧ DenotesCount digits n

theorem SpellsCount.pos {text : String} {n : Nat} (h : SpellsCount text n) : 0 < n := by
  obtain ⟨_, _, hdigits⟩ := h
  exact hdigits.pos

theorem countOfDigits?_eq_some_iff {digits : List Char} {n : Nat} :
    countOfDigits? digits = some n ↔
      digits ≠ [] ∧ (∀ c ∈ digits, c.isDigit = true) ∧ denoted digits = n ∧ n ≤ maxCount := by
  rw [countOfDigits?, foldl_eq_denoted]
  split
  · next hbad =>
    refine iff_of_false nofun ?_
    rintro ⟨hnil, hdigits, -⟩
    simp only [Bool.or_eq_true, List.isEmpty_iff, List.any_eq_true, Bool.not_eq_true'] at hbad
    rcases hbad with rfl | ⟨c, hc, hnot⟩
    · exact hnil rfl
    · exact Bool.false_ne_true (hnot.symm.trans (hdigits c hc))
  · next hgood =>
    simp only [Bool.or_eq_true, List.isEmpty_iff, List.any_eq_true, Bool.not_eq_true', not_or,
      not_exists, not_and, Bool.not_eq_false] at hgood
    simp only [Option.ite_none_right_eq_some, Option.some.injEq]
    constructor
    · rintro ⟨hle, rfl⟩
      exact ⟨hgood.1, hgood.2, rfl, hle⟩
    · rintro ⟨-, -, rfl, hle⟩
      exact ⟨hle, rfl⟩

/-- No digit is a plus sign, so what is read is the digits of the text. -/
theorem count?_eq_some_iff {text : String} {n : Nat} :
    count? text = some n ↔
      ∃ digits, (text.toList = digits ∨ text.toList = '+' :: digits) ∧
        countOfDigits? digits = some n := by
  unfold count?
  split
  · next digits hplus =>
    refine ⟨fun h => ⟨digits, .inr hplus, h⟩, ?_⟩
    rintro ⟨digits', heq | heq, h⟩
    · have hdigit := (countOfDigits?_eq_some_iff.mp h).2.1 '+' (by simp [← heq, hplus])
      exact absurd hdigit (by decide)
    · rw [hplus] at heq
      rwa [(List.cons.inj heq).2]
  · next hplain =>
    refine ⟨fun h => ⟨_, .inl rfl, h⟩, ?_⟩
    rintro ⟨digits', heq | heq, h⟩
    · rwa [heq]
    · exact absurd heq (hplain digits')

theorem positiveCount?_eq_some_iff {text : String} {n : Nat} :
    positiveCount? text = some n ↔ SpellsCount text n := by
  rw [positiveCount?, Option.filter_eq_some_iff, count?_eq_some_iff, decide_eq_true_eq]
  constructor
  · rintro ⟨⟨digits, htext, h⟩, hpos⟩
    obtain ⟨hnil, hdigits, hdenoted, hle⟩ := countOfDigits?_eq_some_iff.mp h
    exact ⟨digits, htext, hnil, hdigits, hdenoted, hpos, Nat.lt_of_le_pred (by decide) hle⟩
  · rintro ⟨digits, htext, h⟩
    refine ⟨⟨digits, htext, countOfDigits?_eq_some_iff.mpr ?_⟩, h.pos⟩
    exact ⟨h.ne_nil, h.isDigit, h.denoted_eq, Nat.le_pred_of_lt h.lt⟩

theorem positiveCount?_eq_none_iff {text : String} :
    positiveCount? text = none ↔ ∀ n, ¬ SpellsCount text n := by
  rw [Option.eq_none_iff_forall_ne_some]
  exact forall_congr' fun _ => not_congr positiveCount?_eq_some_iff

/-! ## Overrides -/

namespace Settings

/-- Nothing is wrong with the settings. -/
structure Valid (s : Settings) : Prop where
  slots_pos : 0 < s.maxStackSlots
  suffix_ne : s.querySuffix ≠ ""

theorem fault?_eq_none_iff {s : Settings} : s.fault? = none ↔ s.Valid := by
  unfold fault?
  constructor
  · intro h
    split at h
    · cases h
    next hslots =>
    split at h
    · cases h
    next hsuffix => exact ⟨Nat.pos_of_ne_zero hslots, by simpa using hsuffix⟩
  · rintro ⟨hslots, hsuffix⟩
    rw [if_neg hslots.ne', if_neg (by simpa using hsuffix)]

theorem defaults_valid : ({} : Settings).Valid := ⟨by decide, by decide⟩

section Override
variable {s : Settings} {env : Environment} {setting : Option String} {text filter : String}
  {n : Nat}

/-- The filter is all that its variable changes. -/
theorem overrideFilter_eq (s : Settings) (setting : Option String) :
    s.overrideFilter setting = { s with logFilter := (s.overrideFilter setting).logFilter } := by
  unfold overrideFilter
  split
  · split <;> rfl
  · rfl

theorem overrideFilter_of_set (hne : filter ≠ "") :
    s.overrideFilter (some filter) = { s with logFilter := filter } := by
  have hfull : ¬ filter.isEmpty = true := by simpa using hne
  rw [overrideFilter, if_neg hfull]

theorem overrideFilter_of_unset (h : ∀ filter, setting = some filter → filter = "") :
    s.overrideFilter setting = s := by
  cases setting with
  | none => rfl
  | some filter =>
    obtain rfl := h filter rfl
    rfl

/-- A variable either sets a filter or leaves the settings alone. -/
theorem filter_set_or_unset (setting : Option String) :
    (∃ filter, setting = some filter ∧ filter ≠ "") ∨
      ∀ filter, setting = some filter → filter = "" := by
  by_cases h : ∃ filter, setting = some filter ∧ filter ≠ ""
  · exact .inl h
  · refine .inr fun filter hset => ?_
    by_contra hne
    exact h ⟨filter, hset, hne⟩

theorem overrideFilter_overrideFilter (s : Settings) (setting : Option String) :
    (s.overrideFilter setting).overrideFilter setting = s.overrideFilter setting := by
  rcases filter_set_or_unset setting with ⟨filter, rfl, hne⟩ | hunset
  · rw [overrideFilter_of_set hne, overrideFilter_of_set hne]
  · rw [overrideFilter_of_unset hunset, overrideFilter_of_unset hunset]

/-- The slots make no difference to the filter. -/
theorem overrideFilter_withSlots (s : Settings) (n : Nat) (setting : Option String) :
    ({ s with maxStackSlots := n } : Settings).overrideFilter setting =
      { s.overrideFilter setting with maxStackSlots := n } := by
  rcases filter_set_or_unset setting with ⟨filter, rfl, hne⟩ | hunset
  · rw [overrideFilter_of_set hne, overrideFilter_of_set hne]
  · rw [overrideFilter_of_unset hunset, overrideFilter_of_unset hunset]

theorem override_of_spells (henv : env.stackSlots = some text) (h : SpellsCount text n) :
    s.override env = ({ s.overrideFilter env.logFilter with maxStackSlots := n }, []) := by
  simp only [override, overrideSlots, henv, positiveCount?_eq_some_iff.mpr h]

/-- A text that spells no number of slots is reported. -/
theorem override_of_misspelt (henv : env.stackSlots = some text)
    (h : ∀ n, ¬ SpellsCount text n) :
    s.override env = (s.overrideFilter env.logFilter,
      [.slotsIgnored Environment.stackSlotsName text]) := by
  simp only [override, overrideSlots, henv, positiveCount?_eq_none_iff.mpr h]

theorem override_of_unset (henv : env.stackSlots = none) :
    s.override env = (s.overrideFilter env.logFilter, []) := by
  simp only [override, overrideSlots, henv]

/-- The variable for the slots spells a number of them, or another text, or is not set. -/
theorem slots_spelt_or_not (env : Environment) :
    (∃ text n, env.stackSlots = some text ∧ SpellsCount text n) ∨
    (∃ text, env.stackSlots = some text ∧ ∀ n, ¬ SpellsCount text n) ∨
    env.stackSlots = none := by
  cases henv : env.stackSlots with
  | none => exact .inr (.inr rfl)
  | some text =>
    by_cases h : ∃ n, SpellsCount text n
    · obtain ⟨n, hn⟩ := h
      exact .inl ⟨text, n, rfl, hn⟩
    · exact .inr (.inl ⟨text, rfl, not_exists.mp h⟩)

theorem override_of_not_spells
    (h : ∀ text, env.stackSlots = some text → ∀ n, ¬ SpellsCount text n) :
    (s.override env).1 = s.overrideFilter env.logFilter := by
  rcases slots_spelt_or_not env with ⟨text, n, henv, hn⟩ | ⟨text, henv, hn⟩ | henv
  · exact absurd hn (h text henv n)
  · rw [override_of_misspelt henv hn]
  · rw [override_of_unset henv]

/-- The filter and the slots are all that an environment changes. -/
theorem override_eq (s : Settings) (env : Environment) :
    (s.override env).1 =
      { s with
        logFilter := (s.overrideFilter env.logFilter).logFilter
        maxStackSlots := (s.override env).1.maxStackSlots } := by
  rcases slots_spelt_or_not env with ⟨text, n, henv, hn⟩ | ⟨text, henv, hn⟩ | henv
  · rw [override_of_spells henv hn, overrideFilter_eq]
  · rw [override_of_misspelt henv hn, overrideFilter_eq]
  · rw [override_of_unset henv, overrideFilter_eq]

/-- Valid settings stay valid. -/
theorem Valid.override (hs : s.Valid) (env : Environment) : (s.override env).1.Valid := by
  by_cases h : ∃ text n, env.stackSlots = some text ∧ SpellsCount text n
  · obtain ⟨text, n, henv, hn⟩ := h
    rw [override_of_spells henv hn, overrideFilter_eq]
    exact ⟨hn.pos, hs.suffix_ne⟩
  · rw [override_of_not_spells fun text henv n hn => h ⟨text, n, henv, hn⟩, overrideFilter_eq]
    exact ⟨hs.slots_pos, hs.suffix_ne⟩

/-- The same environment changes nothing a second time, and has the same reports. -/
theorem override_override (s : Settings) (env : Environment) :
    (s.override env).1.override env = s.override env := by
  rcases slots_spelt_or_not env with ⟨text, n, henv, hn⟩ | ⟨text, henv, hn⟩ | henv
  · rw [override_of_spells henv hn, override_of_spells henv hn, overrideFilter_withSlots,
      overrideFilter_overrideFilter]
  · rw [override_of_misspelt henv hn, override_of_misspelt henv hn, overrideFilter_overrideFilter]
  · rw [override_of_unset henv, override_of_unset henv, overrideFilter_overrideFilter]

end Override

theorem validate_eq_ok_iff {s s' : Settings} : s.validate = .ok s' ↔ s' = s ∧ s.Valid := by
  rw [← fault?_eq_none_iff, validate]
  cases s.fault? <;> simp [eq_comm]

/-- Whatever the settings are, and whatever the two variables are set to, if they are set to a text
at all:

* a text that spells a positive number of 64 bits is the number of slots, and is not reported;
* any other text leaves the slots as they are, and one warning is all that is reported;
* the filter is that of its variable, if that is set and not empty, and otherwise stays;
* nothing else changes;
* settings that pass validation still pass it;
* the same environment once more comes to the same settings, with the same reports. -/
theorem override_laws (s : Settings) (env : Environment) :
    let after := (s.override env).1
    let events := (s.override env).2
    (∀ text n, env.stackSlots = some text → SpellsCount text n →
      after.maxStackSlots = n ∧ events = []) ∧
    (∀ text, env.stackSlots = some text → (∀ n, ¬ SpellsCount text n) →
      after.maxStackSlots = s.maxStackSlots ∧
        events = [.slotsIgnored Environment.stackSlotsName text] ∧
        events.map Event.level = [.warn]) ∧
    (env.stackSlots = none → after.maxStackSlots = s.maxStackSlots ∧ events = []) ∧
    (∀ filter, env.logFilter = some filter → filter ≠ "" → after.logFilter = filter) ∧
    ((∀ filter, env.logFilter = some filter → filter = "") → after.logFilter = s.logFilter) ∧
    after.poolLevels = s.poolLevels ∧ after.querySuffix = s.querySuffix ∧ after.ansi = s.ansi ∧
    (s.validate = .ok s → after.validate = .ok after) ∧
    after.override env = s.override env := by
  intro after events
  have hafter : after =
      { s with
        logFilter := (s.overrideFilter env.logFilter).logFilter
        maxStackSlots := after.maxStackSlots } := s.override_eq env
  have hkept : (s.overrideFilter env.logFilter).maxStackSlots = s.maxStackSlots := by
    rw [overrideFilter_eq]
  refine ⟨?_, ?_, ?_, ?_, ?_, ?_, ?_, ?_, ?_, s.override_override env⟩
  · intro text n henv hn
    have hset : s.override env = _ := override_of_spells henv hn
    exact ⟨congrArg (fun done => done.1.maxStackSlots) hset, congrArg Prod.snd hset⟩
  · intro text henv hn
    have hset : s.override env = _ := override_of_misspelt henv hn
    have hevents : events = [.slotsIgnored Environment.stackSlotsName text] :=
      congrArg Prod.snd hset
    refine ⟨?_, hevents, congrArg (List.map Event.level) hevents⟩
    exact (congrArg (fun done => done.1.maxStackSlots) hset).trans hkept
  · intro henv
    have hset : s.override env = _ := override_of_unset henv
    exact ⟨(congrArg (fun done => done.1.maxStackSlots) hset).trans hkept,
      congrArg Prod.snd hset⟩
  · intro filter hset hne
    rw [hafter, hset, overrideFilter_of_set hne]
  · intro hunset
    rw [hafter, overrideFilter_of_unset hunset]
  · rw [hafter]
  · rw [hafter]
  · rw [hafter]
  · intro hvalid
    exact validate_eq_ok_iff.mpr ⟨rfl, (validate_eq_ok_iff.mp hvalid).2.override env⟩

/-- The largest number that can be held is taken behind a plus sign and zeros. The next number is
not, and neither is a sign with nothing behind it or a digit that is not of ASCII; an empty filter
does not count. -/
theorem largest_count_taken :
    (∃ after, ({} : Settings).override ⟨some "trace", some "+00018446744073709551615"⟩ =
      (after, []) ∧ after.maxStackSlots = 18446744073709551615 ∧ after.logFilter = "trace" ∧
        after.validate = .ok after) ∧
    ∀ text ∈ ["18446744073709551616", "+", "", "-1", "000", " 7", "٣"],
      (({} : Settings).override ⟨some "", some text⟩).1.maxStackSlots = 1000000 ∧
        (({} : Settings).override ⟨some "", some text⟩).2.map Event.level = [.warn] ∧
        (({} : Settings).override ⟨some "", some text⟩).1.logFilter = "info" := by
  constructor
  · obtain ⟨hspelt, -, -, hset, -, -, -, -, hvalid, -⟩ :=
      override_laws {} ⟨some "trace", some "+00018446744073709551615"⟩
    have hn : SpellsCount "+00018446744073709551615" 18446744073709551615 :=
      positiveCount?_eq_some_iff.mp (by decide +kernel)
    obtain ⟨hslots, hevents⟩ := hspelt _ _ rfl hn
    exact ⟨_, Prod.ext rfl hevents, hslots, hset "trace" rfl (by decide), hvalid rfl⟩
  · intro text htext
    obtain ⟨-, hmisspelt, -, -, hunset, -⟩ := override_laws {} ⟨some "", some text⟩
    have hnone : ∀ text ∈ ["18446744073709551616", "+", "", "-1", "000", " 7", "٣"],
        positiveCount? text = none := by decide +kernel
    obtain ⟨hslots, -, hlevels⟩ :=
      hmisspelt text rfl (positiveCount?_eq_none_iff.mp (hnone text htext))
    exact ⟨hslots, hlevels, hunset fun _ h => (Option.some.inj h).symm⟩

end Settings

end StoryHooks
