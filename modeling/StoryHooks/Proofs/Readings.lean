import StoryHooks.Proofs.Whole

/-!
# Native readings of a Lua value

A Lua value can be read as native values of several types: an integer as an integer or as a real, a
string as a string or as a GUID string. To ask for a type is to pick the reading of that type; to
infer one is to pick the closest. So both accept the same values.

Results:
1. `toValue_eq_ok_iff`: what is asked for is a reading of its type.
2. `reads_of_infer`, `exists_infer_of_reads`: what is inferred is a reading, if there is any.
3. `toLua_of_infer`: of a value that is not a float, the inferred reading says everything.
4. `inferred_as_requested`: both conversions held against each other, for all values.
-/

namespace StoryHooks.LuaValue

/-- The native values that a Lua value can be read as. -/
inductive Reads : LuaValue → Value → Prop
  | nil : Reads .nil .none
  | integer {n : Int64} {i : Int32} : i.toInt = n.toInt → Reads (.integer n) (.integer i)
  | integer64 (n : Int64) : Reads (.integer n) (.integer64 n)
  | integerAsReal (n : Int64) : Reads (.integer n) (.real (.ofInt n.toInt))
  | numberAsInteger {x : Number.Double} {i : Int32} :
      x.datum.value? = some (i.toInt : ℚ) → Reads (.number x) (.integer i)
  | numberAsInteger64 {x : Number.Double} {i : Int64} :
      x.datum.value? = some (i.toInt : ℚ) → Reads (.number x) (.integer64 i)
  | real (x : Number.Double) : Reads (.number x) (.real x.toSingle)
  | string (s : String) : Reads (.ofText s) (.string s)
  | guidString (s : String) : Reads (.ofText s) (.guidString s)

/-- Bytes are decoded as the text that they spell, if there is one. -/
theorem decode_eq_ok_iff {bytes : List UInt8} {s : String} :
    decode bytes = .ok s ↔ LuaValue.string bytes = .ofText s := by
  rw [decode, ofText, LuaValue.string.injEq, eq_comm (a := bytes), ← Text.Utf8.decode_eq_ok_iff]
  cases Text.Utf8.decode bytes <;> simp

theorem map_decode_eq_ok_iff {bytes : List UInt8} {wrap : String → Value} {v : Value} :
    (decode bytes).map wrap = .ok v ↔ ∃ s, LuaValue.string bytes = .ofText s ∧ v = wrap s := by
  simp only [← decode_eq_ok_iff]
  cases decode bytes with
  | error e => exact ⟨nofun, nofun⟩
  | ok s => simp [Except.map, eq_comm]

/-- What is asked for is the reading of its type. -/
theorem toValue_eq_ok_iff {type : ValueType} {v : LuaValue} {o : Value} :
    v.toValue type = .ok o ↔ v.Reads o ∧ o.type = type := by
  constructor
  · intro h
    cases type with
    | none =>
      cases v with
      | nil => cases h; exact ⟨.nil, rfl⟩
      | _ => cases h
    | integer =>
      cases v with
      | integer n =>
        obtain ⟨i, hi, rfl⟩ := toValue_integer_integer.mp h
        exact ⟨.integer hi, rfl⟩
      | number x =>
        obtain ⟨i, hi, rfl⟩ := toValue_integer_number.mp h
        exact ⟨.numberAsInteger hi, rfl⟩
      | _ => cases h
    | integer64 =>
      cases v with
      | integer n => cases h; exact ⟨.integer64 n, rfl⟩
      | number x =>
        obtain ⟨i, hi, rfl⟩ := toValue_integer64_number.mp h
        exact ⟨.numberAsInteger64 hi, rfl⟩
      | _ => cases h
    | real =>
      cases v with
      | integer n => cases h; exact ⟨.integerAsReal n, rfl⟩
      | number x => cases h; exact ⟨.real x, rfl⟩
      | _ => cases h
    | string =>
      cases v with
      | string bytes =>
        obtain ⟨s, hs, rfl⟩ := map_decode_eq_ok_iff.mp h
        rw [hs]
        exact ⟨.string s, rfl⟩
      | _ => cases h
    | guidString =>
      cases v with
      | string bytes =>
        obtain ⟨s, hs, rfl⟩ := map_decode_eq_ok_iff.mp h
        rw [hs]
        exact ⟨.guidString s, rfl⟩
      | _ => cases h
  · rintro ⟨hreads, rfl⟩
    cases hreads with
    | nil | integer64 | integerAsReal | real => rfl
    | integer hi => exact toValue_integer_integer.mpr ⟨_, hi, rfl⟩
    | numberAsInteger hi => exact toValue_integer_number.mpr ⟨_, hi, rfl⟩
    | numberAsInteger64 hi => exact toValue_integer64_number.mpr ⟨_, hi, rfl⟩
    | string s | guidString s => exact map_decode_eq_ok_iff.mpr ⟨s, rfl, rfl⟩

theorem reads_of_infer {v : LuaValue} {o : Value} (h : v.infer = .ok o) : v.Reads o := by
  cases v with
  | nil => cases h; exact .nil
  | integer n =>
    simp only [infer] at h
    split at h
    · next i hi => cases h; exact .integer (int32?_eq_some_iff.mp hi)
    · cases h; exact .integer64 n
  | number x => cases h; exact .real x
  | string bytes =>
    obtain ⟨s, hs, rfl⟩ := map_decode_eq_ok_iff.mp h
    rw [hs]
    exact .string s
  | boolean | table | function | thread | userdata | lightUserdata => cases h

/-- Where there is a reading, one is inferred. -/
theorem exists_infer_of_reads {v : LuaValue} {o : Value} (h : v.Reads o) :
    ∃ o', v.infer = .ok o' := by
  cases h with
  | nil => exact ⟨_, rfl⟩
  | integer | integer64 | integerAsReal =>
    simp only [infer]
    split <;> exact ⟨_, rfl⟩
  | numberAsInteger | numberAsInteger64 | real => exact ⟨_, rfl⟩
  | string s | guidString s => exact ⟨_, map_decode_eq_ok_iff.mpr ⟨s, rfl, rfl⟩⟩

theorem exists_infer_iff {v : LuaValue} :
    (∃ o, v.infer = .ok o) ↔ ∃ type o, v.toValue type = .ok o := by
  constructor
  · rintro ⟨o, ho⟩
    exact ⟨o.type, o, toValue_eq_ok_iff.mpr ⟨reads_of_infer ho, rfl⟩⟩
  · rintro ⟨type, o, ho⟩
    exact exists_infer_of_reads (toValue_eq_ok_iff.mp ho).1

/-- Of a value that is not a float, the inferred reading says everything. -/
theorem toLua_of_infer {v : LuaValue} {o : Value} (h : v.infer = .ok o)
    (hv : ∀ x, v ≠ .number x) : o.toLua = v := by
  cases v with
  | nil => cases h; rfl
  | integer n =>
    simp only [infer] at h
    split at h
    · next i hi =>
      cases h
      have hsame : i.toInt64 = n := by
        rw [← Int64.toInt_inj, Int32.toInt_toInt64]
        exact int32?_eq_some_iff.mp hi
      exact congrArg LuaValue.integer hsame
    · cases h; rfl
  | number x => exact absurd rfl (hv x)
  | string bytes =>
    obtain ⟨s, hs, rfl⟩ := map_decode_eq_ok_iff.mp h
    exact hs.symm
  | boolean | table | function | thread | userdata | lightUserdata => cases h

/-- Any Lua value, of any kind:

* what it is read as where a type is asked for is of that type;
* what it is read as where the type is inferred, it is read as where that type is asked for;
* no type is inferred exactly if it cannot be read as any type that is asked for;
* unless it is a float, what is inferred becomes the same Lua value again. -/
theorem inferred_as_requested (v : LuaValue) :
    (∀ type o, v.toValue type = .ok o → o.type = type) ∧
    (∀ o, v.infer = .ok o → v.toValue o.type = .ok o) ∧
    ((∃ e, v.infer = .error e) ↔ ∀ type, ∃ e, v.toValue type = .error e) ∧
    (∀ o, v.infer = .ok o → (∀ x, v ≠ .number x) → o.toLua = v) := by
  refine ⟨fun _ _ h => (toValue_eq_ok_iff.mp h).2,
    fun o h => toValue_eq_ok_iff.mpr ⟨reads_of_infer h, rfl⟩, ?_, fun _ => toLua_of_infer⟩
  have hfails {result : Except ConversionError Value} :
      (∃ e, result = .error e) ↔ ¬ ∃ o, result = .ok o := by
    cases result <;> simp
  simp only [hfails]
  rw [exists_infer_iff, not_exists]

end StoryHooks.LuaValue
