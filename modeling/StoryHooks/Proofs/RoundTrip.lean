import StoryHooks.Proofs.Widening
import StoryHooks.Script.Conversion

/-!
# Values through Lua and back

Lua has fewer kinds of values than the engine: one of integers, one of reals, one of strings. A
value that passes through Lua comes back as it was where its type is asked for. Where the type is
inferred, an integer comes back as narrow as it can be and every string as a plain one.

Results:
1. `int32?_eq_some_iff`, `int64?_eq_some_iff`: which integers have 32 bits, and which have 64.
2. `toValue_toLua`, `infer_toLua`: what a value comes back as.
3. `lua_round_trip`: both, for all values.
-/

namespace StoryHooks

namespace LuaValue

theorem int32?_eq_some_iff {n : Int} {i : Int32} : int32? n = some i ↔ i.toInt = n := by
  rw [int32?, Option.ite_none_right_eq_some, Option.some.injEq]
  constructor
  · rintro ⟨⟨hlow, hhigh⟩, rfl⟩
    exact Int32.toInt_ofInt_of_le hlow (Int.lt_add_one_of_le hhigh)
  · rintro rfl
    exact ⟨⟨i.minValue_le_toInt, i.toInt_le⟩, i.ofInt_toInt⟩

theorem int64?_eq_some_iff {n : Int} {i : Int64} : int64? n = some i ↔ i.toInt = n := by
  rw [int64?, Option.ite_none_right_eq_some, Option.some.injEq]
  constructor
  · rintro ⟨⟨hlow, hhigh⟩, rfl⟩
    exact Int64.toInt_ofInt_of_le hlow (Int.lt_add_one_of_le hhigh)
  · rintro rfl
    exact ⟨⟨i.minValue_le_toInt, i.toInt_le⟩, i.ofInt_toInt⟩

theorem int32?_toInt64 (i : Int32) : int32? i.toInt64.toInt = some i :=
  int32?_eq_some_iff.mpr i.toInt_toInt64.symm

theorem int32?_eq_none_iff {n : Int} : int32? n = none ↔ ∀ i : Int32, i.toInt ≠ n := by
  rw [Option.eq_none_iff_forall_ne_some]
  exact forall_congr' fun _ => not_congr int32?_eq_some_iff

theorem decode_encode (text : String) : decode (Text.Utf8.encode text) = .ok text := by
  rw [decode, Text.Utf8.decode_encode]

end LuaValue

namespace Value

/-- The value is the same: the pattern of a real is the same, or both are NaN. -/
def Same : Value → Value → Prop
  | real x, real y => x.Same y
  | v, w => v = w

/-- What a value may come back as where its type is inferred: an integer of 64 bits as the one of 32
bits with the same number, if there is one, and a GUID string as a string. -/
def ComesBackAs : Value → Value → Prop
  | integer64 n, w =>
    (∃ i : Int32, i.toInt = n.toInt ∧ w = integer i) ∨
      (∀ i : Int32, i.toInt ≠ n.toInt) ∧ w = integer64 n
  | guidString s, w => w = string s
  | v, w => w.Same v

theorem toValue_toLua (v : Value) : ∃ w, v.toLua.toValue v.type = .ok w ∧ w.Same v := by
  cases v with
  | none => exact ⟨none, rfl, rfl⟩
  | integer n =>
    refine ⟨integer n, ?_, rfl⟩
    simp only [toLua, type, LuaValue.toValue, LuaValue.int32?_toInt64]
  | integer64 n => exact ⟨integer64 n, rfl, rfl⟩
  | real x => exact ⟨real _, rfl, Number.Double.toSingle_ofSingle x⟩
  | string s =>
    refine ⟨string s, ?_, rfl⟩
    simp only [toLua, type, LuaValue.ofText, LuaValue.toValue, LuaValue.decode_encode]
    rfl
  | guidString s =>
    refine ⟨guidString s, ?_, rfl⟩
    simp only [toLua, type, LuaValue.ofText, LuaValue.toValue, LuaValue.decode_encode]
    rfl

theorem infer_toLua (v : Value) : ∃ w, v.toLua.infer = .ok w ∧ v.ComesBackAs w := by
  cases v with
  | none => exact ⟨none, rfl, rfl⟩
  | integer n =>
    refine ⟨integer n, ?_, rfl⟩
    simp only [toLua, LuaValue.infer, LuaValue.int32?_toInt64]
  | integer64 n =>
    simp only [toLua, LuaValue.infer]
    cases hn : LuaValue.int32? n.toInt with
    | none => exact ⟨integer64 n, rfl, .inr ⟨LuaValue.int32?_eq_none_iff.mp hn, rfl⟩⟩
    | some i => exact ⟨integer i, rfl, .inl ⟨i, LuaValue.int32?_eq_some_iff.mp hn, rfl⟩⟩
  | real x => exact ⟨real _, rfl, Number.Double.toSingle_ofSingle x⟩
  | string s | guidString s =>
    refine ⟨string s, ?_, rfl⟩
    simp only [toLua, LuaValue.ofText, LuaValue.infer, LuaValue.decode_encode]
    rfl

/-- Every value passes into Lua and back:

* where its own type is asked for, it comes back as it was;
* where the type is inferred, an integer of 64 bits comes back as one of 32 bits if it is one, a
  GUID string as a string, and any other value as it was;
* a real is the same number in Lua, and rounding gives its pattern back, be it subnormal, infinite
  or a zero with a sign; only the pattern of a NaN may change;
* rounding is to the closest number, and to an even mantissa between two that are equally close. -/
theorem lua_round_trip :
    (∀ v : Value, ∃ w, v.toLua.toValue v.type = .ok w ∧ w.Same v) ∧
    (∀ v : Value, ∃ w, v.toLua.infer = .ok w ∧ v.ComesBackAs w) ∧
    (∀ x : Number.Single, (real x).toLua = .number (.ofSingle x) ∧
      (Number.Double.ofSingle x).datum.SameNumber x.datum ∧
      ((Number.Double.ofSingle x).toSingle = x ∨
        x.datum = .nan ∧ (Number.Double.ofSingle x).toSingle.datum = .nan)) ∧
    ∀ y : Number.Double, LuaValue.toValue .real (.number y) = .ok (real y.toSingle) ∧
      LuaValue.infer (.number y) = .ok (real y.toSingle) ∧
      Number.Format.single.Rounds y.datum y.toSingle.datum := by
  refine ⟨toValue_toLua, infer_toLua, fun x => ?_, fun y => ?_⟩
  · exact ⟨rfl, Number.Double.datum_ofSingle x,
      (Number.Double.toSingle_ofSingle x).imp_right And.symm⟩
  · exact ⟨rfl, rfl, Number.Double.rounds_toSingle y⟩

end Value

end StoryHooks
