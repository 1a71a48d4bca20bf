/-!
# Where a byte sequence stops being UTF-8

The leading byte of a character fixes how many bytes follow it and the range of each. `Utf8.defect?`
finds the first byte that leaves its range, or the character that the end cuts short.
-/

namespace StoryHooks.Text.Utf8

/-- Why a byte sequence is not UTF-8, with the index at which the offending character starts. -/
inductive Defect
  | invalid (length : Nat) (start : Nat)
  | incomplete (start : Nat)
deriving DecidableEq, Repr

abbrev Range := UInt8 × UInt8

def Range.has (r : Range) (b : UInt8) : Bool := r.1 ≤ b && b ≤ r.2

/-- The range of a continuation byte. -/
def tail : Range := (0x80, 0xBF)

/-- The ranges of the bytes after a leading byte. The second byte is bounded so that no character
has two spellings and none is a surrogate or past the last code point. -/
def following (b : UInt8) : Option (List Range) :=
  if b < 0x80 then some []
  else if b < 0xC2 then none
  else if b < 0xE0 then some [tail]
  else if b = 0xE0 then some [(0xA0, 0xBF), tail]
  else if b = 0xED then some [(0x80, 0x9F), tail]
  else if b < 0xF0 then some [tail, tail]
  else if b = 0xF0 then some [(0x90, 0xBF), tail, tail]
  else if b < 0xF4 then some [tail, tail, tail]
  else if b = 0xF4 then some [(0x80, 0x8F), tail, tail]
  else none

/-- Scans on: `index` is the next byte, `start` the first byte of the current character, and the
ranges are those of its bytes still to come. -/
def scan (index start : Nat) : List Range → List UInt8 → Option Defect
  | [], [] => none
  | _ :: _, [] => some (.incomplete start)
  | [], b :: bs =>
    match following b with
    | none => some (.invalid 1 index)
    | some ranges => scan (index + 1) index ranges bs
  | r :: rs, b :: bs =>
    if r.has b then scan (index + 1) start rs bs else some (.invalid (index - start) start)

def defect? (bytes : List UInt8) : Option Defect := scan 0 0 [] bytes

def Defect.message : Defect → String
  | .invalid length start =>
    "invalid utf-8 sequence of " ++ toString length ++ " bytes from index " ++ toString start
  | .incomplete start => "incomplete utf-8 byte sequence from index " ++ toString start

def encode (text : String) : List UInt8 := text.toUTF8.data.toList

/-- The text that a byte sequence spells, or its first defect. -/
def decode (bytes : List UInt8) : Except Defect String :=
  match String.fromUTF8? ⟨bytes.toArray⟩ with
  | some text => .ok text
  | none => .error ((defect? bytes).getD (.incomplete bytes.length))

theorem fromUTF8?_eq_some_iff {bytes : ByteArray} {text : String} :
    String.fromUTF8? bytes = some text ↔ text.toUTF8 = bytes := by
  rw [String.fromUTF8?, Option.dite_none_right_eq_some]
  constructor
  · rintro ⟨_, h⟩
    cases h
    rfl
  · rintro rfl
    exact ⟨text.isValidUTF8, rfl⟩

theorem decode_eq_ok_iff {bytes : List UInt8} {text : String} :
    decode bytes = .ok text ↔ encode text = bytes := by
  have hbytes : text.toUTF8 = ⟨bytes.toArray⟩ ↔ encode text = bytes := by
    constructor
    · intro h
      rw [encode, h]
    · rintro rfl
      rfl
  rw [← hbytes, ← fromUTF8?_eq_some_iff, decode]
  split
  · next found => rw [found, Except.ok.injEq, Option.some.injEq]
  · next found => rw [found]; exact iff_of_false nofun nofun

theorem decode_encode (text : String) : decode (encode text) = .ok text :=
  decode_eq_ok_iff.mpr rfl

end StoryHooks.Text.Utf8
