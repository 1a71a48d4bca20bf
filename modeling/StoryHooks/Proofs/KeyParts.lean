import Mathlib.Data.Nat.Bitwise
import StoryHooks.Proofs.Keys

/-!
# The parts of a key

A subscription listens at a site, which is a node or a function, and at a phase. The low half of its
key is the number of the site, and the flags above say which kind of site and which phase. Ids use
all of the low half, so the flags are told by their places alone.

Results:
1. `toUInt32_bits`, `flags_eq`: a key that is a tag above a number gives back both.
2. `CallSite.key?_eq_iff`: a key belongs to one site and one phase.
3. `keys_tell_apart`: so the parts of a key are the number of the site and the flags of the phase,
   and no other site or phase has the same key.
-/

namespace StoryHooks

/-! ## Flags -/

/-- The place of a flag, counted from the lowest phase bit. -/
def PhaseFlag.place : PhaseFlag → Nat
  | afterFunction => 0
  | beforeFunction => 1
  | deleteTrigger => 2
  | afterTrigger => 3

theorem PhaseFlag.toNat_bit (flag : PhaseFlag) : flag.bit.toNat = 2 ^ (60 + flag.place) := by
  cases flag <;> rfl

namespace RouteKey

section Tagged
variable {key : RouteKey} {tag : Nat} {number : UInt32}
  (h : key.bits.toNat = 0x1000000000000000 * tag + number.toNat)
include h

theorem toUInt32_bits : key.bits.toUInt32 = number := by
  refine UInt32.toNat_inj.mp ?_
  have := number.toNat_lt
  rw [UInt64.toNat_toUInt32, h]
  omega

/-- A flag is present exactly if the tag has a bit in its place. -/
theorem has_eq_testBit (flag : PhaseFlag) : key.has flag = tag.testBit flag.place := by
  have hlow : number.toNat < 2 ^ 60 := Nat.lt_trans number.toNat_lt (by decide)
  have hbit : key.bits.toNat.testBit (60 + flag.place) = tag.testBit flag.place := by
    rw [h, show 0x1000000000000000 = 2 ^ 60 from rfl, Nat.testBit_two_pow_mul_add tag hlow,
      if_neg (Nat.not_lt.mpr (Nat.le_add_right 60 _)), Nat.add_sub_cancel_left]
  rw [has, Bool.eq_iff_iff, bne_iff_ne, ne_eq, ← UInt64.toNat_inj, UInt64.toNat_and,
    flag.toNat_bit, Nat.and_two_pow, hbit]
  cases tag.testBit flag.place <;> simp

theorem flags_eq : key.flags = PhaseFlag.all.filter fun flag => tag.testBit flag.place :=
  List.filter_congr fun flag _ => has_eq_testBit h flag

end Tagged

theorem filter_nodeTag (after deleted : Bool) :
    (PhaseFlag.all.filter fun flag => (nodeTag after deleted).testBit flag.place) =
      (if after then [.afterTrigger] else []) ++ if deleted then [.deleteTrigger] else [] := by
  revert after deleted
  decide

theorem filter_functionTag (after : Bool) :
    (PhaseFlag.all.filter fun flag => (functionTag after).testBit flag.place) =
      [if after then .afterFunction else .beforeFunction] := by
  revert after
  decide

end RouteKey

/-! ## Sites -/

/-- A phase is told by its side of the operation and by whether it is for a deletion. -/
theorem Phase.ext_sides {phase phase' : Phase} (hafter : phase.isAfter = phase'.isAfter)
    (hdelete : phase.isDelete = phase'.isDelete) : phase = phase' := by
  cases phase <;> cases phase' <;> simp_all [isAfter, isDelete]

namespace CallSite

/-- The number of the node or the function. -/
def number : CallSite → UInt32
  | node n => n.number
  | function f => f.number

/-- The key that a subscription at a site and a phase listens on, if there is one. -/
def key? : CallSite → Phase → Option RouteKey
  | node n, phase => some (RouteKey.ofNode n phase)
  | function f, phase => RouteKey.ofFunction? f phase

/-- The flags of a phase at a site. -/
def flags : CallSite → Phase → List PhaseFlag
  | node _, .before => []
  | node _, .after => [.afterTrigger]
  | node _, .beforeDelete => [.deleteTrigger]
  | node _, .afterDelete => [.afterTrigger, .deleteTrigger]
  | function _, .before => [.beforeFunction]
  | function _, .after => [.afterFunction]
  | function _, .beforeDelete | function _, .afterDelete => []

/-- Only a deletion at a function has no key. -/
theorem key?_eq_none_iff {site : CallSite} {phase : Phase} :
    site.key? phase = none ↔
      (∃ f, site = .function f) ∧ (phase = .beforeDelete ∨ phase = .afterDelete) := by
  cases site with
  | node n => exact iff_of_false nofun fun ⟨⟨_, h⟩, _⟩ => nomatch h
  | function f =>
    simp only [key?, RouteKey.ofFunction?]
    cases phase <;> simp [Phase.isDelete]

/-- How a site comes by a key. -/
theorem key?_eq_some_iff {site : CallSite} {phase : Phase} {key : RouteKey} :
    site.key? phase = some key ↔
      (∃ n, site = .node n ∧ key = .node n phase.isAfter phase.isDelete) ∨
      ∃ f, site = .function f ∧ phase.isDelete = false ∧ key = .function f phase.isAfter := by
  constructor
  · intro h
    cases site with
    | node n =>
      cases h
      exact .inl ⟨n, rfl, rfl⟩
    | function f =>
      obtain ⟨hd, hkey⟩ := Option.ite_none_left_eq_some.mp h
      exact .inr ⟨f, rfl, Bool.eq_false_iff.mpr hd, (Option.some.inj hkey).symm⟩
  · rintro (⟨n, rfl, rfl⟩ | ⟨f, rfl, hd, rfl⟩)
    · rfl
    · exact Option.ite_none_left_eq_some.mpr ⟨Bool.eq_false_iff.mp hd, rfl⟩

section Key
variable {site site' : CallSite} {phase phase' : Phase} {key : RouteKey}
  (h : site.key? phase = some key)
include h

theorem toUInt32_bits_of_key? : key.bits.toUInt32 = site.number := by
  rcases key?_eq_some_iff.mp h with ⟨n, rfl, rfl⟩ | ⟨f, rfl, _, rfl⟩
  · exact RouteKey.toUInt32_bits (RouteKey.toNat_bits_node ..)
  · exact RouteKey.toUInt32_bits (RouteKey.toNat_bits_function ..)

theorem flags_of_key? : key.flags = site.flags phase := by
  rcases key?_eq_some_iff.mp h with ⟨n, rfl, rfl⟩ | ⟨f, rfl, hd, rfl⟩
  · rw [RouteKey.flags_eq (RouteKey.toNat_bits_node ..), RouteKey.filter_nodeTag]
    cases phase <;> rfl
  · rw [RouteKey.flags_eq (RouteKey.toNat_bits_function ..), RouteKey.filter_functionTag]
    cases phase with
    | before | after => rfl
    | beforeDelete | afterDelete => cases hd

/-- A key belongs to one site and one phase. -/
theorem key?_eq_iff : site'.key? phase' = some key ↔ site' = site ∧ phase' = phase := by
  constructor
  · intro h'
    rcases key?_eq_some_iff.mp h with ⟨n, rfl, rfl⟩ | ⟨f, rfl, hd, rfl⟩
    · rcases key?_eq_some_iff.mp h' with ⟨n', rfl, hkey⟩ | ⟨f', rfl, _, hkey⟩
      · obtain ⟨rfl, hafter, hdelete⟩ := RouteKey.node_inj.mp hkey
        exact ⟨rfl, (Phase.ext_sides hafter hdelete).symm⟩
      · exact absurd hkey (RouteKey.node_ne_function _ _ _ _ _)
    · rcases key?_eq_some_iff.mp h' with ⟨n', rfl, hkey⟩ | ⟨f', rfl, hd', hkey⟩
      · exact absurd hkey.symm (RouteKey.node_ne_function _ _ _ _ _)
      · obtain ⟨rfl, hafter⟩ := RouteKey.function_inj.mp hkey
        exact ⟨rfl, (Phase.ext_sides hafter (hd.trans hd'.symm)).symm⟩
  · rintro ⟨rfl, rfl⟩
    exact h

end Key

end CallSite

/-- Whatever the number of a site, and whatever the phase: a subscription has a key, unless it is
for a deletion at a function. The low half of the key is the number, its flags are those of the
phase at that kind of site and no others, and it is the key of no other site and no other phase; so
a node and a function never share one, not even under the same number. -/
theorem keys_tell_apart (site : CallSite) (phase : Phase) :
    (site.key? phase = none ↔
      (∃ f, site = .function f) ∧ (phase = .beforeDelete ∨ phase = .afterDelete)) ∧
    ∀ key, site.key? phase = some key →
      key.bits.toUInt32 = site.number ∧ key.flags = site.flags phase ∧
      ∀ (site' : CallSite) (phase' : Phase),
        site'.key? phase' = some key ↔ site' = site ∧ phase' = phase :=
  ⟨CallSite.key?_eq_none_iff, fun _ h =>
    ⟨CallSite.toUInt32_bits_of_key? h, CallSite.flags_of_key? h, fun _ _ =>
      CallSite.key?_eq_iff h⟩⟩

/-- The function of the largest number: the flag of its key stands above 32 bits that are all
set. -/
theorem largest_function_told_apart :
    CallSite.key? (.function ⟨0xFFFFFFFF⟩) .after = some ⟨0x10000000FFFFFFFF⟩ ∧
    (RouteKey.mk 0x10000000FFFFFFFF).bits.toUInt32 = 0xFFFFFFFF ∧
    (RouteKey.mk 0x10000000FFFFFFFF).flags = [.afterFunction] ∧
    ∀ (site : CallSite) (phase : Phase), site.key? phase = some ⟨0x10000000FFFFFFFF⟩ ↔
      site = .function ⟨0xFFFFFFFF⟩ ∧ phase = .after :=
  ⟨by decide, (keys_tell_apart (.function ⟨0xFFFFFFFF⟩) .after).2 _ (by decide)⟩

end StoryHooks
