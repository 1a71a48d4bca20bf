import Mathlib.Data.List.Iterate
import Mathlib.Data.List.Perm.Subperm
import StoryHooks.Proofs.Circle

/-!
# A ring is a deque

Values go into a ring at its front and at its end, and come out in the order of a deque. Its links
make one cycle, the same in both directions.

Results:
1. `Linked.perm_positions`: every link but the head is on the circle, once.
2. `Linked.iterate_nextOf`, `Linked.iterate_prevOf`: the links lead once around, forward and back.
3. `contents_eq`: what was added at the front stands reversed before what was added at the end.
4. `ring_is_deque`: all of it, for every ring that was made by adding values.
-/

namespace StoryHooks.Ring

/-! ## Once around -/

/-- Steps that follow a chain visit its elements. -/
theorem iterate_eq_of_isChain {step : Nat → Nat} {p : Nat} {ps : List Nat}
    (h : (p :: ps).IsChain fun p q => step p = q) :
    List.iterate step p (ps.length + 1) = p :: ps := by
  induction ps generalizing p with
  | nil => rfl
  | cons q ps ih =>
    obtain ⟨hstep, hrest⟩ := List.isChain_cons_cons.mp h
    rw [List.length_cons, List.iterate, hstep, ih hrest]

namespace Linked

variable {r : Ring} {order : List Nat} {values : List Value} (h : Linked r order values)
include h

/-- Every link but the head is on the circle, once. -/
theorem perm_positions : order.Perm (List.range' 1 order.length) := by
  have hsubset : order ⊆ List.range' 1 order.length := by
    intro p hp
    have hpos := h.pos p hp
    have hlt := h.lt_length p hp
    rw [h.length_eq] at hlt
    exact List.mem_range'_1.mpr ⟨hpos, by omega⟩
  refine (List.subperm_of_subset h.nodup hsubset).perm_of_length_le ?_
  rw [List.length_range']

theorem mem_order_iff {p : Nat} : p ∈ order ↔ 0 < p ∧ p < r.links.length := by
  rw [h.perm_positions.mem_iff, List.mem_range'_1, h.length_eq, Nat.add_comm 1]
  exact Iff.rfl

theorem iterate_nextOf :
    List.iterate r.nextOf 0 (order.length + 2) = 0 :: (order ++ [0]) := by
  have hforward := iterate_eq_of_isChain (h.circle.imp fun _ _ hpq => hpq.1)
  rwa [List.length_append, List.length_singleton] at hforward

theorem iterate_prevOf :
    List.iterate r.prevOf 0 (order.length + 2) = 0 :: (order.reverse ++ [0]) := by
  have hreversed : (0 :: (order.reverse ++ [0])).IsChain fun p q => r.prevOf p = q := by
    have hcircle := List.isChain_reverse.mpr (h.circle.imp fun p q hpq => hpq.2)
    simpa using hcircle
  have hbackward := iterate_eq_of_isChain hreversed
  rwa [List.length_append, List.length_reverse, List.length_singleton] at hbackward

/-- Every link has a neighbour on either side. -/
theorem exists_neighbours {p : Nat} (hp : p < r.links.length) :
    (∃ q, r.Neighbours p q) ∧ ∃ q, r.Neighbours q p := by
  by_cases hzero : p = 0
  · subst hzero
    have hfirst : Linked r ([] ++ order) values := h
    have hlast : Linked r (order ++ []) values := by rwa [List.append_nil]
    exact ⟨⟨_, hfirst.pieces.2.2⟩, _, hlast.pieces.2.2⟩
  · have hmem := h.mem_order_iff.mpr ⟨Nat.pos_of_ne_zero hzero, hp⟩
    obtain ⟨left, right, rfl⟩ := List.append_of_mem hmem
    have hbefore := h.pieces.2.2
    rw [List.append_cons] at h
    have hafter := h.pieces.2.2
    rw [List.getLastD_concat] at hafter
    exact ⟨⟨_, hafter⟩, _, hbefore⟩

/-- The two directions undo each other. -/
theorem prevOf_nextOf {p : Nat} (hp : p < r.links.length) :
    r.prevOf (r.nextOf p) = p ∧ r.nextOf (r.prevOf p) = p := by
  obtain ⟨⟨q, rfl, hback⟩, o, hforth, rfl⟩ := h.exists_neighbours hp
  exact ⟨hback, hforth⟩

/-- The head is the one link without a value. -/
theorem itemOf_eq_none_iff {p : Nat} (hp : p < r.links.length) : r.itemOf p = none ↔ p = 0 := by
  constructor
  · intro hnone
    by_contra hzero
    have hmem := h.mem_order_iff.mpr ⟨Nat.pos_of_ne_zero hzero, hp⟩
    have hitem : r.itemOf p ∈ values.map some := h.items_eq ▸ List.mem_map_of_mem hmem
    rw [hnone] at hitem
    simp at hitem
  · rintro rfl
    exact h.head_eq

theorem isEmpty_iff : r.isEmpty = true ↔ values = [] := by
  rw [isEmpty, beq_iff_eq, h.nextOf_head, ← List.length_eq_zero_iff, ← h.length_values]
  cases order with
  | nil => exact Iff.rfl
  | cons p order =>
    have hp := h.pos p List.mem_cons_self
    exact ⟨fun hzero => absurd hzero (Nat.ne_of_gt hp), nofun⟩

end Linked

/-! ## Fronts and backs -/

/-- The value that a change adds at the front. -/
def Edit.front? : Edit → Option Value
  | pushFront value => some value
  | _ => none

/-- The value that a change adds at the end. -/
def Edit.back? : Edit → Option Value
  | pushBack value => some value
  | _ => none

def Edit.isPush : Edit → Bool
  | recollect => false
  | _ => true

/-- The values added at the front, the first one first. -/
def fronts (edits : List Edit) : List Value := edits.filterMap Edit.front?

/-- The values added at the end, the first one first. -/
def backs (edits : List Edit) : List Value := edits.filterMap Edit.back?

theorem foldl_revise (edits : List Edit) (values : List Value) :
    edits.foldl Edit.revise values = (fronts edits).reverse ++ values ++ backs edits := by
  induction edits generalizing values with
  | nil => simp [fronts, backs]
  | cons edit edits ih =>
    rw [List.foldl_cons, ih]
    cases edit <;>
      simp [fronts, backs, List.filterMap_cons, Edit.revise, Edit.front?, Edit.back?]

theorem contents_eq (edits : List Edit) :
    contents edits = (fronts edits).reverse ++ backs edits := by
  rw [contents, foldl_revise, List.append_nil]

theorem length_contents (edits : List Edit) :
    (contents edits).length = edits.countP Edit.isPush := by
  rw [contents_eq, List.length_append, List.length_reverse]
  induction edits with
  | nil => rfl
  | cons edit edits ih =>
    rw [List.countP_cons, ← ih]
    cases edit <;>
      simp [fronts, backs, List.filterMap_cons, Edit.isPush, Edit.front?, Edit.back?] <;> omega

/-- Values are added to an empty ring at the front and at the end, and now and then all of them are
collected into a new ring. Then

* there is a link for each value that was added, and the head, which alone has no value;
* from the head the links lead forward to every other link, once each, and back to the head, and
  the other way around they lead back the same way;
* every link is the neighbour of its neighbours;
* the values come in the order of a deque, those added at the front reversed and before the others;
* a walk hands out these values, one at each step, and then no more, and the ring is empty if there
  are none;
* a ring that the values are collected into has the same values. -/
theorem ring_is_deque (edits : List Edit) :
    let r := edited edits
    let added := edits.countP Edit.isPush
    let values := (fronts edits).reverse ++ backs edits
    r.links.length = added + 1 ∧ values.length = added ∧
    (∀ p < r.links.length, r.itemOf p = none ↔ p = 0) ∧
    (∃ order : List Nat, order.Perm (List.range' 1 added) ∧
      List.iterate r.nextOf 0 (added + 2) = 0 :: (order ++ [0]) ∧
      List.iterate r.prevOf 0 (added + 2) = 0 :: (order.reverse ++ [0]) ∧
      order.map r.itemOf = values.map some) ∧
    (∀ p < r.links.length, r.prevOf (r.nextOf p) = p ∧ r.nextOf (r.prevOf p) = p) ∧
    (∀ steps, r.walk steps (r.nextOf 0) = values.take steps) ∧ r.toList = values ∧
    (r.isEmpty = true ↔ added = 0) ∧
    (ofList r.toList).toList = r.toList := by
  intro r added values
  obtain ⟨order, h⟩ := linked_empty.foldl_apply edits
  have hvalues : edits.foldl Edit.revise [] = values := contents_eq edits
  rw [hvalues] at h
  have hadded : values.length = added := by
    rw [← hvalues]
    exact length_contents edits
  have horder : order.length = added := h.length_values.trans hadded
  refine ⟨?_, hadded, fun p hp => h.itemOf_eq_none_iff hp, ⟨order, ?_, ?_, ?_, h.items_eq⟩,
    fun p hp => h.prevOf_nextOf hp, h.walk_head, h.toList_eq, ?_, toList_ofList _⟩
  · rw [← horder]
    exact h.length_eq
  · rw [← horder]
    exact h.perm_positions
  · rw [← horder]
    exact h.iterate_nextOf
  · rw [← horder]
    exact h.iterate_prevOf
  · rw [← hadded, List.length_eq_zero_iff]
    exact h.isEmpty_iff

/-- The third value is added at the front and stands first; its link is the last in the arena. -/
example :
    let r := edited [.pushBack (.integer 1), .pushBack (.integer 2), .pushFront (.integer 0)]
    List.iterate r.nextOf 0 5 = [0, 3, 1, 2, 0] ∧
      r.toList = [.integer 0, .integer 1, .integer 2] := by
  decide +kernel

end StoryHooks.Ring
