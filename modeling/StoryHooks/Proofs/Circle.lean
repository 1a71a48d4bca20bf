import Mathlib.Data.List.Chain
import StoryHooks.Arguments.Source

/-!
# The circle of a ring

However values are added to a ring, its links stay one circle: the head, then a link for each value
in the order of the walk, then the head again.

Results:
1. `Linked.splice`: a link that is spliced in between two neighbours stands between them.
2. `Linked.toList_eq`: the walk visits every value once, in order, and stops.
3. `toList_edited`: whatever is added at either end, the walk gives what a list gives.
-/

namespace StoryHooks.Ring

/-- Two positions follow each other on the circle, told from both sides. -/
def Neighbours (r : Ring) (p q : Nat) : Prop := r.nextOf p = q ∧ r.prevOf q = p

/-- `Linked r order values`: from the head the circle leads through the positions in that order and
back to the head, and their links hold the values. No link is off the circle. -/
structure Linked (r : Ring) (order : List Nat) (values : List Value) : Prop where
  length_eq : r.links.length = order.length + 1
  pos : ∀ p ∈ order, 0 < p
  lt_length : ∀ p ∈ order, p < r.links.length
  nodup : order.Nodup
  circle : (0 :: (order ++ [0])).IsChain r.Neighbours
  items_eq : order.map r.itemOf = values.map some
  head_eq : r.itemOf 0 = none

theorem linked_empty : Linked empty [] [] where
  length_eq := rfl
  pos _ h := nomatch h
  lt_length _ h := nomatch h
  nodup := List.nodup_nil
  circle := List.isChain_pair.mpr ⟨rfl, rfl⟩
  items_eq := rfl
  head_eq := rfl

/-! ## Splicing -/

section Splice
variable {r : Ring} {before after : Nat} (hb : before < r.links.length)
  (ha : after < r.links.length) (value : Value)

theorem length_splice : (r.splice before after value).links.length = r.links.length + 1 := by
  simp [splice]

/-- A link that is spliced in stands in the next free place, and only its neighbours change. -/
theorem getElem?_splice_of_ne {p : Nat} (hp : p ≠ r.links.length) :
    (r.splice before after value).links[p]? = r.links[p]?.map fun link =>
      { link with
        next := if p = before then r.links.length else link.next
        prev := if p = after then r.links.length else link.prev } := by
  have hold : (r.links ++ [(⟨some value, after, before⟩ : Link)])[p]? = r.links[p]? := by
    rcases Nat.lt_or_gt_of_ne hp with hlt | hgt
    · exact List.getElem?_append_left hlt
    · rw [List.getElem?_eq_none (Nat.le_of_lt hgt), List.getElem?_eq_none]
      rw [List.length_append]
      exact hgt
  simp only [splice, List.getElem?_modify, hold, eq_comm (b := p)]
  cases r.links[p]? with
  | none => rfl
  | some link =>
    by_cases hpb : p = before
    · by_cases hpa : p = after
      · simp only [if_pos hpb, if_pos hpa]
        rfl
      · simp only [if_pos hpb, if_neg hpa]
        rfl
    · by_cases hpa : p = after
      · simp only [if_neg hpb, if_pos hpa]
        rfl
      · simp only [if_neg hpb, if_neg hpa]
        rfl

include hb ha in
theorem getElem?_splice_length :
    (r.splice before after value).links[r.links.length]? = some ⟨some value, after, before⟩ := by
  have hnew : (r.links ++ [(⟨some value, after, before⟩ : Link)])[r.links.length]? =
      some ⟨some value, after, before⟩ := List.getElem?_concat_length
  simp only [splice, List.getElem?_modify, hnew, Nat.ne_of_lt hb, Nat.ne_of_lt ha, if_false]
  rfl

theorem itemOf_splice_of_ne {p : Nat} (hp : p ≠ r.links.length) :
    (r.splice before after value).itemOf p = r.itemOf p := by
  rw [itemOf, itemOf, getElem?_splice_of_ne value hp]
  cases r.links[p]? <;> rfl

include hb ha in
theorem itemOf_splice_length :
    (r.splice before after value).itemOf r.links.length = some value := by
  rw [itemOf, getElem?_splice_length hb ha]
  rfl

/-- Neighbours stay neighbours unless the link was spliced in between them. -/
theorem Neighbours.splice {p q : Nat} (h : r.Neighbours p q) (hp : p < r.links.length)
    (hq : q < r.links.length) (hpb : p ≠ before) (hqa : q ≠ after) :
    (r.splice before after value).Neighbours p q := by
  obtain ⟨hnext, hprev⟩ := h
  refine ⟨?_, ?_⟩
  · rw [← hnext, nextOf, nextOf, getElem?_splice_of_ne value (Nat.ne_of_lt hp),
      List.getElem?_eq_getElem hp]
    simp [hpb]
  · rw [← hprev, prevOf, prevOf, getElem?_splice_of_ne value (Nat.ne_of_lt hq),
      List.getElem?_eq_getElem hq]
    simp [hqa]

include hb ha in
theorem neighbours_splice_left :
    (r.splice before after value).Neighbours before r.links.length := by
  refine ⟨?_, ?_⟩
  · rw [nextOf, getElem?_splice_of_ne value (Nat.ne_of_lt hb), List.getElem?_eq_getElem hb]
    simp
  · rw [prevOf, getElem?_splice_length hb ha]
    rfl

include hb ha in
theorem neighbours_splice_right :
    (r.splice before after value).Neighbours r.links.length after := by
  refine ⟨?_, ?_⟩
  · rw [nextOf, getElem?_splice_length hb ha]
    rfl
  · rw [prevOf, getElem?_splice_of_ne value (Nat.ne_of_lt ha), List.getElem?_eq_getElem ha]
    simp

/-- A piece of the circle stays one if the link was not spliced into it: if no position in it is the
one that the new link goes before, but for the first. -/
theorem isChain_splice (hba : r.nextOf before = after) {piece : List Nat}
    (h : piece.IsChain r.Neighbours) (hlt : ∀ p ∈ piece, p < r.links.length)
    (hne : ∀ q ∈ piece.tail, q ≠ after) :
    piece.IsChain (r.splice before after value).Neighbours := by
  refine h.imp_of_mem_tail_imp fun p q hp hq hpq => ?_
  have hqa := hne q hq
  -- `before` is followed by `after` alone, so it is followed by nothing in the piece
  have hpb : p ≠ before := by
    rintro rfl
    exact hqa (hpq.1.symm.trans hba)
  exact hpq.splice value (hlt p hp) (hlt q (List.mem_of_mem_tail hq)) hpb hqa

end Splice

/-! ## The walk -/

/-- From a position on, the walk gives the values that stand before the head, as many of them as it
is asked for. -/
theorem walk_eq_take {r : Ring} {order : List Nat} {values : List Value} (steps : Nat)
    (hpos : ∀ p ∈ order, 0 < p) (hcircle : (order ++ [0]).IsChain r.Neighbours)
    (hitems : order.map r.itemOf = values.map some) :
    r.walk steps (order.headD 0) = values.take steps := by
  induction order generalizing values steps with
  | nil =>
    obtain rfl : values = [] := List.map_eq_nil_iff.mp hitems.symm
    cases steps <;> rfl
  | cons p order ih =>
    obtain ⟨value, values, rfl, hitem, hrest⟩ := List.map_eq_cons_iff.mp hitems.symm
    cases steps with
    | zero => rfl
    | succ steps =>
      have hp := hpos p List.mem_cons_self
      have hnext : r.nextOf p = order.headD 0 := by
        cases order with
        | nil => exact (List.isChain_pair.mp hcircle).1
        | cons q order => exact (List.isChain_cons_cons.mp hcircle).1.1
      have htail := ih steps (fun q hq => hpos q (List.mem_cons_of_mem _ hq)) hcircle.tail
        hrest.symm
      rw [List.headD_cons, walk, if_neg (Nat.ne_of_gt hp), ← hitem, hnext, htail]
      rfl

/-! ## Both sides of a place on the circle -/

namespace Linked

section Place
variable {r : Ring} {left right : List Nat} {values : List Value}
  (h : Linked r (left ++ right) values)
include h

theorem lt_length_head : 0 < r.links.length := by
  rw [h.length_eq]
  exact Nat.succ_pos _

theorem getLastD_lt : left.getLastD 0 < r.links.length := by
  rcases List.mem_cons.mp (List.getLastD_mem_cons (l := left) (a := 0)) with hhead | hmem
  · rw [hhead]
    exact h.lt_length_head
  · exact h.lt_length _ (List.mem_append_left _ hmem)

theorem headD_lt : right.headD 0 < r.links.length := by
  cases right with
  | nil => exact h.lt_length_head
  | cons p right => exact h.lt_length _ (List.mem_append_right _ List.mem_cons_self)

/-- The circle in two pieces, and the neighbours where they meet. -/
theorem pieces : (0 :: left).IsChain r.Neighbours ∧ (right ++ [0]).IsChain r.Neighbours ∧
    r.Neighbours (left.getLastD 0) (right.headD 0) := by
  have hcircle : ((0 :: left) ++ (right ++ [0])).IsChain r.Neighbours := by
    simpa using h.circle
  obtain ⟨hleft, hright, hjoin⟩ := List.isChain_append.mp hcircle
  refine ⟨hleft, hright, hjoin _ ?_ _ ?_⟩
  · rw [List.getLast?_cons, List.getLastD_eq_getLast?]
    exact Option.mem_some_self _
  · cases right with
    | nil => exact Option.mem_some_self _
    | cons p right => exact Option.mem_some_self _

/-- The first position after a place in the circle comes nowhere else. -/
theorem headD_not_mem : right.headD 0 ∉ left ∧ right.headD 0 ∉ (right ++ [0]).tail := by
  have hpos := h.pos
  cases right with
  | nil =>
    refine ⟨fun hmem => ?_, List.not_mem_nil⟩
    exact Nat.lt_irrefl _ (hpos 0 (List.mem_append_left _ hmem))
  | cons p right =>
    obtain ⟨_, hright, hdisjoint⟩ := List.nodup_append.mp h.nodup
    refine ⟨fun hmem => hdisjoint p hmem p List.mem_cons_self rfl, fun hmem => ?_⟩
    rcases List.mem_append.mp hmem with hlater | hhead
    · exact (List.nodup_cons.mp hright).1 hlater
    · have hp := hpos p (List.mem_append_right _ List.mem_cons_self)
      exact Nat.ne_of_gt hp (List.mem_singleton.mp hhead)

end Place

section Splice
variable {r : Ring} {left right : List Nat} {before after : List Value}
  (h : Linked r (left ++ right) (before ++ after)) (value : Value)
include h

/-- The circle opens between two neighbours and closes around the new link. -/
theorem circle_splice : (0 :: ((left ++ r.links.length :: right) ++ [0])).IsChain
    (r.splice (left.getLastD 0) (right.headD 0) value).Neighbours := by
  obtain ⟨hleft, hright, hjoin⟩ := h.pieces
  obtain ⟨hnotLeft, hnotRight⟩ := h.headD_not_mem
  have hltLeft : ∀ p ∈ 0 :: left, p < r.links.length := by
    intro p hp
    rcases List.mem_cons.mp hp with rfl | hp
    · exact h.lt_length_head
    · exact h.lt_length p (List.mem_append_left _ hp)
  have hltRight : ∀ p ∈ right ++ [0], p < r.links.length := by
    intro p hp
    rcases List.mem_append.mp hp with hp | hp
    · exact h.lt_length p (List.mem_append_right _ hp)
    · rw [List.mem_singleton.mp hp]
      exact h.lt_length_head
  have hleft' := isChain_splice value hjoin.1 hleft hltLeft fun q hq he => hnotLeft (he ▸ hq)
  have hright' := isChain_splice value hjoin.1 hright hltRight fun q hq he => hnotRight (he ▸ hq)
  have hfirst := neighbours_splice_left h.getLastD_lt h.headD_lt value
  have hsecond := neighbours_splice_right h.getLastD_lt h.headD_lt value
  have hclosed : ((0 :: left) ++ (r.links.length :: (right ++ [0]))).IsChain
      (r.splice (left.getLastD 0) (right.headD 0) value).Neighbours := by
    refine hleft'.append (List.isChain_cons.mpr ⟨?_, hright'⟩) ?_
    · intro q hq
      cases right with
      | nil => cases hq; exact hsecond
      | cons p right => cases hq; exact hsecond
    · intro p hp q hq
      rw [List.getLast?_cons, ← List.getLastD_eq_getLast?] at hp
      cases hp
      cases hq
      exact hfirst
  simpa using hclosed

/-- The new link holds the new value, and the others what they held. -/
theorem items_splice (hlength : left.length = before.length) :
    (left ++ r.links.length :: right).map
        (r.splice (left.getLastD 0) (right.headD 0) value).itemOf =
      (before ++ value :: after).map some := by
  have hold {piece : List Nat} (hp : ∀ p ∈ piece, p < r.links.length) :
      piece.map (r.splice (left.getLastD 0) (right.headD 0) value).itemOf =
        piece.map r.itemOf :=
    List.map_congr_left fun p hmem => itemOf_splice_of_ne value (Nat.ne_of_lt (hp p hmem))
  have hitems := h.items_eq
  rw [List.map_append, List.map_append] at hitems
  obtain ⟨hbefore, hafter⟩ := List.append_inj hitems (by simpa using hlength)
  rw [List.map_append, List.map_append, List.map_cons, List.map_cons,
    hold fun p hp => h.lt_length p (List.mem_append_left _ hp),
    hold fun p hp => h.lt_length p (List.mem_append_right _ hp),
    itemOf_splice_length h.getLastD_lt h.headD_lt value, hbefore, hafter]

/-- A link that is spliced in between two neighbours stands between them on the circle. -/
theorem splice (hlength : left.length = before.length) :
    Linked (r.splice (left.getLastD 0) (right.headD 0) value)
      (left ++ r.links.length :: right) (before ++ value :: after) := by
  have hmiddle : (left ++ r.links.length :: right).Perm (r.links.length :: (left ++ right)) :=
    List.perm_middle
  refine ⟨?_, ?_, ?_, ?_, h.circle_splice value, h.items_splice value hlength, ?_⟩
  · rw [length_splice, hmiddle.length_eq, List.length_cons, h.length_eq]
  · intro p hp
    rcases List.mem_cons.mp (hmiddle.mem_iff.mp hp) with rfl | hp
    · exact h.lt_length_head
    · exact h.pos p hp
  · intro p hp
    rw [length_splice]
    rcases List.mem_cons.mp (hmiddle.mem_iff.mp hp) with rfl | hp
    · exact Nat.lt_succ_self _
    · exact Nat.lt_succ_of_lt (h.lt_length p hp)
  · refine hmiddle.nodup_iff.mpr (List.nodup_cons.mpr ⟨?_, h.nodup⟩)
    exact fun hp => Nat.lt_irrefl _ (h.lt_length _ hp)
  · rw [itemOf_splice_of_ne value (Nat.ne_of_lt h.lt_length_head)]
    exact h.head_eq

end Splice

/-! ## Both ends -/

section Ends
variable {r : Ring} {order : List Nat} {values : List Value} (h : Linked r order values)
include h

theorem nextOf_head : r.nextOf 0 = order.headD 0 := by
  have hends : Linked r ([] ++ order) values := h
  obtain ⟨_, _, hjoin⟩ := hends.pieces
  exact hjoin.1

theorem prevOf_head : r.prevOf 0 = order.getLastD 0 := by
  rw [← List.append_nil order] at h
  obtain ⟨_, _, hjoin⟩ := h.pieces
  exact hjoin.2

theorem length_values : order.length = values.length := by
  have hlength := congrArg List.length h.items_eq
  rwa [List.length_map, List.length_map] at hlength

/-- A value that is added at the end is the last of the circle. -/
theorem pushBack (value : Value) :
    Linked (r.pushBack value) (order ++ [r.links.length]) (values ++ [value]) := by
  have hprev := h.prevOf_head
  have hlength := h.length_values
  rw [← List.append_nil order, ← List.append_nil values] at h
  have hsplice := h.splice value hlength
  rwa [← hprev] at hsplice

/-- A value that is added at the front is the first of the circle. -/
theorem pushFront (value : Value) :
    Linked (r.pushFront value) (r.links.length :: order) (value :: values) := by
  have hends : Linked r ([] ++ order) ([] ++ values) := h
  have hsplice := hends.splice value rfl
  rwa [← h.nextOf_head] at hsplice

/-- The walk gives the values of the links in order, as many of them as it is asked for. -/
theorem walk_head (steps : Nat) : r.walk steps (r.nextOf 0) = values.take steps := by
  rw [h.nextOf_head]
  exact walk_eq_take steps h.pos h.circle.tail h.items_eq

/-- The walk around the circle gives the values of its links, in order. -/
theorem toList_eq : r.toList = values := by
  rw [toList, h.walk_head, List.take_of_length_le]
  rw [h.length_eq, h.length_values]
  exact Nat.le_succ _

end Ends

/-- The ring of a list is a circle of its values. -/
theorem foldl_pushBack (added : List Value) {r : Ring} {order : List Nat} {values : List Value}
    (h : Linked r order values) :
    ∃ order, Linked (added.foldl Ring.pushBack r) order (values ++ added) := by
  induction added generalizing r order values with
  | nil => exact ⟨order, by rwa [List.append_nil]⟩
  | cons value added ih =>
    obtain ⟨order', h'⟩ := ih (h.pushBack value)
    exact ⟨order', by rwa [List.append_assoc] at h'⟩

end Linked

theorem linked_ofList (values : List Value) : ∃ order, Linked (ofList values) order values :=
  linked_empty.foldl_pushBack values

/-- A ring that is made of a list gives the list back. -/
theorem toList_ofList (values : List Value) : (ofList values).toList = values := by
  obtain ⟨order, h⟩ := linked_ofList values
  exact h.toList_eq

/-! ## Changes at either end -/

/-- What a change does to the values of a ring, read as a list. -/
def Edit.revise (values : List Value) : Edit → List Value
  | pushBack value => values ++ [value]
  | pushFront value => value :: values
  | recollect => values

/-- The ring after a list of changes to the empty one. -/
def edited (edits : List Edit) : Ring := edits.foldl apply empty

/-- The values after a list of changes to the empty list. -/
def contents (edits : List Edit) : List Value := edits.foldl Edit.revise []

theorem Linked.apply {r : Ring} {order : List Nat} {values : List Value} (h : Linked r order values)
    (edit : Edit) : ∃ order, Linked (r.apply edit) order (edit.revise values) := by
  cases edit with
  | pushBack value => exact ⟨_, h.pushBack value⟩
  | pushFront value => exact ⟨_, h.pushFront value⟩
  | recollect =>
    rw [Ring.apply, h.toList_eq]
    exact linked_ofList values

theorem Linked.foldl_apply (edits : List Edit) {r : Ring} {order : List Nat} {values : List Value}
    (h : Linked r order values) :
    ∃ order, Linked (edits.foldl Ring.apply r) order (edits.foldl Edit.revise values) := by
  induction edits generalizing r order values with
  | nil => exact ⟨order, h⟩
  | cons edit edits ih =>
    obtain ⟨_, h'⟩ := h.apply edit
    exact ih h'

/-- Whatever is added at either end, in whatever order, the walk gives what a list gives. -/
theorem toList_edited (edits : List Edit) : (edited edits).toList = contents edits := by
  obtain ⟨_, h⟩ := linked_empty.foldl_apply edits
  exact h.toList_eq

end StoryHooks.Ring
