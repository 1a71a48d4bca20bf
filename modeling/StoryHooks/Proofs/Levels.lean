import StoryHooks.Pool.Basic

/-!
# The levels of a pool

Results:
1. `read_enter`: a snapshot that was just taken reads back the ids it was taken of.
2. `enter_getElem?_depth`, `enter_getElem?_of_ne`: entering writes the level of the current depth
   and no other.
3. `exit_of_innermost`, `exit_of_other`: exactly the innermost snapshot can be given back.
-/

namespace StoryHooks.Pool

variable {p : Pool} {ids : List Nat} {s : Snapshot}

/-- The levels after entering, when the pool has none left and when it has. -/
theorem enter_levels (p : Pool) (ids : List Nat) :
    (p.enter ids).2.levels =
      (if p.levels.length ≤ p.depth then p.levels ++ [[]] else p.levels).set p.depth ids := rfl

/-- Entering adds a level if there is none left. -/
theorem length_enter (h : p.depth ≤ p.levels.length) (ids : List Nat) :
    (p.enter ids).2.levels.length = max p.levels.length (p.depth + 1) := by
  rw [enter_levels, List.length_set]
  split
  · rw [List.length_append, List.length_singleton]
    omega
  · omega

theorem depth_lt_length_enter (h : p.depth ≤ p.levels.length) (ids : List Nat) :
    p.depth < (p.enter ids).2.levels.length := by
  rw [length_enter h]
  exact Nat.le_max_right _ _

/-- Entering fills the level of the current depth, which is there. -/
theorem enter_getElem?_depth (h : p.depth ≤ p.levels.length) (ids : List Nat) :
    (p.enter ids).2.levels[p.depth]? = some ids := by
  have hlt := depth_lt_length_enter h ids
  rw [enter_levels, List.length_set] at hlt
  rw [enter_levels, List.getElem?_set_self hlt]

/-- A snapshot that was just taken reads back the ids it was taken of. -/
theorem read_enter (h : p.depth ≤ p.levels.length) (ids : List Nat) :
    (p.enter ids).2.read ⟨p.depth⟩ = ids := by
  rw [read, enter_getElem?_depth h, Option.getD_some]

/-- Entering writes no other level. The one that may be added is that of the current depth. -/
theorem enter_getElem?_of_ne (h : p.depth ≤ p.levels.length) (ids : List Nat) {level : Nat}
    (hl : level ≠ p.depth) : (p.enter ids).2.levels[level]? = p.levels[level]? := by
  rw [enter_levels, List.getElem?_set_ne hl.symm]
  split
  · next hfull =>
    rcases Nat.lt_or_ge level p.levels.length with hlt | hge
    · rw [List.getElem?_append_left hlt]
    · have hlength : (p.levels ++ [[]]).length ≤ level := by
        rw [List.length_append, List.length_singleton]
        omega
      rw [List.getElem?_eq_none hlength, List.getElem?_eq_none hge]
  · rfl

theorem enter_getElem?_of_lt (h : p.depth ≤ p.levels.length) (ids : List Nat) {level : Nat}
    (hl : level < p.depth) : (p.enter ids).2.levels[level]? = p.levels[level]? :=
  enter_getElem?_of_ne h ids (Nat.ne_of_lt hl)

/-- Entering adds one copy to the levels in use. -/
theorem take_enter (h : p.depth ≤ p.levels.length) (ids : List Nat) :
    (p.enter ids).2.levels.take (p.depth + 1) = p.levels.take p.depth ++ [ids] := by
  have hbelow : (p.enter ids).2.levels.take p.depth = p.levels.take p.depth := by
    refine List.ext_getElem? fun level => ?_
    by_cases hl : level < p.depth
    · rw [List.getElem?_take_of_lt hl, List.getElem?_take_of_lt hl, enter_getElem?_of_lt h ids hl]
    · rw [List.getElem?_take_eq_none (by omega), List.getElem?_take_eq_none (by omega)]
  rw [List.take_add_one, enter_getElem?_depth h, hbelow]
  rfl

/-- The innermost snapshot can be given back. -/
theorem exit_of_innermost (h : p.depth = s.level + 1) :
    p.exit s = .ok { p with depth := s.level } := by
  simp [exit, h]

/-- No other snapshot can. -/
theorem exit_of_other (h : p.depth ≠ s.level + 1) : p.exit s = .error ⟨s.level, p.depth⟩ := by
  have hlevel : ¬ (0 < p.depth ∧ s.level = p.depth - 1) := by omega
  rw [exit, if_neg hlevel]

end StoryHooks.Pool
