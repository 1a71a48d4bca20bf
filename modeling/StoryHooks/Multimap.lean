/-!
# Multimaps

A key leads to the values added under it, in the order they were added.
-/

namespace StoryHooks

/-- A bucket of values for each key that has any. -/
structure Multimap (κ ν : Type) where
  buckets : List (κ × List ν)
deriving Repr

namespace Multimap

variable {κ ν : Type} [DecidableEq κ]

def empty : Multimap κ ν := ⟨[]⟩

def get (m : Multimap κ ν) (key : κ) : List ν := (m.buckets.lookup key).getD []

/-- Adds a value to the bucket of its key, or a bucket for it. -/
def pushInto (key : κ) (value : ν) : List (κ × List ν) → List (κ × List ν)
  | [] => [(key, [value])]
  | (k, values) :: rest =>
    if k = key then (k, values ++ [value]) :: rest else (k, values) :: pushInto key value rest

def push (m : Multimap κ ν) (key : κ) (value : ν) : Multimap κ ν := ⟨pushInto key value m.buckets⟩

def size (m : Multimap κ ν) : Nat :=
  m.buckets.foldr (fun bucket size => bucket.2.length + size) 0

@[simp] theorem get_empty (key : κ) : (empty : Multimap κ ν).get key = [] := rfl

omit [DecidableEq κ] in
@[simp] theorem size_empty : (empty : Multimap κ ν).size = 0 := rfl

theorem lookup_pushInto (buckets : List (κ × List ν)) (key key' : κ) (value : ν) :
    ((pushInto key value buckets).lookup key').getD [] =
      (buckets.lookup key').getD [] ++ if key = key' then [value] else [] := by
  induction buckets with
  | nil =>
    by_cases h : key = key'
    · simp [pushInto, h]
    · have h' : (key' == key) = false := by simpa using fun e => h e.symm
      simp [pushInto, List.lookup_cons, h, h']
  | cons bucket rest ih =>
    obtain ⟨k, values⟩ := bucket
    by_cases hk : k = key
    · subst hk
      by_cases h : k = key'
      · simp [pushInto, h]
      · have h' : (key' == k) = false := by simpa using fun e => h e.symm
        simp [pushInto, List.lookup_cons, h, h']
    · by_cases h : k = key'
      · subst h
        have hk' : key ≠ k := fun e => hk e.symm
        simp [pushInto, hk, hk']
      · have h' : (key' == k) = false := by simpa using fun e => h e.symm
        simp only [pushInto, if_neg hk, List.lookup_cons, h', ih]

/-- A push adds its value at the end of its own bucket and changes no other. -/
theorem get_push (m : Multimap κ ν) (key key' : κ) (value : ν) :
    (m.push key value).get key' = m.get key' ++ if key = key' then [value] else [] :=
  lookup_pushInto m.buckets key key' value

theorem size_push (m : Multimap κ ν) (key : κ) (value : ν) :
    (m.push key value).size = m.size + 1 := by
  obtain ⟨buckets⟩ := m
  simp only [push, size]
  induction buckets with
  | nil => simp [pushInto]
  | cons bucket rest ih =>
    obtain ⟨k, values⟩ := bucket
    by_cases hk : k = key
    · simp [pushInto, hk]; omega
    · simp only [pushInto, if_neg hk, List.foldr_cons, ih]; omega

end Multimap

end StoryHooks
