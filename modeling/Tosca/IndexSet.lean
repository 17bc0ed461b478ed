/-
# Insertion-ordered sets

`tosca` keeps the hazards of a route and the route configurations of a device in
`indexmap::IndexSet`s, which its `set!` macro wraps. An index set remembers the
order in which its elements arrived and refuses an element equal to one it already
holds: `insert` then leaves the set exactly as it was.

The model carries that refusal as an invariant of the structure, so that no later
proof has to re-derive it: no element equals one inserted before it.
-/

import Mathlib.Data.List.Basic

namespace Tosca

/-- Modelled from the spec: the `set!` macro of `tosca` is not among the sources. It
wraps an `indexmap::IndexSet`, a set "with value-unique membership" whose elements keep
their insertion order (the firmware reads route configurations back by position). -/
@[ext]
structure IndexSet (α : Type) [BEq α] where
  /-- The elements, in insertion order. -/
  toList : List α
  /-- No element equals one inserted before it. -/
  distinct : toList.Pairwise fun a b => (b == a) = false

namespace IndexSet

variable {α : Type} [BEq α]

/-- `new()`: the empty set. -/
def empty : IndexSet α := ⟨[], .nil⟩

/-- `contains(&x)`. -/
def contains (s : IndexSet α) (x : α) : Bool := s.toList.contains x

/-- `is_empty()`. -/
def isEmpty (s : IndexSet α) : Bool := s.toList.isEmpty

/-- `len()`. -/
def len (s : IndexSet α) : Nat := s.toList.length

/-- `get_index(i)`: the element inserted `i`-th. -/
def getIndex (s : IndexSet α) (i : Nat) : Option α := s.toList[i]?

private theorem distinct_append {s : IndexSet α} {x : α} (fresh : s.contains x = false) :
    (s.toList ++ [x]).Pairwise fun a b => (b == a) = false := by
  refine List.pairwise_append.2 ⟨s.distinct, List.pairwise_singleton _ _, ?_⟩
  intro a ha b hb
  rw [List.mem_singleton] at hb
  subst hb
  by_contra equal
  have : s.toList.contains b := List.contains_iff_exists_mem_beq.2 ⟨a, ha, by simpa using equal⟩
  simp_all [contains]

/-- `add(x)`, that is `IndexSet::insert`: append `x` unless an equal element is held. -/
def add (s : IndexSet α) (x : α) : IndexSet α :=
  if fresh : s.contains x = false then ⟨s.toList ++ [x], distinct_append fresh⟩ else s

@[simp] theorem toList_empty : (empty : IndexSet α).toList = [] := rfl

@[simp] theorem isEmpty_iff {s : IndexSet α} : s.isEmpty = true ↔ s.toList = [] :=
  List.isEmpty_iff

theorem toList_add_of_fresh {s : IndexSet α} {x : α} (fresh : s.contains x = false) :
    (s.add x).toList = s.toList ++ [x] := by
  simp [add, fresh]

theorem add_of_contains {s : IndexSet α} {x : α} (held : s.contains x = true) :
    s.add x = s := by
  simp [add, held]

/-- The positions of a set are its insertion order. -/
theorem getIndex_add_of_fresh {s : IndexSet α} {x : α} (fresh : s.contains x = false) :
    (s.add x).getIndex s.len = some x := by
  simp [getIndex, len, toList_add_of_fresh fresh]

section Lawful

variable [LawfulBEq α]

@[simp] theorem contains_iff {s : IndexSet α} {x : α} : s.contains x = true ↔ x ∈ s.toList := by
  simp [contains]

theorem nodup (s : IndexSet α) : s.toList.Nodup :=
  s.distinct.imp fun {a b} h same => by simp [same] at h

/-- A loop that adds the elements of a duplicate-free list passing a test collects
exactly those elements, in the order of the list. -/
theorem toList_foldl_add (p : α → Bool) :
    ∀ (l : List α) (acc : IndexSet α), l.Nodup → (∀ x ∈ l, x ∉ acc.toList) →
      (l.foldl (fun acc x => if p x then acc.add x else acc) acc).toList =
        acc.toList ++ l.filter p
  | [], acc, _, _ => by simp
  | x :: l, acc, nodup, fresh => by
    rw [List.nodup_cons] at nodup
    have absent : x ∉ acc.toList := fresh x (List.mem_cons_self x l)
    have fresh' : ∀ y ∈ l, y ∉ acc.toList := fun y hy => fresh y (List.mem_cons_of_mem x hy)
    by_cases keep : p x
    · have added : (acc.add x).toList = acc.toList ++ [x] :=
        toList_add_of_fresh (by simpa [contains] using absent)
      have fresh'' : ∀ y ∈ l, y ∉ (acc.add x).toList := by
        intro y hy
        simpa [added, fresh' y hy] using ne_of_mem_of_not_mem hy nodup.1
      simp [keep, toList_foldl_add p l _ nodup.2 fresh'', added]
    · simp [keep, toList_foldl_add p l acc nodup.2 fresh']

end Lawful

end IndexSet

end Tosca
