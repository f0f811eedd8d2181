/-!
Sources of items that count how many were taken from them. Everything takes its items
by `next`, one at a time, so skipped items count and an exhausted source does not.
-/

namespace StructBuilder

structure Counted (α : Type) where
  remaining : List α
  /-- How many items were taken so far. -/
  pulls : Nat

namespace Counted

variable {α : Type}

def ofList (items : List α) : Counted α :=
  ⟨items, 0⟩

def next (source : Counted α) : Option α × Counted α :=
  match source.remaining with
  | [] => (none, source)
  | item :: rest => (some item, ⟨rest, source.pulls + 1⟩)

theorem length_remaining_of_next {source rest : Counted α} {item : α}
    (h : source.next = (some item, rest)) : rest.remaining.length < source.remaining.length := by
  unfold next at h
  split at h
  · cases h
  · next hr => cases h; simp [hr]

/-- The item behind `n` others. -/
def nth : Nat → Counted α → Option α × Counted α
  | 0, source => source.next
  | n + 1, source =>
      match source.next with
      | (none, source) => (none, source)
      | (some _, source) => nth n source

/-- The next `n` items, or fewer if there are no more. -/
def take : Nat → Counted α → List α × Counted α
  | 0, source => ([], source)
  | n + 1, source =>
      match source.next with
      | (none, source) => ([], source)
      | (some item, source) =>
          let (items, source) := take n source
          (item :: items, source)

/-- All items that are left. -/
def rest (source : Counted α) : List α × Counted α :=
  match _h : source.next with
  | (none, source) => ([], source)
  | (some item, source) =>
      let (items, source) := source.rest
      (item :: items, source)
termination_by source.remaining.length
decreasing_by exact length_remaining_of_next _h

/-- How many items are left, after taking them. -/
def count (source : Counted α) : Nat × Counted α :=
  let (items, source) := source.rest
  (items.length, source)

/-- The next item of this kind; everything before it is taken too. -/
def find (p : α → Bool) (source : Counted α) : Option α × Counted α :=
  match _h : source.next with
  | (none, source) => (none, source)
  | (some item, source) => if p item then (some item, source) else source.find p
termination_by source.remaining.length
decreasing_by exact length_remaining_of_next _h

end Counted
end StructBuilder
