import Mathlib.Data.List.Basic
import StructBuilder.Counted

/-!
Where a counted source stands. Whatever is asked of it, it goes forward over the items that are
left and hands out the last ones it went over, or none, or all. So its count is the place it has
come to among the items that it was made of, and everything it gives can be told from that place.
-/

namespace StructBuilder.Counted

variable {α : Type}

/-- The source with its next items taken. -/
def skip (n : Nat) (source : Counted α) : Counted α :=
  ⟨source.remaining.drop n, source.pulls + min n source.remaining.length⟩

@[simp] theorem skip_zero (source : Counted α) : source.skip 0 = source := by
  simp [skip]

@[simp] theorem skip_nil (n pulls : Nat) : skip n ⟨([] : List α), pulls⟩ = ⟨[], pulls⟩ := by
  simp [skip]

theorem skip_of_nil {source : Counted α} (none : source.remaining = []) (n : Nat) :
    source.skip n = source := by
  obtain ⟨_, pulls⟩ := source
  subst none
  exact skip_nil n pulls

@[simp] theorem skip_cons (n : Nat) (item : α) (rest : List α) (pulls : Nat) :
    skip (n + 1) ⟨item :: rest, pulls⟩ = skip n ⟨rest, pulls + 1⟩ := by
  simp only [skip, List.drop_succ_cons, List.length_cons, mk.injEq, true_and]
  omega

/-! Taking in each of the ways. -/

theorem next_eq (source : Counted α) : source.next = (source.remaining.head?, source.skip 1) := by
  obtain ⟨_ | ⟨item, rest⟩, pulls⟩ := source <;> simp [next]

section

variable {source later : Counted α} {item : α}

theorem eq_of_next_none (none : source.next = (none, later)) :
    source.remaining = [] ∧ later = source := by
  obtain ⟨_ | ⟨item, left⟩, pulls⟩ := source <;> cases none
  exact ⟨rfl, rfl⟩

theorem eq_of_next_some (one : source.next = (some item, later)) :
    source.remaining = item :: later.remaining ∧ ∀ n, source.skip (n + 1) = later.skip n := by
  obtain ⟨_ | ⟨item, left⟩, pulls⟩ := source <;> cases one
  exact ⟨rfl, fun n => skip_cons n item left pulls⟩

end

theorem nth_eq (n : Nat) (source : Counted α) :
    nth n source = (source.remaining[n]?, source.skip (n + 1)) := by
  induction n generalizing source with
  | zero => rw [nth, next_eq, List.head?_eq_getElem?]
  | succ n ih => obtain ⟨_ | ⟨item, rest⟩, pulls⟩ := source <;> simp [nth, next_eq, ih]

theorem take_eq (n : Nat) (source : Counted α) :
    take n source = (source.remaining.take n, source.skip n) := by
  induction n generalizing source with
  | zero => simp [take]
  | succ n ih => obtain ⟨_ | ⟨item, rest⟩, pulls⟩ := source <;> simp [take, next_eq, ih]

theorem rest_eq (source : Counted α) :
    source.rest = (source.remaining, source.skip source.remaining.length) := by
  fun_induction rest source with
  | case1 source later none =>
      obtain ⟨left, rfl⟩ := eq_of_next_none none
      rw [left, skip_of_nil left]
  | case2 source item behind one items later all ih =>
      obtain ⟨left, skipped⟩ := eq_of_next_some one
      cases ih.symm.trans all
      rw [left, List.length_cons, skipped]

theorem count_eq (source : Counted α) :
    source.count = (source.remaining.length, source.skip source.remaining.length) := by
  rw [count, rest_eq]

theorem find_eq (p : α → Bool) (source : Counted α) : source.find p =
    (source.remaining.find? p, source.skip (source.remaining.findIdx p + 1)) := by
  fun_induction find p source with
  | case1 source later none =>
      obtain ⟨left, rfl⟩ := eq_of_next_none none
      rw [left, skip_of_nil left, List.find?_nil]
  | case2 source item behind one fits =>
      obtain ⟨left, skipped⟩ := eq_of_next_some one
      rw [left, skipped, List.find?_cons_of_pos fits, List.findIdx_cons, fits, cond_true, skip_zero]
  | case3 source item behind one other ih =>
      obtain ⟨left, skipped⟩ := eq_of_next_some one
      rw [ih, left, skipped, List.find?_cons_of_neg other, List.findIdx_cons,
        Bool.eq_false_iff.2 other, cond_false]

/-! Requests. -/

/-- What is asked of a source. -/
inductive Request (α : Type) where
  | next
  | nth (n : Nat)
  | take (n : Nat)
  | rest
  | count
  | find (p : α → Bool)

inductive Answer (α : Type) where
  | item (given : Option α)
  | items (given : List α)
  | number (n : Nat)

/-- The items that the answer hands out. -/
def Answer.given : Answer α → List α
  | .item given => given.toList
  | .items given => given
  | .number _ => []

/-- The answer to a request, and the source behind it. -/
def ask (source : Counted α) : Request α → Answer α × Counted α
  | .next => Prod.map .item id source.next
  | .nth n => Prod.map .item id (nth n source)
  | .take n => Prod.map .items id (take n source)
  | .rest => Prod.map .items id source.rest
  | .count => Prod.map .number id source.count
  | .find p => Prod.map .item id (source.find p)

def run (items : List α) (requests : List (Request α)) : Counted α :=
  requests.foldl (fun source request => (source.ask request).2) (ofList items)

namespace Request

/-- How many of the items that are left a request goes over, if there are so many. -/
def reach (left : List α) : Request α → Nat
  | .next => 1
  | .nth n => n + 1
  | .take n => n
  | .rest | .count => left.length
  | .find p => left.findIdx p + 1

/-- What is to be answered when these items are left. -/
def answer (left : List α) : Request α → Answer α
  | .next => .item left.head?
  | .nth n => .item left[n]?
  | .take n => .items (left.take n)
  | .rest => .items left
  | .count => .number left.length
  | .find p => .item (left.find? p)

/-- What is handed out is the end of what is gone over. -/
theorem given_suffix (left : List α) (request : Request α) :
    (request.answer left).given <:+ left.take (request.reach left) := by
  have last (n : Nat) : left[n]?.toList <:+ left.take (n + 1) := by
    rw [List.take_add_one]
    exact List.suffix_append _ _
  cases request with
  | next =>
      change left.head?.toList <:+ _
      rw [List.head?_eq_getElem?]
      exact last 0
  | nth n => exact last n
  | take n => exact List.suffix_rfl
  | rest => exact (List.take_length (l := left)).symm ▸ List.suffix_rfl
  | count => exact List.nil_suffix
  | find p =>
      change (left.find? p).toList <:+ _
      rw [List.find?_eq_getElem?_findIdx]
      exact last (left.findIdx p)

end Request

theorem ask_eq (source : Counted α) (request : Request α) : source.ask request =
    (request.answer source.remaining, source.skip (request.reach source.remaining)) := by
  cases request with
  | next => rw [ask, next_eq]; rfl
  | nth n => rw [ask, nth_eq]; rfl
  | take n => rw [ask, take_eq]; rfl
  | rest => rw [ask, rest_eq]; rfl
  | count => rw [ask, count_eq]; rfl
  | find p => rw [ask, find_eq]; rfl

/-- The items that requests go over, one request after the other. -/
def consumed : List α → List (Request α) → List α
  | _, [] => []
  | left, request :: later =>
      left.take (request.reach left) ++ consumed (left.drop (request.reach left)) later

section

variable {items taken : List α} {source : Counted α}

/-- These items were taken one by one from a source that was made of all of them. -/
structure Stands (items taken : List α) (source : Counted α) : Prop where
  split : taken ++ source.remaining = items
  pulls : source.pulls = taken.length

theorem Stands.remaining (stands : Stands items taken source) :
    source.remaining = items.drop source.pulls := by
  rw [← stands.split, stands.pulls, List.drop_left]

theorem Stands.bounded (stands : Stands items taken source) : source.pulls ≤ items.length := by
  rw [← stands.split, stands.pulls, List.length_append]
  exact Nat.le_add_right _ _

theorem Stands.skip (stands : Stands items taken source) (n : Nat) :
    Stands items (taken ++ source.remaining.take n) (source.skip n) where
  split := by
    rw [List.append_assoc]
    exact (congrArg (taken ++ ·) (List.take_append_drop n _)).trans stands.split
  pulls := by
    rw [List.length_append, List.length_take, ← stands.pulls]
    rfl

theorem Stands.pulls_skip (stands : Stands items taken source) (n : Nat) :
    (source.skip n).pulls = min (source.pulls + n) items.length := by
  have bounded := stands.bounded
  simp only [Counted.skip, stands.remaining, List.length_drop]
  omega

/-- Between the two counts are the items that were gone over. -/
theorem Stands.between (stands : Stands items taken source) (n : Nat) :
    (items.take (source.skip n).pulls).drop source.pulls = source.remaining.take n := by
  rw [List.drop_take, ← stands.remaining, List.take_eq_take_iff, stands.pulls_skip,
    stands.remaining, List.length_drop]
  omega

theorem Stands.run (stands : Stands items taken source) (requests : List (Request α)) :
    Stands items (taken ++ consumed source.remaining requests)
      (requests.foldl (fun source request => (source.ask request).2) source) := by
  induction requests generalizing taken source with
  | nil => rwa [consumed, List.append_nil]
  | cons request later ih =>
      have behind := ih (stands.skip (request.reach source.remaining))
      rw [List.append_assoc] at behind
      rwa [List.foldl_cons, ask_eq]

theorem stands_ofList (items : List α) : Stands items [] (ofList items) :=
  ⟨rfl, rfl⟩

theorem stands_run (items : List α) (requests : List (Request α)) :
    Stands items (consumed items requests) (run items requests) :=
  (stands_ofList items).run requests

end

/-- What the count of a source tells of the items that it was made of and of what was asked of
it: how many were taken, which of them are left, and all that is still to be given. -/
structure Accounted (items : List α) (requests : List (Request α)) (source : Counted α) :
    Prop where
  counted : source.pulls = (consumed items requests).length
  split : consumed items requests ++ source.remaining = items
  remaining : source.remaining = items.drop source.pulls
  bounded : source.pulls ≤ items.length
  answered : ∀ request, (source.ask request).1 = request.answer (items.drop source.pulls)
  advanced : ∀ request, (source.ask request).2.pulls =
    min (source.pulls + request.reach (items.drop source.pulls)) items.length
  /-- What is handed out ends where the count ends, and begins where it began or later. -/
  placed : ∀ request, (source.ask request).1.given <:+
    (items.take (source.ask request).2.pulls).drop source.pulls
  exhausted : source.pulls = items.length → ∀ request, (source.ask request).2 = source

/-- A source has given as many of its items as it counts, whatever was asked of it. -/
theorem accounted_run (items : List α) (requests : List (Request α)) :
    Accounted items requests (run items requests) := by
  have stands := stands_run items requests
  refine ⟨stands.pulls, stands.split, stands.remaining, stands.bounded, fun request => ?_,
    fun request => ?_, fun request => ?_, fun all request => ?_⟩
  · rw [ask_eq, ← stands.remaining]
  · rw [ask_eq, stands.pulls_skip, ← stands.remaining]
  · rw [ask_eq, stands.between]
    exact request.given_suffix _
  · have none : (run items requests).remaining = [] := by
      rw [stands.remaining, all, List.drop_length]
    rw [ask_eq, skip_of_nil none]

example : (run ["a", "b", "c"] [.next, .find (· == "c"), .nth 2]).pulls = 3 := by cbv

end StructBuilder.Counted
