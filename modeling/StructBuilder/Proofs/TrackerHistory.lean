import Mathlib.Data.List.Induction
import StructBuilder.Proofs.Replay

/-!
What a tracker tells of its history. A marker is its place in the declaration. It is in the
tracker if it was required or inserted and has not been removed since; nothing else about the
history can be seen, for the tracker holds its markers in the one order that is ascending.
-/

namespace StructBuilder.Unset

/-- What is asked of a tracker. -/
inductive Request where
  | remove (marker : Nat)
  | insert (marker : Nat)
  | contains (marker : Nat)
  | isEmpty
  | names
  | checkSet (marker : Nat)
  | ensureComplete

inductive Answer where
  | truth (value : Bool)
  | listing (names : List String)
  | verdict (result : Except BuilderError Unit)

/-- The marker was required or inserted, and it was not removed afterwards. -/
def Held (required : List Nat) (requests : List Request) (marker : Nat) : Prop :=
  marker ∈ required ∧ .remove marker ∉ requests ∨
    ∃ before after, requests = before ++ .insert marker :: after ∧ .remove marker ∉ after

theorem held_concat {required : List Nat} {requests : List Request} {request : Request}
    {marker : Nat} : Held required (requests ++ [request]) marker ↔
      request = .insert marker ∨ request ≠ .remove marker ∧ Held required requests marker := by
  constructor
  · rintro (⟨mem, kept⟩ | ⟨before, after, split, kept⟩)
    · rw [List.mem_append, List.mem_singleton, not_or] at kept
      exact .inr ⟨Ne.symm kept.2, .inl ⟨mem, kept.1⟩⟩
    · rcases concat_eq_append_cons_iff.1 split with ⟨-, last, -⟩ | ⟨rest, rfl, rfl⟩
      · exact .inl last
      · rw [List.mem_append, List.mem_singleton, not_or] at kept
        exact .inr ⟨Ne.symm kept.2, .inr ⟨before, rest, rfl, kept.1⟩⟩
  · rintro (rfl | ⟨other, ⟨mem, kept⟩ | ⟨before, after, rfl, kept⟩⟩)
    · exact .inr ⟨requests, [], rfl, nofun⟩
    · exact .inl ⟨mem, by simp [kept, other.symm]⟩
    · exact .inr ⟨before, after ++ [request], by simp, by simp [kept, other.symm]⟩

/-- The names of the markers that are held, by declaration. -/
def Lists (name : Nat → String) (held : Nat → Prop) (names : List String) : Prop :=
  ∃ markers : List Nat, markers.Pairwise (· < ·) ∧ (∀ marker, marker ∈ markers ↔ held marker) ∧
    names = markers.map name

section

variable (typeName : String) (name : Nat → String)

/-- The answer to a request, and the tracker behind it. -/
def ask (unset : Unset) : Request → Answer × Unset
  | .remove marker => Prod.map .truth id (unset.remove marker)
  | .insert marker => Prod.map .truth id (unset.insert marker)
  | .contains marker => (.truth (unset.contains marker), unset)
  | .isEmpty => (.truth unset.isEmpty, unset)
  | .names => (.listing (unset.names name), unset)
  | .checkSet marker => (.verdict (unset.checkSet typeName name marker), unset)
  | .ensureComplete => (.verdict (unset.ensureComplete typeName name), unset)

def run (required : List Nat) (requests : List Request) : Unset :=
  requests.foldl (fun unset request => (ask typeName name unset request).2) (ofList required)

/-- The answer is right if these markers are held now, and those after the request. -/
def Truthful (now later : Nat → Prop) : Request → Answer → Prop
  | .remove marker, .truth changed | .insert marker, .truth changed =>
      changed = true ↔ ¬(now marker ↔ later marker)
  | .contains marker, .truth held => held = true ↔ now marker
  | .isEmpty, .truth empty => empty = true ↔ ∀ marker, ¬now marker
  | .names, .listing names => Lists name now names
  | .checkSet marker, .verdict result =>
      now marker ∧ result = .error (.incomplete typeName [name marker]) ∨
        ¬now marker ∧ result = .ok ()
  | .ensureComplete, .verdict result => ∃ missing, Lists name now missing ∧
      result = if missing = [] then .ok () else .error (.incomplete typeName missing)
  | _, _ => False

variable {typeName name} {unset : Unset} {held : Nat → Prop}

/-- The tracker holds these markers, and each where it belongs. -/
structure Holds (unset : Unset) (held : Nat → Prop) : Prop where
  ascending : unset.positions.Pairwise (· < ·)
  mem : ∀ marker, marker ∈ unset.positions ↔ held marker

theorem Holds.contains (holds : unset.Holds held) (marker : Nat) :
    unset.contains marker = true ↔ held marker := by
  rw [contains_eq, decide_eq_true_iff, holds.mem]

theorem Holds.lists (holds : unset.Holds held) (name : Nat → String) :
    Lists name held (unset.names name) :=
  ⟨unset.positions, holds.ascending, holds.mem, rfl⟩

theorem Holds.isEmpty (holds : unset.Holds held) :
    unset.isEmpty = true ↔ ∀ marker, ¬held marker := by
  rw [Unset.isEmpty, List.isEmpty_iff, List.eq_nil_iff_forall_not_mem]
  exact forall_congr' fun marker => not_congr (holds.mem marker)

theorem Holds.eq {other : Unset} (holds : unset.Holds held) (also : other.Holds held) :
    unset = other :=
  congrArg Unset.mk (Sorted.eq_of_ascending holds.ascending also.ascending fun marker =>
    (holds.mem marker).trans (also.mem marker).symm)

theorem ask_of_quiet {request : Request}
    (quiet : ∀ marker, request ≠ .remove marker ∧ request ≠ .insert marker) (unset : Unset) :
    (ask typeName name unset request).2 = unset := by
  cases request with
  | remove marker => exact absurd rfl (quiet marker).1
  | insert marker => exact absurd rfl (quiet marker).2
  | _ => rfl

theorem Holds.ask {required : List Nat} {requests : List Request}
    (holds : unset.Holds (Held required requests)) (request : Request) :
    (ask typeName name unset request).2.Holds (Held required (requests ++ [request])) := by
  cases request with
  | remove removed =>
      refine ⟨ascending_remove holds.ascending removed, fun marker => ?_⟩
      rw [held_concat, ← holds.mem]
      refine (mem_remove holds.ascending).trans ?_
      simp [eq_comm]
  | insert inserted =>
      refine ⟨Sorted.ascending_insert holds.ascending, fun marker => ?_⟩
      rw [held_concat, ← holds.mem]
      refine Sorted.mem_insert.trans ?_
      simp [eq_comm]
  | _ =>
      refine ⟨holds.ascending, fun marker => ?_⟩
      rw [held_concat, ← holds.mem]
      simp [Unset.ask]

theorem Holds.truthful {later : Nat → Prop} {request : Request} (holds : unset.Holds held)
    (after : (Unset.ask typeName name unset request).2.Holds later) :
    Truthful typeName name held later request (Unset.ask typeName name unset request).1 := by
  cases request with
  | remove marker =>
      have gone : ¬later marker := by
        rw [← after.mem]
        exact fun mem => ((mem_remove holds.ascending).1 mem).1 rfl
      change unset.contains marker = true ↔ _
      rw [holds.contains]
      tauto
  | insert marker =>
      have there : later marker := (after.mem marker).1 (Sorted.mem_insert.2 (.inl rfl))
      change (!unset.contains marker) = true ↔ _
      rw [Bool.not_eq_true', ← Bool.not_eq_true, holds.contains]
      tauto
  | contains marker => exact holds.contains marker
  | isEmpty => exact holds.isEmpty
  | names => exact holds.lists name
  | checkSet marker =>
      change held marker ∧ unset.checkSet typeName name marker = _ ∨
        ¬held marker ∧ unset.checkSet typeName name marker = _
      rw [Unset.checkSet, ← holds.contains]
      cases unset.contains marker with
      | true => exact .inl ⟨rfl, rfl⟩
      | false => exact .inr ⟨Bool.false_ne_true, rfl⟩
  | ensureComplete =>
      refine ⟨unset.names name, holds.lists name, if_congr ?_ rfl rfl⟩
      rw [Unset.isEmpty, List.isEmpty_iff, names, List.map_eq_nil_iff]

variable (typeName name) in
theorem holds_run (required : List Nat) (requests : List Request) :
    (run typeName name required requests).Holds (Held required requests) := by
  induction requests using List.reverseRecOn with
  | nil =>
      refine ⟨ascending_ofList required, fun marker => mem_ofList.trans ?_⟩
      simp [Held]
  | append_singleton requests request ih =>
      rw [run, List.foldl_append]
      exact ih.ask request

end

/-- What a tracker shows of the markers that were required and of what was asked of it since. -/
structure Follows (typeName : String) (name : Nat → String) (required : List Nat)
    (requests : List Request) (unset : Unset) : Prop where
  contains : ∀ marker, unset.contains marker = true ↔ Held required requests marker
  truthful : ∀ request, Truthful typeName name (Held required requests)
    (Held required (requests ++ [request])) request (ask typeName name unset request).1
  /-- Looking at a tracker leaves it as it is. -/
  kept : ∀ request, (∀ marker, request ≠ .remove marker ∧ request ≠ .insert marker) →
    (ask typeName name unset request).2 = unset
  canonical : ∀ others more,
    (∀ marker, (run typeName name others more).contains marker = unset.contains marker) →
      run typeName name others more = unset

/-- A tracker is the set of the markers that its history holds, in declaration order. -/
theorem follows_run (typeName : String) (name : Nat → String) (required : List Nat)
    (requests : List Request) :
    Follows typeName name required requests (run typeName name required requests) where
  contains := (holds_run typeName name required requests).contains
  truthful request :=
    have holds := holds_run typeName name required requests
    holds.truthful (holds.ask request)
  kept _ quiet := ask_of_quiet quiet _
  canonical others more same := by
    have holds := holds_run typeName name required requests
    have also := holds_run typeName name others more
    refine also.eq ⟨holds.ascending, fun marker => ?_⟩
    rw [holds.mem, ← holds.contains, ← also.contains, same]

end StructBuilder.Unset
