import Mathlib.Data.List.Basic
import StructBuilder.Run.Unset

/-!
Sorted sequences, and the tracker that is one. Items whose keys compare unequal are
only reordered, whatever the order is; for positions insertion is that of a set.
-/

namespace StructBuilder

namespace Sorted

section

variable {α κ : Type} [Ord κ] {key : α → κ} {item : α} {items : List α}

theorem mem_of_mem_insert {other : α} (h : other ∈ insert key item items) :
    other = item ∨ other ∈ items := by
  induction items with
  | nil => exact .inl (List.mem_singleton.1 h)
  | cons first rest ih =>
      rw [insert] at h
      split at h
      · exact List.mem_cons.1 h
      · rcases List.mem_cons.1 h with h | h
        · exact .inl h
        · exact .inr (List.mem_cons_of_mem _ h)
      · rcases List.mem_cons.1 h with rfl | h
        · exact .inr List.mem_cons_self
        · exact (ih h).imp_right (List.mem_cons_of_mem _)

theorem mem_of_mem_ofList {other : α} (h : other ∈ ofList key items) : other ∈ items := by
  have inside (sorted : List α) :
      other ∈ items.foldl (fun sorted item => insert key item sorted) sorted →
        other ∈ sorted ∨ other ∈ items := by
    clear h
    induction items generalizing sorted with
    | nil => exact .inl
    | cons item rest ih =>
        intro h
        rcases ih _ h with h | h
        · rcases mem_of_mem_insert h with rfl | h
          · exact .inr List.mem_cons_self
          · exact .inl h
        · exact .inr (List.mem_cons_of_mem _ h)
  exact (inside [] h).resolve_left List.not_mem_nil

theorem insert_perm (apart : ∀ other ∈ items, compare (key item) (key other) ≠ .eq) :
    (insert key item items).Perm (item :: items) := by
  induction items with
  | nil => exact .refl _
  | cons first rest ih =>
      rw [insert]
      split
      · exact .refl _
      · rename_i same
        exact absurd same (apart first List.mem_cons_self)
      · exact ((ih fun other mem => apart other (List.mem_cons_of_mem _ mem)).cons first).trans
          (.swap item first rest)

theorem foldl_insert_perm {sorted : List α}
    (new : ∀ old ∈ sorted, ∀ item ∈ items, compare (key item) (key old) ≠ .eq)
    (apart : items.Pairwise fun first second => compare (key second) (key first) ≠ .eq) :
    (items.foldl (fun sorted item => insert key item sorted) sorted).Perm (sorted ++ items) := by
  induction items generalizing sorted with
  | nil => simp
  | cons item rest ih =>
      obtain ⟨first, apart⟩ := List.pairwise_cons.1 apart
      have inserted : (insert key item sorted).Perm (item :: sorted) :=
        insert_perm fun old mem => new old mem item List.mem_cons_self
      refine (ih ?_ apart).trans ?_
      · intro old mem other later
        rcases List.mem_cons.1 (inserted.mem_iff.1 mem) with rfl | mem
        · exact first other later
        · exact new old mem other (List.mem_cons_of_mem _ later)
      · exact (inserted.append_right rest).trans List.perm_middle.symm

theorem ofList_perm
    (apart : items.Pairwise fun first second => compare (key second) (key first) ≠ .eq) :
    (ofList key items).Perm items :=
  foldl_insert_perm (fun _ mem => absurd mem List.not_mem_nil) apart

/-! Where the order is one, and no two keys compare equal, keys ascend. -/

variable {within : κ → Prop}
  (lt_of_gt : ∀ {a b}, within a → within b → compare a b = .gt → compare b a = .lt)
  (lt_trans : ∀ {a b c}, within a → within b → within c → compare a b = .lt →
    compare b c = .lt → compare a c = .lt)

include lt_of_gt lt_trans

theorem pairwise_insert (new : within (key item)) (known : ∀ other ∈ items, within (key other))
    (apart : ∀ other ∈ items, compare (key item) (key other) ≠ .eq)
    (ascending : items.Pairwise fun first second => compare (key first) (key second) = .lt) :
    (insert key item items).Pairwise fun first second =>
      compare (key first) (key second) = .lt := by
  induction items with
  | nil => exact List.pairwise_singleton _ _
  | cons first rest ih =>
      obtain ⟨below, ascending⟩ := List.pairwise_cons.1 ascending
      obtain ⟨head, tail⟩ := List.forall_mem_cons.1 known
      rw [insert]
      split
      · rename_i less
        refine List.pairwise_cons.2 ⟨fun other mem => ?_, List.pairwise_cons.2 ⟨below, ascending⟩⟩
        rcases List.mem_cons.1 mem with rfl | mem
        · exact less
        · exact lt_trans new head (tail other mem) less (below other mem)
      · rename_i same
        exact absurd same (apart first List.mem_cons_self)
      · rename_i greater
        refine List.pairwise_cons.2 ⟨fun other mem => ?_,
          ih tail (fun other mem => apart other (List.mem_cons_of_mem _ mem)) ascending⟩
        rcases mem_of_mem_insert mem with rfl | mem
        · exact lt_of_gt new head greater
        · exact below other mem

theorem pairwise_foldl_insert {sorted : List α} (old : ∀ other ∈ sorted, within (key other))
    (known : ∀ item ∈ items, within (key item))
    (new : ∀ other ∈ sorted, ∀ item ∈ items, compare (key item) (key other) ≠ .eq)
    (apart : items.Pairwise fun first second => compare (key second) (key first) ≠ .eq)
    (ascending : sorted.Pairwise fun first second => compare (key first) (key second) = .lt) :
    (items.foldl (fun sorted item => insert key item sorted) sorted).Pairwise
      fun first second => compare (key first) (key second) = .lt := by
  induction items generalizing sorted with
  | nil => exact ascending
  | cons item rest ih =>
      obtain ⟨first, apart⟩ := List.pairwise_cons.1 apart
      obtain ⟨head, tail⟩ := List.forall_mem_cons.1 known
      have differs : ∀ other ∈ sorted, compare (key item) (key other) ≠ .eq :=
        fun other mem => new other mem item List.mem_cons_self
      refine ih ?_ tail ?_ apart
        (pairwise_insert lt_of_gt lt_trans head old differs ascending)
      · intro other mem
        rcases mem_of_mem_insert mem with rfl | mem
        · exact head
        · exact old other mem
      · intro other mem later there
        rcases mem_of_mem_insert mem with rfl | mem
        · exact first later there
        · exact new other mem later (List.mem_cons_of_mem _ there)

theorem pairwise_ofList (known : ∀ item ∈ items, within (key item))
    (apart : items.Pairwise fun first second => compare (key second) (key first) ≠ .eq) :
    (ofList key items).Pairwise fun first second => compare (key first) (key second) = .lt :=
  pairwise_foldl_insert lt_of_gt lt_trans (fun _ mem => absurd mem List.not_mem_nil) known
    (fun _ mem => absurd mem List.not_mem_nil) apart .nil

end

theorem mem_insert {number item : Nat} {numbers : List Nat} :
    number ∈ insert id item numbers ↔ number = item ∨ number ∈ numbers := by
  induction numbers with
  | nil => simp [insert]
  | cons first rest ih =>
      rw [insert]
      split
      · simp
      · rename_i same
        rw [id, id, Nat.compare_eq_eq] at same
        simp [same]
      · simp only [List.mem_cons, ih]
        tauto

theorem ascending_insert {item : Nat} {numbers : List Nat} (h : numbers.Pairwise (· < ·)) :
    (insert id item numbers).Pairwise (· < ·) := by
  induction numbers with
  | nil => simp [insert]
  | cons first rest ih =>
      obtain ⟨below, ascending⟩ := List.pairwise_cons.1 h
      rw [insert]
      split
      · rename_i less
        rw [id, id, Nat.compare_eq_lt] at less
        exact List.pairwise_cons.2 ⟨fun other mem => by
          rcases List.mem_cons.1 mem with rfl | mem
          · exact less
          · exact Nat.lt_trans less (below other mem), h⟩
      · rename_i same
        rw [id, id, Nat.compare_eq_eq] at same
        exact same ▸ h
      · rename_i greater
        rw [id, id, Nat.compare_eq_gt] at greater
        refine List.pairwise_cons.2 ⟨fun other mem => ?_, ih ascending⟩
        rcases mem_insert.1 mem with rfl | mem
        · exact greater
        · exact below other mem

theorem nodup_of_ascending {numbers : List Nat} (h : numbers.Pairwise (· < ·)) : numbers.Nodup :=
  h.imp fun less => Nat.ne_of_lt less

theorem eq_of_ascending {left right : List Nat} (hl : left.Pairwise (· < ·))
    (hr : right.Pairwise (· < ·)) (same : ∀ number, number ∈ left ↔ number ∈ right) :
    left = right := by
  have perm : left.Perm right :=
    (List.perm_ext_iff_of_nodup (nodup_of_ascending hl) (nodup_of_ascending hr)).2 same
  exact perm.eq_of_pairwise (fun _ _ _ _ hab hba => absurd hab (Nat.lt_asymm hba)) hl hr

end Sorted

namespace Unset

theorem mem_ofList {position : Nat} {required : List Nat} :
    position ∈ (ofList required).positions ↔ position ∈ required := by
  have mem (numbers : List Nat) : position ∈
      required.foldl (fun sorted item => Sorted.insert id item sorted) numbers ↔
        position ∈ numbers ∨ position ∈ required := by
    induction required generalizing numbers with
    | nil => simp
    | cons first rest ih =>
        rw [List.foldl_cons, ih, Sorted.mem_insert, List.mem_cons]
        tauto
  exact (mem []).trans (by simp)

theorem ascending_ofList (required : List Nat) : (ofList required).positions.Pairwise (· < ·) := by
  have ascending (numbers : List Nat) (h : numbers.Pairwise (· < ·)) :
      (required.foldl (fun sorted item => Sorted.insert id item sorted) numbers).Pairwise
        (· < ·) := by
    induction required generalizing numbers with
    | nil => exact h
    | cons first rest ih => exact ih _ (Sorted.ascending_insert h)
  exact ascending [] .nil

theorem contains_eq (unset : Unset) (position : Nat) :
    unset.contains position = decide (position ∈ unset.positions) :=
  List.elem_eq_mem ..

theorem mem_remove {unset : Unset} (h : unset.positions.Pairwise (· < ·)) {removed position : Nat} :
    position ∈ (unset.remove removed).2.positions ↔
      position ≠ removed ∧ position ∈ unset.positions :=
  (Sorted.nodup_of_ascending h).mem_erase_iff

theorem ascending_remove {unset : Unset} (h : unset.positions.Pairwise (· < ·)) (position : Nat) :
    (unset.remove position).2.positions.Pairwise (· < ·) :=
  h.erase position

end Unset
end StructBuilder
