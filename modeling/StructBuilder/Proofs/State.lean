import Mathlib.Data.List.Basic
import StructBuilder.Run.State

/-!
Reading and changing states by field. A change of one field leaves all others and the
tracker alone, and states whose fields have different names are equal as soon as they
answer alike.
-/

namespace StructBuilder

namespace Run.State

variable {V : Type}

def names (state : State V) : List String :=
  state.cells.map (·.1)

@[simp] theorem names_update (field : String) (change : Cell V → Cell V) (state : State V) :
    (state.update field change).names = state.names := by
  simp [names, update, Function.comp_def]

@[simp] theorem unset_update (field : String) (change : Cell V → Cell V) (state : State V) :
    (state.update field change).unset = state.unset := rfl

theorem cell?_update (field other : String) (change : Cell V → Cell V) (state : State V) :
    (state.update field change).cell? other =
      (state.cell? other).map fun cell => if other = field then change cell else cell := by
  obtain ⟨cells, unset⟩ := state
  simp only [cell?, update]
  induction cells with
  | nil => rfl
  | cons entry rest ih =>
      obtain ⟨name, cell⟩ := entry
      simp only [List.map_cons, List.lookup_cons, ih]
      by_cases h : other = name
      · subst h
        simp
      · simp [beq_false_of_ne h]

theorem cell?_update_same {field : String} {cell : Cell V} {state : State V}
    (h : state.cell? field = some cell) (change : Cell V → Cell V) :
    (state.update field change).cell? field = some (change cell) := by
  simp [cell?_update, h]

theorem cell?_update_of_ne {field other : String} (h : other ≠ field) (change : Cell V → Cell V)
    (state : State V) : (state.update field change).cell? other = state.cell? other := by
  simp [cell?_update, h]

@[simp] theorem names_put (field : String) (cell : Cell V) (state : State V) :
    (state.put field cell).names = state.names :=
  names_update ..

@[simp] theorem unset_put (field : String) (cell : Cell V) (state : State V) :
    (state.put field cell).unset = state.unset := rfl

theorem cell?_put_same {field : String} {old : Cell V} {state : State V}
    (h : state.cell? field = some old) (cell : Cell V) :
    (state.put field cell).cell? field = some cell :=
  cell?_update_same h _

theorem cell?_put_of_ne {field other : String} (h : other ≠ field) (cell : Cell V)
    (state : State V) : (state.put field cell).cell? other = state.cell? other :=
  cell?_update_of_ne h _ state

theorem update_of_fixed {field : String} {change : Cell V → Cell V} {state : State V}
    (distinct : state.names.Nodup)
    (h : ∀ cell, state.cell? field = some cell → change cell = cell) :
    state.update field change = state := by
  obtain ⟨cells, unset⟩ := state
  simp only [names, cell?, update, mk.injEq, and_true] at *
  induction cells with
  | nil => rfl
  | cons entry rest ih =>
      obtain ⟨name, cell⟩ := entry
      simp only [List.map_cons, List.nodup_cons] at distinct
      simp only [List.map_cons, List.cons.injEq, Prod.mk.injEq, true_and]
      by_cases same : field = name
      · subst same
        refine ⟨by simpa using h cell (by simp), ?_⟩
        conv_rhs => rw [← List.map_id rest]
        apply List.map_congr_left
        intro other mem
        have ne : other.1 ≠ field := fun eq => distinct.1 (List.mem_map.2 ⟨other, mem, eq⟩)
        simp [ne]
      · refine ⟨by simp [Ne.symm same], ih distinct.2 ?_⟩
        intro old found
        exact h old (by simpa [List.lookup_cons, beq_false_of_ne same] using found)

/-- States with the same fields are equal if they hold the same. -/
theorem eq_of_cell? {left right : State V} (names : left.names = right.names)
    (distinct : left.names.Nodup) (cells : ∀ field, left.cell? field = right.cell? field)
    (unset : left.unset = right.unset) : left = right := by
  obtain ⟨lefts, unset⟩ := left
  obtain ⟨rights, _⟩ := right
  simp only [State.names, cell?, mk.injEq] at *
  refine ⟨?_, unset⟩
  clear unset
  induction lefts generalizing rights with
  | nil => cases rights <;> simp_all
  | cons entry lefts ih =>
      obtain ⟨name, cell⟩ := entry
      cases rights with
      | nil => simp at names
      | cons other rights =>
          obtain ⟨_, _⟩ := other
          simp only [List.map_cons, List.cons.injEq, List.nodup_cons] at names distinct
          obtain ⟨rfl, names⟩ := names
          have first := cells name
          simp only [List.lookup_cons_self, Option.some.injEq] at first
          subst first
          congr 1
          refine ih distinct.2 rights names fun field => ?_
          by_cases h : field = name
          · subst h
            have absent (items : List (String × Cell V)) (h : field ∉ items.map (·.1)) :
                items.lookup field = none :=
              List.lookup_eq_none_iff.2 fun entry mem =>
                bne_iff_ne.2 fun eq => h (eq ▸ List.mem_map_of_mem mem)
            rw [absent _ distinct.1, absent _ (names ▸ distinct.1)]
          · simpa [List.lookup_cons, beq_false_of_ne h] using cells field

/-- In a state whose fields have different names, a change depends on the cell alone. -/
theorem update_eq_put {state : State V} (distinct : state.names.Nodup) {field : String}
    {cell : Cell V} (h : state.cell? field = some cell) (change : Cell V → Cell V) :
    state.update field change = state.put field (change cell) := by
  apply eq_of_cell?
  · simp
  · simpa using distinct
  · intro other
    rw [put, cell?_update, cell?_update]
    by_cases same : other = field
    · subst same; simp [h]
    · simp [same]
  · rfl

theorem put_self {state : State V} (distinct : state.names.Nodup) {field : String} {cell : Cell V}
    (h : state.cell? field = some cell) : state.put field cell = state :=
  update_of_fixed distinct fun old found => by simp_all

theorem cell?_of_mem {state : State V} (distinct : state.names.Nodup) {field : String}
    {cell : Cell V} (mem : (field, cell) ∈ state.cells) : state.cell? field = some cell := by
  obtain ⟨cells, unset⟩ := state
  simp only [names, cell?] at *
  induction cells with
  | nil => cases mem
  | cons entry rest ih =>
      obtain ⟨name, other⟩ := entry
      obtain ⟨absent, distinct⟩ := List.nodup_cons.1 distinct
      rcases List.mem_cons.1 mem with same | mem
      · obtain ⟨rfl, rfl⟩ := Prod.mk.inj same
        exact List.lookup_cons_self
      · have ne : field ≠ name := fun eq => absent (List.mem_map.2 ⟨_, mem, eq⟩)
        rw [List.lookup_cons, beq_false_of_ne ne]
        exact ih distinct mem

theorem cell?_eq_none {state : State V} {field : String} (h : field ∉ state.names) :
    state.cell? field = none :=
  List.lookup_eq_none_iff.2 fun _ mem => bne_iff_ne.2 fun eq => h (eq ▸ List.mem_map_of_mem mem)

/-! Changes of several fields. -/

section

variable {α : Type} (field : α → String) (change : α → Cell V → Cell V)

theorem names_foldl_update (items : List α) (state : State V) :
    (items.foldl (fun state item => state.update (field item) (change item)) state).names =
      state.names := by
  induction items generalizing state with
  | nil => rfl
  | cons item rest ih => rw [List.foldl_cons, ih, names_update]

theorem unset_foldl_update (items : List α) (state : State V) :
    (items.foldl (fun state item => state.update (field item) (change item)) state).unset =
      state.unset := by
  induction items generalizing state with
  | nil => rfl
  | cons item rest ih => rw [List.foldl_cons, ih, unset_update]

theorem cell?_foldl_update_of_not_mem {items : List α} {other : String}
    (h : other ∉ items.map field) (state : State V) :
    (items.foldl (fun state item => state.update (field item) (change item)) state).cell? other =
      state.cell? other := by
  induction items generalizing state with
  | nil => rfl
  | cons item rest ih =>
      obtain ⟨ne, absent⟩ := not_or.1 (mt List.mem_cons.2 h)
      rw [List.foldl_cons, ih absent, cell?_update_of_ne ne]

/-- Every field is changed once. -/
theorem cell?_foldl_update {items : List α} (distinct : (items.map field).Nodup) {item : α}
    (mem : item ∈ items) (state : State V) :
    (items.foldl (fun state item => state.update (field item) (change item)) state).cell?
        (field item) = (state.cell? (field item)).map (change item) := by
  induction items generalizing state with
  | nil => cases mem
  | cons first rest ih =>
      obtain ⟨absent, distinct⟩ := List.nodup_cons.1 distinct
      rw [List.foldl_cons]
      rcases List.mem_cons.1 mem with rfl | mem
      · rw [cell?_foldl_update_of_not_mem field change absent, cell?_update]
        simp
      · have ne : field item ≠ field first := fun eq => absent (eq ▸ List.mem_map_of_mem mem)
        rw [ih distinct mem, cell?_update_of_ne ne]

end

end Run.State
end StructBuilder
