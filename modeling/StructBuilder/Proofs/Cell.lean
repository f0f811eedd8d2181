import Mathlib.Data.List.Basic
import StructBuilder.Proofs.OrderedMap
import StructBuilder.Run.Cell

/-!
What cells hold, as lists. Both kinds of storage for maps, and likewise for sets, go
through the same lists and differ only in the side on which the sought key stands, so
one relation `same` describes all of them. Nothing is assumed of the equality test.
-/

namespace StructBuilder.Run.Cell

variable {V : Type}

/-- The cell is of the kind that belongs to the storage. -/
def Fits : Emit.Storage → Cell V → Prop
  | .plain _, .plain _ | .option _, .option _ | .indexMap _ _, .indexMap _
  | .orderedMap _ _, .orderedMap _ | .indexSet _, .indexSet _ | .orderedSet _, .orderedSet _
  | .vector _, .vector _ => True
  | _, _ => False

def HoldsEntries : Cell V → Prop
  | indexMap _ | orderedMap _ => True
  | _ => False

def HoldsElements : Cell V → Prop
  | indexSet _ | orderedSet _ | vector _ => True
  | _ => False

@[simp] theorem containsKey_ofStorage [BEq V] (storage : Emit.Storage) (key : V) :
    (ofStorage storage : Cell V).containsKey key = false := by
  cases storage <;> rfl

@[simp] theorem containsKey_option [BEq V] (content : Option V) (key : V) :
    (option content).containsKey key = false := rfl

@[simp] theorem entries_ofStorage (storage : Emit.Storage) :
    (ofStorage storage : Cell V).entries = [] := by
  cases storage <;> rfl

@[simp] theorem elements_ofStorage (storage : Emit.Storage) :
    (ofStorage storage : Cell V).elements = [] := by
  cases storage <;> rfl

theorem fits_assign {storage : Emit.Storage} {cell : Cell V} (h : cell.Fits storage)
    (given : Option V) : (cell.assign given).Fits storage := by
  cases storage <;> cases cell <;> simp_all [Fits, assign]

theorem fits_clear {storage : Emit.Storage} {cell : Cell V} (h : cell.Fits storage) :
    cell.clear.Fits storage := by
  cases storage <;> cases cell <;> simp_all [Fits, clear]

@[simp] theorem entries_clear (cell : Cell V) : cell.clear.entries = [] := by
  cases cell <;> rfl

@[simp] theorem elements_clear (cell : Cell V) : cell.clear.elements = [] := by
  cases cell <;> rfl

/-- Adds one element after the other, each unless it is present. -/
def addAbsent (same : V → V → Bool) (present added : List V) : List V :=
  added.foldl (fun present element =>
    if present.any (same · element) then present else present ++ [element]) present

@[simp] theorem addAbsent_nil (same : V → V → Bool) (present : List V) :
    addAbsent same present [] = present := rfl

theorem addAbsent_cons (same : V → V → Bool) (present : List V) (element : V) (rest : List V) :
    addAbsent same present (element :: rest) =
      addAbsent same
        (if present.any (same · element) then present else present ++ [element]) rest := rfl

theorem mem_addAbsent {same : V → V → Bool} {present added : List V} {element : V}
    (h : element ∈ addAbsent same present added) : element ∈ present ∨ element ∈ added := by
  induction added generalizing present with
  | nil => exact .inl h
  | cons first rest ih =>
      rw [addAbsent_cons] at h
      rcases ih h with h | h
      · split at h
        · exact .inl h
        · rcases List.mem_append.1 h with h | h
          · exact .inl h
          · exact .inr (by simp_all)
      · exact .inr (List.mem_cons_of_mem _ h)

theorem pairwise_addAbsent {same : V → V → Bool} {present : List V}
    (h : present.Pairwise fun first second => same first second = false) (added : List V) :
    (addAbsent same present added).Pairwise fun first second => same first second = false := by
  induction added generalizing present with
  | nil => exact h
  | cons element rest ih =>
      rw [addAbsent_cons]
      apply ih
      split
      · exact h
      · rename_i absent
        rw [Bool.not_eq_true, List.any_eq_false] at absent
        rw [List.pairwise_append]
        exact ⟨h, List.pairwise_singleton _ _, fun old mem new eq => by simp_all⟩

theorem addAbsent_eq_filter {same : V → V → Bool} {added : List V}
    (distinct : added.Pairwise fun first second => same first second = false) (present : List V) :
    addAbsent same present added =
      present ++ added.filter fun element => !present.any (same · element) := by
  induction added generalizing present with
  | nil => simp
  | cons element rest ih =>
      obtain ⟨apart, distinct⟩ := List.pairwise_cons.1 distinct
      rw [addAbsent_cons, ih distinct]
      cases h : present.any (same · element)
      · have keep : ∀ other ∈ rest, (!(present ++ [element]).any (same · other)) =
            !present.any (same · other) := by
          intro other mem
          simp [apart other mem]
        rw [if_neg Bool.false_ne_true, List.filter_congr keep]
        simp [h]
      · simp [h]

variable [BEq V]

/-- Whether a sought key, or element, is the one that is stored. Lists take no two
elements for the same. -/
def same : Cell V → V → V → Bool
  | indexMap _, stored, sought | indexSet _, stored, sought => sought == stored
  | orderedMap _, stored, sought | orderedSet _, stored, sought => stored == sought
  | _, _, _ => false

/-- No later key, or element, was present already. -/
structure Distinct (cell : Cell V) : Prop where
  entries : cell.entries.Pairwise fun first second => cell.same first.1 second.1 = false
  elements : cell.elements.Pairwise fun first second => cell.same first second = false

theorem same_eq_of_fits {storage : Emit.Storage} {cell other : Cell V} (h : cell.Fits storage)
    (ho : other.Fits storage) : cell.same = other.same := by
  cases storage <;> cases cell <;> cases other <;> first | rfl | exact ho.elim | exact h.elim

/-! Maps. -/

theorem containsKey_eq (cell : Cell V) (key : V) :
    cell.containsKey key = cell.entries.any (cell.same ·.1 key) := by
  cases cell with
  | indexMap map =>
      simp only [containsKey, IndexedMap.contains, IndexedMap.position?, List.findIdx?_isSome]
      rfl
  | orderedMap map => rfl
  | _ => rfl

theorem insertEntry_of_absent {cell : Cell V} {key : V} (h : cell.containsKey key = false)
    (holds : cell.HoldsEntries) (value : V) :
    (cell.insertEntry key value).entries = cell.entries ++ [(key, value)] := by
  cases cell with
  | indexMap map =>
      have absent : map.position? key = none := by
        simpa [containsKey, IndexedMap.contains] using h
      simp [insertEntry, IndexedMap.insert, absent, entries]
  | orderedMap map => exact OrderedMap.insertIn_of_absent h value
  | _ => exact holds.elim

@[simp] theorem same_insertEntry (cell : Cell V) (key value : V) :
    (cell.insertEntry key value).same = cell.same := by
  cases cell <;> rfl

theorem containsKey_insertEntry {cell : Cell V} {key : V} (absent : cell.containsKey key = false)
    (holds : cell.HoldsEntries) (value other : V) :
    (cell.insertEntry key value).containsKey other =
      (cell.containsKey other || cell.same key other) := by
  rw [containsKey_eq, containsKey_eq, insertEntry_of_absent absent holds, same_insertEntry]
  simp

theorem holdsEntries_insertEntry {cell : Cell V} (h : cell.HoldsEntries) (key value : V) :
    (cell.insertEntry key value).HoldsEntries := by
  cases cell <;> first | exact h.elim | trivial

@[simp] theorem extendEntries_nil (cell : Cell V) : cell.extendEntries [] = cell := by
  cases cell <;> rfl

theorem extendEntries_cons (cell : Cell V) (key value : V) (rest : List (V × V)) :
    cell.extendEntries ((key, value) :: rest) =
      (cell.insertEntry key value).extendEntries rest := by
  cases cell <;> rfl

theorem fits_extendEntries {storage : Emit.Storage} {cell : Cell V} (h : cell.Fits storage)
    (items : List (V × V)) : (cell.extendEntries items).Fits storage := by
  cases storage <;> cases cell <;> simp_all [Fits, extendEntries]

@[simp] theorem same_extendEntries (cell : Cell V) (items : List (V × V)) :
    (cell.extendEntries items).same = cell.same := by
  cases cell <;> rfl

@[simp] theorem elements_extendEntries (cell : Cell V) (items : List (V × V)) :
    (cell.extendEntries items).elements = cell.elements := by
  cases cell <;> rfl

/-- A batch that repeats no key, and none of the cell, is appended. -/
theorem entries_extendEntries {cell : Cell V} (holds : cell.HoldsEntries) {items : List (V × V)}
    (absent : ∀ item ∈ items, cell.containsKey item.1 = false)
    (distinct : items.Pairwise fun first second => cell.same first.1 second.1 = false) :
    (cell.extendEntries items).entries = cell.entries ++ items := by
  induction items generalizing cell with
  | nil => simp
  | cons item rest ih =>
      obtain ⟨key, value⟩ := item
      have stored := insertEntry_of_absent (absent _ List.mem_cons_self) holds value
      rw [extendEntries_cons, ih (holdsEntries_insertEntry holds key value), stored,
        List.append_assoc]
      · rfl
      · intro item mem
        have old := absent item (List.mem_cons_of_mem _ mem)
        have apart := (List.pairwise_cons.1 distinct).1 item mem
        rw [containsKey_insertEntry (absent _ List.mem_cons_self) holds, old, Bool.false_or]
        exact apart
      · rw [same_insertEntry]
        exact (List.pairwise_cons.1 distinct).2

theorem distinct_extendEntries {cell : Cell V} (holds : cell.HoldsEntries) (h : cell.Distinct)
    {items : List (V × V)} (absent : ∀ item ∈ items, cell.containsKey item.1 = false)
    (distinct : items.Pairwise fun first second => cell.same first.1 second.1 = false) :
    (cell.extendEntries items).Distinct := by
  refine ⟨?_, by simpa using h.elements⟩
  rw [entries_extendEntries holds absent distinct, same_extendEntries, List.pairwise_append]
  refine ⟨h.entries, distinct, ?_⟩
  intro old mem item new
  have := absent item new
  rw [containsKey_eq, List.any_eq_false] at this
  simpa using this old mem

/-- Removal fails exactly if the key is missing. -/
theorem isSome_withoutKey? (cell : Cell V) (key : V) :
    (cell.withoutKey? key).isSome = cell.containsKey key := by
  cases cell with
  | indexMap map => simp [withoutKey?, containsKey, IndexedMap.remove?, IndexedMap.contains]
  | orderedMap map =>
      rw [containsKey, OrderedMap.contains_eq_isSome, ← OrderedMap.fst_remove, withoutKey?]
      obtain ⟨removed, rest⟩ := map.remove key
      cases removed <;> rfl
  | _ => rfl

/-- Removal takes out the first entry with the key and keeps all others in place. -/
theorem withoutKey?_eq_some {cell rest : Cell V} {key : V} (h : cell.withoutKey? key = some rest) :
    rest.entries = cell.entries.eraseP (cell.same ·.1 key) ∧ rest.same = cell.same ∧
      rest.elements = cell.elements ∧ ∀ storage, cell.Fits storage → rest.Fits storage := by
  cases cell with
  | indexMap map =>
      simp only [withoutKey?, IndexedMap.remove?, Option.map_map, Option.map_eq_some_iff] at h
      obtain ⟨position, found, rfl⟩ := h
      refine ⟨?_, rfl, rfl, fun storage fits => by cases storage <;> exact fits⟩
      have erased : map.toList.eraseP (key == ·.1) = _ := List.eraseP_eq_eraseIdx
      rw [IndexedMap.position?] at found
      rw [found] at erased
      exact erased.symm
  | orderedMap map =>
      simp only [withoutKey?, OrderedMap.remove] at h
      cases found : (OrderedMap.removeFrom key map.toList).1 with
      | none => simp [found] at h
      | some value =>
          simp only [found, Option.some.injEq] at h
          subst h
          exact ⟨congrArg (·.2) (OrderedMap.removeFrom_eq key map.toList), rfl, rfl,
            fun storage fits => by cases storage <;> exact fits⟩
  | _ => cases h

/-! Sets and lists. -/

@[simp] theorem extendElements_nil (cell : Cell V) : cell.extendElements [] = cell := by
  cases cell <;> simp [extendElements, IndexedSet.extend, OrderedSet.extend]

/-- A staged batch of entries that repeats no key goes into the cell as it was given. -/
theorem extend_staged {storage : Emit.Storage} (holds : (ofStorage storage : Cell V).HoldsEntries)
    {items : List (V × V)} (distinct : items.Pairwise fun first second =>
      (ofStorage storage).same first.1 second.1 = false) (cell : Cell V) :
    cell.extend ((ofStorage storage).extendEntries items) = cell.extendEntries items := by
  have entries := entries_extendEntries holds (fun _ _ => containsKey_ofStorage ..) distinct
  rw [entries_ofStorage, List.nil_append] at entries
  rw [extend, entries, elements_extendEntries, elements_ofStorage, extendElements_nil]

@[simp] theorem same_extendElements (cell : Cell V) (items : List V) :
    (cell.extendElements items).same = cell.same := by
  cases cell <;> rfl

@[simp] theorem entries_extendElements (cell : Cell V) (items : List V) :
    (cell.extendElements items).entries = cell.entries := by
  cases cell <;> rfl

theorem fits_extendElements {storage : Emit.Storage} {cell : Cell V} (h : cell.Fits storage)
    (items : List V) : (cell.extendElements items).Fits storage := by
  cases storage <;> cases cell <;> simp_all [Fits, extendElements]

theorem elements_extendElements {cell : Cell V} (holds : cell.HoldsElements) (items : List V) :
    (cell.extendElements items).elements = addAbsent cell.same cell.elements items := by
  cases cell with
  | indexSet set =>
      refine (List.foldl_hom IndexedSet.toList fun set element => ?_).symm
      have present : (set.position? element).isSome = set.toList.any (element == ·) :=
        List.findIdx?_isSome
      change (if set.toList.any (element == ·) then _ else _) = _
      rw [← present, IndexedSet.insert]
      cases set.position? element <;> rfl
  | orderedSet set =>
      refine (List.foldl_hom OrderedSet.toList fun set element => ?_).symm
      change (if set.contains element then _ else _) = _
      rw [OrderedSet.insert]
      cases set.contains element <;> rfl
  | vector old =>
      have all (present : List V) :
          addAbsent (fun _ _ => false) present items = present ++ items := by
        rw [addAbsent_eq_filter (List.pairwise_of_forall fun _ _ => rfl)]
        simp
      exact (all old).symm
  | _ => exact holds.elim

theorem distinct_extendElements {cell : Cell V} (holds : cell.HoldsElements) (h : cell.Distinct)
    (items : List V) : (cell.extendElements items).Distinct := by
  refine ⟨by simpa using h.entries, ?_⟩
  rw [elements_extendElements holds, same_extendElements]
  exact pairwise_addAbsent h.elements items

/-- Sets remove the first element that is the same. -/
theorem elements_removeElement (cell : Cell V) (element : V) :
    (cell.removeElement element).elements = cell.elements.eraseP (cell.same · element) := by
  cases cell with
  | indexSet set =>
      have erased : set.toList.eraseP (element == ·) = _ := List.eraseP_eq_eraseIdx
      simp only [removeElement, IndexedSet.remove, elements, same, erased, IndexedSet.position?]
      cases set.toList.findIdx? (element == ·) <;> rfl
  | orderedSet set => rfl
  | vector items => exact (List.eraseP_of_forall_not fun _ _ => Bool.false_ne_true).symm
  | _ => rfl

theorem sublist_removeElement (cell : Cell V) (element : V) :
    (cell.removeElement element).elements.Sublist cell.elements :=
  elements_removeElement cell element ▸ List.eraseP_sublist

theorem sublist_removeFirst (cell : Cell V) (element : V) :
    (cell.removeFirst element).elements.Sublist cell.elements := by
  cases cell with
  | vector items => exact List.eraseP_sublist
  | _ => exact List.Sublist.refl _

@[simp] theorem same_removeElement (cell : Cell V) (element : V) :
    (cell.removeElement element).same = cell.same := by
  cases cell <;> rfl

@[simp] theorem entries_removeElement (cell : Cell V) (element : V) :
    (cell.removeElement element).entries = cell.entries := by
  cases cell <;> rfl

@[simp] theorem same_removeFirst (cell : Cell V) (element : V) :
    (cell.removeFirst element).same = cell.same := by
  cases cell <;> rfl

@[simp] theorem entries_removeFirst (cell : Cell V) (element : V) :
    (cell.removeFirst element).entries = cell.entries := by
  cases cell <;> rfl

/-- Whatever only takes out keeps the rest apart. -/
theorem Distinct.of_sublist {cell rest : Cell V} (h : cell.Distinct) (same : rest.same = cell.same)
    (entries : rest.entries.Sublist cell.entries) (elements : rest.elements.Sublist cell.elements) :
    rest.Distinct := by
  refine ⟨?_, ?_⟩
  · rw [same]
    exact h.entries.sublist entries
  · rw [same]
    exact h.elements.sublist elements

theorem distinct_of_empty {cell : Cell V} (entries : cell.entries = [])
    (elements : cell.elements = []) : cell.Distinct := by
  constructor
  · rw [entries]
    exact .nil
  · rw [elements]
    exact .nil

omit [BEq V] in
@[simp] theorem entries_assign (cell : Cell V) (given : Option V) :
    (cell.assign given).entries = cell.entries := by
  cases cell <;> rfl

omit [BEq V] in
@[simp] theorem elements_assign (cell : Cell V) (given : Option V) :
    (cell.assign given).elements = cell.elements := by
  cases cell <;> rfl

theorem distinct_assign {cell : Cell V} (h : cell.Distinct) (given : Option V) :
    (cell.assign given).Distinct := by
  refine h.of_sublist ?_ ?_ ?_
  · cases cell <;> rfl
  · rw [entries_assign]
  · rw [elements_assign]

theorem fits_removeElement {storage : Emit.Storage} {cell : Cell V} (h : cell.Fits storage)
    (element : V) : (cell.removeElement element).Fits storage := by
  cases storage <;> cases cell <;> simp_all [Fits, removeElement]

theorem fits_removeFirst {storage : Emit.Storage} {cell : Cell V} (h : cell.Fits storage)
    (element : V) : (cell.removeFirst element).Fits storage := by
  cases storage <;> cases cell <;> simp_all [Fits, removeFirst]

end StructBuilder.Run.Cell
