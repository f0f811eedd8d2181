import Mathlib.Data.List.Pairwise
import StructBuilder.Ordered.Map

/-!
Single steps of an ordered map. An insertion overwrites the entry with the key, wherever it
stands, or appends a new one; a removal takes the entry out. Either answers what was stored.
-/

namespace StructBuilder.OrderedMap

variable {K V : Type} [BEq K]

section

variable {entries : List (K × V)} {key : K}

theorem fst_insertIn (key : K) (value : V) (entries : List (K × V)) :
    (insertIn key value entries).1 = (entries.find? (·.1 == key)).map (·.2) := by
  induction entries with
  | nil => rfl
  | cons entry rest ih =>
      obtain ⟨existing, old⟩ := entry
      rw [insertIn, List.find?_cons]
      cases existing == key with
      | true => rfl
      | false => exact ih

theorem insertIn_of_absent (absent : entries.any (·.1 == key) = false) (value : V) :
    (insertIn key value entries).2 = entries ++ [(key, value)] := by
  induction entries with
  | nil => rfl
  | cons entry rest ih =>
      obtain ⟨existing, old⟩ := entry
      rw [List.any_cons, Bool.or_eq_false_iff] at absent
      rw [insertIn, absent.1]
      exact congrArg ((existing, old) :: ·) (ih absent.2)

theorem removeFrom_eq (key : K) (entries : List (K × V)) : removeFrom key entries =
    ((entries.find? (·.1 == key)).map (·.2), entries.eraseP (·.1 == key)) := by
  induction entries with
  | nil => rfl
  | cons entry rest ih =>
      obtain ⟨existing, old⟩ := entry
      rw [removeFrom, List.find?_cons, List.eraseP_cons, ih]
      cases existing == key <;> rfl

end

/-! Maps without repeated keys. -/

/-- No key is there twice. -/
def Distinct (map : OrderedMap K V) : Prop :=
  map.toList.Pairwise fun first second => (first.1 == second.1) = false

/-- The entry with a new value, if it has the key. -/
def overwrite (key : K) (value : V) (entry : K × V) : K × V :=
  if entry.1 == key then (entry.1, value) else entry

theorem overwrite_of_same {key : K} {entry : K × V} (same : (entry.1 == key) = true) (value : V) :
    overwrite key value entry = (entry.1, value) :=
  if_pos same

theorem overwrite_of_apart {key : K} {entry : K × V} (apart : ¬(entry.1 == key) = true) (value : V) :
    overwrite key value entry = entry :=
  if_neg apart

theorem fst_overwrite (key : K) (value : V) (entry : K × V) :
    (overwrite key value entry).1 = entry.1 := by
  unfold overwrite
  split <;> rfl

variable {map : OrderedMap K V} {key sought : K} {value : V}

theorem contains_eq_isSome (map : OrderedMap K V) (key : K) :
    map.contains key = (map.get? key).isSome := by
  rw [contains, get?, Option.isSome_map, List.isSome_find?]

theorem fst_insert (map : OrderedMap K V) (key : K) (value : V) :
    (map.insert key value).1 = map.get? key :=
  fst_insertIn key value map.toList

theorem fst_remove (map : OrderedMap K V) (key : K) : (map.remove key).1 = map.get? key :=
  congrArg (·.1) (removeFrom_eq key map.toList)

theorem toList_insert_of_absent (absent : map.contains key = false) (value : V) :
    (map.insert key value).2.toList = map.toList ++ [(key, value)] :=
  insertIn_of_absent absent value

variable [PartialEquivBEq K]

/-- Of two entries that have a key, both are the same. -/
theorem Distinct.eq (distinct : map.Distinct) {one two : K × V} (here : one ∈ map.toList)
    (there : two ∈ map.toList) (first : (one.1 == key) = true) (second : (two.1 == key) = true) :
    one = two := by
  by_contra ne
  have symm : Std.Symm fun first second : K × V => (first.1 == second.1) = false :=
    ⟨fun _ _ apart => BEq.comm.trans apart⟩
  have apart := List.Pairwise.forall distinct here there ne
  rw [BEq.trans first (BEq.symm second)] at apart
  cases apart

theorem get?_eq_some_iff (distinct : map.Distinct) : map.get? key = some value ↔
    ∃ stored, (stored, value) ∈ map.toList ∧ (stored == key) = true := by
  rw [get?, Option.map_eq_some_iff]
  constructor
  · rintro ⟨⟨stored, _⟩, found, rfl⟩
    have same := List.find?_some found
    exact ⟨stored, List.mem_of_find?_eq_some found, same⟩
  · rintro ⟨stored, mem, same⟩
    have found : (map.toList.find? (·.1 == key)).isSome = true := by
      rw [List.find?_isSome]
      exact ⟨_, mem, same⟩
    obtain ⟨entry, found⟩ := Option.isSome_iff_exists.1 found
    have also := List.find?_some found
    obtain rfl := distinct.eq (List.mem_of_find?_eq_some found) mem also same
    exact ⟨_, found, rfl⟩

/-- A key that is present stays where it is, and as it was spelled. -/
theorem toList_insert_of_present (distinct : map.Distinct) (present : map.contains key = true)
    (value : V) : (map.insert key value).2.toList = map.toList.map (overwrite key value) := by
  obtain ⟨entries⟩ := map
  change (insertIn key value entries).2 = entries.map (overwrite key value)
  change entries.any (·.1 == key) = true at present
  change entries.Pairwise _ at distinct
  induction entries with
  | nil => cases present
  | cons entry rest ih =>
      obtain ⟨existing, old⟩ := entry
      obtain ⟨apart, others⟩ := List.pairwise_cons.1 distinct
      by_cases same : (existing == key) = true
      · have kept : rest.map (overwrite key value) = rest := by
          refine (List.map_congr_left fun entry mem => ?_).trans rest.map_id
          refine overwrite_of_apart (fun equal => ?_) value
          cases (apart entry mem).symm.trans (BEq.trans same (BEq.symm equal))
        rw [insertIn, if_pos same, List.map_cons, overwrite_of_same same, kept]
      · rw [List.any_cons, Bool.eq_false_iff.2 same, Bool.false_or] at present
        rw [insertIn, if_neg same, List.map_cons, overwrite_of_apart same]
        exact congrArg ((existing, old) :: ·) (ih present others)

end StructBuilder.OrderedMap
