import StructBuilder.Proofs.MapHistory

/-!
What an ordered map keeps to under any equality test. Stored keys are asked about the sought
one, never the other way round, so no key answers to a later one and all ways of asking for a
key agree, even where a key is not equal to itself. That a key has one entry at most, and is gone
once it is removed, needs a test that is symmetric and transitive.
-/

namespace StructBuilder.OrderedMap

variable {K V : Type} [BEq K] {map : OrderedMap K V}

/-! Keys. -/

theorem map_fst_insertIn (key : K) (value : V) (entries : List (K × V)) :
    (insertIn key value entries).2.map (·.1) =
      if entries.any (·.1 == key) then entries.map (·.1) else entries.map (·.1) ++ [key] := by
  induction entries with
  | nil => rfl
  | cons entry rest ih =>
      obtain ⟨existing, old⟩ := entry
      rw [insertIn, List.any_cons]
      cases existing == key with
      | true => rfl
      | false =>
          refine (congrArg (existing :: ·) ih).trans ?_
          rw [Bool.false_or]
          split <;> rfl

theorem keys_insert (map : OrderedMap K V) (key : K) (value : V) : (map.insert key value).2.keys =
    if map.contains key then map.keys else map.keys ++ [key] :=
  map_fst_insertIn key value map.toList

theorem toList_remove_eq_eraseP (map : OrderedMap K V) (key : K) :
    (map.remove key).2.toList = map.toList.eraseP (·.1 == key) :=
  congrArg (·.2) (removeFrom_eq key map.toList)

theorem keys_remove (map : OrderedMap K V) (key : K) :
    (map.remove key).2.keys = map.keys.eraseP (· == key) := by
  rw [keys, toList_remove_eq_eraseP, keys, List.eraseP_map]
  rfl

theorem contains_eq_any_keys (map : OrderedMap K V) (key : K) :
    map.contains key = map.keys.any (· == key) := by
  rw [contains, keys, List.any_map]
  rfl

theorem distinct_iff :
    map.Distinct ↔ map.keys.Pairwise fun first second => (first == second) = false := by
  rw [Distinct, keys, List.pairwise_map]

theorem distinct_empty : (empty : OrderedMap K V).Distinct :=
  .nil

theorem Distinct.insert (distinct : map.Distinct) (key : K) (value : V) :
    (map.insert key value).2.Distinct := by
  rw [distinct_iff] at distinct ⊢
  rw [keys_insert]
  cases present : map.contains key with
  | true => exact distinct
  | false =>
      rw [contains_eq_any_keys, List.any_eq_false] at present
      refine List.pairwise_append.2 ⟨distinct, List.pairwise_singleton _ _, ?_⟩
      intro stored mem last new
      rw [List.mem_singleton.1 new]
      exact Bool.eq_false_iff.2 (present stored mem)

theorem Distinct.remove (distinct : map.Distinct) (key : K) : (map.remove key).2.Distinct := by
  rw [distinct_iff] at distinct ⊢
  rw [keys_remove]
  exact distinct.eraseP _

theorem Distinct.event (distinct : map.Distinct) (event : Event K V) :
    (event.apply map).Distinct := by
  cases event with
  | insert key value => exact distinct.insert key value
  | remove key => exact distinct.remove key
  | clear => exact distinct_empty

theorem Distinct.operation (distinct : map.Distinct) (operation : Operation K V) :
    (operation.apply map).Distinct := by
  rw [apply_eq_foldl]
  exact List.foldlRecOn _ _ distinct fun _ distinct event _ => distinct.event event

theorem distinct_run (operations : List (Operation K V)) : (run operations).Distinct :=
  List.foldlRecOn _ _ distinct_empty fun _ distinct operation _ => distinct.operation operation

/-! Looking up what was inserted, and collecting what is there. -/

theorem get?_insert (map : OrderedMap K V) (key : K) (value : V) :
    (map.insert key value).2.get? key =
      if map.contains key || key == key then some value else none := by
  obtain ⟨entries⟩ := map
  change ((insertIn key value entries).2.find? (·.1 == key)).map (·.2) =
    if entries.any (·.1 == key) || key == key then some value else none
  induction entries with
  | nil =>
      rw [insertIn, List.find?_cons, List.any_nil, Bool.false_or]
      cases key == key <;> rfl
  | cons entry rest ih =>
      obtain ⟨existing, old⟩ := entry
      rw [insertIn, List.any_cons]
      cases same : existing == key with
      | true =>
          change Option.map _ (((existing, value) :: rest).find? _) = _
          rw [List.find?_cons, same]
          rfl
      | false =>
          change Option.map _ (((existing, old) :: (insertIn key value rest).2).find? _) = _
          rw [List.find?_cons, same, Bool.false_or]
          exact ih

theorem get?_insert_eq_some_iff {key : K} {value : V} :
    (map.insert key value).2.get? key = some value ↔
      map.contains key = true ∨ (key == key) = true := by
  rw [get?_insert, Option.ite_none_right_eq_some, and_iff_left rfl, Bool.or_eq_true]

theorem extend_eq_append {entries : List (K × V)} (distinct : Distinct ⟨map.toList ++ entries⟩) :
    map.extend entries = ⟨map.toList ++ entries⟩ := by
  induction entries generalizing map with
  | nil => rw [List.append_nil]; rfl
  | cons entry rest ih =>
      obtain ⟨key, value⟩ := entry
      have absent : map.contains key = false := by
        obtain ⟨-, -, apart⟩ := List.pairwise_append.1 distinct
        exact List.any_eq_false.2 fun stored mem =>
          Bool.eq_false_iff.1 (apart stored mem _ List.mem_cons_self)
      have appended := toList_insert_of_absent absent value
      rw [List.append_cons, ← appended] at distinct ⊢
      exact ih distinct

theorem ofList_toList (distinct : map.Distinct) : ofList map.toList = map :=
  extend_eq_append distinct

/-! Tests that are symmetric and transitive. -/

section

variable [PartialEquivBEq K]

theorem Distinct.length_filter_le (distinct : map.Distinct) (key : K) :
    (map.toList.filter (·.1 == key)).length ≤ 1 := by
  have parts := map.toList.length_eq_length_filter_add (·.1 == key)
  have left := congrArg List.length (toList_remove distinct key)
  rw [toList_remove_eq_eraseP, List.length_eraseP] at left
  split at left <;> omega

theorem Distinct.not_contains_remove (distinct : map.Distinct) (key : K) :
    (map.remove key).2.contains key = false := by
  rw [contains, toList_remove distinct]
  simp

end

/-- What holds of a map under any equality test. -/
structure Coherent (map : OrderedMap K V) : Prop where
  distinct : map.Distinct
  contained : ∀ key, map.contains key = (map.get? key).isSome
  removable : ∀ key, (map.remove key).1.isSome = (map.get? key).isSome
  collected : ofList map.toList = map
  found : ∀ key value, (map.insert key value).2.get? key = some value ↔
    map.contains key = true ∨ (key == key) = true

/-- What holds besides where the test is symmetric and transitive. -/
structure Settled (map : OrderedMap K V) : Prop where
  single : ∀ key, (map.toList.filter (·.1 == key)).length ≤ 1
  gone : ∀ key, (map.remove key).2.contains key = false
  found : ∀ key value, (key == key) = true → (map.insert key value).2.get? key = some value

theorem Distinct.coherent (distinct : map.Distinct) : map.Coherent where
  distinct
  contained := contains_eq_isSome map
  removable key := congrArg Option.isSome (fst_remove map key)
  collected := ofList_toList distinct
  found _ _ := get?_insert_eq_some_iff

theorem Distinct.settled [PartialEquivBEq K] (distinct : map.Distinct) : map.Settled where
  single := distinct.length_filter_le
  gone := distinct.not_contains_remove
  found _ _ same := get?_insert_eq_some_iff.2 (.inr same)

/-- Whatever was done with a map, no key of it is equal to a later one, and it has one answer to
whether a key is there. Where equality is symmetric and transitive, that answer is about one
entry. -/
theorem coherent_run (operations : List (Operation K V)) :
    (run operations).Coherent ∧ (PartialEquivBEq K → (run operations).Settled) := by
  have distinct := distinct_run operations
  exact ⟨distinct.coherent, fun _ => distinct.settled⟩

/-- A key may be near two keys that are apart. To remove it removes one of the two, and the other
still answers. -/
example :
    let _ : BEq Nat := ⟨fun first second => first ≤ second + 1 && second ≤ first + 1⟩
    let map : OrderedMap Nat Unit := run [.insert 1 (), .insert 3 (), .remove 2]
    map.toList = [(3, ())] ∧ map.contains 2 = true := by decide

/-! Readings of an instrument that fails at times: a failure is equal to nothing, not even to
itself. -/

structure Reading where
  value? : Option Int
  deriving DecidableEq

instance : BEq Reading :=
  ⟨fun first second => first.value?.isSome && first.value? == second.value?⟩

theorem Reading.beq_iff {first second : Reading} :
    (first == second) = true ↔ first.value?.isSome = true ∧ first.value? = second.value? := by
  change (first.value?.isSome && first.value? == second.value?) = true ↔ _
  simp

instance : PartialEquivBEq Reading where
  symm same := by
    rw [Reading.beq_iff] at same ⊢
    exact ⟨same.2 ▸ same.1, same.2.symm⟩
  trans one two := by
    rw [Reading.beq_iff] at one two ⊢
    exact ⟨one.1, one.2.trans two.2⟩

def record : List (Operation Reading String) :=
  [.collect [(⟨none⟩, "dawn"), (⟨some 3⟩, "noon"), (⟨none⟩, "dusk")], .remove ⟨none⟩,
   .extend [(⟨some 3⟩, "night"), (⟨some 5⟩, "late")], .remove ⟨some 5⟩]

theorem coherent_record : (Coherent (run record) ∧ Settled (run record)) ∧
    (run record).toList = [(⟨none⟩, "dawn"), (⟨some 3⟩, "night"), (⟨none⟩, "dusk")] := by
  obtain ⟨coherent, settled⟩ := coherent_run record
  exact ⟨⟨coherent, settled inferInstance⟩, by decide⟩

end StructBuilder.OrderedMap
