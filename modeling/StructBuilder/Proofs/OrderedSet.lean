import StructBuilder.Ordered.Set
import StructBuilder.Proofs.MapCoherence

/-!
An ordered set beside an ordered map whose values say nothing. The two search and store on their
own, yet whatever is done to both, the elements are the keys and the answers are the same: a new
element is a key that replaced nothing, a removed one a key that was there. This asks nothing of
the equality test; that only the first of equal elements is kept asks that equality is passed on.
-/

namespace StructBuilder.OrderedSet

variable {T : Type}

/-- What a program does with a set, or asks of it. -/
inductive Step (T : Type) where
  | insert (element : T)
  | remove (element : T)
  | extend (elements : List T)
  | collect (elements : List T)
  | contains (element : T)
  | clear

/-- What each step answers, and what it leaves. -/
def trace {S : Type} (apply : S → Step T → Option Bool × S) :
    S → List (Step T) → List (Option Bool × S)
  | _, [] => []
  | state, step :: rest => apply state step :: trace apply (apply state step).2 rest

variable [BEq T]

namespace Step

def onSet (set : OrderedSet T) : Step T → Option Bool × OrderedSet T
  | insert element => Prod.map some id (set.insert element)
  | remove element => Prod.map some id (set.remove element)
  | extend elements => (none, set.extend elements)
  | collect elements => (none, ofList elements)
  | contains element => (some (set.contains element), set)
  | clear => (none, empty)

/-- The same on a map: what is inserted replaces nothing, what is removed was there. -/
def onUnits (map : OrderedMap T Unit) : Step T → Option Bool × OrderedMap T Unit
  | insert element => Prod.map (some ·.isNone) id (map.insert element ())
  | remove element => Prod.map (some ·.isSome) id (map.remove element)
  | extend elements => (none, map.extend (elements.map (·, ())))
  | collect elements => (none, .ofList (elements.map (·, ())))
  | contains element => (some (map.contains element), map)
  | clear => (none, .empty)

end Step

/-! One step. -/

/-- The set of the keys. -/
def ofUnits (map : OrderedMap T Unit) : OrderedSet T :=
  ⟨map.keys⟩

theorem contains_ofUnits (map : OrderedMap T Unit) (element : T) :
    (ofUnits map).contains element = map.contains element :=
  (OrderedMap.contains_eq_any_keys map element).symm

theorem insert_ofUnits (map : OrderedMap T Unit) (element : T) :
    (ofUnits map).insert element = Prod.map (·.isNone) ofUnits (map.insert element ()) := by
  have answer : (map.insert element ()).1.isNone = !map.contains element := by
    rw [OrderedMap.fst_insert, OrderedMap.contains_eq_isSome, Option.not_isSome]
  rw [insert, contains_ofUnits, Prod.map, answer, ofUnits, ofUnits, OrderedMap.keys_insert]
  cases map.contains element <;> rfl

theorem remove_ofUnits (map : OrderedMap T Unit) (element : T) :
    (ofUnits map).remove element = Prod.map (·.isSome) ofUnits (map.remove element) := by
  have answer : (map.remove element).1.isSome = map.contains element := by
    rw [OrderedMap.fst_remove, OrderedMap.contains_eq_isSome]
  rw [remove, contains_ofUnits, Prod.map, answer, ofUnits, ofUnits, OrderedMap.keys_remove]

theorem extend_ofUnits (map : OrderedMap T Unit) (elements : List T) :
    (ofUnits map).extend elements = ofUnits (map.extend (elements.map (·, ()))) := by
  rw [extend, OrderedMap.extend, List.foldl_map]
  exact List.foldl_hom ofUnits fun map element => congrArg (·.2) (insert_ofUnits map element)

theorem onSet_ofUnits (step : Step T) (map : OrderedMap T Unit) :
    step.onSet (ofUnits map) = Prod.map id ofUnits (step.onUnits map) := by
  cases step with
  | insert element => rw [Step.onSet, insert_ofUnits]; rfl
  | remove element => rw [Step.onSet, remove_ofUnits]; rfl
  | extend elements => rw [Step.onSet, extend_ofUnits]; rfl
  | collect elements => exact congrArg (none, ·) (extend_ofUnits .empty elements)
  | contains element => rw [Step.onSet, contains_ofUnits]; rfl
  | clear => rfl

/-! Whole runs. -/

omit [BEq T] in
theorem trace_map {S S' : Type} {apply : S → Step T → Option Bool × S}
    {apply' : S' → Step T → Option Bool × S'} {view : S' → S}
    (agree : ∀ step state, apply (view state) step = Prod.map id view (apply' state step))
    (state : S') (steps : List (Step T)) :
    trace apply (view state) steps = (trace apply' state steps).map (Prod.map id view) := by
  induction steps generalizing state with
  | nil => rfl
  | cons step rest ih =>
      rw [trace, agree, trace, List.map_cons]
      exact congrArg (_ :: ·) (ih _)

omit [BEq T] in
theorem forall_mem_trace {S : Type} {apply : S → Step T → Option Bool × S} (P : S → Prop)
    (keeps : ∀ state step, P state → P (apply state step).2) {state : S} (start : P state)
    (steps : List (Step T)) : ∀ reached ∈ trace apply state steps, P reached.2 := by
  induction steps generalizing state with
  | nil => nofun
  | cons step rest ih =>
      exact List.forall_mem_cons.2 ⟨keeps state step start, ih (keeps state step start)⟩

/-! Sets of keys. -/

/-- No element is equal to a later one. -/
def Distinct (set : OrderedSet T) : Prop :=
  set.toList.Pairwise fun first second => (first == second) = false

theorem distinct_onUnits {map : OrderedMap T Unit} (distinct : map.Distinct) (step : Step T) :
    (step.onUnits map).2.Distinct := by
  cases step with
  | insert element => exact distinct.insert element ()
  | remove element => exact distinct.remove element
  | extend elements => exact distinct.operation (.extend _)
  | collect elements => exact distinct.operation (.collect _)
  | contains element => exact distinct
  | clear => exact OrderedMap.distinct_empty

theorem exists_distinct_of_mem_trace {steps : List (Step T)} {reached : Option Bool × OrderedSet T}
    (mem : reached ∈ trace Step.onSet empty steps) :
    ∃ map : OrderedMap T Unit, map.Distinct ∧ reached.2 = ofUnits map := by
  have runs := trace_map (fun step map => onSet_ofUnits step map) .empty steps
  obtain ⟨other, there, rfl⟩ := List.mem_map.1 (runs ▸ mem)
  have distinct : ∀ reached ∈ trace Step.onUnits .empty steps, reached.2.Distinct :=
    forall_mem_trace OrderedMap.Distinct (fun _ step distinct => distinct_onUnits distinct step)
      OrderedMap.distinct_empty steps
  exact ⟨other.2, distinct other there, rfl⟩

/-! The first of equal elements. -/

/-- The elements that no earlier one is equal to; those that were seen are earlier than all. -/
def firsts (seen : List T) : List T → List T
  | [] => []
  | element :: rest =>
      if seen.any (· == element) then firsts (seen ++ [element]) rest
      else element :: firsts (seen ++ [element]) rest

section

variable [PartialEquivBEq T]

theorem contains_insert (set : OrderedSet T) (element sought : T) :
    (set.insert element).2.contains sought = (set.contains sought || element == sought) := by
  rw [insert]
  cases present : set.contains element with
  | false => simp [contains]
  | true =>
      rw [if_pos rfl, Bool.eq_iff_iff, Bool.or_eq_true, iff_self_or]
      intro same
      obtain ⟨stored, mem, equal⟩ := List.any_eq_true.1 present
      exact List.any_eq_true.2 ⟨stored, mem, BEq.trans equal same⟩

theorem toList_extend {set : OrderedSet T} {seen : List T}
    (known : ∀ sought, set.contains sought = seen.any (· == sought)) (elements : List T) :
    (set.extend elements).toList = set.toList ++ firsts seen elements := by
  induction elements generalizing set seen with
  | nil => exact (List.append_nil _).symm
  | cons element rest ih =>
      have more : ∀ sought, (set.insert element).2.contains sought =
          (seen ++ [element]).any (· == sought) := by
        intro sought
        simp [contains_insert, known]
      refine (ih more).trans ?_
      rw [insert, known, firsts]
      cases seen.any (· == element) with
      | true => rfl
      | false => exact List.append_assoc _ _ _

theorem toList_ofList (elements : List T) : (ofList elements).toList = firsts [] elements :=
  toList_extend (fun _ => rfl) elements

end

/-- The elements are apart, and a step that finds nothing to do leaves the set as it is. -/
structure Proper (set : OrderedSet T) : Prop where
  distinct : set.Distinct
  absent : ∀ element, set.contains element = false → set.remove element = (false, set)
  duplicate : ∀ element, set.contains element = true → set.insert element = (false, set)

theorem Distinct.proper {set : OrderedSet T} (distinct : set.Distinct) : set.Proper where
  distinct
  absent element absent := by
    rw [remove, absent, List.eraseP_of_forall_not (List.any_eq_false.1 absent)]
  duplicate element present := by
    rw [insert, if_pos present]

/-- What a set has in common with a map to units through the same steps. -/
structure Mirrors (steps : List (Step T)) : Prop where
  answers : (trace Step.onSet empty steps).map (Prod.map id toList) =
    (trace Step.onUnits .empty steps).map (Prod.map id OrderedMap.keys)
  proper : ∀ reached ∈ trace Step.onSet empty steps, reached.2.Proper

/-- Whatever is done, a set answers like a map to units and has its keys. -/
theorem mirrors_units (steps : List (Step T)) : Mirrors steps ∧
    (PartialEquivBEq T → ∀ elements : List T, (ofList elements).toList = firsts [] elements) := by
  refine ⟨⟨?_, fun reached mem => ?_⟩, fun _ => toList_ofList⟩
  · have runs := trace_map (fun step map => onSet_ofUnits step map) .empty steps
    refine (congrArg (List.map (Prod.map id toList)) runs).trans ?_
    rw [List.map_map]
    rfl
  · obtain ⟨map, distinct, same⟩ := exists_distinct_of_mem_trace mem
    rw [same]
    exact Distinct.proper (OrderedMap.distinct_iff.1 distinct)

def sightings : List (Step OrderedMap.Reading) :=
  [.collect [⟨none⟩, ⟨some 3⟩, ⟨none⟩, ⟨some 3⟩], .insert ⟨some 3⟩, .remove ⟨none⟩,
   .extend [⟨some 5⟩, ⟨some 3⟩], .remove ⟨some 3⟩, .contains ⟨some 3⟩]

theorem mirrors_sightings : Mirrors sightings ∧
    (ofList [⟨none⟩, ⟨some 3⟩, ⟨none⟩, ⟨some 3⟩] : OrderedSet OrderedMap.Reading).toList =
      firsts [] [⟨none⟩, ⟨some 3⟩, ⟨none⟩, ⟨some 3⟩] ∧
    firsts [] [⟨none⟩, ⟨some 3⟩, ⟨none⟩, ⟨some 3⟩] =
      ([⟨none⟩, ⟨some 3⟩, ⟨none⟩] : List OrderedMap.Reading) := by
  obtain ⟨mirrors, collected⟩ := mirrors_units sightings
  exact ⟨mirrors, collected inferInstance _, by decide⟩

end StructBuilder.OrderedSet
