import StructBuilder.Proofs.Atomicity
import StructBuilder.Proofs.Collections

/-!
States that are equal up to the order that some containers forget. Taking in the same
keeps them so, and as sorting forgets that order as well, they build equal values.
-/

namespace StructBuilder.Run

open Emit (storage)

variable {V : Type} {machine : Machine V} {plans : List Plan} {plan : Plan} {shape : Shape}
  {state other : State V} {left right : Content V} {cell twin after result : Cell V}

/-! Contents that are the same. -/

theorem Content.same_iff_eq (keeps : shape.keepsOrder = true) :
    left.Same shape right ↔ right = left := by
  cases shape with
  | map order key value => cases order <;> first | exact Iff.rfl | cases keeps
  | set order element => cases order <;> first | exact Iff.rfl | cases keeps
  | _ => exact Iff.rfl

theorem Content.entries_same_iff {order : Order} {key value : Ty} {items : List (V × V)}
    (forgets : (Shape.map order key value).keepsOrder = false) :
    (entries items).Same (.map order key value) right ↔
      ∃ others, right = .entries others ∧ others.Perm items := by
  cases order with
  | insertion => cases forgets
  | _ =>
      constructor
      · rintro ⟨_, others, same, rfl, perm⟩
        cases same
        exact ⟨others, rfl, perm⟩
      · rintro ⟨others, rfl, perm⟩
        exact ⟨items, others, rfl, rfl, perm⟩

theorem Content.elements_same_iff {order : Order} {element : Ty} {items : List V}
    (forgets : (Shape.set order element).keepsOrder = false) :
    (elements items).Same (.set order element) right ↔
      ∃ others, right = .elements others ∧ others.Perm items := by
  cases order with
  | insertion => cases forgets
  | _ =>
      constructor
      · rintro ⟨_, others, same, rfl, perm⟩
        cases same
        exact ⟨others, rfl, perm⟩
      · rintro ⟨others, rfl, perm⟩
        exact ⟨items, others, rfl, rfl, perm⟩

/-- All that can be different is the order. -/
theorem Content.Same.cases (same : left.Same shape right) :
    right = left ∨
      (∃ items others, left = .entries items ∧ right = .entries others ∧ others.Perm items) ∨
      ∃ items others, left = .elements items ∧ right = .elements others ∧ others.Perm items := by
  cases shape with
  | map order key value => cases order <;> first | exact .inl same | exact .inr (.inl same)
  | set order element => cases order <;> first | exact .inl same | exact .inr (.inr same)
  | _ => exact .inl same

theorem Content.same_refl (fits : left.Fits shape) : left.Same shape left := by
  cases forgets : shape.keepsOrder with
  | true => exact (same_iff_eq forgets).2 rfl
  | false =>
      cases shape <;> cases left <;> first | exact fits.elim | cases forgets | skip
      · exact (entries_same_iff forgets).2 ⟨_, rfl, .refl _⟩
      · exact (elements_same_iff forgets).2 ⟨_, rfl, .refl _⟩

theorem Content.Same.trans {middle : Content V} (first : left.Same shape middle)
    (second : middle.Same shape right) (fits : left.Fits shape) : left.Same shape right := by
  cases forgets : shape.keepsOrder with
  | true =>
      rw [same_iff_eq forgets] at first second ⊢
      exact second.trans first
  | false =>
      cases shape <;> cases left <;> first | exact fits.elim | cases forgets | skip
      · obtain ⟨_, rfl, perm⟩ := (entries_same_iff forgets).1 first
        obtain ⟨others, rfl, also⟩ := (entries_same_iff forgets).1 second
        exact (entries_same_iff forgets).2 ⟨others, rfl, also.trans perm⟩
      · obtain ⟨_, rfl, perm⟩ := (elements_same_iff forgets).1 first
        obtain ⟨others, rfl, also⟩ := (elements_same_iff forgets).1 second
        exact (elements_same_iff forgets).2 ⟨others, rfl, also.trans perm⟩

theorem Content.Same.stored_perm (same : left.Same shape right) :
    right.stored.Perm left.stored := by
  rcases same.cases with rfl | ⟨items, others, rfl, rfl, perm⟩ | ⟨items, others, rfl, rfl, perm⟩
  · exact .refl _
  · exact perm.map _
  · exact perm.map _

theorem Content.Same.keys_perm (same : left.Same shape right) :
    (right.keys shape).Perm (left.keys shape) := by
  rcases same.cases with rfl | ⟨items, others, rfl, rfl, perm⟩ | ⟨items, others, rfl, rfl, perm⟩
  · exact .refl _
  · cases shape <;> first | exact perm.map _ | exact .refl _
  · cases shape <;> first | exact perm | exact .refl _

theorem Content.Same.distinct [BEq V] (same : left.Same shape right)
    (distinct : left.Distinct shape) : right.Distinct shape :=
  (same.keys_perm.pairwise_iff And.symm).2 distinct

/-! Cells that hold the same. -/

/-- Only the order of what is held may be different, if the container forgets it. -/
def Cell.Alike (shape : Shape) (cell twin : Cell V) : Prop :=
  (Content.ofCell cell).Same shape (Content.ofCell twin)

namespace Cell.Alike

theorem entries_perm (alike : cell.Alike shape twin) : twin.entries.Perm cell.entries := by
  rcases Content.Same.cases alike with same | ⟨_, _, one, also, perm⟩ | ⟨_, _, one, also, _⟩ <;>
    cases cell <;> cases twin <;> simp_all [Content.ofCell, Cell.entries]

theorem elements_perm (alike : cell.Alike shape twin) : twin.elements.Perm cell.elements := by
  rcases Content.Same.cases alike with same | ⟨_, _, one, also, _⟩ | ⟨_, _, one, also, perm⟩ <;>
    cases cell <;> cases twin <;> simp_all [Content.ofCell, Cell.elements]

theorem eq (alike : cell.Alike shape twin) (keeps : shape.keepsOrder = true)
    {storage : Emit.Storage} (fits : cell.Fits storage) (fit : twin.Fits storage) :
    twin = cell := by
  have same : Content.ofCell twin = Content.ofCell cell := (Content.same_iff_eq keeps).1 alike
  have lists : twin.content? = cell.content? ∧ twin.entries = cell.entries ∧
      twin.elements = cell.elements := by
    cases cell <;> cases twin <;>
      simp_all [Content.ofCell, Cell.content?, Cell.entries, Cell.elements]
  refine Cell.eq_of_fits ?_ fit fits
  cases storage <;> first | exact lists.1 | exact lists.2.1 | exact lists.2.2

end Cell.Alike

theorem keepsOrder_of_required (suits : plan.strategy.Suits plan.property.shape)
    (required : plan.kind = .required) : plan.property.shape.keepsOrder = true := by
  rw [Plan.kind_eq_required_iff.1 required] at suits
  cases shape : plan.property.shape <;> rw [shape] at suits <;> first | exact suits.elim | rfl

theorem Cell.alike_refl (suits : plan.strategy.Suits plan.property.shape)
    (fits : cell.Fits (storage plan)) : cell.Alike plan.property.shape cell := by
  by_cases required : plan.kind = .required
  · exact (Content.same_iff_eq (keepsOrder_of_required suits required)).2 rfl
  · exact Content.same_refl (fits_ofCell suits fits required)

variable [BEq V]

/-- What is taken in does not depend on the order in which it comes. -/
theorem Cell.Takes.alike (suits : plan.strategy.Suits plan.property.shape)
    (fits : left.Fits plan.property.shape) (cellFits : cell.Fits (storage plan))
    (twinFits : twin.Fits (storage plan)) (alike : cell.Alike plan.property.shape twin)
    (same : left.Same plan.property.shape right) (takes : Cell.Takes plan cell left after)
    (also : Cell.Takes plan twin right result) : after.Alike plan.property.shape result := by
  cases forgets : plan.property.shape.keepsOrder with
  -- where the order counts, the same is taken into the same cell
  | true =>
      obtain rfl := alike.eq forgets cellFits twinFits
      obtain rfl := (Content.same_iff_eq forgets).1 same
      obtain rfl := takes.eq also
      exact (Content.same_iff_eq forgets).2 rfl
  | false =>
      obtain ⟨afterFits, holds⟩ := takes
      obtain ⟨resultFits, twinHolds⟩ := also
      have equal := Cell.same_eq_of_fits twinFits cellFits
      obtain ⟨_, _, strategy, rfl⟩ | ⟨_, _, strategy, rfl⟩ | ⟨_, _, items, strategy, rfl⟩ |
        ⟨_, items, strategy, rfl⟩ | ⟨_, items, strategy, rfl⟩ := cases_of_fits suits fits <;>
        rw [strategy] at suits holds twinHolds <;>
        cases shape : plan.property.shape <;>
        rw [shape] at suits forgets same alike <;>
        first | exact suits.elim | cases forgets | skip
      · obtain ⟨others, rfl, perm⟩ := (Content.entries_same_iff forgets).1 same
        rw [Cell.Alike, ofCell_eq_entries (Cell.holdsEntries_of_map strategy afterFits),
          ofCell_eq_entries (Cell.holdsEntries_of_map strategy resultFits),
          Content.entries_same_iff forgets, holds, twinHolds]
        exact ⟨_, rfl, alike.entries_perm.append perm⟩
      · obtain ⟨others, rfl, perm⟩ := (Content.elements_same_iff forgets).1 same
        have present (element : V) : twin.elements.any (twin.same · element) =
            cell.elements.any (cell.same · element) := by
          rw [equal]
          exact alike.elements_perm.any_eq
        rw [Cell.Alike, ofCell_eq_elements (Cell.holdsElements_of_set strategy afterFits),
          ofCell_eq_elements (Cell.holdsElements_of_set strategy resultFits),
          Content.elements_same_iff forgets, holds, twinHolds]
        simp only [present]
        exact ⟨_, rfl, alike.elements_perm.append (perm.filter _)⟩

omit [BEq V] in
@[simp] theorem keys_ofCell_map (order : Order) (key value : Ty) (cell : Cell V) :
    (Content.ofCell cell).keys (.map order key value) = cell.entries.map Prod.fst := by
  cases cell <;> rfl

omit [BEq V] in
@[simp] theorem keys_ofCell_set (order : Order) (element : Ty) (cell : Cell V) :
    (Content.ofCell cell).keys (.set order element) = cell.elements := by
  cases cell <;> rfl

/-- What a cell takes in adds no keys but its own. -/
theorem Cell.Takes.keys_subset (suits : plan.strategy.Suits plan.property.shape)
    (fits : left.Fits plan.property.shape) (takes : Cell.Takes plan cell left after) :
    (Content.ofCell after).keys plan.property.shape ⊆
      (Content.ofCell cell).keys plan.property.shape ++ left.keys plan.property.shape := by
  obtain ⟨_, holds⟩ := takes
  obtain ⟨_, _, strategy, rfl⟩ | ⟨_, _, strategy, rfl⟩ | ⟨_, _, items, strategy, rfl⟩ |
    ⟨_, items, strategy, rfl⟩ | ⟨_, items, strategy, rfl⟩ := cases_of_fits suits fits <;>
    rw [strategy] at suits holds <;>
    cases shape : plan.property.shape <;> rw [shape] at suits <;>
    first | exact suits.elim | exact List.nil_subset _ | skip
  · rw [keys_ofCell_map, keys_ofCell_map, holds, List.map_append]
    exact .refl _
  · rw [keys_ofCell_set, keys_ofCell_set, holds]
    exact List.append_subset.2 ⟨List.subset_append_left .., List.subset_append_of_subset_right _
      (List.filter_subset_self _)⟩

/-! States that hold the same. -/

/-- States that are equal up to the order that some containers forget. -/
structure State.Alike (plans : List Plan) (state other : State V) : Prop where
  names : other.names = state.names
  unset : other.unset = state.unset
  cells : ∀ plan ∈ plans, ∃ cell twin, state.cell? plan.property.name = some cell ∧
    other.cell? plan.property.name = some twin ∧ cell.Alike plan.property.shape twin

theorem State.Consistent.alike (consistent : state.Consistent plans)
    (planned : machine.Planned plans) : state.Alike plans state := by
  refine ⟨rfl, rfl, fun plan mem => ?_⟩
  obtain ⟨cell, found, suits⟩ := consistent.cells plan mem
  exact ⟨cell, cell, found, found, Cell.alike_refl (planned.suits plan mem) suits.fits⟩

omit [BEq V] in
theorem State.Alike.store (alike : state.Alike plans other) (planned : machine.Planned plans)
    (mem : plan ∈ plans) (same : after.Alike plan.property.shape result) :
    (machine.store plan after state).Alike plans (machine.store plan result other) := by
  refine ⟨?_, ?_, fun member known => ?_⟩
  · rw [names_store, names_store, alike.names]
  · rw [unset_store, unset_store, alike.unset]
  · obtain ⟨cell, twin, found, there, cells⟩ := alike.cells member known
    rw [cell?_store, cell?_store]
    by_cases here : member = plan
    · subst here
      exact ⟨after, result, State.cell?_put_same found _, State.cell?_put_same there _, same⟩
    · have ne : member.property.name ≠ plan.property.name :=
        fun eq => here (planned.eq_of_name known mem eq)
      rw [State.cell?_put_of_ne ne, State.cell?_put_of_ne ne]
      exact ⟨cell, twin, found, there, cells⟩

/-! Building. -/

/-- The keys and elements of every property are among those of its type. -/
def State.Within (within : Plan → V → Prop) (plans : List Plan) (state : State V) : Prop :=
  ∀ plan ∈ plans, ∀ cell, state.cell? plan.property.name = some cell →
    ∀ key ∈ (Content.ofCell cell).keys plan.property.shape, within plan key

/-- A comparison that never puts a value before itself, so that only one order ascends. -/
structure Strict [Ord V] (within : V → Prop) : Prop extends Ordered within where
  irrefl : ∀ {a}, within a → compare a a ≠ .lt

variable {among : V → Prop} {within : Plan → V → Prop}

theorem distinct_ofCell (lawful : Lawful among) (suits : plan.strategy.Suits plan.property.shape)
    (cellSuits : cell.Suits plan)
    (known : ∀ key ∈ (Content.ofCell cell).keys plan.property.shape, among key) :
    (Content.ofCell cell).Distinct plan.property.shape := by
  -- a cell compares with the stored key on one side only
  have both {first second : V} (keyed : cell.Keyed) (one : among first) (two : among second)
      (apart : cell.same first second = false) :
      (first == second) = false ∧ (second == first) = false := by
    rw [same_eq_beq lawful keyed one two] at apart
    exact ⟨apart, (lawful.beq_comm two one).trans apart⟩
  rw [Content.Distinct]
  cases strategy : plan.strategy <;> rw [strategy] at suits <;>
    cases shape : plan.property.shape <;> rw [shape] at suits known <;>
    first | exact suits.elim | exact .nil | skip
  · rw [keys_ofCell_map] at known ⊢
    have keyed := keyed_of_map strategy cellSuits.fits
    refine List.pairwise_map.2 (cellSuits.distinct.entries.imp_of_mem ?_)
    intro first second mem there apart
    exact both keyed (known _ (List.mem_map_of_mem mem)) (known _ (List.mem_map_of_mem there)) apart
  · rw [keys_ofCell_set] at known ⊢
    have keyed := keyed_of_set strategy cellSuits.fits
    refine cellSuits.distinct.elements.imp_of_mem ?_
    intro first second mem there apart
    exact both keyed (known _ mem) (known _ there) apart

variable [Ord V]

/-- Sorting forgets the order in which things come. -/
theorem ofList_eq_of_perm {α : Type} (key : α → V) (strict : Strict among) {items others : List α}
    (perm : others.Perm items) (known : ∀ item ∈ items, among (key item))
    (distinct : items.Pairwise fun first second =>
      (key first == key second) = false ∧ (key second == key first) = false) :
    Sorted.ofList key others = Sorted.ofList key items := by
  have also : ∀ other ∈ others, among (key other) := fun other mem =>
    known other (perm.mem_iff.1 mem)
  have apart := (perm.pairwise_iff And.symm).2 distinct
  obtain ⟨same, ascending⟩ :=
    ofList_arranges key strict.toOrdered known (distinct.imp And.right)
  obtain ⟨equal, rising⟩ := ofList_arranges key strict.toOrdered also (apart.imp And.right)
  refine (equal.trans (perm.trans same.symm)).eq_of_pairwise ?_ rising ascending
  intro first second mem there less greater
  have one := also first (equal.mem_iff.1 mem)
  have two := known second (same.mem_iff.1 there)
  exact absurd (strict.lt_trans one two one less greater) (strict.irrefl one)

theorem Content.Same.collect_eq (same : left.Same shape right) (fits : left.Fits shape)
    (strict : shape.keepsOrder = false → Strict among)
    (known : ∀ key ∈ left.keys shape, among key) (distinct : left.Distinct shape) :
    right.collect shape = left.collect shape := by
  cases forgets : shape.keepsOrder with
  | true => rw [(Content.same_iff_eq forgets).1 same]
  | false =>
      cases shape <;> cases left <;> first | exact fits.elim | cases forgets | skip
      · rename_i order key value items
        obtain ⟨others, rfl, perm⟩ := (Content.entries_same_iff forgets).1 same
        have known : ∀ item ∈ items, among item.1 := fun item mem =>
          known item.1 (List.mem_map_of_mem mem)
        have sorted := ofList_eq_of_perm Prod.fst (strict forgets) perm known
          (List.pairwise_map.1 distinct)
        cases order with
        | insertion => cases forgets
        | _ => exact congrArg Content.entries sorted
      · rename_i order element items
        obtain ⟨others, rfl, perm⟩ := (Content.elements_same_iff forgets).1 same
        have sorted := ofList_eq_of_perm id (strict forgets) perm known distinct
        cases order with
        | insertion => cases forgets
        | _ => exact congrArg Content.elements sorted

theorem finished_of_alike (suits : plan.strategy.Suits plan.property.shape)
    (lawful : Lawful among) (strict : plan.property.shape.keepsOrder = false → Strict among)
    (known : ∀ key ∈ (Content.ofCell cell).keys plan.property.shape, among key)
    (cellSuits : cell.Suits plan) (twinSuits : twin.Suits plan)
    (alike : cell.Alike plan.property.shape twin) :
    machine.finished plan twin = machine.finished plan cell := by
  cases forgets : plan.property.shape.keepsOrder with
  | true => rw [alike.eq forgets cellSuits.fits twinSuits.fits]
  | false =>
      have kind : plan.kind ≠ .required := by
        intro required
        rw [keepsOrder_of_required suits required] at forgets
        cases forgets
      have distinct := distinct_ofCell lawful suits cellSuits known
      have fits := fits_ofCell suits cellSuits.fits kind
      rw [finished_of_kind kind, finished_of_kind kind]
      exact congrArg Except.ok (Content.Same.collect_eq alike fits strict known distinct)

/-- States that are alike build equal values. -/
theorem State.Alike.build (alike : state.Alike plans other) (planned : machine.Planned plans)
    (lawful : ∀ plan ∈ plans, Lawful (within plan))
    (strict : ∀ plan ∈ plans, plan.property.shape.keepsOrder = false → Strict (within plan))
    (known : state.Within within plans) (consistent : state.Consistent plans)
    (kept : other.Consistent plans) {built : Value V} (complete : machine.build state = .ok built) :
    machine.build other = .ok built := by
  rw [build_eq_ok_iff consistent planned] at complete
  rw [build_eq_ok_iff kept planned]
  obtain ⟨nothing, fields⟩ := complete
  constructor
  · rw [consistent.missing_eq_nil_iff] at nothing
    rw [kept.missing_eq_nil_iff]
    intro plan mem required absent
    obtain ⟨cell, twin, found, there, cells⟩ := alike.cells plan mem
    have same := cells.eq (keepsOrder_of_required (planned.suits plan mem) required)
      (consistent.suits mem found).fits (kept.suits mem there).fits
    exact nothing plan mem required (found.trans (same ▸ there.symm.trans absent))
  · refine forall₂_imp_of_mem ?_ fields
    rintro plan mem entry ⟨cell, found, name, finished⟩
    obtain ⟨one, twin, here, there, cells⟩ := alike.cells plan mem
    obtain rfl : one = cell := Option.some.inj (here.symm.trans found)
    refine ⟨twin, there, name, ?_⟩
    rw [finished_of_alike (planned.suits plan mem) (lawful plan mem) (strict plan mem)
      (known plan mem _ found) (consistent.suits mem found) (kept.suits mem there) cells]
    exact finished

end StructBuilder.Run
