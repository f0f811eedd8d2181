import StructBuilder.Proofs.Reachable
import StructBuilder.Samples.Tally

/-!
Checks cannot be passed by. Whatever way a value took into a checked property, the hook
has accepted it, so the property holds nothing that its hook never accepts, except for
the value of a plain or optional property that it began with.
-/

namespace StructBuilder.Run

open Emit (storage)

variable {V : Type}

/-- The cell holds at most one value. -/
def Cell.IsSingle : Cell V → Prop
  | plain _ | option _ => True
  | _ => False

theorem Content.mem_stored_ofCell {cell : Cell V} {values : List V} :
    values ∈ (ofCell cell).stored ↔ (∃ value, cell.content? = some value ∧ values = [value]) ∨
      (∃ entry ∈ cell.entries, values = [entry.1, entry.2]) ∨
        ∃ element ∈ cell.elements, values = [element] := by
  cases cell <;>
    simp [ofCell, stored, Cell.content?, Cell.entries, Cell.elements, eq_comm]

theorem Cell.isSingle_of_fits {storage : Emit.Storage} {cell other : Cell V}
    (fits : cell.Fits storage) (others : other.Fits storage) (single : cell.IsSingle) :
    other.IsSingle := by
  cases storage <;> cases cell <;> cases other <;>
    first | exact fits.elim | exact others.elim | exact single.elim | trivial

theorem Cell.content?_eq_none {cell : Cell V} (collection : ¬ cell.IsSingle) :
    cell.content? = none := by
  cases cell <;> first | exact absurd trivial collection | rfl

theorem Content.stored_subset {cell rest : Cell V} (collection : ¬ rest.IsSingle)
    (entries : rest.entries ⊆ cell.entries) (elements : rest.elements ⊆ cell.elements) :
    (ofCell rest).stored ⊆ (ofCell cell).stored := by
  intro values mem
  rw [mem_stored_ofCell, Cell.content?_eq_none collection] at mem
  rw [mem_stored_ofCell]
  rcases mem with ⟨_, absurd, _⟩ | ⟨entry, mem, rfl⟩ | ⟨element, mem, rfl⟩
  · cases absurd
  · exact .inr (.inl ⟨entry, entries mem, rfl⟩)
  · exact .inr (.inr ⟨element, elements mem, rfl⟩)

variable [BEq V] {machine : Machine V} {plans : List Plan} {plan : Plan} {state : State V}
  {cell after : Cell V}

namespace Machine.Change

/-- A single value is replaced only by one that the hook accepts. -/
theorem stored_of_isSingle (change : machine.Change plan state cell after)
    (single : cell.IsSingle) :
    after = cell ∨ ∀ values ∈ (Content.ofCell after).stored,
      machine.verdict plan.property state values = .ok () := by
  cases change with
  | @assign given accepted =>
      rw [Machine.verdicts_eq_ok_iff] at accepted
      cases cell with
      | plain old =>
          cases given with
          | none => exact .inl rfl
          | some value => exact .inr accepted
      | option old => exact .inr accepted
      | _ => exact single.elim
  | add holds _ => cases cell <;> first | exact single.elim | exact holds.elim
  | removeKey found => cases cell <;> first | exact single.elim | cases found
  | _ => cases cell <;> first | exact single.elim | exact .inl rfl

/-- What a changed cell holds was there before or has been accepted. -/
theorem stored (change : machine.Change plan state cell after) (fits : cell.Fits (storage plan))
    {values : List V} (mem : values ∈ (Content.ofCell after).stored) :
    values ∈ (Content.ofCell cell).stored ∨
      machine.verdict plan.property state values = .ok () := by
  by_cases single : cell.IsSingle
  · rcases change.stored_of_isSingle single with rfl | accepted
    · exact .inl mem
    · exact .inr (accepted values mem)
  have collection : ¬ after.IsSingle := fun h =>
    single (Cell.isSingle_of_fits (change.fits fits) fits h)
  cases change with
  | keep => exact .inl mem
  | assign _ => cases cell <;> first | exact absurd trivial single | exact .inl mem
  | @put items _ _ strategy admitted =>
      have holds := Cell.holdsEntries_of_map strategy fits
      have staged : (Cell.ofStorage (storage plan) : Cell V).HoldsEntries :=
        Cell.holdsEntries_of_map strategy (Cell.fits_ofStorage_of_map strategy)
      obtain ⟨fresh, apart⟩ := Machine.fresh_of_entriesVerdict strategy fits admitted
      obtain ⟨accepted, _⟩ := (Machine.entriesVerdict_eq_ok_iff staged).1 admitted
      rw [Content.mem_stored_ofCell, Cell.content?_eq_none collection,
        Cell.entries_extendEntries holds fresh apart, Cell.elements_extendEntries] at mem
      rw [Content.mem_stored_ofCell]
      rcases mem with ⟨_, absurd, _⟩ | ⟨entry, mem, rfl⟩ | element
      · cases absurd
      · rcases List.mem_append.1 mem with mem | mem
        · exact .inl (.inr (.inl ⟨entry, mem, rfl⟩))
        · exact .inr (accepted entry mem)
      · exact .inl (.inr (.inr element))
  | removeKey found =>
      obtain ⟨entries, _, elements, _⟩ := Cell.withoutKey?_eq_some found
      exact .inl (Content.stored_subset collection (entries ▸ List.eraseP_subset)
        (elements ▸ List.Subset.refl _) mem)
  | @add items holds accepted =>
      rw [Machine.verdicts_eq_ok_iff] at accepted
      rw [Content.mem_stored_ofCell, Cell.content?_eq_none collection,
        Cell.elements_extendElements holds, Cell.entries_extendElements] at mem
      rw [Content.mem_stored_ofCell]
      rcases mem with ⟨_, absurd, _⟩ | entry | ⟨element, mem, rfl⟩
      · cases absurd
      · exact .inl (.inr (.inl entry))
      · rcases Cell.mem_addAbsent mem with mem | mem
        · exact .inl (.inr (.inr ⟨element, mem, rfl⟩))
        · exact .inr (accepted [element] (List.mem_map_of_mem mem))
  | @removeElement element =>
      exact .inl (Content.stored_subset collection (by simp)
        (Cell.sublist_removeElement cell element).subset mem)
  | @removeFirst element =>
      exact .inl (Content.stored_subset collection (by simp)
        (Cell.sublist_removeFirst cell element).subset mem)
  | clear => exact .inl (Content.stored_subset collection (by simp) (by simp) mem)

end Machine.Change

/-! The invariant. -/

/-- Whatever checked properties hold satisfies what their hooks ask for. -/
def State.Satisfies (P : Property → List V → Prop) (plans : List Plan) (state : State V) : Prop :=
  ∀ plan ∈ plans, plan.property.check = true → ∀ cell,
    state.cell? plan.property.name = some cell →
      ∀ values ∈ (Content.ofCell cell).stored, P plan.property values

/-- The built value has all checked properties, and they satisfy what their hooks ask for. -/
def Value.Satisfies (P : Property → List V → Prop) (plans : List Plan) (built : Value V) : Prop :=
  ∀ plan ∈ plans, plan.property.check = true → ∃ content,
    built.lookup plan.property.name = some content ∧
      ∀ values ∈ content.stored, P plan.property values

/-- What checked properties hold satisfies what their hooks ask for, or is what they began
with. -/
def State.Guarded (machine : Machine V) (P : Property → List V → Prop) (plans : List Plan)
    (state : State V) : Prop :=
  ∀ plan ∈ plans, plan.property.check = true → ∀ cell,
    state.cell? plan.property.name = some cell →
      (∀ values ∈ (Content.ofCell cell).stored, P plan.property values) ∨
        (cell.IsSingle ∧ machine.new.cell? plan.property.name = some cell)

/-- The hooks of checked properties accept nothing else, whatever the builder holds. -/
def Machine.Demands (machine : Machine V) (P : Property → List V → Prop) (plans : List Plan) :
    Prop :=
  ∀ plan ∈ plans, plan.property.check = true → ∀ state values,
    machine.verdict plan.property state values = .ok () → P plan.property values

variable {P : Property → List V → Prop}

omit [BEq V] in
theorem stored_initial {storage : Emit.Storage} {initial : Emit.Initial}
    (collection : ¬ (machine.initial storage initial).IsSingle) :
    (Content.ofCell (machine.initial storage initial)).stored = [] := by
  cases storage <;> cases initial <;> first | exact absurd trivial collection | rfl

omit [BEq V] in
theorem guarded_new (planned : machine.Planned plans) : machine.new.Guarded machine P plans := by
  intro plan mem _ cell found
  by_cases single : cell.IsSingle
  · exact .inr ⟨single, found⟩
  · rw [cell?_new planned mem] at found
    obtain rfl := Option.some.inj found
    refine .inl fun values stored => ?_
    rw [stored_initial single] at stored
    cases stored

theorem keeps_guarded (planned : machine.Planned plans) (demands : machine.Demands P plans) :
    machine.Keeps plans (State.Guarded machine P plans) := by
  intro plan mem state cell after consistent guarded found change _ other others checked held there
  by_cases same : other = plan
  · subst same
    rw [cell?_store, State.cell?_put_same found] at there
    obtain rfl := Option.some.inj there
    rcases guarded other others checked cell found with satisfied | ⟨single, initial⟩
    · refine .inl fun values stored => ?_
      rcases change.stored (consistent.suits others found).fits stored with old | accepted
      · exact satisfied values old
      · exact demands other others checked state values accepted
    · rcases change.stored_of_isSingle single with same | accepted
      · rw [same]
        exact .inr ⟨single, initial⟩
      · exact .inl fun values stored =>
          demands other others checked state values (accepted values stored)
  · have ne : other.property.name ≠ plan.property.name :=
      fun eq => same (planned.eq_of_name others mem eq)
    rw [cell?_store, State.cell?_put_of_ne ne] at there
    exact guarded other others checked held there

omit [BEq V] in
/-- A partial reset keeps a cell or empties it. -/
theorem apply_partialClear (plan : Plan) (cell : Cell V) :
    Reset.apply none (Emit.partialClear plan) cell = cell ∨
      (Content.ofCell (Reset.apply none (Emit.partialClear plan) cell)).stored = [] := by
  have clear : cell.clear = cell ∨ (Content.ofCell cell.clear).stored = [] := by
    cases cell <;> first | exact .inl rfl | exact .inr rfl
  cases strategy : plan.strategy with
  | scalar hasDefault => exact .inl (by simp [Emit.partialClear, strategy, Reset.apply])
  | optional inner => exact .inr (by simp [Emit.partialClear, strategy, Reset.apply,
      Content.ofCell, Content.stored])
  | _ => simpa [Emit.partialClear, strategy, Reset.apply] using clear

theorem guarded_clearPartial (planned : machine.Planned plans) (consistent : state.Consistent plans)
    (guarded : state.Guarded machine P plans) :
    (machine.clearPartial state).Guarded machine P plans := by
  intro plan mem checked after there
  obtain ⟨cell, found, _⟩ := consistent.cells plan mem
  rw [cell?_clearPartial planned mem found] at there
  obtain rfl := Option.some.inj there
  rcases apply_partialClear plan cell with kept | empty
  · rw [kept]
    exact guarded plan mem checked cell found
  · refine .inl fun values stored => ?_
    rw [empty] at stored
    cases stored

theorem guarded_of_reachable (planned : machine.Planned plans) (demands : machine.Demands P plans)
    (reachable : machine.Reachable state) : state.Guarded machine P plans :=
  reachable.of_keeps planned (keeps_guarded planned demands) (guarded_new planned)
    fun _ => guarded_clearPartial planned

/-! Built values. -/

/-- Keys that no later one equals, read from either side. -/
theorem Cell.Distinct.entries_apart (distinct : cell.Distinct)
    (symmetric : ∀ a b : V, (a == b) = (b == a)) :
    cell.entries.Pairwise fun first second => (second.1 == first.1) = false := by
  cases cell with
  | indexMap map => exact distinct.entries
  | orderedMap map => exact distinct.entries.imp fun apart => (symmetric _ _).trans apart
  | _ => exact .nil

variable [Ord V]

/-- A container holds nothing that has not been collected into it. -/
theorem Content.stored_collect (shape : Shape) (distinct : cell.Distinct)
    (symmetric : ∀ a b : V, (a == b) = (b == a)) :
    ((ofCell cell).collect shape).stored ⊆ (ofCell cell).stored := by
  have entries (order : Order) (items : List (V × V))
      (apart : items.Pairwise fun first second => (second.1 == first.1) = false) :
      (Content.entries (order.entries items)).stored ⊆ (Content.entries items).stored := by
    intro values stored
    obtain ⟨entry, collected, rfl⟩ := List.mem_map.1 stored
    exact List.mem_map.2 ⟨entry, Order.mem_of_mem_entries apart collected, rfl⟩
  have elements (order : Order) (items : List V) :
      (Content.elements (order.elements items)).stored ⊆ (Content.elements items).stored := by
    intro values stored
    obtain ⟨element, collected, rfl⟩ := List.mem_map.1 stored
    exact List.mem_map.2 ⟨element, Order.mem_of_mem_elements collected, rfl⟩
  have apart := distinct.entries_apart symmetric
  cases shape with
  | map order key value => cases cell <;> first | exact entries _ _ apart | exact .refl _
  | set order element => cases cell <;> first | exact elements _ _ | exact .refl _
  | _ => cases cell <;> exact .refl _

theorem stored_finished (suits : cell.Suits plan) (symmetric : ∀ a b : V, (a == b) = (b == a))
    {content : Content V} (finished : machine.finished plan cell = .ok content) :
    content.stored ⊆ (Content.ofCell cell).stored := by
  unfold Machine.finished at finished
  split at finished
  · rename_i value _ found
    cases finished
    intro values mem
    obtain rfl := List.mem_singleton.1 mem
    exact Content.mem_stored_ofCell.2 (.inl ⟨value, found, rfl⟩)
  · cases finished
  · cases finished
    exact Content.stored_collect plan.property.shape suits.distinct symmetric

/-- What the checks of a builder come to. -/
structure Machine.Upholds (machine : Machine V) (P : Property → List V → Prop) (plans : List Plan)
    (state : State V) : Prop where
  /-- Only what a plain or optional property began with may be unsatisfactory. -/
  guarded : state.Guarded machine P plans
  /-- If nothing began so, whatever is built is satisfactory; that equality is symmetric
  matters for maps that are copied into a container of another kind. -/
  builds : (∀ a b : V, (a == b) = (b == a)) → machine.new.Satisfies P plans →
    ∀ built, machine.build state = .ok built → built.Satisfies P plans

theorem satisfies_of_build (planned : machine.Planned plans) (consistent : state.Consistent plans)
    (guarded : state.Guarded machine P plans) (symmetric : ∀ a b : V, (a == b) = (b == a))
    (initially : machine.new.Satisfies P plans) {built : Value V}
    (finished : machine.build state = .ok built) : built.Satisfies P plans := by
  intro plan mem checked
  obtain ⟨content, cell, looked, found, became⟩ := finished_of_build consistent planned finished mem
  refine ⟨content, looked, fun values stored => ?_⟩
  have old := stored_finished (consistent.suits mem found) symmetric became stored
  rcases guarded plan mem checked cell found with satisfied | ⟨_, initial⟩
  · exact satisfied values old
  · exact initially plan mem checked cell initial values old

/-- Whatever operations produced a builder, its checked properties hold nothing that their
hooks never accept, apart from what they began with. -/
theorem upholds_of_reachable {blueprint : Blueprint} {library : Library}
    (emitted : machine.Emitted blueprint library)
    (demands : machine.Demands P (blueprint.plans library)) (reachable : machine.Reachable state) :
    machine.Upholds P (blueprint.plans library) state where
  guarded := guarded_of_reachable emitted.planned demands reachable
  builds := by
    intro symmetric initially built finished
    have guarded := guarded_of_reachable emitted.planned demands reachable
    exact satisfies_of_build emitted.planned (reachable.consistent emitted.planned) guarded
      symmetric initially finished

theorem upholds_merged_tally :
    Tally.machine.Upholds (fun _ values => values.all (· < 10)) (Tally.blueprint.plans .indexMap)
      (Tally.machine.merge (.value Tally.sample) Tally.machine.new).state := by
  refine upholds_of_reachable Tally.emitted ?_ (.mergeValue .new (by decide +kernel))
  intro plan _ checked state values accepted
  by_contra large
  simp [Machine.verdict, checked, Tally.machine, Tally.digits, large] at accepted

end StructBuilder.Run
