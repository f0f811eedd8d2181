import StructBuilder.Proofs.Call
import StructBuilder.Proofs.Sorted

/-!
The invariant of running builders. Every plan has its field, of its kind of storage and
without repeated keys or elements, and the tracker holds the positions of exactly those
required properties that have no content. Each operation keeps it.
-/

namespace StructBuilder.Run

open Emit (methods storage)

variable {V : Type}

/-- The cell that a property may have. -/
structure Cell.Suits [BEq V] (plan : Plan) (cell : Cell V) : Prop where
  fits : cell.Fits (storage plan)
  distinct : cell.Distinct

structure State.Consistent [BEq V] (plans : List Plan) (state : State V) : Prop where
  names : state.names = plans.map (·.property.name)
  cells : ∀ plan ∈ plans, ∃ cell, state.cell? plan.property.name = some cell ∧ cell.Suits plan
  ascending : state.unset.positions.Pairwise (· < ·)
  tracked : ∀ position, position ∈ state.unset.positions ↔
    ∃ plan, plans[position]? = some plan ∧ plan.kind = .required ∧
      state.cell? plan.property.name = some (.option none)

theorem storage_of_required {plan : Plan} (required : plan.kind = .required) :
    storage plan = .option plan.property.ty := by
  simp [storage, Plan.kind_eq_required_iff.1 required]

theorem option_of_required {plan : Plan} (required : plan.kind = .required) {cell : Cell V}
    (fits : cell.Fits (storage plan)) : cell = .option cell.content? := by
  rw [storage_of_required required] at fits
  cases cell with
  | option content => rfl
  | _ => exact fits.elim

variable [BEq V] {machine : Machine V} {plans : List Plan}

namespace State.Consistent

variable {state : State V} {plan : Plan} {cell : Cell V}

theorem distinct (consistent : state.Consistent plans) (planned : machine.Planned plans) :
    state.names.Nodup :=
  consistent.names ▸ planned.names

theorem suits (consistent : state.Consistent plans) (mem : plan ∈ plans)
    (found : state.cell? plan.property.name = some cell) : cell.Suits plan := by
  obtain ⟨other, same, suits⟩ := consistent.cells plan mem
  obtain rfl : other = cell := Option.some.inj (same.symm.trans found)
  exact suits

/-- A required property is tracked as long as it has no content. -/
theorem mem_unset (consistent : state.Consistent plans) {position : Nat}
    (here : plans[position]? = some plan) (required : plan.kind = .required)
    (found : state.cell? plan.property.name = some cell) :
    position ∈ state.unset.positions ↔ cell.content? = none := by
  have mem := List.mem_of_getElem? here
  have option := option_of_required required (consistent.suits mem found).fits
  rw [consistent.tracked]
  constructor
  · rintro ⟨other, there, _, absent⟩
    obtain rfl : plan = other := Option.some.inj (here.symm.trans there)
    obtain rfl : cell = .option none := Option.some.inj (found.symm.trans absent)
    rfl
  · intro absent
    rw [option, absent] at found
    exact ⟨plan, here, required, found⟩

theorem ready (consistent : state.Consistent plans) (planned : machine.Planned plans)
    (mem : plan ∈ plans) (found : state.cell? plan.property.name = some cell) :
    machine.Ready plan state cell := by
  obtain ⟨position, here⟩ := List.mem_iff_getElem?.1 mem
  refine ⟨consistent.distinct planned, found, (consistent.suits mem found).fits, ?_, ?_⟩
  · intro required
    rw [planned.position here, Unset.contains_eq, Bool.eq_iff_iff, decide_eq_true_iff,
      consistent.mem_unset here required found, Option.isNone_iff_eq_none]
  · rw [planned.position here, planned.nameAt here]

end State.Consistent

theorem Machine.Change.suits {state : State V} {plan : Plan} {cell after : Cell V}
    (change : machine.Change plan state cell after) (suits : cell.Suits plan) :
    after.Suits plan :=
  ⟨change.fits suits.fits, change.distinct suits.fits suits.distinct⟩

/-! Storing. -/

omit [BEq V] in
theorem Machine.Planned.eq_of_name (planned : machine.Planned plans) {plan other : Plan}
    (mem : plan ∈ plans) (others : other ∈ plans)
    (same : plan.property.name = other.property.name) : plan = other :=
  List.inj_on_of_nodup_map planned.names mem others same

omit [BEq V] in
theorem Machine.Planned.eq_of_position (planned : machine.Planned plans) {plan other : Plan}
    {position : Nat} (mem : plan ∈ plans) (there : plans[position]? = some other)
    (same : machine.position plan.property.marker = position) : plan = other := by
  obtain ⟨i, here⟩ := List.mem_iff_getElem?.1 mem
  obtain rfl : i = position := (planned.position here).symm.trans same
  exact Option.some.inj (here.symm.trans there)

section

variable (machine) (plan : Plan) (cell : Cell V) (state : State V)

omit [BEq V] in
@[simp] theorem names_store : (machine.store plan cell state).names = state.names := by
  unfold Machine.store
  cases plan.kind <;> exact State.names_put ..

omit [BEq V] in
theorem cell?_store (field : String) :
    (machine.store plan cell state).cell? field =
      (state.put plan.property.name cell).cell? field := by
  unfold Machine.store
  cases plan.kind <;> rfl

omit [BEq V] in
theorem unset_store : (machine.store plan cell state).unset =
    if plan.kind = .required then
      (state.unset.remove (machine.position plan.property.marker)).2
    else state.unset := by
  unfold Machine.store
  cases plan.kind <;> rfl

variable {state}

omit [BEq V] in
theorem mem_unset_store (ascending : state.unset.positions.Pairwise (· < ·)) {position : Nat} :
    position ∈ (machine.store plan cell state).unset.positions ↔
      (plan.kind = .required → position ≠ machine.position plan.property.marker) ∧
        position ∈ state.unset.positions := by
  rw [unset_store]
  split
  · rename_i required
    rw [Unset.mem_remove ascending]
    simp [required]
  · rename_i other
    simp [other]

end

theorem State.Consistent.store {state : State V} {plan : Plan} {cell : Cell V}
    (consistent : state.Consistent plans) (planned : machine.Planned plans) (mem : plan ∈ plans)
    (suits : cell.Suits plan) (present : plan.kind = .required → cell.content? ≠ none) :
    (machine.store plan cell state).Consistent plans := by
  obtain ⟨old, found, _⟩ := consistent.cells plan mem
  have stored : (machine.store plan cell state).cell? plan.property.name = some cell :=
    (cell?_store ..).trans (State.cell?_put_same found cell)
  have kept {other : Plan} (others : other ∈ plans) (ne : other ≠ plan) :
      (machine.store plan cell state).cell? other.property.name =
        state.cell? other.property.name :=
    (cell?_store ..).trans
      (State.cell?_put_of_ne (fun same => ne (planned.eq_of_name others mem same)) cell state)
  refine ⟨?_, ?_, ?_, ?_⟩
  · rw [names_store, consistent.names]
  · intro other others
    by_cases same : other = plan
    · subst same
      exact ⟨cell, stored, suits⟩
    · rw [kept others same]
      exact consistent.cells other others
  · rw [unset_store]
    split
    · exact Unset.ascending_remove consistent.ascending _
    · exact consistent.ascending
  · intro position
    rw [mem_unset_store _ _ _ consistent.ascending, consistent.tracked]
    constructor
    · rintro ⟨away, other, there, required, absent⟩
      have ne : other ≠ plan := by
        rintro rfl
        exact away required (planned.position there).symm
      exact ⟨other, there, required, (kept (List.mem_of_getElem? there) ne).trans absent⟩
    · rintro ⟨other, there, required, absent⟩
      have ne : other ≠ plan := by
        rintro rfl
        obtain rfl : cell = .option none := Option.some.inj (stored.symm.trans absent)
        exact present required rfl
      refine ⟨fun _ same => ne (planned.eq_of_position mem there same.symm).symm, other, there,
        required, ?_⟩
      rwa [← kept (List.mem_of_getElem? there) ne]

/-! Calls. -/

/-- A required property has content after any call that changes it. -/
theorem content_of_effect {state : State V} {plan : Plan} {cell after : Cell V}
    (required : plan.kind = .required) (fits : cell.Fits (storage plan)) {method : Emit.Method}
    (mem : method ∈ methods plan) {verb : Verb} (named : method.name = plan.property.method verb)
    {arguments : List (Argument V)} (accepted : Argument.AcceptedBy method arguments)
    (h : machine.effect plan state cell verb arguments = .ok after) : after.content? ≠ none := by
  have option := option_of_required required fits
  have strategy := Plan.kind_eq_required_iff.1 required
  have assigned {value : V}
      (h : machine.assigned plan.property state cell (some value) = .ok after) :
      after.content? ≠ none := by
    obtain ⟨_, _, rfl⟩ := map_eq_ok_iff.1 h
    rw [option]
    simp [Cell.assign, Cell.content?]
  rw [Machine.effect.eq_def, strategy] at h
  cases Called.of_mem mem named accepted with
  | setValue _ value => exact assigned h
  | mapRequired _ apply =>
      dsimp only at h
      split at h
      · exact assigned h
      · cases h
  | mapDefault other | setOptional other | mapOptional other => cases strategy.symm.trans other
  | put other | putAll other | removeEntry other | clearMap other =>
      cases strategy.symm.trans other
  | addToSet other | addAllToSet other | removeFromSet other | clearSet other =>
      cases strategy.symm.trans other
  | addToList other | addAllToList other | removeFromList other | clearList other =>
      cases strategy.symm.trans other

/-- A call either leaves the state as it is or stores a change of one cell. -/
theorem state_call {state : State V} {plan : Plan} {cell : Cell V}
    (ready : machine.Ready plan state cell) {method : Emit.Method} (mem : method ∈ methods plan)
    {arguments : List (Argument V)} (accepted : Argument.AcceptedBy method arguments) :
    (machine.call (Emit.fragments plan) method.name arguments state).state = state ∨
      ∃ after, machine.Change plan state cell after ∧
        (plan.kind = .required → after.content? ≠ none) ∧
        (machine.call (Emit.fragments plan) method.name arguments state).state =
          machine.store plan after state := by
  rcases name_of_mem_methods mem with ⟨named, parameters⟩ | ⟨verb, named⟩
  · obtain rfl := (Argument.acceptedBy_nil parameters).1 accepted
    rw [named, call_getter ready]
    exact .inl rfl
  · have settles := settles_call ready mem named accepted
    generalize effect : machine.effect plan state cell verb arguments = result at settles
    cases settles with
    | refused answer unchanged => exact .inl unchanged
    | stored answer stored =>
        exact .inr ⟨_, Machine.change_of_effect ready.fits effect,
          fun required => content_of_effect required ready.fits mem named accepted effect, stored⟩

theorem State.Consistent.call {state : State V} (consistent : state.Consistent plans)
    (planned : machine.Planned plans) {plan : Plan} (known : plan ∈ plans) {method : Emit.Method}
    (mem : method ∈ methods plan) {arguments : List (Argument V)}
    (accepted : Argument.AcceptedBy method arguments) :
    (machine.call (Emit.fragments plan) method.name arguments state).state.Consistent plans := by
  obtain ⟨cell, found, suits⟩ := consistent.cells plan known
  rcases state_call (consistent.ready planned known found) mem accepted with
    same | ⟨after, change, present, stored⟩
  · rwa [same]
  · rw [stored]
    exact consistent.store planned known (change.suits suits) present

/-! New builders. -/

omit [BEq V] in
theorem names_new (planned : machine.Planned plans) :
    machine.new.names = plans.map (·.property.name) := by
  simp [Machine.new, State.names, planned.fragments, Function.comp_def, Emit.fragments]

omit [BEq V] in
theorem cell?_new (planned : machine.Planned plans) {plan : Plan} (mem : plan ∈ plans) :
    machine.new.cell? plan.property.name =
      some (machine.initial (storage plan) (Emit.initial plan)) := by
  apply State.cell?_of_mem
  · rw [names_new planned]
    exact planned.names
  · rw [Machine.new, planned.fragments]
    exact List.mem_map.2 ⟨Emit.fragments plan, List.mem_map_of_mem mem, rfl⟩

omit [BEq V] in
theorem initial_of_required (plan : Plan) (required : plan.kind = .required) :
    machine.initial (storage plan) (Emit.initial plan) = .option none := by
  rw [storage_of_required required]
  simp [Emit.initial, Plan.kind_eq_required_iff.1 required, Machine.initial, Cell.ofStorage]

omit [BEq V] in
/-- Collections are empty at first. -/
@[simp] theorem entries_initial (storage : Emit.Storage) (initial : Emit.Initial) :
    (machine.initial storage initial).entries = [] := by
  cases storage <;> cases initial <;> rfl

omit [BEq V] in
@[simp] theorem elements_initial (storage : Emit.Storage) (initial : Emit.Initial) :
    (machine.initial storage initial).elements = [] := by
  cases storage <;> cases initial <;> rfl

theorem suits_initial (plan : Plan) :
    (machine.initial (storage plan) (Emit.initial plan)).Suits plan := by
  refine ⟨?_, Cell.distinct_of_empty (entries_initial ..) (elements_initial ..)⟩
  generalize Emit.initial plan = initial
  generalize storage plan = storage
  cases storage <;> cases initial <;> trivial

theorem State.consistent_new (planned : machine.Planned plans) :
    machine.new.Consistent plans := by
  refine ⟨names_new planned, ?_, Unset.ascending_ofList _, ?_⟩
  · intro plan mem
    exact ⟨_, cell?_new planned mem, suits_initial plan⟩
  · intro position
    have mem : position ∈ machine.new.unset.positions ↔
        ∃ plan ∈ plans, plan.kind = .required ∧
          machine.position plan.property.marker = position := by
      rw [Machine.new, Unset.mem_ofList, planned.required]
      simp [and_assoc]
    rw [mem]
    constructor
    · rintro ⟨plan, known, required, rfl⟩
      obtain ⟨i, here⟩ := List.mem_iff_getElem?.1 known
      refine ⟨plan, (planned.position here).symm ▸ here, required, ?_⟩
      rw [cell?_new planned known, initial_of_required plan required]
    · rintro ⟨plan, here, required, _⟩
      exact ⟨plan, List.mem_of_getElem? here, required, planned.position here⟩

/-! Resets. -/

/-- What a reset makes of a cell. -/
def Reset.apply (template : Option (Cell V)) (reset : Emit.Reset) (cell : Cell V) : Cell V :=
  match reset with
  | .keep => cell
  | .fromTemplate => template.getD cell
  | .absent => .option none
  | .empty => cell.clear

omit [BEq V] in
theorem resetField_eq_update (template : State V) (field : String) (reset : Emit.Reset)
    (state : State V) :
    resetField template field reset state =
      state.update field (Reset.apply (template.cell? field) reset) := by
  have kept : state.update field (fun cell => cell) = state := by
    simp [State.update]
  cases reset with
  | keep => exact kept.symm
  | fromTemplate =>
      rw [resetField]
      cases h : template.cell? field with
      | none => exact kept.symm
      | some cell => rfl
  | absent => rfl
  | empty => rfl

omit [BEq V] in
theorem foldl_resetField (planned : machine.Planned plans) (reset : Emit.Fragments → Emit.Reset)
    (state : State V) :
    machine.builder.fragments.foldl
        (fun state fragments => resetField machine.new fragments.field (reset fragments) state)
        state =
      plans.foldl (fun state plan => state.update plan.property.name
        (Reset.apply (machine.new.cell? plan.property.name) (reset (Emit.fragments plan))))
        state := by
  rw [planned.fragments, List.foldl_map]
  simp only [resetField_eq_update]
  rfl

omit [BEq V] in
theorem clear_eq_ofStorage {storage : Emit.Storage} {cell : Cell V} (fits : cell.Fits storage)
    (plain : ∀ ty, storage ≠ .plain ty) (option : ∀ ty, storage ≠ .option ty) :
    cell.clear = .ofStorage storage := by
  cases storage <;> cases cell <;> first | rfl | exact fits.elim | simp at plain option

omit [BEq V] in
/-- An emptied collection is a new one. -/
theorem clear_eq_initial {plan : Plan} (h : Emit.clear plan = .empty) {cell : Cell V}
    (fits : cell.Fits (storage plan)) :
    cell.clear = machine.initial (storage plan) (Emit.initial plan) := by
  cases strategy : plan.strategy with
  | scalar hasDefault => simp [Emit.clear, strategy] at h
  | optional inner => simp [Emit.clear, strategy] at h
  | _ =>
      have initial : Emit.initial plan = .default := by simp [Emit.initial, strategy]
      rw [initial]
      cases library : plan.features.library <;>
        simp only [storage, strategy, library] at fits ⊢ <;>
        exact clear_eq_ofStorage fits (by simp) (by simp)

omit [BEq V] in
theorem apply_clear {plan : Plan} {cell : Cell V} (fits : cell.Fits (storage plan)) :
    Reset.apply (some (machine.initial (storage plan) (Emit.initial plan))) (Emit.clear plan) cell =
      machine.initial (storage plan) (Emit.initial plan) := by
  cases h : Emit.clear plan with
  | fromTemplate => rfl
  | empty => exact clear_eq_initial h fits
  | _ =>
      unfold Emit.clear at h
      split at h <;> cases h

/-- A cleared builder is a new one. -/
theorem State.Consistent.clear_eq_new {state : State V} (consistent : state.Consistent plans)
    (planned : machine.Planned plans) : machine.clear state = machine.new := by
  rw [Machine.clear, foldl_resetField planned (·.clear)]
  apply State.eq_of_cell?
  · refine (State.names_foldl_update ..).trans ?_
    rw [consistent.names, names_new planned]
  · refine (State.names_foldl_update ..).symm ▸ ?_
    exact consistent.distinct planned
  · intro field
    by_cases known : field ∈ plans.map (·.property.name)
    · obtain ⟨plan, mem, rfl⟩ := List.mem_map.1 known
      obtain ⟨cell, found, suits⟩ := consistent.cells plan mem
      refine (State.cell?_foldl_update _ _ planned.names mem state).trans ?_
      rw [found, cell?_new planned mem, Option.map_some]
      exact congrArg some (apply_clear suits.fits)
    · refine (State.cell?_foldl_update_of_not_mem _ _ known state).trans ?_
      rw [State.cell?_eq_none (consistent.names ▸ known),
        State.cell?_eq_none (names_new planned ▸ known)]
  · rfl

omit [BEq V] in
/-- What a partial reset leaves of a cell. -/
theorem cell?_clearPartial (planned : machine.Planned plans) {state : State V} {plan : Plan}
    (mem : plan ∈ plans) {cell : Cell V} (found : state.cell? plan.property.name = some cell) :
    (machine.clearPartial state).cell? plan.property.name =
      some (Reset.apply none (Emit.partialClear plan) cell) := by
  rw [Machine.clearPartial, foldl_resetField planned (·.partialClear)]
  refine (State.cell?_foldl_update _ _ planned.names mem state).trans ?_
  rw [found, Option.map_some]
  change some (Reset.apply _ (Emit.partialClear plan) cell) = _
  unfold Emit.partialClear
  split <;> rfl

theorem suits_partialClear {plan : Plan} {cell : Cell V} (suits : cell.Suits plan) :
    (Reset.apply none (Emit.partialClear plan) cell).Suits plan := by
  have empty : Cell.Suits plan cell.clear :=
    ⟨Cell.fits_clear suits.fits,
      Cell.distinct_of_empty (Cell.entries_clear _) (Cell.elements_clear _)⟩
  cases strategy : plan.strategy with
  | scalar hasDefault => simpa [Emit.partialClear, strategy, Reset.apply] using suits
  | optional inner =>
      simp only [Emit.partialClear, strategy, Reset.apply]
      refine ⟨?_, Cell.distinct_of_empty rfl rfl⟩
      simp [storage, strategy, Cell.Fits]
  | _ => simpa [Emit.partialClear, strategy, Reset.apply] using empty

theorem State.Consistent.clearPartial {state : State V} (consistent : state.Consistent plans)
    (planned : machine.Planned plans) : (machine.clearPartial state).Consistent plans := by
  have names : (machine.clearPartial state).names = state.names := by
    rw [Machine.clearPartial, foldl_resetField planned (·.partialClear)]
    exact State.names_foldl_update ..
  have unset : (machine.clearPartial state).unset = state.unset := by
    rw [Machine.clearPartial, foldl_resetField planned (·.partialClear)]
    exact State.unset_foldl_update ..
  refine ⟨names.trans consistent.names, ?_, unset ▸ consistent.ascending, ?_⟩
  · intro plan mem
    obtain ⟨cell, found, suits⟩ := consistent.cells plan mem
    exact ⟨_, cell?_clearPartial planned mem found, suits_partialClear suits⟩
  · intro position
    rw [unset, consistent.tracked]
    refine exists_congr fun plan => and_congr_right fun here => and_congr_right fun required => ?_
    have mem := List.mem_of_getElem? here
    obtain ⟨cell, found, suits⟩ := consistent.cells plan mem
    have kept : Emit.partialClear plan = .keep := by
      simp [Emit.partialClear, Plan.kind_eq_required_iff.1 required]
    rw [cell?_clearPartial planned mem found, kept, found]
    rfl

end StructBuilder.Run
