import StructBuilder.Proofs.Reachable
import StructBuilder.Samples.Tally

/-!
Completeness of builders. Whether a required property is set is stored twice, in its own
cell and in the tracker; both agree in every reachable state, so that errors name exactly
what is missing, and nothing fails behind a check that the tracker has passed.
-/

namespace StructBuilder.Run

variable {V : Type} [BEq V]

/-- The tracker and the cells say the same, and so do all that ask either of them. -/
structure Machine.Tracks [Ord V] (machine : Machine V) (plans : List Plan) (state : State V) :
    Prop where
  /-- The marker of a required property is there as long as its cell is empty. -/
  required : ∀ plan ∈ plans, plan.kind = .required →
    (state.unset.contains (machine.position plan.property.marker) = true ↔
      state.cell? plan.property.name = some (.option none))
  /-- No other property is ever tracked. -/
  others : ∀ plan ∈ plans, plan.kind ≠ .required →
    state.unset.contains (machine.position plan.property.marker) = false
  /-- Building fails exactly if a required property is unset. -/
  fails : (∃ error, machine.build state = .error error) ↔
    ∃ plan ∈ plans, plan.kind = .required ∧
      state.cell? plan.property.name = some (.option none)
  /-- The error names all of them, in declaration order. -/
  names : ∀ error, machine.build state = .error error →
    error = .incomplete machine.typeName (state.missing plans)
  /-- The getter of a required property fails exactly if the property is unset. -/
  gets : ∀ plan ∈ plans, plan.kind = .required →
    machine.get (Emit.fragments plan) state =
      match state.content? plan.property.name with
      | some value => .ok (.view (.plain value))
      | none => .error (.unset machine.typeName plan.property.baseName)
  /-- Behind the getter's check of the tracker there is always content. -/
  checked : ∀ plan ∈ plans, plan.kind = .required →
    state.unset.checkSet machine.typeName machine.nameAt
      (machine.position plan.property.marker) = .ok () →
    ∃ value, state.content? plan.property.name = some value
  /-- Behind the builder's check of the tracker every field can be finished. -/
  finishes : state.unset.ensureComplete machine.typeName machine.nameAt = .ok () →
    ∀ plan ∈ plans, ∃ content, machine.finish state (Emit.fragments plan) = .ok content

variable {machine : Machine V} {plans : List Plan} {plan : Plan} {state : State V}

theorem get_eq_viewed {cell : Cell V} (ready : machine.Ready plan state cell) :
    machine.get (Emit.fragments plan) state = machine.viewed plan cell :=
  congrArg Ran.answer (call_getter ready)

namespace State.Consistent

theorem contains_iff (consistent : state.Consistent plans) (planned : machine.Planned plans)
    (mem : plan ∈ plans) :
    state.unset.contains (machine.position plan.property.marker) = true ↔
      plan.kind = .required ∧ state.cell? plan.property.name = some (.option none) := by
  obtain ⟨position, here⟩ := List.mem_iff_getElem?.1 mem
  rw [planned.position here, Unset.contains_eq, decide_eq_true_iff, consistent.tracked]
  constructor
  · rintro ⟨other, there, required, absent⟩
    obtain rfl : plan = other := Option.some.inj (here.symm.trans there)
    exact ⟨required, absent⟩
  · rintro ⟨required, absent⟩
    exact ⟨plan, here, required, absent⟩

variable [Ord V]

theorem build_fails_iff (consistent : state.Consistent plans) (planned : machine.Planned plans) :
    (∃ error, machine.build state = .error error) ↔ state.missing plans ≠ [] := by
  constructor
  · rintro ⟨error, failed⟩ complete
    obtain ⟨built, finished⟩ := exists_build consistent planned complete
    rw [finished] at failed
    cases failed
  · intro missing
    exact ⟨_, build_of_missing consistent planned missing⟩

theorem build_eq_error_iff (consistent : state.Consistent plans) (planned : machine.Planned plans)
    {error : BuilderError} :
    machine.build state = .error error ↔ state.missing plans ≠ [] ∧
      error = .incomplete machine.typeName (state.missing plans) := by
  constructor
  · intro failed
    have missing := (consistent.build_fails_iff planned).1 ⟨error, failed⟩
    rw [build_of_missing consistent planned missing] at failed
    exact ⟨missing, (Except.error.inj failed).symm⟩
  · rintro ⟨missing, rfl⟩
    exact build_of_missing consistent planned missing

theorem tracks (consistent : state.Consistent plans) (planned : machine.Planned plans) :
    machine.Tracks plans state where
  required := by
    intro plan mem required
    rw [consistent.contains_iff planned mem]
    exact and_iff_right required
  others := by
    intro plan mem kind
    rw [← Bool.not_eq_true, consistent.contains_iff planned mem]
    exact fun h => kind h.1
  fails := by
    rw [consistent.build_fails_iff planned, ne_eq, consistent.missing_eq_nil_iff]
    simp only [ne_eq, not_forall, not_not, exists_prop]
  names := fun _ failed => ((consistent.build_eq_error_iff planned).1 failed).2
  gets := by
    intro plan mem required
    obtain ⟨cell, found, _⟩ := consistent.cells plan mem
    rw [get_eq_viewed (consistent.ready planned mem found), Machine.viewed, required,
      State.content?, found, Option.bind_some]
    cases cell.content? <;> rfl
  checked := by
    intro plan mem required passed
    obtain ⟨cell, found, suits⟩ := consistent.cells plan mem
    have ready := consistent.ready planned mem found
    rw [Unset.checkSet, ready.marked required] at passed
    cases content : cell.content? with
    | none => simp [content] at passed
    | some value => exact ⟨value, by rw [State.content?, found, Option.bind_some, content]⟩
  finishes := by
    intro passed plan mem
    rw [consistent.ensureComplete_eq planned] at passed
    have complete : state.missing plans = [] := by
      by_contra missing
      rw [if_neg missing] at passed
      cases passed
    obtain ⟨cell, found, suits⟩ := consistent.cells plan mem
    rw [finish_eq (consistent.ready planned mem found)]
    refine finished_of_content fun required absent => ?_
    have option := option_of_required required suits.fits
    rw [absent] at option
    exact consistent.missing_eq_nil_iff.1 complete plan mem required (option ▸ found)

end State.Consistent

/-- After any sequence of operations, failed ones included, the tracker holds exactly the
required properties that are unset. -/
theorem tracks_of_reachable [Ord V] {blueprint : Blueprint} {library : Library}
    (emitted : machine.Emitted blueprint library) (reachable : machine.Reachable state) :
    machine.Tracks (blueprint.plans library) state :=
  (reachable.consistent emitted.planned).tracks emitted.planned

theorem tracks_merged_tally :
    Tally.machine.Tracks (Tally.blueprint.plans .indexMap)
      (Tally.machine.clearPartial
        (Tally.machine.merge (.value Tally.sample) Tally.machine.new).state) :=
  tracks_of_reachable Tally.emitted (.clearPartial (.mergeValue .new (by decide +kernel)))

end StructBuilder.Run
