import StructBuilder.Proofs.Completeness
import StructBuilder.Proofs.Simulation
import StructBuilder.Samples.Varied

/-!
What resets leave. A cleared builder is a new one, so nothing that is done with it later
tells that it was ever used. A partial reset empties collections and takes the content out of
optional properties, also of those that do not start without any; it touches neither plain
values nor the tracker, and so what is missing stays the same.
-/

namespace StructBuilder.Run

open Emit (storage)

variable {V : Type} [BEq V] {machine : Machine V} {plans : List Plan} {plan : Plan}
  {state : State V} {cell : Cell V}

/-- What the resets make of a builder. -/
structure Machine.Resets [Ord V] (machine : Machine V) (plans : List Plan) (state : State V) :
    Prop where
  /-- A cleared builder holds and tracks what a new one does. -/
  cleared : machine.clear state = machine.new
  /-- Whatever follows is as it would be with a new builder in its place. -/
  later : ∀ {α : Type} (view : Session V → α) (session : Session V) (position : Nat),
    session.builder? position = some state → ∀ steps,
      let fresh := { session with builders := session.builders.set position machine.new }
      session.transcript machine view (.clear position :: steps) =
        (some (position, none, none), view fresh) :: fresh.transcript machine view steps
  absent : ∀ plan ∈ plans, ∀ inner, plan.strategy = .optional inner →
    (machine.clearPartial state).cell? plan.property.name = some (.option none)
  emptied : ∀ plan ∈ plans, (∀ hasDefault, plan.strategy ≠ .scalar hasDefault) →
    (∀ inner, plan.strategy ≠ .optional inner) →
      (machine.clearPartial state).cell? plan.property.name = some (.ofStorage (storage plan))
  kept : ∀ plan ∈ plans, ∀ hasDefault, plan.strategy = .scalar hasDefault →
    (machine.clearPartial state).cell? plan.property.name = state.cell? plan.property.name
  tracker : (machine.clearPartial state).unset = state.unset
  idempotent : machine.clearPartial (machine.clearPartial state) = machine.clearPartial state
  /-- What could be built can be built with the same plain values. -/
  builds : ∀ built, machine.build state = .ok built →
    ∃ rest, machine.build (machine.clearPartial state) = .ok rest ∧
      ∀ plan ∈ plans, ∀ hasDefault, plan.strategy = .scalar hasDefault →
        rest.lookup plan.property.name = built.lookup plan.property.name
  /-- Nothing more and nothing less is missing. -/
  fails : ∀ error, machine.build (machine.clearPartial state) = .error error ↔
    machine.build state = .error error

/-! Partial resets. -/

omit [BEq V] in
theorem apply_apply (reset : Emit.Reset) (cell : Cell V) :
    Reset.apply none reset (Reset.apply none reset cell) = Reset.apply none reset cell := by
  cases reset with
  | empty => cases cell <;> rfl
  | _ => rfl

omit [BEq V] in
theorem apply_partialClear_of_scalar {hasDefault : Bool}
    (strategy : plan.strategy = .scalar hasDefault) (cell : Cell V) :
    Reset.apply none (Emit.partialClear plan) cell = cell := by
  rw [Emit.partialClear, strategy]
  rfl

omit [BEq V] in
theorem apply_partialClear_of_collection (fits : cell.Fits (storage plan))
    (plain : ∀ hasDefault, plan.strategy ≠ .scalar hasDefault)
    (option : ∀ inner, plan.strategy ≠ .optional inner) :
    Reset.apply none (Emit.partialClear plan) cell = .ofStorage (storage plan) := by
  cases strategy : plan.strategy with
  | scalar hasDefault => exact absurd strategy (plain hasDefault)
  | optional inner => exact absurd strategy (option inner)
  | _ =>
      simp only [Emit.partialClear, strategy, Reset.apply]
      refine clear_eq_ofStorage fits (fun ty => ?_) fun ty => ?_ <;>
        cases library : plan.features.library <;> simp [storage, strategy, library]

namespace State.Consistent

omit [BEq V] in
theorem unset_clearPartial (planned : machine.Planned plans) :
    (machine.clearPartial state).unset = state.unset := by
  rw [Machine.clearPartial, foldl_resetField planned (·.partialClear)]
  exact State.unset_foldl_update ..

theorem clearPartial_clearPartial (consistent : state.Consistent plans)
    (planned : machine.Planned plans) :
    machine.clearPartial (machine.clearPartial state) = machine.clearPartial state := by
  have once := consistent.clearPartial planned
  refine once.eq_of_cell? (once.clearPartial planned) planned fun plan mem => ?_
  obtain ⟨cell, found, _⟩ := consistent.cells plan mem
  have reset := cell?_clearPartial planned mem found
  rw [cell?_clearPartial planned mem reset, reset, apply_apply]

/-- Required properties are plain values. -/
theorem missing_clearPartial (consistent : state.Consistent plans)
    (planned : machine.Planned plans) :
    (machine.clearPartial state).missing plans = state.missing plans := by
  have lacks : ∀ plan ∈ plans, (machine.clearPartial state).lacks plan = state.lacks plan := by
    intro plan mem
    obtain ⟨cell, found, _⟩ := consistent.cells plan mem
    have reset := cell?_clearPartial planned mem found
    rw [State.lacks_eq reset, State.lacks_eq found]
    by_cases required : plan.kind = .required
    · rw [apply_partialClear_of_scalar (Plan.kind_eq_required_iff.1 required)]
    · rw [beq_false_of_ne required, Bool.false_and, Bool.false_and]
  rw [State.missing, State.missing, List.filter_congr lacks]

variable [Ord V]

theorem build_clearPartial (consistent : state.Consistent plans) (planned : machine.Planned plans)
    {built : Value V} (complete : machine.build state = .ok built) :
    ∃ rest, machine.build (machine.clearPartial state) = .ok rest ∧
      ∀ plan ∈ plans, ∀ hasDefault, plan.strategy = .scalar hasDefault →
        rest.lookup plan.property.name = built.lookup plan.property.name := by
  have reset := consistent.clearPartial planned
  obtain ⟨nothing, _⟩ := (build_eq_ok_iff consistent planned).1 complete
  rw [← consistent.missing_clearPartial planned] at nothing
  obtain ⟨rest, finished⟩ := exists_build reset planned nothing
  refine ⟨rest, finished, fun plan mem hasDefault strategy => ?_⟩
  obtain ⟨content, cell, looked, found, done⟩ := finished_of_build consistent planned complete mem
  obtain ⟨other, same, seen, there, also⟩ := finished_of_build reset planned finished mem
  have kept := cell?_clearPartial planned mem found
  rw [apply_partialClear_of_scalar strategy, there] at kept
  obtain rfl := Option.some.inj kept
  rw [seen, looked, Except.ok.inj (also.symm.trans done)]

end State.Consistent

/-! Both resets. -/

variable [Ord V]

theorem transcript_clear {α : Type} (cleared : machine.clear state = machine.new)
    (view : Session V → α) {session : Session V} {position : Nat}
    (found : session.builder? position = some state) (steps : List (Step V)) :
    let fresh := { session with builders := session.builders.set position machine.new }
    session.transcript machine view (.clear position :: steps) =
      (some (position, none, none), view fresh) :: fresh.transcript machine view steps := by
  have step : session.step? machine (.clear position) =
      some (session.reset position machine.new) := by
    rw [Session.step?, found, ← cleared]
    rfl
  rw [Session.transcript, step]
  rfl

theorem State.Consistent.resets (consistent : state.Consistent plans)
    (planned : machine.Planned plans) : machine.Resets plans state where
  cleared := consistent.clear_eq_new planned
  later view _ _ found steps := transcript_clear (consistent.clear_eq_new planned) view found steps
  absent plan mem inner strategy := by
    obtain ⟨cell, found, _⟩ := consistent.cells plan mem
    rw [cell?_clearPartial planned mem found, Emit.partialClear, strategy]
    rfl
  emptied plan mem plain option := by
    obtain ⟨cell, found, suits⟩ := consistent.cells plan mem
    rw [cell?_clearPartial planned mem found,
      apply_partialClear_of_collection suits.fits plain option]
  kept plan mem hasDefault strategy := by
    obtain ⟨cell, found, _⟩ := consistent.cells plan mem
    rw [cell?_clearPartial planned mem found, apply_partialClear_of_scalar strategy, found]
  tracker := State.Consistent.unset_clearPartial planned
  idempotent := consistent.clearPartial_clearPartial planned
  builds _ complete := consistent.build_clearPartial planned complete
  fails error := by
    rw [(consistent.clearPartial planned).build_eq_error_iff planned,
      consistent.build_eq_error_iff planned, consistent.missing_clearPartial planned]

/-- Whatever a builder has been used for, a reset makes it new, and a partial one leaves its plain
values and what is missing. -/
theorem resets_of_reachable {blueprint : Blueprint} {library : Library}
    (emitted : machine.Emitted blueprint library) (reachable : machine.Reachable state) :
    machine.Resets (blueprint.plans library) state :=
  (reachable.consistent emitted.planned).resets emitted.planned

/-- A note that is there from the start is there again in a cleared tally, and gone after a partial
reset. -/
theorem resets_noted :
    let filled := (Tally.notedMachine.merge (.value Tally.sample) Tally.notedMachine.new).state
    (Tally.notedMachine.clear filled).content? "note" = some 3 ∧
      (Tally.notedMachine.clearPartial Tally.notedMachine.new).content? "note" = none ∧
      Tally.notedMachine.Resets ((Tally.variedBlueprint Tally.noted).plans .indexMap) filled :=
  ⟨by decide +kernel, by decide +kernel,
    resets_of_reachable Tally.emitted_noted (.mergeValue .new (by decide +kernel))⟩

end StructBuilder.Run
