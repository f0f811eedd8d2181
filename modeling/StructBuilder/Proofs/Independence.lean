import StructBuilder.Proofs.Alongside
import StructBuilder.Proofs.MergePaths

/-!
Operations on different properties do not meet. If hooks look at nothing but values, what a
call answers and leaves in its own field depends on that field alone, and it touches no other
one. So operations may be interleaved in any way that keeps the order for each property: each
of them answers the same, and the builder comes to the same state.
-/

namespace StructBuilder.Run

open Emit (methods storage)

variable {V : Type} [BEq V] {machine : Machine V} {plans : List Plan} {plan : Plan}
  {state echo : State V} {cell : Cell V}

/-- A call of a method of one property. -/
structure Operation (V : Type) where
  plan : Plan
  name : MethodName
  arguments : List (Argument V)

namespace Operation

def field (operation : Operation V) : String :=
  operation.plan.property.name

/-- The property has the method, which is given what its parameters take. -/
structure Offered (plans : List Plan) (operation : Operation V) : Prop where
  known : operation.plan ∈ plans
  accepted : ∃ method ∈ methods operation.plan, method.name = operation.name ∧
    Argument.AcceptedBy method operation.arguments

def ran (machine : Machine V) (operation : Operation V) (state : State V) : Ran V :=
  machine.call (Emit.fragments operation.plan) operation.name operation.arguments state

end Operation

/-- Operations one after the other, also after one that failed: what each of them answers,
with its field, and the last state. -/
def Machine.operate (machine : Machine V) : List (Operation V) → State V →
    List (String × Except BuilderError (Answer V)) × State V
  | [], state => ([], state)
  | operation :: rest, state =>
      let ran := operation.ran machine state
      let after := machine.operate rest ran.state
      ((operation.field, ran.answer) :: after.1, after.2)

/-- Both lists have the same operations on each property, in the same order. -/
def Interleaved (one other : List (Operation V)) : Prop :=
  ∀ field, other.filter (·.field == field) = one.filter (·.field == field)

/-! One operation. -/

/-- Verdicts are all that an effect takes from the state. -/
theorem effect_eq_of_verdict (fits : cell.Fits (storage plan)) {method : Emit.Method} {verb : Verb}
    {arguments : List (Argument V)} (called : Called plan method verb arguments)
    (verdict : machine.verdict plan.property echo = machine.verdict plan.property state) :
    machine.effect plan echo cell verb arguments = machine.effect plan state cell verb arguments := by
  have alongside : machine.Alongside machine plan plan state echo cell cell :=
    ⟨.refl plan, fits, fits, rfl, rfl, verdict, rfl, rfl⟩
  rcases Cell.Reflects.of_map_eq (alongside.effect called) with
    ⟨error, here, there⟩ | ⟨after, final, here, there, reflects⟩
  · rw [here, there]
  · rw [here, there, reflects.eq ((Machine.change_of_effect fits here).fits fits)
      ((Machine.change_of_effect fits there).fits fits)]

namespace Operation.Offered

variable {operation : Operation V}

theorem consistent (offered : operation.Offered plans) (planned : machine.Planned plans)
    (consistent : state.Consistent plans) :
    (operation.ran machine state).state.Consistent plans := by
  obtain ⟨known, method, mem, named, accepted⟩ := offered
  rw [ran, ← named]
  exact consistent.call planned known mem accepted

theorem cell?_of_ne (offered : operation.Offered plans) (planned : machine.Planned plans)
    (consistent : state.Consistent plans) {field : String} (different : field ≠ operation.field) :
    (operation.ran machine state).state.cell? field = state.cell? field := by
  obtain ⟨known, method, mem, named, accepted⟩ := offered
  obtain ⟨cell, found, _⟩ := consistent.cells operation.plan known
  rw [ran, ← named]
  rcases state_call (consistent.ready planned known found) mem accepted with
    same | ⟨after, _, _, stored⟩
  · rw [same]
  · rw [stored, cell?_store]
    exact State.cell?_put_of_ne different _ _

/-- States with the same in its field are the same to an operation. -/
theorem ran_congr (offered : operation.Offered plans) (planned : machine.Planned plans)
    (stateless : machine.Stateless) (consistent : state.Consistent plans)
    (kept : echo.Consistent plans) (same : echo.cell? operation.field = state.cell? operation.field) :
    (operation.ran machine echo).answer = (operation.ran machine state).answer ∧
      (operation.ran machine echo).state.cell? operation.field =
        (operation.ran machine state).state.cell? operation.field := by
  obtain ⟨known, method, mem, named, accepted⟩ := offered
  obtain ⟨cell, found, _⟩ := consistent.cells operation.plan known
  have found' : echo.cell? operation.plan.property.name = some cell := same.trans found
  have ready := consistent.ready planned known found
  have ready' := kept.ready planned known found'
  rw [ran, ran, ← named]
  rcases name_of_mem_methods mem with ⟨getter, parameters⟩ | ⟨verb, mutator⟩
  · rw [getter, (Argument.acceptedBy_nil parameters).1 accepted, call_getter ready,
      call_getter ready']
    exact ⟨rfl, same⟩
  · have settles := settles_call ready mem mutator accepted
    have settles' := settles_call ready' mem mutator accepted
    rw [effect_eq_of_verdict ready.fits (Called.of_mem mem mutator accepted)
      (stateless.verdict_eq operation.plan.property echo state)] at settles'
    generalize machine.effect operation.plan state cell verb operation.arguments = effect
      at settles settles'
    cases settles with
    | refused answer unchanged =>
        cases settles' with
        | refused answer' unchanged' =>
            refine ⟨answer'.trans answer.symm, ?_⟩
            rw [unchanged, unchanged', same]
    | stored answer stored =>
        cases settles' with
        | stored answer' stored' =>
            refine ⟨answer'.trans answer.symm, ?_⟩
            rw [stored, stored', cell?_store, cell?_store, field, State.cell?_put_same found,
              State.cell?_put_same found']

end Operation.Offered

/-- Either order of two operations has the same answers and comes to the same state. -/
structure Machine.Commutes (machine : Machine V) (first second : Operation V) (state : State V) :
    Prop where
  answer : (first.ran machine (second.ran machine state).state).answer =
    (first.ran machine state).answer
  answer' : (second.ran machine (first.ran machine state).state).answer =
    (second.ran machine state).answer
  final : (second.ran machine (first.ran machine state).state).state =
    (first.ran machine (second.ran machine state).state).state

theorem commutes (planned : machine.Planned plans) (stateless : machine.Stateless)
    (consistent : state.Consistent plans) {first second : Operation V}
    (offered : first.Offered plans) (also : second.Offered plans)
    (different : first.field ≠ second.field) : machine.Commutes first second state := by
  have afterFirst := offered.consistent planned consistent
  have afterSecond := also.consistent planned consistent
  -- each meets its own field as it was before the other
  have one := offered.ran_congr planned stateless consistent afterSecond
    (also.cell?_of_ne planned consistent different)
  have two := also.ran_congr planned stateless consistent afterFirst
    (offered.cell?_of_ne planned consistent different.symm)
  refine ⟨one.1, two.1, ?_⟩
  refine (offered.consistent planned afterSecond).eq_of_cell?
    (also.consistent planned afterFirst) planned fun plan _ => ?_
  by_cases here : plan.property.name = second.field
  · rw [offered.cell?_of_ne planned afterSecond (here.trans_ne different.symm), here, two.2]
  · rw [also.cell?_of_ne planned afterFirst here]
    by_cases there : plan.property.name = first.field
    · rw [there, one.2]
    · rw [offered.cell?_of_ne planned consistent there,
        offered.cell?_of_ne planned afterSecond there, also.cell?_of_ne planned consistent here]

/-! Many operations. -/

section

variable {operations one other : List (Operation V)}

theorem consistent_operate (planned : machine.Planned plans)
    (offered : ∀ operation ∈ operations, operation.Offered plans)
    (consistent : state.Consistent plans) :
    (machine.operate operations state).2.Consistent plans := by
  induction operations generalizing state with
  | nil => exact consistent
  | cons operation rest ih =>
      obtain ⟨first, later⟩ := List.forall_mem_cons.1 offered
      exact ih later (first.consistent planned consistent)

/-- What becomes of a field, and what its operations answer, is settled by those operations
alone. -/
theorem operate_filter (planned : machine.Planned plans) (stateless : machine.Stateless)
    (offered : ∀ operation ∈ operations, operation.Offered plans) {field : String}
    (consistent : state.Consistent plans) (kept : echo.Consistent plans)
    (same : echo.cell? field = state.cell? field) :
    (machine.operate (operations.filter (·.field == field)) echo).1 =
        (machine.operate operations state).1.filter (·.1 == field) ∧
      (machine.operate (operations.filter (·.field == field)) echo).2.cell? field =
        (machine.operate operations state).2.cell? field := by
  induction operations generalizing state echo with
  | nil => exact ⟨rfl, same⟩
  | cons operation rest ih =>
      obtain ⟨first, later⟩ := List.forall_mem_cons.1 offered
      have next := first.consistent planned consistent
      by_cases own : operation.field = field
      · have chosen : (operation.field == field) = true := beq_iff_eq.2 own
        subst own
        obtain ⟨answer, cells⟩ := first.ran_congr planned stateless consistent kept same
        obtain ⟨answers, final⟩ := ih later next (first.consistent planned kept) cells
        rw [List.filter_cons, if_pos chosen, Machine.operate, Machine.operate]
        refine ⟨?_, final⟩
        rw [List.filter_cons, if_pos chosen, answer, answers]
      · have cells := first.cell?_of_ne planned consistent (Ne.symm own)
        obtain ⟨answers, final⟩ := ih later next kept (same.trans cells.symm)
        have skipped : ¬(operation.field == field) = true := mt beq_iff_eq.1 own
        rw [List.filter_cons, if_neg skipped, Machine.operate]
        refine ⟨?_, final⟩
        rw [List.filter_cons, if_neg skipped, answers]

omit [BEq V] in
theorem Interleaved.mem (interleaved : Interleaved one other) {operation : Operation V}
    (mem : operation ∈ other) : operation ∈ one := by
  have own : operation ∈ other.filter (·.field == operation.field) :=
    List.mem_filter.2 ⟨mem, beq_self_eq_true _⟩
  rw [interleaved operation.field] at own
  exact List.mem_of_mem_filter own

/-- Both orders have the same answers for each property, come to the same state, and build the
same value or fail with the same error. -/
structure Machine.Agrees (machine : Machine V) (state : State V) (one other : List (Operation V)) :
    Prop where
  answers : ∀ field, (machine.operate other state).1.filter (·.1 == field) =
    (machine.operate one state).1.filter (·.1 == field)
  final : (machine.operate other state).2 = (machine.operate one state).2
  build [Ord V] : machine.build (machine.operate other state).2 =
    machine.build (machine.operate one state).2

theorem Interleaved.agrees (interleaved : Interleaved one other) (planned : machine.Planned plans)
    (stateless : machine.Stateless) (offered : ∀ operation ∈ one, operation.Offered plans)
    (consistent : state.Consistent plans) : machine.Agrees state one other := by
  have also : ∀ operation ∈ other, operation.Offered plans := fun operation mem =>
    offered operation (interleaved.mem mem)
  have alike (field : String) :
      (machine.operate other state).1.filter (·.1 == field) =
          (machine.operate one state).1.filter (·.1 == field) ∧
        (machine.operate other state).2.cell? field =
          (machine.operate one state).2.cell? field := by
    obtain ⟨answers, cells⟩ :=
      operate_filter planned stateless offered consistent consistent (rfl : _ = state.cell? field)
    obtain ⟨answers', cells'⟩ :=
      operate_filter planned stateless also consistent consistent (rfl : _ = state.cell? field)
    rw [← answers, ← answers', ← cells, ← cells', interleaved]
    exact ⟨rfl, rfl⟩
  have final : (machine.operate other state).2 = (machine.operate one state).2 :=
    (consistent_operate planned offered consistent).eq_of_cell?
      (consistent_operate planned also consistent) planned fun plan _ => (alike _).2
  exact ⟨fun field => (alike field).1, final, congrArg machine.build final⟩

end

/-- Operations on different properties of a builder in use commute, whether they succeed or
fail, and so it makes no difference how operations are interleaved. -/
theorem commutes_of_reachable {blueprint : Blueprint} {library : Library}
    (emitted : machine.Emitted blueprint library) (stateless : machine.Stateless)
    (reachable : machine.Reachable state) :
    (∀ first second : Operation V, first.Offered (blueprint.plans library) →
      second.Offered (blueprint.plans library) → first.field ≠ second.field →
        machine.Commutes first second state) ∧
      ∀ one other : List (Operation V),
        (∀ operation ∈ one, operation.Offered (blueprint.plans library)) →
          Interleaved one other → machine.Agrees state one other := by
  have planned := emitted.planned
  have consistent := reachable.consistent planned
  exact ⟨fun _ _ offered also => commutes planned stateless consistent offered also,
    fun _ _ offered interleaved => interleaved.agrees planned stateless offered consistent⟩

/-! A tally. -/

theorem length_plans_tally : 5 = (Tally.blueprint.plans .indexMap).length := by
  decide +kernel

/-- A call of this kind for the field of a tally at this place. -/
def onTally (place : Fin 5) (verb : Verb) (arguments : List (Argument Nat)) : Operation Nat :=
  let plan := Tally.plan (place.cast length_plans_tally)
  ⟨plan, plan.property.method verb, arguments⟩

theorem field_onTally (place : Fin 5) (verb : Verb) (arguments : List (Argument Nat)) :
    (onTally place verb arguments).field = ["total", "note", "table", "seen", "items"][place] := by
  have names : ∀ place : Fin 5, (Tally.plan (place.cast length_plans_tally)).property.name =
      ["total", "note", "table", "seen", "items"][place] := by
    decide +kernel
  exact names place

/-- The key is there already, and the second total is too large. -/
def untidy : List (Operation Nat) :=
  [onTally 0 .set [.one 7], onTally 2 .put [.one 2, .one 9], onTally 0 .set [.one 42],
   onTally 2 .remove [.one 2]]

/-- The table before the total. -/
def tidy : List (Operation Nat) :=
  [onTally 2 .put [.one 2, .one 9], onTally 2 .remove [.one 2], onTally 0 .set [.one 7],
   onTally 0 .set [.one 42]]

theorem interleaved_untidy : Interleaved untidy tidy := by
  have total (verb : Verb) (arguments : List (Argument Nat)) :
      (onTally 0 verb arguments).field = "total" := field_onTally 0 verb arguments
  have table (verb : Verb) (arguments : List (Argument Nat)) :
      (onTally 2 verb arguments).field = "table" := field_onTally 2 verb arguments
  intro field
  simp only [untidy, tidy, List.filter_cons, List.filter_nil, total, table]
  by_cases here : ("total" == field) = true
  · have there : ¬("table" == field) = true := by
      rw [← beq_iff_eq.1 here]
      decide
    simp only [here, there, Bool.false_eq_true, if_true, if_false]
  · simp only [here, Bool.false_eq_true, if_false]

theorem offered_untidy :
    ∀ operation ∈ untidy, operation.Offered (Tally.blueprint.plans .indexMap) := by
  have accepted : ∀ operation ∈ untidy, ∃ method ∈ methods operation.plan,
      method.name = operation.name ∧ Argument.AcceptedBy method operation.arguments := by
    decide +kernel
  have known : ∀ operation ∈ untidy, operation.plan ∈ Tally.blueprint.plans .indexMap := by
    simp [untidy, onTally, Tally.plan_mem]
  exact fun operation mem => ⟨known operation mem, accepted operation mem⟩

theorem commutes_tally_started :
    (Tally.machine.operate untidy Tally.started).1.map (fun (field, answer) =>
        (field, answer.isOk)) =
      [("total", true), ("table", false), ("total", false), ("table", true)] ∧
    (∀ first ∈ untidy, ∀ second ∈ untidy, first.field ≠ second.field →
      Tally.machine.Commutes first second Tally.started) ∧
    Tally.machine.Agrees Tally.started untidy tidy := by
  have stateless : Tally.machine.Stateless := by
    intro name hook known state other values
    cases known
    rfl
  have ⟨pairs, lists⟩ := commutes_of_reachable Tally.emitted stateless reachable_started
  refine ⟨by decide +kernel, ?_, lists untidy tidy offered_untidy interleaved_untidy⟩
  exact fun first mem second mem' =>
    pairs first second (offered_untidy first mem) (offered_untidy second mem')

end StructBuilder.Run
