import StructBuilder.Proofs.Consistent

/-!
Merges as sequences of changes. What a source has of a property is passed to the
property's own method, so a merge of one property settles the effect of one call, and a
whole merge keeps whatever such changes keep.
-/

namespace StructBuilder

/-- The method that takes in what a source has of the property. -/
def Plan.mergeVerb (plan : Plan) : Verb :=
  match plan.strategy with
  | .scalar _ | .optional _ => .set
  | .map _ _ => .putAll
  | .set _ | .list _ => .addAll

namespace Run

open Emit (methods storage)

variable {V : Type}

/-- What a check hook is shown of each thing that a field holds. -/
def Content.stored : Content V → List (List V)
  | plain value => [[value]]
  | optional content => content.toList.map ([·])
  | entries items => items.map fun (key, value) => [key, value]
  | elements items => items.map ([·])

/-- A field of this shape can hold the content. -/
def Content.Fits : Shape → Content V → Prop
  | .scalar, .plain _ | .optional _, .optional _ | .map _ _ _, .entries _ | .set _ _, .elements _
  | .list _, .elements _ => True
  | _, _ => False

instance (shape : Shape) (content : Content V) : Decidable (content.Fits shape) := by
  cases shape <;> cases content <;> first | exact .isTrue trivial | exact .isFalse id

/-- The value has the fields that the builder builds. -/
def Value.Fits (builder : Emit.Builder) (value : Value V) : Prop :=
  List.Forall₂ (fun fragments entry => entry.1 = fragments.field ∧ entry.2.Fits fragments.shape)
    builder.fragments value

instance (builder : Emit.Builder) (value : Value V) : Decidable (Value.Fits builder value) :=
  inferInstanceAs (Decidable (List.Forall₂ _ _ _))

/-- What a source has of a property; nothing if it is required and unset in a builder. -/
def Source.given (plan : Plan) : Source V → Option (Content V)
  | .value built => built.lookup plan.property.name
  | .builder state =>
      (state.cell? plan.property.name).bind fun cell =>
        match plan.kind with
        | .required => cell.content?.map .plain
        | _ => some (.ofCell cell)

/-- Only builders may have nothing for a property. -/
def Source.guards (plan : Plan) : Source V → Bool
  | .value _ => false
  | .builder _ => plan.kind == .required

/-- The cell with the content taken in. -/
def Cell.take [BEq V] (cell : Cell V) : Content V → Cell V
  | .plain value => cell.assign (some value)
  | .optional given => cell.assign given
  | .entries items => cell.extendEntries items
  | .elements items => cell.extendElements items

/-- The first refusal of what a source has of a property. -/
def Machine.contentVerdict [BEq V] (machine : Machine V) (plan : Plan) (state : State V)
    (cell : Cell V) : Content V → Except BuilderError Unit
  | .plain value => machine.verdicts plan.property state [[value]]
  | .optional given => machine.verdicts plan.property state (given.toList.map ([·]))
  | .entries items =>
      machine.entriesVerdict plan.property state cell (.ofStorage (storage plan)) items
  | .elements items => machine.verdicts plan.property state (items.map ([·]))

/-- Sources of the type that the builder builds. -/
def Source.Fits [BEq V] (builder : Emit.Builder) (plans : List Plan) : Source V → Prop
  | .value built => Value.Fits builder built
  | .builder state => state.Consistent plans

variable [BEq V] {machine : Machine V} {plans : List Plan} {plan : Plan} {state : State V}
  {cell : Cell V} {source : Source V} {content : Content V}

omit [BEq V] in
/-- What a property's field can hold goes with the property's strategy. -/
theorem cases_of_fits (suits : plan.strategy.Suits plan.property.shape)
    (fits : content.Fits plan.property.shape) :
    (∃ hasDefault value, plan.strategy = .scalar hasDefault ∧ content = .plain value) ∨
    (∃ inner given, plan.strategy = .optional inner ∧ content = .optional given) ∨
    (∃ key value items, plan.strategy = .map key value ∧ content = .entries items) ∨
    (∃ element items, plan.strategy = .set element ∧ content = .elements items) ∨
    (∃ element items, plan.strategy = .list element ∧ content = .elements items) := by
  cases strategy : plan.strategy <;> rw [strategy] at suits <;>
    cases shape : plan.property.shape <;> rw [shape] at suits fits <;>
    cases content <;> simp_all [Strategy.Suits, Content.Fits]

theorem effect_mergeVerb (suits : plan.strategy.Suits plan.property.shape)
    (fits : content.Fits plan.property.shape) :
    machine.effect plan state cell plan.mergeVerb [content.argument] =
      (machine.contentVerdict plan state cell content).map fun _ => cell.take content := by
  rw [Plan.mergeVerb, Machine.effect.eq_def]
  obtain ⟨_, _, strategy, rfl⟩ | ⟨_, _, strategy, rfl⟩ | ⟨_, _, _, strategy, rfl⟩ |
    ⟨_, _, strategy, rfl⟩ | ⟨_, _, strategy, rfl⟩ := cases_of_fits suits fits <;>
    rw [strategy] <;> rfl

omit [BEq V] in
theorem exists_merge_method (suits : plan.strategy.Suits plan.property.shape)
    (fits : content.Fits plan.property.shape) :
    ∃ method ∈ methods plan, method.name = plan.property.method plan.mergeVerb ∧
      Argument.AcceptedBy method [content.argument] := by
  rw [Plan.mergeVerb]
  obtain ⟨hasDefault, value, strategy, rfl⟩ | ⟨inner, given, strategy, rfl⟩ |
    ⟨key, value, items, strategy, rfl⟩ | ⟨element, items, strategy, rfl⟩ |
    ⟨element, items, strategy, rfl⟩ := cases_of_fits suits fits <;> rw [strategy]
  · exact ⟨_, Emit.valueSetter_mem strategy, rfl, .cons trivial .nil⟩
  · exact ⟨_, Emit.optionalSetter_mem strategy, rfl, .cons trivial .nil⟩
  · exact ⟨_, Emit.bulkPutter_mem strategy, rfl, .cons trivial .nil⟩
  · exact ⟨_, Emit.bulkAdder_mem (.inl strategy), rfl, .cons trivial .nil⟩
  · exact ⟨_, Emit.bulkAdder_mem (.inr strategy), rfl, .cons trivial .nil⟩

omit [BEq V] in
/-- Looking up a property finds the field that belongs to it. -/
theorem lookup_of_forall₂ {S : Plan → Content V → Prop} {built : Value V}
    (names : (plans.map (·.property.name)).Nodup)
    (fields : List.Forall₂ (fun plan entry => entry.1 = plan.property.name ∧ S plan entry.2)
      plans built) (mem : plan ∈ plans) :
    ∃ content, built.lookup plan.property.name = some content ∧ S plan content := by
  induction fields with
  | nil => cases mem
  | @cons first entry rest others field _ ih =>
      obtain ⟨absent, names⟩ := List.nodup_cons.1 names
      obtain ⟨name, content⟩ := entry
      obtain ⟨rfl, holds⟩ := field
      rcases List.mem_cons.1 mem with rfl | mem
      · exact ⟨content, List.lookup_cons_self, holds⟩
      · have ne : plan.property.name ≠ first.property.name :=
          fun eq => absent (List.mem_map.2 ⟨plan, mem, eq⟩)
        rw [List.lookup_cons, beq_false_of_ne ne]
        exact ih names mem

omit [BEq V] in
theorem lookup_of_fits {built : Value V} (planned : machine.Planned plans)
    (fits : Value.Fits machine.builder built) (mem : plan ∈ plans) :
    ∃ content, built.lookup plan.property.name = some content ∧
      content.Fits plan.property.shape := by
  rw [Value.Fits, planned.fragments, List.forall₂_map_left_iff] at fits
  exact lookup_of_forall₂ planned.names fits mem

omit [BEq V] in
theorem fits_ofCell (suits : plan.strategy.Suits plan.property.shape)
    (fits : cell.Fits (storage plan)) (kind : plan.kind ≠ .required) :
    (Content.ofCell cell).Fits plan.property.shape := by
  cases strategy : plan.strategy <;> rw [strategy] at suits <;>
    cases shape : plan.property.shape <;> rw [shape] at suits <;>
    first | exact suits.elim | skip
  · rename_i hasDefault
    cases hasDefault <;> cases cell <;>
      simp_all [storage, Cell.Fits, Content.ofCell, Content.Fits, Plan.kind]
  · cases cell <;> simp_all [storage, Cell.Fits, Content.ofCell, Content.Fits]
  · have holds := Cell.holdsEntries_of_map strategy fits
    cases cell <;> first | exact holds.elim | trivial
  · have holds := Cell.holdsElements_of_set strategy fits
    cases cell <;> first | exact holds.elim | trivial
  · have holds := Cell.holdsElements_of_list strategy fits
    cases cell <;> first | exact holds.elim | trivial

omit [BEq V] in
theorem given_builder (found : state.cell? plan.property.name = some cell) :
    (Source.builder state).given plan =
      match plan.kind with
      | .required => cell.content?.map .plain
      | _ => some (.ofCell cell) := by
  rw [Source.given, found]
  rfl

omit [BEq V] in
/-- A builder gives the value of a required property, and all it has of any other. -/
theorem content_of_given (found : state.cell? plan.property.name = some cell)
    (given : (Source.builder state).given plan = some content) :
    (plan.kind = .required ∧ ∃ value, cell.content? = some value ∧ content = .plain value) ∨
      (plan.kind ≠ .required ∧ content = .ofCell cell) := by
  rw [given_builder found] at given
  by_cases required : plan.kind = .required
  · rw [required] at given
    obtain ⟨value, present, rfl⟩ := Option.map_eq_some_iff.1 given
    exact .inl ⟨required, value, present, rfl⟩
  · refine .inr ⟨required, ?_⟩
    cases kind : plan.kind <;> simp_all

theorem given_fits (planned : machine.Planned plans) (mem : plan ∈ plans)
    (fits : source.Fits machine.builder plans) (given : source.given plan = some content) :
    content.Fits plan.property.shape := by
  have suits := planned.suits plan mem
  cases source with
  | value built =>
      obtain ⟨found, same, fit⟩ := lookup_of_fits planned fits mem
      obtain rfl : found = content := Option.some.inj (same.symm.trans given)
      exact fit
  | builder other =>
      obtain ⟨cell, found, cellSuits⟩ := State.Consistent.cells fits plan mem
      rcases content_of_given found given with ⟨required, _, _, rfl⟩ | ⟨other, rfl⟩
      · rw [Plan.kind_eq_required_iff.1 required] at suits
        cases shape : plan.property.shape <;> rw [shape] at suits <;>
          first | exact suits.elim | trivial
      · exact fits_ofCell suits cellSuits.fits other

omit [BEq V] in
theorem guarded_mergeWith (source : Source V) (plan : Plan) :
    (Emit.mergeWith plan (source.guards plan)).guarded = source.guards plan := by
  cases source <;> cases strategy : plan.strategy <;>
    simp [Emit.mergeWith, Source.guards, strategy, Plan.kind]

/-- The argument of a merge is what the source has. -/
theorem mergeArgument?_eq (planned : machine.Planned plans) (mem : plan ∈ plans)
    (fits : source.Fits machine.builder plans) :
    machine.mergeArgument? (Emit.fragments plan) (Emit.mergeWith plan (source.guards plan)) source =
      (source.given plan).map Content.argument := by
  unfold Machine.mergeArgument?
  rw [guarded_mergeWith]
  cases source with
  | value built => rfl
  | builder other =>
      obtain ⟨cell, found, _⟩ := State.Consistent.cells fits plan mem
      have ready := State.Consistent.ready fits planned mem found
      rw [given_builder found, Source.guards]
      cases kind : plan.kind with
      | required =>
          have answer : machine.get (Emit.fragments plan) other = machine.viewed plan cell :=
            congrArg Ran.answer (call_getter ready)
          rw [Machine.viewed, kind] at answer
          simp only [beq_self_eq_true, answer]
          cases cell.content? <;> rfl
      | _ =>
          change (Source.content? (.builder other) plan.property.name).map _ = _
          rw [Source.content?, found]
          rfl

/-- A property is merged by a call of its own method. -/
theorem mergeProperty_eq (planned : machine.Planned plans) (mem : plan ∈ plans)
    (fits : source.Fits machine.builder plans) :
    machine.mergeProperty source (Emit.fragments plan) state =
      match source.given plan with
      | none => ⟨.ok .builder, state, []⟩
      | some content =>
          let merge := Emit.mergeWith plan (source.guards plan)
          let ran := machine.call (Emit.fragments plan) merge.method [content.argument] state
          if merge.propagates then ran else { ran with answer := .ok .builder } := by
  cases source with
  | value built =>
      have argument : machine.mergeArgument? (Emit.fragments plan)
          (Emit.fragments plan).mergeValue (.value built) = _ :=
        mergeArgument?_eq planned mem fits
      unfold Machine.mergeProperty
      dsimp only
      rw [argument]
      cases (Source.value built).given plan <;> rfl
  | builder other =>
      have argument : machine.mergeArgument? (Emit.fragments plan)
          (Emit.fragments plan).mergeBuilder (.builder other) = _ :=
        mergeArgument?_eq planned mem fits
      unfold Machine.mergeProperty
      dsimp only
      rw [argument]
      cases (Source.builder other).given plan <;> rfl

omit [BEq V] in
theorem method_mergeWith (plan : Plan) (guarded : Bool) :
    (Emit.mergeWith plan guarded).method = plan.property.method plan.mergeVerb := by
  unfold Emit.mergeWith Plan.mergeVerb
  cases plan.strategy <;> rfl

/-- Errors that a merge does not pass on do not occur. -/
theorem contentVerdict_of_not_propagates {guarded : Bool}
    (h : (Emit.mergeWith plan guarded).propagates = false)
    (suits : plan.strategy.Suits plan.property.shape) (fits : content.Fits plan.property.shape) :
    machine.contentVerdict plan state cell content = .ok () := by
  unfold Emit.mergeWith at h
  obtain ⟨_, _, strategy, rfl⟩ | ⟨_, _, strategy, rfl⟩ | ⟨_, _, _, strategy, rfl⟩ |
    ⟨_, _, strategy, rfl⟩ | ⟨_, _, strategy, rfl⟩ := cases_of_fits suits fits <;>
    rw [strategy] at h
  · exact machine.verdicts_of_unchecked h _ _
  · exact machine.verdicts_of_unchecked h _ _
  · cases h
  · exact machine.verdicts_of_unchecked h _ _
  · exact machine.verdicts_of_unchecked h _ _

theorem outcome_merge (ready : machine.Ready plan state cell) (guarded : Bool)
    (suits : plan.strategy.Suits plan.property.shape) (fits : content.Fits plan.property.shape) :
    let merge := Emit.mergeWith plan guarded
    let ran := machine.call (Emit.fragments plan) merge.method [content.argument] state
    (if merge.propagates then ran else { ran with answer := .ok .builder }).outcome =
      machine.settle plan state
        ((machine.contentVerdict plan state cell content).map fun _ => cell.take content) := by
  obtain ⟨method, mem, named, accepted⟩ := exists_merge_method suits fits
  have outcome := outcome_call ready mem named accepted
  rw [effect_mergeVerb suits fits, named, ← method_mergeWith plan guarded] at outcome
  dsimp only
  cases propagates : (Emit.mergeWith plan guarded).propagates with
  | true => exact outcome
  | false =>
      rw [contentVerdict_of_not_propagates propagates suits fits] at outcome ⊢
      exact congrArg (fun after : _ × State V => (_, after.2)) outcome

/-- The state with what the source has of a property taken in, unless it is refused. -/
def Machine.takeIn (machine : Machine V) (source : Source V) (plan : Plan) (state : State V) :
    Except BuilderError (State V) :=
  match source.given plan, state.cell? plan.property.name with
  | some content, some cell =>
      (machine.contentVerdict plan state cell content).map fun _ =>
        machine.store plan (cell.take content) state
  | _, _ => .ok state

/-- A merge of one property takes in what the source has, or leaves everything as it was. -/
theorem outcome_mergeProperty (planned : machine.Planned plans) (mem : plan ∈ plans)
    (ready : machine.Ready plan state cell) (fits : source.Fits machine.builder plans) :
    (machine.mergeProperty source (Emit.fragments plan) state).outcome =
      match machine.takeIn source plan state with
      | .ok next => (.ok .builder, next)
      | .error error => (.error error, state) := by
  rw [mergeProperty_eq planned mem fits, Machine.takeIn, ready.found]
  cases given : source.given plan with
  | none => rfl
  | some content =>
      dsimp only
      rw [outcome_merge ready _ (planned.suits plan mem) (given_fits planned mem fits given)]
      cases machine.contentVerdict plan state cell content <;> rfl

/-- Taking in admitted content is a change, and gives content to a required property. -/
theorem change_of_contentVerdict (suits : plan.strategy.Suits plan.property.shape)
    (fits : content.Fits plan.property.shape) (cellFits : cell.Fits (storage plan))
    (h : machine.contentVerdict plan state cell content = .ok ()) :
    machine.Change plan state cell (cell.take content) ∧
      (plan.kind = .required → (cell.take content).content? ≠ none) := by
  obtain ⟨method, mem, named, accepted⟩ := exists_merge_method suits fits
  have effect : machine.effect plan state cell plan.mergeVerb [content.argument] =
      .ok (cell.take content) := by
    rw [effect_mergeVerb suits fits, h]
    rfl
  exact ⟨Machine.change_of_effect cellFits effect,
    fun required => content_of_effect required cellFits mem named accepted effect⟩

/-- What can become of a state when one property is merged. -/
inductive Machine.Intake (machine : Machine V) (source : Source V) (plan : Plan) (state : State V) :
    Except BuilderError (State V) → Prop where
  | nothing (given : source.given plan = none) : machine.Intake source plan state (.ok state)
  | taken {content : Content V} {cell : Cell V} (given : source.given plan = some content)
      (found : state.cell? plan.property.name = some cell)
      (admitted : machine.contentVerdict plan state cell content = .ok ())
      (change : machine.Change plan state cell (cell.take content))
      (present : plan.kind = .required → (cell.take content).content? ≠ none) :
      machine.Intake source plan state (.ok (machine.store plan (cell.take content) state))
  | refused {content : Content V} {cell : Cell V} {error : BuilderError}
      (given : source.given plan = some content)
      (found : state.cell? plan.property.name = some cell)
      (refused : machine.contentVerdict plan state cell content = .error error) :
      machine.Intake source plan state (.error error)

theorem intake_takeIn (planned : machine.Planned plans) (mem : plan ∈ plans)
    (fits : source.Fits machine.builder plans) (consistent : state.Consistent plans) :
    machine.Intake source plan state (machine.takeIn source plan state) := by
  obtain ⟨cell, found, suits⟩ := consistent.cells plan mem
  rw [Machine.takeIn, found]
  cases given : source.given plan with
  | none => exact .nothing given
  | some content =>
      dsimp only
      cases verdict : machine.contentVerdict plan state cell content with
      | error error => exact .refused given found verdict
      | ok _ =>
          obtain ⟨change, present⟩ := change_of_contentVerdict (planned.suits plan mem)
            (given_fits planned mem fits given) suits.fits verdict
          exact .taken given found verdict change present

/-! Whole merges. -/

/-- Taking in one property after the other until one is refused. -/
def Machine.absorb (machine : Machine V) (source : Source V) :
    List Plan → State V → Except BuilderError Unit × State V
  | [], state => (.ok (), state)
  | plan :: rest, state =>
      match machine.takeIn source plan state with
      | .ok next => machine.absorb source rest next
      | .error error => (.error error, state)

/-- What every change keeps of a consistent state. -/
def Machine.Keeps (machine : Machine V) (plans : List Plan) (P : State V → Prop) : Prop :=
  ∀ plan ∈ plans, ∀ state cell after, state.Consistent plans → P state →
    state.cell? plan.property.name = some cell → machine.Change plan state cell after →
    (plan.kind = .required → after.content? ≠ none) → P (machine.store plan after state)

theorem keeps_consistent (planned : machine.Planned plans) :
    machine.Keeps plans fun state => state.Consistent plans := by
  intro plan mem state cell after consistent _ found change present
  have suits := consistent.suits mem found
  exact consistent.store planned mem (change.suits suits) present

theorem Machine.Intake.keeps {P : State V → Prop} {next : State V}
    (intake : machine.Intake source plan state (.ok next)) (keeps : machine.Keeps plans P)
    (mem : plan ∈ plans) (consistent : state.Consistent plans) (holds : P state) : P next := by
  cases intake with
  | nothing _ => exact holds
  | taken _ found _ change present =>
      exact keeps plan mem state _ _ consistent holds found change present

theorem Machine.Intake.consistent {next : State V}
    (intake : machine.Intake source plan state (.ok next)) (planned : machine.Planned plans)
    (mem : plan ∈ plans) (consistent : state.Consistent plans) : next.Consistent plans :=
  intake.keeps (keeps_consistent planned) mem consistent consistent

theorem absorb_keeps {P : State V → Prop} (planned : machine.Planned plans)
    (keeps : machine.Keeps plans P) (fits : source.Fits machine.builder plans) {part : List Plan}
    (known : ∀ plan ∈ part, plan ∈ plans) {state : State V} (consistent : state.Consistent plans)
    (holds : P state) : P (machine.absorb source part state).2 := by
  induction part generalizing state with
  | nil => exact holds
  | cons plan rest ih =>
      obtain ⟨mem, later⟩ := List.forall_mem_cons.1 known
      have intake := intake_takeIn planned mem fits consistent
      rw [Machine.absorb]
      cases result : machine.takeIn source plan state with
      | error error => exact holds
      | ok next =>
          rw [result] at intake
          exact ih later (intake.consistent planned mem consistent)
            (intake.keeps keeps mem consistent holds)

theorem absorb_consistent (planned : machine.Planned plans)
    (fits : source.Fits machine.builder plans) {part : List Plan}
    (known : ∀ plan ∈ part, plan ∈ plans) {state : State V} (consistent : state.Consistent plans) :
    (machine.absorb source part state).2.Consistent plans :=
  absorb_keeps planned (keeps_consistent planned) fits known consistent consistent

theorem outcome_mergeAll_cons (source : Source V) (fragments : Emit.Fragments)
    (rest : List Emit.Fragments) (state : State V) :
    (machine.mergeAll source (fragments :: rest) state).outcome =
      match (machine.mergeProperty source fragments state).outcome with
      | (.error error, after) => (.error error, after)
      | (.ok _, after) => (machine.mergeAll source rest after).outcome := by
  rw [Machine.mergeAll]
  generalize machine.mergeProperty source fragments state = ran
  obtain ⟨answer, after, trace⟩ := ran
  cases answer <;> rfl

theorem outcome_mergeAll (planned : machine.Planned plans)
    (fits : source.Fits machine.builder plans) {part : List Plan}
    (known : ∀ plan ∈ part, plan ∈ plans) {state : State V} (consistent : state.Consistent plans) :
    (machine.mergeAll source (part.map Emit.fragments) state).outcome =
      ((machine.absorb source part state).1.map fun _ => .builder,
        (machine.absorb source part state).2) := by
  induction part generalizing state with
  | nil => rfl
  | cons plan rest ih =>
      obtain ⟨mem, later⟩ := List.forall_mem_cons.1 known
      obtain ⟨cell, found, _⟩ := consistent.cells plan mem
      have intake := intake_takeIn planned mem fits consistent
      rw [List.map_cons, outcome_mergeAll_cons,
        outcome_mergeProperty planned mem (consistent.ready planned mem found) fits, Machine.absorb]
      cases result : machine.takeIn source plan state with
      | error error => rfl
      | ok next =>
          rw [result] at intake
          exact ih later (intake.consistent planned mem consistent)

theorem outcome_merge_eq (planned : machine.Planned plans)
    (fits : source.Fits machine.builder plans) {state : State V}
    (consistent : state.Consistent plans) :
    (machine.merge source state).outcome =
      ((machine.absorb source plans state).1.map fun _ => .builder,
        (machine.absorb source plans state).2) := by
  rw [Machine.merge, planned.fragments]
  exact outcome_mergeAll planned fits (fun _ mem => mem) consistent

theorem State.Consistent.merge_keeps {P : State V → Prop} {state : State V}
    (consistent : state.Consistent plans) (planned : machine.Planned plans)
    (keeps : machine.Keeps plans P) (fits : source.Fits machine.builder plans) (holds : P state) :
    P (machine.merge source state).state := by
  have after : (machine.merge source state).state = (machine.absorb source plans state).2 :=
    congrArg Prod.snd (outcome_merge_eq planned fits consistent)
  rw [after]
  exact absorb_keeps planned keeps fits (fun _ mem => mem) consistent holds

theorem State.Consistent.merge {state : State V} (consistent : state.Consistent plans)
    (planned : machine.Planned plans) (fits : source.Fits machine.builder plans) :
    (machine.merge source state).state.Consistent plans :=
  consistent.merge_keeps planned (keeps_consistent planned) fits consistent

end Run
end StructBuilder
