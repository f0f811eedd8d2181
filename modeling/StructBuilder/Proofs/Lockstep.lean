import StructBuilder.Proofs.Alongside

/-!
Two machines that go the same way. Their plans match, their verdicts agree on states that
hold the same, and new builders hold the same; then every operation ends alike on both, and
leaves builders that hold the same again.
-/

namespace StructBuilder.Run

open Emit (methods storage)

variable {V : Type} [BEq V]

/-! Methods. -/

/-- The methods go by one name and take the same. -/
structure Method.Matches (method offered : Emit.Method) : Prop where
  name : offered.name = method.name
  parameters : offered.parameters = method.parameters

omit [BEq V] in
theorem methods_match {plan other : Plan} (pair : plan.Matches other) :
    List.Forall₂ Method.Matches (methods plan) (methods other) := by
  obtain ⟨property, strategy, mappers⟩ := pair
  generalize other.property.check = check at property
  rw [methods, methods, property, strategy, mappers]
  cases plan.strategy with
  | scalar hasDefault =>
      cases plan.features.mappers
      · cases hasDefault <;> exact .cons ⟨rfl, rfl⟩ (.cons ⟨rfl, rfl⟩ .nil)
      · cases hasDefault <;> exact .cons ⟨rfl, rfl⟩ (.cons ⟨rfl, rfl⟩ (.cons ⟨rfl, rfl⟩ .nil))
  | optional inner =>
      cases plan.features.mappers
      · exact .cons ⟨rfl, rfl⟩ (.cons ⟨rfl, rfl⟩ .nil)
      · exact .cons ⟨rfl, rfl⟩ (.cons ⟨rfl, rfl⟩ (.cons ⟨rfl, rfl⟩ .nil))
  | _ =>
      exact .cons ⟨rfl, rfl⟩ (.cons ⟨rfl, rfl⟩ (.cons ⟨rfl, rfl⟩ (.cons ⟨rfl, rfl⟩
        (.cons ⟨rfl, rfl⟩ .nil))))

/-! States. -/

/-- The states hold the same in all fields, and the same is unset. -/
structure State.Reflects (state echo : State V) : Prop where
  names : echo.names = state.names
  contents : ∀ field,
    (echo.cell? field).map Content.ofCell = (state.cell? field).map Content.ofCell
  unset : echo.unset = state.unset

/-- All that makes two machines go the same way. -/
structure Machine.Lockstep (machine twin : Machine V) (plans others : List Plan) : Prop where
  planned : machine.Planned plans
  also : twin.Planned others
  pairs : List.Forall₂ Plan.Matches plans others
  typeName : twin.typeName = machine.typeName
  debug : twin.debug = machine.debug
  /-- New fields hold the same. -/
  initial : twin.initial = machine.initial
  /-- Both kinds of storage take the same keys for equal. -/
  same : ∀ plan ∈ plans, ∀ other ∈ others, plan.Matches other → ∀ cell shadow : Cell V,
    cell.Fits (storage plan) → shadow.Fits (storage other) → shadow.same = cell.same
  verdict : ∀ plan ∈ plans, ∀ other ∈ others, plan.Matches other → ∀ state echo : State V,
    state.Consistent plans → echo.Consistent others → state.Reflects echo →
    twin.verdict other.property echo = machine.verdict plan.property state

/-- Consistent states of two machines that hold the same. -/
structure State.Twins (plans others : List Plan) (state echo : State V) : Prop where
  consistent : state.Consistent plans
  kept : echo.Consistent others
  reflects : state.Reflects echo

variable {machine twin : Machine V} {plans others : List Plan} {plan other : Plan}
  {state echo : State V} {cell shadow : Cell V}

namespace Machine.Lockstep

omit [BEq V] in
theorem exists_match {plans others : List Plan} (pairs : List.Forall₂ Plan.Matches plans others)
    (mem : plan ∈ plans) : ∃ other ∈ others, plan.Matches other := by
  obtain ⟨position, here⟩ := List.mem_iff_getElem?.1 mem
  obtain ⟨other, there, pair⟩ := exists_getElem?_of_forall₂ pairs here
  exact ⟨other, List.mem_of_getElem? there, pair⟩

omit [BEq V] in
theorem map_name (pairs : List.Forall₂ Plan.Matches plans others) :
    others.map (·.property.name) = plans.map (·.property.name) := by
  rw [← List.forall₂_eq_eq_eq, List.forall₂_map_left_iff, List.forall₂_map_right_iff]
  exact pairs.flip.imp fun _ _ pair => pair.name

/-- Consistent states hold the same if their fields do: the tracker follows. -/
theorem twins (lockstep : machine.Lockstep twin plans others) (consistent : state.Consistent plans)
    (kept : echo.Consistent others)
    (contents : ∀ plan ∈ plans, (echo.cell? plan.property.name).map Content.ofCell =
      (state.cell? plan.property.name).map Content.ofCell) :
    State.Twins plans others state echo := by
  have names : echo.names = state.names := by
    rw [kept.names, consistent.names, map_name lockstep.pairs]
  have fields (field : String) :
      (echo.cell? field).map Content.ofCell = (state.cell? field).map Content.ofCell := by
    by_cases known : field ∈ state.names
    · obtain ⟨plan, mem, rfl⟩ := List.mem_map.1 (consistent.names ▸ known)
      exact contents plan mem
    · rw [State.cell?_eq_none known, State.cell?_eq_none (names ▸ known)]
  refine ⟨consistent, kept, names, fields, congrArg Unset.mk ?_⟩
  refine Sorted.eq_of_ascending kept.ascending consistent.ascending fun position => ?_
  have absent (plan other : Plan) (pair : plan.Matches other) (mem : plan ∈ plans)
      (mem' : other ∈ others) (required : plan.kind = .required) :
      echo.cell? other.property.name = some (.option none) ↔
        state.cell? plan.property.name = some (.option none) := by
    obtain ⟨cell, found, suits⟩ := consistent.cells plan mem
    obtain ⟨shadow, found', suits'⟩ := kept.cells other mem'
    have same := contents plan mem
    rw [← pair.name, found', pair.name, found] at same
    have reflects : cell.Reflects shadow := Option.some.inj same
    have option := option_of_required required suits.fits
    have option' := option_of_required (pair.kind.trans required) suits'.fits
    rw [found, found', option, option', reflects.content?]
  rw [kept.tracked, consistent.tracked]
  constructor
  · rintro ⟨other, there, required, unset⟩
    obtain ⟨plan, here, pair⟩ := exists_getElem?_of_forall₂ lockstep.pairs.flip there
    have required := pair.kind.symm.trans required
    exact ⟨plan, here, required, (absent plan other pair (List.mem_of_getElem? here)
      (List.mem_of_getElem? there) required).1 unset⟩
  · rintro ⟨plan, here, required, unset⟩
    obtain ⟨other, there, pair⟩ := exists_getElem?_of_forall₂ lockstep.pairs here
    exact ⟨other, there, pair.kind.trans required, (absent plan other pair
      (List.mem_of_getElem? here) (List.mem_of_getElem? there) required).2 unset⟩

theorem alongside (lockstep : machine.Lockstep twin plans others)
    (twins : State.Twins plans others state echo) (mem : plan ∈ plans) (mem' : other ∈ others)
    (pair : plan.Matches other) :
    ∃ cell shadow, state.cell? plan.property.name = some cell ∧
      echo.cell? other.property.name = some shadow ∧
      machine.Alongside twin plan other state echo cell shadow := by
  obtain ⟨cell, found, suits⟩ := twins.consistent.cells plan mem
  obtain ⟨shadow, found', suits'⟩ := twins.kept.cells other mem'
  have same := twins.reflects.contents plan.property.name
  rw [← pair.name, found', pair.name, found] at same
  refine ⟨cell, shadow, found, found', pair, suits.fits, suits'.fits, Option.some.inj same, ?_, ?_,
    lockstep.typeName, lockstep.debug⟩
  · exact lockstep.same plan mem other mem' pair cell shadow suits.fits suits'.fits
  · exact lockstep.verdict plan mem other mem' pair state echo twins.consistent twins.kept
      twins.reflects

/-- What is stored on both sides may differ as much as what was there. -/
theorem store (lockstep : machine.Lockstep twin plans others)
    (twins : State.Twins plans others state echo) (mem : plan ∈ plans) (mem' : other ∈ others)
    (pair : plan.Matches other) (reflects : cell.Reflects shadow)
    (consistent : (machine.store plan cell state).Consistent plans)
    (kept : (twin.store other shadow echo).Consistent others) :
    State.Twins plans others (machine.store plan cell state) (twin.store other shadow echo) := by
  refine lockstep.twins consistent kept fun known _ => ?_
  rw [cell?_store, cell?_store, pair.name]
  by_cases same : known.property.name = plan.property.name
  · obtain ⟨old, shade, found, found', _⟩ := lockstep.alongside twins mem mem' pair
    rw [same, State.cell?_put_same found, State.cell?_put_same (pair.name ▸ found')]
    exact congrArg some reflects
  · rw [State.cell?_put_of_ne same, State.cell?_put_of_ne same]
    exact twins.reflects.contents known.property.name

end Machine.Lockstep

/-! Calls. -/

/-- What a caller sees of an answer. -/
def Answer.content? : Answer V → Option (Content V)
  | .builder => none
  | .view cell => some (.ofCell cell)

/-- Both runs end alike and leave twins. -/
structure Ran.Echoes (plans others : List Plan) (ran echo : Ran V) : Prop where
  answer : echo.answer.map Answer.content? = ran.answer.map Answer.content?
  states : State.Twins plans others ran.state echo.state

namespace Machine.Lockstep

theorem viewed (lockstep : machine.Lockstep twin plans others) (pair : plan.Matches other)
    (reflects : cell.Reflects shadow) :
    (twin.viewed other shadow).map Answer.content? =
      (machine.viewed plan cell).map Answer.content? := by
  rw [Machine.viewed, Machine.viewed, pair.kind, reflects.content?, lockstep.typeName,
    pair.baseName]
  have same : Answer.content? (.view shadow) = Answer.content? (.view cell) :=
    congrArg some reflects
  cases plan.kind with
  | required => cases cell.content? <;> rfl
  | _ => exact congrArg Except.ok same

/-- A call of one method ends alike on both sides. -/
theorem call (lockstep : machine.Lockstep twin plans others)
    (twins : State.Twins plans others state echo) (mem : plan ∈ plans) (mem' : other ∈ others)
    (pair : plan.Matches other) {method offered : Emit.Method} (here : method ∈ methods plan)
    (there : offered ∈ methods other) (matches' : Method.Matches method offered)
    {arguments : List (Argument V)} (accepted : Argument.AcceptedBy method arguments) :
    Ran.Echoes plans others (machine.call (Emit.fragments plan) method.name arguments state)
      (twin.call (Emit.fragments other) offered.name arguments echo) := by
  obtain ⟨cell, shadow, found, found', alongside⟩ := lockstep.alongside twins mem mem' pair
  have accepted' : Argument.AcceptedBy offered arguments := by
    rwa [Argument.AcceptedBy, matches'.parameters]
  have consistent := twins.consistent.call lockstep.planned mem here accepted
  have kept := twins.kept.call lockstep.also mem' there accepted'
  have ready := twins.consistent.ready lockstep.planned mem found
  have ready' := twins.kept.ready lockstep.also mem' found'
  rcases name_of_mem_methods here with ⟨named, parameters⟩ | ⟨verb, named⟩
  · obtain rfl := (Argument.acceptedBy_nil parameters).1 accepted
    rw [matches'.name, named, ← pair.getter, call_getter ready', pair.getter, call_getter ready]
    exact ⟨lockstep.viewed pair alongside.reflects, twins⟩
  · have named' : offered.name = other.property.method verb := by
      rw [matches'.name, named, pair.method]
    have settles := settles_call ready here named accepted
    have settles' := settles_call ready' there named' accepted'
    rcases Cell.Reflects.of_map_eq (alongside.effect (Called.of_mem here named accepted)) with
      ⟨error, refused, refused'⟩ | ⟨after, final, reached, reached', reflects⟩
    · rw [refused] at settles
      rw [refused'] at settles'
      cases settles with
      | refused answer unchanged =>
          cases settles' with
          | refused answer' unchanged' =>
              exact ⟨by rw [answer, answer'], by rwa [unchanged, unchanged']⟩
    · rw [reached] at settles
      rw [reached'] at settles'
      cases settles with
      | stored answer stored =>
          cases settles' with
          | stored answer' stored' =>
              refine ⟨by rw [answer, answer'], ?_⟩
              rw [stored, stored']
              rw [stored] at consistent
              rw [stored'] at kept
              exact lockstep.store twins mem mem' pair reflects consistent kept

end Machine.Lockstep

/-! Merges. -/

/-- The same value, or builders that hold the same. -/
inductive Source.Twins (plans others : List Plan) : Source V → Source V → Prop where
  | value (built : Value V) : Source.Twins plans others (.value built) (.value built)
  | builder {state echo : State V} (twins : State.Twins plans others state echo) :
      Source.Twins plans others (.builder state) (.builder echo)

namespace Machine.Lockstep

variable {source rival : Source V} {part parts : List Plan}

theorem fits_value (lockstep : machine.Lockstep twin plans others) {built : Value V}
    (fits : Value.Fits machine.builder built) : Value.Fits twin.builder built := by
  rw [Value.Fits, lockstep.planned.fragments, List.forall₂_map_left_iff] at fits
  rw [Value.Fits, lockstep.also.fragments, List.forall₂_map_left_iff]
  have pairs := lockstep.pairs
  clear lockstep
  induction pairs generalizing built with
  | nil => exact fits
  | @cons plan other _ _ pair _ ih =>
      cases fits with
      | cons first rest =>
          refine .cons ⟨first.1.trans pair.name.symm, ?_⟩ (ih rest)
          exact (show (Emit.fragments other).shape = (Emit.fragments plan).shape from
            pair.shape) ▸ first.2

theorem fits_source (lockstep : machine.Lockstep twin plans others)
    (sources : Source.Twins plans others source rival) (fits : source.Fits machine.builder plans) :
    rival.Fits twin.builder others := by
  cases sources with
  | value built => exact lockstep.fits_value fits
  | builder twins => exact twins.kept

/-- Both sources have the same of a property. -/
theorem given (lockstep : machine.Lockstep twin plans others)
    (sources : Source.Twins plans others source rival) (mem : plan ∈ plans) (mem' : other ∈ others)
    (pair : plan.Matches other) : rival.given other = source.given plan := by
  cases sources with
  | value built => rw [Source.given, Source.given, pair.name]
  | builder twins =>
      obtain ⟨cell, shadow, found, found', alongside⟩ := lockstep.alongside twins mem mem' pair
      have same : Content.ofCell shadow = Content.ofCell cell := alongside.reflects
      rw [given_builder found, given_builder found', pair.kind, alongside.reflects.content?, same]

theorem takeIn (lockstep : machine.Lockstep twin plans others)
    (sources : Source.Twins plans others source rival) (fits : source.Fits machine.builder plans)
    (twins : State.Twins plans others state echo) (mem : plan ∈ plans) (mem' : other ∈ others)
    (pair : plan.Matches other) :
    (∃ next step, machine.takeIn source plan state = .ok next ∧
      twin.takeIn rival other echo = .ok step ∧ State.Twins plans others next step) ∨
    ∃ error, machine.takeIn source plan state = .error error ∧
      twin.takeIn rival other echo = .error error := by
  have fits' := lockstep.fits_source sources fits
  have given := lockstep.given sources mem mem' pair
  have intake := intake_takeIn lockstep.planned mem fits twins.consistent
  have intake' := intake_takeIn lockstep.also mem' fits' twins.kept
  obtain ⟨cell, shadow, found, found', alongside⟩ := lockstep.alongside twins mem mem' pair
  cases here : source.given plan with
  | none =>
      rw [here] at given
      refine .inl ⟨state, echo, ?_, ?_, twins⟩
      · rw [Machine.takeIn, here]
      · rw [Machine.takeIn, given]
  | some content =>
      rw [here] at given
      have suits := lockstep.planned.suits plan mem
      have suits' := lockstep.also.suits other mem'
      have holds := given_fits lockstep.planned mem fits here
      have holds' := given_fits lockstep.also mem' fits' given
      obtain ⟨method, offered, named, accepted⟩ := exists_merge_method suits holds
      have effects := alongside.effect (Called.of_mem offered named accepted)
      rw [← pair.mergeVerb, effect_mergeVerb suits' holds', pair.mergeVerb,
        effect_mergeVerb suits holds] at effects
      rw [Machine.takeIn, here, found] at intake ⊢
      rw [Machine.takeIn, given, found'] at intake' ⊢
      dsimp only at intake intake' ⊢
      generalize machine.contentVerdict plan state cell content = verdict at effects intake ⊢
      generalize twin.contentVerdict other echo shadow content = verdict' at effects intake' ⊢
      cases verdict with
      | error error =>
          cases verdict' with
          | error _ =>
              cases effects
              exact .inr ⟨error, rfl, rfl⟩
          | ok _ => cases effects
      | ok _ =>
          cases verdict' with
          | error _ => cases effects
          | ok _ =>
              have consistent := intake.consistent lockstep.planned mem twins.consistent
              have kept := intake'.consistent lockstep.also mem' twins.kept
              exact .inl ⟨_, _, rfl, rfl,
                lockstep.store twins mem mem' pair (Except.ok.inj effects) consistent kept⟩

/-- Merges stop at the same property, with the same error, or not at all. -/
theorem absorb (lockstep : machine.Lockstep twin plans others)
    (sources : Source.Twins plans others source rival) (fits : source.Fits machine.builder plans)
    (pairs : List.Forall₂ Plan.Matches part parts) (known : ∀ plan ∈ part, plan ∈ plans)
    (known' : ∀ other ∈ parts, other ∈ others) (twins : State.Twins plans others state echo) :
    (twin.absorb rival parts echo).1 = (machine.absorb source part state).1 ∧
      State.Twins plans others (machine.absorb source part state).2
        (twin.absorb rival parts echo).2 := by
  induction pairs generalizing state echo with
  | nil => exact ⟨rfl, twins⟩
  | @cons plan other _ _ pair _ ih =>
      obtain ⟨mem, later⟩ := List.forall_mem_cons.1 known
      obtain ⟨mem', later'⟩ := List.forall_mem_cons.1 known'
      rw [Machine.absorb, Machine.absorb]
      rcases lockstep.takeIn sources fits twins mem mem' pair with
        ⟨next, step, taken, took, twins⟩ | ⟨error, refused, rejected⟩
      · rw [taken, took]
        exact ih later later' twins
      · rw [refused, rejected]
        exact ⟨rfl, twins⟩

theorem merge (lockstep : machine.Lockstep twin plans others)
    (sources : Source.Twins plans others source rival) (fits : source.Fits machine.builder plans)
    (twins : State.Twins plans others state echo) :
    Ran.Echoes plans others (machine.merge source state) (twin.merge rival echo) := by
  obtain ⟨answer, final⟩ :=
    Prod.mk.inj (outcome_merge_eq lockstep.planned fits twins.consistent)
  obtain ⟨answer', final'⟩ :=
    Prod.mk.inj (outcome_merge_eq lockstep.also (lockstep.fits_source sources fits) twins.kept)
  obtain ⟨same, twins⟩ := lockstep.absorb sources fits lockstep.pairs (fun _ mem => mem)
    (fun _ mem => mem) twins
  refine ⟨?_, ?_⟩
  · rw [answer, answer', same]
  · rwa [final, final']

end Machine.Lockstep

/-! Builds. -/

omit [BEq V] in
theorem mapM_congr_of_forall₂ {α β γ ε : Type} {f : α → Except ε γ} {g : β → Except ε γ}
    {as : List α} {bs : List β} (all : List.Forall₂ (fun a b => g b = f a) as bs) :
    bs.mapM g = as.mapM f := by
  induction all with
  | nil => rfl
  | cons first _ ih => rw [List.mapM_cons, List.mapM_cons, first, ih]

omit [BEq V] in
theorem forall₂_and_mem {α β : Type} {R : α → β → Prop} {as : List α} {bs : List β}
    (all : List.Forall₂ R as bs) :
    List.Forall₂ (fun a b => a ∈ as ∧ b ∈ bs ∧ R a b) as bs := by
  induction all with
  | nil => exact .nil
  | cons first _ ih =>
      refine .cons ⟨List.mem_cons_self, List.mem_cons_self, first⟩ (ih.imp ?_)
      rintro _ _ ⟨mem, mem', holds⟩
      exact ⟨List.mem_cons_of_mem _ mem, List.mem_cons_of_mem _ mem', holds⟩

namespace Machine.Lockstep

theorem lacks (lockstep : machine.Lockstep twin plans others)
    (twins : State.Twins plans others state echo) (mem : plan ∈ plans) (mem' : other ∈ others)
    (pair : plan.Matches other) : echo.lacks other = state.lacks plan := by
  obtain ⟨cell, shadow, found, found', alongside⟩ := lockstep.alongside twins mem mem' pair
  rw [State.lacks_eq found, State.lacks_eq found', pair.kind, alongside.reflects.content?]

theorem missing (lockstep : machine.Lockstep twin plans others)
    (twins : State.Twins plans others state echo) : echo.missing others = state.missing plans := by
  have lacks : List.Forall₂ (fun plan other => echo.lacks other = state.lacks plan ∧
      other.property.baseName = plan.property.baseName) plans others :=
    (forall₂_and_mem lockstep.pairs).imp fun _ _ ⟨mem, mem', pair⟩ =>
      ⟨lockstep.lacks twins mem mem' pair, pair.baseName⟩
  clear lockstep twins
  rw [State.missing, State.missing]
  induction lacks with
  | nil => rfl
  | @cons plan _ _ _ first _ ih =>
      obtain ⟨lacks, base⟩ := first
      rw [List.filter_cons, List.filter_cons, lacks]
      cases state.lacks plan with
      | true => exact congrArg₂ List.cons base ih
      | false => exact ih

variable [Ord V]

theorem finish (lockstep : machine.Lockstep twin plans others)
    (twins : State.Twins plans others state echo) (mem : plan ∈ plans) (mem' : other ∈ others)
    (pair : plan.Matches other) :
    twin.finish echo (Emit.fragments other) = machine.finish state (Emit.fragments plan) := by
  obtain ⟨cell, shadow, found, found', alongside⟩ := lockstep.alongside twins mem mem' pair
  have same : Content.ofCell shadow = Content.ofCell cell := alongside.reflects
  rw [finish_eq (twins.kept.ready lockstep.also mem' found'),
    finish_eq (twins.consistent.ready lockstep.planned mem found), Machine.finished,
    Machine.finished, pair.kind, pair.shape, pair.baseName, alongside.reflects.content?,
    lockstep.typeName, same]

/-- Both build the same value, or lack the same properties. -/
theorem build (lockstep : machine.Lockstep twin plans others)
    (twins : State.Twins plans others state echo) : twin.build echo = machine.build state := by
  rw [Machine.build, Machine.build, twins.kept.ensureComplete_eq lockstep.also,
    twins.consistent.ensureComplete_eq lockstep.planned, lockstep.missing twins, lockstep.typeName,
    lockstep.also.fragments, lockstep.planned.fragments]
  by_cases complete : state.missing plans = []
  · rw [if_pos complete]
    apply mapM_congr_of_forall₂
    rw [List.forall₂_map_left_iff, List.forall₂_map_right_iff]
    refine (forall₂_and_mem lockstep.pairs).imp fun plan other matched => ?_
    obtain ⟨mem, mem', pair⟩ := matched
    rw [lockstep.finish twins mem mem' pair]
    exact congrArg (fun name => Except.map (name, ·) _) pair.name
  · rw [if_neg complete]
    rfl

end Machine.Lockstep

/-! Resets. -/

namespace Machine.Lockstep

theorem initial_reflects (lockstep : machine.Lockstep twin plans others)
    (pair : plan.Matches other) :
    Cell.Reflects (machine.initial (storage plan) (Emit.initial plan))
      (twin.initial (storage other) (Emit.initial other)) := by
  rw [lockstep.initial, pair.initial]
  cases strategy : plan.strategy with
  | map key value | set element =>
      have initial : Emit.initial plan = .default := by simp [Emit.initial, strategy]
      rw [initial]
      cases library : plan.features.library <;> cases library' : other.features.library <;>
        simp only [storage, strategy, pair.strategy, library, library'] <;> rfl
  | _ =>
      rw [pair.storage_eq (by simp [strategy]) (by simp [strategy])]
      rfl

theorem new (lockstep : machine.Lockstep twin plans others) :
    State.Twins plans others machine.new twin.new := by
  refine lockstep.twins (State.consistent_new lockstep.planned)
    (State.consistent_new lockstep.also) fun plan mem => ?_
  obtain ⟨other, mem', pair⟩ := exists_match lockstep.pairs mem
  rw [← pair.name, cell?_new lockstep.also mem', pair.name, cell?_new lockstep.planned mem]
  exact congrArg some (lockstep.initial_reflects pair)

theorem clear (lockstep : machine.Lockstep twin plans others)
    (twins : State.Twins plans others state echo) :
    State.Twins plans others (machine.clear state) (twin.clear echo) := by
  rw [twins.consistent.clear_eq_new lockstep.planned, twins.kept.clear_eq_new lockstep.also]
  exact lockstep.new

theorem clearPartial (lockstep : machine.Lockstep twin plans others)
    (twins : State.Twins plans others state echo) :
    State.Twins plans others (machine.clearPartial state) (twin.clearPartial echo) := by
  refine lockstep.twins (twins.consistent.clearPartial lockstep.planned)
    (twins.kept.clearPartial lockstep.also) fun plan mem => ?_
  obtain ⟨other, mem', pair⟩ := exists_match lockstep.pairs mem
  obtain ⟨cell, shadow, found, found', alongside⟩ := lockstep.alongside twins mem mem' pair
  have reset : Emit.partialClear other = Emit.partialClear plan := by
    rw [Emit.partialClear, Emit.partialClear, pair.strategy]
  rw [← pair.name, cell?_clearPartial lockstep.also mem' found', pair.name,
    cell?_clearPartial lockstep.planned mem found, reset]
  refine congrArg some ?_
  cases Emit.partialClear plan with
  | keep => exact alongside.reflects
  | fromTemplate => exact alongside.reflects
  | absent => rfl
  | empty => exact alongside.reflects.clear

end Machine.Lockstep
end StructBuilder.Run
