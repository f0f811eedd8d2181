import StructBuilder.Proofs.Alike

/-!
The two ways to merge a complete builder: as it is, or as the value that it builds. They
go through the same things, but containers without an order of insertion rearrange what
they collect. Neither what is refused nor what is taken in depends on that order, so both
merges come to the same.
-/

namespace StructBuilder.Run

open Emit (storage)

variable {V : Type} [BEq V] {machine : Machine V} {plans : List Plan} {plan : Plan}
  {shape : Shape} {state other : State V} {left right content : Content V} {cell twin : Cell V}
  {source rival : Source V} {within : Plan → V → Prop}

/-! Verdicts. -/

/-- The hooks look at nothing but the values that they are asked about. -/
def Machine.Stateless (machine : Machine V) : Prop :=
  ∀ name hook, machine.hook? name = some hook →
    ∀ (state other : State V) values, hook state values = hook other values

omit [BEq V] in
theorem Machine.Stateless.verdict_eq (stateless : machine.Stateless) (property : Property)
    (state other : State V) : machine.verdict property state = machine.verdict property other := by
  funext values
  unfold Machine.verdict
  cases hook : machine.hook? (property.method .check) with
  | none => rfl
  | some check => simp only [stateless _ _ hook state other]

theorem itemVerdict_of_alike (stateless : machine.Stateless) (fits : cell.Fits (storage plan))
    (fit : twin.Fits (storage plan)) (alike : cell.Alike shape twin) :
    machine.itemVerdict plan state cell = machine.itemVerdict plan other twin := by
  have contains (key : V) : cell.containsKey key = twin.containsKey key := by
    rw [Cell.containsKey_eq, Cell.containsKey_eq, Cell.same_eq_of_fits fits fit]
    exact alike.entries_perm.symm.any_eq
  funext values
  rw [Machine.itemVerdict.eq_def, Machine.itemVerdict.eq_def,
    stateless.verdict_eq plan.property state other]
  simp only [contains]

theorem contentVerdict_iff_of_alike (stateless : machine.Stateless)
    (suits : plan.strategy.Suits plan.property.shape) (fits : left.Fits plan.property.shape)
    (fit : right.Fits plan.property.shape) (cellFits : cell.Fits (storage plan))
    (twinFits : twin.Fits (storage plan)) (apart : left.Apart cell) (twinApart : right.Apart twin)
    (same : left.Same plan.property.shape right) (alike : cell.Alike plan.property.shape twin) :
    machine.contentVerdict plan state cell left = .ok () ↔
      machine.contentVerdict plan other twin right = .ok () := by
  rw [contentVerdict_eq_forM suits fits cellFits apart,
    contentVerdict_eq_forM suits fit twinFits twinApart, forM_eq_ok_iff, forM_eq_ok_iff,
    itemVerdict_of_alike stateless cellFits twinFits alike]
  exact forall_congr' fun values => imp_congr_left same.stored_perm.mem_iff.symm

/-! Merges of the same into the same. -/

/-- Sources that have the same of every property. -/
def Source.Alike (plans : List Plan) (source rival : Source V) : Prop :=
  ∀ plan ∈ plans, ∃ left right, source.given plan = some left ∧ rival.given plan = some right ∧
    left.Same plan.property.shape right

/-- How two merges of the same properties go on side by side. -/
inductive Machine.Abreast (machine : Machine V) (plans : List Plan) (source rival : Source V)
    (part : List Plan) (state other : State V) : Prop where
  | passed {final last : State V} (first : machine.absorb source part state = (.ok (), final))
      (second : machine.absorb rival part other = (.ok (), last)) (kept : final.Consistent plans)
      (still : last.Consistent plans) (alike : final.Alike plans last) :
      machine.Abreast plans source rival part state other
  /-- Both stop at the same property. -/
  | stopped {before after : List Plan} {plan : Plan} {final last : State V}
      {error reason : BuilderError} (split : part = before ++ plan :: after)
      (first : machine.absorb source before state = (.ok (), final))
      (second : machine.absorb rival before other = (.ok (), last))
      (refused : machine.takeIn source plan final = .error error)
      (rejected : machine.takeIn rival plan last = .error reason) (kept : final.Consistent plans)
      (still : last.Consistent plans) (alike : final.Alike plans last) :
      machine.Abreast plans source rival part state other

theorem takeIn_eq (given : source.given plan = some left)
    (found : state.cell? plan.property.name = some cell) :
    machine.takeIn source plan state = (machine.contentVerdict plan state cell left).map fun _ =>
      machine.store plan (cell.take left) state := by
  rw [Machine.takeIn, given, found]

theorem takeIn_of_alike (planned : machine.Planned plans) (mem : plan ∈ plans)
    (stateless : machine.Stateless) (proper : source.Proper machine) (sound : rival.Proper machine)
    (sources : source.Alike plans rival) (consistent : state.Consistent plans)
    (kept : other.Consistent plans) (alike : state.Alike plans other) :
    (∃ next step, machine.takeIn source plan state = .ok next ∧
      machine.takeIn rival plan other = .ok step ∧ next.Alike plans step) ∨
    ∃ error reason, machine.takeIn source plan state = .error error ∧
      machine.takeIn rival plan other = .error reason := by
  obtain ⟨left, right, given, gave, same⟩ := sources plan mem
  obtain ⟨cell, twin, found, there, cells⟩ := alike.cells plan mem
  have suits := planned.suits plan mem
  have fits := given_fits planned mem (proper.fits planned) given
  have fit := given_fits planned mem (sound.fits planned) gave
  have cellFits := (consistent.suits mem found).fits
  have twinFits := (kept.suits mem there).fits
  have apart := given_apart planned mem proper cellFits given
  have twinApart := given_apart planned mem sound twinFits gave
  have agree : machine.contentVerdict plan state cell left = .ok () ↔
      machine.contentVerdict plan other twin right = .ok () :=
    contentVerdict_iff_of_alike stateless suits fits fit cellFits twinFits apart twinApart same
      cells
  rw [takeIn_eq given found, takeIn_eq gave there]
  cases first : machine.contentVerdict plan state cell left with
  | ok _ =>
      have second := agree.1 first
      have takes := takes_take suits fits cellFits apart first
        (change_of_contentVerdict suits fits cellFits first).1
      have also := takes_take suits fit twinFits twinApart second
        (change_of_contentVerdict suits fit twinFits second).1
      have taken := takes.alike suits fits cellFits twinFits cells same also
      rw [second]
      exact .inl ⟨_, _, rfl, rfl, alike.store planned mem taken⟩
  | error error =>
      cases second : machine.contentVerdict plan other twin right with
      | ok _ =>
          rw [agree.2 second] at first
          cases first
      | error reason => exact .inr ⟨error, reason, rfl, rfl⟩

/-- Merges that begin alike pass the same properties, and the first that one of them
refuses is refused by the other. -/
theorem abreast_absorb (planned : machine.Planned plans) (stateless : machine.Stateless)
    (proper : source.Proper machine) (sound : rival.Proper machine)
    (sources : source.Alike plans rival) {part : List Plan} (known : ∀ plan ∈ part, plan ∈ plans)
    (consistent : state.Consistent plans) (steady : other.Consistent plans)
    (alike : state.Alike plans other) :
    machine.Abreast plans source rival part state other := by
  induction part generalizing state other with
  | nil => exact .passed rfl rfl consistent steady alike
  | cons plan rest ih =>
      obtain ⟨mem, later⟩ := List.forall_mem_cons.1 known
      have intake := intake_takeIn planned mem (proper.fits planned) consistent
      have also := intake_takeIn planned mem (sound.fits planned) steady
      rcases takeIn_of_alike planned mem stateless proper sound sources consistent steady alike with
        ⟨next, step, taken, took, nexts⟩ | ⟨error, reason, refused, rejected⟩
      -- both take the property in and go on from states that are alike
      · rw [taken] at intake
        rw [took] at also
        have onward (part : List Plan) :
            machine.absorb source (plan :: part) state = machine.absorb source part next ∧
              machine.absorb rival (plan :: part) other = machine.absorb rival part step := by
          rw [Machine.absorb, taken, Machine.absorb, took]
          exact ⟨rfl, rfl⟩
        cases ih later (intake.consistent planned mem consistent)
          (also.consistent planned mem steady) nexts with
        | passed first second kept still alike =>
            exact .passed ((onward rest).1.trans first) ((onward rest).2.trans second) kept still
              alike
        | @stopped before after member _ _ _ _ split first second refused rejected kept still
            alike =>
            have split : plan :: rest = (plan :: before) ++ member :: after :=
              congrArg (plan :: ·) split
            exact .stopped split ((onward before).1.trans first) ((onward before).2.trans second)
              refused rejected kept still alike
      · have split : plan :: rest = [] ++ plan :: rest := rfl
        exact .stopped split rfl rfl refused rejected consistent steady alike

/-! A builder and the value that it builds. -/

omit [BEq V] in
theorem keys_given_subset (found : state.cell? plan.property.name = some cell)
    (given : (Source.builder state).given plan = some content) :
    content.keys plan.property.shape ⊆ (Content.ofCell cell).keys plan.property.shape := by
  rcases content_of_given found given with ⟨_, value, _, rfl⟩ | ⟨_, rfl⟩
  · cases plan.property.shape <;> exact List.nil_subset _
  · exact .refl _

theorem distinct_of_given (planned : machine.Planned plans) (mem : plan ∈ plans)
    (lawful : Lawful (within plan)) (consistent : state.Consistent plans)
    (known : state.Within within plans)
    (given : (Source.builder state).given plan = some content) :
    content.Distinct plan.property.shape := by
  obtain ⟨cell, found, suits⟩ := consistent.cells plan mem
  rcases content_of_given found given with ⟨_, value, _, rfl⟩ | ⟨_, rfl⟩
  · rw [Content.Distinct]
    cases plan.property.shape <;> exact .nil
  · exact distinct_ofCell lawful (planned.suits plan mem) suits (known plan mem cell found)

variable [Ord V]

/-- A complete builder has the same of every property as the value that it builds. -/
theorem alike_of_build (planned : machine.Planned plans) (consistent : state.Consistent plans)
    (lawful : ∀ plan ∈ plans, Lawful (within plan))
    (ordered : ∀ plan ∈ plans, plan.property.shape.keepsOrder = false → Ordered (within plan))
    (known : state.Within within plans) {built given : Value V}
    (complete : machine.build state = .ok built) (same : Value.Same machine.builder built given) :
    (Source.builder state).Alike plans (.value given) := by
  intro plan mem
  obtain ⟨content, cell, looked, found, finished⟩ :=
    finished_of_build consistent planned complete mem
  have inside : Emit.fragments plan ∈ machine.builder.fragments :=
    planned.fragments ▸ List.mem_map_of_mem mem
  obtain ⟨left, right, built, there, same⟩ := same.2 _ inside
  obtain rfl : content = left := Option.some.inj (looked.symm.trans built)
  have suits := planned.suits plan mem
  have cellSuits := consistent.suits mem found
  -- both sources show a required property through its getter; all others the value collects
  by_cases required : plan.kind = .required
  · rw [Machine.finished, required] at finished
    cases present : cell.content? with
    | none =>
        rw [present] at finished
        cases finished
    | some value =>
        rw [present] at finished
        cases finished
        refine ⟨.plain value, right, ?_, there, same⟩
        rw [given_builder found, required, present]
        rfl
  · rw [finished_of_kind required] at finished
    cases finished
    have fits := fits_ofCell suits cellSuits.fits required
    have keys := known plan mem cell found
    have distinct := distinct_ofCell (lawful plan mem) suits cellSuits keys
    have collected := Content.same_collect fits distinct fun forgets a here b there =>
      (ordered plan mem forgets).beq_of_eq (keys a here) (keys b there)
    refine ⟨.ofCell cell, right, ?_, there, collected.trans same fits⟩
    rw [given_builder found]
    cases kind : plan.kind <;> first | exact absurd kind required | rfl

/-! What is built after the merges. -/

/-- The source has something for every property, with keys among those of its type. -/
def Source.Fills (within : Plan → V → Prop) (plans : List Plan) (source : Source V) : Prop :=
  ∀ plan ∈ plans, ∃ content, source.given plan = some content ∧
    ∀ key ∈ content.keys plan.property.shape, within plan key

omit [Ord V] in
theorem missing_of_merged (kept : other.Consistent plans) (fills : source.Fills within plans)
    (merged : ∀ plan ∈ plans, machine.Merged source state other plan) :
    other.missing plans = [] := by
  rw [kept.missing_eq_nil_iff]
  intro plan mem required absent
  obtain ⟨content, given, _⟩ := fills plan mem
  have taken := merged plan mem
  rw [Machine.Merged, given] at taken
  obtain ⟨⟨old, new, _, found, _, holds⟩, _⟩ := taken
  obtain rfl : new = .option none := Option.some.inj (found.symm.trans absent)
  rw [Plan.kind_eq_required_iff.1 required] at holds
  cases content <;> first | exact holds.elim | cases holds

omit [Ord V] in
theorem within_of_merged (planned : machine.Planned plans)
    (fits : source.Fits machine.builder plans) (known : state.Within within plans)
    (fills : source.Fills within plans)
    (merged : ∀ plan ∈ plans, machine.Merged source state other plan) :
    other.Within within plans := by
  intro plan mem after found key member
  obtain ⟨content, given, keys⟩ := fills plan mem
  have taken := merged plan mem
  rw [Machine.Merged, given] at taken
  obtain ⟨⟨old, new, before, there, takes⟩, _⟩ := taken
  obtain rfl : new = after := Option.some.inj (there.symm.trans found)
  have subset := takes.keys_subset (planned.suits plan mem) (given_fits planned mem fits given)
  rcases List.mem_append.1 (subset member) with member | member
  · exact known plan mem old before key member
  · exact keys key member

/-- A merge of a source that fills every property leaves nothing to be set. -/
theorem exists_build_of_merged (planned : machine.Planned plans)
    (lawful : ∀ plan ∈ plans, Lawful (within plan))
    (strict : ∀ plan ∈ plans, plan.property.shape.keepsOrder = false → Strict (within plan))
    (fits : source.Fits machine.builder plans) (known : state.Within within plans)
    (fills : source.Fills within plans) {final last : State V} (kept : final.Consistent plans)
    (still : last.Consistent plans) (alike : final.Alike plans last)
    (merged : ∀ plan ∈ plans, machine.Merged source state final plan) :
    ∃ built, machine.build final = .ok built ∧ machine.build last = .ok built := by
  obtain ⟨built, complete⟩ := exists_build kept planned (missing_of_merged kept fills merged)
  have inside := within_of_merged planned fits known fills merged
  exact ⟨built, complete, alike.build planned lawful strict inside kept still complete⟩

/-! Both merges. -/

/-- Two sources come to the same when they are merged into one builder. -/
structure Machine.MergesAgree (machine : Machine V) (plans : List Plan) (state : State V)
    (source rival : Source V) : Prop where
  succeeds : (∃ answer, (machine.merge source state).answer = .ok answer) ↔
    ∃ answer, (machine.merge rival state).answer = .ok answer
  /-- What succeeds leaves builders that build equal values. -/
  builds : ∀ answer reply, (machine.merge source state).answer = .ok answer →
    (machine.merge rival state).answer = .ok reply →
    ∃ built, machine.build (machine.merge source state).state = .ok built ∧
      machine.build (machine.merge rival state).state = .ok built
  /-- What fails passes the same properties, is refused at the same one, and leaves the
  same up to the order that some containers forget. -/
  stops : ∀ error reason, (machine.merge source state).answer = .error error →
    (machine.merge rival state).answer = .error reason →
    ∃ before plan after, plans = before ++ plan :: after ∧
      (machine.mergeAll source (before.map Emit.fragments) state).outcome =
        (.ok .builder, (machine.merge source state).state) ∧
      (machine.mergeAll rival (before.map Emit.fragments) state).outcome =
        (.ok .builder, (machine.merge rival state).state) ∧
      machine.Refuses source plan (machine.merge source state).state error ∧
      machine.Refuses rival plan (machine.merge rival state).state reason ∧
      (machine.merge source state).state.Alike plans (machine.merge rival state).state

theorem mergesAgree (planned : machine.Planned plans) (stateless : machine.Stateless)
    (lawful : ∀ plan ∈ plans, Lawful (within plan))
    (strict : ∀ plan ∈ plans, plan.property.shape.keepsOrder = false → Strict (within plan))
    (proper : source.Proper machine) (sound : rival.Proper machine)
    (sources : source.Alike plans rival) (fills : source.Fills within plans)
    (consistent : state.Consistent plans) (known : state.Within within plans) :
    machine.MergesAgree plans state source rival := by
  have fits := proper.fits planned
  have suits := sound.fits planned
  have every : ∀ plan ∈ plans, plan ∈ plans := fun _ mem => mem
  cases abreast_absorb planned stateless proper sound sources every consistent consistent
    (consistent.alike planned) with
  | passed first second kept still alike =>
      obtain ⟨answer, state'⟩ := outcome_of_absorb planned fits consistent first
      obtain ⟨reply, other'⟩ := outcome_of_absorb planned suits consistent second
      have merged := merged_absorb planned proper every planned.names.of_map consistent first
      refine ⟨?_, ?_, ?_⟩
      · rw [answer, reply]
      · intro _ _ _ _
        rw [state', other']
        exact exists_build_of_merged planned lawful strict fits known fills kept still alike merged
      · intro error _ failed _
        rw [answer] at failed
        cases failed
  | @stopped before after plan final last error reason split first second refused rejected kept
      still alike =>
      have mem : plan ∈ plans := split ▸ List.mem_append_right _ List.mem_cons_self
      have early : ∀ other ∈ before, other ∈ plans := fun other mem =>
        split ▸ List.mem_append_left _ mem
      obtain ⟨answer, state'⟩ := outcome_of_absorb planned fits consistent
        (absorb_eq_error_iff.2 ⟨before, plan, after, split, first, refused⟩)
      obtain ⟨reply, other'⟩ := outcome_of_absorb planned suits consistent
        (absorb_eq_error_iff.2 ⟨before, plan, after, split, second, rejected⟩)
      rw [Except.map] at answer reply
      refine ⟨?_, ?_, ?_⟩
      · rw [answer, reply]
        simp
      · intro _ _ succeeded _
        rw [answer] at succeeded
        cases succeeded
      · intro one two failed also
        obtain rfl := Except.error.inj (answer.symm.trans failed)
        obtain rfl := Except.error.inj (reply.symm.trans also)
        rw [state', other']
        exact ⟨before, plan, after, split,
          (mergeAll_eq_ok_iff planned fits early consistent).2 first,
          (mergeAll_eq_ok_iff planned suits early consistent).2 second,
          (refuses_iff planned kept mem proper).2 refused,
          (refuses_iff planned still mem sound).2 rejected, alike⟩

omit [BEq V] [Ord V] in
/-- A value is one of the listings of it. -/
theorem Value.same_refl (planned : machine.Planned plans) {built : Value V}
    (fits : Value.Fits machine.builder built) : Value.Same machine.builder built built := by
  refine ⟨fits, fun fragments inside => ?_⟩
  rw [planned.fragments] at inside
  obtain ⟨plan, mem, rfl⟩ := List.mem_map.1 inside
  obtain ⟨content, looked, contentFits⟩ := lookup_of_fits planned fits mem
  exact ⟨content, content, looked, looked, Content.same_refl contentFits⟩

/-- It makes no difference whether a complete builder is merged or the value that it
builds, however containers without an order list what they hold. -/
theorem mergesAgree_of_build {blueprint : Blueprint} {library : Library}
    (emitted : machine.Emitted blueprint library) (stateless : machine.Stateless)
    (lawful : ∀ plan ∈ blueprint.plans library, Lawful (within plan))
    (strict : ∀ plan ∈ blueprint.plans library, plan.property.shape.keepsOrder = false →
      Strict (within plan))
    (target : machine.Reachable state) (known : state.Within within (blueprint.plans library))
    (origin : machine.Reachable other) (also : other.Within within (blueprint.plans library))
    {built given : Value V} (complete : machine.build other = .ok built)
    (same : Value.Same machine.builder built given) :
    machine.MergesAgree (blueprint.plans library) state (.builder other) (.value given) := by
  have planned := emitted.planned
  have consistent := origin.consistent planned
  have sources := alike_of_build planned consistent lawful
    (fun plan mem forgets => (strict plan mem forgets).toOrdered) also complete same
  have distinct : Value.Distinct machine.builder given := by
    intro fragments inside content looked
    rw [planned.fragments] at inside
    obtain ⟨plan, mem, rfl⟩ := List.mem_map.1 inside
    obtain ⟨left, right, gave, there, equal⟩ := sources plan mem
    obtain rfl : right = content := Option.some.inj (there.symm.trans looked)
    exact equal.distinct (distinct_of_given planned mem (lawful plan mem) consistent also gave)
  have fills : (Source.builder other).Fills within (blueprint.plans library) := by
    intro plan mem
    obtain ⟨cell, found, _⟩ := consistent.cells plan mem
    obtain ⟨content, _, gave, _, _⟩ := sources plan mem
    exact ⟨content, gave, fun key member =>
      also plan mem cell found key (keys_given_subset found gave member)⟩
  exact mergesAgree planned stateless lawful strict origin ⟨same.1, distinct⟩ sources fills
    (target.consistent planned) known

/-- A tally goes into a new builder in both ways, and in neither into one that has a key of
its table. -/
theorem mergesAgree_tally :
    ∃ filled built, Tally.machine.Reachable filled ∧ Tally.machine.build filled = .ok built ∧
      (Tally.machine.merge (.builder filled) Tally.machine.new).answer.isOk = true ∧
      (Tally.machine.merge (.builder filled) Tally.started).answer.isOk = false ∧
      ∀ target ∈ [Tally.machine.new, Tally.started],
        Tally.machine.MergesAgree (Tally.blueprint.plans .indexMap) target (.builder filled)
          (.value built) := by
  have filled : Tally.machine.Reachable
      (Tally.machine.merge (.value Tally.sample) Tally.machine.new).state :=
    .mergeValue .new (by decide +kernel)
  obtain ⟨built, complete⟩ : ∃ built, Tally.machine.build
      (Tally.machine.merge (.value Tally.sample) Tally.machine.new).state = .ok built :=
    exists_ok_of_isOk (by decide +kernel)
  refine ⟨_, built, filled, complete, by decide +kernel, by decide +kernel, ?_⟩
  intro target mem
  have planned := Tally.emitted.planned
  have reachable : Tally.machine.Reachable target := by
    rcases List.mem_pair.1 mem with rfl | rfl
    · exact .new
    · exact reachable_started
  have stateless : Tally.machine.Stateless := by
    intro name hook known state other values
    cases known
    rfl
  have lawful : Lawful fun _ : Nat => True := .of_equiv
  have strict : Strict fun _ : Nat => True := ⟨.of_trans, fun _ => by simp⟩
  have same := Value.same_refl planned (fits_of_build (filled.consistent planned) planned complete)
  exact mergesAgree_of_build Tally.emitted stateless (fun _ _ => lawful) (fun _ _ _ => strict)
    reachable (fun _ _ _ _ _ _ => trivial) filled (fun _ _ _ _ _ _ => trivial) complete same

end StructBuilder.Run
