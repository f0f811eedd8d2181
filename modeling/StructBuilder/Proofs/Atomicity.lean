import StructBuilder.Proofs.Meaning

/-!
What failure leaves behind. A method of one property works on its own field and, if the
property is required, on its own marker, and a call that fails has not changed anything.
A merge is made of such calls, but it does not take back those that succeeded before the
one that failed.
-/

namespace StructBuilder.Run

open Emit (methods storage)

variable {V : Type} [BEq V]

/-! Calls. -/

/-- What a call for one property may change. -/
structure Machine.Confined (machine : Machine V) (plan : Plan) (verb : Verb) (state : State V)
    (ran : Ran V) : Prop where
  failed : ∀ error, ran.answer = .error error → ran.state = state
  fields : ran.state.names = state.names
  others : ∀ field, field ≠ plan.property.name → ran.state.cell? field = state.cell? field
  /-- A required property that is set or mapped loses its marker. -/
  marked : ∀ answer, ran.answer = .ok answer → plan.kind = .required → verb = .set ∨ verb = .map →
    ran.state.unset.positions =
      state.unset.positions.filter (· != machine.position plan.property.marker)
  /-- No other call touches the tracker. -/
  tracker : ¬(plan.kind = .required ∧ (verb = .set ∨ verb = .map)) → ran.state.unset = state.unset

variable {machine : Machine V} {plans : List Plan} {plan : Plan} {state final : State V}
  {source : Source V} {content : Content V}

omit [BEq V] in
/-- Required properties have no methods but those that set them. -/
theorem Called.verb_of_required {method : Emit.Method} {verb : Verb}
    {arguments : List (Argument V)} (called : Called plan method verb arguments)
    (required : plan.kind = .required) : verb = .set ∨ verb = .map := by
  have strategy := Plan.kind_eq_required_iff.1 required
  cases called with
  | setValue _ _ | setOptional _ _ => exact .inl rfl
  | mapRequired _ _ | mapDefault _ _ | mapOptional _ _ => exact .inr rfl
  | put other | putAll other | removeEntry other | clearMap other =>
      cases strategy.symm.trans other
  | addToSet other | addAllToSet other | removeFromSet other | clearSet other =>
      cases strategy.symm.trans other
  | addToList other | addAllToList other | removeFromList other | clearList other =>
      cases strategy.symm.trans other

omit [BEq V] in
theorem Unset.positions_remove {unset : Unset} (ascending : unset.positions.Pairwise (· < ·))
    (position : Nat) :
    (unset.remove position).2.positions = unset.positions.filter (· != position) :=
  (Sorted.nodup_of_ascending ascending).erase_eq_filter position

theorem State.Consistent.confined (consistent : state.Consistent plans)
    (planned : machine.Planned plans) (known : plan ∈ plans) {method : Emit.Method}
    (mem : method ∈ methods plan) {verb : Verb} (named : method.name = plan.property.method verb)
    {arguments : List (Argument V)} (accepted : Argument.AcceptedBy method arguments) :
    machine.Confined plan verb state
      (machine.call (Emit.fragments plan) method.name arguments state) := by
  obtain ⟨cell, found, _⟩ := consistent.cells plan known
  have setting (required : plan.kind = .required) : verb = .set ∨ verb = .map :=
    (Called.of_mem mem named accepted).verb_of_required required
  have settles := settles_call (consistent.ready planned known found) mem named accepted
  generalize machine.effect plan state cell verb arguments = effect at settles
  cases settles with
  | refused answer unchanged =>
      refine ⟨fun _ _ => unchanged, by rw [unchanged], fun _ _ => by rw [unchanged], ?_,
        fun _ => by rw [unchanged]⟩
      intro given succeeded
      cases answer.symm.trans succeeded
  | stored answer stored =>
      refine ⟨?_, ?_, ?_, ?_, ?_⟩
      · intro error failed
        cases answer.symm.trans failed
      · rw [stored, names_store]
      · intro field ne
        rw [stored, cell?_store, State.cell?_put_of_ne ne]
      · intro _ _ required _
        rw [stored, unset_store, if_pos required, Unset.positions_remove consistent.ascending]
      · intro other
        rw [stored, unset_store, if_neg fun required => other ⟨required, setting required⟩]

/-- Every call for one property of a builder in use is confined to that property. -/
theorem confined_of_reachable {blueprint : Blueprint} {library : Library}
    (emitted : machine.Emitted blueprint library) (reachable : machine.Reachable state)
    (known : plan ∈ blueprint.plans library) {method : Emit.Method} (mem : method ∈ methods plan)
    {verb : Verb} (named : method.name = plan.property.method verb)
    {arguments : List (Argument V)} (accepted : Argument.AcceptedBy method arguments) :
    machine.Confined plan verb state
      (machine.call (Emit.fragments plan) method.name arguments state) :=
  (reachable.consistent emitted.planned).confined emitted.planned known mem named accepted

theorem exists_tally_putter : ∃ method ∈ methods Tally.table,
    method.name = Tally.table.property.method .put ∧
      Argument.AcceptedBy method [.one 2, .one 5] := by
  decide +kernel

theorem reachable_started : Tally.machine.Reachable Tally.started := by
  obtain ⟨method, mem, named, accepted⟩ := exists_tally_putter
  rw [Tally.started, ← named]
  exact .call .new (List.mem_map_of_mem (Tally.plan_mem _)) mem accepted

theorem confined_tally_put : Tally.machine.Confined Tally.table .put Tally.started
    (Tally.machine.call (Emit.fragments Tally.table) (Tally.table.property.method .put)
      [.one 2, .one 5] Tally.started) := by
  obtain ⟨method, mem, named, accepted⟩ := exists_tally_putter
  rw [← named]
  exact confined_of_reachable Tally.emitted reachable_started (Tally.plan_mem _) mem named accepted

/-! Merges. -/

/-- The source has nothing for the property that is not there already. -/
def Source.Redundant (plan : Plan) (source : Source V) (state : State V) : Prop :=
  ∀ content cell, source.given plan = some content →
    state.cell? plan.property.name = some cell → Cell.Takes plan cell content cell

omit [BEq V] in
theorem Cell.eq_of_fits {storage : Emit.Storage} {cell other : Cell V}
    (same : match storage with
      | .plain _ | .option _ => cell.content? = other.content?
      | .indexMap _ _ | .orderedMap _ _ => cell.entries = other.entries
      | .indexSet _ | .orderedSet _ | .vector _ => cell.elements = other.elements)
    (fits : cell.Fits storage) (fit : other.Fits storage) : cell = other := by
  -- the storage fixes the constructor of both cells, and with it what there is to compare
  cases storage <;> cases cell <;> first | exact fits.elim | skip
  all_goals cases other <;> first | exact fit.elim | skip
  · exact congrArg plain (Option.some.inj same)
  · exact congrArg option same
  · exact congrArg (indexMap ∘ IndexedMap.mk) same
  · exact congrArg (orderedMap ∘ OrderedMap.mk) same
  · exact congrArg (indexSet ∘ IndexedSet.mk) same
  · exact congrArg (orderedSet ∘ OrderedSet.mk) same
  · exact congrArg vector same

theorem Cell.Takes.eq {old new other : Cell V} (first : Takes plan old content new)
    (second : Takes plan old content other) : new = other := by
  obtain ⟨fits, first⟩ := first
  obtain ⟨fit, second⟩ := second
  refine eq_of_fits ?_ fits fit
  unfold storage
  cases strategy : plan.strategy <;> cases content <;> rw [strategy] at first second <;>
    first | exact first.elim | skip
  · rename_i hasDefault _
    cases hasDefault <;> exact first.trans second.symm
  · exact first.trans second.symm
  · cases plan.features.library <;> exact first.trans second.symm
  · cases plan.features.library <;> exact first.trans second.symm
  · exact first.trans second.symm

theorem State.Consistent.eq_of_cell? (consistent : state.Consistent plans)
    (other : final.Consistent plans) (planned : machine.Planned plans)
    (cells : ∀ plan ∈ plans, final.cell? plan.property.name = state.cell? plan.property.name) :
    final = state := by
  apply State.eq_of_cell? (other.names.trans consistent.names.symm) (other.distinct planned)
  · intro field
    by_cases known : field ∈ plans.map (·.property.name)
    · obtain ⟨plan, mem, rfl⟩ := List.mem_map.1 known
      exact cells plan mem
    · rw [State.cell?_eq_none (other.names ▸ known), State.cell?_eq_none (consistent.names ▸ known)]
  -- a marker is there exactly if the cell of its property has no content
  · have positions : final.unset.positions = state.unset.positions := by
      refine Sorted.eq_of_ascending other.ascending consistent.ascending fun position => ?_
      rw [other.tracked, consistent.tracked]
      refine exists_congr fun plan => and_congr_right fun here => ?_
      rw [cells plan (List.mem_of_getElem? here)]
    exact congrArg Unset.mk positions

/-- What is merged leaves the property as it was only if it was redundant. -/
theorem Machine.Merged.redundant (merged : machine.Merged source state state plan) :
    source.Redundant plan state := by
  intro content cell given found
  rw [Machine.Merged, given] at merged
  obtain ⟨⟨old, new, before, after, takes⟩, _⟩ := merged
  obtain rfl : old = cell := Option.some.inj (before.symm.trans found)
  obtain rfl : new = old := Option.some.inj (after.symm.trans before)
  exact takes

theorem Machine.Merged.cell?_of_redundant (merged : machine.Merged source state final plan)
    (redundant : source.Redundant plan state) :
    final.cell? plan.property.name = state.cell? plan.property.name := by
  unfold Machine.Merged at merged
  cases given : source.given plan with
  | none =>
      rw [given] at merged
      exact merged.2.1
  | some content =>
      rw [given] at merged
      obtain ⟨⟨old, new, before, after, takes⟩, _⟩ := merged
      obtain rfl : new = old := takes.eq (redundant content old given before)
      exact after.trans before.symm

/-- A failed merge leaves the builder as it was if and only if all that it merged before
the refusal was there already. -/
theorem unchanged_merge_iff {blueprint : Blueprint} {library : Library}
    (emitted : machine.Emitted blueprint library) (proper : source.Proper machine)
    (reachable : machine.Reachable state) {error : BuilderError}
    (failed : (machine.merge source state).answer = .error error) :
    ∃ before plan after, blueprint.plans library = before ++ plan :: after ∧
      machine.Refuses source plan (machine.merge source state).state error ∧
      ((machine.merge source state).state = state ↔
        ∀ earlier ∈ before, source.Redundant earlier state) := by
  have planned := emitted.planned
  have consistent := reachable.consistent planned
  obtain ⟨before, plan, after, split, _, refuses, merged, untouched⟩ :=
    (merges planned proper consistent).stopped error failed
  have final := consistent.merge planned (proper.fits planned)
  refine ⟨before, plan, after, split, refuses, ?_, ?_⟩
  · intro unchanged earlier mem
    have merged := merged earlier mem
    rw [unchanged] at merged
    exact merged.redundant
  · intro redundant
    refine consistent.eq_of_cell? final planned fun other known => ?_
    rcases List.mem_append.1 (split ▸ known) with mem | mem
    · exact (merged other mem).cell?_of_redundant (redundant other mem)
    · exact (untouched other mem).1

theorem proper_tally_sample : (Source.value Tally.sample).Proper Tally.machine :=
  ⟨by decide +kernel, by decide +kernel⟩

theorem merge_started_fails :
    ∃ error, (Tally.machine.merge (.value Tally.sample) Tally.started).answer = .error error :=
  exists_error_of_isOk (by decide +kernel)

theorem unchanged_merge_started_iff :
    ∃ error before plan after, Tally.blueprint.plans .indexMap = before ++ plan :: after ∧
      Tally.machine.Refuses (.value Tally.sample) plan
        (Tally.machine.merge (.value Tally.sample) Tally.started).state error ∧
      ((Tally.machine.merge (.value Tally.sample) Tally.started).state = Tally.started ↔
        ∀ earlier ∈ before, (Source.value Tally.sample).Redundant earlier Tally.started) := by
  obtain ⟨error, failed⟩ := merge_started_fails
  exact ⟨error, unchanged_merge_iff Tally.emitted proper_tally_sample reachable_started failed⟩

/-- The key in the table stops a merge that has set the total before. -/
theorem merge_sets_total_and_fails :
    ∃ (source : Source Nat) (state : State Nat), source.Proper Tally.machine ∧
      Tally.machine.Reachable state ∧
      (∃ error, (Tally.machine.merge source state).answer = .error error) ∧
      state.content? "total" = none ∧ state.unset.positions = [0] ∧
      (Tally.machine.merge source state).state.content? "total" = some 7 ∧
      (Tally.machine.merge source state).state.unset.positions = [] :=
  ⟨.value Tally.sample, Tally.started, proper_tally_sample, reachable_started,
    merge_started_fails, by decide +kernel, by decide +kernel, by decide +kernel,
    by decide +kernel⟩

end StructBuilder.Run
