import StructBuilder.Proofs.Atomicity
import StructBuilder.Proofs.Review
import StructBuilder.Samples.Varied

/-!
A merge that is repeated. After a merge that was not refused, everything but the entries of
maps is there already: a value is the one that is set, and every element is the same as one
that is in the set. So a second merge of the same source changes nothing, and comes to its
end unless the source has an entry, whose key is then refused.
-/

namespace StructBuilder.Run

open Emit (storage)

variable {V : Type} [BEq V] {machine : Machine V} {plans : List Plan} {plan : Plan}
  {state middle final : State V} {cell : Cell V} {source : Source V} {content : Content V}

/-- The source has no entries for any of these properties. -/
def Source.Entryless (plans : List Plan) (source : Source V) : Prop :=
  ∀ plan ∈ plans, ∀ items, source.given plan = some (.entries items) → items = []

/-- Keys and elements of the source are equal to themselves. -/
def Source.Reflexive (plans : List Plan) (source : Source V) : Prop :=
  ∀ plan ∈ plans, ∀ content, source.given plan = some content →
    ∀ key ∈ content.keys plan.property.shape, (key == key) = true

/-- What comes of a merge into a state that has the source merged already: nothing changes, and
the merge fails for the first key of the first map that the source has entries for. -/
structure Machine.MergesAgain (machine : Machine V) (plans : List Plan) (source : Source V)
    (state : State V) (ran : Ran V) : Prop where
  unchanged : ran.state = state
  idle : source.Entryless plans → ran.answer = .ok .builder
  refused : ∀ before plan after key value rest, plans = before ++ plan :: after →
    source.Entryless before → source.given plan = some (.entries ((key, value) :: rest)) →
      ran.answer = .error (.duplicateKey plan.property.baseName (machine.debug key))
  decided : source.Entryless plans ∨ ∃ before plan after key value rest,
    plans = before ++ plan :: after ∧ source.Entryless before ∧
      source.given plan = some (.entries ((key, value) :: rest))

/-! One property. -/

/-- In maps and sets, what is equal to itself is the same as itself. -/
theorem same_self (keyed : (∃ key value, plan.strategy = .map key value) ∨
      ∃ element, plan.strategy = .set element) (fits : cell.Fits (storage plan)) {key : V}
    (reflexive : (key == key) = true) : cell.same key key = true := by
  unfold storage at fits
  rcases keyed with ⟨_, _, strategy⟩ | ⟨_, strategy⟩ <;>
    cases library : plan.features.library <;> cases cell <;> simp_all [Cell.Fits, Cell.same]

omit [BEq V] in
theorem keys_of_map (suits : plan.strategy.Suits plan.property.shape) {key value : Ty}
    (strategy : plan.strategy = .map key value) (items : List (V × V)) :
    (Content.entries items).keys plan.property.shape = items.map (·.1) := by
  rw [strategy] at suits
  cases shape : plan.property.shape <;> rw [shape] at suits <;> first | exact suits.elim | rfl

omit [BEq V] in
theorem keys_of_set (suits : plan.strategy.Suits plan.property.shape) {element : Ty}
    (strategy : plan.strategy = .set element) (items : List V) :
    (Content.elements items).keys plan.property.shape = items := by
  rw [strategy] at suits
  cases shape : plan.property.shape <;> rw [shape] at suits <;> first | exact suits.elim | rfl

/-- Elements that went into a set are there, as they are or as others that are the same. -/
theorem redundant_of_merged (merged : machine.Merged source state final plan)
    (suits : plan.strategy.Suits plan.property.shape) (mem : plan ∈ plans)
    (consistent : state.Consistent plans) (reflexive : source.Reflexive plans)
    (listless : ∀ element, plan.strategy ≠ .list element)
    (empty : ∀ items, source.given plan = some (.entries items) → items = []) :
    source.Redundant plan final := by
  intro content cell given found
  rw [Machine.Merged, given] at merged
  obtain ⟨⟨old, new, before, after, fits, takes⟩, _⟩ := merged
  obtain rfl : new = cell := Option.some.inj (after.symm.trans found)
  refine ⟨fits, ?_⟩
  cases strategy : plan.strategy <;> cases content <;> rw [strategy] at takes <;>
    first | exact takes.elim | skip
  · exact takes
  · exact takes
  · rename_i items
    obtain rfl := empty items given
    exact (List.append_nil _).symm
  · rename_i element items
    have same := Cell.same_eq_of_fits (consistent.suits mem before).fits fits
    have known : ∀ item ∈ items, new.elements.any (new.same · item) = true := by
      intro item inside
      have itself : new.same item item = true := by
        refine same_self (.inr ⟨element, strategy⟩) fits (reflexive plan mem _ given item ?_)
        rwa [keys_of_set suits strategy]
      rw [List.any_eq_true, takes]
      cases present : old.elements.any (old.same · item) with
      | true =>
          obtain ⟨equal, there, alike⟩ := List.any_eq_true.1 present
          exact ⟨equal, List.mem_append_left _ there, same ▸ alike⟩
      | false =>
          have added : item ∈ items.filter fun element => !old.elements.any (old.same · element) :=
            List.mem_filter.2 ⟨inside, by rw [present]; rfl⟩
          exact ⟨item, List.mem_append_right _ added, itself⟩
    have nothing : (items.filter fun item => !new.elements.any (new.same · item)) = [] :=
      List.filter_eq_nil_iff.2 fun item inside => by simp [known item inside]
    dsimp only
    rw [nothing, List.append_nil]
  · exact absurd strategy (listless _)

/-- What was accepted once is accepted again, apart from entries. -/
theorem contentVerdict_again (impartial : machine.Impartial plan.property) {old new : Cell V}
    (accepted : machine.contentVerdict plan middle old content = .ok ())
    (empty : ∀ items, content = .entries items → items = []) :
    machine.contentVerdict plan final new content = .ok () := by
  have again {batch : List (List V)}
      (passed : machine.verdicts plan.property middle batch = .ok ()) :
      machine.verdicts plan.property final batch = .ok () :=
    Machine.verdicts_eq_ok_iff.2 fun values mem =>
      (impartial final middle values).trans (Machine.verdicts_eq_ok_iff.1 passed values mem)
  cases content with
  | plain value => exact again accepted
  | optional given => exact again accepted
  | entries items =>
      obtain rfl := empty items rfl
      rfl
  | elements items => exact again accepted

/-- The hook has nothing against the first entry this time either, but its key is there. -/
theorem contentVerdict_of_shared (impartial : machine.Impartial plan.property) {keyTy valueTy : Ty}
    (strategy : plan.strategy = .map keyTy valueTy) {old new : Cell V} {key value : V}
    {rest : List (V × V)}
    (accepted : machine.contentVerdict plan middle old (.entries ((key, value) :: rest)) = .ok ())
    (present : new.containsKey key = true) :
    machine.contentVerdict plan final new (.entries ((key, value) :: rest)) =
      .error (.duplicateKey plan.property.baseName (machine.debug key)) := by
  have staged := Cell.fits_ofStorage_of_map (V := V) strategy
  have all := ((Machine.entriesVerdict_eq_ok_iff (Cell.holdsEntries_of_map strategy staged)).1
    accepted).1
  have passed : machine.verdict plan.property final [key, value] = .ok () :=
    (impartial final middle _).trans (all (key, value) List.mem_cons_self)
  rw [Machine.contentVerdict, Machine.entriesVerdict, passed, Machine.keyVerdict, present]
  rfl

/-- Taking in what is redundant changes nothing. -/
theorem eq_of_redundant (planned : machine.Planned plans) (mem : plan ∈ plans)
    (consistent : state.Consistent plans) (proper : source.Proper machine)
    (redundant : source.Redundant plan state)
    (taken : machine.takeIn source plan state = .ok final) : final = state := by
  have intake := intake_takeIn planned mem (proper.fits planned) consistent
  rw [taken] at intake
  have merged := intake.merged planned consistent mem proper
  refine consistent.eq_of_cell? (intake.consistent planned mem consistent) planned ?_
  intro other known
  by_cases same : other = plan
  · subst same
    exact merged.cell?_of_redundant redundant
  · exact (intake.untouched planned consistent mem other known same).1

/-- What was taken in once and is redundant now is taken in again, and nothing changes. -/
theorem takeIn_of_redundant (planned : machine.Planned plans) (mem : plan ∈ plans)
    (impartial : machine.Impartial plan.property) (proper : source.Proper machine)
    (kept : final.Consistent plans) (redundant : source.Redundant plan final)
    (empty : ∀ items, source.given plan = some (.entries items) → items = [])
    (intake : machine.Intake source plan middle (.ok state)) :
    machine.takeIn source plan final = .ok final := by
  obtain ⟨cell, found, -⟩ := kept.cells plan mem
  have again : ∃ after, machine.takeIn source plan final = .ok after := by
    rw [Machine.takeIn, found]
    cases intake with
    | nothing absent =>
        rw [absent]
        exact ⟨_, rfl⟩
    | taken given held admitted =>
        rw [given]
        dsimp only
        rw [contentVerdict_again impartial admitted fun items same => ?_]
        · exact ⟨_, rfl⟩
        · exact empty items (same ▸ given)
  obtain ⟨after, again⟩ := again
  rw [again, eq_of_redundant planned mem kept proper redundant again]

/-- Entries that were taken in once are refused where the first key is. -/
theorem takeIn_of_present (impartial : machine.Impartial plan.property) {keyTy valueTy : Ty}
    (strategy : plan.strategy = .map keyTy valueTy) {key value : V} {rest : List (V × V)}
    (given : source.given plan = some (.entries ((key, value) :: rest)))
    (found : final.cell? plan.property.name = some cell) (present : cell.containsKey key = true)
    (intake : machine.Intake source plan middle (.ok state)) :
    machine.takeIn source plan final =
      .error (.duplicateKey plan.property.baseName (machine.debug key)) := by
  rw [Machine.takeIn, given, found]
  dsimp only
  cases intake with
  | nothing absent => cases given.symm.trans absent
  | taken gave held admitted =>
      obtain rfl := Option.some.inj (given.symm.trans gave)
      rw [contentVerdict_of_shared impartial strategy admitted present]
      rfl

/-- The keys of entries that were merged are there. -/
theorem containsKey_of_merged (merged : machine.Merged source state final plan) {keyTy valueTy : Ty}
    (strategy : plan.strategy = .map keyTy valueTy) {key value : V} {rest : List (V × V)}
    (given : source.given plan = some (.entries ((key, value) :: rest)))
    (reflexive : (key == key) = true) (found : final.cell? plan.property.name = some cell) :
    cell.containsKey key = true := by
  rw [Machine.Merged, given] at merged
  obtain ⟨⟨old, new, _, after, fits, takes⟩, _⟩ := merged
  obtain rfl : new = cell := Option.some.inj (after.symm.trans found)
  rw [strategy] at takes
  have itself : new.same key key = true :=
    same_self (.inl ⟨keyTy, valueTy, strategy⟩) fits reflexive
  rw [Cell.containsKey_eq, List.any_eq_true]
  exact ⟨(key, value), takes ▸ List.mem_append_right _ List.mem_cons_self, itself⟩

/-- How one property is merged again. -/
structure Machine.TakesAgain (machine : Machine V) (source : Source V) (state : State V)
    (plan : Plan) : Prop where
  idle : (∀ items, source.given plan = some (.entries items) → items = []) →
    machine.takeIn source plan state = .ok state
  refused : ∀ key value rest, source.given plan = some (.entries ((key, value) :: rest)) →
    machine.takeIn source plan state =
      .error (.duplicateKey plan.property.baseName (machine.debug key))

theorem takesAgain_of_absorb (planned : machine.Planned plans)
    (impartial : ∀ plan ∈ plans, machine.Impartial plan.property)
    (listless : ∀ plan ∈ plans, ∀ element, plan.strategy ≠ .list element)
    (proper : source.Proper machine) (reflexive : source.Reflexive plans)
    (consistent : state.Consistent plans)
    (passed : machine.absorb source plans state = (.ok (), final)) :
    ∀ plan ∈ plans, machine.TakesAgain source final plan := by
  intro plan mem
  have fits := proper.fits planned
  have suits := planned.suits plan mem
  have kept : final.Consistent plans := by
    have after := absorb_consistent planned fits (fun _ known => known) consistent
    rwa [passed] at after
  have merged := merged_absorb planned proper (fun _ known => known) planned.names.of_map
    consistent passed plan mem
  obtain ⟨middle, next, between, _, taken⟩ :=
    exists_takeIn_of_absorb planned proper consistent mem passed
  have intake := intake_takeIn planned mem fits between
  rw [taken] at intake
  constructor
  case idle =>
    intro empty
    have redundant := redundant_of_merged merged suits mem consistent reflexive
      (listless plan mem) empty
    exact takeIn_of_redundant planned mem (impartial plan mem) proper kept redundant empty intake
  case refused =>
    intro key value rest given
    obtain ⟨keyTy, valueTy, strategy⟩ := exists_map_of_fits suits
      (given_fits planned mem fits given)
    obtain ⟨cell, found, -⟩ := kept.cells plan mem
    have itself : (key == key) = true := by
      refine reflexive plan mem _ given key ?_
      rw [keys_of_map suits strategy]
      exact List.mem_cons_self
    have present := containsKey_of_merged merged strategy given itself found
    exact takeIn_of_present (impartial plan mem) strategy given found present intake

/-! Whole merges. -/

theorem absorb_of_fixed {part : List Plan}
    (fixed : ∀ plan ∈ part, machine.takeIn source plan state = .ok state) :
    machine.absorb source part state = (.ok (), state) := by
  induction part with
  | nil => rfl
  | cons plan rest ih =>
      obtain ⟨here, later⟩ := List.forall_mem_cons.1 fixed
      rw [Machine.absorb, here]
      exact ih later

omit [BEq V] in
/-- A source has no entries at all, or there is a first property that it has entries for. -/
theorem entryless_or_exists (source : Source V) (plans : List Plan) :
    source.Entryless plans ∨ ∃ before plan after key value rest,
      plans = before ++ plan :: after ∧ source.Entryless before ∧
        source.given plan = some (.entries ((key, value) :: rest)) := by
  induction plans with
  | nil => exact .inl fun plan mem => absurd mem List.not_mem_nil
  | cons plan rest ih =>
      by_cases empty : ∀ items, source.given plan = some (.entries items) → items = []
      · rcases ih with all | ⟨before, first, after, key, value, more, rfl, none, given⟩
        · exact .inl (List.forall_mem_cons.2 ⟨empty, all⟩)
        · exact .inr ⟨plan :: before, first, after, key, value, more, rfl,
            List.forall_mem_cons.2 ⟨empty, none⟩, given⟩
      · push Not at empty
        obtain ⟨items, given, filled⟩ := empty
        obtain ⟨⟨key, value⟩, more, rfl⟩ := List.exists_cons_of_ne_nil filled
        exact .inr ⟨[], plan, rest, key, value, more, rfl,
          fun _ mem => absurd mem List.not_mem_nil, given⟩

theorem absorb_of_isOk (planned : machine.Planned plans) (fits : source.Fits machine.builder plans)
    (consistent : state.Consistent plans)
    (succeeded : (machine.merge source state).answer.isOk = true) :
    machine.absorb source plans state = (.ok (), (machine.merge source state).state) := by
  rcases reached : machine.absorb source plans state with ⟨result, after⟩
  obtain ⟨answer, final⟩ := outcome_of_absorb planned fits consistent reached
  rw [final]
  cases result with
  | ok _ => rfl
  | error error =>
      rw [answer] at succeeded
      cases succeeded

theorem mergesAgain_of_takesAgain (planned : machine.Planned plans)
    (fits : source.Fits machine.builder plans) (consistent : state.Consistent plans)
    (again : ∀ plan ∈ plans, machine.TakesAgain source state plan) :
    machine.MergesAgain plans source state (machine.merge source state) := by
  have idle (empty : source.Entryless plans) :
      machine.absorb source plans state = (.ok (), state) :=
    absorb_of_fixed fun plan mem => (again plan mem).idle (empty plan mem)
  have refused {before after : List Plan} {plan : Plan} {key value : V} {rest : List (V × V)}
      (split : plans = before ++ plan :: after) (empty : source.Entryless before)
      (given : source.given plan = some (.entries ((key, value) :: rest))) :
      machine.absorb source plans state =
        (.error (.duplicateKey plan.property.baseName (machine.debug key)), state) := by
    have early : ∀ other ∈ before, other ∈ plans := fun other mem =>
      split ▸ List.mem_append_left _ mem
    have here : plan ∈ plans := split ▸ List.mem_append_right _ List.mem_cons_self
    exact absorb_eq_error_iff.2 ⟨before, plan, after, split,
      absorb_of_fixed fun other mem => (again other (early other mem)).idle (empty other mem),
      (again plan here).refused key value rest given⟩
  have decided := entryless_or_exists source plans
  refine ⟨?_, fun empty => ?_, ?_, decided⟩
  · rcases decided with empty | ⟨before, plan, after, key, value, rest, split, empty, given⟩
    · exact (outcome_of_absorb planned fits consistent (idle empty)).2
    · exact (outcome_of_absorb planned fits consistent (refused split empty given)).2
  · exact (outcome_of_absorb planned fits consistent (idle empty)).1
  · intro before plan after key value rest split empty given
    exact (outcome_of_absorb planned fits consistent (refused split empty given)).1

/-- After a merge that was not refused, the same merge changes nothing, and is refused if the
source has an entry. -/
theorem mergesAgain_of_reachable {blueprint : Blueprint} {library : Library}
    (emitted : machine.Emitted blueprint library)
    (impartial : ∀ plan ∈ blueprint.plans library, machine.Impartial plan.property)
    (listless : ∀ plan ∈ blueprint.plans library, ∀ element, plan.strategy ≠ .list element)
    (proper : source.Proper machine) (reflexive : source.Reflexive (blueprint.plans library))
    (reachable : machine.Reachable state)
    (succeeded : (machine.merge source state).answer.isOk = true) :
    machine.MergesAgain (blueprint.plans library) source (machine.merge source state).state
      (machine.merge source (machine.merge source state).state) := by
  have planned := emitted.planned
  have fits := proper.fits planned
  have consistent := reachable.consistent planned
  have passed := absorb_of_isOk planned fits consistent succeeded
  exact mergesAgain_of_takesAgain planned fits (consistent.merge planned fits)
    (takesAgain_of_absorb planned impartial listless proper reflexive consistent passed)

/-- A value for a tally without its list, with these entries in the table. -/
def tabled (entries : List (Nat × Nat)) : Source Nat :=
  .value [("total", .plain 7), ("note", .optional (some 3)), ("table", .entries entries),
    ("seen", .elements [4, 6])]

/-- Without entries, the same value can be merged again, and with some it cannot. -/
theorem mergesAgain_tabled :
    let machine := Tally.variedMachine Tally.listless
    let plans := (Tally.variedBlueprint Tally.listless).plans .indexMap
    ∀ entries ∈ [[], [(2, 5), (1, 3)]],
      let merged := (machine.merge (tabled entries) machine.new).state
      (machine.merge (tabled entries) merged).answer.isOk = entries.isEmpty ∧
        machine.MergesAgain plans (tabled entries) merged
          (machine.merge (tabled entries) merged) := by
  have none : ∀ plan ∈ (Tally.variedBlueprint Tally.listless).plans .indexMap,
      ∀ element, plan.strategy ≠ .list element := by
    have lists : ∀ plan ∈ (Tally.variedBlueprint Tally.listless).plans .indexMap,
        (match plan.strategy with | .list _ => true | _ => false) = false := by
      decide +kernel
    intro plan mem element strategy
    have other := lists plan mem
    rw [strategy] at other
    cases other
  have proper : ∀ entries ∈ [[], [(2, 5), (1, 3)]],
      (tabled entries).Proper (Tally.variedMachine Tally.listless) := by
    intro entries mem
    rcases List.mem_pair.1 mem with rfl | rfl <;>
      exact ⟨by decide +kernel, by decide +kernel⟩
  have runs : ∀ entries ∈ [[], [(2, 5), (1, 3)]],
      let machine := Tally.variedMachine Tally.listless
      let merged := machine.merge (tabled entries) machine.new
      merged.answer.isOk = true ∧
        (machine.merge (tabled entries) merged.state).answer.isOk = entries.isEmpty := by
    decide +kernel
  intro machine plans entries mem merged
  obtain ⟨succeeded, again⟩ := runs entries mem
  exact ⟨again, mergesAgain_of_reachable Tally.emitted_listless (fun _ _ _ _ _ => rfl) none
    (proper entries mem) (fun _ _ _ _ _ _ => beq_self_eq_true _) .new succeeded⟩

end StructBuilder.Run
