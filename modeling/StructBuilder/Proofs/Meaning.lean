import StructBuilder.Proofs.Reachable
import StructBuilder.Proofs.Refusal
import StructBuilder.Samples.Tally

/-!
The meaning of a merge, property by property. Whatever is merged is merged exactly, the
first refusal ends it, and from there on nothing has been touched. None of this depends
on the hooks, which see the properties before theirs merged and all others as they were.
-/

namespace StructBuilder.Run

open Emit (storage)

variable {V : Type}

/-- What a container of this shape holds at most once; lists may repeat everything. -/
def Content.keys (shape : Shape) (content : Content V) : List V :=
  match shape, content with
  | .map _ _ _, .entries items => items.map (·.1)
  | .set _ _, .elements items => items
  | _, _ => []

/-- No two keys or elements are equal, whichever side they are compared on. -/
def Content.Distinct [BEq V] (shape : Shape) (content : Content V) : Prop :=
  (content.keys shape).Pairwise fun first second =>
    (first == second) = false ∧ (second == first) = false

instance [BEq V] (shape : Shape) (content : Content V) : Decidable (content.Distinct shape) :=
  inferInstanceAs (Decidable ((content.keys shape).Pairwise _))

def Value.Distinct [BEq V] (builder : Emit.Builder) (built : Value V) : Prop :=
  ∀ fragments ∈ builder.fragments, ∀ content ∈ built.lookup fragments.field,
    content.Distinct fragments.shape

instance [BEq V] (builder : Emit.Builder) (built : Value V) :
    Decidable (Value.Distinct builder built) :=
  inferInstanceAs (Decidable (∀ fragments ∈ _, _))

/-- Sources as they come about: values of the right type, and builders in use. -/
def Source.Proper [BEq V] (machine : Machine V) : Source V → Prop
  | .value built => Value.Fits machine.builder built ∧ Value.Distinct machine.builder built
  | .builder state => machine.Reachable state

/-- A required property that is unset in a builder. -/
def Source.Lacks (plan : Plan) : Source V → Prop
  | .value _ => False
  | .builder state => plan.kind = .required ∧ state.content? plan.property.name = none

/-- The property has its content and its marker as before. -/
def Machine.Untouched (machine : Machine V) (before after : State V) (plan : Plan) : Prop :=
  after.cell? plan.property.name = before.cell? plan.property.name ∧
    after.unset.contains (machine.position plan.property.marker) =
      before.unset.contains (machine.position plan.property.marker)

/-- What a cell is after some content has been merged into it. -/
def Cell.Takes [BEq V] (plan : Plan) (old : Cell V) (content : Content V) (new : Cell V) : Prop :=
  new.Fits (storage plan) ∧
    match plan.strategy, content with
    | .scalar _, .plain value => new.content? = some value
    | .optional _, .optional given => new.content? = given
    | .map _ _, .entries items => new.entries = old.entries ++ items
    | .set _, .elements items =>
        new.elements = old.elements ++
          items.filter fun element => !old.elements.any (old.same · element)
    | .list _, .elements items => new.elements = old.elements ++ items
    | _, _ => False

/-- The property has taken in what the source has of it, and is marked as set. -/
def Machine.Merged [BEq V] (machine : Machine V) (source : Source V) (before after : State V)
    (plan : Plan) : Prop :=
  match source.given plan with
  | none => source.Lacks plan ∧ machine.Untouched before after plan
  | some content =>
      (∃ old new, before.cell? plan.property.name = some old ∧
        after.cell? plan.property.name = some new ∧ Cell.Takes plan old content new) ∧
      after.unset.contains (machine.position plan.property.marker) = false

/-- The property is refused, for the first thing that is not accepted. -/
def Machine.Refuses [BEq V] (machine : Machine V) (source : Source V) (plan : Plan)
    (state : State V) (error : BuilderError) : Prop :=
  ∃ content cell earlier values later, source.given plan = some content ∧
    state.cell? plan.property.name = some cell ∧
    content.stored = earlier ++ values :: later ∧
    (∀ other ∈ earlier, machine.itemVerdict plan state cell other = .ok ()) ∧
    machine.itemVerdict plan state cell values = .error error

variable [BEq V] {machine : Machine V} {plans : List Plan} {plan : Plan}
  {state middle final : State V} {cell other : Cell V} {source : Source V} {content : Content V}

theorem Source.Proper.fits (planned : machine.Planned plans) (proper : source.Proper machine) :
    source.Fits machine.builder plans := by
  cases source with
  | value built => exact proper.1
  | builder other => exact Machine.Reachable.consistent planned proper

/-! What a source gives repeats nothing. -/

theorem Cell.same_eq_false (cell : Cell V) {first second : V}
    (apart : (first == second) = false ∧ (second == first) = false) :
    cell.same first second = false := by
  cases cell <;> first | exact apart.1 | exact apart.2 | rfl

theorem same_of_list {element : Ty} (strategy : plan.strategy = .list element)
    (fits : cell.Fits (storage plan)) (first second : V) : cell.same first second = false := by
  unfold storage at fits
  cases cell <;> simp_all [Cell.Fits, Cell.same]

theorem apart_of_distinct (suits : plan.strategy.Suits plan.property.shape)
    (fits : content.Fits plan.property.shape) (cellFits : cell.Fits (storage plan))
    (distinct : content.Distinct plan.property.shape) : content.Apart cell := by
  obtain ⟨_, _, strategy, rfl⟩ | ⟨_, _, strategy, rfl⟩ | ⟨_, _, items, strategy, rfl⟩ |
    ⟨_, items, strategy, rfl⟩ | ⟨_, items, strategy, rfl⟩ := cases_of_fits suits fits
  · trivial
  · trivial
  · rw [strategy] at suits
    cases shape : plan.property.shape <;> rw [shape] at suits distinct <;>
      first
        | exact suits.elim
        | exact (List.pairwise_map.1 distinct).imp fun apart => cell.same_eq_false apart
  · rw [strategy] at suits
    cases shape : plan.property.shape <;> rw [shape] at suits distinct <;>
      first
        | exact suits.elim
        | exact distinct.imp fun apart => cell.same_eq_false apart
  · exact List.pairwise_of_forall fun _ _ => same_of_list strategy cellFits _ _

theorem apart_ofCell (fits : cell.Fits (storage plan)) (suits : other.Suits plan) :
    (Content.ofCell other).Apart cell := by
  have same := Cell.same_eq_of_fits fits suits.fits
  have entries := suits.distinct.entries
  have elements := suits.distinct.elements
  rw [← same] at entries elements
  cases other <;> first | exact entries | exact elements | trivial

theorem given_apart (planned : machine.Planned plans) (mem : plan ∈ plans)
    (proper : source.Proper machine) (fits : cell.Fits (storage plan))
    (given : source.given plan = some content) : content.Apart cell := by
  cases source with
  | value built =>
      have known : Emit.fragments plan ∈ machine.builder.fragments :=
        planned.fragments ▸ List.mem_map_of_mem mem
      exact apart_of_distinct (planned.suits plan mem)
        (given_fits planned mem (proper.fits planned) given) fits (proper.2 _ known content given)
  | builder other =>
      obtain ⟨cell, found, suits⟩ := State.Consistent.cells (proper.fits planned) plan mem
      rcases content_of_given found given with ⟨_, value, _, rfl⟩ | ⟨_, rfl⟩
      · trivial
      · exact apart_ofCell fits suits

/-- Only what is required and unset in a builder is not given. -/
theorem lacks_of_given (planned : machine.Planned plans) (mem : plan ∈ plans)
    (proper : source.Proper machine) (nothing : source.given plan = none) : source.Lacks plan := by
  cases source with
  | value built =>
      obtain ⟨content, found, _⟩ := lookup_of_fits planned proper.1 mem
      exact absurd (found.symm.trans nothing) (by simp)
  | builder other =>
      obtain ⟨cell, found, suits⟩ := State.Consistent.cells (proper.fits planned) plan mem
      rw [given_builder found] at nothing
      cases kind : plan.kind with
      | required =>
          rw [kind] at nothing
          refine ⟨kind, ?_⟩
          rw [State.content?, found]
          exact Option.map_eq_none_iff.1 nothing
      | _ =>
          rw [kind] at nothing
          cases nothing

/-! One property. -/

theorem takes_take (suits : plan.strategy.Suits plan.property.shape)
    (fits : content.Fits plan.property.shape) (cellFits : cell.Fits (storage plan))
    (apart : content.Apart cell)
    (admitted : machine.contentVerdict plan state cell content = .ok ())
    (change : machine.Change plan state cell (cell.take content)) :
    Cell.Takes plan cell content (cell.take content) := by
  refine ⟨change.fits cellFits, ?_⟩
  obtain ⟨hasDefault, _, strategy, rfl⟩ | ⟨_, _, strategy, rfl⟩ | ⟨_, _, items, strategy, rfl⟩ |
    ⟨_, items, strategy, rfl⟩ | ⟨_, items, strategy, rfl⟩ := cases_of_fits suits fits <;>
    rw [strategy]
  · unfold storage at cellFits
    cases hasDefault <;> cases cell <;>
      simp_all [Cell.Fits, Cell.take, Cell.assign, Cell.content?]
  · unfold storage at cellFits
    cases cell <;> simp_all [Cell.Fits, Cell.take, Cell.assign, Cell.content?]
  · obtain ⟨fresh, apart⟩ := Machine.fresh_of_entriesVerdict strategy cellFits admitted
    exact Cell.entries_extendEntries (Cell.holdsEntries_of_map strategy cellFits) fresh apart
  · have holds := Cell.holdsElements_of_set strategy cellFits
    exact (Cell.elements_extendElements holds items).trans (Cell.addAbsent_eq_filter apart _)
  · have holds := Cell.holdsElements_of_list strategy cellFits
    have every : ∀ element ∈ items, (!cell.elements.any (cell.same · element)) = true := by
      intro element _
      simp [same_of_list strategy cellFits]
    refine (Cell.elements_extendElements holds items).trans ?_
    rw [Cell.addAbsent_eq_filter apart, List.filter_eq_self.2 every]

omit [BEq V] in
theorem Machine.Untouched.refl : machine.Untouched state state plan :=
  ⟨rfl, rfl⟩

omit [BEq V] in
theorem Machine.Untouched.trans (first : machine.Untouched state middle plan)
    (second : machine.Untouched middle final plan) : machine.Untouched state final plan :=
  ⟨second.1.trans first.1, second.2.trans first.2⟩

theorem Machine.Merged.of_before (merged : machine.Merged source middle final plan)
    (untouched : machine.Untouched state middle plan) :
    machine.Merged source state final plan := by
  unfold Machine.Merged at merged ⊢
  cases given : source.given plan with
  | none =>
      rw [given] at merged
      exact ⟨merged.1, untouched.trans merged.2⟩
  | some content =>
      rw [given] at merged
      obtain ⟨⟨old, new, before, takes⟩, marked⟩ := merged
      exact ⟨⟨old, new, untouched.1.symm.trans before, takes⟩, marked⟩

theorem Machine.Merged.of_after (merged : machine.Merged source state middle plan)
    (untouched : machine.Untouched middle final plan) :
    machine.Merged source state final plan := by
  unfold Machine.Merged at merged ⊢
  cases given : source.given plan with
  | none =>
      rw [given] at merged
      exact ⟨merged.1, merged.2.trans untouched⟩
  | some content =>
      rw [given] at merged
      obtain ⟨⟨old, new, before, after, takes⟩, marked⟩ := merged
      exact ⟨⟨old, new, before, untouched.1.trans after, takes⟩, untouched.2.trans marked⟩

theorem untouched_store (planned : machine.Planned plans) (consistent : state.Consistent plans)
    (mem : plan ∈ plans) {other : Plan} (others : other ∈ plans) (ne : other ≠ plan)
    (cell : Cell V) : machine.Untouched state (machine.store plan cell state) other := by
  constructor
  · rw [cell?_store]
    exact State.cell?_put_of_ne (fun same => ne (planned.eq_of_name others mem same)) cell state
  · rw [Unset.contains_eq, Unset.contains_eq, decide_eq_decide,
      mem_unset_store _ _ _ consistent.ascending]
    refine and_iff_right fun _ same => ne ?_
    obtain ⟨position, there⟩ := List.mem_iff_getElem?.1 mem
    exact planned.eq_of_position others there (same.trans (planned.position there))

theorem contains_store (planned : machine.Planned plans) (consistent : state.Consistent plans)
    (mem : plan ∈ plans) (cell : Cell V) :
    (machine.store plan cell state).unset.contains (machine.position plan.property.marker) =
      false := by
  rw [Unset.contains_eq, decide_eq_false_iff_not, mem_unset_store _ _ _ consistent.ascending]
  rintro ⟨away, there⟩
  obtain ⟨position, here⟩ := List.mem_iff_getElem?.1 mem
  rw [planned.position here, consistent.tracked] at there
  obtain ⟨tracked, same, required, _⟩ := there
  obtain rfl : plan = tracked := Option.some.inj (here.symm.trans same)
  exact away required rfl

/-- Taking in one property touches no other. -/
theorem Machine.Intake.untouched (planned : machine.Planned plans)
    (consistent : state.Consistent plans) (mem : plan ∈ plans)
    (intake : machine.Intake source plan state (.ok final)) :
    ∀ other ∈ plans, other ≠ plan → machine.Untouched state final other := by
  cases intake with
  | nothing _ => exact fun _ _ _ => .refl
  | taken _ _ _ _ _ =>
      exact fun other others ne => untouched_store planned consistent mem others ne _

theorem Machine.Intake.merged (planned : machine.Planned plans)
    (consistent : state.Consistent plans) (mem : plan ∈ plans) (proper : source.Proper machine)
    (intake : machine.Intake source plan state (.ok final)) :
    machine.Merged source state final plan := by
  cases intake with
  | nothing given =>
      rw [Machine.Merged, given]
      exact ⟨lacks_of_given planned mem proper given, .refl⟩
  | @taken content cell given found admitted change present =>
      have fits := (consistent.suits mem found).fits
      have apart := given_apart planned mem proper fits given
      have contentFits := given_fits planned mem (proper.fits planned) given
      rw [Machine.Merged, given]
      refine ⟨⟨cell, cell.take content, found, ?_, ?_⟩, contains_store planned consistent mem _⟩
      · rw [cell?_store]
        exact State.cell?_put_same found _
      · exact takes_take (planned.suits plan mem) contentFits fits apart admitted change

/-- One property is refused as a whole for the first thing that is not accepted. -/
theorem refuses_iff (planned : machine.Planned plans) (consistent : state.Consistent plans)
    (mem : plan ∈ plans) (proper : source.Proper machine) {error : BuilderError} :
    machine.Refuses source plan state error ↔ machine.takeIn source plan state = .error error := by
  obtain ⟨cell, found, suits⟩ := consistent.cells plan mem
  rw [Machine.takeIn, found]
  cases given : source.given plan with
  | none =>
      refine ⟨?_, fun failed => by cases failed⟩
      rintro ⟨content, _, _, _, _, same, _⟩
      exact absurd (given.symm.trans same) (by simp)
  | some content =>
      have whole : machine.contentVerdict plan state cell content =
          forM content.stored (machine.itemVerdict plan state cell) :=
        contentVerdict_eq_forM (planned.suits plan mem)
          (given_fits planned mem (proper.fits planned) given) suits.fits
          (given_apart planned mem proper suits.fits given)
      have failed : (machine.contentVerdict plan state cell content).map
          (fun _ => machine.store plan (cell.take content) state) = .error error ↔
            machine.contentVerdict plan state cell content = .error error := by
        cases machine.contentVerdict plan state cell content <;> simp [Except.map]
      dsimp only
      rw [failed, whole, forM_eq_error_iff]
      constructor
      · rintro ⟨gave, held, earlier, values, later, same, there, items, passed, refused⟩
        obtain rfl : content = gave := Option.some.inj (given.symm.trans same)
        obtain rfl : cell = held := Option.some.inj (found.symm.trans there)
        exact ⟨earlier, values, later, items, passed, refused⟩
      · rintro ⟨earlier, values, later, items, passed, refused⟩
        exact ⟨content, cell, earlier, values, later, given, found, items, passed, refused⟩

/-! Whole merges. -/

theorem absorb_append (before after : List Plan) :
    machine.absorb source (before ++ after) state =
      match machine.absorb source before state with
      | (.ok _, middle) => machine.absorb source after middle
      | (.error error, middle) => (.error error, middle) := by
  induction before generalizing state with
  | nil => rfl
  | cons plan rest ih =>
      rw [List.cons_append, Machine.absorb, Machine.absorb]
      cases machine.takeIn source plan state with
      | error error => rfl
      | ok next => exact ih

/-- A merge ends with the first property that is refused. -/
theorem absorb_eq_error_iff {part : List Plan} {error : BuilderError} :
    machine.absorb source part state = (.error error, final) ↔
      ∃ before plan after, part = before ++ plan :: after ∧
        machine.absorb source before state = (.ok (), final) ∧
        machine.takeIn source plan final = .error error := by
  constructor
  · intro failed
    induction part generalizing state with
    | nil => cases failed
    | cons first rest ih =>
        rw [Machine.absorb] at failed
        cases result : machine.takeIn source first state with
        | error other =>
            rw [result] at failed
            cases failed
            exact ⟨[], first, rest, rfl, rfl, result⟩
        | ok next =>
            rw [result] at failed
            obtain ⟨before, plan, after, rfl, passed, refused⟩ := ih failed
            refine ⟨first :: before, plan, after, rfl, ?_, refused⟩
            rw [Machine.absorb, result]
            exact passed
  · rintro ⟨before, plan, after, rfl, passed, refused⟩
    rw [absorb_append, passed]
    dsimp only
    rw [Machine.absorb, refused]

/-- A merge of some properties touches no others. -/
theorem untouched_absorb (planned : machine.Planned plans)
    (fits : source.Fits machine.builder plans) {part : List Plan}
    (known : ∀ plan ∈ part, plan ∈ plans) (consistent : state.Consistent plans)
    (mem : plan ∈ plans) (away : plan ∉ part) :
    machine.Untouched state (machine.absorb source part state).2 plan := by
  induction part generalizing state with
  | nil => exact .refl
  | cons first rest ih =>
      obtain ⟨here, later⟩ := List.forall_mem_cons.1 known
      obtain ⟨ne, away⟩ := not_or.1 (mt List.mem_cons.2 away)
      have intake := intake_takeIn planned here fits consistent
      rw [Machine.absorb]
      cases result : machine.takeIn source first state with
      | error error => exact .refl
      | ok next =>
          rw [result] at intake
          have kept := intake.consistent planned here consistent
          have untouched := intake.untouched planned consistent here plan mem ne
          exact untouched.trans (ih later kept away)

/-- A merge that is not refused merges every property. -/
theorem merged_absorb (planned : machine.Planned plans) (proper : source.Proper machine)
    {part : List Plan} (known : ∀ plan ∈ part, plan ∈ plans) (distinct : part.Nodup)
    (consistent : state.Consistent plans)
    (passed : machine.absorb source part state = (.ok (), final)) :
    ∀ plan ∈ part, machine.Merged source state final plan := by
  induction part generalizing state with
  | nil => exact fun _ mem => absurd mem List.not_mem_nil
  | cons first rest ih =>
      obtain ⟨here, later⟩ := List.forall_mem_cons.1 known
      obtain ⟨away, distinct⟩ := List.nodup_cons.1 distinct
      have intake := intake_takeIn planned here (proper.fits planned) consistent
      rw [Machine.absorb] at passed
      cases result : machine.takeIn source first state with
      | error error =>
          rw [result] at passed
          cases passed
      | ok next =>
          rw [result] at intake passed
          have kept := intake.consistent planned here consistent
          have merged := intake.merged planned consistent here proper
          have untouched := intake.untouched planned consistent here
          have others := untouched_absorb planned (proper.fits planned) later kept here away
          dsimp only at passed
          rw [passed] at others
          refine List.forall_mem_cons.2 ⟨merged.of_after others, ?_⟩
          intro plan mem
          have ne : plan ≠ first := fun same => away (same ▸ mem)
          have same := untouched plan (later plan mem) ne
          exact (ih later distinct kept passed plan mem).of_before same

/-- A merge that is not refused takes in every property, and finds it as it was. -/
theorem exists_takeIn_of_absorb (planned : machine.Planned plans) (proper : source.Proper machine)
    (consistent : state.Consistent plans) (mem : plan ∈ plans)
    (passed : machine.absorb source plans state = (.ok (), final)) :
    ∃ middle next, middle.Consistent plans ∧ machine.Untouched state middle plan ∧
      machine.takeIn source plan middle = .ok next := by
  obtain ⟨before, after, split⟩ := List.append_of_mem mem
  have distinct : (before ++ plan :: after).Nodup := split ▸ planned.names.of_map
  have away : plan ∉ before := fun early =>
    (List.nodup_append.1 distinct).2.2 plan early plan List.mem_cons_self rfl
  have known : ∀ other ∈ before, other ∈ plans := fun other early =>
    split ▸ List.mem_append_left _ early
  have untouched := untouched_absorb planned (proper.fits planned) known consistent mem away
  have kept := absorb_consistent planned (proper.fits planned) known consistent
  rw [split, absorb_append] at passed
  generalize machine.absorb source before state = reached at passed untouched kept
  obtain ⟨result, middle⟩ := reached
  cases result with
  | error error => cases passed
  | ok _ =>
      dsimp only at passed
      rw [Machine.absorb] at passed
      cases result : machine.takeIn source plan middle with
      | error error =>
          rw [result] at passed
          cases passed
      | ok next => exact ⟨middle, next, kept, untouched, result⟩

omit [BEq V] in
theorem exists_map_of_fits (suits : plan.strategy.Suits plan.property.shape)
    {items : List (V × V)} (fits : (Content.entries items).Fits plan.property.shape) :
    ∃ key value, plan.strategy = .map key value := by
  obtain ⟨_, _, _, same⟩ | ⟨_, _, _, same⟩ | ⟨key, value, _, strategy, _⟩ | ⟨_, _, _, same⟩ |
    ⟨_, _, _, same⟩ := cases_of_fits suits fits
  · cases same
  · cases same
  · exact ⟨key, value, strategy⟩
  · cases same
  · cases same

/-- A map does not take in a key that it has. -/
theorem absorb_of_shared (planned : machine.Planned plans) (proper : source.Proper machine)
    (consistent : state.Consistent plans) (mem : plan ∈ plans) {items : List (V × V)}
    (given : source.given plan = some (.entries items))
    (found : state.cell? plan.property.name = some cell)
    (shared : ∃ entry ∈ items, cell.containsKey entry.1 = true) :
    machine.absorb source plans state ≠ (.ok (), final) := by
  intro passed
  obtain ⟨middle, next, kept, untouched, taken⟩ :=
    exists_takeIn_of_absorb planned proper consistent mem passed
  have fits := proper.fits planned
  have intake := intake_takeIn planned mem fits kept
  rw [taken] at intake
  cases intake with
  | nothing absent => exact absurd (given.symm.trans absent) (by simp)
  | @taken content old gave held admitted change present =>
      obtain rfl : .entries items = content := Option.some.inj (given.symm.trans gave)
      obtain rfl : old = cell := Option.some.inj (held.symm.trans (untouched.1.trans found))
      obtain ⟨key, value, strategy⟩ := exists_map_of_fits (planned.suits plan mem)
        (given_fits planned mem fits given)
      obtain ⟨fresh, _⟩ :=
        Machine.fresh_of_entriesVerdict strategy (kept.suits mem held).fits admitted
      obtain ⟨entry, inside, contained⟩ := shared
      exact absurd (contained.symm.trans (fresh entry inside)) (by simp)

theorem shared_of_itemVerdict {values : List V} {error : BuilderError}
    (accepted : machine.verdict plan.property state values = .ok ())
    (refused : machine.itemVerdict plan state cell values = .error error) :
    (∃ key value, plan.strategy = .map key value) ∧
      ∃ key rest, values = key :: rest ∧ cell.containsKey key = true := by
  rw [Machine.itemVerdict.eq_def, accepted] at refused
  cases strategy : plan.strategy with
  | map key value =>
      rw [strategy] at refused
      refine ⟨⟨key, value, rfl⟩, ?_⟩
      cases values with
      | nil => cases refused
      | cons key rest =>
          refine ⟨key, rest, rfl, ?_⟩
          by_contra absent
          simp [absent, bind, Except.bind] at refused
  | _ =>
      rw [strategy] at refused
      cases refused

theorem shared_of_refuses (planned : machine.Planned plans) (mem : plan ∈ plans)
    (fits : source.Fits machine.builder plans)
    (accepts : ∀ values, machine.verdict plan.property state values = .ok ())
    {error : BuilderError} (refuses : machine.Refuses source plan state error) :
    ∃ items cell, source.given plan = some (.entries items) ∧
      state.cell? plan.property.name = some cell ∧
      ∃ entry ∈ items, cell.containsKey entry.1 = true := by
  obtain ⟨content, cell, earlier, values, later, given, found, items, _, refused⟩ := refuses
  obtain ⟨⟨_, _, strategy⟩, key, rest, rfl, contained⟩ :=
    shared_of_itemVerdict (accepts values) refused
  have stored : key :: rest ∈ content.stored := items ▸ by simp
  have suits := planned.suits plan mem
  obtain ⟨_, _, named, _⟩ | ⟨_, _, named, _⟩ | ⟨_, _, entries, _, rfl⟩ | ⟨_, _, named, _⟩ |
    ⟨_, _, named, _⟩ := cases_of_fits suits (given_fits planned mem fits given)
  · cases strategy.symm.trans named
  · cases strategy.symm.trans named
  · obtain ⟨entry, inside, same⟩ := List.mem_map.1 stored
    cases same
    exact ⟨entries, cell, given, found, entry, inside, contained⟩
  · cases strategy.symm.trans named
  · cases strategy.symm.trans named

/-! What a merge amounts to. -/

/-- The meaning of a merge into a state. -/
structure Machine.Merges (machine : Machine V) (plans : List Plan) (source : Source V)
    (state : State V) (ran : Ran V) : Prop where
  /-- Unless something is refused, every property is merged. -/
  complete : ∀ answer, ran.answer = .ok answer →
    ∀ plan ∈ plans, machine.Merged source state ran.state plan
  /-- Otherwise all properties before the refused one are merged, it and all after it are
  untouched, and the error is the refusal. -/
  stopped : ∀ error, ran.answer = .error error → ∃ before plan after,
    plans = before ++ plan :: after ∧
    (machine.mergeAll source (before.map Emit.fragments) state).outcome =
      (.ok .builder, ran.state) ∧
    machine.Refuses source plan ran.state error ∧
    (∀ earlier ∈ before, machine.Merged source state ran.state earlier) ∧
    ∀ later ∈ plan :: after, machine.Untouched state ran.state later
  /-- The first refusal ends the merge. -/
  stops : ∀ before plan after middle error, plans = before ++ plan :: after →
    (machine.mergeAll source (before.map Emit.fragments) state).outcome = (.ok .builder, middle) →
    machine.Refuses source plan middle error → ran.outcome = (.error error, middle)
  /-- Hooks that accept everything leave only keys to be refused that the target has. -/
  unhooked : (∀ plan ∈ plans, ∀ state values, machine.verdict plan.property state values = .ok ()) →
    ((∃ error, ran.answer = .error error) ↔ ∃ plan ∈ plans, ∃ items cell,
      source.given plan = some (.entries items) ∧
      state.cell? plan.property.name = some cell ∧
      ∃ entry ∈ items, cell.containsKey entry.1 = true)

theorem mergeAll_eq_ok_iff (planned : machine.Planned plans)
    (fits : source.Fits machine.builder plans) {part : List Plan}
    (known : ∀ plan ∈ part, plan ∈ plans) (consistent : state.Consistent plans) :
    (machine.mergeAll source (part.map Emit.fragments) state).outcome = (.ok .builder, final) ↔
      machine.absorb source part state = (.ok (), final) := by
  rw [outcome_mergeAll planned fits known consistent]
  obtain ⟨result, after⟩ := machine.absorb source part state
  cases result <;> simp [Except.map]

theorem outcome_of_absorb (planned : machine.Planned plans)
    (fits : source.Fits machine.builder plans) (consistent : state.Consistent plans)
    {result : Except BuilderError Unit}
    (h : machine.absorb source plans state = (result, final)) :
    (machine.merge source state).answer = result.map (fun _ => .builder) ∧
      (machine.merge source state).state = final := by
  have outcome := outcome_merge_eq planned fits consistent
  rw [h] at outcome
  exact Prod.mk.inj outcome

theorem exists_split_of_error (planned : machine.Planned plans) (proper : source.Proper machine)
    (consistent : state.Consistent plans) {error : BuilderError}
    (failed : machine.absorb source plans state = (.error error, final)) :
    ∃ before plan after, plans = before ++ plan :: after ∧
      machine.absorb source before state = (.ok (), final) ∧
      machine.Refuses source plan final error ∧
      (∀ earlier ∈ before, machine.Merged source state final earlier) ∧
      ∀ later ∈ plan :: after, machine.Untouched state final later := by
  obtain ⟨before, plan, after, split, passed, refused⟩ := absorb_eq_error_iff.1 failed
  have early : ∀ other ∈ before, other ∈ plans := fun other mem =>
    split ▸ List.mem_append_left _ mem
  have late : ∀ other ∈ plan :: after, other ∈ plans := fun other mem =>
    split ▸ List.mem_append_right _ mem
  have distinct : (before ++ plan :: after).Nodup := split ▸ planned.names.of_map
  obtain ⟨alone, _, apart⟩ := List.nodup_append.1 distinct
  have reached : (machine.absorb source before state).2 = final := by rw [passed]
  have kept := absorb_consistent planned (proper.fits planned) early consistent
  rw [reached] at kept
  refine ⟨before, plan, after, split, passed, ?_, ?_, ?_⟩
  · exact (refuses_iff planned kept (late plan List.mem_cons_self) proper).2 refused
  · exact merged_absorb planned proper early alone consistent passed
  · intro later mem
    have away : later ∉ before := fun twice => apart later twice later mem rfl
    exact reached ▸ untouched_absorb planned (proper.fits planned) early consistent (late later mem) away

theorem merges (planned : machine.Planned plans) (proper : source.Proper machine)
    (consistent : state.Consistent plans) :
    machine.Merges plans source state (machine.merge source state) := by
  have fits := proper.fits planned
  have known {before after : List Plan} {plan : Plan} (split : plans = before ++ plan :: after) :
      ∀ other ∈ before, other ∈ plans := fun other mem => split ▸ List.mem_append_left _ mem
  rcases reached : machine.absorb source plans state with ⟨result, final⟩
  obtain ⟨answer, after⟩ := outcome_of_absorb planned fits consistent reached
  refine ⟨?_, ?_, ?_, ?_⟩
  · intro given succeeded
    cases result with
    | error error =>
        rw [answer] at succeeded
        cases succeeded
    | ok _ =>
        rw [after]
        exact merged_absorb planned proper (fun _ mem => mem) planned.names.of_map consistent
          reached
  · intro error failed
    rw [answer] at failed
    obtain rfl : result = .error error := by
      cases result with
      | error other => exact congrArg Except.error (Except.error.inj failed)
      | ok _ => cases failed
    obtain ⟨before, plan, rest, split, passed, more⟩ :=
      exists_split_of_error planned proper consistent reached
    rw [after]
    exact ⟨before, plan, rest, split,
      (mergeAll_eq_ok_iff planned fits (known split) consistent).2 passed, more⟩
  · intro before plan rest middle error split passed refused
    have passed := (mergeAll_eq_ok_iff planned fits (known split) consistent).1 passed
    have kept := absorb_consistent planned fits (known split) consistent
    rw [passed] at kept
    have mem : plan ∈ plans := split ▸ List.mem_append_right _ List.mem_cons_self
    have refused := (refuses_iff planned kept mem proper).1 refused
    have stopped : machine.absorb source plans state = (.error error, middle) :=
      absorb_eq_error_iff.2 ⟨before, plan, rest, split, passed, refused⟩
    obtain ⟨answer, after⟩ := outcome_of_absorb planned fits consistent stopped
    exact Prod.ext answer after
  · intro accepts
    constructor
    · rintro ⟨error, failed⟩
      rw [answer] at failed
      cases result with
      | ok _ => cases failed
      | error other =>
          obtain ⟨before, plan, rest, split, _, refuses, _, untouched⟩ :=
            exists_split_of_error planned proper consistent reached
          have mem : plan ∈ plans := split ▸ List.mem_append_right _ List.mem_cons_self
          obtain ⟨items, cell, given, found, shared⟩ :=
            shared_of_refuses planned mem fits (accepts plan mem _) refuses
          exact ⟨plan, mem, items, cell, given,
            (untouched plan List.mem_cons_self).1.symm.trans found, shared⟩
    · rintro ⟨plan, mem, items, cell, given, found, shared⟩
      cases result with
      | ok _ =>
          exact absurd reached
            (absorb_of_shared planned proper consistent mem given found shared)
      | error error => exact ⟨error, answer⟩

/-- A merge into a builder in use, from a value or from another one, means the merge of
every property in turn up to the first that is refused. -/
theorem merges_of_reachable {blueprint : Blueprint} {library : Library}
    (emitted : machine.Emitted blueprint library) (proper : source.Proper machine)
    (reachable : machine.Reachable state) :
    machine.Merges (blueprint.plans library) source state (machine.merge source state) :=
  merges emitted.planned proper (reachable.consistent emitted.planned)

theorem merges_tally_twice :
    Tally.machine.Merges (Tally.blueprint.plans .indexMap) (.value Tally.sample)
      (Tally.machine.merge (.value Tally.sample) Tally.machine.new).state
      (Tally.machine.merge (.value Tally.sample)
        (Tally.machine.merge (.value Tally.sample) Tally.machine.new).state) :=
  merges_of_reachable Tally.emitted ⟨by decide +kernel, by decide +kernel⟩
    (.mergeValue .new (by decide +kernel))

end StructBuilder.Run
