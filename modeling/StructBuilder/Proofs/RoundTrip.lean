import StructBuilder.Proofs.Meaning

/-!
Round trips. A value that is taken into a new builder overwrites whatever the builder
begins with, so that what is built from it is the value again, up to the order in
containers that keep none. Only hooks can prevent this.
-/

namespace StructBuilder

/-- Only some containers forget in which order they were filled. -/
def Shape.keepsOrder : Shape → Bool
  | .map order _ _ | .set order _ => order == .insertion
  | _ => true

namespace Run

open Emit (storage)

variable {V : Type}

/-- The same content; containers that keep the order of insertion have it in the same
order. -/
def Content.Same (shape : Shape) (given returned : Content V) : Prop :=
  match shape with
  | .map .sorted _ _ | .map .arbitrary _ _ =>
      ∃ items others, given = .entries items ∧ returned = .entries others ∧ others.Perm items
  | .set .sorted _ | .set .arbitrary _ =>
      ∃ items others, given = .elements items ∧ returned = .elements others ∧ others.Perm items
  | _ => returned = given

/-- Values with the same fields that hold the same. -/
def Value.Same (builder : Emit.Builder) (given returned : Value V) : Prop :=
  Value.Fits builder returned ∧ ∀ fragments ∈ builder.fragments, ∃ left right,
    given.lookup fragments.field = some left ∧ returned.lookup fragments.field = some right ∧
      left.Same fragments.shape right

variable [BEq V]

/-- The hooks accept all that they are asked when the value is taken in, each with the
properties before its own taken in already. -/
def Machine.Accepts (machine : Machine V) (plans : List Plan) (built : Value V) : Prop :=
  ∀ before plan after, plans = before ++ plan :: after →
    ∀ content, built.lookup plan.property.name = some content → ∀ values ∈ content.stored,
      machine.verdict plan.property
        (machine.mergeAll (.value built) (before.map Emit.fragments) machine.new).state values =
          .ok ()

variable [Ord V] {machine : Machine V} {plans : List Plan} {plan : Plan} {state : State V}
  {old cell : Cell V} {content : Content V} {built : Value V}

/-- Collecting loses nothing as long as nothing repeats. -/
theorem Content.same_collect {shape : Shape} (fits : content.Fits shape)
    (distinct : content.Distinct shape)
    (lawful : shape.keepsOrder = false → ∀ a ∈ content.keys shape, ∀ b ∈ content.keys shape,
      compare a b = .eq → (a == b) = true) :
    content.Same shape (content.collect shape) := by
  have compared (forgets : shape.keepsOrder = false) : (content.keys shape).Pairwise
      fun first second => compare second first ≠ .eq := by
    refine distinct.imp_of_mem fun {first second} mem there different same => ?_
    exact absurd (different.2.symm.trans (lawful forgets second there first mem same)) (by simp)
  cases shape with
  | map order key value =>
      cases content with
      | entries items =>
          have different := (List.pairwise_map.1 distinct).imp fun {first second} h => h.2
          cases order with
          | insertion => exact congrArg entries (Order.insertion_entries different)
          | _ =>
              have apart := List.pairwise_map.1 (compared rfl)
              exact ⟨items, _, rfl, rfl, Order.entries_perm different apart⟩
      | _ => exact fits.elim
  | set order element =>
      cases content with
      | elements items =>
          have different := distinct.imp fun {first second} h => h.2
          cases order with
          | insertion => exact congrArg elements (Order.insertion_elements different)
          | _ => exact ⟨items, _, rfl, rfl, Order.elements_perm different (compared rfl)⟩
      | _ => exact fits.elim
  | _ => cases content <;> rfl

omit [BEq V] [Ord V] in
theorem ofCell_eq_entries (holds : cell.HoldsEntries) :
    Content.ofCell cell = .entries cell.entries := by
  cases cell <;> first | rfl | exact holds.elim

omit [BEq V] [Ord V] in
theorem ofCell_eq_elements (holds : cell.HoldsElements) :
    Content.ofCell cell = .elements cell.elements := by
  cases cell <;> first | rfl | exact holds.elim

theorem finished_of_kind (kind : plan.kind ≠ .required) :
    machine.finished plan cell = .ok ((Content.ofCell cell).collect plan.property.shape) := by
  unfold Machine.finished
  cases named : plan.kind <;> first | exact absurd named kind | rfl

/-- What has been merged into an empty cell comes out again. -/
theorem finished_of_takes (suits : plan.strategy.Suits plan.property.shape)
    (fits : content.Fits plan.property.shape) (entries : old.entries = [])
    (elements : old.elements = []) (takes : Cell.Takes plan old content cell) :
    machine.finished plan cell = .ok (content.collect plan.property.shape) := by
  obtain ⟨cellFits, taken⟩ := takes
  obtain ⟨hasDefault, value, strategy, rfl⟩ | ⟨_, given, strategy, rfl⟩ |
    ⟨_, _, items, strategy, rfl⟩ | ⟨_, items, strategy, rfl⟩ | ⟨_, items, strategy, rfl⟩ :=
    cases_of_fits suits fits <;> rw [strategy] at taken <;> dsimp only at taken
  · cases hasDefault with
    | false =>
        unfold Machine.finished
        rw [taken]
        simp [Plan.kind, strategy]
    | true =>
        rw [finished_of_kind (by simp [Plan.kind, strategy])]
        simp only [storage, strategy] at cellFits
        cases cell with
        | plain stored =>
            obtain rfl := Option.some.inj taken
            rfl
        | _ => exact cellFits.elim
  · rw [finished_of_kind (by simp [Plan.kind, strategy])]
    simp only [storage, strategy] at cellFits
    cases cell with
    | option stored =>
        obtain rfl : stored = given := taken
        rfl
    | _ => exact cellFits.elim
  · rw [entries, List.nil_append] at taken
    rw [finished_of_kind (by simp [Plan.kind, strategy]),
      ofCell_eq_entries (Cell.holdsEntries_of_map strategy cellFits), taken]
  · have every : items.filter (fun element => !old.elements.any (old.same · element)) = items := by
      rw [elements]
      simp
    rw [every, elements, List.nil_append] at taken
    rw [finished_of_kind (by simp [Plan.kind, strategy]),
      ofCell_eq_elements (Cell.holdsElements_of_set strategy cellFits), taken]
  · rw [elements, List.nil_append] at taken
    rw [finished_of_kind (by simp [Plan.kind, strategy]),
      ofCell_eq_elements (Cell.holdsElements_of_list strategy cellFits), taken]

/-! A value taken into a new builder. -/

/-- The property holds in the builder what the value has of it. -/
theorem finished_of_merged (planned : machine.Planned plans) (mem : plan ∈ plans)
    (fits : Value.Fits machine.builder built)
    (merged : machine.Merged (.value built) machine.new state plan) :
    ∃ content cell, built.lookup plan.property.name = some content ∧
      content.Fits plan.property.shape ∧ state.cell? plan.property.name = some cell ∧
      machine.finished plan cell = .ok (content.collect plan.property.shape) := by
  obtain ⟨content, found, contentFits⟩ := lookup_of_fits planned fits mem
  have given : (Source.value built).given plan = some content := found
  rw [Machine.Merged, given] at merged
  obtain ⟨⟨old, cell, initial, held, takes⟩, _⟩ := merged
  rw [cell?_new planned mem] at initial
  obtain rfl := Option.some.inj initial
  exact ⟨content, cell, found, contentFits, held,
    finished_of_takes (planned.suits plan mem) contentFits (by simp) (by simp) takes⟩

theorem build_of_merged (planned : machine.Planned plans) (consistent : state.Consistent plans)
    (lawful : ∀ a b : V, compare a b = .eq → (a == b) = true)
    (fits : Value.Fits machine.builder built) (distinct : Value.Distinct machine.builder built)
    (merged : ∀ plan ∈ plans, machine.Merged (.value built) machine.new state plan) :
    ∃ result, machine.build state = .ok result ∧ Value.Same machine.builder built result := by
  have complete : state.missing plans = [] := by
    rw [consistent.missing_eq_nil_iff]
    intro plan mem required absent
    obtain ⟨_, cell, _, _, found, finished⟩ := finished_of_merged planned mem fits (merged plan mem)
    obtain rfl : cell = .option none := Option.some.inj (found.symm.trans absent)
    simp [Machine.finished, required, Cell.content?] at finished
  obtain ⟨result, finished⟩ := exists_build consistent planned complete
  refine ⟨result, finished, fits_of_build consistent planned finished, ?_⟩
  intro fragments known
  rw [planned.fragments] at known
  obtain ⟨plan, mem, rfl⟩ := List.mem_map.1 known
  obtain ⟨right, other, returned, held, became⟩ := finished_of_build consistent planned finished mem
  obtain ⟨left, cell, given, contentFits, found, comes⟩ :=
    finished_of_merged planned mem fits (merged plan mem)
  obtain rfl : other = cell := Option.some.inj (held.symm.trans found)
  obtain rfl : right = left.collect plan.property.shape := Except.ok.inj (became.symm.trans comes)
  have inside : Emit.fragments plan ∈ machine.builder.fragments :=
    planned.fragments ▸ List.mem_map_of_mem mem
  have same := Content.same_collect contentFits (distinct _ inside left given)
    fun _ a _ b _ => lawful a b
  exact ⟨left, _, given, returned, same⟩

omit [Ord V] in
/-- In a new builder only hooks refuse what a value has. -/
theorem verdict_of_refuses (planned : machine.Planned plans) (mem : plan ∈ plans)
    {error : BuilderError} (refuses : machine.Refuses (.value built) plan state error)
    (untouched : machine.Untouched machine.new state plan) :
    ∃ content, built.lookup plan.property.name = some content ∧ ∃ values ∈ content.stored,
      machine.verdict plan.property state values = .error error := by
  obtain ⟨content, cell, earlier, values, later, given, found, items, _, refused⟩ := refuses
  rw [untouched.1, cell?_new planned mem] at found
  obtain rfl := Option.some.inj found
  refine ⟨content, given, values, items ▸ by simp, ?_⟩
  cases verdict : machine.verdict plan.property state values with
  | error other =>
      rw [Machine.itemVerdict.eq_def, verdict] at refused
      exact congrArg Except.error (Except.error.inj refused)
  | ok _ =>
      obtain ⟨_, key, _, _, contained⟩ := shared_of_itemVerdict verdict refused
      simp [Cell.containsKey_eq] at contained

omit [BEq V] [Ord V] in
theorem hook_of_verdict {property : Property} {values : List V} {error : BuilderError}
    (refused : machine.verdict property state values = .error error) :
    property.check = true ∧ ∃ hook, machine.hook? (property.method .check) = some hook ∧
      hook state values = .error error := by
  unfold Machine.verdict at refused
  by_cases checked : property.check = true
  · rw [if_pos checked] at refused
    cases hook : machine.hook? (property.method .check) with
    | none => simp [hook] at refused
    | some check => exact ⟨checked, check, rfl, by simpa [hook] using refused⟩
  · rw [if_neg checked] at refused
    cases refused

/-- What becomes of a value that is taken into a new builder. -/
structure Machine.RoundTrips (machine : Machine V) (plans : List Plan) (built : Value V) :
    Prop where
  /-- It is taken in if the hooks accept all that they are asked. -/
  accepted : machine.Accepts plans built → ∃ answer, (machine.fromValue built).answer = .ok answer
  /-- If it is taken in, the builder builds the same value. -/
  returned : ∀ answer, (machine.fromValue built).answer = .ok answer →
    ∃ result, machine.build (machine.fromValue built).state = .ok result ∧
      Value.Same machine.builder built result
  /-- Otherwise the error is the answer of a hook that was asked about something in it. -/
  refused : ∀ error, (machine.fromValue built).answer = .error error → ∃ plan ∈ plans,
    plan.property.check = true ∧ ∃ hook, machine.hook? (plan.property.method .check) = some hook ∧
      ∃ content, built.lookup plan.property.name = some content ∧ ∃ values ∈ content.stored,
        hook (machine.fromValue built).state values = .error error

theorem roundTrips (planned : machine.Planned plans)
    (lawful : ∀ a b : V, compare a b = .eq → (a == b) = true)
    (fits : Value.Fits machine.builder built) (distinct : Value.Distinct machine.builder built) :
    machine.RoundTrips plans built := by
  have new := State.consistent_new planned
  have proper : (Source.value built).Proper machine := ⟨fits, distinct⟩
  have merges : machine.Merges plans (.value built) machine.new (machine.fromValue built) :=
    merges planned proper new
  refine ⟨?_, ?_, ?_⟩
  · intro accepts
    cases result : (machine.fromValue built).answer with
    | ok answer => exact ⟨answer, rfl⟩
    | error error =>
        obtain ⟨before, plan, after, split, reached, refuses, _, untouched⟩ :=
          merges.stopped error result
        have mem : plan ∈ plans := split ▸ List.mem_append_right _ List.mem_cons_self
        obtain ⟨content, given, values, stored, refused⟩ :=
          verdict_of_refuses planned mem refuses (untouched plan List.mem_cons_self)
        have accepted := accepts before plan after split content given values stored
        have state :
            (machine.mergeAll (.value built) (before.map Emit.fragments) machine.new).state =
              (machine.fromValue built).state := congrArg Prod.snd reached
        rw [state, refused] at accepted
        cases accepted
  · intro answer succeeded
    have consistent : (machine.fromValue built).state.Consistent plans := new.merge planned fits
    exact build_of_merged planned consistent lawful fits distinct (merges.complete answer succeeded)
  · intro error failed
    obtain ⟨before, plan, after, split, _, refuses, _, untouched⟩ := merges.stopped error failed
    have mem : plan ∈ plans := split ▸ List.mem_append_right _ List.mem_cons_self
    obtain ⟨content, given, values, stored, refused⟩ :=
      verdict_of_refuses planned mem refuses (untouched plan List.mem_cons_self)
    obtain ⟨checked, hook, named, answered⟩ := hook_of_verdict refused
    exact ⟨plan, mem, checked, hook, named, content, given, values, stored, answered⟩

/-- A builder made from a value builds the same value, unless a hook refuses it. -/
theorem roundTrips_of_distinct {blueprint : Blueprint} {library : Library}
    (emitted : machine.Emitted blueprint library)
    (lawful : ∀ a b : V, compare a b = .eq → (a == b) = true)
    (fits : Value.Fits machine.builder built) (distinct : Value.Distinct machine.builder built) :
    machine.RoundTrips (blueprint.plans library) built :=
  roundTrips emitted.planned lawful fits distinct

theorem roundTrips_tally_sample :
    Tally.machine.RoundTrips (Tally.blueprint.plans .indexMap) Tally.sample ∧
      ∃ answer, (Tally.machine.fromValue Tally.sample).answer = .ok answer := by
  constructor
  · refine roundTrips_of_distinct Tally.emitted ?_ (by decide +kernel) (by decide +kernel)
    intro a b same
    simpa using same
  · have taken : (Tally.machine.fromValue Tally.sample).answer.isOk = true := by decide +kernel
    cases result : (Tally.machine.fromValue Tally.sample).answer with
    | ok answer => exact ⟨answer, rfl⟩
    | error error => simp [result, Except.isOk, Except.toBool] at taken

end Run
end StructBuilder
