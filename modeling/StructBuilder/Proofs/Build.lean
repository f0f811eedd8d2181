import StructBuilder.Proofs.Merge

/-!
Built values. A builder that nothing is missing in builds, every field from its own cell,
and what it reports otherwise are the names of all that is missing.
-/

namespace StructBuilder

/-! Collecting into containers of the declared kind. -/

namespace Order

variable {V : Type} [BEq V] [Ord V]

theorem insertion_entries {items : List (V × V)}
    (distinct : items.Pairwise fun first second => (second.1 == first.1) = false) :
    insertion.entries items = items := by
  have holds : (Run.Cell.indexMap (.empty : IndexedMap V V)).HoldsEntries := trivial
  exact Run.Cell.entries_extendEntries holds (fun _ _ => rfl) distinct

theorem insertion_elements_eq (items : List V) :
    insertion.elements items =
      Run.Cell.addAbsent (fun stored sought => sought == stored) [] items := by
  have holds : (Run.Cell.indexSet (.empty : IndexedSet V)).HoldsElements := trivial
  exact Run.Cell.elements_extendElements holds items

theorem mem_of_mem_entries {order : Order} {items : List (V × V)}
    (distinct : items.Pairwise fun first second => (second.1 == first.1) = false)
    {entry : V × V} (mem : entry ∈ order.entries items) : entry ∈ items := by
  cases order with
  | insertion => rwa [insertion_entries distinct] at mem
  | _ => exact Sorted.mem_of_mem_ofList mem

theorem mem_of_mem_elements {order : Order} {items : List V} {element : V}
    (mem : element ∈ order.elements items) : element ∈ items := by
  cases order with
  | insertion =>
      rw [insertion_elements_eq] at mem
      exact (Run.Cell.mem_addAbsent mem).resolve_left List.not_mem_nil
  | _ => exact Sorted.mem_of_mem_ofList mem

theorem insertion_elements {items : List V}
    (distinct : items.Pairwise fun first second => (second == first) = false) :
    insertion.elements items = items := by
  rw [insertion_elements_eq, Run.Cell.addAbsent_eq_filter distinct]
  simp

/-- Nothing is lost when entries with different keys are collected. -/
theorem entries_perm {order : Order} {items : List (V × V)}
    (distinct : items.Pairwise fun first second => (second.1 == first.1) = false)
    (apart : items.Pairwise fun first second => compare second.1 first.1 ≠ .eq) :
    (order.entries items).Perm items := by
  cases order with
  | insertion => rw [insertion_entries distinct]
  | _ => exact Sorted.ofList_perm apart

theorem elements_perm {order : Order} {items : List V}
    (distinct : items.Pairwise fun first second => (second == first) = false)
    (apart : items.Pairwise fun first second => compare second first ≠ .eq) :
    (order.elements items).Perm items := by
  cases order with
  | insertion => rw [insertion_elements distinct]
  | _ => exact Sorted.ofList_perm apart

end Order

namespace Run

open Emit (methods storage)

variable {V : Type} [BEq V] {machine : Machine V} {plans : List Plan} {plan : Plan}
  {state : State V} {cell : Cell V}

/-! What is missing. -/

/-- The property must be set and is not. -/
def State.lacks (state : State V) (plan : Plan) : Bool :=
  plan.kind == .required && (state.content? plan.property.name).isNone

/-- What errors call the missing properties, in declaration order. -/
def State.missing (plans : List Plan) (state : State V) : List String :=
  (plans.filter state.lacks).map (·.property.baseName)

omit [BEq V] in
theorem State.lacks_eq (found : state.cell? plan.property.name = some cell) :
    state.lacks plan = (plan.kind == .required && cell.content?.isNone) := by
  rw [State.lacks, State.content?, found, Option.bind_some]

theorem State.Consistent.lacks_iff (consistent : state.Consistent plans) (mem : plan ∈ plans) :
    state.lacks plan = true ↔
      plan.kind = .required ∧ state.cell? plan.property.name = some (.option none) := by
  obtain ⟨cell, found, suits⟩ := consistent.cells plan mem
  rw [State.lacks_eq found, found, Bool.and_eq_true, beq_iff_eq, Option.isNone_iff_eq_none]
  refine and_congr_right fun required => ?_
  have option := option_of_required required suits.fits
  constructor
  · intro absent
    rw [option, absent]
  · intro absent
    rw [Option.some.inj absent]
    rfl

/-- The tracker lists the positions of what is missing. -/
theorem State.Consistent.positions_eq (consistent : state.Consistent plans) :
    state.unset.positions =
      (plans.zipIdx.filter fun entry => state.lacks entry.1).map (·.2) := by
  apply Sorted.eq_of_ascending consistent.ascending
  · have ascending : (plans.zipIdx.map (·.2)).Pairwise (· < ·) := by
      rw [List.zipIdx_map_snd]
      exact List.pairwise_lt_range'
    exact ascending.sublist (List.filter_sublist.map _)
  · intro position
    rw [consistent.tracked]
    simp only [List.mem_map, List.mem_filter, Prod.exists, exists_eq_right,
      List.mem_zipIdx_iff_getElem?]
    refine exists_congr fun plan => and_congr_right fun here => ?_
    exact (consistent.lacks_iff (List.mem_of_getElem? here)).symm

theorem State.Consistent.names_unset (consistent : state.Consistent plans)
    (planned : machine.Planned plans) :
    state.unset.names machine.nameAt = state.missing plans := by
  rw [Unset.names, consistent.positions_eq, List.map_map, State.missing]
  have named : ∀ entry ∈ plans.zipIdx.filter (fun entry => state.lacks entry.1),
      (machine.nameAt ∘ (·.2)) entry = entry.1.property.baseName := by
    intro entry mem
    exact planned.nameAt (List.mem_zipIdx_iff_getElem?.1 (List.mem_of_mem_filter mem))
  rw [List.map_congr_left named]
  conv_rhs => rw [← List.zipIdx_map_fst 0 plans, List.filter_map, List.map_map]
  rfl

theorem State.Consistent.ensureComplete_eq (consistent : state.Consistent plans)
    (planned : machine.Planned plans) :
    state.unset.ensureComplete machine.typeName machine.nameAt =
      if state.missing plans = [] then .ok ()
      else .error (.incomplete machine.typeName (state.missing plans)) := by
  have names := consistent.names_unset planned
  have empty : state.unset.isEmpty = true ↔ state.missing plans = [] := by
    rw [← names, Unset.names, List.map_eq_nil_iff, Unset.isEmpty, List.isEmpty_iff]
  rw [Unset.ensureComplete, names]
  by_cases complete : state.missing plans = []
  · rw [if_pos complete, if_pos (empty.2 complete)]
  · rw [if_neg complete, if_neg (mt empty.1 complete)]

theorem State.Consistent.missing_eq_nil_iff (consistent : state.Consistent plans) :
    state.missing plans = [] ↔ ∀ plan ∈ plans, plan.kind = .required →
      state.cell? plan.property.name ≠ some (.option none) := by
  rw [State.missing, List.map_eq_nil_iff, List.filter_eq_nil_iff]
  refine forall₂_congr fun plan mem => ?_
  rw [consistent.lacks_iff mem, not_and]

/-! Building. -/

variable [Ord V]

namespace Content

@[simp] theorem collect_plain (shape : Shape) (value : V) :
    (plain value).collect shape = plain value := rfl

@[simp] theorem collect_optional (shape : Shape) (content : Option V) :
    (optional content).collect shape = optional content := rfl

/-- The short cut of the static helpers for empty containers makes no difference. -/
theorem collectBy_eq_collect (shape : Shape) (content : Content V) :
    content.collectBy shape = content.collect shape := by
  cases content with
  | entries items =>
      cases items with
      | nil =>
          cases shape with
          | map order key value => cases order <;> rfl
          | _ => rfl
      | cons item rest => rfl
  | elements items =>
      cases items with
      | nil =>
          cases shape with
          | set order element => cases order <;> rfl
          | _ => rfl
      | cons item rest => rfl
  | _ => rfl

end Content

/-- What a cell becomes in the built value. -/
def Machine.finished (machine : Machine V) (plan : Plan) (cell : Cell V) :
    Except BuilderError (Content V) :=
  match plan.kind, cell.content? with
  | .required, some value => .ok (.plain value)
  | .required, none => .error (.unset machine.typeName plan.property.baseName)
  | _, _ => .ok ((Content.ofCell cell).collect plan.property.shape)

theorem finish_eq (ready : machine.Ready plan state cell) :
    machine.finish state (Emit.fragments plan) = machine.finished plan cell := by
  have copied : ((state.cell? (Emit.fragments plan).field).map Content.ofCell).getD
      (.optional none) = Content.ofCell cell := by
    rw [show state.cell? (Emit.fragments plan).field = some cell from ready.found]
    rfl
  have final : (Emit.fragments plan).final = Emit.final plan := rfl
  have shape : (Emit.fragments plan).shape = plan.property.shape := rfl
  have fits := ready.fits
  unfold Machine.finish Machine.finished
  rw [copied, final, shape]
  cases strategy : plan.strategy with
  | scalar hasDefault =>
      cases hasDefault with
      | true =>
          simp only [Emit.final, strategy, Plan.kind]
          cases cell <;> simp_all [storage, Cell.Fits, Content.ofCell]
      | false =>
          have required : plan.kind = .required := by simp [Plan.kind, strategy]
          have answer : machine.get (Emit.fragments plan) state = machine.viewed plan cell :=
            congrArg Ran.answer (call_getter ready)
          rw [Machine.viewed, required] at answer
          simp only [Emit.final, strategy, required, answer]
          cases cell.content? <;> rfl
  | optional inner =>
      simp only [Emit.final, strategy, Plan.kind]
      cases cell <;> simp_all [storage, Cell.Fits, Content.ofCell]
  | _ =>
      cases library : plan.features.library <;>
        simp [Emit.final, strategy, library, Plan.kind, Content.collectBy_eq_collect]

theorem finished_of_content (present : plan.kind = .required → cell.content? ≠ none) :
    ∃ content, machine.finished plan cell = .ok content := by
  unfold Machine.finished
  split
  · exact ⟨_, rfl⟩
  · rename_i required absent
    exact absurd absent (present required)
  · exact ⟨_, rfl⟩

theorem forall₂_imp_of_mem {α β : Type} {R S : α → β → Prop} {as : List α} {bs : List β}
    (h : ∀ a ∈ as, ∀ b, R a b → S a b) (all : List.Forall₂ R as bs) : List.Forall₂ S as bs := by
  induction all with
  | nil => exact .nil
  | cons first _ ih =>
      exact .cons (h _ List.mem_cons_self _ first)
        (ih fun a mem => h a (List.mem_cons_of_mem _ mem))

theorem forall₂_congr_of_mem {α β : Type} {R S : α → β → Prop} {as : List α} {bs : List β}
    (h : ∀ a ∈ as, ∀ b, R a b ↔ S a b) : List.Forall₂ R as bs ↔ List.Forall₂ S as bs :=
  ⟨forall₂_imp_of_mem fun a mem b => (h a mem b).1, forall₂_imp_of_mem fun a mem b => (h a mem b).2⟩

theorem exists_forall₂_of_mem {α β : Type} {R : α → β → Prop} {as : List α}
    (h : ∀ a ∈ as, ∃ b, R a b) : ∃ bs, List.Forall₂ R as bs := by
  induction as with
  | nil => exact ⟨[], .nil⟩
  | cons a rest ih =>
      obtain ⟨b, first⟩ := h a List.mem_cons_self
      obtain ⟨bs, others⟩ := ih fun a mem => h a (List.mem_cons_of_mem _ mem)
      exact ⟨b :: bs, .cons first others⟩

/-- The fields of a built value are what becomes of the builder's cells. -/
theorem build_eq_ok_iff (consistent : state.Consistent plans) (planned : machine.Planned plans)
    {built : Value V} :
    machine.build state = .ok built ↔ state.missing plans = [] ∧
      List.Forall₂ (fun plan entry => ∃ cell, state.cell? plan.property.name = some cell ∧
        entry.1 = plan.property.name ∧ machine.finished plan cell = .ok entry.2) plans built := by
  rw [Machine.build, consistent.ensureComplete_eq planned]
  by_cases complete : state.missing plans = []
  · rw [if_pos complete]
    change machine.builder.fragments.mapM _ = _ ↔ _
    rw [mapM_eq_ok_iff, planned.fragments, List.forall₂_map_left_iff]
    simp only [complete, true_and]
    refine forall₂_congr_of_mem fun plan mem entry => ?_
    obtain ⟨cell, found, _⟩ := consistent.cells plan mem
    obtain ⟨name, content⟩ := entry
    rw [finish_eq (consistent.ready planned mem found), map_eq_ok_iff, found]
    constructor
    · rintro ⟨_, finished, same⟩
      cases same
      exact ⟨cell, rfl, rfl, finished⟩
    · rintro ⟨_, same, rfl, finished⟩
      cases same
      exact ⟨content, finished, rfl⟩
  · rw [if_neg complete]
    simp [complete, bind, Except.bind]

/-- Every property is in a built value, made from its own cell. -/
theorem finished_of_build (consistent : state.Consistent plans) (planned : machine.Planned plans)
    {built : Value V} (h : machine.build state = .ok built) (mem : plan ∈ plans) :
    ∃ content cell, built.lookup plan.property.name = some content ∧
      state.cell? plan.property.name = some cell ∧ machine.finished plan cell = .ok content := by
  obtain ⟨_, fields⟩ := (build_eq_ok_iff consistent planned).1 h
  obtain ⟨content, looked, cell, found, finished⟩ := lookup_of_forall₂
    (S := fun plan content => ∃ cell, state.cell? plan.property.name = some cell ∧
      machine.finished plan cell = .ok content) planned.names
    (fields.imp fun _ _ ⟨cell, found, name, finished⟩ => ⟨name, cell, found, finished⟩) mem
  exact ⟨content, cell, looked, found, finished⟩

theorem build_of_missing (consistent : state.Consistent plans) (planned : machine.Planned plans)
    (h : state.missing plans ≠ []) :
    machine.build state = .error (.incomplete machine.typeName (state.missing plans)) := by
  rw [Machine.build, consistent.ensureComplete_eq planned, if_neg h]
  rfl

theorem exists_build (consistent : state.Consistent plans) (planned : machine.Planned plans)
    (complete : state.missing plans = []) : ∃ built, machine.build state = .ok built := by
  have every : ∀ plan ∈ plans, ∃ entry : String × Content V, ∃ cell,
      state.cell? plan.property.name = some cell ∧ entry.1 = plan.property.name ∧
        machine.finished plan cell = .ok entry.2 := by
    intro plan mem
    obtain ⟨cell, found, suits⟩ := consistent.cells plan mem
    have present (required : plan.kind = .required) : cell.content? ≠ none := by
      intro absent
      have option := option_of_required required suits.fits
      rw [absent] at option
      exact consistent.missing_eq_nil_iff.1 complete plan mem required (option ▸ found)
    obtain ⟨content, finished⟩ := finished_of_content present
    exact ⟨(plan.property.name, content), cell, found, rfl, finished⟩
  obtain ⟨built, fields⟩ := exists_forall₂_of_mem every
  exact ⟨built, (build_eq_ok_iff consistent planned).2 ⟨complete, fields⟩⟩

theorem fits_collect {shape : Shape} {content : Content V} (fits : content.Fits shape) :
    (content.collect shape).Fits shape := by
  cases shape <;> cases content <;> first | exact fits.elim | trivial

theorem fits_finished (suits : plan.strategy.Suits plan.property.shape)
    (fits : cell.Fits (storage plan)) {content : Content V}
    (finished : machine.finished plan cell = .ok content) : content.Fits plan.property.shape := by
  unfold Machine.finished at finished
  split at finished
  · rename_i required _
    cases finished
    rw [Plan.kind_eq_required_iff.1 required] at suits
    cases shape : plan.property.shape <;> rw [shape] at suits <;>
      first | exact suits.elim | trivial
  · cases finished
  · rename_i other absent
    cases finished
    have kind : plan.kind ≠ .required := by
      intro required
      cases content : cell.content? with
      | none => exact absent required content
      | some value => exact other value required content
    exact fits_collect (fits_ofCell suits fits kind)

theorem fits_of_build (consistent : state.Consistent plans) (planned : machine.Planned plans)
    {built : Value V} (h : machine.build state = .ok built) : Value.Fits machine.builder built := by
  rw [Value.Fits, planned.fragments, List.forall₂_map_left_iff]
  refine forall₂_imp_of_mem ?_ ((build_eq_ok_iff consistent planned).1 h).2
  rintro plan mem entry ⟨cell, found, name, finished⟩
  exact ⟨name, fits_finished (planned.suits plan mem) (consistent.suits mem found).fits finished⟩

end Run
end StructBuilder
