import StructBuilder.Proofs.Collections
import StructBuilder.Proofs.Simulation

/-!
What backs collections does not show. A declaration may ask for either library; builders
then store maps and sets differently and copy them into built values in different ways, but
their sessions go the same way. Nothing else compares values, so of equality no more is
asked than that it does not matter which of two values is compared with the other.
-/

namespace StructBuilder

/-! Declarations. -/

namespace Blueprint

/-- The blueprint with another library in its options. -/
def backedBy (library : Library) (blueprint : Blueprint) : Blueprint :=
  { blueprint with options := { blueprint.options with collections := some library } }

variable {item other : Item} {blueprint : Blueprint} {options : StructOptions}
  {library chosen : Library}

theorem ofItem_of_collections (accepted : ofItem item = .ok blueprint)
    (rest : other = { item with attributes := other.attributes })
    (given : StructOptions.read item.attributes =
      .ok { options with collections := some library })
    (gave : StructOptions.read other.attributes = .ok { options with collections := some chosen }) :
    ofItem other = .ok (blueprint.backedBy chosen) := by
  obtain ⟨read, fields, properties, first, content, all, rfl⟩ := ofItem_eq_ok_iff.1 accepted
  obtain rfl := Except.ok.inj (given.symm.trans first)
  have kept : other.content = item.content ∧ other.name = item.name ∧
      other.visibility = item.visibility ∧ other.generics = item.generics := by
    rw [rest]
    exact ⟨rfl, rfl, rfl, rfl⟩
  obtain ⟨same, name, visibility, generics⟩ := kept
  refine ofItem_eq_ok_iff.2 ⟨_, fields, properties, gave, same.trans content, all, ?_⟩
  rw [backedBy, name, visibility, generics]

end Blueprint

/-! Plans. -/

namespace Plan

/-- Features choose the storage of a property, and whether it has a mapper. -/
theorem select_matches (property : Property) {features settings : Features}
    (mappers : settings.mappers = features.mappers) (invoked : List String) :
    (select property features invoked).Matches (select property settings invoked) := by
  rw [select_eq_ite, select_eq_ite]
  split
  · refine ⟨rfl, rfl, ?_⟩
    cases sorted : property.shape.isSorted <;> exact mappers
  · exact ⟨rfl, rfl, mappers⟩

end Plan

theorem Blueprint.matches_backedBy (blueprint : Blueprint) (library detected : Library) :
    List.Forall₂ Plan.Matches (blueprint.plans detected)
      ((blueprint.backedBy library).plans detected) := by
  have properties : (blueprint.backedBy library).properties = blueprint.properties := rfl
  have invoked : (blueprint.backedBy library).invoked = blueprint.invoked := rfl
  rw [plans, plans, properties, invoked, List.forall₂_map_left_iff, List.forall₂_map_right_iff,
    List.forall₂_same]
  have mappers : ((blueprint.backedBy library).features detected).mappers =
      (blueprint.features detected).mappers := rfl
  exact fun property _ => Plan.select_matches property mappers blueprint.invoked

namespace Run

variable {V : Type} [BEq V] {machine : Machine V} {blueprint : Blueprint}
  {library detected : Library} {plan other : Plan}

/-! Keys. -/

/-- If it does not matter on which side a value stands, all maps and sets compare alike. -/
theorem same_of_symmetric (symmetric : ∀ a b : V, (a == b) = (b == a)) {cell : Cell V}
    (keyed : cell.Keyed) : cell.same = fun stored sought => stored == sought := by
  funext stored sought
  cases cell <;> first | exact keyed.elim | exact symmetric sought stored | rfl

theorem same_eq_of_matches (symmetric : ∀ a b : V, (a == b) = (b == a))
    (pair : plan.Matches other) {cell shadow : Cell V} (fits : cell.Fits (Emit.storage plan))
    (fit : shadow.Fits (Emit.storage other)) : shadow.same = cell.same := by
  cases strategy : plan.strategy with
  | map key value =>
      rw [same_of_symmetric symmetric (keyed_of_map strategy fits),
        same_of_symmetric symmetric (keyed_of_map (pair.strategy.trans strategy) fit)]
  | set element =>
      rw [same_of_symmetric symmetric (keyed_of_set strategy fits),
        same_of_symmetric symmetric (keyed_of_set (pair.strategy.trans strategy) fit)]
  | _ =>
      rw [pair.storage_eq (by simp [strategy]) (by simp [strategy])] at fit
      exact Cell.same_eq_of_fits fit fits

/-! Hooks. -/

/-- The same hooks are overridden, and they answer alike whenever they are shown states that
hold the same. -/
def HooksAgree (hooks replies : MethodName → Option (CheckHook V)) : Prop :=
  ∀ name, Option.Rel (fun hook reply => ∀ (state echo : State V) values, state.Reflects echo →
    reply echo values = hook state values) (hooks name) (replies name)

omit [BEq V] in
theorem HooksAgree.verdict {twin : Machine V} (agree : HooksAgree machine.hook? twin.hook?)
    (property : Property) {state echo : State V} (reflects : state.Reflects echo) :
    twin.verdict property echo = machine.verdict property state := by
  funext values
  have hooks := agree (property.method .check)
  unfold Machine.verdict
  generalize machine.hook? (property.method .check) = hook at hooks ⊢
  generalize twin.hook? (property.method .check) = reply at hooks ⊢
  cases hooks with
  | none => rfl
  | some same => simp only [same state echo values reflects]

/-! Sessions. -/

section

variable {item counterpart : Item} {options : StructOptions} {chosen : Library}
  {replies : MethodName → Option (CheckHook V)}

theorem lockstep_backedBy (emitted : machine.Emitted blueprint detected)
    (also : Blueprint.ofItem counterpart = .ok (blueprint.backedBy chosen))
    (symmetric : ∀ a b : V, (a == b) = (b == a)) (agree : HooksAgree machine.hook? replies) :
    machine.Lockstep
      { machine.rebuilt (blueprint.backedBy chosen) detected with hook? := replies }
      (blueprint.plans detected) ((blueprint.backedBy chosen).plans detected) := by
  have emitted' : Machine.Emitted
      { machine.rebuilt (blueprint.backedBy chosen) detected with hook? := replies }
      (blueprint.backedBy chosen) detected := ⟨⟨counterpart, also⟩, emitted.distinct, rfl⟩
  have typeName : (Emit.Builder.ofBlueprint (blueprint.backedBy chosen) detected).typeName =
      machine.typeName := by
    rw [Machine.typeName, emitted.builder]
    rfl
  refine ⟨emitted.planned, emitted'.planned, blueprint.matches_backedBy chosen detected, typeName,
    rfl, rfl, ?_, ?_⟩
  · intro plan _ other _ pair cell shadow fits fit
    exact same_eq_of_matches symmetric pair fits fit
  · intro plan mem other mem' pair state echo _ _ reflects
    have one : other.property = plan.property := by
      have here : plan.property ∈ blueprint.properties :=
        blueprint.map_property_plans detected ▸ List.mem_map_of_mem mem
      have there : other.property ∈ blueprint.properties :=
        (blueprint.backedBy chosen).map_property_plans detected ▸ List.mem_map_of_mem mem'
      exact List.inj_on_of_nodup_map emitted.distinct there here pair.baseName
    rw [one]
    exact HooksAgree.verdict agree plan.property reflects

/-- Sessions have the same results with either library, step by step, with getters that answer
the same, in the same order, and with equal values built. -/
theorem unnoticed_of_collections [Ord V] (accepted : Blueprint.ofItem item = .ok blueprint)
    (distinct : (blueprint.properties.map (·.baseName)).Nodup)
    (builder : machine.builder = .ofBlueprint blueprint detected)
    (rest : counterpart = { item with attributes := counterpart.attributes })
    (indexed : StructOptions.read item.attributes =
      .ok { options with collections := some .indexMap })
    (ordered : StructOptions.read counterpart.attributes =
      .ok { options with collections := some .fallback })
    (symmetric : ∀ a b : V, (a == b) = (b == a)) (agree : HooksAgree machine.hook? replies) :
    Blueprint.ofItem counterpart = .ok (blueprint.backedBy .fallback) ∧
      ∀ steps : List (Step V), (∀ step ∈ steps, step.Accepted machine) →
        let twin := { machine.rebuilt (blueprint.backedBy .fallback) detected with
          hook? := replies }
        (Session.start twin).transcript twin
            (fun session => (session.builders.map twin.shown, session.values)) steps =
          (Session.start machine).transcript machine
            (fun session => (session.builders.map machine.shown, session.values)) steps := by
  have also := Blueprint.ofItem_of_collections accepted rest indexed ordered
  have emitted : machine.Emitted blueprint detected := ⟨⟨item, accepted⟩, distinct, builder⟩
  have lockstep := lockstep_backedBy emitted also symmetric agree
  refine ⟨also, fun steps fine => ?_⟩
  refine lockstep.transcript_eq (fun session echo twins => ?_) (Session.Twins.start lockstep) fine
  rw [lockstep.map_shown twins, twins.values]

end

/-! A tally with either library. -/

/-- The attribute that asks for a library by its name. -/
def backing (name : String) : Attribute where
  leading := false
  names := ["builder"]
  arguments := .list [.leaf "" "collections" (.ident "collections"), .leaf " " "=" (.punct '='),
    .leaf " " name (.text name "")]
  content := []

def indexedItem : Item :=
  { Tally.item with attributes := [backing "indexmap"] }

def orderedItem : Item :=
  { Tally.item with attributes := [backing "fallback"] }

def indexedTally : Blueprint :=
  match Blueprint.ofItem indexedItem with
  | .ok blueprint => blueprint
  | .error _ => Tally.blueprint

theorem accepted_indexedTally : Blueprint.ofItem indexedItem = .ok indexedTally := by
  have accepted : (Blueprint.ofItem indexedItem).isOk = true := by decide +kernel
  unfold indexedTally
  cases read : Blueprint.ofItem indexedItem with
  | ok _ => rfl
  | error _ => simp [read, Except.isOk, Except.toBool] at accepted

theorem read_backing {name : String} {library : Library}
    (parts : (StructOptions.read [backing name]).toOption.map (fun options =>
      (options.crate.isNone, options.mappers, options.collections)) =
        some (true, none, some library)) :
    StructOptions.read [backing name] =
      .ok { StructOptions.none with collections := some library } := by
  cases read : StructOptions.read [backing name] with
  | error refusal =>
      rw [read] at parts
      cases parts
  | ok options =>
      obtain ⟨crate, mappers, collections⟩ := options
      rw [read] at parts
      obtain ⟨absent, rest⟩ := Prod.mk.inj (Option.some.inj parts)
      obtain ⟨rfl, rfl⟩ := Prod.mk.inj rest
      obtain rfl := Option.isNone_iff_eq_none.1 absent
      rfl

def indexedMachine : Machine Nat :=
  Tally.machine.rebuilt indexedTally .indexMap

/-- A key is taken out and put in again, another is put twice, and the value that is built is
merged into its own builder. -/
def shuffle : List (Step Nat) :=
  [.call 0 "put_all_table" [.entries [(2, 5), (1, 3)]], .call 0 "remove_table" [.one 2],
   .call 0 "put_table" [.one 1, .one 4], .call 0 "put_table" [.one 2, .one 9],
   .call 0 "add_all_seen" [.elements [6, 4, 6]], .call 0 "set_total" [.one 7], .build 0,
   .mergeValue 0 0]

theorem shuffle_accepted : ∀ step ∈ shuffle, step.Accepted indexedMachine := by
  decide +kernel

theorem unnoticed_of_shuffle :
    let twin := Tally.machine.rebuilt (indexedTally.backedBy .fallback) .indexMap
    (Session.start twin).transcript twin
        (fun session => (session.builders.map twin.shown, session.values)) shuffle =
      (Session.start indexedMachine).transcript indexedMachine
        (fun session => (session.builders.map indexedMachine.shown, session.values)) shuffle := by
  have distinct : (indexedTally.properties.map (·.baseName)).Nodup := by decide +kernel
  have agree : HooksAgree indexedMachine.hook? Tally.machine.hook? :=
    fun _ => .some fun _ _ _ _ => rfl
  have rest : orderedItem = { indexedItem with attributes := orderedItem.attributes } := rfl
  have indexed : StructOptions.read [backing "indexmap"] =
      .ok { StructOptions.none with collections := some .indexMap } :=
    read_backing (by decide +kernel)
  have ordered : StructOptions.read [backing "fallback"] =
      .ok { StructOptions.none with collections := some .fallback } :=
    read_backing (by decide +kernel)
  exact (unnoticed_of_collections accepted_indexedTally distinct rfl rest indexed ordered
    (fun _ _ => BEq.comm) agree).2 shuffle shuffle_accepted

end Run
end StructBuilder
