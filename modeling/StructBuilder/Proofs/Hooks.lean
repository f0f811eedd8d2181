import StructBuilder.Proofs.ContainerTyping
import StructBuilder.Proofs.Naming

/-!
Where hooks are run and where they are declared. Exactly the methods that store what they
are given run the hook of their property, if it has one, and they run it before they change
anything. A merge returns the errors of the method that it calls if there can be any. The trait
of hooks and the condition that a builder has it are written together or not at all.
-/

namespace StructBuilder.Emit

open Spelling (Fallible brace listed ofBuilder ofResult paren words)

/-! Methods. -/

/-- The verbs of the methods that are given what is to be stored. -/
def storingVerbs : List Verb :=
  [.set, .put, .putAll, .add, .addAll]

/-- What a method of the property does with its hook: it runs the hook if it is one of those
that store, and runs it first. -/
structure Guarded (property : Property) (name : MethodName) (acts : List Act) : Prop where
  stores : (∃ field, .stores field ∈ acts) ↔ name ∈ storingVerbs.map property.method
  asks : acts.filterMap Act.hook? =
    if property.check ∧ name ∈ storingVerbs.map property.method
    then [(property.method .check).text] else []
  first : ∃ front back, acts = front ++ back ∧ front.any Act.changes = false ∧
    back.filterMap Act.hook? = []
  /-- Mapped values are passed to the setter. -/
  maps : name = property.method .map → .calls property.setter.text ∈ acts

section

variable {property : Property} {plan : Plan}

theorem mem_storing_iff {verb : Verb} :
    property.method verb ∈ storingVerbs.map property.method ↔ verb ∈ storingVerbs :=
  List.mem_map_of_injective fun _ _ same => (MethodName.action.inj same).1

theorem hooks_asked (property : Property) : (asked property).filterMap Act.hook? =
    if property.check then [(property.method .check).text] else [] := by
  unfold asked
  cases property.check <;> rfl

theorem changes_asked (property : Property) : (asked property).any Act.changes = false := by
  unfold asked
  cases property.check <;> rfl

/-- Acts that begin with the hook and go on to store. -/
theorem guarded_of_storing (verb : Verb) (storing : verb ∈ storingVerbs) {rest : List Act}
    (stores : ∃ field, .stores field ∈ rest) (quiet : rest.filterMap Act.hook? = []) :
    Guarded property (property.method verb) (asked property ++ rest) := by
  have named : property.method verb ∈ storingVerbs.map property.method :=
    mem_storing_iff.2 storing
  obtain ⟨field, mem⟩ := stores
  refine ⟨⟨fun _ => named, fun _ => ⟨field, List.mem_append_right _ mem⟩⟩, ?_,
    ⟨_, _, rfl, changes_asked property, quiet⟩, fun maps => ?_⟩
  · simp [hooks_asked, quiet, named]
  · obtain ⟨rfl, _⟩ := MethodName.action.inj maps
    exact absurd storing (by decide)

theorem guarded_of_quiet {name : MethodName} {acts : List Act}
    (other : name ∉ storingVerbs.map property.method) (idle : ∀ field, .stores field ∉ acts)
    (quiet : acts.filterMap Act.hook? = [])
    (maps : name = property.method .map → .calls property.setter.text ∈ acts) :
    Guarded property name acts where
  stores := ⟨fun ⟨field, mem⟩ => absurd mem (idle field), fun mem => absurd mem other⟩
  asks := by simp [quiet, other]
  first := ⟨[], acts, rfl, rfl, quiet⟩
  maps := maps

theorem guarded_action (plan : Plan) (verb : Verb) : Guarded plan.property
    (plan.property.method verb) (actsOf plan (plan.property.method verb)) := by
  have other (mem : verb ∉ storingVerbs) :
      plan.property.method verb ∉ storingVerbs.map plan.property.method :=
    fun named => mem (mem_storing_iff.1 named)
  cases verb with
  | set =>
      refine guarded_of_storing .set (by decide) ⟨_, List.mem_cons_self⟩ ?_
      split <;> rfl
  | put =>
      exact guarded_of_storing .put (by decide) ⟨_, List.mem_cons_of_mem _ List.mem_cons_self⟩ rfl
  | putAll =>
      exact guarded_of_storing .putAll (by decide)
        ⟨_, List.mem_cons_of_mem _ List.mem_cons_self⟩ rfl
  | add => exact guarded_of_storing .add (by decide) ⟨_, List.mem_cons_self⟩ rfl
  | addAll => exact guarded_of_storing .addAll (by decide) ⟨_, List.mem_cons_self⟩ rfl
  | map =>
      refine guarded_of_quiet (other (by decide)) ?_ ?_ fun _ => by simp [actsOf, Property.method]
      · simp only [actsOf, Property.method]
        split <;> simp
      · simp only [actsOf, Property.method]
        split <;> rfl
  | remove | clear | check =>
      refine guarded_of_quiet (other (by decide)) (by simp [actsOf, Property.method]) rfl ?_
      intro same
      cases same

theorem guarded_getter (plan : Plan) :
    Guarded plan.property plan.property.getter (actsOf plan plan.property.getter) := by
  refine guarded_of_quiet (by simp [Property.getter, Property.method]) ?_ ?_ ?_
  · simp only [actsOf, Property.getter]
    split <;> simp
  · simp only [actsOf, Property.getter]
    split <;> rfl
  · intro same
    cases same

theorem guarded_methods (plan : Plan) :
    ∀ method ∈ methods plan, Guarded plan.property method.name (actsOf plan method.name) := by
  intro method mem
  obtain ⟨verb, named⟩ | named := plan.name_of_mem mem
  · exact named ▸ guarded_action plan verb
  · exact named ▸ guarded_getter plan

end

/-! Calls of methods in merges. -/

/-- The code calls a method that stores, of the name of no other one, and returns its error if
its results can be errors. -/
def Fragments.Merges (context : Context) (fragments : Fragments) (property : Property)
    (code : Code) : Prop :=
  ∃ method ∈ fragments.methods, method.name ∈ storingVerbs.map property.method ∧
    (∀ other ∈ fragments.methods, other.name.text = method.name.text → other = method) ∧
    ∃ parameters returns argument ending,
      method.Signed context parameters returns ∧
      (Fallible context returns ∧ ending = ["?", ";"] ∨
        ¬Fallible context returns ∧ ending = [";"]) ∧
      (code = Spelling.call method.name.text argument ending ∨
        ∃ owner, code = Spelling.whenSet owner fragments.field
          (Spelling.call method.name.text argument ending))

section

variable {context : Context} {plan : Plan}

theorem not_fallible_builder : ¬Fallible context ofBuilder := by
  rintro ⟨type, same⟩
  have last : some (Tree.word "Self") = some (Tree.word ">") :=
    (congrArg List.getLast? same).trans List.getLast?_concat
  simp at last

theorem nodup_texts_methods (plan : Plan) : ((methods plan).map (·.name.text)).Nodup := by
  have names := congrArg (List.map fun name => plainName name.text) plan.names_methods
  simp only [List.map_map, List.map_append, Function.comp_def, Property.method,
    MethodName.plainName_text_action] at names
  have distinct : ((methods plan).map fun method => plainName method.name.text).Nodup :=
    names ▸ plan.nodup_functionNames
  refine List.Nodup.of_map plainName ?_
  rwa [List.map_map]

theorem code_merge (field owner : String) (merge : Merge) : ∃ argument,
    let call := Spelling.call merge.method.text argument
      (if merge.propagates then ["?", ";"] else [";"])
    merge.code field owner = if merge.guarded then Spelling.whenSet owner field call else call := by
  have called (argument : Code) : Code.phrase "self." ++ Code.name merge.method.text ++
      Code.parens argument ++ Code.phrase (if merge.propagates then "?;" else ";") =
      Spelling.call merge.method.text argument
        (if merge.propagates then ["?", ";"] else [";"]) := by
    cases merge.propagates <;> rfl
  have sourced (call : Code) : Code.phrase "if let" ++ ok (Code.name "source") ++ Code.name "=" ++
      Code.name owner ++ Code.name "." ++ Code.name field ++ Code.parens [] ++ Code.braces call =
      Spelling.whenSet owner field call := rfl
  simp only [Merge.code, called, sourced]
  exact ⟨_, rfl⟩

theorem merges_of_mem {method : Method} {merge : Merge} (mem : method ∈ methods plan)
    (storing : method.name ∈ storingVerbs.map plan.property.method)
    (named : merge.method = method.name)
    (returns : method.returns = if merge.propagates then .fallibleBuilder else .builder)
    (owner : String) : (fragments plan).Merges context plan.property
      (merge.code plan.property.name owner) := by
  have only (other : Method) (others : other ∈ methods plan)
      (same : other.name.text = method.name.text) : other = method :=
    List.inj_on_of_nodup_map (nodup_texts_methods plan) others mem same
  obtain ⟨argument, code⟩ := code_merge plan.property.name owner merge
  rw [named] at code
  refine ⟨method, mem, storing, only, _, _, argument,
    if merge.propagates then ["?", ";"] else [";"], method.signed context, ?_, ?_⟩
  · rw [returns]
    cases merge.propagates with
    | true => exact .inl ⟨fallible_builder, rfl⟩
    | false => exact .inr ⟨not_fallible_builder, rfl⟩
  · rw [code]
    cases merge.guarded with
    | false => exact .inl rfl
    | true => exact .inr ⟨owner, rfl⟩

theorem merges_mergeWith (plan : Plan) (guarded : Bool) (owner : String) :
    (fragments plan).Merges context plan.property
      ((mergeWith plan guarded).code plan.property.name owner) := by
  have storing {verb : Verb} (mem : verb ∈ storingVerbs) :
      plan.property.method verb ∈ storingVerbs.map plan.property.method := mem_storing_iff.2 mem
  unfold mergeWith
  cases strategy : plan.strategy with
  | scalar hasDefault =>
      exact merges_of_mem (valueSetter_mem strategy) (storing (by decide)) rfl rfl owner
  | optional inner =>
      exact merges_of_mem (optionalSetter_mem strategy) (storing (by decide)) rfl rfl owner
  | map key value =>
      exact merges_of_mem (bulkPutter_mem strategy) (storing (by decide)) rfl rfl owner
  | set element =>
      exact merges_of_mem (bulkAdder_mem (.inl strategy)) (storing (by decide)) rfl rfl owner
  | list element =>
      exact merges_of_mem (bulkAdder_mem (.inr strategy)) (storing (by decide)) rfl rfl owner

end

/-! Whole builders. -/

/-- What is emitted for one property agrees with itself. -/
structure Fragments.Agrees (context : Context) (fragments : Fragments) (property : Property) :
    Prop where
  declared : ∃ types, fragments.Requires context (property.method .check).text types
  methods : ∀ method ∈ fragments.methods, ∃ acts, method.Typed context fragments acts ∧
    Guarded property method.name acts
  mergeValue : ∀ owner, fragments.Merges context property (fragments.mergeValueCode owner)
  mergeBuilder : ∀ owner, fragments.Merges context property (fragments.mergeBuilderCode owner)

/-- A function that merges property by property may return errors. -/
def Builder.MergesBy (builder : Builder) (function : Lifecycle) (merges : Code) : Prop :=
  ∃ (docs : List String) (parameters : Code), function.code builder =
    docs.flatMap Code.doc ++ words ["pub", "fn", function.ident] ++ paren parameters ++
      words ["-", ">"] ++ ofResult builder.context ofBuilder ++
      brace (merges ++ Spelling.ok (words ["self"]))

/-- The trait of hooks is there if any property is checked, declares a hook for each of those
in order, and is asked for by the three implementations and nothing else. -/
structure Builder.DeclaresChecks (builder : Builder) (properties : List Property)
    (checked : List Fragments) : Prop where
  hasChecks : builder.hasChecks = properties.any (·.check)
  code : ∃ doc traitDoc, builder.code =
    builder.written doc traitDoc (checked.flatMap (·.hookCode builder.context))
  checks : builder.context.checks =
    words ["<", "Self", "as", builder.checksName] ++ builder.arguments ++ words [">"]

section

variable {blueprint : Blueprint} {library : Library}

theorem agrees_fragments (context : Context) (plan : Plan) :
    (fragments plan).Agrees context plan.property where
  declared := ⟨_, requires_hook plan⟩
  methods := fun method mem =>
    ⟨_, typed_methods context plan method mem, guarded_methods plan method mem⟩
  mergeValue := merges_mergeWith plan false
  mergeBuilder := merges_mergeWith plan _

theorem hasChecks_ofBlueprint (blueprint : Blueprint) (library : Library) :
    (Builder.ofBlueprint blueprint library).hasChecks = blueprint.properties.any (·.check) := by
  have hooks : (Builder.ofBlueprint blueprint library).hooks =
      ((blueprint.plans library).filter (·.property.check)).map hook := rfl
  rw [← blueprint.map_property_plans library, Bool.eq_iff_iff]
  simp [Builder.hasChecks, hooks, List.filter_eq_nil_iff]

theorem declaresChecks_ofBlueprint (blueprint : Blueprint) (library : Library) :
    (Builder.ofBlueprint blueprint library).DeclaresChecks blueprint.properties
      (((blueprint.plans library).filter (·.property.check)).map fragments) := by
  refine ⟨hasChecks_ofBlueprint blueprint library, ?_, ?_⟩
  · obtain ⟨doc, traitDoc, code⟩ := code_eq_written (Builder.ofBlueprint blueprint library)
    refine ⟨doc, traitDoc, code.trans ?_⟩
    have hooks : (Builder.ofBlueprint blueprint library).hooks =
        ((blueprint.plans library).filter (·.property.check)).map hook := rfl
    rw [hooks, List.flatMap_map, List.flatMap_map]
    rfl
  · simp only [Builder.context, List.append_assoc]
    rfl

theorem mergesBy_mergeFrom (builder : Builder) :
    builder.MergesBy .mergeFrom (builder.fragments.flatMap (·.mergeValueCode "value")) := by
  refine ⟨Lifecycle.mergeFrom.docs builder.typeName, Lifecycle.mergeFrom.parameters builder, ?_⟩
  simp only [Lifecycle.code, List.append_assoc]
  rfl

theorem mergesBy_mergeFromBuilder (builder : Builder) :
    builder.MergesBy .mergeFromBuilder
      (builder.fragments.flatMap (·.mergeBuilderCode "other")) := by
  refine ⟨Lifecycle.mergeFromBuilder.docs builder.typeName,
    Lifecycle.mergeFromBuilder.parameters builder, ?_⟩
  simp only [Lifecycle.code, List.append_assoc]
  rfl

/-- What is emitted apart for one thing is agreed on, as it is written: returned errors and
declared results, calls of hooks and their declarations, and the condition that a builder has
hooks. -/
theorem emitted_parts_agree (blueprint : Blueprint) (library : Library) :
    let plans := blueprint.plans library
    let builder := Builder.ofBlueprint blueprint library
    plans.map (·.property) = blueprint.properties ∧ builder.fragments = plans.map fragments ∧
      (∀ plan ∈ plans, (fragments plan).Agrees builder.context plan.property) ∧
      builder.MergesBy .mergeFrom (builder.fragments.flatMap (·.mergeValueCode "value")) ∧
      builder.MergesBy .mergeFromBuilder
        (builder.fragments.flatMap (·.mergeBuilderCode "other")) ∧
      builder.DeclaresChecks blueprint.properties
        ((plans.filter (·.property.check)).map fragments) :=
  ⟨blueprint.map_property_plans library, rfl, fun plan _ => agrees_fragments _ plan,
    mergesBy_mergeFrom _, mergesBy_mergeFromBuilder _, declaresChecks_ofBlueprint blueprint library⟩

end

end StructBuilder.Emit
