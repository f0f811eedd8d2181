import StructBuilder.Emit.Item
import StructBuilder.Proofs.Classification
import StructBuilder.Proofs.Isolation
import StructBuilder.Proofs.OptionFolds

/-!
Switches. A declaration may ask for mappers or do without, and it may name what backs its
collections. Either way the same properties are planned with the same strategies, and each
plan sees the features for a container of its kind. So one switch decides whether there are
mappers and nothing else, and the other reaches no property whose content is in ascending
order or that is no collection at all.
-/

namespace StructBuilder

/-! Declarations. -/

/-- The declaration with one more list of options behind its attributes. -/
def Item.stating (trees : Grammar.Trees) (item : Item) : Item :=
  { item with attributes := item.attributes ++ [.listing trees] }

namespace Blueprint

/-- The blueprint with one more option, which overrides others of its kind. -/
def stating (option : StructOption) (blueprint : Blueprint) : Blueprint :=
  { blueprint with options := blueprint.options.apply option }

variable {item : Item} {blueprint : Blueprint}

theorem ofItem_stating (accepted : ofItem item = .ok blueprint) {trees : Grammar.Trees}
    {option : StructOption} (form : StructOptions.Form trees (some option)) :
    ofItem (item.stating trees) = .ok (blueprint.stating option) := by
  obtain ⟨options, fields, properties, read, content, all, rfl⟩ := ofItem_eq_ok_iff.1 accepted
  rw [StructOptions.read_eq_map] at read
  obtain ⟨stated, given, rfl⟩ := Options.map_eq_ok_iff.1 read
  have last : Options.readAll StructOptions.item [.listing trees] = .ok [option] := by
    rw [Options.readAll_single, Options.readOne_lists ⟨rfl, rfl⟩,
      Options.readList_last (StructOptions.whole_iff.2 form)]
    rfl
  have again : StructOptions.read (item.stating trees).attributes =
      .ok ((stated.foldl StructOptions.apply .none).apply option) := by
    rw [StructOptions.read_eq_map, Item.stating,
      Options.readAll_append_eq_ok_iff.2 ⟨_, _, given, last, rfl⟩]
    exact congrArg Except.ok (List.foldl_concat ..)
  exact ofItem_eq_ok_iff.2 ⟨_, fields, properties, again, content, all, rfl⟩

end Blueprint

/-! Plans. -/

/-- Without an order of its own, the content of a collection takes its form from the library. -/
def Shape.needsLibrary (shape : Shape) : Bool :=
  shape.isContainer && !shape.isSorted

/-- Features have no say in the strategy, and reach the plan as those of the container. -/
theorem Plan.select_eq {property : Property}
    (marked : property.nullableMarkers.isEmpty = !property.shape.isOptional) (features : Features)
    (invoked : List String) :
    select property features invoked =
      ⟨property, property.shape.strategy (invoked.contains property.setter.text),
        features.forContainer property.shape.isSorted⟩ := by
  rw [select_eq_ite, if_pos marked]

/-- The plan under other features. -/
def Plan.under (features : Features) (plan : Plan) : Plan :=
  { plan with features := features.forContainer plan.property.shape.isSorted }

namespace Blueprint

/-- No property of an accepted declaration is marked in another way than its shape asks for. -/
def Marked (blueprint : Blueprint) : Prop :=
  ∀ property ∈ blueprint.properties, property.nullableMarkers.isEmpty = !property.shape.isOptional

/-- The plans under these features, whatever the options ask for. -/
def plansUnder (features : Features) (blueprint : Blueprint) : List Plan :=
  blueprint.properties.map fun property => Plan.select property features blueprint.invoked

theorem plansUnder_eq {blueprint : Blueprint} (marked : blueprint.Marked)
    (features settings : Features) :
    blueprint.plansUnder settings = (blueprint.plansUnder features).map (·.under settings) := by
  rw [plansUnder, plansUnder, List.map_map]
  refine List.map_congr_left fun property mem => ?_
  have plan := Plan.select_eq (marked property mem)
  rw [Function.comp_apply, plan, plan]
  rfl

end Blueprint

theorem Features.forContainer_mappers (features : Features) (sorted mappers : Bool) :
    forContainer { features with mappers } sorted =
      { features.forContainer sorted with mappers } := by
  cases sorted <;> rfl

namespace Emit

open Code (name braces)

/-! Mappers. -/

def Method.isMapper (method : Method) : Bool :=
  match method.name with
  | .action .map _ => true
  | _ => false

/-- The fragments without mappers. -/
def Fragments.unmapped (fragments : Fragments) : Fragments :=
  { fragments with methods := fragments.methods.filter (!·.isMapper) }

theorem fragments_unmapped (plan : Plan) :
    fragments { plan with features := { plan.features with mappers := false } } =
      (fragments { plan with features := { plan.features with mappers := true } }).unmapped := by
  obtain ⟨property, strategy, features⟩ := plan
  cases strategy with
  | scalar hasDefault => cases hasDefault <;> rfl
  | _ => rfl

/-- Scalars and optional properties have one mapper each if mappers are wanted, and
collections have none. -/
theorem filter_isMapper (property : Property) (hasDefault : Bool) (features : Features) :
    ((methods ⟨property, property.shape.strategy hasDefault, features⟩).filter (·.isMapper)).map
        (·.name) =
      if features.mappers && !property.shape.isContainer then [property.method .map] else [] := by
  obtain ⟨mappers, library⟩ := features
  cases shape : property.shape with
  | scalar => cases hasDefault <;> cases mappers <;> rfl
  | optional inner => cases mappers <;> rfl
  | _ => cases mappers <;> rfl

/-! Libraries. -/

/-- The library does not show in what is no collection. -/
theorem fragments_library (property : Property) {shape : Shape} (hasDefault mappers : Bool)
    (single : shape.isContainer = false) (one two : Library) :
    fragments ⟨property, shape.strategy hasDefault, ⟨mappers, one⟩⟩ =
      fragments ⟨property, shape.strategy hasDefault, ⟨mappers, two⟩⟩ := by
  cases shape with
  | scalar => cases hasDefault <;> rfl
  | optional inner => rfl
  | map | set | list => cases single

/-! Whole builders. -/

namespace Builder

variable {blueprint : Blueprint}

/-- The builder under these features, whatever the options ask for. -/
def under (features : Features) (blueprint : Blueprint) : Builder :=
  ofPlans blueprint (blueprint.plansUnder features)

/-- Only the fragments ask for helpers. -/
theorem helpers_ofPlans (plans : List Plan) : (ofPlans blueprint plans).helpers =
    [StaticHelper.immutableMap, .immutableCollection].filter fun helper =>
      (ofPlans blueprint plans).fragments.any (·.helpers.contains helper) := by
  have fragments : (ofPlans blueprint plans).fragments = plans.map Emit.fragments := rfl
  simp only [fragments, List.any_map]
  rfl

/-- Features show in fragments and helpers only. -/
theorem under_eq (marked : blueprint.Marked) (features settings : Features) :
    under settings blueprint =
      { under features blueprint with
        fragments := (under settings blueprint).fragments
        helpers := (under settings blueprint).helpers } := by
  have required : ((blueprint.plansUnder settings).filter (·.kind == .required)).map
        (·.property.marker) =
      ((blueprint.plansUnder features).filter (·.kind == .required)).map (·.property.marker) := by
    rw [Blueprint.plansUnder_eq marked features settings, List.filter_map, List.map_map]
    rfl
  have hooks : ((blueprint.plansUnder settings).filter (·.property.check)).map hook =
      ((blueprint.plansUnder features).filter (·.property.check)).map hook := by
    rw [Blueprint.plansUnder_eq marked features settings, List.filter_map, List.map_map]
    rfl
  rw [under, under, ofPlans, required, hooks]
  rfl

/-- Helpers follow from the fragments, so builders with the same fragments are the same. -/
theorem eq_of_fragments (marked : blueprint.Marked) {features settings : Features}
    (same : (under settings blueprint).fragments = (under features blueprint).fragments) :
    under settings blueprint = under features blueprint := by
  have helpers : (under settings blueprint).helpers = (under features blueprint).helpers := by
    rw [under, helpers_ofPlans, under, helpers_ofPlans, ← under, ← under, same]
  rw [under_eq marked features settings, same, helpers]

def methods (builder : Builder) : List Method :=
  builder.fragments.flatMap (·.methods)

/-- The builder without mappers. -/
def unmapped (builder : Builder) : Builder :=
  { builder with fragments := builder.fragments.map Fragments.unmapped }

theorem methods_unmapped (builder : Builder) :
    builder.unmapped.methods = builder.methods.filter (!·.isMapper) := by
  rw [methods, methods, unmapped, List.flatMap_map, List.filter_flatMap]
  rfl

theorem lifecycle_unmapped (builder : Builder) (function : Lifecycle) :
    function.code builder.unmapped = function.code builder := by
  cases function <;>
    simp only [Lifecycle.code, Lifecycle.body, unmapped, List.map_map, List.flatMap_map] <;> rfl

theorem under_mappers (marked : blueprint.Marked) (features : Features) :
    under { features with mappers := false } blueprint =
      (under { features with mappers := true } blueprint).unmapped := by
  have fragments : (under { features with mappers := false } blueprint).fragments =
      (under { features with mappers := true } blueprint).fragments.map Fragments.unmapped := by
    simp only [under, ofPlans, Blueprint.plansUnder, List.map_map]
    refine List.map_congr_left fun property mem => ?_
    simp only [Function.comp_apply, Plan.select_eq (marked property mem),
      Features.forContainer_mappers]
    exact fragments_unmapped ⟨property, _, features.forContainer property.shape.isSorted⟩
  have helpers : (under { features with mappers := false } blueprint).helpers =
      (under { features with mappers := true } blueprint).helpers := by
    rw [under, helpers_ofPlans, ← under, fragments, under, helpers_ofPlans, ← under]
    simp only [List.any_map]
    rfl
  rw [under_eq marked { features with mappers := true }, fragments, helpers]
  rfl

/-- All items in front of the builder's own functions. -/
def leading (builder : Builder) : Code :=
  (Item.markers (builder.variants.map (·.1))).code builder ++
    (Item.markerNames builder.variants).code builder ++
    (Item.builder builder.generics).code builder ++
    (if builder.hasChecks then (Item.checks builder.generics builder.hooks).code builder else []) ++
    name "impl" ++ builder.implGenerics.parametersCode ++ name builder.builderName ++
    builder.arguments ++ builder.implGenerics.whereCode

/-- All items behind the builder's own functions. -/
def trailing (builder : Builder) : Code :=
  (Item.implementation builder.implGenerics .default).code builder ++
    (Item.implementation builder.implGenerics .value).code builder

theorem code_eq (builder : Builder) : builder.code =
    builder.leading ++ braces (Lifecycle.all.flatMap (·.code builder) ++
      builder.methods.flatMap (·.code builder.context) ++
      builder.helpers.flatMap StaticHelper.code) ++ builder.trailing := by
  have methods : builder.methods.flatMap (·.code builder.context) =
      builder.fragments.flatMap (·.methodsCode builder.context) := List.flatMap_assoc
  have first : (Item.implementation builder.implGenerics .builder).code builder =
      name "impl" ++ builder.implGenerics.parametersCode ++ name builder.builderName ++
        builder.arguments ++ builder.implGenerics.whereCode ++
        braces (Target.builder.content builder) := rfl
  rw [methods]
  change _ = builder.leading ++ braces (Target.builder.content builder) ++ builder.trailing
  rw [code, items, implementations, leading, trailing]
  cases builder.hasChecks <;> simp [first]

theorem code_unmapped (builder : Builder) : builder.unmapped.code =
    builder.leading ++ braces (Lifecycle.all.flatMap (·.code builder) ++
      (builder.methods.filter (!·.isMapper)).flatMap (·.code builder.context) ++
      builder.helpers.flatMap StaticHelper.code) ++ builder.trailing := by
  have leading : builder.unmapped.leading = builder.leading := by
    simp only [leading, Item.code, unmapped, List.map_map]
    rfl
  rw [code_eq, leading, methods_unmapped]
  simp only [lifecycle_unmapped]
  rfl

/-- The builders differ in the mappers of scalars and optional properties, which only the first
one has. -/
structure DifferInMappers (on off : Builder) : Prop where
  rest : off = on.unmapped
  mappers : on.fragments.map (fun fragments =>
      (fragments.methods.filter (·.isMapper)).map (·.name)) =
    on.properties.map fun property =>
      if property.shape.isContainer then [] else [property.method .map]
  /-- The mappers are written as functions of those names. -/
  declared : ∀ method ∈ on.methods, method.isMapper = true → ∃ property ∈ on.properties,
    property.shape.isContainer = false ∧
      Declares (property.method .map).text (method.code on.context)
  code : ∃ leading front back trailing : Code,
    on.code = leading ++ braces (front ++ on.methods.flatMap (·.code on.context) ++ back) ++
      trailing ∧
    off.code = leading ++ braces (front ++
      (on.methods.filter (!·.isMapper)).flatMap (·.code on.context) ++ back) ++ trailing

theorem names_mappers_under (marked : blueprint.Marked) (features : Features) :
    (under { features with mappers := true } blueprint).fragments.map (fun fragments =>
        (fragments.methods.filter (·.isMapper)).map (·.name)) =
      blueprint.properties.map fun property =>
        if property.shape.isContainer then [] else [property.method .map] := by
  simp only [under, ofPlans, Blueprint.plansUnder, List.map_map]
  refine List.map_congr_left fun property mem => ?_
  have listed (plan : Plan) : (Emit.fragments plan).methods = Emit.methods plan := rfl
  simp only [Function.comp_apply, Plan.select_eq (marked property mem), listed, filter_isMapper,
    Features.forContainer_mappers]
  cases property.shape.isContainer <;> rfl

theorem differInMappers_under (marked : blueprint.Marked) (features : Features) :
    DifferInMappers (under { features with mappers := true } blueprint)
      (under { features with mappers := false } blueprint) := by
  rw [under_mappers marked]
  have names := names_mappers_under marked features
  refine ⟨rfl, names, fun method mem mapper => ?_, _, _, _, _, code_eq _, code_unmapped _⟩
  obtain ⟨fragments, known, own⟩ := List.mem_flatMap.1 mem
  have listed := List.mem_map_of_mem (f := fun fragments : Fragments =>
    (fragments.methods.filter (·.isMapper)).map (·.name)) known
  rw [names] at listed
  obtain ⟨property, here, same⟩ := List.mem_map.1 listed
  have named : method.name ∈ (fragments.methods.filter (·.isMapper)).map (·.name) :=
    List.mem_map_of_mem (List.mem_filter.2 ⟨own, mapper⟩)
  refine ⟨property, here, ?_⟩
  cases container : property.shape.isContainer with
  | true =>
      rw [← same, container] at named
      cases named
  | false =>
      rw [← same, container] at named
      exact ⟨rfl, List.mem_singleton.1 named ▸ declares_method _ method⟩

/-- The builders differ in how they handle collections that need a library. -/
structure DifferInLibrary (one two : Builder) : Prop where
  rest : two = { one with fragments := two.fragments, helpers := two.helpers }
  kept : ∀ position property, one.properties[position]? = some property →
    property.shape.needsLibrary = false →
    two.fragments[position]? = one.fragments[position]? ∧
      two.written? position = one.written? position
  same : (∀ property ∈ one.properties, property.shape.needsLibrary = false) → two = one

theorem differInLibrary_under (marked : blueprint.Marked) (features : Features)
    (one two : Library) :
    DifferInLibrary (under { features with library := one } blueprint)
      (under { features with library := two } blueprint) := by
  have rest := under_eq marked { features with library := one } { features with library := two }
  have fragments {property : Property} (mem : property ∈ blueprint.properties)
      (free : property.shape.needsLibrary = false) :
      Emit.fragments (.select property { features with library := two } blueprint.invoked) =
        Emit.fragments (.select property { features with library := one } blueprint.invoked) := by
    rw [Plan.select_eq (marked property mem), Plan.select_eq (marked property mem)]
    cases sorted : property.shape.isSorted with
    -- Both plans have the fallback then, whatever the features say.
    | true => rfl
    | false =>
        rw [Shape.needsLibrary, sorted, Bool.not_false, Bool.and_true] at free
        exact fragments_library property _ _ free two one
  refine ⟨rest, fun position property at_ free => ?_, fun free => eq_of_fragments marked ?_⟩
  · have at_ : blueprint.properties[position]? = some property := at_
    have same : (under { features with library := two } blueprint).fragments[position]? =
        (under { features with library := one } blueprint).fragments[position]? := by
      simp only [under, ofPlans, Blueprint.plansUnder, List.map_map, List.getElem?_map, at_,
        Option.map_some, Function.comp_apply, fragments (List.mem_of_getElem? at_) free]
    refine ⟨same, ?_⟩
    rw [written?, same, rest]
    rfl
  · simp only [under, ofPlans, Blueprint.plansUnder, List.map_map]
    exact List.map_congr_left fun property mem => fragments mem (free property mem)

end Builder
end Emit

/-! Declarations with their builders. -/

namespace Blueprint

open Emit (Builder)

variable {item : Item} {blueprint : Blueprint}

theorem marked_of_ofItem (accepted : ofItem item = .ok blueprint) : blueprint.Marked :=
  fun _ => nullable_of_ofItem accepted

theorem collections_of_readAll (accepted : ofItem item = .ok blueprint)
    {stated : List StructOption} {library : Library}
    (given : Options.readAll StructOptions.item item.attributes = .ok stated)
    (mem : StructOption.collections library ∈ stated) :
    ∃ chosen, blueprint.options.collections = some chosen := by
  obtain ⟨options, _, _, read, _, _, rfl⟩ := ofItem_eq_ok_iff.1 accepted
  rw [StructOptions.read_eq_map, given] at read
  have last := (StructOptions.yields_iff.1 (Except.ok.inj read)).collections
  have named : library ∈ stated.filterMap StructOption.collections? :=
    List.mem_filterMap.2 ⟨_, mem, rfl⟩
  rw [last, List.getLast?_eq_some_getLast (List.ne_nil_of_mem named)]
  exact ⟨_, rfl⟩

/-- What options of an accepted declaration switch. `detected` backs collections where the
options name no library. -/
structure Switched (item : Item) (blueprint : Blueprint) : Prop where
  stating : ∀ {trees option}, StructOptions.Form trees (some option) →
    ofItem (item.stating trees) = .ok (blueprint.stating option)
  mappers : ∀ detected, Builder.DifferInMappers
    (.ofBlueprint (blueprint.stating (.mappers true)) detected)
    (.ofBlueprint (blueprint.stating (.mappers false)) detected)
  /-- Mappers are wanted unless the options say otherwise. -/
  unstated : ∀ detected, Builder.ofBlueprint blueprint detected =
    .ofBlueprint (blueprint.stating (.mappers (blueprint.options.mappers.getD true))) detected
  libraries : ∀ one two detected, Builder.DifferInLibrary
    (.ofBlueprint (blueprint.stating (.collections one)) detected)
    (.ofBlueprint (blueprint.stating (.collections two)) detected)
  undecided : blueprint.options.collections = none → ∀ library detected,
    Builder.ofBlueprint blueprint library =
      .ofBlueprint (blueprint.stating (.collections library)) detected
  decided : ∀ {stated library}, Options.readAll StructOptions.item item.attributes = .ok stated →
    .collections library ∈ stated → ∀ one two,
    Builder.ofBlueprint blueprint one = .ofBlueprint blueprint two

/-- Options change what they name and nothing else. -/
theorem switched_of_ofItem (accepted : ofItem item = .ok blueprint) :
    Switched item blueprint where
  stating := ofItem_stating accepted
  mappers detected := Builder.differInMappers_under (marked_of_ofItem accepted)
    (blueprint.features detected)
  unstated detected := rfl
  libraries one two detected := Builder.differInLibrary_under (marked_of_ofItem accepted)
    (blueprint.features detected) one two
  undecided none library detected := by
    have features : blueprint.features library =
        (blueprint.stating (.collections library)).features detected := by
      rw [Blueprint.features, none]
      rfl
    change Builder.under _ blueprint = Builder.under _ blueprint
    rw [features]
  decided given mem one two := by
    obtain ⟨chosen, decided⟩ := collections_of_readAll accepted given mem
    have features : blueprint.features one = blueprint.features two := by
      rw [Blueprint.features, Blueprint.features, decided]
      rfl
    change Builder.under _ blueprint = Builder.under _ blueprint
    rw [features]

/-- The tally does without mappers if it says so, and what is written out for its table, whose
keys are in ascending order, is the same with either library. -/
theorem switched_tally :
    ofItem (Tally.item.stating [.named "mappers", .leaf " " "=" (.punct '='),
        .leaf " " "false" (.ident "false")]) =
      .ok (Tally.blueprint.stating (.mappers false)) ∧
    Builder.ofBlueprint (Tally.blueprint.stating (.mappers false)) .indexMap =
      (Builder.ofBlueprint (Tally.blueprint.stating (.mappers true)) .indexMap).unmapped ∧
    (Builder.ofBlueprint (Tally.blueprint.stating (.collections .fallback)) .indexMap).written? 2 =
      (Builder.ofBlueprint (Tally.blueprint.stating (.collections .indexMap)) .indexMap).written?
        2 := by
  have switched := switched_of_ofItem Tally.accepted
  have table : (Tally.blueprint.properties[2]?).map (·.shape.needsLibrary) = some false := by
    decide +kernel
  obtain ⟨property, at_, free⟩ := Option.map_eq_some_iff.1 table
  refine ⟨switched.stating (.mappers (.assigned " " "=" " " "false" false)), ?_, ?_⟩
  · exact (switched.mappers .indexMap).rest
  · exact ((switched.libraries .indexMap .fallback .indexMap).kept 2 property at_ free).2

end Blueprint
end StructBuilder
