import StructBuilder.Proofs.Marker
import StructBuilder.Run.Session

/-!
What an accepted declaration settles about its plans: no two have a name or a marker in
common, markers stand at the positions of their properties, and a plan's strategy goes
with the shape of its type and tells which methods there are. Runs depend on a declaration
through these facts alone.
-/

namespace StructBuilder

theorem mapM_eq_ok_iff {α β ε : Type} {f : α → Except ε β} {items : List α} {results : List β} :
    items.mapM f = .ok results ↔ List.Forall₂ (fun a b => f a = .ok b) items results := by
  induction items generalizing results with
  | nil => cases results <;> simp [pure, Except.pure]
  | cons a rest ih =>
      cases results with
      | nil =>
          cases ha : f a <;> cases hr : rest.mapM f <;>
            simp [List.mapM_cons, ha, hr, bind, Except.bind, pure, Except.pure]
      | cons b others =>
          rw [List.forall₂_cons, ← ih]
          cases ha : f a <;> cases hr : rest.mapM f <;>
            simp [List.mapM_cons, ha, hr, bind, Except.bind, pure, Except.pure]

theorem exists_getElem?_of_forall₂ {α β : Type} {R : α → β → Prop} {as : List α} {bs : List β}
    (all : List.Forall₂ R as bs) {position : Nat} {a : α} (here : as[position]? = some a) :
    ∃ b, bs[position]? = some b ∧ R a b := by
  obtain ⟨inside, rfl⟩ := List.getElem?_eq_some_iff.1 here
  have within : position < bs.length := all.length_eq ▸ inside
  exact ⟨bs[position], List.getElem?_eq_getElem within, all.get inside within⟩

theorem exists_of_mem_mapM {α β ε : Type} {f : α → Except ε β} {items : List α} {results : List β}
    (h : items.mapM f = .ok results) {b : β} (mem : b ∈ results) :
    ∃ a ∈ items, f a = .ok b := by
  have all := mapM_eq_ok_iff.1 h
  clear h
  induction all with
  | nil => cases mem
  | cons ha _ ih =>
      rcases List.mem_cons.1 mem with rfl | mem
      · exact ⟨_, List.mem_cons_self, ha⟩
      · obtain ⟨a, ma, fa⟩ := ih mem
        exact ⟨a, List.mem_cons_of_mem _ ma, fa⟩

namespace Property

/-- A type asks for a property to be optional in no other way than by its shape. -/
structure Marked (property : Property) : Prop where
  marker : '_' ∉ property.marker.toList
  nullable : property.nullableMarkers.isEmpty = !property.shape.isOptional

/-- The property of a field that has passed all tests. -/
def ofNamed (field : Field) (name : String) (options : FieldOptions) : Property where
  name
  marker := Marker.ofName (plainName name)
  ty := field.ty
  shape := field.ty.shape
  nullableMarkers :=
    (if field.ty.shape.isOptional then [.optionType] else [])
      ++ (if options.nullable then [.requested] else [])
  check := options.check
  default := options.default

theorem marker_ofNamed (field : Field) (name : String) (options : FieldOptions) :
    (ofNamed field name options).marker = Marker.ofName (plainName name) := by
  rw [ofNamed]

theorem ofField_eq_ok_iff {field : Field} {options : FieldOptions} {property : Property} :
    ofField field options = .ok property ↔ ∃ name, field.name = some name ∧
      reservedNames.contains (plainName name) = false ∧
      (options.nullable && !field.ty.shape.isOptional) = false ∧
      (options.default.isSome && field.ty.shape.isContainer) = false ∧
      ofNamed field name options = property := by
  unfold ofField
  cases field.name with
  | none => simp
  | some name =>
      simp only [Option.some.injEq, exists_eq_left']
      cases reservedNames.contains (plainName name) <;>
        cases options.nullable && !field.ty.shape.isOptional <;>
        cases options.default.isSome && field.ty.shape.isContainer <;>
        simp only [Bool.false_eq_true, if_true, if_false, reduceCtorEq, false_and, and_false,
          true_and, Except.ok.injEq]
      exact Iff.rfl

theorem read_eq_ok_iff {field : Field} {property : Property} :
    read field = .ok property ↔ ∃ options, FieldOptions.read field.attributes = .ok options ∧
      ofField field options = .ok property := by
  unfold read
  cases FieldOptions.read field.attributes <;> simp [bind, Except.bind]

theorem named_of_read {field : Field} {property : Property} (h : read field = .ok property) :
    field.name = some property.name ∧ property.marker = Marker.ofName property.baseName := by
  obtain ⟨options, _, h⟩ := read_eq_ok_iff.1 h
  obtain ⟨name, named, _, _, _, rfl⟩ := ofField_eq_ok_iff.1 h
  exact ⟨named, marker_ofNamed field name options⟩

theorem marked_of_read {field : Field} {property : Property} (h : read field = .ok property) :
    property.Marked := by
  obtain ⟨options, _, h⟩ := read_eq_ok_iff.1 h
  obtain ⟨name, _, _, nullable, _, rfl⟩ := ofField_eq_ok_iff.1 h
  constructor
  · rw [marker_ofNamed]
    exact Marker.underscore_not_mem_ofName (plainName name)
  · cases optional : field.ty.shape.isOptional <;> simp_all [ofNamed]

/-- Disambiguation replaces markers and nothing else. -/
theorem getElem?_disambiguate (properties : List Property) (i : Nat) :
    (disambiguate properties)[i]? = properties[i]?.map fun property =>
      { property with
        marker := ((Marker.disambiguate (properties.map (·.marker)))[i]?).getD "" } := by
  rw [disambiguate, List.getElem?_zipWith]
  by_cases h : i < properties.length
  · have hm : i < (Marker.disambiguate (properties.map (·.marker))).length := by
      simpa using h
    simp [List.getElem?_eq_getElem h, List.getElem?_eq_getElem hm]
  · simp [List.getElem?_eq_none (Nat.le_of_not_lt h)]

theorem map_marker_disambiguate (properties : List Property) :
    (disambiguate properties).map (·.marker) =
      Marker.disambiguate (properties.map (·.marker)) := by
  rw [disambiguate, List.map_zipWith]
  exact List.ext_getElem (by simp) fun i _ _ => by rw [List.getElem_zipWith]

theorem mem_disambiguate {properties : List Property} {property : Property}
    (h : property ∈ disambiguate properties) :
    ∃ original ∈ properties, property = { original with marker := property.marker } := by
  obtain ⟨i, hi⟩ := List.mem_iff_getElem?.1 h
  rw [getElem?_disambiguate, Option.map_eq_some_iff] at hi
  obtain ⟨original, found, rfl⟩ := hi
  exact ⟨original, List.mem_of_getElem? found, rfl⟩

end Property

namespace Blueprint

theorem ofItem_eq_ok_iff {item : Item} {blueprint : Blueprint} :
    ofItem item = .ok blueprint ↔ ∃ options fields properties,
      StructOptions.read item.attributes = .ok options ∧ item.content = .namedFields fields ∧
        fields.mapM Property.read = .ok properties ∧
          blueprint = ⟨item.name, item.visibility, item.generics, options,
            Property.disambiguate properties⟩ := by
  constructor
  · intro accepted
    unfold ofItem at accepted
    cases read : StructOptions.read item.attributes <;> cases content : item.content <;>
      simp only [read, content, bind, Except.bind, throw, throwThe, MonadExceptOf.throw] at accepted
    all_goals first | cases accepted | skip
    rename_i options fields
    cases properties : fields.mapM Property.read with
    | error refusal =>
        rw [properties] at accepted
        cases accepted
    | ok properties' =>
        rw [properties] at accepted
        cases accepted
        exact ⟨options, fields, properties', rfl, rfl, properties, rfl⟩
  · rintro ⟨options, fields, properties, read, content, all, rfl⟩
    simp [ofItem, read, content, all, bind, Except.bind, pure, Except.pure]

theorem properties_of_ofItem {item : Item} {blueprint : Blueprint}
    (h : ofItem item = .ok blueprint) :
    ∃ properties : List Property,
      (∀ property ∈ properties, ∃ field, Property.read field = .ok property) ∧
        blueprint.properties = Property.disambiguate properties := by
  obtain ⟨_, fields, properties, _, _, read, rfl⟩ := ofItem_eq_ok_iff.1 h
  refine ⟨properties, fun property mem => ?_, rfl⟩
  obtain ⟨field, _, known⟩ := exists_of_mem_mapM read mem
  exact ⟨field, known⟩

theorem nodup_markers {item : Item} {blueprint : Blueprint} (h : ofItem item = .ok blueprint) :
    (blueprint.properties.map (·.marker)).Nodup := by
  obtain ⟨properties, read, eq⟩ := properties_of_ofItem h
  rw [eq, Property.map_marker_disambiguate]
  apply Marker.nodup_disambiguate
  intro marker mem
  obtain ⟨property, hp, rfl⟩ := List.mem_map.1 mem
  obtain ⟨field, hf⟩ := read property hp
  exact (Property.marked_of_read hf).marker

theorem nullable_of_ofItem {item : Item} {blueprint : Blueprint}
    (h : ofItem item = .ok blueprint) {property : Property}
    (mem : property ∈ blueprint.properties) :
    property.nullableMarkers.isEmpty = !property.shape.isOptional := by
  obtain ⟨properties, read, eq⟩ := properties_of_ofItem h
  obtain ⟨original, ho, same⟩ := Property.mem_disambiguate (eq ▸ mem)
  obtain ⟨field, hf⟩ := read original ho
  rw [same]
  exact (Property.marked_of_read hf).nullable

end Blueprint

/-- The strategy for properties of this shape. -/
def Shape.strategy (hasDefault : Bool) : Shape → Strategy
  | scalar => .scalar hasDefault
  | optional inner => .optional inner
  | map _ key value => .map key value
  | set _ element => .set element
  | list element => .list element

/-- The strategy is the one that a shape asks for. -/
def Strategy.Suits : Strategy → Shape → Prop
  | .scalar _, .scalar | .optional _, .optional _ | .map _ _, .map _ _ _ | .set _, .set _ _
  | .list _, .list _ => True
  | _, _ => False

namespace Plan

theorem kind_eq_required_iff {plan : Plan} :
    plan.kind = .required ↔ plan.strategy = .scalar false := by
  unfold kind
  cases plan.strategy with
  | scalar hasDefault => cases hasDefault <;> simp
  | _ => simp

/-- All that a selection can be. The factory of the shape claims the property if it is marked as
nullable just when its type is optional; otherwise the property is a plain value. -/
theorem select_eq_ite (property : Property) (features : Features) (invoked : List String) :
    select property features invoked =
      if property.nullableMarkers.isEmpty = !property.shape.isOptional then
        ⟨property, property.shape.strategy (invoked.contains property.setter.text),
          features.forContainer property.shape.isSorted⟩
      else ⟨property, .scalar (invoked.contains property.setter.text), features⟩ := by
  cases shape : property.shape <;> cases unmarked : property.nullableMarkers.isEmpty <;>
    simp [select, selectIn, Factory.specific, Factory.claim?, Shape.isOptional, Shape.strategy,
      Shape.isSorted, Features.forContainer, shape, unmarked]

theorem select_property (property : Property) (features : Features) (invoked : List String) :
    (select property features invoked).property = property := by
  rw [select_eq_ite]
  split <;> rfl

theorem select_suits {property : Property} (features : Features) (invoked : List String)
    (marked : property.nullableMarkers.isEmpty = !property.shape.isOptional) :
    (select property features invoked).strategy.Suits property.shape := by
  rw [select_eq_ite, if_pos marked]
  cases property.shape <;> exact trivial

end Plan

/-! Methods. -/

namespace Emit

/-- All that a method of a plan can be. -/
inductive MethodOf (plan : Plan) : Method → Prop where
  | setValue {hasDefault : Bool} (strategy : plan.strategy = .scalar hasDefault) :
      MethodOf plan (valueSetter plan.property hasDefault)
  | mapDefault (strategy : plan.strategy = .scalar true) :
      MethodOf plan (defaultMapper plan.property)
  | mapRequired (strategy : plan.strategy = .scalar false) :
      MethodOf plan (requiredMapper plan.property)
  | getDefault (strategy : plan.strategy = .scalar true) :
      MethodOf plan (defaultGetter plan.property)
  | getRequired (strategy : plan.strategy = .scalar false) :
      MethodOf plan (requiredGetter plan.property)
  | setOptional {inner : Ty} (strategy : plan.strategy = .optional inner) :
      MethodOf plan (optionalSetter plan.property inner)
  | mapOptional {inner : Ty} (strategy : plan.strategy = .optional inner) :
      MethodOf plan (optionalMapper plan.property inner)
  | getOptional {inner : Ty} (strategy : plan.strategy = .optional inner) :
      MethodOf plan (optionalGetter plan.property inner)
  | put {key value : Ty} (strategy : plan.strategy = .map key value) :
      MethodOf plan (putter plan.property key value)
  | putAll {key value : Ty} (strategy : plan.strategy = .map key value) :
      MethodOf plan (bulkPutter plan.property key value (storage plan))
  | removeEntry {key value : Ty} (strategy : plan.strategy = .map key value) :
      MethodOf plan (entryRemover plan.property key)
  | clearMap {key value : Ty} (strategy : plan.strategy = .map key value) (items : String) :
      MethodOf plan (emptier plan.property items)
  | addToSet {element : Ty} (strategy : plan.strategy = .set element) (doc : String) :
      MethodOf plan (adder plan.property element doc (.insertElement plan.property.name))
  | addAllToSet {element : Ty} (strategy : plan.strategy = .set element) :
      MethodOf plan (bulkAdder plan.property element)
  | removeFromSet {element : Ty} (strategy : plan.strategy = .set element) (doc : String) :
      MethodOf plan (elementRemover plan.property element doc (.removeElement plan.property.name))
  | clearSet {element : Ty} (strategy : plan.strategy = .set element) (items : String) :
      MethodOf plan (emptier plan.property items)
  | addToList {element : Ty} (strategy : plan.strategy = .list element) (doc : String) :
      MethodOf plan (adder plan.property element doc (.pushElement plan.property.name))
  | addAllToList {element : Ty} (strategy : plan.strategy = .list element) :
      MethodOf plan (bulkAdder plan.property element)
  | removeFromList {element : Ty} (strategy : plan.strategy = .list element) (doc : String) :
      MethodOf plan (elementRemover plan.property element doc (.removeFirst plan.property.name))
  | clearList {element : Ty} (strategy : plan.strategy = .list element) (items : String) :
      MethodOf plan (emptier plan.property items)
  | view (kind : plan.kind = .hasDefault) (order : String) (returns : Returns) :
      MethodOf plan (viewer plan.property order returns)

variable {plan : Plan} {method : Method}

theorem MethodOf.of_mem (mem : method ∈ methods plan) : MethodOf plan method := by
  cases strategy : plan.strategy with
  | scalar hasDefault =>
      simp only [methods, strategy, valueMethods, List.mem_append, List.mem_ite_nil_right,
        List.mem_singleton] at mem
      obtain (rfl | ⟨_, rfl⟩) | rfl := mem
      · exact .setValue strategy
      · cases hasDefault with
        | false => exact .mapRequired strategy
        | true => exact .mapDefault strategy
      · cases hasDefault with
        | false => exact .getRequired strategy
        | true => exact .getDefault strategy
  | optional inner =>
      simp only [methods, strategy, optionalMethods, List.mem_append, List.mem_ite_nil_right,
        List.mem_singleton] at mem
      obtain (rfl | ⟨_, rfl⟩) | rfl := mem
      · exact .setOptional strategy
      · exact .mapOptional strategy
      · exact .getOptional strategy
  | map key value =>
      simp only [methods, strategy, mapMethods, List.mem_cons, List.not_mem_nil, or_false] at mem
      obtain rfl | rfl | rfl | rfl | rfl := mem
      · exact .put strategy
      · exact .putAll strategy
      · exact .removeEntry strategy
      · exact .clearMap strategy _
      · exact .view (by rw [Plan.kind, strategy]) _ _
  | set element =>
      simp only [methods, strategy, setMethods, List.mem_cons, List.not_mem_nil, or_false] at mem
      obtain rfl | rfl | rfl | rfl | rfl := mem
      · exact .addToSet strategy _
      · exact .addAllToSet strategy
      · exact .removeFromSet strategy _
      · exact .clearSet strategy _
      · exact .view (by rw [Plan.kind, strategy]) _ _
  | list element =>
      simp only [methods, strategy, listMethods, List.mem_cons, List.not_mem_nil, or_false] at mem
      obtain rfl | rfl | rfl | rfl | rfl := mem
      · exact .addToList strategy _
      · exact .addAllToList strategy
      · exact .removeFromList strategy _
      · exact .clearList strategy _
      · exact .view (by rw [Plan.kind, strategy]) _ _

theorem valueSetter_mem {hasDefault : Bool} (strategy : plan.strategy = .scalar hasDefault) :
    valueSetter plan.property hasDefault ∈ methods plan := by
  simp [methods, strategy, valueMethods]

theorem optionalSetter_mem {inner : Ty} (strategy : plan.strategy = .optional inner) :
    optionalSetter plan.property inner ∈ methods plan := by
  simp [methods, strategy, optionalMethods]

theorem putter_mem {key value : Ty} (strategy : plan.strategy = .map key value) :
    putter plan.property key value ∈ methods plan := by
  simp [methods, strategy, mapMethods]

theorem bulkPutter_mem {key value : Ty} (strategy : plan.strategy = .map key value) :
    bulkPutter plan.property key value (storage plan) ∈ methods plan := by
  simp [methods, strategy, mapMethods]

theorem bulkAdder_mem {element : Ty}
    (strategy : plan.strategy = .set element ∨ plan.strategy = .list element) :
    bulkAdder plan.property element ∈ methods plan := by
  rcases strategy with strategy | strategy
  · simp [methods, strategy, setMethods]
  · simp [methods, strategy, listMethods]

end Emit

namespace Blueprint

theorem map_property_plans (blueprint : Blueprint) (library : Library) :
    (blueprint.plans library).map (·.property) = blueprint.properties := by
  rw [plans, List.map_map]
  simp [Function.comp_def, Plan.select_property]

theorem getElem?_plans (blueprint : Blueprint) (library : Library) {i : Nat} {plan : Plan}
    (h : (blueprint.plans library)[i]? = some plan) :
    blueprint.properties[i]? = some plan.property := by
  rw [← blueprint.map_property_plans library, List.getElem?_map, h, Option.map_some]

end Blueprint

namespace Run

variable {V : Type}

/-- The machine runs the builder of an accepted declaration, whose fields have
different names even without `r#`. -/
structure Machine.Emitted (machine : Machine V) (blueprint : Blueprint) (library : Library) :
    Prop where
  accepted : ∃ item, Blueprint.ofItem item = .ok blueprint
  distinct : (blueprint.properties.map (·.baseName)).Nodup
  builder : machine.builder = .ofBlueprint blueprint library

/-- All that runs need to know of the plans behind a machine. -/
structure Machine.Planned (machine : Machine V) (plans : List Plan) : Prop where
  fragments : machine.builder.fragments = plans.map Emit.fragments
  required : machine.builder.required =
    (plans.filter (·.kind == .required)).map (·.property.marker)
  names : (plans.map (·.property.name)).Nodup
  position : ∀ {i plan}, plans[i]? = some plan → machine.position plan.property.marker = i
  nameAt : ∀ {i plan}, plans[i]? = some plan → machine.nameAt i = plan.property.baseName
  suits : ∀ plan ∈ plans, plan.strategy.Suits plan.property.shape

theorem Machine.Emitted.planned {machine : Machine V} {blueprint : Blueprint} {library : Library}
    (emitted : machine.Emitted blueprint library) : machine.Planned (blueprint.plans library) := by
  obtain ⟨⟨item, accepted⟩, distinct, builder⟩ := emitted
  have markers := Blueprint.nodup_markers accepted
  refine ⟨?_, ?_, ?_, ?_, ?_, ?_⟩
  · rw [builder]; rfl
  · rw [builder]; rfl
  · have names := List.Nodup.of_map plainName (l := blueprint.properties.map (·.name))
      (by rwa [List.map_map])
    rw [← blueprint.map_property_plans library, List.map_map] at names
    exact names
  · intro i plan h
    have hp := blueprint.getElem?_plans library h
    obtain ⟨hi, eq⟩ := List.getElem?_eq_some_iff.1 hp
    have found := List.Nodup.idxOf_getElem markers i (by simpa using hi)
    rw [List.getElem_map, eq, List.idxOf, List.findIdx_map] at found
    rw [Machine.position, Emit.Builder.variants, builder, List.findIdx_map]
    exact found
  · intro i plan h
    have hp := blueprint.getElem?_plans library h
    simp [Machine.nameAt, Emit.Builder.variants, builder, Emit.Builder.ofBlueprint,
      Emit.Builder.ofPlans, hp]
  · intro plan mem
    obtain ⟨property, hp, rfl⟩ := List.mem_map.1 mem
    rw [Plan.select_property]
    exact Plan.select_suits _ _ (Blueprint.nullable_of_ofItem accepted hp)

end Run
end StructBuilder
