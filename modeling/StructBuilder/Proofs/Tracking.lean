import StructBuilder.Proofs.Acceptance
import StructBuilder.Proofs.Hooks

/-!
From declared types to the properties that are tracked. The type of a field alone decides
which factory claims it, so the order in which factories are asked makes no difference. A
plain value is tracked if its own field declares no default; that the constructor's setters
are looked up by name does not matter as long as names differ.
-/

namespace StructBuilder

/-! Factories. -/

/-- None of the containers is seen in the type. -/
def Ty.IsScalar (ty : Ty) : Prop :=
  ty.optionInner? = none ∧ ty.mapInner? = none ∧ ty.setInner? = none ∧ ty.listInner? = none

namespace Ty

variable {ty : Ty} {shape : Shape}

theorem ne_scalar_of_optionInner? (found : ty.optionInner? = some shape) : shape ≠ .scalar := by
  obtain ⟨inner, _, rfl⟩ := Option.map_eq_some_iff.1 found
  exact nofun

theorem ne_scalar_of_mapInner? (found : ty.mapInner? = some shape) : shape ≠ .scalar := by
  obtain ⟨_, _, here⟩ := List.exists_of_findSome?_eq_some found
  obtain ⟨_, _, rfl⟩ := Option.map_eq_some_iff.1 here
  exact nofun

theorem ne_scalar_of_setInner? (found : ty.setInner? = some shape) : shape ≠ .scalar := by
  obtain ⟨_, _, here⟩ := List.exists_of_findSome?_eq_some found
  obtain ⟨_, _, rfl⟩ := Option.map_eq_some_iff.1 here
  exact nofun

theorem ne_scalar_of_listInner? (found : ty.listInner? = some shape) : shape ≠ .scalar := by
  obtain ⟨_, _, here⟩ := List.exists_of_findSome?_eq_some found
  obtain ⟨_, _, rfl⟩ := Option.map_eq_some_iff.1 here
  exact nofun

theorem shape_eq_scalar_iff : ty.shape = .scalar ↔ ty.IsScalar := by
  unfold shape IsScalar
  cases option : ty.optionInner? with
  | some found => simpa using ne_scalar_of_optionInner? option
  | none =>
      cases map : ty.mapInner? with
      | some found => simpa using ne_scalar_of_mapInner? map
      | none =>
          cases set : ty.setInner? with
          | some found => simpa using ne_scalar_of_setInner? set
          | none =>
              cases list : ty.listInner? with
              | some found => simpa using ne_scalar_of_listInner? list
              | none => simp

end Ty

/-- The only factory besides the default one that may claim a property of this shape. -/
def Shape.factory? : Shape → Option Factory
  | .scalar => none
  | .optional _ => some .nullable
  | .map _ _ _ => some .map
  | .set _ _ => some .set
  | .list _ => some .list

namespace Factory

variable {factory other : Factory} {property : Property} {features : Features}
  {invoked : List String}

/-- The factory claims the property. -/
def Claims (factory : Factory) (property : Property) (features : Features)
    (invoked : List String) : Prop :=
  (factory.claim? property features invoked).isSome = true

theorem factory?_of_claims (mem : factory ∈ specific)
    (claims : factory.Claims property features invoked) :
    property.shape.factory? = some factory := by
  unfold Claims claim? at claims
  cases factory <;> cases shape : property.shape <;>
    simp_all [specific, Shape.factory?]

theorem eq_of_claims (mem : factory ∈ specific) (others : other ∈ specific)
    (one : factory.Claims property features invoked)
    (two : other.Claims property features invoked) : factory = other :=
  Option.some.inj ((factory?_of_claims mem one).symm.trans (factory?_of_claims others two))

end Factory

/-- If at most one item has an answer, it is found in any order. -/
theorem findSome?_eq_of_perm {α β : Type} {f : α → Option β} {items others : List α}
    (perm : items.Perm others)
    (single : ∀ one ∈ items, ∀ two ∈ items, (f one).isSome → (f two).isSome → one = two) :
    items.findSome? f = others.findSome? f := by
  cases found : items.findSome? f with
  | none =>
      rw [eq_comm, List.findSome?_eq_none_iff]
      exact fun item mem => List.findSome?_eq_none_iff.1 found item (perm.mem_iff.2 mem)
  | some result =>
      obtain ⟨one, here, answer⟩ := List.exists_of_findSome?_eq_some found
      cases other : others.findSome? f with
      | none =>
          have silent := List.findSome?_eq_none_iff.1 other one (perm.mem_iff.1 here)
          cases answer.symm.trans silent
      | some rival =>
          obtain ⟨two, there, second⟩ := List.exists_of_findSome?_eq_some other
          obtain rfl : one = two := single one here two (perm.mem_iff.2 there)
            (by rw [answer]; rfl) (by rw [second]; rfl)
          exact answer.symm.trans second

namespace Plan

theorem selectIn_eq_select {order : List Factory} (perm : order.Perm Factory.specific)
    (property : Property) (features : Features) (invoked : List String) :
    selectIn order property features invoked = select property features invoked := by
  have single : ∀ one ∈ order, ∀ two ∈ order,
      (one.claim? property features invoked).isSome →
        (two.claim? property features invoked).isSome → one = two := by
    intro one here two there claims rival
    exact Factory.eq_of_claims (perm.mem_iff.1 here) (perm.mem_iff.1 there) claims rival
  rw [select, selectIn, selectIn, findSome?_eq_of_perm perm single]

theorem select_of_scalar {property : Property} (scalar : property.shape = .scalar)
    (features : Features) (invoked : List String) :
    select property features invoked =
      ⟨property, .scalar (invoked.contains property.setter.text), features⟩ := by
  rw [select_eq_ite, scalar]
  exact ite_self _

end Plan

/-! The setters that the constructor calls. -/

namespace Blueprint

variable {item : Item} {blueprint : Blueprint} {library : Library}

/-- The name of a setter stands for its own property alone. -/
theorem contains_invoked (distinct : (blueprint.properties.map (·.baseName)).Nodup)
    {property : Property} (mem : property ∈ blueprint.properties) :
    blueprint.invoked.contains property.setter.text = property.default.isSome := by
  rw [Bool.eq_iff_iff, List.contains_iff_mem, invoked, List.mem_map]
  constructor
  · rintro ⟨other, defaulted, same⟩
    obtain ⟨others, default⟩ := List.mem_filter.1 defaulted
    rcases MethodName.text_action_eq_iff.1 same with ⟨_, base⟩ | ⟨bulk, _⟩ | ⟨bulk, _⟩
    · obtain rfl := List.inj_on_of_nodup_map distinct others mem base
      exact default
    · cases bulk
    · cases bulk
  · exact fun default => ⟨property, List.mem_filter.2 ⟨mem, default⟩, rfl⟩

end Blueprint

/-- How a plan handles its field, and whether the field must be set. -/
structure Plan.Handles (plan : Plan) (field : Field) : Prop where
  name : field.name = some plan.property.name
  scalar : (∃ hasDefault, plan.strategy = .scalar hasDefault) ↔ field.ty.IsScalar
  required : plan.kind = .required ↔
    field.ty.IsScalar ∧ ∀ value, ¬field.States (.default value)

namespace Blueprint

variable {item : Item} {blueprint : Blueprint} {library : Library} {field : Field}
  {property : Property}

theorem shape_of_suits {strategy : Strategy} {hasDefault : Bool} {shape : Shape}
    (suits : strategy.Suits shape) (scalar : strategy = .scalar hasDefault) : shape = .scalar := by
  subst scalar
  cases shape with
  | scalar => rfl
  | _ => exact suits.elim

theorem default_isSome_iff (describes : property.Describes field) :
    property.default.isSome = true ↔ ∃ value, field.States (.default value) := by
  obtain ⟨options, read, _, default, _⟩ := describes.options
  rw [default, Field.states_default_iff read]

theorem handles_select (accepted : ofItem item = .ok blueprint)
    (distinct : (blueprint.properties.map (·.baseName)).Nodup)
    (mem : property ∈ blueprint.properties) (describes : property.Describes field)
    (features : Features) :
    (Plan.select property features blueprint.invoked).Handles field := by
  have suits := Plan.select_suits features blueprint.invoked (nullable_of_ofItem accepted mem)
  have plain : property.shape = .scalar ↔ field.ty.IsScalar := by
    rw [describes.shape, Ty.shape_eq_scalar_iff]
  have plan (scalar : property.shape = .scalar) :
      (Plan.select property features blueprint.invoked).strategy =
        .scalar property.default.isSome := by
    rw [Plan.select_of_scalar scalar, contains_invoked distinct mem]
  refine ⟨?_, ⟨?_, fun scalar => ⟨_, plan (plain.2 scalar)⟩⟩, ?_⟩
  · rw [Plan.select_property, describes.name]
  · rintro ⟨hasDefault, scalar⟩
    exact plain.1 (shape_of_suits suits scalar)
  · rw [Plan.kind_eq_required_iff, ← plain, ← not_exists, ← default_isSome_iff describes]
    constructor
    · intro required
      have scalar := shape_of_suits suits required
      exact ⟨scalar, by simp [Strategy.scalar.inj ((plan scalar).symm.trans required)]⟩
    · rintro ⟨scalar, absent⟩
      rw [plan scalar, Bool.eq_false_iff.2 absent]

end Blueprint

/-! Tracked markers. -/

namespace Emit

open Spelling (brace bracket paren words)

namespace Act

/-- The marker that is given to the tracker. -/
def marker? : Act → Option String
  | marks marker | requires marker => some marker
  | _ => none

/-- The field that is touched, unless it is the tracker. -/
def field? : Act → Option String
  | reads field | stores field | removes field => some field
  | _ => none

end Act

theorem marker?_asked (property : Property) : (asked property).filterMap Act.marker? = [] := by
  unfold asked
  cases property.check <;> rfl

theorem field?_asked (property : Property) : (asked property).filterMap Act.field? = [] := by
  unfold asked
  cases property.check <;> rfl

theorem markers_actsOf {plan : Plan} {method : Method} (mem : method ∈ methods plan) :
    (actsOf plan method.name).filterMap Act.marker? =
      if plan.kind = .required ∧
        (method.name = plan.property.setter ∨ method.name = plan.property.getter)
      then [plan.property.marker] else [] := by
  obtain ⟨verb, named⟩ | named := plan.name_of_mem mem
  · rw [named]
    by_cases kind : plan.kind = .required <;> cases verb <;>
      simp [actsOf, Property.method, Property.setter, Property.getter, marker?_asked, kind,
        List.filterMap_cons, Act.marker?]
  · rw [named]
    by_cases kind : plan.kind = .required <;>
      simp [actsOf, Property.getter, kind, List.filterMap_cons, Act.marker?]

theorem fields_actsOf (plan : Plan) (name : MethodName) :
    ∀ field ∈ (actsOf plan name).filterMap Act.field?, field = plan.property.name := by
  by_cases kind : plan.kind = .required <;> cases name with
  | getter _ => simp [actsOf, kind, List.filterMap_cons, Act.field?]
  | action verb _ =>
      cases verb <;> simp [actsOf, field?_asked, kind, List.filterMap_cons, Act.field?]

theorem exists_getter (plan : Plan) :
    ∃ method ∈ methods plan, method.name = plan.property.getter := by
  have named : plan.property.getter ∈ (methods plan).map (·.name) := by
    rw [plan.names_methods]
    exact List.mem_append_right _ (List.mem_singleton_self _)
  exact List.mem_map.1 named

/-- How the methods of a property touch the tracker: they do so with its marker if the property
must be set, and never as a field of their own unless the property is called like it. -/
structure Touches (context : Context) (plan : Plan) (acts : MethodName → List Act) : Prop where
  typed : ∀ method ∈ methods plan, method.Typed context (fragments plan) (acts method.name)
  markers : ∀ method ∈ methods plan, (acts method.name).filterMap Act.marker? =
    if plan.kind = .required ∧
      (method.name = plan.property.setter ∨ method.name = plan.property.getter)
    then [plan.property.marker] else []
  apart : (∀ method ∈ methods plan, ∀ field ∈ (acts method.name).filterMap Act.field?,
    plainName field ≠ trackerName) ↔ plan.property.baseName ≠ trackerName

theorem touches_actsOf (context : Context) (plan : Plan) : Touches context plan (actsOf plan) := by
  refine ⟨typed_methods context plan, fun method => markers_actsOf, ?_, ?_⟩
  · intro apart
    obtain ⟨method, mem, named⟩ := exists_getter plan
    refine apart method mem plan.property.name ?_
    rw [named]
    exact List.mem_filterMap.2 ⟨.reads plan.property.name, by simp [actsOf, Property.getter], rfl⟩
  · intro apart method mem field touched
    rw [fields_actsOf plan method.name field touched]
    exact apart

/-- The tracker as a new builder makes it. -/
def Builder.tracking (builder : Builder) (markers : List String) : Code :=
  words [trackerName, ":"] ++ builder.crate ++
    words [":", ":", "UnsetProperties", ":", ":", "<", builder.context.markers, ">", ":", ":",
      "new"] ++ paren (bracket (Spelling.listed (markers.map fun marker =>
      words [builder.context.markers, ":", ":", marker])))

/-- Variants, the tracked set and the methods that touch it, for fields in this order. -/
structure Builder.Tracks (builder : Builder) (plans : List Plan) (fields : List Field) : Prop where
  handled : List.Forall₂ Plan.Handles plans fields
  /-- The enumeration and the names of its variants, as they are written. -/
  declared : ∃ rest, builder.code =
    Spelling.enumeration builder.context.markers (plans.map (·.property.marker)) ++
      Spelling.naming builder.context builder.variants ++ rest
  distinct : (plans.map (·.property.marker)).Nodup
  variants : builder.variants.map (·.1) = plans.map (·.property.marker)
  names : List.Forall₂ (fun plan field => ∃ name, field.name = some name ∧
    builder.variants.lookup plan.property.marker = some (plainName name)) plans fields
  required : builder.required = (plans.filter (·.kind == .required)).map (·.property.marker)
  /-- A new builder gives these markers to its tracker. -/
  created : ∃ docs : List String, Lifecycle.new.code builder =
    docs.flatMap Code.doc ++ Spelling.attributes [words ["must_use"]] ++
      words ["pub", "fn", "new"] ++ paren [] ++ words ["-", ">", "Self"] ++
      brace (words ["Self"] ++ brace (Spelling.terminated
        (builder.fragments.map (·.initialCode) ++ [builder.tracking builder.required])))
  touched : ∀ plan ∈ plans, ∃ acts, Touches builder.context plan acts

theorem code_new (builder : Builder) : Lifecycle.new.code builder =
    (Lifecycle.new.docs builder.typeName).flatMap Code.doc ++
      Spelling.attributes [words ["must_use"]] ++ words ["pub", "fn", "new"] ++
      paren [] ++ words ["-", ">", "Self"] ++ brace (words ["Self"] ++ brace (Spelling.terminated
        (builder.fragments.map (·.initialCode) ++ [builder.tracking builder.required]))) := by
  have tracker : Code.name trackerName ++ Code.name ":" ++ builder.crate ++
      Code.phrase "::UnsetProperties::<" ++ Code.name builder.markersName ++ Code.phrase ">::new" ++
      Code.parens (Code.brackets
        (Code.commaSeparated false (builder.required.map builder.context.marker))) =
      builder.tracking builder.required := by
    simp only [listed_eq, Builder.tracking, List.append_assoc]
    rfl
  have body : Lifecycle.new.body builder = words ["Self"] ++ brace (Spelling.terminated
      (builder.fragments.map (·.initialCode) ++ [builder.tracking builder.required])) := by
    rw [← tracker]
    rfl
  rw [← body]
  simp only [Lifecycle.code, List.append_assoc]
  rfl

end Emit

namespace Blueprint

variable {item : Item} {blueprint : Blueprint}

theorem handles_plans (accepted : ofItem item = .ok blueprint)
    (distinct : (blueprint.properties.map (·.baseName)).Nodup) (library : Library)
    {fields : List Field} (describe : List.Forall₂ Property.Describes blueprint.properties fields) :
    List.Forall₂ Plan.Handles (blueprint.plans library) fields := by
  have known : List.Forall₂ (fun property field => property ∈ blueprint.properties ∧
      property.Describes field) blueprint.properties fields :=
    (List.forall₂_and_left _ _).2 ⟨fun _ mem => mem, describe⟩
  rw [plans, List.forall₂_map_left_iff]
  exact known.imp fun _ _ both => handles_select accepted distinct both.1 both.2 _

theorem lookup_variants (accepted : ofItem item = .ok blueprint) (library : Library)
    {property : Property} (mem : property ∈ blueprint.properties) :
    (Emit.Builder.ofBlueprint blueprint library).variants.lookup property.marker =
      some property.baseName := by
  obtain ⟨before, after, split⟩ := List.append_of_mem mem
  have markers := nodup_markers accepted
  rw [split, List.map_append, List.map_cons, List.nodup_append] at markers
  rw [Emit.Builder.variants, List.lookup_eq_some_iff]
  refine ⟨before.map fun property => (property.marker, property.baseName),
    after.map fun property => (property.marker, property.baseName), ?_, ?_⟩
  · have properties : (Emit.Builder.ofBlueprint blueprint library).properties =
        before ++ property :: after := split
    rw [properties, List.map_append, List.map_cons]
  · intro variant earlier
    obtain ⟨other, there, rfl⟩ := List.mem_map.1 earlier
    have apart := markers.2.2 other.marker (List.mem_map_of_mem there) property.marker
      List.mem_cons_self
    exact bne_iff_ne.2 apart.symm

theorem tracks_ofBlueprint (accepted : ofItem item = .ok blueprint)
    (distinct : (blueprint.properties.map (·.baseName)).Nodup) (library : Library)
    {fields : List Field} (describe : List.Forall₂ Property.Describes blueprint.properties fields) :
    (Emit.Builder.ofBlueprint blueprint library).Tracks (blueprint.plans library) fields := by
  have handled := handles_plans accepted distinct library describe
  have markers : blueprint.properties.map (·.marker) =
      (blueprint.plans library).map (·.property.marker) := by
    rw [← blueprint.map_property_plans library, List.map_map]
    rfl
  have variants : (Emit.Builder.ofBlueprint blueprint library).variants.map (·.1) =
      (blueprint.plans library).map (·.property.marker) := by
    rw [← markers, Emit.Builder.variants, List.map_map]
    rfl
  have known {plan : Plan} (mem : plan ∈ blueprint.plans library) :
      plan.property ∈ blueprint.properties :=
    blueprint.map_property_plans library ▸ List.mem_map_of_mem mem
  have named : List.Forall₂ (fun plan field => plan ∈ blueprint.plans library ∧
      plan.Handles field) (blueprint.plans library) fields :=
    (List.forall₂_and_left _ _).2 ⟨fun _ mem => mem, handled⟩
  refine ⟨handled, ?_, ?_, variants, ?_, rfl, ⟨_, Emit.code_new _⟩,
    fun plan _ => ⟨_, Emit.touches_actsOf _ plan⟩⟩
  · obtain ⟨doc, traitDoc, code⟩ :=
      Emit.code_eq_written (Emit.Builder.ofBlueprint blueprint library)
    rw [code, ← variants]
    simp only [Emit.Builder.written, List.append_assoc]
    exact ⟨_, rfl⟩
  · exact markers ▸ nodup_markers accepted
  · exact named.imp fun plan _ both =>
      ⟨plan.property.name, both.2.name, lookup_variants accepted library (known both.1)⟩

/-- The declared types and the fields' own defaults settle what is tracked. That the factories
are asked in an order settles nothing. Only a property that is itself called like the tracker has
methods that touch a field of that name without being tracked. -/
theorem tracked_by_declared_types (accepted : ofItem item = .ok blueprint)
    (distinct : (blueprint.properties.map (·.baseName)).Nodup) (library : Library) :
    (∃ fields, item.content = .namedFields fields ∧
      (Emit.Builder.ofBlueprint blueprint library).Tracks (blueprint.plans library) fields) ∧
    ∀ property features invoked,
      (∀ one ∈ Factory.specific, ∀ other ∈ Factory.specific,
        one.Claims property features invoked → other.Claims property features invoked →
          one = other) ∧
      ∀ order : List Factory, order.Perm Factory.specific →
        Plan.selectIn order property features invoked = Plan.select property features invoked := by
  obtain ⟨fields, content, describe⟩ := (describes_of_ofItem accepted).properties
  refine ⟨⟨fields, content, tracks_ofBlueprint accepted distinct library describe⟩, ?_⟩
  intro property features invoked
  exact ⟨fun _ mem _ others => Factory.eq_of_claims mem others,
    fun _ perm => Plan.selectIn_eq_select perm property features invoked⟩

theorem tracks_tally : ∃ fields, Tally.item.content = .namedFields fields ∧
    (Emit.Builder.ofBlueprint Tally.blueprint .indexMap).Tracks
      (Tally.blueprint.plans .indexMap) fields :=
  (tracked_by_declared_types Tally.accepted Tally.emitted.distinct .indexMap).1

example : (Emit.Builder.ofBlueprint Tally.blueprint .indexMap).required = ["Total"] := by
  decide +kernel

/-- A field may be called like the tracker, and is then written to without being tracked. -/
theorem untracked_writes_tracker :
    ∃ blueprint,
      Blueprint.read "struct S \x7b #[builder(default)] __unset: u8 \x7d" = .ok blueprint ∧
      (blueprint.properties.map (·.baseName)).Nodup ∧
      ∃ plan ∈ blueprint.plans .indexMap, plan.kind ≠ .required ∧
        ∃ method ∈ Emit.methods plan, ["self", ".", "__unset", "="] <:+:
          (method.code (Emit.Builder.ofBlueprint blueprint .indexMap).context).tokens :=
  exists_of_read (by decide +kernel)

end Blueprint
end StructBuilder
