import StructBuilder.Proofs.Tracking

/-!
Properties do not see each other. What is emitted for a property depends on its own field and
on what all fields are called: markers are told apart by the names of all fields, and the
setters that the constructor calls are looked up by name. Types, defaults, checks and marks of
other fields do not reach it.
-/

namespace StructBuilder

/-- The declarations agree in everything but what is declared of the fields besides their
names. -/
structure Item.Frames (item other : Item) (fields others : List Field) : Prop where
  name : other.name = item.name
  visibility : other.visibility = item.visibility
  generics : other.generics = item.generics
  attributes : other.attributes = item.attributes
  content : item.content = .namedFields fields
  also : other.content = .namedFields others
  names : others.map (·.name) = fields.map (·.name)

/-- The fields agree in what a property is made of. -/
structure Field.Agrees (field twin : Field) : Prop where
  name : twin.name = field.name
  ty : twin.ty = field.ty
  attributes : twin.attributes = field.attributes

/-! Properties. -/

namespace Property

variable {field twin : Field} {property : Property}

theorem read_of_agrees (agrees : field.Agrees twin) (read : Property.read field = .ok property) :
    Property.read twin = .ok property := by
  obtain ⟨options, given, made⟩ := read_eq_ok_iff.1 read
  obtain ⟨name, named, free, nullable, default, rfl⟩ := ofField_eq_ok_iff.1 made
  refine read_eq_ok_iff.2 ⟨options, agrees.attributes ▸ given, ofField_eq_ok_iff.2 ?_⟩
  refine ⟨name, agrees.name ▸ named, free, agrees.ty ▸ nullable, agrees.ty ▸ default, ?_⟩
  rw [ofNamed, ofNamed, agrees.ty]

theorem marker_of_read (read : Property.read field = .ok property) :
    property.marker = Marker.ofName (plainName (field.name.getD "")) := by
  obtain ⟨named, marked⟩ := named_of_read read
  rw [marked, named, Option.getD_some, baseName]

/-- Before they are told apart, markers depend on the names of fields only. -/
theorem map_marker_of_mapM {fields : List Field} {properties : List Property}
    (read : fields.mapM Property.read = .ok properties) :
    properties.map (·.marker) =
      (fields.map (·.name)).map fun name => Marker.ofName (plainName (name.getD "")) := by
  have all := mapM_eq_ok_iff.1 read
  clear read
  induction all with
  | nil => rfl
  | cons first _ ih =>
      rw [List.map_cons, List.map_cons, List.map_cons, ih, marker_of_read first]

end Property

/-! Plans. -/

/-- A plan asks no more of the constructor than whether it calls the property's setter. -/
theorem Plan.select_congr {property : Property} {invoked others : List String}
    (same : invoked.contains property.setter.text = others.contains property.setter.text)
    (features : Features) : select property features invoked = select property features others := by
  rw [select_eq_ite, select_eq_ite, same]

namespace Blueprint

variable {item other : Item} {blueprint rival : Blueprint} {fields others : List Field}
  {field twin : Field} {position : Nat}

/-- Fields that agree, at one position of declarations of one frame, become one property. -/
theorem property_of_agrees (accepted : ofItem item = .ok blueprint)
    (also : ofItem other = .ok rival) (frames : item.Frames other fields others)
    (here : fields[position]? = some field) (there : others[position]? = some twin)
    (agrees : field.Agrees twin) :
    ∃ property, blueprint.properties[position]? = some property ∧
      rival.properties[position]? = some property := by
  obtain ⟨_, _, properties, _, content, read, rfl⟩ := ofItem_eq_ok_iff.1 accepted
  obtain ⟨_, _, copies, _, second, reread, rfl⟩ := ofItem_eq_ok_iff.1 also
  cases frames.content.symm.trans content
  cases frames.also.symm.trans second
  have markers : copies.map (·.marker) = properties.map (·.marker) := by
    rw [Property.map_marker_of_mapM read, Property.map_marker_of_mapM reread, frames.names]
  obtain ⟨property, found, made⟩ := exists_getElem?_of_forall₂ (mapM_eq_ok_iff.1 read) here
  obtain ⟨copy, found', made'⟩ := exists_getElem?_of_forall₂ (mapM_eq_ok_iff.1 reread) there
  obtain rfl : property = copy :=
    Except.ok.inj ((Property.read_of_agrees agrees made).symm.trans made')
  have place := Property.getElem?_disambiguate properties position
  have place' := Property.getElem?_disambiguate copies position
  rw [found, Option.map_some] at place
  rw [found', Option.map_some, markers] at place'
  exact ⟨_, place, place'⟩

theorem options_of_frames (accepted : ofItem item = .ok blueprint)
    (also : ofItem other = .ok rival) (frames : item.Frames other fields others) :
    rival.options = blueprint.options := by
  obtain ⟨options, _, _, given, _, _, rfl⟩ := ofItem_eq_ok_iff.1 accepted
  obtain ⟨choices, _, _, given', _, _, rfl⟩ := ofItem_eq_ok_iff.1 also
  rw [frames.attributes, given] at given'
  exact (Except.ok.inj given').symm

theorem map_name_of_ofItem (accepted : ofItem item = .ok blueprint)
    (content : item.content = .namedFields fields) :
    fields.map (·.name) = (blueprint.properties.map (·.name)).map some := by
  obtain ⟨_, same, describe⟩ := (describes_of_ofItem accepted).properties
  cases content.symm.trans same
  rw [List.map_map, ← List.forall₂_eq_eq_eq, List.forall₂_map_left_iff, List.forall₂_map_right_iff]
  exact describe.flip.imp fun _ _ describes => describes.name

/-- Declarations of one frame name their properties alike. -/
theorem map_name_of_frames (accepted : ofItem item = .ok blueprint)
    (also : ofItem other = .ok rival) (frames : item.Frames other fields others) :
    rival.properties.map (·.name) = blueprint.properties.map (·.name) := by
  apply List.map_injective_iff.2 (Option.some_injective String)
  rw [← map_name_of_ofItem accepted frames.content, ← map_name_of_ofItem also frames.also,
    frames.names]

theorem distinct_of_frames (accepted : ofItem item = .ok blueprint)
    (also : ofItem other = .ok rival) (frames : item.Frames other fields others)
    (distinct : (blueprint.properties.map (·.baseName)).Nodup) :
    (rival.properties.map (·.baseName)).Nodup := by
  have bases (properties : List Property) :
      properties.map (·.baseName) = (properties.map (·.name)).map plainName :=
    (List.map_map ..).symm
  rwa [bases, map_name_of_frames accepted also frames, ← bases]

/-- The position is planned alike in both declarations. -/
theorem plan_of_agrees (accepted : ofItem item = .ok blueprint)
    (also : ofItem other = .ok rival) (frames : item.Frames other fields others)
    (distinct : (blueprint.properties.map (·.baseName)).Nodup)
    (here : fields[position]? = some field) (there : others[position]? = some twin)
    (agrees : field.Agrees twin) (library : Library) :
    ∃ plan, (blueprint.plans library)[position]? = some plan ∧
      (rival.plans library)[position]? = some plan := by
  obtain ⟨property, found, found'⟩ :=
    property_of_agrees accepted also frames here there agrees
  have bases := distinct_of_frames accepted also frames distinct
  have features : rival.features library = blueprint.features library := by
    rw [Blueprint.features, Blueprint.features, options_of_frames accepted also frames]
  -- Either constructor calls the setter if the field itself declares a default.
  have invoked : rival.invoked.contains property.setter.text =
      blueprint.invoked.contains property.setter.text := by
    rw [contains_invoked bases (List.mem_of_getElem? found'),
      contains_invoked distinct (List.mem_of_getElem? found)]
  refine ⟨Plan.select property (blueprint.features library) blueprint.invoked, ?_, ?_⟩
  · rw [plans, List.getElem?_map, found, Option.map_some]
  · rw [plans, List.getElem?_map, found', Option.map_some, features, Plan.select_congr invoked]

end Blueprint

/-! What builders hold for a property. -/

namespace Emit

/-- All text written out for one property in a builder. -/
structure Written where
  declaration : Code
  initial : Code
  methods : Code
  /-- Declared only if the property is checked. -/
  hook : Option Code
  final : Code
  mergeValue : Code
  mergeBuilder : Code
  clear : Code
  partialClear : Code
  helpers : List Code

def Fragments.written (context : Context) (declared : Option Hook) (fragments : Fragments) :
    Written where
  declaration := fragments.declarationCode context
  initial := fragments.initialCode
  methods := fragments.methodsCode context
  hook := declared.map (·.code context)
  final := fragments.finalCode
  mergeValue := fragments.mergeValueCode "value"
  mergeBuilder := fragments.mergeBuilderCode "other"
  clear := fragments.clearCode "template"
  partialClear := fragments.partialClearCode
  helpers := fragments.helpers.map StaticHelper.code

/-- The text for the property at a position. -/
def Builder.written? (builder : Builder) (position : Nat) : Option Written :=
  builder.fragments[position]?.map fun fragments =>
    fragments.written builder.context (builder.hooks.find? (·.name == fragments.hook.name))

section

variable {blueprint : Blueprint} {library : Library} {plan : Plan}

/-- A plan finds its own hook among those declared, if it is checked, and none otherwise. -/
theorem find?_hooks (distinct : (blueprint.properties.map (·.baseName)).Nodup)
    (mem : plan ∈ blueprint.plans library) :
    (Builder.ofBlueprint blueprint library).hooks.find? (·.name == (hook plan).name) =
      if plan.property.check then some (hook plan) else none := by
  have bases := blueprint.map_baseName_plans library ▸ distinct
  have only {other : Plan} (others : other ∈ blueprint.plans library)
      (same : (hook other).name = (hook plan).name) : other = plan := by
    rw [name_hook, name_hook] at same
    exact List.inj_on_of_nodup_map bases others mem (MethodName.action.inj same).2
  cases found : (Builder.ofBlueprint blueprint library).hooks.find?
      (·.name == (hook plan).name) with
  | some declared =>
      obtain ⟨other, chosen, rfl⟩ := List.mem_map.1 (List.mem_of_find?_eq_some found)
      obtain ⟨others, checked⟩ := List.mem_filter.1 chosen
      have same := List.find?_some found
      obtain rfl := only others (beq_iff_eq.1 same)
      rw [if_pos checked]
  | none =>
      rw [if_neg]
      intro checked
      have declared : hook plan ∈ (Builder.ofBlueprint blueprint library).hooks :=
        List.mem_map_of_mem (List.mem_filter.2 ⟨mem, checked⟩)
      exact absurd (beq_self_eq_true _) (List.find?_eq_none.1 found _ declared)

/-- The builder handles the property at the position as the plan says. -/
structure Builder.Holds (builder : Builder) (position : Nat) (plan : Plan) : Prop where
  fragments : builder.fragments[position]? = some (Emit.fragments plan)
  required : plan.property.marker ∈ builder.required ↔ plan.kind = .required
  hook : builder.hooks.find? (·.name == (Emit.hook plan).name) =
    if plan.property.check then some (Emit.hook plan) else none
  helpers : ∀ helper ∈ requests plan, helper ∈ builder.helpers

theorem holds_ofBlueprint {item : StructBuilder.Item} (accepted : Blueprint.ofItem item = .ok blueprint)
    (distinct : (blueprint.properties.map (·.baseName)).Nodup) {position : Nat}
    (at_ : (blueprint.plans library)[position]? = some plan) :
    (Builder.ofBlueprint blueprint library).Holds position plan := by
  have mem := List.mem_of_getElem? at_
  have markers := Blueprint.nodup_markers accepted
  rw [← blueprint.map_property_plans library, List.map_map] at markers
  refine ⟨?_, ⟨fun tracked => ?_, fun kind => ?_⟩, find?_hooks distinct mem, fun helper asked => ?_⟩
  · have listed : (Builder.ofBlueprint blueprint library).fragments =
        (blueprint.plans library).map Emit.fragments := rfl
    rw [listed, List.getElem?_map, at_, Option.map_some]
  · obtain ⟨other, chosen, same⟩ := List.mem_map.1 tracked
    obtain ⟨others, required⟩ := List.mem_filter.1 chosen
    obtain rfl := List.inj_on_of_nodup_map markers others mem same
    exact beq_iff_eq.1 required
  · exact List.mem_map_of_mem (List.mem_filter.2 ⟨mem, beq_iff_eq.2 kind⟩)
  · refine List.mem_filter.2 ⟨by cases helper <;> simp, ?_⟩
    exact List.any_eq_true.2 ⟨plan, mem, List.contains_iff_mem.2 asked⟩

theorem Builder.Holds.written? {builder : Builder} {position : Nat}
    (holds : builder.Holds position plan) : builder.written? position =
      some ((Emit.fragments plan).written builder.context
        (if plan.property.check then some (Emit.hook plan) else none)) := by
  rw [Builder.written?, holds.fragments, Option.map_some, ← holds.hook]
  rfl

end
end Emit

namespace Blueprint

variable {item other : Item} {blueprint rival : Blueprint} {fields others : List Field}
  {field twin : Field} {position : Nat}

theorem context_of_frames (accepted : ofItem item = .ok blueprint)
    (also : ofItem other = .ok rival) (frames : item.Frames other fields others)
    (library : Library) :
    (Emit.Builder.ofBlueprint rival library).context =
      (Emit.Builder.ofBlueprint blueprint library).context := by
  have options := options_of_frames accepted also frames
  obtain ⟨_, _, _, _, _, _, rfl⟩ := ofItem_eq_ok_iff.1 accepted
  obtain ⟨_, _, _, _, _, _, rfl⟩ := ofItem_eq_ok_iff.1 also
  cases options
  simp only [Emit.Builder.context, Emit.Builder.ofBlueprint, Emit.Builder.ofPlans,
    Emit.Builder.typeName, Emit.Builder.markersName, Emit.Builder.checksName,
    Emit.Builder.arguments, frames.name, frames.generics]

/-- Whatever else two declarations of one frame declare, a field that they have in common is
planned alike, and both builders hold and write out the same for it. -/
theorem isolated_of_agrees (accepted : ofItem item = .ok blueprint)
    (also : ofItem other = .ok rival) (frames : item.Frames other fields others)
    (distinct : (blueprint.properties.map (·.baseName)).Nodup)
    (here : fields[position]? = some field) (there : others[position]? = some twin)
    (ty : twin.ty = field.ty) (attributes : twin.attributes = field.attributes)
    (library : Library) :
    ∃ plan written,
      ((blueprint.plans library)[position]? = some plan ∧
        (Emit.Builder.ofBlueprint blueprint library).Holds position plan ∧
        (Emit.Builder.ofBlueprint blueprint library).written? position = some written) ∧
      (rival.plans library)[position]? = some plan ∧
        (Emit.Builder.ofBlueprint rival library).Holds position plan ∧
        (Emit.Builder.ofBlueprint rival library).written? position = some written := by
  have named : twin.name = field.name := by
    have names := congrArg (·[position]?) frames.names
    simp only [List.getElem?_map, here, there, Option.map_some, Option.some.injEq] at names
    exact names
  obtain ⟨plan, planned, planned'⟩ :=
    plan_of_agrees accepted also frames distinct here there ⟨named, ty, attributes⟩ library
  have holds := Emit.holds_ofBlueprint accepted distinct planned
  have holds' := Emit.holds_ofBlueprint also (distinct_of_frames accepted also frames distinct)
    planned'
  have shown := holds'.written?
  rw [context_of_frames accepted also frames library] at shown
  exact ⟨plan, _, ⟨planned, holds, holds.written?⟩, planned', holds', shown⟩

end Blueprint

namespace Tally

def fields : List Field :=
  match item.content with
  | .namedFields fields => fields
  | _ => []

/-- All fields but the table are declared like the last one. -/
def levelled : List Field :=
  fields.map fun field =>
    if field.name = some "table" then field
    else match fields.getLast? with
      | some last => { field with ty := last.ty, attributes := last.attributes }
      | none => field

def levelledItem : Item :=
  { item with content := .namedFields levelled }

theorem levelled_frames : item.Frames levelledItem fields levelled where
  name := rfl
  visibility := rfl
  generics := rfl
  attributes := rfl
  content := rfl
  also := rfl
  names := by decide +kernel

end Tally

namespace Blueprint

theorem isolated_table : ∃ rival plan, ofItem Tally.levelledItem = .ok rival ∧
    (rival.plans .indexMap)[2]? = some plan ∧ (Tally.blueprint.plans .indexMap)[2]? = some plan := by
  have accepted : (ofItem Tally.levelledItem).isOk = true := by decide +kernel
  cases read : ofItem Tally.levelledItem with
  | error refusal =>
      rw [read] at accepted
      cases accepted
  | ok rival =>
      have kept : Tally.levelled[2]? = Tally.fields[2]? := by rfl
      obtain ⟨field, here⟩ : ∃ field, Tally.fields[2]? = some field := ⟨_, rfl⟩
      obtain ⟨plan, _, ⟨planned, _⟩, planned', _⟩ := isolated_of_agrees Tally.accepted read
        Tally.levelled_frames Tally.emitted.distinct here (kept.trans here) rfl rfl .indexMap
      exact ⟨rival, plan, rfl, planned', planned⟩

end Blueprint
end StructBuilder
