import StructBuilder.Proofs.Isolation
import StructBuilder.Proofs.Simulation

/-!
Hooks that are left as they are declared are not noticed. A declaration with the checks of
some fields taken away is accepted whenever it was accepted with them. Its methods are
emitted differently, but sessions on both builders go the same way as long as nobody
overrides the hooks that are gone.
-/

namespace StructBuilder

/-- The option says whether the field is checked. -/
def FieldOption.isCheck : FieldOption → Bool
  | .check _ => true
  | _ => false

/-- The field without its check, if it is one of the named, and unchanged otherwise. -/
structure Field.Unchecks (names : List String) (field plain : Field) : Prop where
  name : plain.name = field.name
  ty : plain.ty = field.ty
  kept : ∀ name, field.name = some name → name ∉ names → plain.attributes = field.attributes
  gone : ∀ name, field.name = some name → name ∈ names →
    Options.readAll FieldOptions.item plain.attributes =
      (Options.readAll FieldOptions.item field.attributes).map (·.filter (!·.isCheck))

namespace FieldOptions

/-- Without the options that say so, nothing is checked, and nothing else changes. -/
theorem foldl_apply_filter (given : List FieldOption) (options : FieldOptions) :
    (given.filter (!·.isCheck)).foldl apply { options with check := false } =
      { given.foldl apply options with check := false } := by
  induction given generalizing options with
  | nil => rfl
  | cons option rest ih =>
      cases option with
      | check on => exact ih { options with check := on }
      | default value => exact ih { options with default := some value }
      | nullable on => exact ih { options with nullable := options.nullable || on }

theorem read_of_filter {attributes others : List Attribute} {options : FieldOptions}
    (gone : Options.readAll item others =
      (Options.readAll item attributes).map (·.filter (!·.isCheck)))
    (given : read attributes = .ok options) :
    read others = .ok { options with check := false } := by
  rw [read] at given ⊢
  rw [gone]
  cases items : Options.readAll item attributes with
  | error refusal =>
      rw [items] at given
      cases given
  | ok items' =>
      rw [items] at given
      cases given
      exact congrArg Except.ok (foldl_apply_filter items' none)

end FieldOptions

namespace Property

/-- The property without its check, if it is one of the named. -/
def uncheck (names : List String) (property : Property) : Property :=
  { property with check := property.check && !names.contains property.name }

variable {names : List String} {field plain : Field} {property : Property}

theorem read_of_unchecks (unchecks : field.Unchecks names plain)
    (read : Property.read field = .ok property) :
    Property.read plain = .ok (property.uncheck names) := by
  obtain ⟨options, given, made⟩ := read_eq_ok_iff.1 read
  obtain ⟨name, named, free, nullable, default, rfl⟩ := ofField_eq_ok_iff.1 made
  have settled {settings : FieldOptions} (gave : FieldOptions.read plain.attributes = .ok settings)
      (same : settings = { options with check := options.check && !names.contains name }) :
      Property.read plain = .ok ((ofNamed field name options).uncheck names) := by
    subst same
    refine read_eq_ok_iff.2 ⟨_, gave, ofField_eq_ok_iff.2 ⟨name, unchecks.name ▸ named, free,
      unchecks.ty ▸ nullable, unchecks.ty ▸ default, ?_⟩⟩
    rw [ofNamed, ofNamed, uncheck, unchecks.ty]
  by_cases listed : name ∈ names
  · refine settled (FieldOptions.read_of_filter (unchecks.gone name named listed) given) ?_
    rw [List.contains_iff_mem.2 listed, Bool.not_true, Bool.and_false]
  · have absent : names.contains name = false := by simpa using listed
    refine settled (unchecks.kept name named listed ▸ given) ?_
    rw [absent, Bool.not_false, Bool.and_true]

theorem disambiguate_uncheck (names : List String) (properties : List Property) :
    disambiguate (properties.map (uncheck names)) =
      (disambiguate properties).map (uncheck names) := by
  apply List.ext_getElem?
  intro i
  have markers : (properties.map (uncheck names)).map (·.marker) = properties.map (·.marker) := by
    rw [List.map_map]
    rfl
  rw [getElem?_disambiguate, List.getElem?_map, List.getElem?_map, getElem?_disambiguate, markers]
  cases properties[i]? <;> rfl

end Property

namespace Blueprint

/-- The blueprint without the checks of the named fields. -/
def uncheck (names : List String) (blueprint : Blueprint) : Blueprint :=
  { blueprint with properties := blueprint.properties.map (Property.uncheck names) }

variable {names : List String} {item plain : Item} {blueprint : Blueprint}
  {fields others : List Field}

theorem ofItem_of_unchecks (accepted : ofItem item = .ok blueprint)
    (frames : item.Frames plain fields others)
    (unchecks : List.Forall₂ (Field.Unchecks names) fields others) :
    ofItem plain = .ok (blueprint.uncheck names) := by
  obtain ⟨options, _, properties, given, content, read, rfl⟩ := ofItem_eq_ok_iff.1 accepted
  cases frames.content.symm.trans content
  have others' : others.mapM Property.read = .ok (properties.map (Property.uncheck names)) := by
    rw [mapM_eq_ok_iff] at read ⊢
    rw [List.forall₂_map_right_iff]
    clear accepted content frames
    induction unchecks generalizing properties with
    | nil => cases read; exact .nil
    | cons first _ ih =>
        cases read with
        | cons made rest => exact .cons (Property.read_of_unchecks first made) (ih _ rest)
  refine ofItem_eq_ok_iff.2 ⟨options, others, _, frames.attributes ▸ given, frames.also, others', ?_⟩
  rw [uncheck, Property.disambiguate_uncheck, frames.name, frames.visibility, frames.generics]

theorem distinct_uncheck (distinct : (blueprint.properties.map (·.baseName)).Nodup) :
    ((blueprint.uncheck names).properties.map (·.baseName)).Nodup := by
  rw [uncheck, List.map_map]
  exact distinct

end Blueprint

/-! Plans. -/

/-- The plan without the check of its property, if that is one of the named. -/
def Plan.uncheck (names : List String) (plan : Plan) : Plan :=
  { plan with property := plan.property.uncheck names }

namespace Plan

theorem select_uncheck (names : List String) (property : Property) (features : Features)
    (invoked : List String) :
    select (property.uncheck names) features invoked =
      (select property features invoked).uncheck names := by
  rw [select_eq_ite, select_eq_ite, apply_ite (uncheck names)]
  rfl

theorem matches_uncheck (names : List String) (plan : Plan) : plan.Matches (plan.uncheck names) :=
  ⟨rfl, rfl, rfl⟩

theorem storage_uncheck (names : List String) (plan : Plan) :
    Emit.storage (plan.uncheck names) = Emit.storage plan := rfl

end Plan

theorem Blueprint.plans_uncheck (names : List String) (blueprint : Blueprint) (library : Library) :
    (blueprint.uncheck names).plans library =
      (blueprint.plans library).map (Plan.uncheck names) := by
  have invoked : (blueprint.uncheck names).invoked = blueprint.invoked := by
    rw [Blueprint.invoked, Blueprint.invoked, uncheck, List.filter_map, List.map_map]
    rfl
  have features : (blueprint.uncheck names).features library = blueprint.features library := rfl
  rw [plans, plans, invoked, features, uncheck, List.map_map, List.map_map]
  exact List.map_congr_left fun property _ => Plan.select_uncheck names property _ _

/-- Nothing is stored differently without checks. -/
theorem Blueprint.pairs_uncheck (blueprint : Blueprint) (names : List String) (library : Library) :
    List.Forall₂ (fun plan other => plan.Matches other ∧
        Emit.storage other = Emit.storage plan) (blueprint.plans library)
      ((blueprint.uncheck names).plans library) := by
  rw [Blueprint.plans_uncheck, List.forall₂_map_right_iff, List.forall₂_same]
  exact fun plan _ => ⟨plan.matches_uncheck names, plan.storage_uncheck names⟩

namespace Run

variable {V : Type} [BEq V] {machine twin : Machine V} {blueprint : Blueprint} {library : Library}
  {names : List String} {plans : List Plan} {state echo : State V}

/-- Where fields are stored in the same way, states that hold the same are the same. -/
theorem State.Reflects.eq_of_storage {others : List Plan} (reflects : state.Reflects echo)
    (pairs : List.Forall₂ (fun plan other => plan.Matches other ∧
      Emit.storage other = Emit.storage plan) plans others) (planned : machine.Planned plans)
    (consistent : state.Consistent plans) (kept : echo.Consistent others) : echo = state := by
  apply State.eq_of_cell? reflects.names (reflects.names ▸ consistent.distinct planned) ?_
    reflects.unset
  intro field
  by_cases known : field ∈ state.names
  · obtain ⟨plan, mem, rfl⟩ := List.mem_map.1 (consistent.names ▸ known)
    obtain ⟨position, here⟩ := List.mem_iff_getElem?.1 mem
    obtain ⟨other, there, pair, storage⟩ := exists_getElem?_of_forall₂ pairs here
    obtain ⟨cell, found, suits⟩ := consistent.cells plan mem
    obtain ⟨shadow, found', suits'⟩ := kept.cells other (List.mem_of_getElem? there)
    rw [pair.name] at found'
    have same := reflects.contents plan.property.name
    rw [found, found'] at same
    have holds : cell.Reflects shadow := Option.some.inj same
    rw [found, found', holds.eq suits.fits (storage ▸ suits'.fits)]
  · rw [State.cell?_eq_none known, State.cell?_eq_none (reflects.names ▸ known)]

section

variable {item plain : Item} {fields others : List Field}

omit [BEq V] in
theorem emitted_uncheck (emitted : machine.Emitted blueprint library)
    (also : Blueprint.ofItem plain = .ok (blueprint.uncheck names)) :
    (machine.rebuilt (blueprint.uncheck names) library).Emitted (blueprint.uncheck names) library
    where
  accepted := ⟨plain, also⟩
  distinct := Blueprint.distinct_uncheck emitted.distinct
  builder := rfl

omit [BEq V] in
/-- A hook that accepts everything, and a check that is not there, say the same. -/
theorem verdict_uncheck (default : ∀ name ∈ names,
      machine.hook? (.action .check (plainName name)) = none) (property : Property) :
    (machine.rebuilt blueprint library).verdict (property.uncheck names) =
      machine.verdict property := by
  funext state values
  unfold Machine.verdict
  by_cases listed : property.name ∈ names
  · have hook : machine.hook? (property.method .check) = none := default property.name listed
    have gone : (property.uncheck names).check = false := by
      simp [Property.uncheck, listed]
    rw [gone, hook]
    cases property.check <;> rfl
  · have kept : property.uncheck names = property := by
      have absent : names.contains property.name = false := by simpa using listed
      rw [Property.uncheck, absent, Bool.not_false, Bool.and_true]
    rw [kept]
    rfl

theorem lockstep_uncheck (emitted : machine.Emitted blueprint library)
    (also : Blueprint.ofItem plain = .ok (blueprint.uncheck names))
    (default : ∀ name ∈ names, machine.hook? (.action .check (plainName name)) = none) :
    machine.Lockstep (machine.rebuilt (blueprint.uncheck names) library)
      (blueprint.plans library) ((blueprint.uncheck names).plans library) := by
  have planned := emitted.planned
  have pairs := blueprint.pairs_uncheck names library
  have unchecked {plan other : Plan} (mem : plan ∈ blueprint.plans library)
      (mem' : other ∈ (blueprint.uncheck names).plans library) (pair : plan.Matches other) :
      other = plan.uncheck names := by
    rw [Blueprint.plans_uncheck] at mem'
    obtain ⟨original, known, rfl⟩ := List.mem_map.1 mem'
    rw [planned.eq_of_name known mem pair.name]
  have typeName : (machine.rebuilt (blueprint.uncheck names) library).typeName =
      machine.typeName := by
    rw [Machine.typeName, Machine.typeName, emitted.builder]
    rfl
  refine ⟨planned, (emitted_uncheck emitted also).planned, pairs.imp fun _ _ both => both.1,
    typeName, rfl, rfl, ?_, ?_⟩
  · intro plan mem other mem' pair cell shadow fits fit
    rw [unchecked mem mem' pair, Plan.storage_uncheck] at fit
    exact Cell.same_eq_of_fits fit fits
  · intro plan mem other mem' pair state echo consistent kept reflects
    obtain rfl := reflects.eq_of_storage pairs planned consistent kept
    rw [unchecked mem mem' pair]
    exact congrFun (verdict_uncheck default plan.property) echo

/-- Twin sessions are one session if nothing is stored differently. -/
theorem Session.Twins.eq_of_storage {session copy : Session V} {others : List Plan}
    (twins : Session.Twins machine plans others session copy)
    (pairs : List.Forall₂ (fun plan other => plan.Matches other ∧
      Emit.storage other = Emit.storage plan) plans others) (planned : machine.Planned plans) :
    copy = session := by
  obtain ⟨builders, values, _⟩ := twins
  have same : copy.builders = session.builders := by
    rw [← List.forall₂_eq_eq_eq]
    exact (builders.imp fun _ _ states =>
      (states.reflects.eq_of_storage pairs planned states.consistent states.kept).symm).flip.imp
        fun _ _ eq => Eq.symm eq
  cases session
  cases copy
  cases same
  cases values
  rfl

/-- Sessions on both builders have the same results, and come to the same states and values,
step by step, with getters that answer the same. -/
theorem unnoticed_of_unchecks [Ord V] (accepted : Blueprint.ofItem item = .ok blueprint)
    (distinct : (blueprint.properties.map (·.baseName)).Nodup)
    (builder : machine.builder = .ofBlueprint blueprint library)
    (frames : item.Frames plain fields others)
    (unchecks : List.Forall₂ (Field.Unchecks names) fields others)
    (default : ∀ name ∈ names, machine.hook? (.action .check (plainName name)) = none) :
    Blueprint.ofItem plain = .ok (blueprint.uncheck names) ∧
      ∀ steps : List (Step V), (∀ step ∈ steps, step.Accepted machine) →
        let bare := machine.rebuilt (blueprint.uncheck names) library
        (Session.start bare).transcript bare
            (fun session => (session, session.builders.map bare.shown)) steps =
          (Session.start machine).transcript machine
            (fun session => (session, session.builders.map machine.shown)) steps := by
  have also := Blueprint.ofItem_of_unchecks accepted frames unchecks
  have emitted : machine.Emitted blueprint library := ⟨⟨item, accepted⟩, distinct, builder⟩
  have lockstep := lockstep_uncheck emitted also default
  refine ⟨also, fun steps fine => ?_⟩
  refine lockstep.transcript_eq (fun session copy twins => ?_) (Session.Twins.start lockstep) fine
  have shown := lockstep.map_shown twins
  obtain rfl := twins.eq_of_storage (blueprint.pairs_uncheck names library) emitted.planned
  exact congrArg (copy, ·) shown

end

/-! A tally whose items need not be digits. -/

/-- The tally, with the hook for items left as it is declared. -/
def lenient : Machine Nat :=
  { Tally.machine with
    hook? := fun name => if name = .action .check "items" then none else some Tally.digits }

def looseFields : List Field :=
  Tally.fields.map fun field =>
    if field.name = some "items" then { field with attributes := [] } else field

def looseItem : Item :=
  { Tally.item with content := .namedFields looseFields }

theorem loose_frames : Tally.item.Frames looseItem Tally.fields looseFields where
  name := rfl
  visibility := rfl
  generics := rfl
  attributes := rfl
  content := rfl
  also := rfl
  names := by decide +kernel

theorem items_unchecked : ∀ field ∈ Tally.fields, field.name = some "items" →
    ((Options.readAll FieldOptions.item field.attributes).map
      (·.filter (!·.isCheck))).toOption.map List.isEmpty = some true := by
  decide +kernel

theorem loose_unchecks :
    List.Forall₂ (Field.Unchecks ["items"]) Tally.fields looseFields := by
  rw [looseFields, List.forall₂_map_right_iff, List.forall₂_same]
  intro field mem
  by_cases named : field.name = some "items"
  · rw [if_pos named]
    refine ⟨rfl, rfl, fun name same absent => ?_, fun _ _ _ => ?_⟩
    · obtain rfl := Option.some.inj (named.symm.trans same)
      exact absurd List.mem_cons_self absent
    · have gone := items_unchecked field mem named
      cases items : (Options.readAll FieldOptions.item field.attributes).map
          (·.filter (!·.isCheck)) with
      | error refusal =>
          rw [items] at gone
          cases gone
      | ok kept =>
          rw [items] at gone
          obtain rfl := List.isEmpty_iff.1 (Option.some.inj gone)
          rfl
  · rw [if_neg named]
    refine ⟨rfl, rfl, fun _ _ _ => rfl, fun name same listed => ?_⟩
    obtain rfl := List.mem_singleton.1 listed
    exact absurd same named

/-- A refused entry, a batch that only the hook for items would refuse, and a build. -/
def attempts : List (Step Nat) :=
  [.call 0 "put_table" [.one 2, .one 12], .call 0 "add_all_items" [.elements [12, 3]],
   .call 0 "set_total" [.one 4], .build 0]

theorem attempts_accepted : ∀ step ∈ attempts, step.Accepted lenient := by
  decide +kernel

theorem unnoticed_of_loose_items :
    let bare := lenient.rebuilt (Tally.blueprint.uncheck ["items"]) .indexMap
    (Session.start bare).transcript bare
        (fun session => (session, session.builders.map bare.shown)) attempts =
      (Session.start lenient).transcript lenient
        (fun session => (session, session.builders.map lenient.shown)) attempts := by
  have default : ∀ name ∈ ["items"], lenient.hook? (.action .check (plainName name)) = none := by
    intro name mem
    obtain rfl := List.mem_singleton.1 mem
    decide +kernel
  exact (unnoticed_of_unchecks Tally.accepted Tally.emitted.distinct rfl loose_frames
    loose_unchecks default).2 attempts attempts_accepted

end Run
end StructBuilder
