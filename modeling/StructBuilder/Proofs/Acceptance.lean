import StructBuilder.Proofs.Plan

/-!
Which declarations are accepted, and what is reported of all others. Whatever can be wrong
with a declaration has its place in one order: the options of the declaration, its kind,
then field by field the options, the name, a mark as nullable and a default. The first
fault in this order is the one that is reported.
-/

namespace StructBuilder

/-! First faults. -/

/-- The refusal that belongs to the first fault. -/
def FirstFault {F : Type} (before : F → F → Prop) (faulty : F → Refusal → Prop)
    (refusal : Refusal) : Prop :=
  ∃ fault, faulty fault refusal ∧ ∀ earlier other, before earlier fault → ¬faulty earlier other

theorem FirstFault.unique {F : Type} {before : F → F → Prop} {faulty : F → Refusal → Prop}
    {one other : Refusal} (first : FirstFault before faulty one)
    (second : FirstFault before faulty other)
    (total : ∀ one other, before one other ∨ one = other ∨ before other one)
    (single : ∀ fault one other, faulty fault one → faulty fault other → one = other) :
    one = other := by
  obtain ⟨fault, found, none⟩ := first
  obtain ⟨rival, there, nothing⟩ := second
  rcases total fault rival with early | rfl | early
  · exact absurd found (nothing fault one early)
  · exact single fault one other found there
  · exact absurd there (none rival other early)

theorem mapM_eq_error_iff {α β ε : Type} {f : α → Except ε β} {items : List α} {error : ε} :
    items.mapM f = .error error ↔ ∃ before item after, items = before ++ item :: after ∧
      (∀ earlier ∈ before, ∃ result, f earlier = .ok result) ∧ f item = .error error := by
  induction items with
  | nil => simp [pure, Except.pure]
  | cons first rest ih =>
      rw [List.mapM_cons]
      cases answer : f first with
      | error other =>
          constructor
          · rintro ⟨⟩
            exact ⟨[], first, rest, rfl, fun _ mem => absurd mem List.not_mem_nil, answer⟩
          · rintro ⟨before, item, after, split, passed, failed⟩
            cases before with
            | nil =>
                cases split
                cases answer.symm.trans failed
                rfl
            | cons head tail =>
                cases split
                obtain ⟨_, ok⟩ := passed first List.mem_cons_self
                cases answer.symm.trans ok
      | ok result =>
          have later : (do let bs ← rest.mapM f; pure (result :: bs) : Except ε (List β)) =
              .error error ↔ rest.mapM f = .error error := by
            cases rest.mapM f <;> simp [bind, Except.bind, pure, Except.pure]
          refine later.trans (ih.trans ?_)
          constructor
          · rintro ⟨before, item, after, rfl, passed, failed⟩
            exact ⟨first :: before, item, after, rfl,
              List.forall_mem_cons.2 ⟨⟨result, answer⟩, passed⟩, failed⟩
          · rintro ⟨before, item, after, split, passed, failed⟩
            cases before with
            | nil =>
                cases split
                cases answer.symm.trans failed
            | cons head tail =>
                cases split
                exact ⟨tail, item, after, rfl, (List.forall_mem_cons.1 passed).2, failed⟩

/-! Options of a field. -/

namespace FieldOptions

theorem nullable_foldl (stated : List FieldOption) (options : FieldOptions) :
    (stated.foldl apply options).nullable = true ↔
      options.nullable = true ∨ .nullable true ∈ stated := by
  induction stated generalizing options with
  | nil => simp
  | cons option rest ih =>
      rw [List.foldl_cons, ih, List.mem_cons]
      cases option with
      | default _ | check _ => simp [apply]
      | nullable on => cases on <;> simp [apply]

theorem default_foldl (stated : List FieldOption) (options : FieldOptions) :
    (stated.foldl apply options).default.isSome = true ↔
      options.default.isSome = true ∨ ∃ value, .default value ∈ stated := by
  induction stated generalizing options with
  | nil => simp
  | cons option rest ih =>
      rw [List.foldl_cons, ih]
      cases option <;> simp [apply]

theorem read_eq_ok_iff {attributes : List Attribute} {options : FieldOptions} :
    read attributes = .ok options ↔
      ∃ stated, Options.readAll item attributes = .ok stated ∧ stated.foldl apply none = options := by
  unfold read
  cases Options.readAll item attributes <;> simp [bind, Except.bind, pure, Except.pure]

end FieldOptions

/-! Fields. -/

/-- What can be wrong with a field. -/
inductive Flaw where
  | options
  | unnamed
  | reserved
  | nullable
  | default
  deriving DecidableEq, Repr

/-- The order in which flaws are looked for. -/
def Flaw.rank : Flaw → Nat
  | .options => 0
  | .unnamed => 1
  | .reserved => 2
  | .nullable => 3
  | .default => 4

theorem Flaw.total (one other : Flaw) :
    one.rank < other.rank ∨ one = other ∨ other.rank < one.rank := by
  cases one <;> cases other <;> decide

namespace Field

/-- The option is one of those in the field's attributes. -/
def States (field : Field) (option : FieldOption) : Prop :=
  ∃ stated, Options.readAll FieldOptions.item field.attributes = .ok stated ∧ option ∈ stated

/-- The field has the flaw, and this is what is reported of it. -/
inductive Flawed (field : Field) : Flaw → Refusal → Prop where
  | options {refusal : Refusal} (unread : FieldOptions.read field.attributes = .error refusal) :
      Flawed field .options refusal
  | unnamed (absent : field.name = none) :
      Flawed field .unnamed (.refused .fieldsNeedNames (some field.source))
  | reserved {name : String} (named : field.name = some name)
      (reserved : plainName name ∈ Property.reservedNames) :
      Flawed field .reserved (.refused (.reservedName (plainName name)) (some name))
  | nullable (marked : field.States (.nullable true)) (other : field.ty.shape.isOptional = false) :
      Flawed field .nullable (.refused .nullableWithoutOption (some "nullable"))
  | default {value : DefaultValue} (given : field.States (.default value))
      (container : field.ty.shape.isContainer = true) :
      Flawed field .default (.refused .defaultOnCollection (some "default"))

/-- What is asked of a field. -/
structure Acceptable (field : Field) : Prop where
  options : ∃ options, FieldOptions.read field.attributes = .ok options
  name : ∃ name, field.name = some name ∧ plainName name ∉ Property.reservedNames
  nullable : field.States (.nullable true) → field.ty.shape.isOptional = true
  default : ∀ value, field.States (.default value) → field.ty.shape.isContainer = false

end Field

/-- The property that a field gives rise to; its marker depends on the other fields. -/
structure Property.Describes (property : Property) (field : Field) : Prop where
  name : field.name = some property.name
  ty : property.ty = field.ty
  shape : property.shape = field.ty.shape
  options : ∃ options, FieldOptions.read field.attributes = .ok options ∧
    property.check = options.check ∧ property.default = options.default ∧
    property.nullableMarkers = (if field.ty.shape.isOptional then [.optionType] else []) ++
      (if options.nullable then [.requested] else [])

namespace Field

variable {field : Field} {flaw : Flaw} {one other : Refusal}

theorem Flawed.single (first : field.Flawed flaw one) (second : field.Flawed flaw other) :
    one = other := by
  cases first with
  | options unread =>
      cases second with
      | options again => exact Except.error.inj (unread.symm.trans again)
  | unnamed _ | nullable _ _ | default _ _ =>
      cases second
      rfl
  | reserved named _ =>
      cases second with
      | reserved again _ =>
          cases named.symm.trans again
          rfl

theorem Acceptable.not_flawed (acceptable : field.Acceptable) : ¬field.Flawed flaw one := by
  intro flawed
  cases flawed with
  | options unread =>
      obtain ⟨_, read⟩ := acceptable.options
      cases unread.symm.trans read
  | unnamed absent =>
      obtain ⟨_, named, _⟩ := acceptable.name
      cases absent.symm.trans named
  | reserved named reserved =>
      obtain ⟨_, same, free⟩ := acceptable.name
      cases named.symm.trans same
      exact free reserved
  | nullable marked shape => cases shape.symm.trans (acceptable.nullable marked)
  | default given container => cases container.symm.trans (acceptable.default _ given)

/-- What reading a field comes to. -/
inductive Settled (field : Field) : Except Refusal Property → Prop where
  | refused {refusal : Refusal}
      (first : FirstFault (·.rank < ·.rank) field.Flawed refusal) : Settled field (.error refusal)
  | accepted {property : Property} (acceptable : field.Acceptable)
      (describes : property.Describes field) : Settled field (.ok property)

theorem states_nullable_iff {options : FieldOptions}
    (read : FieldOptions.read field.attributes = .ok options) :
    field.States (.nullable true) ↔ options.nullable = true := by
  obtain ⟨stated, items, rfl⟩ := FieldOptions.read_eq_ok_iff.1 read
  rw [FieldOptions.nullable_foldl, States, items]
  simp [FieldOptions.none]

theorem states_default_iff {options : FieldOptions}
    (read : FieldOptions.read field.attributes = .ok options) :
    (∃ value, field.States (.default value)) ↔ options.default.isSome = true := by
  obtain ⟨stated, items, rfl⟩ := FieldOptions.read_eq_ok_iff.1 read
  rw [FieldOptions.default_foldl]
  simp [FieldOptions.none, States, items]

theorem not_flawed_options {options : FieldOptions}
    (read : FieldOptions.read field.attributes = .ok options) : ¬field.Flawed .options one := by
  intro flawed
  cases flawed with
  | options unread => cases unread.symm.trans read

theorem not_flawed_unnamed {name : String} (named : field.name = some name) :
    ¬field.Flawed .unnamed one := by
  intro flawed
  cases flawed with
  | unnamed absent => cases absent.symm.trans named

theorem not_flawed_reserved {name : String} (named : field.name = some name)
    (free : plainName name ∉ Property.reservedNames) : ¬field.Flawed .reserved one := by
  intro flawed
  cases flawed with
  | reserved same taken =>
      cases named.symm.trans same
      exact free taken

theorem not_flawed_nullable
    (optional : field.States (.nullable true) → field.ty.shape.isOptional = true) :
    ¬field.Flawed .nullable one := by
  intro flawed
  cases flawed with
  | nullable marked other => cases other.symm.trans (optional marked)

theorem settled_ofField {options : FieldOptions}
    (read : FieldOptions.read field.attributes = .ok options) :
    field.Settled (Property.ofField field options) := by
  have marked := states_nullable_iff read
  have defaulted := states_default_iff read
  unfold Property.ofField
  cases named : field.name with
  | none =>
      refine .refused ⟨.unnamed, .unnamed named, fun earlier refusal before => ?_⟩
      cases earlier with
      | options => exact not_flawed_options read
      | _ => exact absurd before (by decide)
  | some name =>
      dsimp only
      by_cases taken : Property.reservedNames.contains (plainName name) = true
      · rw [if_pos taken]
        refine .refused ⟨.reserved, .reserved named (List.contains_iff_mem.1 taken),
          fun earlier refusal before => ?_⟩
        cases earlier with
        | options => exact not_flawed_options read
        | unnamed => exact not_flawed_unnamed named
        | _ => exact absurd before (by decide)
      rw [if_neg taken]
      have free : plainName name ∉ Property.reservedNames :=
        fun mem => taken (List.contains_iff_mem.2 mem)
      by_cases nullable : (options.nullable && !field.ty.shape.isOptional) = true
      · rw [if_pos nullable]
        rw [Bool.and_eq_true, Bool.not_eq_true'] at nullable
        refine .refused ⟨.nullable, .nullable (marked.2 nullable.1) nullable.2,
          fun earlier refusal before => ?_⟩
        cases earlier with
        | options => exact not_flawed_options read
        | unnamed => exact not_flawed_unnamed named
        | reserved => exact not_flawed_reserved named free
        | _ => exact absurd before (by decide)
      rw [if_neg nullable]
      have optional (states : field.States (.nullable true)) :
          field.ty.shape.isOptional = true := by
        simpa [marked.1 states] using nullable
      by_cases default : (options.default.isSome && field.ty.shape.isContainer) = true
      · rw [if_pos default]
        rw [Bool.and_eq_true] at default
        obtain ⟨value, given⟩ := defaulted.2 default.1
        refine .refused ⟨.default, .default given default.2, fun earlier refusal before => ?_⟩
        cases earlier with
        | options => exact not_flawed_options read
        | unnamed => exact not_flawed_unnamed named
        | reserved => exact not_flawed_reserved named free
        | nullable => exact not_flawed_nullable optional
        | default => exact absurd before (by decide)
      rw [if_neg default]
      have single (value : DefaultValue) (given : field.States (.default value)) :
          field.ty.shape.isContainer = false := by
        simpa [defaulted.1 ⟨value, given⟩] using default
      exact .accepted ⟨⟨options, read⟩, ⟨name, named, free⟩, optional, single⟩
        ⟨named, rfl, rfl, options, read, rfl, rfl, rfl⟩

theorem settled_read (field : Field) : field.Settled (Property.read field) := by
  unfold Property.read
  cases read : FieldOptions.read field.attributes with
  | error refusal =>
      refine .refused ⟨.options, .options read, fun earlier _ before => ?_⟩
      exact absurd before (Nat.not_lt_zero _)
  | ok options => exact settled_ofField read

theorem accepted_of_read {property : Property} (read : Property.read field = .ok property) :
    field.Acceptable ∧ property.Describes field := by
  have settled := field.settled_read
  rw [read] at settled
  cases settled with
  | accepted acceptable describes => exact ⟨acceptable, describes⟩

theorem firstFault_of_read {refusal : Refusal} (read : Property.read field = .error refusal) :
    FirstFault (·.rank < ·.rank) field.Flawed refusal := by
  have settled := field.settled_read
  rw [read] at settled
  cases settled with
  | refused first => exact first

end Field

/-! Declarations. -/

/-- What can be wrong with a declaration. -/
inductive Fault where
  | options
  | kind
  | field (position : Nat) (flaw : Flaw)
  deriving DecidableEq, Repr

/-- The order in which faults are looked for. -/
def Fault.Before : Fault → Fault → Prop
  | .options, .options => False
  | .options, _ => True
  | .kind, .field _ _ => True
  | .field position flaw, .field later other =>
      position < later ∨ position = later ∧ flaw.rank < other.rank
  | _, _ => False

theorem Fault.total (one other : Fault) : one.Before other ∨ one = other ∨ other.Before one := by
  cases one <;> cases other <;> simp only [Before, true_or, or_true, reduceCtorEq, false_or]
  case field.field position flaw later other =>
    rcases Nat.lt_trichotomy position later with early | rfl | early
    · exact .inl (.inl early)
    · rcases flaw.total other with early | rfl | early
      · exact .inl (.inr ⟨rfl, early⟩)
      · exact .inr (.inl rfl)
      · exact .inr (.inr (.inr ⟨rfl, early⟩))
    · exact .inr (.inr (.inl early))

namespace Item

/-- The declaration has the fault, and this is what is reported of it. -/
inductive Violates (item : Item) : Fault → Refusal → Prop where
  | options {refusal : Refusal} (unread : StructOptions.read item.attributes = .error refusal) :
      Violates item .options refusal
  | unnamed (content : item.content = .unnamedFields) :
      Violates item .kind (.refused .fieldsNeedNames (some "struct"))
  | other (content : item.content = .enumeration ∨ item.content = .union) :
      Violates item .kind (.refused .onlyStructures (some item.name))
  | field {fields : List Field} {position : Nat} {field : Field} {flaw : Flaw} {refusal : Refusal}
      (content : item.content = .namedFields fields) (here : fields[position]? = some field)
      (flawed : field.Flawed flaw refusal) : Violates item (.field position flaw) refusal

/-- What is asked of a declaration. -/
structure Acceptable (item : Item) : Prop where
  options : ∃ options, StructOptions.read item.attributes = .ok options
  fields : ∃ fields, item.content = .namedFields fields ∧ ∀ field ∈ fields, field.Acceptable

end Item

/-- The blueprint that a declaration gives rise to: one property for each field. -/
structure Blueprint.Describes (blueprint : Blueprint) (item : Item) : Prop where
  name : blueprint.name = item.name
  visibility : blueprint.visibility = item.visibility
  generics : blueprint.generics = item.generics
  options : StructOptions.read item.attributes = .ok blueprint.options
  properties : ∃ fields, item.content = .namedFields fields ∧
    List.Forall₂ Property.Describes blueprint.properties fields

namespace Item

variable {item : Item} {fault : Fault} {one other : Refusal}

theorem Violates.single (first : item.Violates fault one) (second : item.Violates fault other) :
    one = other := by
  cases first with
  | options unread =>
      cases second with
      | options again => exact Except.error.inj (unread.symm.trans again)
  | unnamed content =>
      cases second with
      | unnamed _ => rfl
      | other again => simp [content] at again
  | other content =>
      cases second with
      | unnamed again => simp [again] at content
      | other _ => rfl
  | field content here flawed =>
      cases second with
      | field again there flaw =>
          cases content.symm.trans again
          cases here.symm.trans there
          exact flawed.single flaw

theorem Acceptable.not_violates (acceptable : item.Acceptable) : ¬item.Violates fault one := by
  obtain ⟨⟨_, read⟩, fields, content, sound⟩ := acceptable
  intro violates
  cases violates with
  | options unread => cases unread.symm.trans read
  | unnamed other => cases other.symm.trans content
  | other others => simp [content] at others
  | field same here flawed =>
      cases content.symm.trans same
      exact (sound _ (List.mem_of_getElem? here)).not_flawed flawed

/-- What a declaration comes to. -/
inductive Settled (item : Item) : Except Refusal Blueprint → Prop where
  | refused {refusal : Refusal}
      (first : FirstFault Fault.Before item.Violates refusal) : Settled item (.error refusal)
  | accepted {blueprint : Blueprint} (acceptable : item.Acceptable)
      (describes : blueprint.Describes item) : Settled item (.ok blueprint)

end Item

theorem Property.describes_disambiguate {properties : List Property} {fields : List Field}
    (describe : List.Forall₂ Describes properties fields) :
    List.Forall₂ Describes (disambiguate properties) fields := by
  have same : (Marker.disambiguate (properties.map (·.marker))).length = properties.length := by
    simp [Marker.disambiguate]
  unfold disambiguate
  generalize Marker.disambiguate (properties.map (·.marker)) = markers at same
  induction describe generalizing markers with
  | nil => exact .nil
  | cons first _ ih =>
      obtain _ | ⟨marker, rest⟩ := markers
      · cases same
      · refine .cons ⟨first.name, first.ty, first.shape, first.options⟩ (ih rest ?_)
        exact Nat.succ.inj same

namespace Item

variable {item : Item}

/-- The first flaw of the first flawed field is the first fault, once the options and the
kind are right. -/
theorem firstFault_of_field {options : StructOptions} {before after : List Field} {field : Field}
    {refusal : Refusal} (read : StructOptions.read item.attributes = .ok options)
    (content : item.content = .namedFields (before ++ field :: after))
    (sound : ∀ earlier ∈ before, earlier.Acceptable)
    (first : FirstFault (·.rank < ·.rank) field.Flawed refusal) :
    FirstFault Fault.Before item.Violates refusal := by
  obtain ⟨flaw, flawed, none⟩ := first
  have here : (before ++ field :: after)[before.length]? = some field := by simp
  refine ⟨.field before.length flaw, .field content here flawed, fun earlier other ahead found => ?_⟩
  cases found with
  | options unread => cases unread.symm.trans read
  | unnamed kind => cases kind.symm.trans content
  | other kind => simp [content] at kind
  | field same there bad =>
      cases content.symm.trans same
      rcases ahead with ahead | ⟨rfl, ahead⟩
      · rw [List.getElem?_append_left ahead] at there
        exact (sound _ (List.mem_of_getElem? there)).not_flawed bad
      · cases here.symm.trans there
        exact none _ _ ahead bad

/-- The acceptable declarations are accepted, and every other is refused for its first fault. -/
theorem settled_ofItem (item : Item) : item.Settled (Blueprint.ofItem item) := by
  unfold Blueprint.ofItem
  cases read : StructOptions.read item.attributes with
  | error refusal =>
      refine .refused ⟨.options, .options read, fun earlier _ before => ?_⟩
      cases earlier <;> exact before.elim
  | ok options =>
      have readable {refusal : Refusal} : ¬item.Violates .options refusal := by
        rintro ⟨unread⟩
        cases unread.symm.trans read
      have kind {refusal : Refusal} (found : item.Violates .kind refusal) :
          FirstFault Fault.Before item.Violates refusal := by
        refine ⟨.kind, found, fun earlier other before flawed => ?_⟩
        cases earlier with
        | options => exact readable flawed
        | _ => exact before
      cases content : item.content with
      | unnamedFields => exact .refused (kind (.unnamed content))
      | enumeration => exact .refused (kind (.other (.inl content)))
      | union => exact .refused (kind (.other (.inr content)))
      | namedFields fields =>
          cases result : fields.mapM Property.read with
          | error refusal =>
              obtain ⟨before, field, after, rfl, passed, failed⟩ := mapM_eq_error_iff.1 result
              have sound : ∀ earlier ∈ before, earlier.Acceptable := by
                intro earlier mem
                obtain ⟨property, ok⟩ := passed earlier mem
                exact (Field.accepted_of_read ok).1
              have first := Field.firstFault_of_read failed
              simp only [bind, Except.bind, result]
              exact .refused (firstFault_of_field read content sound first)
          | ok properties =>
              have all := (mapM_eq_ok_iff.1 result).imp fun _ _ ok => Field.accepted_of_read ok
              obtain ⟨sound, described⟩ := (List.forall₂_and_left _ _).1 all
              have describe := Property.describes_disambiguate described.flip
              simp only [bind, Except.bind, result]
              exact .accepted ⟨⟨options, read⟩, fields, content, sound⟩
                ⟨rfl, rfl, rfl, read, fields, content, describe⟩

end Item

namespace Blueprint

theorem describes_of_ofItem {item : Item} {blueprint : Blueprint}
    (accepted : ofItem item = .ok blueprint) : blueprint.Describes item := by
  have settled := item.settled_ofItem
  rw [accepted] at settled
  cases settled with
  | accepted _ describes => exact describes

end Blueprint
end StructBuilder
