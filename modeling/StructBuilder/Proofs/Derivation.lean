import StructBuilder.Proofs.Acceptance
import StructBuilder.Proofs.VariantNames

/-!
How a derivation ends. A declaration in which nothing is wrong can still have a field whose
marker is no identifier, and the derivation stops where that marker is made. In the order of
faults such a marker stands right behind the flaws of its own field; of all that could end
the derivation, the first does.
-/

namespace StructBuilder

/-- What can end a derivation before there is a blueprint. -/
inductive Ending where
  | fault (fault : Fault)
  | marker (position : Nat)
  deriving DecidableEq, Repr

namespace Ending

/-- The order in which a derivation comes to them. A marker is made once its field has none
of the flaws, and before the next field is read. -/
def Before : Ending → Ending → Prop
  | .fault one, .fault other => one.Before other
  | .fault (.field position _), .marker later => position ≤ later
  | .fault _, .marker _ => True
  | .marker position, .fault (.field later _) => position < later
  | .marker _, .fault _ => False
  | .marker position, .marker later => position < later

theorem marker_total (fault : Fault) (position : Nat) :
    (Ending.fault fault).Before (.marker position) ∨
      (Ending.marker position).Before (.fault fault) := by
  cases fault with
  | options | kind => exact .inl trivial
  | field other flaw => exact (Nat.lt_or_ge position other).symm

theorem total (one other : Ending) : one.Before other ∨ one = other ∨ other.Before one := by
  cases one with
  | fault one =>
      cases other with
      | fault other => exact (one.total other).imp id (.imp (congrArg _) id)
      | marker later => exact (marker_total one later).imp id .inr
  | marker position =>
      cases other with
      | fault other => exact (marker_total other position).symm.imp id .inr
      | marker later => exact (Nat.lt_trichotomy position later).imp id (.imp (congrArg _) id)

theorem fault_before_of_marker {one other : Fault} {position : Nat}
    (first : (Ending.fault one).Before (.marker position))
    (second : (Ending.marker position).Before (.fault other)) : one.Before other := by
  cases other with
  | options | kind => exact second.elim
  | field later flaw =>
      cases one with
      | options | kind => exact trivial
      | field early other => exact .inl (Nat.lt_of_le_of_lt first second)

end Ending

/-- The marker made from the field's name is no identifier. -/
inductive Field.Unnameable (field : Field) : Refusal → Prop where
  | intro {name : String} (named : field.name = some name)
      (odd : Unicode.isIdentifier (Marker.ofName (plainName name)) = false) :
      Unnameable field (.refused (.noIdentifier (Marker.ofName (plainName name))) none)

theorem Field.Unnameable.single {field : Field} {one other : Refusal}
    (first : field.Unnameable one) (second : field.Unnameable other) : one = other := by
  cases first with
  | intro named _ =>
      cases second with
      | intro again _ =>
          cases named.symm.trans again
          rfl

namespace Property

variable {field : Field} {property : Property}

theorem not_unnameable (known : read field = .ok property)
    (identifier : Unicode.isIdentifier property.marker = true) (refusal : Refusal) :
    ¬field.Unnameable refusal := by
  obtain ⟨named, marked⟩ := named_of_read known
  rintro ⟨again, odd⟩
  cases named.symm.trans again
  rw [marked] at identifier
  exact Bool.noConfusion (odd.symm.trans identifier)

/-- Where the fields up to a position are read and none stops the derivation, neither does
the one at the position. -/
theorem isIdentifier_of_goes {fields : List Field} {position : Nat}
    (goes : unnameable? fields = none) (here : fields[position]? = some field)
    (passed : ∀ i < position, ∀ earlier, fields[i]? = some earlier →
      ∃ result, read earlier = .ok result)
    (known : read field = .ok property) : Unicode.isIdentifier property.marker = true := by
  induction fields generalizing position with
  | nil => cases here
  | cons head rest ih =>
      cases position with
      | zero =>
          cases here
          simp only [unnameable?, known] at goes
          split at goes
          · assumption
          · cases goes
      | succ later =>
          obtain ⟨result, first⟩ := passed 0 later.succ_pos head rfl
          simp only [unnameable?, first] at goes
          split at goes
          · exact ih goes here fun i early => passed (i + 1) (Nat.succ_lt_succ early)
          · cases goes

/-- Read one after another, the fields come to what they would without markers, unless one
of them stops the derivation. -/
theorem mapM_readNameable (fields : List Field) : fields.mapM readNameable =
    match unnameable? fields with
    | some marker => .error (.refused (.noIdentifier marker) none)
    | none => fields.mapM read := by
  induction fields with
  | nil => rfl
  | cons head rest ih =>
      rw [List.mapM_cons, List.mapM_cons, unnameable?, readNameable]
      cases known : read head with
      | error refusal => rfl
      | ok property =>
          cases identifier : Unicode.isIdentifier property.marker with
          | false => simp [bind, Except.bind, identifier, throw, throwThe, MonadExceptOf.throw]
          | true =>
              simp only [bind, Except.bind, pure, Except.pure, identifier, if_true, ih]
              cases unnameable? rest <;> rfl

end Property

namespace Item

/-- The ending is one of the declaration, and this is what comes of it. -/
inductive Ends (item : Item) : Ending → Refusal → Prop where
  | fault {fault : Fault} {refusal : Refusal} (violates : item.Violates fault refusal) :
      Ends item (.fault fault) refusal
  | marker {fields : List Field} {position : Nat} {field : Field} {refusal : Refusal}
      (content : item.content = .namedFields fields) (here : fields[position]? = some field)
      (unnameable : field.Unnameable refusal) : Ends item (.marker position) refusal

/-- Every field's marker is an identifier. -/
def Nameable (item : Item) : Prop :=
  ∀ fields, item.content = .namedFields fields → ∀ field ∈ fields, ∀ name,
    field.name = some name → Unicode.isIdentifier (Marker.ofName (plainName name)) = true

variable {item : Item} {ending : Ending} {one other : Refusal}

theorem Ends.single (first : item.Ends ending one) (second : item.Ends ending other) :
    one = other := by
  cases first with
  | fault violates =>
      cases second with
      | fault again => exact violates.single again
  | marker content here unnameable =>
      cases second with
      | marker same there again =>
          cases content.symm.trans same
          cases here.symm.trans there
          exact unnameable.single again

theorem not_ends (acceptable : item.Acceptable) (nameable : item.Nameable) :
    ¬item.Ends ending one := by
  intro ends
  cases ends with
  | fault violates => exact acceptable.not_violates violates
  | marker content here unnameable =>
      obtain ⟨named, odd⟩ := unnameable
      have identifier := nameable _ content _ (List.mem_of_getElem? here) _ named
      exact Bool.noConfusion (odd.symm.trans identifier)

/-- A marker that would stop the derivation, but does not, comes behind some fault. -/
theorem exists_fault_before {fields : List Field} {position : Nat} {field : Field}
    (goes : Blueprint.unnameable? item = none) (content : item.content = .namedFields fields)
    (here : fields[position]? = some field) (unnameable : field.Unnameable one) :
    ∃ fault refusal, (Ending.fault fault).Before (.marker position) ∧
      item.Violates fault refusal := by
  cases stated : StructOptions.read item.attributes with
  | error refusal => exact ⟨.options, refusal, trivial, .options stated⟩
  | ok options =>
      by_contra sound
      have goes : Property.unnameable? fields = none := by
        simpa [Blueprint.unnameable?, stated, content] using goes
      have readable (i : Nat) (early : i ≤ position) (earlier : Field)
          (there : fields[i]? = some earlier) :
          ∃ property, Property.read earlier = .ok property := by
        cases result : Property.read earlier with
        | ok property => exact ⟨property, rfl⟩
        | error refusal =>
            obtain ⟨flaw, flawed, -⟩ := Field.firstFault_of_read result
            exact absurd ⟨.field i flaw, refusal, early, .field content there flawed⟩ sound
      obtain ⟨property, known⟩ := readable position le_rfl field here
      have identifier := Property.isIdentifier_of_goes goes here
        (fun i early => readable i early.le) known
      exact Property.not_unnameable known identifier _ unnameable

theorem nameable_of_goes (goes : Blueprint.unnameable? item = none)
    (acceptable : item.Acceptable) : item.Nameable := by
  intro fields content field mem name named
  by_contra odd
  obtain ⟨position, here⟩ := List.mem_iff_getElem?.1 mem
  obtain ⟨_, _, -, violates⟩ := exists_fault_before goes content here
    (.intro named (Bool.eq_false_iff.2 odd))
  exact acceptable.not_violates violates

/-- What deriving a blueprint comes to. -/
inductive Derived (item : Item) : Except Refusal Blueprint → Prop where
  | ended {refusal : Refusal} (first : FirstFault Ending.Before item.Ends refusal) :
      Derived item (.error refusal)
  | finished {blueprint : Blueprint} (acceptable : item.Acceptable) (nameable : item.Nameable)
      (describes : blueprint.Describes item) : Derived item (.ok blueprint)

theorem derived_of_settled {answer : Except Refusal Blueprint}
    (goes : Blueprint.unnameable? item = none) (settled : item.Settled answer) :
    item.Derived answer := by
  cases settled with
  | accepted acceptable describes =>
      exact .finished acceptable (nameable_of_goes goes acceptable) describes
  | refused first =>
      obtain ⟨fault, violates, none⟩ := first
      refine .ended ⟨.fault fault, .fault violates, fun earlier other ahead ends => ?_⟩
      cases ends with
      | fault sooner => exact none _ _ ahead sooner
      | marker content here unnameable =>
          obtain ⟨sooner, refusal, early, found⟩ := exists_fault_before goes content here unnameable
          exact none sooner refusal (Ending.fault_before_of_marker early ahead) found

theorem exists_of_stops {marker : String} (stops : Blueprint.unnameable? item = some marker) :
    (∃ options, StructOptions.read item.attributes = .ok options) ∧
      ∃ fields, item.content = .namedFields fields ∧
        Property.unnameable? fields = some marker := by
  cases content : item.content with
  | namedFields fields =>
      obtain ⟨stated, stops⟩ := (Blueprint.unnameable?_eq_some_iff content).1 stops
      exact ⟨stated, fields, rfl, stops⟩
  | unnamedFields | enumeration | union => simp [Blueprint.unnameable?, content] at stops

theorem derived_of_stops {marker : String} (stops : Blueprint.unnameable? item = some marker) :
    item.Derived (.error (.refused (.noIdentifier marker) none)) := by
  obtain ⟨⟨options, stated⟩, fields, content, stops⟩ := exists_of_stops stops
  obtain ⟨before, field, after, property, rfl, passed, known, odd, rfl⟩ :=
    Property.unnameable?_eq_some_iff.1 stops
  obtain ⟨named, marked⟩ := Property.named_of_read known
  have here : (before ++ field :: after)[before.length]? = some field := by simp
  have unnameable : field.Unnameable (.refused (.noIdentifier property.marker) none) := by
    rw [marked] at odd ⊢
    exact .intro named odd
  have earlier {i : Nat} {early : Field} (ahead : i < before.length)
      (there : (before ++ field :: after)[i]? = some early) : early ∈ before := by
    rw [List.getElem?_append_left ahead] at there
    exact List.mem_of_getElem? there
  refine .ended ⟨.marker before.length, .marker content here unnameable,
    fun ending refusal ahead ends => ?_⟩
  cases ends with
  | fault violates =>
      cases violates with
      | options unread => cases unread.symm.trans stated
      | unnamed kind => cases kind.symm.trans content
      | other kind => simp [content] at kind
      | field same there flawed =>
          cases content.symm.trans same
          -- the field of the marker has none of the flaws either, or no marker would be made
          rcases Nat.lt_or_eq_of_le ahead with ahead | rfl
          · obtain ⟨_, accepted, -⟩ := passed _ (earlier ahead there)
            exact (Field.accepted_of_read accepted).1.not_flawed flawed
          · cases here.symm.trans there
            exact (Field.accepted_of_read known).1.not_flawed flawed
  | marker same there again =>
      cases content.symm.trans same
      obtain ⟨_, accepted, identifier⟩ := passed _ (earlier ahead there)
      exact Property.not_unnameable accepted identifier _ again

theorem derived_derive (item : Item) : item.Derived (Blueprint.derive item) := by
  unfold Blueprint.derive
  cases stops : Blueprint.unnameable? item with
  | none => exact derived_of_settled stops item.settled_ofItem
  | some marker => exact derived_of_stops stops

end Item

namespace Blueprint

/-- Fields are read one after another, each with its marker. -/
theorem derive_eq_mapM {item : Item} {options : StructOptions} {fields : List Field}
    (stated : StructOptions.read item.attributes = .ok options)
    (content : item.content = .namedFields fields) :
    derive item = (fields.mapM Property.readNameable).map fun properties =>
      ⟨item.name, item.visibility, item.generics, options, Property.disambiguate properties⟩ := by
  rw [Property.mapM_readNameable, derive, unnameable?, stated, content]
  dsimp only
  cases Property.unnameable? fields with
  | some marker => rfl
  | none =>
      simp only [ofItem, stated, content, bind, Except.bind]
      cases fields.mapM Property.read <;> rfl

/-- A blueprint is derived of the acceptable declarations whose markers are identifiers. Every
other is refused for its first fault, unless a marker that is none comes before it. -/
theorem derive_accepts_or_ends_first (item : Item) :
    ((∃ blueprint, derive item = .ok blueprint) ↔ item.Acceptable ∧ item.Nameable) ∧
      (∀ blueprint, derive item = .ok blueprint → blueprint.Describes item) ∧
      (∀ refusal, derive item = .error refusal ↔ FirstFault Ending.Before item.Ends refusal) ∧
      ∀ options fields, StructOptions.read item.attributes = .ok options →
        item.content = .namedFields fields →
        derive item = (fields.mapM Property.readNameable).map fun properties =>
          ⟨item.name, item.visibility, item.generics, options,
            Property.disambiguate properties⟩ := by
  have derived := item.derived_derive
  cases answer : derive item with
  | error refusal =>
      rw [answer] at derived
      cases derived with
      | ended first =>
          refine ⟨⟨nofun, fun ⟨acceptable, nameable⟩ => ?_⟩, nofun,
            fun other => ⟨?_, fun rival => ?_⟩,
            fun _ _ stated content => answer ▸ derive_eq_mapM stated content⟩
          · obtain ⟨_, ends, _⟩ := first
            exact absurd ends (Item.not_ends acceptable nameable)
          · rintro ⟨⟩
            exact first
          · rw [first.unique rival Ending.total fun _ _ _ => Item.Ends.single]
  | ok blueprint =>
      rw [answer] at derived
      cases derived with
      | finished acceptable nameable describes =>
          refine ⟨⟨fun _ => ⟨acceptable, nameable⟩, fun _ => ⟨blueprint, rfl⟩⟩, ?_,
            fun _ => ⟨nofun, ?_⟩, fun _ _ stated content => answer ▸ derive_eq_mapM stated content⟩
          · rintro _ ⟨⟩
            exact describes
          · rintro ⟨_, ends, _⟩
            exact absurd ends (Item.not_ends acceptable nameable)

/-- Nothing is wrong with this declaration, and yet no blueprint is derived of it. -/
theorem acceptable_not_derived : ∃ item,
    Item.read? "struct S \x7b _\u0903: u8 \x7d" = some item ∧ item.Acceptable ∧
      derive item = .error (.refused (.noIdentifier "\u0903") none) := by
  have found : ((Item.read? "struct S \x7b _\u0903: u8 \x7d").map fun item =>
      ((ofItem item).isOk, refusalOf (derive item))) =
      some (true, some (.refused (.noIdentifier "\u0903") none)) := by
    decide +kernel
  obtain ⟨item, read, found⟩ := Option.map_eq_some_iff.1 found
  obtain ⟨accepted, stopped⟩ := Prod.mk.inj found
  refine ⟨item, read, ?_, refusalOf_eq_some_iff.1 stopped⟩
  have settled := item.settled_ofItem
  cases answer : ofItem item with
  | error refusal => simp [answer, Except.isOk, Except.toBool] at accepted
  | ok blueprint =>
      rw [answer] at settled
      cases settled with
      | accepted acceptable _ => exact acceptable

end Blueprint

end StructBuilder
