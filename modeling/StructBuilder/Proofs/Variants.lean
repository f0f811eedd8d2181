import StructBuilder.Proofs.Plan

/-!
The variants of a builder's enumeration. A field whose capital form no other field has keeps
it; every field of a clash gets its own position behind the form, also where the clash comes
from the letter that is put in front of a form. No form contains an underscore, so a suffix
makes no new clash.
-/

namespace StructBuilder

namespace Marker

theorem getElem?_disambiguate (markers : List String) (i : Nat) :
    (disambiguate markers)[i]? = markers[i]?.map fun marker =>
      if markers.count marker > 1 then suffixed marker i else marker := by
  rw [disambiguate, List.getElem?_mapIdx]

/-- What occurs more than once occurs at another position as well. -/
theorem one_lt_count_iff {markers : List String} {i : Nat} {marker : String}
    (here : markers[i]? = some marker) :
    1 < markers.count marker ↔ ∃ j, j ≠ i ∧ markers[j]? = some marker := by
  rw [← Nat.succ_le_iff, ← List.duplicate_iff_two_le_count,
    List.duplicate_iff_exists_distinct_get]
  constructor
  · rintro ⟨n, m, before, first, second⟩
    have first := List.getElem?_eq_some_iff.2 ⟨n.2, first.symm⟩
    have second := List.getElem?_eq_some_iff.2 ⟨m.2, second.symm⟩
    by_cases same : n.1 = i
    · exact ⟨m.1, by omega, second⟩
    · exact ⟨n.1, same, first⟩
  · rintro ⟨j, other, there⟩
    obtain ⟨inside, here⟩ := List.getElem?_eq_some_iff.1 here
    obtain ⟨within, there⟩ := List.getElem?_eq_some_iff.1 there
    rcases Nat.lt_or_gt_of_ne other with before | behind
    · exact ⟨⟨j, within⟩, ⟨i, inside⟩, before, there.symm, here.symm⟩
    · exact ⟨⟨i, inside⟩, ⟨j, within⟩, behind, here.symm, there.symm⟩

end Marker

/-- The capital form of the field's name. -/
def Field.form? (field : Field) : Option String :=
  field.name.map fun name => Marker.ofName (plainName name)

/-- A field at another position has this form as well. -/
def Marker.Shared (fields : List Field) (i : Nat) (form : String) : Prop :=
  ∃ j rival, j ≠ i ∧ fields[j]? = some rival ∧ rival.form? = some form

namespace Blueprint

theorem form?_of_read {field : Field} {property : Property}
    (read : Property.read field = .ok property) : field.form? = some property.marker := by
  obtain ⟨named, marked⟩ := Property.named_of_read read
  rw [Field.form?, named, marked]
  rfl

theorem shared_iff {fields : List Field} {properties : List Property}
    (all : List.Forall₂ (fun field property => Property.read field = .ok property) fields properties)
    {i : Nat} {property : Property} (here : properties[i]? = some property) :
    1 < (properties.map (·.marker)).count property.marker ↔ Marker.Shared fields i property.marker := by
  have there : (properties.map (·.marker))[i]? = some property.marker := by
    rw [List.getElem?_map, here]
    rfl
  rw [Marker.one_lt_count_iff there]
  constructor
  · rintro ⟨j, other, same⟩
    rw [List.getElem?_map, Option.map_eq_some_iff] at same
    obtain ⟨rival, found, same⟩ := same
    obtain ⟨field, declared, read⟩ := exists_getElem?_of_forall₂ all.flip found
    exact ⟨j, field, other, declared, same ▸ form?_of_read read⟩
  · rintro ⟨j, field, other, declared, form⟩
    obtain ⟨rival, found, read⟩ := exists_getElem?_of_forall₂ all declared
    refine ⟨j, other, ?_⟩
    rw [List.getElem?_map, found]
    exact (form?_of_read read).symm.trans form

theorem distinct_variants {item : Item} {blueprint : Blueprint}
    (accepted : ofItem item = .ok blueprint) :
    (blueprint.properties.map (·.marker)).Nodup ∧
    ∃ fields, item.content = .namedFields fields ∧
      blueprint.properties.length = fields.length ∧
      ∀ (i : Nat) field, fields[i]? = some field → ∃ name form property,
        field.name = some name ∧ form = Marker.ofName (plainName name) ∧
        blueprint.properties[i]? = some property ∧ property.name = name ∧
        (¬Marker.Shared fields i form → property.marker = form) ∧
        (Marker.Shared fields i form → property.marker = Marker.suffixed form i) := by
  refine ⟨nodup_markers accepted, ?_⟩
  obtain ⟨options, fields, properties, -, content, read, rfl⟩ := ofItem_eq_ok_iff.1 accepted
  have all := mapM_eq_ok_iff.1 read
  refine ⟨fields, content, ?_, fun i field declared => ?_⟩
  · have same := congrArg List.length (Property.map_marker_disambiguate properties)
    simpa [Marker.disambiguate, all.length_eq] using same
  · obtain ⟨property, found, read⟩ := exists_getElem?_of_forall₂ all declared
    obtain ⟨named, marked⟩ := Property.named_of_read read
    have shared := shared_iff all found
    have settled : (Property.disambiguate properties)[i]? = some { property with
        marker := if 1 < (properties.map (·.marker)).count property.marker then
          Marker.suffixed property.marker i else property.marker } := by
      rw [Property.getElem?_disambiguate, found, Marker.getElem?_disambiguate,
        List.getElem?_map, found]
      rfl
    refine ⟨property.name, property.marker, _, named, marked, settled, rfl, fun alone => ?_,
      fun clash => ?_⟩
    · exact if_neg fun clash => alone (shared.1 clash)
    · exact if_pos (shared.2 clash)

/-- Forms clash where a letter is put in front of one of them; a name that looks like a form
with a suffix clashes with nothing. -/
theorem variants_of_clashing_names : ∃ item blueprint,
    Item.read? "struct S \x7b self_: u8, p_self: u8, _1: u8, p1: u8, p1_2: u8, x: u8 \x7d" =
      some item ∧
    ofItem item = .ok blueprint ∧ (blueprint.properties.map (·.marker)).Nodup ∧
    blueprint.properties.map (·.marker) = ["PSelf_0", "PSelf_1", "P1_2", "P1_3", "P12", "X"] := by
  have markers : ((Item.read?
      "struct S \x7b self_: u8, p_self: u8, _1: u8, p1: u8, p1_2: u8, x: u8 \x7d").bind
        fun item => (ofItem item).toOption).map (·.properties.map (·.marker)) =
      some ["PSelf_0", "PSelf_1", "P1_2", "P1_3", "P12", "X"] := by
    decide +kernel
  obtain ⟨blueprint, made, eq⟩ := Option.map_eq_some_iff.1 markers
  obtain ⟨item, read, made⟩ := Option.bind_eq_some_iff.1 made
  have accepted : ofItem item = .ok blueprint := by
    cases answer : ofItem item with
    | error => rw [answer] at made; cases made
    | ok => rw [answer] at made; cases made; rfl
  exact ⟨item, blueprint, read, accepted, (distinct_variants accepted).1, eq⟩

end Blueprint
end StructBuilder
