import StructBuilder.Options.Field
import StructBuilder.Options.Struct
import StructBuilder.Property.Marker
import StructBuilder.Property.Shape
import StructBuilder.Unicode.Identifier

/-!
Properties of a builder, and the blueprint that a declaration gives rise to. Every
field becomes one property, in declaration order; the first violated condition
refuses the declaration.
-/

namespace StructBuilder

/-- Why a property may be left unset. -/
inductive NullableMarker where
  | optionType
  | requested
  deriving DecidableEq, Repr

structure Property where
  /-- The name of the field as written, with `r#` if it has one. -/
  name : String
  marker : String
  ty : Ty
  shape : Shape
  nullableMarkers : List NullableMarker
  check : Bool
  default : Option DefaultValue

namespace Property

def baseName (property : Property) : String :=
  plainName property.name

/-- Names of methods that every builder has. -/
def reservedNames : List String :=
  ["new", "build", "merge_from", "merge_from_builder", "from_value", "clear", "clear_partial"]

def ofField (field : Field) (options : FieldOptions) : Except Refusal Property :=
  match field.name with
  | none => .error (.refused .fieldsNeedNames (some field.source))
  | some name =>
      let base := plainName name
      let shape := field.ty.shape
      if reservedNames.contains base then .error (.refused (.reservedName base) (some name))
      else if options.nullable && !shape.isOptional then
        .error (.refused .nullableWithoutOption (some "nullable"))
      else if options.default.isSome && shape.isContainer then
        .error (.refused .defaultOnCollection (some "default"))
      else .ok {
        name
        marker := Marker.ofName base
        ty := field.ty
        shape
        nullableMarkers :=
          (if shape.isOptional then [.optionType] else [])
            ++ (if options.nullable then [.requested] else [])
        check := options.check
        default := options.default }

def read (field : Field) : Except Refusal Property := do
  ofField field (← FieldOptions.read field.attributes)

/-- Reads a field whose marker is to name a variant. -/
def readNameable (field : Field) : Except Refusal Property := do
  let property ← read field
  if Unicode.isIdentifier property.marker then return property
  throw (.refused (.noIdentifier property.marker) none)

/-- The first marker that cannot name a variant, if all fields up to its own are read. -/
def unnameable? : List Field → Option String
  | [] => none
  | field :: rest =>
      match read field with
      | .error _ => none
      | .ok property =>
          if Unicode.isIdentifier property.marker then unnameable? rest else some property.marker

/-- Gives every property a marker of its own. -/
def disambiguate (properties : List Property) : List Property :=
  List.zipWith (fun property marker => { property with marker }) properties
    (Marker.disambiguate (properties.map (·.marker)))

end Property

/-- What emitted code depends on. -/
structure Blueprint where
  name : String
  visibility : Code
  generics : Generics
  options : StructOptions
  /-- In declaration order. -/
  properties : List Property

def Blueprint.ofItem (item : Item) : Except Refusal Blueprint := do
  let options ← StructOptions.read item.attributes
  match item.content with
  | .unnamedFields => throw (.refused .fieldsNeedNames (some "struct"))
  | .enumeration | .union => throw (.refused .onlyStructures (some item.name))
  | .namedFields fields =>
      let properties ← fields.mapM Property.read
      return ⟨item.name, item.visibility, item.generics, options, Property.disambiguate properties⟩

/-- The marker at which the derivation stops. -/
def Blueprint.unnameable? (item : Item) : Option String :=
  match StructOptions.read item.attributes, item.content with
  | .ok _, .namedFields fields => Property.unnameable? fields
  | _, _ => none

/-- Derives the blueprint of a declaration, unless a marker stops it. -/
def Blueprint.derive (item : Item) : Except Refusal Blueprint :=
  match Blueprint.unnameable? item with
  | some marker => .error (.refused (.noIdentifier marker) none)
  | none => Blueprint.ofItem item

def Blueprint.read (text : String) : Except Refusal Blueprint :=
  match Item.read? text with
  | some item => Blueprint.derive item
  | none => .error .malformed

end StructBuilder
