import StructBuilder.Declaration.Attribute
import StructBuilder.Declaration.Generics

/-!
The declaration of a type, as far as builders depend on it: its fields matter only
if they are the named fields of a structure.
-/

namespace StructBuilder

structure Field where
  attributes : List Attribute
  visibility : Code
  /-- Missing for the fields of a tuple. -/
  name : Option String
  ty : Ty
  /-- The text the field was read from. -/
  source : String

/-- The field as it is declared. -/
def Field.code (field : Field) : Code :=
  field.attributes.flatMap Attribute.code ++ field.visibility
    ++ (match field.name with
      | some name => Code.name name ++ Code.name ":"
      | none => [])
    ++ field.ty.code

inductive Content where
  | namedFields (fields : List Field)
  /-- A structure whose fields have no names, or that has none. -/
  | unnamedFields
  | enumeration
  | union

structure Item where
  attributes : List Attribute
  visibility : Code
  name : String
  generics : Generics
  content : Content

/-- An identifier without `r#`. -/
def plainName (name : String) : String :=
  match name.toList with
  | 'r' :: '#' :: rest => String.ofList rest
  | _ => name

end StructBuilder
