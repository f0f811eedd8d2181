import StructBuilder.Datum.Basic
import StructBuilder.Datum.Integer
import StructBuilder.Property.Shape

/-!
Values of constant expressions and of types. Literals, negative numbers, present and
absent options and the limits of integer types are understood; the default of a type
is its zero, its empty value, or the absent one.
-/

namespace StructBuilder

/-- The name of a type that is one plain name. -/
def Ty.name? : Ty → Option String
  | .path (.mk false [] (.mk name .none)) => some name
  | _ => none

namespace Datum

private def unescape : List Char → List Char
  | '\\' :: 'n' :: rest => '\n' :: unescape rest
  | '\\' :: 'r' :: rest => '\r' :: unescape rest
  | '\\' :: 't' :: rest => '\t' :: unescape rest
  | '\\' :: '0' :: rest => '\x00' :: unescape rest
  | '\\' :: c :: rest => c :: unescape rest
  | c :: rest => c :: unescape rest
  | [] => []

private def literal? (word : String) : Option Datum :=
  match word.toList with
  | '"' :: rest => some (.text (String.ofList (unescape rest.dropLast)))
  | first :: rest =>
      if (first :: rest).all Char.isDigit then
        some (.int ((first :: rest).foldl (fun n c => 10 * n + (c.toNat - '0'.toNat)) 0))
      else if word == "true" then some (.bool true)
      else if word == "false" then some (.bool false)
      else none
  | [] => none

def ofCode? : Code → Option Datum
  | [.word "None"] => some .absent
  | [.word word] => literal? word
  | [.word "-", .word word] =>
      match literal? word with
      | some (.int n) => some (.int (- n))
      | _ => none
  | [.word "Some", .group .paren content] => (ofCode? content).map .present
  | [.word type, .word ":", .word ":", .word limit] => do
      let type ← IntegerType.ofName? type
      if limit == "MAX" then some (.int type.maximum)
      else if limit == "MIN" then some (.int type.minimum)
      else none
  | _ => none

def defaultOfName (name : String) : Datum :=
  match name with
  | "bool" => .bool false
  | "char" => .char '\x00'
  | "f32" | "f64" => .float 0.0
  | "String" => .text ""
  | _ => .int 0

/-- The default value of a type. -/
def defaultOf (ty : Ty) : Datum :=
  match ty.name? with
  | some name => defaultOfName name
  | none => if (ty.oneArgument? "Option").isSome then .absent else .list []

/-- The value of a constant expression at a type. -/
def constant (ty : Ty) (code : Code) : Datum :=
  (ofCode? code).getD (defaultOf ty)

/-- The content of an optional constant expression. -/
def content? (code : Code) : Option Datum :=
  match ofCode? code with
  | some (.present content) => some content
  | _ => none

end Datum
end StructBuilder
