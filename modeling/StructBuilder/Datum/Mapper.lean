import StructBuilder.Datum.Basic
import StructBuilder.Datum.Integer

/-!
Named functions on values, for trying out mappers. Integers wrap in their type; a
function leaves values of other kinds alone.
-/

namespace StructBuilder.Datum

private def onText (f : String → String) : Datum → Datum
  | text value => text (f value)
  | other => other

private def onInteger (type : IntegerType) (f : Int → Int) : Datum → Datum
  | int value => int (type.wrap (f value))
  | other => other

private def negate : Datum → Datum
  | float value => float (- value)
  | other => other

private def complement : Datum → Datum
  | bool value => bool !value
  | other => other

private def textMapper? : String → Option (Datum → Datum)
  | "upper" => some (onText fun s => s.map Char.toUpper)
  | "bang" => some (onText (· ++ "!"))
  | "twice" => some (onText fun s => s ++ s)
  | "empty" => some (onText fun _ => "")
  | _ => none

private def integerMapper? (type : IntegerType) : String → Option (Datum → Datum)
  | "inc" => some (onInteger type (· + 1))
  | "double" => some (onInteger type (2 * ·))
  | "zero" => some (onInteger type fun _ => 0)
  | _ => none

/-- The function of a name on a type of a name. -/
def mapper? (type name : String) : Option (Datum → Datum) :=
  match type, name with
  | "String", _ => textMapper? name
  | "bool", "not" => some complement
  | "f64", "neg" => some negate
  | _, _ => (IntegerType.ofName? type).bind (integerMapper? · name)

end StructBuilder.Datum
