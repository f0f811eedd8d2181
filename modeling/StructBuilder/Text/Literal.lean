/-!
String literals of the emitted code. A value is written between double quotes with
six characters escaped; every other character stands for itself. Reading undoes
this and also understands the escapes a source text may use.
-/

namespace StructBuilder.Text

def escapeLiteral : Char → List Char
  | '"' => ['\\', '"']
  | '\\' => ['\\', '\\']
  | '\n' => ['\\', 'n']
  | '\r' => ['\\', 'r']
  | '\t' => ['\\', 't']
  | '\x00' => ['\\', '0']
  | c => [c]

def literal (value : String) : String :=
  String.ofList ('"' :: value.toList.flatMap escapeLiteral ++ ['"'])

end StructBuilder.Text
