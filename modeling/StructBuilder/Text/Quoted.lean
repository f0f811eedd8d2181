import StructBuilder.Unicode.Printable

/-!
Texts and characters as error messages quote them. The enclosing quote, the
backslash and the named controls are escaped by a letter, anything unprintable or
combining by its code point in hexadecimal.
-/

namespace StructBuilder.Text

private def codePointEscape (c : Char) : List Char :=
  "\\u\x7b".toList ++ Nat.toDigits 16 c.toNat ++ ['\x7d']

/-- One character inside quotes of the kind `quote`. -/
def escapeQuoted (quote : Char) (c : Char) : List Char :=
  if c == quote || c == '\\' then ['\\', c]
  else if c == '\x00' then ['\\', '0']
  else if c == '\t' then ['\\', 't']
  else if c == '\r' then ['\\', 'r']
  else if c == '\n' then ['\\', 'n']
  else if Unicode.isExtending c || !Unicode.isPrintable c then codePointEscape c
  else [c]

def quoted (text : String) : String :=
  String.ofList ('"' :: text.toList.flatMap (escapeQuoted '"') ++ ['"'])

def quotedChar (c : Char) : String :=
  String.ofList ('\'' :: escapeQuoted '\'' c ++ ['\''])

end StructBuilder.Text
