import StructBuilder.Code.Tree
import StructBuilder.Text.Literal

/-!
Small pieces that emitted code is assembled from. A phrase is cut into words and
single punctuation characters, so a path such as `::core::option::Option` can be
written as it is read; text of the user enters only through `name` and `text`.
-/

namespace StructBuilder.Code

private def flush (letters : List Char) : Code :=
  if letters.isEmpty then [] else [.word (String.ofList letters.reverse)]

private def split (letters : List Char) : List Char → Code
  | [] => flush letters
  | c :: rest =>
      if c.isAlphanum || c == '_' then split (c :: letters) rest
      else if c == ' ' then flush letters ++ split [] rest
      else flush letters ++ .word c.toString :: split [] rest

/-- The tokens of a phrase of ASCII words and punctuation. -/
def phrase (text : String) : Code :=
  split [] text.toList

def name (identifier : String) : Code :=
  [.word identifier]

/-- A string literal with this value. -/
def text (value : String) : Code :=
  [.word (Text.literal value)]

def parens (content : Code) : Code :=
  [.group .paren content]

def brackets (content : Code) : Code :=
  [.group .bracket content]

def braces (content : Code) : Code :=
  [.group .brace content]

def comma : Code :=
  [.word ","]

def semicolon : Code :=
  [.word ";"]

/-- Items separated by commas, with one more at the end on demand. -/
def commaSeparated (trailing : Bool) : List Code → Code
  | [] => []
  | [item] => item ++ (if trailing then comma else [])
  | item :: rest => item ++ comma ++ commaSeparated trailing rest

/-- Every item followed by a comma. -/
def commaTerminated (items : List Code) : Code :=
  items.flatMap (· ++ comma)

/-- A documentation attribute. -/
def doc (line : String) : Code :=
  name "#" ++ brackets (phrase "doc =" ++ text line)

end StructBuilder.Code
