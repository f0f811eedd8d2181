import StructBuilder.Code.Fragment

/-!
Token trees as they stand in a source text. Every token keeps its spelling and the
blanks and comments before it, so any stretch of trees spells out its source
again, and two punctuation characters are joined exactly if nothing stands
between them. `Source.Tree.code` forgets the spelling.
-/

namespace StructBuilder.Source

inductive Leaf where
  /-- An identifier or keyword, with `r#` if it was written so. -/
  | ident (name : String)
  /-- A lifetime with its quote. -/
  | lifetime (name : String)
  | punct (c : Char)
  /-- A string literal, decoded. -/
  | text (value : String) (suffix : String)
  | number (spelling : String)
  /-- A character, byte, byte string or C string literal. -/
  | opaqueLiteral (spelling : String)
  /-- A documentation comment; `inner` ones document what encloses them. -/
  | doc (comment : String) (inner : Bool)
  deriving DecidableEq, Repr

inductive Tree where
  | leaf (gap : String) (spelling : String) (leaf : Leaf)
  | group (gap : String) (delimiter : Delimiter) (content : List Tree) (closingGap : String)
  deriving Repr

namespace Leaf

def isLiteral : Leaf → Bool
  | .text _ _ | .number _ | .opaqueLiteral _ => true
  | _ => false

/-- The tokens a leaf stands for. A documentation comment is an attribute. -/
def code : Leaf → Code
  | .ident name | .lifetime name => Code.name name
  | .punct c => [.word c.toString]
  | .text value suffix => [.word (Text.literal value ++ suffix)]
  | .number spelling | .opaqueLiteral spelling => [.word spelling]
  | .doc comment inner =>
      Code.phrase (if inner then "# !" else "#") ++
        Code.brackets (Code.phrase "doc =" ++ Code.text comment)

end Leaf

namespace Tree

def gap : Tree → String
  | .leaf gap _ _ | .group gap _ _ _ => gap

mutual
def code : Tree → Code
  | .leaf _ _ token => token.code
  | .group _ delimiter content _ => [.group delimiter (codeOf content)]

def codeOf : List Tree → Code
  | [] => []
  | tree :: rest => code tree ++ codeOf rest
end

mutual
/-- The source text of a tree without the gap before it. -/
def spelling : Tree → String
  | .leaf _ spelling _ => spelling
  | .group _ delimiter content closingGap =>
      delimiter.opening ++ spellings content ++ closingGap ++ delimiter.closing

def spellings : List Tree → String
  | [] => ""
  | tree :: rest => tree.gap ++ spelling tree ++ spellings rest
end

mutual
/-- The number of tokens, two of them for the delimiters of a group. -/
def size : Tree → Nat
  | .leaf _ _ _ => 1
  | .group _ _ content _ => sizeOf content + 2

def sizeOf : List Tree → Nat
  | [] => 0
  | tree :: rest => size tree + sizeOf rest
end

end Tree

/-- The source text of consecutive trees. -/
def spell : List Tree → String
  | [] => ""
  | tree :: rest => tree.spelling ++ Tree.spellings rest

end StructBuilder.Source
