import StructBuilder.Source.Tree

/-!
Attributes of a declaration. The arguments of a list stay unread source, because
only the attribute's owner knows what they mean; everything else about an attribute
is its path and its tokens.
-/

namespace StructBuilder

inductive AttributeArguments where
  | none
  | value
  | list (trees : List Source.Tree)

structure Attribute where
  leading : Bool
  names : List String
  arguments : AttributeArguments
  /-- The tokens between the brackets. -/
  content : Code

namespace Attribute

/-- The path of the attribute is this one name. -/
def isNamed (attr : Attribute) (name : String) : Bool :=
  !attr.leading && attr.names == [name]

def code (attr : Attribute) : Code :=
  Code.name "#" ++ Code.brackets attr.content

end Attribute

/-- The content of the attribute that a documentation comment stands for. -/
def Source.Tree.documentation : Source.Tree → Code
  | .leaf _ _ (.doc comment _) => Code.phrase "doc =" ++ Code.text comment
  | _ => []

end StructBuilder
