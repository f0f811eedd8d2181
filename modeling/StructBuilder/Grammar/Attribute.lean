import StructBuilder.Declaration.Attribute
import StructBuilder.Grammar.Rules

/-!
Attributes in front of what they belong to, and at the beginning of what encloses
them, with the paths of plain names that they begin with.
-/

namespace StructBuilder.Grammar

open Reader

/-- A path of names alone, as an attribute or the use of a rule has it. -/
def atModPath (trees : Trees) : Bool :=
  atIdent trees || atAnyWord ["super", "self", "Self", "crate"] trees

/-- Leading colons and the names of a path without arguments. -/
def modPath : Reader (Bool × List String) := do
  let leading ← sees (atPunct "::")
  if leading then discard (punct "::")
  guard (← sees atModPath)
  let first ← anyIdentName
  let rest ← listWhile (atPunct "::") do
    discard (punct "::")
    guard (← sees atModPath)
    anyIdentName
  return (leading, first :: rest)

private def written (leading : Bool) (names : List String) : Code :=
  (if leading then Code.colons else []) ++ Code.colons.intercalate (names.map Code.name)

def modPathCode : Reader Code := do
  let (leading, names) ← modPath
  return written leading names

/-- `!` and the group a rule is invoked with. -/
def invocation : Reader Code :=
  inTurn [punct "!", satisfying atAnyGroup]

def atInvocation (trees : Trees) : Bool :=
  atPunct "!" trees && !atPunct "!=" trees

/-- What an attribute holds between its brackets. No attribute is assigned to another. -/
def attributeContent (rules : Rules) : Reader Attribute := do
  let (leading, names) ←
    if ← sees (atWord "unsafe") then do pure (false, [← anyIdentName])
    else modPath
  let path := written leading names
  match (← get).trees with
  | .group _ _ content _ :: _ => return ⟨leading, names, .list content, path ++ (← anything)⟩
  | trees =>
      if atPunct "=" trees then
        guard !(atAttribute (second trees))
        return ⟨leading, names, .value, path ++ (← inTurn [punct "=", rules.value])⟩
      return ⟨leading, names, .none, path⟩

def outerAttribute (rules : Rules) : Reader Attribute := do
  match (← get).trees with
  | .leaf _ _ (.doc _ inner) :: _ =>
      guard !inner
      return ⟨false, ["doc"], .value, (← tree).documentation⟩
  | _ =>
      discard (punct "#")
      inside .bracket (attributeContent rules)

def outerAttributes (rules : Rules) : Reader (List Attribute) :=
  listWhile atAttribute (outerAttribute rules)

/-- Attributes as they are written in front of something. -/
def attributesCode (rules : Rules) : Reader Code := do
  return (← outerAttributes rules).flatMap Attribute.code

private def atInnerAttribute : Trees → Bool
  | .leaf _ _ (.doc _ inner) :: _ => inner
  | trees => atPunct "#" trees && atPunct "!" (second trees)

/-- Attributes of what encloses them. -/
def innerAttributes (rules : Rules) : Reader Code :=
  codeWhile atInnerAttribute do
    if ← sees (atPunct "#") then
      inTurn [punct "#", punct "!",
        group .bracket do return (← attributeContent rules).content]
    else anything

end StructBuilder.Grammar
