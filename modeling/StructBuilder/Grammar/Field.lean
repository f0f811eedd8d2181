import StructBuilder.Declaration.Item
import StructBuilder.Grammar.Generics

/-!
Fields and variants, and what they belong to. A field keeps the source text it was
read from, because refusals point at it.
-/

namespace StructBuilder.Grammar

open Reader

/-- `pub`, alone or with a restriction in parentheses. Parentheses around anything
else are left to what follows. -/
def visibility : Reader Code := do
  if !(← sees (atWord "pub")) then return []
  let keyword ← anything
  match (← get).trees with
  | .group _ .paren [.leaf _ _ (.ident name)] _ :: _ =>
      if ["crate", "self", "super"].contains name then return keyword ++ (← anything)
      return keyword
  | .group _ .paren (.leaf _ _ (.ident "in") :: _) _ :: _ =>
      return keyword ++ (← group .paren (inTurn [word "in", modPathCode]))
  | _ => return keyword

/-- What a reader answers, with the source text of what it took. -/
private def spelled {α : Type} (p : Reader (String → α)) : Reader α := do
  let (make, taken) ← taking p
  return make (Source.spell taken)

/-- A structure or union without a name, kept as written. -/
private def anonymousType (rules : Rules) : Reader Ty := do
  let (_, taken) ← taking (inTurn [anything, rules.fields])
  return .other (Source.Tree.codeOf taken)

private def atAnonymousType (trees : Trees) : Bool :=
  atWord "struct" trees || (atWord "union" trees && atGroup .brace (second trees))

/-- A field with a name. Only one named `_` has a type without a name. -/
def namedField (rules : Rules) : Reader Field := spelled do
  let attributes ← outerAttributes rules
  let access ← visibility
  let unnamed ← sees (atWord "_")
  let name ← if unnamed then anyIdentName else identName
  discard (punct ":")
  let ty ← if unnamed && (← sees atAnonymousType) then anonymousType rules else rules.type true
  return Field.mk attributes access (some name) ty

def tupleField (rules : Rules) : Reader Field := spelled do
  let attributes ← outerAttributes rules
  let access ← visibility
  let ty ← rules.type true
  return Field.mk attributes access none ty

/-- Fields in a group, and whether the last has a comma. -/
def fieldGroup (delimiter : Delimiter) (field : Reader Field) : Reader (List Field × Bool) :=
  inside delimiter (commaList List.isEmpty field)

private def fieldsCode (delimiter : Delimiter) (field : Reader Field) : Reader Code := do
  let (fields, trailing) ← fieldGroup delimiter field
  return [.group delimiter (Code.commaSeparated trailing (fields.map Field.code))]

/-- Named fields in braces. -/
def namedFields (rules : Rules) : Reader Code :=
  fieldsCode .brace (namedField rules)

/-- Fields without names in parentheses. -/
def tupleFields (rules : Rules) : Reader Code :=
  fieldsCode .paren (tupleField rules)

/-- A variant of an enumeration. That a visibility may stand before it is forgotten. -/
def variant (rules : Rules) : Reader Code := do
  let attributes ← attributesCode rules
  discard visibility
  let name ← ident
  let fields ←
    if ← sees (atGroup .brace) then namedFields rules
    else whenSees (atGroup .paren) (tupleFields rules)
  let value ← whenSees (atPunct "=") (inTurn [punct "=", rules.value])
  return attributes ++ name ++ fields ++ value

end StructBuilder.Grammar
