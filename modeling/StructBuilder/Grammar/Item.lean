import StructBuilder.Grammar.Language
import StructBuilder.Source.Lexer

/-!
Reading declarations from text. A text is accepted only as a whole; the bodies of
enumerations and unions are checked although nothing of them is kept.
-/

namespace StructBuilder.Grammar

open Reader

private def structureContent (rules : Rules) : Reader (WhereClause × Content) := do
  let early ← sees (atWord "where")
  let conditions ← whereClause rules
  if ← sees (atGroup .brace) then
    return (conditions, .namedFields (← fieldGroup .brace (namedField rules)).1)
  if !early && (← sees (atGroup .paren)) then
    discard (tupleFields rules)
    let conditions ← whereClause rules
    discard (punct ";")
    return (conditions, .unnamedFields)
  discard (punct ";")
  return (conditions, .unnamedFields)

private def enumerationContent (rules : Rules) : Reader (WhereClause × Content) := do
  let conditions ← whereClause rules
  discard (commaGroup .brace (variant rules))
  return (conditions, .enumeration)

private def unionContent (rules : Rules) : Reader (WhereClause × Content) := do
  let conditions ← whereClause rules
  discard rules.fields
  return (conditions, .union)

def declaration (rules : Rules) : Reader Item := do
  let attributes ← outerAttributes rules
  let access ← visibility
  let content ←
    if ← sees (atWord "struct") then pure (structureContent rules)
    else if ← sees (atWord "enum") then pure (enumerationContent rules)
    else if ← sees (atWord "union") then pure (unionContent rules)
    else failure
  discard tree
  let name ← identName
  let (parameters, trailing) ← parameters rules
  let (conditions, content) ← content
  return ⟨attributes, access, name, ⟨parameters, trailing, conditions⟩, content⟩

/-- Reads all of a text. -/
private def readAll? {α : Type} (p : Rules → Reader α) (text : String) : Option α := do
  all? (p Rules.all) (← Source.read? text)

end Grammar

def Item.read? (text : String) : Option Item :=
  Grammar.readAll? Grammar.declaration text

def Field.readNamed? (text : String) : Option Field :=
  Grammar.readAll? Grammar.namedField text

def Field.readUnnamed? (text : String) : Option Field :=
  Grammar.readAll? Grammar.tupleField text

/-- A path to a module or type that stands alone in a text. -/
def Path.read? (text : String) : Option Path :=
  Grammar.readAll? (Grammar.path · .plain) text

/-- The expression that a remainder begins with. -/
def Grammar.leadingExpression : Grammar.Reader Code :=
  Grammar.Rules.all.value

end StructBuilder
