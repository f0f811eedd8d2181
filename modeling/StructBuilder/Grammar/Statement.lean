import StructBuilder.Grammar.Expression

/-!
Blocks and their statements. Only the last statement may leave out its semicolon,
unless it ends with a block or with the braces of an invoked rule.
-/

namespace StructBuilder.Grammar

open Reader

/-- A name bound in a block. Another way out may follow its value unless that ends
with braces itself. -/
private def localBinding (rules : Rules) : Reader Code := do
  let keyword ← word "let"
  let pattern ← rules.pattern
  let type ← whenSees (atPunct ":") (inTurn [punct ":", rules.typeCode true])
  let value ← whenSees (atPunct "=") do
    let sign ← punct "="
    let e ← rules.expression true .any
    let otherwise ← whenSees (fun trees => !e.endsWithBraces && atWord "else" trees)
      (inTurn [word "else", rules.block false])
    return sign ++ e.code ++ otherwise
  return keyword ++ pattern.code ++ type ++ value ++ (← punct ";")

private def startsFunctionItem (trees : Trees) : Bool :=
  atAnyWord ["unsafe", "extern", "fn"] trees

private def startsItem (trees : Trees) : Bool :=
  let next := second trees
  atAnyWord ["pub", "extern", "use", "fn", "mod", "type", "struct", "enum", "trait", "impl",
      "macro"] trees
    || (atWord "crate" trees && !atPunct "::" next)
    || (atWord "static" trees && (atWord "mut" next || atIdent next))
    || (atWord "const" trees && !(atGroup .brace next || atAnyWord ["static", "move"] next
      || atPunct "|" next || (atWord "async" next && !startsFunctionItem (third trees))))
    || (atWord "unsafe" trees && !atGroup .brace next)
    || (atWord "async" trees && startsFunctionItem next)
    || (atWord "union" trees && atIdent next)
    || (atWord "auto" trees && atWord "trait" next)
    || (atWord "default" trees && atAnyWord ["unsafe", "impl"] next)

/-- What follows a path of names and an exclamation mark. -/
private def invocationRest (trees : Trees) : Option Trees :=
  match modPath ⟨trees, false⟩ with
  | some (_, rest) => if atPunct "!" rest.trees then some (second rest.trees) else none
  | none => none

/-- A rule that is given a name is an item. -/
private def startsDefinition (trees : Trees) : Bool :=
  (invocationRest trees).any fun rest => atIdent rest || atWord "try" rest

/-- A rule invoked with braces is a statement unless a member access follows. -/
private def startsInvocation (trees : Trees) : Bool :=
  (invocationRest trees).any fun rest =>
    atGroup .brace rest && !atPoint (second rest) && !atPunct "?" (second rest)

private def valueStatement (rules : Rules) (attributes : Code) : Reader Code := do
  let e ← statement rules
  let semicolon ← optionalPunct ";"
  guard (e.form = .block || e.form = .invocation || !semicolon.isEmpty || (← atEnd))
  return (e.underAttributes attributes).code ++ semicolon

private def oneStatement (rules : Rules) : Reader Code := do
  if ← sees (atPunct ";") then return ← punct ";"
  orAsWritten do
    let attributes ← attributesCode rules
    let trees := (← get).trees
    if startsInvocation trees then
      return some (attributes ++ (← inTurn [modPathCode, invocation, optionalPunct ";"]))
    if atWord "let" trees then return some (attributes ++ (← localBinding rules))
    if startsItem trees || startsDefinition trees then
      return (← rules.item).map (attributes ++ ·)
    return some (← valueStatement rules attributes)

/-- Statements in braces; with `inner`, attributes of the block may stand first. -/
def block (rules : Rules) (inner : Bool) : Reader Code :=
  group .brace (inTurn [if inner then innerAttributes rules else pure [],
    codeWhile (!·.isEmpty) (oneStatement rules)])

end StructBuilder.Grammar
