import StructBuilder.Grammar.Member

/-!
Items among the statements of a block or in a module. Every reader here stands behind
the attributes and the visibility of an item; where it answers nothing, the item is
kept as written, with all that stands before it.
-/

namespace StructBuilder.Grammar

open Reader

/-! Names from elsewhere. -/

private def newName : Reader Code :=
  whenSees (atWord "as") (inTurn [word "as", identOrBlank])

private def externalCrate : Reader Code :=
  inTurn [word "extern", word "crate",
    do if ← sees (atWord "self") then anything else ident, newName, punct ";"]

private def startsName (trees : Trees) : Bool :=
  atIdent trees || atAnyWord ["self", "super", "crate", "try"] trees

/-- What `use` names: a name, everything, or a group of the same, behind a path that
leads there. In a group without such a path, names may begin at the root of all paths
if `root` allows it; answers whether one does. -/
def names (rules : Rules) (root : Bool) : Reader Bool := do
  let path ← codeWhile (fun trees => startsName trees && atPunct "::" (second trees))
    (inTurn [anything, punct "::"])
  if ← sees startsName then
    discard (inTurn [anything, newName])
    return false
  if ← sees (atPunct "*") then
    discard (punct "*")
    return false
  let root := root && path.isEmpty
  let rooted ← inside .brace <| listWhile (!·.isEmpty) do
    let atRoot ← sees fun trees => root && atPunct "::" trees
    if atRoot then discard (punct "::")
    let rooted ← rules.names (root && !atRoot)
    discard (commaBefore List.isEmpty)
    return atRoot || rooted
  return rooted.any id

private def useItem (rules : Rules) : Reader (Option Code) := do
  let head ← inTurn [word "use", optionalPunct "::"]
  let leading := head.length > 1
  let (rooted, taken) ← taking (rules.names !leading)
  let semicolon ← punct ";"
  return if rooted then none else some (head ++ Source.Tree.codeOf taken ++ semicolon)

/-! Values and functions. -/

private def functionItem (rules : Rules) : Reader (Option Code) := do
  let head ← signature rules false
  if ← sees (atPunct ";") then
    discard (punct ";")
    return none
  return some (head ++ (← rules.block true))

/-- A static value; without its type or its value it is kept as written. -/
private def staticItem (rules : Rules) : Reader (Option Code) := do
  let head ← inTurn [word "static", optionalWord "mut", ident]
  let type ← whenSees (!atPunct "=" ·) (inTurn [punct ":", rules.typeCode true])
  let value ← whenSees (fun trees => type.isEmpty || !atPunct ";" trees)
    (inTurn [punct "=", rules.value])
  let semicolon ← punct ";"
  return if type.isEmpty || value.isEmpty then none else some (head ++ type ++ value ++ semicolon)

private def constItem (rules : Rules) : Reader (Option Code) := do
  discard (word "const")
  let constant ← constant rules
  return if constant.plain && !constant.value.isEmpty then some constant.code else none

/-! Types. -/

private def typeItem (rules : Rules) : Reader (Option Code) := do
  let declared ← typeAlias rules .before
  return if declared.bounds.isSome || declared.definition.isEmpty then none
    else some (declared.head ++ declared.conditions ++ declared.definition ++ Code.semicolon)

/-- Conditions stand before named fields and behind the others. -/
private def structItem (rules : Rules) : Reader Code := do
  let head ← inTurn [word "struct", ident, parametersCode rules]
  let conditional ← sees (atWord "where")
  let conditions ← whereCode rules
  if ← sees (atGroup .brace) then return head ++ conditions ++ (← rules.fields)
  if !conditional && (← sees (atGroup .paren)) then
    return head ++ (← inTurn [tupleFields rules, whereCode rules, punct ";"])
  return head ++ conditions ++ (← punct ";")

private def enumItem (rules : Rules) : Reader Code :=
  inTurn [word "enum", ident, parametersCode rules, whereCode rules,
    commaGroup .brace (variant rules)]

private def unionItem (rules : Rules) : Reader Code :=
  inTurn [word "union", ident, parametersCode rules, whereCode rules, rules.fields]

/-! Traits and implementations. -/

private def traitHead (rules : Rules) : Reader Code :=
  inTurn [optionalWord "unsafe", optionalWord "auto", word "trait", ident, parametersCode rules]

/-- Bounds up to a stop; a colon before none of them leaves no trace. -/
private def boundsBehind (mark : String) (stops : Trees → Bool) (one : Reader Code) :
    Reader Code := do
  let sign ← punct mark
  let bounds ← markedCode stops "+" one
  return if bounds.isEmpty then [] else sign ++ bounds

/-- A trait, or where neither mode stands before it, a short form for several. -/
private def traitItem (rules : Rules) : Reader Code := do
  let plain ← sees (atWord "trait")
  let head ← traitHead rules
  if ← sees fun trees => plain && atPunct "=" trees then
    let sign ← punct "="
    let bounds ← markedCode (fun trees => atWord "where" trees || atPunct ";" trees) "+"
      (rules.bound false)
    return head ++ sign ++ bounds ++ (← inTurn [whereCode rules, punct ";"])
  let bounds ← whenSees (atPunct ":") <|
    boundsBehind ":" (fun trees => atWord "where" trees || atGroup .brace trees) (rules.bound true)
  return head ++ bounds ++ (← inTurn [whereCode rules, traitMembers rules])

private def atConstant (trees : Trees) : Bool :=
  atWord "const" trees || (atPunct "?" trees && atWord "const" (second trees))

/-- An implementation. One that is constant, or of what is no trait, is kept as written. -/
private def implementation (rules : Rules) : Reader (Option Code) := do
  let head ← inTurn [optionalWord "default", optionalWord "unsafe", word "impl",
    do if ← sees opensParameters then parametersCode rules else pure []]
  let constness ← whenSees atConstant (inTurn [optionalPunct "?", word "const"])
  let polarity ← whenSees (fun trees => atPunct "!" trees && !atGroup .brace (second trees))
    (punct "!")
  let first ← rules.type true
  let target ← whenSees (atWord "for") (inTurn [word "for", rules.typeCode true])
  guard (polarity.isEmpty || !target.isEmpty)
  let members ← inTurn [whereCode rules, implementedMembers rules]
  let isPath := match first with
    | .path _ => true
    | _ => false
  return if !constness.isEmpty || (!target.isEmpty && !isPath) then none
    else some (head ++ polarity ++ first.code ++ target ++ members)

/-! Modules and rules. -/

private def foreignModule (rules : Rules) : Reader Code :=
  inTurn [optionalWord "unsafe", convention, foreignMembers rules]

/-- An item of a module with the attributes before it. -/
private def moduleMember (rules : Rules) : Reader Code := orAsWritten do
  let attributes ← attributesCode rules
  return (← rules.item).map (attributes ++ ·)

private def moduleItem (rules : Rules) : Reader Code :=
  inTurn [optionalWord "unsafe", word "mod",
    do if ← sees (atWord "try") then anything else ident,
    do if ← sees (atPunct ";") then punct ";" else memberGroup rules (moduleMember rules)]

/-- A rule invoked as an item, which may be given a name. -/
private def ruleItem : Reader Code :=
  inTurn [modPathCode, punct "!",
    whenSees (fun trees => atIdent trees || atWord "try" trees) anything, closedGroup]

/-- A rule defined by `macro`. -/
private def ruleDefinition : Reader Code :=
  inTurn [word "macro", ident, whenSees (atGroup .paren) anything, satisfying (atGroup .brace)]

private def restOfItem (rules : Rules) (access : Code) : Reader (Option Code) := do
  let trees := (← get).trees
  let next := second trees
  let written (p : Reader Code) : Reader (Option Code) := some <$> p
  if startsSignature false trees then functionItem rules
  else if atWord "extern" trees && atWord "crate" next then written externalCrate
  else if atWord "use" trees then useItem rules
  else if atWord "static" trees then staticItem rules
  else if atWord "const" trees then constItem rules
  else if atWord "mod" trees || (atWord "unsafe" trees && atWord "mod" next) then
    written (moduleItem rules)
  else if atWord "type" trees then typeItem rules
  else if atWord "struct" trees then written (structItem rules)
  else if atWord "enum" trees then written (enumItem rules)
  else if atWord "union" trees && atIdent next then written (unionItem rules)
  else if atWord "trait" trees || (atWord "auto" trees && atWord "trait" next)
      || (atWord "unsafe" trees && (atWord "trait" next
        || (atWord "auto" next && atWord "trait" (third trees)))) then
    written (traitItem rules)
  else if atWord "impl" trees || (atWord "unsafe" trees && atWord "impl" next)
      || (atWord "default" trees && !atPunct "!" next) then
    let implementation ← implementation rules
    return if access.isEmpty then implementation else none
  else if atWord "macro" trees then
    discard ruleDefinition
    return none
  else
    guard access.isEmpty
    if atWord "extern" trees || (atWord "unsafe" trees && atWord "extern" next) then
      written (foreignModule rules)
    else
      guard (startsRule trees)
      written ruleItem

def item (rules : Rules) : Reader (Option Code) := do
  let access ← visibility
  return (← restOfItem rules access).map (access ++ ·)

end StructBuilder.Grammar
