import StructBuilder.Grammar.Field
import StructBuilder.Grammar.Signature

/-!
What traits, implementations and foreign modules consist of. A member that its place
does not fully provide for, such as a function without a body in an implementation, is
kept as written.
-/

namespace StructBuilder.Grammar

open Reader

/-! Parts that members share with items. -/

/-- A rule is invoked here, and the invocation stands for what it expands to. -/
def startsRule (trees : Trees) : Bool :=
  atIdent trees || atAnyWord ["self", "super", "crate"] trees || atPunct "::" trees

/-- A group, and unless it is one of braces the semicolon behind it. -/
def closedGroup : Reader Code := do
  let braces ← sees (atGroup .brace)
  let content ← satisfying atAnyGroup
  return content ++ (← if braces then pure [] else punct ";")

private def ruleMember : Reader Code :=
  inTurn [modPathCode, punct "!", closedGroup]

/-- A name, or `_` instead of one. -/
def identOrBlank : Reader Code :=
  satisfying fun trees => atIdent trees || atWord "_" trees

/-- A constant behind its keyword. -/
structure Constant where
  name : Code
  /-- Neither parameters nor conditions are stated. -/
  plain : Bool
  type : Code
  value : Code

def constant (rules : Rules) : Reader Constant := do
  let name ← identOrBlank
  let generic ← sees (atPunct "<")
  discard (parametersCode rules)
  let type ← inTurn [punct ":", rules.typeCode true]
  let value ← whenSees (atPunct "=") (inTurn [punct "=", rules.value])
  let conditional ← sees (atWord "where")
  discard (whereClause rules)
  discard (punct ";")
  return ⟨name, !generic && !conditional, type, value⟩

def Constant.code (constant : Constant) : Code :=
  Code.name "const" ++ constant.name ++ constant.type ++ constant.value ++ Code.semicolon

/-- A type that is given a name. -/
structure Alias where
  /-- The keyword, the name and its parameters. -/
  head : Code
  /-- Bounds, with a colon before them if one is written. -/
  bounds : Option Code
  conditions : Code
  definition : Code

/-- Where the conditions of a type stand: before its definition, behind it, or where
they are found first. -/
inductive Conditions where
  | before
  | behind
  | anywhere
  deriving DecidableEq

def typeAlias (rules : Rules) (conditions : Conditions) : Reader Alias := do
  let head ← inTurn [word "type", ident, parametersCode rules]
  let bounds ←
    if ← sees (atPunct ":") then do
      discard (punct ":")
      let stops (trees : Trees) : Bool := atWord "where" trees || atAnyPunct ["=", ";"] trees
      pure (some (← markedCode stops "+" (rules.bound true)))
    else pure none
  let early ← sees (atWord "where")
  let before ← if conditions = .behind then pure [] else whereCode rules
  let definition ← whenSees (atPunct "=") (inTurn [punct "=", rules.typeCode true])
  let behind ←
    if conditions = .before || (conditions = .anywhere && early) then pure []
    else whereCode rules
  discard (punct ";")
  return ⟨head, bounds, before ++ behind, definition⟩

/-! Members of traits. -/

private def traitType (rules : Rules) : Reader Code := do
  let declared ← typeAlias rules .behind
  let bounds := match declared.bounds with
    | some (bound :: more) => Code.name ":" ++ bound :: more
    | _ => []
  return declared.head ++ bounds ++ declared.definition ++ declared.conditions ++ Code.semicolon

private def functionEnd (rules : Rules) : Reader Code := do
  if ← sees (atPunct ";") then punct ";" else rules.block true

private def traitMember (rules : Rules) : Reader Code := orAsWritten do
  let attributes ← attributesCode rules
  let access ← visibility
  let default ← optionalWord "default"
  let trees := (← get).trees
  let member : Option Code ←
    if startsSignature false trees then do
      pure (some (← inTurn [signature rules false, functionEnd rules]))
    else if atWord "const" trees then do
      discard (word "const")
      let constant ← constant rules
      pure (if constant.plain then some constant.code else none)
    else if atWord "type" trees then some <$> traitType rules
    else do
      guard (access.isEmpty && default.isEmpty && startsRule trees)
      some <$> ruleMember
  return if access.isEmpty && default.isEmpty then member.map (attributes ++ ·) else none

/-! Members of implementations. -/

private def implementedType (rules : Rules) : Reader (Option Code) := do
  let declared ← typeAlias rules .behind
  return if declared.bounds.isSome || declared.definition.isEmpty then none
    else some (declared.head ++ declared.definition ++ declared.conditions ++ Code.semicolon)

private def implementedFunction (rules : Rules) : Reader (Option Code) := do
  let head ← signature rules false
  if ← sees (atPunct ";") then
    discard (punct ";")
    return none
  return some (head ++ (← rules.block true))

private def implementedConstant (rules : Rules) : Reader (Option Code) := do
  discard (word "const")
  let constant ← constant rules
  return if constant.plain && !constant.value.isEmpty then some constant.code else none

private def implementedMember (rules : Rules) : Reader Code := orAsWritten do
  let attributes ← attributesCode rules
  let access ← visibility
  let default ← whenSees
    (fun trees => atWord "default" trees && !atPunct "!" (second trees)) anything
  let trees := (← get).trees
  let member ←
    if startsSignature false trees then implementedFunction rules
    else if atWord "const" trees then implementedConstant rules
    else if atWord "type" trees then implementedType rules
    else do
      guard (access.isEmpty && default.isEmpty && startsRule trees)
      some <$> ruleMember
  return member.map fun code => attributes ++ access ++ default ++ code

/-! Members of foreign modules. -/

private def foreignFunction (rules : Rules) : Reader (Option Code) := do
  let safe ← sees isCalledSafe
  let head ← signature rules true
  if ← sees (atGroup .brace) then
    discard (rules.block true)
    return none
  let semicolon ← punct ";"
  return if safe then none else some (head ++ semicolon)

private def foreignValue (rules : Rules) : Reader (Option Code) := do
  let trusted ← whenSees (atAnyWord ["unsafe", "safe"]) anything
  let head ← inTurn [word "static", optionalWord "mut", ident, punct ":", rules.typeCode true]
  let value ← whenSees (atPunct "=") (inTurn [punct "=", rules.value])
  let semicolon ← punct ";"
  return if trusted.isEmpty && value.isEmpty then some (head ++ semicolon) else none

private def foreignType (rules : Rules) : Reader (Option Code) := do
  let declared ← typeAlias rules .anywhere
  return if declared.bounds.isNone && declared.definition.isEmpty
    then some (declared.head ++ declared.conditions ++ Code.semicolon) else none

private def foreignMember (rules : Rules) : Reader Code := orAsWritten do
  let attributes ← attributesCode rules
  let access ← visibility
  let trees := (← get).trees
  let member ←
    if startsSignature true trees then foreignFunction rules
    else if atWord "static" trees
        || (atAnyWord ["unsafe", "safe"] trees && atWord "static" (second trees)) then
      foreignValue rules
    else if atWord "type" trees then foreignType rules
    else do
      guard (access.isEmpty && startsRule trees)
      some <$> ruleMember
  return member.map fun code => attributes ++ access ++ code

/-! Groups of members. -/

/-- Members in braces, and before them attributes of what they are members of. -/
def memberGroup (rules : Rules) (member : Reader Code) : Reader Code :=
  group .brace (inTurn [innerAttributes rules, codeWhile (!·.isEmpty) member])

def traitMembers (rules : Rules) : Reader Code :=
  memberGroup rules (traitMember rules)

def implementedMembers (rules : Rules) : Reader Code :=
  memberGroup rules (implementedMember rules)

def foreignMembers (rules : Rules) : Reader Code :=
  memberGroup rules (foreignMember rules)

end StructBuilder.Grammar
