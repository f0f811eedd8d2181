import StructBuilder.Grammar.Attribute

/-!
Paths with their arguments. In an expression the arguments of a path need `::` before
them, in a type they do not.
-/

namespace StructBuilder.Grammar

open Reader

/-! Arguments of a path. -/

def constArgument (rules : Rules) : Reader Code := do
  if ← sees atLiteral then literal
  else if ← sees atIdent then ident
  else rules.block true

def atConstArgument (trees : Trees) : Bool :=
  atLiteral trees || atGroup .brace trees

def atArgumentStop (trees : Trees) : Bool :=
  atAnyPunct [",", ">"] trees

/-- What is bound to an associated item, behind its name and generic arguments. -/
def association (rules : Rules) (path : Path) : Reader Argument := do
  if ← sees (atPunct "=") then
    let sign ← punct "="
    let value ← if ← sees atConstArgument then constArgument rules else rules.typeCode true
    return .associated (path.code ++ sign ++ value)
  else if ← sees (atPunct ":") then
    let colon ← punct ":"
    let bounds ← markedCode atArgumentStop "+" (rules.bound true)
    return .associated (path.code ++ colon ++ bounds)
  else return .type (.path path)

def argument (rules : Rules) : Reader Argument := do
  if ← sees fun trees => atLifetime trees && !atPunct "+" (second trees) then
    return .lifetime (← lifetimeName)
  if ← sees atConstArgument then return .constant (← constArgument rules)
  match ← rules.type true with
  | .path path => if path.isSingle then association rules path else return .type (.path path)
  | ty => return .type ty

/-- An argument list in angle brackets, and whether its last item has a comma. -/
def angledArguments (rules : Rules) : Reader (List Argument × Bool) := do
  discard (punct "<")
  let arguments ← commaList (atPunct ">") (argument rules)
  discard (punct ">")
  return arguments

/-! Paths. -/

/-- Where a path stands decides what its arguments begin with. -/
inductive PathStyle where
  | plain
  /-- In expressions, where angle brackets need `::` before them. -/
  | turbofish
  deriving DecidableEq

def atTurbofish (trees : Trees) : Bool :=
  atPunct "::" trees && atPunct "<" (third trees)

def atAngledArguments (trees : Trees) : Bool :=
  atPunct "<" trees && !atAnyPunct ["<=", "<<="] trees

def segment (rules : Rules) (style : PathStyle) : Reader Segment := do
  if ← sees (atAnyWord ["super", "self", "crate", "try"]) then
    return .mk (← anyIdentName) .none
  let name ← if ← sees (atWord "Self") then anyIdentName else identName
  let turbofish ← sees atTurbofish
  if turbofish || (style == .plain && (← sees atAngledArguments)) then
    if turbofish then discard (punct "::")
    let (items, trailing) ← angledArguments rules
    return .mk name (.angled turbofish items trailing)
  return .mk name .none

/-- Colons with a group in parentheses behind them belong to no segment. -/
def continuesPath (trees : Trees) : Bool :=
  atPunct "::" trees && !atGroup .paren (third trees)

private def pathOf (leading : Bool) (first : Segment) : List Segment → Path
  | [] => .mk leading [] first
  | second :: rest =>
      match pathOf leading second rest with
      | .mk leading front last => .mk leading (first :: front) last

def path (rules : Rules) (style : PathStyle) : Reader Path := do
  let leading ← sees (atPunct "::")
  if leading then discard (punct "::")
  let first ← segment rules style
  let rest ← listWhile continuesPath do
    discard (punct "::")
    segment rules style
  return pathOf leading first rest

/-- `<T as Trait>::Item` with at least one segment behind the qualification. -/
def qualifiedPath (rules : Rules) (style : PathStyle) : Reader Code := do
  let self ← inTurn [punct "<", rules.typeCode true]
  let trait ← whenSees (atWord "as") do
    let sign ← word "as"
    return sign ++ (← path rules .plain).code
  let closing ← inTurn [punct ">", punct "::"]
  let first ← segment rules style
  let rest ← listWhile (atPunct "::") do
    discard (punct "::")
    segment rules style
  return self ++ trait ++ closing ++ (pathOf false first rest).code

private def isModStyleSegment (segment : Segment) : Bool :=
  match segment.arguments with
  | .none => true
  | _ => false

/-- The path can name a rule to be invoked: no segment has arguments. -/
def isModStyle (path : Path) : Bool :=
  path.front.all isModStyleSegment && isModStyleSegment path.last

end StructBuilder.Grammar
