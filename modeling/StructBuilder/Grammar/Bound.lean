import StructBuilder.Grammar.Generics

/-!
Bounds: lifetimes and traits. Traits of functions have their arguments in parentheses.
A trait that is asked for in constant contexts is kept as written.
-/

namespace StructBuilder.Grammar

open Reader

def atFunctionArguments (trees : Trees) : Bool :=
  atGroup .paren trees || (atPunct "::" trees && atGroup .paren (third trees))

/-- `(A, B) -> C`. Colons before it are not repeated. -/
def functionArguments (rules : Rules) : Reader Code := do
  discard (optionalPunct "::")
  inTurn [commaGroup .paren (rules.typeCode true),
    whenSees (atPunct "->") (inTurn [punct "->", rules.typeCode false])]

/-- The trait of a bound. Empty angle brackets give way to arguments in parentheses. -/
def traitPath (rules : Rules) : Reader Code := do
  let path ← path rules .plain
  let bare := match path.last.arguments with
    | .none => true
    | .angled _ items _ => items.isEmpty
  if bare && (← sees atFunctionArguments) then
    let named := Path.mk path.leading path.front (.mk path.last.name .none)
    return named.code ++ (← functionArguments rules)
  return path.code

/-- A trait with what modifies it, unless it is to be kept as written. -/
def traitBound (rules : Rules) (constant : Bool) : Reader (Option Code) := do
  let lifetimes ← whenSees (atWord "for") (boundLifetimes rules)
  let bracketed ← sees (atGroup .bracket)
  let constness ←
    if bracketed then inside .bracket (word "const")
    else optionalWord "const"
  guard (constant || constness.isEmpty)
  let relaxed ← optionalPunct "?"
  guard (lifetimes.isEmpty || relaxed.isEmpty)
  let path ← traitPath rules
  return if constness.isEmpty then some (lifetimes ++ relaxed ++ path) else none

def bound (rules : Rules) (constant : Bool) : Reader Code := do
  if ← sees atLifetime then anything
  else orAsWritten do
    if ← sees (atGroup .paren) then
      return (← inside .paren (traitBound rules constant)).map Code.parens
    traitBound rules constant

def startsBound (trees : Trees) : Bool :=
  atAnyIdent trees || atLifetime trees || atAnyPunct ["::", "?"] trees || atGroup .paren trees

/-- Bounds behind those there are, each after a `+`; the last `+` may be alone. -/
def moreBounds (continues : Trees → Bool) (one : Reader Code) : Reader Code :=
  repeated (fun bounds => do
    if !(← sees (atPunct "+")) then return (bounds, false)
    let sign ← punct "+"
    if !(← sees continues) then return (bounds ++ sign, false)
    return (bounds ++ sign ++ (← one), true)) []

end StructBuilder.Grammar
