import StructBuilder.Grammar.Bound

/-!
Types. A path stays a path, a bound that stands alone stays a bound, and every other
form is read to its end and kept as tokens. Where no `+` may follow, as behind a
reference, bounds end with their first item.
-/

namespace StructBuilder.Grammar

open Reader

/-! Bounds as types. -/

def atCapture : Trees → Bool :=
  atWord "use"

/-- `use<…>`, which only an anonymous type takes among its bounds. -/
def preciseCapture : Reader Code := do
  let opening ← inTurn [word "use", punct "<"]
  let (items, trailing) ← commaList (atPunct ">") do
    let isLifetime ← sees atLifetime
    return (isLifetime, ← satisfying fun trees =>
      atLifetime trees || atIdent trees || atWord "Self" trees)
  return opening ++ Listed.lifetimesFirst (Listed.mark trailing items) ++ (← punct ">")

def anonymousBound (rules : Rules) : Reader Code := do
  if ← sees atCapture then preciseCapture else rules.bound true

/-- Bounds of an object or anonymous type, of which one at least is a trait. -/
def traits (plus : Bool) (continues : Trees → Bool) (one : Reader Code) : Reader Code := do
  let (bounds, found) ← repeated (fun (bounds, found) => do
    let isTrait ← sees fun trees => !atLifetime trees && !atCapture trees
    let bounds := bounds ++ (← one)
    let found := found || isTrait
    if !(plus && (← sees (atPunct "+"))) then return ((bounds, found), false)
    let bounds := bounds ++ (← punct "+")
    return ((bounds, found), ← sees continues)) (([] : Code), false)
  guard found
  return bounds

def objectBounds (rules : Rules) (plus : Bool) : Reader Code :=
  traits plus startsBound (rules.bound false)

def anonymousBounds (rules : Rules) (plus : Bool) : Reader Code :=
  traits plus (fun trees => startsBound trees || atGroup .bracket trees) (anonymousBound rules)

/-! Types of functions. -/

private def atMutableReceiver (trees : Trees) : Bool :=
  atWord "mut" trees && atWord "self" (second trees)

/-- The name of an input and the colon behind it. -/
private def inputName (receiver : Bool) : Reader Code :=
  whenSees (fun trees => (atIdent trees || atWord "_" trees || (receiver && atWord "self" trees))
      && atColon (second trees))
    (inTurn [anything, punct ":"])

/-- An input without its attributes. Only the first one may be a receiver, and with
`mut` it is kept as written. -/
private def bareInput (rules : Rules) (first : Bool) : Reader Code := orAsWritten do
  let isMutable ← sees fun trees => first && atMutableReceiver trees
  if isMutable then discard (word "mut")
  let isReceiver ← sees (atWord "self")
  let name ← inputName first
  if first && !(isReceiver && !name.isEmpty) && (← sees atMutableReceiver) then
    discard (inTurn [word "mut", word "self"])
    return none
  if isMutable && name.isEmpty then
    discard (word "self")
    return none
  let type ← rules.typeCode true
  return if isMutable then none else some (name ++ type)

private def atVariadic (trees : Trees) : Bool :=
  atPunct "..." trees || ((atIdent trees || atWord "_" trees) && atPunct ":" (second trees)
    && atPunct "..." (third trees))

/-- The inputs of a function type; a variadic one is the last. -/
private def bareInputs (rules : Rules) : Reader Code :=
  repeated (fun inputs => do
    if ← atEnd then return (inputs, false)
    let attributes ← attributesCode rules
    if ← sees atVariadic then
      let dots ← inTurn [whenSees (!atPunct "..." ·) (inTurn [anything, punct ":"]),
        punct "...", optionalPunct ","]
      return (inputs ++ attributes ++ dots, false)
    let input ← bareInput rules inputs.isEmpty
    return (inputs ++ attributes ++ input ++ (← commaBefore List.isEmpty), true)) []

/-- `extern` and the name of a calling convention, if there are any. -/
def convention : Reader Code :=
  whenSees (atWord "extern") (inTurn [word "extern", whenSees atText anything])

def functionType (rules : Rules) : Reader Code :=
  inTurn [optionalWord "unsafe", convention, word "fn", group .paren (bareInputs rules),
    whenSees (atPunct "->") (inTurn [punct "->", rules.typeCode false])]

/-! Parentheses. -/

/-- What stands between parentheses. -/
inductive Enclosed where
  /-- No bounds are joined to it. -/
  | closed (code : Code)
  /-- A bound that relaxes another. -/
  | relaxed (code : Code)
  | single (ty : Ty)

private def enclosed (rules : Rules) : Reader Enclosed := do
  if ← atEnd then return .closed []
  if ← sees atLifetime then return .closed (← objectBounds rules true)
  if ← sees (atPunct "?") then return .relaxed ((← traitBound rules false).getD [])
  let first ← rules.type true
  if ← sees (atPunct ",") then
    let comma ← punct ","
    return .closed (first.code ++ comma ++ (← commaCode List.isEmpty (rules.typeCode true)))
  return .single first

/-- Bounds behind a bound in parentheses; none of the plus signs is alone. -/
def joinedBounds (rules : Rules) : Reader Code :=
  codeWhile (atPunct "+") (inTurn [punct "+", rules.bound false])

def parenthesized (rules : Rules) (plus : Bool) : Reader Ty := do
  match ← inside .paren (enclosed rules) with
  | .closed code => return .other (Code.parens code)
  | .relaxed code =>
      let more ← joinedBounds rules
      return if more.isEmpty then .bound true code else .other (Code.parens code ++ more)
  | .single ty =>
      let joined ← sees fun trees => plus && atPunct "+" trees
      match joined, ty with
      | true, .path path => return .other (Code.parens path.code ++ (← joinedBounds rules))
      | true, .bound _ code => return .other (Code.parens code ++ (← joinedBounds rules))
      | _, _ => return .other (Code.parens ty.code)

/-! Paths and what they begin. -/

/-- A form of the compiler's own. -/
def atBuiltin (trees : Trees) : Bool :=
  atWord "builtin" trees && atPunct "#" (second trees)

def builtin : Reader Code :=
  inTurn [word "builtin", punct "#", ident, satisfying (atGroup .paren)]

def pathType (rules : Rules) (plus : Bool) (lifetimes : Code) : Reader Ty := do
  if ← sees (atPunct "<") then return .other (← qualifiedPath rules .plain)
  let path ← path rules .plain
  if isModStyle path && (← sees atInvocation) then return .other (path.code ++ (← invocation))
  let more ← if plus then moreBounds startsBound (rules.bound false) else pure []
  if !more.isEmpty then return .other (lifetimes ++ path.code ++ more)
  return if lifetimes.isEmpty then .path path else .bound false (lifetimes ++ path.code)

def startsPath (trees : Trees) : Bool :=
  atModPath trees || atAnyPunct ["::", "<"] trees

def startsFunction (trees : Trees) : Bool :=
  atAnyWord ["fn", "unsafe", "extern"] trees

/-- A type that may have `for<…>` before it. -/
def quantified (rules : Rules) (plus : Bool) : Reader Ty := do
  let (ty, taken) ← taking do
    let lifetimes ← whenSees (atWord "for") (boundLifetimes rules)
    guard (← sees fun trees => atModPath trees || startsFunction trees
      || (lifetimes.isEmpty && startsPath trees))
    if ← sees startsFunction then
      return some (Ty.other (lifetimes ++ (← functionType rules)))
    if ← sees atBuiltin then
      discard builtin
      return none
    return some (← pathType rules plus lifetimes)
  return ty.getD (.other (Source.Tree.codeOf taken))

def bracketed (rules : Rules) : Reader Code :=
  group .bracket (inTurn [rules.typeCode true,
    whenSees (atPunct ";") (inTurn [punct ";", rules.value])])

/-- An object type; with a star behind `dyn` it is kept as written. -/
def objectType (rules : Rules) (plus : Bool) : Reader Code := orAsWritten do
  let keyword ← word "dyn"
  let star ← optionalPunct "*"
  let bounds ← objectBounds rules plus
  return if star.isEmpty then some (keyword ++ bounds) else none

def type (rules : Rules) (plus : Bool) : Reader Ty := do
  let trees := (← get).trees
  if atWord "for" trees || startsFunction trees || startsPath trees then quantified rules plus
  else if atGroup .paren trees then parenthesized rules plus
  else Ty.other <$>
    if atGroup .bracket trees then bracketed rules
    else if atWord "dyn" trees then objectType rules plus
    else if atWord "impl" trees then inTurn [word "impl", anonymousBounds rules plus]
    else if atPunct "*" trees then
      inTurn [punct "*", satisfying (atAnyWord ["const", "mut"]), rules.typeCode false]
    else if atPunct "&" trees then
      inTurn [punct "&", whenSees atLifetime anything, optionalWord "mut", rules.typeCode false]
    else if atPunct "!" trees then punct "!"
    else if atWord "_" trees then anything
    else if atLifetime trees then objectBounds rules true
    else failure

end StructBuilder.Grammar
