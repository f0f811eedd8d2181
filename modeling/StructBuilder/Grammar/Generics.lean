import StructBuilder.Declaration.Generics
import StructBuilder.Grammar.Path

/-!
Generic parameters, those that `for<…>` binds included, and `where` clauses. A colon
without bounds behind it leaves no trace on a parameter, but stays on a predicate.
-/

namespace StructBuilder.Grammar

open Reader

def stopsBounds (trees : Trees) : Bool :=
  trees.isEmpty || atAnyPunct [",", ">", "="] trees

def lifetimeParameter (attributes : Code) : Reader Parameter := do
  let name ← lifetimeName
  let colon ← optionalPunct ":"
  let bounds ← if colon.isEmpty then pure [] else
    markedCode (fun trees => trees.isEmpty || atAnyPunct [",", ">"] trees) "+"
      (satisfying atLifetime)
  return .lifetime attributes name bounds

def ifAssigned (p : Reader Code) : Reader (Option Code) := do
  if ← sees (atPunct "=") then
    discard (punct "=")
    return some (← p)
  return none

def constParameter (rules : Rules) (attributes : Code) : Reader Parameter := do
  discard (word "const")
  let name ← identName
  discard (punct ":")
  let type ← rules.typeCode true
  return .constant attributes name type (← ifAssigned (constArgument rules))

def typeParameter (rules : Rules) (attributes : Code) : Reader Parameter := do
  let name ← identName
  let colon ← optionalPunct ":"
  let bounds ← if colon.isEmpty then pure [] else markedCode stopsBounds "+" (rules.bound true)
  return .type attributes name bounds (← ifAssigned (rules.typeCode true))

/-- A parameter; `blank` allows the name `_`. -/
def parameter (rules : Rules) (blank : Bool) : Reader Parameter := do
  let attributes ← attributesCode rules
  if ← sees atLifetime then lifetimeParameter attributes
  else if ← sees (atWord "const") then constParameter rules attributes
  else if blank && (← sees (atWord "_")) then
    return .type attributes (← anyIdentName) [] none
  else typeParameter rules attributes

/-- Parameters in angle brackets, and whether the last one has a comma. -/
def angled (rules : Rules) (blank : Bool) : Reader (List Parameter × Bool) := do
  discard (punct "<")
  let items ← commaList (atPunct ">") (parameter rules blank)
  discard (punct ">")
  return items

/-- The parameters in angle brackets, if there are any. -/
def parameters (rules : Rules) : Reader (List Parameter × Bool) := do
  if ← sees (atPunct "<") then angled rules true else return ([], false)

/-- Parameters as an item repeats them from its declaration. -/
def parametersCode (rules : Rules) : Reader Code := do
  let (items, trailing) ← parameters rules
  return (Generics.mk items trailing WhereClause.empty).definitionsCode

/-- `for<…>` with the parameters it binds, in their order. -/
def boundLifetimes (rules : Rules) : Reader Code := do
  let keyword ← word "for"
  let (items, trailing) ← angled rules false
  return keyword ++ Code.name "<"
    ++ Code.commaSeparated trailing (items.map Parameter.definition) ++ Code.name ">"

/-- Behind a keyword, an angle bracket opens parameters and not a qualified path. -/
def opensParameters (trees : Trees) : Bool :=
  let next := second trees
  let third := third trees
  atPunct "<" trees && (atPunct ">" next || atAttribute next || atWord "const" next
    || ((atLifetime next || atIdent next) && (atAnyPunct [">", ",", "="] third || atColon third)))

/-! Conditions. -/

private def stopsPredicate (trees : Trees) : Bool :=
  trees.isEmpty || atGroup .brace trees || atAnyPunct [",", ";", "="] trees || atColon trees

private def predicate (rules : Rules) : Reader Code := do
  if ← sees fun trees => atLifetime trees && atPunct ":" (second trees) then
    inTurn [anything, punct ":",
      markedCode (fun trees => stopsPredicate trees || atPunct ":" trees) "+"
        (satisfying atLifetime)]
  else
    inTurn [whenSees (atWord "for") (boundLifetimes rules), rules.typeCode true, punct ":",
      markedCode stopsPredicate "+" (rules.bound true)]

/-- A `where` clause, if there is one. It has no parameters of its own. -/
def whereClause (rules : Rules) : Reader WhereClause := do
  if !(← sees (atWord "where")) then return WhereClause.empty
  discard (word "where")
  guard !(← sees opensParameters)
  let predicates ← repeated (fun predicates => do
    if ← sees stopsPredicate then return (predicates, false)
    let code ← predicate rules
    let comma ← optionalPunct ","
    return ((code, !comma.isEmpty) :: predicates, !comma.isEmpty)) []
  return ⟨predicates.reverse.map (·.1), predicates.head?.any (·.2)⟩

def whereCode (rules : Rules) : Reader Code := do
  return (← whereClause rules).code

end StructBuilder.Grammar
