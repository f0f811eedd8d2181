import StructBuilder.Grammar.Path

/-!
Patterns, as the parameters of closures, the arms of a match and local bindings
have them. Alternatives are separated by `|` where a pattern stands on its own.
-/

namespace StructBuilder.Grammar

open Reader

def atAlternative (trees : Trees) : Bool :=
  atPunct "|" trees && !atAnyPunct ["||", "|="] trees

/-- Alternatives, with an optional `|` before the first. -/
def alternatives (rules : Rules) : Reader Pattern := do
  let opening ← optionalPunct "|"
  let first ← rules.pattern
  let others ← codeWhile atAlternative do
    let sign ← punct "|"
    return sign ++ (← rules.pattern).code
  if opening.isEmpty && others.isEmpty then return first
  return ⟨.other, opening ++ first.code ++ others⟩

def alternativesCode (rules : Rules) : Reader Code := do
  return (← alternatives rules).code

/-! Ranges. -/

/-- The dots of a range, and whether its upper bound is part of it. -/
def limits : Reader (Code × Bool) := do
  if ← sees (atPunct "..=") then return (← punct "..=", true)
  if ← sees (atPunct "...") then
    discard (punct "...")
    return (Code.phrase "..=", true)
  return (← punct "..", false)

def endsRange (trees : Trees) : Bool :=
  trees.isEmpty || atAnyPunct ["|", "=", ",", ";"] trees || atColon trees || atWord "if" trees

def rangeBound (rules : Rules) : Reader Code := do
  if ← sees atLiteral then literal
  else if ← sees (atWord "const") then inTurn [word "const", rules.block true]
  else if ← sees (atPunct "<") then qualifiedPath rules .turbofish
  else
    guard (← sees fun trees => atModPath trees || atPunct "::" trees)
    return (← path rules .turbofish).code

/-- A range behind its lower bound, which may be missing. -/
def range (rules : Rules) (lower : Code) : Reader Pattern := do
  let (dots, closed) ← limits
  if ← sees endsRange then
    guard !closed
    return ⟨if lower.isEmpty then .other else .range false, lower ++ dots⟩
  return ⟨.range !lower.isEmpty, lower ++ dots ++ (← rangeBound rules)⟩

/-- A bound, which may turn out to begin a range. -/
def boundOrRange (rules : Rules) : Reader Pattern := do
  let bound ← rangeBound rules
  if ← sees (atPunct "..") then range rules bound else return ⟨.other, bound⟩

/-! Parts of patterns. -/

private def fieldPattern (rules : Rules) : Reader Code := do
  if ← sees (atAnyWord ["box", "ref", "mut"]) then
    inTurn [optionalWord "box", optionalWord "ref", optionalWord "mut", ident]
  else
    let (name, named) ← member
    if !named || (← sees (atPunct ":")) then
      return name ++ (← inTurn [punct ":", alternativesCode rules])
    return name

/-- The fields of a structure; two dots for the others end them. -/
private def fieldPatterns (rules : Rules) : Reader Code :=
  repeated (fun fields => do
    if ← atEnd then return (fields, false)
    let attributes ← attributesCode rules
    if ← sees (atPunct "..") then return (fields ++ attributes ++ (← punct ".."), false)
    let field ← fieldPattern rules
    return (fields ++ attributes ++ field ++ (← commaBefore List.isEmpty), true)) []

/-- The parts of a slice; a range among them must have both bounds. -/
def slice (rules : Rules) : Reader Code :=
  commaGroup .bracket do
    let part ← alternatives rules
    guard (part.form != .range false)
    return part.code

def tuple (rules : Rules) : Reader Code :=
  commaGroup .paren (alternativesCode rules)

/-! Patterns. -/

def pathPattern (rules : Rules) : Reader Pattern := do
  let (code, plain) ←
    if ← sees (atPunct "<") then do pure (← qualifiedPath rules .turbofish, false)
    else do
      let path ← path rules .turbofish
      pure (path.code, isModStyle path)
  if plain && (← sees atInvocation) then return ⟨.other, code ++ (← invocation)⟩
  if ← sees (atGroup .brace) then
    return ⟨.other, code ++ (← group .brace (fieldPatterns rules))⟩
  if ← sees (atGroup .paren) then return ⟨.other, code ++ (← tuple rules)⟩
  if ← sees (atPunct "..") then range rules code else return ⟨.other, code⟩

def startsPathPattern (trees : Trees) : Bool :=
  let next := second trees
  (atIdent trees && (atAnyPunct ["::", "!", ".."] next || atGroup .brace next || atGroup .paren next))
    || (atWord "self" trees && atPunct "::" next)
    || atAnyPunct ["::", "<"] trees
    || atAnyWord ["Self", "super", "crate"] trees

def patternCode (rules : Rules) : Reader Code := do
  return (← rules.pattern).code

def binding (rules : Rules) : Reader Code :=
  inTurn [optionalWord "ref", optionalWord "mut",
    satisfying (fun trees => atIdent trees || atWord "self" trees),
    whenSees (atPunct "@") (inTurn [punct "@", patternCode rules])]

/-- A pattern of boxes is kept as written. -/
def boxed (rules : Rules) : Reader Pattern := do
  let (_, taken) ← taking (inTurn [word "box", patternCode rules])
  return ⟨.unknown, Source.Tree.codeOf taken⟩

def pattern (rules : Rules) : Reader Pattern := do
  let trees := (← get).trees
  if startsPathPattern trees then pathPattern rules
  else if atWord "box" trees then boxed rules
  else if atLiteral trees || atWord "const" trees then boundOrRange rules
  else if atPunct ".." trees && !atPunct "..." trees then range rules []
  else Pattern.mk .other <$>
    if atWord "_" trees then anything
    else if atIdent trees || atAnyWord ["ref", "mut", "self"] trees then binding rules
    else if atPunct "&" trees then inTurn [punct "&", optionalWord "mut", patternCode rules]
    else if atGroup .paren trees then tuple rules
    else if atGroup .bracket trees then slice rules
    else failure

end StructBuilder.Grammar
