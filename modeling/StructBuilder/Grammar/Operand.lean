import StructBuilder.Grammar.Pattern
import StructBuilder.Grammar.Type

/-!
Operands: what an expression begins with before anything follows it. Most are told
apart by their first word. An operand takes a whole expression at its right end if it
ends without a delimiter, as a closure or a `return` does.
-/

namespace StructBuilder.Grammar

open Reader

/-! Blocks and what contains them. -/

/-- A condition or what a block is preceded by: no brace continues its paths. -/
def bare (rules : Rules) : Reader Code := do
  return (← rules.expression false .any).code

def alternativePatterns (rules : Rules) : Reader Code := do
  return (← alternatives rules).code

/-- A condition ends with its block; the other branch is a block or a condition. -/
def conditional (rules : Rules) : Reader Code := do
  let first ← inTurn [word "if", bare rules, rules.block false]
  let others ← codeWhile
    (fun trees => atWord "else" trees && atWord "if" (second trees))
    (inTurn [word "else", word "if", bare rules, rules.block false])
  let last ← whenSees (atWord "else") (inTurn [word "else", rules.block false])
  return first ++ others ++ last

/-- Only the last arm, or one whose body ends with its block, goes without a comma. -/
private def arm (rules : Rules) : Reader Code := do
  let head ← inTurn [attributesCode rules, alternativePatterns rules,
    whenSees (atWord "if") (inTurn [word "if", rules.value]), punct "=>"]
  let body ← rules.statement
  let comma ← if body.form = .block then optionalPunct "," else commaBefore List.isEmpty
  return head ++ body.code ++ comma

def atKeywordBlock (trees : Trees) : Bool :=
  atAnyWord ["try", "const"] trees && atGroup .brace (second trees)

/-- What ends a statement with its block. -/
def startsBlock (trees : Trees) : Bool :=
  atAnyWord ["if", "while", "loop", "match", "unsafe"] trees || atKeywordBlock trees
    || (atWord "for" trees && !opensParameters (second trees))
    || atGroup .brace trees || atLifetime trees

def unlabeled (rules : Rules) : Reader Code := do
  let trees := (← get).trees
  if atWord "if" trees then conditional rules
  else if atWord "while" trees then inTurn [word "while", bare rules, rules.block true]
  else if atWord "for" trees then
    inTurn [word "for", alternativePatterns rules, word "in", bare rules, rules.block true]
  else if atWord "match" trees then
    inTurn [word "match", bare rules,
      group .brace (inTurn [innerAttributes rules, codeWhile (!·.isEmpty) (arm rules)])]
  else if atAnyWord ["loop", "unsafe", "const"] trees then inTurn [anything, rules.block true]
  else if atWord "try" trees then inTurn [anything, rules.block false]
  else rules.block true

/-- Loops and plain blocks may have a label. -/
def blockLike (rules : Rules) : Reader Expression := do
  let label ← whenSees atLifetime (inTurn [anything, punct ":"])
  guard (label.isEmpty || (← sees fun trees =>
    atAnyWord ["while", "for", "loop"] trees || atGroup .brace trees))
  return Expression.ofCode .block (label ++ (← unlabeled rules))

/-! Lists and structures. -/

/-- Expressions separated by commas, as a tuple or the arguments of a call. -/
def elements (rules : Rules) : Reader Code :=
  commaGroup .paren rules.value

def array (rules : Rules) : Reader Code :=
  group .bracket do
    if ← atEnd then return []
    let first ← rules.value
    if ← sees (atPunct ";") then return first ++ (← inTurn [punct ";", rules.value])
    return first ++ (← commaBefore List.isEmpty) ++ (← commaCode List.isEmpty rules.value)

private def fieldValue (rules : Rules) : Reader Code := do
  let (name, named) ← member
  if !named || (← sees (atPunct ":")) then return name ++ (← inTurn [punct ":", rules.value])
  return name

/-- The fields of a structure, and after them the value that supplies the others. -/
def structureFields (rules : Rules) : Reader Code :=
  group .brace (inTurn [
    codeWhile (fun trees => !trees.isEmpty && !atPunct ".." trees)
      (inTurn [attributesCode rules, fieldValue rules, commaBefore List.isEmpty]),
    whenSees (atPunct "..") (inTurn [punct "..", whenSees (!·.isEmpty) rules.value])])

def pathOperand (rules : Rules) (structs : Bool) : Reader Expression := do
  let (code, plain) ←
    if ← sees (atPunct "<") then do pure (← qualifiedPath rules .turbofish, false)
    else do
      let path ← path rules .turbofish
      pure (path.code, isModStyle path)
  if plain && (← sees atInvocation) then
    let code := code ++ (← invocation)
    return Expression.ofCode (if code.getLast?.any Tree.isBraces then .invocation else .other) code
  let fields ← whenSees (fun trees => structs && atGroup .brace trees) (structureFields rules)
  return Expression.ofCode .other (code ++ fields)

/-! Closures. -/

def closureInput (rules : Rules) : Reader Code := do
  let attributes ← attributesCode rules
  let pattern ← rules.pattern
  if ← sees (atPunct ":") then
    return attributes ++ pattern.code ++ (← inTurn [punct ":", rules.typeCode true])
  return pattern.underAttributes attributes

def closure (rules : Rules) (structs : Bool) : Reader Code := do
  let opening ← inTurn [
    whenSees (atWord "for") (boundLifetimes rules), optionalWord "const", optionalWord "static",
    optionalWord "async", optionalWord "move", punct "|"]
  let inputs ← commaCode (atPunct "|") (closureInput rules)
  let closing ← punct "|"
  let body ←
    if ← sees (atPunct "->") then inTurn [punct "->", rules.typeCode true, rules.block false]
    else do pure (← rules.expression structs .any).code
  return opening ++ inputs ++ closing ++ body

def startsClosure (trees : Trees) : Bool :=
  let next := second trees
  atPunct "|" trees || atAnyWord ["move", "static"] trees
    || (atWord "for" trees && opensParameters next)
    || (atWord "const" trees && !atGroup .brace next)
    || (atWord "async" trees && (atPunct "|" next || atWord "move" next))

/-! Jumps. -/

/-- The operand of `break`, `return` and the like may follow. -/
def beginsExpression (trees : Trees) : Bool :=
  atAnyIdent trees || atLifetime trees || atAnyGroup trees || atLiteral trees
    || atAttribute trees || atAnyPunct ["..", "::"] trees
    || (atPunct "!" trees && !atPunct "!=" trees)
    || (atPunct "-" trees && !atAnyPunct ["-=", "->"] trees)
    || (atPunct "*" trees && !atPunct "*=" trees)
    || (atPunct "|" trees && !atPunct "|=" trees)
    || (atPunct "&" trees && !atPunct "&=" trees)
    || (atPunct "<" trees && !atAnyPunct ["<=", "<<="] trees)

def breakValue (structs : Bool) (trees : Trees) : Bool :=
  beginsExpression trees && (structs || !atGroup .brace trees)

/-- What a loop is left with. Where no label says which loop, a value whose first
operand has a label behind attributes is put in parentheses. -/
def breakTail (rules : Rules) (structs : Bool) : Reader Code := do
  if ← sees atLifetime then
    inTurn [anything, whenSees (breakValue structs) rules.value]
  else if ← sees (breakValue structs) then
    let (value, taken) ← taking rules.value
    let labeled := (attributesCode rules ⟨taken, false⟩).any fun (_, rest) => atLifetime rest.trees
    return if labeled then Code.parens value else value
  else return []

/-- Even where braces do not continue a path, they do in the value of a jump. -/
def jump (rules : Rules) (structs : Bool) : Reader Code := do
  if ← sees (atWord "break") then inTurn [anything, breakTail rules structs]
  else inTurn [anything, whenSees beginsExpression rules.value]

/-- A call in the place of the caller, kept as written. -/
def tailCall (rules : Rules) : Reader Code := do
  let (_, taken) ← taking (inTurn [word "become", rules.value])
  return Source.Tree.codeOf taken

/-! Ranges. -/

def endsOpenRange (structs : Bool) (trees : Trees) : Bool :=
  trees.isEmpty || atPoint trees || atAnyPunct [",", ";", "?", "=>", "=", "+", "/", "%", "^", ">",
      "<=", "!=", "-=", "*=", "&=", "|=", "<<="] trees
    || (!structs && atGroup .brace trees) || atWord "as" trees

/-- The dots of a range and its upper bound, which only two dots can go without. -/
def rangeTail (rules : Rules) (structs : Bool) : Reader Code := do
  guard !(← sees (atPunct "..."))
  let closed ← sees (atPunct "..=")
  let dots ← punct (if closed then "..=" else "..")
  if !closed && (← sees (endsOpenRange structs)) then return dots
  return dots ++ (← rules.right structs .range).code

/-! Operands. -/

def startsPathOperand (trees : Trees) : Bool :=
  atModPath trees || atAnyPunct ["::", "<"] trees
    || (atWord "try" trees && atAnyPunct ["!", "::"] (second trees))

def startsAsyncBlock (trees : Trees) : Bool :=
  let next := second trees
  atWord "async" trees
    && (atGroup .brace next || (atWord "move" next && atGroup .brace (third trees)))

/-- A condition that binds by a pattern. -/
def letCondition (rules : Rules) (structs : Bool) : Reader Code := do
  let head ← inTurn [word "let", alternativePatterns rules, punct "="]
  return head ++ (← rules.expression structs .comparison).code

def operand (rules : Rules) (structs : Bool) : Reader Expression := do
  let trees := (← get).trees
  if atLiteral trees then Expression.ofCode .other <$> literal
  else if startsBlock trees then blockLike rules
  else if atBuiltin trees then Expression.ofCode .unknown <$> builtin
  else if atWord "become" trees then Expression.ofCode .unknown <$> tailCall rules
  else if atPunct ".." trees then Expression.ofCode .range <$> rangeTail rules structs
  else if startsPathOperand trees then pathOperand rules structs
  else Expression.ofCode .other <$>
    if startsAsyncBlock trees then
      inTurn [word "async", optionalWord "move", rules.block false]
    else if startsClosure trees then closure rules structs
    else if atGroup .paren trees then elements rules
    else if atGroup .bracket trees then array rules
    else if atAnyWord ["break", "return", "yield"] trees then jump rules structs
    else if atWord "continue" trees then inTurn [anything, whenSees atLifetime anything]
    else if atWord "let" trees then letCondition rules structs
    else if atWord "_" trees then anything
    else failure

end StructBuilder.Grammar
