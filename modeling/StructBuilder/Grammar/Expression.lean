import StructBuilder.Grammar.Operand

/-!
Expressions. An operand takes what follows it directly, and signs before it take the
whole; operators then join operands by their strengths. A range ends its expression,
comparisons do not chain, and an expression ends where no continuation fits.
-/

namespace StructBuilder.Grammar

open Reader

/-! What follows an operand. -/

/-- The arguments of a generic method, and its values. -/
def methodTail (rules : Rules) : Reader Code := do
  if ← sees (atPunct "::") then
    discard (punct "::")
    let (items, trailing) ← angledArguments rules
    return (Arguments.angled true items trailing).code ++ (← elements rules)
  whenSees (atGroup .paren) (elements rules)

def plainMember (rules : Rules) : Reader Code := do
  if ← sees (atWord "await") then return ← anything
  let (name, named) ← member
  if named then return name ++ (← methodTail rules) else return name

/-- Members behind a dot. A decimal fraction is members of nested tuples. -/
def memberAccess (rules : Rules) : Reader Code := do
  let dot ← punct "."
  match (← get).trees with
  | .leaf _ _ (.number spelling) :: _ =>
      if (Source.integer? spelling.toList).isSome then return dot ++ (← plainMember rules)
      discard tree
      match Source.indices? spelling with
      | none => failure
      | some (indices, pointed) =>
          let members := indices.flatMap fun index => dot ++ Code.name (toString index)
          if pointed then return members ++ dot ++ (← plainMember rules) else return members
  | _ => return dot ++ (← plainMember rules)

def continuations (rules : Rules) : Expression → Reader Expression :=
  repeated fun e => do
    let trees := (← get).trees
    let continued (p : Reader Code) : Reader (Expression × Bool) := do
      return (Expression.ofCode .other (e.code ++ (← p)), true)
    if atGroup .paren trees then continued (elements rules)
    else if atGroup .bracket trees then continued (group .bracket rules.value)
    else if atPoint trees && e.form != .range then continued (memberAccess rules)
    else if atPunct "?" trees && e.form != .range then continued (punct "?")
    else return (e, false)

/-! What stands before an operand. -/

def atRawPointer (trees : Trees) : Bool :=
  atWord "raw" trees && atAnyWord ["mut", "const"] (second trees)

/-- `&`, `*`, `!` or `-`, and what belongs to a reference. -/
def sign : Reader Code := do
  if ← sees (atPunct "&") then
    inTurn [punct "&",
      do if ← sees atRawPointer then inTurn [anything, anything] else optionalWord "mut"]
  else anything

/-- An operand with the signs before it and what follows it. Attributes belong to the
whole; a range takes none here, and an unknown form is kept with them. -/
def signed (rules : Rules) (structs : Bool) : Reader Expression := do
  let (e, taken) ← taking do
    let attributes ← attributesCode rules
    if ← sees (atAnyPunct ["&", "*", "!", "-"]) then
      let sign ← sign
      let e ← rules.right structs .sign
      return Expression.ofCode .other (attributes ++ sign ++ e.code)
    let e ← continuations rules (← operand rules structs)
    guard (attributes.isEmpty || e.form != .range)
    return e.underAttributes attributes
  return if e.form = .unknown then { e with code := Source.Tree.codeOf taken } else e

/-! Operators between operands. -/

/-- Binary operators, longer spellings before their beginnings. -/
def operators : List (String × Strength) :=
  [("+=", .assignment), ("-=", .assignment), ("*=", .assignment), ("/=", .assignment),
   ("%=", .assignment), ("^=", .assignment), ("&=", .assignment), ("|=", .assignment),
   ("<<=", .assignment), (">>=", .assignment), ("&&", .conjunction), ("||", .disjunction),
   ("<<", .shift), (">>", .shift), ("==", .comparison), ("<=", .comparison),
   ("!=", .comparison), (">=", .comparison), ("+", .sum), ("-", .sum),
   ("*", .product), ("/", .product), ("%", .product), ("^", .bitXor),
   ("&", .bitAnd), ("|", .bitOr), ("<", .comparison), (">", .comparison)]

/-- What the trees begin with, seen as an operator. An arrow is none. -/
def operator? (trees : Trees) : Option (String × Strength) :=
  (operators.find? fun (mark, _) => atPunct mark trees) <|>
    if atPunct "=" trees && !atPunct "=>" trees then some ("=", .assignment)
    else if atPunct ".." trees then some ("..", .range)
    else if atWord "as" trees then some ("as", .cast)
    else none

/-- A type behind `as`. Nothing that belongs to an operand follows it. -/
def castTail (rules : Rules) : Reader Code := do
  let cast ← inTurn [word "as", rules.typeCode false]
  guard !(← sees fun trees => atPoint trees || atPunct "?" trees || atGroup .paren trees
    || atGroup .bracket trees)
  return cast

/-- Continues an expression by operators that are at least so strong. -/
def climb (rules : Rules) (structs : Bool) (least : Strength) :
    Expression → Reader Expression :=
  repeated fun e => do
    match operator? (← get).trees with
    | none => return (e, false)
    | some (mark, strength) =>
        if e.form = .range || !strength.reaches least then return (e, false)
        match strength with
        | .range => return (e.continued .range (← rangeTail rules structs), true)
        | .cast => return (e.continued .other (← castTail rules), true)
        | _ =>
            guard !(strength = .comparison && e.form = .comparison)
            let sign ← punct mark
            let right ← rules.right structs strength
            let form := if strength = .comparison then .comparison else .other
            return (e.continued form (sign ++ right.code), true)

/-- The right side of an operator goes on with every stronger operator; assignments
also go on with another one. -/
def right (rules : Rules) (structs : Bool) (operator : Strength) : Reader Expression := do
  repeated (fun e => do
    let next := ((operator? (← get).trees).map (·.2)).getD .any
    if next.exceeds operator || (next = .assignment && operator = .assignment) then
      let (e, taken) ← taking (climb rules structs next e)
      return (e, !taken.isEmpty)
    else return (e, false)) (← signed rules structs)

def expression (rules : Rules) (structs : Bool) (least : Strength) : Reader Expression := do
  climb rules structs least (← signed rules structs)

/-- An expression where a statement or the body of an arm stands: a block ends it
unless a member access follows. Attributes belong to its first operand. -/
def statement (rules : Rules) : Reader Expression := do
  let attributes ← attributesCode rules
  if ← sees startsBlock then
    let block ← blockLike rules
    if ← sees fun trees => atPoint trees || atPunct "?" trees then
      let operand ← continuations rules block
      climb rules true .any (operand.underAttributes attributes)
    else return block.underAttributes attributes
  else
    let operand ← signed rules true
    climb rules true .any (operand.underAttributes attributes)

end StructBuilder.Grammar
