import StructBuilder.Declaration.Type
import StructBuilder.Grammar.Reader

/-!
What the recursive categories of the grammar answer, and these categories as one
record of readers. Each module of the grammar extends the record it is given by one
level of nesting, and the levels are stacked in one place; no reader calls itself.
-/

namespace StructBuilder.Grammar

/-- How strongly operators bind, the weakest first. -/
inductive Strength where
  | any
  | assignment
  | range
  | disjunction
  | conjunction
  | binding
  | comparison
  | bitOr
  | bitXor
  | bitAnd
  | shift
  | sum
  | product
  | cast
  | sign
  deriving DecidableEq, Ord, Repr

namespace Strength

def exceeds (left right : Strength) : Bool :=
  (compare left right).isGT

def reaches (left right : Strength) : Bool :=
  (compare left right).isGE

end Strength

/-- What an expression is, as far as its surroundings depend on it. -/
inductive Form where
  /-- A range, which no operator continues. -/
  | range
  /-- A comparison, which no other comparison continues. -/
  | comparison
  /-- It ends with its block, so that a statement needs no semicolon behind it. -/
  | block
  /-- A rule invoked with braces. -/
  | invocation
  /-- A form that is known only by its tokens. -/
  | unknown
  | other
  deriving DecidableEq, Repr

structure Expression where
  form : Form
  /-- The first operand is known only by its tokens. -/
  unknownHead : Bool
  code : Code

namespace Expression

/-- An operand with nothing before it. -/
def ofCode (form : Form) (code : Code) : Expression :=
  ⟨form, form = .unknown, code⟩

/-- The expression under attributes, which belong to its first operand. A range is put
in parentheses for them; where the operand is known only by its tokens, they are lost. -/
def underAttributes (attributes : Code) (e : Expression) : Expression :=
  if attributes.isEmpty || e.unknownHead then e
  else if e.form = .range then { e with code := attributes ++ Code.parens e.code }
  else { e with code := attributes ++ e.code }

/-- The expression continued by an operator and what follows it. -/
def continued (e : Expression) (form : Form) (more : Code) : Expression :=
  ⟨form, e.unknownHead, e.code ++ more⟩

/-- It ends with a group of braces. -/
def endsWithBraces (e : Expression) : Bool :=
  e.code.getLast?.any Tree.isBraces

end Expression

/-- What a pattern is, as far as its surroundings depend on it. -/
inductive PatternForm where
  | range (bounded : Bool)
  | unknown
  | other
  deriving DecidableEq, Repr

structure Pattern where
  form : PatternForm
  code : Code

/-- The pattern under attributes: as for expressions, a range takes parentheses and an
unknown form loses them. -/
def Pattern.underAttributes (attributes : Code) (pattern : Pattern) : Code :=
  if attributes.isEmpty then pattern.code
  else match pattern.form with
    | .range _ => attributes ++ Code.parens pattern.code
    | .unknown => pattern.code
    | .other => attributes ++ pattern.code

structure Rules where
  /-- A type; with `plus`, bounds joined by `+` may follow its first path. -/
  type : (plus : Bool) → Reader Ty
  /-- One bound of a type: a lifetime or a trait with what modifies it. Only some
  places allow a trait to be asked for in constant contexts. -/
  bound : (constant : Bool) → Reader Code
  /-- An expression of operators that are at least so strong; without `structs`, a
  brace does not continue a path. -/
  expression : (structs : Bool) → (least : Strength) → Reader Expression
  /-- What an operator of this strength has at its right. -/
  right : (structs : Bool) → (operator : Strength) → Reader Expression
  /-- A pattern without alternatives. -/
  pattern : Reader Pattern
  /-- An expression as a statement or the body of an arm. -/
  statement : Reader Expression
  /-- Statements in braces; with `inner`, attributes of the block may stand first. -/
  block : (inner : Bool) → Reader Code
  /-- A declaration behind its attributes; no answer means that it is kept as written. -/
  item : Reader (Option Code)
  /-- Named fields in braces. -/
  fields : Reader Code
  /-- What `use` names; answers whether a name begins at the root of all paths, which
  only a group allows. -/
  names : (root : Bool) → Reader Bool

/-- No nesting at all. -/
def Rules.none : Rules where
  type _ := failure
  bound _ := failure
  expression _ _ := failure
  right _ _ := failure
  pattern := failure
  statement := failure
  block _ := failure
  item := failure
  fields := failure
  names _ := failure

namespace Rules

def typeCode (rules : Rules) (plus : Bool) : Reader Code := do
  return (← rules.type plus).code

/-- An expression of any operators, where braces may continue a path. -/
def value (rules : Rules) : Reader Code := do
  return (← rules.expression true .any).code

end Rules
end StructBuilder.Grammar
