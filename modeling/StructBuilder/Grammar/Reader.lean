import StructBuilder.Source.Number
import StructBuilder.Source.Tree

/-!
Readers of token trees. A reader takes what it understands from the front and
answers it with the rest, or fails; all failures are alike, but a group that is left
before its end is only noted, for the reader of the whole to refuse. Look-ahead is a
test of the remaining trees, and a repetition goes on only while the rest gets shorter.
-/

namespace StructBuilder.Grammar

open Source (Leaf)

abbrev Trees := List Source.Tree

/-- What is still to be read. -/
structure Remainder where
  trees : Trees
  /-- A group was left before its end. -/
  stray : Bool

abbrev Reader := StateT Remainder Option

/-- Behind the first tree. -/
def second (trees : Trees) : Trees :=
  trees.drop 1

def third (trees : Trees) : Trees :=
  trees.drop 2

/-! Look-ahead. -/

def punctRest? : List Char → Trees → Option Trees
  | [], trees => some trees
  | c :: more, .leaf _ _ (.punct d) :: rest =>
      if c = d && (more.isEmpty || rest.head?.any (·.gap.isEmpty)) then punctRest? more rest
      else none
  | _ :: _, _ => none

/-- The trees begin with this punctuation, its characters joined. -/
def atPunct (mark : String) (trees : Trees) : Bool :=
  (punctRest? mark.toList trees).isSome

def atAnyPunct (marks : List String) (trees : Trees) : Bool :=
  marks.any (atPunct · trees)

/-- A colon that does not begin a pair of them. -/
def atColon (trees : Trees) : Bool :=
  atPunct ":" trees && !atPunct "::" trees

/-- A point that does not begin a range. -/
def atPoint (trees : Trees) : Bool :=
  atPunct "." trees && !atPunct ".." trees

def atWord (word : String) : Trees → Bool
  | .leaf _ _ (.ident name) :: _ => name == word
  | _ => false

def atAnyWord (words : List String) : Trees → Bool
  | .leaf _ _ (.ident name) :: _ => words.contains name
  | _ => false

/-- Words that are no identifiers unless written with `r#`. -/
def reservedWords : List String :=
  ["_", "abstract", "as", "async", "await", "become", "box", "break", "const", "continue",
   "crate", "do", "dyn", "else", "enum", "extern", "false", "final", "fn", "for", "if", "impl",
   "in", "let", "loop", "macro", "match", "mod", "move", "mut", "override", "priv", "pub", "ref",
   "return", "Self", "self", "static", "struct", "super", "trait", "true", "try", "type",
   "typeof", "unsafe", "unsized", "use", "virtual", "where", "while", "yield"]

def atAnyIdent : Trees → Bool
  | .leaf _ _ (.ident _) :: _ => true
  | _ => false

def atIdent : Trees → Bool
  | .leaf _ _ (.ident name) :: _ => !reservedWords.contains name
  | _ => false

def atLifetime : Trees → Bool
  | .leaf _ _ (.lifetime _) :: _ => true
  | _ => false

def atGroup (delimiter : Delimiter) : Trees → Bool
  | .group _ d _ _ :: _ => d = delimiter
  | _ => false

def atAnyGroup : Trees → Bool
  | .group _ _ _ _ :: _ => true
  | _ => false

def atNumber : Trees → Bool
  | .leaf _ _ (.number _) :: _ => true
  | _ => false

/-- A string literal. -/
def atText : Trees → Bool
  | .leaf _ _ (.text _ _) :: _ => true
  | _ => false

/-- A literal, a truth value, or a number with a minus sign. -/
def atLiteral : Trees → Bool
  | .leaf _ _ (.ident name) :: _ => name == "true" || name == "false"
  | .leaf _ _ (.punct '-') :: rest => atNumber rest
  | .leaf _ _ leaf :: _ => leaf.isLiteral
  | _ => false

/-- An attribute, which may be a documentation comment. -/
def atAttribute : Trees → Bool
  | .leaf _ _ (.doc _ _) :: _ => true
  | .leaf _ _ (.punct '#') :: _ => true
  | _ => false

namespace Reader

variable {α β : Type}

/-- What a look-ahead test says of the remaining trees. -/
def sees (test : Trees → Bool) : Reader Bool := do
  return test (← get).trees

def atEnd : Reader Bool :=
  sees List.isEmpty

/-- Runs the reader on all trees. -/
def all? (p : Reader α) (trees : Trees) : Option α :=
  match p ⟨trees, false⟩ with
  | some (result, ⟨[], false⟩) => some result
  | _ => none

/-- What the reader answers, or nothing, and then it has taken nothing. -/
def attempt (p : Reader α) : Reader (Option α) := fun rest =>
  match p rest with
  | some (result, rest) => some (some result, rest)
  | none => some (none, rest)

/-- What the reader answers, and the trees it took. -/
def taking (p : Reader α) : Reader (α × Trees) := fun rest =>
  (p rest).map fun (result, left) =>
    ((result, rest.trees.take (rest.trees.length - left.trees.length)), left)

/-- The code a reader answers, or if it answers none, what it took as it was written. -/
def orAsWritten (p : Reader (Option Code)) : Reader Code := do
  let (code, taken) ← taking p
  return code.getD (Source.Tree.codeOf taken)

def tree : Reader Source.Tree := fun rest =>
  match rest.trees with
  | [] => none
  | tree :: trees => some (tree, { rest with trees })

/-- One tree as it is. -/
def anything : Reader Code := do
  return (← tree).code

def satisfying (test : Trees → Bool) : Reader Code := do
  guard (← sees test)
  anything

def punct (mark : String) : Reader Code := fun rest =>
  (punctRest? mark.toList rest.trees).map fun trees => (Code.phrase mark, { rest with trees })

def word (text : String) : Reader Code :=
  satisfying (atWord text)

def anyIdentName : Reader String := fun rest =>
  match rest.trees with
  | .leaf _ _ (.ident name) :: trees => some (name, { rest with trees })
  | _ => none

def identName : Reader String := do
  guard (← sees atIdent)
  anyIdentName

def ident : Reader Code :=
  satisfying atIdent

def lifetimeName : Reader String := fun rest =>
  match rest.trees with
  | .leaf _ _ (.lifetime name) :: trees => some (name, { rest with trees })
  | _ => none

/-- The spelling of a number. -/
def number : Reader String := fun rest =>
  match rest.trees with
  | .leaf _ _ (.number spelling) :: trees => some (spelling, { rest with trees })
  | _ => none

/-- A literal, with its minus sign if it has one. -/
def literal : Reader Code := do
  guard (← sees atLiteral)
  if ← sees (atPunct "-") then return (← anything) ++ (← anything)
  anything

/-- The content of a group. -/
def inside (delimiter : Delimiter) (p : Reader α) : Reader α := fun rest =>
  match rest.trees with
  | .group _ d content _ :: trees =>
      if d = delimiter then
        (p ⟨content, false⟩).map fun (result, left) =>
          (result, ⟨trees, rest.stray || left.stray || !left.trees.isEmpty⟩)
      else none
  | _ => none

def group (delimiter : Delimiter) (p : Reader Code) : Reader Code := do
  return [.group delimiter (← inside delimiter p)]

/-- Reads only if the test holds of what comes next. -/
def whenSees (test : Trees → Bool) (p : Reader Code) : Reader Code := do
  if ← sees test then p else return []

def optionalPunct (mark : String) : Reader Code :=
  whenSees (atPunct mark) (punct mark)

def optionalWord (text : String) : Reader Code :=
  whenSees (atWord text) (word text)

/-- Readers one after another. -/
def inTurn : List (Reader Code) → Reader Code
  | [] => return []
  | p :: rest => return (← p) ++ (← inTurn rest)

def repeatLoop (step : α → Reader (α × Bool)) (before : α) (rest : Remainder) :
    Option (α × Remainder) :=
  match step before rest with
  | none => none
  | some ((result, false), left) => some (result, left)
  | some ((result, true), left) =>
      if left.trees.length < rest.trees.length then repeatLoop step result left else none
termination_by rest.trees.length

/-- Repeats a step on its own result for as long as it says that it goes on; a step
that goes on must take something. -/
def repeated (step : α → Reader (α × Bool)) (start : α) : Reader α :=
  repeatLoop step start

/-- Items for as long as the test holds; each must take something. -/
def listWhile (continues : Trees → Bool) (p : Reader α) : Reader (List α) := do
  let items ← repeated (fun items => do
    if ← sees continues then return ((← p) :: items, true)
    return (items, false)) []
  return items.reverse

def codeWhile (continues : Trees → Bool) (p : Reader Code) : Reader Code := do
  return (← listWhile continues p).flatten

/-- The comma behind an item, which may be missing before the stop. -/
def commaBefore (stops : Trees → Bool) : Reader Code := do
  if ← sees stops then return [] else punct ","

/-- Items separated by commas up to a stop, and whether the last has a comma. -/
def commaList (stops : Trees → Bool) (p : Reader α) : Reader (List α × Bool) := do
  let items ← listWhile (!stops ·) do
    let item ← p
    return (item, !(← commaBefore stops).isEmpty)
  return (items.map (·.1), items.getLast?.any (·.2))

def commaCode (stops : Trees → Bool) (p : Reader Code) : Reader Code :=
  codeWhile (!stops ·) (inTurn [p, commaBefore stops])

/-- A group of items separated by commas. -/
def commaGroup (delimiter : Delimiter) (p : Reader Code) : Reader Code :=
  group delimiter (commaCode List.isEmpty p)

/-- Items separated by a mark, up to a stop or an item without a mark behind it. -/
def markedCode (stops : Trees → Bool) (mark : String) (p : Reader Code) : Reader Code :=
  repeated (fun items => do
    if ← sees stops then return (items, false)
    let item ← p
    let sign ← optionalPunct mark
    return (items ++ item ++ sign, !sign.isEmpty)) []

/-- The name of a member or the number of one without a name, and whether it is a name. -/
def member : Reader (Code × Bool) := do
  if ← sees atIdent then return (← ident, true)
  match Source.index? (← number) with
  | some index => return (Code.name (toString index), false)
  | none => failure

end Reader
end StructBuilder.Grammar
