import StructBuilder.Grammar.Item
import StructBuilder.Property.Refusal

/-!
Option lists, as attributes named `builder` carry them. A list is read item by item:
a key, then what the key's reader takes, then a comma or the end. An unknown key is
skipped; if a value is assigned to it, the rest of its list goes with the value.
-/

namespace StructBuilder.Options

open Grammar (Trees Reader Remainder atPunct atGroup atWord atLiteral)
open Grammar.Reader (sees punct anyIdentName listWhile)

abbrev Result (α : Type) := Except Refusal α

/-- Behind the first `n` trees. -/
def dropTrees (n : Nat) (rest : Remainder) : Remainder :=
  { rest with trees := rest.trees.drop n }

/-- What an item begins with. A longer path is a key that nobody knows. -/
def key : Reader (Option String) := do
  let leading ← sees (atPunct "::")
  if leading then discard (punct "::")
  let first ← anyIdentName
  let others ← listWhile (atPunct "::") do
    discard (punct "::")
    anyIdentName
  return if !leading && others.isEmpty then some first else none

/-- Behind the value or the group of an unknown key. -/
def skip (rest : Remainder) : Remainder :=
  if atPunct "=" rest.trees then { rest with trees := [] }
  else if atGroup .paren rest.trees then dropTrees 1 rest
  else rest

/-- Behind the comma that must stand between items; none is needed at the end. -/
def behindComma? (rest : Remainder) : Option Remainder :=
  if rest.trees.isEmpty then some rest else (punct "," rest).map (·.2)

/-- The items of a list that their reader knows, in order. A group that an item left
before its end refuses the list, after all that is wrong with its items. -/
def readList {ο : Type} (item : Option String → Remainder → Result (Option ο × Remainder))
    (rest : Remainder) : Result (List ο) :=
  if rest.trees.isEmpty then
    if rest.stray then .error .malformed else .ok []
  else
    match key rest with
    | none => .error .malformed
    | some (name, behind) =>
        match item name behind with
        | .error refusal => .error refusal
        | .ok (known, behind) =>
            match behindComma? behind with
            | none => .error .malformed
            | some next =>
                if _shorter : next.trees.length < rest.trees.length then
                  (readList item next).map (known.toList ++ ·)
                else .error .malformed
termination_by rest.trees.length
decreasing_by exact _shorter

/-- The items of all attributes named `builder`, in order. -/
def readAll {ο : Type} (item : Option String → Remainder → Result (Option ο × Remainder)) :
    List Attribute → Result (List ο)
  | [] => .ok []
  | attr :: rest =>
      if attr.isNamed "builder" then
        match attr.arguments with
        | .list trees => do
            let first ← readList item ⟨trees, false⟩
            return first ++ (← readAll item rest)
        | _ => .error .malformed
      else readAll item rest

/-! Values of keys. -/

/-- The literal assigned to a key, if `extract` understands it. -/
def assigned {α : Type} (reason : Reason) (extract : Trees → Option α) (rest : Remainder) :
    Result (α × Remainder) :=
  if !atPunct "=" rest.trees then .error .malformed
  else
    let value := rest.trees.drop 1
    if !atLiteral value then .error .malformed
    else
      let length := if atPunct "-" value then 2 else 1
      match extract value with
      | some x => .ok (x, dropTrees (length + 1) rest)
      | none => .error (.refused reason (some (Source.spell (value.take length))))

def truth? (trees : Trees) : Option Bool :=
  if atWord "true" trees then some true
  else if atWord "false" trees then some false
  else none

def string? : Trees → Option (String × String)
  | .leaf _ spelling (.text value _) :: _ => some (value, spelling)
  | _ => none

/-- A flag that stands alone, which means true, or has a truth value assigned. -/
def flag (key : String) (rest : Remainder) : Result (Bool × Remainder) :=
  if atPunct "=" rest.trees then assigned (.mustBeBoolean key) truth? rest
  else .ok (true, rest)

/-- A string with its spelling. -/
def string (key : String) (rest : Remainder) : Result ((String × String) × Remainder) :=
  assigned (.mustBeString key) string? rest

end StructBuilder.Options
