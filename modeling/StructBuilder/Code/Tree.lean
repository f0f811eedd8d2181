/-!
Emitted code as token trees. A word is the text of one token; a group is a
delimiter pair around its content. Written out, the tokens are joined by single
spaces.
-/

namespace StructBuilder

inductive Delimiter where
  | paren
  | bracket
  | brace
  deriving DecidableEq, Repr

namespace Delimiter

def opening : Delimiter → String
  | .paren => "("
  | .bracket => "["
  | .brace => "\x7b"

def closing : Delimiter → String
  | .paren => ")"
  | .bracket => "]"
  | .brace => "\x7d"

end Delimiter

inductive Tree where
  | word (text : String)
  | group (delimiter : Delimiter) (content : List Tree)
  deriving Repr

/-- A stretch of code. -/
abbrev Code := List Tree

namespace Tree

def isBraces : Tree → Bool
  | .group .brace _ => true
  | _ => false

mutual
def tokens : Tree → List String
  | .word text => [text]
  | .group delimiter content => delimiter.opening :: (tokensOf content ++ [delimiter.closing])

def tokensOf : List Tree → List String
  | [] => []
  | tree :: rest => tokens tree ++ tokensOf rest
end

end Tree

namespace Code

def tokens (code : Code) : List String :=
  Tree.tokensOf code

def render (code : Code) : String :=
  " ".intercalate code.tokens

/-- The code cut after every group of braces that stands at the top. -/
def pieces : Code → List Code
  | [] => []
  | tree :: rest =>
      if tree.isBraces then [tree] :: pieces rest
      else match pieces rest with
        | [] => [[tree]]
        | piece :: others => (tree :: piece) :: others

theorem flatten_pieces (code : Code) : code.pieces.flatten = code := by
  induction code with
  | nil => rfl
  | cons tree rest ih =>
      simp only [pieces]
      split
      · simp [ih]
      · split <;> simp_all

end Code
end StructBuilder
