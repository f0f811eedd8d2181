import StructBuilder.Code.Fragment

/-!
Types as a declaration writes them. A path is a chain of segments, each with its
arguments; a bound that stands alone matters to parentheses around it, and every other
form of type is kept as its tokens, since nothing depends on its parts. Written out,
the lifetimes of an argument list come first.
-/

namespace StructBuilder

mutual
inductive Ty where
  | path (path : Path)
  /-- One bound that stands for the objects it admits, perhaps in parentheses. -/
  | bound (enclosed : Bool) (code : List Tree)
  | other (code : List Tree)

/-- A path without a qualified self type; it has at least one segment. -/
inductive Path where
  | mk (leading : Bool) (front : List Segment) (last : Segment)

inductive Segment where
  | mk (name : String) (arguments : Arguments)

inductive Arguments where
  | none
  | angled (turbofish : Bool) (items : List Argument) (trailing : Bool)

inductive Argument where
  | lifetime (name : String)
  | type (ty : Ty)
  | constant (code : List Tree)
  /-- `Item = T`, `N = 1` or `Item: Bound`. -/
  | associated (code : List Tree)
end

namespace Segment

def name : Segment → String
  | mk name _ => name

def arguments : Segment → Arguments
  | mk _ arguments => arguments

end Segment

namespace Path

def leading : Path → Bool
  | mk leading _ _ => leading

def front : Path → List Segment
  | mk _ front _ => front

def last : Path → Segment
  | mk _ _ last => last

/-- A path of one plain name. -/
def ofName (name : String) : Path :=
  mk false [] (.mk name .none)

def isSingle : Path → Bool
  | mk leading front _ => !leading && front.isEmpty

end Path

namespace Argument

def isLifetime : Argument → Bool
  | .lifetime _ => true
  | _ => false

def type? : Argument → Option Ty
  | .type ty => some ty
  | _ => none

end Argument

/-- A list item with the comma it has behind it, if any. -/
structure Listed where
  isLifetime : Bool
  code : Code
  comma : Bool

namespace Listed

/-- Every item but the last has a comma, the last only a trailing one. -/
def mark (trailing : Bool) : List (Bool × Code) → List Listed
  | [] => []
  | [(isLifetime, code)] => [⟨isLifetime, code, trailing⟩]
  | (isLifetime, code) :: rest => ⟨isLifetime, code, true⟩ :: mark trailing rest

def write (item : Listed) : Code :=
  item.code ++ (if item.comma then Code.comma else [])

/-- Lifetimes before everything else, each item with its own comma; one more is
supplied between the two parts if the last lifetime has none. -/
def lifetimesFirst (items : List Listed) : Code :=
  let (lifetimes, others) := items.partition (·.isLifetime)
  let bridge := !others.isEmpty && lifetimes.getLast?.any (!·.comma)
  lifetimes.flatMap write ++ (if bridge then Code.comma else []) ++ others.flatMap write

end Listed

def Code.colons : Code :=
  [.word ":", .word ":"]

mutual
def Ty.code : Ty → Code
  | .path path => path.code
  | .bound enclosed code => if enclosed then Code.parens code else code
  | .other code => code

def Path.code : Path → Code
  | .mk leading front last =>
      (if leading then Code.colons else []) ++ frontCode front ++ last.code

def frontCode : List Segment → Code
  | [] => []
  | segment :: rest => segment.code ++ Code.colons ++ frontCode rest

def Segment.code : Segment → Code
  | .mk name arguments => Code.name name ++ arguments.code

def Arguments.code : Arguments → Code
  | .none => []
  | .angled turbofish items trailing =>
      (if turbofish then Code.colons else []) ++ Code.name "<"
        ++ Listed.lifetimesFirst (Listed.mark trailing (argumentCodes items)) ++ Code.name ">"

def argumentCodes : List Argument → List (Bool × Code)
  | [] => []
  | argument :: rest => (argument.isLifetime, argument.code) :: argumentCodes rest

def Argument.code : Argument → Code
  | .lifetime name => Code.name name
  | .type ty => ty.code
  | .constant code | .associated code => code
end

end StructBuilder
