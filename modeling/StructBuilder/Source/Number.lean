import StructBuilder.Source.Literal

/-!
What the spelling of a number says. Underscores count nothing; letters behind the
digits are a suffix, unless they are digits of the base or an exponent.
-/

namespace StructBuilder.Source

/-- Whether the text behind an `e` makes it an exponent. -/
private def isExponent (valued : Bool) : List Char → Bool
  | [] => valued
  | c :: rest =>
      if c == '_' then isExponent valued rest
      else if c == '+' || c == '-' then true
      else if c.isDigit then isExponent true rest
      else valued

/-- The value of the digits a text begins with, if there are any, and its suffix. A
text that goes on as a decimal fraction denotes no integer. -/
private def digits? (base value : Nat) (seen : Bool) : List Char → Option (Nat × List Char)
  | [] => if seen then some (value, []) else none
  | c :: rest =>
      if c.isDigit || (base == 16 && isHex c) then
        if hexValue c < base then digits? base (base * value + hexValue c) true rest else none
      else if c == '_' then digits? base value seen rest
      else if base == 10 && c == '.' then none
      else if base == 10 && (c == 'e' || c == 'E') && isExponent false rest then none
      else if seen then some (value, c :: rest)
      else none

/-- Value and suffix of the spelling of an integer. -/
def integer? : List Char → Option (Nat × List Char)
  | '0' :: 'x' :: rest => digits? 16 0 false rest
  | '0' :: 'o' :: rest => digits? 8 0 false rest
  | '0' :: 'b' :: rest => digits? 2 0 false rest
  | text => if text.head?.any Char.isDigit then digits? 10 0 false text else none

/-- The member of a tuple that a spelling stands for: an integer of 32 bits without
suffix. -/
def index? (spelling : String) : Option Nat :=
  match integer? spelling.toList with
  | some (value, []) => if value < Nat.pow 2 32 then some value else none
  | _ => none

/-- The members that a decimal fraction behind a dot stands for, one for each part
between points, and whether a point follows the last. -/
def indices? (spelling : String) : Option (List Nat × Bool) :=
  if (integer? spelling.toList).isSome then none
  else
    let parts := spelling.splitOn "."
    let pointed := parts.getLast? == some ""
    ((if pointed then parts.dropLast else parts).mapM index?).map (·, pointed)

end StructBuilder.Source
