import StructBuilder.Decimal.Notation
import StructBuilder.Text.Debug
import StructBuilder.Text.Quoted

/-!
Values that properties can hold. Floating point numbers compare as such, so a value
that is not a number differs from itself and the two zeros are equal; values of
different kinds are never equal.
-/

namespace StructBuilder

inductive Datum where
  | int (value : Int)
  | float (value : Float)
  | text (value : String)
  | char (value : Char)
  | bool (value : Bool)
  | absent
  | present (content : Datum)
  | list (items : List Datum)
  | pair (first second : Datum)
  /-- A variant of an enumeration, ordered by its position. -/
  | variant (position : Nat) (name : String)
  deriving Inhabited

namespace Datum

def ofOption : Option Datum → Datum
  | none => .absent
  | some content => .present content

mutual
def equal : Datum → Datum → Bool
  | .int left, .int right => left == right
  | .float left, .float right => left == right
  | .text left, .text right => left == right
  | .char left, .char right => left == right
  | .bool left, .bool right => left == right
  | .absent, .absent => true
  | .present left, .present right => equal left right
  | .list left, .list right => equalItems left right
  | .pair left more, .pair right others => equal left right && equal more others
  | .variant left _, .variant right _ => left == right
  | _, _ => false

def equalItems : List Datum → List Datum → Bool
  | [], [] => true
  | left :: lefts, right :: rights => equal left right && equalItems lefts rights
  | _, _ => false
end

instance : BEq Datum :=
  ⟨equal⟩

mutual
/-- The order of two values of one kind; an absent one comes first. -/
def order : Datum → Datum → Ordering
  | .int left, .int right => compare left right
  | .text left, .text right => compare left right
  | .char left, .char right => compare left right
  | .bool left, .bool right => compare left right
  | .absent, .present _ => .lt
  | .present _, .absent => .gt
  | .present left, .present right => order left right
  | .list left, .list right => orderItems left right
  | .pair left more, .pair right others => (order left right).then (order more others)
  | .variant left _, .variant right _ => compare left right
  | _, _ => .eq

def orderItems : List Datum → List Datum → Ordering
  | [], [] => .eq
  | [], _ :: _ => .lt
  | _ :: _, [] => .gt
  | left :: lefts, right :: rights => (order left right).then (orderItems lefts rights)
end

instance : Ord Datum :=
  ⟨order⟩

mutual
/-- The value as messages show it. -/
def debug : Datum → String
  | .int value => toString value
  | .float value => Decimal.layout.write value
  | .text value => Text.quoted value
  | .char value => Text.quotedChar value
  | .bool value => if value then "true" else "false"
  | .absent => "None"
  | .present content => Text.applied "Some" (debug content)
  | .list items => Text.listing (debugItems items)
  | .pair first second => Text.pair (debug first) (debug second)
  | .variant _ name => name

def debugItems : List Datum → List String
  | [] => []
  | item :: rest => debug item :: debugItems rest
end

/-- Numbers and texts with their kind, where values of several kinds are mixed. -/
def tagged (datum : Datum) : String :=
  match datum with
  | .int _ => Text.applied "Int" datum.debug
  | .float _ => Text.applied "Float" datum.debug
  | .text _ => Text.applied "Str" datum.debug
  | _ => datum.debug

end Datum
end StructBuilder
