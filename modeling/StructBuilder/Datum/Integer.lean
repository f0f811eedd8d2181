/-!
Integer types of fixed width. Arithmetic that leaves the range comes back in at its
other end.
-/

namespace StructBuilder

structure IntegerType where
  signed : Bool
  bits : Nat
  deriving DecidableEq, Repr

namespace IntegerType

/-- Types that are as wide as an address have 64 bits. -/
def ofName? : String → Option IntegerType
  | "i8" => some ⟨true, 8⟩
  | "i16" => some ⟨true, 16⟩
  | "i32" => some ⟨true, 32⟩
  | "i64" | "isize" => some ⟨true, 64⟩
  | "i128" => some ⟨true, 128⟩
  | "u8" => some ⟨false, 8⟩
  | "u16" => some ⟨false, 16⟩
  | "u32" => some ⟨false, 32⟩
  | "u64" | "usize" => some ⟨false, 64⟩
  | "u128" => some ⟨false, 128⟩
  | _ => none

/-- How many numbers the type has. -/
def size (type : IntegerType) : Nat :=
  Nat.pow 2 type.bits

def maximum (type : IntegerType) : Int :=
  (if type.signed then type.size / 2 else type.size) - 1

def minimum (type : IntegerType) : Int :=
  if type.signed then - (type.size / 2 : Nat) else 0

/-- The number of the type that differs from `n` by a multiple of the type's size. -/
def wrap (type : IntegerType) (n : Int) : Int :=
  if type.signed then n.bmod type.size else n % type.size

private def digits? (text : List Char) : Option Nat :=
  if !text.isEmpty && text.all Char.isDigit then
    some (text.foldl (fun n c => 10 * n + (c.toNat - '0'.toNat)) 0)
  else none

/-- The number of the type that a text denotes in decimal digits; one sign may stand
before them, and only a signed type has a minus. -/
def read? (type : IntegerType) (text : String) : Option Int := do
  let value : Int ← match text.toList with
    | '+' :: rest => (digits? rest).map Int.ofNat
    | '-' :: rest => if type.signed then (digits? rest).map fun n => - Int.ofNat n else none
    | rest => (digits? rest).map Int.ofNat
  guard (type.minimum ≤ value && value ≤ type.maximum)
  return value

end IntegerType
end StructBuilder
