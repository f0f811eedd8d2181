/-!
Tables of code points in ascending order: plain ranges, ranges with a stride, and
strided ranges that shift to an image. A look-up stops at the first entry that
begins beyond the code point.
-/

namespace StructBuilder.Unicode

/-- Inclusive ranges, ascending and disjoint. -/
abbrev Ranges := List (Nat × Nat)

def Ranges.mem : Ranges → Nat → Bool
  | [], _ => false
  | (first, last) :: rest, n => if n < first then false else n ≤ last || Ranges.mem rest n

/-- First member, last member and distance of neighbours. -/
abbrev Strides := List (Nat × Nat × Nat)

def Strides.mem : Strides → Nat → Bool
  | [], _ => false
  | (first, last, step) :: rest, n =>
      if n < first then false
      else (n ≤ last && (n - first) % step == 0) || Strides.mem rest n

/-- A stride together with the image of its first member. -/
abbrev Shifts := List (Nat × Nat × Nat × Nat)

def Shifts.image? : Shifts → Nat → Option Nat
  | [], _ => none
  | (first, last, step, image) :: rest, n =>
      if n < first then none
      else if n ≤ last && (n - first) % step == 0 then some (image + (n - first))
      else Shifts.image? rest n

end StructBuilder.Unicode
