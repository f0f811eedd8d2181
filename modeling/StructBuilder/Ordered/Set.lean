import StructBuilder.Text.Debug

/-!
Sets that keep their elements in the order of first insertion. As with ordered maps,
nothing is assumed of the equality test, and elements of the set stand on its left.
-/

namespace StructBuilder

structure OrderedSet (T : Type) where
  /-- In the order of first insertion. -/
  toList : List T

namespace OrderedSet

variable {T : Type}

def empty : OrderedSet T :=
  ⟨[]⟩

def size (set : OrderedSet T) : Nat :=
  set.toList.length

def isEmpty (set : OrderedSet T) : Bool :=
  set.toList.isEmpty

variable [BEq T]

def contains (set : OrderedSet T) (element : T) : Bool :=
  set.toList.any (· == element)

/-- Appends an element that is not present; answers whether it was appended. -/
def insert (set : OrderedSet T) (element : T) : Bool × OrderedSet T :=
  if set.contains element then (false, set)
  else (true, ⟨set.toList ++ [element]⟩)

/-- Removes the first equal element; answers whether there was one. -/
def remove (set : OrderedSet T) (element : T) : Bool × OrderedSet T :=
  (set.contains element, ⟨set.toList.eraseP (· == element)⟩)

/-- Inserts one element after the other. -/
def extend (set : OrderedSet T) (elements : List T) : OrderedSet T :=
  elements.foldl (fun set element => (set.insert element).2) set

def ofList (elements : List T) : OrderedSet T :=
  empty.extend elements

/-- Equal sets have equal elements in the same order. -/
instance : BEq (OrderedSet T) :=
  ⟨fun left right => left.toList == right.toList⟩

omit [BEq T] in
def debug (element : T → String) (set : OrderedSet T) : String :=
  Text.record "OrderedSet" [("elements", Text.listing (set.toList.map element))]

end OrderedSet
end StructBuilder
