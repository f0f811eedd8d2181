import StructBuilder.Ordered.Sorted
import StructBuilder.Run.Error

/-!
The required properties that are not set yet, as positions in declaration order. A
position is in the list at most once, and positions ascend, so equal sets are equal
lists whatever happened to them.
-/

namespace StructBuilder

structure Unset where
  positions : List Nat
  deriving DecidableEq, Repr

namespace Unset

def ofList (required : List Nat) : Unset :=
  ⟨Sorted.ofList id required⟩

def isEmpty (unset : Unset) : Bool :=
  unset.positions.isEmpty

def contains (unset : Unset) (position : Nat) : Bool :=
  unset.positions.contains position

/-- Marks a property as set; answers whether it was unset. -/
def remove (unset : Unset) (position : Nat) : Bool × Unset :=
  (unset.contains position, ⟨unset.positions.erase position⟩)

/-- Marks a property as unset; answers whether it was set. -/
def insert (unset : Unset) (position : Nat) : Bool × Unset :=
  (!unset.contains position, ⟨Sorted.insert id position unset.positions⟩)

/-- The names of the unset properties in declaration order. -/
def names (name : Nat → String) (unset : Unset) : List String :=
  unset.positions.map name

def checkSet (typeName : String) (name : Nat → String) (unset : Unset) (position : Nat) :
    Except BuilderError Unit :=
  if unset.contains position then .error (.unset typeName (name position)) else .ok ()

def ensureComplete (typeName : String) (name : Nat → String) (unset : Unset) :
    Except BuilderError Unit :=
  if unset.isEmpty then .ok () else .error (.incomplete typeName (unset.names name))

end Unset
end StructBuilder
