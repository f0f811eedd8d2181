import StructBuilder.Emit.Storage
import StructBuilder.Ordered.Indexed
import StructBuilder.Ordered.Map
import StructBuilder.Ordered.Set

/-!
What the fields of a running builder hold, one kind for each kind of storage. A cell
never changes its kind: an operation meant for another kind leaves it as it is.
-/

namespace StructBuilder.Run

inductive Cell (V : Type) where
  | plain (value : V)
  | option (content : Option V)
  | indexMap (map : IndexedMap V V)
  | orderedMap (map : OrderedMap V V)
  | indexSet (set : IndexedSet V)
  | orderedSet (set : OrderedSet V)
  | vector (items : List V)

namespace Cell

variable {V : Type}

/-- What a collection of this kind starts with. -/
def ofStorage : Emit.Storage → Cell V
  | .plain _ | .option _ => option none
  | .indexMap _ _ => indexMap .empty
  | .orderedMap _ _ => orderedMap .empty
  | .indexSet _ => indexSet .empty
  | .orderedSet _ => orderedSet .empty
  | .vector _ => vector []

/-- The value of a cell that holds at most one. -/
def content? : Cell V → Option V
  | plain value => some value
  | option content => content
  | _ => none

def entries : Cell V → List (V × V)
  | indexMap map => map.toList
  | orderedMap map => map.toList
  | _ => []

def elements : Cell V → List V
  | indexSet set => set.toList
  | orderedSet set => set.toList
  | vector items => items
  | _ => []

/-- A plain cell keeps its value if none is given. -/
def assign (given : Option V) : Cell V → Cell V
  | plain old => plain (given.getD old)
  | option _ => option given
  | cell => cell

def clear : Cell V → Cell V
  | indexMap _ => indexMap .empty
  | orderedMap _ => orderedMap .empty
  | indexSet _ => indexSet .empty
  | orderedSet _ => orderedSet .empty
  | vector _ => vector []
  | cell => cell

variable [BEq V]

def containsKey (key : V) : Cell V → Bool
  | indexMap map => map.contains key
  | orderedMap map => map.contains key
  | _ => false

def insertEntry (key value : V) : Cell V → Cell V
  | indexMap map => indexMap (map.insert key value)
  | orderedMap map => orderedMap (map.insert key value).2
  | cell => cell

/-- The cell without the key, if the key is present. -/
def withoutKey? (key : V) : Cell V → Option (Cell V)
  | indexMap map => (map.remove? key).map indexMap
  | orderedMap map =>
      match map.remove key with
      | (some _, map) => some (orderedMap map)
      | (none, _) => none
  | _ => none

def insertElement (element : V) : Cell V → Cell V
  | indexSet set => indexSet (set.insert element)
  | orderedSet set => orderedSet (set.insert element).2
  | cell => cell

def removeElement (element : V) : Cell V → Cell V
  | indexSet set => indexSet (set.remove element)
  | orderedSet set => orderedSet (set.remove element).2
  | cell => cell

omit [BEq V] in
def push (element : V) : Cell V → Cell V
  | vector items => vector (items ++ [element])
  | cell => cell

/-- Removes the first of the equal items of a list. -/
def removeFirst (element : V) : Cell V → Cell V
  | vector items => vector (items.eraseP (· == element))
  | cell => cell

def extendEntries (entries : List (V × V)) : Cell V → Cell V
  | indexMap map => indexMap (map.extend entries)
  | orderedMap map => orderedMap (map.extend entries)
  | cell => cell

def extendElements (elements : List V) : Cell V → Cell V
  | indexSet set => indexSet (set.extend elements)
  | orderedSet set => orderedSet (set.extend elements)
  | vector items => vector (items ++ elements)
  | cell => cell

/-- Adds all that another cell holds. -/
def extend (cell staged : Cell V) : Cell V :=
  (cell.extendEntries staged.entries).extendElements staged.elements

end Cell
end StructBuilder.Run
