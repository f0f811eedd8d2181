/-!
Maps and sets with an index from keys to positions. Entries stand in insertion
order; a key is looked up by its position first, and everything else happens at that
position. The sought key stands on the left of the equality test.
-/

namespace StructBuilder

structure IndexedMap (K V : Type) where
  /-- In insertion order. -/
  toList : List (K × V)

namespace IndexedMap

variable {K V : Type}

def empty : IndexedMap K V :=
  ⟨[]⟩

variable [BEq K]

/-- The position of a key. -/
def position? (map : IndexedMap K V) (key : K) : Option Nat :=
  map.toList.findIdx? (key == ·.1)

def contains (map : IndexedMap K V) (key : K) : Bool :=
  (map.position? key).isSome

/-- Replaces the value of a key that is present, and appends the entry otherwise. -/
def insert (map : IndexedMap K V) (key : K) (value : V) : IndexedMap K V :=
  match map.position? key with
  | some position => ⟨map.toList.modify position fun (existing, _) => (existing, value)⟩
  | none => ⟨map.toList ++ [(key, value)]⟩

/-- The map without the key, if the key is present; later entries move up. -/
def remove? (map : IndexedMap K V) (key : K) : Option (IndexedMap K V) :=
  (map.position? key).map fun position => ⟨map.toList.eraseIdx position⟩

def extend (map : IndexedMap K V) (entries : List (K × V)) : IndexedMap K V :=
  entries.foldl (fun map (key, value) => map.insert key value) map

end IndexedMap

structure IndexedSet (T : Type) where
  /-- In insertion order. -/
  toList : List T

namespace IndexedSet

variable {T : Type}

def empty : IndexedSet T :=
  ⟨[]⟩

variable [BEq T]

def position? (set : IndexedSet T) (element : T) : Option Nat :=
  set.toList.findIdx? (element == ·)

/-- Appends an element that is not present. -/
def insert (set : IndexedSet T) (element : T) : IndexedSet T :=
  match set.position? element with
  | some _ => set
  | none => ⟨set.toList ++ [element]⟩

/-- Removes an element that is present; later elements move up. -/
def remove (set : IndexedSet T) (element : T) : IndexedSet T :=
  match set.position? element with
  | some position => ⟨set.toList.eraseIdx position⟩
  | none => set

def extend (set : IndexedSet T) (elements : List T) : IndexedSet T :=
  elements.foldl insert set

end IndexedSet
end StructBuilder
