import StructBuilder.Text.Debug

/-!
Maps that keep their entries in insertion order and look keys up by comparing them
one after the other. Only an equality test is asked of the keys, and nothing is
assumed of it: stored keys stand on its left, the key that is sought on its right.
-/

namespace StructBuilder

structure OrderedMap (K V : Type) where
  /-- In insertion order. -/
  toList : List (K × V)

namespace OrderedMap

variable {K V : Type}

def empty : OrderedMap K V :=
  ⟨[]⟩

def size (map : OrderedMap K V) : Nat :=
  map.toList.length

def isEmpty (map : OrderedMap K V) : Bool :=
  map.toList.isEmpty

def keys (map : OrderedMap K V) : List K :=
  map.toList.map (·.1)

def values (map : OrderedMap K V) : List V :=
  map.toList.map (·.2)

/-- The entries in order, each with the number of those that are left. -/
def countdown : List (K × V) → List (Nat × Option (K × V))
  | [] => [(0, none)]
  | entry :: rest => (rest.length + 1, some entry) :: countdown rest

variable [BEq K]

def get? (map : OrderedMap K V) (key : K) : Option V :=
  (map.toList.find? (·.1 == key)).map (·.2)

def contains (map : OrderedMap K V) (key : K) : Bool :=
  map.toList.any (·.1 == key)

def insertIn (key : K) (value : V) : List (K × V) → Option V × List (K × V)
  | [] => (none, [(key, value)])
  | (existing, old) :: rest =>
      if existing == key then (some old, (existing, value) :: rest)
      else
        let (replaced, rest) := insertIn key value rest
        (replaced, (existing, old) :: rest)

/-- Replaces the value of a key that is present, and appends the entry otherwise;
answers the replaced value. -/
def insert (map : OrderedMap K V) (key : K) (value : V) : Option V × OrderedMap K V :=
  let (replaced, entries) := insertIn key value map.toList
  (replaced, ⟨entries⟩)

def removeFrom (key : K) : List (K × V) → Option V × List (K × V)
  | [] => (none, [])
  | (existing, value) :: rest =>
      if existing == key then (some value, rest)
      else
        let (removed, rest) := removeFrom key rest
        (removed, (existing, value) :: rest)

/-- Removes the first entry with the key and answers its value. -/
def remove (map : OrderedMap K V) (key : K) : Option V × OrderedMap K V :=
  let (removed, entries) := removeFrom key map.toList
  (removed, ⟨entries⟩)

/-- Inserts one entry after the other. -/
def extend (map : OrderedMap K V) (entries : List (K × V)) : OrderedMap K V :=
  entries.foldl (fun map (key, value) => (map.insert key value).2) map

def ofList (entries : List (K × V)) : OrderedMap K V :=
  empty.extend entries

/-- Equal maps have equal entries in the same order. -/
instance [BEq V] : BEq (OrderedMap K V) :=
  ⟨fun left right => left.toList == right.toList⟩

omit [BEq K] in
def debug (key : K → String) (value : V → String) (map : OrderedMap K V) : String :=
  Text.record "OrderedMap"
    [("entries", Text.listing (map.toList.map fun (k, v) => Text.pair (key k) (value v)))]

end OrderedMap
end StructBuilder
