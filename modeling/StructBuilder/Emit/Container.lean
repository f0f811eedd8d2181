import StructBuilder.Emit.Method

/-!
Methods of maps, sets and lists: adding one item or many, removing one, emptying and
viewing. Batches are checked as a whole before anything of them is stored.
-/

namespace StructBuilder.Emit

def emptier (property : Property) (items : String) : Method where
  docs := ["Removes every " ++ items ++ " from `" ++ property.baseName ++ "`."]
  name := property.method .clear
  mutating := true
  parameters := []
  trailing := false
  returns := .builder
  body := [.empty property.name]
  outcome := .builder

def viewer (property : Property) (order : String) (returns : Returns) : Method where
  docs := ["Returns a read-only view of `" ++ property.baseName ++ "`" ++ order ++ "."]
  name := property.getter
  mutating := false
  parameters := []
  trailing := false
  returns := returns
  body := []
  outcome := .reference property.name

/-! Maps. -/

def validateEntry (property : Property) (key value : Ty) (staged : Bool) : List Statement :=
  convertGiven .key key ++ convertGiven .value value
    ++ runCheck property [⟨.key, true, key⟩, ⟨.value, true, value⟩]
    ++ [.rejectDuplicate property.name property.baseName staged]

def putter (property : Property) (key value : Ty) : Method where
  docs := ["Associates `key` with `value` in `" ++ property.baseName ++ "`.", "", " # Errors", "",
    " Returns `BuilderError::DuplicateKey` if `key` is already present,",
    " or any error raised by the property's check hook. The builder is",
    " left unchanged on error."]
  name := property.method .put
  mutating := true
  parameters := [(.key, .given key), (.value, .given value)]
  trailing := true
  returns := .fallibleBuilder
  body := validateEntry property key value false ++ [.insertEntry property.name]
  outcome := .okBuilder

def bulkPutter (property : Property) (key value : Ty) (storage : Storage) : Method where
  docs := ["Associates every key with its value in `" ++ property.baseName ++ "`.", "",
    " `entries` is iterated once. Every entry is validated before any",
    " is inserted, so a failed batch leaves the builder unchanged,",
    " unlike a sequence of `put` calls, which keeps the entries",
    " stored before the failing one.", "", " # Errors", "",
    " Returns `BuilderError::DuplicateKey` if a key is already present",
    " or repeats within `entries`, or any error raised by the", " property's check hook."]
  name := property.method .putAll
  mutating := true
  parameters := [(.entries, .entries key value)]
  trailing := true
  returns := .fallibleBuilder
  body := [.openStaged storage, .eachEntry (validateEntry property key value true ++ [.stageEntry]),
    .commitStaged property.name]
  outcome := .okBuilder

def entryRemover (property : Property) (key : Ty) : Method where
  docs := ["Removes the mapping for `key` from `" ++ property.baseName ++ "`.", "", " # Errors", "",
    " Returns `BuilderError::MissingKey` if `key` is not present."]
  name := property.method .remove
  mutating := true
  parameters := [(.key, .borrowed key)]
  trailing := false
  returns := .fallibleBuilder
  body := [.removeEntry property.name property.baseName]
  outcome := .okBuilder

def mapMethods (property : Property) (key value : Ty) (storage : Storage) : List Method :=
  [putter property key value, bulkPutter property key value storage, entryRemover property key,
   emptier property "mapping", viewer property " in insertion order" (.reference storage)]

/-! Sets and lists. -/

def bulkAdder (property : Property) (element : Ty) : Method where
  docs := ("Adds each element of `elements` to `" ++ property.baseName ++ "`, iterating it once.")
    :: checkDocs property
  name := property.method .addAll
  mutating := true
  parameters := [(.elements, .elements element)]
  trailing := true
  returns := checkedReturns property
  body :=
    if property.check then
      [.collectStaged element,
       .eachStaged (runCheck property [⟨.element, false, element⟩]),
       .commitStaged property.name]
    else [.extendElements property.name element]
  outcome := checkedOutcome property

def adder (property : Property) (element : Ty) (doc : String) (store : Statement) : Method where
  docs := doc :: checkDocs property
  name := property.method .add
  mutating := true
  parameters := [(.element, .given element)]
  trailing := false
  returns := checkedReturns property
  body := convertGiven .element element ++ runCheck property [⟨.element, true, element⟩] ++ [store]
  outcome := checkedOutcome property

def elementRemover (property : Property) (element : Ty) (doc : String) (remove : Statement) :
    Method where
  docs := [doc]
  name := property.method .remove
  mutating := true
  parameters := [(.element, .borrowed element)]
  trailing := false
  returns := .builder
  body := [remove]
  outcome := .builder

def setMethods (property : Property) (element : Ty) (storage : Storage) : List Method :=
  [adder property element
      ("Adds `element` to `" ++ property.baseName ++ "`. Duplicate elements are ignored.")
      (.insertElement property.name),
   bulkAdder property element,
   elementRemover property element ("Removes `element` from `" ++ property.baseName ++ "` if present.")
      (.removeElement property.name),
   emptier property "element", viewer property "" (.reference storage)]

def listMethods (property : Property) (element : Ty) : List Method :=
  [adder property element ("Appends `element` to `" ++ property.baseName ++ "`.")
      (.pushElement property.name),
   bulkAdder property element,
   elementRemover property element
      ("Removes the first occurrence of `element` from `" ++ property.baseName ++ "`, if any.")
      (.removeFirst property.name),
   emptier property "element", viewer property "" (.slice element)]

end StructBuilder.Emit
