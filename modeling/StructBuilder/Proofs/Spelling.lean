import Mathlib.Data.List.Forall2
import StructBuilder.Emit.Item

/-!
How emitted code reads, token by token: signatures, the statements of bodies and the results
behind them, the checks trait and the implementations. Through the tokens of a body a judgement
follows what each local stands for, where an error may be returned, and what the body does to
the builder, in order. Nothing here looks at how the code was put together.
-/

namespace StructBuilder.Emit

/-- What a body does to the builder. -/
inductive Act where
  /-- The hook is called, and its error returned. -/
  | asks (hook : String)
  | reads (field : String)
  /-- What was given goes into the field. -/
  | stores (field : String)
  /-- Something is taken out of the field. -/
  | removes (field : String)
  /-- Another method is called. -/
  | calls (method : String)
  /-- The tracker is told that the property is set. -/
  | marks (marker : String)
  /-- The tracker's error is returned if the property is not set. -/
  | requires (marker : String)
  deriving DecidableEq, Repr

namespace Act

def hook? : Act → Option String
  | asks hook => some hook
  | _ => none

/-- The builder may be another one afterwards. -/
def changes : Act → Bool
  | stores _ | removes _ | calls _ | marks _ => true
  | asks _ | reads _ | requires _ => false

end Act

namespace Spelling

/-- Tokens that are no groups. -/
def words (texts : List String) : Code :=
  texts.map .word

def paren (content : Code) : Code :=
  [.group .paren content]

def brace (content : Code) : Code :=
  [.group .brace content]

def bracket (content : Code) : Code :=
  [.group .bracket content]

def listed (items : List Code) : Code :=
  (words [","]).intercalate items

/-! Types. -/

def ofBuilder : Code :=
  words ["&", "mut", "Self"]

def ofResult (context : Context) (type : Code) : Code :=
  context.crate ++ words [":", ":", "BuilderResult", "<"] ++ type ++ words [">"]

def ofOption (type : Code) : Code :=
  words [":", ":", "core", ":", ":", "option", ":", ":", "Option", "<"] ++ type ++ words [">"]

def ofVector (element : Code) : Code :=
  words [":", ":", "std", ":", ":", "vec", ":", ":", "Vec", "<"] ++ element ++ words [">"]

def ofPrivate (context : Context) (container : String) (arguments : List Code) : Code :=
  context.crate ++ words [":", ":", "__private", ":", ":", container, "<"] ++ listed arguments ++
    words [">"]

/-- Errors may be returned where the results are of this type. -/
def Fallible (context : Context) (returns : Code) : Prop :=
  ∃ type, returns = ofResult context type

def IsMap (context : Context) (key value type : Code) : Prop :=
  type = ofPrivate context "IndexMap" [key, value] ∨
    type = ofPrivate context "OrderedMap" [key, value]

def IsSet (context : Context) (element type : Code) : Prop :=
  type = ofPrivate context "IndexSet" [element] ∨ type = ofPrivate context "OrderedSet" [element]

/-! Locals. -/

inductive LocalType where
  | owned (type : Code)
  /-- Anything that converts into the type. -/
  | convertible (type : Code)
  | reference (type : Code)
  | mapper (type : Code)
  | entries (key value : LocalType)
  | elements (element : LocalType)

/-- The type as it is written behind a parameter. -/
def LocalType.code : LocalType → Code
  | owned type => type
  | convertible type =>
      words ["impl", ":", ":", "core", ":", ":", "convert", ":", ":", "Into", "<"] ++ type ++
        words [">"]
  | reference type => words ["&"] ++ type
  | mapper type =>
      words ["impl", ":", ":", "core", ":", ":", "ops", ":", ":", "FnOnce"] ++
        paren type ++ words ["-", ">"] ++ type
  | entries key value =>
      words ["impl", ":", ":", "core", ":", ":", "iter", ":", ":", "IntoIterator", "<", "Item", "="]
        ++ paren (key.code ++ words [","] ++ value.code) ++ words [">"]
  | elements element =>
      words ["impl", ":", ":", "core", ":", ":", "iter", ":", ":", "IntoIterator", "<", "Item", "="]
        ++ element.code ++ words [">"]

abbrev Scope := List (String × LocalType)

def Scope.Has (scope : Scope) (name : String) (type : LocalType) : Prop :=
  scope.lookup name = some type

/-- A value of the type may be passed for a parameter of this one. -/
def LocalType.Takes (parameter : LocalType) (type : Code) : Prop :=
  parameter = .owned type ∨ parameter = .convertible type

/-! Signatures. -/

/-- A public function; the last parameter may have a comma behind it. -/
def function (docs : List String) (name : String) (receiver : List String) (parameters : Scope)
    (trailing : List String) (returns body : Code) : Code :=
  docs.flatMap Code.doc ++ words ["pub", "fn", name] ++ paren (listed (words receiver ::
      parameters.map fun (parameter, type) => words [parameter, ":"] ++ type.code) ++
      words trailing) ++
    words ["-", ">"] ++ returns ++ brace body

/-- A method that returns nothing, or an error. -/
def hook (context : Context) (docs : List String) (name : String)
    (parameters : List (String × Code)) : Code :=
  docs.flatMap Code.doc ++ words ["fn", name] ++ paren (words ["&", "self", ","] ++
      listed (parameters.map fun (parameter, type) => words [parameter, ":", "&"] ++ type)) ++
    words ["-", ">"] ++ ofResult context (paren []) ++
    brace (words [":", ":", "core", ":", ":", "result", ":", ":", "Result", ":", ":", "Ok"]
      ++ paren (paren []))

end Spelling

/-- The method is written as a function with these parameters that returns this type. -/
def Method.Signed (context : Context) (method : Method) (parameters : Spelling.Scope)
    (returns : Code) : Prop :=
  ∃ receiver trailing body, method.code context =
    Spelling.function method.docs method.name.text receiver parameters trailing returns body

namespace Fragments

/-- One of the methods has this signature. -/
def Offers (context : Context) (fragments : Fragments) (name : String)
    (parameters : List Spelling.LocalType) (returns : Code) : Prop :=
  ∃ method ∈ fragments.methods, method.name.text = name ∧
    ∃ named, named.map (·.2) = parameters ∧ method.Signed context named returns

/-- The hook is declared with this name, for references to these types. -/
def Requires (context : Context) (fragments : Fragments) (name : String) (types : List Code) :
    Prop :=
  ∃ parameters, parameters.map (·.2) = types ∧
    fragments.hookCode context = Spelling.hook context fragments.hook.docs name parameters

/-- The builder's field is declared with this type. -/
def Holds (context : Context) (fragments : Fragments) (type : Code) : Prop :=
  fragments.declarationCode context = Spelling.words [fragments.field, ":"] ++ type

end Fragments

namespace Spelling

/-! Expressions. -/

def ok (code : Code) : Code :=
  words [":", ":", "core", ":", ":", "result", ":", ":", "Result", ":", ":", "Ok"] ++ paren code

def present (code : Code) : Code :=
  words [":", ":", "core", ":", ":", "option", ":", ":", "Option", ":", ":", "Some"] ++ paren code

def cloned (code : Code) : Code :=
  words [":", ":", "core", ":", ":", "clone", ":", ":", "Clone", ":", ":", "clone"] ++ paren code

def converter (target : Code) : Code :=
  words [":", ":", "core", ":", ":", "convert", ":", ":", "Into", ":", ":", "<"] ++ target ++
    words [">", ":", ":", "into"]

def error (context : Context) (kind : String) (arguments : List Code) : Code :=
  context.crate ++ words [":", ":", "BuilderError", ":", ":", kind] ++ paren (listed arguments)

def returnError (context : Context) (kind property : String) (key : Code) : Code :=
  words ["return", ":", ":", "core", ":", ":", "result", ":", ":", "Result", ":", ":", "Err"] ++
    paren (error context kind [Code.text property, key] ++ words [","]) ++ words [";"]

def mapped : Code :=
  words ["mapper"] ++ paren (words ["current"])

/-- The argument is a reference to a value of this type. -/
inductive Refers (scope : Scope) : Code → Code → Prop where
  | borrowed {name : String} {type : Code} (has : scope.Has name (.owned type)) :
      Refers scope (words ["&", name]) type
  | reference {name : String} {type : Code} (has : scope.Has name (.reference type)) :
      Refers scope (words [name]) type

/-- The expression iterates over the given elements, as values of this type. -/
inductive Iterates (scope : Scope) (element : Code) : Code → Prop where
  | plain (elements : scope.Has "elements" (.elements (.owned element))) :
      Iterates scope element (words ["elements", ".", "into_iter"] ++ paren [])
  | converted {item : LocalType} (elements : scope.Has "elements" (.elements item))
      (takes : item.Takes element) :
      Iterates scope element (words ["elements", ".", "into_iter"] ++ paren [] ++
        words [".", "map"] ++ paren (converter element))

/-! Bodies. -/

/-- The code may stand where the first scope is known, in a method of these fragments that
returns this type; the second scope is known behind it. -/
inductive Typed (context : Context) (fragments : Fragments) (returns : Code) :
    Scope → Code → List Act → Scope → Prop where
  | nil {scope : Scope} : Typed context fragments returns scope [] [] scope
  | append {before between after : Scope} {code rest : Code} {acts more : List Act}
      (first : Typed context fragments returns before code acts between)
      (second : Typed context fragments returns between rest more after) :
      Typed context fragments returns before (code ++ rest) (acts ++ more) after
  | convert {scope : Scope} {name : String} {given : LocalType} {type : Code}
      (has : scope.Has name given) (takes : given.Takes type) :
      Typed context fragments returns scope
        (words ["let", name, "="] ++ converter type ++ paren (words [name]) ++
          words [";"]) [] ((name, .owned type) :: scope)
  | check {scope : Scope} {hook : String} {arguments types : List Code}
      (fallible : Fallible context returns) (declared : fragments.Requires context hook types)
      (refer : List.Forall₂ (Refers scope) arguments types) :
      Typed context fragments returns scope
        (context.checks ++ words [":", ":", hook] ++
          paren (words ["&", "*", "self", ","] ++ listed arguments) ++ words ["?", ";"])
        [.asks hook] scope
  | whenPresent {scope inside : Scope} {type body : Code} {acts : List Act}
      (value : scope.Has "value" (.owned (ofOption type)))
      (typed : Typed context fragments returns (("candidate", .reference type) :: scope) body acts
        inside) :
      Typed context fragments returns scope
        (words ["if", "let"] ++ present (words ["candidate"]) ++ words ["=", "&", "value"] ++
          brace body) acts scope
  | assign {scope : Scope} {type : Code} (holds : fragments.Holds context type)
      (value : scope.Has "value" (.owned type)) :
      Typed context fragments returns scope
        (words ["self", ".", fragments.field, "=", "value", ";"]) [.stores fragments.field] scope
  | assignPresent {scope : Scope} {type : Code} (holds : fragments.Holds context (ofOption type))
      (value : scope.Has "value" (.owned type)) :
      Typed context fragments returns scope
        (words ["self", ".", fragments.field, "="] ++ present (words ["value"]) ++ words [";"])
        [.stores fragments.field] scope
  | markSet {scope : Scope} {marker : String} :
      Typed context fragments returns scope
        (words ["self", ".", trackerName, ".", "remove"] ++
          paren (words [context.markers, ":", ":", marker]) ++ words [";"])
        [.marks marker] scope
  | requireSet {scope : Scope} {marker : String} (fallible : Fallible context returns) :
      Typed context fragments returns scope
        (words ["self", ".", trackerName, ".", "check_set"] ++
          paren (listed [Code.text context.typeName,
            words [context.markers, ":", ":", marker]]) ++ words ["?", ";"])
        [.requires marker] scope
  | copyField {scope : Scope} {type : Code} (holds : fragments.Holds context type) :
      Typed context fragments returns scope
        (words ["let", "current", "="] ++ cloned (words ["&", "self", ".", fragments.field]) ++
          words [";"]) [.reads fragments.field] (("current", .owned type) :: scope)
  | copyGetter {scope : Scope} {getter : String} {type : Code}
      (fallible : Fallible context returns)
      (offered : fragments.Offers context getter [] (ofResult context (words ["&"] ++ type))) :
      Typed context fragments returns scope
        (words ["let", "current", "="] ++
          cloned (words ["self", ".", getter] ++ paren [] ++ words ["?"]) ++ words [";"])
        [.calls getter] (("current", .owned type) :: scope)
  | setMapped {scope : Scope} {setter : String} {type : Code} {parameter : LocalType}
      (holds : fragments.Holds context (ofOption type))
      (mapper : scope.Has "mapper" (.mapper type))
      (offered : fragments.Offers context setter [parameter] returns)
      (takes : parameter.Takes (ofOption type)) :
      Typed context fragments returns scope
        (words ["if", "let"] ++ present (words ["current"]) ++ words ["="] ++
          cloned (words ["&", "self", ".", fragments.field]) ++
          brace (words ["return", "self", ".", setter] ++ paren (present mapped) ++ words [";"]))
        [.reads fragments.field, .calls setter] scope
  | rejectDuplicate {scope : Scope} {property : String} {key value type : Code}
      (fallible : Fallible context returns) (holds : fragments.Holds context type)
      (map : IsMap context key value type) (sought : scope.Has "key" (.owned key)) :
      Typed context fragments returns scope
        (words ["if", "self", ".", fragments.field, ".", "contains_key"] ++
          paren (words ["&", "key"]) ++
          brace (returnError context "duplicate_key" property (words ["&", "key"])))
        [.reads fragments.field] scope
  | rejectRepeated {scope : Scope} {property : String} {key value type : Code}
      (fallible : Fallible context returns) (holds : fragments.Holds context type)
      (map : IsMap context key value type) (sought : scope.Has "key" (.owned key))
      (staged : scope.Has "staged" (.owned type)) :
      Typed context fragments returns scope
        (words ["if", "self", ".", fragments.field, ".", "contains_key"] ++
          paren (words ["&", "key"]) ++
          words ["|", "|", "staged", ".", "contains_key"] ++ paren (words ["&", "key"]) ++
          brace (returnError context "duplicate_key" property (words ["&", "key"])))
        [.reads fragments.field] scope
  | insertEntry {scope : Scope} {key value type : Code} (holds : fragments.Holds context type)
      (map : IsMap context key value type) (left : scope.Has "key" (.owned key))
      (right : scope.Has "value" (.owned value)) :
      Typed context fragments returns scope
        (words ["self", ".", fragments.field, ".", "insert"] ++
          paren (words ["key", ",", "value"]) ++ words [";"])
        [.stores fragments.field] scope
  | openStaged {scope : Scope} {type : Code} :
      Typed context fragments returns scope
        (words ["let", "mut", "staged", "=", "<"] ++ type ++
          words ["as", ":", ":", "core", ":", ":", "default", ":", ":", "Default", ">", ":", ":",
            "default"] ++ paren [] ++ words [";"]) [] (("staged", .owned type) :: scope)
  | stageEntry {scope : Scope} {key value type : Code} (staged : scope.Has "staged" (.owned type))
      (map : IsMap context key value type) (left : scope.Has "key" (.owned key))
      (right : scope.Has "value" (.owned value)) :
      Typed context fragments returns scope
        (words ["staged", ".", "insert"] ++ paren (words ["key", ",", "value"]) ++
          words [";"]) [] scope
  | eachEntry {scope inside : Scope} {key value : LocalType} {body : Code} {acts : List Act}
      (entries : scope.Has "entries" (.entries key value))
      (typed : Typed context fragments returns (("key", key) :: ("value", value) :: scope) body acts
        inside)
      -- what one round stores would be there when the next one asks
      (still : acts.any Act.changes = false) :
      Typed context fragments returns scope
        (words ["for"] ++ paren (words ["key", ",", "value"]) ++
          words ["in", "entries"] ++ brace body) acts scope
  | commitEntries {scope : Scope} {key value type : Code} (holds : fragments.Holds context type)
      (map : IsMap context key value type) (staged : scope.Has "staged" (.owned type)) :
      Typed context fragments returns scope
        (words ["self", ".", fragments.field, ".", "extend"] ++
          paren (words ["staged"]) ++ words [";"]) [.stores fragments.field] scope
  | commitElements {scope : Scope} {element type : Code} (holds : fragments.Holds context type)
      (collection : IsSet context element type ∨ type = ofVector element)
      (staged : scope.Has "staged" (.owned (ofVector element))) :
      Typed context fragments returns scope
        (words ["self", ".", fragments.field, ".", "extend"] ++
          paren (words ["staged"]) ++ words [";"]) [.stores fragments.field] scope
  | removeEntry {scope : Scope} {property : String} {key value type : Code}
      (fallible : Fallible context returns) (holds : fragments.Holds context type)
      (map : IsMap context key value type) (sought : scope.Has "key" (.reference key)) :
      Typed context fragments returns scope
        (words ["if", "self", ".", fragments.field, ".", "shift_remove"] ++
          paren (words ["key"]) ++ words [".", "is_none"] ++ paren [] ++
          brace (returnError context "missing_key" property (words ["key"])))
        [.removes fragments.field] scope
  | insertElement {scope : Scope} {element type : Code} (holds : fragments.Holds context type)
      (set : IsSet context element type) (value : scope.Has "element" (.owned element)) :
      Typed context fragments returns scope
        (words ["self", ".", fragments.field, ".", "insert"] ++
          paren (words ["element"]) ++ words [";"]) [.stores fragments.field] scope
  | pushElement {scope : Scope} {element : Code}
      (holds : fragments.Holds context (ofVector element))
      (value : scope.Has "element" (.owned element)) :
      Typed context fragments returns scope
        (words ["self", ".", fragments.field, ".", "push"] ++
          paren (words ["element"]) ++ words [";"]) [.stores fragments.field] scope
  | collectStaged {scope : Scope} {element elements : Code}
      (iterates : Iterates scope element elements) :
      Typed context fragments returns scope
        (words ["let", "staged", ":"] ++ ofVector element ++ words ["="] ++ elements ++
          words [".", "collect"] ++ paren [] ++ words [";"]) []
        (("staged", .owned (ofVector element)) :: scope)
  | eachStaged {scope inside : Scope} {element body : Code} {acts : List Act}
      (staged : scope.Has "staged" (.owned (ofVector element)))
      (typed : Typed context fragments returns (("element", .reference element) :: scope) body acts
        inside)
      (still : acts.any Act.changes = false) :
      Typed context fragments returns scope
        (words ["for", "element", "in", "&", "staged"] ++ brace body) acts scope
  | extendElements {scope : Scope} {element elements type : Code}
      (holds : fragments.Holds context type)
      (collection : IsSet context element type ∨ type = ofVector element)
      (iterates : Iterates scope element elements) :
      Typed context fragments returns scope
        (words ["self", ".", fragments.field, ".", "extend"] ++ paren elements ++
          words [";"]) [.stores fragments.field] scope
  | removeElement {scope : Scope} {element type : Code} (holds : fragments.Holds context type)
      (set : IsSet context element type) (sought : scope.Has "element" (.reference element)) :
      Typed context fragments returns scope
        (words ["self", ".", fragments.field, ".", "shift_remove"] ++
          paren (words ["element"]) ++ words [";"]) [.removes fragments.field] scope
  | removeFirst {scope : Scope} {element : Code}
      (holds : fragments.Holds context (ofVector element))
      (sought : scope.Has "element" (.reference element)) :
      Typed context fragments returns scope
        (words ["if", "let"] ++ present (words ["index"]) ++
          words ["=", "self", ".", fragments.field, ".", "iter"] ++ paren [] ++
          words [".", "position"] ++
          paren (words ["|", "existing", "|", "existing", "=", "=", "element"]) ++
          brace (words ["self", ".", fragments.field, ".", "remove"] ++
            paren (words ["index"]) ++ words [";"]))
        [.removes fragments.field] scope
  | empty {scope : Scope} :
      Typed context fragments returns scope
        (words ["self", ".", fragments.field, ".", "clear"] ++ paren [] ++ words [";"])
        [.removes fragments.field] scope

/-- The expression is of this type, with the scope known that the body leaves behind. -/
inductive Results (context : Context) (fragments : Fragments) (scope : Scope) :
    Code → Code → List Act → Prop where
  | builder : Results context fragments scope (words ["self"]) ofBuilder []
  | okBuilder :
      Results context fragments scope (ok (words ["self"])) (ofResult context ofBuilder) []
  | setter {setter : String} {type returns : Code} {parameter : LocalType}
      (current : scope.Has "current" (.owned type)) (mapper : scope.Has "mapper" (.mapper type))
      (offered : fragments.Offers context setter [parameter] returns)
      (takes : parameter.Takes type) :
      Results context fragments scope (words ["self", ".", setter] ++ paren mapped)
        returns [.calls setter]
  | okSetter {setter : String} {type : Code} {parameter : LocalType}
      (current : scope.Has "current" (.owned type)) (mapper : scope.Has "mapper" (.mapper type))
      (offered : fragments.Offers context setter [parameter] ofBuilder)
      (takes : parameter.Takes type) :
      Results context fragments scope (ok (words ["self", ".", setter] ++ paren mapped))
        (ofResult context ofBuilder) [.calls setter]
  | reference {type : Code} (holds : fragments.Holds context type) :
      Results context fragments scope (words ["&", "self", ".", fragments.field])
        (words ["&"] ++ type) [.reads fragments.field]
  | slice {element : Code} (holds : fragments.Holds context (ofVector element)) :
      Results context fragments scope (words ["&", "self", ".", fragments.field])
        (words ["&"] ++ bracket element) [.reads fragments.field]
  | optionalReference {type : Code} (holds : fragments.Holds context (ofOption type)) :
      Results context fragments scope
        (words ["self", ".", fragments.field, ".", "as_ref"] ++ paren [])
        (ofOption (words ["&"] ++ type)) [.reads fragments.field]
  | requiredReference {property : String} {type : Code}
      (holds : fragments.Holds context (ofOption type)) :
      Results context fragments scope
        (words ["self", ".", fragments.field, ".", "as_ref"] ++ paren [] ++
          words [".", "ok_or_else"] ++ paren (words ["|", "|"] ++
            error context "unset" [Code.text context.typeName, Code.text property]))
        (ofResult context (words ["&"] ++ type)) [.reads fragments.field]

/-! Merging. -/

/-- A call of one of the builder's own methods. -/
def call (method : String) (argument : Code) (ending : List String) : Code :=
  words ["self", ".", method] ++ paren argument ++ words ending

/-- The code is run if the source has the property set. -/
def whenSet (owner property : String) (code : Code) : Code :=
  words ["if", "let"] ++ ok (words ["source"]) ++ words ["=", owner, ".", property] ++
    paren [] ++ brace code

/-! Items. -/

def attributes (contents : List Code) : Code :=
  contents.flatMap fun content => words ["#"] ++ bracket content

def note (head : String) (content : List String) : Code :=
  words [head] ++ paren (words content)

def terminated (items : List Code) : Code :=
  items.flatMap (· ++ words [","])

/-- The enumeration of markers. -/
def enumeration (name : String) (variants : List String) : Code :=
  attributes [note "doc" ["hidden"], note "allow" ["dead_code", ",", "non_camel_case_types"],
    note "derive" ["Clone", ",", "Copy", ",", "Debug", ",", "PartialEq", ",", "Eq", ",",
      "PartialOrd", ",", "Ord", ",", "Hash"]] ++
    words ["enum", name] ++ brace (terminated (variants.map fun variant => words [variant]))

/-- What the markers are called in errors. -/
def naming (context : Context) (variants : List (String × String)) : Code :=
  words ["impl"] ++ context.crate ++ words [":", ":", "PropertyMarker", "for", context.markers] ++
    brace (words ["fn", "name"] ++ paren (words ["self"]) ++
      words ["-", ">", "&", "'static", "str"] ++ brace (words ["match", "self"] ++
        brace (terminated (variants.map fun (variant, property) =>
          words ["Self", ":", ":", variant, "=", ">"] ++ Code.text property))))

/-- Conditions are written if there are any. -/
def conditions (predicates : List Code) (trailing : List String) : Code :=
  if predicates.isEmpty then [] else words ["where"] ++ listed predicates ++ words trailing

/-- A structure or a trait. -/
def declaration (doc : String) (notes : List Code) (visibility : Code) (keyword name : String)
    (parameters conditions content : Code) : Code :=
  attributes ((words ["doc", "="] ++ Code.text doc) :: notes) ++ visibility ++
    words [keyword, name] ++ parameters ++ conditions ++ brace content

def implementation (parameters subject conditions content : Code) : Code :=
  words ["impl"] ++ parameters ++ subject ++ conditions ++ brace content

end Spelling

/-- The method is a function whose body is typed and ends in a result of the declared type;
through a shared receiver it changes nothing. -/
def Method.Typed (context : Context) (fragments : Fragments) (method : Method)
    (acts : List Act) : Prop :=
  ∃ receiver parameters trailing returns body scope front outcome back,
    method.code context = Spelling.function method.docs method.name.text receiver parameters
      trailing returns (body ++ outcome) ∧
    Spelling.Typed context fragments returns parameters body front scope ∧
    Spelling.Results context fragments scope outcome returns back ∧
    acts = front ++ back ∧
    (receiver = ["&", "mut", "self"] ∨ receiver = ["&", "self"] ∧ acts.any Act.changes = false)

end StructBuilder.Emit
