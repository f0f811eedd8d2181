import StructBuilder.Plan.Basic

/-!
What a builder holds for each property: the type of its field, the value it starts
from, and the expression that copies it into the built value. Fallback storage is
copied by a static helper, which a builder contains once however many fields use it.
-/

namespace StructBuilder.Emit

open Code (phrase name parens)

/-- Names that all code emitted for one type shares. -/
structure Context where
  /-- The path of the run-time crate. -/
  crate : Code
  /-- The type's name in errors. -/
  typeName : String
  /-- The enumeration of markers. -/
  markers : String
  /-- The trait of check hooks as the builder implements it. -/
  checks : Code

def Context.marker (context : Context) (variant : String) : Code :=
  name context.markers ++ phrase "::" ++ name variant

/-- The name of the tracker of unset properties among the builder's fields. -/
def trackerName : String :=
  "__unset"

inductive Storage where
  | plain (ty : Ty)
  | option (ty : Ty)
  | indexMap (key value : Ty)
  | orderedMap (key value : Ty)
  | indexSet (element : Ty)
  | orderedSet (element : Ty)
  | vector (element : Ty)

def generic (container : Code) (arguments : List Ty) : Code :=
  container ++ name "<" ++ Code.commaSeparated false (arguments.map Ty.code) ++ name ">"

def optionOf (code : Code) : Code :=
  phrase "::core::option::Option<" ++ code ++ name ">"

def some_ (code : Code) : Code :=
  phrase "::core::option::Option::Some" ++ parens code

def clone (code : Code) : Code :=
  phrase "::core::clone::Clone::clone" ++ parens code

def into (target : Code) (code : Code) : Code :=
  phrase "::core::convert::Into::<" ++ target ++ phrase ">::into" ++ parens code

def ok (code : Code) : Code :=
  phrase "::core::result::Result::Ok" ++ parens code

def err (code : Code) : Code :=
  phrase "::core::result::Result::Err" ++ parens (code ++ Code.comma)

namespace Storage

def code (context : Context) : Storage → Code
  | plain ty => ty.code
  | option ty => optionOf ty.code
  | indexMap key value => generic (context.crate ++ phrase "::__private::IndexMap") [key, value]
  | orderedMap key value => generic (context.crate ++ phrase "::__private::OrderedMap") [key, value]
  | indexSet element => generic (context.crate ++ phrase "::__private::IndexSet") [element]
  | orderedSet element => generic (context.crate ++ phrase "::__private::OrderedSet") [element]
  | vector element => generic (phrase "::std::vec::Vec") [element]

end Storage

/-- The type of the builder's field. -/
def storage (plan : Plan) : Storage :=
  match plan.strategy, plan.features.library with
  | .scalar true, _ => .plain plan.property.ty
  | .scalar false, _ => .option plan.property.ty
  | .optional inner, _ => .option inner
  | .map key value, .indexMap => .indexMap key value
  | .map key value, .fallback => .orderedMap key value
  | .set element, .indexMap => .indexSet element
  | .set element, .fallback => .orderedSet element
  | .list element, _ => .vector element

/-- What a field holds in a new builder. -/
inductive Initial where
  | absent
  | default
  | expression (code : Code)
  | converted (ty : Ty) (code : Code)

def Initial.code : Initial → Code
  | .absent => phrase "::core::option::Option::None"
  | .default => phrase "::core::default::Default::default" ++ parens []
  | .expression code => code
  | .converted ty code => into ty.code code

/-- Primitives take their default as it is, other plain values convert it. -/
def initial (plan : Plan) : Initial :=
  match plan.strategy, plan.property.default with
  | .scalar false, _ => .absent
  | .scalar true, some (.expression code) =>
      if plan.property.ty.isPrimitive then .expression code else .converted plan.property.ty code
  | .scalar true, _ => .default
  | .optional _, some (.expression code) => .expression code
  | .optional _, _ => .absent
  | _, _ => .default

inductive StaticHelper where
  | immutableMap
  | immutableCollection
  deriving DecidableEq, Repr

def StaticHelper.ident : StaticHelper → String
  | .immutableMap => "__immutable_map"
  | .immutableCollection => "__immutable_collection"

/-- How a field of the built value is made. -/
inductive Final where
  | cloneField
  | cloneGetter
  | collectEntries
  | collectElements
  | helper (static : StaticHelper)
  deriving DecidableEq, Repr

/-- Copies of the entries of `owner`'s field. -/
def entriesOf (owner field : String) : Code :=
  name owner ++ name "." ++ name field ++ phrase ".iter" ++ parens [] ++ phrase ".map" ++
    parens (name "|" ++ parens (phrase "k, v") ++ name "|" ++
      Code.braces (parens (clone (name "k") ++ Code.comma ++ clone (name "v"))))

/-- Copies of the elements of `owner`'s field. -/
def elementsOf (owner field : String) : Code :=
  name owner ++ name "." ++ name field ++ phrase ".iter" ++ parens [] ++ phrase ".cloned" ++ parens []

def Final.code (field : String) : Final → Code
  | .cloneField => clone (phrase "&self." ++ name field)
  | .cloneGetter => clone (phrase "self." ++ name field ++ parens [] ++ name "?")
  | .collectEntries => entriesOf "self" field ++ phrase ".collect" ++ parens []
  | .collectElements => elementsOf "self" field ++ phrase ".collect" ++ parens []
  | .helper static =>
      phrase "Self::" ++ name static.ident ++
        parens (phrase "self." ++ name field ++ phrase ".as_slice" ++ parens [])

def final (plan : Plan) : Final :=
  match plan.strategy, plan.features.library with
  | .scalar true, _ => .cloneField
  | .scalar false, _ => .cloneGetter
  | .optional _, _ => .cloneField
  | .map _ _, .indexMap => .collectEntries
  | .map _ _, .fallback => .helper .immutableMap
  | .set _, .indexMap | .list _, .indexMap => .collectElements
  | .set _, .fallback | .list _, .fallback => .helper .immutableCollection

/-- The helpers that a property asks for. -/
def requests (plan : Plan) : List StaticHelper :=
  match plan.strategy, plan.features.library with
  | .map _ _, .fallback => [.immutableMap]
  | .set _, .fallback | .list _, .fallback => [.immutableCollection]
  | _, _ => []

/-- Every helper that is asked for once, the one for maps first. -/
def helpers (plans : List Plan) : List StaticHelper :=
  [StaticHelper.immutableMap, .immutableCollection].filter fun helper =>
    plans.any fun plan => (requests plan).contains helper

end StructBuilder.Emit
