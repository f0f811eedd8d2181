import StructBuilder.Declaration.Type

/-!
The shape of a declared type, judged by its outermost container alone. Only the last
segment of a path counts, and of its arguments only the types.
-/

namespace StructBuilder

/-- In which order a container yields what was put into it. -/
inductive Order where
  | arbitrary
  | sorted
  | insertion
  deriving DecidableEq, Repr

inductive Shape where
  | scalar
  | optional (inner : Ty)
  | map (order : Order) (key value : Ty)
  | set (order : Order) (element : Ty)
  | list (element : Ty)

namespace Shape

def isContainer : Shape → Bool
  | map _ _ _ | set _ _ | list _ => true
  | _ => false

def isOptional : Shape → Bool
  | optional _ => true
  | _ => false

/-- The content of such a container is in ascending order. -/
def isSorted : Shape → Bool
  | map order _ _ | set order _ => order == .sorted
  | _ => false

end Shape

namespace Ty

/-- The types among the arguments of the last segment, if it has this name. -/
def typeArguments? (wrapper : String) : Ty → Option (List Ty)
  | .path p =>
      if p.last.name = wrapper then
        match p.last.arguments with
        | .angled _ items _ => some (items.filterMap Argument.type?)
        | _ => none
      else none
  | _ => none

def oneArgument? (wrapper : String) (ty : Ty) : Option Ty :=
  match ty.typeArguments? wrapper with
  | some (first :: _) => some first
  | _ => none

/-- The first two arguments; a hasher behind them is ignored. -/
def twoArguments? (wrapper : String) (ty : Ty) : Option (Ty × Ty) :=
  match ty.typeArguments? wrapper with
  | some (first :: second :: _) => some (first, second)
  | _ => none

def optionInner? (ty : Ty) : Option Shape :=
  (ty.oneArgument? "Option").map .optional

def maps : List String :=
  ["HashMap", "BTreeMap", "IndexMap"]

def sets : List String :=
  ["HashSet", "BTreeSet", "IndexSet"]

def lists : List String :=
  ["Vec", "VecDeque"]

/-! Orders are judged by the name of the last segment, whatever its arguments are. -/

def sortedWrappers : List String :=
  ["BTreeMap", "BTreeSet"]

def insertionWrappers : List String :=
  ["IndexMap", "IndexSet"]

/-- The last segment has one of these names. -/
def endsIn (wrappers : List String) : Ty → Bool
  | .path p => wrappers.contains p.last.name
  | _ => false

def isSortedContainer (ty : Ty) : Bool :=
  ty.endsIn sortedWrappers

def order (ty : Ty) : Order :=
  if ty.isSortedContainer then .sorted
  else if ty.endsIn insertionWrappers then .insertion
  else .arbitrary

def mapInner? (ty : Ty) : Option Shape :=
  maps.findSome? fun wrapper =>
    (ty.twoArguments? wrapper).map fun (key, value) => .map ty.order key value

def setInner? (ty : Ty) : Option Shape :=
  sets.findSome? fun wrapper => (ty.oneArgument? wrapper).map (.set ty.order)

def listInner? (ty : Ty) : Option Shape :=
  lists.findSome? fun wrapper => (ty.oneArgument? wrapper).map .list

def shape (ty : Ty) : Shape :=
  (ty.optionInner? <|> ty.mapInner? <|> ty.setInner? <|> ty.listInner?).getD .scalar

def primitives : List String :=
  ["bool", "char", "i8", "i16", "i32", "i64", "i128", "isize", "u8", "u16", "u32", "u64", "u128",
   "usize", "f32", "f64"]

/-- Built-in scalars, written as a bare name, are taken by value: their literals
would not be inferred through a conversion. -/
def isPrimitive : Ty → Bool
  | .path (.mk false [] (.mk name .none)) => primitives.contains name
  | _ => false

end Ty
end StructBuilder
