import StructBuilder.Options.List

/-!
The options of a structure: the path of the run-time crate, whether mappers are
wanted, and what backs maps and sets while building.
-/

namespace StructBuilder

/-- What backs maps and sets while building. -/
inductive Library where
  | indexMap
  | fallback
  deriving DecidableEq, Repr

namespace Library

def ofName? : String → Option Library
  | "indexmap" => some .indexMap
  | "fallback" => some .fallback
  | _ => none

/-- The library of a name that stands at a place of the source. -/
def named (name : String) (place : Option String) : Except Refusal Library :=
  match ofName? name with
  | some library => .ok library
  | none => .error (.refused (.unknownCollections name) place)

end Library

inductive StructOption where
  | crate (path : Code)
  | mappers (on : Bool)
  | collections (library : Library)

structure StructOptions where
  crate : Option Code
  mappers : Option Bool
  collections : Option Library

namespace StructOptions

open Grammar (Remainder)

def none : StructOptions :=
  ⟨.none, .none, .none⟩

def apply (options : StructOptions) : StructOption → StructOptions
  | .crate path => { options with crate := some path }
  | .mappers on => { options with mappers := some on }
  | .collections library => { options with collections := some library }

def item (key : Option String) (rest : Remainder) :
    Options.Result (Option StructOption × Remainder) :=
  match key with
  | some "crate" => do
      let ((value, _), rest) ← Options.string "crate" rest
      match Path.read? value with
      | some path => return (some (.crate path.code), rest)
      | .none => throw .malformed
  | some "mappers" => do
      let (on, rest) ← Options.flag "mappers" rest
      return (some (.mappers on), rest)
  | some "collections" => do
      let ((value, spelling), rest) ← Options.string "collections" rest
      return (some (.collections (← Library.named value (some spelling))), rest)
  | _ => .ok (.none, Options.skip rest)

def read (attributes : List Attribute) : Options.Result StructOptions := do
  return (← Options.readAll item attributes).foldl apply none

/-- The path of the run-time crate in emitted code. -/
def crateCode (options : StructOptions) : Code :=
  options.crate.getD (Code.phrase "::freebuilder")

end StructOptions
end StructBuilder
