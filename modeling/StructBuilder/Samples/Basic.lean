import StructBuilder.Datum.Constant
import StructBuilder.Run.Session

/-!
Sample types: declarations that are read like any other, with check hooks for some of
their properties and concrete types for their generic parameters.
-/

namespace StructBuilder

open Run (CheckHook Machine)

structure Sample where
  name : String
  /-- The declaration. -/
  source : String
  /-- The types that generic parameters stand for. -/
  parameters : List (String × String)
  /-- The overridden hooks. -/
  hook? : MethodName → Option (CheckHook Datum)

namespace Sample

/-- A structure with these fields, behind its attributes. -/
def declare (attributes name : String) (fields : List String) : String :=
  attributes ++ " struct " ++ name ++ " \x7b " ++ ", ".intercalate fields ++ " \x7d"

def noHook : MethodName → Option (CheckHook Datum) :=
  fun _ => none

/-- A sample without parameters and hooks. -/
def plain (name : String) (fields : List String) (attributes : String) : Sample :=
  ⟨name, declare attributes name fields, [], noHook⟩

/-- Names of enumerations with the names of their variants. -/
def enumerations : List (String × List String) :=
  [("Rank", ["Low", "Mid", "High"])]

def variant? (enumeration name : String) : Option Datum := do
  let names ← enumerations.lookup enumeration
  let position := names.idxOf name
  if position < names.length then some (.variant position name) else none

/-- The machine of the sample, with hashed storage unless its options say otherwise. -/
def machine? (sample : Sample) : Option (Machine Datum) :=
  match Blueprint.read sample.source with
  | .error _ => none
  | .ok blueprint => some {
      builder := Emit.Builder.ofBlueprint blueprint .indexMap
      debug := Datum.debug
      defaultOf := Datum.defaultOf
      constant := Datum.constant
      content? := fun _ code => Datum.content? code
      hook? := sample.hook? }

end Sample
end StructBuilder
