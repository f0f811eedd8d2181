import StructBuilder.Emit.Fragments

/-!
The builder emitted for a blueprint, before it is written out: the names of all that
is declared, the fragments of the properties in declaration order, and the generics
of the declarations.
-/

namespace StructBuilder.Emit

open Code (phrase name)

/-- The functions that every builder has, in the order they are emitted. -/
inductive Lifecycle where
  | new
  | build
  | mergeFrom
  | mergeFromBuilder
  | fromValue
  | clear
  | clearPartial
  deriving DecidableEq, Repr

namespace Lifecycle

def all : List Lifecycle :=
  [.new, .build, .mergeFrom, .mergeFromBuilder, .fromValue, .clear, .clearPartial]

def ident : Lifecycle → String
  | .new => "new"
  | .build => "build"
  | .mergeFrom => "merge_from"
  | .mergeFromBuilder => "merge_from_builder"
  | .fromValue => "from_value"
  | .clear => "clear"
  | .clearPartial => "clear_partial"

end Lifecycle

/-- All that is emitted for one type. -/
structure Builder where
  valueName : String
  visibility : Code
  generics : Generics
  crate : Code
  properties : List Property
  fragments : List Fragments
  /-- The markers of the properties that must be set. -/
  required : List String
  /-- The hooks of the checked properties. -/
  hooks : List Hook
  helpers : List StaticHelper

namespace Builder

def ofPlans (blueprint : Blueprint) (plans : List Plan) : Builder where
  valueName := blueprint.name
  visibility := blueprint.visibility
  generics := blueprint.generics
  crate := blueprint.options.crateCode
  properties := blueprint.properties
  fragments := plans.map Emit.fragments
  required := (plans.filter (·.kind == .required)).map (·.property.marker)
  hooks := (plans.filter (·.property.check)).map hook
  helpers := Emit.helpers plans

def ofBlueprint (blueprint : Blueprint) (detected : Library) : Builder :=
  ofPlans blueprint (blueprint.plans detected)

def typeName (builder : Builder) : String :=
  plainName builder.valueName

def builderName (builder : Builder) : String :=
  builder.typeName ++ "Builder"

def markersName (builder : Builder) : String :=
  "__" ++ builder.typeName ++ "Property"

def checksName (builder : Builder) : String :=
  builder.typeName ++ "BuilderChecks"

def hasChecks (builder : Builder) : Bool :=
  !builder.hooks.isEmpty

/-- The names of the variants and what each of them is called in errors. -/
def variants (builder : Builder) : List (String × String) :=
  builder.properties.map fun property => (property.marker, property.baseName)

/-- The names of the builder's fields. -/
def fieldNames (builder : Builder) : List String :=
  builder.fragments.map (·.field) ++ [trackerName]

/-- The names of all functions of the builder's own implementation. -/
def functionNames (builder : Builder) : List String :=
  Lifecycle.all.map Lifecycle.ident
    ++ builder.fragments.flatMap (fun fragments => fragments.methods.map (·.name.text))
    ++ builder.helpers.map StaticHelper.ident

/-- The generics as arguments of the builder and of the value. -/
def arguments (builder : Builder) : Code :=
  builder.generics.argumentsCode

def valueCode (builder : Builder) : Code :=
  name builder.valueName ++ builder.arguments

def context (builder : Builder) : Context where
  crate := builder.crate
  typeName := builder.typeName
  markers := builder.markersName
  checks := phrase "<Self as" ++ name builder.checksName ++ builder.arguments ++ name ">"

/-- The condition that the builder has its check hooks. -/
def checksCondition (builder : Builder) : Code :=
  name builder.builderName ++ builder.arguments ++ name ":" ++ name builder.checksName
    ++ builder.arguments

/-- The generics of implementations. -/
def implGenerics (builder : Builder) : Generics :=
  if builder.hasChecks then builder.generics.require builder.checksCondition else builder.generics

end Builder
end StructBuilder.Emit
