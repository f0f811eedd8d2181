import StructBuilder.Property.Method

/-!
How each property is built. Four specific factories and a default one may claim a
property; the first claim counts, and the default factory claims everything. A plain
value is required unless the constructor sets it.
-/

namespace StructBuilder

/-- What emitted code may rely on. -/
structure Features where
  mappers : Bool
  library : Library
  deriving DecidableEq, Repr

/-- Sorted containers need no hashing, so the fallback backs them always. -/
def Features.forContainer (features : Features) (sorted : Bool) : Features :=
  if sorted then { features with library := .fallback } else features

inductive Strategy where
  | scalar (hasDefault : Bool)
  | optional (inner : Ty)
  | map (key value : Ty)
  | set (element : Ty)
  | list (element : Ty)

/-- How a property takes part in the tracking of completeness. -/
inductive PropertyKind where
  | required
  | optional
  | hasDefault
  deriving DecidableEq, Repr

structure Plan where
  property : Property
  strategy : Strategy
  features : Features

def Plan.kind (plan : Plan) : PropertyKind :=
  match plan.strategy with
  | .scalar false => .required
  | .optional _ => .optional
  | _ => .hasDefault

inductive Factory where
  | nullable
  | map
  | set
  | list
  | default
  deriving DecidableEq, Repr

namespace Factory

/-- The specific factories in the order they are asked. -/
def specific : List Factory :=
  [.nullable, .map, .set, .list]

/-- The plan of a factory that claims the property. `invoked` holds the setters that
the constructor calls. -/
def claim? (factory : Factory) (property : Property) (features : Features)
    (invoked : List String) : Option Plan :=
  let unmarked := property.nullableMarkers.isEmpty
  match factory, property.shape with
  | .nullable, .optional inner =>
      if unmarked then none else some ⟨property, .optional inner, features⟩
  | .map, .map order key value =>
      if unmarked then some ⟨property, .map key value, features.forContainer (order == .sorted)⟩
      else none
  | .set, .set order element =>
      if unmarked then some ⟨property, .set element, features.forContainer (order == .sorted)⟩
      else none
  | .list, .list element =>
      if unmarked then some ⟨property, .list element, features⟩ else none
  | .default, _ => some ⟨property, .scalar (invoked.contains property.setter.text), features⟩
  | _, _ => none

/-- The factories that claim a property, the default one last. -/
def claimants (property : Property) (features : Features) (invoked : List String) : List Factory :=
  (specific ++ [Factory.default]).filter fun factory => (factory.claim? property features invoked).isSome

end Factory

namespace Plan

/-- The first claim in this order, or else the default factory's. -/
def selectIn (order : List Factory) (property : Property) (features : Features)
    (invoked : List String) : Plan :=
  (order.findSome? fun factory => factory.claim? property features invoked).getD
    ⟨property, .scalar (invoked.contains property.setter.text), features⟩

def select (property : Property) (features : Features) (invoked : List String) : Plan :=
  selectIn Factory.specific property features invoked

end Plan

namespace Blueprint

/-- The features in force; `detected` backs collections if the options say nothing. -/
def features (blueprint : Blueprint) (detected : Library) : Features where
  mappers := blueprint.options.mappers.getD true
  library := blueprint.options.collections.getD detected

/-- The constructor sets the properties that declare a default. -/
def invoked (blueprint : Blueprint) : List String :=
  (blueprint.properties.filter (·.default.isSome)).map (·.setter.text)

def plans (blueprint : Blueprint) (detected : Library) : List Plan :=
  blueprint.properties.map fun property =>
    Plan.select property (blueprint.features detected) blueprint.invoked

end Blueprint
end StructBuilder
