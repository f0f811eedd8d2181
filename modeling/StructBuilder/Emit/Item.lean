import StructBuilder.Emit.Function

/-!
The items that a builder is written out as: the enumeration of markers with its
names, the builder, the trait of check hooks if any property is checked, and three
implementations. Each item that is generic says under which conditions.
-/

namespace StructBuilder.Emit

open Code (phrase name parens brackets braces doc)

/-- What is implemented. -/
inductive Target where
  /-- The builder's own functions. -/
  | builder
  /-- Its default, which is a new builder. -/
  | default
  /-- The value type's way to its builder. -/
  | value
  deriving DecidableEq, Repr

inductive Item where
  | markers (variants : List String)
  | markerNames (variants : List (String × String))
  | builder (generics : Generics)
  | checks (generics : Generics) (hooks : List Hook)
  | implementation (generics : Generics) (target : Target)

namespace Builder

def implementations (builder : Builder) : List Item :=
  [Target.builder, .default, .value].map (.implementation builder.implGenerics)

def items (builder : Builder) : List Item :=
  [.markers (builder.variants.map (·.1)), .markerNames builder.variants, .builder builder.generics]
    ++ (if builder.hasChecks then [.checks builder.generics builder.hooks] else [])
    ++ builder.implementations

end Builder

private def derive (traits : String) : Code :=
  attributeCode (name "derive" ++ parens (phrase traits))

namespace Target

def subject (builder : Builder) : Target → Code
  | .builder => name builder.builderName
  | .default => phrase "::core::default::Default for" ++ name builder.builderName
  | .value => name builder.valueName

def content (builder : Builder) : Target → Code
  | .builder =>
      Lifecycle.all.flatMap (·.code builder) ++
        builder.fragments.flatMap (·.methodsCode builder.context) ++
        builder.helpers.flatMap StaticHelper.code
  | .default =>
      phrase "fn default" ++ parens [] ++ phrase "-> Self" ++ braces (phrase "Self::new" ++ parens [])
  | .value =>
      doc " Returns a new builder for this type." ++ mustUse ++
        phrase "pub fn builder" ++ parens [] ++ phrase "->" ++ name builder.builderName ++
        builder.arguments ++ braces (name builder.builderName ++ phrase "::new" ++ parens [])

end Target

def Item.code (emitted : Builder) : Item → Code
  | .markers variants =>
      attributeCode (name "doc" ++ parens (name "hidden")) ++
        attributeCode (name "allow" ++ parens (phrase "dead_code, non_camel_case_types")) ++
        derive "Clone, Copy, Debug, PartialEq, Eq, PartialOrd, Ord, Hash" ++
        name "enum" ++ name emitted.markersName ++ braces (Code.commaTerminated (variants.map name))
  | .markerNames variants =>
      name "impl" ++ emitted.crate ++ phrase "::PropertyMarker for" ++ name emitted.markersName ++
        braces (phrase "fn name" ++ parens (name "self") ++ phrase "-> &" ++ name "'static" ++
          name "str" ++ braces (phrase "match self" ++
            braces (Code.commaTerminated (variants.map fun (marker, property) =>
              phrase "Self::" ++ name marker ++ phrase "=>" ++ Code.text property))))
  | .builder generics =>
      doc ("Builder for [`" ++ emitted.typeName ++ "`].\n\nCreate one with `" ++ emitted.typeName
          ++ "::builder()`, set its properties, then call `build()`.") ++
        derive "Clone" ++ emitted.visibility ++ name "struct" ++ name emitted.builderName ++
        generics.parametersCode ++ generics.whereCode ++
        braces (Code.commaTerminated
          (emitted.fragments.map (·.declarationCode emitted.context) ++
            [name trackerName ++ name ":" ++ emitted.crate ++ phrase "::UnsetProperties<" ++
              name emitted.markersName ++ name ">"]))
  | .checks generics hooks =>
      doc ("Validation hooks for [`" ++ emitted.builderName
          ++ "`].\n\nImplement this trait for the builder and override the checks you need. "
          ++ "A hook returning an error aborts the mutation that triggered it and "
          ++ "leaves the builder unchanged.") ++
        emitted.visibility ++ name "trait" ++ name emitted.checksName ++
        generics.parametersCode ++ generics.whereCode ++
        braces (hooks.flatMap (·.code emitted.context))
  | .implementation generics target =>
      name "impl" ++ generics.parametersCode ++ target.subject emitted ++ emitted.arguments ++
        generics.whereCode ++ braces (target.content emitted)

def Builder.code (builder : Builder) : Code :=
  builder.items.flatMap (·.code builder)

end StructBuilder.Emit
