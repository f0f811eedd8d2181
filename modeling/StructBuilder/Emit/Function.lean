import StructBuilder.Emit.Builder

/-!
The functions of a builder that belong to no single property: those of its life, from
a new builder to a built value and back, and the helpers that its fields ask for.
-/

namespace StructBuilder.Emit

open Code (phrase name parens brackets braces doc)

/-- An attribute. -/
def attributeCode (content : Code) : Code :=
  name "#" ++ brackets content

def mustUse : Code :=
  attributeCode (name "must_use")

def docLines (lines : List String) : Code :=
  lines.flatMap doc

private def okSelf : Code :=
  ok (name "self")

private def mergeErrors : List String :=
  ["", " # Errors", "", " Propagates the first error raised while merging, such as a",
    " duplicate map key or a failed check."]

namespace Lifecycle

def docs (typeName : String) : Lifecycle → List String
  | .new => [" Creates a builder with every property at its initial value."]
  | .build =>
      ["Builds a [`" ++ typeName ++ "`] from the current state.", "", " # Errors", "",
        " Returns `BuilderError::Incomplete` listing every required property",
        " that has not been set, in declaration order."]
  | .mergeFrom =>
      [" Sets every property from `value`.", "",
        " Plain and optional properties are overwritten; collections gain", " `value`'s elements."]
        ++ mergeErrors
  | .mergeFromBuilder =>
      " Copies every property set on `other` into this builder." :: mergeErrors
  | .fromValue =>
      [" Creates a builder initialised from `value`.", "", " # Errors", "",
        " Propagates any error raised by a check hook."]
  | .clear => [" Resets every property to its initial value."]
  | .clearPartial =>
      [" Unsets optional properties and empties collections so the",
        " builder can be reused. Plain values keep their current state."]

def parameters (builder : Builder) : Lifecycle → Code
  | .new => []
  | .build => phrase "&self"
  | .mergeFrom => phrase "&mut self, value: &" ++ builder.valueCode
  | .mergeFromBuilder => phrase "&mut self, other: &Self"
  | .fromValue => phrase "value: &" ++ builder.valueCode
  | .clear | .clearPartial => phrase "&mut self"

def returns (builder : Builder) : Lifecycle → Code
  | .new => name "Self"
  | .build => result builder.context builder.valueCode
  | .mergeFrom | .mergeFromBuilder => result builder.context (phrase "&mut Self")
  | .fromValue => result builder.context (name "Self")
  | .clear | .clearPartial => phrase "&mut Self"

private def trackerCode (builder : Builder) : Code :=
  name trackerName ++ name ":" ++ builder.crate ++ phrase "::UnsetProperties::<" ++
    name builder.markersName ++ phrase ">::new" ++
    parens (brackets (Code.commaSeparated false (builder.required.map builder.context.marker)))

def body (builder : Builder) : Lifecycle → Code
  | .new =>
      name "Self" ++ braces (Code.commaTerminated
        (builder.fragments.map (·.initialCode) ++ [trackerCode builder]))
  | .build =>
      field trackerName ++ phrase ".ensure_complete" ++ parens (Code.text builder.typeName) ++
        phrase "?;" ++ ok (name builder.valueName ++
          braces (Code.commaTerminated (builder.fragments.map (·.finalCode))))
  | .mergeFrom => builder.fragments.flatMap (·.mergeValueCode "value") ++ okSelf
  | .mergeFromBuilder => builder.fragments.flatMap (·.mergeBuilderCode "other") ++ okSelf
  | .fromValue =>
      phrase "let mut builder = Self::new" ++ parens [] ++ phrase "; builder.merge_from" ++
        parens (name "value") ++ phrase "?;" ++ ok (name "builder")
  | .clear =>
      phrase "let template = Self::new" ++ parens [] ++ name ";" ++
        builder.fragments.flatMap (·.clearCode "template") ++
        field trackerName ++ phrase "= template." ++ name trackerName ++ phrase "; self"
  | .clearPartial => builder.fragments.flatMap (·.partialClearCode) ++ name "self"

def code (builder : Builder) (function : Lifecycle) : Code :=
  docLines (function.docs builder.typeName) ++
    (if function == .new then mustUse else []) ++
    phrase "pub fn" ++ name function.ident ++ parens (function.parameters builder) ++
    phrase "->" ++ function.returns builder ++ braces (function.body builder)

end Lifecycle

/-! Static helpers. -/

private def copyAll (items container : String) : Code :=
  phrase "if" ++ name items ++ phrase ".is_empty" ++ parens [] ++
    braces (phrase "return <" ++ name container ++ phrase "as ::core::default::Default>::default" ++
      parens [] ++ name ";") ++
    name items ++ phrase ".iter" ++ parens [] ++ phrase ".cloned" ++ parens [] ++
    phrase ".collect" ++ parens []

private def copyable (parameter : String) : Code :=
  name parameter ++ phrase ": ::core::clone::Clone"

private def collectable (container : String) (item : Code) : Code :=
  name container ++ phrase ": ::core::default::Default + ::core::iter::FromIterator<" ++ item ++
    name ">"

def StaticHelper.code : StaticHelper → Code
  | .immutableMap =>
      phrase "fn" ++ name (ident .immutableMap) ++ phrase "<__K, __V, __M>" ++
        parens (phrase "entries: &" ++ brackets (parens (phrase "__K, __V"))) ++ phrase "-> __M" ++
        name "where" ++ Code.commaTerminated
          [copyable "__K", copyable "__V", collectable "__M" (parens (phrase "__K, __V"))] ++
        braces (copyAll "entries" "__M")
  | .immutableCollection =>
      phrase "fn" ++ name (ident .immutableCollection) ++ phrase "<__T, __C>" ++
        parens (phrase "elements: &" ++ brackets (name "__T")) ++ phrase "-> __C" ++
        name "where" ++ Code.commaTerminated [copyable "__T", collectable "__C" (name "__T")] ++
        braces (copyAll "elements" "__C")

end StructBuilder.Emit
