import StructBuilder.Emit.Container
import StructBuilder.Emit.Value

/-!
Everything emitted for one property. Fragments depend on the property's own plan
alone; what they call of each other is fixed by the property's name.
-/

namespace StructBuilder.Emit

open Code (phrase name parens braces)

def methods (plan : Plan) : List Method :=
  match plan.strategy with
  | .scalar hasDefault => valueMethods plan.property hasDefault plan.features.mappers
  | .optional inner => optionalMethods plan.property inner plan.features.mappers
  | .map key value => mapMethods plan.property key value (storage plan)
  | .set element => setMethods plan.property element (storage plan)
  | .list element => listMethods plan.property element

/-! Check hooks. -/

/-- A hook as the trait of checks declares it; it accepts everything by default. -/
structure Hook where
  name : MethodName
  docs : List String
  parameters : List (String × Ty)

def hook (plan : Plan) : Hook :=
  let property := plan.property
  let doc (subject : String) : String := "Validates " ++ subject ++ " before it is stored in `"
    ++ property.baseName ++ "`. Accepts everything by default."
  let hookName := property.method .check
  match plan.strategy with
  | .scalar hasDefault =>
      ⟨hookName, doc "a value" :: (if hasDefault then
        ["", "The declared default is stored by `new()` without running this check."] else []),
       [("_value", property.ty)]⟩
  | .optional inner => ⟨hookName, [doc "a present value"], [("_value", inner)]⟩
  | .map key value => ⟨hookName, [doc "an entry"], [("_key", key), ("_value", value)]⟩
  | .set element | .list element => ⟨hookName, [doc "an element"], [("_element", element)]⟩

def Hook.code (context : Context) (hook : Hook) : Code :=
  hook.docs.flatMap Code.doc ++ phrase "fn" ++ Code.name hook.name.text ++
    parens (phrase "&self," ++ Code.commaSeparated false
      (hook.parameters.map fun (parameter, ty) => Code.name parameter ++ phrase ": &" ++ ty.code)) ++
    phrase "->" ++ result context (parens []) ++ braces (ok (parens []))

/-! Merging. -/

inductive MergeArgument where
  /-- A copy of the source's field. -/
  | field
  /-- A copy of what the source's getter answered. -/
  | source
  | entries
  | elements
  deriving DecidableEq, Repr

/-- The call that passes a property of a source to its mutator. -/
structure Merge where
  method : MethodName
  /-- The mutator's error is returned. -/
  propagates : Bool
  argument : MergeArgument
  /-- Only if the source has the property set. -/
  guarded : Bool

def mergeWith (plan : Plan) (guarded : Bool) : Merge :=
  let property := plan.property
  match plan.strategy with
  | .scalar _ | .optional _ =>
      ⟨property.setter, property.check, if guarded then .source else .field, guarded⟩
  | .map _ _ => ⟨property.method .putAll, true, .entries, false⟩
  | .set _ | .list _ => ⟨property.method .addAll, property.check, .elements, false⟩

def mergeValue (plan : Plan) : Merge :=
  mergeWith plan false

def mergeBuilder (plan : Plan) : Merge :=
  mergeWith plan (plan.kind == .required)

/-- The call, for the source bound to `owner`. -/
def Merge.code (field owner : String) (merge : Merge) : Code :=
  let argument := match merge.argument with
    | .field => clone (name "&" ++ name owner ++ name "." ++ name field)
    | .source => clone (name "source")
    | .entries => entriesOf owner field
    | .elements => elementsOf owner field
  let call := phrase "self." ++ Code.name merge.method.text ++ parens argument ++
    phrase (if merge.propagates then "?;" else ";")
  if merge.guarded then
    phrase "if let" ++ ok (name "source") ++ name "=" ++ name owner ++ name "." ++ name field ++
      parens [] ++ braces call
  else call

/-! Resetting. -/

inductive Reset where
  | keep
  | fromTemplate
  | absent
  | empty
  deriving DecidableEq, Repr

def clear (plan : Plan) : Reset :=
  match plan.strategy with
  | .scalar _ | .optional _ => .fromTemplate
  | _ => .empty

def partialClear (plan : Plan) : Reset :=
  match plan.strategy with
  | .scalar _ => .keep
  | .optional _ => .absent
  | _ => .empty

def Reset.code (field template : String) : Reset → Code
  | .keep => []
  | .fromTemplate =>
      phrase "self." ++ name field ++ name "=" ++ name template ++ name "." ++ name field ++ name ";"
  | .absent => phrase "self." ++ name field ++ phrase "= ::core::option::Option::None;"
  | .empty => phrase "self." ++ name field ++ phrase ".clear" ++ parens [] ++ name ";"

/-! All fragments of one property. -/

structure Fragments where
  field : String
  /-- What the built value's field collects into. -/
  shape : Shape
  storage : Storage
  initial : Initial
  methods : List Method
  hook : Hook
  final : Final
  mergeValue : Merge
  mergeBuilder : Merge
  clear : Reset
  partialClear : Reset
  helpers : List StaticHelper

def fragments (plan : Plan) : Fragments where
  field := plan.property.name
  shape := plan.property.shape
  storage := storage plan
  initial := initial plan
  methods := methods plan
  hook := hook plan
  final := final plan
  mergeValue := mergeValue plan
  mergeBuilder := mergeBuilder plan
  clear := clear plan
  partialClear := partialClear plan
  helpers := requests plan

namespace Fragments

def labeled (fragments : Fragments) (code : Code) : Code :=
  name fragments.field ++ name ":" ++ code

def declarationCode (context : Context) (fragments : Fragments) : Code :=
  fragments.labeled (fragments.storage.code context)

def initialCode (fragments : Fragments) : Code :=
  fragments.labeled fragments.initial.code

def methodsCode (context : Context) (fragments : Fragments) : Code :=
  fragments.methods.flatMap (·.code context)

def hookCode (context : Context) (fragments : Fragments) : Code :=
  fragments.hook.code context

def finalCode (fragments : Fragments) : Code :=
  fragments.labeled (fragments.final.code fragments.field)

def mergeValueCode (owner : String) (fragments : Fragments) : Code :=
  fragments.mergeValue.code fragments.field owner

def mergeBuilderCode (owner : String) (fragments : Fragments) : Code :=
  fragments.mergeBuilder.code fragments.field owner

def clearCode (template : String) (fragments : Fragments) : Code :=
  fragments.clear.code fragments.field template

def partialClearCode (fragments : Fragments) : Code :=
  fragments.partialClear.code fragments.field "template"

end Fragments
end StructBuilder.Emit
