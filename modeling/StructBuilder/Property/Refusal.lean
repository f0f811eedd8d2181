import StructBuilder.Text.Quoted

/-!
Why no builder can be derived for a declaration. A malformed text is not explained
further; every other reason has its message and usually a place in the source.
-/

namespace StructBuilder

inductive Reason where
  | fieldsNeedNames
  | onlyStructures
  | mustBeString (key : String)
  | mustBeBoolean (key : String)
  | unknownCollections (name : String)
  | reservedName (name : String)
  | nullableWithoutOption
  | defaultOnCollection
  /-- The name meant for a variant cannot be one. The derivation stops where it is made. -/
  | noIdentifier (marker : String)
  deriving DecidableEq, Repr

inductive Refusal where
  | malformed
  /-- The place is the source text that is at fault. -/
  | refused (reason : Reason) (place : Option String)
  deriving DecidableEq, Repr

def Reason.message : Reason → String
  | fieldsNeedNames => "FreeBuilder requires named fields"
  | onlyStructures => "FreeBuilder can only be derived for structs"
  | mustBeString key => key ++ " must be a string"
  | mustBeBoolean key => key ++ " must be a boolean"
  | unknownCollections name =>
      "unknown collections '" ++ name ++ "'; expected \"indexmap\" or \"fallback\""
  | reservedName name =>
      "`" ++ name ++ "` clashes with a generated builder method; rename the field"
  | nullableWithoutOption => "`nullable` requires an `Option<_>` field type"
  | defaultOnCollection =>
      "`default` is not supported on collection properties; they start empty"
  | noIdentifier marker => Text.quoted marker ++ " is not a valid Ident"

end StructBuilder
