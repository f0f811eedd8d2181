import StructBuilder.Text.Debug
import StructBuilder.Text.Quoted

/-!
What can go wrong in a builder. A missing property is reported with all others that
are missing, keys are carried as they are shown, and the message of a refused value
is whatever the check said.
-/

namespace StructBuilder

inductive BuilderError where
  /-- Required properties are unset. -/
  | incomplete (typeName : String) (missing : List String)
  | duplicateKey (property key : String)
  | missingKey (property key : String)
  | validation (property message : String)
  deriving DecidableEq, Repr

namespace BuilderError

/-- A single required property is unset. -/
def unset (typeName property : String) : BuilderError :=
  .incomplete typeName [property]

def kind : BuilderError → String
  | .incomplete _ _ => "Incomplete"
  | .duplicateKey _ _ => "DuplicateKey"
  | .missingKey _ _ => "MissingKey"
  | .validation _ _ => "Validation"

def message : BuilderError → String
  | .incomplete typeName missing => typeName ++ ": not set: [" ++ ", ".intercalate missing ++ "]"
  | .duplicateKey property key => "Key already present in " ++ property ++ ": " ++ key
  | .missingKey property key => "Key not present in " ++ property ++ ": " ++ key
  | .validation property message => "Validation failed for '" ++ property ++ "': " ++ message

/-- The unset properties that the error reports. -/
def missing : BuilderError → List String
  | .incomplete _ missing => missing
  | _ => []

def fields : BuilderError → List (String × String)
  | .incomplete typeName missing =>
      [("type_name", Text.quoted typeName), ("missing", Text.listing (missing.map Text.quoted))]
  | .duplicateKey property key | .missingKey property key =>
      [("property", Text.quoted property), ("key", Text.quoted key)]
  | .validation property message =>
      [("property", Text.quoted property), ("message", Text.quoted message)]

/-- The error with the names of its fields. -/
def debug (error : BuilderError) : String :=
  Text.record error.kind error.fields

end BuilderError
end StructBuilder
