import StructBuilder.Property.Basic

/-!
Names of the methods that belong to a property. An action's name is glued together
from its verb and the property's base name; a getter is called like the field.
-/

namespace StructBuilder

inductive Verb where
  | set
  | map
  | put
  | putAll
  | add
  | addAll
  | remove
  | clear
  | check
  deriving DecidableEq, Repr

def Verb.word : Verb → String
  | .set => "set"
  | .map => "map"
  | .put => "put"
  | .putAll => "put_all"
  | .add => "add"
  | .addAll => "add_all"
  | .remove => "remove"
  | .clear => "clear"
  | .check => "check"

inductive MethodName where
  | getter (field : String)
  | action (verb : Verb) (base : String)
  deriving DecidableEq, Repr

def MethodName.text : MethodName → String
  | .getter field => field
  | .action verb base => verb.word ++ "_" ++ base

namespace Property

def method (property : Property) (verb : Verb) : MethodName :=
  .action verb property.baseName

def getter (property : Property) : MethodName :=
  .getter property.name

def setter (property : Property) : MethodName :=
  property.method .set

end Property
end StructBuilder
