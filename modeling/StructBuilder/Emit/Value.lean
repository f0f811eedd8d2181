import StructBuilder.Emit.Method

/-!
Methods of plain and optional properties: setters, mappers and getters. A mapper
goes through the setter, so whatever the setter checks holds of mapped values too.
-/

namespace StructBuilder.Emit

def valueSetter (property : Property) (hasDefault : Bool) : Method where
  docs := ("Sets the value of `" ++ property.baseName ++ "`.") :: checkDocs property
  name := property.setter
  mutating := true
  parameters := [(.value, .given property.ty)]
  trailing := false
  returns := checkedReturns property
  body :=
    convertGiven .value property.ty ++ runCheck property [⟨.value, true, property.ty⟩] ++
      (if hasDefault then [.assign property.name false]
        else [.assign property.name true, .markSet property.marker])
  outcome := checkedOutcome property

def mapperDoc (property : Property) : String :=
  "Replaces the value of `" ++ property.baseName
    ++ "` with the result of applying `mapper` to it."

def defaultMapper (property : Property) : Method where
  docs := mapperDoc property :: checkDocs property
  name := property.method .map
  mutating := true
  parameters := [(.mapper, .mapper property.ty)]
  trailing := false
  returns := checkedReturns property
  body := [.copyField property.name]
  outcome := .setter property.setter

def requiredMapper (property : Property) : Method where
  docs := [mapperDoc property, "", " # Errors", "",
    " Returns `BuilderError::Incomplete` if the property has not been",
    " set, or any error raised by its check hook."]
  name := property.method .map
  mutating := true
  parameters := [(.mapper, .mapper property.ty)]
  trailing := true
  returns := .fallibleBuilder
  body := [.copyGetter property.getter]
  outcome := if property.check then .setter property.setter else .okSetter property.setter

def getterDoc (property : Property) : String :=
  "Returns the current value of `" ++ property.baseName ++ "`."

def defaultGetter (property : Property) : Method where
  docs := [getterDoc property]
  name := property.getter
  mutating := false
  parameters := []
  trailing := false
  returns := .reference (.plain property.ty)
  body := []
  outcome := .reference property.name

def requiredGetter (property : Property) : Method where
  docs := [getterDoc property, "", " # Errors", "",
    " Returns `BuilderError::Incomplete` if the property has not been", " set."]
  name := property.getter
  mutating := false
  parameters := []
  trailing := false
  returns := .fallibleReference property.ty
  body := [.requireSet property.marker]
  outcome := .requiredReference property.name property.baseName

def valueMethods (property : Property) (hasDefault mappers : Bool) : List Method :=
  [valueSetter property hasDefault]
    ++ (if mappers then [if hasDefault then defaultMapper property else requiredMapper property]
      else [])
    ++ [if hasDefault then defaultGetter property else requiredGetter property]

def optionalSetter (property : Property) (inner : Ty) : Method where
  docs := ("Sets the value of `" ++ property.baseName ++ "`. Passing `None` unsets it.")
    :: checkDocs property
  name := property.setter
  mutating := true
  parameters := [(.value, .givenOptional inner)]
  trailing := false
  returns := checkedReturns property
  body :=
    .convert .value (.option inner)
      :: (if property.check then
          [.whenPresent (runCheck property [⟨.candidate, false, inner⟩])]
        else [])
      ++ [.assign property.name false]
  outcome := checkedOutcome property

def optionalMapper (property : Property) (inner : Ty) : Method where
  docs := ("If `" ++ property.baseName
    ++ "` is set, replaces it with the result of applying `mapper` to it.") :: checkDocs property
  name := property.method .map
  mutating := true
  parameters := [(.mapper, .mapper inner)]
  trailing := false
  returns := checkedReturns property
  body := [.setMapped property.name property.setter]
  outcome := checkedOutcome property

def optionalGetter (property : Property) (inner : Ty) : Method where
  docs := ["Returns the current value of `" ++ property.baseName ++ "`, or `None` if unset."]
  name := property.getter
  mutating := false
  parameters := []
  trailing := false
  returns := .optionalReference inner
  body := []
  outcome := .optionalReference property.name

def optionalMethods (property : Property) (inner : Ty) (mappers : Bool) : List Method :=
  [optionalSetter property inner]
    ++ (if mappers then [optionalMapper property inner] else [])
    ++ [optionalGetter property inner]

end StructBuilder.Emit
