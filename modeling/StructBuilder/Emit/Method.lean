import StructBuilder.Emit.Statement

/-!
Emitted methods: a signature, a body, and a result behind the body. What a property's
check hook changes of its methods is decided here once for all of them.
-/

namespace StructBuilder.Emit

open Code (phrase name parens braces)

/-- The last expression of a body. -/
inductive Outcome where
  | builder
  | okBuilder
  /-- The setter's own result, applied to the mapped value. -/
  | setter (setter : MethodName)
  | okSetter (setter : MethodName)
  | reference (field : String)
  | optionalReference (field : String)
  /-- A reference to the content, or the error that the property is unset. -/
  | requiredReference (field property : String)

inductive Returns where
  | builder
  | fallibleBuilder
  | reference (target : Storage)
  | slice (element : Ty)
  | optionalReference (ty : Ty)
  | fallibleReference (ty : Ty)

inductive ParameterType where
  /-- Primitives by value, all else as something that converts. -/
  | given (ty : Ty)
  | givenOptional (inner : Ty)
  | mapper (ty : Ty)
  | borrowed (ty : Ty)
  | entries (key value : Ty)
  | elements (element : Ty)

structure Method where
  docs : List String
  name : MethodName
  mutating : Bool
  parameters : List (Local × ParameterType)
  /-- Whether the last parameter has a comma behind it. -/
  trailing : Bool
  returns : Returns
  body : List Statement
  outcome : Outcome

/-! Writing out. -/

private def convertible (target : Code) : Code :=
  phrase "impl ::core::convert::Into<" ++ target ++ name ">"

private def given (ty : Ty) : Code :=
  if ty.isPrimitive then ty.code else convertible ty.code

private def iterable (item : Code) : Code :=
  phrase "impl ::core::iter::IntoIterator<Item =" ++ item ++ name ">"

def ParameterType.code : ParameterType → Code
  | .given ty => Emit.given ty
  | .givenOptional inner =>
      if inner.isPrimitive then optionOf inner.code else convertible (optionOf inner.code)
  | .mapper ty => phrase "impl ::core::ops::FnOnce" ++ parens ty.code ++ phrase "->" ++ ty.code
  | .borrowed ty => name "&" ++ ty.code
  | .entries key value => iterable (parens (Emit.given key ++ Code.comma ++ Emit.given value))
  | .elements element => iterable (Emit.given element)

def result (context : Context) (code : Code) : Code :=
  context.crate ++ phrase "::BuilderResult<" ++ code ++ name ">"

def Returns.code (context : Context) : Returns → Code
  | .builder => phrase "&mut Self"
  | .fallibleBuilder => result context (phrase "&mut Self")
  | .reference target => name "&" ++ target.code context
  | .slice element => name "&" ++ Code.brackets element.code
  | .optionalReference ty => optionOf (name "&" ++ ty.code)
  | .fallibleReference ty => result context (name "&" ++ ty.code)

def Outcome.code (context : Context) : Outcome → Code
  | .builder => name "self"
  | .okBuilder => ok (name "self")
  | .setter method => call (name "self") method.text mapped
  | .okSetter method => ok (call (name "self") method.text mapped)
  | .reference owner => name "&" ++ field owner
  | .optionalReference owner => call (field owner) "as_ref" []
  | .requiredReference owner property =>
      call (call (field owner) "as_ref" []) "ok_or_else"
        (phrase "||" ++ errorCode context "unset" (Code.text context.typeName) (Code.text property))

namespace Method

private def receiver (method : Method) : Code :=
  phrase (if method.mutating then "&mut self" else "&self")

def code (context : Context) (method : Method) : Code :=
  method.docs.flatMap Code.doc ++ phrase "pub fn" ++ Code.name method.name.text ++
    parens (Code.commaSeparated method.trailing (method.receiver ::
      method.parameters.map fun (subject, ty) => Code.name subject.ident ++ Code.name ":" ++ ty.code)) ++
    phrase "->" ++ method.returns.code context ++
    braces (statementsCode context method.body ++ method.outcome.code context)

end Method

/-! Verdicts of a property's check hook. -/

/-- What every method returns that may run the property's check hook. -/
def checkedReturns (property : Property) : Returns :=
  if property.check then .fallibleBuilder else .builder

def checkedOutcome (property : Property) : Outcome :=
  if property.check then .okBuilder else .builder

/-- The call of the property's check hook, if it has one. -/
def runCheck (property : Property) (arguments : List CheckArgument) : List Statement :=
  if property.check then [.check (property.method .check) arguments] else []

def checkDocs (property : Property) : List String :=
  if property.check then
    ["", " # Errors", "", " Returns any error raised by the property's check hook. The",
     " builder is left unchanged in that case."]
  else []

/-- Primitives need no conversion. -/
def convertGiven (subject : Local) (ty : Ty) : List Statement :=
  if ty.isPrimitive then [] else [.convert subject (.plain ty)]

end StructBuilder.Emit
