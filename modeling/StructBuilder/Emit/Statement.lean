import StructBuilder.Emit.Storage

/-!
The statements that bodies of emitted methods are made of. There are few kinds, and
each says what it reads and stores, so that a body can be written out and can also be
run. Locals are fixed; none of them is ever shadowed by one of another meaning.
-/

namespace StructBuilder.Emit

open Code (phrase name parens braces)

/-- What a statement can refer to besides the builder. -/
inductive Local where
  | value
  | key
  | element
  | entries
  | elements
  | mapper
  /-- The content of an optional `value`. -/
  | candidate
  deriving DecidableEq, Repr

def Local.ident : Local → String
  | .value => "value"
  | .key => "key"
  | .element => "element"
  | .entries => "entries"
  | .elements => "elements"
  | .mapper => "mapper"
  | .candidate => "candidate"

/-- An argument of a check hook, borrowed on the spot if it is not a reference yet. -/
structure CheckArgument where
  subject : Local
  borrow : Bool
  /-- The type of what the hook sees behind the reference. -/
  ty : Ty

inductive Statement where
  /-- Converts a parameter into this type. -/
  | convert (subject : Local) (target : Storage)
  /-- Runs a check hook and returns its error. -/
  | check (hook : MethodName) (arguments : List CheckArgument)
  /-- Runs the body on the content of an optional value. -/
  | whenPresent (body : List Statement)
  /-- Stores `value` into a field, wrapped as a present one on demand. -/
  | assign (field : String) (present : Bool)
  | markSet (marker : String)
  /-- Returns an error if the property is marked as unset. -/
  | requireSet (marker : String)
  /-- Copies the field, to be mapped. -/
  | copyField (field : String)
  /-- Copies what the getter answers, to be mapped, or returns its error. -/
  | copyGetter (getter : MethodName)
  /-- If the field has content, passes the mapped content to the setter and returns. -/
  | setMapped (field : String) (setter : MethodName)
  /-- Returns an error if the key is in the field, or among those staged. -/
  | rejectDuplicate (field property : String) (staged : Bool)
  | insertEntry (field : String)
  | openStaged (storage : Storage)
  | stageEntry
  | eachEntry (body : List Statement)
  /-- Moves everything staged into the field. -/
  | commitStaged (field : String)
  /-- Removes the key, or returns an error if it is missing. -/
  | removeEntry (field property : String)
  | insertElement (field : String)
  | pushElement (field : String)
  /-- Collects all given elements, converted on demand, before any is stored. -/
  | collectStaged (element : Ty)
  | eachStaged (body : List Statement)
  /-- Stores the given elements one by one. -/
  | extendElements (field : String) (element : Ty)
  | removeElement (field : String)
  | removeFirst (field : String)
  | empty (field : String)

def field (owner : String) : Code :=
  phrase "self." ++ name owner

def call (owner : Code) (method : String) (arguments : Code) : Code :=
  owner ++ name "." ++ name method ++ parens arguments

def ended (code : Code) : Code :=
  code ++ Code.semicolon

def errorCode (context : Context) (constructor : String) (property argument : Code) : Code :=
  context.crate ++ phrase "::BuilderError::" ++ name constructor ++
    parens (property ++ Code.comma ++ argument)

private def returnError (context : Context) (constructor property : String) (key : Code) : Code :=
  phrase "return" ++ ended (err (errorCode context constructor (Code.text property) key))

/-- The mapper applied to what was copied. -/
def mapped : Code :=
  name "mapper" ++ parens (name "current")

private def convertedElements (element : Ty) : Code :=
  let elements := call (name "elements") "into_iter" []
  if element.isPrimitive then elements
  else call elements "map" (phrase "::core::convert::Into::<" ++ element.code ++ phrase ">::into")

def CheckArgument.code (argument : CheckArgument) : Code :=
  (if argument.borrow then name "&" else []) ++ name argument.subject.ident

mutual
def Statement.code (context : Context) : Statement → Code
  | .convert subject target =>
      phrase "let" ++ name subject.ident ++ name "=" ++
        ended (into (target.code context) (name subject.ident))
  | .check hook arguments =>
      context.checks ++ phrase "::" ++ name hook.text ++
        parens (phrase "&*self," ++ Code.commaSeparated false (arguments.map CheckArgument.code)) ++
        phrase "?;"
  | .whenPresent body =>
      phrase "if let" ++ some_ (name "candidate") ++ phrase "= &value" ++
        braces (statementsCode context body)
  | .assign owner present =>
      field owner ++ name "=" ++ ended (if present then some_ (name "value") else name "value")
  | .markSet marker => ended (call (field trackerName) "remove" (context.marker marker))
  | .requireSet marker =>
      call (field trackerName) "check_set"
        (Code.text context.typeName ++ Code.comma ++ context.marker marker) ++ phrase "?;"
  | .copyField owner => phrase "let current =" ++ ended (clone (name "&" ++ field owner))
  | .copyGetter getter =>
      phrase "let current =" ++ ended (clone (call (name "self") getter.text [] ++ name "?"))
  | .setMapped owner setter =>
      phrase "if let" ++ some_ (name "current") ++ name "=" ++ clone (name "&" ++ field owner) ++
        braces (phrase "return" ++ ended (call (name "self") setter.text (some_ mapped)))
  | .rejectDuplicate owner property staged =>
      phrase "if" ++ call (field owner) "contains_key" (phrase "&key") ++
        (if staged then phrase "||" ++ call (name "staged") "contains_key" (phrase "&key") else []) ++
        braces (returnError context "duplicate_key" property (phrase "&key"))
  | .insertEntry owner => ended (call (field owner) "insert" (phrase "key, value"))
  | .openStaged storage =>
      phrase "let mut staged = <" ++ storage.code context ++
        phrase "as ::core::default::Default>::default" ++ ended (parens [])
  | .stageEntry => ended (call (name "staged") "insert" (phrase "key, value"))
  | .eachEntry body =>
      phrase "for" ++ parens (phrase "key, value") ++ phrase "in entries" ++
        braces (statementsCode context body)
  | .commitStaged owner => ended (call (field owner) "extend" (name "staged"))
  | .removeEntry owner property =>
      phrase "if" ++ call (call (field owner) "shift_remove" (name "key")) "is_none" [] ++
        braces (returnError context "missing_key" property (name "key"))
  | .insertElement owner => ended (call (field owner) "insert" (name "element"))
  | .pushElement owner => ended (call (field owner) "push" (name "element"))
  | .collectStaged element =>
      phrase "let staged: ::std::vec::Vec<" ++ element.code ++ phrase "> =" ++
        ended (call (convertedElements element) "collect" [])
  | .eachStaged body =>
      phrase "for element in &staged" ++ braces (statementsCode context body)
  | .extendElements owner element => ended (call (field owner) "extend" (convertedElements element))
  | .removeElement owner => ended (call (field owner) "shift_remove" (name "element"))
  | .removeFirst owner =>
      phrase "if let" ++ some_ (name "index") ++ name "=" ++
        call (call (field owner) "iter" []) "position"
          (phrase "|existing| existing == element") ++
        braces (ended (call (field owner) "remove" (name "index")))
  | .empty owner => ended (call (field owner) "clear" [])

def statementsCode (context : Context) : List Statement → Code
  | [] => []
  | statement :: rest => statement.code context ++ statementsCode context rest
end

end StructBuilder.Emit
