import StructBuilder.Declaration.Type

/-!
Generic parameters and the ways they are written again: as they were declared, as the
parameters of an emitted item, which repeats no defaults, as the arguments of a type,
which are bare names, and as a `where` clause. Lifetimes always come first.
-/

namespace StructBuilder

inductive Parameter where
  | lifetime (attributes : Code) (name : String) (bounds : Code)
  | type (attributes : Code) (name : String) (bounds : Code) (default : Option Code)
  | constant (attributes : Code) (name : String) (ty : Code) (default : Option Code)

namespace Parameter

def name : Parameter → String
  | lifetime _ name _ | type _ name _ _ | constant _ name _ _ => name

def isLifetime : Parameter → Bool
  | lifetime _ _ _ => true
  | _ => false

def default : Parameter → Option Code
  | lifetime _ _ _ => none
  | type _ _ _ default | constant _ _ _ default => default

/-- The parameter where it is declared, without its default. A colon that no bounds
follow is left out. -/
def declaration : Parameter → Code
  | lifetime attributes name bounds | type attributes name bounds _ =>
      attributes ++ Code.name name ++ (if bounds.isEmpty then [] else Code.name ":" ++ bounds)
  | constant attributes name ty _ =>
      attributes ++ Code.name "const" ++ Code.name name ++ Code.name ":" ++ ty

/-- The parameter with its default. -/
def definition (parameter : Parameter) : Code :=
  parameter.declaration ++ match parameter.default with
    | some value => Code.name "=" ++ value
    | none => []

end Parameter

structure WhereClause where
  predicates : List Code
  trailing : Bool

namespace WhereClause

def empty : WhereClause :=
  ⟨[], false⟩

/-- One more predicate behind the others. -/
def push (clause : WhereClause) (predicate : Code) : WhereClause :=
  ⟨clause.predicates ++ [predicate], false⟩

/-- A clause without predicates is not written. -/
def code (clause : WhereClause) : Code :=
  if clause.predicates.isEmpty then []
  else Code.name "where" ++ Code.commaSeparated clause.trailing clause.predicates

end WhereClause

structure Generics where
  parameters : List Parameter
  trailing : Bool
  conditions : WhereClause

namespace Generics

def none : Generics :=
  ⟨[], false, WhereClause.empty⟩

def angled (generics : Generics) (write : Parameter → Code) : Code :=
  if generics.parameters.isEmpty then []
  else Code.name "<" ++ Listed.lifetimesFirst (Listed.mark generics.trailing
    (generics.parameters.map fun parameter => (parameter.isLifetime, write parameter)))
    ++ Code.name ">"

/-- The parameters as they were declared. -/
def definitionsCode (generics : Generics) : Code :=
  generics.angled Parameter.definition

/-- The parameters as an emitted item declares them. -/
def parametersCode (generics : Generics) : Code :=
  generics.angled Parameter.declaration

/-- The parameters as arguments of the declared type. -/
def argumentsCode (generics : Generics) : Code :=
  generics.angled fun parameter => Code.name parameter.name

def whereCode (generics : Generics) : Code :=
  generics.conditions.code

/-- The same parameters under one more condition. -/
def require (generics : Generics) (predicate : Code) : Generics :=
  { generics with conditions := generics.conditions.push predicate }

end Generics
end StructBuilder
