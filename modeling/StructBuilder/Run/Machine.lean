import StructBuilder.Emit.Builder
import StructBuilder.Run.State

/-!
An emitted builder together with all that its run depends on and that is not emitted:
how values are shown, what expressions and defaults amount to, and the check hooks
that are not left as they are declared.
-/

namespace StructBuilder.Run

/-- A hook sees the builder before the change and the values to be stored. -/
abbrev CheckHook (V : Type) := State V → List V → Except BuilderError Unit

structure Machine (V : Type) where
  builder : Emit.Builder
  /-- A key as errors show it. -/
  debug : V → String
  /-- The default value of a type. -/
  defaultOf : Ty → V
  /-- The value of an expression, converted to a type. -/
  constant : Ty → Code → V
  /-- The content of an expression that is optional. -/
  content? : Ty → Code → Option V
  /-- The hooks that were overridden; all others accept everything. -/
  hook? : MethodName → Option (CheckHook V)

namespace Machine

variable {V : Type}

def typeName (machine : Machine V) : String :=
  machine.builder.typeName

/-- Where a marker stands in declaration order. -/
def position (machine : Machine V) (marker : String) : Nat :=
  machine.builder.variants.findIdx (·.1 == marker)

/-- What errors call the property at a position. -/
def nameAt (machine : Machine V) (position : Nat) : String :=
  (machine.builder.variants[position]?.map (·.2)).getD ""

/-- What a field holds in a new builder. -/
def initial (machine : Machine V) (storage : Emit.Storage) (initial : Emit.Initial) : Cell V :=
  match storage, initial with
  | .plain ty, .expression code => .plain (machine.constant ty code)
  | .plain _, .converted ty code => .plain (machine.constant ty code)
  | .plain ty, _ => .plain (machine.defaultOf ty)
  | .option ty, .expression code => .option (machine.content? ty code)
  | storage, _ => .ofStorage storage

/-- A new builder. -/
def new (machine : Machine V) : State V where
  cells := machine.builder.fragments.map fun fragments =>
    (fragments.field, machine.initial fragments.storage fragments.initial)
  unset := .ofList (machine.builder.required.map machine.position)

end Machine
end StructBuilder.Run
