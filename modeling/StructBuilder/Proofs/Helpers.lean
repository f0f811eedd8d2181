import StructBuilder.Proofs.Naming

/-!
Static helpers. What a property asks for, what it calls when a value is built, and what its
field holds are decided in three places, and always for the library that backs the property
itself. They agree, so a builder has the helpers that are called in it, and no others.
-/

namespace StructBuilder

/-! Calls in a piece of code. -/

namespace Tree

/-- The function that is called at the front, if it is one of the own type. -/
def called? : Code → Option String
  | .word self :: .word one :: .word two :: .word function :: .group .paren _ :: _ =>
      if self = "Self" ∧ one = ":" ∧ two = ":" then some function else none
  | _ => none

mutual
/-- The functions of the own type that are called anywhere inside. -/
def calls : Tree → List String
  | .word _ => []
  | .group _ content => callsIn content

def callsIn : List Tree → List String
  | [] => []
  | tree :: rest => (called? (tree :: rest)).toList ++ calls tree ++ callsIn rest
end

end Tree

namespace Emit

open Code (phrase name parens braces)

theorem collect_eq : phrase ".collect" = [".", "collect"].map .word :=
  rfl

/-- The value of some field is made by a call of this function. -/
def Builder.calls (builder : Builder) (function : String) : Bool :=
  builder.fragments.any fun fragments => (Tree.callsIn fragments.finalCode).contains function

variable {blueprint : Blueprint} {detected : Library}

end Emit
end StructBuilder
