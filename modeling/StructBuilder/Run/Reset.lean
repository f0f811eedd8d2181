import StructBuilder.Run.Merge

/-!
Resetting a builder, as a whole or except for its plain values.
-/

namespace StructBuilder.Run

variable {V : Type}

def resetField (template : State V) (field : String) (reset : Emit.Reset) (state : State V) :
    State V :=
  match reset with
  | .keep => state
  | .fromTemplate =>
      match template.cell? field with
      | some cell => state.put field cell
      | none => state
  | .absent => state.put field (.option none)
  | .empty => state.update field Cell.clear

def Machine.clear (machine : Machine V) (state : State V) : State V :=
  let template := machine.new
  let state := machine.builder.fragments.foldl
    (fun state fragments => resetField template fragments.field fragments.clear state) state
  { state with unset := template.unset }

def Machine.clearPartial (machine : Machine V) (state : State V) : State V :=
  machine.builder.fragments.foldl
    (fun state fragments => resetField machine.new fragments.field fragments.partialClear state) state

end StructBuilder.Run
