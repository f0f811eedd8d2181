import StructBuilder.Proofs.Isolation

/-!
Tallies with other fields, for what a tally itself does not show.
-/

namespace StructBuilder.Tally

def varied (fields : List Field) : Item :=
  { item with content := .namedFields fields }

/-- The blueprint of a tally with these fields. -/
def variedBlueprint (fields : List Field) : Blueprint :=
  match Blueprint.ofItem (varied fields) with
  | .ok blueprint => blueprint
  | .error _ => blueprint

def variedMachine (fields : List Field) : Run.Machine Nat :=
  { machine with builder := .ofBlueprint (variedBlueprint fields) .indexMap }

theorem accepted_varied {fields : List Field}
    (accepted : (Blueprint.ofItem (varied fields)).isOk = true) :
    Blueprint.ofItem (varied fields) = .ok (variedBlueprint fields) := by
  unfold variedBlueprint
  cases read : Blueprint.ofItem (varied fields) with
  | ok _ => rfl
  | error _ =>
      rw [read] at accepted
      cases accepted

/-- All fields but the list. -/
def listless : List Field :=
  fields.filter (·.name != some "items")

/-- The attribute that has a property start with some content. -/
def defaulting : Attribute where
  leading := false
  names := ["builder"]
  arguments := .list [.leaf "" "default" (.ident "default"), .leaf " " "=" (.punct '='),
    .leaf " " "Some" (.ident "Some"), .group "" .paren [.leaf "" "3" (.number "3")] ""]
  content := []

/-- The fields of a tally whose note is there from the start. -/
def noted : List Field :=
  fields.map fun field =>
    if field.name = some "note" then { field with attributes := [defaulting] } else field

theorem emitted_listless :
    (variedMachine listless).Emitted (variedBlueprint listless) .indexMap where
  accepted := ⟨_, accepted_varied (by decide +kernel)⟩
  distinct := by decide +kernel
  builder := rfl

/-- The note starts with a three. -/
def notedMachine : Run.Machine Nat :=
  { variedMachine noted with content? := fun _ _ => some 3 }

theorem emitted_noted : notedMachine.Emitted (variedBlueprint noted) .indexMap where
  accepted := ⟨_, accepted_varied (by decide +kernel)⟩
  distinct := by decide +kernel
  builder := rfl

end StructBuilder.Tally
