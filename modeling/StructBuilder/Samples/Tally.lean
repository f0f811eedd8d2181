import StructBuilder.Proofs.Plan

/-!
A declaration given by its parts, with numbers for the values of all types. It has one
property of every kind, and a check hook that accepts single digits.
-/

namespace StructBuilder.Tally

open Run (CheckHook Machine)

/-- The type of this name, with these arguments. -/
private def ty (name : String) (arguments : List Ty) : Ty :=
  .path (.mk false [] (.mk name (.angled false (arguments.map .type) false)))

private def byte : Ty :=
  .path (.ofName "u8")

/-- The attribute that marks a field as checked. -/
private def check : Attribute where
  leading := false
  names := ["builder"]
  arguments := .list [.leaf "" "check" (.ident "check")]
  content := []

private def field (name : String) (attributes : List Attribute) (ty : Ty) : Field :=
  ⟨attributes, [], some name, ty, ""⟩

def item : Item where
  attributes := []
  visibility := []
  name := "Tally"
  generics := .none
  content := .namedFields
    [field "total" [check] byte, field "note" [] (ty "Option" [byte]),
     field "table" [check] (ty "BTreeMap" [byte, byte]), field "seen" [] (ty "IndexSet" [byte]),
     field "items" [check] (ty "Vec" [byte])]

def blueprint : Blueprint :=
  match Blueprint.ofItem item with
  | .ok blueprint => blueprint
  | .error _ => ⟨"", [], .none, .none, []⟩

/-- Accepts single digits. -/
def digits : CheckHook Nat := fun _ values =>
  if values.all (· < 10) then .ok () else .error (.validation "tally" "too large")

def machine : Machine Nat where
  builder := .ofBlueprint blueprint .indexMap
  debug := toString
  defaultOf := fun _ => 0
  constant := fun _ _ => 0
  content? := fun _ _ => none
  hook? := fun _ => some digits

/-- A tally with all fields filled. -/
def sample : Run.Value Nat :=
  [("total", .plain 7), ("note", .optional none), ("table", .entries [(2, 5), (1, 3)]),
   ("seen", .elements [4, 6]), ("items", .elements [8, 8])]

/-- The plan of the field at this place. -/
def plan (place : Fin (blueprint.plans .indexMap).length) : Plan :=
  (blueprint.plans .indexMap).get place

theorem accepted : Blueprint.ofItem item = .ok blueprint := by
  have accepted : (Blueprint.ofItem item).isOk = true := by decide +kernel
  unfold blueprint
  cases read : Blueprint.ofItem item with
  | ok _ => rfl
  | error _ => simp [read, Except.isOk, Except.toBool] at accepted

theorem emitted : machine.Emitted blueprint .indexMap where
  accepted := ⟨item, accepted⟩
  distinct := by decide +kernel
  builder := rfl

/-- The only map. -/
def table : Plan :=
  plan ⟨2, by decide +kernel⟩

/-- A builder with an entry in its table and nothing else. -/
def started : Run.State Nat :=
  (machine.call (Emit.fragments table) (table.property.method .put) [.one 2, .one 5]
    machine.new).state

/-- The sample with one key taken out of its table and put in again. -/
def replaced : Run.State Nat :=
  let merged := (machine.merge (.value sample) machine.new).state
  let removed := (machine.call (Emit.fragments table) (table.property.method .remove) [.one 2]
    merged).state
  (machine.call (Emit.fragments table) (table.property.method .put) [.one 2, .one 9] removed).state

theorem plan_mem (place : Fin (blueprint.plans .indexMap).length) :
    plan place ∈ blueprint.plans .indexMap :=
  List.get_mem ..

end StructBuilder.Tally
