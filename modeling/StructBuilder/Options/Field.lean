import StructBuilder.Options.List

/-!
The options of a field. A default may be stated or left to the type; a field stays
marked as nullable once any option marks it, all other options are overridden by
later ones.
-/

namespace StructBuilder

inductive DefaultValue where
  /-- The default of the type. -/
  | implicit
  | expression (code : Code)

inductive FieldOption where
  | default (value : DefaultValue)
  | nullable (on : Bool)
  | check (on : Bool)

structure FieldOptions where
  default : Option DefaultValue
  nullable : Bool
  check : Bool

namespace FieldOptions

open Grammar (Remainder atPunct)

def none : FieldOptions :=
  ⟨.none, false, false⟩

def apply (options : FieldOptions) : FieldOption → FieldOptions
  | .default value => { options with default := some value }
  | .nullable on => { options with nullable := options.nullable || on }
  | .check on => { options with check := on }

def item (key : Option String) (rest : Remainder) :
    Options.Result (Option FieldOption × Remainder) :=
  match key with
  | some "default" =>
      if atPunct "=" rest.trees then
        match Grammar.leadingExpression (Options.dropTrees 1 rest) with
        | some (code, rest) => .ok (some (.default (.expression code)), rest)
        | .none => .error .malformed
      else .ok (some (.default .implicit), rest)
  | some "nullable" => do
      let (on, rest) ← Options.flag "nullable" rest
      return (some (.nullable on), rest)
  | some "check" => do
      let (on, rest) ← Options.flag "check" rest
      return (some (.check on), rest)
  | _ => .ok (.none, Options.skip rest)

def read (attributes : List Attribute) : Options.Result FieldOptions := do
  return (← Options.readAll item attributes).foldl apply none

end FieldOptions
end StructBuilder
