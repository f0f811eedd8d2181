import StructBuilder.Proofs.Framed.Readers

/-!
Attributes, paths, generic parameters, bounds and types are read from the option that they
begin in. What stands in angle brackets may contain commas, because the closing bracket
must follow.
-/

namespace StructBuilder.Grammar

open Reader

set_option synthInstance.maxSize 2000

/-- Readers of the nested categories that stay in front of the end of an option. -/
class Rules.Local (rules : Rules) : Prop where
  type : ∀ plus, Framed 0 0 (rules.type plus)
  bound : ∀ constant, Framed 0 0 (rules.bound constant)
  expression : ∀ structs least, Framed 0 0 (rules.expression structs least)
  right : ∀ structs operator, Framed 0 0 (rules.right structs operator)
  pattern : Framed 0 0 rules.pattern
  block : ∀ inner, Framed 0 0 (rules.block inner)

attribute [instance] Rules.Local.type Rules.Local.bound Rules.Local.expression Rules.Local.right
  Rules.Local.pattern Rules.Local.block

section

variable (rules : Rules) [rules.Local]

instance (plus : Bool) : Framed 0 0 (rules.typeCode plus) := by
  unfold Rules.typeCode
  infer_instance

instance : Framed 0 0 rules.value := by
  unfold Rules.value
  infer_instance

/-! Attributes. -/

instance : Framed 0 0 (outerAttribute rules) := by
  unfold outerAttribute
  refine .ahead (fun _ _ => rfl) ⟨fun {trees _ _} _ stop end' => ?_⟩ (fun rest => ?_) ?_
  · rcases trees with _ | ⟨⟨_, _, _ | _⟩ | _, trees⟩ <;> first | rfl | skip
    cases stop <;> cases end' <;> rfl
  · obtain ⟨_ | ⟨⟨_, _, _ | _⟩ | _, trees⟩, stray⟩ := rest <;> dsimp only <;> infer_instance
  · dsimp only
    infer_instance

instance : Framed 0 0 (outerAttributes rules) := by
  unfold outerAttributes
  infer_instance

instance : Framed 0 0 (attributesCode rules) := by
  unfold attributesCode
  infer_instance

instance : Framed 0 0 invocation := by
  unfold invocation
  infer_instance

instance : Steady 0 atModPath := by
  unfold atModPath
  infer_instance

instance : Needs 1 atModPath := by
  unfold atModPath
  infer_instance

instance : Steady 0 atInvocation := by
  unfold atInvocation
  infer_instance

/-! Paths. -/

instance : Framed 0 0 (constArgument rules) := by
  unfold constArgument
  infer_instance

instance : Steady 0 atConstArgument := by
  unfold atConstArgument
  infer_instance

instance : Steady 1 atArgumentStop := by
  unfold atArgumentStop
  infer_instance

instance (path : Path) : Framed 1 1 (association rules path) := by
  unfold association
  dsimp only
  infer_instance

instance : Framed 1 1 (argument rules) := by
  unfold argument
  have behind (ty : Ty) : Framed 1 1 (match ty with
      | .path path => if path.isSingle then association rules path else pure (.type (.path path))
      | ty => pure (.type ty)) := by
    cases ty <;> infer_instance
  infer_instance

instance : Framed 0 0 (angledArguments rules) := by
  unfold angledArguments
  exact .bind inferInstance fun _ => .within

instance : Steady 0 atTurbofish := by
  unfold atTurbofish
  infer_instance

instance : Steady 0 atAngledArguments := by
  unfold atAngledArguments
  infer_instance

instance : Steady 0 continuesPath := by
  unfold continuesPath
  infer_instance

instance (style : PathStyle) : Framed 0 0 (segment rules style) := by
  unfold segment
  infer_instance

instance (style : PathStyle) : Framed 0 0 (path rules style) := by
  unfold path
  infer_instance

instance (style : PathStyle) : Framed 0 0 (qualifiedPath rules style) := by
  unfold qualifiedPath
  infer_instance

/-! Generics. -/

instance : Steady 0 stopsBounds := by
  unfold stopsBounds
  exact .ofEnds fun stop => by cases stop <;> rfl

instance (attributes : Code) : Framed 0 0 (lifetimeParameter attributes) := by
  unfold lifetimeParameter
  have : Steady 0 fun trees : Trees => trees.isEmpty || atAnyPunct [",", ">"] trees :=
    .ofEnds fun stop => by cases stop <;> rfl
  dsimp only
  infer_instance

instance (p : Reader Code) [Framed 0 0 p] : Framed 0 0 (ifAssigned p) := by
  unfold ifAssigned
  infer_instance

instance (attributes : Code) : Framed 0 0 (constParameter rules attributes) := by
  unfold constParameter
  infer_instance

instance (attributes : Code) : Framed 0 0 (typeParameter rules attributes) := by
  unfold typeParameter
  dsimp only
  infer_instance

instance (blank : Bool) : Framed 0 0 (parameter rules blank) := by
  unfold parameter
  infer_instance

instance (blank : Bool) : Framed 0 0 (angled rules blank) := by
  unfold angled
  exact .bind inferInstance fun _ => .within

instance : Framed 0 0 (boundLifetimes rules) := by
  unfold boundLifetimes
  infer_instance

/-! Bounds. -/

instance : Steady 0 atColon := by
  unfold atColon
  infer_instance

instance : Steady 0 atPoint := by
  unfold atPoint
  infer_instance

instance : Steady 0 atFunctionArguments := by
  unfold atFunctionArguments
  infer_instance

instance : Framed 0 0 (functionArguments rules) := by
  unfold functionArguments
  infer_instance

instance : Framed 0 0 (traitPath rules) := by
  unfold traitPath
  dsimp only
  infer_instance

instance (constant : Bool) : Framed 0 0 (traitBound rules constant) := by
  unfold traitBound
  dsimp only
  infer_instance

instance (constant : Bool) : Framed 0 0 (bound rules constant) := by
  unfold bound
  infer_instance

instance : Steady 0 startsBound := by
  unfold startsBound
  infer_instance

instance (continues : Trees → Bool) (one : Reader Code) [Steady 0 continues] [Framed 0 0 one] :
    Framed 0 0 (moreBounds continues one) := by
  unfold moreBounds
  infer_instance

/-! Types. -/

instance : Steady 0 atCapture := by
  unfold atCapture
  infer_instance

instance : Framed 0 0 preciseCapture := by
  unfold preciseCapture
  exact .bind inferInstance fun _ => .within

instance : Framed 0 0 (anonymousBound rules) := by
  unfold anonymousBound
  infer_instance

instance (plus : Bool) (continues : Trees → Bool) (one : Reader Code) [Steady 0 continues] [Framed 0 0 one] :
    Framed 0 0 (traits plus continues one) := by
  unfold traits
  infer_instance

instance (plus : Bool) : Framed 0 0 (objectBounds rules plus) := by
  unfold objectBounds
  infer_instance

instance (plus : Bool) : Framed 0 0 (anonymousBounds rules plus) := by
  unfold anonymousBounds
  infer_instance

instance : Framed 0 0 convention := by
  unfold convention
  infer_instance

instance : Framed 0 0 (functionType rules) := by
  unfold functionType
  infer_instance

instance : Framed 0 0 (joinedBounds rules) := by
  unfold joinedBounds
  infer_instance

instance (plus : Bool) : Framed 0 0 (parenthesized rules plus) := by
  unfold parenthesized
  refine .bind inferInstance fun content => ?_
  cases content with
  | single ty =>
      refine .bind inferInstance fun joined => ?_
      cases joined <;> cases ty <;> infer_instance
  | _ => infer_instance

instance : Steady 0 atBuiltin := by
  unfold atBuiltin
  infer_instance

instance : Framed 0 0 builtin := by
  unfold builtin
  infer_instance

instance (plus : Bool) (lifetimes : Code) : Framed 0 0 (pathType rules plus lifetimes) := by
  unfold pathType
  dsimp only
  infer_instance

instance : Steady 0 startsPath := by
  unfold startsPath
  infer_instance

instance : Steady 0 startsFunction := by
  unfold startsFunction
  infer_instance

instance (plus : Bool) : Framed 0 0 (quantified rules plus) := by
  unfold quantified
  infer_instance

instance : Framed 0 0 (bracketed rules) := by
  unfold bracketed
  infer_instance

instance (plus : Bool) : Framed 0 0 (objectType rules plus) := by
  unfold objectType
  infer_instance

instance (plus : Bool) : Framed 0 0 (type rules plus) := by
  unfold type
  refine .ahead (fun _ _ => rfl) ?_ (fun rest => ?_) ?_
  · dsimp only
    infer_instance
  · infer_instance
  · exact inferInstanceAs (Framed 0 0 (Ty.other <$> failure))

end

end StructBuilder.Grammar
