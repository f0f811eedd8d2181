import StructBuilder.Run.Value

/-!
Merging a value or another builder into a builder. Properties are merged in
declaration order through their own methods; the first error ends the merge and
leaves all properties before it merged.
-/

namespace StructBuilder.Run

inductive Source (V : Type) where
  | value (value : Value V)
  | builder (state : State V)

variable {V : Type} [BEq V]

def Source.content? (source : Source V) (field : String) : Option (Content V) :=
  match source with
  | .value content => content.lookup field
  | .builder state => (state.cell? field).map .ofCell

/-- What is merged of a property; nothing if it is unset in the source. -/
def Machine.mergeArgument? (machine : Machine V) (fragments : Emit.Fragments) (merge : Emit.Merge)
    (source : Source V) : Option (Argument V) :=
  match merge.guarded, source with
  | true, .builder state =>
      match machine.get fragments state with
      | .ok (.view cell) => some (Content.ofCell cell).argument
      | _ => none
  | _, source => (source.content? fragments.field).map Content.argument

def Machine.mergeProperty (machine : Machine V) (source : Source V) (fragments : Emit.Fragments)
    (state : State V) : Ran V :=
  let merge := match source with
    | .value _ => fragments.mergeValue
    | .builder _ => fragments.mergeBuilder
  match machine.mergeArgument? fragments merge source with
  | none => ⟨.ok .builder, state, []⟩
  | some argument =>
      let ran := machine.call fragments merge.method [argument] state
      if merge.propagates then ran else { ran with answer := .ok .builder }

def Machine.mergeAll (machine : Machine V) (source : Source V) :
    List Emit.Fragments → State V → Ran V
  | [], state => ⟨.ok .builder, state, []⟩
  | fragments :: rest, state =>
      let ran := machine.mergeProperty source fragments state
      match ran.answer with
      | .error _ => ran
      | .ok _ =>
          let more := machine.mergeAll source rest ran.state
          { more with trace := ran.trace ++ more.trace }

def Machine.merge (machine : Machine V) (source : Source V) (state : State V) : Ran V :=
  machine.mergeAll source machine.builder.fragments state

/-- A new builder with a value merged into it. -/
def Machine.fromValue (machine : Machine V) (value : Value V) : Ran V :=
  machine.merge (.value value) machine.new

end StructBuilder.Run
