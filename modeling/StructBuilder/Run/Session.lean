import StructBuilder.Run.Reset

/-!
Sessions with any number of builders and values of one type. A step works on builders
and values by their positions and reports what it did; new builders and values are
appended, and a failed step appends nothing.
-/

namespace StructBuilder.Run

inductive Step (V : Type) where
  /-- A new builder. -/
  | create
  | clone (builder : Nat)
  | call (builder : Nat) (method : String) (arguments : List (Argument V))
  | build (builder : Nat)
  /-- A value made without the builder. -/
  | value (builder : Nat) (value : Value V)
  | mergeValue (builder value : Nat)
  | mergeBuilder (builder other : Nat)
  | fromValue (builder value : Nat)
  | clear (builder : Nat)
  | clearPartial (builder : Nat)
  | look (builder : Nat)

structure Session (V : Type) where
  builders : List (State V)
  values : List (Value V)

/-- What a step did. -/
structure Report (V : Type) where
  /-- The builder to look at. -/
  builder : Nat
  error : Option BuilderError
  trace : Trace V
  /-- A value that the step appended. -/
  value : Option (Value V)

namespace Session

variable {V : Type}

def builder? (session : Session V) (position : Nat) : Option (State V) :=
  session.builders[position]?

def appendBuilder (session : Session V) (state : State V) (trace : Trace V) :
    Report V × Session V :=
  (⟨session.builders.length, none, trace, none⟩,
   { session with builders := session.builders ++ [state] })

def appendValue (session : Session V) (builder : Nat) (value : Value V) :
    Report V × Session V :=
  (⟨builder, none, [], some value⟩, { session with values := session.values ++ [value] })

def replace (session : Session V) (position : Nat) (ran : Ran V) : Report V × Session V :=
  let error := match ran.answer with
    | .ok _ => none
    | .error error => some error
  (⟨position, error, ran.trace, none⟩,
   { session with builders := session.builders.set position ran.state })

def reset (session : Session V) (position : Nat) (state : State V) :
    Report V × Session V :=
  session.replace position ⟨.ok .builder, state, []⟩

variable [BEq V] [Ord V]

/-- A session with one new builder. -/
def start (machine : Machine V) : Session V :=
  ⟨[machine.new], []⟩

/-- Does one step, if all that it refers to is there. -/
def step? (machine : Machine V) (session : Session V) : Step V → Option (Report V × Session V)
  | .create => some (session.appendBuilder machine.new [])
  | .clone position => do
      return session.appendBuilder (← session.builder? position) []
  | .call position method arguments => do
      let state ← session.builder? position
      let (fragments, name) ← machine.builder.fragments.findSome? fun fragments =>
        (fragments.methods.find? (·.name.text == method)).map fun found => (fragments, found.name)
      return session.replace position (machine.call fragments name arguments state)
  | .build position => do
      let state ← session.builder? position
      return match machine.build state with
        | .ok built => session.appendValue position built
        | .error error => (⟨position, some error, [], none⟩, session)
  | .value position given => some (session.appendValue position given)
  | .mergeValue position source => do
      let state ← session.builder? position
      let given ← session.values[source]?
      return session.replace position (machine.merge (.value given) state)
  | .mergeBuilder position source => do
      let state ← session.builder? position
      let other ← session.builder? source
      return session.replace position (machine.merge (.builder other) state)
  | .fromValue position source => do
      let given ← session.values[source]?
      let ran := machine.fromValue given
      return match ran.answer with
        | .ok _ => session.appendBuilder ran.state ran.trace
        | .error error => (⟨position, some error, ran.trace, none⟩, session)
  | .clear position => do
      return session.reset position (machine.clear (← session.builder? position))
  | .clearPartial position => do
      return session.reset position (machine.clearPartial (← session.builder? position))
  | .look position => do
      return session.reset position (← session.builder? position)

end Session
end StructBuilder.Run
