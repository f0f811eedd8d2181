import StructBuilder.Ordered.Sorted
import StructBuilder.Run.Method

/-!
Built values. What a field of collection type holds is collected from the builder's
field into a container of the declared kind; containers that keep no order of their
own are listed by ascending key, like sorted ones.
-/

namespace StructBuilder

namespace Order

variable {V : Type} [BEq V] [Ord V]

/-- The entries of a map of this order that were put into it one by one. -/
def entries (order : Order) (items : List (V × V)) : List (V × V) :=
  match order with
  | .insertion => (IndexedMap.empty.extend items).toList
  | .sorted | .arbitrary => Sorted.ofList (·.1) items

/-- The elements of a set of this order that were put into it one by one. -/
def elements (order : Order) (items : List V) : List V :=
  match order with
  | .insertion => (IndexedSet.empty.extend items).toList
  | .sorted | .arbitrary => Sorted.ofList id items

end Order

namespace Run

/-- What a field of a built value holds. -/
inductive Content (V : Type) where
  | plain (value : V)
  | optional (content : Option V)
  | entries (items : List (V × V))
  | elements (items : List V)

/-- A built value, by the names of its fields in declaration order. -/
abbrev Value (V : Type) := List (String × Content V)

namespace Content

variable {V : Type}

/-- A copy of a cell. -/
def ofCell : Cell V → Content V
  | .plain value => plain value
  | .option content => optional content
  | .indexMap map => entries map.toList
  | .orderedMap map => entries map.toList
  | .indexSet set => elements set.toList
  | .orderedSet set => elements set.toList
  | .vector items => elements items

/-- The content as it is passed to a method. -/
def argument : Content V → Argument V
  | plain value => .one value
  | optional content => .optional content
  | entries items => .entries items
  | elements items => .elements items

variable [BEq V] [Ord V]

/-- The content collected into a container of this shape. -/
def collect (shape : Shape) : Content V → Content V
  | entries items =>
      match shape with
      | .map order _ _ => entries (order.entries items)
      | _ => entries items
  | elements items =>
      match shape with
      | .set order _ => elements (order.elements items)
      | _ => elements items
  | content => content

/-- A static helper makes an empty container without collecting. -/
def collectBy (shape : Shape) : Content V → Content V
  | entries [] => entries []
  | elements [] => elements []
  | content => content.collect shape

/-- The content as it is shown: by ascending key if the container has no order. -/
def shown (shape : Shape) (content : Content V) : Content V :=
  match shape with
  | .map .arbitrary _ _ | .set .arbitrary _ => content.collect shape
  | _ => content

end Content

variable {V : Type} [BEq V]

/-- What the getter of a field answers. -/
def Machine.get (machine : Machine V) (fragments : Emit.Fragments) (state : State V) :
    Except BuilderError (Answer V) :=
  (machine.call fragments (.getter fragments.field) [] state).answer

variable [Ord V]

/-- The field of the built value that belongs to these fragments. -/
def Machine.finish (machine : Machine V) (state : State V) (fragments : Emit.Fragments) :
    Except BuilderError (Content V) :=
  let copied := ((state.cell? fragments.field).map Content.ofCell).getD (.optional none)
  match fragments.final with
  | .cloneField => .ok copied
  | .cloneGetter => (machine.get fragments state).map fun
      | .view cell => .ofCell cell
      | .builder => copied
  | .collectEntries | .collectElements => .ok (copied.collect fragments.shape)
  | .helper _ => .ok (copied.collectBy fragments.shape)

/-- Builds a value if no required property is unset. -/
def Machine.build (machine : Machine V) (state : State V) : Except BuilderError (Value V) := do
  state.unset.ensureComplete machine.typeName machine.nameAt
  machine.builder.fragments.mapM fun fragments =>
    (machine.finish state fragments).map (fragments.field, ·)

end Run
end StructBuilder
