import StructBuilder.Emit.Statement
import StructBuilder.Run.Cell
import StructBuilder.Run.Unset

/-!
The state of a running builder, the arguments and locals of a running method, and
the trace of what a run asked of code that is not emitted: items taken from an
iterable, applications of a mapper, and calls of check hooks.
-/

namespace StructBuilder.Run

structure State (V : Type) where
  /-- By the names of the fields, in declaration order. -/
  cells : List (String × Cell V)
  /-- Positions of unset properties. -/
  unset : Unset

namespace State

variable {V : Type}

def cell? (state : State V) (field : String) : Option (Cell V) :=
  state.cells.lookup field

def content? (state : State V) (field : String) : Option V :=
  (state.cell? field).bind Cell.content?

def update (field : String) (change : Cell V → Cell V) (state : State V) : State V :=
  { state with cells := state.cells.map fun (name, cell) =>
      (name, if name == field then change cell else cell) }

def put (field : String) (cell : Cell V) (state : State V) : State V :=
  state.update field fun _ => cell

end State

inductive Argument (V : Type) where
  | one (value : V)
  | optional (content : Option V)
  | mapper (apply : V → V)
  | entries (items : List (V × V))
  | elements (items : List V)

abbrev Locals (V : Type) := List (Emit.Local × Argument V)

namespace Locals

variable {V : Type}

def content? (locals : Locals V) (subject : Emit.Local) : Option V :=
  match locals.lookup subject with
  | some (.one value) => some value
  | some (.optional content) => content
  | _ => none

def mapper? (locals : Locals V) : Option (V → V) :=
  match locals.lookup .mapper with
  | some (.mapper apply) => some apply
  | _ => none

def entries (locals : Locals V) : List (V × V) :=
  match locals.lookup .entries with
  | some (.entries items) => items
  | _ => []

def elements (locals : Locals V) : List V :=
  match locals.lookup .elements with
  | some (.elements items) => items
  | _ => []

end Locals

inductive Event (V : Type) where
  | pulled
  | mapped
  | checked (hook : MethodName) (arguments : List V)

abbrev Trace (V : Type) := List (Event V)

namespace Trace

variable {V : Type}

/-- How many items were taken from iterables. -/
def pulls (trace : Trace V) : Nat :=
  trace.countP fun
    | .pulled => true
    | _ => false

/-- Whether a mapper was applied. -/
def mapped (trace : Trace V) : Bool :=
  trace.any fun
    | .mapped => true
    | _ => false

/-- The calls of check hooks in order. -/
def checks (trace : Trace V) : List (MethodName × List V) :=
  trace.filterMap fun
    | .checked hook arguments => some (hook, arguments)
    | _ => none

end Trace

/-- Everything a statement can read and change. -/
structure Frame (V : Type) where
  state : State V
  locals : Locals V
  /-- The copy that is to be mapped. -/
  current : Option V
  /-- A batch on its way into a field. -/
  staged : Cell V
  trace : Trace V

namespace Frame

variable {V : Type}

def ofState (state : State V) (locals : Locals V) : Frame V :=
  ⟨state, locals, none, .option none, []⟩

def log (events : Trace V) (frame : Frame V) : Frame V :=
  { frame with trace := frame.trace ++ events }

def bind (locals : Locals V) (frame : Frame V) : Frame V :=
  { frame with locals := locals ++ frame.locals }

def update (field : String) (change : Cell V → Cell V) (frame : Frame V) : Frame V :=
  { frame with state := frame.state.update field change }

end Frame

/-- How a statement ends. -/
inductive Flow (V : Type) where
  | next (frame : Frame V)
  | returned (frame : Frame V)
  | failed (error : BuilderError) (frame : Frame V)

namespace Flow

variable {V α : Type}

def andThen (flow : Flow V) (continue_ : Frame V → Flow V) : Flow V :=
  match flow with
  | next frame => continue_ frame
  | stopped => stopped

/-- Puts back the locals of the enclosing block. -/
def leave (locals : Locals V) : Flow V → Flow V
  | next frame => next { frame with locals }
  | stopped => stopped

/-- Runs a block for every item until one does not end normally. -/
def each (block : α → Frame V → Flow V) : List α → Frame V → Flow V
  | [], frame => next frame
  | item :: rest, frame => (block item frame).andThen (each block rest)

end Flow

/-- What a method gives back besides the builder. -/
inductive Answer (V : Type) where
  | builder
  | view (cell : Cell V)

/-- A finished call. -/
structure Ran (V : Type) where
  answer : Except BuilderError (Answer V)
  state : State V
  trace : Trace V

/-- How methods are called by name. -/
abbrev Call (V : Type) := MethodName → List (Argument V) → State V → Ran V

end StructBuilder.Run
