import StructBuilder.Run.Machine

/-!
Running emitted methods. Statements run one after the other until one of them fails
or returns; whatever was stored before a failure stays stored, so that a method
leaves the builder unchanged on error only if its statements are in the right order.
-/

namespace StructBuilder.Run

variable {V : Type} [BEq V]

/-- Runs the hook unless it accepts everything anyway. -/
def Machine.runCheck (machine : Machine V) (hook : MethodName) (arguments : List V)
    (frame : Frame V) : Flow V :=
  match machine.hook? hook with
  | none => .next frame
  | some check =>
      let frame' := frame.log [.checked hook arguments]
      match check frame.state arguments with
      | .ok () => .next frame'
      | .error error => .failed error frame'

/-- Goes on with what a call left behind. -/
def Frame.after (frame : Frame V) (ran : Ran V) : Frame V :=
  { frame with state := ran.state, trace := frame.trace ++ ran.trace }

mutual
def runStatement (machine : Machine V) (call : Call V) : Emit.Statement → Frame V → Flow V
  | .convert _ _, frame => .next frame
  | .check hook arguments, frame =>
      machine.runCheck hook (arguments.filterMap (frame.locals.content? ·.subject)) frame
  | .whenPresent body, frame =>
      match frame.locals.content? .value with
      | none => .next frame
      | some content =>
          (runStatements machine call body (frame.bind [(.candidate, .one content)])).leave
            frame.locals
  | .assign field _, frame => .next (frame.update field (·.assign (frame.locals.content? .value)))
  | .markSet marker, frame =>
      .next { frame with state.unset := (frame.state.unset.remove (machine.position marker)).2 }
  | .requireSet marker, frame =>
      match frame.state.unset.checkSet machine.typeName machine.nameAt (machine.position marker) with
      | .ok () => .next frame
      | .error error => .failed error frame
  | .copyField field, frame => .next { frame with current := frame.state.content? field }
  | .copyGetter getter, frame =>
      let ran := call getter [] frame.state
      match ran.answer with
      | .ok (.view cell) => .next { frame.after ran with current := cell.content? }
      | .ok .builder => .next (frame.after ran)
      | .error error => .failed error (frame.after ran)
  | .setMapped field setter, frame =>
      match frame.state.content? field, frame.locals.mapper? with
      | some current, some apply =>
          let frame := frame.log [.mapped]
          let ran := call setter [.optional (some (apply current))] frame.state
          match ran.answer with
          | .ok _ => .returned (frame.after ran)
          | .error error => .failed error (frame.after ran)
      | _, _ => .next frame
  | .rejectDuplicate field property staged, frame =>
      match frame.locals.content? .key with
      | none => .next frame
      | some key =>
          if (frame.state.cell? field).any (·.containsKey key)
              || (staged && frame.staged.containsKey key) then
            .failed (.duplicateKey property (machine.debug key)) frame
          else .next frame
  | .insertEntry field, frame =>
      match frame.locals.content? .key, frame.locals.content? .value with
      | some key, some value => .next (frame.update field (·.insertEntry key value))
      | _, _ => .next frame
  | .openStaged storage, frame => .next { frame with staged := .ofStorage storage }
  | .stageEntry, frame =>
      match frame.locals.content? .key, frame.locals.content? .value with
      | some key, some value => .next { frame with staged := frame.staged.insertEntry key value }
      | _, _ => .next frame
  | .eachEntry body, frame =>
      Flow.each (fun (key, value) frame =>
        (runStatements machine call body
          ((frame.bind [(.key, .one key), (.value, .one value)]).log [.pulled])).leave frame.locals)
        frame.locals.entries frame
  | .commitStaged field, frame => .next (frame.update field (·.extend frame.staged))
  | .removeEntry field property, frame =>
      match frame.locals.content? .key with
      | none => .next frame
      | some key =>
          match (frame.state.cell? field).bind (·.withoutKey? key) with
          | some cell => .next (frame.update field fun _ => cell)
          | none => .failed (.missingKey property (machine.debug key)) frame
  | .insertElement field, frame =>
      match frame.locals.content? .element with
      | some element => .next (frame.update field (·.insertElement element))
      | none => .next frame
  | .pushElement field, frame =>
      match frame.locals.content? .element with
      | some element => .next (frame.update field (·.push element))
      | none => .next frame
  | .collectStaged _, frame =>
      let elements := frame.locals.elements
      .next { frame.log (elements.map fun _ => .pulled) with staged := .vector elements }
  | .eachStaged body, frame =>
      Flow.each (fun element frame =>
        (runStatements machine call body (frame.bind [(.element, .one element)])).leave
          frame.locals)
        frame.staged.elements frame
  | .extendElements field _, frame =>
      let elements := frame.locals.elements
      .next ((frame.log (elements.map fun _ => .pulled)).update field (·.extendElements elements))
  | .removeElement field, frame =>
      match frame.locals.content? .element with
      | some element => .next (frame.update field (·.removeElement element))
      | none => .next frame
  | .removeFirst field, frame =>
      match frame.locals.content? .element with
      | some element => .next (frame.update field (·.removeFirst element))
      | none => .next frame
  | .empty field, frame => .next (frame.update field (·.clear))

def runStatements (machine : Machine V) (call : Call V) : List Emit.Statement → Frame V → Flow V
  | [], frame => .next frame
  | statement :: rest, frame =>
      (runStatement machine call statement frame).andThen (runStatements machine call rest)
end

/-- Calls the setter with the mapped copy. -/
def runSetter (call : Call V) (setter : MethodName) (frame : Frame V) : Ran V :=
  match frame.current, frame.locals.mapper? with
  | some current, some apply =>
      let frame := frame.log [.mapped]
      let ran := call setter [.one (apply current)] frame.state
      { ran with trace := frame.trace ++ ran.trace }
  | _, _ => ⟨.ok .builder, frame.state, frame.trace⟩

def runOutcome (machine : Machine V) (call : Call V) (outcome : Emit.Outcome) (frame : Frame V) :
    Ran V :=
  let view (field : String) : Ran V :=
    ⟨.ok (((frame.state.cell? field).map .view).getD .builder), frame.state, frame.trace⟩
  match outcome with
  | .builder | .okBuilder => ⟨.ok .builder, frame.state, frame.trace⟩
  | .setter setter | .okSetter setter => runSetter call setter frame
  | .reference field | .optionalReference field => view field
  | .requiredReference field property =>
      match frame.state.content? field with
      | some value => ⟨.ok (.view (.plain value)), frame.state, frame.trace⟩
      | none => ⟨.error (.unset machine.typeName property), frame.state, frame.trace⟩

def runMethod (machine : Machine V) (call : Call V) (method : Emit.Method)
    (arguments : List (Argument V)) (state : State V) : Ran V :=
  let locals := (method.parameters.map (·.1)).zip arguments
  match runStatements machine call method.body (.ofState state locals) with
  | .next frame => runOutcome machine call method.outcome frame
  | .returned frame => ⟨.ok .builder, frame.state, frame.trace⟩
  | .failed error frame => ⟨.error error, frame.state, frame.trace⟩

/-- Calls among the methods of one property, nested up to a depth. A name that is not
among them does nothing. -/
def Machine.callWithin (machine : Machine V) (methods : List Emit.Method) : Nat → Call V
  | 0 => fun _ _ state => ⟨.ok .builder, state, []⟩
  | depth + 1 => fun name arguments state =>
      match methods.find? (·.name == name) with
      | none => ⟨.ok .builder, state, []⟩
      | some method => runMethod machine (machine.callWithin methods depth) method arguments state

/-- A mapper calls the getter and the setter, which call no other method. -/
def Machine.call (machine : Machine V) (fragments : Emit.Fragments) : Call V :=
  machine.callWithin fragments.methods 2

end StructBuilder.Run
