import StructBuilder.Proofs.Effect
import StructBuilder.Proofs.Naming

/-!
Emitted methods do what they are for. The statements of every method are run once here,
on arbitrary plans and states; whatever is proved of calls elsewhere is proved of their
effects, without a look at the statements.
-/

namespace StructBuilder.Run

open Emit (runCheck convertGiven methods storage validateEntry)

variable {V : Type}

/-- What a call comes to, without its trace. -/
def Ran.outcome (ran : Ran V) : Except BuilderError (Answer V) × State V :=
  (ran.answer, ran.state)

/-- What a method finds when it is called: the field of its plan, and a tracker that
tells whether the field has content. -/
structure Machine.Ready (machine : Machine V) (plan : Plan) (state : State V) (cell : Cell V) :
    Prop where
  distinct : state.names.Nodup
  found : state.cell? plan.property.name = some cell
  fits : cell.Fits (storage plan)
  marked : plan.kind = .required →
    state.unset.contains (machine.position plan.property.marker) = cell.content?.isNone
  named : machine.nameAt (machine.position plan.property.marker) = plan.property.baseName

/-! Statements. -/

@[simp] theorem Frame.locals_log (events : Trace V) (frame : Frame V) :
    (frame.log events).locals = frame.locals := rfl

@[simp] theorem Frame.log_nil (frame : Frame V) : frame.log [] = frame := by
  simp [Frame.log]

theorem Frame.log_log (first second : Trace V) (frame : Frame V) :
    (frame.log first).log second = frame.log (first ++ second) := by
  simp [Frame.log]

/-- The flow goes on in this frame, or stops with an error and the frame's state. -/
def Flow.Decides (flow : Flow V) (frame : Frame V) : Except BuilderError Unit → Prop
  | .ok () => ∃ events, flow = .next (frame.log events)
  | .error error => ∃ stopped, flow = .failed error stopped ∧ stopped.state = frame.state

namespace Flow.Decides

variable {flow : Flow V} {frame : Frame V} {verdict : Except BuilderError Unit}

theorem of_log {events : Trace V} (h : flow.Decides (frame.log events) verdict) :
    flow.Decides frame verdict := by
  cases verdict with
  | error error => exact h
  | ok _ =>
      obtain ⟨more, passed⟩ := h
      exact ⟨events ++ more, by rw [passed, Frame.log_log]⟩

theorem leave (h : flow.Decides frame verdict) (locals : Locals V) :
    (flow.leave locals).Decides { frame with locals } verdict := by
  cases verdict with
  | error error =>
      obtain ⟨stopped, rfl, state⟩ := h
      exact ⟨stopped, rfl, state⟩
  | ok _ =>
      obtain ⟨events, rfl⟩ := h
      exact ⟨events, rfl⟩

theorem andThen {next : Frame V → Flow V} {later : Except BuilderError Unit} {last : Frame V}
    (before : flow.Decides frame verdict)
    (after : ∀ events, (next (frame.log events)).Decides (last.log events) later)
    (unchanged : last.state = frame.state) :
    (flow.andThen next).Decides last (do verdict; later) := by
  cases verdict with
  | error error =>
      obtain ⟨stopped, rfl, state⟩ := before
      exact ⟨stopped, rfl, state.trans unchanged.symm⟩
  | ok _ =>
      obtain ⟨events, rfl⟩ := before
      exact (after events).of_log

/-- What never fails decides nothing. -/
theorem andThen_next {next : Frame V → Flow V} {last : Frame V}
    (before : flow.Decides frame verdict)
    (after : ∀ events, next (frame.log events) = .next (last.log events))
    (unchanged : last.state = frame.state) : (flow.andThen next).Decides last verdict := by
  have passes (events : Trace V) : (next (frame.log events)).Decides (last.log events) (.ok ()) :=
    ⟨[], by rw [after, Frame.log_nil]⟩
  have decided := before.andThen passes unchanged
  cases verdict <;> exact decided

end Flow.Decides

variable [BEq V]

section

variable (machine : Machine V) (call : Call V)

theorem runStatements_append (first second : List Emit.Statement) (frame : Frame V) :
    runStatements machine call (first ++ second) frame =
      (runStatements machine call first frame).andThen (runStatements machine call second) := by
  induction first generalizing frame with
  | nil => simp [runStatements, Flow.andThen]
  | cons statement rest ih =>
      simp only [List.cons_append, runStatements]
      cases runStatement machine call statement frame with
      | next frame => exact ih frame
      | returned frame => rfl
      | failed error frame => rfl

theorem runStatements_singleton (statement : Emit.Statement) (frame : Frame V) :
    runStatements machine call [statement] frame = runStatement machine call statement frame := by
  rw [runStatements]
  cases runStatement machine call statement frame <;> simp [Flow.andThen, runStatements]

/-! Statements that decide whether anything is stored. -/

theorem decides_append {first second : List Emit.Statement} {frame middle last : Frame V}
    {verdict later : Except BuilderError Unit}
    (before : (runStatements machine call first frame).Decides middle verdict)
    (after : ∀ events, (runStatements machine call second (middle.log events)).Decides
      (last.log events) later)
    (unchanged : last.state = middle.state) :
    (runStatements machine call (first ++ second) frame).Decides last (do verdict; later) := by
  rw [runStatements_append]
  exact before.andThen after unchanged

theorem decides_convertGiven (subject : Emit.Local) (ty : Ty) (frame : Frame V) :
    (runStatements machine call (convertGiven subject ty) frame).Decides frame (.ok ()) := by
  refine ⟨[], ?_⟩
  unfold convertGiven
  split <;> simp [runStatements, runStatement, Flow.andThen]

theorem decides_runCheck (property : Property) {arguments : List Emit.CheckArgument}
    {frame : Frame V} {state : State V} {values : List V} (hs : frame.state = state)
    (h : arguments.filterMap (frame.locals.content? ·.subject) = values) :
    (runStatements machine call (runCheck property arguments) frame).Decides frame
      (machine.verdict property state values) := by
  subst hs h
  unfold runCheck Machine.verdict
  cases property.check with
  | false => exact ⟨[], by simp [runStatements]⟩
  | true =>
      simp only [ite_true, runStatements_singleton, runStatement, Machine.runCheck]
      cases machine.hook? (property.method .check) with
      | none => exact ⟨[], by simp⟩
      | some check =>
          dsimp only
          cases check frame.state _ with
          | ok _ => exact ⟨_, rfl⟩
          | error error => exact ⟨_, rfl, rfl⟩

/-- The content of an optional value is checked as a local of its own. -/
theorem decides_whenPresent (property : Property) (inner : Ty) (frame : Frame V) :
    (runStatements machine call
        (if property.check then [.whenPresent (runCheck property [⟨.candidate, false, inner⟩])]
          else []) frame).Decides frame
      (machine.verdicts property frame.state
        ((frame.locals.content? .value).toList.map ([·]))) := by
  cases checked : property.check with
  | false =>
      rw [machine.verdicts_of_unchecked checked]
      exact ⟨[], by simp [runStatements]⟩
  | true =>
      simp only [ite_true, runStatements_singleton, runStatement]
      cases frame.locals.content? .value with
      | none => exact ⟨[], by simp⟩
      | some content =>
          have decided : (runStatements machine call
              (runCheck property [⟨.candidate, false, inner⟩])
              (frame.bind [(.candidate, .one content)])).Decides _
                (machine.verdict property frame.state [content]) :=
            decides_runCheck machine call property rfl rfl
          rw [Option.toList_some, List.map_cons, List.map_nil, machine.verdicts_singleton]
          exact decided.leave frame.locals

theorem decides_rejectDuplicate (property : Property) (staged : Bool) {frame : Frame V}
    {cell : Cell V} {key : V} (found : frame.state.cell? property.name = some cell)
    (hk : frame.locals.content? .key = some key) :
    (runStatements machine call [.rejectDuplicate property.name property.baseName staged]
        frame).Decides frame
      (machine.keyVerdict property cell (if staged then frame.staged else .option none) key) := by
  have same : ((frame.state.cell? property.name).any (·.containsKey key) ||
      (staged && frame.staged.containsKey key)) = (cell.containsKey key ||
        (if staged then frame.staged else .option none).containsKey key) := by
    cases staged <;> simp [found, Cell.containsKey]
  rw [runStatements_singleton, runStatement, hk]
  dsimp only
  rw [same, Machine.keyVerdict]
  generalize (cell.containsKey key || _) = present
  cases present with
  | true => exact ⟨frame, rfl, rfl⟩
  | false => exact ⟨[], by simp⟩

/-- An entry is checked before its key is looked up. -/
theorem decides_validateEntry (property : Property) (keyTy valueTy : Ty) (staged : Bool)
    {frame : Frame V} {cell : Cell V} {key value : V}
    (found : frame.state.cell? property.name = some cell)
    (hk : frame.locals.content? .key = some key) (hv : frame.locals.content? .value = some value) :
    (runStatements machine call (validateEntry property keyTy valueTy staged) frame).Decides frame
      (do machine.verdict property frame.state [key, value]
          machine.keyVerdict property cell
            (if staged then frame.staged else .option none) key) := by
  have converted := decides_append machine call
    (decides_convertGiven machine call .key keyTy frame)
    (fun events => decides_convertGiven machine call .value valueTy (frame.log events)) rfl
  have check (events : Trace V) : (runStatements machine call
      (runCheck property [⟨.key, true, keyTy⟩, ⟨.value, true, valueTy⟩])
      (frame.log events)).Decides (frame.log events)
        (machine.verdict property frame.state [key, value]) :=
    decides_runCheck machine call property rfl (by simp [hk, hv])
  exact decides_append machine call (decides_append machine call converted check rfl)
    (fun events => decides_rejectDuplicate machine call property staged found hk) rfl

/-- One round of a batch: the entry is staged if it passes. -/
theorem decides_stageEntry (property : Property) (keyTy valueTy : Ty) {frame : Frame V}
    {cell : Cell V} {key value : V} (found : frame.state.cell? property.name = some cell)
    (hk : frame.locals.content? .key = some key) (hv : frame.locals.content? .value = some value) :
    (runStatements machine call (validateEntry property keyTy valueTy true ++ [.stageEntry])
        frame).Decides { frame with staged := frame.staged.insertEntry key value }
      (do machine.verdict property frame.state [key, value]
          machine.keyVerdict property cell frame.staged key) := by
  have passes := decides_validateEntry machine call property keyTy valueTy true found hk hv
  rw [runStatements_append]
  refine passes.andThen_next (fun events => ?_) rfl
  simp only [runStatements_singleton, runStatement, Frame.locals_log, hk, hv]
  rfl

theorem decides_eachEntry (property : Property) (keyTy valueTy : Ty) {cell : Cell V}
    (items : List (V × V)) {frame : Frame V}
    (found : frame.state.cell? property.name = some cell) :
    (Flow.each (fun (key, value) frame =>
        (runStatements machine call (validateEntry property keyTy valueTy true ++ [.stageEntry])
          ((frame.bind [(.key, .one key), (.value, .one value)]).log [.pulled])).leave frame.locals)
        items frame).Decides { frame with staged := frame.staged.extendEntries items }
      (machine.entriesVerdict property frame.state cell frame.staged items) := by
  induction items generalizing frame with
  | nil => exact ⟨[], by simp [Flow.each]⟩
  | cons item rest ih =>
      obtain ⟨key, value⟩ := item
      let entered := (frame.bind [(.key, .one key), (.value, .one value)]).log [.pulled]
      have staged : (runStatements machine call
          (validateEntry property keyTy valueTy true ++ [.stageEntry]) entered).Decides
            { entered with staged := frame.staged.insertEntry key value }
            (do machine.verdict property frame.state [key, value]
                machine.keyVerdict property cell frame.staged key) :=
        decides_stageEntry machine call property keyTy valueTy found rfl rfl
      have left : Flow.Decides _
          ({ frame with staged := frame.staged.insertEntry key value }.log [.pulled]) _ :=
        staged.leave frame.locals
      have round := left.of_log
      rw [Flow.each, Cell.extendEntries_cons, Machine.entriesVerdict, ← bind_assoc]
      exact round.andThen (fun events => ih found) rfl

theorem decides_eachStaged (property : Property) (ty : Ty) (items : List V) (frame : Frame V) :
    (Flow.each (fun element frame =>
        (runStatements machine call (runCheck property [⟨.element, false, ty⟩])
          (frame.bind [(.element, .one element)])).leave frame.locals) items frame).Decides frame
      (machine.verdicts property frame.state (items.map ([·]))) := by
  induction items generalizing frame with
  | nil => exact ⟨[], by simp [Flow.each]⟩
  | cons element rest ih =>
      have round : (runStatements machine call (runCheck property [⟨.element, false, ty⟩])
          (frame.bind [(.element, .one element)])).Decides _
            (machine.verdict property frame.state [element]) :=
        decides_runCheck machine call property rfl rfl
      rw [Flow.each, List.map_cons, Machine.verdicts]
      exact (round.leave frame.locals).andThen (fun events => ih (frame.log events)) rfl

end

/-! Methods. -/

section

variable {machine : Machine V} {call : Call V} {plan : Plan} {state : State V} {cell : Cell V}

/-- A method that decides first and then stores settles what was decided. -/
theorem outcome_of_decides {method : Emit.Method} {arguments : List (Argument V)}
    {first last : List Emit.Statement} {middle : Frame V} {verdict : Except BuilderError Unit}
    {stored : Cell V} (body : method.body = first ++ last)
    (decides : (runStatements machine call first
      (.ofState state ((method.parameters.map (·.1)).zip arguments))).Decides middle verdict)
    (unchanged : middle.state = state)
    (stores : verdict = .ok () → ∀ events, ∃ frame,
      runStatements machine call last (middle.log events) = .next frame ∧
        frame.state = machine.store plan stored state)
    (outcome : ∀ frame,
      (runOutcome machine call method.outcome frame).outcome = (.ok .builder, frame.state)) :
    (runMethod machine call method arguments state).outcome =
      machine.settle plan state (verdict.map fun _ => stored) := by
  rw [runMethod, body, runStatements_append]
  cases verdict with
  | error error =>
      obtain ⟨stopped, failed, same⟩ := decides
      rw [failed]
      simp [Flow.andThen, Ran.outcome, Machine.settle, Except.map, same, unchanged]
  | ok _ =>
      obtain ⟨events, passed⟩ := decides
      obtain ⟨frame, finished, now⟩ := stores rfl events
      simp only [passed, Flow.andThen, finished, outcome, now, Machine.settle, Except.map]

omit [BEq V] in
@[simp] theorem outcome_checkedOutcome (property : Property) (frame : Frame V) :
    (runOutcome machine call (Emit.checkedOutcome property) frame).outcome =
      (.ok .builder, frame.state) := by
  unfold Emit.checkedOutcome
  split <;> rfl

theorem outcome_valueSetter (ready : machine.Ready plan state cell) {hasDefault : Bool}
    (strategy : plan.strategy = .scalar hasDefault) (value : V) :
    (runMethod machine call (Emit.valueSetter plan.property hasDefault)
      [.one value] state).outcome =
      machine.settle plan state (machine.assigned plan.property state cell (some value)) := by
  have stored := State.update_eq_put ready.distinct ready.found (·.assign (some value))
  have check (events : Trace V) : (runStatements machine call
      (runCheck plan.property [⟨.value, true, plan.property.ty⟩])
      ((Frame.ofState state [(.value, .one value)]).log events)).Decides
        ((Frame.ofState state [(.value, .one value)]).log events)
        (machine.verdict plan.property state [value]) :=
    decides_runCheck machine call plan.property rfl rfl
  have decided := decides_append machine call
    (decides_convertGiven machine call .value plan.property.ty _) check rfl
  rw [Machine.assigned, Option.toList_some, List.map_cons, List.map_nil, Machine.verdicts_singleton]
  refine outcome_of_decides rfl decided rfl (fun _ events => ?_) (outcome_checkedOutcome _)
  cases hasDefault <;> refine ⟨_, rfl, ?_⟩ <;>
    simp [Machine.store, Plan.kind, strategy, Frame.update, Frame.ofState, Frame.log,
      Locals.content?, stored]

theorem outcome_optionalSetter (ready : machine.Ready plan state cell) {inner : Ty}
    (strategy : plan.strategy = .optional inner) (given : Option V) :
    (runMethod machine call (Emit.optionalSetter plan.property inner) [.optional given]
        state).outcome =
      machine.settle plan state (machine.assigned plan.property state cell given) := by
  have stored := State.update_eq_put ready.distinct ready.found (·.assign given)
  have decided : (runStatements machine call (.convert .value (.option inner) ::
      if plan.property.check then
        [.whenPresent (runCheck plan.property [⟨.candidate, false, inner⟩])] else [])
      (.ofState state [(.value, .optional given)])).Decides _ _ :=
    decides_whenPresent machine call plan.property inner _
  refine outcome_of_decides rfl decided rfl (fun _ events => ⟨_, rfl, ?_⟩)
    (outcome_checkedOutcome _)
  rw [machine.store_eq_put (by simp [Plan.kind, strategy])]
  exact stored

theorem runMethod_requiredGetter (ready : machine.Ready plan state cell)
    (required : plan.kind = .required) :
    runMethod machine call (Emit.requiredGetter plan.property) [] state =
      ⟨match cell.content? with
        | some value => .ok (.view (.plain value))
        | none => .error (.unset machine.typeName plan.property.baseName), state, []⟩ := by
  have marked := ready.marked required
  unfold runMethod
  dsimp only [Emit.requiredGetter]
  rw [runStatements_singleton, runStatement]
  dsimp only [Frame.ofState]
  rw [Unset.checkSet, ready.named, marked]
  cases content : cell.content? with
  | none => simp [BuilderError.unset]
  | some value => simp [runOutcome, State.content?, ready.found, content]

/-- Checks of mapped values are those of the setter. -/
theorem outcome_requiredMapper (ready : machine.Ready plan state cell)
    (strategy : plan.strategy = .scalar false) (apply : V → V)
    (getter : call plan.property.getter [] state =
      runMethod machine call (Emit.requiredGetter plan.property) [] state)
    (setter : ∀ value, (call plan.property.setter [.one value] state).outcome =
      machine.settle plan state (machine.assigned plan.property state cell (some value))) :
    (runMethod machine call (Emit.requiredMapper plan.property) [.mapper apply] state).outcome =
      machine.settle plan state (machine.effect plan state cell .map [.mapper apply]) := by
  rw [Machine.effect.eq_def, strategy]
  have required : plan.kind = .required := by simp [Plan.kind, strategy]
  unfold runMethod
  dsimp only [Emit.requiredMapper]
  rw [runStatements_singleton, runStatement]
  dsimp only [Frame.ofState]
  rw [getter, runMethod_requiredGetter ready required]
  cases cell.content? with
  | none => rfl
  | some current =>
      have set := setter (apply current)
      cases plan.property.check <;> exact set

theorem outcome_defaultMapper (ready : machine.Ready plan state cell)
    (strategy : plan.strategy = .scalar true) (apply : V → V)
    (setter : ∀ value, (call plan.property.setter [.one value] state).outcome =
      machine.settle plan state (machine.assigned plan.property state cell (some value))) :
    (runMethod machine call (Emit.defaultMapper plan.property) [.mapper apply] state).outcome =
      machine.settle plan state (machine.effect plan state cell .map [.mapper apply]) := by
  rw [Machine.effect.eq_def, strategy]
  have fits := ready.fits
  unfold runMethod
  dsimp only [Emit.defaultMapper]
  rw [runStatements_singleton, runStatement]
  dsimp only [Frame.ofState]
  rw [State.content?, ready.found]
  cases cell with
  | plain current => exact setter (apply current)
  | _ => simp [storage, strategy, Cell.Fits] at fits

theorem outcome_optionalMapper (ready : machine.Ready plan state cell) {inner : Ty}
    (strategy : plan.strategy = .optional inner) (apply : V → V)
    (setter : ∀ given, (call plan.property.setter [.optional given] state).outcome =
      machine.settle plan state (machine.assigned plan.property state cell given)) :
    (runMethod machine call (Emit.optionalMapper plan.property inner) [.mapper apply]
        state).outcome =
      machine.settle plan state (machine.effect plan state cell .map [.mapper apply]) := by
  rw [Machine.effect.eq_def, strategy]
  unfold runMethod
  dsimp only [Emit.optionalMapper]
  rw [runStatements_singleton, runStatement]
  dsimp only [Frame.ofState]
  rw [State.content?, ready.found, Option.bind_some]
  cases cell.content? with
  | none =>
      have kind : plan.kind ≠ .required := by simp [Plan.kind, strategy]
      dsimp only
      rw [Machine.settle, machine.store_eq_put kind, State.put_self ready.distinct ready.found]
      exact outcome_checkedOutcome _ _
  | some current =>
      have set := setter (some (apply current))
      have answer := congrArg Prod.fst set
      have after := congrArg Prod.snd set
      simp only [Ran.outcome] at answer after
      cases settled : machine.assigned plan.property state cell (some (apply current)) <;>
        simp [Ran.outcome, Locals.mapper?, Frame.log, Frame.after, Machine.settle, settled,
          answer, after]

/-! Methods of collections. -/

theorem outcome_putter (ready : machine.Ready plan state cell) {keyTy valueTy : Ty}
    (strategy : plan.strategy = .map keyTy valueTy) (key value : V) :
    (runMethod machine call (Emit.putter plan.property keyTy valueTy) [.one key, .one value]
        state).outcome =
      machine.settle plan state
        ((machine.entriesVerdict plan.property state cell (.ofStorage (storage plan))
          [(key, value)]).map
          fun _ => cell.extendEntries [(key, value)]) := by
  have stored := State.update_eq_put ready.distinct ready.found (·.insertEntry key value)
  have decided : (runStatements machine call (validateEntry plan.property keyTy valueTy false)
      (.ofState state [(.key, .one key), (.value, .one value)])).Decides _ _ :=
    decides_validateEntry machine call plan.property keyTy valueTy false ready.found rfl rfl
  have unstaged : machine.keyVerdict plan.property cell (.ofStorage (storage plan)) key =
      machine.keyVerdict plan.property cell (.option none) key := by
    simp [Machine.keyVerdict]
  rw [machine.entriesVerdict_singleton, unstaged]
  refine outcome_of_decides rfl decided rfl (fun _ events => ⟨_, rfl, ?_⟩) fun frame => rfl
  rw [machine.store_eq_put (by simp [Plan.kind, strategy]), Cell.extendEntries_cons,
    Cell.extendEntries_nil]
  exact stored

theorem outcome_bulkPutter (ready : machine.Ready plan state cell) {keyTy valueTy : Ty}
    (strategy : plan.strategy = .map keyTy valueTy) (items : List (V × V)) :
    (runMethod machine call (Emit.bulkPutter plan.property keyTy valueTy (storage plan))
        [.entries items] state).outcome =
      machine.settle plan state
        ((machine.entriesVerdict plan.property state cell (.ofStorage (storage plan)) items).map
          fun _ => cell.extendEntries items) := by
  let opened : Frame V := { Frame.ofState state [(.entries, .entries items)] with
    staged := .ofStorage (storage plan) }
  have decided : (runStatements machine call [.openStaged (storage plan),
      .eachEntry (validateEntry plan.property keyTy valueTy true ++ [.stageEntry])]
      (.ofState state [(.entries, .entries items)])).Decides
        { opened with staged := opened.staged.extendEntries items }
        (machine.entriesVerdict plan.property state cell (.ofStorage (storage plan)) items) := by
    rw [runStatements, runStatement]
    dsimp only [Flow.andThen]
    rw [runStatements_singleton, runStatement]
    exact decides_eachEntry machine call plan.property keyTy valueTy items ready.found
  refine outcome_of_decides rfl decided rfl (fun passed events => ⟨_, rfl, ?_⟩) fun frame => rfl
  have holds := Cell.holdsEntries_of_map (V := V) strategy (Cell.fits_ofStorage_of_map strategy)
  obtain ⟨_, _, _, apart⟩ := (Machine.entriesVerdict_eq_ok_iff holds).1 passed
  rw [machine.store_eq_put (by simp [Plan.kind, strategy]), ← Cell.extend_staged holds apart cell]
  exact State.update_eq_put ready.distinct ready.found
    (·.extend ((Cell.ofStorage (storage plan)).extendEntries items))

theorem outcome_entryRemover (ready : machine.Ready plan state cell) {keyTy valueTy : Ty}
    (strategy : plan.strategy = .map keyTy valueTy) (key : V) :
    (runMethod machine call (Emit.entryRemover plan.property keyTy) [.one key] state).outcome =
      machine.settle plan state (machine.effect plan state cell .remove [.one key]) := by
  rw [Machine.effect.eq_def, strategy]
  have runs : runStatement machine call
      (.removeEntry plan.property.name plan.property.baseName)
      (.ofState state [(.key, .one key)]) =
        (cell.withoutKey? key).elim
          (.failed (.missingKey plan.property.baseName (machine.debug key))
            (.ofState state [(.key, .one key)]))
          fun rest => .next (.ofState (state.put plan.property.name rest) [(.key, .one key)]) := by
    simp only [runStatement, Frame.ofState, Locals.content?, List.lookup_cons_self, ready.found,
      Option.bind_some]
    cases cell.withoutKey? key <;> rfl
  unfold runMethod
  simp only [Emit.entryRemover, List.map_cons, List.map_nil, List.zip_cons_cons, List.zip_nil_right]
  rw [runStatements_singleton, runs]
  cases cell.withoutKey? key with
  | none => rfl
  | some rest =>
      dsimp only [Machine.settle]
      rw [machine.store_eq_put (by simp [Plan.kind, strategy])]
      rfl

theorem outcome_bulkAdder (ready : machine.Ready plan state cell) (element : Ty)
    (kind : plan.kind ≠ .required) (items : List V) :
    (runMethod machine call (Emit.bulkAdder plan.property element)
      [.elements items] state).outcome =
      machine.settle plan state ((machine.verdicts plan.property state (items.map ([·]))).map
        fun _ => cell.extendElements items) := by
  have stored := State.update_eq_put ready.distinct ready.found (·.extendElements items)
  have store := machine.store_eq_put kind (cell.extendElements items) state
  cases checked : plan.property.check with
  | false =>
      have body : (Emit.bulkAdder plan.property element).body =
          [] ++ [.extendElements plan.property.name element] := by
        simp [Emit.bulkAdder, checked]
      have decided : (runStatements machine call [] (.ofState state
          [(.elements, .elements items)])).Decides (.ofState state [(.elements, .elements items)])
            (machine.verdicts plan.property state (items.map ([·]))) := by
        rw [machine.verdicts_of_unchecked checked]
        exact ⟨[], rfl⟩
      exact outcome_of_decides body decided rfl (fun _ events => ⟨_, rfl, stored.trans store.symm⟩)
        (outcome_checkedOutcome _)
  | true =>
      let collected : Frame V := { Frame.ofState state [(.elements, .elements items)] with
        staged := .vector items }
      have body : (Emit.bulkAdder plan.property element).body =
          [.collectStaged element,
            .eachStaged (runCheck plan.property [⟨.element, false, element⟩])] ++
            [.commitStaged plan.property.name] := by
        simp [Emit.bulkAdder, checked]
      have decided : (runStatements machine call [.collectStaged element,
          .eachStaged (runCheck plan.property [⟨.element, false, element⟩])]
          (.ofState state [(.elements, .elements items)])).Decides collected
            (machine.verdicts plan.property state (items.map ([·]))) := by
        rw [runStatements, runStatement]
        dsimp only [Flow.andThen]
        rw [runStatements_singleton, runStatement]
        exact (decides_eachStaged machine call plan.property element items
          (collected.log (items.map fun _ => .pulled))).of_log
      refine outcome_of_decides body decided rfl (fun _ events => ⟨_, rfl, ?_⟩)
        (outcome_checkedOutcome _)
      rw [store, ← stored]
      change state.update plan.property.name (·.extend (.vector items)) = _
      simp [Cell.extend, Cell.entries, Cell.elements]

theorem outcome_adder (ready : machine.Ready plan state cell) (ty : Ty) (doc : String)
    (kind : plan.kind ≠ .required) (element : V) {store : Emit.Statement} {change : Cell V → Cell V}
    (stores : ∀ frame : Frame V, frame.locals.content? .element = some element →
      runStatement machine call store frame = .next (frame.update plan.property.name change)) :
    (runMethod machine call (Emit.adder plan.property ty doc store) [.one element] state).outcome =
      machine.settle plan state ((machine.verdict plan.property state [element]).map
        fun _ => change cell) := by
  have stored := State.update_eq_put ready.distinct ready.found change
  have check (events : Trace V) : (runStatements machine call
      (runCheck plan.property [⟨.element, true, ty⟩])
      ((Frame.ofState state [(.element, .one element)]).log events)).Decides
        ((Frame.ofState state [(.element, .one element)]).log events)
        (machine.verdict plan.property state [element]) :=
    decides_runCheck machine call plan.property rfl rfl
  have decided := decides_append machine call
    (decides_convertGiven machine call .element ty _) check rfl
  refine outcome_of_decides rfl decided rfl (fun _ events => ?_) (outcome_checkedOutcome _)
  rw [runStatements_singleton, stores _ rfl, machine.store_eq_put kind]
  exact ⟨_, rfl, stored⟩

theorem runStatement_insertElement (element : V) (frame : Frame V)
    (h : frame.locals.content? .element = some element) :
    runStatement machine call (.insertElement plan.property.name) frame =
      .next (frame.update plan.property.name (·.insertElement element)) := by
  simp only [runStatement, h]

theorem runStatement_pushElement (element : V) (frame : Frame V)
    (h : frame.locals.content? .element = some element) :
    runStatement machine call (.pushElement plan.property.name) frame =
      .next (frame.update plan.property.name (·.push element)) := by
  simp only [runStatement, h]

/-- Methods that take nothing in are not checked. -/
theorem outcome_of_stores (ready : machine.Ready plan state cell) (kind : plan.kind ≠ .required)
    {method : Emit.Method} {arguments : List (Argument V)} {statement : Emit.Statement}
    {change : Cell V → Cell V} (body : method.body = [statement])
    (stores : runStatement machine call statement
        (.ofState state ((method.parameters.map (·.1)).zip arguments)) =
      .next (.ofState (state.update plan.property.name change)
        ((method.parameters.map (·.1)).zip arguments)))
    (outcome : method.outcome = .builder) :
    (runMethod machine call method arguments state).outcome =
      machine.settle plan state (.ok (change cell)) := by
  have stored := State.update_eq_put ready.distinct ready.found change
  rw [runMethod, body, runStatements_singleton]
  rw [stores, outcome, stored, Machine.settle, machine.store_eq_put kind]
  rfl

end

/-! Calls by name. -/

section

variable {machine : Machine V} {plan : Plan} {state : State V} {cell : Cell V}

omit [BEq V] in
theorem find?_methods {method : Emit.Method} (mem : method ∈ methods plan) :
    (methods plan).find? (·.name == method.name) = some method := by
  obtain ⟨before, after, eq⟩ := List.append_of_mem mem
  have distinct := plan.nodup_names_methods
  rw [eq, List.map_append, List.map_cons, List.nodup_append] at distinct
  rw [eq, List.find?_append, List.find?_eq_none.2, Option.none_or, List.find?_cons_of_pos]
  · simp
  · intro other earlier
    simpa using distinct.2.2 other.name (List.mem_map_of_mem earlier) method.name List.mem_cons_self

theorem callWithin_eq_runMethod {method : Emit.Method} (mem : method ∈ methods plan) (depth : Nat)
    (arguments : List (Argument V)) (state : State V) :
    machine.callWithin (methods plan) (depth + 1) method.name arguments state =
      runMethod machine (machine.callWithin (methods plan) depth) method arguments state := by
  rw [Machine.callWithin]
  dsimp only
  rw [find?_methods mem]

/-- Calls of the methods named by verbs, with what their parameters take. -/
inductive Called (plan : Plan) : Emit.Method → Verb → List (Argument V) → Prop where
  | setValue {hasDefault : Bool} (strategy : plan.strategy = .scalar hasDefault) (value : V) :
      Called plan (Emit.valueSetter plan.property hasDefault) .set [.one value]
  | mapDefault (strategy : plan.strategy = .scalar true) (apply : V → V) :
      Called plan (Emit.defaultMapper plan.property) .map [.mapper apply]
  | mapRequired (strategy : plan.strategy = .scalar false) (apply : V → V) :
      Called plan (Emit.requiredMapper plan.property) .map [.mapper apply]
  | setOptional {inner : Ty} (strategy : plan.strategy = .optional inner) (given : Option V) :
      Called plan (Emit.optionalSetter plan.property inner) .set [.optional given]
  | mapOptional {inner : Ty} (strategy : plan.strategy = .optional inner) (apply : V → V) :
      Called plan (Emit.optionalMapper plan.property inner) .map [.mapper apply]
  | put {keyTy valueTy : Ty} (strategy : plan.strategy = .map keyTy valueTy) (key value : V) :
      Called plan (Emit.putter plan.property keyTy valueTy) .put [.one key, .one value]
  | putAll {keyTy valueTy : Ty} (strategy : plan.strategy = .map keyTy valueTy)
      (items : List (V × V)) :
      Called plan (Emit.bulkPutter plan.property keyTy valueTy (storage plan)) .putAll
        [.entries items]
  | removeEntry {keyTy valueTy : Ty} (strategy : plan.strategy = .map keyTy valueTy) (key : V) :
      Called plan (Emit.entryRemover plan.property keyTy) .remove [.one key]
  | clearMap {keyTy valueTy : Ty} (strategy : plan.strategy = .map keyTy valueTy)
      (items : String) : Called plan (Emit.emptier plan.property items) .clear []
  | addToSet {ty : Ty} (strategy : plan.strategy = .set ty) (doc : String) (element : V) :
      Called plan (Emit.adder plan.property ty doc (.insertElement plan.property.name)) .add
        [.one element]
  | addAllToSet {ty : Ty} (strategy : plan.strategy = .set ty) (items : List V) :
      Called plan (Emit.bulkAdder plan.property ty) .addAll [.elements items]
  | removeFromSet {ty : Ty} (strategy : plan.strategy = .set ty) (doc : String) (element : V) :
      Called plan (Emit.elementRemover plan.property ty doc (.removeElement plan.property.name))
        .remove [.one element]
  | clearSet {ty : Ty} (strategy : plan.strategy = .set ty) (items : String) :
      Called plan (Emit.emptier plan.property items) .clear []
  | addToList {ty : Ty} (strategy : plan.strategy = .list ty) (doc : String) (element : V) :
      Called plan (Emit.adder plan.property ty doc (.pushElement plan.property.name)) .add
        [.one element]
  | addAllToList {ty : Ty} (strategy : plan.strategy = .list ty) (items : List V) :
      Called plan (Emit.bulkAdder plan.property ty) .addAll [.elements items]
  | removeFromList {ty : Ty} (strategy : plan.strategy = .list ty) (doc : String) (element : V) :
      Called plan (Emit.elementRemover plan.property ty doc (.removeFirst plan.property.name))
        .remove [.one element]
  | clearList {ty : Ty} (strategy : plan.strategy = .list ty) (items : String) :
      Called plan (Emit.emptier plan.property items) .clear []

namespace Called

variable {method : Emit.Method} {verb : Verb} {arguments : List (Argument V)}

omit [BEq V]

theorem of_mem (mem : method ∈ methods plan) (named : method.name = plan.property.method verb)
    (accepted : Argument.AcceptedBy method arguments) : Called plan method verb arguments := by
  cases Emit.MethodOf.of_mem mem with
  | setValue strategy =>
      obtain ⟨rfl, -⟩ := MethodName.action.inj named
      obtain ⟨_, fits, rfl⟩ := (Argument.acceptedBy_one rfl).1 accepted
      obtain ⟨value, rfl⟩ := Argument.fits_given.1 fits
      exact .setValue strategy value
  | mapDefault strategy =>
      obtain ⟨rfl, -⟩ := MethodName.action.inj named
      obtain ⟨_, fits, rfl⟩ := (Argument.acceptedBy_one rfl).1 accepted
      obtain ⟨apply, rfl⟩ := Argument.fits_mapper.1 fits
      exact .mapDefault strategy apply
  | mapRequired strategy =>
      obtain ⟨rfl, -⟩ := MethodName.action.inj named
      obtain ⟨_, fits, rfl⟩ := (Argument.acceptedBy_one rfl).1 accepted
      obtain ⟨apply, rfl⟩ := Argument.fits_mapper.1 fits
      exact .mapRequired strategy apply
  | setOptional strategy =>
      obtain ⟨rfl, -⟩ := MethodName.action.inj named
      obtain ⟨_, fits, rfl⟩ := (Argument.acceptedBy_one rfl).1 accepted
      obtain ⟨given, rfl⟩ := Argument.fits_givenOptional.1 fits
      exact .setOptional strategy given
  | mapOptional strategy =>
      obtain ⟨rfl, -⟩ := MethodName.action.inj named
      obtain ⟨_, fits, rfl⟩ := (Argument.acceptedBy_one rfl).1 accepted
      obtain ⟨apply, rfl⟩ := Argument.fits_mapper.1 fits
      exact .mapOptional strategy apply
  | put strategy =>
      obtain ⟨rfl, -⟩ := MethodName.action.inj named
      obtain ⟨_, _, hk, hv, rfl⟩ := (Argument.acceptedBy_two rfl).1 accepted
      obtain ⟨key, rfl⟩ := Argument.fits_given.1 hk
      obtain ⟨value, rfl⟩ := Argument.fits_given.1 hv
      exact .put strategy key value
  | putAll strategy =>
      obtain ⟨rfl, -⟩ := MethodName.action.inj named
      obtain ⟨_, fits, rfl⟩ := (Argument.acceptedBy_one rfl).1 accepted
      obtain ⟨items, rfl⟩ := Argument.fits_entries.1 fits
      exact .putAll strategy items
  | removeEntry strategy =>
      obtain ⟨rfl, -⟩ := MethodName.action.inj named
      obtain ⟨_, fits, rfl⟩ := (Argument.acceptedBy_one rfl).1 accepted
      obtain ⟨key, rfl⟩ := Argument.fits_borrowed.1 fits
      exact .removeEntry strategy key
  | clearMap strategy items =>
      obtain ⟨rfl, -⟩ := MethodName.action.inj named
      obtain rfl := (Argument.acceptedBy_nil rfl).1 accepted
      exact .clearMap strategy items
  | addToSet strategy doc =>
      obtain ⟨rfl, -⟩ := MethodName.action.inj named
      obtain ⟨_, fits, rfl⟩ := (Argument.acceptedBy_one rfl).1 accepted
      obtain ⟨element, rfl⟩ := Argument.fits_given.1 fits
      exact .addToSet strategy doc element
  | addAllToSet strategy =>
      obtain ⟨rfl, -⟩ := MethodName.action.inj named
      obtain ⟨_, fits, rfl⟩ := (Argument.acceptedBy_one rfl).1 accepted
      obtain ⟨items, rfl⟩ := Argument.fits_elements.1 fits
      exact .addAllToSet strategy items
  | removeFromSet strategy doc =>
      obtain ⟨rfl, -⟩ := MethodName.action.inj named
      obtain ⟨_, fits, rfl⟩ := (Argument.acceptedBy_one rfl).1 accepted
      obtain ⟨element, rfl⟩ := Argument.fits_borrowed.1 fits
      exact .removeFromSet strategy doc element
  | clearSet strategy items =>
      obtain ⟨rfl, -⟩ := MethodName.action.inj named
      obtain rfl := (Argument.acceptedBy_nil rfl).1 accepted
      exact .clearSet strategy items
  | addToList strategy doc =>
      obtain ⟨rfl, -⟩ := MethodName.action.inj named
      obtain ⟨_, fits, rfl⟩ := (Argument.acceptedBy_one rfl).1 accepted
      obtain ⟨element, rfl⟩ := Argument.fits_given.1 fits
      exact .addToList strategy doc element
  | addAllToList strategy =>
      obtain ⟨rfl, -⟩ := MethodName.action.inj named
      obtain ⟨_, fits, rfl⟩ := (Argument.acceptedBy_one rfl).1 accepted
      obtain ⟨items, rfl⟩ := Argument.fits_elements.1 fits
      exact .addAllToList strategy items
  | removeFromList strategy doc =>
      obtain ⟨rfl, -⟩ := MethodName.action.inj named
      obtain ⟨_, fits, rfl⟩ := (Argument.acceptedBy_one rfl).1 accepted
      obtain ⟨element, rfl⟩ := Argument.fits_borrowed.1 fits
      exact .removeFromList strategy doc element
  | clearList strategy items =>
      obtain ⟨rfl, -⟩ := MethodName.action.inj named
      obtain rfl := (Argument.acceptedBy_nil rfl).1 accepted
      exact .clearList strategy items
  | getDefault | getRequired | getOptional | view => cases named

end Called

theorem outcome_valueSetter_within (ready : machine.Ready plan state cell) {hasDefault : Bool}
    (strategy : plan.strategy = .scalar hasDefault) (value : V) :
    (machine.callWithin (methods plan) 1 plan.property.setter [.one value] state).outcome =
      machine.settle plan state (machine.assigned plan.property state cell (some value)) := by
  exact (congrArg Ran.outcome
    (callWithin_eq_runMethod (Emit.valueSetter_mem strategy) 0 [.one value] state)).trans
      (outcome_valueSetter ready strategy value)

theorem outcome_optionalSetter_within (ready : machine.Ready plan state cell) {inner : Ty}
    (strategy : plan.strategy = .optional inner) (given : Option V) :
    (machine.callWithin (methods plan) 1 plan.property.setter [.optional given] state).outcome =
      machine.settle plan state (machine.assigned plan.property state cell given) := by
  exact (congrArg Ran.outcome
    (callWithin_eq_runMethod (Emit.optionalSetter_mem strategy) 0 [.optional given] state)).trans
      (outcome_optionalSetter ready strategy given)

/-- A call of any method that changes something settles its effect. -/
theorem outcome_call (ready : machine.Ready plan state cell) {method : Emit.Method}
    (mem : method ∈ methods plan) {verb : Verb} (named : method.name = plan.property.method verb)
    {arguments : List (Argument V)} (accepted : Argument.AcceptedBy method arguments) :
    (machine.call (Emit.fragments plan) method.name arguments state).outcome =
      machine.settle plan state (machine.effect plan state cell verb arguments) := by
  change Ran.outcome (machine.callWithin (methods plan) 2 method.name arguments state) = _
  rw [callWithin_eq_runMethod mem]
  have kind {strategy : Strategy} (named : plan.strategy = strategy)
      (collection : ∀ hasDefault, strategy ≠ .scalar hasDefault) : plan.kind ≠ .required := by
    intro required
    cases strategy <;> simp_all [Plan.kind]
  cases Called.of_mem mem named accepted with
  | setValue strategy value =>
      rw [outcome_valueSetter ready strategy, Machine.effect.eq_def, strategy]
  | mapDefault strategy apply =>
      exact outcome_defaultMapper ready strategy apply (outcome_valueSetter_within ready strategy)
  | mapRequired strategy apply =>
      have getter : Emit.requiredGetter plan.property ∈ methods plan := by
        simp [methods, strategy, Emit.valueMethods]
      exact outcome_requiredMapper ready strategy apply
        (callWithin_eq_runMethod getter 0 [] state) (outcome_valueSetter_within ready strategy)
  | setOptional strategy given =>
      rw [outcome_optionalSetter ready strategy, Machine.effect.eq_def, strategy]
  | mapOptional strategy apply =>
      exact outcome_optionalMapper ready strategy apply
        (outcome_optionalSetter_within ready strategy)
  | put strategy key value =>
      rw [outcome_putter ready strategy, Machine.effect.eq_def, strategy]
  | putAll strategy items =>
      rw [outcome_bulkPutter ready strategy, Machine.effect.eq_def, strategy]
  | removeEntry strategy key => exact outcome_entryRemover ready strategy key
  | addToSet strategy doc element =>
      rw [outcome_adder ready _ _ (kind strategy (by simp)) element
        (runStatement_insertElement element), Machine.effect.eq_def, strategy,
        Cell.insertElement_eq_extendElements strategy ready.fits]
  | addToList strategy doc element =>
      rw [outcome_adder ready _ _ (kind strategy (by simp)) element
        (runStatement_pushElement element), Machine.effect.eq_def, strategy,
        Cell.push_eq_extendElements strategy ready.fits]
  | addAllToSet strategy items | addAllToList strategy items =>
      rw [outcome_bulkAdder ready _ (kind strategy (by simp)), Machine.effect.eq_def, strategy]
  | removeFromSet strategy doc element | removeFromList strategy doc element =>
      rw [outcome_of_stores ready (kind strategy (by simp)) rfl rfl rfl, Machine.effect.eq_def,
        strategy]
  | clearMap strategy items | clearSet strategy items | clearList strategy items =>
      rw [outcome_of_stores ready (kind strategy (by simp)) rfl rfl rfl, Machine.effect.eq_def,
        strategy]

/-- How a call ends whose effect is this. -/
inductive Machine.Settles (machine : Machine V) (plan : Plan) (state : State V) (ran : Ran V) :
    Except BuilderError (Cell V) → Prop where
  | refused {error : BuilderError} (answer : ran.answer = .error error)
      (unchanged : ran.state = state) : machine.Settles plan state ran (.error error)
  | stored {after : Cell V} (answer : ran.answer = .ok .builder)
      (stored : ran.state = machine.store plan after state) :
      machine.Settles plan state ran (.ok after)

theorem settles_call (ready : machine.Ready plan state cell) {method : Emit.Method}
    (mem : method ∈ methods plan) {verb : Verb} (named : method.name = plan.property.method verb)
    {arguments : List (Argument V)} (accepted : Argument.AcceptedBy method arguments) :
    machine.Settles plan state (machine.call (Emit.fragments plan) method.name arguments state)
      (machine.effect plan state cell verb arguments) := by
  have outcome := outcome_call ready mem named accepted
  generalize machine.effect plan state cell verb arguments = effect at outcome ⊢
  obtain ⟨answer, final⟩ := Prod.mk.inj outcome
  cases effect with
  | error error => exact .refused answer final
  | ok after => exact .stored answer final

/-- What a getter answers: the cell, or the content of a required one. -/
def Machine.viewed (machine : Machine V) (plan : Plan) (cell : Cell V) :
    Except BuilderError (Answer V) :=
  match plan.kind, cell.content? with
  | .required, some value => .ok (.view (.plain value))
  | .required, none => .error (.unset machine.typeName plan.property.baseName)
  | _, _ => .ok (.view cell)

omit [BEq V] in
theorem viewed_eq_view (kind : plan.kind ≠ .required) :
    machine.viewed plan cell = .ok (.view cell) := by
  unfold Machine.viewed
  split <;> simp_all

theorem runMethod_of_view {call : Call V} (ready : machine.Ready plan state cell)
    {method : Emit.Method} (body : method.body = [])
    (outcome : method.outcome = .reference plan.property.name ∨
      method.outcome = .optionalReference plan.property.name) (arguments : List (Argument V)) :
    runMethod machine call method arguments state = ⟨.ok (.view cell), state, []⟩ := by
  rw [runMethod, body, runStatements]
  rcases outcome with outcome | outcome <;>
    simp [outcome, runOutcome, Frame.ofState, ready.found]

/-- Getters change nothing. -/
theorem call_getter (ready : machine.Ready plan state cell) :
    machine.call (Emit.fragments plan) plan.property.getter [] state =
      ⟨machine.viewed plan cell, state, []⟩ := by
  have run (method : Emit.Method) (mem : method ∈ methods plan)
      (named : method.name = plan.property.getter) :
      machine.call (Emit.fragments plan) plan.property.getter [] state =
        runMethod machine (machine.callWithin (methods plan) 1) method [] state := by
    rw [← named]
    exact callWithin_eq_runMethod mem 1 [] state
  have view (method : Emit.Method) (mem : method ∈ methods plan)
      (named : method.name = plan.property.getter) (kind : plan.kind ≠ .required)
      (body : method.body = [])
      (outcome : method.outcome = .reference plan.property.name ∨
        method.outcome = .optionalReference plan.property.name) :
      machine.call (Emit.fragments plan) plan.property.getter [] state =
        ⟨machine.viewed plan cell, state, []⟩ := by
    rw [run method mem named, runMethod_of_view ready body outcome, viewed_eq_view kind]
  cases strategy : plan.strategy with
  | scalar hasDefault =>
      cases hasDefault with
      | true =>
          exact view (Emit.defaultGetter plan.property)
            (by simp [methods, strategy, Emit.valueMethods]) rfl (by simp [Plan.kind, strategy])
            rfl (.inl rfl)
      | false =>
          have required : plan.kind = .required := by simp [Plan.kind, strategy]
          rw [run (Emit.requiredGetter plan.property)
            (by simp [methods, strategy, Emit.valueMethods]) rfl,
            runMethod_requiredGetter ready required, Machine.viewed, required]
          cases cell.content? <;> rfl
  | optional inner =>
      exact view (Emit.optionalGetter plan.property inner)
        (by simp [methods, strategy, Emit.optionalMethods]) rfl (by simp [Plan.kind, strategy])
        rfl (.inr rfl)
  | map key value =>
      exact view (Emit.viewer plan.property " in insertion order" (.reference (storage plan)))
        (by simp [methods, strategy, Emit.mapMethods]) rfl (by simp [Plan.kind, strategy])
        rfl (.inl rfl)
  | set element =>
      exact view (Emit.viewer plan.property "" (.reference (storage plan)))
        (by simp [methods, strategy, Emit.setMethods]) rfl (by simp [Plan.kind, strategy])
        rfl (.inl rfl)
  | list element =>
      exact view (Emit.viewer plan.property "" (.slice element))
        (by simp [methods, strategy, Emit.listMethods]) rfl (by simp [Plan.kind, strategy])
        rfl (.inl rfl)

omit [BEq V] in
/-- Every method is a getter without parameters or belongs to a verb. -/
theorem name_of_mem_methods {method : Emit.Method} (mem : method ∈ methods plan) :
    (method.name = plan.property.getter ∧ method.parameters = []) ∨
      ∃ verb, method.name = plan.property.method verb := by
  cases Emit.MethodOf.of_mem mem with
  | getDefault | getRequired | getOptional | view => exact .inl ⟨rfl, rfl⟩
  | _ => exact .inr ⟨_, rfl⟩

end
end StructBuilder.Run
