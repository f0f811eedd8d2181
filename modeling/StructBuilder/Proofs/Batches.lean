import StructBuilder.Proofs.Independence
import StructBuilder.Proofs.Review

/-!
One call for many items against many calls for one item each. A batch is reviewed in the
state before the call: if every item passes, all are stored behind what was there, and if
not, nothing is stored and the first refusal is reported. Separate calls are reviewed in
the states between them, which hold the earlier items already; if hooks look at nothing but
the item, both reviews say the same.
-/

namespace StructBuilder.Run

open Emit (methods storage)

variable {V : Type} [BEq V] {machine : Machine V} {plans : List Plan} {plan : Plan}
  {state : State V} {cell : Cell V}

/-! Traces of bulk methods. -/

omit [BEq V] in
theorem trace_checkedOutcome (call : Call V) (property : Property) (frame : Frame V) :
    (runOutcome machine call (Emit.checkedOutcome property) frame).trace = frame.trace := by
  unfold Emit.checkedOutcome
  split <;> rfl

theorem trace_runMethod (call : Call V) {method : Emit.Method}
    (silent : ∀ frame, (runOutcome machine call method.outcome frame).trace = frame.trace)
    (arguments : List (Argument V)) (state : State V) :
    (runMethod machine call method arguments state).trace =
      (runStatements machine call method.body
        (.ofState state ((method.parameters.map (·.1)).zip arguments))).trace := by
  unfold runMethod
  dsimp only
  cases runStatements machine call method.body _ with
  | next frame => exact silent frame
  | returned frame => rfl
  | failed error frame => rfl

/-- Entries are taken one by one, each with the call of its hook. -/
theorem trace_bulkPutter (call : Call V) {property : Property} {keyTy valueTy : Ty}
    (storage : Emit.Storage) (found : state.cell? property.name = some cell)
    (items : List (V × V)) :
    (runMethod machine call (Emit.bulkPutter property keyTy valueTy storage) [.entries items]
        state).trace =
      (review (machine.stagedVerdict property state cell (.ofStorage storage)) items).1.flatMap
        fun (key, value) => .pulled :: machine.asked property [key, value] := by
  let opened : Frame V := { Frame.ofState state [(.entries, .entries items)] with
    staged := .ofStorage storage }
  have opens : opened.state.cell? property.name = some cell := found
  have looped := trace_eachEntry machine call property keyTy valueTy items opens
  have body : (Emit.bulkPutter property keyTy valueTy storage).body =
      [.openStaged storage, .eachEntry (Emit.validateEntry property keyTy valueTy true ++
        [.stageEntry])] ++ [.commitStaged property.name] := rfl
  rw [trace_runMethod call (fun _ => rfl), body, runStatements_append,
    Flow.trace_andThen _ (fun _ => rfl), runStatements, runStatement]
  dsimp only [Flow.andThen]
  rw [runStatements_singleton, runStatement]
  exact looped

/-- Elements are all taken before the first of them is shown to the hook. -/
theorem trace_bulkAdder (call : Call V) (property : Property) (ty : Ty) (items : List V) :
    (runMethod machine call (Emit.bulkAdder property ty) [.elements items] state).trace =
      items.map (fun _ => .pulled) ++
        (review (machine.elementVerdict property state) items).1.flatMap
          fun element => machine.asked property [element] := by
  rw [trace_runMethod call (trace_checkedOutcome call property)]
  cases checked : property.check with
  | false =>
      have silent : (fun element => machine.asked property [element]) = fun _ => [] := by
        funext element
        simp [Machine.asked, checked]
      simp [Emit.bulkAdder, checked, silent, runStatements_singleton, runStatement, Flow.trace,
        Frame.update, Frame.log, Frame.ofState, Locals.elements]
  | true =>
      have body : (Emit.bulkAdder property ty).body =
          [.collectStaged ty, .eachStaged (Emit.runCheck property [⟨.element, false, ty⟩])] ++
            [.commitStaged property.name] := by
        simp [Emit.bulkAdder, checked]
      rw [body, runStatements_append, Flow.trace_andThen _ (fun _ => rfl), runStatements,
        runStatement]
      dsimp only [Flow.andThen]
      rw [runStatements_singleton, runStatement]
      exact trace_eachStaged machine call property ty items _

/-! Judged batches. -/

section

variable {α : Type} {judge : List α → α → Except BuilderError Unit} {items : List α}

/-- A batch is stored if its judge admits it. If not, the error is that of the first refusal,
nothing is stored, and no item behind it plays a part. -/
structure Machine.Judged (machine : Machine V) (plan : Plan) (state : State V)
    (judge : List α → α → Except BuilderError Unit) (items : List α) (events : List α → Trace V)
    (Holds : Cell V → Prop) (ran : Ran V) : Prop where
  stored : Admits judge items → ran.answer = .ok .builder ∧ ran.trace = events items ∧
    ∃ after, ran.state = state.put plan.property.name after ∧ after.Fits (storage plan) ∧
      Holds after
  refused : ∀ ⦃earlier item error⦄, RefusesAt judge items earlier item error →
    ran.answer = .error error ∧ ran.state = state ∧ ran.trace = events (earlier ++ [item])
  decided : Admits judge items ∨ ∃ earlier item error, RefusesAt judge items earlier item error

omit [BEq V] in
theorem judged_of_settles (kind : plan.kind ≠ .required) {ran : Ran V} {after : Cell V}
    {events : List α → Trace V} {Holds : Cell V → Prop}
    (settles : machine.Settles plan state ran ((review judge items).2.map fun _ => after))
    (trace : ran.trace = events (review judge items).1) (fits : after.Fits (storage plan))
    (holds : Admits judge items → Holds after) :
    machine.Judged plan state judge items events Holds ran where
  stored admits := by
    rw [review_of_admits admits] at settles trace
    cases settles with
    | stored answer stored =>
        rw [machine.store_eq_put kind] at stored
        exact ⟨answer, trace, after, stored, fits, holds admits⟩
  refused earlier item error refuses := by
    rw [review_of_refusesAt refuses] at settles trace
    cases settles with
    | refused answer unchanged => exact ⟨answer, unchanged, trace⟩
  decided := admits_or_refusesAt judge items

end

/-! Separate calls. -/

/-- What is said against something, if it is refused. -/
def refusal? {ε α : Type} : Except ε α → Option ε
  | .ok _ => none
  | .error error => some error

/-- The error of the first call that failed. -/
def firstError (answers : List (String × Except BuilderError (Answer V))) : Option BuilderError :=
  answers.findSome? (refusal? ·.2)

/-- A call is as good as other calls in a row: it succeeds if and only if they all do, and comes
to the same state then; otherwise it fails like the first of them that fails. -/
structure Machine.Repeats (machine : Machine V) (singles : List (Operation V)) (state : State V)
    (ran : Ran V) : Prop where
  succeeds : ran.answer.isOk = true ↔
    ∀ answer ∈ (machine.operate singles state).1, answer.2.isOk = true
  final : ran.answer.isOk = true → (machine.operate singles state).2 = ran.state
  fails : ∀ error, ran.answer = .error error →
    firstError (machine.operate singles state).1 = some error

theorem refusal?_eq_none_iff {ε α : Type} {result : Except ε α} :
    refusal? result = none ↔ result.isOk = true := by
  cases result <;> simp [refusal?, Except.isOk, Except.toBool]

omit [BEq V] in
theorem firstError_eq_none_iff {answers : List (String × Except BuilderError (Answer V))} :
    firstError answers = none ↔ ∀ answer ∈ answers, answer.2.isOk = true := by
  simp only [firstError, List.findSome?_eq_none_iff, refusal?_eq_none_iff]

omit [BEq V] in
theorem State.put_put (field : String) (cell after : Cell V) (state : State V) :
    (state.put field cell).put field after = state.put field after := by
  simp only [State.put, State.update, List.map_map, State.mk.injEq, and_true]
  refine List.map_congr_left fun entry _ => ?_
  dsimp only [Function.comp_apply]
  split <;> rfl

section

variable {α : Type} {single : α → Operation V}
  {judge : Cell V → List α → α → Except BuilderError Unit} {grow : Cell V → List α → Cell V}

/-- Separate calls judge an item, and store it, as a batch would that begins with it. -/
structure Machine.Piecewise (machine : Machine V) (plans : List Plan) (plan : Plan)
    (single : α → Operation V) (judge : Cell V → List α → α → Except BuilderError Unit)
    (grow : Cell V → List α → Cell V) : Prop where
  offered : ∀ item, (single item).Offered plans
  settles : ∀ ⦃state cell⦄ item, machine.Ready plan state cell →
    machine.Settles plan state ((single item).ran machine state)
      ((judge cell [] item).map fun _ => grow cell [item])
  later : ∀ ⦃cell⦄ item, cell.Fits (storage plan) → judge cell [] item = .ok () →
    (fun earlier => judge cell (item :: earlier)) = judge (grow cell [item])
  none : ∀ cell, grow cell [] = cell
  more : ∀ cell item rest, grow cell (item :: rest) = grow (grow cell [item]) rest

namespace Machine.Piecewise

variable (piecewise : machine.Piecewise plans plan single judge grow)
  (planned : machine.Planned plans) (known : plan ∈ plans) (kind : plan.kind ≠ .required)
  (items : List α)

include piecewise planned known kind

/-- Separate calls get as far as the review of the batch. -/
theorem operate (consistent : state.Consistent plans)
    (found : state.cell? plan.property.name = some cell) :
    firstError (machine.operate (items.map single) state).1 =
        refusal? (review (judge cell) items).2 ∧
      ((review (judge cell) items).2 = .ok () → (machine.operate (items.map single) state).2 =
        state.put plan.property.name (grow cell items)) := by
  induction items generalizing state cell with
  | nil =>
      refine ⟨rfl, fun _ => ?_⟩
      rw [piecewise.none, State.put_self (consistent.ready planned known found).distinct found]
      rfl
  | cons item rest ih =>
      have ready := consistent.ready planned known found
      have settles := piecewise.settles item ready
      rw [List.map_cons, Machine.operate, firstError, List.findSome?_cons]
      cases verdict : judge cell [] item with
      | error error =>
          rw [verdict] at settles
          rw [review_cons_of_error verdict]
          cases settles with
          | refused answer unchanged =>
              rw [answer]
              exact ⟨rfl, fun passed => by cases passed⟩
      | ok _ =>
          rw [verdict] at settles
          cases settles with
          | stored answer stored =>
              rw [machine.store_eq_put kind] at stored
              have grown : ((single item).ran machine state).state.cell? plan.property.name =
                  some (grow cell [item]) := by
                rw [stored, State.cell?_put_same found]
              have next := (piecewise.offered item).consistent planned consistent
              obtain ⟨errors, final⟩ := ih next grown
              rw [answer, review_cons_of_ok verdict, piecewise.later item ready.fits verdict]
              refine ⟨errors, fun passed => ?_⟩
              dsimp only
              rw [final passed, stored, State.put_put, ← piecewise.more]

theorem repeats (consistent : state.Consistent plans)
    (found : state.cell? plan.property.name = some cell) {ran : Ran V}
    (settles : machine.Settles plan state ran
      ((review (judge cell) items).2.map fun _ => grow cell items)) :
    machine.Repeats (items.map single) state ran := by
  obtain ⟨errors, final⟩ := piecewise.operate planned known kind items consistent found
  generalize (review (judge cell) items).2 = verdict at settles errors final
  have same : refusal? ran.answer = firstError (machine.operate (items.map single) state).1 := by
    rw [errors]
    cases verdict with
    | error error =>
        cases settles with
        | refused answer unchanged => exact congrArg refusal? answer
    | ok _ =>
        cases settles with
        | stored answer stored => exact congrArg refusal? answer
  refine ⟨?_, fun passed => ?_, fun error failed => ?_⟩
  · rw [← refusal?_eq_none_iff, same, firstError_eq_none_iff]
  · cases verdict with
    | error error =>
        cases settles with
        | refused answer unchanged =>
            rw [answer] at passed
            cases passed
    | ok _ =>
        cases settles with
        | stored answer stored => rw [final rfl, stored, machine.store_eq_put kind]
  · rw [← same, failed]
    rfl

end Machine.Piecewise

end

/-! Maps. -/

/-- The call that puts one entry. -/
def Operation.put (plan : Plan) : V × V → Operation V
  | (key, value) => ⟨plan, plan.property.method .put, [.one key, .one value]⟩

/-- How a batch of entries is put into a map. The hook is called with each entry that is taken,
in the state before the call. -/
structure Machine.PutsAll (machine : Machine V) (plan : Plan) (state : State V) (cell : Cell V)
    (items : List (V × V)) (ran : Ran V) : Prop where
  judged : machine.Judged plan state (machine.entryVerdict plan.property state cell) items
    (fun seen => seen.flatMap fun (key, value) =>
      .pulled :: machine.asked plan.property [key, value])
    (fun after => after.entries = cell.entries ++ items) ran
  repeated : machine.Impartial plan.property →
    machine.Repeats (items.map (Operation.put plan)) state ran

section

variable {keyTy valueTy : Ty} (strategy : plan.strategy = .map keyTy valueTy)

include strategy

theorem review_stagedVerdict_of_map (fits : cell.Fits (storage plan)) (items : List (V × V)) :
    review (machine.stagedVerdict plan.property state cell (.ofStorage (storage plan))) items =
      review (machine.entryVerdict plan.property state cell) items := by
  have staged := Cell.fits_ofStorage_of_map (V := V) strategy
  exact review_stagedVerdict (Cell.holdsEntries_of_map strategy staged)
    (Cell.entries_ofStorage _) (Cell.same_eq_of_fits staged fits) items

theorem settles_putAll (ready : machine.Ready plan state cell) (items : List (V × V)) :
    machine.Settles plan state
      (machine.call (Emit.fragments plan) (plan.property.method .putAll) [.entries items] state)
      ((review (machine.entryVerdict plan.property state cell) items).2.map
        fun _ => cell.extendEntries items) := by
  have accepted : Argument.AcceptedBy
      (Emit.bulkPutter plan.property keyTy valueTy (storage plan)) [.entries items] :=
    (Argument.acceptedBy_one rfl).2 ⟨_, Argument.fits_entries.2 ⟨items, rfl⟩, rfl⟩
  have settles : machine.Settles plan state _
      (machine.effect plan state cell .putAll [.entries items]) :=
    settles_call ready (Emit.bulkPutter_mem strategy) rfl accepted
  rw [Machine.effect.eq_def, strategy] at settles
  rw [← review_stagedVerdict_of_map strategy ready.fits, ← entriesVerdict_eq_review]
  exact settles

theorem trace_putAll (ready : machine.Ready plan state cell) (items : List (V × V)) :
    (machine.call (Emit.fragments plan) (plan.property.method .putAll) [.entries items]
        state).trace =
      (review (machine.entryVerdict plan.property state cell) items).1.flatMap
        fun (key, value) => .pulled :: machine.asked plan.property [key, value] := by
  have runs : machine.call (Emit.fragments plan) (plan.property.method .putAll) [.entries items]
      state = runMethod machine (machine.callWithin (methods plan) 1) _ [.entries items] state :=
    callWithin_eq_runMethod (Emit.bulkPutter_mem strategy) 1 _ state
  rw [runs, ← review_stagedVerdict_of_map strategy ready.fits]
  exact trace_bulkPutter _ _ ready.found items

theorem piecewise_put (known : plan ∈ plans) (impartial : machine.Impartial plan.property)
    (state : State V) :
    machine.Piecewise plans plan (Operation.put plan) (machine.entryVerdict plan.property state)
      fun cell items => cell.extendEntries items := by
  have mem := Emit.putter_mem strategy
  have accepted (key value : V) : Argument.AcceptedBy
      (Emit.putter plan.property keyTy valueTy) [.one key, .one value] :=
    (Argument.acceptedBy_two rfl).2
      ⟨_, _, Argument.fits_given.2 ⟨key, rfl⟩, Argument.fits_given.2 ⟨value, rfl⟩, rfl⟩
  constructor
  case offered =>
    rintro ⟨key, value⟩
    exact ⟨known, _, mem, rfl, accepted key value⟩
  case settles =>
    rintro other cell ⟨key, value⟩ ready
    have same : machine.entryVerdict plan.property state cell =
        machine.entryVerdict plan.property other cell := by
      funext earlier entry
      rw [Machine.entryVerdict, Machine.entryVerdict, impartial state other]
    have settles : machine.Settles plan other _
        (machine.effect plan other cell .put [.one key, .one value]) :=
      settles_call ready mem rfl (accepted key value)
    rw [Machine.effect.eq_def, strategy] at settles
    rw [same, ← review_singleton (machine.entryVerdict plan.property other cell),
      ← review_stagedVerdict_of_map strategy ready.fits, ← entriesVerdict_eq_review]
    exact settles
  case later =>
    rintro cell ⟨key, value⟩ fits passes
    have absent : cell.containsKey key = false := by
      rw [Cell.containsKey_eq, List.any_eq_false]
      intro entry mem
      have apart := (entryVerdict_eq_ok_iff.1 passes).2 entry (List.mem_append_left _ mem)
      simp [apart]
    have entries := Cell.insertEntry_of_absent absent (Cell.holdsEntries_of_map strategy fits) value
    funext earlier entry
    rw [Machine.entryVerdict, Machine.entryVerdict, Cell.extendEntries_cons, Cell.extendEntries_nil,
      entries, Cell.same_insertEntry, List.append_assoc]
    rfl
  case none => exact Cell.extendEntries_nil
  case more =>
    rintro cell ⟨key, value⟩ rest
    rw [Cell.extendEntries_cons, Cell.extendEntries_cons, Cell.extendEntries_nil]

theorem putsAll (planned : machine.Planned plans) (known : plan ∈ plans)
    (consistent : state.Consistent plans) (found : state.cell? plan.property.name = some cell)
    (items : List (V × V)) :
    machine.PutsAll plan state cell items
      (machine.call (Emit.fragments plan) (plan.property.method .putAll) [.entries items]
        state) := by
  have ready := consistent.ready planned known found
  have kind : plan.kind ≠ .required := by simp [Plan.kind, strategy]
  have settles := settles_putAll strategy ready items
  refine ⟨?_, fun impartial => ?_⟩
  · refine judged_of_settles kind settles (trace_putAll strategy ready items)
      (Cell.fits_extendEntries ready.fits items) fun admits => ?_
    have admitted : machine.entriesVerdict plan.property state cell (.ofStorage (storage plan))
        items = .ok () := by
      rw [entriesVerdict_eq_review, review_stagedVerdict_of_map strategy ready.fits,
        review_of_admits admits]
    obtain ⟨fresh, apart⟩ := Machine.fresh_of_entriesVerdict strategy ready.fits admitted
    exact Cell.entries_extendEntries (Cell.holdsEntries_of_map strategy ready.fits) fresh apart
  · exact (piecewise_put strategy known impartial state).repeats planned known kind items
      consistent found settles

end

/-- In a builder in use, a map takes a batch as a whole or not at all. -/
theorem putsAll_of_reachable {blueprint : Blueprint} {library : Library}
    (emitted : machine.Emitted blueprint library) (reachable : machine.Reachable state)
    (known : plan ∈ blueprint.plans library) {keyTy valueTy : Ty}
    (strategy : plan.strategy = .map keyTy valueTy) (items : List (V × V)) :
    ∃ cell, state.cell? plan.property.name = some cell ∧
      machine.PutsAll plan state cell items
        (machine.call (Emit.fragments plan) (plan.property.method .putAll) [.entries items]
          state) := by
  have planned := emitted.planned
  have consistent := reachable.consistent planned
  obtain ⟨cell, found, _⟩ := consistent.cells plan known
  exact ⟨cell, found, putsAll strategy planned known consistent found items⟩

/-- The hook rejects the second entry, and nobody asks whether its key is repeated. -/
theorem putsAll_tally_started :
    firstError (Tally.machine.operate
      ([(1, 4), (1, 12), (2, 3)].map (Operation.put Tally.table)) Tally.started).1 =
        some (.validation "tally" "too large") ∧
    ∃ cell, Tally.started.cell? Tally.table.property.name = some cell ∧
      Tally.machine.PutsAll Tally.table Tally.started cell [(1, 4), (1, 12), (2, 3)]
        (Tally.machine.call (Emit.fragments Tally.table) (Tally.table.property.method .putAll)
          [.entries [(1, 4), (1, 12), (2, 3)]] Tally.started) := by
  have strategy : Tally.table.strategy =
      .map (.path (.ofName "u8")) (.path (.ofName "u8")) := by
    with_unfolding_all rfl
  exact ⟨by decide +kernel,
    putsAll_of_reachable Tally.emitted reachable_started (Tally.plan_mem _) strategy _⟩

/-! Sets and lists. -/

namespace Cell

/-- The items that are the same as none of the old ones and as no item before them. -/
def newcomers (same : V → V → Bool) : List V → List V → List V
  | _, [] => []
  | seen, item :: rest =>
      let later := newcomers same (seen ++ [item]) rest
      if seen.any (same · item) then later else item :: later

omit [BEq V] in
/-- An item that is left out is the same as one that is there, and so is all that is the same as
the item. -/
theorem addAbsent_eq_newcomers {same : V → V → Bool}
    (trans : ∀ a b c, same a b = true → same b c = true → same a c = true) {seen present : List V}
    (alike : ∀ item, seen.any (same · item) = present.any (same · item)) (items : List V) :
    addAbsent same present items = present ++ newcomers same seen items := by
  induction items generalizing seen present with
  | nil => simp [newcomers]
  | cons item rest ih =>
      rw [addAbsent_cons, newcomers, alike item]
      cases known : present.any (same · item) with
      | true =>
          refine ih fun other => ?_
          have covered : same item other = true → present.any (same · other) = true := by
            intro equal
            obtain ⟨old, mem, first⟩ := List.any_eq_true.1 known
            exact List.any_eq_true.2 ⟨old, mem, trans _ _ _ first equal⟩
          rw [List.any_append, alike other]
          cases equal : same item other <;> simp_all
      | false =>
          have next : ∀ other, (seen ++ [item]).any (same · other) =
              (present ++ [item]).any (same · other) := by
            intro other
            rw [List.any_append, List.any_append, alike other]
          simpa using ih next

example : newcomers (fun stored sought : Nat => stored == sought) [4, 6] [6, 9, 9, 1] = [9, 1] := by
  decide

theorem same_trans [PartialEquivBEq V] (cell : Cell V) (a b c : V) (first : cell.same a b = true)
    (second : cell.same b c = true) : cell.same a c = true := by
  cases cell with
  | indexMap map | indexSet set => exact BEq.trans second first
  | orderedMap map | orderedSet set => exact BEq.trans first second
  | _ => cases first

theorem extendElements_cons (cell : Cell V) (item : V) (rest : List V) :
    cell.extendElements (item :: rest) = (cell.extendElements [item]).extendElements rest := by
  cases cell with
  | vector items => simp [extendElements]
  | _ => rfl

/-- What becomes of the elements of a collection that takes a batch: a list keeps all of it, a
set one item after the other unless it is there by then. If equality is as it should be, these
are the items that are neither old nor repeated. -/
structure Took (plan : Plan) (cell : Cell V) (items : List V) (after : Cell V) : Prop where
  list : ∀ ty, plan.strategy = .list ty → after.elements = cell.elements ++ items
  absent : ∀ ty, plan.strategy = .set ty →
    after.elements = addAbsent cell.same cell.elements items
  newcomers [PartialEquivBEq V] : ∀ ty, plan.strategy = .set ty →
    after.elements = cell.elements ++ Cell.newcomers cell.same cell.elements items

theorem took_extendElements (fits : cell.Fits (storage plan)) (items : List V) :
    Took plan cell items (cell.extendElements items) where
  list ty strategy := by
    simp only [storage, strategy] at fits
    cases cell with
    | vector old => rfl
    | _ => exact fits.elim
  absent ty strategy := elements_extendElements (holdsElements_of_set strategy fits) items
  newcomers ty strategy := by
    rw [elements_extendElements (holdsElements_of_set strategy fits)]
    exact addAbsent_eq_newcomers cell.same_trans (fun _ => rfl) items

end Cell

/-- The call that adds one element. -/
def Operation.add (plan : Plan) (element : V) : Operation V :=
  ⟨plan, plan.property.method .add, [.one element]⟩

/-- How a batch of elements is added to a set or a list. All elements are taken first; then the
hook is called with one after the other, in the state before the call. -/
structure Machine.AddsAll (machine : Machine V) (plan : Plan) (state : State V) (cell : Cell V)
    (items : List V) (ran : Ran V) : Prop where
  judged : machine.Judged plan state (machine.elementVerdict plan.property state) items
    (fun seen => items.map (fun _ => .pulled) ++
      seen.flatMap fun element => machine.asked plan.property [element])
    (cell.Took plan items) ran
  unchecked : plan.property.check = false →
    Admits (machine.elementVerdict plan.property state) items
  repeated : machine.Impartial plan.property →
    machine.Repeats (items.map (Operation.add plan)) state ran

section

variable {ty : Ty} (strategy : plan.strategy = .set ty ∨ plan.strategy = .list ty)

include strategy

omit [BEq V] in
theorem adder_mem_methods : ∃ doc store, Emit.adder plan.property ty doc store ∈ methods plan := by
  rcases strategy with strategy | strategy
  · simp only [methods, strategy, Emit.setMethods]
    exact ⟨_, _, List.mem_cons_self⟩
  · simp only [methods, strategy, Emit.listMethods]
    exact ⟨_, _, List.mem_cons_self⟩

theorem settles_addAll (ready : machine.Ready plan state cell) (items : List V) :
    machine.Settles plan state
      (machine.call (Emit.fragments plan) (plan.property.method .addAll) [.elements items] state)
      ((review (machine.elementVerdict plan.property state) items).2.map
        fun _ => cell.extendElements items) := by
  have accepted : Argument.AcceptedBy (Emit.bulkAdder plan.property ty) [.elements items] :=
    (Argument.acceptedBy_one rfl).2 ⟨_, Argument.fits_elements.2 ⟨items, rfl⟩, rfl⟩
  have settles : machine.Settles plan state _
      (machine.effect plan state cell .addAll [.elements items]) :=
    settles_call ready (Emit.bulkAdder_mem strategy) rfl accepted
  rw [← verdicts_eq_review]
  rcases strategy with strategy | strategy <;> rw [Machine.effect.eq_def, strategy] at settles <;>
    exact settles

theorem trace_addAll (items : List V) :
    (machine.call (Emit.fragments plan) (plan.property.method .addAll) [.elements items]
        state).trace =
      items.map (fun _ => .pulled) ++
        (review (machine.elementVerdict plan.property state) items).1.flatMap
          fun element => machine.asked plan.property [element] := by
  have runs : machine.call (Emit.fragments plan) (plan.property.method .addAll) [.elements items]
      state = runMethod machine (machine.callWithin (methods plan) 1) _ [.elements items] state :=
    callWithin_eq_runMethod (Emit.bulkAdder_mem strategy) 1 _ state
  rw [runs]
  exact trace_bulkAdder _ plan.property ty items

theorem piecewise_add (known : plan ∈ plans) (impartial : machine.Impartial plan.property)
    (state : State V) :
    machine.Piecewise plans plan (Operation.add plan)
      (fun _ => machine.elementVerdict plan.property state)
      fun cell items => cell.extendElements items := by
  obtain ⟨doc, store, mem⟩ := adder_mem_methods strategy
  have accepted (element : V) : Argument.AcceptedBy (Emit.adder plan.property ty doc store)
      [.one element] :=
    (Argument.acceptedBy_one rfl).2 ⟨_, Argument.fits_given.2 ⟨element, rfl⟩, rfl⟩
  constructor
  case offered => exact fun element => ⟨known, _, mem, rfl, accepted element⟩
  case settles =>
    intro other cell element ready
    have settles : machine.Settles plan other _
        (machine.effect plan other cell .add [.one element]) :=
      settles_call ready mem rfl (accepted element)
    rw [Machine.elementVerdict, impartial state other]
    rcases strategy with strategy | strategy <;>
      rw [Machine.effect.eq_def, strategy] at settles <;> exact settles
  case later => exact fun cell element _ _ => elementVerdict_cons element
  case none => exact Cell.extendElements_nil
  case more => exact Cell.extendElements_cons

theorem addsAll (planned : machine.Planned plans) (known : plan ∈ plans)
    (consistent : state.Consistent plans) (found : state.cell? plan.property.name = some cell)
    (items : List V) :
    machine.AddsAll plan state cell items
      (machine.call (Emit.fragments plan) (plan.property.method .addAll) [.elements items]
        state) := by
  have ready := consistent.ready planned known found
  have kind : plan.kind ≠ .required := by
    rcases strategy with strategy | strategy <;> simp [Plan.kind, strategy]
  have settles := settles_addAll strategy ready items
  refine ⟨?_, fun unchecked => ?_, fun impartial => ?_⟩
  · exact judged_of_settles kind settles (trace_addAll strategy items)
      (Cell.fits_extendElements ready.fits items) fun _ => Cell.took_extendElements ready.fits items
  · exact fun _ element _ _ => machine.verdict_of_unchecked unchecked state [element]
  · exact (piecewise_add strategy known impartial state).repeats planned known kind items
      consistent found settles

end

/-- In a builder in use, a set or a list takes a batch as a whole or not at all. -/
theorem addsAll_of_reachable {blueprint : Blueprint} {library : Library}
    (emitted : machine.Emitted blueprint library) (reachable : machine.Reachable state)
    (known : plan ∈ blueprint.plans library) {ty : Ty}
    (strategy : plan.strategy = .set ty ∨ plan.strategy = .list ty) (items : List V) :
    ∃ cell, state.cell? plan.property.name = some cell ∧
      machine.AddsAll plan state cell items
        (machine.call (Emit.fragments plan) (plan.property.method .addAll) [.elements items]
          state) := by
  have planned := emitted.planned
  have consistent := reachable.consistent planned
  obtain ⟨cell, found, _⟩ := consistent.cells plan known
  exact ⟨cell, found, addsAll strategy planned known consistent found items⟩

/-- The list of a tally is checked, its set is not; both hold elements already. -/
theorem addsAll_tally_sample :
    let listing := onTally 4 .addAll [.elements [3, 12, 5]]
    let gathering := onTally 3 .addAll [.elements [6, 9, 9, 1]]
    ∃ filled, Tally.machine.Reachable filled ∧
      (listing.ran Tally.machine filled).answer.isOk = false ∧
      ((gathering.ran Tally.machine filled).state.cell? "seen").map (·.elements) =
        some [4, 6, 9, 1] ∧
      (∃ cell, filled.cell? listing.field = some cell ∧
        Tally.machine.AddsAll listing.plan filled cell [3, 12, 5]
          (listing.ran Tally.machine filled)) ∧
      ∃ cell, filled.cell? gathering.field = some cell ∧
        Tally.machine.AddsAll gathering.plan filled cell [6, 9, 9, 1]
          (gathering.ran Tally.machine filled) := by
  have filled : Tally.machine.Reachable
      (Tally.machine.merge (.value Tally.sample) Tally.machine.new).state :=
    .mergeValue .new (by decide +kernel)
  have list : (Tally.plan ((4 : Fin 5).cast length_plans_tally)).strategy =
      .list (.path (.ofName "u8")) := by
    with_unfolding_all rfl
  have set : (Tally.plan ((3 : Fin 5).cast length_plans_tally)).strategy =
      .set (.path (.ofName "u8")) := by
    with_unfolding_all rfl
  exact ⟨_, filled, by decide +kernel, by decide +kernel,
    addsAll_of_reachable Tally.emitted filled (Tally.plan_mem _) (.inr list) _,
    addsAll_of_reachable Tally.emitted filled (Tally.plan_mem _) (.inl set) _⟩

end StructBuilder.Run
