import Mathlib.Data.List.Induction
import StructBuilder.Proofs.Call

/-!
How far a batch gets. Items are judged in order, each in the light of those before it, and
nobody looks at an item behind the first that is refused. What a bulk method asks of hooks
and takes from its argument follows from how far the review of its batch gets; that entries
are staged on the way makes no difference, since staging stops with the review.
-/

namespace StructBuilder.Run

open Emit (runCheck convertGiven validateEntry)

section

variable {α ε : Type} {judge other : List α → α → Except ε Unit} {items rest earlier : List α}
  {item : α} {error : ε}

/-- Every item passes, judged by what comes before it. -/
def Admits (judge : List α → α → Except ε Unit) (items : List α) : Prop :=
  ∀ ⦃earlier item later⦄, items = earlier ++ item :: later → judge earlier item = .ok ()

/-- The item behind the earlier ones is the first that does not pass. -/
structure RefusesAt (judge : List α → α → Except ε Unit) (items earlier : List α) (item : α)
    (error : ε) : Prop where
  first : earlier ++ [item] <+: items
  admits : Admits judge earlier
  refused : judge earlier item = .error error

/-- The items that are looked at, and what is said in the end. -/
def review (judge : List α → α → Except ε Unit) : List α → List α × Except ε Unit
  | [] => ([], .ok ())
  | item :: rest =>
      match judge [] item with
      | .error error => ([item], .error error)
      | .ok () =>
          let later := review (fun earlier => judge (item :: earlier)) rest
          (item :: later.1, later.2)

theorem review_cons_of_ok (passes : judge [] item = .ok ()) (rest : List α) :
    review judge (item :: rest) =
      (item :: (review (fun earlier => judge (item :: earlier)) rest).1,
        (review (fun earlier => judge (item :: earlier)) rest).2) := by
  rw [review, passes]

theorem review_cons_of_error (refused : judge [] item = .error error) (rest : List α) :
    review judge (item :: rest) = ([item], .error error) := by
  rw [review, refused]

theorem review_singleton (judge : List α → α → Except ε Unit) (item : α) :
    (review judge [item]).2 = judge [] item := by
  cases verdict : judge [] item with
  | error error => rw [review_cons_of_error verdict]
  | ok _ => rw [review_cons_of_ok verdict]; rfl

@[simp] theorem admits_nil : Admits judge [] := by
  intro earlier item later split
  simp at split

theorem admits_cons : Admits judge (item :: rest) ↔
    judge [] item = .ok () ∧ Admits (fun earlier => judge (item :: earlier)) rest := by
  constructor
  · intro admits
    refine ⟨admits rfl, fun earlier other later split => ?_⟩
    exact admits (congrArg (item :: ·) split : _ = (item :: earlier) ++ other :: later)
  · rintro ⟨first, admits⟩ earlier other later split
    cases earlier with
    | nil =>
        obtain ⟨rfl, _⟩ := List.cons.inj split
        exact first
    | cons head earlier =>
        obtain ⟨rfl, tail⟩ := List.cons.inj split
        exact admits tail

theorem admits_concat :
    Admits judge (items ++ [item]) ↔ Admits judge items ∧ judge items item = .ok () := by
  constructor
  · intro admits
    refine ⟨fun earlier other later split => ?_, admits rfl⟩
    have longer : items ++ [item] = earlier ++ other :: (later ++ [item]) := by
      rw [split, List.append_assoc, List.cons_append]
    exact admits longer
  · rintro ⟨admits, last⟩ earlier other later split
    rcases List.eq_nil_or_concat' later with rfl | ⟨later, final, rfl⟩
    · obtain ⟨rfl, same⟩ := List.append_inj' split rfl
      obtain ⟨rfl, _⟩ := List.cons.inj same
      exact last
    · rw [← List.cons_append, ← List.append_assoc] at split
      exact admits (List.append_inj' split rfl).1

theorem refusesAt_cons (first : judge [] item = .ok ()) {last : α} :
    RefusesAt judge (item :: rest) (item :: earlier) last error ↔
      RefusesAt (fun earlier => judge (item :: earlier)) rest earlier last error := by
  constructor
  · rintro ⟨begins, admits, refused⟩
    exact ⟨(List.cons_prefix_cons.1 begins).2, (admits_cons.1 admits).2, refused⟩
  · rintro ⟨begins, admits, refused⟩
    exact ⟨List.cons_prefix_cons.2 ⟨rfl, begins⟩, admits_cons.2 ⟨first, admits⟩, refused⟩

theorem review_of_admits (admits : Admits judge items) : review judge items = (items, .ok ()) := by
  induction items generalizing judge with
  | nil => rfl
  | cons item rest ih =>
      obtain ⟨first, later⟩ := admits_cons.1 admits
      rw [review_cons_of_ok first, ih later]

theorem review_of_refusesAt (refuses : RefusesAt judge items earlier item error) :
    review judge items = (earlier ++ [item], .error error) := by
  induction earlier generalizing judge items with
  | nil =>
      obtain ⟨rest, rfl⟩ := refuses.first
      exact review_cons_of_error refuses.refused rest
  | cons head earlier ih =>
      obtain ⟨rest, rfl⟩ := refuses.first
      have first := (admits_cons.1 refuses.admits).1
      have later : review (fun earlier => judge (head :: earlier)) (earlier ++ [item] ++ rest) =
          (earlier ++ [item], .error error) :=
        ih ((refusesAt_cons first).1 refuses)
      rw [List.cons_append, List.cons_append, review_cons_of_ok first, later]

/-- There is nothing between a batch that passes and a first refusal. -/
theorem admits_or_refusesAt (judge : List α → α → Except ε Unit) (items : List α) :
    Admits judge items ∨ ∃ earlier item error, RefusesAt judge items earlier item error := by
  induction items generalizing judge with
  | nil => exact .inl admits_nil
  | cons head rest ih =>
      cases verdict : judge [] head with
      | error error =>
          exact .inr ⟨[], head, error, ⟨⟨rest, rfl⟩, admits_nil, verdict⟩⟩
      | ok _ =>
          rcases ih (fun earlier => judge (head :: earlier)) with
            admits | ⟨earlier, item, error, refuses⟩
          · exact .inl (admits_cons.2 ⟨verdict, admits⟩)
          · exact .inr ⟨head :: earlier, item, error, (refusesAt_cons verdict).2 refuses⟩

/-- Judges need not agree on what no review gets to. -/
theorem review_congr (same : ∀ earlier, Admits judge earlier → other earlier = judge earlier) :
    review other items = review judge items := by
  induction items generalizing judge other with
  | nil => rfl
  | cons item rest ih =>
      have first := same [] admits_nil
      cases verdict : judge [] item with
      | error error =>
          rw [review_cons_of_error verdict, review_cons_of_error (first ▸ verdict)]
      | ok _ =>
          have later := ih fun earlier admits =>
            same (item :: earlier) (admits_cons.2 ⟨verdict, admits⟩)
          rw [review_cons_of_ok verdict, review_cons_of_ok (first ▸ verdict), later]

end

variable {V : Type} [BEq V] {machine : Machine V} {property : Property} {state : State V}
  {cell staged : Cell V}

/-! Judges. -/

/-- What the hook of a property says does not depend on the builder. -/
def Machine.Impartial (machine : Machine V) (property : Property) : Prop :=
  ∀ state other values,
    machine.verdict property state values = machine.verdict property other values

/-- What is said to an entry: the hook is asked first, then its key is looked for in the
cell and among the earlier entries of the batch. -/
def Machine.entryVerdict (machine : Machine V) (property : Property) (state : State V)
    (cell : Cell V) (earlier : List (V × V)) : V × V → Except BuilderError Unit
  | (key, value) => do
      machine.verdict property state [key, value]
      if (cell.entries ++ earlier).any (cell.same ·.1 key) then
        .error (.duplicateKey property.baseName (machine.debug key))
      else .ok ()

/-- What is said to an element does not depend on the others. -/
def Machine.elementVerdict (machine : Machine V) (property : Property) (state : State V)
    (_ : List V) (element : V) : Except BuilderError Unit :=
  machine.verdict property state [element]

/-- What is said to an entry while others are staged. -/
def Machine.stagedVerdict (machine : Machine V) (property : Property) (state : State V)
    (cell staged : Cell V) (earlier : List (V × V)) : V × V → Except BuilderError Unit
  | (key, value) => do
      machine.verdict property state [key, value]
      machine.keyVerdict property cell (staged.extendEntries earlier) key

theorem stagedVerdict_cons (key value : V) :
    (fun earlier => machine.stagedVerdict property state cell staged ((key, value) :: earlier)) =
      machine.stagedVerdict property state cell (staged.insertEntry key value) := by
  funext earlier item
  rw [Machine.stagedVerdict, Machine.stagedVerdict, Cell.extendEntries_cons]

omit [BEq V] in
theorem elementVerdict_cons (element : V) :
    (fun earlier => machine.elementVerdict property state (element :: earlier)) =
      machine.elementVerdict property state := rfl

theorem entriesVerdict_eq_review (items : List (V × V)) :
    machine.entriesVerdict property state cell staged items =
      (review (machine.stagedVerdict property state cell staged) items).2 := by
  induction items generalizing staged with
  | nil => rfl
  | cons item rest ih =>
      obtain ⟨key, value⟩ := item
      rw [Machine.entriesVerdict, ih, review, stagedVerdict_cons, Machine.stagedVerdict,
        Cell.extendEntries_nil]
      cases machine.verdict property state [key, value] with
      | error error => rfl
      | ok _ => cases machine.keyVerdict property cell staged key <;> rfl

omit [BEq V] in
theorem verdicts_eq_review (items : List V) :
    machine.verdicts property state (items.map ([·])) =
      (review (machine.elementVerdict property state) items).2 := by
  induction items with
  | nil => rfl
  | cons element rest ih =>
      rw [List.map_cons, Machine.verdicts, ih, review, elementVerdict_cons, Machine.elementVerdict]
      cases machine.verdict property state [element] <;> rfl

theorem entryVerdict_eq_ok_iff {earlier : List (V × V)} {key value : V} :
    machine.entryVerdict property state cell earlier (key, value) = .ok () ↔
      machine.verdict property state [key, value] = .ok () ∧
        ∀ entry ∈ cell.entries ++ earlier, cell.same entry.1 key = false := by
  have unseen : (∀ entry ∈ cell.entries ++ earlier, cell.same entry.1 key = false) ↔
      (cell.entries ++ earlier).any (cell.same ·.1 key) = false := by
    simp only [List.any_eq_false, Bool.not_eq_true]
  rw [Machine.entryVerdict, unseen]
  cases machine.verdict property state [key, value] <;>
    cases (cell.entries ++ earlier).any (cell.same ·.1 key) <;> simp [bind, Except.bind]

/-- Entries that pass repeat no key. -/
theorem apart_of_admits {items : List (V × V)}
    (admits : Admits (machine.entryVerdict property state cell) items) :
    items.Pairwise fun first second => cell.same first.1 second.1 = false := by
  induction items using List.reverseRecOn with
  | nil => exact .nil
  | append_singleton items item ih =>
      obtain ⟨before, last⟩ := admits_concat.1 admits
      refine List.pairwise_append.2 ⟨ih before, List.pairwise_singleton _ _, ?_⟩
      intro entry mem _ new
      obtain rfl := List.mem_singleton.1 new
      exact (entryVerdict_eq_ok_iff.1 last).2 entry (List.mem_append_right _ mem)

/-- Staged entries are looked up like the earlier ones, as long as no key repeats. -/
theorem review_stagedVerdict (holds : staged.HoldsEntries) (empty : staged.entries = [])
    (same : staged.same = cell.same) (items : List (V × V)) :
    review (machine.stagedVerdict property state cell staged) items =
      review (machine.entryVerdict property state cell) items := by
  apply review_congr
  intro earlier admits
  have apart := apart_of_admits admits
  have unstaged : ∀ item ∈ earlier, staged.containsKey item.1 = false := fun item _ => by
    rw [Cell.containsKey_eq, empty]
    rfl
  rw [← same] at apart
  have entries := Cell.entries_extendEntries holds unstaged apart
  rw [empty, List.nil_append] at entries
  funext ⟨key, value⟩
  rw [Machine.stagedVerdict, Machine.entryVerdict, Machine.keyVerdict, Cell.containsKey_eq cell,
    Cell.containsKey_eq (staged.extendEntries earlier), entries, Cell.same_extendEntries, same,
    List.any_append]

/-! Traces. -/

/-- The call of the hook for values that are to be stored, if it is called at all. -/
def Machine.asked (machine : Machine V) (property : Property) (values : List V) : Trace V :=
  if property.check && (machine.hook? (property.method .check)).isSome then
    [.checked (property.method .check) values]
  else []

/-- What was asked up to the end of a flow. -/
def Flow.trace : Flow V → Trace V
  | .next frame | .returned frame | .failed _ frame => frame.trace

omit [BEq V] in
@[simp] theorem Flow.trace_leave (flow : Flow V) (locals : Locals V) :
    (flow.leave locals).trace = flow.trace := by
  cases flow <;> rfl

omit [BEq V] in
/-- What asks nothing leaves the trace as it is. -/
theorem Flow.trace_andThen {next : Frame V → Flow V} (flow : Flow V)
    (silent : ∀ frame, (next frame).trace = frame.trace) :
    (flow.andThen next).trace = flow.trace := by
  cases flow with
  | next frame => exact silent frame
  | returned frame => rfl
  | failed error frame => rfl

section

variable (machine) (call : Call V)

theorem runStatements_convertGiven (subject : Emit.Local) (ty : Ty) (frame : Frame V) :
    runStatements machine call (convertGiven subject ty) frame = .next frame := by
  unfold convertGiven
  split <;> simp [runStatements, runStatement, Flow.andThen]

theorem trace_runCheck (property : Property) {arguments : List Emit.CheckArgument}
    {frame : Frame V} {values : List V}
    (h : arguments.filterMap (frame.locals.content? ·.subject) = values) :
    (runStatements machine call (runCheck property arguments) frame).trace =
      frame.trace ++ machine.asked property values := by
  subst h
  unfold runCheck Machine.asked
  cases property.check with
  | false => simp [runStatements, Flow.trace]
  | true =>
      simp only [ite_true, runStatements_singleton, runStatement, Machine.runCheck]
      cases machine.hook? (property.method .check) with
      | none => simp [Flow.trace]
      | some check =>
          dsimp only
          cases check frame.state _ <;> rfl

theorem trace_rejectDuplicate (field property : String) (staged : Bool) (frame : Frame V) :
    (runStatements machine call [.rejectDuplicate field property staged] frame).trace =
      frame.trace := by
  rw [runStatements_singleton, runStatement]
  split
  · rfl
  · split <;> rfl

theorem trace_stageEntry (frame : Frame V) :
    (runStatements machine call [.stageEntry] frame).trace = frame.trace := by
  rw [runStatements_singleton, runStatement]
  split <;> rfl

/-- An entry on its way to the staged ones is shown to the hook, and nothing else is asked. -/
theorem trace_validateEntry (property : Property) (keyTy valueTy : Ty) {frame : Frame V}
    {key value : V} (hk : frame.locals.content? .key = some key)
    (hv : frame.locals.content? .value = some value) :
    (runStatements machine call (validateEntry property keyTy valueTy true ++ [.stageEntry])
      frame).trace = frame.trace ++ machine.asked property [key, value] := by
  rw [runStatements_append, Flow.trace_andThen _ (trace_stageEntry machine call), validateEntry,
    runStatements_append,
    Flow.trace_andThen _ (trace_rejectDuplicate machine call _ _ _), runStatements_append,
    runStatements_append, runStatements_convertGiven, Flow.andThen, runStatements_convertGiven,
    Flow.andThen]
  exact trace_runCheck machine call property (by simp [hk, hv])

omit [BEq V] in
/-- The rounds of a loop are those of a review, if each of them decides what the judge says. -/
theorem Flow.trace_each_cons {α : Type} {judge : List α → α → Except BuilderError Unit}
    {block : α → Frame V → Flow V} {events : α → Trace V} {item : α} {rest : List α}
    {frame after : Frame V} (round : (block item frame).Decides after (judge [] item))
    (asked : (block item frame).trace = frame.trace ++ events item)
    (later : ∀ more, (Flow.each block rest (after.log more)).trace = (after.log more).trace ++
      (review (fun earlier => judge (item :: earlier)) rest).1.flatMap events) :
    (Flow.each block (item :: rest) frame).trace =
      frame.trace ++ (review judge (item :: rest)).1.flatMap events := by
  rw [Flow.each]
  cases verdict : judge [] item with
  | error error =>
      rw [verdict] at round
      obtain ⟨stopped, failed, _⟩ := round
      rw [failed] at asked ⊢
      rw [review_cons_of_error verdict, List.flatMap_singleton, ← asked, Flow.andThen]
      exact fun _ same => by cases same
  | ok _ =>
      rw [verdict] at round
      obtain ⟨more, passed⟩ := round
      rw [passed] at asked ⊢
      have reached : (after.log more).trace = frame.trace ++ events item := asked
      rw [Flow.andThen, later, reached, review_cons_of_ok verdict, List.flatMap_cons,
        List.append_assoc]

theorem trace_eachEntry (property : Property) (keyTy valueTy : Ty) {cell : Cell V}
    (items : List (V × V)) {frame : Frame V}
    (found : frame.state.cell? property.name = some cell) :
    (Flow.each (fun (key, value) frame =>
        (runStatements machine call (validateEntry property keyTy valueTy true ++ [.stageEntry])
          ((frame.bind [(.key, .one key), (.value, .one value)]).log [.pulled])).leave frame.locals)
        items frame).trace =
      frame.trace ++
        (review (machine.stagedVerdict property frame.state cell frame.staged) items).1.flatMap
          fun (key, value) => .pulled :: machine.asked property [key, value] := by
  induction items generalizing frame with
  | nil => simp [Flow.each, review, Flow.trace]
  | cons item rest ih =>
      obtain ⟨key, value⟩ := item
      let entered := (frame.bind [(.key, .one key), (.value, .one value)]).log [.pulled]
      let behind : Frame V := { frame with staged := frame.staged.insertEntry key value }
      have staged : (runStatements machine call
          (validateEntry property keyTy valueTy true ++ [.stageEntry]) entered).Decides
            { entered with staged := frame.staged.insertEntry key value }
            (machine.stagedVerdict property frame.state cell frame.staged [] (key, value)) := by
        rw [Machine.stagedVerdict, Cell.extendEntries_nil]
        exact decides_stageEntry machine call property keyTy valueTy found rfl rfl
      have left : Flow.Decides _ (behind.log [.pulled]) _ := staged.leave frame.locals
      have asked : (runStatements machine call
          (validateEntry property keyTy valueTy true ++ [.stageEntry]) entered).trace =
            frame.trace ++ .pulled :: machine.asked property [key, value] := by
        have shown := trace_validateEntry machine call property keyTy valueTy
          (rfl : entered.locals.content? .key = some key)
          (rfl : entered.locals.content? .value = some value)
        simpa [entered, Frame.log, Frame.bind] using shown
      refine Flow.trace_each_cons left.of_log ((Flow.trace_leave _ _).trans asked) fun more => ?_
      rw [stagedVerdict_cons]
      exact ih found

theorem trace_eachStaged (property : Property) (ty : Ty) (items : List V) (frame : Frame V) :
    (Flow.each (fun element frame =>
        (runStatements machine call (runCheck property [⟨.element, false, ty⟩])
          (frame.bind [(.element, .one element)])).leave frame.locals) items frame).trace =
      frame.trace ++ (review (machine.elementVerdict property frame.state) items).1.flatMap
        fun element => machine.asked property [element] := by
  induction items generalizing frame with
  | nil => simp [Flow.each, review, Flow.trace]
  | cons element rest ih =>
      have passes : (runStatements machine call (runCheck property [⟨.element, false, ty⟩])
          (frame.bind [(.element, .one element)])).Decides _
            (machine.elementVerdict property frame.state [] element) :=
        decides_runCheck machine call property rfl rfl
      have round : Flow.Decides _ frame _ := passes.leave frame.locals
      have asked : (runStatements machine call (runCheck property [⟨.element, false, ty⟩])
          (frame.bind [(.element, .one element)])).trace =
            frame.trace ++ machine.asked property [element] :=
        trace_runCheck machine call property rfl
      exact Flow.trace_each_cons round ((Flow.trace_leave _ _).trans asked) fun more =>
        ih (frame.log more)

end

end StructBuilder.Run
