import StructBuilder.Proofs.Merge

/-!
First refusals. A batch is refused for the first of its items that is not accepted. For
each item the hook is asked first and the keys of the cell are compared after it; that
the items are staged one by one makes no difference as long as they do not repeat.
-/

namespace StructBuilder.Run

section

variable {α ε : Type} {items : List α} {f : α → Except ε Unit}

theorem forM_eq_ok_iff : forM items f = .ok () ↔ ∀ item ∈ items, f item = .ok () := by
  induction items with
  | nil => exact ⟨fun _ _ mem => absurd mem List.not_mem_nil, fun _ => rfl⟩
  | cons first rest ih =>
      rw [List.forM_cons, List.forall_mem_cons, ← ih]
      cases f first <;> simp [bind, Except.bind]

/-- The error is that of the first item that fails. -/
theorem forM_eq_error_iff {error : ε} :
    forM items f = .error error ↔ ∃ earlier item later, items = earlier ++ item :: later ∧
      (∀ other ∈ earlier, f other = .ok ()) ∧ f item = .error error := by
  constructor
  · intro failed
    induction items with
    | nil => cases failed
    | cons first rest ih =>
        rw [List.forM_cons] at failed
        cases answer : f first with
        | error other =>
            rw [answer] at failed
            cases failed
            exact ⟨[], first, rest, rfl, fun _ mem => absurd mem List.not_mem_nil, answer⟩
        | ok _ =>
            rw [answer] at failed
            obtain ⟨earlier, item, later, rfl, passed, error⟩ := ih failed
            have all : ∀ other ∈ first :: earlier, f other = .ok () :=
              List.forall_mem_cons.2 ⟨answer, passed⟩
            exact ⟨first :: earlier, item, later, rfl, all, error⟩
  · rintro ⟨earlier, item, later, rfl, passed, failed⟩
    have front : forM earlier f = .ok () := forM_eq_ok_iff.2 passed
    rw [List.forM_append, front, List.forM_cons, failed]
    rfl

end

variable {V : Type} [BEq V] {machine : Machine V} {plan : Plan} {state : State V}
  {cell : Cell V} {content : Content V}

/-- What is said to one of the things that are to be stored. -/
def Machine.itemVerdict (machine : Machine V) (plan : Plan) (state : State V) (cell : Cell V)
    (values : List V) : Except BuilderError Unit := do
  machine.verdict plan.property state values
  match plan.strategy, values with
  | .map _ _, key :: _ =>
      if cell.containsKey key then
        .error (.duplicateKey plan.property.baseName (machine.debug key))
      else .ok ()
  | _, _ => .ok ()

/-- The cell takes no two keys or elements of the content for the same. -/
def Content.Apart (cell : Cell V) : Content V → Prop
  | .entries items => items.Pairwise fun first second => cell.same first.1 second.1 = false
  | .elements items => items.Pairwise fun first second => cell.same first second = false
  | _ => True

theorem itemVerdict_eq_verdict (strategy : ∀ key value, plan.strategy ≠ .map key value) :
    machine.itemVerdict plan state cell = machine.verdict plan.property state := by
  funext values
  unfold Machine.itemVerdict
  cases machine.verdict plan.property state values with
  | error error => rfl
  | ok _ =>
      cases named : plan.strategy with
      | map key value => exact absurd named (strategy key value)
      | _ => rfl

theorem verdicts_eq_forM (strategy : ∀ key value, plan.strategy ≠ .map key value)
    (batch : List (List V)) :
    machine.verdicts plan.property state batch =
      forM batch (machine.itemVerdict plan state cell) := by
  rw [itemVerdict_eq_verdict strategy]
  induction batch with
  | nil => rfl
  | cons values rest ih => rw [Machine.verdicts, ih, List.forM_cons]

theorem entriesVerdict_eq_forM {key value : Ty} (strategy : plan.strategy = .map key value)
    {staged : Cell V} (holds : staged.HoldsEntries) {items : List (V × V)}
    (absent : ∀ item ∈ items, staged.containsKey item.1 = false)
    (apart : items.Pairwise fun first second => staged.same first.1 second.1 = false) :
    machine.entriesVerdict plan.property state cell staged items =
      forM (Content.entries items).stored (machine.itemVerdict plan state cell) := by
  induction items generalizing staged with
  | nil => rfl
  | cons item rest ih =>
      obtain ⟨key, value⟩ := item
      obtain ⟨free, absent⟩ := List.forall_mem_cons.1 absent
      obtain ⟨different, apart⟩ := List.pairwise_cons.1 apart
      have next :
          machine.entriesVerdict plan.property state cell (staged.insertEntry key value) rest =
            forM (Content.entries rest).stored (machine.itemVerdict plan state cell) := by
        apply ih (Cell.holdsEntries_insertEntry holds key value)
        · intro other mem
          rw [Cell.containsKey_insertEntry free holds, absent other mem, different other mem]
          rfl
        · rwa [Cell.same_insertEntry]
      have first : (machine.itemVerdict plan state cell [key, value]) = (do
          machine.verdict plan.property state [key, value]
          machine.keyVerdict plan.property cell staged key) := by
        simp only [Machine.itemVerdict, strategy, Machine.keyVerdict, free, Bool.or_false]
      have stored : (Content.entries ((key, value) :: rest)).stored =
          [key, value] :: (Content.entries rest).stored := rfl
      rw [Machine.entriesVerdict, next, stored, List.forM_cons, first]
      cases machine.verdict plan.property state [key, value] <;> rfl

theorem contentVerdict_eq_forM (suits : plan.strategy.Suits plan.property.shape)
    (fits : content.Fits plan.property.shape) (cellFits : cell.Fits (Emit.storage plan))
    (apart : content.Apart cell) :
    machine.contentVerdict plan state cell content =
      forM content.stored (machine.itemVerdict plan state cell) := by
  obtain ⟨_, _, strategy, rfl⟩ | ⟨_, _, strategy, rfl⟩ | ⟨_, _, items, strategy, rfl⟩ |
    ⟨_, _, strategy, rfl⟩ | ⟨_, _, strategy, rfl⟩ := cases_of_fits suits fits
  · exact verdicts_eq_forM (by simp [strategy]) _
  · exact verdicts_eq_forM (by simp [strategy]) _
  · have staged := Cell.fits_ofStorage_of_map (V := V) strategy
    rw [Content.Apart, Cell.same_eq_of_fits cellFits staged] at apart
    exact entriesVerdict_eq_forM strategy (Cell.holdsEntries_of_map strategy staged)
      (fun _ _ => Cell.containsKey_ofStorage ..) apart
  · exact verdicts_eq_forM (by simp [strategy]) _
  · exact verdicts_eq_forM (by simp [strategy]) _

end StructBuilder.Run
