import StructBuilder.Proofs.Plan
import StructBuilder.Proofs.Cell
import StructBuilder.Proofs.State

/-!
What the methods of a property are for, said without their statements: what the hook
says to the values that are to be stored, which new cell a call amounts to, and how the
new cell gets into the state. A call that is refused changes nothing.
-/

namespace StructBuilder.Run

variable {V : Type}

theorem map_eq_ok_iff {α β ε : Type} {result : Except ε α} {f : α → β} {b : β} :
    result.map f = .ok b ↔ ∃ a, result = .ok a ∧ f a = b := by
  cases result <;> simp [Except.map]

theorem exists_ok_of_isOk {α ε : Type} {result : Except ε α} (taken : result.isOk = true) :
    ∃ value, result = .ok value := by
  cases result with
  | ok value => exact ⟨value, rfl⟩
  | error error => cases taken

theorem exists_error_of_isOk {α ε : Type} {result : Except ε α} (refused : result.isOk = false) :
    ∃ error, result = .error error := by
  cases result with
  | ok value => cases refused
  | error error => exact ⟨error, rfl⟩

namespace Cell

/-! What strategies say of the cells that belong to them. -/

variable {plan : Plan} {cell : Cell V}

theorem holdsEntries_of_map {key value : Ty} (strategy : plan.strategy = .map key value)
    (fits : cell.Fits (Emit.storage plan)) : cell.HoldsEntries := by
  unfold Emit.storage at fits
  cases library : plan.features.library <;> cases cell <;> simp_all [Fits, HoldsEntries]

theorem holdsElements_of_set {element : Ty} (strategy : plan.strategy = .set element)
    (fits : cell.Fits (Emit.storage plan)) : cell.HoldsElements := by
  unfold Emit.storage at fits
  cases library : plan.features.library <;> cases cell <;> simp_all [Fits, HoldsElements]

theorem holdsElements_of_list {element : Ty} (strategy : plan.strategy = .list element)
    (fits : cell.Fits (Emit.storage plan)) : cell.HoldsElements := by
  unfold Emit.storage at fits
  cases cell <;> simp_all [Fits, HoldsElements]

theorem fits_ofStorage_of_map {key value : Ty} (strategy : plan.strategy = .map key value) :
    (ofStorage (Emit.storage plan) : Cell V).Fits (Emit.storage plan) := by
  unfold Emit.storage
  cases library : plan.features.library <;> simp [strategy, ofStorage, Fits]

theorem insertElement_eq_extendElements [BEq V] {ty : Ty} (strategy : plan.strategy = .set ty)
    (fits : cell.Fits (Emit.storage plan)) (element : V) :
    cell.insertElement element = cell.extendElements [element] := by
  unfold Emit.storage at fits
  cases library : plan.features.library <;> cases cell <;> simp_all [Fits] <;> rfl

theorem push_eq_extendElements [BEq V] {ty : Ty} (strategy : plan.strategy = .list ty)
    (fits : cell.Fits (Emit.storage plan)) (element : V) :
    cell.push element = cell.extendElements [element] := by
  unfold Emit.storage at fits
  cases cell <;> simp_all [Fits]
  rfl

end Cell

namespace Argument

/-- The argument is of the kind that a parameter takes. -/
def Fits : Emit.ParameterType → Argument V → Prop
  | .given _, .one _ | .givenOptional _, .optional _ | .mapper _, .mapper _ | .borrowed _, .one _
  | .entries _ _, .entries _ | .elements _, .elements _ => True
  | _, _ => False

/-- A method accepts arguments that its parameters take. -/
def AcceptedBy (method : Emit.Method) (arguments : List (Argument V)) : Prop :=
  List.Forall₂ (fun parameter argument => argument.Fits parameter.2) method.parameters arguments

instance (parameter : Emit.ParameterType) (argument : Argument V) :
    Decidable (argument.Fits parameter) := by
  cases parameter <;> cases argument <;> first | exact .isTrue trivial | exact .isFalse id

instance (method : Emit.Method) (arguments : List (Argument V)) :
    Decidable (AcceptedBy method arguments) :=
  inferInstanceAs (Decidable (List.Forall₂ _ _ _))

variable {argument : Argument V} {ty : Ty}

@[simp] theorem fits_given : argument.Fits (.given ty) ↔ ∃ value, argument = .one value := by
  cases argument <;> simp [Fits]

@[simp] theorem fits_givenOptional :
    argument.Fits (.givenOptional ty) ↔ ∃ content, argument = .optional content := by
  cases argument <;> simp [Fits]

@[simp] theorem fits_mapper : argument.Fits (.mapper ty) ↔ ∃ apply, argument = .mapper apply := by
  cases argument <;> simp [Fits]

@[simp] theorem fits_borrowed : argument.Fits (.borrowed ty) ↔ ∃ value, argument = .one value := by
  cases argument <;> simp [Fits]

@[simp] theorem fits_entries {key value : Ty} :
    argument.Fits (.entries key value) ↔ ∃ items, argument = .entries items := by
  cases argument <;> simp [Fits]

@[simp] theorem fits_elements :
    argument.Fits (.elements ty) ↔ ∃ items, argument = .elements items := by
  cases argument <;> simp [Fits]

@[simp] theorem acceptedBy_nil {method : Emit.Method} {arguments : List (Argument V)}
    (h : method.parameters = []) : AcceptedBy method arguments ↔ arguments = [] := by
  simp [AcceptedBy, h]

theorem acceptedBy_one {method : Emit.Method} {arguments : List (Argument V)}
    {parameter : Emit.Local × Emit.ParameterType} (h : method.parameters = [parameter]) :
    AcceptedBy method arguments ↔
      ∃ argument, argument.Fits parameter.2 ∧ arguments = [argument] := by
  simp [AcceptedBy, h, List.forall₂_cons_left_iff]

theorem acceptedBy_two {method : Emit.Method} {arguments : List (Argument V)}
    {first second : Emit.Local × Emit.ParameterType} (h : method.parameters = [first, second]) :
    AcceptedBy method arguments ↔ ∃ one other, one.Fits first.2 ∧ other.Fits second.2 ∧
      arguments = [one, other] := by
  simp [AcceptedBy, h, List.forall₂_cons_left_iff]

end Argument

namespace Machine

/-- What the hook of a property says to values that are to be stored. -/
def verdict (machine : Machine V) (property : Property) (state : State V) (values : List V) :
    Except BuilderError Unit :=
  if property.check then
    match machine.hook? (property.method .check) with
    | some check => check state values
    | none => .ok ()
  else .ok ()

/-- The first rejection of several lists of values, all of which the hook sees in one
state. -/
def verdicts (machine : Machine V) (property : Property) (state : State V) :
    List (List V) → Except BuilderError Unit
  | [] => .ok ()
  | values :: rest => do
      machine.verdict property state values
      machine.verdicts property state rest

/-- A key is refused if it is in the cell or among the staged entries. -/
def keyVerdict (machine : Machine V) [BEq V] (property : Property) (cell staged : Cell V)
    (key : V) : Except BuilderError Unit :=
  if cell.containsKey key || staged.containsKey key then
    .error (.duplicateKey property.baseName (machine.debug key))
  else .ok ()

/-- The first refusal of a batch of entries, by the hook or for the sake of a key. -/
def entriesVerdict (machine : Machine V) [BEq V] (property : Property) (state : State V)
    (cell : Cell V) : Cell V → List (V × V) → Except BuilderError Unit
  | _, [] => .ok ()
  | staged, (key, value) :: rest => do
      machine.verdict property state [key, value]
      machine.keyVerdict property cell staged key
      machine.entriesVerdict property state cell (staged.insertEntry key value) rest

/-- Stores the new cell of a property, which is set from now on. -/
def store (machine : Machine V) (plan : Plan) (cell : Cell V) (state : State V) : State V :=
  let stored := state.put plan.property.name cell
  match plan.kind with
  | .required =>
      { stored with unset := (state.unset.remove (machine.position plan.property.marker)).2 }
  | _ => stored

/-- A call stores the cell that it amounts to, and leaves everything as it was if it is
refused. -/
def settle (machine : Machine V) (plan : Plan) (state : State V) :
    Except BuilderError (Cell V) → Except BuilderError (Answer V) × State V
  | .ok cell => (.ok .builder, machine.store plan cell state)
  | .error error => (.error error, state)

/-- The cell with the given content, unless the hook rejects it. -/
def assigned (machine : Machine V) (property : Property) (state : State V) (cell : Cell V)
    (given : Option V) : Except BuilderError (Cell V) :=
  (machine.verdicts property state (given.toList.map ([·]))).map fun _ => cell.assign given

/-- The new cell that a call of a method amounts to, by the strategy of its property. -/
def effect (machine : Machine V) [BEq V] (plan : Plan) (state : State V) (cell : Cell V)
    (verb : Verb) (arguments : List (Argument V)) : Except BuilderError (Cell V) :=
  let property := plan.property
  match plan.strategy, verb, arguments with
  | .scalar _, .set, [.one value] => machine.assigned property state cell (some value)
  | .scalar _, .map, [.mapper apply] =>
      match cell.content? with
      | some current => machine.assigned property state cell (some (apply current))
      | none => .error (.unset machine.typeName property.baseName)
  | .optional _, .set, [.optional given] => machine.assigned property state cell given
  | .optional _, .map, [.mapper apply] =>
      match cell.content? with
      | some current => machine.assigned property state cell (some (apply current))
      | none => .ok cell
  | .map _ _, .put, [.one key, .one value] =>
      (machine.entriesVerdict property state cell (.ofStorage (Emit.storage plan))
        [(key, value)]).map fun _ => cell.extendEntries [(key, value)]
  | .map _ _, .putAll, [.entries items] =>
      (machine.entriesVerdict property state cell (.ofStorage (Emit.storage plan)) items).map
        fun _ => cell.extendEntries items
  | .map _ _, .remove, [.one key] =>
      match cell.withoutKey? key with
      | some rest => .ok rest
      | none => .error (.missingKey property.baseName (machine.debug key))
  | .set _, .add, [.one element] | .list _, .add, [.one element] =>
      (machine.verdict property state [element]).map fun _ => cell.extendElements [element]
  | .set _, .addAll, [.elements items] | .list _, .addAll, [.elements items] =>
      (machine.verdicts property state (items.map ([·]))).map fun _ => cell.extendElements items
  | .set _, .remove, [.one element] => .ok (cell.removeElement element)
  | .list _, .remove, [.one element] => .ok (cell.removeFirst element)
  | .map _ _, .clear, [] | .set _, .clear, [] | .list _, .clear, [] => .ok cell.clear
  | _, _, _ => .ok cell

theorem store_eq_put (machine : Machine V) {plan : Plan} (h : plan.kind ≠ .required) (cell : Cell V)
    (state : State V) : machine.store plan cell state = state.put plan.property.name cell := by
  unfold store
  cases kind : plan.kind <;> simp_all

theorem verdicts_singleton (machine : Machine V) (property : Property) (state : State V)
    (values : List V) :
    machine.verdicts property state [values] = machine.verdict property state values := by
  rw [verdicts]
  cases machine.verdict property state values <;> rfl

theorem verdict_of_unchecked (machine : Machine V) {property : Property}
    (h : property.check = false) (state : State V) (values : List V) :
    machine.verdict property state values = .ok () := by
  simp [verdict, h]

theorem verdicts_of_unchecked (machine : Machine V) {property : Property}
    (h : property.check = false) (state : State V) (batch : List (List V)) :
    machine.verdicts property state batch = .ok () := by
  induction batch with
  | nil => rfl
  | cons values rest ih =>
      rw [verdicts, machine.verdict_of_unchecked h, ih]
      rfl

theorem verdicts_eq_ok_iff {machine : Machine V} {property : Property} {state : State V}
    {batch : List (List V)} :
    machine.verdicts property state batch = .ok () ↔
      ∀ values ∈ batch, machine.verdict property state values = .ok () := by
  induction batch with
  | nil => simp [verdicts]
  | cons values rest ih =>
      rw [verdicts, List.forall_mem_cons, ← ih]
      cases machine.verdict property state values <;> simp [bind, Except.bind]

theorem entriesVerdict_singleton [BEq V] (machine : Machine V) (property : Property)
    (state : State V) (cell staged : Cell V) (key value : V) :
    machine.entriesVerdict property state cell staged [(key, value)] = (do
      machine.verdict property state [key, value]
      machine.keyVerdict property cell staged key) := by
  simp only [entriesVerdict]
  cases machine.verdict property state [key, value] <;>
    cases machine.keyVerdict property cell staged key <;> rfl

/-- A batch of entries passes if the hook accepts all of them, and no key is in the cell,
staged already or repeated. -/
theorem entriesVerdict_eq_ok_iff [BEq V] {machine : Machine V} {property : Property}
    {state : State V} {cell staged : Cell V} (holds : staged.HoldsEntries) {items : List (V × V)} :
    machine.entriesVerdict property state cell staged items = .ok () ↔
      (∀ item ∈ items, machine.verdict property state [item.1, item.2] = .ok ()) ∧
      (∀ item ∈ items, cell.containsKey item.1 = false) ∧
      (∀ item ∈ items, staged.containsKey item.1 = false) ∧
      items.Pairwise fun first second => staged.same first.1 second.1 = false := by
  induction items generalizing staged with
  | nil => simp [entriesVerdict]
  | cons item rest ih =>
      obtain ⟨key, value⟩ := item
      have step :
          machine.entriesVerdict property state cell staged ((key, value) :: rest) = .ok () ↔
            machine.verdict property state [key, value] = .ok () ∧
            cell.containsKey key = false ∧ staged.containsKey key = false ∧
            machine.entriesVerdict property state cell (staged.insertEntry key value) rest =
              .ok () := by
        rw [entriesVerdict, keyVerdict]
        cases machine.verdict property state [key, value] <;> cases cell.containsKey key <;>
          cases staged.containsKey key <;> simp [bind, Except.bind]
      rw [step, ih (Cell.holdsEntries_insertEntry holds key value)]
      simp only [List.forall_mem_cons, List.pairwise_cons, Cell.same_insertEntry]
      have later (absent : staged.containsKey key = false) :
          (∀ item ∈ rest, (staged.insertEntry key value).containsKey item.1 = false) ↔
            (∀ item ∈ rest, staged.containsKey item.1 = false) ∧
              ∀ item ∈ rest, staged.same key item.1 = false := by
        rw [← forall₂_and]
        refine forall₂_congr fun item _ => ?_
        rw [Cell.containsKey_insertEntry absent holds, Bool.or_eq_false_iff]
      constructor
      · rintro ⟨accepted, absent, free, all, fresh, unstaged, distinct⟩
        have := (later free).1 unstaged
        exact ⟨⟨accepted, all⟩, ⟨absent, fresh⟩, ⟨free, this.1⟩, this.2, distinct⟩
      · rintro ⟨⟨accepted, all⟩, ⟨absent, fresh⟩, ⟨free, unstaged⟩, apart, distinct⟩
        exact ⟨accepted, absent, free, all, fresh, (later free).2 ⟨unstaged, apart⟩, distinct⟩

variable [BEq V]

/-- What a call can make of a cell, together with what was asked before. -/
inductive Change (machine : Machine V) (plan : Plan) (state : State V) (cell : Cell V) :
    Cell V → Prop where
  | keep : machine.Change plan state cell cell
  | assign {given : Option V}
      (accepted : machine.verdicts plan.property state (given.toList.map ([·])) = .ok ()) :
      machine.Change plan state cell (cell.assign given)
  | put {items : List (V × V)} {key value : Ty} (strategy : plan.strategy = .map key value)
      (admitted : machine.entriesVerdict plan.property state cell
        (.ofStorage (Emit.storage plan)) items = .ok ()) :
      machine.Change plan state cell (cell.extendEntries items)
  | removeKey {key : V} {rest : Cell V} (found : cell.withoutKey? key = some rest) :
      machine.Change plan state cell rest
  | add {items : List V} (holds : cell.HoldsElements)
      (accepted : machine.verdicts plan.property state (items.map ([·])) = .ok ()) :
      machine.Change plan state cell (cell.extendElements items)
  | removeElement {element : V} : machine.Change plan state cell (cell.removeElement element)
  | removeFirst {element : V} : machine.Change plan state cell (cell.removeFirst element)
  | clear : machine.Change plan state cell cell.clear

variable {machine : Machine V} {plan : Plan} {state : State V} {cell after : Cell V}

theorem change_of_effect (fits : cell.Fits (Emit.storage plan)) {verb : Verb}
    {arguments : List (Argument V)}
    (h : machine.effect plan state cell verb arguments = .ok after) :
    machine.Change plan state cell after := by
  have assigned {given : Option V}
      (h : machine.assigned plan.property state cell given = .ok after) :
      machine.Change plan state cell after := by
    obtain ⟨_, accepted, rfl⟩ := map_eq_ok_iff.1 h
    exact .assign accepted
  unfold effect at h
  dsimp only at h
  split at h
  · exact assigned h
  · split at h
    · exact assigned h
    · cases h
  · exact assigned h
  · split at h
    · exact assigned h
    · cases h
      exact .keep
  · rename_i strategy
    obtain ⟨_, admitted, rfl⟩ := map_eq_ok_iff.1 h
    exact .put strategy admitted
  · rename_i strategy
    obtain ⟨_, admitted, rfl⟩ := map_eq_ok_iff.1 h
    exact .put strategy admitted
  · split at h
    · rename_i found
      cases h
      exact .removeKey found
    · cases h
  · rename_i strategy
    rw [← machine.verdicts_singleton] at h
    obtain ⟨_, accepted, rfl⟩ := map_eq_ok_iff.1 h
    exact .add (Cell.holdsElements_of_set strategy fits) accepted
  · rename_i strategy
    rw [← machine.verdicts_singleton] at h
    obtain ⟨_, accepted, rfl⟩ := map_eq_ok_iff.1 h
    exact .add (Cell.holdsElements_of_list strategy fits) accepted
  · rename_i strategy
    obtain ⟨_, accepted, rfl⟩ := map_eq_ok_iff.1 h
    exact .add (Cell.holdsElements_of_set strategy fits) accepted
  · rename_i strategy
    obtain ⟨_, accepted, rfl⟩ := map_eq_ok_iff.1 h
    exact .add (Cell.holdsElements_of_list strategy fits) accepted
  · cases h
    exact .removeElement
  · cases h
    exact .removeFirst
  · cases h
    exact .clear
  · cases h
    exact .clear
  · cases h
    exact .clear
  · cases h
    exact .keep

theorem Change.fits (change : machine.Change plan state cell after)
    (fits : cell.Fits (Emit.storage plan)) : after.Fits (Emit.storage plan) := by
  cases change with
  | keep => exact fits
  | assign _ => exact Cell.fits_assign fits _
  | put _ _ => exact Cell.fits_extendEntries fits _
  | removeKey found => exact (Cell.withoutKey?_eq_some found).2.2.2 _ fits
  | add _ _ => exact Cell.fits_extendElements fits _
  | removeElement => exact Cell.fits_removeElement fits _
  | removeFirst => exact Cell.fits_removeFirst fits _
  | clear => exact Cell.fits_clear fits

/-- An admitted batch has keys that are new to the cell and differ among themselves. -/
theorem fresh_of_entriesVerdict {key value : Ty} (strategy : plan.strategy = .map key value)
    (fits : cell.Fits (Emit.storage plan)) {items : List (V × V)}
    (admitted : machine.entriesVerdict plan.property state cell
      (.ofStorage (Emit.storage plan)) items = .ok ()) :
    (∀ item ∈ items, cell.containsKey item.1 = false) ∧
      items.Pairwise fun first second => cell.same first.1 second.1 = false := by
  have staged := Cell.fits_ofStorage_of_map (V := V) strategy
  obtain ⟨_, fresh, _, apart⟩ :=
    (entriesVerdict_eq_ok_iff (Cell.holdsEntries_of_map strategy staged)).1 admitted
  rw [Cell.same_eq_of_fits staged fits] at apart
  exact ⟨fresh, apart⟩

theorem Change.distinct (change : machine.Change plan state cell after)
    (fits : cell.Fits (Emit.storage plan)) (distinct : cell.Distinct) : after.Distinct := by
  cases change with
  | keep => exact distinct
  | assign _ => exact Cell.distinct_assign distinct _
  | put strategy admitted =>
      obtain ⟨fresh, apart⟩ := fresh_of_entriesVerdict strategy fits admitted
      have holds := Cell.holdsEntries_of_map strategy fits
      exact Cell.distinct_extendEntries holds distinct fresh apart
  | removeKey found =>
      obtain ⟨entries, same, elements, _⟩ := Cell.withoutKey?_eq_some found
      exact distinct.of_sublist same (entries ▸ List.eraseP_sublist) (elements ▸ .refl _)
  | add holds _ => exact Cell.distinct_extendElements holds distinct _
  | removeElement => exact distinct.of_sublist (by simp) (by simp) (Cell.sublist_removeElement ..)
  | removeFirst => exact distinct.of_sublist (by simp) (by simp) (Cell.sublist_removeFirst ..)
  | clear => exact Cell.distinct_of_empty (Cell.entries_clear _) (Cell.elements_clear _)

end Machine
end StructBuilder.Run
