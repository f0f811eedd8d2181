import StructBuilder.Proofs.Atomicity

/-!
One property on two machines. The plans handle it in the same way, but may differ in whether
it is checked and in what backs it. As long as both hold the same in it, give the same
verdicts and take the same keys for equal, a call comes to the same on both.
-/

namespace StructBuilder

/-- The plans handle one property in the same way, up to its check and what backs it. -/
structure Plan.Matches (plan other : Plan) : Prop where
  property : other.property = { plan.property with check := other.property.check }
  strategy : other.strategy = plan.strategy
  mappers : other.features.mappers = plan.features.mappers

namespace Plan.Matches

variable {plan other : Plan}

theorem refl (plan : Plan) : plan.Matches plan :=
  ⟨rfl, rfl, rfl⟩

theorem name (pair : plan.Matches other) : other.property.name = plan.property.name := by
  rw [pair.property]

theorem baseName (pair : plan.Matches other) :
    other.property.baseName = plan.property.baseName := by
  rw [Property.baseName, Property.baseName, pair.name]

theorem method (pair : plan.Matches other) (verb : Verb) :
    other.property.method verb = plan.property.method verb := by
  rw [Property.method, Property.method, pair.baseName]

theorem getter (pair : plan.Matches other) : other.property.getter = plan.property.getter := by
  rw [Property.getter, Property.getter, pair.name]

theorem shape (pair : plan.Matches other) : other.property.shape = plan.property.shape := by
  rw [pair.property]

theorem kind (pair : plan.Matches other) : other.kind = plan.kind := by
  rw [Plan.kind, Plan.kind, pair.strategy]

theorem mergeVerb (pair : plan.Matches other) : other.mergeVerb = plan.mergeVerb := by
  rw [Plan.mergeVerb, Plan.mergeVerb, pair.strategy]

theorem initial (pair : plan.Matches other) : Emit.initial other = Emit.initial plan := by
  rw [Emit.initial, Emit.initial, pair.strategy, pair.property]

/-- Only maps and sets are stored in more than one way. -/
theorem storage_eq (pair : plan.Matches other) (map : ∀ key value, plan.strategy ≠ .map key value)
    (set : ∀ element, plan.strategy ≠ .set element) : Emit.storage other = Emit.storage plan := by
  have ty : other.property.ty = plan.property.ty := by rw [pair.property]
  rw [Emit.storage, Emit.storage, pair.strategy, ty]
  cases strategy : plan.strategy with
  | map key value => exact absurd strategy (map key value)
  | set element => exact absurd strategy (set element)
  | scalar hasDefault => cases hasDefault <;> rfl
  | _ => rfl

end Plan.Matches

namespace Run

open Emit (methods storage)

variable {V : Type}

/-! Cells that hold the same. -/

/-- The cells hold the same, possibly in different kinds of storage. -/
def Cell.Reflects (cell twin : Cell V) : Prop :=
  Content.ofCell twin = Content.ofCell cell

namespace Cell.Reflects

variable {cell twin : Cell V}

theorem content? (reflects : cell.Reflects twin) : twin.content? = cell.content? := by
  have same := congrArg (fun
    | Content.plain value => some value
    | Content.optional content => content
    | _ => none) reflects
  cases cell <;> cases twin <;> exact same

theorem entries (reflects : cell.Reflects twin) : twin.entries = cell.entries := by
  unfold Cell.Reflects at reflects
  cases cell <;> cases twin <;> first | rfl | exact Content.entries.inj reflects | cases reflects

theorem elements (reflects : cell.Reflects twin) : twin.elements = cell.elements := by
  unfold Cell.Reflects at reflects
  cases cell <;> cases twin <;> first | rfl | exact Content.elements.inj reflects | cases reflects

theorem assign (reflects : cell.Reflects twin) (given : Option V) :
    (cell.assign given).Reflects (twin.assign given) := by
  unfold Cell.Reflects at reflects ⊢
  cases cell <;> cases twin <;> simp_all [Cell.assign, Content.ofCell]

theorem clear (reflects : cell.Reflects twin) : cell.clear.Reflects twin.clear := by
  unfold Cell.Reflects at reflects ⊢
  cases cell <;> cases twin <;> simp_all [Cell.clear, Content.ofCell] <;> rfl

theorem of_entries (holds : cell.HoldsEntries) (hold : twin.HoldsEntries)
    (same : twin.entries = cell.entries) : cell.Reflects twin := by
  cases cell <;> first | exact holds.elim | skip
  all_goals cases twin <;> first | exact hold.elim | exact congrArg Content.entries same

theorem of_elements (holds : cell.HoldsElements) (hold : twin.HoldsElements)
    (same : twin.elements = cell.elements) : cell.Reflects twin := by
  cases cell <;> first | exact holds.elim | skip
  all_goals cases twin <;> first | exact hold.elim | exact congrArg Content.elements same

/-- In storage of one kind, cells that hold the same are the same. -/
theorem eq {storage : Emit.Storage} (reflects : cell.Reflects twin) (fits : cell.Fits storage)
    (fit : twin.Fits storage) : twin = cell := by
  refine Cell.eq_of_fits ?_ fit fits
  cases storage <;> first | exact reflects.content? | exact reflects.entries | exact reflects.elements

/-- Results that hold the same are one error, or cells that hold the same. -/
theorem of_map_eq {result echoed : Except BuilderError (Cell V)}
    (same : echoed.map Content.ofCell = result.map Content.ofCell) :
    (∃ error, result = .error error ∧ echoed = .error error) ∨
      ∃ cell twin, result = .ok cell ∧ echoed = .ok twin ∧ cell.Reflects twin := by
  cases result with
  | error error =>
      cases echoed with
      | error reason =>
          cases same
          exact .inl ⟨error, rfl, rfl⟩
      | ok _ => cases same
  | ok cell =>
      cases echoed with
      | error _ => cases same
      | ok twin => exact .inr ⟨cell, twin, rfl, rfl, Except.ok.inj same⟩

end Cell.Reflects

/-! Effects. -/

variable [BEq V]

theorem Cell.holdsElements_extendElements {cell : Cell V} (holds : cell.HoldsElements)
    (items : List V) : (cell.extendElements items).HoldsElements := by
  cases cell <;> first | exact holds.elim | trivial

theorem Cell.holdsElements_removeElement {cell : Cell V} (holds : cell.HoldsElements)
    (element : V) : (cell.removeElement element).HoldsElements := by
  cases cell <;> first | exact holds.elim | trivial

/-- Two machines at one property, each with its own state and cell. -/
structure Machine.Alongside (machine twin : Machine V) (plan other : Plan) (state echo : State V)
    (cell shadow : Cell V) : Prop where
  pair : plan.Matches other
  fits : cell.Fits (storage plan)
  fit : shadow.Fits (storage other)
  reflects : cell.Reflects shadow
  /-- Both kinds of storage take the same keys for equal. -/
  same : shadow.same = cell.same
  verdict : twin.verdict other.property echo = machine.verdict plan.property state
  typeName : twin.typeName = machine.typeName
  debug : twin.debug = machine.debug

namespace Machine.Alongside

variable {machine twin : Machine V} {plan other : Plan} {state echo : State V}
  {cell shadow : Cell V}

theorem verdicts (alongside : machine.Alongside twin plan other state echo cell shadow)
    (batch : List (List V)) :
    twin.verdicts other.property echo batch = machine.verdicts plan.property state batch := by
  induction batch with
  | nil => rfl
  | cons values rest ih => rw [Machine.verdicts, Machine.verdicts, ih, alongside.verdict]

theorem containsKey (alongside : machine.Alongside twin plan other state echo cell shadow)
    (key : V) : shadow.containsKey key = cell.containsKey key := by
  rw [Cell.containsKey_eq, Cell.containsKey_eq, alongside.reflects.entries, alongside.same]

theorem keyVerdict (alongside : machine.Alongside twin plan other state echo cell shadow)
    {staged batch : Cell V} (keys : ∀ key, batch.containsKey key = staged.containsKey key)
    (key : V) :
    twin.keyVerdict other.property shadow batch key =
      machine.keyVerdict plan.property cell staged key := by
  rw [Machine.keyVerdict, Machine.keyVerdict, alongside.containsKey, keys, alongside.debug,
    alongside.pair.baseName]

/-- What is staged grows by the same keys on both sides, as long as none is refused. -/
theorem entriesVerdict_staged (alongside : machine.Alongside twin plan other state echo cell shadow)
    {staged batch : Cell V} (holds : staged.HoldsEntries) (hold : batch.HoldsEntries)
    (entries : batch.entries = staged.entries) (same : batch.same = staged.same)
    (items : List (V × V)) :
    twin.entriesVerdict other.property echo shadow batch items =
      machine.entriesVerdict plan.property state cell staged items := by
  have keys (staged batch : Cell V) (entries : batch.entries = staged.entries)
      (same : batch.same = staged.same) (key : V) :
      batch.containsKey key = staged.containsKey key := by
    rw [Cell.containsKey_eq, Cell.containsKey_eq, entries, same]
  induction items generalizing staged batch with
  | nil => rfl
  | cons item rest ih =>
      obtain ⟨key, value⟩ := item
      rw [Machine.entriesVerdict, Machine.entriesVerdict, alongside.verdict,
        alongside.keyVerdict (keys staged batch entries same)]
      cases free : machine.keyVerdict plan.property cell staged key with
      | error error => rfl
      | ok _ =>
          have absent : staged.containsKey key = false := by
            rw [Machine.keyVerdict] at free
            split at free
            · cases free
            · rename_i neither
              exact (Bool.or_eq_false_iff.1 (Bool.not_eq_true _ ▸ neither)).2
          have next := ih (Cell.holdsEntries_insertEntry holds key value)
            (Cell.holdsEntries_insertEntry hold key value)
            (by rw [Cell.insertEntry_of_absent absent holds, Cell.insertEntry_of_absent
              ((keys staged batch entries same key).trans absent) hold, entries])
            (by rw [Cell.same_insertEntry, Cell.same_insertEntry, same])
          rw [next]

theorem entriesVerdict (alongside : machine.Alongside twin plan other state echo cell shadow)
    {key value : Ty} (strategy : plan.strategy = .map key value) (items : List (V × V)) :
    twin.entriesVerdict other.property echo shadow (.ofStorage (storage other)) items =
      machine.entriesVerdict plan.property state cell (.ofStorage (storage plan)) items := by
  have here := Cell.fits_ofStorage_of_map (V := V) strategy
  have strategy' := alongside.pair.strategy.trans strategy
  have there := Cell.fits_ofStorage_of_map (V := V) strategy'
  apply alongside.entriesVerdict_staged
  · exact Cell.holdsEntries_of_map strategy here
  · exact Cell.holdsEntries_of_map strategy' there
  · rw [Cell.entries_ofStorage, Cell.entries_ofStorage]
  · rw [Cell.same_eq_of_fits there alongside.fit, Cell.same_eq_of_fits here alongside.fits,
      alongside.same]

theorem assigned (alongside : machine.Alongside twin plan other state echo cell shadow)
    (given : Option V) :
    (twin.assigned other.property echo shadow given).map Content.ofCell =
      (machine.assigned plan.property state cell given).map Content.ofCell := by
  rw [Machine.assigned, Machine.assigned, alongside.verdicts]
  cases machine.verdicts plan.property state (given.toList.map ([·])) with
  | error error => rfl
  | ok _ => exact congrArg Except.ok (alongside.reflects.assign given)

theorem extendEntries (alongside : machine.Alongside twin plan other state echo cell shadow)
    {key value : Ty} (strategy : plan.strategy = .map key value) (items : List (V × V)) :
    ((twin.entriesVerdict other.property echo shadow (.ofStorage (storage other)) items).map
        fun _ => shadow.extendEntries items).map Content.ofCell =
      ((machine.entriesVerdict plan.property state cell (.ofStorage (storage plan)) items).map
        fun _ => cell.extendEntries items).map Content.ofCell := by
  have strategy' := alongside.pair.strategy.trans strategy
  have agree := alongside.entriesVerdict strategy items
  rw [agree]
  cases admitted : machine.entriesVerdict plan.property state cell (.ofStorage (storage plan))
      items with
  | error error => rfl
  | ok _ =>
      obtain ⟨fresh, apart⟩ := fresh_of_entriesVerdict strategy alongside.fits admitted
      obtain ⟨fresh', apart'⟩ :=
        fresh_of_entriesVerdict strategy' alongside.fit (agree.trans admitted)
      have holds := Cell.holdsEntries_of_map strategy alongside.fits
      have hold := Cell.holdsEntries_of_map strategy' alongside.fit
      refine congrArg Except.ok (Cell.Reflects.of_entries ?_ ?_ ?_)
      · exact Cell.holdsEntries_of_map strategy (Cell.fits_extendEntries alongside.fits items)
      · exact Cell.holdsEntries_of_map strategy' (Cell.fits_extendEntries alongside.fit items)
      · rw [Cell.entries_extendEntries holds fresh apart,
          Cell.entries_extendEntries hold fresh' apart', alongside.reflects.entries]

theorem removeKey (alongside : machine.Alongside twin plan other state echo cell shadow)
    {keyTy valueTy : Ty} (strategy : plan.strategy = .map keyTy valueTy) (key : V) :
    (match shadow.withoutKey? key with
      | some rest => Except.ok rest
      | none => .error (BuilderError.missingKey other.property.baseName (twin.debug key))).map
        Content.ofCell =
      (match cell.withoutKey? key with
        | some rest => Except.ok rest
        | none => .error (BuilderError.missingKey plan.property.baseName (machine.debug key))).map
          Content.ofCell := by
  have strategy' := alongside.pair.strategy.trans strategy
  have agree : (shadow.withoutKey? key).isSome = (cell.withoutKey? key).isSome := by
    rw [Cell.isSome_withoutKey?, Cell.isSome_withoutKey?, alongside.containsKey]
  cases here : cell.withoutKey? key with
  | none =>
      cases there : shadow.withoutKey? key with
      | some rest => simp [here, there] at agree
      | none => rw [alongside.pair.baseName, alongside.debug]
  | some rest =>
      cases there : shadow.withoutKey? key with
      | none => simp [here, there] at agree
      | some remainder =>
          obtain ⟨entries, _, _, keeps⟩ := Cell.withoutKey?_eq_some here
          obtain ⟨entries', _, _, keeps'⟩ := Cell.withoutKey?_eq_some there
          refine congrArg Except.ok (Cell.Reflects.of_entries ?_ ?_ ?_)
          · exact Cell.holdsEntries_of_map strategy (keeps _ alongside.fits)
          · exact Cell.holdsEntries_of_map strategy' (keeps' _ alongside.fit)
          · rw [entries, entries', alongside.same, alongside.reflects.entries]

theorem extendElements (alongside : machine.Alongside twin plan other state echo cell shadow)
    (holds : cell.HoldsElements) (hold : shadow.HoldsElements) (items : List V) :
    (cell.extendElements items).Reflects (shadow.extendElements items) := by
  apply Cell.Reflects.of_elements (Cell.holdsElements_extendElements holds items)
    (Cell.holdsElements_extendElements hold items)
  rw [Cell.elements_extendElements holds, Cell.elements_extendElements hold, alongside.same,
    alongside.reflects.elements]

theorem addAll (alongside : machine.Alongside twin plan other state echo cell shadow)
    (holds : cell.HoldsElements) (hold : shadow.HoldsElements) (items : List V) :
    ((twin.verdicts other.property echo (items.map ([·]))).map
        fun _ => shadow.extendElements items).map Content.ofCell =
      ((machine.verdicts plan.property state (items.map ([·]))).map
        fun _ => cell.extendElements items).map Content.ofCell := by
  rw [alongside.verdicts]
  cases machine.verdicts plan.property state (items.map ([·])) with
  | error error => rfl
  | ok _ => exact congrArg Except.ok (alongside.extendElements holds hold items)

theorem add (alongside : machine.Alongside twin plan other state echo cell shadow)
    (holds : cell.HoldsElements) (hold : shadow.HoldsElements) (element : V) :
    ((twin.verdict other.property echo [element]).map
        fun _ => shadow.extendElements [element]).map Content.ofCell =
      ((machine.verdict plan.property state [element]).map
        fun _ => cell.extendElements [element]).map Content.ofCell := by
  rw [← twin.verdicts_singleton, ← machine.verdicts_singleton]
  exact alongside.addAll holds hold [element]

theorem removeElement (alongside : machine.Alongside twin plan other state echo cell shadow)
    (holds : cell.HoldsElements) (hold : shadow.HoldsElements) (element : V) :
    (cell.removeElement element).Reflects (shadow.removeElement element) := by
  apply Cell.Reflects.of_elements (Cell.holdsElements_removeElement holds element)
    (Cell.holdsElements_removeElement hold element)
  rw [Cell.elements_removeElement, Cell.elements_removeElement, alongside.same,
    alongside.reflects.elements]

/-- Lists are stored in one way only. -/
theorem eq_of_list (alongside : machine.Alongside twin plan other state echo cell shadow)
    {ty : Ty} (strategy : plan.strategy = .list ty) : shadow = cell := by
  have same := alongside.pair.storage_eq (by simp [strategy]) (by simp [strategy])
  have fit := alongside.fit
  exact alongside.reflects.eq alongside.fits (same ▸ fit)

/-- A call comes to the same on both sides. -/
theorem effect (alongside : machine.Alongside twin plan other state echo cell shadow)
    {method : Emit.Method} {verb : Verb} {arguments : List (Argument V)}
    (called : Called plan method verb arguments) :
    (twin.effect other echo shadow verb arguments).map Content.ofCell =
      (machine.effect plan state cell verb arguments).map Content.ofCell := by
  have content := alongside.reflects.content?
  have pair := alongside.pair.strategy
  rw [Machine.effect.eq_def, Machine.effect.eq_def]
  cases called with
  | setValue strategy value =>
      rw [pair.trans strategy, strategy]
      exact alongside.assigned (some value)
  | mapRequired strategy apply | mapDefault strategy apply =>
      rw [pair.trans strategy, strategy]
      dsimp only
      rw [content]
      cases cell.content? with
      | some current => exact alongside.assigned (some (apply current))
      | none =>
          dsimp only
          rw [alongside.pair.baseName, alongside.typeName]
  | setOptional strategy given =>
      rw [pair.trans strategy, strategy]
      exact alongside.assigned given
  | mapOptional strategy apply =>
      rw [pair.trans strategy, strategy]
      dsimp only
      rw [content]
      cases cell.content? with
      | some current => exact alongside.assigned (some (apply current))
      | none => exact congrArg Except.ok alongside.reflects
  | put strategy key value =>
      rw [pair.trans strategy, strategy]
      exact alongside.extendEntries strategy [(key, value)]
  | putAll strategy items =>
      rw [pair.trans strategy, strategy]
      exact alongside.extendEntries strategy items
  | removeEntry strategy key =>
      rw [pair.trans strategy, strategy]
      exact alongside.removeKey strategy key
  | addToSet strategy doc element =>
      have holds := Cell.holdsElements_of_set strategy alongside.fits
      have hold := Cell.holdsElements_of_set (pair.trans strategy) alongside.fit
      rw [pair.trans strategy, strategy]
      exact alongside.add holds hold element
  | addAllToSet strategy items =>
      have holds := Cell.holdsElements_of_set strategy alongside.fits
      have hold := Cell.holdsElements_of_set (pair.trans strategy) alongside.fit
      rw [pair.trans strategy, strategy]
      exact alongside.addAll holds hold items
  | removeFromSet strategy doc element =>
      have holds := Cell.holdsElements_of_set strategy alongside.fits
      have hold := Cell.holdsElements_of_set (pair.trans strategy) alongside.fit
      rw [pair.trans strategy, strategy]
      exact congrArg Except.ok (alongside.removeElement holds hold element)
  | addToList strategy doc element =>
      have holds := Cell.holdsElements_of_list strategy alongside.fits
      have hold := Cell.holdsElements_of_list (pair.trans strategy) alongside.fit
      rw [pair.trans strategy, strategy]
      exact alongside.add holds hold element
  | addAllToList strategy items =>
      have holds := Cell.holdsElements_of_list strategy alongside.fits
      have hold := Cell.holdsElements_of_list (pair.trans strategy) alongside.fit
      rw [pair.trans strategy, strategy]
      exact alongside.addAll holds hold items
  | removeFromList strategy doc element =>
      rw [pair.trans strategy, strategy, alongside.eq_of_list strategy]
  | clearMap strategy items | clearSet strategy items | clearList strategy items =>
      rw [pair.trans strategy, strategy]
      exact congrArg Except.ok alongside.reflects.clear

end Machine.Alongside

end Run
end StructBuilder
