import StructBuilder.Proofs.History
import StructBuilder.Proofs.RoundTrip

/-!
What collections hold. In every history the cell of a collection is the replay of its
log, and the built value shows that replay in the order of the declared container. For
maps and sets this needs equality to be lawful on the keys that occur, and sorted
containers need a lawful comparison too; lists need nothing.
-/

namespace StructBuilder.Run

open Emit (methods storage)

variable {V : Type} [BEq V] {machine : Machine V} {plans : List Plan} {plan : Plan}
  {state : State V} {cell : Cell V} {within : V → Prop}

/-- Maps and sets, which take equal keys for the same. -/
def Cell.Keyed : Cell V → Prop
  | indexMap _ | orderedMap _ | indexSet _ | orderedSet _ => True
  | _ => False

omit [BEq V] in
theorem keyed_of_map {key value : Ty} (strategy : plan.strategy = .map key value)
    (fits : cell.Fits (storage plan)) : cell.Keyed := by
  unfold storage at fits
  cases library : plan.features.library <;> cases cell <;> simp_all [Cell.Fits, Cell.Keyed]

omit [BEq V] in
theorem keyed_of_set {element : Ty} (strategy : plan.strategy = .set element)
    (fits : cell.Fits (storage plan)) : cell.Keyed := by
  unfold storage at fits
  cases library : plan.features.library <;> cases cell <;> simp_all [Cell.Fits, Cell.Keyed]

omit [BEq V] in
theorem vector_of_list {element : Ty} (strategy : plan.strategy = .list element)
    (fits : cell.Fits (storage plan)) : ∃ items, cell = .vector items := by
  unfold storage at fits
  cases cell <;> simp_all [Cell.Fits]

/-- On lawful values it does not matter on which side the stored one stands. -/
theorem same_eq_beq (lawful : Lawful within) (keyed : cell.Keyed) {stored sought : V}
    (there : within stored) (here : within sought) :
    cell.same stored sought = (stored == sought) := by
  have turned : (sought == stored) = (stored == sought) := lawful.beq_comm here there
  cases cell <;> first | exact keyed.elim | exact turned | rfl

/-! Maps. -/

/-- The cell of a map is the replay of its log, in which no key was added twice without
being removed in between. -/
def Mirrors (within : V → Prop) (log : List (Deed (V × V) V)) (cell : Cell V) : Prop :=
  (∀ deed ∈ log, within (deed.subject Prod.fst)) →
    cell.entries = replay Prod.fst log ∧ Fresh Prod.fst log

theorem containsKey_eq_any (lawful : Lawful within) {keyTy valueTy : Ty}
    (strategy : plan.strategy = .map keyTy valueTy) (fits : cell.Fits (storage plan))
    {log : List (Deed (V × V) V)} (inside : ∀ deed ∈ log, within (deed.subject Prod.fst))
    (entries : cell.entries = replay Prod.fst log) {key : V} (here : within key) :
    cell.containsKey key = (replay Prod.fst log).any (·.1 == key) := by
  rw [Cell.containsKey_eq, entries, Bool.eq_iff_iff, List.any_eq_true, List.any_eq_true]
  refine exists_congr fun held => and_congr_right fun there => ?_
  rw [same_eq_beq lawful (keyed_of_map strategy fits) (within_of_mem_replay inside there) here]

theorem mirrors_put (lawful : Lawful within) {key value : Ty}
    (strategy : plan.strategy = .map key value) (fits : cell.Fits (storage plan))
    {items : List (V × V)}
    (admitted : machine.entriesVerdict plan.property state cell (.ofStorage (storage plan)) items =
      .ok ())
    {log : List (Deed (V × V) V)} (mirrors : Mirrors within log cell) :
    Mirrors within (log ++ items.map .add) (cell.extendEntries items) := by
  intro inside
  have earlier : ∀ deed ∈ log, within (deed.subject Prod.fst) :=
    fun deed mem => inside deed (List.mem_append_left _ mem)
  have known : ∀ item ∈ items, within item.1 := fun item mem =>
    inside (.add item) (List.mem_append_right _ (List.mem_map_of_mem mem))
  obtain ⟨entries, fresh⟩ := mirrors earlier
  obtain ⟨new, apart⟩ := Machine.fresh_of_entriesVerdict strategy fits admitted
  have keyed := keyed_of_map strategy fits
  have absent : ∀ item ∈ items, (replay Prod.fst log).any (·.1 == item.1) = false := by
    intro item mem
    rw [← containsKey_eq_any lawful strategy fits earlier entries (known item mem)]
    exact new item mem
  have distinct : items.Pairwise fun first second => (first.1 == second.1) = false := by
    refine apart.imp_of_mem fun {first second} mem there different => ?_
    rwa [← same_eq_beq lawful keyed (known first mem) (known second there)]
  have holds := Cell.holdsEntries_of_map strategy fits
  exact ⟨by rw [Cell.entries_extendEntries holds new apart, entries,
      replay_append_adds absent distinct],
    fresh_append_adds lawful inside fresh absent distinct⟩

theorem mirrors_remove (lawful : Lawful within) {key value : Ty}
    (strategy : plan.strategy = .map key value) (fits : cell.Fits (storage plan)) {sought : V}
    {rest : Cell V} (found : cell.withoutKey? sought = some rest)
    {log : List (Deed (V × V) V)} (mirrors : Mirrors within log cell) :
    Mirrors within (log ++ [.remove sought]) rest := by
  intro inside
  obtain ⟨earlier, here⟩ := inside_concat.1 inside
  obtain ⟨entries, fresh⟩ := mirrors earlier
  obtain ⟨erased, _⟩ := Cell.withoutKey?_eq_some found
  refine ⟨?_, fresh_concat.2 ⟨fresh, fun item same => nomatch same⟩⟩
  rw [erased, entries]
  refine (replay_concat_remove lawful earlier here fun item mem => ?_).symm
  exact same_eq_beq lawful (keyed_of_map strategy fits) (within_of_mem_replay earlier mem) here

theorem keeps_mirrors (lawful : Lawful within) {key value : Ty}
    (strategy : plan.strategy = .map key value) :
    Facet.entries.Keeps machine plan (Mirrors within) := by
  have cleared {cell : Cell V} (entries : cell.entries = []) : Mirrors within [] cell := by
    refine fun _ => ⟨entries, ?_⟩
    intro before item after split
    cases before <;> cases split
  refine ⟨fun _ entries _ => cleared entries, ?_⟩
  intro log state cell after method verb arguments cellSuits called effect mirrors
  have fits := cellSuits.fits
  rw [Machine.effect.eq_def, strategy] at effect
  cases called with
  | put _ key value =>
      obtain ⟨_, admitted, rfl⟩ := map_eq_ok_iff.1 effect
      exact mirrors_put lawful strategy fits admitted mirrors
  | putAll _ items =>
      obtain ⟨_, admitted, rfl⟩ := map_eq_ok_iff.1 effect
      exact mirrors_put lawful strategy fits admitted mirrors
  | removeEntry _ sought =>
      dsimp only at effect
      split at effect
      · rename_i found
        cases effect
        exact mirrors_remove lawful strategy fits found mirrors
      · cases effect
  | clearMap _ items =>
      cases effect
      exact cleared (Cell.entries_clear cell)
  | setValue other | mapDefault other | mapRequired other => cases strategy.symm.trans other
  | setOptional other | mapOptional other => cases strategy.symm.trans other
  | addToSet other | addAllToSet other | removeFromSet other | clearSet other =>
      cases strategy.symm.trans other
  | addToList other | addAllToList other | removeFromList other | clearList other =>
      cases strategy.symm.trans other

/-! Sets. -/

omit [BEq V] in
theorem addAbsent_congr {same other : V → V → Bool} {present added : List V}
    (agree : ∀ stored ∈ present ++ added, ∀ sought ∈ added,
      same stored sought = other stored sought) :
    Cell.addAbsent same present added = Cell.addAbsent other present added := by
  induction added generalizing present with
  | nil => rfl
  | cons element rest ih =>
      have here : present.any (same · element) = present.any (other · element) := by
        rw [Bool.eq_iff_iff, List.any_eq_true, List.any_eq_true]
        refine exists_congr fun stored => and_congr_right fun mem => ?_
        rw [agree stored (List.mem_append_left _ mem) element List.mem_cons_self]
      rw [Cell.addAbsent_cons, Cell.addAbsent_cons, here]
      refine ih fun stored mem sought later => agree stored ?_ sought (List.mem_cons_of_mem _ later)
      split at mem
      · simp only [List.mem_append, List.mem_cons] at mem ⊢
        tauto
      · simpa [or_assoc] using mem

theorem replay_append_elements (log : List (Deed V V)) (items : List V) :
    replay id (log ++ items.map .add) = Cell.addAbsent (· == ·) (replay id log) items := by
  rw [replay, List.foldl_append, List.foldl_map]
  rfl

def MirrorsSet (within : V → Prop) (log : List (Deed V V)) (cell : Cell V) : Prop :=
  (∀ deed ∈ log, within (deed.subject id)) → cell.elements = replay id log

theorem mirrorsSet_add (lawful : Lawful within) {element : Ty}
    (strategy : plan.strategy = .set element) (fits : cell.Fits (storage plan))
    {log : List (Deed V V)} (mirrors : MirrorsSet within log cell) (items : List V) :
    MirrorsSet within (log ++ items.map .add) (cell.extendElements items) := by
  intro inside
  have earlier : ∀ deed ∈ log, within (deed.subject id) :=
    fun deed mem => inside deed (List.mem_append_left _ mem)
  have known : ∀ item ∈ items, within item := fun item mem =>
    inside (.add item) (List.mem_append_right _ (List.mem_map_of_mem mem))
  rw [Cell.elements_extendElements (Cell.holdsElements_of_set strategy fits), mirrors earlier,
    replay_append_elements]
  -- the storages compare in different directions, and only on lawful values is that the same
  refine addAbsent_congr fun stored mem sought there => ?_
  have held : within stored := by
    rcases List.mem_append.1 mem with mem | mem
    · exact within_of_mem_replay earlier mem
    · exact known stored mem
  exact same_eq_beq lawful (keyed_of_set strategy fits) held (known sought there)

theorem mirrorsSet_remove (lawful : Lawful within) {element : Ty}
    (strategy : plan.strategy = .set element) (fits : cell.Fits (storage plan))
    {log : List (Deed V V)} (mirrors : MirrorsSet within log cell) (sought : V) :
    MirrorsSet within (log ++ [.remove sought]) (cell.removeElement sought) := by
  intro inside
  obtain ⟨earlier, here⟩ := inside_concat.1 inside
  rw [Cell.elements_removeElement, mirrors earlier]
  refine (replay_concat_remove lawful earlier here fun item mem => ?_).symm
  exact same_eq_beq lawful (keyed_of_set strategy fits) (within_of_mem_replay earlier mem) here

theorem keeps_mirrorsSet (lawful : Lawful within) {element : Ty}
    (strategy : plan.strategy = .set element) :
    Facet.elements.Keeps machine plan (MirrorsSet within) := by
  refine ⟨fun _ _ elements _ => elements, ?_⟩
  intro log state cell after method verb arguments cellSuits called effect mirrors
  have fits := cellSuits.fits
  rw [Machine.effect.eq_def, strategy] at effect
  cases called with
  | addToSet _ doc item =>
      obtain ⟨_, _, rfl⟩ := map_eq_ok_iff.1 effect
      exact mirrorsSet_add lawful strategy fits mirrors [item]
  | addAllToSet _ items =>
      obtain ⟨_, _, rfl⟩ := map_eq_ok_iff.1 effect
      exact mirrorsSet_add lawful strategy fits mirrors items
  | removeFromSet _ doc sought =>
      cases effect
      exact mirrorsSet_remove lawful strategy fits mirrors sought
  | clearSet _ items =>
      cases effect
      exact fun _ => Cell.elements_clear cell
  | setValue other | mapDefault other | mapRequired other => cases strategy.symm.trans other
  | setOptional other | mapOptional other => cases strategy.symm.trans other
  | put other | putAll other | removeEntry other | clearMap other =>
      cases strategy.symm.trans other
  | addToList other | addAllToList other | removeFromList other | clearList other =>
      cases strategy.symm.trans other

/-! Lists. -/

theorem keeps_list {element : Ty} (strategy : plan.strategy = .list element) :
    Facet.elements.Keeps machine plan fun log cell => cell.elements = replayList log := by
  refine ⟨fun _ _ elements => elements, ?_⟩
  intro log state cell after method verb arguments cellSuits called effect mirrors
  obtain ⟨held, rfl⟩ := vector_of_list strategy cellSuits.fits
  obtain rfl : held = replayList log := mirrors
  rw [Machine.effect.eq_def, strategy] at effect
  cases called with
  | addToList _ doc item =>
      obtain ⟨_, _, rfl⟩ := map_eq_ok_iff.1 effect
      exact (replayList_append_adds log [item]).symm
  | addAllToList _ items =>
      obtain ⟨_, _, rfl⟩ := map_eq_ok_iff.1 effect
      exact (replayList_append_adds log items).symm
  | removeFromList _ doc sought =>
      cases effect
      exact (List.foldl_concat Deed.applyToList [] (.remove sought) log).symm
  | clearList _ items =>
      cases effect
      rfl
  | setValue other | mapDefault other | mapRequired other => cases strategy.symm.trans other
  | setOptional other | mapOptional other => cases strategy.symm.trans other
  | put other | putAll other | removeEntry other | clearMap other =>
      cases strategy.symm.trans other
  | addToSet other | addAllToSet other | removeFromSet other | clearSet other =>
      cases strategy.symm.trans other

/-! Built collections. -/

section

variable [Ord V]

/-- Sorting loses nothing and leaves the keys in strictly ascending order. -/
theorem ofList_arranges {α : Type} (key : α → V) {kept : List α} (ordered : Ordered within)
    (known : ∀ item ∈ kept, within (key item))
    (distinct : kept.Pairwise fun first second => (key second == key first) = false) :
    (Sorted.ofList key kept).Perm kept ∧
      (Sorted.ofList key kept).Pairwise fun first second =>
        compare (key first) (key second) = .lt := by
  have apart : kept.Pairwise fun first second => compare (key second) (key first) ≠ .eq := by
    refine distinct.imp_of_mem fun {first second} mem there different same => ?_
    rw [ordered.beq_of_eq (known second there) (known first mem) same] at different
    cases different
  exact ⟨Sorted.ofList_perm apart,
    Sorted.pairwise_ofList ordered.lt_of_gt ordered.lt_trans known apart⟩

variable {order : Order}

theorem arranges_entries (ordered : order ≠ .insertion → Ordered within) {kept : List (V × V)}
    (known : ∀ entry ∈ kept, within entry.1)
    (distinct : kept.Pairwise fun first second => (second.1 == first.1) = false) :
    order.Arranges Prod.fst kept (order.entries kept) := by
  cases order with
  | insertion => exact Order.insertion_entries distinct
  | sorted => exact ofList_arranges Prod.fst (ordered (by simp)) known distinct
  | arbitrary => exact (ofList_arranges Prod.fst (ordered (by simp)) known distinct).1

theorem arranges_elements (ordered : order ≠ .insertion → Ordered within) {kept : List V}
    (known : ∀ element ∈ kept, within element)
    (distinct : kept.Pairwise fun first second => (second == first) = false) :
    order.Arranges id kept (order.elements kept) := by
  cases order with
  | insertion => exact Order.insertion_elements distinct
  | sorted => exact ofList_arranges id (ordered (by simp)) known distinct
  | arbitrary => exact (ofList_arranges id (ordered (by simp)) known distinct).1

end

theorem apart_replay {α : Type} {key : α → V} {log : List (Deed α V)} (lawful : Lawful within)
    (inside : ∀ deed ∈ log, within (deed.subject key)) :
    (replay key log).Pairwise fun first second =>
      (key first == key second) = false ∧ (key second == key first) = false := by
  refine (pairwise_replay key log).imp_of_mem ?_
  intro first second mem there different
  have turned : (key second == key first) = (key first == key second) :=
    lawful.beq_comm (within_of_mem_replay inside there) (within_of_mem_replay inside mem)
  exact ⟨different, turned.trans different⟩

/-- What the entries of a built map are, given the log of the map. -/
structure MapHolds [Ord V] (order : Order) (within : V → Prop) (log : List (Deed (V × V) V))
    (entries : List (V × V)) : Prop where
  arranged : order.Arranges Prod.fst (replay Prod.fst log) entries
  distinct : entries.Pairwise fun first second =>
    (first.1 == second.1) = false ∧ (second.1 == first.1) = false
  /-- No value was ever overwritten. -/
  fresh : Fresh Prod.fst log
  /-- A key has the value that was put last, unless it was removed since. -/
  last : ∀ {key}, within key → ∀ {entry},
    entry ∈ entries ∧ (entry.1 == key) = true ↔ lastDeed? Prod.fst log key = some (.add entry)

/-- What the elements of a built set are, given the log of the set. -/
structure SetHolds [Ord V] (order : Order) (within : V → Prop) (log : List (Deed V V))
    (elements : List V) : Prop where
  arranged : order.Arranges id (replay id log) elements
  distinct : elements.Pairwise fun first second =>
    (first == second) = false ∧ (second == first) = false
  last : ∀ {element}, within element →
    ((∃ held ∈ elements, (held == element) = true) ↔ Present id log element)

/-- Built collections are what histories make of them, and there is a history of every state. -/
structure Machine.Replays [Ord V] (machine : Machine V) (plans : List Plan) : Prop where
  logged : ∀ {state}, machine.Reachable state → ∀ plan,
    (∃ log, machine.History .entries plan log state) ∧
      ∃ log, machine.History .elements plan log state
  maps : ∀ {plan order key value within log state built}, plan ∈ plans →
    plan.property.shape = .map order key value → Lawful within →
    (order ≠ .insertion → Ordered within) →
    machine.History .entries plan log state → (∀ deed ∈ log, within (deed.subject Prod.fst)) →
    machine.build state = .ok built →
    ∃ entries, built.lookup plan.property.name = some (.entries entries) ∧
      MapHolds order within log entries
  /-- A key can be put if it was never put, or removed since, and not otherwise. -/
  puts : ∀ {plan order keyTy valueTy within log state key value}, plan ∈ plans →
    plan.property.shape = .map order keyTy valueTy → Lawful within →
    machine.History .entries plan log state → (∀ deed ∈ log, within (deed.subject Prod.fst)) →
    within key → machine.verdict plan.property state [key, value] = .ok () →
    ((∃ answer, (machine.call (Emit.fragments plan) (plan.property.method .put)
      [.one key, .one value] state).answer = .ok answer) ↔ ¬Present Prod.fst log key)
  sets : ∀ {plan order element within log state built}, plan ∈ plans →
    plan.property.shape = .set order element → Lawful within →
    (order ≠ .insertion → Ordered within) →
    machine.History .elements plan log state → (∀ deed ∈ log, within (deed.subject id)) →
    machine.build state = .ok built →
    ∃ elements, built.lookup plan.property.name = some (.elements elements) ∧
      SetHolds order within log elements
  /-- Lists repeat what was added, and nothing is asked of equality. -/
  lists : ∀ {plan element log state built}, plan ∈ plans →
    plan.property.shape = .list element → machine.History .elements plan log state →
    machine.build state = .ok built →
    built.lookup plan.property.name = some (.elements (replayList log))

section

variable [Ord V] {order : Order}

theorem lookup_of_build (consistent : state.Consistent plans) (planned : machine.Planned plans)
    (mem : plan ∈ plans) (kind : plan.kind ≠ .required)
    (found : state.cell? plan.property.name = some cell) {built : Value V}
    (complete : machine.build state = .ok built) :
    built.lookup plan.property.name =
      some ((Content.ofCell cell).collect plan.property.shape) := by
  obtain ⟨content, held, looked, here, finished⟩ :=
    finished_of_build consistent planned complete mem
  obtain rfl : held = cell := Option.some.inj (here.symm.trans found)
  rw [finished_of_kind kind] at finished
  cases finished
  exact looked

theorem mapHolds (lawful : Lawful within) (ordered : order ≠ .insertion → Ordered within)
    {log : List (Deed (V × V) V)} (inside : ∀ deed ∈ log, within (deed.subject Prod.fst))
    (fresh : Fresh Prod.fst log) :
    MapHolds order within log (order.entries (replay Prod.fst log)) := by
  have apart := apart_replay lawful inside
  have arranged := arranges_entries ordered (fun _ mem => within_of_mem_replay inside mem)
    (apart.imp And.right)
  refine ⟨arranged, ?_, fresh, ?_⟩
  · exact (arranged.perm.pairwise_iff And.symm).2 apart
  · intro key here entry
    rw [arranged.perm.mem_iff, mem_replay_iff lawful inside fresh here]

theorem setHolds (lawful : Lawful within) (ordered : order ≠ .insertion → Ordered within)
    {log : List (Deed V V)} (inside : ∀ deed ∈ log, within (deed.subject id)) :
    SetHolds order within log (order.elements (replay id log)) := by
  have apart := apart_replay lawful inside
  have arranged := arranges_elements ordered (fun _ mem => within_of_mem_replay inside mem)
    (apart.imp And.right)
  refine ⟨arranged, ?_, ?_⟩
  · exact (arranged.perm.pairwise_iff And.symm).2 apart
  · intro element here
    rw [← exists_mem_replay_iff lawful inside here]
    exact exists_congr fun held => and_congr_left fun _ => arranged.perm.mem_iff

end

omit [BEq V] in
theorem strategy_of_map_shape (planned : machine.Planned plans) (mem : plan ∈ plans) {order : Order}
    {keyTy valueTy : Ty} (shape : plan.property.shape = .map order keyTy valueTy) :
    ∃ key value, plan.strategy = .map key value := by
  have suits := planned.suits plan mem
  rw [shape] at suits
  cases strategy : plan.strategy <;> rw [strategy] at suits <;>
    first | exact suits.elim | exact ⟨_, _, rfl⟩

omit [BEq V] in
theorem strategy_of_set_shape (planned : machine.Planned plans) (mem : plan ∈ plans) {order : Order}
    {elementTy : Ty} (shape : plan.property.shape = .set order elementTy) :
    ∃ element, plan.strategy = .set element := by
  have suits := planned.suits plan mem
  rw [shape] at suits
  cases strategy : plan.strategy <;> rw [strategy] at suits <;>
    first | exact suits.elim | exact ⟨_, rfl⟩

omit [BEq V] in
theorem strategy_of_list_shape (planned : machine.Planned plans) (mem : plan ∈ plans)
    {elementTy : Ty} (shape : plan.property.shape = .list elementTy) :
    ∃ element, plan.strategy = .list element := by
  have suits := planned.suits plan mem
  rw [shape] at suits
  cases strategy : plan.strategy <;> rw [strategy] at suits <;>
    first | exact suits.elim | exact ⟨_, rfl⟩

/-- The hook aside, a key is refused exactly if its last deed was to be put. -/
theorem put_iff (planned : machine.Planned plans) (mem : plan ∈ plans) {keyTy valueTy : Ty}
    (strategy : plan.strategy = .map keyTy valueTy) (lawful : Lawful within)
    {log : List (Deed (V × V) V)} (history : machine.History .entries plan log state)
    (inside : ∀ deed ∈ log, within (deed.subject Prod.fst)) {key value : V} (here : within key)
    (accepted : machine.verdict plan.property state [key, value] = .ok ()) :
    (∃ answer, (machine.call (Emit.fragments plan) (plan.property.method .put)
      [.one key, .one value] state).answer = .ok answer) ↔ ¬Present Prod.fst log key := by
  have consistent := history.reachable.consistent planned
  obtain ⟨cell, found, mirrors⟩ := (keeps_mirrors lawful strategy).history planned mem history
  have fits := (consistent.suits mem found).fits
  obtain ⟨entries, _⟩ := mirrors inside
  have known := Emit.putter_mem strategy
  have named : (Emit.putter plan.property keyTy valueTy).name = plan.property.method .put := rfl
  have accepts : Argument.AcceptedBy (Emit.putter plan.property keyTy valueTy)
      [.one key, .one value] :=
    .cons trivial (.cons trivial .nil)
  have settles := settles_call (consistent.ready planned mem found) known named accepts
  rw [← exists_mem_replay_iff lawful inside here, ← List.any_eq_true,
    ← containsKey_eq_any lawful strategy fits inside entries here]
  rw [named, Machine.effect.eq_def, strategy] at settles
  dsimp only at settles
  rw [Machine.entriesVerdict_singleton, accepted, Machine.keyVerdict, Cell.containsKey_ofStorage]
    at settles
  generalize machine.call (Emit.fragments plan) (plan.property.method .put)
    [.one key, .one value] state = ran at settles ⊢
  cases present : cell.containsKey key with
  | false =>
      rw [present] at settles
      cases settles with
      | stored answer _ => simp [answer]
  | true =>
      rw [present] at settles
      cases settles with
      | refused answer _ => simp [answer]

/-- Every collection of every builder holds what its history has left there. -/
theorem replays_of_emitted [Ord V] {blueprint : Blueprint} {library : Library}
    (emitted : machine.Emitted blueprint library) :
    machine.Replays (blueprint.plans library) := by
  have planned := emitted.planned
  refine ⟨fun reachable plan => ⟨reachable.exists_history .entries plan,
    reachable.exists_history .elements plan⟩, ?_, ?_, ?_, ?_⟩
  · intro plan order key value within log state built mem shape lawful ordered history inside
      complete
    obtain ⟨_, _, strategy⟩ := strategy_of_map_shape planned mem shape
    have consistent := history.reachable.consistent planned
    obtain ⟨cell, found, mirrors⟩ := (keeps_mirrors lawful strategy).history planned mem history
    obtain ⟨entries, fresh⟩ := mirrors inside
    have holds := Cell.holdsEntries_of_map strategy (consistent.suits mem found).fits
    have looked := lookup_of_build consistent planned mem (by simp [Plan.kind, strategy]) found
      complete
    rw [ofCell_eq_entries holds, entries, shape] at looked
    exact ⟨_, looked, mapHolds lawful ordered inside fresh⟩
  · intro plan order keyTy valueTy within log state key value mem shape lawful history inside here
      accepted
    obtain ⟨_, _, strategy⟩ := strategy_of_map_shape planned mem shape
    exact put_iff planned mem strategy lawful history inside here accepted
  · intro plan order element within log state built mem shape lawful ordered history inside complete
    obtain ⟨_, strategy⟩ := strategy_of_set_shape planned mem shape
    have consistent := history.reachable.consistent planned
    obtain ⟨cell, found, mirrors⟩ := (keeps_mirrorsSet lawful strategy).history planned mem history
    have holds := Cell.holdsElements_of_set strategy (consistent.suits mem found).fits
    have looked := lookup_of_build consistent planned mem (by simp [Plan.kind, strategy]) found
      complete
    rw [ofCell_eq_elements holds, mirrors inside, shape] at looked
    exact ⟨_, looked, setHolds lawful ordered inside⟩
  · intro plan element log state built mem shape history complete
    obtain ⟨_, strategy⟩ := strategy_of_list_shape planned mem shape
    have consistent := history.reachable.consistent planned
    obtain ⟨cell, found, mirrors⟩ := (keeps_list strategy).history planned mem history
    have holds := Cell.holdsElements_of_list strategy (consistent.suits mem found).fits
    have looked := lookup_of_build consistent planned mem (by simp [Plan.kind, strategy]) found
      complete
    rwa [ofCell_eq_elements holds, mirrors, shape] at looked

theorem history_replaced : Tally.machine.History .entries Tally.table
    [.add (2, 5), .add (1, 3), .remove 2, .add (2, 9)] Tally.replaced := by
  obtain ⟨remover, removes, removing, ofOne⟩ : ∃ method ∈ methods Tally.table,
      method.name = Tally.table.property.method .remove ∧ Argument.AcceptedBy method [.one 2] := by
    decide +kernel
  obtain ⟨putter, puts, putting, ofTwo⟩ : ∃ method ∈ methods Tally.table,
      method.name = Tally.table.property.method .put ∧
        Argument.AcceptedBy method [.one 2, .one 9] := by
    decide +kernel
  have known : Emit.fragments Tally.table ∈ Tally.machine.builder.fragments :=
    List.mem_map_of_mem (Tally.plan_mem _)
  have fresh : Tally.machine.History .entries Tally.table [] Tally.machine.new := .new
  have fits : Value.Fits Tally.machine.builder Tally.sample := by decide +kernel
  have merged := fresh.mergeValue fits
  have history := (merged.call known removes ofOne).call known puts ofTwo
  rw [removing, putting] at history
  convert history using 1
  · decide +kernel
  · rw [Tally.replaced]

/-- A key that was removed can be put again, and then has the new value. -/
theorem replays_tally_replaced :
    ∃ built entries, Tally.machine.build Tally.replaced = .ok built ∧
      built.lookup "table" = some (.entries entries) ∧
      MapHolds .sorted (fun _ => True) [.add (2, 5), .add (1, 3), .remove 2, .add (2, 9)]
        entries := by
  obtain ⟨built, complete⟩ : ∃ built, Tally.machine.build Tally.replaced = .ok built :=
    exists_ok_of_isOk (by decide +kernel)
  have shape : Tally.table.property.shape =
      .map .sorted (.path (.ofName "u8")) (.path (.ofName "u8")) := by
    with_unfolding_all rfl
  have named : Tally.table.property.name = "table" := by decide +kernel
  have lawful : Lawful fun _ : Nat => True := .of_equiv
  obtain ⟨entries, looked, holds⟩ := (replays_of_emitted Tally.emitted).maps (Tally.plan_mem _)
    shape lawful (fun _ => .of_trans) history_replaced
    (fun _ _ => trivial) complete
  exact ⟨built, entries, complete, named ▸ looked, holds⟩

end StructBuilder.Run
