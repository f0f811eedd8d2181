import Mathlib.Data.List.Induction
import StructBuilder.Proofs.OrderedMap
import StructBuilder.Proofs.Replay

/-!
What an ordered map remembers. Everything done to it is a sequence of insertions and removals of
single keys, and of clearings. Of that history the map shows, key by key, the last insertion that
nothing has undone, and it keeps its entries in the order of the insertions that made them. Keys
need not be identical to be equal: an entry has the key that it was made with.
-/

namespace StructBuilder.OrderedMap

variable {K V : Type}

/-- What happens to a map in one moment. -/
inductive Event (K V : Type) where
  | insert (key : K) (value : V)
  | remove (key : K)
  | clear
  deriving DecidableEq

/-- What a program does with a map. -/
inductive Operation (K V : Type) where
  | create
  | insert (key : K) (value : V)
  | remove (key : K)
  | extend (entries : List (K × V))
  | collect (entries : List (K × V))
  | clear

/-- The moments of an operation; a new map knows nothing of the old one. -/
def Operation.events : Operation K V → List (Event K V)
  | create | clear => [.clear]
  | insert key value => [.insert key value]
  | remove key => [.remove key]
  | extend entries => entries.map fun (key, value) => .insert key value
  | collect entries => .clear :: entries.map fun (key, value) => .insert key value

variable [BEq K]

namespace Event

def apply (map : OrderedMap K V) : Event K V → OrderedMap K V
  | insert key value => (map.insert key value).2
  | remove key => (map.remove key).2
  | clear => empty

/-- The event is about the key. -/
def touches (key : K) : Event K V → Bool
  | insert other _ | remove other => other == key
  | clear => true

/-- No entry with the key is left. -/
def drops (key : K) : Event K V → Bool
  | insert _ _ => false
  | remove other => other == key
  | clear => true

end Event

def Operation.apply (map : OrderedMap K V) : Operation K V → OrderedMap K V
  | create => empty
  | insert key value => (map.insert key value).2
  | remove key => (map.remove key).2
  | extend entries => map.extend entries
  | collect entries => ofList entries
  | clear => empty

def run (operations : List (Operation K V)) : OrderedMap K V :=
  operations.foldl Operation.apply empty

def replay (log : List (Event K V)) : OrderedMap K V :=
  log.foldl Event.apply empty

/-- The last insertion of the key, which no later event undoes or replaces, has this value. -/
def Stored (log : List (Event K V)) (key : K) (value : V) : Prop :=
  ∃ before stored after, log = before ++ .insert stored value :: after ∧
    (stored == key) = true ∧ ∀ event ∈ after, event.touches key = false

/-- The entry with this key was made by the insertion at this place: the key was not there
before, and has not been dropped since. -/
def Created (log : List (Event K V)) (place : Nat) (key : K) : Prop :=
  ∃ before value after, log = before ++ .insert key value :: after ∧ before.length = place ∧
    (∀ old, ¬Stored before key old) ∧ ∀ event ∈ after, event.drops key = false

/-! Operations are events. -/

theorem extend_eq_foldl (map : OrderedMap K V) (entries : List (K × V)) :
    map.extend entries =
      (entries.map fun (key, value) => Event.insert key value).foldl Event.apply map := by
  rw [extend, List.foldl_map]
  rfl

theorem apply_eq_foldl (map : OrderedMap K V) (operation : Operation K V) :
    operation.apply map = operation.events.foldl Event.apply map := by
  cases operation with
  | extend entries => exact extend_eq_foldl map entries
  | collect entries => exact extend_eq_foldl empty entries
  | _ => rfl

theorem run_eq_replay (operations : List (Operation K V)) :
    run operations = replay (operations.flatMap Operation.events) := by
  rw [run, replay, List.foldl_flatMap]
  congr 1
  funext map operation
  exact apply_eq_foldl map operation

/-! One event more. -/

section

variable {log : List (Event K V)} {event : Event K V} {key sought : K} {value : V} {place : Nat}

theorem stored_nil : ¬Stored ([] : List (Event K V)) key value := by
  rintro ⟨before, _, _, split, _⟩
  cases before <;> cases split

theorem created_nil : ¬Created ([] : List (Event K V)) place key := by
  rintro ⟨before, _, _, split, _⟩
  cases before <;> cases split

/-- The last event is the insertion that counts, or it leaves the key alone. -/
theorem stored_concat : Stored (log ++ [event]) key value ↔
    (∃ stored, event = .insert stored value ∧ (stored == key) = true) ∨
      event.touches key = false ∧ Stored log key value := by
  constructor
  · rintro ⟨before, stored, after, split, same, left⟩
    rcases concat_eq_append_cons_iff.1 split with ⟨-, last, -⟩ | ⟨rest, rfl, rfl⟩
    · exact .inl ⟨stored, last, same⟩
    · obtain ⟨left, last⟩ := List.forall_mem_append.1 left
      exact .inr ⟨last _ List.mem_cons_self, before, stored, rest, rfl, same, left⟩
  · rintro (⟨stored, rfl, same⟩ | ⟨apart, before, stored, after, rfl, same, left⟩)
    · exact ⟨log, stored, [], rfl, same, nofun⟩
    · refine ⟨before, stored, after ++ [event], by simp, same, ?_⟩
      exact List.forall_mem_append.2 ⟨left, List.forall_mem_singleton.2 apart⟩

theorem stored_concat_insert {new : V} : Stored (log ++ [.insert key new]) sought value ↔
    if key == sought then value = new else Stored log sought value := by
  rw [stored_concat, Event.touches]
  cases same : key == sought with
  | true =>
      rw [if_pos rfl]
      constructor
      · rintro (⟨_, made, _⟩ | ⟨apart, _⟩)
        · cases made
          rfl
        · cases apart
      · rintro rfl
        exact .inl ⟨key, rfl, same⟩
  | false =>
      rw [if_neg Bool.false_ne_true]
      constructor
      · rintro (⟨_, made, found⟩ | ⟨_, stored⟩)
        · cases made
          cases same.symm.trans found
        · exact stored
      · exact fun stored => .inr ⟨rfl, stored⟩

theorem stored_concat_remove : Stored (log ++ [.remove key]) sought value ↔
    (key == sought) = false ∧ Stored log sought value := by
  rw [stored_concat, Event.touches]
  simp

theorem not_stored_concat_clear : ¬Stored (log ++ [.clear]) sought value := by
  rw [stored_concat, Event.touches]
  simp

theorem created_concat : Created (log ++ [event]) place key ↔
    (∃ value, event = .insert key value ∧ place = log.length ∧ ∀ old, ¬Stored log key old) ∨
      event.drops key = false ∧ Created log place key := by
  constructor
  · rintro ⟨before, value, after, split, length, absent, left⟩
    rcases concat_eq_append_cons_iff.1 split with ⟨rfl, last, -⟩ | ⟨rest, rfl, rfl⟩
    · exact .inl ⟨value, last, length.symm, absent⟩
    · obtain ⟨left, last⟩ := List.forall_mem_append.1 left
      exact .inr ⟨last _ List.mem_cons_self, before, value, rest, rfl, length, absent, left⟩
  · rintro (⟨value, rfl, rfl, absent⟩ | ⟨kept, before, value, after, rfl, length, absent, left⟩)
    · exact ⟨log, value, [], rfl, rfl, absent, nofun⟩
    · refine ⟨before, value, after ++ [event], by simp, length, absent, ?_⟩
      exact List.forall_mem_append.2 ⟨left, List.forall_mem_singleton.2 kept⟩

theorem Created.lt_length (created : Created log place key) : place < log.length := by
  obtain ⟨before, value, after, rfl, rfl, _⟩ := created
  simp

/-- What was made and not dropped has a value. -/
theorem Created.exists_stored [ReflBEq K] (created : Created log place key) :
    ∃ value, Stored log key value := by
  induction log using List.reverseRecOn with
  | nil => exact absurd created created_nil
  | append_singleton log event ih =>
      rcases created_concat.1 created with ⟨value, rfl, -, -⟩ | ⟨kept, made⟩
      · exact ⟨value, stored_concat.2 (.inl ⟨key, rfl, BEq.rfl⟩)⟩
      · cases event with
        | clear => cases kept
        | remove other =>
            obtain ⟨value, stored⟩ := ih made
            exact ⟨value, stored_concat_remove.2 ⟨kept, stored⟩⟩
        | insert other new =>
            cases same : other == key with
            | true => exact ⟨new, stored_concat_insert.2 (by simp [same])⟩
            | false =>
                obtain ⟨value, stored⟩ := ih made
                exact ⟨value, stored_concat_insert.2 (by simp [same, stored])⟩

/-- Equal keys have the same history. -/
theorem Stored.congr [PartialEquivBEq K] (stored : Stored log key value)
    (same : (key == sought) = true) : Stored log sought value := by
  obtain ⟨before, first, after, rfl, found, left⟩ := stored
  refine ⟨before, first, after, rfl, PartialEquivBEq.trans found same, fun event mem => ?_⟩
  have apart := left event mem
  cases event with
  | clear => cases apart
  | insert other _ | remove other =>
      rw [Event.touches] at apart ⊢
      rw [← apart, Bool.eq_iff_iff]
      exact ⟨fun equal => PartialEquivBEq.trans equal (PartialEquivBEq.symm same),
        fun equal => PartialEquivBEq.trans equal same⟩

end

/-- What is stored under a key is stored in an entry, which may have another key. -/
theorem Stored.exists_created [EquivBEq K] {log : List (Event K V)} {key : K} {value : V}
    (stored : Stored log key value) :
    ∃ place made, Created log place made ∧ (made == key) = true := by
  induction log using List.reverseRecOn generalizing value with
  | nil => exact absurd stored stored_nil
  | append_singleton log event ih =>
      cases event with
      | clear => exact absurd stored not_stored_concat_clear
      | remove other =>
          obtain ⟨apart, stored⟩ := stored_concat_remove.1 stored
          obtain ⟨place, made, created, same⟩ := ih stored
          refine ⟨place, made, created_concat.2 (.inr ⟨?_, created⟩), same⟩
          rw [Event.drops, ← apart, BEq.congr_right same]
      | insert other new =>
          by_cases earlier : ∃ old, Stored log key old
          · obtain ⟨old, earlier⟩ := earlier
            obtain ⟨place, made, created, same⟩ := ih earlier
            exact ⟨place, made, created_concat.2 (.inr ⟨rfl, created⟩), same⟩
          · have same : (other == key) = true := by
              by_contra apart
              rw [stored_concat_insert, if_neg apart] at stored
              exact earlier ⟨value, stored⟩
            have absent : ∀ old, ¬Stored log other old :=
              fun old there => earlier ⟨old, there.congr same⟩
            exact ⟨_, other, created_concat.2 (.inl ⟨new, rfl, rfl, absent⟩), same⟩

theorem toList_remove [PartialEquivBEq K] {map : OrderedMap K V} (distinct : map.Distinct)
    (key : K) : (map.remove key).2.toList = map.toList.filter fun entry => !(entry.1 == key) := by
  refine (congrArg (·.2) (removeFrom_eq key map.toList)).trans (eraseP_eq_filter ?_)
  refine distinct.imp fun {first second} apart here => ?_
  rw [← apart, BEq.congr_left here, BEq.comm]

/-! What a map has recorded. -/

section

variable [EquivBEq K] {map : OrderedMap K V} {log : List (Event K V)} {key : K} {value : V}

/-- The map has one entry for each insertion that made an entry, in their order, with the value
that is stored by now. -/
structure Recorded (log : List (Event K V)) (map : OrderedMap K V) : Prop where
  distinct : map.Distinct
  records : ∃ records : List (Nat × K × V), records.map (·.2) = map.toList ∧
    records.Pairwise (·.1 < ·.1) ∧
    ∀ place key value, (place, key, value) ∈ records ↔
      Created log place key ∧ Stored log key value

theorem Recorded.get (recorded : Recorded log map) :
    map.get? key = some value ↔ Stored log key value := by
  obtain ⟨records, entries, -, known⟩ := recorded.records
  rw [get?_eq_some_iff recorded.distinct, ← entries]
  constructor
  · rintro ⟨stored, mem, same⟩
    obtain ⟨⟨place, _⟩, mem, rfl⟩ := List.mem_map.1 mem
    exact ((known _ _ _).1 mem).2.congr same
  · intro stored
    obtain ⟨place, made, created, same⟩ := stored.exists_created
    have mem := (known place made value).2 ⟨created, stored.congr (BEq.symm same)⟩
    exact ⟨made, List.mem_map_of_mem mem, same⟩

theorem Recorded.contains_iff (recorded : Recorded log map) :
    map.contains key = true ↔ ∃ value, Stored log key value := by
  rw [contains_eq_isSome, Option.isSome_iff_exists]
  exact exists_congr fun _ => recorded.get

theorem Recorded.overwriting (recorded : Recorded log map) (present : map.contains key = true)
    (value : V) : Recorded (log ++ [.insert key value]) (map.insert key value).2 := by
  obtain ⟨current, stored⟩ := recorded.contains_iff.1 present
  have entries := toList_insert_of_present recorded.distinct present value
  obtain ⟨records, old, ascending, known⟩ := recorded.records
  refine ⟨?_, records.map (Prod.map id (overwrite key value)), ?_, ?_, ?_⟩
  · rw [Distinct, entries, List.pairwise_map]
    simp only [fst_overwrite]
    exact recorded.distinct
  · rw [entries, ← old, List.map_map, List.map_map]
    rfl
  · rw [List.pairwise_map]
    exact ascending
  · intro place made now
    have kept : Created (log ++ [.insert key value]) place made ↔ Created log place made := by
      rw [created_concat, or_iff_right]
      · simp [Event.drops]
      · rintro ⟨_, inserted, -, absent⟩
        cases inserted
        exact absent current stored
    rw [kept, stored_concat_insert, List.mem_map]
    constructor
    · rintro ⟨⟨_, other, before⟩, mem, same⟩
      obtain ⟨created, earlier⟩ := (known _ _ _).1 mem
      rw [Prod.map_apply] at same
      by_cases equal : (other == key) = true
      · rw [overwrite_of_same equal] at same
        cases same
        exact ⟨created, by rw [if_pos (BEq.symm equal)]⟩
      · rw [overwrite_of_apart equal] at same
        cases same
        exact ⟨created, by rwa [BEq.comm, if_neg equal]⟩
    · rintro ⟨created, latest⟩
      by_cases equal : (made == key) = true
      · rw [if_pos (BEq.symm equal)] at latest
        obtain ⟨before, earlier⟩ := created.exists_stored
        refine ⟨(place, made, before), (known _ _ _).2 ⟨created, earlier⟩, ?_⟩
        rw [Prod.map_apply, overwrite_of_same equal, latest]
        rfl
      · rw [BEq.comm, if_neg equal] at latest
        refine ⟨(place, made, now), (known _ _ _).2 ⟨created, latest⟩, ?_⟩
        rw [Prod.map_apply, overwrite_of_apart equal]
        rfl

theorem Recorded.appending (recorded : Recorded log map) (absent : map.contains key = false)
    (value : V) : Recorded (log ++ [.insert key value]) (map.insert key value).2 := by
  have entries := toList_insert_of_absent absent value
  have free : ∀ old, ¬Stored log key old := by
    intro old stored
    rw [recorded.contains_iff.2 ⟨old, stored⟩] at absent
    cases absent
  obtain ⟨records, old, ascending, known⟩ := recorded.records
  refine ⟨?_, records ++ [(log.length, key, value)], ?_, ?_, ?_⟩
  · rw [Distinct, entries, List.pairwise_append]
    refine ⟨recorded.distinct, List.pairwise_singleton _ _, fun entry mem last new => ?_⟩
    rw [List.mem_singleton.1 new]
    exact Bool.eq_false_iff.2 (List.any_eq_false.1 absent entry mem)
  · rw [entries, List.map_append, old]
    rfl
  · rw [List.pairwise_append]
    refine ⟨ascending, List.pairwise_singleton _ _, fun record mem last new => ?_⟩
    rw [List.mem_singleton.1 new]
    exact ((known _ _ _).1 mem).1.lt_length
  · intro place made now
    rw [List.mem_append, List.mem_singleton, known, created_concat, stored_concat_insert]
    constructor
    · rintro (⟨created, stored⟩ | new)
      · have apart : ¬(key == made) = true :=
          fun equal => free now (stored.congr (BEq.symm equal))
        exact ⟨.inr ⟨rfl, created⟩, by rwa [if_neg apart]⟩
      · cases new
        exact ⟨.inl ⟨value, rfl, rfl, free⟩, by rw [if_pos BEq.rfl]⟩
    · rintro ⟨⟨_, inserted, rfl, -⟩ | ⟨-, created⟩, latest⟩
      · cases inserted
        rw [if_pos BEq.rfl] at latest
        rw [latest]
        exact .inr rfl
      · have apart : ¬(key == made) = true := by
          intro equal
          obtain ⟨before, earlier⟩ := created.exists_stored
          exact free before (earlier.congr (BEq.symm equal))
        rw [if_neg apart] at latest
        exact .inl ⟨created, latest⟩

theorem Recorded.removing (recorded : Recorded log map) (key : K) :
    Recorded (log ++ [.remove key]) (map.remove key).2 := by
  have entries := toList_remove recorded.distinct key
  obtain ⟨records, old, ascending, known⟩ := recorded.records
  refine ⟨?_, records.filter fun record => !(record.2.1 == key), ?_, ascending.filter _, ?_⟩
  · rw [Distinct, entries]
    exact recorded.distinct.filter _
  · rw [entries, ← old, List.filter_map]
    rfl
  · intro place made now
    rw [List.mem_filter, known, created_concat, stored_concat_remove, Event.drops, Bool.not_eq_true',
      BEq.comm]
    constructor
    · rintro ⟨⟨created, stored⟩, apart⟩
      exact ⟨.inr ⟨apart, created⟩, apart, stored⟩
    · rintro ⟨⟨_, ⟨⟩, _⟩ | ⟨-, created⟩, apart, stored⟩
      exact ⟨⟨created, stored⟩, apart⟩

theorem Recorded.step (recorded : Recorded log map) (event : Event K V) :
    Recorded (log ++ [event]) (event.apply map) := by
  cases event with
  | insert key value =>
      cases present : map.contains key with
      | true => exact recorded.overwriting present value
      | false => exact recorded.appending present value
  | remove key => exact recorded.removing key
  | clear =>
      refine ⟨.nil, [], rfl, .nil, fun place key value => iff_of_false nofun ?_⟩
      exact fun known => not_stored_concat_clear known.2

theorem recorded_replay (log : List (Event K V)) : Recorded log (replay log) := by
  induction log using List.reverseRecOn with
  | nil => exact ⟨.nil, [], rfl, .nil, fun _ _ _ => iff_of_false nofun fun known => stored_nil known.2⟩
  | append_singleton log event ih =>
      rw [replay, List.foldl_append]
      exact ih.step event

end

/-! Views. -/

omit [BEq K] in
/-- Reading the entries one by one answers each of them in its turn, then nothing, and every
time how many are left. -/
theorem countdown_eq (entries : List (K × V)) :
    countdown entries =
      (List.range (entries.length + 1)).reverse.zip (entries.map some ++ [none]) := by
  induction entries with
  | nil => rfl
  | cons entry rest ih =>
      have longer : (List.range (rest.length + 2)).reverse =
          (rest.length + 1) :: (List.range (rest.length + 1)).reverse := by
        rw [List.range_succ, List.reverse_append]
        rfl
      rw [countdown, ih, List.length_cons, longer]
      rfl

/-- What a map answers about its history. -/
structure Recalls (log : List (Event K V)) (map : OrderedMap K V) : Prop where
  get : ∀ key value, map.get? key = some value ↔ Stored log key value
  contains : ∀ key, map.contains key = (map.get? key).isSome
  inserted : ∀ key value, (map.insert key value).1 = map.get? key
  removed : ∀ key, (map.remove key).1 = map.get? key
  held : ∀ key value, map.get? key = some value ↔
    ∃ stored, (stored, value) ∈ map.toList ∧ (stored == key) = true
  recorded : Recorded log map
  columns : map.keys = map.toList.map (·.1) ∧ map.values = map.toList.map (·.2)
  size : map.size = map.toList.length ∧ (map.isEmpty = true ↔ map.size = 0)
  iter : countdown map.toList =
    (List.range (map.size + 1)).reverse.zip (map.toList.map some ++ [none])

/-- A map answers by the history of its keys, and shows its entries in the order in which they
were made, whatever was done with it. -/
theorem recalls_run [EquivBEq K] (operations : List (Operation K V)) :
    Recalls (operations.flatMap Operation.events) (run operations) := by
  rw [run_eq_replay]
  have recorded := recorded_replay (operations.flatMap Operation.events)
  exact {
    get := fun _ _ => recorded.get
    contains := contains_eq_isSome _
    inserted := fst_insert _
    removed := fst_remove _
    held := fun _ _ => get?_eq_some_iff recorded.distinct
    recorded
    columns := ⟨rfl, rfl⟩
    size := ⟨rfl, by rw [isEmpty, size, List.isEmpty_iff_length_eq_zero]⟩
    iter := countdown_eq _ }

/-! Hours, of which the clock shows twelve. -/

structure Hour where
  number : Nat
  deriving DecidableEq

instance : BEq Hour :=
  ⟨fun first second => first.number % 12 == second.number % 12⟩

theorem Hour.beq_iff {first second : Hour} :
    (first == second) = true ↔ first.number % 12 = second.number % 12 := by
  change (first.number % 12 == second.number % 12) = true ↔ _
  exact beq_iff_eq

instance : EquivBEq Hour where
  rfl := Hour.beq_iff.2 rfl
  symm same := Hour.beq_iff.2 (Hour.beq_iff.1 same).symm
  trans first second := Hour.beq_iff.2 ((Hour.beq_iff.1 first).trans (Hour.beq_iff.1 second))

def appointments : List (Operation Hour String) :=
  [.collect [(⟨1⟩, "lunch"), (⟨2⟩, "nap")], .extend [(⟨13⟩, "guests"), (⟨5⟩, "tea")],
   .remove ⟨14⟩, .insert ⟨14⟩ "walk"]

theorem recalls_appointments :
    Recalls (appointments.flatMap Operation.events) (run appointments) ∧
      (run appointments).toList = [(⟨1⟩, "guests"), (⟨5⟩, "tea"), (⟨14⟩, "walk")] :=
  ⟨recalls_run appointments, by decide⟩

end StructBuilder.OrderedMap
