import Mathlib.Data.List.Induction
import StructBuilder.Proofs.Sorted
import StructBuilder.Property.Shape

/-!
Additions and removals, replayed without a builder. A collection without repeated keys
holds exactly the keys whose last deed is an addition; for this its equality has to be
symmetric and transitive on the keys that occur, and on no others.
-/

namespace StructBuilder

/-- An item of a list that has grown by one is the last, or it was there before. -/
theorem concat_eq_append_cons_iff {α : Type} {items before after : List α} {last item : α} :
    items ++ [last] = before ++ item :: after ↔
      items = before ∧ last = item ∧ after = [] ∨
        ∃ rest, items = before ++ item :: rest ∧ after = rest ++ [last] := by
  constructor
  · intro split
    rcases List.eq_nil_or_concat after with rfl | ⟨rest, other, rfl⟩
    · obtain ⟨rfl, same⟩ := List.append_inj' split rfl
      exact .inl ⟨rfl, List.singleton_inj.1 same, rfl⟩
    · rw [List.concat_eq_append, ← List.cons_append, ← List.append_assoc] at split
      obtain ⟨rfl, same⟩ := List.append_inj' split rfl
      rw [List.singleton_inj.1 same, List.concat_eq_append]
      exact .inr ⟨rest, rfl, rfl⟩
  · rintro (⟨rfl, rfl, rfl⟩ | ⟨rest, rfl, rfl⟩)
    · rfl
    · rw [List.append_assoc, List.cons_append]

/-- One addition to a collection, or one removal from it. -/
inductive Deed (α V : Type) where
  | add (item : α)
  | remove (sought : V)
  deriving DecidableEq

/-- What a test of equality has to be for the values of one type. -/
structure Lawful {V : Type} [BEq V] (within : V → Prop) : Prop where
  symm : ∀ {a b}, within a → within b → (a == b) = true → (b == a) = true
  trans : ∀ {a b c}, within a → within b → within c → (a == b) = true → (b == c) = true →
    (a == c) = true

/-- An equality test that is an equivalence is lawful among all values. -/
theorem Lawful.of_equiv {V : Type} [BEq V] [PartialEquivBEq V] {within : V → Prop} :
    Lawful within :=
  ⟨fun _ _ => PartialEquivBEq.symm, fun _ _ _ => PartialEquivBEq.trans⟩

variable {α V : Type} [BEq V] {key : α → V} {log : List (Deed α V)} {within : V → Prop}

namespace Deed

omit [BEq V] in
variable (key) in
def subject : Deed α V → V
  | add item => key item
  | remove sought => sought

variable (key) in
/-- What becomes of items without repeated keys. -/
def apply (items : List α) : Deed α V → List α
  | add item => if items.any (key · == key item) then items else items ++ [item]
  | remove sought => items.filter fun item => !(key item == sought)

/-- What becomes of a list, which loses the first of equal items only. -/
def applyToList (items : List V) : Deed V V → List V
  | add item => items ++ [item]
  | remove sought => items.eraseP (· == sought)

end Deed

variable (key log) in
/-- The items that are left after some deeds, without repeated keys. -/
def replay : List α :=
  log.foldl (Deed.apply key) []

def replayList (log : List (Deed V V)) : List V :=
  log.foldl Deed.applyToList []

variable (key log) in
/-- The last deed that is about a key. -/
def lastDeed? (sought : V) : Option (Deed α V) :=
  log.reverse.find? (·.subject key == sought)

variable (key log) in
/-- The last deed about the key has added it. -/
def Present (sought : V) : Prop :=
  ∃ item, lastDeed? key log sought = some (.add item)

variable (key log) in
/-- Nothing was added while its key was present, and so nothing was ever replaced. -/
def Fresh : Prop :=
  ∀ before item after, log = before ++ .add item :: after → ¬Present key before (key item)

/-! One deed more. -/

theorem replay_concat (deed : Deed α V) :
    replay key (log ++ [deed]) = deed.apply key (replay key log) := by
  simp [replay]

theorem lastDeed?_concat (deed : Deed α V) (sought : V) :
    lastDeed? key (log ++ [deed]) sought =
      if deed.subject key == sought then some deed else lastDeed? key log sought := by
  rw [lastDeed?, List.reverse_concat, List.find?_cons]
  cases deed.subject key == sought <;> rfl

theorem present_concat_add {added : α} {sought : V} :
    Present key (log ++ [.add added]) sought ↔
      (key added == sought) = true ∨ Present key log sought := by
  rw [Present, lastDeed?_concat, Deed.subject]
  cases key added == sought <;> simp [Present]

theorem present_concat_remove {removed sought : V} :
    Present key (log ++ [.remove removed]) sought ↔
      (removed == sought) = false ∧ Present key log sought := by
  rw [Present, lastDeed?_concat, Deed.subject]
  cases removed == sought <;> simp [Present]

theorem fresh_concat {deed : Deed α V} :
    Fresh key (log ++ [deed]) ↔
      Fresh key log ∧ ∀ item, deed = .add item → ¬Present key log (key item) := by
  constructor
  · intro fresh
    refine ⟨?_, ?_⟩
    · rintro before item after rfl
      exact fresh before item (after ++ [deed]) (by simp)
    · rintro item rfl
      exact fresh log item [] rfl
  · rintro ⟨fresh, new⟩ before item after split
    rcases concat_eq_append_cons_iff.1 split with ⟨rfl, same, -⟩ | ⟨rest, rfl, -⟩
    · exact new item same
    · exact fresh before item rest rfl

/-! What a replay holds. -/

theorem mem_of_mem_replay {item : α} (mem : item ∈ replay key log) : .add item ∈ log := by
  induction log using List.reverseRecOn with
  | nil => cases mem
  | append_singleton log deed ih =>
      rw [replay_concat] at mem
      cases deed with
      | remove sought => exact List.mem_append_left _ (ih (List.mem_of_mem_filter mem))
      | add new =>
          rw [Deed.apply] at mem
          split at mem
          · exact List.mem_append_left _ (ih mem)
          · rcases List.mem_append.1 mem with mem | mem
            · exact List.mem_append_left _ (ih mem)
            · simp [List.mem_singleton.1 mem]

variable (key log) in
theorem pairwise_replay :
    (replay key log).Pairwise fun first second => (key first == key second) = false := by
  induction log using List.reverseRecOn with
  | nil => exact .nil
  | append_singleton log deed ih =>
      rw [replay_concat]
      cases deed with
      | remove sought => exact ih.filter _
      | add new =>
          rw [Deed.apply]
          split
          · exact ih
          · rename_i absent
            rw [Bool.not_eq_true, List.any_eq_false] at absent
            refine List.pairwise_append.2 ⟨ih, List.pairwise_singleton _ _, ?_⟩
            intro item mem other there
            rw [List.mem_singleton.1 there]
            exact Bool.eq_false_iff.2 (absent item mem)

theorem within_of_mem_replay (inside : ∀ deed ∈ log, within (deed.subject key)) {item : α}
    (mem : item ∈ replay key log) : within (key item) :=
  inside _ (mem_of_mem_replay mem)

omit [BEq V] in
theorem inside_concat {deed : Deed α V} :
    (∀ other ∈ log ++ [deed], within (other.subject key)) ↔
      (∀ other ∈ log, within (other.subject key)) ∧ within (deed.subject key) := by
  simp [or_imp, forall_and]

theorem Lawful.beq_comm (lawful : Lawful within) {a b : V} (ha : within a) (hb : within b) :
    (a == b) = (b == a) := by
  rw [Bool.eq_iff_iff]
  exact ⟨lawful.symm ha hb, lawful.symm hb ha⟩

theorem Lawful.beq_eq (lawful : Lawful within) {a b c : V} (ha : within a) (hb : within b)
    (hc : within c) (same : (a == b) = true) : (a == c) = (b == c) := by
  rw [Bool.eq_iff_iff]
  exact ⟨lawful.trans hb ha hc (lawful.symm ha hb same), lawful.trans ha hb hc same⟩

section

variable {items : List α} {item : α} {sought : V}

/-- A removal takes out all that has an equal key, and nothing else. -/
theorem mem_apply_remove (lawful : Lawful within) (known : ∀ item ∈ items, within (key item))
    {removed : V} (there : within removed) (here : within sought) :
    item ∈ (Deed.remove removed).apply key items ∧ (key item == sought) = true ↔
      (removed == sought) = false ∧ item ∈ items ∧ (key item == sought) = true := by
  have kept (mem : item ∈ items) (found : (key item == sought) = true) :
      (key item == removed) = (removed == sought) :=
    (lawful.beq_eq (known item mem) here there found).trans (lawful.beq_comm here there)
  rw [Deed.apply, List.mem_filter, Bool.not_eq_true']
  constructor
  · rintro ⟨⟨mem, apart⟩, found⟩
    exact ⟨kept mem found ▸ apart, mem, found⟩
  · rintro ⟨apart, mem, found⟩
    exact ⟨⟨mem, (kept mem found).trans apart⟩, found⟩

theorem mem_apply_add {new : α} :
    item ∈ (Deed.add new).apply key items ↔
      item ∈ items ∨ items.any (key · == key new) = false ∧ item = new := by
  rw [Deed.apply]
  cases items.any (key · == key new) <;> simp

end

/-- A key is held if its last deed is an addition. -/
theorem exists_mem_replay_iff (lawful : Lawful within)
    (inside : ∀ deed ∈ log, within (deed.subject key)) {sought : V} (here : within sought) :
    (∃ item ∈ replay key log, (key item == sought) = true) ↔ Present key log sought := by
  induction log using List.reverseRecOn generalizing sought with
  | nil => simp [replay, Present, lastDeed?]
  | append_singleton log deed ih =>
      obtain ⟨earlier, new⟩ := inside_concat.1 inside
      have known : ∀ item ∈ replay key log, within (key item) :=
        fun item mem => within_of_mem_replay earlier mem
      rw [replay_concat]
      cases deed with
      | remove removed =>
          change within removed at new
          simp only [mem_apply_remove lawful known new here, present_concat_remove,
            ← ih earlier here, exists_and_left]
      | add added =>
          rw [present_concat_add, ← ih earlier here]
          simp only [mem_apply_add]
          constructor
          · rintro ⟨item, mem | ⟨_, rfl⟩, found⟩
            · exact .inr ⟨item, mem, found⟩
            · exact .inl found
          · rintro (same | ⟨item, mem, found⟩)
            -- an addition that was refused has left an item with an equal key
            · cases present : (replay key log).any (key · == key added) with
              | false => exact ⟨added, .inr ⟨rfl, rfl⟩, same⟩
              | true =>
                  obtain ⟨old, mem, equal⟩ := List.any_eq_true.1 present
                  exact ⟨old, .inl mem, lawful.trans (known old mem) new here equal same⟩
            · exact ⟨item, .inl mem, found⟩

/-- If nothing was replaced, what is held of a key is what its last deed has added. -/
theorem mem_replay_iff (lawful : Lawful within)
    (inside : ∀ deed ∈ log, within (deed.subject key)) (fresh : Fresh key log) {sought : V}
    (here : within sought) {item : α} :
    item ∈ replay key log ∧ (key item == sought) = true ↔
      lastDeed? key log sought = some (.add item) := by
  induction log using List.reverseRecOn with
  | nil => simp [replay, lastDeed?]
  | append_singleton log deed ih =>
      obtain ⟨earlier, new⟩ := inside_concat.1 inside
      obtain ⟨before, absent⟩ := fresh_concat.1 fresh
      have known : ∀ item ∈ replay key log, within (key item) :=
        fun item mem => within_of_mem_replay earlier mem
      rw [replay_concat, lastDeed?_concat]
      cases deed with
      | remove removed =>
          change within removed at new
          rw [mem_apply_remove lawful known new here, ih earlier before, Deed.subject]
          cases removed == sought <;> simp
      | add added =>
          have free := mt (exists_mem_replay_iff lawful earlier new).1 (absent added rfl)
          rw [mem_apply_add, Deed.subject]
          by_cases same : (key added == sought) = true
          · rw [if_pos same]
            constructor
            -- an older item of this key would make the addition a replacement
            · rintro ⟨mem | ⟨_, rfl⟩, found⟩
              · have back := lawful.symm new here same
                exact absurd ⟨item, mem, lawful.trans (known item mem) here new found back⟩ free
              · rfl
            · intro equal
              cases equal
              exact ⟨.inr ⟨by simpa [Deed.subject] using free, rfl⟩, same⟩
          · rw [if_neg same, ← ih earlier before]
            refine and_congr_left fun found => or_iff_left ?_
            rintro ⟨_, rfl⟩
            exact same found

/-! Several deeds more. -/

theorem replay_concat_add {item : α}
    (absent : (replay key log).any (key · == key item) = false) :
    replay key (log ++ [.add item]) = replay key log ++ [item] := by
  rw [replay_concat, Deed.apply, absent]
  rfl

theorem replay_append_adds {items : List α}
    (absent : ∀ item ∈ items, (replay key log).any (key · == key item) = false)
    (apart : items.Pairwise fun first second => (key first == key second) = false) :
    replay key (log ++ items.map .add) = replay key log ++ items := by
  induction items generalizing log with
  | nil => simp
  | cons item rest ih =>
      obtain ⟨first, apart⟩ := List.pairwise_cons.1 apart
      obtain ⟨new, absent⟩ := List.forall_mem_cons.1 absent
      rw [List.map_cons, List.append_cons, ih ?_ apart, replay_concat_add new, List.append_assoc]
      · rfl
      · intro other mem
        simp [replay_concat_add new, absent other mem, first other mem]

theorem fresh_append_adds (lawful : Lawful within) {items : List α}
    (inside : ∀ deed ∈ log ++ items.map .add, within (deed.subject key)) (fresh : Fresh key log)
    (absent : ∀ item ∈ items, (replay key log).any (key · == key item) = false)
    (apart : items.Pairwise fun first second => (key first == key second) = false) :
    Fresh key (log ++ items.map .add) := by
  induction items generalizing log with
  | nil => simpa using fresh
  | cons item rest ih =>
      obtain ⟨first, apart⟩ := List.pairwise_cons.1 apart
      obtain ⟨new, absent⟩ := List.forall_mem_cons.1 absent
      rw [List.map_cons, List.append_cons] at inside ⊢
      have earlier : ∀ deed ∈ log ++ [.add item], within (deed.subject key) :=
        fun deed mem => inside deed (List.mem_append_left _ mem)
      obtain ⟨known, here⟩ := inside_concat.1 earlier
      refine ih inside (fresh_concat.2 ⟨fresh, ?_⟩) ?_ apart
      · rintro added same present
        cases same
        obtain ⟨held, mem, found⟩ := (exists_mem_replay_iff lawful known here).2 present
        exact absurd found (List.any_eq_false.1 new held mem)
      · intro other mem
        simp [replay_concat_add new, absent other mem, first other mem]

/-- Where no two items match, to remove the first that does is to remove all. -/
theorem eraseP_eq_filter {items : List α} {p : α → Bool}
    (once : items.Pairwise fun first second => p first = true → p second = false) :
    items.eraseP p = items.filter fun item => !p item := by
  induction items with
  | nil => rfl
  | cons first rest ih =>
      obtain ⟨others, once⟩ := List.pairwise_cons.1 once
      cases matched : p first with
      | false => simp [matched, ih once]
      | true =>
          have kept : rest.filter (fun item => !p item) = rest :=
            List.filter_eq_self.2 fun item mem => by simp [others item mem matched]
          simp [matched, kept]

/-- The removal of a key takes out the one item that has it. -/
theorem replay_concat_remove (lawful : Lawful within)
    (inside : ∀ deed ∈ log, within (deed.subject key)) {sought : V} (here : within sought)
    {p : α → Bool} (matched : ∀ item ∈ replay key log, p item = (key item == sought)) :
    replay key (log ++ [.remove sought]) = (replay key log).eraseP p := by
  have once : (replay key log).Pairwise fun first second => p first = true → p second = false := by
    refine (pairwise_replay key log).imp_of_mem ?_
    intro first second mem there apart found
    rw [matched first mem] at found
    rw [matched second there]
    have known := within_of_mem_replay inside mem
    have other := within_of_mem_replay inside there
    by_contra also
    rw [Bool.not_eq_false] at also
    have equal := lawful.trans known here other found (lawful.symm other here also)
    rw [apart] at equal
    cases equal
  rw [eraseP_eq_filter once, replay_concat, Deed.apply]
  exact List.filter_congr fun item mem => by rw [matched item mem]

theorem replayList_append_adds (log : List (Deed V V)) (items : List V) :
    replayList (log ++ items.map .add) = replayList log ++ items := by
  induction items generalizing log with
  | nil => simp
  | cons item rest ih =>
      rw [List.map_cons, List.append_cons, ih]
      simp [replayList, Deed.applyToList]

/-! What a built collection shows of a replay. -/

/-- What a comparison has to be, besides, where a container sorts. -/
structure Ordered [Ord V] (within : V → Prop) : Prop where
  beq_of_eq : ∀ {a b}, within a → within b → compare a b = .eq → (a == b) = true
  lt_of_gt : ∀ {a b}, within a → within b → compare a b = .gt → compare b a = .lt
  lt_trans : ∀ {a b c}, within a → within b → within c → compare a b = .lt →
    compare b c = .lt → compare a c = .lt

/-- A transitive comparison that agrees with the equality test is in order among all values. -/
theorem Ordered.of_trans [Ord V] [Std.TransOrd V] [Std.LawfulBEqOrd V] : Ordered within :=
  ⟨fun _ _ => Std.LawfulBEqOrd.compare_eq_iff_beq.1, fun _ _ => Std.OrientedCmp.lt_of_gt,
    fun _ _ _ => Std.TransCmp.lt_trans⟩

/-- How a container of this order holds what was kept for it. -/
def Order.Arranges [Ord V] (order : Order) (key : α → V) (kept items : List α) : Prop :=
  match order with
  | .insertion => items = kept
  | .sorted => items.Perm kept ∧
      items.Pairwise fun first second => compare (key first) (key second) = .lt
  | .arbitrary => items.Perm kept

omit [BEq V] in
theorem Order.Arranges.perm [Ord V] {order : Order} {kept items : List α}
    (arranges : order.Arranges key kept items) : items.Perm kept := by
  cases order with
  | insertion => exact .of_eq arranges
  | sorted => exact arranges.1
  | arbitrary => exact arranges

end StructBuilder
