import StructBuilder.Options.List
import StructBuilder.Proofs.Framed.Bare

/-!
Option lists item by item. What an item says depends on the item alone, so a list is read
exactly if it is made of items that can be read one by one, with commas between them. The
only item without an end of its own is an unknown key with a value: it takes the rest of
its list.
-/

namespace StructBuilder.Options

open Grammar Grammar.Reader

instance : Framed 0 0 key := by
  unfold key
  infer_instance

instance : Bare key := by
  unfold key
  infer_instance

instance : Strict key := by
  unfold key
  infer_instance

variable {ο : Type}

/-- A reader of items that knows these keys, and looks for each of them at its item alone. -/
class Vocabulary (item : Option String → Remainder → Result (Option ο × Remainder))
    (keys : outParam (List String)) : Prop where
  unknown : ∀ {name}, (∀ key ∈ keys, name ≠ some key) → ∀ rest,
    item name rest = .ok (none, skip rest)
  framed : ∀ key ∈ keys, Framed 0 0 fun rest => (item (some key) rest).toOption
  refusal : ∀ key ∈ keys, ∀ {trees after other stray stray' one two}, Stop after → Stop other →
    item (some key) ⟨trees ++ after, stray⟩ = .error one →
    item (some key) ⟨trees ++ other, stray'⟩ = .error two → one = two

/-- What stands behind a key, if it has an end. -/
def meaning (item : Option String → Remainder → Result (Option ο × Remainder))
    (keys : List String) (name : Option String) : Reader (Option ο) :=
  if keys.any (name == some ·) then fun rest => (item name rest).toOption
  else do
    guard !(← sees (atPunct "="))
    if ← sees (atGroup .paren) then discard tree
    return none

/-- One item that has an end, and what it says if its key is known. -/
def entry (item : Option String → Remainder → Result (Option ο × Remainder))
    (keys : List String) : Reader (Option ο) := do
  meaning item keys (← key)

/-- An unknown key with a value, which takes all the rest. -/
def Endless (keys : List String) (trees : Trees) : Prop :=
  ∃ name behind, key ⟨trees, false⟩ = some (name, behind) ∧ (∀ key ∈ keys, name ≠ some key) ∧
    atPunct "=" behind.trees = true

section

variable {item : Option String → Remainder → Result (Option ο × Remainder)} {keys : List String}
  {rest left : Remainder} {known : Option ο}

theorem any_eq_some_iff {name : Option String} :
    keys.any (name == some ·) = true ↔ ∃ key ∈ keys, name = some key := by
  simp

theorem any_eq_false_iff {name : Option String} :
    keys.any (name == some ·) = false ↔ ∀ key ∈ keys, name ≠ some key := by
  simp

theorem toOption_eq_some {α : Type} {result : Result α} {x : α} :
    result.toOption = some x ↔ result = .ok x := by
  cases result <;> simp [Except.toOption]

theorem toOption_eq_none {α : Type} {result : Result α} :
    result.toOption = none ↔ ∃ refusal, result = .error refusal := by
  cases result <;> simp [Except.toOption]

theorem meaning_known {key : String} (mem : key ∈ keys) (rest : Remainder) :
    meaning item keys (some key) rest = (item (some key) rest).toOption := by
  have known : keys.any (some key == some ·) = true := any_eq_some_iff.2 ⟨key, mem, rfl⟩
  rw [meaning, if_pos known]

theorem meaning_unknown {name : Option String} (unknown : ∀ key ∈ keys, name ≠ some key)
    (rest : Remainder) : meaning item keys name rest =
      if atPunct "=" rest.trees then none else some (none, skip rest) := by
  have known : ¬keys.any (name == some ·) = true := by
    rw [any_eq_false_iff.2 unknown]
    exact Bool.false_ne_true
  rw [meaning, if_neg known]
  have run : ((do
      guard !(← sees (atPunct "="))
      if ← sees (atGroup .paren) then discard tree
      return none : Reader (Option ο)) rest) =
    (do
      guard !(atPunct "=" rest.trees)
      if ← sees (atGroup .paren) then discard tree
      return none : Reader (Option ο)) rest := rfl
  rw [run, skip]
  cases assigned : atPunct "=" rest.trees with
  | true => rfl
  | false =>
      have run : ((do
          guard !false
          if ← sees (atGroup .paren) then discard tree
          return none : Reader (Option ο)) rest) =
        (do
          if atGroup .paren rest.trees then discard tree
          return none : Reader (Option ο)) rest := rfl
      rw [run]
      cases group : atGroup .paren rest.trees with
      | false => rfl
      | true =>
          obtain ⟨_ | ⟨tree, trees⟩, stray⟩ := rest
          · cases group
          · rfl

theorem Endless.append {trees after : Trees} (endless : Endless keys trees) (stop : Stop after) :
    Endless keys (trees ++ after) := by
  obtain ⟨name, behind, named, unknown, assigned⟩ := endless
  refine ⟨name, ⟨behind.trees ++ after, false⟩, ?_, unknown, ?_⟩
  · rw [Bare.append key stop, named]
    rfl
  · exact (atPunct_append stop _).trans assigned

theorem entry_endless {trees : Trees} (endless : Endless keys trees) :
    entry item keys ⟨trees, false⟩ = none := by
  obtain ⟨name, behind, named, unknown, assigned⟩ := endless
  rw [entry, run_bind, named]
  exact (meaning_unknown unknown behind).trans (if_pos assigned)

variable [Vocabulary item keys]

instance (name : Option String) : Framed 0 0 (meaning item keys name) := by
  unfold meaning
  split
  · rename_i known
    obtain ⟨key, mem, rfl⟩ := any_eq_some_iff.1 known
    exact Vocabulary.framed key mem
  · dsimp only
    infer_instance

instance : Framed 0 0 (entry item keys) := by
  unfold entry
  infer_instance

instance : Strict (entry item keys) := by
  unfold entry
  infer_instance

/-! One step of a list. -/

theorem map_eq_ok_iff {α β : Type} {f : α → β} {result : Result α} {y : β} :
    result.map f = .ok y ↔ ∃ x, result = .ok x ∧ f x = y := by
  cases result <;> simp [Except.map]

theorem readList_nil (stray : Bool) :
    readList item ⟨[], stray⟩ = if stray then .error .malformed else .ok [] := by
  rw [readList]
  rfl

theorem key_eq (trees : Trees) (stray : Bool) :
    key ⟨trees, stray⟩ =
      (key ⟨trees, false⟩).map fun (name, behind) => (name, ⟨behind.trees, stray⟩) := by
  have := Bare.append key .nothing trees stray
  simpa only [List.append_nil] using this

theorem not_isEmpty_of_key {name : Option String} (read : key rest = some (name, left)) :
    rest.trees.isEmpty = false := by
  have := Strict.shorter read
  cases trees : rest.trees with
  | nil => simp [trees] at this
  | cons => rfl

theorem behindComma?_length {next : Remainder} (comma : behindComma? left = some next) :
    next.trees.length ≤ left.trees.length := by
  unfold behindComma? at comma
  split at comma
  · cases comma
    exact Nat.le_refl _
  · obtain ⟨⟨_, _⟩, read, eq⟩ := Option.map_eq_some_iff.1 comma
    cases eq
    exact (Framed.suffix 1 0 read).length_le

/-- The value of an unknown key is read to the end of the list. -/
theorem readList_endless {trees : Trees} (stray : Bool) (endless : Endless keys trees) :
    readList item ⟨trees, stray⟩ = if stray then .error .malformed else .ok [] := by
  obtain ⟨name, behind, named, unknown, assigned⟩ := endless
  have named : key ⟨trees, stray⟩ = some (name, ⟨behind.trees, stray⟩) := by
    rw [key_eq, named]
    rfl
  have skipped : item name ⟨behind.trees, stray⟩ = .ok (none, ⟨[], stray⟩) := by
    have skipped : item name _ = _ := Vocabulary.unknown unknown ⟨behind.trees, stray⟩
    rw [skipped, skip, if_pos assigned]
  have shorter : 0 < trees.length := Nat.zero_lt_of_lt (Strict.shorter named)
  rw [readList, not_isEmpty_of_key named]
  simp only [named, skipped, behindComma?, List.isEmpty_nil, if_true, List.length_nil, shorter,
    Bool.false_eq_true, if_false, dite_true, readList_nil]
  cases stray <;> rfl

theorem item_of_meaning {name : Option String} (read : meaning item keys name rest = some (known, left)) :
    item name rest = .ok (known, left) := by
  by_cases unknown : ∀ key ∈ keys, name ≠ some key
  · have skipped : item name rest = _ := Vocabulary.unknown unknown rest
    rw [meaning_unknown unknown] at read
    split at read
    · cases read
    · cases read
      exact skipped
  · push Not at unknown
    obtain ⟨key, mem, rfl⟩ := unknown
    rw [meaning_known mem] at read
    exact toOption_eq_some.1 read

theorem readList_entry (read : entry item keys rest = some (known, left)) :
    readList item rest = match behindComma? left with
      | none => .error .malformed
      | some next => (readList item next).map (known.toList ++ ·) := by
  obtain ⟨name, behind, named, meant⟩ := bind_eq_some.1 read
  have answer := item_of_meaning meant
  rw [readList, not_isEmpty_of_key named]
  simp only [named, answer, Bool.false_eq_true, if_false]
  cases comma : behindComma? left with
  | none => rfl
  | some next =>
      have shorter : next.trees.length < rest.trees.length := by
        exact Nat.lt_of_le_of_lt (behindComma?_length comma) (Strict.shorter read)
      exact dif_pos shorter

theorem readList_of_key {name : Option String} {behind : Remainder}
    (named : key rest = some (name, behind)) {refusal : Refusal}
    (refused : item name behind = .error refusal) : readList item rest = .error refusal := by
  rw [readList, not_isEmpty_of_key named]
  simp only [named, refused, Bool.false_eq_true, if_false]

/-- An item that cannot be read is refused for the same reason in front of every end. -/
theorem readList_refused {trees after other : Trees} {stray : Bool} (nonempty : trees ≠ [])
    (stop : Stop after) (end' : Stop other) (ends : ¬Endless keys trees)
    (one : entry item keys ⟨trees ++ after, stray⟩ = none)
    (two : entry item keys ⟨trees ++ other, stray⟩ = none) :
    ∃ refusal, readList item ⟨trees ++ after, stray⟩ = .error refusal ∧
      readList item ⟨trees ++ other, stray⟩ = .error refusal := by
  have keyed {next : Trees} (stop : Stop next) := Bare.append key stop trees stray
  cases alone : key ⟨trees, false⟩ with
  | none =>
      have malformed {next : Trees} (stop : Stop next) :
          readList item ⟨trees ++ next, stray⟩ = .error .malformed := by
        have unread := keyed stop
        rw [alone] at unread
        have some' : (trees ++ next).isEmpty = false := by simp [nonempty]
        rw [readList]
        simp only [some', unread, Option.map_none, Bool.false_eq_true, if_false]
      exact ⟨.malformed, malformed stop, malformed end'⟩
  | some found =>
      obtain ⟨name, behind⟩ := found
      have named {next : Trees} (stop : Stop next) :
          key ⟨trees ++ next, stray⟩ = some (name, ⟨behind.trees ++ next, stray⟩) := by
        rw [keyed stop, alone]
        rfl
      have unmeant {next : Trees} (stop : Stop next)
          (unread : entry item keys ⟨trees ++ next, stray⟩ = none) :
          meaning item keys name ⟨behind.trees ++ next, stray⟩ = none := by
        rwa [entry, run_bind, named stop] at unread
      by_cases unknown : ∀ key ∈ keys, name ≠ some key
      · have ended : atPunct "=" behind.trees = false :=
          eq_false_of_ne_true fun assigned => ends ⟨name, behind, alone, unknown, assigned⟩
        have read := unmeant stop one
        rw [meaning_unknown unknown, atPunct_append stop, ended] at read
        cases read
      · push Not at unknown
        obtain ⟨key, mem, rfl⟩ := unknown
        have refused {next : Trees} (stop : Stop next)
            (unread : entry item keys ⟨trees ++ next, stray⟩ = none) :
            ∃ refusal, item (some key) ⟨behind.trees ++ next, stray⟩ = .error refusal := by
          have unread := unmeant stop unread
          rw [meaning_known mem] at unread
          exact toOption_eq_none.1 unread
        obtain ⟨refusal, first⟩ := refused stop one
        obtain ⟨other, second⟩ := refused end' two
        cases Vocabulary.refusal key mem stop end' first second
        exact ⟨refusal, readList_of_key (named stop) first, readList_of_key (named end') second⟩

/-! Whole lists. -/

/-- The trees are one item. -/
def Whole (item : Option String → Remainder → Result (Option ο × Remainder)) (keys : List String)
    (trees : Trees) (known : Option ο) : Prop :=
  entry item keys ⟨trees, false⟩ = some (known, ⟨[], false⟩)

/-- The trees are items of some form with commas between them; a comma may follow the last. -/
inductive Items (form : Trees → Option ο → Prop) (endless : Trees → Prop) : Trees → List ο → Prop
  | nothing : Items form endless [] []
  | last {trees : Trees} {known : Option ο} (formed : form trees known) :
      Items form endless trees known.toList
  | more {trees rest : Trees} {known : Option ο} {stated : List ο} (gap spelling : String)
      (formed : form trees known) (others : Items form endless rest stated) :
      Items form endless (trees ++ .leaf gap spelling (.punct ',') :: rest) (known.toList ++ stated)
  | endless {trees : Trees} (opened : endless trees) : Items form endless trees []

theorem behindComma?_comma (gap spelling : String) (trees : Trees) (stray : Bool) :
    behindComma? ⟨.leaf gap spelling (.punct ',') :: trees, stray⟩ = some ⟨trees, stray⟩ := by
  simp [behindComma?, punct, punctRest?]

theorem behindComma?_eq_none {left : Remainder} (other : ¬Stop left.trees) :
    behindComma? left = none := by
  obtain ⟨_ | ⟨⟨gap, spelling, leaf⟩ | _, trees⟩, stray⟩ := left
  · exact absurd .nothing other
  · cases leaf with
    | punct c =>
        have ne : ',' ≠ c := fun eq => other (eq ▸ .comma gap spelling trees)
        simp [behindComma?, punct, punctRest?, ne]
    | _ => rfl
  · rfl

theorem readList_last {trees : Trees} {stray stray' : Bool}
    (read : entry item keys ⟨trees, stray⟩ = some (known, ⟨[], stray'⟩)) :
    readList item ⟨trees, stray⟩ = if stray' then .error .malformed else .ok known.toList := by
  rw [readList_entry read]
  change (readList item ⟨[], stray'⟩).map (known.toList ++ ·) = _
  rw [readList_nil]
  cases stray' with
  | true => rfl
  | false => exact congrArg Except.ok (List.append_nil _)

theorem readList_more {trees : Trees} {stray stray' : Bool} (gap spelling : String) (rest : Trees)
    (read : entry item keys ⟨trees, stray⟩ = some (known, ⟨[], stray'⟩)) :
    readList item ⟨trees ++ .leaf gap spelling (.punct ',') :: rest, stray⟩ =
      (readList item ⟨rest, stray'⟩).map (known.toList ++ ·) := by
  have read := Framed.extend (.comma gap spelling rest) read
  rw [readList_entry read, List.nil_append, behindComma?_comma]

theorem readList_unended {left : Remainder} (read : entry item keys rest = some (known, left))
    (unended : ¬Stop left.trees) : readList item rest = .error .malformed := by
  rw [readList_entry read, behindComma?_eq_none unended]

/-- Every list comes to one of these ends, if items are taken from it one after the other. -/
theorem list_induction (item : Option String → Remainder → Result (Option ο × Remainder))
    [Vocabulary item keys] {motive : Trees → Prop} (nothing : motive [])
    (endless : ∀ {trees}, Endless keys trees → motive trees)
    (unread : ∀ {trees}, trees ≠ [] → ¬Endless keys trees →
      (∀ stray, entry item keys ⟨trees, stray⟩ = none) → motive trees)
    (unended : ∀ {trees known left inner}, ¬Stop left →
      (∀ stray, entry item keys ⟨trees, stray⟩ = some (known, ⟨left, stray || inner⟩)) →
      motive trees)
    (last : ∀ {trees known inner}, trees ≠ [] →
      (∀ stray, entry item keys ⟨trees, stray⟩ = some (known, ⟨[], stray || inner⟩)) →
      motive trees)
    (more : ∀ {trees known inner} (gap spelling : String) (rest : Trees), trees ≠ [] →
      (∀ stray, entry item keys ⟨trees, stray⟩ = some (known, ⟨[], stray || inner⟩)) →
      motive rest → motive (trees ++ .leaf gap spelling (.punct ',') :: rest))
    (trees : Trees) : motive trees := by
  induction length : trees.length using Nat.strongRecOn generalizing trees with
  | _ length ih =>
      subst length
      by_cases nonempty : trees = []
      · subst nonempty
        exact nothing
      by_cases opened : Endless keys trees
      · exact endless opened
      cases found : entry item keys ⟨trees, false⟩ with
      | none =>
          refine unread nonempty opened fun stray => Option.eq_none_iff_forall_ne_some.2 ?_
          rintro ⟨known, left⟩ read
          obtain ⟨inner, -, any⟩ := Framed.anyStray read
          cases found.symm.trans (any false)
      | some answer =>
          obtain ⟨known, left⟩ := answer
          by_cases stop : Stop left.trees
          · obtain ⟨own, inner, split, -, alone⟩ := Framed.alone found stop
            have some' : own ≠ [] := by
              rintro rfl
              exact absurd (Strict.shorter (alone false)) (Nat.lt_irrefl _)
            generalize left.trees = behind at stop split
            subst split
            cases stop with
            | nothing =>
                rw [List.append_nil]
                exact last some' alone
            | comma gap spelling rest =>
                refine more gap spelling rest some' alone (ih _ ?_ rest rfl)
                simp only [List.length_append, List.length_cons]
                omega
          · obtain ⟨inner, -, any⟩ := Framed.anyStray found
            exact unended stop any

/-- A list that is read is made of items. -/
theorem items_of_readList {trees : Trees} {stray : Bool} {stated : List ο}
    (read : readList item ⟨trees, stray⟩ = .ok stated) :
    stray = false ∧ Items (Whole item keys) (Endless keys) trees stated := by
  induction trees using list_induction item generalizing stray stated with
  | nothing =>
      rw [readList_nil] at read
      cases stray <;> cases read
      exact ⟨rfl, .nothing⟩
  | @endless trees opened =>
      rw [readList_endless stray opened] at read
      cases stray <;> cases read
      exact ⟨rfl, .endless opened⟩
  | @unread trees nonempty ended none =>
      have none := none stray
      rw [← List.append_nil trees] at none
      obtain ⟨refusal, refused, -⟩ := readList_refused nonempty .nothing .nothing ended none none
      rw [List.append_nil, read] at refused
      cases refused
  | unended unended found =>
      rw [readList_unended (found stray) unended] at read
      cases read
  | @last trees known inner _ found =>
      have last := found stray
      rw [readList_last last] at read
      cases stray <;> cases inner <;> cases read
      exact ⟨rfl, .last last⟩
  | @more trees known inner gap spelling rest _ found ih =>
      rw [readList_more gap spelling rest (found stray)] at read
      obtain ⟨others, answer, rfl⟩ := map_eq_ok_iff.1 read
      obtain ⟨same, items⟩ := ih answer
      obtain ⟨rfl, rfl⟩ := Bool.or_eq_false_iff.1 same
      exact ⟨rfl, .more gap spelling (found false) items⟩

theorem readList_of_items {trees : Trees} {stated : List ο}
    (items : Items (Whole item keys) (Endless keys) trees stated) :
    readList item ⟨trees, false⟩ = .ok stated := by
  induction items with
  | nothing => exact readList_nil false
  | last whole => exact readList_last whole
  | more gap spelling whole _ ih =>
      rw [readList_more gap spelling _ whole, ih]
      rfl
  | endless opened => exact readList_endless false opened

/-- A list is read exactly if it is made of items. -/
theorem readList_eq_ok_iff {trees : Trees} {stated : List ο} :
    readList item ⟨trees, false⟩ = .ok stated ↔
      Items (Whole item keys) (Endless keys) trees stated :=
  ⟨fun read => (items_of_readList read).2, readList_of_items⟩

end

end StructBuilder.Options
