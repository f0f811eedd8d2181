import StructBuilder.Proofs.OptionLists

/-!
Places in option lists. A comma stands between items unless an item that begins in front of
it goes on behind it. Lists are split and joined at such commas without a change to what is
read, and an item with an unknown key may be put there.
-/

namespace StructBuilder.Options

open Grammar Grammar.Reader

variable {ο : Type}

section

variable (item : Option String → Remainder → Result (Option ο × Remainder)) (keys : List String)

/-- Going through the list item by item, the reader comes to where this is left of it. -/
inductive Reaches : Trees → Trees → Prop
  | here (trees : Trees) : Reaches trees trees
  | later {trees rest begun : Trees} {known : Option ο} {gap spelling : String} {stray : Bool}
      (read : entry item keys ⟨trees, false⟩ =
        some (known, ⟨.leaf gap spelling (.punct ',') :: rest, stray⟩))
      (reached : Reaches rest begun) : Reaches trees begun

/-- No item of the list is an unknown key with a value. -/
def Ended (trees : Trees) : Prop :=
  ∀ begun, Reaches item keys trees begun → ¬Endless keys begun

/-- An item that begins in the trees goes on behind the comma that `after` begins with. -/
def Crosses (trees after : Trees) : Prop :=
  ∃ begun known left, Reaches item keys trees begun ∧
    entry item keys ⟨begun ++ after, false⟩ = some (known, left) ∧
    left.trees.length < after.length

/-- An item of the list leaves a group before its end. -/
def Torn (trees : Trees) : Prop :=
  ∃ begun known left, Reaches item keys trees begun ∧
    entry item keys ⟨begun, false⟩ = some (known, ⟨left, true⟩)

/-- The trees end with a comma. -/
def EndsWithComma (trees : Trees) : Prop :=
  ∃ before gap spelling, trees = before ++ [.leaf gap spelling (.punct ',')]

theorem EndsWithComma.behind {rest : Trees} (ends : EndsWithComma rest) (front : Trees) :
    EndsWithComma (front ++ rest) := by
  obtain ⟨before, gap, spelling, rfl⟩ := ends
  exact ⟨front ++ before, gap, spelling, (List.append_assoc ..).symm⟩

/-- Where trees do not end with a comma, something stands behind each comma in them. -/
theorem open_behind_comma {front rest : Trees} {gap spelling : String}
    (open' : ¬EndsWithComma (front ++ .leaf gap spelling (.punct ',') :: rest)) :
    rest ≠ [] ∧ ¬EndsWithComma rest := by
  constructor
  · rintro rfl
    exact open' ⟨front, gap, spelling, rfl⟩
  · exact fun ends => open' (ends.behind [.leaf gap spelling (.punct ',')] |>.behind front)

/-- What is read if these trees follow what has been read so far. -/
def onward (front : Result (List ο × Bool)) (rest : Trees) : Result (List ο) :=
  front.bind fun (stated, torn) => (readList item ⟨rest, torn⟩).map (stated ++ ·)

end

section

variable {item : Option String → Remainder → Result (Option ο × Remainder)} {keys : List String}
  {trees first second after : Trees}

theorem onward_map (front : Result (List ο × Bool)) (one : List ο) (rest : Trees) :
    onward item (front.map fun (stated, torn) => (one ++ stated, torn)) rest =
      (onward item front rest).map (one ++ ·) := by
  rcases front with refusal | ⟨stated, torn⟩
  · rfl
  · change (readList item ⟨rest, torn⟩).map _ = ((readList item ⟨rest, torn⟩).map _).map _
    cases readList item ⟨rest, torn⟩ with
    | error => rfl
    | ok others => exact congrArg Except.ok (List.append_assoc ..)

theorem onward_nil (one : List ο) : onward item (.ok (one, false)) [] = .ok one := by
  change (readList item ⟨[], false⟩).map (one ++ ·) = _
  rw [readList_nil]
  exact congrArg Except.ok (List.append_nil one)

/-- In a single item no other item begins. -/
theorem Whole.reaches {known : Option ο} {begun : Trees} (whole : Whole item keys trees known)
    (reached : Reaches item keys trees begun) : begun = trees := by
  cases reached with
  | here => rfl
  | later read => cases whole.symm.trans read

theorem Whole.not_torn {known : Option ο} (whole : Whole item keys trees known) :
    ¬Torn item keys trees := by
  rintro ⟨begun, _, _, reached, torn⟩
  cases whole.reaches reached
  cases whole.symm.trans torn

theorem Whole.ended {known : Option ο} (whole : Whole item keys trees known) :
    Ended item keys trees := by
  intro begun reached opened
  cases whole.reaches reached
  cases whole.symm.trans (entry_endless opened)

theorem Ended.rest {known : Option ο} {rest : Trees} {gap spelling : String} {stray : Bool}
    (ended : Ended item keys trees)
    (read : entry item keys ⟨trees, false⟩ =
      some (known, ⟨.leaf gap spelling (.punct ',') :: rest, stray⟩)) :
    Ended item keys rest :=
  fun _ reached => ended _ (.later read reached)

variable [Vocabulary item keys]

/-- What is read of a list of its own is read of it in front of a comma, unless an item goes
on behind the comma. -/
theorem readList_joined (gap spelling : String) (second : Trees) (stray : Bool)
    (nonempty : first ≠ []) (open' : ¬EndsWithComma first) (ended : Ended item keys first)
    (between : ¬Crosses item keys first (.leaf gap spelling (.punct ',') :: second)) :
    ∃ front : Result (List ο × Bool),
      (∀ stated, front = .ok (stated, true) → stray = true ∨ Torn item keys first) ∧
      readList item ⟨first, stray⟩ = onward item front [] ∧
      readList item ⟨first ++ .leaf gap spelling (.punct ',') :: second, stray⟩ =
        onward item front second := by
  have stop : Stop (.leaf gap spelling (.punct ',') :: second) := .comma gap spelling second
  generalize same : Source.Tree.leaf gap spelling (.punct ',') :: second = after at *
  induction first using list_induction item generalizing stray with
  | nothing => exact absurd rfl nonempty
  | @endless trees opened => exact absurd opened (ended trees (.here trees))
  | @unread trees _ opened unread =>
      have joined : entry item keys ⟨trees ++ after, stray⟩ = none := by
        refine Option.eq_none_iff_forall_ne_some.2 ?_
        rintro ⟨known, left⟩ read
        obtain ⟨inner, -, any⟩ := Framed.anyStray read
        rcases Nat.lt_or_ge left.trees.length after.length with short | inside
        · exact between ⟨trees, known, _, .here trees, any false, short⟩
        · obtain ⟨behind, -, alone⟩ := Framed.shrink stop read inside
          cases alone.symm.trans (unread stray)
      have alone := unread stray
      rw [← List.append_nil trees] at alone
      obtain ⟨refusal, one, two⟩ := readList_refused nonempty .nothing stop opened alone joined
      rw [List.append_nil] at one
      exact ⟨.error refusal, nofun, one, two⟩
  | @unended trees known left inner unended found =>
      have joined := Framed.extend stop (found stray)
      have other : ¬Stop (left ++ after) := by
        cases left with
        | nil => exact absurd .nothing unended
        | cons tree left =>
            rintro (_ | ⟨gap, spelling, _⟩)
            exact unended (.comma gap spelling left)
      exact ⟨.error .malformed, nofun, readList_unended (found stray) unended,
        readList_unended joined other⟩
  | @last trees known inner _ found =>
      subst same
      refine ⟨.ok (known.toList, stray || inner), fun _ torn => ?_, ?_, ?_⟩
      · cases torn' : inner with
        | true => exact .inr ⟨trees, known, [], .here trees, torn' ▸ found false⟩
        | false =>
            rw [torn', Bool.or_false] at torn
            cases torn
            exact .inl rfl
      · rw [readList_last (found stray), onward]
        change _ = (readList item ⟨[], stray || inner⟩).map (known.toList ++ ·)
        rw [readList_nil]
        cases stray || inner with
        | true => rfl
        | false => exact congrArg Except.ok (List.append_nil _).symm
      · exact readList_more gap spelling second (found stray)
  | @more trees known inner gap' spelling' rest _ found ih =>
      have read := Framed.extend (.comma gap' spelling' rest) (found false)
      obtain ⟨nonempty, open'⟩ := open_behind_comma open'
      have between : ¬Crosses item keys rest after := by
        rintro ⟨begun, known, left, reached, crossing⟩
        exact between ⟨begun, known, left, .later read reached, crossing⟩
      obtain ⟨front, torn, one, two⟩ := ih (stray || inner) nonempty open' (ended.rest read) between
      refine ⟨front.map fun (stated, torn) => (known.toList ++ stated, torn), ?_, ?_, ?_⟩
      · intro stated eq
        obtain ⟨⟨others, _⟩, answer, eq⟩ := map_eq_ok_iff.1 eq
        cases eq
        rcases torn others answer with start | ⟨begun, known, left, reached, left'⟩
        · rcases Bool.or_eq_true_iff.1 start with same | rfl
          · exact .inl same
          · exact .inr ⟨_, known, _, .here _, read⟩
        · exact .inr ⟨begun, known, left, .later read reached, left'⟩
      · rw [readList_more gap' spelling' rest (found stray), one, onward_map]
      · rw [List.append_assoc, List.cons_append, readList_more gap' spelling' _ (found stray), two,
          onward_map]

variable {gap spelling : String}

/-- Where a list is read, all that is left at one of its items is read. -/
theorem Reaches.readList {begun : Trees} {stray : Bool} {stated : List ο}
    (reached : Reaches item keys trees begun) (read : readList item ⟨trees, stray⟩ = .ok stated) :
    ∃ others, readList item ⟨begun, false⟩ = .ok others := by
  induction reached generalizing stray stated with
  | here trees =>
      obtain ⟨rfl, -⟩ := items_of_readList read
      exact ⟨stated, read⟩
  | later one _ ih =>
      obtain ⟨rfl, -⟩ := items_of_readList read
      rw [readList_entry one, behindComma?_comma] at read
      obtain ⟨others, answer, -⟩ := map_eq_ok_iff.1 read
      exact ih answer

/-- In a list that is read, every item has come to its end. -/
theorem not_crosses_of_readList {stated : List ο} (stop : Stop after)
    (read : readList item ⟨first, false⟩ = .ok stated) : ¬Crosses item keys first after := by
  rintro ⟨begun, known, left, reached, crossing, short⟩
  obtain ⟨others, read⟩ := reached.readList read
  cases alone : entry item keys ⟨begun, false⟩ with
  | some answer =>
      obtain ⟨known, rest⟩ := answer
      cases (Framed.extend stop alone).symm.trans crossing
      simp only [List.length_append] at short
      omega
  | none =>
      have opened : ¬Endless keys begun := fun opened => by
        cases (entry_endless (opened.append stop)).symm.trans crossing
      by_cases nonempty : begun = []
      · subst nonempty
        obtain ⟨name, behind, named, -⟩ := bind_eq_some.1 crossing
        rw [Bare.append key stop] at named
        cases named
      · have unread := alone
        rw [← List.append_nil begun] at unread
        obtain ⟨refusal, refused, -⟩ :=
          readList_refused nonempty .nothing .nothing opened unread unread
        rw [List.append_nil, read] at refused
        cases refused

/-- A comma behind the last item changes nothing. -/
theorem readList_trailing (gap spelling : String) (nonempty : first ≠ [])
    (open' : ¬EndsWithComma first) (ended : Ended item keys first) :
    readList item ⟨first ++ [.leaf gap spelling (.punct ',')], false⟩ =
      readList item ⟨first, false⟩ := by
  have between : ¬Crosses item keys first [.leaf gap spelling (.punct ',')] := by
    rintro ⟨begun, known, ⟨left, stray⟩, -, read, short⟩
    obtain rfl : left = [] := List.eq_nil_of_length_eq_zero (Nat.lt_one_iff.1 short)
    have clean := (inferInstance : Framed 0 0 (entry item keys)).clean rfl (.inl rfl) read
    generalize whole : begun ++ [.leaf gap spelling (.punct ',')] = trees at clean
    cases clean with
    | nothing => simp at whole
    | upTo before tree last =>
        obtain ⟨-, same⟩ := List.append_inj' whole rfl
        cases same
        exact last (.comma gap spelling [])
  obtain ⟨front, -, one, two⟩ := readList_joined gap spelling [] false nonempty open' ended between
  exact two.trans one.symm

/-- Splitting a list at a comma between its items changes nothing of what is read. -/
theorem readList_split_eq_ok_iff {stated : List ο} (nonempty : first ≠ [])
    (open' : ¬EndsWithComma first) (ended : Ended item keys first)
    (between : ¬Crosses item keys first (.leaf gap spelling (.punct ',') :: second)) :
    readList item ⟨first ++ .leaf gap spelling (.punct ',') :: second, false⟩ = .ok stated ↔
      ∃ one two, readList item ⟨first, false⟩ = .ok one ∧ readList item ⟨second, false⟩ = .ok two ∧
        one ++ two = stated := by
  obtain ⟨front, -, alone, joined⟩ :=
    readList_joined gap spelling second false nonempty open' ended between
  rw [alone, joined]
  rcases front with refusal | ⟨one, _ | _⟩
  · constructor
    · nofun
    · rintro ⟨_, _, ⟨⟩, -⟩
  · rw [onward_nil]
    refine map_eq_ok_iff.trans ⟨?_, ?_⟩
    · rintro ⟨two, answer, rfl⟩
      exact ⟨one, two, rfl, answer, rfl⟩
    · rintro ⟨_, two, ⟨⟩, answer, rfl⟩
      exact ⟨two, answer, rfl⟩
  · constructor
    · intro read
      obtain ⟨two, answer, -⟩ := map_eq_ok_iff.1 read
      cases (items_of_readList answer).1
    · rintro ⟨_, _, refused, -⟩
      obtain ⟨_, answer, -⟩ := map_eq_ok_iff.1 refused
      cases (items_of_readList answer).1

/-- The first refusal is the same as well, unless a group was left before its end. -/
theorem readList_split (nonempty : first ≠ []) (open' : ¬EndsWithComma first)
    (ended : Ended item keys first)
    (between : ¬Crosses item keys first (.leaf gap spelling (.punct ',') :: second))
    (whole : ¬Torn item keys first) :
    readList item ⟨first ++ .leaf gap spelling (.punct ',') :: second, false⟩ = do
      let one ← readList item ⟨first, false⟩
      let two ← readList item ⟨second, false⟩
      return one ++ two := by
  obtain ⟨front, torn, alone, joined⟩ :=
    readList_joined gap spelling second false nonempty open' ended between
  rw [alone, joined]
  rcases front with refusal | ⟨one, _ | _⟩
  · rfl
  · rw [onward_nil]
    change (readList item ⟨second, false⟩).map _ = (readList item ⟨second, false⟩).bind _
    cases readList item ⟨second, false⟩ <;> rfl
  · rcases torn one rfl with same | torn
    · cases same
    · exact absurd torn whole
end

/-! Items put into a list. -/

/-- The item has an unknown key with nothing but a list behind it, if anything. -/
def Plain (keys : List String) (trees : Trees) : Prop :=
  ∃ name behind, key ⟨trees, false⟩ = some (name, behind) ∧ (∀ key ∈ keys, name ≠ some key) ∧
    (behind.trees = [] ∨ ∃ gap content closing, behind.trees = [.group gap .paren content closing])

section

variable (item : Option String → Remainder → Result (Option ο × Remainder)) (keys : List String)

/-- Items, each with a comma behind it. -/
inductive Run : Trees → Prop
  | nothing : Run []
  | next {trees rest : Trees} {known : Option ο} (gap spelling : String)
      (whole : Whole item keys trees known) (others : Run rest) :
      Run (trees ++ .leaf gap spelling (.punct ',') :: rest)

/-- An item is put into a list, behind `front`, with the comma that it needs there. -/
inductive Inserted (new : Trees) : (trees front joined : Trees) → Prop
  | amid {front back : Trees} (gap spelling : String) (run : Run item keys front) :
      Inserted new (front ++ back) front (front ++ (new ++ .leaf gap spelling (.punct ',') :: back))
  | last {front : Trees} (run : Run item keys front) : Inserted new front front (front ++ new)
  | behind {trees : Trees} (gap spelling : String) (nonempty : trees ≠ [])
      (open' : ¬EndsWithComma trees) :
      Inserted new trees trees (trees ++ .leaf gap spelling (.punct ',') :: new)

end

section

variable {item : Option String → Remainder → Result (Option ο × Remainder)} {keys : List String}
  {trees front joined new : Trees} {stated : List ο}

theorem Plain.whole (plain : Plain keys new) : Whole item keys new none := by
  obtain ⟨name, ⟨behind, stray⟩, named, unknown, rest⟩ := plain
  have unstray : false = stray := (Bare.taken named).1.symm
  subst unstray
  refine bind_eq_some.2 ⟨name, _, named, (meaning_unknown unknown _).trans ?_⟩
  rcases rest with rfl | ⟨gap, content, closing, rfl⟩ <;> rfl

variable [Vocabulary item keys]

/-- What the items say comes before what is read behind them. -/
theorem Run.readList (run : Run item keys front) : ∃ stated : List ο, ∀ back,
    readList item ⟨front ++ back, false⟩ = (readList item ⟨back, false⟩).map (stated ++ ·) := by
  induction run with
  | nothing =>
      refine ⟨[], fun back => ?_⟩
      rw [List.nil_append]
      cases Options.readList item ⟨back, false⟩ <;> rfl
  | @next trees rest known gap spelling whole _ ih =>
      obtain ⟨stated, ih⟩ := ih
      refine ⟨known.toList ++ stated, fun back => ?_⟩
      rw [List.append_assoc, List.cons_append, readList_more gap spelling _ whole, ih]
      cases Options.readList item ⟨back, false⟩ with
      | error => rfl
      | ok others => exact congrArg Except.ok (List.append_assoc ..).symm

/-- What says nothing may stand behind a list that is read. -/
theorem readList_behind (gap spelling : String) (nonempty : trees ≠ [])
    (open' : ¬EndsWithComma trees) (items : Items (Whole item keys) (Endless keys) trees stated)
    (silent : readList item ⟨new, false⟩ = .ok []) :
    readList item ⟨trees ++ .leaf gap spelling (.punct ',') :: new, false⟩ = .ok stated := by
  induction items with
  | nothing => exact absurd rfl nonempty
  | last whole =>
      rw [readList_more gap spelling new whole, silent]
      exact congrArg Except.ok (List.append_nil _)
  | @more trees rest known stated gap' spelling' whole _ ih =>
      obtain ⟨nonempty, open'⟩ := open_behind_comma open'
      rw [List.append_assoc, List.cons_append, readList_more gap' spelling' _ whole,
        ih nonempty open']
      rfl
  | endless opened =>
      exact readList_endless false (opened.append (.comma gap spelling new))

/-- An unknown key without a value changes nothing. -/
theorem readList_inserted_plain (inserted : Inserted item keys new trees front joined)
    (plain : Plain keys new) (read : readList item ⟨trees, false⟩ = .ok stated) :
    readList item ⟨joined, false⟩ = .ok stated := by
  have whole : Whole item keys new none := plain.whole
  cases inserted with
  | @amid _ back gap spelling run =>
      obtain ⟨before, run⟩ := run.readList
      rw [run] at read ⊢
      rw [readList_more gap spelling back whole]
      cases others : readList item ⟨back, false⟩ with
      | error => rw [others] at read; cases read
      | ok others' => rwa [others] at read
  | last run =>
      obtain ⟨before, run⟩ := run.readList
      rw [run, readList_last whole]
      rwa [← List.append_nil trees, run, readList_nil] at read
  | behind gap spelling nonempty open' =>
      exact readList_behind gap spelling nonempty open' (items_of_readList read).2
        (readList_last whole)

/-- An unknown key with a value ends the list: what stands behind it is not read. -/
theorem readList_inserted_endless (inserted : Inserted item keys new trees front joined)
    (endless : Endless keys new) (read : readList item ⟨trees, false⟩ = .ok stated) :
    readList item ⟨joined, false⟩ = readList item ⟨front, false⟩ := by
  have silent {trees : Trees} (opened : Endless keys trees) :
      readList item ⟨trees, false⟩ = .ok [] := readList_endless false opened
  cases inserted with
  | @amid _ back gap spelling run =>
      obtain ⟨before, run⟩ := run.readList
      have cut := run []
      rw [List.append_nil, readList_nil] at cut
      rw [run, silent (endless.append (.comma gap spelling back)), cut]
      rfl
  | last run =>
      obtain ⟨before, run⟩ := run.readList
      have cut := run []
      rw [List.append_nil, readList_nil] at cut
      rw [run, silent endless, cut]
      rfl
  | behind gap spelling nonempty open' =>
      rw [read]
      exact readList_behind gap spelling nonempty open' (items_of_readList read).2 (silent endless)

end

end StructBuilder.Options
