import StructBuilder.Proofs.OptionPlaces

/-!
Values of keys. A flag stands alone or has a truth value, a text has a string literal. What
is read of a value does not depend on what stands behind it, and neither does the reason to
refuse it.
-/

namespace StructBuilder.Options

open Grammar Grammar.Reader

/-! Values. -/

section

variable {α : Type}

/-- The reader of values looks only at the tree that is a literal. -/
class Extracts (extract : Trees → Option α) : Prop where
  ofHead : ∀ tree trees, extract (tree :: trees) = extract [tree]
  literal : ∀ {tree x}, extract [tree] = some x → ∃ gap spelling leaf,
    tree = .leaf gap spelling leaf ∧ (∀ c, leaf ≠ .punct c) ∧ atLiteral [tree] = true

instance : Extracts truth? where
  ofHead tree _ := by
    obtain ⟨_, _, leaf⟩ | _ := tree
    · cases leaf <;> rfl
    · rfl
  literal {tree x} read := by
    obtain ⟨gap, spelling, leaf⟩ | _ := tree
    · refine ⟨gap, spelling, leaf, rfl, ?_⟩
      cases leaf with
      | ident name =>
          refine ⟨nofun, ?_⟩
          by_contra other
          simp [atLiteral] at other
          simp [truth?, atWord, other] at read
      | _ => cases read
    · cases read

instance : Extracts string? where
  ofHead tree _ := by
    obtain ⟨_, _, leaf⟩ | _ := tree
    · cases leaf <;> rfl
    · rfl
  literal {tree x} read := by
    obtain ⟨gap, spelling, leaf⟩ | _ := tree
    · refine ⟨gap, spelling, leaf, rfl, ?_⟩
      cases leaf with
      | text => exact ⟨nofun, rfl⟩
      | _ => cases read
    · cases read

/-- Only the end of a remainder depends on what stands behind the option. -/
structure Own (f : Remainder → Result (α × Remainder)) : Prop where
  append : ∀ {after}, Stop after → ∀ trees stray, f ⟨trees ++ after, stray⟩ =
    (f ⟨trees, false⟩).map fun (x, left) => (x, ⟨left.trees ++ after, stray⟩)

theorem Own.refusal {f : Remainder → Result (α × Remainder)} (own : Own f)
    {trees after other : Trees} {stray stray' : Bool} {one two : Refusal} (stop : Stop after)
    (end' : Stop other) (first : f ⟨trees ++ after, stray⟩ = .error one)
    (second : f ⟨trees ++ other, stray'⟩ = .error two) : one = two := by
  have first := (own.append stop trees stray).symm.trans first
  have second := (own.append end' trees stray').symm.trans second
  cases answer : f ⟨trees, false⟩ with
  | ok => rw [answer] at first; cases first
  | error =>
      rw [answer] at first second
      cases first
      cases second
      rfl

theorem length_le_of_atLiteral {trees : Trees} (literal : atLiteral trees = true) :
    (if atPunct "-" trees then 2 else 1) ≤ trees.length := by
  cases trees with
  | nil => cases literal
  | cons tree trees =>
      split
      · next minus =>
        have number := atNumber_of_atLiteral literal minus
        cases trees with
        | nil => cases number
        | cons => simp
      · simp

theorem atPunct_equals {trees : Trees} : atPunct "=" trees = true ↔
    ∃ gap spelling rest, trees = .leaf gap spelling (.punct '=') :: rest := by
  constructor
  · intro equals
    obtain _ | ⟨⟨gap, spelling, leaf⟩ | _, trees⟩ := trees
    · cases equals
    · cases leaf with
      | punct c =>
          by_cases same : '=' = c
          · subst same
            exact ⟨gap, spelling, trees, rfl⟩
          · simp [atPunct, punctRest?, same] at equals
      | _ => cases equals
    · cases equals
  · rintro ⟨gap, spelling, rest, rfl⟩
    simp [atPunct, punctRest?]

/-- What is assigned stands behind the mark. -/
theorem assigned_equals (reason : Reason) (extract : Trees → Option α) (gap spelling : String)
    (value : Trees) (stray : Bool) :
    assigned reason extract ⟨.leaf gap spelling (.punct '=') :: value, stray⟩ =
      if !atLiteral value then .error .malformed
      else match extract value with
        | some x => .ok (x, ⟨value.drop (if atPunct "-" value then 2 else 1), stray⟩)
        | none => .error (.refused reason
            (some (Source.spell (value.take (if atPunct "-" value then 2 else 1))))) := by
  have equals : atPunct "=" (.leaf gap spelling (.punct '=') :: value) = true :=
    atPunct_equals.2 ⟨gap, spelling, _, rfl⟩
  rw [assigned, equals]
  rfl

theorem own_assigned (reason : Reason) (extract : Trees → Option α) [Extracts extract] :
    Own (assigned reason extract) := by
  refine ⟨fun {after} stop trees stray => ?_⟩
  cases equals : atPunct "=" trees with
  | false =>
      have joined := (atPunct_append stop trees).trans equals
      rw [assigned, assigned, equals, joined]
      rfl
  | true =>
      obtain ⟨gap, spelling, value, rfl⟩ := atPunct_equals.1 equals
      have same : atLiteral (value ++ after) = atLiteral value := by
        rw [Steady.eq atLiteral value.length.zero_le stop .nothing, List.append_nil]
      rw [List.cons_append, assigned_equals, assigned_equals, same, atPunct_append stop value]
      cases literal : atLiteral value with
      | false => rfl
      | true =>
          have fits := length_le_of_atLiteral literal
          obtain ⟨tree, more, rfl⟩ := List.exists_cons_of_length_pos
            (Nat.lt_of_lt_of_le (by split <;> decide) fits)
          generalize (if atPunct "-" (tree :: more) then 2 else 1) = length at fits
          have head : ∀ trees, extract (tree :: trees) = extract [tree] := Extracts.ofHead tree
          rw [List.take_append_of_le_length fits, List.drop_append_of_le_length fits,
            List.cons_append, head (more ++ after), head more]
          cases extract [tree] <;> rfl

theorem assigned_eq_ok_iff {reason : Reason} {extract : Trees → Option α} [Extracts extract]
    {rest left : Remainder} {x : α} : assigned reason extract rest = .ok (x, left) ↔
      ∃ gap spelling tree, rest.trees = .leaf gap spelling (.punct '=') :: tree :: left.trees ∧
        extract [tree] = some x ∧ left.stray = rest.stray := by
  have literal {tree : Source.Tree} {trees : Trees} {x : α} (read : extract [tree] = some x) :
      atLiteral (tree :: trees) = true ∧ atPunct "-" (tree :: trees) = false := by
    obtain ⟨gap, spelling, leaf, rfl, other, holds⟩ := Extracts.literal read
    cases leaf with
    | punct c => exact absurd rfl (other c)
    | _ => exact ⟨holds, rfl⟩
  have head (tree : Source.Tree) : ∀ trees, extract (tree :: trees) = extract [tree] :=
    Extracts.ofHead tree
  obtain ⟨trees, stray⟩ := rest
  obtain ⟨left, stray'⟩ := left
  constructor
  · intro read
    cases equals : atPunct "=" trees with
    | false =>
        rw [assigned, equals] at read
        cases read
    | true =>
        obtain ⟨gap, spelling, value, rfl⟩ := atPunct_equals.1 equals
        rw [assigned_equals] at read
        cases value with
        | nil => cases read
        | cons tree more =>
            rw [head] at read
            cases answer : extract [tree] with
            | none =>
                rw [answer] at read
                split at read <;> cases read
            | some y =>
                rw [answer, (literal answer).1, (literal answer).2] at read
                cases read
                exact ⟨gap, spelling, tree, rfl, answer, rfl⟩
  · rintro ⟨gap, spelling, tree, split, answer, unstray⟩
    dsimp only at split unstray
    subst split unstray
    rw [assigned_equals, head, (literal answer).1, (literal answer).2, answer]
    rfl

theorem discard_equals {rest left : Remainder} {u : PUnit} :
    discard (punct "=") rest = some (u, left) ↔ ∃ gap spelling,
      rest.trees = .leaf gap spelling (.punct '=') :: left.trees ∧ left.stray = rest.stray := by
  obtain ⟨trees, stray⟩ := rest
  obtain ⟨left, stray'⟩ := left
  constructor
  · intro read
    obtain ⟨_, middle, one, eq⟩ := bind_eq_some.1 ((congrFun (bind_pure_comp _ _) _).trans read)
    cases eq
    obtain ⟨_, found, eq⟩ := Option.map_eq_some_iff.1 one
    cases eq
    obtain ⟨gap, spelling, value, rfl⟩ := atPunct_equals.1 (Option.isSome_of_eq_some found)
    cases found
    exact ⟨gap, spelling, rfl, rfl⟩
  · rintro ⟨gap, spelling, split, unstray⟩
    dsimp only at split unstray
    subst split unstray
    rfl

/-- Where a literal is assigned, it is read as one tree behind the mark. -/
theorem toOption_assigned (reason : Reason) (extract : Trees → Option α) [Extracts extract] :
    (fun rest => (assigned reason extract rest).toOption) = (do
      discard (punct "=")
      headed fun tree => (extract [tree]).map (·, false) : Reader α) := by
  funext rest
  refine Option.ext fun (x, left) => toOption_eq_some.trans (assigned_eq_ok_iff.trans ?_)
  rw [bind_eq_some]
  constructor
  · rintro ⟨gap, spelling, tree, split, answer, unstray⟩
    refine ⟨⟨⟩, ⟨tree :: left.trees, rest.stray⟩, discard_equals.2 ⟨gap, spelling, split, rfl⟩, ?_⟩
    refine headed_eq_some.2 ⟨tree, false, ?_, rfl, unstray.trans (Bool.or_false _).symm⟩
    rw [answer]
    rfl
  · rintro ⟨_, middle, one, two⟩
    obtain ⟨gap, spelling, split, unstray⟩ := discard_equals.1 one
    obtain ⟨tree, inner, answer, trees, same⟩ := headed_eq_some.1 two
    obtain ⟨y, found, eq⟩ := Option.map_eq_some_iff.1 answer
    cases eq
    exact ⟨gap, spelling, tree, trees ▸ split, found, by rw [same, unstray, Bool.or_false]⟩

instance (reason : Reason) (extract : Trees → Option α) [Extracts extract] :
    Framed 0 0 fun rest => (assigned reason extract rest).toOption := by
  have value : Framed 0 0 (headed fun tree => (extract [tree]).map (·, false)) := by
    refine .ofHead _ rfl fun gap spelling => Option.map_eq_none_iff.2 ?_
    refine Option.eq_none_iff_forall_ne_some.2 fun x read => ?_
    obtain ⟨_, _, _, same, other, -⟩ := Extracts.literal read
    cases same
    exact other _ rfl
  rw [toOption_assigned]
  infer_instance

/-- Reads a value, and settles what it says without a look at the trees. -/
def ofValue {β : Type} (f : Remainder → Result (α × Remainder)) (g : α → Result β)
    (rest : Remainder) : Result (β × Remainder) := do
  let (x, left) ← f rest
  return (← g x, left)

theorem toOption_ofValue {β : Type} (f : Remainder → Result (α × Remainder)) (g : α → Result β) :
    (fun rest => (ofValue f g rest).toOption) = (do
      let x ← fun rest => (f rest).toOption
      match (g x).toOption with
      | some y => return y
      | none => failure : Reader β) := by
  funext rest
  rw [run_bind, ofValue]
  cases f rest with
  | error => rfl
  | ok answer =>
      change (do let y ← g answer.1; return (y, answer.2) : Result (β × Remainder)).toOption =
        (match (g answer.1).toOption with
          | some y => return y
          | none => failure : Reader β) answer.2
      cases g answer.1 <;> rfl

instance {β : Type} (f : Remainder → Result (α × Remainder)) (g : α → Result β)
    [Framed 0 0 fun rest => (f rest).toOption] :
    Framed 0 0 fun rest => (ofValue f g rest).toOption := by
  have settled (y : Option β) : Framed 0 0 (match y with
      | some y => return y
      | none => failure : Reader β) := by
    cases y <;> infer_instance
  rw [toOption_ofValue]
  infer_instance

theorem Own.ofValue {β : Type} {f : Remainder → Result (α × Remainder)} (own : Own f)
    (g : α → Result β) : Own (ofValue f g) := by
  refine ⟨fun {after} stop trees stray => ?_⟩
  rw [Options.ofValue, Options.ofValue, own.append stop trees stray]
  cases f ⟨trees, false⟩ with
  | error => rfl
  | ok answer =>
      obtain ⟨x, left⟩ := answer
      change (do let y ← g x; return (y, _) : Result (β × Remainder)) =
        Except.map _ (do let y ← g x; return (y, left) : Result (β × Remainder))
      cases g x <;> rfl

end

instance (key : String) : Framed 0 0 fun rest => (string key rest).toOption :=
  inferInstanceAs (Framed 0 0 fun rest => (assigned (.mustBeString key) string? rest).toOption)

theorem own_string (key : String) : Own (string key) :=
  own_assigned _ _

theorem own_flag (key : String) : Own (flag key) := by
  refine ⟨fun {after} stop trees stray => ?_⟩
  rw [flag, flag, atPunct_append stop trees]
  split
  · exact (own_assigned _ _).append stop trees stray
  · rfl

theorem toOption_flag (key : String) : (fun rest => (flag key rest).toOption) = (do
    if ← sees (atPunct "=") then fun rest => (assigned (.mustBeBoolean key) truth? rest).toOption
    else return true : Reader Bool) := by
  funext rest
  change (flag key rest).toOption = (if atPunct "=" rest.trees then
    fun rest => (assigned (.mustBeBoolean key) truth? rest).toOption
    else return true : Reader Bool) rest
  rw [flag]
  split <;> rfl

instance (key : String) : Framed 0 0 fun rest => (flag key rest).toOption := by
  rw [toOption_flag]
  infer_instance

/-! Items. -/

section

variable {ο : Type} {rest left : Remainder}

theorem listWhile_eq_nil {α : Type} {continues : Trees → Bool} {p : Reader α} :
    listWhile continues p rest = some ([], left) ↔ continues rest.trees = false ∧ left = rest := by
  have round (items : List α) (rest : Remainder) : (do
      if ← sees continues then return ((← p) :: items, true)
      return (items, false) : Reader (List α × Bool)) rest =
      if continues rest.trees then (p rest).map fun (x, left) => ((x :: items, true), left)
      else some ((items, false), rest) := by
    change (if continues rest.trees then _ else _ : Reader (List α × Bool)) rest = _
    split
    · exact (run_bind ..).trans (Option.map_eq_bind).symm
    · rfl
  constructor
  · intro read
    obtain ⟨items, middle, loop, eq⟩ := bind_eq_some.1 read
    obtain ⟨nil, rfl⟩ := Prod.mk.inj (Option.some.inj eq)
    refine (repeatLoop_induct (motive := fun before rest items left => items = [] →
      before = [] ∧ continues rest.trees = false ∧ left = rest) ?_ ?_ loop
      (List.reverse_eq_nil_iff.1 nil)).2
    · rintro before rest items left one rfl
      rw [round] at one
      split at one
      · obtain ⟨_, -, eq⟩ := Option.map_eq_some_iff.1 one
        cases eq
      · next ended =>
        cases one
        exact ⟨rfl, eq_false_of_ne_true ended, rfl⟩
    · intro before rest items middle y left one _ _ ih nil
      rw [round] at one
      split at one
      · obtain ⟨_, -, eq⟩ := Option.map_eq_some_iff.1 one
        cases eq
        cases (ih nil).1
      · cases one
  · rintro ⟨ended, rfl⟩
    have last := (round [] left).trans (if_neg (by simp [ended]))
    exact bind_eq_some.2 ⟨[], left, repeatLoop_done last, rfl⟩

theorem anyIdentName_eq_some {name : String} : anyIdentName rest = some (name, left) ↔
    ∃ gap spelling, rest.trees = .leaf gap spelling (.ident name) :: left.trees ∧
      left.stray = rest.stray := by
  constructor
  · intro read
    obtain ⟨_ | ⟨⟨gap, spelling, leaf⟩ | _, trees⟩, stray⟩ := rest
    · cases read
    · cases leaf with
      | ident =>
          cases read
          exact ⟨gap, spelling, rfl, rfl⟩
      | _ => cases read
    · cases read
  · obtain ⟨trees, stray⟩ := rest
    obtain ⟨left, stray'⟩ := left
    rintro ⟨gap, spelling, split, unstray⟩
    dsimp only at split unstray
    subst split unstray
    rfl

/-- A key with a name is one identifier that no path goes on from. -/
theorem key_eq_name {name : String} : key rest = some (some name, left) ↔
    ∃ gap spelling, rest.trees = .leaf gap spelling (.ident name) :: left.trees ∧
      atPunct "::" left.trees = false ∧ left.stray = rest.stray := by
  obtain ⟨trees, stray⟩ := rest
  constructor
  · intro read
    unfold key at read
    obtain ⟨leading, middle, one, read⟩ := bind_eq_some.1 read
    cases one
    cases leads : atPunct "::" trees with
    | true =>
        simp only [leads, if_true, Bool.not_true, Bool.false_and] at read
        obtain ⟨_, _, -, read⟩ := bind_eq_some.1 read
        obtain ⟨_, _, -, read⟩ := bind_eq_some.1 read
        obtain ⟨_, _, -, read⟩ := bind_eq_some.1 read
        cases read
    | false =>
        simp only [leads, Bool.false_eq_true, if_false, Bool.not_false, Bool.true_and] at read
        obtain ⟨first, middle, one, read⟩ := bind_eq_some.1 read
        obtain ⟨others, last, two, read⟩ := bind_eq_some.1 read
        cases others with
        | cons => cases read
        | nil =>
            cases read
            obtain ⟨ended, rfl⟩ := listWhile_eq_nil.1 two
            obtain ⟨gap, spelling, split, unstray⟩ := anyIdentName_eq_some.1 one
            exact ⟨gap, spelling, split, ended, unstray⟩
  · obtain ⟨left, stray'⟩ := left
    rintro ⟨gap, spelling, split, ends, unstray⟩
    dsimp only at split unstray ends
    subst split unstray
    unfold key
    refine bind_eq_some.2 ⟨false, _, rfl, bind_eq_some.2 ⟨name, _, rfl, ?_⟩⟩
    exact bind_eq_some.2 ⟨[], ⟨left, stray'⟩, listWhile_eq_nil.2 ⟨ends, rfl⟩, rfl⟩

/-- What may stand behind the key of a flag. -/
inductive Flag : Trees → Bool → Prop
  | alone : Flag [] true
  | assigned (gap spelling gap' spelling' : String) (on : Bool) :
      Flag [.leaf gap spelling (.punct '='), .leaf gap' spelling' (.ident (toString on))] on

/-- What may stand behind a key that has a text, with the text and its spelling. -/
inductive Text : Trees → String × String → Prop
  | assigned (gap spelling gap' written value suffix : String) :
      Text [.leaf gap spelling (.punct '='), .leaf gap' written (.text value suffix)] (value, written)

theorem Flag.ended {trees : Trees} {on : Bool} (flag : Flag trees on) :
    atPunct "::" trees = false := by
  cases flag <;> rfl

theorem Text.ended {trees : Trees} {text : String × String} (text' : Text trees text) :
    atPunct "::" trees = false := by
  cases text'
  rfl

theorem truth?_eq_some {tree : Source.Tree} {on : Bool} :
    truth? [tree] = some on ↔ ∃ gap spelling, tree = .leaf gap spelling (.ident (toString on)) := by
  constructor
  · intro read
    obtain ⟨gap, spelling, leaf⟩ | _ := tree
    · cases leaf with
      | ident name =>
          rw [truth?] at read
          split at read
          · next yes =>
            cases read
            exact ⟨gap, spelling, by rw [eq_of_beq yes]; rfl⟩
          · split at read
            · next no =>
              cases read
              exact ⟨gap, spelling, by rw [eq_of_beq no]; rfl⟩
            · cases read
      | _ => cases read
    · cases read
  · rintro ⟨gap, spelling, rfl⟩
    cases on <;> rfl

theorem flag_eq_ok_iff {key : String} {trees : Trees} {on : Bool} :
    flag key ⟨trees, false⟩ = .ok (on, ⟨[], false⟩) ↔ Flag trees on := by
  rw [flag]
  cases equals : atPunct "=" trees with
  | false =>
      constructor
      · rintro ⟨⟩
        exact .alone
      · rintro (_ | _)
        · rfl
        · cases (atPunct_equals.2 ⟨_, _, _, rfl⟩).symm.trans equals
  | true =>
      refine assigned_eq_ok_iff.trans ⟨?_, ?_⟩
      · rintro ⟨gap, spelling, tree, split, answer, -⟩
        obtain ⟨gap', spelling', rfl⟩ := truth?_eq_some.1 answer
        dsimp only at split
        subst split
        exact .assigned ..
      · rintro (_ | ⟨gap, spelling, gap', spelling'⟩)
        · cases equals
        · exact ⟨gap, spelling, _, rfl, truth?_eq_some.2 ⟨gap', spelling', rfl⟩, rfl⟩

theorem string_eq_ok_iff {key : String} {trees : Trees} {text : String × String} :
    string key ⟨trees, false⟩ = .ok (text, ⟨[], false⟩) ↔ Text trees text := by
  refine assigned_eq_ok_iff.trans ⟨?_, ?_⟩
  · rintro ⟨gap, spelling, tree, split, answer, -⟩
    dsimp only at split
    subst split
    obtain ⟨gap', written, leaf⟩ | _ := tree
    · cases leaf with
      | text value suffix =>
          cases answer
          exact .assigned ..
      | _ => cases answer
    · cases answer
  · rintro ⟨gap, spelling, gap', written, value, suffix⟩
    exact ⟨gap, spelling, _, rfl, rfl, rfl⟩

theorem all?_eq_some {α : Type} {p : Reader α} {trees : Trees} {x : α} :
    p.all? trees = some x ↔ p ⟨trees, false⟩ = some (x, ⟨[], false⟩) := by
  rw [Reader.all?]
  split
  · next found => simp [found]
  · next other =>
    exact ⟨nofun, fun found => absurd found (other x)⟩

theorem ofValue_eq_ok_iff {α β : Type} {f : Remainder → Result (α × Remainder)} {g : α → Result β}
    {y : β} : ofValue f g rest = .ok (y, left) ↔ ∃ x, f rest = .ok (x, left) ∧ g x = .ok y := by
  rw [ofValue]
  cases f rest with
  | error => exact ⟨nofun, fun ⟨_, read, _⟩ => nomatch read⟩
  | ok answer =>
      obtain ⟨x, behind⟩ := answer
      change (do let y ← g x; return (y, behind) : Result (β × Remainder)) = _ ↔ _
      cases settled : g x with
      | error =>
          refine ⟨nofun, ?_⟩
          rintro ⟨_, ⟨⟩, same⟩
          cases settled.symm.trans same
      | ok z =>
          constructor
          · rintro ⟨⟩
            exact ⟨x, rfl, settled⟩
          · rintro ⟨_, ⟨⟩, same⟩
            cases settled.symm.trans same
            rfl

theorem skip_eq_end (ended : atPunct "=" rest.trees = false) : skip rest = ⟨[], false⟩ ↔
    rest.stray = false ∧ (rest.trees = [] ∨
      ∃ gap content closing, rest.trees = [.group gap .paren content closing]) := by
  obtain ⟨trees, stray⟩ := rest
  rw [skip, if_neg (by rw [ended]; exact Bool.false_ne_true)]
  obtain _ | ⟨⟨gap, spelling, leaf⟩ | ⟨gap, delimiter, content, closing⟩, behind⟩ := trees
  · simp [atGroup]
  · simp [atGroup]
  · by_cases paren : delimiter = .paren
    · subst paren
      simp [atGroup, dropTrees, and_comm]
    · simp [atGroup, paren]

/-- An item is a known key with what it takes, or an unknown one that takes a list at most. -/
theorem whole_iff {item : Option String → Remainder → Result (Option ο × Remainder)}
    {keys : List String} [Vocabulary item keys] {trees : Trees} {known : Option ο} :
    Whole item keys trees known ↔ (Plain keys trees ∧ known = none) ∨
      ∃ key ∈ keys, ∃ gap spelling behind, trees = .leaf gap spelling (.ident key) :: behind ∧
        atPunct "::" behind = false ∧
        item (some key) ⟨behind, false⟩ = .ok (known, ⟨[], false⟩) := by
  constructor
  · intro whole
    obtain ⟨name, ⟨behind, stray⟩, named, meant⟩ := bind_eq_some.1 whole
    by_cases unknown : ∀ key ∈ keys, name ≠ some key
    · rw [meaning_unknown unknown] at meant
      split at meant
      · cases meant
      · next ended =>
        obtain ⟨rfl, skipped⟩ := Prod.mk.inj (Option.some.inj meant)
        have ends := ((skip_eq_end (eq_false_of_ne_true ended)).1 skipped).2
        exact .inl ⟨⟨name, _, named, unknown, ends⟩, rfl⟩
    · push Not at unknown
      obtain ⟨key, mem, rfl⟩ := unknown
      obtain ⟨gap, spelling, split, ended, unstray⟩ := key_eq_name.1 named
      dsimp only at split unstray
      subst split unstray
      rw [meaning_known mem] at meant
      exact .inr ⟨key, mem, gap, spelling, behind, rfl, ended, toOption_eq_some.1 meant⟩
  · rintro (⟨plain, rfl⟩ | ⟨key, mem, gap, spelling, behind, rfl, ended, answer⟩)
    · exact plain.whole
    · have named : Options.key ⟨.leaf gap spelling (.ident key) :: behind, false⟩ =
          some (some key, ⟨behind, false⟩) :=
        key_eq_name.2 ⟨gap, spelling, rfl, ended, rfl⟩
      refine bind_eq_some.2 ⟨some key, ⟨behind, false⟩, named, ?_⟩
      rw [meaning_known mem]
      exact toOption_eq_some.2 answer

end

end StructBuilder.Options
