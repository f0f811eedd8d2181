import StructBuilder.Proofs.Framed.Tests

/-!
Readers of one option do not depend on what stands behind it. As long as a reader stays in
front of the end of its option, it answers the same whatever comes there. The two counts
of `Framed` say how much of the option is left at least: where the reader starts, and where
it stops. Every way to put readers together keeps this, so that for most readers of the
grammar the proof is found by going through their parts.
-/

namespace StructBuilder.Grammar

open Reader

/-- What was read does not end with a comma. -/
inductive Clean (left : Trees) : Trees → Prop
  | nothing : Clean left left
  | upTo (before : Trees) (tree : Source.Tree) (last : ¬Stop [tree]) :
      Clean left (before ++ tree :: left)

theorem Clean.of_suffix {left middle trees : Trees} (later : Clean left middle)
    (first : Clean middle trees) (suffix : middle <:+ trees) : Clean left trees := by
  cases later with
  | nothing => exact first
  | upTo before tree last =>
      obtain ⟨front, rfl⟩ := suffix
      rw [← List.append_assoc]
      exact .upTo _ tree last

theorem Clean.of_shorter {left middle trees : Trees} (later : Clean left middle)
    (shorter : left.length < middle.length) (suffix : middle <:+ trees) : Clean left trees := by
  cases later with
  | nothing => exact absurd shorter (Nat.lt_irrefl _)
  | upTo before tree last =>
      obtain ⟨front, rfl⟩ := suffix
      rw [← List.append_assoc]
      exact .upTo _ tree last

/-- A reader that starts with `first` trees of its own and stops with `last` of them left
answers the same in front of every end; where it may take all, it stops behind no comma. -/
class Framed {α : Type} (first last : Nat) (p : Reader α) : Prop where
  suffix : ∀ {rest x left}, p rest = some (x, left) → left.trees <:+ rest.trees
  stray : ∀ {rest x left}, p rest = some (x, left) → ∃ inner, ∀ stray,
    p ⟨rest.trees, stray⟩ = some (x, ⟨left.trees, stray || inner⟩)
  frame : ∀ {trees after other stray x left}, Stop after → Stop other → first ≤ trees.length →
    p ⟨trees ++ after, stray⟩ = some (x, left) → after.length + last ≤ left.trees.length →
    ∃ behind, left.trees = behind ++ after ∧
      p ⟨trees ++ other, stray⟩ = some (x, ⟨behind ++ other, left.stray⟩)
  clean : last = 0 → ∀ {rest x left}, first = 0 ∨ ¬Stop rest.trees →
    p rest = some (x, left) → Clean left.trees rest.trees

/-- The reader takes something. -/
class Strict {α : Type} (p : Reader α) : Prop where
  shorter : ∀ {rest x left}, p rest = some (x, left) → left.trees.length < rest.trees.length

section

variable {α β : Type} {first last : Nat}

theorem run_bind (p : Reader α) (f : α → Reader β) (rest : Remainder) :
    (p >>= f) rest = (p rest).bind fun (x, left) => f x left := rfl

theorem bind_eq_some {p : Reader α} {f : α → Reader β} {rest left : Remainder} {y : β} :
    (p >>= f) rest = some (y, left) ↔
      ∃ x middle, p rest = some (x, middle) ∧ f x middle = some (y, left) := by
  rw [run_bind, Option.bind_eq_some_iff]
  exact Prod.exists

/-- A reader that takes nothing. -/
theorem Framed.ofStill {p : Reader α} (answer : Trees → Option α) [Steady first answer]
    (run : ∀ rest, p rest = (answer rest.trees).map (·, rest)) : Framed first last p := by
  have still {rest x left} (read : p rest = some (x, left)) :
      answer rest.trees = some x ∧ left = rest := by
    rw [run] at read
    obtain ⟨_, found, eq⟩ := Option.map_eq_some_iff.1 read
    cases eq
    exact ⟨found, rfl⟩
  refine ⟨fun read => ?_, fun read => ?_, fun {trees after other stray x left} stop end' enough read _ => ?_,
    fun _ _ _ _ _ read => ?_⟩
  · obtain ⟨_, rfl⟩ := still read
    exact List.suffix_refl _
  · refine ⟨false, fun stray => ?_⟩
    rw [run, (still read).1, (still read).2, Bool.or_false, Option.map_some]
  · obtain ⟨found, rfl⟩ := still read
    rw [Steady.eq answer enough stop end'] at found
    exact ⟨trees, rfl, by rw [run, found]; rfl⟩
  · rw [(still read).2]
    exact .nothing

instance (x : α) : Framed first last (pure x : Reader α) :=
  .ofStill (fun _ => some x) fun _ => rfl

instance : Framed first last (failure : Reader α) :=
  .ofStill (fun _ => none) fun _ => rfl

instance (c : Prop) [Decidable c] : Framed first last (guard c : Reader Unit) := by
  unfold guard
  split <;> infer_instance

instance (test : Trees → Bool) [Steady first test] : Framed first last (sees test) :=
  have : Steady first fun trees => some (test trees) := .comp some test
  .ofStill (fun trees => some (test trees)) fun _ => rfl

theorem stray_bind {p : Reader α} {f : α → Reader β} {trees middle left : Trees} {x : α} {y : β}
    (first : ∃ inner, ∀ stray, p ⟨trees, stray⟩ = some (x, ⟨middle, stray || inner⟩))
    (second : ∃ inner, ∀ stray, f x ⟨middle, stray⟩ = some (y, ⟨left, stray || inner⟩)) :
    ∃ inner, ∀ stray, (p >>= f) ⟨trees, stray⟩ = some (y, ⟨left, stray || inner⟩) := by
  obtain ⟨one, first⟩ := first
  obtain ⟨two, second⟩ := second
  refine ⟨one || two, fun stray => bind_eq_some.2 ⟨x, _, first stray, ?_⟩⟩
  rw [second, Bool.or_assoc]

theorem Framed.bind {p : Reader α} {f : α → Reader β} (one : Framed first last p)
    (two : ∀ x, Framed last last (f x)) : Framed first last (p >>= f) where
  suffix read := by
    obtain ⟨x, middle, one, two⟩ := bind_eq_some.1 read
    exact (Framed.suffix last last two).trans (Framed.suffix first last one)
  stray read := by
    obtain ⟨x, middle, one, two⟩ := bind_eq_some.1 read
    exact stray_bind (Framed.stray first last one) (Framed.stray last last two)
  frame {trees after other stray y left} stop end' enough read le := by
    obtain ⟨x, ⟨middle, stray'⟩, one, two⟩ := bind_eq_some.1 read
    have shorter := (Framed.suffix last last two).length_le
    obtain ⟨behind, rfl, one⟩ := Framed.frame stop end' enough one (Nat.le_trans le shorter)
    have enough : last ≤ behind.length := by
      simp only [List.length_append] at shorter
      omega
    obtain ⟨rest, eq, two⟩ := Framed.frame stop end' enough two le
    exact ⟨rest, eq, bind_eq_some.2 ⟨x, _, one, two⟩⟩
  clean zero rest y left start read := by
    subst zero
    obtain ⟨x, middle, one, two⟩ := bind_eq_some.1 read
    exact (Framed.clean rfl (.inl rfl) two).of_suffix (Framed.clean rfl start one)
      (Framed.suffix first 0 one)

instance (p : Reader α) (f : α → Reader β) [one : Framed first last p]
    [two : ∀ x, Framed last last (f x)] : Framed first last (p >>= f) :=
  .bind one two

instance (priority := low) framed_headed (p : Reader α) [Framed 0 0 p] : Framed 1 0 p where
  suffix := Framed.suffix 0 0
  stray := Framed.stray 0 0
  frame stop end' _ := Framed.frame stop end' (Nat.zero_le _)
  clean zero _ _ _ _ := Framed.clean zero (.inl rfl)

instance (priority := low) framed_inner (p : Reader α) [Framed 1 0 p] : Framed 1 1 p where
  suffix := Framed.suffix 1 0
  stray := Framed.stray 1 0
  frame stop end' enough read le :=
    (inferInstance : Framed 1 0 p).frame stop end' enough read (Nat.le_of_lt le)
  clean zero := nomatch zero

instance (c : Prop) [Decidable c] (p q : Reader α) [Framed first last p] [Framed first last q] :
    Framed first last (if c then p else q) := by
  split <;> assumption

instance (f : α → β) (p : Reader α) [Framed first last p] : Framed first last (f <$> p) := by
  rw [← bind_pure_comp]
  infer_instance

instance (p : Reader α) [Framed first last p] : Framed first last (discard p) :=
  inferInstanceAs (Framed first last ((fun _ => PUnit.unit) <$> p))

theorem stray_chosen {choice : Remainder → Reader α} {rest : Remainder} {left : Trees} {x : α}
    (plain : ∀ trees stray, choice ⟨trees, stray⟩ = choice ⟨trees, false⟩)
    (chosen : ∃ inner, ∀ stray, choice rest ⟨rest.trees, stray⟩ = some (x, ⟨left, stray || inner⟩)) :
    ∃ inner, ∀ stray, (MonadState.get >>= choice) ⟨rest.trees, stray⟩ =
      some (x, ⟨left, stray || inner⟩) := by
  obtain ⟨inner, chosen⟩ := chosen
  refine ⟨inner, fun stray => ?_⟩
  change choice ⟨rest.trees, stray⟩ ⟨rest.trees, stray⟩ = _
  rw [plain rest.trees stray, ← plain rest.trees rest.stray]
  exact chosen stray

/-- What is read is chosen by a steady look at the remaining trees. -/
theorem Framed.chosen {choice : Remainder → Reader α}
    (plain : ∀ trees stray, choice ⟨trees, stray⟩ = choice ⟨trees, false⟩)
    (steady : Steady first fun trees => choice ⟨trees, false⟩)
    (framed : ∀ rest, Framed first last (choice rest)) :
    Framed first last (MonadState.get >>= choice) where
  suffix {rest x left} read := (framed rest).suffix read
  stray {rest x left} read := stray_chosen plain ((framed rest).stray read)
  frame {trees after other stray x left} stop end' enough read le := by
    have same := Steady.eq (fun trees => choice ⟨trees, false⟩) enough stop end'
    have read : choice ⟨trees ++ after, stray⟩ ⟨trees ++ after, stray⟩ = some (x, left) := read
    change ∃ behind, _ ∧ choice ⟨trees ++ other, stray⟩ ⟨trees ++ other, stray⟩ = _
    rw [plain] at read ⊢
    rw [← same]
    exact (framed _).frame stop end' enough read le
  clean zero rest x left start read := (framed rest).clean zero start read

/-- What is chosen where the option has ended may start anywhere; everything else is chosen
only in front of a tree of the option. The choice may depend on what stands behind the
option if nothing can be read of the option alone. -/
theorem Framed.aheadUnless {choice : Remainder → Reader α}
    (plain : ∀ trees stray, choice ⟨trees, stray⟩ = choice ⟨trees, false⟩)
    (same : ∀ {trees after other}, Stop after → Stop other →
      choice ⟨trees ++ after, false⟩ = choice ⟨trees ++ other, false⟩ ∨
        ∀ stray, choice ⟨trees ++ after, false⟩ ⟨trees, stray⟩ = none)
    (headed : ∀ rest, Framed 1 0 (choice rest))
    (ended : ∀ {after}, Stop after → Framed 0 0 (choice ⟨after, false⟩)) :
    Framed 0 0 (MonadState.get >>= choice) where
  suffix {rest x left} read := (headed rest).suffix read
  stray {rest x left} read := stray_chosen plain ((headed rest).stray read)
  frame {trees after other stray x left} stop end' enough read le := by
    have read : choice ⟨trees ++ after, stray⟩ ⟨trees ++ after, stray⟩ = some (x, left) := read
    rw [plain] at read
    have framed {next : Trees} (end' : Stop next) : ∃ behind, left.trees = behind ++ after ∧
        choice ⟨trees ++ after, false⟩ ⟨trees ++ next, stray⟩ =
          some (x, ⟨behind ++ next, left.stray⟩) := by
      cases trees with
      | nil => exact (ended stop).frame stop end' enough read le
      | cons tree trees =>
          exact (headed _).frame stop end' (Nat.succ_le_succ (Nat.zero_le _)) read le
    change ∃ behind, _ ∧ choice ⟨trees ++ other, stray⟩ ⟨trees ++ other, stray⟩ = _
    rw [plain]
    rcases same stop end' with same | none
    · rw [← same]
      exact framed end'
    · obtain ⟨_, -, alone⟩ := framed .nothing
      rw [List.append_nil, none] at alone
      cases alone
  clean zero rest x left _ read := by
    obtain ⟨trees, stray⟩ := rest
    have read : choice ⟨trees, stray⟩ ⟨trees, stray⟩ = some (x, left) := read
    rw [plain] at read
    by_cases stop : Stop trees
    · exact (ended stop).clean zero (.inl rfl) read
    · exact (headed _).clean zero (.inr stop) read

theorem Framed.ahead {choice : Remainder → Reader α}
    (plain : ∀ trees stray, choice ⟨trees, stray⟩ = choice ⟨trees, false⟩)
    (steady : Steady 0 fun trees => choice ⟨trees, false⟩)
    (headed : ∀ rest, Framed 1 0 (choice rest)) (ended : Framed 0 0 (choice ⟨[], false⟩)) :
    Framed 0 0 (MonadState.get >>= choice) := by
  refine .aheadUnless plain (fun {trees after other} stop end' => .inl ?_) headed
    fun {after} stop => ?_
  · exact Steady.eq (fun trees => choice ⟨trees, false⟩) (Nat.zero_le _) stop end'
  · rw [Steady.eq_nil (fun trees => choice ⟨trees, false⟩) stop]
    exact ended

instance (priority := low) (test : Trees → Bool) (f : Bool → Reader β) [Steady 1 test]
    [headed : ∀ b, Framed 1 0 (f b)] : Framed 1 0 (sees test >>= f) := by
  change Framed 1 0 (MonadState.get >>= fun rest => f (test rest.trees))
  exact .chosen (fun _ _ => rfl) (.comp f test) fun _ => headed _

instance (priority := low) (test : Trees → Bool) (p q : Reader α) [Steady 0 test] [Needs 1 test]
    [Framed 1 0 p] [Framed 0 0 q] : Framed 0 0 (sees test >>= fun b => if b then p else q) := by
  change Framed 0 0 (MonadState.get >>= fun rest => if test rest.trees then p else q)
  refine .ahead (fun _ _ => rfl) inferInstance (fun _ => inferInstance) ?_
  rw [Needs.false_of_stop test .nothing]
  exact inferInstanceAs (Framed 0 0 q)

instance (priority := low) (c : Prop) [Decidable c] (f : Unit → Reader β)
    [∀ u, Framed 1 0 (f u)] : Framed 1 0 ((guard c : Reader Unit) >>= f) := by
  unfold guard
  split
  · exact inferInstanceAs (Framed 1 0 (f ()))
  · exact inferInstanceAs (Framed 1 0 (failure : Reader β))

instance (priority := low) (test : Trees → Bool) (p : Unit → Reader α) [Steady 0 test]
    [Needs 1 test] [∀ u, Framed 1 0 (p u)] :
    Framed 0 0 (sees test >>= fun b => guard b >>= p) := by
  have same : (sees test >>= fun b => guard (b = true) >>= p) =
      sees test >>= fun b => if b then p () else failure := by
    congr
    funext b
    cases b <;> rfl
  rw [same]
  infer_instance

instance (test : Trees → Bool) (p : Reader Code) [Steady first test] [Framed first last p]
    [Framed last last p] : Framed first last (whenSees test p) := by
  unfold whenSees
  infer_instance

instance (priority := low) (test : Trees → Bool) (p : Reader Code) [Steady 0 test] [Needs 1 test]
    [Framed 1 0 p] : Framed 0 0 (whenSees test p) := by
  unfold whenSees
  infer_instance

/-- A reader of the first tree, which may be a group with something left in it. -/
def headed (f : Source.Tree → Option (α × Bool)) : Reader α := fun rest =>
  match rest.trees with
  | [] => none
  | tree :: trees => (f tree).map fun (x, stray) => (x, ⟨trees, rest.stray || stray⟩)

theorem headed_eq_some {f : Source.Tree → Option (α × Bool)} {rest left : Remainder} {x : α} :
    headed f rest = some (x, left) ↔ ∃ tree stray, f tree = some (x, stray) ∧
      rest.trees = tree :: left.trees ∧ left.stray = (rest.stray || stray) := by
  obtain ⟨_ | ⟨tree, trees⟩, stray⟩ := rest
  · simp [headed]
  · constructor
    · intro read
      obtain ⟨⟨y, inner⟩, answer, eq⟩ := Option.map_eq_some_iff.1 read
      cases eq
      exact ⟨tree, inner, answer, rfl, rfl⟩
    · obtain ⟨_, _⟩ := left
      rintro ⟨_, inner, answer, ⟨⟩, eq⟩
      dsimp only at eq
      subst eq
      exact Option.map_eq_some_iff.2 ⟨(x, inner), answer, rfl⟩

instance (f : Source.Tree → Option (α × Bool)) : Framed 1 0 (headed f) where
  suffix read := by
    obtain ⟨tree, stray, -, trees, -⟩ := headed_eq_some.1 read
    exact trees ▸ List.suffix_cons ..
  stray read := by
    obtain ⟨tree, inner, answer, split, -⟩ := headed_eq_some.1 read
    exact ⟨inner, fun stray => headed_eq_some.2 ⟨tree, inner, answer, split, rfl⟩⟩
  frame {trees after other stray x left} stop end' enough read le := by
    obtain ⟨tree, inner, answer, split, eq⟩ := headed_eq_some.1 read
    cases trees with
    | nil => cases enough
    | cons first behind =>
        obtain ⟨rfl, trees⟩ := List.cons.inj split
        exact ⟨behind, trees.symm, headed_eq_some.2 ⟨first, inner, answer, rfl, eq⟩⟩
  clean _ rest x left start read := by
    obtain ⟨tree, inner, answer, split, eq⟩ := headed_eq_some.1 read
    have ahead : ¬Stop rest.trees := start.resolve_left nofun
    rw [split] at ahead ⊢
    refine .upTo [] tree fun stop => ahead ?_
    cases stop with
    | comma => exact .comma ..

/-- A first tree that may not be a comma. -/
theorem Framed.ofHead {p : Reader α} (f : Source.Tree → Option (α × Bool)) (run : p = headed f)
    (comma : ∀ gap spelling, f (.leaf gap spelling (.punct ',')) = none) : Framed 0 0 p := by
  subst run
  let ahead (trees : Trees) : Bool := trees.head?.any fun tree => (f tree).isSome
  have heads : Heads ahead := ⟨fun _ _ => rfl, rfl, fun gap spelling => by simp [ahead, comma]⟩
  have run : headed f = sees ahead >>= fun b => if b then headed f else failure := by
    funext ⟨trees, stray⟩
    cases trees with
    | nil => rfl
    | cons tree trees =>
        change headed f ⟨tree :: trees, stray⟩ =
          (if (f tree).isSome then headed f else failure : Reader α) ⟨tree :: trees, stray⟩
        cases answer : f tree with
        | none => simp [headed, answer]; rfl
        | some _ => rfl
  rw [run]
  infer_instance

instance : Framed 1 0 tree := by
  have run : tree = headed fun tree => some (tree, false) := by
    funext ⟨trees, stray⟩
    cases trees <;> simp [tree, headed]
  rw [run]
  infer_instance

theorem anyIdentName_eq : anyIdentName =
    headed fun | .leaf _ _ (.ident name) => some (name, false) | _ => none := by
  funext ⟨trees, stray⟩
  rcases trees with _ | ⟨⟨_, _, _ | _⟩ | _, _⟩ <;> simp [anyIdentName, headed]

instance : Framed 0 0 anyIdentName :=
  .ofHead _ anyIdentName_eq fun _ _ => rfl

instance : Framed 0 0 lifetimeName := by
  refine .ofHead (fun | .leaf _ _ (.lifetime name) => some (name, false) | _ => none) ?_ fun _ _ => rfl
  funext ⟨trees, stray⟩
  rcases trees with _ | ⟨⟨_, _, _ | _⟩ | _, _⟩ <;> simp [lifetimeName, headed]

instance : Framed 0 0 number := by
  refine .ofHead (fun | .leaf _ _ (.number spelling) => some (spelling, false) | _ => none) ?_ fun _ _ => rfl
  funext ⟨trees, stray⟩
  rcases trees with _ | ⟨⟨_, _, _ | _⟩ | _, _⟩ <;> simp [number, headed]

/-- Whatever reads the content of a group, the group is one tree. -/
instance (delimiter : Delimiter) (p : Reader α) : Framed 0 0 (inside delimiter p) := by
  refine .ofHead (fun
    | .group _ d content _ =>
        if d = delimiter then
          (p ⟨content, false⟩).map fun (x, left) => (x, left.stray || !left.trees.isEmpty)
        else none
    | _ => none) ?_ fun _ _ => rfl
  funext ⟨trees, stray⟩
  rcases trees with _ | ⟨_ | ⟨_, d, content, _⟩, _⟩
  · rfl
  · rfl
  · by_cases same : d = delimiter
    · simp only [inside, headed, same, if_true, Option.map_map, Bool.or_assoc]
      rfl
    · simp [inside, headed, same]

instance : Framed 1 0 (punct ",") := by
  have run : punct "," = headed
      fun | .leaf _ _ (.punct ',') => some (Code.phrase ",", false) | _ => none := by
    funext ⟨trees, stray⟩
    rcases trees with _ | ⟨⟨_, _, leaf⟩ | _, _⟩
    · rfl
    · cases leaf with
      | punct c =>
        by_cases comma : c = ','
        · subst comma
          simp [punct, punctRest?, headed]
        · simp [punct, punctRest?, headed, comma, Ne.symm comma]
      | _ => rfl
    · rfl
  rw [run]
  infer_instance

instance (mark : String) [Mark mark] : Framed 0 0 (punct mark) where
  suffix {rest x left} read := by
    obtain ⟨trees, found, eq⟩ := Option.map_eq_some_iff.1 read
    cases eq
    obtain ⟨before, gap, spelling, c, -, eq⟩ := punctRest?_last Mark.nonempty found
    rw [eq]
    exact ⟨before ++ [_], by simp; rfl⟩
  stray {rest x left} read := by
    obtain ⟨trees, found, eq⟩ := Option.map_eq_some_iff.1 read
    cases eq
    exact ⟨false, fun stray => Option.map_eq_some_iff.2 ⟨_, found, by rw [Bool.or_false]⟩⟩
  frame {trees after other stray x left} stop end' enough read le := by
    obtain ⟨trees, found, eq⟩ := Option.map_eq_some_iff.1 read
    cases eq
    rw [punctRest?_append stop Mark.comma] at found
    obtain ⟨behind, own, rfl⟩ := Option.map_eq_some_iff.1 found
    refine ⟨behind, rfl, ?_⟩
    simp [punct, punctRest?_append end' Mark.comma, own]
  clean zero rest x left start read := by
    obtain ⟨trees, found, eq⟩ := Option.map_eq_some_iff.1 read
    cases eq
    obtain ⟨before, gap, spelling, c, mem, eq⟩ := punctRest?_last Mark.nonempty found
    rw [eq]
    refine .upTo before _ fun stop => ?_
    cases stop
    exact Mark.comma mem

instance : Steady 0 atLiteral where
  same {trees after other} _ stop end' := by
    rcases trees with _ | ⟨⟨_, _, leaf⟩ | _, trees⟩
    · cases stop <;> cases end' <;> rfl
    · cases leaf with
      | punct c =>
          by_cases minus : c = '-'
          · subst minus
            exact Steady.eq atNumber (Nat.zero_le _) stop end'
          · simp [atLiteral, minus, Source.Leaf.isLiteral]
      | _ => rfl
    · rfl

instance : Needs 1 atLiteral where
  length {trees after} stop holds := by
    cases trees with
    | nil => cases stop <;> cases holds
    | cons => exact Nat.succ_le_succ (Nat.zero_le _)

instance : Framed 1 0 anything := by
  unfold anything
  infer_instance

instance (test : Trees → Bool) [Steady 0 test] [Needs 1 test] : Framed 0 0 (satisfying test) := by
  unfold Reader.satisfying
  infer_instance

instance (text : String) : Framed 0 0 (word text) := by
  unfold word
  infer_instance

instance : Framed 0 0 ident := by
  unfold ident
  infer_instance

instance : Framed 0 0 identName := by
  unfold identName
  infer_instance

/-- Of two trees the second is what a test says of it. -/
theorem anything_twice {f : Code → Code → Reader α} {test : Trees → Bool} {rest : Remainder}
    (seen : test (second rest.trees) = true) :
    (do f (← anything) (← anything)) rest = (do f (← anything) (← satisfying test)) rest := by
  obtain ⟨_ | ⟨tree, trees⟩, stray⟩ := rest
  · rfl
  · change (anything >>= f tree.code) ⟨trees, stray⟩ =
      ((do guard (test trees = true); anything) >>= f tree.code) ⟨trees, stray⟩
    have seen : test trees = true := seen
    rw [seen]
    rfl

theorem atNumber_of_atLiteral {trees : Trees} (literal : atLiteral trees = true)
    (minus : atPunct "-" trees = true) : atNumber (second trees) = true := by
  rcases trees with _ | ⟨⟨_, _, leaf⟩ | _, trees⟩
  · cases literal
  · cases leaf with
    | punct c =>
        have : '-' = c := by
          by_contra other
          simp [atPunct, punctRest?, other] at minus
        subst this
        exact literal
    | _ => cases minus
  · cases literal

/-- A sign is part of a literal only in front of a number. -/
theorem literal_eq : literal = (do
    guard (← sees atLiteral)
    if ← sees (atPunct "-") then return (← anything) ++ (← satisfying atNumber)
    anything) := by
  funext rest
  have run (p : Reader Code) : (do guard (← sees atLiteral); p : Reader Code) rest =
      (do guard (atLiteral rest.trees = true); p : Reader Code) rest := rfl
  rw [literal, run, run]
  cases literal : atLiteral rest.trees with
  | false => rfl
  | true =>
      have run (p : Reader Code) : (do if ← sees (atPunct "-") then p else anything) rest =
        (if atPunct "-" rest.trees then p else anything) rest := rfl
      change (do if ← sees (atPunct "-") then _ else anything : Reader Code) rest =
        (do if ← sees (atPunct "-") then _ else anything : Reader Code) rest
      rw [run, run]
      cases minus : atPunct "-" rest.trees with
      | false => rfl
      | true => exact anything_twice (atNumber_of_atLiteral literal minus)

instance : Framed 0 0 literal := by
  rw [literal_eq]
  infer_instance

instance (delimiter : Delimiter) (p : Reader Code) : Framed 0 0 (group delimiter p) := by
  unfold group
  infer_instance

instance : Framed 0 0 member := by
  unfold member
  have unnamed (index : Option Nat) : Framed 0 0 (match index with
    | some index => pure (Code.name (toString index), false)
    | none => failure : Reader (Code × Bool)) := by
    cases index <;> infer_instance
  infer_instance

instance (mark : String) [Mark mark] : Framed 0 0 (optionalPunct mark) := by
  unfold optionalPunct
  infer_instance

instance (text : String) : Framed 0 0 (optionalWord text) := by
  unfold optionalWord
  infer_instance

instance : Framed first last (inTurn []) := by
  unfold inTurn
  infer_instance

instance (p : Reader Code) (rest : List (Reader Code)) [Framed first last p]
    [Framed last last (inTurn rest)] : Framed first last (inTurn (p :: rest)) := by
  unfold inTurn
  infer_instance

instance (p : Reader α) [Framed first last p] : Framed first last (taking p) where
  suffix read := by
    obtain ⟨⟨x, left⟩, one, eq⟩ := Option.map_eq_some_iff.1 read
    cases eq
    exact Framed.suffix first last one
  stray read := by
    obtain ⟨⟨x, left⟩, one, eq⟩ := Option.map_eq_some_iff.1 read
    cases eq
    obtain ⟨inner, one⟩ := Framed.stray first last one
    exact ⟨inner, fun stray => Option.map_eq_some_iff.2 ⟨_, one stray, rfl⟩⟩
  frame {trees after other stray y left} stop end' enough read le := by
    obtain ⟨⟨x, left⟩, one, eq⟩ := Option.map_eq_some_iff.1 read
    cases eq
    obtain ⟨behind, split, two⟩ := Framed.frame stop end' enough one le
    obtain ⟨left, stray'⟩ := left
    dsimp only at split two
    subst split
    refine ⟨behind, rfl, Option.map_eq_some_iff.2 ⟨_, two, ?_⟩⟩
    have shorter : trees.length - behind.length ≤ trees.length := Nat.sub_le ..
    simp only [List.length_append, Nat.add_sub_add_right, List.take_append_of_le_length shorter]
  clean zero rest x left start read := by
    obtain ⟨⟨x, left⟩, one, eq⟩ := Option.map_eq_some_iff.1 read
    cases eq
    exact Framed.clean zero start one

instance (p : Reader (Option Code)) [Framed first last p] : Framed first last (orAsWritten p) := by
  unfold orAsWritten
  infer_instance

/-! Repetitions. -/

/-- What every round of a repetition respects, the repetition respects. -/
theorem repeatLoop_induct {step : α → Reader (α × Bool)} {motive : α → Remainder → α → Remainder → Prop}
    (done : ∀ {before rest x left}, step before rest = some ((x, false), left) → motive before rest x left)
    (next : ∀ {before rest x middle y left}, step before rest = some ((x, true), middle) →
      middle.trees.length < rest.trees.length → repeatLoop step x middle = some (y, left) →
      motive x middle y left → motive before rest y left)
    {before : α} {rest : Remainder} {x : α} {left : Remainder}
    (read : repeatLoop step before rest = some (x, left)) : motive before rest x left := by
  fun_induction repeatLoop step before rest with
  | case1 => cases read
  | case2 before rest result left answer =>
      cases read
      exact done answer
  | case3 before rest result middle answer shorter ih => exact next answer shorter read (ih read)
  | case4 => cases read

section

variable {step : α → Reader (α × Bool)} {before x : α} {rest left : Remainder}
  {trees after other : Trees} {stray : Bool}

theorem repeatLoop_done (answer : step before rest = some ((x, false), left)) :
    repeatLoop step before rest = some (x, left) := by
  rw [repeatLoop, answer]

theorem repeatLoop_next {middle : Remainder} (answer : step before rest = some ((x, true), middle))
    (shorter : middle.trees.length < rest.trees.length) :
    repeatLoop step before rest = repeatLoop step x middle := by
  rw [repeatLoop, answer]
  exact if_pos shorter

theorem repeatLoop_suffix (last : Nat) [∀ x, Framed last last (step x)]
    (read : repeatLoop step before rest = some (x, left)) :
    left.trees <:+ rest.trees := by
  refine repeatLoop_induct (motive := fun _ rest _ left => left.trees <:+ rest.trees) ?_ ?_ read
  · exact Framed.suffix last last
  · intro before rest x middle y left one _ _ two
    exact two.trans (Framed.suffix last last one)

theorem repeatLoop_stray (last : Nat) [∀ x, Framed last last (step x)]
    (read : repeatLoop step before rest = some (x, left)) :
    ∃ inner, ∀ stray, repeatLoop step before ⟨rest.trees, stray⟩ =
      some (x, ⟨left.trees, stray || inner⟩) := by
  refine repeatLoop_induct (motive := fun before rest x left => ∃ inner, ∀ stray,
    repeatLoop step before ⟨rest.trees, stray⟩ = some (x, ⟨left.trees, stray || inner⟩)) ?_ ?_ read
  · intro before rest x left one
    obtain ⟨inner, one⟩ := Framed.stray last last one
    exact ⟨inner, fun stray => repeatLoop_done (one stray)⟩
  · rintro before rest x middle y left one shorter - ⟨more, two⟩
    obtain ⟨inner, one⟩ := Framed.stray last last one
    refine ⟨inner || more, fun stray => ?_⟩
    rw [repeatLoop_next (one stray) shorter, two, Bool.or_assoc]

theorem repeatLoop_frame [∀ x, Framed last last (step x)] (stop : Stop after)
    (end' : Stop other) (enough : last ≤ trees.length)
    (read : repeatLoop step before ⟨trees ++ after, stray⟩ = some (x, left))
    (le : after.length + last ≤ left.trees.length) :
    ∃ behind, left.trees = behind ++ after ∧
      repeatLoop step before ⟨trees ++ other, stray⟩ = some (x, ⟨behind ++ other, left.stray⟩) := by
  refine repeatLoop_induct (motive := fun before rest y left => ∀ {trees stray},
    last ≤ trees.length → rest = ⟨trees ++ after, stray⟩ → after.length + last ≤ left.trees.length →
    ∃ behind, left.trees = behind ++ after ∧
      repeatLoop step before ⟨trees ++ other, stray⟩ = some (y, ⟨behind ++ other, left.stray⟩))
    ?_ ?_ read enough rfl le
  · rintro before _ y left one trees stray enough rfl le
    obtain ⟨behind, eq, one⟩ := Framed.frame stop end' enough one le
    exact ⟨behind, eq, repeatLoop_done one⟩
  · rintro before _ x middle y left one shorter two ih trees stray enough rfl le
    have behind := (repeatLoop_suffix last two).length_le
    obtain ⟨own, split, again⟩ := Framed.frame stop end' enough one (Nat.le_trans le behind)
    obtain ⟨middle, stray'⟩ := middle
    dsimp only at split again behind shorter
    subst split
    simp only [List.length_append, Nat.add_lt_add_iff_right] at behind shorter
    obtain ⟨rest, split, two⟩ := ih (by omega) rfl le
    refine ⟨rest, split, ?_⟩
    rw [repeatLoop_next again (by simpa using shorter), two]

theorem repeatLoop_clean [∀ x, Framed last last (step x)] (zero : last = 0)
    (read : repeatLoop step before rest = some (x, left)) :
    Clean left.trees rest.trees := by
  subst zero
  refine repeatLoop_induct (motive := fun _ rest _ left => Clean left.trees rest.trees) ?_ ?_ read
  · exact Framed.clean rfl (.inl rfl)
  · intro before rest x middle y left one _ _ two
    exact two.of_suffix (Framed.clean rfl (.inl rfl) one) (Framed.suffix 0 0 one)

end

theorem Framed.repeated {step : α → Reader (α × Bool)} {start : α}
    (framed : ∀ x, Framed last last (step x)) : Framed last last (repeated step start) where
  suffix read := repeatLoop_suffix last read
  stray read := repeatLoop_stray last read
  frame stop end' enough read le := repeatLoop_frame stop end' enough read le
  clean zero _ _ _ _ read := repeatLoop_clean zero read

instance (step : α → Reader (α × Bool)) (start : α) [framed : ∀ x, Framed last last (step x)] :
    Framed last last (repeated step start) :=
  .repeated framed

instance (continues : Trees → Bool) (p : Reader α) [Steady last continues] [Framed last last p] :
    Framed last last (listWhile continues p) := by
  unfold listWhile
  infer_instance

instance (continues : Trees → Bool) (p : Reader Code) [Steady last continues] [Framed last last p] :
    Framed last last (codeWhile continues p) := by
  unfold codeWhile
  infer_instance

instance (stops : Trees → Bool) [Steady 1 stops] : Framed 1 1 (commaBefore stops) := by
  unfold commaBefore
  infer_instance

instance (stops : Trees → Bool) (p : Reader α) [Steady 1 stops] [Framed 1 1 p] :
    Framed 1 1 (commaList stops p) := by
  unfold commaList
  infer_instance

instance (stops : Trees → Bool) (p : Reader Code) [Steady 1 stops] [Framed 1 1 p] :
    Framed 1 1 (commaCode stops p) := by
  unfold commaCode
  infer_instance

instance (delimiter : Delimiter) (p : Reader Code) : Framed 0 0 (commaGroup delimiter p) := by
  unfold commaGroup
  infer_instance

instance (stops : Trees → Bool) (mark : String) (p : Reader Code) [Mark mark] [Steady last stops]
    [Framed last last p] [Framed last last (optionalPunct mark)] : Framed last last (markedCode stops mark p) := by
  unfold markedCode
  infer_instance

instance (f : Source.Tree → Option (α × Bool)) : Strict (headed f) where
  shorter read := by
    obtain ⟨tree, stray, -, split, -⟩ := headed_eq_some.1 read
    rw [split]
    exact Nat.lt_succ_self _

instance : Strict anyIdentName := by
  rw [anyIdentName_eq]
  infer_instance

instance (mark : String) [Mark mark] : Strict (punct mark) where
  shorter read := by
    obtain ⟨trees, found, eq⟩ := Option.map_eq_some_iff.1 read
    cases eq
    have := punctRest?_length found
    have nonempty : mark.toList ≠ [] := Mark.nonempty
    have := List.length_pos_iff.2 nonempty
    dsimp only
    omega

instance (priority := low) (p : Reader α) (f : α → Reader β) [Framed 1 1 p]
    [∀ x, Strict (f x)] : Strict (p >>= f) where
  shorter read := by
    obtain ⟨x, middle, one, two⟩ := bind_eq_some.1 read
    exact Nat.lt_of_lt_of_le (Strict.shorter two) (Framed.suffix 1 1 one).length_le

instance (c : Prop) [Decidable c] (p q : Reader α) [Strict p] [Strict q] :
    Strict (if c then p else q) := by
  split <;> assumption

instance (p : Reader α) (f : α → β) [Strict p] : Strict (f <$> p) where
  shorter read := by
    rw [← bind_pure_comp] at read
    obtain ⟨x, middle, one, two⟩ := bind_eq_some.1 read
    cases two
    exact Strict.shorter one

instance (p : Reader α) [Strict p] : Strict (discard p) :=
  inferInstanceAs (Strict ((fun _ => PUnit.unit) <$> p))

instance (p : Reader α) (f : α → Reader β) [Strict p] [∀ x, Framed 1 1 (f x)] : Strict (p >>= f) where
  shorter read := by
    obtain ⟨x, middle, one, two⟩ := bind_eq_some.1 read
    exact Nat.lt_of_le_of_lt (Framed.suffix 1 1 two).length_le (Strict.shorter one)

/-- What is enclosed may contain commas, as the closing mark is part of the option. -/
theorem Framed.within {p : Reader α} {f : α → Reader β} [Framed 1 1 p] [∀ x, Framed 0 0 (f x)]
    [∀ x, Strict (f x)] : Framed 0 0 (p >>= f) where
  suffix read := by
    obtain ⟨x, middle, one, two⟩ := bind_eq_some.1 read
    exact (Framed.suffix 0 0 two).trans (Framed.suffix 1 1 one)
  stray read := by
    obtain ⟨x, middle, one, two⟩ := bind_eq_some.1 read
    exact stray_bind (Framed.stray 1 1 one) (Framed.stray 0 0 two)
  frame {trees after other stray y left} stop end' enough read le := by
    obtain ⟨x, middle, one, two⟩ := bind_eq_some.1 read
    have longer : after.length + 1 ≤ middle.trees.length :=
      Nat.lt_of_le_of_lt le (Strict.shorter two)
    have inside := (Framed.suffix 1 1 one).length_le
    simp only [List.length_append] at inside
    have enough : 1 ≤ trees.length := by omega
    obtain ⟨behind, eq, one⟩ := Framed.frame stop end' enough one longer
    obtain ⟨middle, stray'⟩ := middle
    cases eq
    obtain ⟨rest, eq, two⟩ := Framed.frame stop end' (Nat.zero_le _) two le
    exact ⟨rest, eq, bind_eq_some.2 ⟨x, _, one, two⟩⟩
  clean zero rest y left _ read := by
    obtain ⟨x, middle, one, two⟩ := bind_eq_some.1 read
    exact (Framed.clean rfl (.inl rfl) two).of_shorter (Strict.shorter two) (Framed.suffix 1 1 one)

/-! Options and their ends. -/

variable {p : Reader α} [Framed 0 0 p] {trees after : Trees} {stray : Bool} {x : α}
  {left : Remainder}

/-- What is read of an option alone is read of it in front of an end. -/
theorem Framed.extend (stop : Stop after) (read : p ⟨trees, stray⟩ = some (x, left)) :
    p ⟨trees ++ after, stray⟩ = some (x, ⟨left.trees ++ after, left.stray⟩) := by
  rw [← List.append_nil trees] at read
  obtain ⟨behind, eq, framed⟩ := (inferInstance : Framed 0 0 p).frame .nothing stop
    (Nat.zero_le _) read (Nat.zero_le _)
  rw [eq, List.append_nil]
  exact framed

theorem Framed.shrink (stop : Stop after) (read : p ⟨trees ++ after, stray⟩ = some (x, left))
    (inside : after.length ≤ left.trees.length) :
    ∃ behind, left.trees = behind ++ after ∧ p ⟨trees, stray⟩ = some (x, ⟨behind, left.stray⟩) := by
  obtain ⟨behind, eq, framed⟩ := (inferInstance : Framed 0 0 p).frame stop .nothing
    (Nat.zero_le _) read inside
  rw [List.append_nil, List.append_nil] at framed
  exact ⟨behind, eq, framed⟩

/-- A group that is left before its end does not matter to what is read. -/
theorem Framed.anyStray (read : p ⟨trees, stray⟩ = some (x, left)) :
    ∃ inner, left.stray = (stray || inner) ∧
      ∀ stray, p ⟨trees, stray⟩ = some (x, ⟨left.trees, stray || inner⟩) := by
  obtain ⟨inner, any⟩ := Framed.stray 0 0 read
  have same := read.symm.trans (any stray)
  rw [Option.some.injEq, Prod.mk.injEq] at same
  exact ⟨inner, congrArg Remainder.stray same.2, any⟩

/-- What a reader took in front of an end, it reads alone. -/
theorem Framed.alone (read : p ⟨trees, stray⟩ = some (x, left)) (stop : Stop left.trees) :
    ∃ own inner, trees = own ++ left.trees ∧ left.stray = (stray || inner) ∧
      ∀ stray, p ⟨own, stray⟩ = some (x, ⟨[], stray || inner⟩) := by
  obtain ⟨own, rfl⟩ := Framed.suffix 0 0 read
  obtain ⟨behind, eq, alone⟩ := Framed.shrink stop read (Nat.le_refl _)
  obtain rfl : behind = [] := List.self_eq_append_left.1 eq
  obtain ⟨inner, same, any⟩ := Framed.anyStray alone
  exact ⟨own, inner, rfl, same, any⟩

end

end StructBuilder.Grammar
