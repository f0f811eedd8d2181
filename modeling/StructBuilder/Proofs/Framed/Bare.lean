import StructBuilder.Proofs.Framed.Readers

/-!
Readers that take no comma. They stay in their option, whatever comes behind it, so they
read the same of it alone and in front of every end, and fail on the same options.
-/

namespace StructBuilder.Grammar

open Reader

/-- The reader takes no comma and enters no group. -/
class Bare {α : Type} (p : Reader α) : Prop where
  taken : ∀ {rest x left}, p rest = some (x, left) → left.stray = rest.stray ∧
    ∃ taken, rest.trees = taken ++ left.trees ∧ ∀ tree ∈ taken, ¬Stop [tree]

section

variable {α β : Type}

instance (x : α) : Bare (pure x : Reader α) where
  taken read := by
    cases read
    exact ⟨rfl, [], rfl, nofun⟩

instance (test : Trees → Bool) : Bare (sees test) where
  taken read := by
    cases read
    exact ⟨rfl, [], rfl, nofun⟩

instance (p : Reader α) (f : α → Reader β) [Bare p] [∀ x, Bare (f x)] : Bare (p >>= f) where
  taken read := by
    obtain ⟨x, middle, one, two⟩ := bind_eq_some.1 read
    obtain ⟨sameOne, first, splitOne, bareOne⟩ := Bare.taken one
    obtain ⟨sameTwo, second, splitTwo, bareTwo⟩ := Bare.taken two
    refine ⟨sameTwo.trans sameOne, first ++ second, ?_, fun tree mem => ?_⟩
    · rw [splitOne, splitTwo, List.append_assoc]
    · exact (List.mem_append.1 mem).elim (bareOne tree) (bareTwo tree)

instance (f : α → β) (p : Reader α) [Bare p] : Bare (f <$> p) := by
  rw [← bind_pure_comp]
  infer_instance

instance (p : Reader α) [Bare p] : Bare (discard p) :=
  inferInstanceAs (Bare ((fun _ => PUnit.unit) <$> p))

instance (c : Prop) [Decidable c] (p q : Reader α) [Bare p] [Bare q] :
    Bare (if c then p else q) := by
  split <;> assumption

instance : Bare anyIdentName where
  taken {rest x left} read := by
    obtain ⟨_ | ⟨⟨_, _, leaf⟩ | _, trees⟩, stray⟩ := rest
    · cases read
    · cases leaf with
      | ident name =>
          cases read
          exact ⟨rfl, [_], rfl, fun tree mem stop => by cases List.mem_singleton.1 mem; cases stop⟩
      | _ => cases read
    · cases read

theorem punctRest?_taken {chars : List Char} {trees rest : Trees}
    (read : punctRest? chars trees = some rest) : ∃ taken, trees = taken ++ rest ∧
      ∀ tree ∈ taken, ∃ gap spelling c, c ∈ chars ∧ tree = .leaf gap spelling (.punct c) := by
  fun_induction punctRest? chars trees with
  | case1 =>
      cases read
      exact ⟨[], rfl, List.forall_mem_nil _⟩
  | case2 c more gap spelling d trees ok ih =>
      simp only [Bool.and_eq_true, decide_eq_true_eq] at ok
      obtain ⟨rfl, -⟩ := ok
      obtain ⟨taken, rfl, marks⟩ := ih read
      refine ⟨.leaf gap spelling (.punct c) :: taken, rfl, List.forall_mem_cons.2 ⟨?_, ?_⟩⟩
      · exact ⟨gap, spelling, c, .head _, rfl⟩
      · intro tree mem
        obtain ⟨gap, spelling, d, mem, eq⟩ := marks tree mem
        exact ⟨gap, spelling, d, .tail _ mem, eq⟩
  | case3 => cases read
  | case4 => cases read

instance (mark : String) [Mark mark] : Bare (punct mark) where
  taken {rest x left} read := by
    obtain ⟨trees, found, eq⟩ := Option.map_eq_some_iff.1 read
    cases eq
    obtain ⟨taken, split, marks⟩ := punctRest?_taken found
    refine ⟨rfl, taken, split, fun tree mem stop => ?_⟩
    obtain ⟨gap, spelling, c, among, rfl⟩ := marks tree mem
    cases stop
    exact Mark.comma among

instance (step : α → Reader (α × Bool)) (start : α) [∀ x, Bare (step x)] :
    Bare (repeated step start) where
  taken read := by
    refine repeatLoop_induct (motive := fun _ rest _ left => left.stray = rest.stray ∧
      ∃ taken, rest.trees = taken ++ left.trees ∧ ∀ tree ∈ taken, ¬Stop [tree]) ?_ ?_ read
    · exact Bare.taken
    · rintro before rest x middle y left one - - ⟨sameTwo, second, splitTwo, bareTwo⟩
      obtain ⟨sameOne, first, splitOne, bareOne⟩ := Bare.taken one
      refine ⟨sameTwo.trans sameOne, first ++ second, ?_, fun tree mem => ?_⟩
      · rw [splitOne, splitTwo, List.append_assoc]
      · exact (List.mem_append.1 mem).elim (bareOne tree) (bareTwo tree)

instance (continues : Trees → Bool) (p : Reader α) [Bare p] : Bare (listWhile continues p) := by
  unfold listWhile
  infer_instance

/-- What is taken without a comma ends where the option ends. -/
theorem length_le_of_taken {trees after left taken : Trees} (stop : Stop after)
    (split : trees ++ after = taken ++ left) (bare : ∀ tree ∈ taken, ¬Stop [tree]) :
    after.length ≤ left.length := by
  by_contra short
  have lengths := congrArg List.length split
  simp only [List.length_append] at lengths
  have more : trees.length < taken.length := by omega
  cases stop with
  | nothing => exact short (Nat.zero_le _)
  | comma gap spelling rest =>
      have there : taken[trees.length]? = some (.leaf gap spelling (.punct ',')) := by
        rw [← List.getElem?_append_left more, ← split]
        simp
      exact bare _ (List.mem_of_getElem? there) (.comma gap spelling [])

/-- A reader without a comma stays in its option, whatever comes behind. -/
theorem Bare.append (p : Reader α) [Bare p] [Framed 0 0 p] {after : Trees} (stop : Stop after)
    (trees : Trees) (stray : Bool) :
    p ⟨trees ++ after, stray⟩ =
      (p ⟨trees, false⟩).map fun (x, left) => (x, ⟨left.trees ++ after, stray⟩) := by
  cases alone : p ⟨trees, false⟩ with
  | some answer =>
      obtain ⟨x, left⟩ := answer
      obtain ⟨inner, -, any⟩ := Framed.anyStray (Framed.extend stop alone)
      have same : (stray || inner) = stray := (Bare.taken (any stray)).1
      rw [any, same]
      rfl
  | none =>
      refine Option.eq_none_iff_forall_ne_some.2 fun (x, left) read => ?_
      obtain ⟨-, taken, split, bare⟩ := Bare.taken read
      obtain ⟨behind, -, short⟩ := Framed.shrink stop read (length_le_of_taken stop split bare)
      obtain ⟨inner, -, any⟩ := Framed.anyStray short
      cases alone.symm.trans (any false)

end

end StructBuilder.Grammar
