import Mathlib.Data.Option.Basic
import Mathlib.Tactic.ByContra
import StructBuilder.Grammar.Language

/-!
What a look-ahead sees in front of the end of an option. An option of a list is followed
by nothing or by a comma. Most tests see the same in front of both, whatever comes behind
the comma: they look at a few trees, and stop at the first that they do not know.
-/

namespace StructBuilder.Grammar

/-- An option ends here: nothing follows, or a comma does. -/
inductive Stop : Trees → Prop
  | nothing : Stop []
  | comma (gap spelling : String) (rest : Trees) : Stop (.leaf gap spelling (.punct ',') :: rest)

/-! Tests. -/

/-- The test sees the same in front of every end, if `own` trees of the option are left. -/
class Steady {β : Type} (own : Nat) (test : Trees → β) : Prop where
  same : ∀ {trees after other : Trees}, own ≤ trees.length → Stop after → Stop other →
    test (trees ++ after) = test (trees ++ other)

/-- The test holds only if `own` trees of the option are left. -/
class Needs (own : Nat) (test : Trees → Bool) : Prop where
  length : ∀ {trees after : Trees}, Stop after → test (trees ++ after) = true → own ≤ trees.length

section

variable {β : Type} {own : Nat} {test other : Trees → Bool} {trees after before : Trees}

theorem Steady.eq (test : Trees → β) [Steady own test] (enough : own ≤ trees.length)
    (stop : Stop after) (other : Stop before) : test (trees ++ after) = test (trees ++ before) :=
  Steady.same enough stop other

theorem Steady.eq_nil (test : Trees → β) [Steady 0 test] (stop : Stop after) :
    test after = test [] := by
  have same : test ([] ++ after) = test ([] ++ []) := Steady.eq test (Nat.zero_le _) stop .nothing
  exact same

theorem Steady.comp {γ : Type} (f : β → γ) (test : Trees → β) [Steady own test] :
    Steady own fun trees => f (test trees) where
  same enough stop end' := by rw [Steady.eq test enough stop end']

theorem Needs.false_of_stop (test : Trees → Bool) [Needs 1 test] (stop : Stop after) :
    test after = false := by
  cases holds : test after with
  | false => rfl
  | true =>
      have none : 1 ≤ ([] : Trees).length := Needs.length stop holds
      cases none

instance (priority := low) {test : Trees → β} [Steady own test] : Steady (own + 1) test where
  same enough := Steady.same (Nat.le_of_succ_le enough)

instance (priority := low) [Needs 2 test] : Needs 1 test where
  length stop holds := Nat.le_of_succ_le (Needs.length stop holds)

instance (x : β) : Steady own fun _ => x where
  same _ _ _ := rfl

/-- A test that every end passes. -/
theorem Steady.ofEnds [Steady 1 test] (ends : ∀ {after}, Stop after → test after = true) :
    Steady 0 test where
  same {trees after other} _ stop end' := by
    cases trees with
    | nil => exact (ends stop).trans (ends end').symm
    | cons tree trees => exact Steady.eq test (Nat.succ_le_succ (Nat.zero_le _)) stop end'

instance : Steady 1 (List.isEmpty (α := Source.Tree)) where
  same {trees after other} enough _ _ := by
    cases trees with
    | nil => cases enough
    | cons tree trees => rfl

instance [Steady own test] : Steady own fun trees => !test trees where
  same enough stop end' := by rw [Steady.eq test enough stop end']

instance [Steady own test] [Steady own other] :
    Steady own fun trees => test trees || other trees where
  same enough stop end' := by
    rw [Steady.eq test enough stop end', Steady.eq other enough stop end']

instance [Steady own test] [Steady own other] :
    Steady own fun trees => test trees && other trees where
  same enough stop end' := by
    rw [Steady.eq test enough stop end', Steady.eq other enough stop end']

/-- The second test is asked only where the first one has found trees of the option. -/
theorem Steady.guarded (own : Nat) [Steady 0 test] [Needs own test] [Steady own other] :
    Steady 0 fun trees => test trees && other trees where
  same {trees after before} _ stop end' := by
    have first := Steady.eq test trees.length.zero_le stop end'
    cases holds : test (trees ++ after) with
    | false => simp only [← first, holds, Bool.false_and]
    | true =>
        have enough : own ≤ trees.length := Needs.length stop holds
        rw [← first, holds, Steady.eq other enough stop end']

instance (priority := low) [Steady 0 test] [Needs 1 test] [Steady 1 other] :
    Steady 0 fun trees => test trees && other trees :=
  Steady.guarded 1

instance (priority := low) [Steady 0 test] [Needs 2 test] [Steady 2 other] :
    Steady 0 fun trees => test trees && other trees :=
  Steady.guarded 2

instance (first second : Trees → Option β) [Steady own first] [Steady own second] :
    Steady own fun trees => first trees <|> second trees where
  same enough stop end' := by
    rw [Steady.eq first enough stop end', Steady.eq second enough stop end']

instance {γ : Type} (f : β → γ) (p : Trees → Reader β) [Steady own p] :
    Steady own fun trees => f <$> p trees where
  same enough stop end' := by rw [Steady.eq p enough stop end']

instance {first second : Trees → β} [Steady own test] [Steady own first] [Steady own second] :
    Steady own fun trees => if test trees then first trees else second trees where
  same enough stop end' := by
    rw [Steady.eq test enough stop end', Steady.eq first enough stop end',
      Steady.eq second enough stop end']

instance {test : Trees → β} [Steady own test] :
    Steady (own + 1) fun trees => test (second trees) where
  same {trees after other} enough stop end' := by
    cases trees with
    | nil => cases enough
    | cons tree trees => exact Steady.same (Nat.le_of_succ_le_succ enough) stop end'

instance {test : Trees → β} [Steady own test] :
    Steady (own + 2) fun trees => test (third trees) where
  same {trees after other} enough stop end' := by
    match trees, enough with
    | _ :: _ :: trees, enough =>
        exact Steady.same (Nat.le_of_succ_le_succ (Nat.le_of_succ_le_succ enough)) stop end'

instance [Needs own test] : Needs own fun trees => test trees && other trees where
  length stop holds := Needs.length stop (Bool.and_eq_true_iff.1 holds).1

instance (priority := low) [Needs own other] : Needs own fun trees => test trees && other trees where
  length stop holds := Needs.length stop (Bool.and_eq_true_iff.1 holds).2

instance [Needs 1 test] [Needs 1 other] :
    Needs 2 fun trees => test trees && other (second trees) where
  length {trees after} stop holds := by
    obtain ⟨one, two⟩ := Bool.and_eq_true_iff.1 holds
    cases trees with
    | nil => cases (Needs.false_of_stop test stop).symm.trans one
    | cons tree trees => exact Nat.succ_le_succ (Needs.length stop two)

instance [Needs own test] [Needs own other] : Needs own fun trees => test trees || other trees where
  length stop holds := (Bool.or_eq_true_iff.1 holds).elim (Needs.length stop) (Needs.length stop)

end

/-! The first tree. -/

/-- The test looks at the first tree alone, and a comma does not pass it. -/
class Heads (test : Trees → Bool) : Prop where
  cons : ∀ tree trees, test (tree :: trees) = test [tree]
  nothing : test [] = false
  comma : ∀ gap spelling, test [.leaf gap spelling (.punct ',')] = false

section

variable (test : Trees → Bool) [Heads test]

theorem Heads.append {after : Trees} (stop : Stop after) (trees : Trees) :
    test (trees ++ after) = test trees := by
  cases trees with
  | cons tree trees => exact (cons tree (trees ++ after)).trans (cons tree trees).symm
  | nil =>
      cases stop with
      | nothing => rfl
      | comma gap spelling rest => exact (cons _ rest).trans ((comma gap spelling).trans nothing.symm)

instance (priority := low) : Steady 0 test where
  same _ stop other := (Heads.append test stop _).trans (Heads.append test other _).symm

instance (priority := low) : Needs 1 test where
  length {trees after} stop holds := by
    rw [Heads.append test stop] at holds
    cases trees with
    | nil => exact absurd (Heads.nothing.symm.trans holds) nofun
    | cons => exact Nat.succ_le_succ (Nat.zero_le _)

end

instance (word : String) : Heads (atWord word) :=
  ⟨fun tree _ => by rcases tree with ⟨_, _, _ | _⟩ | _ <;> rfl, rfl, fun _ _ => rfl⟩

instance (words : List String) : Heads (atAnyWord words) :=
  ⟨fun tree _ => by rcases tree with ⟨_, _, _ | _⟩ | _ <;> rfl, rfl, fun _ _ => rfl⟩

instance : Heads atAnyIdent :=
  ⟨fun tree _ => by rcases tree with ⟨_, _, _ | _⟩ | _ <;> rfl, rfl, fun _ _ => rfl⟩

instance : Heads atIdent :=
  ⟨fun tree _ => by rcases tree with ⟨_, _, _ | _⟩ | _ <;> rfl, rfl, fun _ _ => rfl⟩

instance : Heads atLifetime :=
  ⟨fun tree _ => by rcases tree with ⟨_, _, _ | _⟩ | _ <;> rfl, rfl, fun _ _ => rfl⟩

instance (delimiter : Delimiter) : Heads (atGroup delimiter) :=
  ⟨fun tree _ => by rcases tree with _ | _ <;> rfl, rfl, fun _ _ => rfl⟩

instance : Heads atAnyGroup :=
  ⟨fun tree _ => by rcases tree with _ | _ <;> rfl, rfl, fun _ _ => rfl⟩

instance : Heads atNumber :=
  ⟨fun tree _ => by rcases tree with ⟨_, _, _ | _⟩ | _ <;> rfl, rfl, fun _ _ => rfl⟩

instance : Heads atText :=
  ⟨fun tree _ => by rcases tree with ⟨_, _, _ | _⟩ | _ <;> rfl, rfl, fun _ _ => rfl⟩

instance : Heads atAttribute where
  cons tree _ := by
    rcases tree with ⟨_, _, leaf⟩ | _
    · cases leaf with
      | punct c => by_cases hash : c = '#' <;> simp_all [atAttribute]
      | _ => rfl
    · rfl
  nothing := rfl
  comma _ _ := rfl

/-! Marks. -/

/-- Punctuation without a comma. -/
class Mark (mark : String) : Prop where
  nonempty : mark.toList ≠ []
  comma : ',' ∉ mark.toList

theorem punctRest?_append {after : Trees} (stop : Stop after) {chars : List Char}
    (no : ',' ∉ chars) (trees : Trees) :
    punctRest? chars (trees ++ after) = (punctRest? chars trees).map (· ++ after) := by
  induction chars generalizing trees with
  | nil => rfl
  | cons c more ih =>
      have ne : c ≠ ',' := fun eq => no (eq ▸ .head more)
      have ih := ih fun mem => no (.tail c mem)
      rcases trees with _ | ⟨⟨gap, spelling, leaf⟩ | _, trees⟩
      · cases stop with
        | nothing => rfl
        | comma => simp [punctRest?, ne]
      · cases leaf with
        | punct d =>
            cases trees with
            | nil =>
                have behind := ih []
                cases more <;> cases stop <;> simp_all [punctRest?]
            | cons tree trees =>
                change (if c = d && (more.isEmpty || tree.gap.isEmpty) then
                    punctRest? more (tree :: trees ++ after) else none) =
                  (if c = d && (more.isEmpty || tree.gap.isEmpty) then
                    punctRest? more (tree :: trees) else none).map (· ++ after)
                rw [ih]
                split <;> rfl
        | _ => rfl
      · rfl

theorem punctRest?_length {chars : List Char} {trees rest : Trees}
    (read : punctRest? chars trees = some rest) : chars.length + rest.length = trees.length := by
  fun_induction punctRest? chars trees with
  | case1 =>
      cases read
      exact Nat.zero_add _
  | case2 c more gap spelling d trees ok ih =>
      have := ih read
      simp only [List.length_cons]
      omega
  | case3 => cases read
  | case4 => cases read

/-- The characters that are read come last among what is read. -/
theorem punctRest?_last {chars : List Char} {trees rest : Trees} (some' : chars ≠ [])
    (read : punctRest? chars trees = some rest) :
    ∃ before gap spelling c, c ∈ chars ∧ trees = before ++ .leaf gap spelling (.punct c) :: rest := by
  fun_induction punctRest? chars trees with
  | case1 => exact absurd rfl some'
  | case2 c more gap spelling d trees ok ih =>
      simp only [Bool.and_eq_true, decide_eq_true_eq] at ok
      obtain ⟨rfl, -⟩ := ok
      by_cases last : more = []
      · subst last
        cases read
        exact ⟨[], gap, spelling, c, .head _, rfl⟩
      · obtain ⟨before, gap', spelling', c', mem, rfl⟩ := ih last read
        exact ⟨_ :: before, gap', spelling', c', .tail _ mem, rfl⟩
  | case3 => cases read
  | case4 => cases read

section

variable {mark : String} [Mark mark]

theorem atPunct_append {after : Trees} (stop : Stop after) (trees : Trees) :
    atPunct mark (trees ++ after) = atPunct mark trees := by
  rw [atPunct, punctRest?_append stop (Mark.comma)]
  simp [atPunct]

instance : Steady 0 (atPunct mark) where
  same _ stop other := (atPunct_append stop _).trans (atPunct_append other _).symm

theorem needs_atPunct (own : Nat) (length : own ≤ mark.toList.length) : Needs own (atPunct mark) where
  length {trees after} stop holds := by
    rw [atPunct_append stop, atPunct, Option.isSome_iff_exists] at holds
    obtain ⟨rest, read⟩ := holds
    have := punctRest?_length read
    omega

instance : Needs 1 (atPunct mark) :=
  needs_atPunct 1 (List.length_pos_iff.2 Mark.nonempty)

end

instance : Mark "<" := ⟨by decide, by decide⟩
instance : Mark ">" := ⟨by decide, by decide⟩
instance : Mark "::" := ⟨by decide, by decide⟩
instance : Mark "#" := ⟨by decide, by decide⟩
instance : Mark "!" := ⟨by decide, by decide⟩
instance : Mark "!=" := ⟨by decide, by decide⟩
instance : Mark "=" := ⟨by decide, by decide⟩
instance : Mark ":" := ⟨by decide, by decide⟩
instance : Mark "+" := ⟨by decide, by decide⟩
instance : Mark "-" := ⟨by decide, by decide⟩
instance : Mark "*" := ⟨by decide, by decide⟩
instance : Mark "/" := ⟨by decide, by decide⟩
instance : Mark "%" := ⟨by decide, by decide⟩
instance : Mark "^" := ⟨by decide, by decide⟩
instance : Mark "&" := ⟨by decide, by decide⟩
instance : Mark "|" := ⟨by decide, by decide⟩
instance : Mark "?" := ⟨by decide, by decide⟩
instance : Mark "." := ⟨by decide, by decide⟩
instance : Mark "@" := ⟨by decide, by decide⟩
instance : Mark ";" := ⟨by decide, by decide⟩
instance : Mark "->" := ⟨by decide, by decide⟩
instance : Mark "=>" := ⟨by decide, by decide⟩
instance : Mark ".." := ⟨by decide, by decide⟩
instance : Mark "..." := ⟨by decide, by decide⟩
instance : Mark "..=" := ⟨by decide, by decide⟩
instance : Mark "||" := ⟨by decide, by decide⟩
instance : Mark "|=" := ⟨by decide, by decide⟩
instance : Mark "<=" := ⟨by decide, by decide⟩
instance : Mark "<<=" := ⟨by decide, by decide⟩
instance : Mark "-=" := ⟨by decide, by decide⟩
instance : Mark "*=" := ⟨by decide, by decide⟩
instance : Mark "&=" := ⟨by decide, by decide⟩

instance : Needs 2 (atPunct "::") :=
  needs_atPunct 2 (by decide)

instance : Steady 1 (atPunct ",") where
  same {trees after other} enough _ _ := by
    rcases trees with _ | ⟨⟨_, _, leaf⟩ | _, trees⟩
    · cases enough
    · cases leaf with
      | punct c =>
          simp [atPunct, punctRest?]
          split <;> rfl
      | _ => rfl
    · rfl

instance {own : Nat} : Steady own (atAnyPunct []) :=
  inferInstanceAs (Steady own fun _ => false)

instance {own : Nat} {mark : String} {marks : List String} [Steady own (atPunct mark)]
    [Steady own (atAnyPunct marks)] : Steady own (atAnyPunct (mark :: marks)) :=
  inferInstanceAs (Steady own fun trees => atPunct mark trees || atAnyPunct marks trees)

instance : Needs 1 (atAnyPunct []) where
  length _ := nofun

instance {mark : String} {marks : List String} [Mark mark] [Needs 1 (atAnyPunct marks)] :
    Needs 1 (atAnyPunct (mark :: marks)) :=
  inferInstanceAs (Needs 1 fun trees => atPunct mark trees || atAnyPunct marks trees)

end StructBuilder.Grammar
