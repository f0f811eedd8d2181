import StructBuilder.Proofs.Framed.Types

/-!
Patterns, operands and expressions are read from the option that they begin in, and with
them everything that the whole grammar reads there. One look-ahead goes too far: whether
`for` opens the parameters of a closure is decided by the third tree behind it. Where the
option ends before that tree, neither a loop nor a closure can be read.
-/

namespace StructBuilder.Grammar

open Reader

set_option synthInstance.maxSize 2000

section

variable (rules : Rules) [rules.Local]

/-! Patterns. -/

instance : Steady 0 atAlternative := by
  unfold atAlternative
  infer_instance

instance : Framed 0 0 (alternatives rules) := by
  unfold alternatives
  infer_instance

instance : Framed 0 0 (alternativesCode rules) := by
  unfold alternativesCode
  infer_instance

instance : Framed 0 0 limits := by
  unfold limits
  infer_instance

instance : Steady 0 endsRange := by
  unfold endsRange
  exact .ofEnds fun stop => by cases stop <;> rfl

instance : Framed 0 0 (rangeBound rules) := by
  unfold rangeBound
  infer_instance

instance (lower : Code) : Framed 0 0 (range rules lower) := by
  unfold range
  infer_instance

instance : Framed 0 0 (boundOrRange rules) := by
  unfold boundOrRange
  infer_instance

instance : Framed 0 0 (slice rules) := by
  unfold slice
  infer_instance

instance : Framed 0 0 (tuple rules) := by
  unfold tuple
  infer_instance

instance : Framed 0 0 (pathPattern rules) := by
  unfold pathPattern
  dsimp only
  infer_instance

instance : Steady 0 startsPathPattern := by
  unfold startsPathPattern
  dsimp only
  infer_instance

instance : Framed 0 0 (patternCode rules) := by
  unfold patternCode
  infer_instance

instance : Framed 0 0 (binding rules) := by
  unfold binding
  infer_instance

instance : Framed 0 0 (boxed rules) := by
  unfold boxed
  infer_instance

instance : Framed 0 0 (pattern rules) := by
  unfold pattern
  refine .ahead (fun _ _ => rfl) ?_ (fun rest => ?_) ?_
  · dsimp only
    infer_instance
  · infer_instance
  · exact inferInstanceAs (Framed 0 0 (Pattern.mk .other <$> failure))

/-! Operands. -/

instance : Framed 0 0 (bare rules) := by
  unfold bare
  infer_instance

instance : Framed 0 0 (alternativePatterns rules) := by
  unfold alternativePatterns
  infer_instance

instance : Framed 0 0 (conditional rules) := by
  unfold conditional
  infer_instance

instance : Steady 0 atKeywordBlock := by
  unfold atKeywordBlock
  infer_instance

instance : Framed 0 0 (unlabeled rules) := by
  unfold unlabeled
  refine .ahead (fun _ _ => rfl) ?_ (fun rest => ?_) ?_
  · dsimp only
    infer_instance
  · infer_instance
  · exact inferInstanceAs (Framed 0 0 (rules.block true))

instance : Framed 0 0 (blockLike rules) := by
  unfold blockLike
  infer_instance

instance : Framed 0 0 (elements rules) := by
  unfold elements
  infer_instance

instance : Framed 0 0 (array rules) := by
  unfold array
  infer_instance

instance : Framed 0 0 (structureFields rules) := by
  unfold structureFields
  infer_instance

instance (structs : Bool) : Framed 0 0 (pathOperand rules structs) := by
  unfold pathOperand
  dsimp only
  infer_instance

instance : Framed 0 0 (closureInput rules) := by
  unfold closureInput
  infer_instance

instance (structs : Bool) : Framed 0 0 (closure rules structs) := by
  unfold closure
  dsimp only
  refine .bind inferInstance fun _ => .within

instance : Steady 0 beginsExpression := by
  unfold beginsExpression
  infer_instance

instance (structs : Bool) : Steady 0 (breakValue structs) := by
  unfold breakValue
  infer_instance

instance (structs : Bool) : Framed 0 0 (breakTail rules structs) := by
  unfold breakTail
  infer_instance

instance (structs : Bool) : Framed 1 0 (jump rules structs) := by
  unfold jump
  infer_instance

instance : Framed 0 0 (tailCall rules) := by
  unfold tailCall
  infer_instance

instance (structs : Bool) : Steady 0 (endsOpenRange structs) := by
  unfold endsOpenRange
  exact .ofEnds fun stop => by cases stop <;> rfl

instance (structs : Bool) : Framed 0 0 (rangeTail rules structs) := by
  unfold rangeTail
  have dots (closed : Bool) : Mark (if closed then "..=" else "..") := by
    cases closed
    · exact inferInstanceAs (Mark "..")
    · exact inferInstanceAs (Mark "..=")
  infer_instance

instance : Steady 0 startsPathOperand := by
  unfold startsPathOperand
  infer_instance

instance : Steady 0 startsAsyncBlock := by
  have same : startsAsyncBlock = fun trees =>
      (atWord "async" trees && atGroup .brace (second trees)) ||
        (atWord "async" trees && atWord "move" (second trees) && atGroup .brace (third trees)) := by
    funext trees
    rw [startsAsyncBlock, Bool.and_or_distrib_left, Bool.and_assoc]
  rw [same]
  infer_instance

instance (structs : Bool) : Framed 0 0 (letCondition rules structs) := by
  unfold letCondition
  infer_instance

/-- Angle brackets behind a keyword that are open where the option ends. -/
def Unclosed (trees : Trees) : Prop :=
  ∃ opening name, trees = [opening, name] ∧ atPunct "<" [opening, name] = true ∧
    (atLifetime [name] || atIdent [name]) = true

instance : Steady 3 opensParameters := by
  unfold opensParameters
  dsimp only
  infer_instance

theorem opensParameters_append {trees after other : Trees} (stop : Stop after) (end' : Stop other) :
    opensParameters (trees ++ after) = opensParameters (trees ++ other) ∨ Unclosed trees := by
  match trees with
  | [] =>
      left
      simp only [opensParameters, List.nil_append, Needs.false_of_stop (atPunct "<") stop,
        Needs.false_of_stop (atPunct "<") end', Bool.false_and]
  | [opening] =>
      left
      have none {next : Trees} (stop : Stop next) : opensParameters ([opening] ++ next) = false := by
        have behind : second ([opening] ++ next) = next := rfl
        simp only [opensParameters, behind, Needs.false_of_stop (atPunct ">") stop,
          Needs.false_of_stop atAttribute stop, Needs.false_of_stop (atWord "const") stop,
          Needs.false_of_stop atLifetime stop, Needs.false_of_stop atIdent stop, Bool.or_false,
          Bool.false_and, Bool.and_false]
      rw [none stop, none end']
  | [opening, name] =>
      cases unclosed : atPunct "<" [opening, name] && (atLifetime [name] || atIdent [name]) with
      | true =>
          rw [Bool.and_eq_true] at unclosed
          exact .inr ⟨opening, name, rfl, unclosed⟩
      | false =>
          left
          have behind (next : Trees) : second ([opening, name] ++ next) = [name] ++ next := rfl
          simp only [opensParameters, behind, atPunct_append stop, atPunct_append end',
            Heads.append _ stop, Heads.append _ end']
          cases bracket : atPunct "<" [opening, name] with
          | false => rfl
          | true =>
            rw [bracket, Bool.true_and] at unclosed
            rw [unclosed]
            rfl
  | _ :: _ :: _ :: trees =>
      exact .inl (Steady.eq opensParameters (Nat.le_add_left 3 _) stop end')

theorem startsBlock_append {trees after other : Trees} (stop : Stop after) (end' : Stop other)
    (same : atWord "for" trees = true →
      opensParameters (second (trees ++ after)) = opensParameters (second (trees ++ other))) :
    startsBlock (trees ++ after) = startsBlock (trees ++ other) := by
  have steady (test : Trees → Bool) [Steady 0 test] : test (trees ++ after) = test (trees ++ other) :=
    Steady.eq test (Nat.zero_le _) stop end'
  rw [startsBlock, startsBlock, steady (atAnyWord _), steady atKeywordBlock, steady (atGroup _),
    steady atLifetime, Heads.append (atWord "for") stop, Heads.append (atWord "for") end']
  cases loop : atWord "for" trees with
  | false => rfl
  | true => rw [same loop]

theorem startsClosure_append {trees after other : Trees} (stop : Stop after) (end' : Stop other)
    (same : atWord "for" trees = true →
      opensParameters (second (trees ++ after)) = opensParameters (second (trees ++ other))) :
    startsClosure (trees ++ after) = startsClosure (trees ++ other) := by
  have steady (test : Trees → Bool) [Steady 0 test] : test (trees ++ after) = test (trees ++ other) :=
    Steady.eq test (Nat.zero_le _) stop end'
  have constant := steady fun trees => atWord "const" trees && !atGroup .brace (second trees)
  have async := steady fun trees =>
    atWord "async" trees && (atPunct "|" (second trees) || atWord "move" (second trees))
  simp only [startsClosure]
  rw [steady (atPunct "|"), steady (atAnyWord _), constant, async,
    Heads.append (atWord "for") stop, Heads.append (atWord "for") end']
  cases loop : atWord "for" trees with
  | false => rfl
  | true => rw [same loop]

theorem not_closed_of_suffix {trees rest : Trees} (unclosed : Unclosed trees)
    (suffix : rest <:+ trees) : atWord "in" rest = false ∧ atPunct ">" rest = false := by
  obtain ⟨opening, name, rfl, bracket, named⟩ := unclosed
  have behind : atWord "in" [name] = false ∧ atPunct ">" [name] = false := by
    rcases name with ⟨_, _, leaf⟩ | _
    · cases leaf with
      | ident name =>
          refine ⟨?_, rfl⟩
          by_contra keyword
          have : name = "in" := by simpa [atWord] using keyword
          subst this
          exact absurd named (by decide : ¬(false || !reservedWords.contains "in") = true)
      | punct _ => cases named
      | _ => exact ⟨rfl, rfl⟩
    · exact ⟨rfl, rfl⟩
  rcases List.suffix_cons_iff.1 suffix with rfl | suffix
  · rcases opening with ⟨_, _, leaf⟩ | _
    · cases leaf with
      | punct c =>
          have : c = '<' := by
            by_contra other
            simp [atPunct, punctRest?, Ne.symm other] at bracket
          subst this
          exact ⟨rfl, rfl⟩
      | _ => cases bracket
    · cases bracket
  · rcases List.suffix_cons_iff.1 suffix with rfl | suffix
    · exact behind
    · rw [List.suffix_nil.1 suffix]
      exact ⟨rfl, rfl⟩

theorem satisfying_eq_some {test : Trees → Bool} {rest left : Remainder} {code : Code}
    (read : satisfying test rest = some (code, left)) : test rest.trees = true := by
  have read : (do guard (test rest.trees = true); anything : Reader Code) rest = some (code, left) := read
  cases seen : test rest.trees with
  | true => rfl
  | false =>
      rw [seen] at read
      cases read

theorem atPunct_of_discard {mark : String} {rest left : Remainder} {u : Unit}
    (read : discard (punct mark) rest = some (u, left)) : atPunct mark rest.trees = true := by
  have read : ((fun _ => ()) <$> punct mark) rest = some (u, left) := read
  rw [← bind_pure_comp] at read
  obtain ⟨_, _, read, -⟩ := bind_eq_some.1 read
  obtain ⟨trees, found, -⟩ := Option.map_eq_some_iff.1 read
  exact Option.isSome_iff_exists.2 ⟨trees, found⟩

theorem inTurn_cons_eq_some {p : Reader Code} {others : List (Reader Code)} {rest left : Remainder}
    {code : Code} (read : inTurn (p :: others) rest = some (code, left)) :
    ∃ first middle behind, p rest = some (first, middle) ∧ inTurn others middle = some (behind, left) := by
  obtain ⟨first, middle, one, two⟩ := bind_eq_some.1 read
  obtain ⟨behind, _, two, eq⟩ := bind_eq_some.1 two
  cases eq
  exact ⟨first, middle, behind, one, two⟩

theorem exists_of_atWord {text : String} {trees : Trees} (seen : atWord text trees = true) :
    ∃ gap spelling rest, trees = .leaf gap spelling (.ident text) :: rest := by
  rcases trees with _ | ⟨⟨gap, spelling, leaf⟩ | _, trees⟩
  · cases seen
  · cases leaf with
    | ident name =>
        rw [show name = text by simpa [atWord] using seen]
        exact ⟨gap, spelling, trees, rfl⟩
    | _ => cases seen
  · cases seen

section

variable {trees : Trees} {stray : Bool} {gap spelling : String}

/-- The word `in` is missing. -/
theorem blockLike_unclosed (unclosed : Unclosed trees) :
    blockLike rules ⟨.leaf gap spelling (.ident "for") :: trees, stray⟩ = none := by
  refine Option.eq_none_iff_forall_ne_some.2 fun (e, left) read => ?_
  have read : (do return Expression.ofCode .block ([] ++ (← unlabeled rules)) : Reader Expression)
      ⟨.leaf gap spelling (.ident "for") :: trees, stray⟩ = some (e, left) := read
  obtain ⟨code, middle, loop, -⟩ := bind_eq_some.1 read
  have parts : inTurn [word "for", alternativePatterns rules, word "in", bare rules,
      rules.block true] ⟨.leaf gap spelling (.ident "for") :: trees, stray⟩ = some (code, middle) :=
    loop
  obtain ⟨_, _, _, keyword, rest⟩ := inTurn_cons_eq_some parts
  cases keyword
  obtain ⟨_, _, _, pattern, rest⟩ := inTurn_cons_eq_some rest
  obtain ⟨_, _, _, keyword, -⟩ := inTurn_cons_eq_some rest
  have closed := satisfying_eq_some keyword
  rw [(not_closed_of_suffix unclosed (Framed.suffix 0 0 pattern)).1] at closed
  cases closed

/-- The closing bracket is missing. -/
theorem closure_unclosed (structs : Bool) (unclosed : Unclosed trees) :
    closure rules structs ⟨.leaf gap spelling (.ident "for") :: trees, stray⟩ = none := by
  refine Option.eq_none_iff_forall_ne_some.2 fun (code, left) read => ?_
  obtain ⟨_, _, opening, -⟩ := bind_eq_some.1 read
  obtain ⟨first, middle, _, lifetimes, -⟩ := inTurn_cons_eq_some opening
  have lifetimes : boundLifetimes rules ⟨.leaf gap spelling (.ident "for") :: trees, stray⟩ =
      some (first, middle) := lifetimes
  obtain ⟨_, _, keyword, rest⟩ := bind_eq_some.1 lifetimes
  cases keyword
  obtain ⟨_, _, parameters, -⟩ := bind_eq_some.1 rest
  obtain ⟨_, _, bracket, rest⟩ := bind_eq_some.1 parameters
  obtain ⟨_, _, items, rest⟩ := bind_eq_some.1 rest
  obtain ⟨_, _, closing, -⟩ := bind_eq_some.1 rest
  have suffix := (Framed.suffix 1 1 items).trans (Framed.suffix 0 0 bracket)
  have closed := atPunct_of_discard closing
  rw [(not_closed_of_suffix unclosed suffix).2] at closed
  cases closed

end

instance (structs : Bool) : Framed 0 0 (operand rules structs) := by
  unfold operand
  refine .aheadUnless (fun _ _ => rfl) (fun {trees after other} stop end' => ?_) (fun rest => ?_)
    fun stop => ?_
  · have steady (test : Trees → Bool) [Steady 0 test] :
        test (trees ++ after) = test (trees ++ other) :=
      Steady.eq test (Nat.zero_le _) stop end'
    by_cases same : atWord "for" trees = true →
        opensParameters (second (trees ++ after)) = opensParameters (second (trees ++ other))
    · left
      have block := startsBlock_append stop end' same
      have closure := startsClosure_append stop end' same
      dsimp only
      rw [block, closure, steady atLiteral, steady atBuiltin, steady (atWord "become"),
        steady (atPunct ".."), steady startsPathOperand, steady startsAsyncBlock,
        steady (atGroup .paren), steady (atGroup .bracket), steady (atAnyWord _),
        steady (atWord "continue"), steady (atWord "let"), steady (atWord "_")]
    · refine .inr fun stray => ?_
      obtain ⟨loop, differ⟩ := Classical.not_imp.1 same
      obtain ⟨gap, spelling, trees, rfl⟩ := exists_of_atWord loop
      have unclosed := (opensParameters_append stop end').resolve_left differ
      have literal : atLiteral (.leaf gap spelling (.ident "for") :: (trees ++ after)) = false := rfl
      have builtin : atBuiltin (.leaf gap spelling (.ident "for") :: (trees ++ after)) = false := rfl
      have become : atWord "become" (.leaf gap spelling (.ident "for") :: (trees ++ after)) = false :=
        rfl
      have dots : atPunct ".." (.leaf gap spelling (.ident "for") :: (trees ++ after)) = false := rfl
      have path : startsPathOperand (.leaf gap spelling (.ident "for") :: (trees ++ after)) = false :=
        rfl
      have async : startsAsyncBlock (.leaf gap spelling (.ident "for") :: (trees ++ after)) = false :=
        rfl
      have block : startsBlock (.leaf gap spelling (.ident "for") :: (trees ++ after)) =
          !opensParameters (trees ++ after) := by
        simp [startsBlock, atKeywordBlock, atAnyWord, atWord, atGroup, atLifetime, second]
      have closure : startsClosure (.leaf gap spelling (.ident "for") :: (trees ++ after)) =
          opensParameters (trees ++ after) := by
        simp [startsClosure, atPunct, punctRest?, atAnyWord, atWord, second]
      simp only [List.cons_append, literal, builtin, become, dots, path, async, block, closure,
        Bool.false_eq_true, if_false]
      cases opens : opensParameters (trees ++ after) with
      | false => exact blockLike_unclosed rules unclosed
      | true =>
          simp only [Bool.not_true, Bool.false_eq_true, if_false, if_true, ← bind_pure_comp, run_bind,
            closure_unclosed rules structs unclosed]
          rfl
  · dsimp only
    infer_instance
  · cases stop <;> exact inferInstanceAs (Framed 0 0 (Expression.ofCode .other <$> failure))

/-! Expressions. -/

instance : Framed 0 0 (methodTail rules) := by
  unfold methodTail
  infer_instance

instance : Framed 0 0 (plainMember rules) := by
  unfold plainMember
  infer_instance

instance : Framed 0 0 (memberAccess rules) := by
  unfold memberAccess
  refine .bind inferInstance fun dot => .ahead (fun _ _ => rfl) ⟨?_⟩ (fun rest => ?_) ?_
  · intro trees after other _ stop end'
    rcases trees with _ | ⟨⟨_, _, _ | _⟩ | _, trees⟩ <;> first | rfl | skip
    cases stop <;> cases end' <;> rfl
  · obtain ⟨_ | ⟨⟨_, _, leaf⟩ | _, trees⟩, stray⟩ := rest
    · dsimp only
      infer_instance
    · cases leaf with
      | number spelling =>
        dsimp only
        have members (indices : Option (List Nat × Bool)) : Framed 0 0 (match indices with
          | none => failure
          | some (indices, pointed) =>
              let members := indices.flatMap fun index => dot ++ Code.name (toString index)
              if pointed then return members ++ dot ++ (← plainMember rules) else return members : Reader Code) := by
          cases indices <;> dsimp only <;> infer_instance
        infer_instance
      | _ => dsimp only; infer_instance
    · dsimp only
      infer_instance
  · dsimp only
    infer_instance

instance (e : Expression) : Framed 0 0 (continuations rules e) := by
  unfold continuations
  refine .repeated fun e => .chosen (fun _ _ => rfl) ?_ fun _ => ?_ <;> dsimp only <;> infer_instance

instance : Steady 0 atRawPointer := by
  unfold atRawPointer
  infer_instance

instance : Needs 1 atRawPointer := by
  unfold atRawPointer
  infer_instance

theorem sign_eq : sign = (do
    if ← sees (atPunct "&") then
      inTurn [punct "&", do
        if ← sees atRawPointer then inTurn [anything, satisfying (atAnyWord ["mut", "const"])]
        else optionalWord "mut"]
    else anything) := by
  have same : (do if ← sees atRawPointer then inTurn [anything, anything] else optionalWord "mut") =
      (do
        if ← sees atRawPointer then inTurn [anything, satisfying (atAnyWord ["mut", "const"])]
        else optionalWord "mut") := by
    funext rest
    have run (p : Reader Code) :
        (do if ← sees atRawPointer then p else optionalWord "mut") rest =
          (if atRawPointer rest.trees then p else optionalWord "mut") rest := rfl
    rw [run, run]
    cases raw : atRawPointer rest.trees with
    | false => rfl
    | true =>
        simp only [if_true, inTurn, bind_assoc]
        exact anything_twice (Bool.and_eq_true_iff.1 raw).2
  rw [sign, same]

instance : Framed 1 0 sign := by
  rw [sign_eq]
  infer_instance

instance (structs : Bool) : Framed 0 0 (signed rules structs) := by
  unfold signed
  infer_instance

theorem mark_of_mem_operators : ∀ entry ∈ operators, Mark entry.1 := by
  have all : ∀ entry ∈ operators, entry.1.toList ≠ [] ∧ ',' ∉ entry.1.toList := by decide
  exact fun entry mem => ⟨(all entry mem).1, (all entry mem).2⟩

instance : Steady 0 fun trees => operators.find? fun (mark, _) => atPunct mark trees where
  same {trees after other} _ stop end' := by
    have same : ∀ entry ∈ operators, atPunct entry.1 (trees ++ after) = atPunct entry.1 (trees ++ other) := by
      intro entry mem
      have := mark_of_mem_operators entry mem
      exact Steady.eq (atPunct entry.1) (Nat.zero_le _) stop end'
    rw [← List.head?_filter, ← List.head?_filter, List.filter_congr same]

instance : Steady 0 operator? := by
  unfold operator?
  infer_instance

theorem mark_of_operator? {trees : Trees} {mark : String} {strength : Strength}
    (found : operator? trees = some (mark, strength)) : Mark mark := by
  unfold operator? at found
  simp only [Option.orElse_eq_orElse, Option.orElse_eq_or] at found
  rcases Option.or_eq_some_iff.1 found with listed | ⟨-, other⟩
  · exact mark_of_mem_operators (mark, strength) (List.mem_of_find?_eq_some listed)
  · split at other
    · cases other
      infer_instance
    · split at other
      · cases other
        infer_instance
      · split at other
        · cases other
          exact ⟨by decide, by decide⟩
        · cases other

instance : Framed 0 0 (castTail rules) := by
  unfold castTail
  infer_instance

instance (structs : Bool) (least : Strength) (e : Expression) :
    Framed 0 0 (climb rules structs least e) := by
  unfold climb
  refine .repeated fun e => .chosen (fun _ _ => rfl) ⟨fun _ stop end' => ?_⟩ fun rest => ?_
  · rw [Steady.eq operator? (Nat.zero_le _) stop end']
  · cases found : operator? rest.trees with
    | none => infer_instance
    | some entry =>
      obtain ⟨mark, strength⟩ := entry
      have := mark_of_operator? found
      dsimp only
      split
      · infer_instance
      · cases strength <;> dsimp only <;> infer_instance

instance (structs : Bool) (operator : Strength) : Framed 0 0 (right rules structs operator) := by
  unfold right
  refine .bind inferInstance fun e =>
    .repeated fun e => .chosen (fun _ _ => rfl) ⟨fun _ stop end' => ?_⟩ fun rest => ?_
  · rw [Steady.eq operator? (Nat.zero_le _) stop end']
  · dsimp only
    infer_instance

instance (structs : Bool) (least : Strength) : Framed 0 0 (expression rules structs least) := by
  unfold expression
  infer_instance

end

/-! The whole grammar. -/

instance : Rules.none.Local where
  type _ := inferInstanceAs (Framed 0 0 failure)
  bound _ := inferInstanceAs (Framed 0 0 failure)
  expression _ _ := inferInstanceAs (Framed 0 0 failure)
  right _ _ := inferInstanceAs (Framed 0 0 failure)
  pattern := inferInstanceAs (Framed 0 0 failure)
  block _ := inferInstanceAs (Framed 0 0 failure)

instance (rules : Unit → Rules) [(rules ()).Local] : (Rules.deepen rules).Local where
  type plus := inferInstanceAs (Framed 0 0 (type (rules ()) plus))
  bound constant := inferInstanceAs (Framed 0 0 (bound (rules ()) constant))
  expression structs least := inferInstanceAs (Framed 0 0 (expression (rules ()) structs least))
  right structs operator := inferInstanceAs (Framed 0 0 (right (rules ()) structs operator))
  pattern := inferInstanceAs (Framed 0 0 (pattern (rules ())))
  block _ := inferInstanceAs (Framed 0 0 (group .brace _))

instance (depth : Nat) : (Rules.ofDepth depth).Local := by
  induction depth with
  | zero => exact inferInstanceAs Rules.none.Local
  | succ depth ih => exact inferInstanceAs (Rules.deepen fun _ => Rules.ofDepth depth).Local

instance : Rules.all.Local := by
  unfold Rules.all
  infer_instance

end StructBuilder.Grammar
