import StructBuilder.Options.Field
import StructBuilder.Options.Struct
import StructBuilder.Proofs.Framed.Expressions
import StructBuilder.Proofs.OptionValues

/-!
The items that structures and fields know. A default may have an expression, the other keys
have a flag or a text; a key that is not known has nothing but a list behind it, if
anything. Nothing else is read as one item.
-/

namespace StructBuilder

open Grammar Grammar.Reader Options

instance : Framed 0 0 leadingExpression := by
  unfold leadingExpression
  infer_instance

namespace StructOptions

def keys : List String :=
  ["crate", "mappers", "collections"]

theorem mem_keys {key : String} :
    key ∈ keys ↔ key = "crate" ∨ key = "mappers" ∨ key = "collections" := by
  simp [keys]

/-- The path that a string spells. -/
def crateOf (value : String × String) : Result (Option StructOption) :=
  match Path.read? value.1 with
  | some path => .ok (some (.crate path.code))
  | .none => .error .malformed

/-- The library that a string names. -/
def collectionsOf (value : String × String) : Result (Option StructOption) := do
  return some (.collections (← Library.named value.1 (some value.2)))

theorem item_crate : item (some "crate") = ofValue (string "crate") crateOf := by
  funext rest
  rw [item, ofValue]
  cases string "crate" rest with
  | error => rfl
  | ok answer =>
      change _ = (do let known ← crateOf answer.1; return (known, answer.2) : Result _)
      rw [crateOf]
      cases read : Path.read? answer.1.1 with
      | none =>
          simp only [bind, Except.bind, read]
          rfl
      | some path => simp [bind, Except.bind, read]

theorem item_mappers :
    item (some "mappers") = ofValue (flag "mappers") fun on => .ok (some (.mappers on)) :=
  rfl

theorem item_collections :
    item (some "collections") = ofValue (string "collections") collectionsOf := by
  funext rest
  rw [item, ofValue]
  cases string "collections" rest with
  | error => rfl
  | ok answer =>
      change _ = (do let known ← collectionsOf answer.1; return (known, answer.2) : Result _)
      rw [collectionsOf]
      cases named : Library.named answer.1.1 (some answer.1.2) with
      | error _ => simp [bind, Except.bind, named]
      | ok library =>
          simp only [bind, Except.bind, named]
          rfl

instance : Vocabulary item keys where
  unknown {name} unknown rest := by
    unfold item
    split
    · exact absurd rfl (unknown _ (by decide))
    · exact absurd rfl (unknown _ (by decide))
    · exact absurd rfl (unknown _ (by decide))
    · rfl
  framed key mem := by
    obtain rfl | rfl | rfl := mem_keys.1 mem
    · rw [item_crate]
      infer_instance
    · rw [item_mappers]
      infer_instance
    · rw [item_collections]
      infer_instance
  refusal key mem := by
    obtain rfl | rfl | rfl := mem_keys.1 mem
    · rw [item_crate]
      exact ((own_string _).ofValue _).refusal
    · rw [item_mappers]
      exact ((own_flag _).ofValue _).refusal
    · rw [item_collections]
      exact ((own_string _).ofValue _).refusal

/-- What is one item of a structure's options, and what it says. -/
inductive Form : Trees → Option StructOption → Prop
  | crate {gap spelling : String} {behind : Trees} {text : String × String} {path : Path}
      (value : Text behind text) (read : Path.read? text.1 = some path) :
      Form (.leaf gap spelling (.ident "crate") :: behind) (some (.crate path.code))
  | mappers {gap spelling : String} {behind : Trees} {on : Bool} (flag : Flag behind on) :
      Form (.leaf gap spelling (.ident "mappers") :: behind) (some (.mappers on))
  | collections {gap spelling : String} {behind : Trees} {text : String × String}
      {library : Library} (value : Text behind text) (named : Library.ofName? text.1 = some library) :
      Form (.leaf gap spelling (.ident "collections") :: behind) (some (.collections library))
  | unknown {trees : Trees} (plain : Plain keys trees) : Form trees .none

theorem crateOf_eq_ok_iff {text : String × String} {known : Option StructOption} :
    crateOf text = .ok known ↔
      ∃ path, Path.read? text.1 = some path ∧ some (.crate path.code) = known := by
  rw [crateOf]
  cases Path.read? text.1 <;> simp

theorem collectionsOf_eq_ok_iff {text : String × String} {known : Option StructOption} :
    collectionsOf text = .ok known ↔
      ∃ library, Library.ofName? text.1 = some library ∧ some (.collections library) = known := by
  rw [collectionsOf, Library.named]
  cases Library.ofName? text.1 <;> simp [bind, Except.bind, pure, Except.pure]

theorem whole_iff {trees : Trees} {known : Option StructOption} :
    Whole item keys trees known ↔ Form trees known := by
  refine Options.whole_iff.trans ⟨?_, ?_⟩
  · rintro (⟨plain, rfl⟩ | ⟨key, mem, gap, spelling, behind, rfl, -, read⟩)
    · exact .unknown plain
    · obtain rfl | rfl | rfl := mem_keys.1 mem
      · rw [item_crate] at read
        obtain ⟨text, value, settled⟩ := ofValue_eq_ok_iff.1 read
        obtain ⟨path, spelled, rfl⟩ := crateOf_eq_ok_iff.1 settled
        exact .crate (string_eq_ok_iff.1 value) spelled
      · rw [item_mappers] at read
        obtain ⟨on, value, settled⟩ := ofValue_eq_ok_iff.1 read
        cases settled
        exact .mappers (flag_eq_ok_iff.1 value)
      · rw [item_collections] at read
        obtain ⟨text, value, settled⟩ := ofValue_eq_ok_iff.1 read
        obtain ⟨library, named, rfl⟩ := collectionsOf_eq_ok_iff.1 settled
        exact .collections (string_eq_ok_iff.1 value) named
  · rintro (⟨text, read⟩ | ⟨flag⟩ | ⟨text, named⟩ | ⟨plain⟩)
    · refine .inr ⟨_, mem_keys.2 (.inl rfl), _, _, _, rfl, text.ended, ?_⟩
      rw [item_crate]
      exact ofValue_eq_ok_iff.2 ⟨_, string_eq_ok_iff.2 text, crateOf_eq_ok_iff.2 ⟨_, read, rfl⟩⟩
    · refine .inr ⟨_, mem_keys.2 (.inr (.inl rfl)), _, _, _, rfl, flag.ended, ?_⟩
      rw [item_mappers]
      exact ofValue_eq_ok_iff.2 ⟨_, flag_eq_ok_iff.2 flag, rfl⟩
    · refine .inr ⟨_, mem_keys.2 (.inr (.inr rfl)), _, _, _, rfl, text.ended, ?_⟩
      rw [item_collections]
      exact ofValue_eq_ok_iff.2
        ⟨_, string_eq_ok_iff.2 text, collectionsOf_eq_ok_iff.2 ⟨_, named, rfl⟩⟩
    · exact .inl ⟨plain, rfl⟩

end StructOptions

namespace FieldOptions

def keys : List String :=
  ["default", "nullable", "check"]

theorem mem_keys {key : String} :
    key ∈ keys ↔ key = "default" ∨ key = "nullable" ∨ key = "check" := by
  simp [keys]

/-- A default is implicit unless an expression is assigned. -/
theorem toOption_default : (fun rest => (item (some "default") rest).toOption) = (do
    if ← sees (atPunct "=") then do
      discard tree
      let code ← leadingExpression
      return some (.default (.expression code))
    else return some (.default .implicit) : Reader (Option FieldOption)) := by
  funext rest
  change _ = (if atPunct "=" rest.trees then (do
      discard tree
      let code ← leadingExpression
      return some (.default (.expression code)))
    else return some (.default .implicit) : Reader (Option FieldOption)) rest
  rw [item]
  cases equals : atPunct "=" rest.trees with
  | false => rfl
  | true =>
      obtain ⟨trees, stray⟩ := rest
      obtain ⟨gap, spelling, value, rfl⟩ := atPunct_equals.1 equals
      have assigned : (do
          discard tree
          let code ← leadingExpression
          return some (.default (.expression code)) : Reader (Option FieldOption))
            ⟨.leaf gap spelling (.punct '=') :: value, stray⟩ =
          (leadingExpression ⟨value, stray⟩).map fun answer =>
            (some (.default (.expression answer.1)), answer.2) := by
        change (leadingExpression ⟨value, stray⟩).bind _ = _
        cases leadingExpression ⟨value, stray⟩ <;> rfl
      have dropped : dropTrees 1 ⟨.leaf gap spelling (.punct '=') :: value, stray⟩ =
        ⟨value, stray⟩ := rfl
      rw [if_pos rfl, if_pos rfl, assigned, dropped]
      cases leadingExpression ⟨value, stray⟩ <;> rfl

theorem item_nullable :
    item (some "nullable") = ofValue (flag "nullable") fun on => .ok (some (.nullable on)) :=
  rfl

theorem item_check :
    item (some "check") = ofValue (flag "check") fun on => .ok (some (.check on)) :=
  rfl

theorem malformed_of_default {rest : Remainder} {refusal : Refusal}
    (refused : item (some "default") rest = .error refusal) : refusal = .malformed := by
  rw [item] at refused
  split at refused
  · split at refused
    · cases refused
    · cases refused
      rfl
  · cases refused

instance : Vocabulary item keys where
  unknown {name} unknown rest := by
    unfold item
    split
    · exact absurd rfl (unknown _ (by decide))
    · exact absurd rfl (unknown _ (by decide))
    · exact absurd rfl (unknown _ (by decide))
    · rfl
  framed key mem := by
    obtain rfl | rfl | rfl := mem_keys.1 mem
    · rw [toOption_default]
      infer_instance
    · rw [item_nullable]
      infer_instance
    · rw [item_check]
      infer_instance
  refusal key mem := by
    obtain rfl | rfl | rfl := mem_keys.1 mem
    · intro _ _ _ _ _ _ _ _ _ one two
      rw [malformed_of_default one, malformed_of_default two]
    · rw [item_nullable]
      exact ((own_flag _).ofValue _).refusal
    · rw [item_check]
      exact ((own_flag _).ofValue _).refusal

/-- What is one item of a field's options, and what it says. -/
inductive Form : Trees → Option FieldOption → Prop
  | implicit {gap spelling : String} :
      Form [.leaf gap spelling (.ident "default")] (some (.default .implicit))
  | expression {gap spelling gap' spelling' : String} {value : Trees} {code : Code}
      (read : leadingExpression.all? value = some code) :
      Form (.leaf gap spelling (.ident "default") :: .leaf gap' spelling' (.punct '=') :: value)
        (some (.default (.expression code)))
  | nullable {gap spelling : String} {behind : Trees} {on : Bool} (flag : Flag behind on) :
      Form (.leaf gap spelling (.ident "nullable") :: behind) (some (.nullable on))
  | check {gap spelling : String} {behind : Trees} {on : Bool} (flag : Flag behind on) :
      Form (.leaf gap spelling (.ident "check") :: behind) (some (.check on))
  | unknown {trees : Trees} (plain : Plain keys trees) : Form trees .none

theorem default_eq_ok_iff {behind : Trees} {known : Option FieldOption} :
    item (some "default") ⟨behind, false⟩ = .ok (known, ⟨[], false⟩) ↔
      behind = [] ∧ known = some (.default .implicit) ∨
      ∃ gap spelling value code, behind = .leaf gap spelling (.punct '=') :: value ∧
        leadingExpression.all? value = some code ∧ known = some (.default (.expression code)) := by
  rw [item]
  cases equals : atPunct "=" behind with
  | false =>
      constructor
      · rintro ⟨⟩
        exact .inl ⟨rfl, rfl⟩
      · rintro (⟨rfl, rfl⟩ | ⟨gap, spelling, value, code, rfl, -⟩)
        · rfl
        · cases (atPunct_equals.2 ⟨_, _, _, rfl⟩).symm.trans equals
  | true =>
      obtain ⟨gap, spelling, value, rfl⟩ := atPunct_equals.1 equals
      have dropped : dropTrees 1 ⟨.leaf gap spelling (.punct '=') :: value, false⟩ =
        ⟨value, false⟩ := rfl
      rw [if_pos rfl, dropped]
      constructor
      · intro read
        split at read
        · next code left answer =>
          cases read
          exact .inr ⟨gap, spelling, value, code, rfl, all?_eq_some.2 answer, rfl⟩
        · cases read
      · rintro (⟨⟨⟩, -⟩ | ⟨gap, spelling, value, code, same, answer, rfl⟩)
        obtain ⟨-, rfl⟩ := List.cons.inj same
        rw [all?_eq_some.1 answer]

theorem whole_iff {trees : Trees} {known : Option FieldOption} :
    Whole item keys trees known ↔ Form trees known := by
  refine Options.whole_iff.trans ⟨?_, ?_⟩
  · rintro (⟨plain, rfl⟩ | ⟨key, mem, gap, spelling, behind, rfl, -, read⟩)
    · exact .unknown plain
    · obtain rfl | rfl | rfl := mem_keys.1 mem
      · obtain ⟨rfl, rfl⟩ | ⟨gap', spelling', value, code, rfl, whole, rfl⟩ :=
          default_eq_ok_iff.1 read
        · exact .implicit
        · exact .expression whole
      · rw [item_nullable] at read
        obtain ⟨on, value, settled⟩ := ofValue_eq_ok_iff.1 read
        cases settled
        exact .nullable (flag_eq_ok_iff.1 value)
      · rw [item_check] at read
        obtain ⟨on, value, settled⟩ := ofValue_eq_ok_iff.1 read
        cases settled
        exact .check (flag_eq_ok_iff.1 value)
  · rintro (_ | ⟨read⟩ | ⟨flag⟩ | ⟨flag⟩ | ⟨plain⟩)
    · exact .inr ⟨_, mem_keys.2 (.inl rfl), _, _, _, rfl, rfl, rfl⟩
    · refine .inr ⟨_, mem_keys.2 (.inl rfl), _, _, _, rfl, rfl, ?_⟩
      exact default_eq_ok_iff.2 (.inr ⟨_, _, _, _, rfl, read, rfl⟩)
    · refine .inr ⟨_, mem_keys.2 (.inr (.inl rfl)), _, _, _, rfl, flag.ended, ?_⟩
      rw [item_nullable]
      exact ofValue_eq_ok_iff.2 ⟨_, flag_eq_ok_iff.2 flag, rfl⟩
    · refine .inr ⟨_, mem_keys.2 (.inr (.inr rfl)), _, _, _, rfl, flag.ended, ?_⟩
      rw [item_check]
      exact ofValue_eq_ok_iff.2 ⟨_, flag_eq_ok_iff.2 flag, rfl⟩
    · exact .inl ⟨plain, rfl⟩

end FieldOptions
end StructBuilder
