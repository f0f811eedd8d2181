import StructBuilder.Proofs.VariantNames
import StructBuilder.Run.Error

/-!
What a message tells. Names hold neither blanks nor punctuation, so the first colon or quote
behind a name ends it and whatever comes then is free text; names of a list end at commas. How a
message goes on behind its first word tells what kind of error it is about. Nothing of an error is
left that its message does not show.
-/

namespace StructBuilder

/-! Names in a text. -/

/-- The name of a type or a property, raw or not. -/
def IsName (name : String) : Prop :=
  Unicode.isIdentifier (plainName name) = true

instance (name : String) : Decidable (IsName name) :=
  inferInstanceAs (Decidable (_ = true))

/-- The characters that names are set off by. -/
def marks : List Char :=
  [' ', ',', ':', '\'']

theorem not_isIdentifierPart_of_mem_marks {c : Char} (mark : c ∈ marks) :
    Unicode.isIdentifierPart c = false := by
  have all : (marks.all fun c => !Unicode.isIdentifierPart c) = true := by decide +kernel
  simpa using List.all_eq_true.1 all c mark

theorem IsName.not_mem {name : String} (isName : IsName name) {c : Char} (mark : c ∈ marks) :
    c ∉ name.toList := by
  have other := not_isIdentifierPart_of_mem_marks mark
  have parts := Unicode.isIdentifierPart_of_isIdentifier isName
  have outside {letters : List Char} (parts : ∀ d ∈ letters, Unicode.isIdentifierPart d = true) :
      c ∉ letters := fun mem => Bool.noConfusion (other.symm.trans (parts c mem))
  unfold plainName at parts
  split at parts
  · next rest text =>
    rw [String.toList_ofList] at parts
    rw [text, List.mem_cons, List.mem_cons, not_or, not_or]
    exact ⟨ne_of_mem_of_not_mem mark (by decide), ne_of_mem_of_not_mem mark (by decide),
      outside parts⟩
  · exact outside parts

theorem IsName.ne_empty {name : String} (isName : IsName name) : name ≠ "" := by
  rintro rfl
  exact absurd isName (by decide +kernel)

/-- A text is cut at the first mark in one way. -/
theorem append_cons_inj {mark : Char} {front other back rest : List Char} (plain : mark ∉ front)
    (also : mark ∉ other) :
    front ++ mark :: back = other ++ mark :: rest ↔ front = other ∧ back = rest := by
  refine ⟨fun same => ?_, fun ⟨front, back⟩ => front ▸ back ▸ rfl⟩
  have fronts : front = other := by
    rw [← Text.takeWhile_append_cons plain back, same, Text.takeWhile_append_cons also]
  rw [fronts, List.append_cancel_left_eq] at same
  exact ⟨fronts, (List.cons.inj same).2⟩

/-- A name is over where the text that follows it begins with a mark. -/
theorem IsName.append_inj {one other between first second : String} (named : IsName one)
    (also : IsName other) {mark : Char} (among : mark ∈ marks)
    (marked : between.toList.head? = some mark) :
    one ++ (between ++ first) = other ++ (between ++ second) ↔ one = other ∧ first = second := by
  obtain ⟨more, text⟩ := List.head?_eq_some_iff.1 marked
  rw [← String.toList_inj]
  simp only [String.toList_append, List.append_cancel_left_eq, text, List.cons_append,
    append_cons_inj (named.not_mem among) (also.not_mem among), String.toList_inj]

theorem IsName.framed_inj {one other front between first second : String} (named : IsName one)
    (also : IsName other) {mark : Char} (among : mark ∈ marks)
    (marked : between.toList.head? = some mark) :
    front ++ one ++ between ++ first = front ++ other ++ between ++ second ↔
      one = other ∧ first = second := by
  simp only [String.append_assoc, String.append_right_inj, named.append_inj also among marked]

/-! Names in a list. -/

/-- All names, each with what sets it off from a next one. -/
def terminated (names : List String) : List Char :=
  names.flatMap fun name => name.toList ++ [',', ' ']

theorem toList_intercalate_append {names : List String} (nonempty : names ≠ []) :
    (", ".intercalate names).toList ++ [',', ' '] = terminated names := by
  induction names with
  | nil => exact absurd rfl nonempty
  | cons name rest ih =>
      cases rest with
      | nil => simp [terminated]
      | cons second rest =>
          rw [terminated, List.flatMap_cons, ← terminated, ← ih (List.cons_ne_nil second rest)]
          simp

theorem terminated_inj {names others : List String} (named : ∀ name ∈ names, IsName name)
    (also : ∀ name ∈ others, IsName name) (same : terminated names = terminated others) :
    names = others := by
  induction names generalizing others with
  | nil =>
      cases others with
      | nil => rfl
      | cons other others => simp [terminated] at same
  | cons name names ih =>
      cases others with
      | nil => simp [terminated] at same
      | cons other others =>
          obtain ⟨first, named⟩ := List.forall_mem_cons.1 named
          obtain ⟨second, also⟩ := List.forall_mem_cons.1 also
          have comma : ',' ∈ marks := by decide
          simp only [terminated, List.flatMap_cons, List.append_assoc, List.cons_append,
            append_cons_inj (first.not_mem comma) (second.not_mem comma),
            String.toList_inj, List.cons.injEq, true_and] at same
          rw [same.1, ih named also same.2]

theorem intercalate_eq_empty_iff {names : List String} (named : ∀ name ∈ names, IsName name) :
    ", ".intercalate names = "" ↔ names = [] := by
  cases names with
  | nil => exact iff_of_true rfl rfl
  | cons name rest =>
      refine iff_of_false (fun empty => ?_) (List.cons_ne_nil name rest)
      have first := (named name List.mem_cons_self).ne_empty
      cases rest <;> simp_all

theorem intercalate_inj {names others : List String} (named : ∀ name ∈ names, IsName name)
    (also : ∀ name ∈ others, IsName name) :
    ", ".intercalate names = ", ".intercalate others ↔ names = others := by
  refine ⟨fun same => ?_, congrArg _⟩
  by_cases none : names = []
  · rw [none, String.intercalate_nil, eq_comm, intercalate_eq_empty_iff also] at same
    rw [none, same]
  · have some : others ≠ [] := by
      rwa [ne_eq, ← intercalate_eq_empty_iff also, ← same, intercalate_eq_empty_iff named]
    apply terminated_inj named also
    rw [← toList_intercalate_append none, ← toList_intercalate_append some, same]

/-! Messages. -/

namespace BuilderError

/-- The error is about a type and about properties that have names. -/
def Named : BuilderError → Prop
  | .incomplete typeName missing => IsName typeName ∧ ∀ name ∈ missing, IsName name
  | .duplicateKey property _ | .missingKey property _ | .validation property _ => IsName property

instance : (error : BuilderError) → Decidable error.Named
  | .incomplete _ _ => inferInstanceAs (Decidable (_ ∧ _))
  | .duplicateKey _ _ | .missingKey _ _ | .validation _ _ => inferInstanceAs (Decidable (IsName _))

/-- The kind of error that a message tells of, by its first words. -/
def kindOf (message : String) : String :=
  if "Key already ".toList <+: message.toList then "DuplicateKey"
  else if "Key not ".toList <+: message.toList then "MissingKey"
  else if "Validation ".toList <+: message.toList then "Validation"
  else "Incomplete"

section

variable {typeName property key text : String} {missing : List String}

@[simp] theorem message_incomplete : (incomplete typeName missing).message =
    typeName ++ ": not set: [" ++ ", ".intercalate missing ++ "]" :=
  rfl

@[simp] theorem message_duplicateKey : (duplicateKey property key).message =
    "Key already present in " ++ property ++ ": " ++ key :=
  rfl

@[simp] theorem message_missingKey : (missingKey property key).message =
    "Key not present in " ++ property ++ ": " ++ key :=
  rfl

@[simp] theorem message_validation : (validation property text).message =
    "Validation failed for '" ++ property ++ "': " ++ text :=
  rfl

/-- The first word of a message about a type ends with a colon. -/
theorem not_prefix_incomplete (named : IsName typeName) {word : List Char} (blank : ' ' ∉ word)
    (colon : ':' ∉ word) (more : List Char) :
    ¬word ++ ' ' :: more <+: (incomplete typeName missing).message.toList := by
  rintro ⟨rest, same⟩
  have plain : ' ' ∉ typeName.toList ++ [':'] := by
    simp [named.not_mem (show ' ' ∈ marks by decide)]
  have first : (incomplete typeName missing).message.toList = (typeName.toList ++ [':']) ++
      ' ' :: ("not set: [".toList ++ (", ".intercalate missing).toList ++ [']']) := by
    simp
  rw [first, List.append_assoc, List.cons_append, append_cons_inj blank plain] at same
  exact colon (by simp [same.1])

end

theorem kindOf_message {error : BuilderError} (named : error.Named) :
    kindOf error.message = error.kind := by
  cases error with
  | incomplete typeName missing =>
      have key (more : List Char) :
          ¬"Key".toList ++ ' ' :: more <+: (incomplete typeName missing).message.toList :=
        not_prefix_incomplete named.1 (by decide) (by decide) more
      have validation : ¬"Validation".toList ++ ' ' :: [] <+:
          (incomplete typeName missing).message.toList :=
        not_prefix_incomplete named.1 (by decide) (by decide) []
      exact (if_neg (key "already ".toList)).trans
        ((if_neg (key "not ".toList)).trans (if_neg validation))
  | duplicateKey property key => simp [kindOf, kind]
  | missingKey property key => simp [kindOf, kind]
  | validation property text => simp [kindOf, kind]

/-- Errors that speak of names are told apart by their messages. -/
theorem message_inj {error other : BuilderError} (named : error.Named) (also : other.Named) :
    error.message = other.message ↔ error = other := by
  refine ⟨fun same => ?_, congrArg message⟩
  have kinds : error.kind = other.kind := by
    rw [← kindOf_message named, same, kindOf_message also]
  have colon : ':' ∈ marks := by decide
  have quote : '\'' ∈ marks := by decide
  cases error with
  | incomplete typeName missing =>
      cases other with
      | incomplete otherName others =>
          simp only [message_incomplete, String.append_assoc] at same
          rw [named.1.append_inj also.1 colon rfl, String.append_left_inj,
            intercalate_inj named.2 also.2] at same
          rw [same.1, same.2]
      | duplicateKey | missingKey | validation => simp [kind] at kinds
  | duplicateKey property key =>
      cases other with
      | duplicateKey otherProperty otherKey =>
          rw [message_duplicateKey, message_duplicateKey,
            IsName.framed_inj named also colon rfl] at same
          rw [same.1, same.2]
      | incomplete | missingKey | validation => simp [kind] at kinds
  | missingKey property key =>
      cases other with
      | missingKey otherProperty otherKey =>
          rw [message_missingKey, message_missingKey,
            IsName.framed_inj named also colon rfl] at same
          rw [same.1, same.2]
      | incomplete | duplicateKey | validation => simp [kind] at kinds
  | validation property text =>
      cases other with
      | validation otherProperty otherText =>
          rw [message_validation, message_validation,
            IsName.framed_inj named also quote rfl] at same
          rw [same.1, same.2]
      | incomplete | duplicateKey | missingKey => simp [kind] at kinds

/-- Neither a raw name, nor a type called like the first word of another message, nor a key that
looks like the end of one makes a difference. -/
theorem message_inj_looking_alike :
    Named (.incomplete "Key" ["r#type", "_"]) ∧ Named (.duplicateKey "_" "Key: not set: []") ∧
    ((incomplete "Key" ["r#type", "_"]).message = (duplicateKey "_" "Key: not set: []").message ↔
      incomplete "Key" ["r#type", "_"] = duplicateKey "_" "Key: not set: []") :=
  ⟨by decide +kernel, by decide +kernel, message_inj (by decide +kernel) (by decide +kernel)⟩

-- What is no name may hold the text that sets off two names.
example : (incomplete "T" ["a, b"]).message = (incomplete "T" ["a", "b"]).message := by decide

end BuilderError

end StructBuilder
