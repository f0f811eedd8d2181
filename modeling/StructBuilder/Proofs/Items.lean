import StructBuilder.Proofs.Spelling

/-!
The items of a builder as they are written, in order.
-/

namespace StructBuilder.Emit

open Spelling (listed words)

/-! Lists. -/

theorem listed_eq (items : List Code) : Code.commaSeparated false items = listed items := by
  induction items with
  | nil => rfl
  | cons item rest ih =>
      cases rest with
      | nil => simp [Code.commaSeparated, listed, words, List.intercalate]
      | cons other more =>
          rw [Code.commaSeparated, ih]
          · simp [listed, words, List.intercalate, Code.comma]
          · exact nofun

theorem listed_trailing {items : List Code} (some : items ≠ []) :
    Code.commaSeparated true items = listed items ++ words [","] := by
  induction items with
  | nil => exact absurd rfl some
  | cons item rest ih =>
      cases rest with
      | nil => simp [Code.commaSeparated, listed, words, List.intercalate, Code.comma]
      | cons other more =>
          rw [Code.commaSeparated, ih nofun]
          · simp [listed, words, List.intercalate, Code.comma]
          · exact nofun

/-! Conditions. -/

namespace Builder

/-- The conditions that the type is declared under. -/
def ownConditions (builder : Builder) : Code :=
  Spelling.conditions builder.generics.conditions.predicates
    (if builder.generics.conditions.trailing then [","] else [])

/-- The builder has its check hooks. -/
def bound (builder : Builder) : Code :=
  words [builder.builderName] ++ builder.arguments ++ words [":", builder.checksName] ++
    builder.arguments

/-- The conditions of the implementations. -/
def implConditions (builder : Builder) : Code :=
  if builder.hasChecks then
    Spelling.conditions (builder.generics.conditions.predicates ++ [builder.bound]) []
  else builder.ownConditions

end Builder

theorem code_whereClause (clause : WhereClause) : clause.code =
    Spelling.conditions clause.predicates (if clause.trailing then [","] else []) := by
  unfold WhereClause.code Spelling.conditions
  cases predicates : clause.predicates with
  | nil => rfl
  | cons first rest =>
      simp only [List.isEmpty_cons, Bool.false_eq_true, if_false, List.append_assoc]
      cases clause.trailing with
      | true =>
          rw [listed_trailing (List.cons_ne_nil first rest)]
          rfl
      | false =>
          rw [listed_eq]
          exact congrArg (Code.name "where" ++ ·) (List.append_nil _).symm

theorem whereCode_own (builder : Builder) :
    builder.generics.whereCode = builder.ownConditions :=
  code_whereClause _

theorem whereCode_implGenerics (builder : Builder) :
    builder.implGenerics.whereCode = builder.implConditions := by
  have bound : builder.checksCondition = builder.bound := by
    simp only [Builder.checksCondition, Builder.bound, List.append_assoc]
    rfl
  unfold Builder.implGenerics Builder.implConditions
  cases builder.hasChecks with
  | false => exact whereCode_own builder
  | true =>
      rw [← bound]
      exact code_whereClause _

/-! Items. -/

namespace Builder

/-- The fields of the builder itself. -/
def cells (builder : Builder) : List Code :=
  builder.fragments.map (·.declarationCode builder.context) ++
    [words [trackerName, ":"] ++ builder.crate ++
      words [":", ":", "UnsetProperties", "<", builder.markersName, ">"]]

def parameters (builder : Builder) : Code :=
  builder.generics.parametersCode

/-- An implementation for the type of this name. -/
def implementing (builder : Builder) (subject : List String) (content : Code) : Code :=
  Spelling.implementation builder.parameters (words subject ++ builder.arguments)
    builder.implConditions content

/-- The functions of the builder's own implementation. -/
def functionsCode (builder : Builder) : Code :=
  Lifecycle.all.flatMap (·.code builder) ++
    builder.fragments.flatMap (fun fragments =>
      fragments.methods.flatMap (·.code builder.context)) ++
    builder.helpers.flatMap StaticHelper.code

/-- All items in order, with this text for the hooks in their trait. -/
def written (builder : Builder) (doc traitDoc : String) (hooks : Code) : Code :=
  Spelling.enumeration builder.markersName (builder.variants.map (·.1)) ++
  Spelling.naming builder.context builder.variants ++
  Spelling.declaration doc [Spelling.note "derive" ["Clone"]] builder.visibility "struct"
    builder.builderName builder.parameters builder.ownConditions
    (Spelling.terminated builder.cells) ++
  (if builder.hasChecks then
    Spelling.declaration traitDoc [] builder.visibility "trait" builder.checksName
      builder.parameters builder.ownConditions hooks
    else []) ++
  builder.implementing [builder.builderName] builder.functionsCode ++
  builder.implementing [":", ":", "core", ":", ":", "default", ":", ":", "Default", "for",
    builder.builderName] (Target.default.content builder) ++
  builder.implementing [builder.valueName] (Target.value.content builder)

end Builder

-- The phrase is cut character by character.
set_option maxRecDepth 2048 in
theorem phrase_derived :
    Code.phrase "Clone, Copy, Debug, PartialEq, Eq, PartialOrd, Ord, Hash" =
      words ["Clone", ",", "Copy", ",", "Debug", ",", "PartialEq", ",", "Eq", ",", "PartialOrd",
        ",", "Ord", ",", "Hash"] :=
  rfl

theorem code_markers (builder : Builder) (variants : List String) :
    (Item.markers variants).code builder = Spelling.enumeration builder.markersName variants := by
  have written : (Item.markers variants).code builder =
      attributeCode (Code.name "doc" ++ Code.parens (Code.name "hidden")) ++
        attributeCode (Code.name "allow" ++
          Code.parens (Code.phrase "dead_code, non_camel_case_types")) ++
        attributeCode (Code.name "derive" ++ Code.parens
          (Code.phrase "Clone, Copy, Debug, PartialEq, Eq, PartialOrd, Ord, Hash")) ++
        Code.name "enum" ++ Code.name builder.markersName ++
        Code.braces (Code.commaTerminated (variants.map Code.name)) := rfl
  rw [written, phrase_derived]
  rfl

theorem code_markerNames (builder : Builder) (variants : List (String × String)) :
    (Item.markerNames variants).code builder = Spelling.naming builder.context variants := by
  simp only [Item.code, Spelling.naming, List.append_assoc]
  rfl

theorem code_builder (builder : Builder) : ∃ doc,
    (Item.builder builder.generics).code builder =
      Spelling.declaration doc [Spelling.note "derive" ["Clone"]] builder.visibility "struct"
        builder.builderName builder.parameters builder.ownConditions
        (Spelling.terminated builder.cells) := by
  obtain ⟨doc, written⟩ : ∃ doc, (Item.builder builder.generics).code builder =
      Code.doc doc ++ attributeCode (Code.name "derive" ++ Code.parens (Code.phrase "Clone")) ++
        builder.visibility ++ Code.name "struct" ++ Code.name builder.builderName ++
        builder.parameters ++ builder.generics.whereCode ++
        Code.braces (Code.commaTerminated (builder.fragments.map (·.declarationCode builder.context)
          ++ [Code.name trackerName ++ Code.name ":" ++ builder.crate ++
            Code.phrase "::UnsetProperties<" ++ Code.name builder.markersName ++
              Code.name ">"])) := ⟨_, rfl⟩
  have tracker : Code.name trackerName ++ Code.name ":" ++ builder.crate ++
      Code.phrase "::UnsetProperties<" ++ Code.name builder.markersName ++ Code.name ">" =
      words [trackerName, ":"] ++ builder.crate ++
        words [":", ":", "UnsetProperties", "<", builder.markersName, ">"] := by
    simp only [List.append_assoc]
    rfl
  refine ⟨doc, ?_⟩
  rw [written, whereCode_own, tracker]
  simp only [Spelling.declaration, List.append_assoc]
  rfl

theorem code_checks (builder : Builder) : ∃ doc,
    (Item.checks builder.generics builder.hooks).code builder =
      Spelling.declaration doc [] builder.visibility "trait" builder.checksName builder.parameters
        builder.ownConditions (builder.hooks.flatMap (·.code builder.context)) := by
  obtain ⟨doc, written⟩ : ∃ doc, (Item.checks builder.generics builder.hooks).code builder =
      Code.doc doc ++ builder.visibility ++ Code.name "trait" ++ Code.name builder.checksName ++
        builder.parameters ++ builder.generics.whereCode ++
        Code.braces (builder.hooks.flatMap (·.code builder.context)) := ⟨_, rfl⟩
  refine ⟨doc, ?_⟩
  rw [written, whereCode_own]
  simp only [Spelling.declaration, List.append_assoc]
  rfl

theorem code_implementation (builder : Builder) (target : Target) :
    (Item.implementation builder.implGenerics target).code builder =
      Spelling.implementation builder.parameters (target.subject builder ++ builder.arguments)
        builder.implConditions (target.content builder) := by
  have parameters : builder.implGenerics.parametersCode = builder.parameters := by
    unfold Builder.implGenerics
    cases builder.hasChecks <;> rfl
  simp only [Item.code, whereCode_implGenerics, parameters, Spelling.implementation,
    List.append_assoc]
  rfl

theorem code_eq_written (builder : Builder) : ∃ doc traitDoc, builder.code =
    builder.written doc traitDoc (builder.hooks.flatMap (·.code builder.context)) := by
  obtain ⟨doc, struct⟩ := code_builder builder
  obtain ⟨traitDoc, trait⟩ := code_checks builder
  refine ⟨doc, traitDoc, ?_⟩
  rw [Builder.written, ← code_markers, ← code_markerNames, ← struct, ← trait]
  simp only [Builder.code, Builder.items, Builder.implementations, List.flatMap_append,
    List.flatMap_cons, List.map_cons, List.map_nil, List.flatMap_nil, code_implementation,
    List.append_assoc, List.append_nil]
  cases builder.hasChecks with
  | true =>
      simp only [if_true, List.flatMap_cons, List.flatMap_nil, List.append_nil]
      rfl
  | false =>
      simp only [Bool.false_eq_true, if_false, List.flatMap_nil]
      rfl

end StructBuilder.Emit
