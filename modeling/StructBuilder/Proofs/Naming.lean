import Mathlib.Data.List.Pairwise
import StructBuilder.Proofs.Items
import StructBuilder.Proofs.Plan
import StructBuilder.Samples.Tally

/-!
Which names of an emitted builder coincide. A method is called by its verb and the name
of its field, a getter by the name alone, and only names of functions that every builder
has are kept from the getters. Everything else that can coincide is listed here, and
nothing but that does.
-/

namespace StructBuilder

/-! Names that are glued together. -/

namespace Verb

/-- The verb for batches whose word goes on from this one's. -/
def bulk? : Verb → Option Verb
  | .put => some .putAll
  | .add => some .addAll
  | _ => none

def letters : Verb → List Char
  | .set => ['s', 'e', 't']
  | .map => ['m', 'a', 'p']
  | .put => ['p', 'u', 't']
  | .putAll => ['p', 'u', 't', '_', 'a', 'l', 'l']
  | .add => ['a', 'd', 'd']
  | .addAll => ['a', 'd', 'd', '_', 'a', 'l', 'l']
  | .remove => ['r', 'e', 'm', 'o', 'v', 'e']
  | .clear => ['c', 'l', 'e', 'a', 'r']
  | .check => ['c', 'h', 'e', 'c', 'k']

theorem toList_word (verb : Verb) : verb.word.toList = verb.letters := by
  cases verb <;> decide

/-- The verb for one item. -/
def single : Verb → Verb
  | .putAll => .put
  | .addAll => .add
  | verb => verb

/-- The base with which the verb for one item makes the name that this verb makes. -/
def longer (base : String) : Verb → String
  | .putAll | .addAll => "all_" ++ base
  | _ => base

/-- The verb for one item that has these letters. -/
def ofLetters? (letters : List Char) : Option Verb :=
  [set, map, put, add, remove, clear, check].find? (·.letters == letters)

theorem ofLetters?_single (verb : Verb) : ofLetters? verb.single.letters = some verb.single := by
  cases verb <;> rfl

theorem plain_single (verb : Verb) : ∀ c ∈ verb.single.letters, (c != '_') = true := by
  cases verb <;> simp [single, letters]

end Verb

namespace MethodName

theorem toList_text_action (verb : Verb) (base : String) :
    (action verb base).text.toList = verb.letters ++ '_' :: base.toList := by
  simp [text, verb.toList_word]

@[simp] theorem plainName_text_action (verb : Verb) (base : String) :
    plainName (action verb base).text = (action verb base).text := by
  unfold plainName
  rw [toList_text_action]
  cases verb <;> rfl

theorem toList_text_single (verb : Verb) (base : String) : (action verb base).text.toList =
    verb.single.letters ++ '_' :: (verb.longer base).toList := by
  rw [toList_text_action]
  cases verb <;> simp [Verb.single, Verb.longer, Verb.letters]

/-- What stands before the first underscore of a name tells the verb for one item. -/
theorem ofLetters?_text (verb : Verb) (base : String) :
    Verb.ofLetters? ((action verb base).text.toList.takeWhile (· != '_')) = some verb.single := by
  rw [toList_text_single, List.takeWhile_append_of_pos verb.plain_single,
    List.takeWhile_cons_of_neg (by decide), List.append_nil, Verb.ofLetters?_single]

theorem text_action_eq_iff_single {verb other : Verb} {base rest : String} :
    (action verb base).text = (action other rest).text ↔
      verb.single = other.single ∧ verb.longer base = other.longer rest := by
  constructor
  · intro same
    have verbs : verb.single = other.single := by
      rw [← Option.some_inj, ← ofLetters?_text verb base, same, ofLetters?_text]
    rw [← String.toList_inj, toList_text_single, toList_text_single, verbs,
      List.append_cancel_left_eq, List.cons.injEq, String.toList_inj] at same
    exact ⟨verbs, same.2⟩
  · rintro ⟨verbs, bases⟩
    rw [← String.toList_inj, toList_text_single, toList_text_single, verbs, bases]

/-- Two actions have one name if they are the same, or one is a batch and the base of the
other goes on with the rest of its word. -/
theorem text_action_eq_iff {verb other : Verb} {base rest : String} :
    (action verb base).text = (action other rest).text ↔
      (verb = other ∧ base = rest) ∨ (verb.bulk? = some other ∧ base = "all_" ++ rest) ∨
        (other.bulk? = some verb ∧ rest = "all_" ++ base) := by
  rw [text_action_eq_iff_single]
  cases verb <;> cases other <;> simp [Verb.single, Verb.longer, Verb.bulk?, eq_comm]

/-- Of the functions that every builder has, one is called like a method could be. -/
theorem text_action_eq_ident_iff {verb : Verb} {base : String} {function : Emit.Lifecycle} :
    (action verb base).text = function.ident ↔
      verb = .clear ∧ base = "partial" ∧ function = .clearPartial := by
  constructor
  · intro same
    have front := ofLetters?_text verb base
    rw [same] at front
    cases function with
    | clear =>
        have parted := congrArg String.toList same
        rw [toList_text_single] at parted
        have mem : '_' ∈ Emit.Lifecycle.clear.ident.toList := by simp [← parted]
        exact absurd mem (by decide)
    | clearPartial =>
        have name : (action verb base).text = (action .clear "partial").text := same
        obtain ⟨verbs, bases⟩ := text_action_eq_iff_single.1 name
        cases verb with
        | clear => exact ⟨rfl, bases, rfl⟩
        | _ => cases verbs
    -- No other name begins with the word of a verb.
    | _ => exact absurd front nofun
  · rintro ⟨rfl, rfl, rfl⟩
    decide

theorem text_action_ne_helper (verb : Verb) (base : String) (helper : Emit.StaticHelper) :
    (action verb base).text ≠ helper.ident := by
  intro same
  have front := ofLetters?_text verb base
  rw [same] at front
  cases helper <;> exact absurd front nofun

theorem text_action_ne_base (verb : Verb) (base : String) : (action verb base).text ≠ base := by
  intro same
  have lengths := congrArg String.length same
  simp [text] at lengths

end MethodName

namespace Plan

/-- The verbs of the methods that a property gets besides its getter. -/
def verbs (plan : Plan) : List Verb :=
  match plan.strategy with
  | .scalar _ | .optional _ => if plan.features.mappers then [.set, .map] else [.set]
  | .map _ _ => [.put, .putAll, .remove, .clear]
  | .set _ | .list _ => [.add, .addAll, .remove, .clear]

theorem names_methods (plan : Plan) :
    (Emit.methods plan).map (·.name) =
      plan.verbs.map plan.property.method ++ [plan.property.getter] := by
  unfold Emit.methods verbs
  cases plan.strategy with
  | scalar hasDefault => cases hasDefault <;> cases plan.features.mappers <;> rfl
  | optional inner => cases plan.features.mappers <;> rfl
  | _ => rfl

theorem name_of_mem (plan : Plan) {method : Emit.Method} (mem : method ∈ Emit.methods plan) :
    (∃ verb, method.name = plan.property.method verb) ∨
      method.name = plan.property.getter := by
  have named : method.name ∈ plan.verbs.map plan.property.method ++ [plan.property.getter] :=
    plan.names_methods ▸ List.mem_map_of_mem mem
  rcases List.mem_append.1 named with named | named
  · obtain ⟨verb, _, same⟩ := List.mem_map.1 named
    exact .inl ⟨verb, same.symm⟩
  · exact .inr (List.mem_singleton.1 named)

theorem nodup_verbs (plan : Plan) : plan.verbs.Nodup := by
  unfold verbs
  cases plan.strategy <;> cases plan.features.mappers <;> simp

theorem nodup_names_methods (plan : Plan) : ((Emit.methods plan).map (·.name)).Nodup := by
  have actions : (plan.verbs.map plan.property.method).Nodup :=
    plan.nodup_verbs.map fun _ _ same => (MethodName.action.inj same).1
  rw [names_methods, List.nodup_append]
  refine ⟨actions, List.nodup_singleton _, fun name mem getter here => ?_⟩
  obtain ⟨verb, _, rfl⟩ := List.mem_map.1 mem
  rw [List.mem_singleton.1 here]
  exact nofun

/-- The plain names of a property's methods. -/
def functionNames (plan : Plan) : List String :=
  plan.verbs.map (fun verb => (plan.property.method verb).text) ++ [plan.property.baseName]

/-- The getter of one property is called like another method of the other one. -/
def Shadows (plan other : Plan) : Prop :=
  ∃ verb ∈ other.verbs, plan.property.baseName = (other.property.method verb).text

/-- A method of one property is called like a method for batches of the other one. -/
def Blurs (plan other : Plan) : Prop :=
  plan.property.baseName = "all_" ++ other.property.baseName ∧
    ∃ verb ∈ plan.verbs, ∃ bulk ∈ other.verbs, verb.bulk? = some bulk

theorem mem_functionNames {plan : Plan} {name : String} :
    name ∈ plan.functionNames ↔
      (∃ verb ∈ plan.verbs, (plan.property.method verb).text = name) ∨
        name = plan.property.baseName := by
  simp [functionNames]

theorem ne_all_append (base : String) : base ≠ "all_" ++ base := by
  intro same
  have lengths := congrArg String.length same
  simp at lengths

theorem not_shadows_self (plan : Plan) : ¬plan.Shadows plan := by
  rintro ⟨verb, _, same⟩
  exact MethodName.text_action_ne_base verb _ same.symm

theorem not_blurs_self (plan : Plan) : ¬plan.Blurs plan :=
  fun blurs => ne_all_append _ blurs.1

theorem nodup_functionNames (plan : Plan) : plan.functionNames.Nodup := by
  refine List.nodup_append.2 ⟨?_, by simp, ?_⟩
  · refine plan.nodup_verbs.map fun verb other same => ?_
    rcases MethodName.text_action_eq_iff.1 same with ⟨rfl, _⟩ | ⟨_, same⟩ | ⟨_, same⟩
    · rfl
    · exact absurd same (ne_all_append _)
    · exact absurd same (ne_all_append _)
  · intro name mem getter here
    obtain ⟨verb, _, rfl⟩ := List.mem_map.1 mem
    rw [List.mem_singleton.1 here]
    exact MethodName.text_action_ne_base verb _

/-- Two properties share a name if a getter is called like an action, or an action like an
action on batches. -/
theorem not_disjoint_iff {plan other : Plan}
    (apart : plan.property.baseName ≠ other.property.baseName) :
    ¬List.Disjoint plan.functionNames other.functionNames ↔
      (plan.Shadows other ∨ plan.Blurs other) ∨ other.Shadows plan ∨ other.Blurs plan := by
  simp only [List.disjoint_iff_ne, not_forall, not_not, mem_functionNames]
  constructor
  · rintro ⟨name, here, _, there, rfl⟩
    obtain ⟨verb, mine, rfl⟩ | rfl := here
    · obtain ⟨action, yours, same⟩ | same := there
      · rcases MethodName.text_action_eq_iff.1 same.symm with
          ⟨_, same⟩ | ⟨goes, same⟩ | ⟨goes, same⟩
        · exact absurd same apart
        · exact .inl (.inr ⟨same, verb, mine, action, yours, goes⟩)
        · exact .inr (.inr ⟨same, action, yours, verb, mine, goes⟩)
      · exact .inr (.inl ⟨verb, mine, same.symm⟩)
    · obtain ⟨action, yours, same⟩ | same := there
      · exact .inl (.inl ⟨action, yours, same.symm⟩)
      · exact absurd same apart
  · rintro ((⟨verb, mem, same⟩ | ⟨same, verb, mine, bulk, yours, goes⟩) |
      ⟨verb, mem, same⟩ | ⟨same, verb, mine, bulk, yours, goes⟩)
    · exact ⟨_, .inr rfl, _, .inl ⟨verb, mem, rfl⟩, same⟩
    · exact ⟨_, .inl ⟨verb, mine, rfl⟩, _, .inl ⟨bulk, yours, rfl⟩,
        MethodName.text_action_eq_iff.2 (.inr (.inl ⟨goes, same⟩))⟩
    · exact ⟨_, .inl ⟨verb, mem, rfl⟩, _, .inr rfl, same.symm⟩
    · exact ⟨_, .inl ⟨bulk, yours, rfl⟩, _, .inl ⟨verb, mine, rfl⟩,
        MethodName.text_action_eq_iff.2 (.inr (.inr ⟨goes, same⟩))⟩

theorem nodup_flatMap_functionNames {plans : List Plan}
    (distinct : (plans.map (·.property.baseName)).Nodup) :
    (plans.flatMap functionNames).Nodup ↔
      ∀ plan ∈ plans, ∀ other ∈ plans, ¬plan.Shadows other ∧ ¬plan.Blurs other := by
  rw [List.nodup_flatMap]
  constructor
  · rintro ⟨_, disjoint⟩ plan mem other others
    by_cases same : plan = other
    · subst same
      exact ⟨not_shadows_self plan, not_blurs_self plan⟩
    · have apart : plan.property.baseName ≠ other.property.baseName :=
        fun eq => same (List.inj_on_of_nodup_map distinct mem others eq)
      have : Std.Symm (Function.onFun List.Disjoint functionNames) :=
        ⟨fun _ _ => List.disjoint_symm⟩
      have free : List.Disjoint plan.functionNames other.functionNames :=
        disjoint.forall mem others same
      have shares := (not_congr (not_disjoint_iff apart)).1 (not_not.2 free)
      exact ⟨fun shadows => shares (.inl (.inl shadows)), fun blurs => shares (.inl (.inr blurs))⟩
  · intro free
    refine ⟨fun plan _ => nodup_functionNames plan, ?_⟩
    refine (List.pairwise_map.1 distinct).imp_of_mem fun {plan other} mem others apart => ?_
    by_contra shares
    obtain (shadows | blurs) | shadows | blurs := (not_disjoint_iff apart).1 shares
    · exact (free plan mem other others).1 shadows
    · exact (free plan mem other others).2 blurs
    · exact (free other others plan mem).1 shadows
    · exact (free other others plan mem).2 blurs

end Plan

/-! The names in emitted code. -/

namespace Emit

open Code (name)

/-- The code of a function of this name. -/
def Declares (function : String) (code : Code) : Prop :=
  ∃ lead signature, code = lead ++ name "fn" ++ name function ++ signature

theorem declares_lifecycle (builder : Builder) (function : Lifecycle) :
    Declares function.ident (function.code builder) := by
  have keywords : Code.phrase "pub fn" = name "pub" ++ name "fn" := rfl
  rw [Lifecycle.code, keywords]
  exact ⟨docLines (function.docs builder.typeName) ++
    (if function == .new then mustUse else []) ++ name "pub", _,
    by simp only [List.append_assoc]; rfl⟩

theorem declares_method (context : Context) (method : Method) :
    Declares method.name.text (method.code context) := by
  have keywords : Code.phrase "pub fn" = name "pub" ++ name "fn" := rfl
  rw [Method.code, keywords]
  exact ⟨method.docs.flatMap Code.doc ++ name "pub", _, by simp only [List.append_assoc]; rfl⟩

theorem declares_helper (helper : StaticHelper) : Declares helper.ident helper.code := by
  have keyword : Code.phrase "fn" = name "fn" := rfl
  cases helper <;>
    (rw [StaticHelper.code, keyword]; simp only [List.append_assoc]; exact ⟨[], _, rfl⟩)

theorem forall₂_declares {α : Type} {items : List α} {ident : α → String} {code : α → Code}
    (declares : ∀ item ∈ items, Declares (ident item) (code item)) :
    List.Forall₂ Declares (items.map ident) (items.map code) := by
  rw [List.forall₂_map_left_iff, List.forall₂_map_right_iff]
  exact List.forall₂_same.2 declares

/-- What the names of a builder stand for: the functions of its own implementation, and the
fields of its structure. -/
structure Builder.DeclaresNames (builder : Builder) : Prop where
  code : ∃ doc traitDoc hooks, builder.code = builder.written doc traitDoc hooks
  functions : ∃ functions : List Code, builder.functionsCode = functions.flatten ∧
    List.Forall₂ Declares builder.functionNames functions
  fields : List.Forall₂ (fun field code => ∃ type, code = name field ++ name ":" ++ type)
    builder.fieldNames builder.cells

theorem declares_content (builder : Builder) :
    ∃ functions : List Code, builder.functionsCode = functions.flatten ∧
      List.Forall₂ Declares builder.functionNames functions := by
  refine ⟨Lifecycle.all.map (·.code builder) ++
    builder.fragments.flatMap (fun fragments => fragments.methods.map (·.code builder.context)) ++
    builder.helpers.map StaticHelper.code, ?_, ?_⟩
  · simp only [Builder.functionsCode, List.flatten_append, List.flatMap,
      List.flatten_flatten, List.map_map, Function.comp_def]
  · have lifecycle : List.Forall₂ Declares (Lifecycle.all.map Lifecycle.ident)
        (Lifecycle.all.map (·.code builder)) :=
      forall₂_declares fun function _ => declares_lifecycle builder function
    have helpers : List.Forall₂ Declares (builder.helpers.map StaticHelper.ident)
        (builder.helpers.map StaticHelper.code) :=
      forall₂_declares fun helper _ => declares_helper helper
    have methods : List.Forall₂ Declares
        ((builder.fragments.flatMap (·.methods)).map (·.name.text))
        ((builder.fragments.flatMap (·.methods)).map (·.code builder.context)) :=
      forall₂_declares fun method _ => declares_method builder.context method
    rw [List.map_flatMap, List.map_flatMap] at methods
    exact List.rel_append (List.rel_append lifecycle methods) helpers

theorem declares_fields (builder : Builder) :
    List.Forall₂ (fun field code => ∃ type, code = name field ++ name ":" ++ type)
      builder.fieldNames builder.cells := by
  have cells : List.Forall₂ (fun field code => ∃ type, code = name field ++ name ":" ++ type)
      (builder.fragments.map (·.field))
      (builder.fragments.map (·.declarationCode builder.context)) := by
    rw [List.forall₂_map_left_iff, List.forall₂_map_right_iff]
    exact List.forall₂_same.2 fun fragments _ => ⟨_, rfl⟩
  exact List.rel_append cells (.cons ⟨_, by simp only [List.append_assoc]; rfl⟩ .nil)

theorem declaresNames (builder : Builder) : builder.DeclaresNames where
  code :=
    have ⟨doc, traitDoc, code⟩ := code_eq_written builder
    ⟨doc, traitDoc, _, code⟩
  functions := declares_content builder
  fields := declares_fields builder

end Emit

/-! Whole builders. -/

/-- A name of a builder that stands for two things. -/
inductive Clash (plans : List Plan) : Prop where
  /-- A getter that is called like a method of another property. -/
  | getter {plan other : Plan} (mem : plan ∈ plans) (others : other ∈ plans)
      (shadows : plan.Shadows other)
  /-- A method that is called like the method for batches of another property. -/
  | bulk {plan other : Plan} (mem : plan ∈ plans) (others : other ∈ plans)
      (blurs : plan.Blurs other)
  /-- A method that is called like the partial reset. -/
  | partialClear {plan : Plan} (mem : plan ∈ plans) (clears : .clear ∈ plan.verbs)
      (same : plan.property.baseName = "partial")
  /-- A getter that is called like a static helper. -/
  | helper {plan : Plan} (mem : plan ∈ plans) {helper : Emit.StaticHelper}
      (needed : helper ∈ Emit.helpers plans) (same : plan.property.baseName = helper.ident)
  /-- A field that is called like the tracker. -/
  | tracker {plan : Plan} (mem : plan ∈ plans) (same : plan.property.baseName = Emit.trackerName)

namespace Property

theorem unreserved_of_read {field : Field} {property : Property} (h : read field = .ok property) :
    property.baseName ∉ reservedNames := by
  obtain ⟨options, _, h⟩ := read_eq_ok_iff.1 h
  obtain ⟨name, _, free, _, _, rfl⟩ := ofField_eq_ok_iff.1 h
  exact fun mem => Bool.false_ne_true (free.symm.trans (List.contains_iff_mem.2 mem))

end Property

namespace Blueprint

variable {item : Item} {blueprint : Blueprint} {library : Library}

/-- No getter is called like a function that every builder has. -/
theorem unreserved_of_ofItem (accepted : ofItem item = .ok blueprint) {plan : Plan}
    (mem : plan ∈ blueprint.plans library) :
    plan.property.baseName ∉ Emit.Lifecycle.all.map Emit.Lifecycle.ident := by
  have known : plan.property ∈ blueprint.properties :=
    blueprint.map_property_plans library ▸ List.mem_map_of_mem mem
  obtain ⟨properties, read, eq⟩ := properties_of_ofItem accepted
  obtain ⟨original, here, same⟩ := Property.mem_disambiguate (eq ▸ known)
  obtain ⟨field, found⟩ := read original here
  have free : original.baseName ∉ Property.reservedNames := Property.unreserved_of_read found
  rwa [same]

theorem map_baseName_plans (blueprint : Blueprint) (library : Library) :
    (blueprint.plans library).map (·.property.baseName) =
      blueprint.properties.map (·.baseName) := by
  rw [← blueprint.map_property_plans library, List.map_map]
  rfl

theorem plain_functionNames (blueprint : Blueprint) (library : Library) :
    (Emit.Builder.ofBlueprint blueprint library).functionNames.map plainName =
      Emit.Lifecycle.all.map Emit.Lifecycle.ident ++
        (blueprint.plans library).flatMap Plan.functionNames ++
          (Emit.helpers (blueprint.plans library)).map Emit.StaticHelper.ident := by
  have methods (plan : Plan) :
      (Emit.methods plan).map (fun method => plainName method.name.text) = plan.functionNames := by
    have names := congrArg (List.map fun name => plainName name.text) plan.names_methods
    simp only [List.map_map, List.map_append, Function.comp_def, Property.method,
      MethodName.plainName_text_action] at names
    exact names
  have helpers (helper : Emit.StaticHelper) : plainName helper.ident = helper.ident := by
    cases helper <;> decide
  simp only [Emit.Builder.functionNames, Emit.Builder.ofBlueprint, Emit.Builder.ofPlans,
    List.map_append, List.map_flatMap, List.flatMap_map, List.map_map, Function.comp_def, helpers]
  simp only [Emit.fragments, methods]
  rfl

theorem plain_fieldNames (blueprint : Blueprint) (library : Library) :
    (Emit.Builder.ofBlueprint blueprint library).fieldNames.map plainName =
      (blueprint.plans library).map (·.property.baseName) ++ [Emit.trackerName] := by
  simp only [Emit.Builder.fieldNames, Emit.Builder.ofBlueprint, Emit.Builder.ofPlans,
    List.map_append, List.map_map]
  rfl

theorem nodup_helpers (plans : List Plan) :
    ((Emit.helpers plans).map Emit.StaticHelper.ident).Nodup := by
  have different : ([Emit.StaticHelper.immutableMap, .immutableCollection].map
      Emit.StaticHelper.ident).Nodup := by decide
  exact different.sublist (List.filter_sublist.map _)

theorem ident_ne_helper (function : Emit.Lifecycle) (helper : Emit.StaticHelper) :
    function.ident ≠ helper.ident := by
  cases function <;> cases helper <;> decide

/-- A method is called like a function of the builder only if it is the partial reset. -/
theorem ident_mem_flatMap_iff (accepted : ofItem item = .ok blueprint) :
    (∃ function ∈ Emit.Lifecycle.all.map Emit.Lifecycle.ident,
      function ∈ (blueprint.plans library).flatMap Plan.functionNames) ↔
      ∃ plan ∈ blueprint.plans library, .clear ∈ plan.verbs ∧
        plan.property.baseName = "partial" := by
  constructor
  · rintro ⟨name, mem, here⟩
    obtain ⟨plan, known, named⟩ := List.mem_flatMap.1 here
    obtain ⟨verb, yours, rfl⟩ | rfl := Plan.mem_functionNames.1 named
    · obtain ⟨function, _, same⟩ := List.mem_map.1 mem
      obtain ⟨rfl, base, _⟩ := MethodName.text_action_eq_ident_iff.1 same.symm
      exact ⟨plan, known, yours, base⟩
    -- here the reserved names do their work, as they do nowhere else
    · exact absurd mem (unreserved_of_ofItem accepted known)
  · rintro ⟨plan, known, clears, base⟩
    refine ⟨Emit.Lifecycle.clearPartial.ident, by decide, List.mem_flatMap.2 ⟨plan, known, ?_⟩⟩
    exact Plan.mem_functionNames.2 (.inl ⟨.clear, clears,
      MethodName.text_action_eq_ident_iff.2 ⟨rfl, base, rfl⟩⟩)

/-- A method is called like a static helper only if it is a getter. -/
theorem helper_mem_flatMap_iff {plans : List Plan} {helper : Emit.StaticHelper} :
    helper.ident ∈ plans.flatMap Plan.functionNames ↔
      ∃ plan ∈ plans, plan.property.baseName = helper.ident := by
  rw [List.mem_flatMap]
  refine exists_congr fun plan => and_congr_right fun _ => ?_
  rw [Plan.mem_functionNames, eq_comm (a := helper.ident)]
  refine or_iff_right ?_
  rintro ⟨verb, _, same⟩
  exact MethodName.text_action_ne_helper verb _ helper same

theorem nodup_functionNames_iff (accepted : ofItem item = .ok blueprint)
    (distinct : (blueprint.properties.map (·.baseName)).Nodup) :
    ((Emit.Builder.ofBlueprint blueprint library).functionNames.map plainName).Nodup ↔
      (∀ plan ∈ blueprint.plans library, ∀ other ∈ blueprint.plans library,
        ¬plan.Shadows other ∧ ¬plan.Blurs other) ∧
      (¬∃ plan ∈ blueprint.plans library, .clear ∈ plan.verbs ∧
        plan.property.baseName = "partial") ∧
      ∀ helper ∈ Emit.helpers (blueprint.plans library),
        ¬∃ plan ∈ blueprint.plans library, plan.property.baseName = helper.ident := by
  have lifecycle : (Emit.Lifecycle.all.map Emit.Lifecycle.ident).Nodup := by decide
  have bases := blueprint.map_baseName_plans library ▸ distinct
  rw [plain_functionNames, List.nodup_append, List.nodup_append,
    Plan.nodup_flatMap_functionNames bases, ← ident_mem_flatMap_iff accepted]
  simp only [← helper_mem_flatMap_iff]
  constructor
  · rintro ⟨⟨_, free, apart⟩, _, others⟩
    refine ⟨free, ?_, ?_⟩
    · rintro ⟨name, function, method⟩
      exact apart name function name method rfl
    · intro helper needed method
      exact others _ (List.mem_append_right _ method) _ (List.mem_map_of_mem needed) rfl
  · rintro ⟨free, partialClear, helpers⟩
    refine ⟨⟨lifecycle, free, ?_⟩, nodup_helpers _, ?_⟩
    · rintro name function _ method rfl
      exact partialClear ⟨name, function, method⟩
    · rintro name mem _ there rfl
      obtain ⟨helper, needed, rfl⟩ := List.mem_map.1 there
      rcases List.mem_append.1 mem with function | method
      · obtain ⟨function, _, same⟩ := List.mem_map.1 function
        exact ident_ne_helper function helper same
      · exact helpers helper needed method

/-- The names that an emitted builder declares are distinct unless one of the listed clashes
occurs. -/
theorem nodup_names_iff (accepted : ofItem item = .ok blueprint)
    (distinct : (blueprint.properties.map (·.baseName)).Nodup) :
    let builder := Emit.Builder.ofBlueprint blueprint library
    builder.DeclaresNames ∧
      ((builder.functionNames.map plainName).Nodup ∧ (builder.fieldNames.map plainName).Nodup ↔
        ¬Clash (blueprint.plans library)) := by
  have bases := blueprint.map_baseName_plans library ▸ distinct
  have fields : ((Emit.Builder.ofBlueprint blueprint library).fieldNames.map plainName).Nodup ↔
      ∀ plan ∈ blueprint.plans library, plan.property.baseName ≠ Emit.trackerName := by
    simp [plain_fieldNames, List.nodup_append, bases]
  refine ⟨Emit.declaresNames _, ?_⟩
  rw [nodup_functionNames_iff accepted distinct, fields]
  constructor
  · rintro ⟨⟨free, partialClear, helpers⟩, tracker⟩ clash
    cases clash with
    | getter mem others shadows => exact (free _ mem _ others).1 shadows
    | bulk mem others blurs => exact (free _ mem _ others).2 blurs
    | partialClear mem clears same => exact partialClear ⟨_, mem, clears, same⟩
    | helper mem needed same => exact helpers _ needed ⟨_, mem, same⟩
    | tracker mem same => exact tracker _ mem same
  · intro free
    refine ⟨⟨?_, ?_, ?_⟩, ?_⟩
    · intro plan mem other others
      exact ⟨fun shadows => free (.getter mem others shadows),
        fun blurs => free (.bulk mem others blurs)⟩
    · rintro ⟨plan, mem, clears, same⟩
      exact free (.partialClear mem clears same)
    · rintro helper needed ⟨plan, mem, same⟩
      exact free (.helper mem needed same)
    · intro plan mem same
      exact free (.tracker mem same)

theorem no_clash_tally : ¬Clash (Tally.blueprint.plans .indexMap) :=
  (nodup_names_iff Tally.accepted Tally.emitted.distinct).2.1 (by decide +kernel)

/-- A property of what is derived of a source can be decided. -/
theorem exists_of_read {source : String} {p : Blueprint → Prop} [DecidablePred p]
    (holds : ((Blueprint.read source).toOption.any fun blueprint => decide (p blueprint)) = true) :
    ∃ blueprint, Blueprint.read source = .ok blueprint ∧ p blueprint := by
  cases answer : Blueprint.read source with
  | error _ => simp [answer, Except.toOption] at holds
  | ok blueprint =>
      rw [answer, Except.toOption, Option.any_some, decide_eq_true_iff] at holds
      exact ⟨blueprint, rfl, holds⟩

/-- The getter of a field may be called like the setter of the field before it. -/
theorem getter_called_like_setter :
    ∃ blueprint, Blueprint.read "struct S \x7b x: u8, set_x: u8 \x7d" = .ok blueprint ∧
      (blueprint.properties.map (·.baseName)).Nodup ∧
      ¬((Emit.Builder.ofBlueprint blueprint .indexMap).functionNames.map plainName).Nodup :=
  exists_of_read (by decide +kernel)

end Blueprint
end StructBuilder
