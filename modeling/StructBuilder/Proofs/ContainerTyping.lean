import StructBuilder.Proofs.Typing

/-!
Types of the methods of containers, and with them of all methods: batches are looked at whole
before anything goes into the builder.
-/

namespace StructBuilder.Emit

open Spelling (Fallible IsMap IsSet Iterates Results Scope Typed brace listed ofVector paren words)

section

variable {context : Context} {plan : Plan}

/-! Fields of containers. -/

theorem generic_private {path : Code} {container : String}
    (written : path = context.crate ++ words [":", ":", "__private", ":", ":", container])
    (arguments : List Ty) :
    generic path arguments = Spelling.ofPrivate context container (arguments.map Ty.code) := by
  subst written
  simp only [generic, listed_eq, Spelling.ofPrivate, List.append_assoc]
  rfl

theorem isMap_storage {key value : Ty} (strategy : plan.strategy = .map key value) :
    IsMap context key.code value.code ((storage plan).code context) := by
  rw [storage, strategy]
  cases plan.features.library with
  | indexMap => exact .inl (generic_private rfl _)
  | fallback => exact .inr (generic_private rfl _)

theorem isSet_storage {element : Ty} (strategy : plan.strategy = .set element) :
    IsSet context element.code ((storage plan).code context) := by
  rw [storage, strategy]
  cases plan.features.library with
  | indexMap => exact .inl (generic_private rfl _)
  | fallback => exact .inr (generic_private rfl _)

theorem code_vector (element : Ty) :
    (Storage.vector element).code context = ofVector element.code := by
  have single : Code.commaSeparated false [element.code] = element.code := List.append_nil _
  simp only [Storage.code, generic, List.map_cons, List.map_nil, single, ofVector,
    List.append_assoc]
  rfl

theorem holds_of_list {element : Ty} (strategy : plan.strategy = .list element) :
    (fragments plan).Holds context (ofVector element.code) := by
  have held := holds_storage context plan
  rwa [storage, strategy, code_vector] at held

/-! Maps. -/

theorem returnError_eq (kind property : String) (key : Code) :
    Code.phrase "return" ++ ended (err (errorCode context kind (Code.text property) key)) =
      Spelling.returnError context kind property key := by
  have listed : listed [Code.text property, key] = Code.text property ++ (Code.comma ++ key) := by
    simp [listed, words, List.intercalate, Code.comma]
  simp only [ended, err, errorCode, Spelling.returnError, Spelling.error, listed, List.append_assoc]
  rfl

theorem code_rejectDuplicate (owner property : String) (staged : Bool) :
    (Statement.rejectDuplicate owner property staged).code context =
      words ["if", "self", ".", owner, ".", "contains_key"] ++ paren (words ["&", "key"]) ++
        (if staged then words ["|", "|", "staged", ".", "contains_key"] ++
          paren (words ["&", "key"]) else []) ++
        brace (Spelling.returnError context "duplicate_key" property
          (words ["&", "key"])) := by
  rw [← returnError_eq]
  cases staged <;> rfl

theorem code_removeEntry (owner property : String) :
    (Statement.removeEntry owner property).code context =
      words ["if", "self", ".", owner, ".", "shift_remove"] ++ paren (words ["key"]) ++
        words [".", "is_none"] ++ paren [] ++
        brace (Spelling.returnError context "missing_key" property (words ["key"])) := by
  rw [← returnError_eq]
  rfl

theorem has_entry {scope : Scope} {key value : Ty} (left : scope.Has "key" (givenType key))
    (right : scope.Has "value" (givenType value)) :
    (owning .value value (owning .key key scope)).Has "key" (.owned key.code) ∧
      (owning .value value (owning .key key scope)).Has "value" (.owned value.code) :=
  ⟨has_owning_of_ne (by decide) (has_owning_self left),
    has_owning_self (has_owning_of_ne (by decide) right)⟩

theorem typed_validateEntry {key value : Ty} (strategy : plan.strategy = .map key value)
    {returns : Code} (fallible : Fallible context returns) {scope : Scope} {staged : Bool}
    (left : scope.Has "key" (givenType key)) (right : scope.Has "value" (givenType value))
    (batch : staged = true → scope.Has "staged" (.owned ((storage plan).code context))) :
    Statement.AllTyped context plan returns scope (validateEntry plan.property key value staged)
      (asked plan.property ++ [.reads plan.property.name])
      (owning .value value (owning .key key scope)) := by
  let inside := owning .value value (owning .key key scope)
  have declared : (hook plan).parameters = [("_key", key), ("_value", value)] := by
    rw [hook, strategy]
  have given : (owning .key key scope).Has "value" (givenType value) :=
    has_owning_of_ne (by decide) right
  obtain ⟨first, second⟩ := has_entry left right
  have run : Statement.AllTyped context plan returns inside
      (runCheck plan.property [⟨.key, true, key⟩, ⟨.value, true, value⟩]) (asked plan.property)
      inside :=
    typed_runCheck declared (fun _ => fallible)
      (.cons (refers_borrowed first) (.cons (refers_borrowed second) .nil))
  have reject : Statement.AllTyped context plan returns inside
      [.rejectDuplicate plan.property.name plan.property.baseName staged]
      [.reads plan.property.name] inside := by
    cases staged with
    | false =>
        exact .single ((Typed.rejectDuplicate fallible (holds_storage context plan)
          (isMap_storage strategy) first).of_eq (code_rejectDuplicate _ _ false))
    | true =>
        have known : inside.Has "staged" (.owned ((storage plan).code context)) :=
          has_owning_of_ne (by decide) (has_owning_of_ne (by decide) (batch rfl))
        exact .single ((Typed.rejectRepeated fallible (holds_storage context plan)
          (isMap_storage strategy) first known).of_eq (code_rejectDuplicate _ _ true))
  exact (((typed_convertGiven left).append (typed_convertGiven given)).append run).append reject

theorem typed_putter {key value : Ty} (strategy : plan.strategy = .map key value) :
    (putter plan.property key value).Typed context (fragments plan)
      (actsOf plan (plan.property.method .put)) := by
  let returns := Returns.fallibleBuilder.code context
  let given := scopeOf [(.key, .given key), (.value, .given value)]
  let inside := owning .value value (owning .key key given)
  have left : given.Has "key" (givenType key) := has_cons_self _ _ _
  have right : given.Has "value" (givenType value) :=
    has_cons_of_ne (by decide) (has_cons_self _ _ _)
  have validated : Statement.AllTyped context plan returns given
      (validateEntry plan.property key value false)
      (asked plan.property ++ [.reads plan.property.name]) inside :=
    typed_validateEntry strategy fallible_builder left right
      fun staged => absurd staged Bool.false_ne_true
  obtain ⟨first, second⟩ := has_entry left right
  have stored : Statement.AllTyped context plan returns inside [.insertEntry plan.property.name]
      [.stores plan.property.name] inside :=
    .single ((Typed.insertEntry (holds_storage context plan) (isMap_storage strategy) first
      second).of_eq rfl)
  exact .of_body (by simp [actsOf, Property.method]) (validated.append stored) .okBuilder (.inl rfl)

theorem typed_bulkPutter {key value : Ty} (strategy : plan.strategy = .map key value) :
    (bulkPutter plan.property key value (storage plan)).Typed context (fragments plan)
      (actsOf plan (plan.property.method .putAll)) := by
  let returns := Returns.fallibleBuilder.code context
  let held := (storage plan).code context
  let given := scopeOf [(.entries, .entries key value)]
  let opened : Scope := ("staged", .owned held) :: given
  let entry : Scope := ("key", givenType key) :: ("value", givenType value) :: opened
  let inside := owning .value value (owning .key key entry)
  have left : entry.Has "key" (givenType key) := has_cons_self _ _ _
  have right : entry.Has "value" (givenType value) :=
    has_cons_of_ne (by decide) (has_cons_self _ _ _)
  have batch : entry.Has "staged" (.owned held) :=
    has_cons_of_ne (by decide) (has_cons_of_ne (by decide) (has_cons_self _ _ _))
  have validated : Statement.AllTyped context plan returns entry
      (validateEntry plan.property key value true)
      (asked plan.property ++ [.reads plan.property.name]) inside :=
    typed_validateEntry strategy fallible_builder left right fun _ => batch
  obtain ⟨first, second⟩ := has_entry left right
  have staged : inside.Has "staged" (.owned held) :=
    has_owning_of_ne (by decide) (has_owning_of_ne (by decide) batch)
  have stage : Statement.AllTyped context plan returns inside [.stageEntry] [] inside :=
    .single ((Typed.stageEntry staged (isMap_storage strategy) first second).of_eq rfl)
  have start : Typed context (fragments plan) returns given
      ((Statement.openStaged (storage plan)).code context) [] opened := by
    refine Typed.openStaged.of_eq ?_
    simp only [Statement.code, ended, List.append_assoc]
    rfl
  let round : List Act := asked plan.property ++ [.reads plan.property.name] ++ []
  have still : round.any Act.changes = false := by
    simp only [round, asked]
    cases plan.property.check <;> rfl
  have each : Typed context (fragments plan) returns opened
      ((Statement.eachEntry (validateEntry plan.property key value true ++ [.stageEntry])).code
        context) round opened :=
    (Typed.eachEntry (has_cons_of_ne (by decide) (has_cons_self _ _ _))
      (validated.append stage) still).of_eq rfl
  have commit : Statement.AllTyped context plan returns opened [.commitStaged plan.property.name]
      [.stores plan.property.name] opened :=
    .single ((Typed.commitEntries (holds_storage context plan) (isMap_storage strategy)
      (has_cons_self _ _ _)).of_eq rfl)
  exact .of_body (by simp [actsOf, Property.method, round]) (.cons start (.cons each commit))
    .okBuilder (.inl rfl)

theorem typed_entryRemover {key value : Ty} (strategy : plan.strategy = .map key value) :
    (entryRemover plan.property key).Typed context (fragments plan)
      (actsOf plan (plan.property.method .remove)) := by
  let given := scopeOf [(.key, .borrowed key)]
  have body : Statement.AllTyped context plan (Returns.fallibleBuilder.code context) given
      [.removeEntry plan.property.name plan.property.baseName] [.removes plan.property.name]
      given := by
    exact .single ((Typed.removeEntry fallible_builder (holds_storage context plan)
      (isMap_storage strategy) (has_cons_self _ _ _)).of_eq (code_removeEntry _ _))
  exact .of_body rfl body .okBuilder (.inl rfl)

theorem typed_emptier (items : String) :
    (emptier plan.property items).Typed context (fragments plan)
      (actsOf plan (plan.property.method .clear)) := by
  have body : Statement.AllTyped context plan (Returns.builder.code context) []
      [.empty plan.property.name] [.removes plan.property.name] [] :=
    .single (Typed.empty.of_eq rfl)
  exact .of_body rfl body .builder (.inl rfl)

/-! Sets and lists. -/

/-- The given elements, converted if they may have to be. -/
def iterated (element : Ty) : Code :=
  let elements := words ["elements", ".", "into_iter"] ++ paren []
  if element.isPrimitive then elements
  else elements ++ words [".", "map"] ++ paren (Spelling.converter element.code)

theorem iterates_iterated {scope : Scope} {element : Ty}
    (elements : scope.Has "elements" (.elements (givenType element))) :
    Iterates scope element.code (iterated element) := by
  unfold iterated
  cases primitive : element.isPrimitive with
  | true =>
      rw [givenType, if_pos primitive] at elements
      exact .plain elements
  | false => exact .converted elements (takes_givenType element)

theorem code_extendElements (owner : String) (element : Ty) :
    (Statement.extendElements owner element).code context =
      words ["self", ".", owner, ".", "extend"] ++ paren (iterated element) ++
        words [";"] :=
  rfl

theorem code_collectStaged (element : Ty) : (Statement.collectStaged element).code context =
    words ["let", "staged", ":"] ++ ofVector element.code ++ words ["="] ++ iterated element ++
      words [".", "collect"] ++ paren [] ++ words [";"] := by
  have written : (Statement.collectStaged element).code context =
      Code.phrase "let staged: ::std::vec::Vec<" ++ element.code ++ Code.phrase "> =" ++
        ended (call (iterated element) "collect" []) := rfl
  simp only [written, ended, call, ofVector, List.append_assoc]
  rfl

theorem code_removeFirst (owner : String) : (Statement.removeFirst owner).code context =
    words ["if", "let"] ++ Spelling.present (words ["index"]) ++
      words ["=", "self", ".", owner, ".", "iter"] ++ paren [] ++
      words [".", "position"] ++
      paren (words ["|", "existing", "|", "existing", "=", "=", "element"]) ++
      brace (words ["self", ".", owner, ".", "remove"] ++
        paren (words ["index"]) ++ words [";"]) := by
  have test : Code.phrase "|existing| existing == element" =
      words ["|", "existing", "|", "existing", "=", "=", "element"] := rfl
  simp only [Statement.code, test, ended, call, field, List.append_assoc]
  rfl

theorem typed_bulkAdder {element : Ty} (declared : (hook plan).parameters = [("_element", element)])
    (collection : IsSet context element.code ((storage plan).code context) ∨
      (storage plan).code context = ofVector element.code) :
    (bulkAdder plan.property element).Typed context (fragments plan)
      (actsOf plan (plan.property.method .addAll)) := by
  let returns := (checkedReturns plan.property).code context
  let given := scopeOf [(.elements, .elements element)]
  have iterates : Iterates given element.code (iterated element) :=
    iterates_iterated (has_cons_self _ _ _)
  cases checked : plan.property.check with
  | false =>
      have body : Statement.AllTyped context plan returns given
          (bulkAdder plan.property element).body [.stores plan.property.name] given := by
        simp only [bulkAdder, checked, Bool.false_eq_true, if_false]
        exact .single ((Typed.extendElements (holds_storage context plan) collection iterates).of_eq
          (code_extendElements _ _))
      exact .of_body (by simp [actsOf, Property.method, asked, checked]) body
        results_checkedOutcome (.inl rfl)
  | true =>
      let batch : Scope := ("staged", .owned (ofVector element.code)) :: given
      have staged : batch.Has "staged" (.owned (ofVector element.code)) := has_cons_self _ _ _
      have collect : Typed context (fragments plan) returns given
          ((Statement.collectStaged element).code context) [] batch :=
        (Typed.collectStaged iterates).of_eq (code_collectStaged element)
      have run : Statement.AllTyped context plan returns
          (("element", .reference element.code) :: batch)
          (runCheck plan.property [⟨.element, false, element⟩]) (asked plan.property) _ :=
        typed_runCheck declared fallible_checkedReturns
          (.cons (refers_reference (has_cons_self _ _ _)) .nil)
      have still : (asked plan.property).any Act.changes = false := by
        rw [asked, if_pos checked]
        rfl
      have each : Typed context (fragments plan) returns batch
          ((Statement.eachStaged (runCheck plan.property [⟨.element, false, element⟩])).code
            context) (asked plan.property) batch :=
        (Typed.eachStaged staged run still).of_eq rfl
      have commit : Statement.AllTyped context plan returns batch
          [.commitStaged plan.property.name] [.stores plan.property.name] batch :=
        .single ((Typed.commitElements (holds_storage context plan) collection staged).of_eq rfl)
      have body : Statement.AllTyped context plan returns given
          (bulkAdder plan.property element).body
          ([] ++ (asked plan.property ++ [.stores plan.property.name])) batch := by
        simp only [bulkAdder, checked, if_true]
        exact .cons collect (.cons each commit)
      exact .of_body (by simp [actsOf, Property.method]) body results_checkedOutcome (.inl rfl)

theorem typed_adder {element : Ty} (declared : (hook plan).parameters = [("_element", element)])
    (doc : String) {store : Statement}
    (stored : ∀ {returns : Code} {scope : Scope}, scope.Has "element" (.owned element.code) →
      Statement.AllTyped context plan returns scope [store] [.stores plan.property.name] scope) :
    (adder plan.property element doc store).Typed context (fragments plan)
      (actsOf plan (plan.property.method .add)) := by
  have given : Scope.Has (scopeOf [(.element, .given element)]) Local.element.ident
      (givenType element) := has_cons_self _ _ _
  have body : Statement.AllTyped context plan ((checkedReturns plan.property).code context) _
      (adder plan.property element doc store).body _ _ :=
    typed_takeOne declared given fun _ value => stored value
  exact .of_body (by simp [actsOf, Property.method]) body results_checkedOutcome (.inl rfl)

theorem typed_elementRemover {element : Ty} (doc : String) {remove : Statement}
    (removed : ∀ {returns : Code} {scope : Scope}, scope.Has "element" (.reference element.code) →
      Statement.AllTyped context plan returns scope [remove] [.removes plan.property.name] scope) :
    (elementRemover plan.property element doc remove).Typed context (fragments plan)
      (actsOf plan (plan.property.method .remove)) :=
  .of_body rfl (removed (has_cons_self _ _ _)) .builder (.inl rfl)

theorem typed_viewer (kind : plan.kind = .hasDefault) (order : String) {returns : Returns}
    (outcome : Results context (fragments plan) [] (words ["&", "self", ".", plan.property.name])
      (returns.code context) [.reads plan.property.name]) :
    (viewer plan.property order returns).Typed context (fragments plan)
      (actsOf plan plan.property.getter) :=
  .of_body (by simp [actsOf, Property.getter, kind]) .nil outcome (.inr rfl)

theorem typed_mapMethods {key value : Ty} (strategy : plan.strategy = .map key value) :
    ∀ method ∈ methods plan, method.Typed context (fragments plan) (actsOf plan method.name) := by
  have kind : plan.kind = .hasDefault := by rw [Plan.kind, strategy]
  intro method mem
  simp only [methods, strategy, mapMethods, List.mem_cons, List.not_mem_nil, or_false] at mem
  obtain rfl | rfl | rfl | rfl | rfl := mem
  · exact typed_putter strategy
  · exact typed_bulkPutter strategy
  · exact typed_entryRemover strategy
  · exact typed_emptier _
  · exact typed_viewer kind _ (.reference (holds_storage context plan))

theorem typed_setMethods {element : Ty} (strategy : plan.strategy = .set element) :
    ∀ method ∈ methods plan, method.Typed context (fragments plan) (actsOf plan method.name) := by
  have kind : plan.kind = .hasDefault := by rw [Plan.kind, strategy]
  have set : IsSet context element.code ((storage plan).code context) := isSet_storage strategy
  have declared : (hook plan).parameters = [("_element", element)] := by
    rw [hook, strategy]
  intro method mem
  simp only [methods, strategy, setMethods, List.mem_cons, List.not_mem_nil, or_false] at mem
  obtain rfl | rfl | rfl | rfl | rfl := mem
  · exact typed_adder declared _ fun value =>
      .single ((Typed.insertElement (holds_storage context plan) set value).of_eq rfl)
  · exact typed_bulkAdder declared (.inl set)
  · exact typed_elementRemover _ fun sought =>
      .single ((Typed.removeElement (holds_storage context plan) set sought).of_eq rfl)
  · exact typed_emptier _
  · exact typed_viewer kind _ (.reference (holds_storage context plan))

theorem typed_listMethods {element : Ty} (strategy : plan.strategy = .list element) :
    ∀ method ∈ methods plan, method.Typed context (fragments plan) (actsOf plan method.name) := by
  have kind : plan.kind = .hasDefault := by rw [Plan.kind, strategy]
  have vector : (storage plan).code context = ofVector element.code := by
    rw [storage, strategy, code_vector]
  have declared : (hook plan).parameters = [("_element", element)] := by
    rw [hook, strategy]
  intro method mem
  simp only [methods, strategy, listMethods, List.mem_cons, List.not_mem_nil, or_false] at mem
  obtain rfl | rfl | rfl | rfl | rfl := mem
  · exact typed_adder declared _ fun value =>
      .single ((Typed.pushElement (holds_of_list strategy) value).of_eq rfl)
  · exact typed_bulkAdder declared (.inr vector)
  · exact typed_elementRemover _ fun sought =>
      .single ((Typed.removeFirst (holds_of_list strategy) sought).of_eq
        (code_removeFirst _))
  · exact typed_emptier _
  · exact typed_viewer kind _ (.slice (holds_of_list strategy))

/-- Every emitted method is typed. -/
theorem typed_methods (context : Context) (plan : Plan) :
    ∀ method ∈ methods plan, method.Typed context (fragments plan) (actsOf plan method.name) := by
  cases strategy : plan.strategy with
  | scalar hasDefault => exact typed_valueMethods strategy
  | optional inner => exact typed_optionalMethods strategy
  | map key value => exact typed_mapMethods strategy
  | set element => exact typed_setMethods strategy
  | list element => exact typed_listMethods strategy

end

end StructBuilder.Emit
