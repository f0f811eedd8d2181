import StructBuilder.Proofs.Completeness
import StructBuilder.Proofs.Meaning
import StructBuilder.Proofs.Message

/-!
Where errors come from. A call, a merge or a build fails for one of few reasons: a hook has said
so, a key is there already or is not there, or something required is unset. All but the hook speak
of the type and its properties by the names that these were declared with, so their messages can
be read back.
-/

namespace StructBuilder

/-- An identifier without its prefix has none to lose. -/
theorem plainName_of_isIdentifier {name : String} (identifier : Unicode.isIdentifier name = true) :
    plainName name = name := by
  unfold plainName
  split
  · next rest text =>
    have sign := Unicode.isIdentifierPart_of_isIdentifier identifier '#' (by simp [text])
    exact absurd sign (by decide +kernel)
  · rfl

theorem isName_plainName {name : String} (lexed : Source.Names name) : IsName (plainName name) := by
  have identifier := Source.isIdentifier_plainName lexed
  rwa [IsName, plainName_of_isIdentifier identifier]

namespace Run

variable {V : Type} {machine : Machine V} {plans : List Plan} {plan : Plan} {state : State V}
  {cell : Cell V} {error : BuilderError}

namespace Machine

/-- The type and its properties go by names. -/
structure Speaks (machine : Machine V) (plans : List Plan) : Prop where
  typeName : IsName machine.typeName
  baseName : ∀ plan ∈ plans, IsName plan.property.baseName

theorem Emitted.speaks {blueprint : Blueprint} {library : Library}
    (emitted : machine.Emitted blueprint library) (name : Source.Names blueprint.name)
    (names : ∀ property ∈ blueprint.properties, Source.Names property.name) :
    machine.Speaks (blueprint.plans library) where
  typeName := by
    rw [Machine.typeName, emitted.builder]
    exact isName_plainName name
  baseName plan mem := by
    have known := List.mem_map_of_mem (f := (·.property)) mem
    rw [blueprint.map_property_plans] at known
    exact isName_plainName (names _ known)

/-- Why something that is done to a property fails. -/
inductive Fault (machine : Machine V) (plan : Plan) (state : State V) : BuilderError → Prop where
  | hook {values : List V} {error : BuilderError}
      (said : machine.verdict plan.property state values = .error error) :
      machine.Fault plan state error
  | present (key : V) :
      machine.Fault plan state (.duplicateKey plan.property.baseName (machine.debug key))
  | absent (key : V) :
      machine.Fault plan state (.missingKey plan.property.baseName (machine.debug key))
  | unset : machine.Fault plan state (.unset machine.typeName plan.property.baseName)

theorem bind_eq_error_iff {α β ε : Type} {result : Except ε α} {next : α → Except ε β} {error : ε} :
    result >>= next = .error error ↔
      result = .error error ∨ ∃ value, result = .ok value ∧ next value = .error error := by
  cases result <;> simp [bind, Except.bind]

theorem map_eq_error_iff {α β ε : Type} {result : Except ε α} {f : α → β} {error : ε} :
    result.map f = .error error ↔ result = .error error := by
  cases result <;> simp [Except.map]

theorem fault_of_verdicts {batch : List (List V)}
    (failed : machine.verdicts plan.property state batch = .error error) :
    machine.Fault plan state error := by
  induction batch with
  | nil => cases failed
  | cons values rest ih =>
      rw [verdicts, bind_eq_error_iff] at failed
      obtain said | ⟨_, _, later⟩ := failed
      · exact .hook said
      · exact ih later

variable [BEq V]

theorem fault_of_keyVerdict {staged : Cell V} {key : V}
    (failed : machine.keyVerdict plan.property cell staged key = .error error) :
    machine.Fault plan state error := by
  unfold keyVerdict at failed
  split at failed <;> cases failed
  exact .present key

theorem fault_of_entriesVerdict {staged : Cell V} {items : List (V × V)}
    (failed : machine.entriesVerdict plan.property state cell staged items = .error error) :
    machine.Fault plan state error := by
  induction items generalizing staged with
  | nil => cases failed
  | cons item rest ih =>
      rw [entriesVerdict, bind_eq_error_iff] at failed
      obtain said | ⟨_, _, failed⟩ := failed
      · exact .hook said
      · obtain there | ⟨_, _, later⟩ := bind_eq_error_iff.1 failed
        · exact fault_of_keyVerdict there
        · exact ih later

theorem fault_of_effect {verb : Verb} {arguments : List (Argument V)}
    (failed : machine.effect plan state cell verb arguments = .error error) :
    machine.Fault plan state error := by
  have assigned {given : Option V}
      (failed : machine.assigned plan.property state cell given = .error error) :
      machine.Fault plan state error :=
    fault_of_verdicts (map_eq_error_iff.1 failed)
  have entries {items : List (V × V)} {after : Cell V}
      (failed : (machine.entriesVerdict plan.property state cell (.ofStorage (Emit.storage plan))
        items).map (fun _ => after) = .error error) :
      machine.Fault plan state error :=
    fault_of_entriesVerdict (map_eq_error_iff.1 failed)
  have added {batch : List (List V)} {after : Cell V}
      (failed : (machine.verdicts plan.property state batch).map (fun _ => after) = .error error) :
      machine.Fault plan state error :=
    fault_of_verdicts (map_eq_error_iff.1 failed)
  have single {values : List V} {after : Cell V}
      (failed : (machine.verdict plan.property state values).map (fun _ => after) = .error error) :
      machine.Fault plan state error :=
    .hook (map_eq_error_iff.1 failed)
  unfold effect at failed
  dsimp only at failed
  split at failed
  · exact assigned failed
  · split at failed
    · exact assigned failed
    · cases failed
      exact .unset
  · exact assigned failed
  · split at failed
    · exact assigned failed
    · cases failed
  · exact entries failed
  · exact entries failed
  · split at failed <;> cases failed
    exact .absent _
  · exact single failed
  · exact single failed
  · exact added failed
  · exact added failed
  all_goals cases failed

theorem fault_of_contentVerdict {content : Content V}
    (failed : machine.contentVerdict plan state cell content = .error error) :
    machine.Fault plan state error := by
  cases content with
  | plain value => exact fault_of_verdicts failed
  | optional given => exact fault_of_verdicts failed
  | entries items => exact fault_of_entriesVerdict failed
  | elements items => exact fault_of_verdicts failed

theorem fault_of_takeIn {source : Source V}
    (failed : machine.takeIn source plan state = .error error) :
    machine.Fault plan state error := by
  unfold takeIn at failed
  split at failed
  · exact fault_of_contentVerdict (map_eq_error_iff.1 failed)
  · cases failed

omit [BEq V] in
theorem fault_of_viewed (failed : machine.viewed plan cell = .error error) :
    machine.Fault plan state error := by
  unfold viewed at failed
  split at failed <;> cases failed
  exact .unset

/-- Why anything that is done to a builder fails. -/
inductive Cause (machine : Machine V) (plans : List Plan) : BuilderError → Prop where
  | fault {plan : Plan} {state : State V} {error : BuilderError} (mem : plan ∈ plans)
      (fault : machine.Fault plan state error) : machine.Cause plans error
  | incomplete (state : State V) :
      machine.Cause plans (.incomplete machine.typeName (state.missing plans))

omit [BEq V] in
/-- What no hook has said is about names. -/
theorem Cause.named_or_said (cause : machine.Cause plans error) (speaks : machine.Speaks plans) :
    error.Named ∨ ∃ plan ∈ plans, ∃ state values,
      machine.verdict plan.property state values = .error error := by
  cases cause with
  | @fault plan state _ mem fault =>
      have named := speaks.baseName plan mem
      cases fault with
      | hook said => exact .inr ⟨plan, mem, state, _, said⟩
      | present key => exact .inl named
      | absent key => exact .inl named
      | unset => exact .inl ⟨speaks.typeName, List.forall_mem_singleton.2 named⟩
  | incomplete state =>
      refine .inl ⟨speaks.typeName, fun name missing => ?_⟩
      obtain ⟨plan, lacking, rfl⟩ := List.mem_map.1 missing
      exact speaks.baseName plan (List.mem_of_mem_filter lacking)

theorem cause_of_call (planned : machine.Planned plans) (consistent : state.Consistent plans)
    {fragments : Emit.Fragments} (known : fragments ∈ machine.builder.fragments)
    {method : Emit.Method} (mem : method ∈ fragments.methods) {arguments : List (Argument V)}
    (accepted : Argument.AcceptedBy method arguments)
    (failed : (machine.call fragments method.name arguments state).answer = .error error) :
    machine.Cause plans error := by
  rw [planned.fragments] at known
  obtain ⟨plan, here, rfl⟩ := List.mem_map.1 known
  obtain ⟨cell, found, _⟩ := consistent.cells plan here
  have ready := consistent.ready planned here found
  rcases name_of_mem_methods mem with ⟨getter, parameters⟩ | ⟨verb, mutator⟩
  · rw [getter, (Argument.acceptedBy_nil parameters).1 accepted, call_getter ready] at failed
    have fault : machine.Fault plan state error := fault_of_viewed failed
    exact .fault here fault
  · have settles := settles_call ready mem mutator accepted
    cases effect : machine.effect plan state cell verb arguments with
    | error said =>
        rw [effect] at settles
        cases settles with
        | refused answer unchanged =>
            obtain rfl := Except.error.inj (answer.symm.trans failed)
            exact .fault here (fault_of_effect effect)
    | ok after =>
        rw [effect] at settles
        cases settles with
        | stored answer stored => cases answer.symm.trans failed

theorem cause_of_merge (planned : machine.Planned plans) (consistent : state.Consistent plans)
    {source : Source V} (fits : source.Fits machine.builder plans)
    (failed : (machine.merge source state).answer = .error error) :
    machine.Cause plans error := by
  have outcome := congrArg Prod.fst (outcome_merge_eq planned fits consistent)
  have refused := map_eq_error_iff.1 (outcome.symm.trans failed)
  obtain ⟨before, plan, after, split, _, taken⟩ := absorb_eq_error_iff.1 (Prod.ext refused rfl)
  exact .fault (split ▸ List.mem_append_cons_self) (fault_of_takeIn taken)

theorem cause_of_build [Ord V] (planned : machine.Planned plans)
    (consistent : state.Consistent plans) (failed : machine.build state = .error error) :
    machine.Cause plans error := by
  rw [((consistent.build_eq_error_iff planned).1 failed).2]
  exact .incomplete state

end Machine

/-- A report on a builder has the error that the builder answered. -/
theorem Session.answer_of_replace (session : Session V) {position : Nat} {ran : Ran V}
    (failed : (session.replace position ran).1.error = some error) : ran.answer = .error error := by
  obtain ⟨answer, state, trace⟩ := ran
  cases answer with
  | ok given => cases failed
  | error said => exact congrArg Except.error (Option.some.inj failed)

namespace Session.Sound

variable [BEq V] [Ord V] {session next : Session V} {report : Report V}

/-- Every error that a session reports has its cause. -/
theorem cause (planned : machine.Planned plans) (sound : session.Sound machine) {step : Step V}
    (accepted : step.Accepted machine) (h : session.step? machine step = some (report, next))
    (failed : report.error = some error) : machine.Cause plans error := by
  have consistent {position : Nat} {state : State V}
      (found : session.builder? position = some state) : state.Consistent plans :=
    (sound.builders state (List.mem_of_getElem? found)).consistent planned
  have value {position : Nat} {built : Value V} (found : session.values[position]? = some built) :
      Source.Fits machine.builder plans (.value built) :=
    sound.values built (List.mem_of_getElem? found)
  cases step with
  | create | value =>
      cases h
      cases failed
  | clone position | clear position | clearPartial position | look position =>
      simp only [step?, Option.bind_eq_bind, Option.bind_eq_some_iff] at h
      obtain ⟨state, found, h⟩ := h
      cases h
      cases failed
  | call position name arguments =>
      simp only [step?, Option.bind_eq_bind, Option.bind_eq_some_iff] at h
      obtain ⟨state, found, ⟨fragments, named⟩, method, h⟩ := h
      cases h
      obtain ⟨known, mem, here⟩ := List.exists_of_findSome?_eq_some method
      obtain ⟨emitted, first, same⟩ := Option.map_eq_some_iff.1 here
      cases same
      have text : emitted.name.text = name := by simpa using List.find?_some first
      have inside := List.mem_of_find?_eq_some first
      exact Machine.cause_of_call planned (consistent found) mem inside
        (accepted _ mem _ inside text) (session.answer_of_replace failed)
  | build position =>
      simp only [step?, Option.bind_eq_bind, Option.bind_eq_some_iff] at h
      obtain ⟨state, found, h⟩ := h
      cases built : machine.build state with
      | error said =>
          rw [built] at h
          cases h
          obtain rfl := Option.some.inj failed
          exact Machine.cause_of_build planned (consistent found) built
      | ok result =>
          rw [built] at h
          cases h
          cases failed
  | mergeValue position source =>
      simp only [step?, Option.bind_eq_bind, Option.bind_eq_some_iff] at h
      obtain ⟨state, found, given, there, h⟩ := h
      cases h
      exact Machine.cause_of_merge planned (consistent found) (value there)
        (session.answer_of_replace failed)
  | mergeBuilder position source =>
      simp only [step?, Option.bind_eq_bind, Option.bind_eq_some_iff] at h
      obtain ⟨state, found, other, there, h⟩ := h
      cases h
      have fits : Source.Fits machine.builder plans (.builder other) := consistent there
      exact Machine.cause_of_merge planned (consistent found) fits
        (session.answer_of_replace failed)
  | fromValue position source =>
      simp only [step?, Option.bind_eq_bind, Option.bind_eq_some_iff] at h
      obtain ⟨given, there, h⟩ := h
      cases answer : (machine.fromValue given).answer with
      | error said =>
          rw [answer] at h
          cases h
          obtain rfl := Option.some.inj failed
          exact Machine.cause_of_merge planned (State.consistent_new planned) (value there) answer
      | ok _ =>
          rw [answer] at h
          cases h
          cases failed

/-- What a session of an accepted declaration reports is about names, unless a hook has said it. -/
theorem named_or_said {blueprint : Blueprint} {library : Library}
    (emitted : machine.Emitted blueprint library) (name : Source.Names blueprint.name)
    (names : ∀ property ∈ blueprint.properties, Source.Names property.name)
    (sound : session.Sound machine) {step : Step V} (accepted : step.Accepted machine)
    (h : session.step? machine step = some (report, next)) (failed : report.error = some error) :
    error.Named ∨ ∃ plan ∈ blueprint.plans library, ∃ state values,
      machine.verdict plan.property state values = .error error :=
  (sound.cause emitted.planned accepted h failed).named_or_said (emitted.speaks name names)

end Session.Sound

end Run
end StructBuilder
