import StructBuilder.Proofs.Build

/-!
What builders can come to. A state is reachable if calls, merges and resets lead to it
from a new builder, failed ones included; every builder of a session is in such a state
as long as its steps are given what their parameters take.
-/

namespace StructBuilder.Run

variable {V : Type} [BEq V]

/-- The states that operations lead to, whether they succeed or fail. -/
inductive Machine.Reachable (machine : Machine V) : State V → Prop where
  | new : machine.Reachable machine.new
  | call {state : State V} {fragments : Emit.Fragments} {method : Emit.Method}
      {arguments : List (Argument V)} (before : machine.Reachable state)
      (known : fragments ∈ machine.builder.fragments) (mem : method ∈ fragments.methods)
      (accepted : Argument.AcceptedBy method arguments) :
      machine.Reachable (machine.call fragments method.name arguments state).state
  | mergeValue {state : State V} {built : Value V} (before : machine.Reachable state)
      (fits : Value.Fits machine.builder built) :
      machine.Reachable (machine.merge (.value built) state).state
  | mergeBuilder {state other : State V} (before : machine.Reachable state)
      (source : machine.Reachable other) :
      machine.Reachable (machine.merge (.builder other) state).state
  | clear {state : State V} (before : machine.Reachable state) :
      machine.Reachable (machine.clear state)
  | clearPartial {state : State V} (before : machine.Reachable state) :
      machine.Reachable (machine.clearPartial state)

variable {machine : Machine V} {plans : List Plan} {state : State V}

theorem Machine.Reachable.consistent (planned : machine.Planned plans)
    (reachable : machine.Reachable state) : state.Consistent plans := by
  induction reachable with
  | new => exact State.consistent_new planned
  | call before known mem accepted ih =>
      rw [planned.fragments] at known
      obtain ⟨plan, here, rfl⟩ := List.mem_map.1 known
      exact ih.call planned here mem accepted
  | mergeValue before fits ih => exact ih.merge planned fits
  | mergeBuilder before source ih other => exact ih.merge planned other
  | clear before ih =>
      rw [ih.clear_eq_new planned]
      exact State.consistent_new planned
  | clearPartial before ih => exact ih.clearPartial planned

/-- Whatever holds of new builders and is kept by changes and partial resets holds of
every reachable state. -/
theorem Machine.Reachable.of_keeps {P : State V → Prop} (planned : machine.Planned plans)
    (keeps : machine.Keeps plans P) (new : P machine.new)
    (clearPartial : ∀ state : State V, state.Consistent plans → P state →
      P (machine.clearPartial state))
    (reachable : machine.Reachable state) : P state := by
  induction reachable with
  | new => exact new
  | @call state _ method arguments before known mem accepted ih =>
      rw [planned.fragments] at known
      obtain ⟨plan, here, rfl⟩ := List.mem_map.1 known
      have consistent := before.consistent planned
      obtain ⟨cell, found, _⟩ := consistent.cells plan here
      rcases state_call (consistent.ready planned here found) mem accepted with
        same | ⟨after, change, present, stored⟩
      · rwa [same]
      · rw [stored]
        exact keeps plan here state cell after consistent ih found change present
  | mergeValue before fits ih =>
      exact (before.consistent planned).merge_keeps planned keeps fits ih
  | mergeBuilder before source ih _ =>
      exact (before.consistent planned).merge_keeps planned keeps (source.consistent planned) ih
  | clear before _ =>
      rw [(before.consistent planned).clear_eq_new planned]
      exact new
  | clearPartial before ih => exact clearPartial _ (before.consistent planned) ih

/-! Sessions. -/

/-- Methods are given what their parameters take, and values are of the right type. -/
def Step.Accepted (machine : Machine V) : Step V → Prop
  | .call _ name arguments => ∀ fragments ∈ machine.builder.fragments,
      ∀ method ∈ fragments.methods, method.name.text = name →
        Argument.AcceptedBy method arguments
  | .value _ built => Value.Fits machine.builder built
  | _ => True

instance (machine : Machine V) (step : Step V) : Decidable (step.Accepted machine) :=
  match step with
  | .call _ name arguments => inferInstanceAs (Decidable (∀ fragments ∈ machine.builder.fragments,
      ∀ method ∈ fragments.methods, method.name.text = name →
        Argument.AcceptedBy method arguments))
  | .value _ built => inferInstanceAs (Decidable (Value.Fits machine.builder built))
  | .create | .clone _ | .build _ | .mergeValue _ _ | .mergeBuilder _ _ | .fromValue _ _
  | .clear _ | .clearPartial _ | .look _ => .isTrue trivial

/-- What is true of all builders and values of a session. -/
structure Session.Sound (machine : Machine V) (session : Session V) : Prop where
  builders : ∀ state ∈ session.builders, machine.Reachable state
  values : ∀ built ∈ session.values, Value.Fits machine.builder built

namespace Session.Sound

variable {session next : Session V} {report : Report V}

theorem start [Ord V] : (Session.start machine).Sound machine where
  builders := by
    intro state mem
    rw [List.mem_singleton.1 mem]
    exact .new
  values := by
    intro built mem
    cases mem

theorem appendBuilder (sound : session.Sound machine) (reachable : machine.Reachable state)
    (trace : Trace V) : (session.appendBuilder state trace).2.Sound machine where
  builders := by
    intro other mem
    rcases List.mem_append.1 mem with mem | mem
    · exact sound.builders other mem
    · exact List.mem_singleton.1 mem ▸ reachable
  values := sound.values

theorem appendValue (sound : session.Sound machine) {built : Value V}
    (fits : Value.Fits machine.builder built) (position : Nat) :
    (session.appendValue position built).2.Sound machine where
  builders := sound.builders
  values := by
    intro other mem
    rcases List.mem_append.1 mem with mem | mem
    · exact sound.values other mem
    · exact List.mem_singleton.1 mem ▸ fits

theorem replace (sound : session.Sound machine) {ran : Ran V}
    (reachable : machine.Reachable ran.state) (position : Nat) :
    (session.replace position ran).2.Sound machine where
  builders := by
    intro other mem
    rcases List.mem_or_eq_of_mem_set mem with mem | rfl
    · exact sound.builders other mem
    · exact reachable
  values := sound.values

variable [Ord V]

/-- Every step keeps a session sound. -/
theorem step (planned : machine.Planned plans) (sound : session.Sound machine) {step : Step V}
    (accepted : step.Accepted machine) (h : session.step? machine step = some (report, next)) :
    next.Sound machine := by
  have reachable {position : Nat} {state : State V}
      (found : session.builder? position = some state) : machine.Reachable state :=
    sound.builders state (List.mem_of_getElem? found)
  have value {position : Nat} {built : Value V} (found : session.values[position]? = some built) :
      Value.Fits machine.builder built :=
    sound.values built (List.mem_of_getElem? found)
  cases step with
  | create =>
      cases h
      exact sound.appendBuilder .new []
  | clone position =>
      simp only [step?, Option.bind_eq_bind, Option.bind_eq_some_iff] at h
      obtain ⟨state, found, h⟩ := h
      cases h
      exact sound.appendBuilder (reachable found) []
  | call position name arguments =>
      simp only [step?, Option.bind_eq_bind, Option.bind_eq_some_iff] at h
      obtain ⟨state, found, ⟨fragments, named⟩, method, h⟩ := h
      cases h
      obtain ⟨known, mem, here⟩ := List.exists_of_findSome?_eq_some method
      obtain ⟨emitted, first, same⟩ := Option.map_eq_some_iff.1 here
      cases same
      have text : emitted.name.text = name := by simpa using List.find?_some first
      have inside := List.mem_of_find?_eq_some first
      exact sound.replace
        (.call (reachable found) mem inside (accepted _ mem _ inside text)) position
  | build position =>
      simp only [step?, Option.bind_eq_bind, Option.bind_eq_some_iff] at h
      obtain ⟨state, found, h⟩ := h
      cases built : machine.build state with
      | error error =>
          rw [built] at h
          cases h
          exact sound
      | ok result =>
          rw [built] at h
          cases h
          have consistent := (reachable found).consistent planned
          exact sound.appendValue (fits_of_build consistent planned built) position
  | value position built =>
      cases h
      exact sound.appendValue accepted position
  | mergeValue position source =>
      simp only [step?, Option.bind_eq_bind, Option.bind_eq_some_iff] at h
      obtain ⟨state, found, given, there, h⟩ := h
      cases h
      exact sound.replace (.mergeValue (reachable found) (value there)) position
  | mergeBuilder position source =>
      simp only [step?, Option.bind_eq_bind, Option.bind_eq_some_iff] at h
      obtain ⟨state, found, other, there, h⟩ := h
      cases h
      exact sound.replace (.mergeBuilder (reachable found) (reachable there)) position
  | fromValue position source =>
      simp only [step?, Option.bind_eq_bind, Option.bind_eq_some_iff] at h
      obtain ⟨given, there, h⟩ := h
      have merged : machine.Reachable (machine.fromValue given).state :=
        .mergeValue .new (value there)
      cases answer : (machine.fromValue given).answer with
      | error error =>
          rw [answer] at h
          cases h
          exact sound
      | ok _ =>
          rw [answer] at h
          cases h
          exact sound.appendBuilder merged (machine.fromValue given).trace
  | clear position =>
      simp only [step?, Option.bind_eq_bind, Option.bind_eq_some_iff] at h
      obtain ⟨state, found, h⟩ := h
      cases h
      exact sound.replace (.clear (reachable found)) position
  | clearPartial position =>
      simp only [step?, Option.bind_eq_bind, Option.bind_eq_some_iff] at h
      obtain ⟨state, found, h⟩ := h
      cases h
      exact sound.replace (.clearPartial (reachable found)) position
  | look position =>
      simp only [step?, Option.bind_eq_bind, Option.bind_eq_some_iff] at h
      obtain ⟨state, found, h⟩ := h
      cases h
      exact sound.replace (reachable found) position

end Session.Sound

/-- Does the steps one after the other; one that refers to nothing is left out. -/
def Session.run (machine : Machine V) [Ord V] (session : Session V) (steps : List (Step V)) :
    Session V :=
  steps.foldl (fun session step => ((session.step? machine step).map (·.2)).getD session) session

/-- Every builder of a session is in a state that operations lead to. -/
theorem Session.Sound.run [Ord V] (planned : machine.Planned plans) {session : Session V}
    (sound : session.Sound machine) {steps : List (Step V)}
    (accepted : ∀ step ∈ steps, step.Accepted machine) :
    (session.run machine steps).Sound machine := by
  induction steps generalizing session with
  | nil => exact sound
  | cons first rest ih =>
      have next : (((session.step? machine first).map (·.2)).getD session).Sound machine := by
        cases h : session.step? machine first with
        | none => exact sound
        | some result => exact sound.step planned (accepted first List.mem_cons_self) h
      exact ih next fun step mem => accepted step (List.mem_cons_of_mem _ mem)

end StructBuilder.Run
