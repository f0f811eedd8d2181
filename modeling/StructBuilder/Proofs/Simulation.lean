import StructBuilder.Proofs.Lockstep
import StructBuilder.Proofs.Reachable

/-!
Sessions of two machines in lockstep. Step by step they report the same, and whatever a
session shows of builders that hold the same is shown by both.
-/

namespace StructBuilder.Run

open Emit (methods storage)

variable {V : Type}

/-- What a step comes to: the builder to look at, the error, and the value it made. -/
abbrev Result (V : Type) := Nat × Option BuilderError × Option (Value V)

def Report.result (report : Report V) : Result V :=
  (report.builder, report.error, report.value)

/-- The machine with the builder of another blueprint. -/
def Machine.rebuilt (machine : Machine V) (blueprint : Blueprint) (library : Library) : Machine V :=
  { machine with builder := .ofBlueprint blueprint library }

variable [BEq V]

/-- What becomes of a session: after each step its result, if the step was possible, and
what is to be seen of the session. -/
def Session.transcript [Ord V] {α : Type} (machine : Machine V) (view : Session V → α) :
    Session V → List (Step V) → List (Option (Result V) × α)
  | _, [] => []
  | session, step :: rest =>
      match session.step? machine step with
      | none => (none, view session) :: transcript machine view session rest
      | some (report, next) => (some report.result, view next) :: transcript machine view next rest

/-- Sessions whose builders hold the same. -/
structure Session.Twins (machine : Machine V) (plans others : List Plan)
    (session echo : Session V) : Prop where
  builders : List.Forall₂ (State.Twins plans others) session.builders echo.builders
  values : echo.values = session.values
  fits : ∀ built ∈ session.values, Value.Fits machine.builder built

variable {machine twin : Machine V} {plans others : List Plan} {state reflected : State V}
  {session echo : Session V}

/-! Options side by side. -/

section

variable {α β γ δ : Type} {R : α → β → Prop} {S : γ → δ → Prop}

omit [BEq V] in
theorem rel_bind {one : Option α} {other : Option β} {f : α → Option γ} {g : β → Option δ}
    (rel : Option.Rel R one other) (next : ∀ a b, R a b → Option.Rel S (f a) (g b)) :
    Option.Rel S (one >>= f) (other >>= g) := by
  cases rel with
  | none => exact .none
  | some holds => exact next _ _ holds

omit [BEq V] in
theorem rel_map {one : Option α} {other : Option β} {f : α → γ} {g : β → δ}
    (rel : Option.Rel R one other) (next : ∀ a b, R a b → S (f a) (g b)) :
    Option.Rel S (one.map f) (other.map g) := by
  cases rel with
  | none => exact .none
  | some holds => exact .some (next _ _ holds)

omit [BEq V] in
theorem rel_getElem? {as : List α} {bs : List β} (all : List.Forall₂ R as bs) (position : Nat) :
    Option.Rel R as[position]? bs[position]? := by
  induction all generalizing position with
  | nil => exact .none
  | cons first _ ih =>
      cases position with
      | zero => exact .some first
      | succ position => exact ih position

omit [BEq V] in
theorem rel_find? {as : List α} {bs : List β} {p : α → Bool} {q : β → Bool}
    (all : List.Forall₂ (fun a b => R a b ∧ q b = p a) as bs) :
    Option.Rel (fun a b => R a b ∧ p a = true) (as.find? p) (bs.find? q) := by
  induction all with
  | nil => exact .none
  | @cons a b _ _ first _ ih =>
      rw [List.find?_cons, List.find?_cons, first.2]
      cases chosen : p a with
      | true => exact .some ⟨first.1, chosen⟩
      | false => exact ih

omit [BEq V] in
theorem rel_findSome? {as : List α} {bs : List β} {f : α → Option γ} {g : β → Option δ}
    (all : List.Forall₂ (fun a b => Option.Rel S (f a) (g b)) as bs) :
    Option.Rel S (as.findSome? f) (bs.findSome? g) := by
  induction all with
  | nil => exact .none
  | @cons a b _ _ first _ ih =>
      rw [List.findSome?_cons, List.findSome?_cons]
      generalize f a = one at first
      generalize g b = other at first
      cases first with
      | none => exact ih
      | some holds => exact .some holds

omit [BEq V] in
theorem forall₂_set {as : List α} {bs : List β} (all : List.Forall₂ R as bs) (position : Nat)
    {a : α} {b : β} (holds : R a b) : List.Forall₂ R (as.set position a) (bs.set position b) := by
  induction all generalizing position with
  | nil => exact .nil
  | cons first rest ih =>
      cases position with
      | zero => exact .cons holds rest
      | succ position => exact .cons first (ih position)

end

/-! Steps. -/

/-- Both steps are done, with the same result, or none of them. -/
def Session.Together (machine : Machine V) (plans others : List Plan) :
    Option (Report V × Session V) → Option (Report V × Session V) → Prop :=
  Option.Rel fun done echoed =>
    echoed.1.result = done.1.result ∧ Session.Twins machine plans others done.2 echoed.2

namespace Session.Twins

variable {ran echoed : Ran V}

theorem start [Ord V] (lockstep : machine.Lockstep twin plans others) :
    Session.Twins machine plans others (Session.start machine) (Session.start twin) where
  builders := .cons lockstep.new .nil
  values := rfl
  fits := by
    intro built mem
    cases mem

theorem appendBuilder (twins : Session.Twins machine plans others session echo)
    (states : State.Twins plans others state reflected) (trace trace' : Trace V) :
    Session.Together machine plans others (some (session.appendBuilder state trace))
      (some (echo.appendBuilder reflected trace')) := by
  refine .some ⟨?_, List.rel_append twins.builders (.cons states .nil), twins.values, twins.fits⟩
  exact congrArg (·, none, none) twins.builders.length_eq.symm

theorem appendValue (twins : Session.Twins machine plans others session echo) {built : Value V}
    (fits : Value.Fits machine.builder built) (position : Nat) :
    Session.Together machine plans others (some (session.appendValue position built))
      (some (echo.appendValue position built)) := by
  refine .some ⟨rfl, twins.builders, congrArg (· ++ [built]) twins.values, ?_⟩
  intro other mem
  rcases List.mem_append.1 mem with mem | mem
  · exact twins.fits other mem
  · exact List.mem_singleton.1 mem ▸ fits

theorem replace (twins : Session.Twins machine plans others session echo)
    (echoes : Ran.Echoes plans others ran echoed) (position : Nat) :
    Session.Together machine plans others (some (session.replace position ran))
      (some (echo.replace position echoed)) := by
  refine .some ⟨?_, forall₂_set twins.builders position echoes.states, twins.values, twins.fits⟩
  have answer := echoes.answer
  unfold Session.replace Report.result
  cases here : ran.answer <;> cases there : echoed.answer <;> rw [here, there] at answer
  all_goals cases answer
  all_goals rfl

theorem reset (twins : Session.Twins machine plans others session echo)
    (states : State.Twins plans others state reflected) (position : Nat) :
    Session.Together machine plans others (some (session.reset position state))
      (some (echo.reset position reflected)) := by
  have echoes : Ran.Echoes plans others ⟨.ok .builder, state, []⟩ ⟨.ok .builder, reflected, []⟩ :=
    ⟨rfl, states⟩
  exact twins.replace echoes position

end Session.Twins

/-- One name stands for methods that match. -/
inductive Machine.Named (plans others : List Plan) (name : String) :
    Emit.Fragments × MethodName → Emit.Fragments × MethodName → Prop where
  | method {plan other : Plan} {method offered : Emit.Method} (mem : plan ∈ plans)
      (mem' : other ∈ others) (pair : plan.Matches other) (here : method ∈ methods plan)
      (there : offered ∈ methods other) (matched : Method.Matches method offered)
      (named : method.name.text = name) :
      Machine.Named plans others name (Emit.fragments plan, method.name)
        (Emit.fragments other, offered.name)

namespace Machine.Lockstep

theorem find?_method (lockstep : machine.Lockstep twin plans others) (name : String) :
    Option.Rel (Machine.Named plans others name)
      (machine.builder.fragments.findSome? fun fragments =>
        (fragments.methods.find? (·.name.text == name)).map fun found => (fragments, found.name))
      (twin.builder.fragments.findSome? fun fragments =>
        (fragments.methods.find? (·.name.text == name)).map fun found =>
          (fragments, found.name)) := by
  rw [lockstep.planned.fragments, lockstep.also.fragments]
  apply rel_findSome?
  rw [List.forall₂_map_left_iff, List.forall₂_map_right_iff]
  refine (forall₂_and_mem lockstep.pairs).imp fun plan other ⟨mem, mem', pair⟩ => ?_
  have found := rel_find? (p := fun method : Emit.Method => method.name.text == name)
    (q := fun offered : Emit.Method => offered.name.text == name)
    ((forall₂_and_mem (methods_match pair)).imp fun _ _ both => ⟨both, by rw [both.2.2.name]⟩)
  exact rel_map found fun _ _ ⟨⟨here, there, matched⟩, named⟩ =>
    .method mem mem' pair here there matched (beq_iff_eq.1 named)

variable [Ord V]

/-- Steps go together as long as they are given what their parameters take. -/
theorem step (lockstep : machine.Lockstep twin plans others)
    (twins : Session.Twins machine plans others session echo) {step : Step V}
    (accepted : step.Accepted machine) :
    Session.Together machine plans others (session.step? machine step) (echo.step? twin step) := by
  have builder (position : Nat) :
      Option.Rel (State.Twins plans others) (session.builder? position) (echo.builder? position) :=
    rel_getElem? twins.builders position
  have value (position : Nat) : Option.Rel (fun built given => given = built ∧
      Value.Fits machine.builder built) session.values[position]? echo.values[position]? := by
    rw [twins.values]
    cases found : session.values[position]? with
    | none => exact .none
    | some built => exact .some ⟨rfl, twins.fits built (List.mem_of_getElem? found)⟩
  cases step with
  | create => exact twins.appendBuilder lockstep.new [] []
  | clone position =>
      exact rel_bind (builder position) fun _ _ states => twins.appendBuilder states [] []
  | call position name arguments =>
      refine rel_bind (builder position) fun state reflected states => ?_
      refine rel_bind (lockstep.find?_method name) fun here there found => ?_
      cases found with
      | method mem mem' pair here there matched named =>
          have known := lockstep.planned.fragments ▸ List.mem_map_of_mem (f := Emit.fragments) mem
          exact twins.replace (lockstep.call states mem mem' pair here there matched
            (accepted _ known _ here named)) position
  | build position =>
      refine rel_bind (builder position) fun state reflected states => ?_
      rw [lockstep.build states]
      cases built : machine.build state with
      | error error => exact .some ⟨rfl, twins⟩
      | ok result =>
          exact twins.appendValue (fits_of_build states.consistent lockstep.planned built) position
  | value position given => exact twins.appendValue accepted position
  | mergeValue position source =>
      refine rel_bind (builder position) fun state reflected states => ?_
      refine rel_bind (value source) ?_
      rintro _ built ⟨rfl, fits⟩
      exact twins.replace (lockstep.merge (.value built) fits states) position
  | mergeBuilder position source =>
      refine rel_bind (builder position) fun state reflected states => ?_
      refine rel_bind (builder source) fun _ _ merged => ?_
      exact twins.replace (lockstep.merge (.builder merged) merged.consistent states) position
  | fromValue position source =>
      refine rel_bind (value source) ?_
      rintro _ built ⟨rfl, fits⟩
      have echoes : Ran.Echoes plans others (machine.fromValue built) (twin.fromValue built) :=
        lockstep.merge (.value built) fits lockstep.new
      generalize machine.fromValue built = ran at echoes ⊢
      generalize twin.fromValue built = echoed at echoes ⊢
      obtain ⟨answer, after, trace⟩ := ran
      obtain ⟨answer', after', trace'⟩ := echoed
      cases answer with
      | error error =>
          cases answer' with
          | error _ =>
              cases echoes.answer
              exact .some ⟨rfl, twins⟩
          | ok _ => cases echoes.answer
      | ok _ =>
          cases answer' with
          | error _ => cases echoes.answer
          | ok _ => exact twins.appendBuilder echoes.states trace trace'
  | clear position =>
      exact rel_bind (builder position) fun _ _ states =>
        twins.reset (lockstep.clear states) position
  | clearPartial position =>
      exact rel_bind (builder position) fun _ _ states =>
        twins.reset (lockstep.clearPartial states) position
  | look position =>
      exact rel_bind (builder position) fun _ _ states => twins.reset states position

/-- Whatever is seen alike of twin sessions is seen alike after every step. -/
theorem transcript_eq (lockstep : machine.Lockstep twin plans others) {α : Type}
    {view shown : Session V → α}
    (alike : ∀ session echo, Session.Twins machine plans others session echo →
      shown echo = view session)
    (twins : Session.Twins machine plans others session echo) {steps : List (Step V)}
    (accepted : ∀ step ∈ steps, step.Accepted machine) :
    echo.transcript twin shown steps = session.transcript machine view steps := by
  induction steps generalizing session echo with
  | nil => rfl
  | cons step rest ih =>
      obtain ⟨first, later⟩ := List.forall_mem_cons.1 accepted
      have together := lockstep.step twins first
      rw [Session.transcript, Session.transcript]
      generalize session.step? machine step = done at together
      generalize echo.step? twin step = echoed at together
      cases together with
      | none => rw [ih twins later, alike _ _ twins]
      | some both =>
          obtain ⟨result, twins⟩ := both
          exact congrArg₂ List.cons (congrArg₂ Prod.mk (congrArg some result) (alike _ _ twins))
            (ih twins later)

end Machine.Lockstep

/-! Getters. -/

/-- What the getters of a builder answer, in declaration order. -/
def Machine.shown (machine : Machine V) (state : State V) :
    List (Except BuilderError (Option (Content V))) :=
  machine.builder.fragments.map fun fragments =>
    (machine.get fragments state).map Answer.content?

theorem Machine.Lockstep.shown_eq (lockstep : machine.Lockstep twin plans others)
    (states : State.Twins plans others state reflected) :
    twin.shown reflected = machine.shown state := by
  rw [Machine.shown, Machine.shown, lockstep.also.fragments, lockstep.planned.fragments,
    List.map_map, List.map_map, ← List.forall₂_eq_eq_eq, List.forall₂_map_left_iff,
    List.forall₂_map_right_iff]
  refine ((forall₂_and_mem lockstep.pairs).imp fun plan other ⟨mem, mem', pair⟩ => ?_).flip
  obtain ⟨cell, shadow, found, found', alongside⟩ := lockstep.alongside states mem mem' pair
  have here : machine.get (Emit.fragments plan) state = machine.viewed plan cell :=
    congrArg Ran.answer (call_getter (states.consistent.ready lockstep.planned mem found))
  have there : twin.get (Emit.fragments other) reflected = twin.viewed other shadow :=
    congrArg Ran.answer (call_getter (states.kept.ready lockstep.also mem' found'))
  change (twin.get (Emit.fragments other) reflected).map Answer.content? =
    (machine.get (Emit.fragments plan) state).map Answer.content?
  rw [here, there]
  exact lockstep.viewed pair alongside.reflects

theorem Machine.Lockstep.map_shown (lockstep : machine.Lockstep twin plans others)
    (twins : Session.Twins machine plans others session echo) :
    echo.builders.map twin.shown = session.builders.map machine.shown := by
  rw [← List.forall₂_eq_eq_eq, List.forall₂_map_left_iff, List.forall₂_map_right_iff]
  exact (twins.builders.imp fun _ _ states => lockstep.shown_eq states).flip

end StructBuilder.Run
