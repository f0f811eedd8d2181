import StructBuilder.Proofs.Meaning
import StructBuilder.Proofs.Replay

/-!
Histories of collections. Next to a state stands the log of all that was added to one
property, and removed from it, since it was last emptied. Calls that fail leave no trace
there, and a merge that fails does so only for the properties that it did not complete.
-/

namespace StructBuilder.Run

open Emit (methods storage)

variable {V α : Type}

/-- What a collection consists of, entries or elements, and where it comes from. -/
structure Facet (V α : Type) where
  key : α → V
  /-- What a call adds. -/
  added : Verb → List (Argument V) → List α
  /-- What a merge of this content adds. -/
  given : Content V → List α
  /-- A merge adds what a call of the property's own method does. -/
  added_merge : ∀ {plan : Plan} {content : Content V},
    plan.strategy.Suits plan.property.shape → content.Fits plan.property.shape →
    added plan.mergeVerb [content.argument] = given content

def Facet.entries : Facet V (V × V) where
  key := Prod.fst
  added
    | .put, [.one key, .one value] => [(key, value)]
    | .putAll, [.entries items] => items
    | _, _ => []
  given
    | .entries items => items
    | _ => []
  added_merge := by
    intro plan content suits fits
    rw [Plan.mergeVerb]
    obtain ⟨_, _, strategy, rfl⟩ | ⟨_, _, strategy, rfl⟩ | ⟨_, _, _, strategy, rfl⟩ |
      ⟨_, _, strategy, rfl⟩ | ⟨_, _, strategy, rfl⟩ := cases_of_fits suits fits <;>
      (rewrite [strategy]; rfl)

def Facet.elements : Facet V V where
  key := id
  added
    | .add, [.one element] => [element]
    | .addAll, [.elements items] => items
    | _, _ => []
  given
    | .elements items => items
    | _ => []
  added_merge := by
    intro plan content suits fits
    rw [Plan.mergeVerb]
    obtain ⟨_, _, strategy, rfl⟩ | ⟨_, _, strategy, rfl⟩ | ⟨_, _, _, strategy, rfl⟩ |
      ⟨_, _, strategy, rfl⟩ | ⟨_, _, strategy, rfl⟩ := cases_of_fits suits fits <;>
      (rewrite [strategy]; rfl)

/-- The log after a call that succeeded. -/
def Facet.record (facet : Facet V α) (log : List (Deed α V)) (verb : Verb)
    (arguments : List (Argument V)) : List (Deed α V) :=
  match verb, arguments with
  | .clear, _ => []
  | .remove, [.one sought] => log ++ [.remove sought]
  | _, _ => log ++ (facet.added verb arguments).map .add

variable [BEq V]

/-- The log after any call, which may be one for another property. -/
def Facet.afterCall (facet : Facet V α) (machine : Machine V) (plan : Plan)
    (fragments : Emit.Fragments) (name : MethodName) (arguments : List (Argument V))
    (state : State V) (log : List (Deed α V)) : List (Deed α V) :=
  match name, (machine.call fragments name arguments state).answer with
  | .action verb _, .ok _ =>
      if fragments.field = plan.property.name then facet.record log verb arguments else log
  | _, _ => log

/-- The merge of all properties up to this one. -/
def Machine.mergeUpTo (machine : Machine V) (source : Source V) (plan : Plan) (state : State V) :
    Ran V :=
  machine.mergeAll source (machine.builder.fragments.take
    (machine.builder.fragments.findIdx (·.field == plan.property.name) + 1)) state

/-- The log after a merge, which may have ended before the property was merged. -/
def Facet.afterMerge (facet : Facet V α) (machine : Machine V) (plan : Plan) (source : Source V)
    (state : State V) (log : List (Deed α V)) : List (Deed α V) :=
  match (machine.mergeUpTo source plan state).answer, source.given plan with
  | .ok _, some content => log ++ (facet.given content).map .add
  | _, _ => log

/-- The states that operations lead to, with the log of one property. -/
inductive Machine.History (machine : Machine V) (facet : Facet V α) (plan : Plan) :
    List (Deed α V) → State V → Prop where
  | new : machine.History facet plan [] machine.new
  | call {log : List (Deed α V)} {state : State V} {fragments : Emit.Fragments}
      {method : Emit.Method} {arguments : List (Argument V)}
      (before : machine.History facet plan log state)
      (known : fragments ∈ machine.builder.fragments) (mem : method ∈ fragments.methods)
      (accepted : Argument.AcceptedBy method arguments) :
      machine.History facet plan
        (facet.afterCall machine plan fragments method.name arguments state log)
        (machine.call fragments method.name arguments state).state
  | mergeValue {log : List (Deed α V)} {state : State V} {built : Value V}
      (before : machine.History facet plan log state) (fits : Value.Fits machine.builder built) :
      machine.History facet plan (facet.afterMerge machine plan (.value built) state log)
        (machine.merge (.value built) state).state
  | mergeBuilder {log : List (Deed α V)} {state other : State V}
      (before : machine.History facet plan log state) (source : machine.Reachable other) :
      machine.History facet plan (facet.afterMerge machine plan (.builder other) state log)
        (machine.merge (.builder other) state).state
  | clear {log : List (Deed α V)} {state : State V}
      (before : machine.History facet plan log state) :
      machine.History facet plan [] (machine.clear state)
  | clearPartial {log : List (Deed α V)} {state : State V}
      (before : machine.History facet plan log state) :
      machine.History facet plan [] (machine.clearPartial state)

variable {machine : Machine V} {facet : Facet V α} {plans : List Plan} {plan : Plan}
  {log : List (Deed α V)} {state final : State V} {cell : Cell V} {source : Source V}

theorem Machine.History.reachable (history : machine.History facet plan log state) :
    machine.Reachable state := by
  induction history with
  | new => exact .new
  | call _ known mem accepted ih => exact .call ih known mem accepted
  | mergeValue _ fits ih => exact .mergeValue ih fits
  | mergeBuilder _ source ih => exact .mergeBuilder ih source
  | clear _ ih => exact .clear ih
  | clearPartial _ ih => exact .clearPartial ih

/-- Whatever is done to a builder, there is a log of it. -/
theorem Machine.Reachable.exists_history (facet : Facet V α) (plan : Plan)
    (reachable : machine.Reachable state) : ∃ log, machine.History facet plan log state := by
  induction reachable with
  | new => exact ⟨_, .new⟩
  | call _ known mem accepted ih =>
      obtain ⟨log, before⟩ := ih
      exact ⟨_, .call before known mem accepted⟩
  | mergeValue _ fits ih =>
      obtain ⟨log, before⟩ := ih
      exact ⟨_, .mergeValue before fits⟩
  | mergeBuilder _ source ih _ =>
      obtain ⟨log, before⟩ := ih
      exact ⟨_, .mergeBuilder before source⟩
  | clear _ ih =>
      obtain ⟨log, before⟩ := ih
      exact ⟨_, .clear before⟩
  | clearPartial _ ih =>
      obtain ⟨log, before⟩ := ih
      exact ⟨_, .clearPartial before⟩

/-! One property of a merge. -/

omit [BEq V] in
theorem take_fragments (planned : machine.Planned plans) {earlier later : List Plan}
    (split : plans = earlier ++ plan :: later) :
    machine.builder.fragments.take
        (machine.builder.fragments.findIdx (·.field == plan.property.name) + 1) =
      (earlier ++ [plan]).map Emit.fragments := by
  have names := planned.names
  rw [split, List.map_append, List.nodup_append] at names
  have away : ∀ other ∈ earlier, other.property.name ≠ plan.property.name := fun other mem =>
    names.2.2 _ (List.mem_map_of_mem mem) _ (List.mem_map_of_mem List.mem_cons_self)
  have position : machine.builder.fragments.findIdx (·.field == plan.property.name) =
      earlier.length := by
    rw [planned.fragments, split, List.findIdx_map, List.findIdx_append,
      List.findIdx_eq_length.2 (by simpa [Emit.fragments] using away)]
    simp [Emit.fragments, List.findIdx_cons]
  rw [position, planned.fragments, split, ← List.map_take, List.append_cons,
    List.take_left' (by simp)]

/-- What becomes of one property in a merge. -/
inductive Machine.MergesCell (machine : Machine V) (source : Source V) (plan : Plan)
    (state : State V) (cell : Cell V) : Cell V → Prop where
  /-- The merge ends before the property is merged. -/
  | stopped {error : BuilderError}
      (failed : (machine.mergeUpTo source plan state).answer = .error error) :
      machine.MergesCell source plan state cell cell
  | nothing {answer : Answer V}
      (passed : (machine.mergeUpTo source plan state).answer = .ok answer)
      (given : source.given plan = none) : machine.MergesCell source plan state cell cell
  /-- Some state was accepted when it came to the property. -/
  | taken {answer : Answer V} {content : Content V} {middle : State V}
      (passed : (machine.mergeUpTo source plan state).answer = .ok answer)
      (given : source.given plan = some content)
      (admitted : machine.contentVerdict plan middle cell content = .ok ()) :
      machine.MergesCell source plan state cell (cell.take content)

theorem outcome_mergeUpTo (planned : machine.Planned plans)
    (fits : source.Fits machine.builder plans) (consistent : state.Consistent plans)
    {earlier later : List Plan} (split : plans = earlier ++ plan :: later) :
    (machine.mergeUpTo source plan state).outcome =
      ((machine.absorb source (earlier ++ [plan]) state).1.map fun _ => .builder,
        (machine.absorb source (earlier ++ [plan]) state).2) := by
  rw [Machine.mergeUpTo, take_fragments planned split]
  refine outcome_mergeAll planned fits (fun other mem => ?_) consistent
  rw [split, List.append_cons]
  exact List.mem_append_left _ mem

theorem cell?_absorb_append (planned : machine.Planned plans)
    (fits : source.Fits machine.builder plans) (consistent : state.Consistent plans)
    (mem : plan ∈ plans) {part later : List Plan} (known : ∀ other ∈ part ++ later, other ∈ plans)
    (away : plan ∉ later) :
    (machine.absorb source (part ++ later) state).2.cell? plan.property.name =
      (machine.absorb source part state).2.cell? plan.property.name := by
  have kept := absorb_consistent planned fits
    (fun other early => known other (List.mem_append_left _ early)) consistent
  rw [absorb_append]
  generalize machine.absorb source part state = absorbed at kept ⊢
  obtain ⟨result, middle⟩ := absorbed
  cases result with
  | error error => rfl
  | ok _ =>
      exact (untouched_absorb planned fits
        (fun other late => known other (List.mem_append_right _ late)) kept mem away).1

theorem mergesCell_upTo (planned : machine.Planned plans)
    (fits : source.Fits machine.builder plans) (consistent : state.Consistent plans)
    {earlier later : List Plan} (split : plans = earlier ++ plan :: later) (away : plan ∉ earlier)
    (found : state.cell? plan.property.name = some cell) :
    ∃ after, (machine.mergeUpTo source plan state).state.cell? plan.property.name = some after ∧
      machine.MergesCell source plan state cell after := by
  have mem : plan ∈ plans := split ▸ List.mem_append_cons_self
  have early : ∀ other ∈ earlier, other ∈ plans := fun other mem =>
    split ▸ List.mem_append_left _ mem
  have outcome := outcome_mergeUpTo planned fits consistent split
  have untouched := untouched_absorb planned fits early consistent mem away
  have kept := absorb_consistent planned fits early consistent
  -- the properties before this one either end the merge or leave its cell as it was
  rw [absorb_append] at outcome
  generalize machine.absorb source earlier state = absorbed at outcome untouched kept
  obtain ⟨result, middle⟩ := absorbed
  have there : middle.cell? plan.property.name = some cell := untouched.1.trans found
  cases result with
  | error error =>
      obtain ⟨failed, final⟩ := Prod.mk.inj outcome
      exact ⟨cell, (congrArg (State.cell? · _) final).trans there, .stopped failed⟩
  | ok _ =>
      have intake := intake_takeIn planned mem fits kept
      simp only [Machine.absorb] at outcome
      generalize machine.takeIn source plan middle = taken at outcome intake
      cases intake with
      | refused given here verdict =>
          obtain ⟨failed, final⟩ := Prod.mk.inj outcome
          exact ⟨cell, (congrArg (State.cell? · _) final).trans there, .stopped failed⟩
      | nothing given =>
          obtain ⟨passed, final⟩ := Prod.mk.inj outcome
          exact ⟨cell, (congrArg (State.cell? · _) final).trans there, .nothing passed given⟩
      | @taken content held given here admitted change present =>
          obtain ⟨passed, final⟩ := Prod.mk.inj outcome
          obtain rfl : held = cell := Option.some.inj (here.symm.trans there)
          have stored : (machine.store plan (held.take content) middle).cell?
              plan.property.name = some (held.take content) := by
            rw [cell?_store, State.cell?_put_same here]
          exact ⟨held.take content, (congrArg (State.cell? · _) final).trans stored,
            .taken passed given admitted⟩

theorem mergesCell (planned : machine.Planned plans) (mem : plan ∈ plans)
    (fits : source.Fits machine.builder plans) (consistent : state.Consistent plans)
    (found : state.cell? plan.property.name = some cell) :
    ∃ after, (machine.merge source state).state.cell? plan.property.name = some after ∧
      machine.MergesCell source plan state cell after := by
  obtain ⟨earlier, later, split⟩ := List.append_of_mem mem
  have distinct : (earlier ++ plan :: later).Nodup := split ▸ planned.names.of_map
  obtain ⟨_, rest, apart⟩ := List.nodup_append.1 distinct
  have parts : plans = (earlier ++ [plan]) ++ later := split.trans (List.append_cons ..)
  have whole : (machine.merge source state).state.cell? plan.property.name =
      (machine.mergeUpTo source plan state).state.cell? plan.property.name := by
    have merged : (machine.merge source state).state = (machine.absorb source plans state).2 :=
      congrArg Prod.snd (outcome_merge_eq planned fits consistent)
    have upTo : (machine.mergeUpTo source plan state).state =
        (machine.absorb source (earlier ++ [plan]) state).2 :=
      congrArg Prod.snd (outcome_mergeUpTo planned fits consistent split)
    rw [merged, upTo, congrArg (machine.absorb source · state) parts]
    exact cell?_absorb_append planned fits consistent mem (fun other there => parts ▸ there)
      (List.nodup_cons.1 rest).1
  rw [whole]
  exact mergesCell_upTo planned fits consistent split
    (fun early => apart plan early plan List.mem_cons_self rfl) found

/-! Whole histories. -/

omit [BEq V] in
/-- A collection is empty after a partial reset, and nothing else is one. -/
theorem empty_partialClear (fits : cell.Fits (storage plan)) :
    (Reset.apply none (Emit.partialClear plan) cell).entries = [] ∧
      (Reset.apply none (Emit.partialClear plan) cell).elements = [] := by
  cases strategy : plan.strategy with
  | scalar hasDefault =>
      simp only [storage, strategy] at fits
      simp only [Emit.partialClear, strategy, Reset.apply]
      cases hasDefault <;> cases cell <;> first | exact fits.elim | exact ⟨rfl, rfl⟩
  | optional inner =>
      simp only [Emit.partialClear, strategy, Reset.apply]
      exact ⟨rfl, rfl⟩
  | _ =>
      simp only [Emit.partialClear, strategy, Reset.apply]
      exact ⟨Cell.entries_clear cell, Cell.elements_clear cell⟩

/-- A relation of logs and cells that every change of the cell keeps. -/
structure Facet.Keeps (facet : Facet V α) (machine : Machine V) (plan : Plan)
    (P : List (Deed α V) → Cell V → Prop) : Prop where
  empty : ∀ {cell}, cell.Suits plan → cell.entries = [] → cell.elements = [] → P [] cell
  step : ∀ {log state cell after method verb arguments}, cell.Suits plan →
    Called plan method verb arguments → machine.effect plan state cell verb arguments = .ok after →
    P log cell → P (facet.record log verb arguments) after

namespace Facet.Keeps

variable {P : List (Deed α V) → Cell V → Prop}

/-- A call that succeeds is recorded, and one for another property or one that fails keeps
both the cell and the log. -/
theorem call (keeps : facet.Keeps machine plan P) (planned : machine.Planned plans)
    (known : plan ∈ plans) (consistent : state.Consistent plans) {fragments : Emit.Fragments}
    (here : fragments ∈ machine.builder.fragments) {method : Emit.Method}
    (mem : method ∈ fragments.methods) {arguments : List (Argument V)}
    (accepted : Argument.AcceptedBy method arguments)
    (found : state.cell? plan.property.name = some cell) (holds : P log cell) :
    ∃ after, (machine.call fragments method.name arguments state).state.cell?
        plan.property.name = some after ∧
      P (facet.afterCall machine plan fragments method.name arguments state log) after := by
  rw [planned.fragments] at here
  obtain ⟨other, others, rfl⟩ := List.mem_map.1 here
  obtain ⟨held, there, _⟩ := consistent.cells other others
  have ready := consistent.ready planned others there
  rcases name_of_mem_methods mem with ⟨named, parameters⟩ | ⟨verb, named⟩
  · obtain rfl := (Argument.acceptedBy_nil parameters).1 accepted
    rw [named, call_getter ready]
    exact ⟨cell, found, holds⟩
  · have settles := settles_call ready mem named accepted
    generalize effect : machine.effect other state held verb arguments = result at settles
    unfold Facet.afterCall
    rw [named, Property.method] at settles ⊢
    generalize machine.call (Emit.fragments other) (.action verb other.property.baseName) arguments
      state = ran at settles ⊢
    cases settles with
    | refused answer unchanged =>
        rw [answer, unchanged]
        exact ⟨cell, found, holds⟩
    | @stored after answer stored =>
        have field : (Emit.fragments other).field = other.property.name := rfl
        rw [answer, stored, cell?_store]
        dsimp only
        rw [field]
        by_cases same : other = plan
        · subst same
          obtain rfl : held = cell := Option.some.inj (there.symm.trans found)
          refine ⟨after, State.cell?_put_same found after, ?_⟩
          rw [if_pos rfl]
          exact keeps.step (consistent.suits known found) (Called.of_mem mem named accepted)
            effect holds
        · have apart : plan.property.name ≠ other.property.name :=
            fun eq => same (planned.eq_of_name others known eq.symm)
          refine ⟨cell, (State.cell?_put_of_ne apart after state).trans found, ?_⟩
          rwa [if_neg apart.symm]

/-- What a merge has completed is recorded like a call of the property's own method. -/
theorem merged (keeps : facet.Keeps machine plan P) (planned : machine.Planned plans)
    (known : plan ∈ plans) (consistent : state.Consistent plans)
    (fits : source.Fits machine.builder plans)
    (found : state.cell? plan.property.name = some cell) (holds : P log cell) :
    ∃ after, (machine.merge source state).state.cell? plan.property.name = some after ∧
      P (facet.afterMerge machine plan source state log) after := by
  obtain ⟨after, final, merges⟩ := mergesCell planned known fits consistent found
  refine ⟨after, final, ?_⟩
  unfold Facet.afterMerge
  cases merges with
  | stopped failed => rwa [failed]
  | nothing passed given => rwa [passed, given]
  | @taken _ content middle passed given admitted =>
      have suits := planned.suits plan known
      have contentFits := given_fits planned known fits given
      obtain ⟨method, mem, named, accepted⟩ := exists_merge_method suits contentFits
      have effect : machine.effect plan middle cell plan.mergeVerb [content.argument] =
          .ok (cell.take content) := by
        rw [effect_mergeVerb suits contentFits, admitted]
        rfl
      have recorded := keeps.step (consistent.suits known found)
        (Called.of_mem mem named accepted) effect holds
      have verb : facet.record log plan.mergeVerb [content.argument] =
          log ++ (facet.given content).map .add := by
        rw [← facet.added_merge suits contentFits, Plan.mergeVerb]
        cases plan.strategy <;> rfl
      rw [passed, given]
      rwa [verb] at recorded

theorem history (keeps : facet.Keeps machine plan P) (planned : machine.Planned plans)
    (known : plan ∈ plans) (history : machine.History facet plan log state) :
    ∃ cell, state.cell? plan.property.name = some cell ∧ P log cell := by
  have new : ∃ cell, machine.new.cell? plan.property.name = some cell ∧ P [] cell :=
    ⟨_, cell?_new planned known,
      keeps.empty (suits_initial plan) (entries_initial ..) (elements_initial ..)⟩
  induction history with
  | new => exact new
  | call before here mem accepted ih =>
      obtain ⟨cell, found, holds⟩ := ih
      exact keeps.call planned known (before.reachable.consistent planned) here mem accepted found
        holds
  | mergeValue before fits ih =>
      obtain ⟨cell, found, holds⟩ := ih
      exact keeps.merged planned known (before.reachable.consistent planned) fits found holds
  | mergeBuilder before source ih =>
      obtain ⟨cell, found, holds⟩ := ih
      exact keeps.merged planned known (before.reachable.consistent planned)
        (source.consistent planned) found holds
  | clear before ih =>
      rwa [(before.reachable.consistent planned).clear_eq_new planned]
  | clearPartial before ih =>
      obtain ⟨cell, found, _⟩ := ih
      have suits := (before.reachable.consistent planned).suits known found
      obtain ⟨entries, elements⟩ := empty_partialClear suits.fits
      exact ⟨_, cell?_clearPartial planned known found,
        keeps.empty (suits_partialClear suits) entries elements⟩

end Facet.Keeps
end StructBuilder.Run
