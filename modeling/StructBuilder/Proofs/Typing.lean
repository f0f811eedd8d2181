import StructBuilder.Proofs.Items
import StructBuilder.Proofs.Plan

/-!
Types of emitted methods. A method is written as typed code, and what it does to the builder is
known from its name. Here are the parts that methods share, and the methods of plain and
optional properties.
-/

namespace StructBuilder.Emit

open Spelling (Fallible LocalType Refers Results Scope Typed listed ofBuilder ofOption ofResult
  paren words)

/-! Parameters as they are written. -/

def givenType (ty : Ty) : LocalType :=
  if ty.isPrimitive then .owned ty.code else .convertible ty.code

theorem takes_givenType (ty : Ty) : (givenType ty).Takes ty.code := by
  unfold givenType
  split
  · exact .inl rfl
  · exact .inr rfl

theorem code_givenType (ty : Ty) : (givenType ty).code = (ParameterType.given ty).code := by
  have written : (ParameterType.given ty).code =
      if ty.isPrimitive then ty.code else (LocalType.convertible ty.code).code := rfl
  rw [written, givenType, apply_ite LocalType.code]
  rfl

def givenOptionalType (inner : Ty) : LocalType :=
  if inner.isPrimitive then .owned (ofOption inner.code) else .convertible (ofOption inner.code)

theorem takes_givenOptionalType (inner : Ty) :
    (givenOptionalType inner).Takes (ofOption inner.code) := by
  unfold givenOptionalType
  split
  · exact .inl rfl
  · exact .inr rfl

def ParameterType.localType : ParameterType → LocalType
  | .given ty => givenType ty
  | .givenOptional inner => givenOptionalType inner
  | .mapper ty => .mapper ty.code
  | .borrowed ty => .reference ty.code
  | .entries key value => .entries (givenType key) (givenType value)
  | .elements element => .elements (givenType element)

theorem code_localType (type : ParameterType) : type.localType.code = type.code := by
  cases type with
  | given ty => exact code_givenType ty
  | givenOptional inner =>
      have written : (ParameterType.givenOptional inner).code = if inner.isPrimitive
          then ofOption inner.code else (LocalType.convertible (ofOption inner.code)).code := rfl
      rw [written, ParameterType.localType, givenOptionalType, apply_ite LocalType.code]
      rfl
  | mapper ty => rfl
  | borrowed ty => rfl
  | entries key value =>
      simp only [ParameterType.localType, LocalType.code, code_givenType]
      rfl
  | elements element =>
      simp only [ParameterType.localType, LocalType.code, code_givenType]
      rfl

/-! Signatures. -/

def scopeOf (parameters : List (Local × ParameterType)) : Scope :=
  parameters.map fun (subject, type) => (subject.ident, type.localType)

namespace Method

def receivers (method : Method) : List String :=
  if method.mutating then ["&", "mut", "self"] else ["&", "self"]

theorem code_parameters (method : Method) :
    (method.parameters.map fun parameter =>
      Code.name parameter.1.ident ++ Code.name ":" ++ parameter.2.code) =
      (scopeOf method.parameters).map fun parameter =>
        words [parameter.1, ":"] ++ parameter.2.code := by
  rw [scopeOf, List.map_map]
  refine List.map_congr_left fun parameter _ => ?_
  exact congrArg (words [parameter.1.ident, ":"] ++ ·) (code_localType parameter.2).symm

theorem code_eq_function (context : Context) (method : Method) :
    method.code context = Spelling.function method.docs method.name.text method.receivers
      (scopeOf method.parameters) (if method.trailing then [","] else [])
      (method.returns.code context)
      (statementsCode context method.body ++ method.outcome.code context) := by
  have receiver : Code.phrase (if method.mutating then "&mut self" else "&self") =
      words method.receivers := by
    unfold receivers
    cases method.mutating <;> rfl
  have separated (first : Code) (others : List Code) :
      Code.commaSeparated method.trailing (first :: others) =
        listed (first :: others) ++ words (if method.trailing then [","] else []) := by
    cases method.trailing with
    | false => rw [listed_eq]; exact (List.append_nil _).symm
    | true => exact listed_trailing (List.cons_ne_nil _ _)
  have unfolded : method.code context = method.docs.flatMap Code.doc ++ Code.phrase "pub fn" ++
      Code.name method.name.text ++ Code.parens (Code.commaSeparated method.trailing
        (Code.phrase (if method.mutating then "&mut self" else "&self") ::
          method.parameters.map fun parameter =>
            Code.name parameter.1.ident ++ Code.name ":" ++ parameter.2.code)) ++
      Code.phrase "->" ++ method.returns.code context ++
      Code.braces (statementsCode context method.body ++ method.outcome.code context) := rfl
  rw [unfolded, receiver, method.code_parameters, separated]
  simp only [Spelling.function, List.append_assoc]
  rfl

theorem signed (context : Context) (method : Method) :
    method.Signed context (scopeOf method.parameters) (method.returns.code context) :=
  ⟨_, _, _, method.code_eq_function context⟩

end Method

section

variable {context : Context} {plan : Plan} {property : Property}

theorem name_hook (plan : Plan) : (hook plan).name = plan.property.method .check := by
  unfold hook
  cases plan.strategy <;> rfl

theorem requires_hook (plan : Plan) : (fragments plan).Requires context
    (plan.property.method .check).text ((hook plan).parameters.map (·.2.code)) := by
  refine ⟨(hook plan).parameters.map fun parameter => (parameter.1, parameter.2.code),
    List.map_map, ?_⟩
  have written : (fragments plan).hookCode context = (hook plan).code context := rfl
  rw [written, Hook.code, name_hook, listed_eq]
  simp only [Spelling.hook, List.append_assoc, List.map_map]
  rfl

theorem holds_storage (context : Context) (plan : Plan) :
    (fragments plan).Holds context ((storage plan).code context) := by
  simp only [Fragments.Holds, Fragments.declarationCode, Fragments.labeled]
  rfl

theorem offers {method : Method} (mem : method ∈ methods plan) {parameters : List LocalType}
    {returns : Code} (types : (scopeOf method.parameters).map (·.2) = parameters)
    (same : method.returns.code context = returns) :
    (fragments plan).Offers context method.name.text parameters returns :=
  ⟨method, mem, rfl, _, types, same ▸ method.signed context⟩

theorem fallible_builder : Fallible context (Returns.fallibleBuilder.code context) :=
  ⟨ofBuilder, rfl⟩

theorem fallible_checkedReturns (checked : property.check = true) :
    Fallible context ((checkedReturns property).code context) := by
  rw [checkedReturns, if_pos checked]
  exact fallible_builder

theorem results_checkedOutcome {scope : Scope} : Results context (fragments plan) scope
    ((checkedOutcome property).code context) ((checkedReturns property).code context) [] := by
  unfold checkedOutcome checkedReturns
  cases property.check with
  | false => exact .builder
  | true => exact .okBuilder

end

/-! Parts that several methods share. -/

/-- The statements are written as typed code. -/
def Statement.AllTyped (context : Context) (plan : Plan) (returns : Code) (scope : Scope)
    (body : List Statement) (acts : List Act) (after : Scope) : Prop :=
  Typed context (fragments plan) returns scope (statementsCode context body) acts after

theorem statementsCode_append (context : Context) (first second : List Statement) :
    statementsCode context (first ++ second) =
      statementsCode context first ++ statementsCode context second := by
  induction first with
  | nil => rfl
  | cons statement rest ih => simp [statementsCode, ih]

section

variable {context : Context} {plan : Plan} {returns : Code} {scope between after : Scope}
  {acts more : List Act}

theorem Spelling.Typed.of_eq {code other : Code}
    (typed : Typed context (fragments plan) returns scope code acts after) (same : other = code) :
    Typed context (fragments plan) returns scope other acts after :=
  same ▸ typed

namespace Statement.AllTyped

theorem nil : AllTyped context plan returns scope [] [] scope :=
  Typed.nil

theorem single {statement : Statement}
    (typed : Typed context (fragments plan) returns scope (statement.code context) acts after) :
    AllTyped context plan returns scope [statement] acts after :=
  typed.of_eq (List.append_nil _)

theorem append {first second : List Statement}
    (front : AllTyped context plan returns scope first acts between)
    (back : AllTyped context plan returns between second more after) :
    AllTyped context plan returns scope (first ++ second) (acts ++ more) after :=
  (Typed.append front back).of_eq (statementsCode_append context first second)

theorem cons {statement : Statement} {rest : List Statement}
    (first : Typed context (fragments plan) returns scope (statement.code context) acts between)
    (others : AllTyped context plan returns between rest more after) :
    AllTyped context plan returns scope (statement :: rest) (acts ++ more) after :=
  Typed.append first others

end Statement.AllTyped

theorem has_cons_self (scope : Scope) (name : String) (type : LocalType) :
    Scope.Has ((name, type) :: scope) name type := by
  simp [Scope.Has]

theorem has_cons_of_ne {name other : String} {type own : LocalType} (ne : other ≠ name)
    (has : scope.Has other own) : Scope.Has ((name, type) :: scope) other own := by
  simpa [Scope.Has, List.lookup_cons, beq_false_of_ne ne] using has

/-- What is known once a parameter is converted that may have to be. -/
def owning (subject : Local) (ty : Ty) (scope : Scope) : Scope :=
  if ty.isPrimitive then scope else (subject.ident, .owned ty.code) :: scope

theorem has_owning_self {subject : Local} {ty : Ty}
    (given : scope.Has subject.ident (givenType ty)) :
    (owning subject ty scope).Has subject.ident (.owned ty.code) := by
  unfold owning
  cases primitive : ty.isPrimitive with
  | true => simpa [givenType, primitive] using given
  | false => exact has_cons_self scope _ _

theorem has_owning_of_ne {subject : Local} {other : String} {ty : Ty} {type : LocalType}
    (ne : other ≠ subject.ident) (has : scope.Has other type) :
    (owning subject ty scope).Has other type := by
  unfold owning
  split
  · exact has
  · exact has_cons_of_ne ne has

theorem typed_convert {subject : Local} {target : Storage} {given : LocalType}
    (has : scope.Has subject.ident given) (takes : given.Takes (target.code context)) :
    Typed context (fragments plan) returns scope ((Statement.convert subject target).code context)
      [] ((subject.ident, .owned (target.code context)) :: scope) := by
  refine (Typed.convert has takes).of_eq ?_
  simp only [Statement.code, into, ended, Spelling.converter, List.append_assoc]
  rfl

theorem typed_convertGiven {subject : Local} {ty : Ty}
    (given : scope.Has subject.ident (givenType ty)) :
    Statement.AllTyped context plan returns scope (convertGiven subject ty) []
      (owning subject ty scope) := by
  unfold convertGiven owning
  cases ty.isPrimitive with
  | true => exact .nil
  | false => exact .single (typed_convert given (takes_givenType ty))

/-- The call of the hook, if the property has one. -/
def asked (property : Property) : List Act :=
  if property.check then [.asks (property.method .check).text] else []

theorem refers_borrowed {subject : Local} {ty : Ty}
    (has : scope.Has subject.ident (.owned ty.code)) :
    Refers scope (CheckArgument.code ⟨subject, true, ty⟩) ty.code :=
  .borrowed has

theorem refers_reference {subject : Local} {ty : Ty}
    (has : scope.Has subject.ident (.reference ty.code)) :
    Refers scope (CheckArgument.code ⟨subject, false, ty⟩) ty.code :=
  .reference has

/-- The hook of a plan is run on references to what it is declared with, where its error may
be returned. -/
theorem typed_runCheck {arguments : List CheckArgument} {parameters : List (String × Ty)}
    (declared : (hook plan).parameters = parameters)
    (fallible : plan.property.check = true → Fallible context returns)
    (refer : List.Forall₂ (Refers scope) (arguments.map CheckArgument.code)
      (parameters.map (·.2.code))) :
    Statement.AllTyped context plan returns scope (runCheck plan.property arguments)
      (asked plan.property) scope := by
  subst declared
  unfold runCheck asked
  cases checked : plan.property.check with
  | false => exact .nil
  | true =>
      refine .single ((Typed.check (fallible checked) (requires_hook plan) refer).of_eq ?_)
      simp only [Statement.code, listed_eq, List.append_assoc]
      rfl

/-- What a method of this name does to the builder. -/
def actsOf (plan : Plan) : MethodName → List Act
  | .getter _ =>
      (if plan.kind = .required then [.requires plan.property.marker] else []) ++
        [.reads plan.property.name]
  | .action verb _ =>
      match verb with
      | .set =>
          asked plan.property ++ .stores plan.property.name ::
            if plan.kind = .required then [.marks plan.property.marker] else []
      | .map =>
          [if plan.kind = .required then .calls plan.property.getter.text
            else .reads plan.property.name, .calls plan.property.setter.text]
      | .put | .putAll =>
          asked plan.property ++ [.reads plan.property.name, .stores plan.property.name]
      | .add | .addAll => asked plan.property ++ [.stores plan.property.name]
      | .remove | .clear => [.removes plan.property.name]
      | .check => []

theorem Method.Typed.of_body {method : Method} {name : MethodName} {front back : List Act}
    (same : actsOf plan name = front ++ back)
    (body : Statement.AllTyped context plan (method.returns.code context)
      (scopeOf method.parameters) method.body front scope)
    (outcome : Results context (fragments plan) scope (method.outcome.code context)
      (method.returns.code context) back)
    (still : method.mutating = true ∨ (front ++ back).any Act.changes = false) :
    method.Typed context (fragments plan) (actsOf plan name) := by
  refine ⟨_, _, _, _, _, _, _, _, _, method.code_eq_function context, body, outcome, same, ?_⟩
  unfold receivers
  cases mutating : method.mutating with
  | true => exact .inl rfl
  | false => exact .inr ⟨rfl, same ▸ still.resolve_left (by simp [mutating])⟩

/-- One thing is converted, shown to the hook and stored. -/
theorem typed_takeOne {subject : Local} {ty : Ty} {parameter : String} {stores : List Statement}
    (declared : (hook plan).parameters = [(parameter, ty)])
    (given : scope.Has subject.ident (givenType ty))
    (store : ∀ inside : Scope, inside.Has subject.ident (.owned ty.code) →
      Statement.AllTyped context plan ((checkedReturns plan.property).code context) inside stores
        acts inside) :
    Statement.AllTyped context plan ((checkedReturns plan.property).code context) scope
      (convertGiven subject ty ++ runCheck plan.property [⟨subject, true, ty⟩] ++ stores)
      (asked plan.property ++ acts) (owning subject ty scope) := by
  have owned := has_owning_self given
  have run : Statement.AllTyped context plan ((checkedReturns plan.property).code context)
      (owning subject ty scope) (runCheck plan.property [⟨subject, true, ty⟩])
      (asked plan.property) (owning subject ty scope) :=
    typed_runCheck declared fallible_checkedReturns (.cons (refers_borrowed owned) .nil)
  exact ((typed_convertGiven given).append run).append (store _ owned)

end

/-! Methods of plain and optional properties. -/

section

variable {context : Context} {plan : Plan}

theorem holds_of_default (strategy : plan.strategy = .scalar true) :
    (fragments plan).Holds context plan.property.ty.code := by
  have held := holds_storage context plan
  rwa [storage, strategy] at held

theorem holds_of_required (strategy : plan.strategy = .scalar false) :
    (fragments plan).Holds context (ofOption plan.property.ty.code) := by
  have held := holds_storage context plan
  rwa [storage, strategy] at held

theorem holds_of_optional {inner : Ty} (strategy : plan.strategy = .optional inner) :
    (fragments plan).Holds context (ofOption inner.code) := by
  have held := holds_storage context plan
  rwa [storage, strategy] at held

theorem kind_of_default (strategy : plan.strategy = .scalar true) : plan.kind = .hasDefault := by
  rw [Plan.kind, strategy]

theorem kind_of_optional {inner : Ty} (strategy : plan.strategy = .optional inner) :
    plan.kind = .optional := by
  rw [Plan.kind, strategy]

theorem offers_setter (context : Context) {hasDefault : Bool}
    (strategy : plan.strategy = .scalar hasDefault) :
    (fragments plan).Offers context plan.property.setter.text [givenType plan.property.ty]
      ((checkedReturns plan.property).code context) :=
  offers (valueSetter_mem strategy) rfl rfl

theorem typed_assignValue {hasDefault : Bool} (strategy : plan.strategy = .scalar hasDefault)
    {returns : Code} {scope : Scope} (value : scope.Has "value" (.owned plan.property.ty.code)) :
    Statement.AllTyped context plan returns scope
      (if hasDefault then [.assign plan.property.name false]
        else [.assign plan.property.name true, .markSet plan.property.marker])
      (.stores plan.property.name ::
        if plan.kind = .required then [.marks plan.property.marker] else []) scope := by
  cases hasDefault with
  | true =>
      simp only [Plan.kind_eq_required_iff, strategy, Strategy.scalar.injEq, Bool.true_eq_false,
        if_true, if_false]
      exact .single ((Typed.assign (holds_of_default strategy) value).of_eq rfl)
  | false =>
      simp only [Plan.kind_eq_required_iff, strategy, Bool.false_eq_true, if_true, if_false]
      exact .cons ((Typed.assignPresent (holds_of_required strategy) value).of_eq rfl)
        (.single (Typed.markSet.of_eq rfl))

theorem typed_valueSetter {hasDefault : Bool} (strategy : plan.strategy = .scalar hasDefault) :
    (valueSetter plan.property hasDefault).Typed context (fragments plan)
      (actsOf plan plan.property.setter) := by
  have declared : (hook plan).parameters = [("_value", plan.property.ty)] := by
    rw [hook, strategy]
  have given : Scope.Has (scopeOf [(.value, .given plan.property.ty)]) Local.value.ident
      (givenType plan.property.ty) := has_cons_self _ _ _
  have body : Statement.AllTyped context plan ((checkedReturns plan.property).code context) _
      (valueSetter plan.property hasDefault).body _ _ :=
    typed_takeOne declared given fun _ value => typed_assignValue strategy value
  exact .of_body (by simp [actsOf, Property.setter, Property.method]) body results_checkedOutcome
    (.inl rfl)

theorem typed_defaultMapper (strategy : plan.strategy = .scalar true) :
    (defaultMapper plan.property).Typed context (fragments plan)
      (actsOf plan (plan.property.method .map)) := by
  let given := scopeOf (defaultMapper plan.property).parameters
  have body : Statement.AllTyped context plan ((checkedReturns plan.property).code context) given
      [.copyField plan.property.name] [.reads plan.property.name]
      (("current", .owned plan.property.ty.code) :: given) :=
    .single ((Typed.copyField (holds_of_default strategy)).of_eq rfl)
  have outcome := Results.setter (has_cons_self given "current" (.owned plan.property.ty.code))
    (has_cons_of_ne (by decide) (has_cons_self _ _ _)) (offers_setter context strategy)
    (takes_givenType _)
  exact .of_body (by simp [actsOf, Property.method, kind_of_default strategy]) body outcome
    (.inl rfl)

theorem typed_requiredMapper (strategy : plan.strategy = .scalar false) :
    (requiredMapper plan.property).Typed context (fragments plan)
      (actsOf plan (plan.property.method .map)) := by
  have kind : plan.kind = .required := Plan.kind_eq_required_iff.2 strategy
  let given := scopeOf (requiredMapper plan.property).parameters
  let after : Scope := ("current", .owned plan.property.ty.code) :: given
  have getter : (fragments plan).Offers context plan.property.getter.text []
      (ofResult context (words ["&"] ++ plan.property.ty.code)) :=
    offers (by simp [methods, strategy, valueMethods] : requiredGetter plan.property ∈ methods plan)
      rfl rfl
  have body : Statement.AllTyped context plan (Returns.fallibleBuilder.code context) given
      [.copyGetter plan.property.getter] [.calls plan.property.getter.text] after :=
    .single ((Typed.copyGetter fallible_builder getter).of_eq rfl)
  have current : after.Has "current" (.owned plan.property.ty.code) := has_cons_self _ _ _
  have mapper : after.Has "mapper" (.mapper plan.property.ty.code) :=
    has_cons_of_ne (by decide) (has_cons_self _ _ _)
  have setter := offers_setter context strategy
  have outcome : Results context (fragments plan) after
      ((requiredMapper plan.property).outcome.code context)
      (Returns.fallibleBuilder.code context) [.calls plan.property.setter.text] := by
    unfold requiredMapper
    cases checked : plan.property.check with
    | true =>
        rw [checkedReturns, if_pos checked] at setter
        exact .setter current mapper setter (takes_givenType _)
    | false =>
        rw [checkedReturns, checked] at setter
        exact .okSetter current mapper setter (takes_givenType _)
  exact .of_body (by simp [actsOf, Property.method, kind]) body outcome (.inl rfl)

theorem typed_defaultGetter (strategy : plan.strategy = .scalar true) :
    (defaultGetter plan.property).Typed context (fragments plan)
      (actsOf plan plan.property.getter) := by
  have outcome : Results context (fragments plan) []
      ((defaultGetter plan.property).outcome.code context)
      ((defaultGetter plan.property).returns.code context) [.reads plan.property.name] :=
    .reference (holds_of_default strategy)
  exact .of_body (by simp [actsOf, Property.getter, kind_of_default strategy]) .nil outcome
    (.inr rfl)

theorem typed_requiredGetter (strategy : plan.strategy = .scalar false) :
    (requiredGetter plan.property).Typed context (fragments plan)
      (actsOf plan plan.property.getter) := by
  have kind : plan.kind = .required := Plan.kind_eq_required_iff.2 strategy
  let returns := (requiredGetter plan.property).returns.code context
  have body : Statement.AllTyped context plan returns [] [.requireSet plan.property.marker]
      [.requires plan.property.marker] [] :=
    .single ((Typed.requireSet ⟨_, rfl⟩).of_eq rfl)
  have outcome : Results context (fragments plan) []
      ((requiredGetter plan.property).outcome.code context) returns
      [.reads plan.property.name] := by
    have written : (requiredGetter plan.property).outcome.code context =
        words ["self", ".", plan.property.name, ".", "as_ref"] ++ paren [] ++
          words [".", "ok_or_else"] ++ paren (words ["|", "|"] ++
            Spelling.error context "unset" [Code.text context.typeName,
              Code.text plan.property.baseName]) := by
      simp only [requiredGetter, Outcome.code, errorCode, Spelling.error, List.append_assoc]
      rfl
    exact written ▸ .requiredReference (holds_of_required strategy)
  exact .of_body (by simp [actsOf, Property.getter, kind]) body outcome (.inr rfl)

/-! Optional properties. -/

theorem typed_optionalSetter {inner : Ty} (strategy : plan.strategy = .optional inner) :
    (optionalSetter plan.property inner).Typed context (fragments plan)
      (actsOf plan plan.property.setter) := by
  have declared : (hook plan).parameters = [("_value", inner)] := by
    rw [hook, strategy]
  let returns := (checkedReturns plan.property).code context
  let given := scopeOf [(.value, .givenOptional inner)]
  let inside : Scope := ("value", .owned (ofOption inner.code)) :: given
  have value : inside.Has "value" (.owned (ofOption inner.code)) := has_cons_self _ _ _
  have converted : Typed context (fragments plan) returns given
      ((Statement.convert .value (.option inner)).code context) [] inside :=
    typed_convert (has_cons_self _ _ _) (takes_givenOptionalType inner)
  have present : Statement.AllTyped context plan returns inside
      (if plan.property.check then
        [.whenPresent (runCheck plan.property [⟨.candidate, false, inner⟩])] else [])
      (asked plan.property) inside := by
    cases checked : plan.property.check with
    | false =>
        rw [asked, checked]
        exact .nil
    | true =>
        have run : Statement.AllTyped context plan returns
            (("candidate", .reference inner.code) :: inside)
            (runCheck plan.property [⟨.candidate, false, inner⟩]) (asked plan.property) _ :=
          typed_runCheck declared fallible_checkedReturns
            (.cons (refers_reference (has_cons_self _ _ _)) .nil)
        exact .single ((Typed.whenPresent value run).of_eq rfl)
  have stored : Statement.AllTyped context plan returns inside [.assign plan.property.name false]
      [.stores plan.property.name] inside :=
    .single ((Typed.assign (holds_of_optional strategy) value).of_eq rfl)
  exact .of_body (by simp [actsOf, Property.setter, Property.method, kind_of_optional strategy])
    (.cons converted (present.append stored)) results_checkedOutcome (.inl rfl)

theorem typed_optionalMapper {inner : Ty} (strategy : plan.strategy = .optional inner) :
    (optionalMapper plan.property inner).Typed context (fragments plan)
      (actsOf plan (plan.property.method .map)) := by
  let returns := (checkedReturns plan.property).code context
  let given := scopeOf [(.mapper, .mapper inner)]
  have setter : (fragments plan).Offers context plan.property.setter.text
      [givenOptionalType inner] returns := offers (optionalSetter_mem strategy) rfl rfl
  have body : Statement.AllTyped context plan returns given
      [.setMapped plan.property.name plan.property.setter]
      [.reads plan.property.name, .calls plan.property.setter.text] given :=
    .single ((Typed.setMapped (holds_of_optional strategy) (has_cons_self _ _ _) setter
      (takes_givenOptionalType inner)).of_eq rfl)
  exact .of_body (by simp [actsOf, Property.method, kind_of_optional strategy]) body
    results_checkedOutcome (.inl rfl)

theorem typed_optionalGetter {inner : Ty} (strategy : plan.strategy = .optional inner) :
    (optionalGetter plan.property inner).Typed context (fragments plan)
      (actsOf plan plan.property.getter) := by
  have outcome : Results context (fragments plan) []
      ((optionalGetter plan.property inner).outcome.code context)
      ((optionalGetter plan.property inner).returns.code context) [.reads plan.property.name] :=
    .optionalReference (holds_of_optional strategy)
  exact .of_body (by simp [actsOf, Property.getter, kind_of_optional strategy]) .nil outcome
    (.inr rfl)

theorem typed_valueMethods {hasDefault : Bool} (strategy : plan.strategy = .scalar hasDefault) :
    ∀ method ∈ methods plan, method.Typed context (fragments plan) (actsOf plan method.name) := by
  intro method mem
  simp only [methods, strategy, valueMethods, List.mem_append, List.mem_ite_nil_right,
    List.mem_singleton] at mem
  cases hasDefault with
  | true =>
      obtain (rfl | ⟨_, rfl⟩) | rfl := mem
      · exact typed_valueSetter strategy
      · exact typed_defaultMapper strategy
      · exact typed_defaultGetter strategy
  | false =>
      obtain (rfl | ⟨_, rfl⟩) | rfl := mem
      · exact typed_valueSetter strategy
      · exact typed_requiredMapper strategy
      · exact typed_requiredGetter strategy

theorem typed_optionalMethods {inner : Ty} (strategy : plan.strategy = .optional inner) :
    ∀ method ∈ methods plan, method.Typed context (fragments plan) (actsOf plan method.name) := by
  intro method mem
  simp only [methods, strategy, optionalMethods, List.mem_append, List.mem_ite_nil_right,
    List.mem_singleton] at mem
  obtain (rfl | ⟨_, rfl⟩) | rfl := mem
  · exact typed_optionalSetter strategy
  · exact typed_optionalMapper strategy
  · exact typed_optionalGetter strategy

end

end StructBuilder.Emit
