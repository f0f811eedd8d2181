import StructBuilder.Proofs.Acceptance
import StructBuilder.Proofs.OptionItems

/-!
The options of a declaration, from all its attributes. They are what the items say one after
the other, wherever the attributes begin and end, as long as no unknown key has a value: such
a key takes the rest of its list with it.
-/

namespace StructBuilder

open Grammar

/-- The attribute has options, and this is their list. -/
def Attribute.Lists (attr : Attribute) (trees : Trees) : Prop :=
  attr.isNamed "builder" = true ∧ attr.arguments = .list trees

/-- An attribute with this list of options. -/
def Attribute.listing (trees : Trees) : Attribute :=
  ⟨false, ["builder"], .list trees, []⟩

def Source.Tree.named (name : String) : Source.Tree :=
  .leaf "" name (.ident name)

namespace Options

variable {ο σ : Type}

/-! Attributes one after the other. -/

section

/-- What one attribute says; attributes of other names say nothing. -/
def readOne (item : Option String → Remainder → Result (Option ο × Remainder))
    (attr : Attribute) : Result (List ο) :=
  if attr.isNamed "builder" then
    match attr.arguments with
    | .list trees => readList item ⟨trees, false⟩
    | _ => .error .malformed
  else .ok []

variable {item : Option String → Remainder → Result (Option ο × Remainder)} {keys : List String}
  {attr : Attribute} {one two earlier later : List Attribute} {trees : Trees}

theorem readOne_lists (lists : attr.Lists trees) :
    readOne item attr = readList item ⟨trees, false⟩ := by
  rw [readOne, if_pos lists.1, lists.2]

theorem readAll_cons (attr : Attribute) (rest : List Attribute) :
    readAll item (attr :: rest) = do
      let stated ← readOne item attr
      let others ← readAll item rest
      return stated ++ others := by
  rw [readAll, readOne]
  cases attr.isNamed "builder" with
  | false =>
      change readAll item rest = (readAll item rest).bind _
      cases readAll item rest <;> rfl
  | true => cases attr.arguments <;> rfl

theorem readAll_single (attr : Attribute) : readAll item [attr] = readOne item attr := by
  rw [readAll_cons]
  cases readOne item attr with
  | error => rfl
  | ok stated => exact congrArg Except.ok (List.append_nil stated)

theorem readAll_append (one two : List Attribute) : readAll item (one ++ two) = do
    let stated ← readAll item one
    let others ← readAll item two
    return stated ++ others := by
  induction one with
  | nil =>
      change readAll item two = (readAll item two).bind _
      cases readAll item two <;> rfl
  | cons attr rest ih =>
      rw [List.cons_append, readAll_cons, readAll_cons, ih]
      cases readOne item attr with
      | error => rfl
      | ok stated =>
          cases readAll item rest with
          | error => rfl
          | ok others =>
              cases readAll item two with
              | error => rfl
              | ok more => exact congrArg Except.ok (List.append_assoc ..).symm

theorem readAll_filter (attributes : List Attribute) :
    readAll item attributes = readAll item (attributes.filter (·.isNamed "builder")) := by
  induction attributes with
  | nil => rfl
  | cons attr rest ih =>
      rw [List.filter_cons]
      cases named : attr.isNamed "builder" with
      | false =>
          rw [if_neg Bool.false_ne_true, ← ih, readAll, named]
          rfl
      | true => rw [if_pos rfl, readAll_cons, readAll_cons, ih]

theorem readAll_between (same : readAll item one = readAll item two) :
    readAll item (earlier ++ one ++ later) = readAll item (earlier ++ two ++ later) := by
  rw [readAll_append, readAll_append earlier, same, ← readAll_append earlier, ← readAll_append]

theorem readAll_append_eq_ok_iff {stated : List ο} : readAll item (one ++ two) = .ok stated ↔
    ∃ front back, readAll item one = .ok front ∧ readAll item two = .ok back ∧
      front ++ back = stated := by
  rw [readAll_append]
  cases readAll item one with
  | error => simp [bind, Except.bind]
  | ok front => cases readAll item two <;> simp [bind, Except.bind, pure, Except.pure]

theorem readAll_between_eq_ok_iff
    (same : ∀ stated, readAll item one = .ok stated ↔ readAll item two = .ok stated)
    (stated : List ο) : readAll item (earlier ++ one ++ later) = .ok stated ↔
      readAll item (earlier ++ two ++ later) = .ok stated := by
  simp only [readAll_append_eq_ok_iff, same]

theorem readAll_eq_mapM (attributes : List Attribute) :
    readAll item attributes = (attributes.mapM (readOne item)).map List.flatten := by
  induction attributes with
  | nil => rfl
  | cons attr rest ih =>
      rw [readAll_cons, List.mapM_cons, ih]
      cases readOne item attr with
      | error => rfl
      | ok stated => cases rest.mapM (readOne item) <;> rfl

theorem readAll_eq_ok_iff {attributes : List Attribute} {stated : List ο} :
    readAll item attributes = .ok stated ↔ ∃ parts : List (List ο),
      List.Forall₂ (fun attr part => readOne item attr = .ok part) attributes parts ∧
      parts.flatten = stated := by
  rw [readAll_eq_mapM, map_eq_ok_iff]
  simp only [mapM_eq_ok_iff]

/-- The attribute says nothing under another name, or has a list of items of this form, none of
them an unknown key with a value. -/
def Carries (form : Trees → Option ο → Prop) (attr : Attribute) (part : List ο) : Prop :=
  attr.isNamed "builder" = false ∧ part = [] ∨
    ∃ trees, attr.Lists trees ∧ Items form (fun _ => False) trees part

theorem Items.ended [Vocabulary item keys] {form : Trees → Option ο → Prop} {stated : List ο}
    (whole : ∀ {trees known}, Whole item keys trees known ↔ form trees known)
    (ended : Ended item keys trees) :
    Items (Whole item keys) (Endless keys) trees stated ↔ Items form (fun _ => False) trees stated := by
  constructor
  · intro items
    induction items with
    | nothing => exact .nothing
    | last formed => exact .last (whole.1 formed)
    | @more _ rest _ _ gap spelling formed _ ih =>
        have read := Framed.extend (.comma gap spelling rest) formed
        exact .more gap spelling (whole.1 formed) (ih (ended.rest read))
    | endless opened => exact absurd opened (ended _ (.here _))
  · intro items
    clear ended
    induction items with
    | nothing => exact .nothing
    | last formed => exact .last (whole.2 formed)
    | more gap spelling formed _ ih => exact .more gap spelling (whole.2 formed) ih
    | endless opened => exact opened.elim

theorem readOne_eq_ok_iff [Vocabulary item keys] {form : Trees → Option ο → Prop} {part : List ο}
    (whole : ∀ {trees known}, Whole item keys trees known ↔ form trees known)
    (ended : ∀ trees, attr.Lists trees → Ended item keys trees) :
    readOne item attr = .ok part ↔ Carries form attr part := by
  rw [readOne, Carries]
  cases named : attr.isNamed "builder" with
  | false => simp [Attribute.Lists, named, eq_comm]
  | true =>
      cases list : attr.arguments with
      | list trees =>
          have lists : attr.Lists trees := ⟨named, list⟩
          refine readList_eq_ok_iff.trans ((Items.ended whole (ended trees lists)).trans ?_)
          simp [Attribute.Lists, named, list]
      | _ => simp [Attribute.Lists, list]

theorem forall₂_carries [Vocabulary item keys] {form : Trees → Option ο → Prop}
    {attributes : List Attribute} {parts : List (List ο)}
    (whole : ∀ {trees known}, Whole item keys trees known ↔ form trees known)
    (ended : ∀ attr ∈ attributes, ∀ trees, attr.Lists trees → Ended item keys trees) :
    List.Forall₂ (fun attr part => readOne item attr = .ok part) attributes parts ↔
      List.Forall₂ (Carries form) attributes parts := by
  induction attributes generalizing parts with
  | nil => cases parts <;> simp
  | cons attr rest ih =>
      obtain ⟨here, later⟩ := List.forall_mem_cons.1 ended
      cases parts with
      | nil => simp
      | cons part parts =>
          rw [List.forall₂_cons, List.forall₂_cons, readOne_eq_ok_iff whole here, ih later]

end

/-! Whole declarations. -/

/-- In attributes that are read, every list is. -/
theorem list_of_read {item : Option String → Remainder → Result (Option ο × Remainder)}
    {settle : List ο → σ} {read : List Attribute → Result σ}
    (run : ∀ attributes, read attributes = (readAll item attributes).map settle)
    {earlier later : List Attribute} {attr : Attribute} {trees : Trees} {options : σ}
    (lists : attr.Lists trees) (accepted : read (earlier ++ attr :: later) = .ok options) :
    ∃ stated, readList item ⟨trees, false⟩ = .ok stated := by
  rw [run] at accepted
  obtain ⟨_, all, -⟩ := map_eq_ok_iff.1 accepted
  obtain ⟨_, _, -, behind, -⟩ := readAll_append_eq_ok_iff.1 all
  rw [← List.singleton_append] at behind
  obtain ⟨stated, _, one, -⟩ := readAll_append_eq_ok_iff.1 behind
  rw [readAll_single, readOne_lists lists] at one
  exact ⟨stated, one⟩

/-- What is read of a declaration's attributes folds over their items, whose form is this. -/
structure Folds (read : List Attribute → Result σ)
    (item : Option String → Remainder → Result (Option ο × Remainder)) (keys : List String)
    (form : Trees → Option ο → Prop) (yields : List ο → σ → Prop) : Prop where
  others : ∀ attributes, read attributes = read (attributes.filter (·.isNamed "builder"))
  accepted : ∀ attributes,
    (∀ attr ∈ attributes, ∀ trees, attr.Lists trees → Ended item keys trees) →
    ∀ options, read attributes = .ok options ↔
      ∃ parts, List.Forall₂ (Carries form) attributes parts ∧ yields parts.flatten options
  trailing : ∀ {earlier later plain longer trees} (gap spelling : String), plain.Lists trees →
    longer.Lists (trees ++ [.leaf gap spelling (.punct ',')]) →
    trees ≠ [] → ¬EndsWithComma trees → Ended item keys trees →
    read (earlier ++ longer :: later) = read (earlier ++ plain :: later)
  split : ∀ {earlier later whole first second front back} (gap spelling : String),
    whole.Lists (front ++ .leaf gap spelling (.punct ',') :: back) →
    first.Lists front → second.Lists back →
    front ≠ [] → ¬EndsWithComma front → Ended item keys front →
    ¬Crosses item keys front (.leaf gap spelling (.punct ',') :: back) →
    (∀ options, read (earlier ++ whole :: later) = .ok options ↔
      read (earlier ++ first :: second :: later) = .ok options) ∧
    (¬Torn item keys front →
      read (earlier ++ whole :: later) = read (earlier ++ first :: second :: later))
  unbroken : ∀ {attr front} (gap spelling : String) (back : Trees) {options : σ},
    attr.Lists front → read [attr] = .ok options →
    ¬Crosses item keys front (.leaf gap spelling (.punct ',') :: back)

theorem folds {item : Option String → Remainder → Result (Option ο × Remainder)}
    {keys : List String} [Vocabulary item keys] {form : Trees → Option ο → Prop}
    {yields : List ο → σ → Prop} {settle : List ο → σ} {read : List Attribute → Result σ}
    (whole : ∀ {trees known}, Whole item keys trees known ↔ form trees known)
    (settles : ∀ {stated options}, settle stated = options ↔ yields stated options)
    (run : ∀ attributes, read attributes = (readAll item attributes).map settle) :
    Folds read item keys form yields where
  others attributes := by
    rw [run, run, readAll_filter]
  accepted attributes ended options := by
    simp only [run, map_eq_ok_iff, readAll_eq_ok_iff, forall₂_carries whole ended, settles]
    constructor
    · rintro ⟨_, ⟨parts, carried, rfl⟩, settled⟩
      exact ⟨parts, carried, settled⟩
    · rintro ⟨parts, carried, settled⟩
      exact ⟨_, ⟨parts, carried, rfl⟩, settled⟩
  trailing {earlier later plain longer trees} gap spelling lists longer' nonempty open' ended := by
    have same : readAll item [longer] = readAll item [plain] := by
      rw [readAll_cons, readAll_cons, readOne_lists lists, readOne_lists longer',
        readList_trailing gap spelling nonempty open' ended]
    rw [run, run, List.append_cons, readAll_between same, ← List.append_cons]
  split {earlier later whole first second front back} gap spelling lists one two nonempty open'
      ended between := by
    have pair : earlier ++ first :: second :: later = earlier ++ ([first] ++ [second]) ++ later := by
      simp
    constructor
    · intro options
      have same (stated : List ο) :
          readAll item [whole] = .ok stated ↔ readAll item ([first] ++ [second]) = .ok stated := by
        rw [readAll_append_eq_ok_iff, readAll_single, readAll_single, readAll_single,
          readOne_lists lists, readOne_lists one, readOne_lists two]
        exact readList_split_eq_ok_iff nonempty open' ended between
      simp only [run, map_eq_ok_iff, pair, List.append_cons earlier whole later,
        readAll_between_eq_ok_iff same]
    · intro untorn
      have same : readAll item [whole] = readAll item ([first] ++ [second]) := by
        rw [readAll_append, readAll_single, readAll_single, readAll_single,
          readOne_lists lists, readOne_lists one, readOne_lists two,
          readList_split nonempty open' ended between untorn]
      rw [run, run, pair, List.append_cons, readAll_between same]
  unbroken {attr front} gap spelling back options lists accepted := by
    rw [run] at accepted
    obtain ⟨stated, read, -⟩ := map_eq_ok_iff.1 accepted
    rw [readAll_single, readOne_lists lists] at read
    exact not_crosses_of_readList (.comma gap spelling back) read

/-- A new item with an unknown key changes nothing of what is read, but one with a value ends
its list. -/
structure Ignores (new : Trees) (read : List Attribute → Result σ)
    (item : Option String → Remainder → Result (Option ο × Remainder)) (keys : List String) :
    Prop where
  plain : ∀ {earlier later attr longer trees front joined options},
    attr.Lists trees → longer.Lists joined → Inserted item keys new trees front joined →
    Plain keys new → read (earlier ++ attr :: later) = .ok options →
    read (earlier ++ longer :: later) = .ok options
  assigned : ∀ {earlier later attr longer cut trees front joined options},
    attr.Lists trees → longer.Lists joined → cut.Lists front →
    Inserted item keys new trees front joined → Endless keys new →
    read (earlier ++ attr :: later) = .ok options →
    read (earlier ++ longer :: later) = read (earlier ++ cut :: later)

theorem ignores {item : Option String → Remainder → Result (Option ο × Remainder)}
    {keys : List String} [Vocabulary item keys] {settle : List ο → σ}
    {read : List Attribute → Result σ}
    (run : ∀ attributes, read attributes = (readAll item attributes).map settle) (new : Trees) :
    Ignores new read item keys where
  plain {earlier later attr longer trees front joined options} lists longer' inserted plain
      accepted := by
    obtain ⟨stated, read'⟩ := list_of_read run lists accepted
    have kept := readList_inserted_plain inserted plain read'
    have same : readAll item [longer] = readAll item [attr] := by
      rw [readAll_single, readAll_single, readOne_lists longer', readOne_lists lists, kept, read']
    rw [run, List.append_cons, readAll_between same, ← List.append_cons, ← run, accepted]
  assigned {earlier later attr longer cut trees front joined options} lists longer' cut'
      inserted endless accepted := by
    obtain ⟨stated, read'⟩ := list_of_read run lists accepted
    have ended := readList_inserted_endless inserted endless read'
    have same : readAll item [longer] = readAll item [cut] := by
      rw [readAll_single, readAll_single, readOne_lists longer', readOne_lists cut', ended]
    rw [run, run, List.append_cons, readAll_between same, ← List.append_cons]

/-- What is overridden by later options has the value of the last that states it. -/
theorem foldl_last {α : Type} (apply : σ → ο → σ) (part : σ → Option α) (value? : ο → Option α)
    (step : ∀ options option, part (apply options option) = (value? option).or (part options))
    (stated : List ο) (start : σ) :
    part (stated.foldl apply start) = (stated.filterMap value?).getLast?.or (part start) := by
  induction stated generalizing start with
  | nil => rfl
  | cons option rest ih =>
      rw [List.foldl_cons, ih, step, List.filterMap_cons]
      cases value? option with
      | none => rfl
      | some value =>
          rw [List.getLast?_cons]
          cases (rest.filterMap value?).getLast? <;> rfl

end Options

/-! Structures. -/

namespace StructOption

def crate? : StructOption → Option Code
  | .crate path => some path
  | _ => none

def mappers? : StructOption → Option Bool
  | .mappers on => some on
  | _ => none

def collections? : StructOption → Option Library
  | .collections library => some library
  | _ => none

end StructOption

namespace StructOptions

/-- The options are the last that are stated. -/
structure Yields (stated : List StructOption) (options : StructOptions) : Prop where
  crate : options.crate = (stated.filterMap StructOption.crate?).getLast?
  mappers : options.mappers = (stated.filterMap StructOption.mappers?).getLast?
  collections : options.collections = (stated.filterMap StructOption.collections?).getLast?

theorem yields_foldl (stated : List StructOption) : Yields stated (stated.foldl apply none) where
  crate := (Options.foldl_last apply crate StructOption.crate?
    (fun _ option => by cases option <;> rfl) stated none).trans (Option.or_none ..)
  mappers := (Options.foldl_last apply mappers StructOption.mappers?
    (fun _ option => by cases option <;> rfl) stated none).trans (Option.or_none ..)
  collections := (Options.foldl_last apply collections StructOption.collections?
    (fun _ option => by cases option <;> rfl) stated none).trans (Option.or_none ..)

theorem yields_iff {stated : List StructOption} {options : StructOptions} :
    stated.foldl apply none = options ↔ Yields stated options := by
  have settled := yields_foldl stated
  constructor
  · rintro rfl
    exact settled
  · intro yields
    generalize stated.foldl apply none = folded at settled
    obtain ⟨crate, mappers, collections⟩ := folded
    obtain ⟨crate', mappers', collections'⟩ := options
    cases settled.crate.trans yields.crate.symm
    cases settled.mappers.trans yields.mappers.symm
    cases settled.collections.trans yields.collections.symm
    rfl

theorem read_eq_map (attributes : List Attribute) :
    read attributes = (Options.readAll item attributes).map (·.foldl apply none) := by
  rw [read]
  cases Options.readAll item attributes <;> rfl

end StructOptions

/-! Fields. -/

namespace FieldOption

def default? : FieldOption → Option DefaultValue
  | .default value => some value
  | _ => none

def check? : FieldOption → Option Bool
  | .check on => some on
  | _ => none

end FieldOption

namespace FieldOptions

/-- The options are the last that are stated, but a mark as nullable stays. -/
structure Yields (stated : List FieldOption) (options : FieldOptions) : Prop where
  default : options.default = (stated.filterMap FieldOption.default?).getLast?
  check : options.check = (stated.filterMap FieldOption.check?).getLast?.getD false
  nullable : options.nullable = true ↔ .nullable true ∈ stated

theorem yields_foldl (stated : List FieldOption) : Yields stated (stated.foldl apply none) where
  default := (Options.foldl_last apply default FieldOption.default?
    (fun _ option => by cases option <;> rfl) stated none).trans (Option.or_none ..)
  check := by
    have last := Options.foldl_last apply (fun options => some options.check) FieldOption.check?
      (fun _ option => by cases option <;> rfl) stated none
    cases value : (stated.filterMap FieldOption.check?).getLast? with
    | none => exact Option.some.inj (last.trans (by rw [value]; rfl))
    | some on => exact Option.some.inj (last.trans (by rw [value]; rfl))
  nullable := by
    rw [nullable_foldl]
    simp [none]

theorem yields_iff {stated : List FieldOption} {options : FieldOptions} :
    stated.foldl apply none = options ↔ Yields stated options := by
  have settled := yields_foldl stated
  constructor
  · rintro rfl
    exact settled
  · intro yields
    generalize stated.foldl apply none = folded at settled
    obtain ⟨default, nullable, check⟩ := folded
    obtain ⟨default', nullable', check'⟩ := options
    cases settled.default.trans yields.default.symm
    cases settled.check.trans yields.check.symm
    cases Bool.eq_iff_iff.2 (settled.nullable.trans yields.nullable.symm)
    rfl

theorem read_eq_map (attributes : List Attribute) :
    read attributes = (Options.readAll item attributes).map (·.foldl apply none) := by
  rw [read]
  cases Options.readAll item attributes <;> rfl

end FieldOptions

/-! Both. -/

/-- Options are what the items say one after the other. Lists may be split and joined between
items, and have a comma at their end; only a group that is left before its end is refused with
its own list, so that another refusal may come first. Refusals are compared by what is refused:
a malformed item is malformed with and without a comma behind it, if in other words. -/
theorem options_fold_items :
    Options.Folds StructOptions.read StructOptions.item StructOptions.keys StructOptions.Form
      StructOptions.Yields ∧
    Options.Folds FieldOptions.read FieldOptions.item FieldOptions.keys FieldOptions.Form
      FieldOptions.Yields :=
  ⟨Options.folds StructOptions.whole_iff StructOptions.yields_iff StructOptions.read_eq_map,
    Options.folds FieldOptions.whole_iff FieldOptions.yields_iff FieldOptions.read_eq_map⟩

theorem whole_default : Options.Whole FieldOptions.item FieldOptions.keys [.named "default"]
    (some (.default .implicit)) :=
  FieldOptions.whole_iff.2 .implicit

theorem default_and_check_in_two :
    FieldOptions.read [.listing [.named "default", .leaf "" "," (.punct ','), .named "check"]] =
      FieldOptions.read [.listing [.named "default"], .listing [.named "check"]] := by
  have whole := whole_default
  refine (@options_fold_items.2.split [] [] _ _ _ _ _ "" "," ⟨rfl, rfl⟩ ⟨rfl, rfl⟩ ⟨rfl, rfl⟩
    (List.cons_ne_nil _ _) ?_ whole.ended ?_).2 whole.not_torn
  · rintro ⟨before, gap, spelling, same⟩
    have last := congrArg List.getLast? same
    simp [Source.Tree.named] at last
  · exact Options.not_crosses_of_readList (.comma ..) (Options.readList_last whole)

/-- Unknown keys are ignored, but for what stands behind a value of theirs. -/
theorem options_ignore_unknown (new : Grammar.Trees) :
    Options.Ignores new StructOptions.read StructOptions.item StructOptions.keys ∧
    Options.Ignores new FieldOptions.read FieldOptions.item FieldOptions.keys :=
  ⟨Options.ignores StructOptions.read_eq_map new, Options.ignores FieldOptions.read_eq_map new⟩

theorem default_behind_renaming :
    FieldOptions.read [.listing [.named "rename", .leaf " " "=" (.punct '='),
        .leaf " " "\"y\"" (.text "y" ""), .leaf "" "," (.punct ','), .named "default"]] =
      FieldOptions.read [.listing []] := by
  have named : Options.key ⟨[.named "rename", .leaf " " "=" (.punct '='),
      .leaf " " "\"y\"" (.text "y" "")], false⟩ = some (some "rename",
        ⟨[.leaf " " "=" (.punct '='), .leaf " " "\"y\"" (.text "y" "")], false⟩) :=
    Options.key_eq_name.2 ⟨"", "rename", rfl, rfl, rfl⟩
  have unknown : ∀ key ∈ FieldOptions.keys, some "rename" ≠ some key := by decide
  have accepted := FieldOptions.read_eq_map [.listing [.named "default"]]
  rw [Options.readAll_single, Options.readOne_lists ⟨rfl, rfl⟩,
    Options.readList_last whole_default] at accepted
  exact @(options_ignore_unknown _).2.assigned [] [] _ _ _ _ _ _ _ ⟨rfl, rfl⟩ ⟨rfl, rfl⟩
    ⟨rfl, rfl⟩ (.amid "" "," .nothing) ⟨_, _, named, unknown, rfl⟩ accepted

/-- The reason not to derive anything, if there is one. -/
def refusalOf {α : Type} : Except Refusal α → Option Refusal
  | .error refusal => some refusal
  | .ok _ => none

theorem refusalOf_eq_some_iff {α : Type} {result : Except Refusal α} {refusal : Refusal} :
    refusalOf result = some refusal ↔ result = .error refusal := by
  cases result <;> simp [refusalOf]

/-- A group left before its end is refused behind the items of its own list; an expression
that is broken off goes on behind the comma that joins two lists. -/
theorem splitting_changes_refusal :
    Blueprint.read "struct S \x7b #[builder(default = [0; 5 x], check = 5)] x: u8 \x7d" =
      .error (.refused (.mustBeBoolean "check") (some "5")) ∧
    Blueprint.read "struct S \x7b #[builder(default = [0; 5 x])] #[builder(check = 5)] x: u8 \x7d" =
      .error .malformed ∧
    (Blueprint.read "struct S \x7b #[builder(default = a::<b, c>)] x: u8 \x7d").isOk = true ∧
    Blueprint.read "struct S \x7b #[builder(default = a::<b)] #[builder(c>)] x: u8 \x7d" =
      .error .malformed := by
  refine ⟨refusalOf_eq_some_iff.1 ?_, refusalOf_eq_some_iff.1 ?_, ?_, refusalOf_eq_some_iff.1 ?_⟩
  all_goals decide +kernel

/-- A default that is stated behind an unknown key with a value is lost. -/
theorem default_lost_behind_value :
    (Blueprint.read "struct S \x7b #[builder(default)] x: u8 \x7d").toOption.map
      (·.properties.map (·.default.isSome)) = some [true] ∧
    (Blueprint.read "struct S \x7b #[builder(rename = \"y\", default)] x: u8 \x7d").toOption.map
      (·.properties.map (·.default.isSome)) = some [false] := by
  constructor <;> decide +kernel

end StructBuilder
