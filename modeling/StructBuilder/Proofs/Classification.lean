import Mathlib.Logic.Relation
import StructBuilder.Grammar.Type
import StructBuilder.Property.Shape

/-!
How types are classified. A path is looked at in one place only, its last segment: the name
there and the types among its arguments settle the shape. What else the path is made of does
not matter, nor does it in which order the containers are looked for, because no name belongs
to two of them.
-/

namespace StructBuilder

/-- Kinds of wrappers. -/
inductive Family where
  | optional
  | map (order : Order)
  | set (order : Order)
  | list
  deriving DecidableEq

namespace Family

/-- What a wrapper of this kind makes of its arguments; it may have too few of them. -/
def shape? : Family → List Ty → Option Shape
  | optional, inner :: _ => some (.optional inner)
  | map order, key :: value :: _ => some (.map order key value)
  | set order, element :: _ => some (.set order element)
  | list, element :: _ => some (.list element)
  | _, _ => none

/-- All names of wrappers. -/
def all : List (String × Family) :=
  [("Option", .optional), ("HashMap", .map .arbitrary), ("BTreeMap", .map .sorted),
   ("IndexMap", .map .insertion), ("HashSet", .set .arbitrary), ("BTreeSet", .set .sorted),
   ("IndexSet", .set .insertion), ("Vec", .list), ("VecDeque", .list)]

variable {family : Family} {name : String} {types : List Ty} {shape : Shape}

/-- No name belongs to two kinds. -/
theorem lookup_all : all.lookup name = some family ↔ (name, family) ∈ all := by
  have table : ∀ entry ∈ all, all.lookup entry.1 = some entry.2 := by decide
  constructor
  · intro found
    obtain ⟨before, after, split, -⟩ := List.lookup_eq_some_iff.1 found
    rw [split]
    exact List.mem_append_right _ List.mem_cons_self
  · exact table _

/-- The order that a name stands for. -/
def orderOf (name : String) : Order :=
  if Ty.sortedWrappers.contains name then .sorted
  else if Ty.insertionWrappers.contains name then .insertion
  else .arbitrary

theorem mem_maps {order : Order} :
    (name, map order) ∈ all ↔ name ∈ Ty.maps ∧ orderOf name = order := by
  constructor
  · intro mem
    have table : ∀ entry ∈ all, ∀ order ∈ [Order.arbitrary, .sorted, .insertion],
        entry.2 = map order → entry.1 ∈ Ty.maps ∧ orderOf entry.1 = order := by
      decide
    exact table _ mem order (by cases order <;> decide) rfl
  · rintro ⟨mem, rfl⟩
    have table : ∀ name ∈ Ty.maps, (name, map (orderOf name)) ∈ all := by decide
    exact table name mem

theorem mem_sets {order : Order} :
    (name, set order) ∈ all ↔ name ∈ Ty.sets ∧ orderOf name = order := by
  constructor
  · intro mem
    have table : ∀ entry ∈ all, ∀ order ∈ [Order.arbitrary, .sorted, .insertion],
        entry.2 = set order → entry.1 ∈ Ty.sets ∧ orderOf entry.1 = order := by
      decide
    exact table _ mem order (by cases order <;> decide) rfl
  · rintro ⟨mem, rfl⟩
    have table : ∀ name ∈ Ty.sets, (name, set (orderOf name)) ∈ all := by decide
    exact table name mem

theorem mem_lists : (name, list) ∈ all ↔ name ∈ Ty.lists := by
  simp [all, Ty.lists]

/-- Arguments behind those that are looked at are ignored. -/
theorem shape?_append (made : family.shape? types = some shape) (more : List Ty) :
    family.shape? (types ++ more) = some shape := by
  unfold shape? at made
  split at made
  all_goals cases made
  all_goals rfl

theorem isSorted_iff (mem : (name, family) ∈ all) (made : family.shape? types = some shape) :
    shape.isSorted = true ↔ name = "BTreeMap" ∨ name = "BTreeSet" := by
  have table : ∀ entry ∈ all, (entry.2 = .map .sorted ∨ entry.2 = .set .sorted ↔
      entry.1 = "BTreeMap" ∨ entry.1 = "BTreeSet") := by
    decide
  rw [← table _ mem]
  unfold shape? at made
  split at made <;> cases made <;> simp [Shape.isSorted]

end Family

namespace Ty

variable {ty other : Ty} {shape : Shape} {name wrapper : String} {types : List Ty}
  {family : Family}

/-- The name of the last segment and the types among its arguments, if it has arguments. -/
def head? : Ty → Option (String × List Ty)
  | .path (.mk _ _ (.mk name (.angled _ items _))) => some (name, items.filterMap Argument.type?)
  | _ => none

/-- The shape that the last segment stands for, if any. -/
def wrapped? (ty : Ty) : Option Shape :=
  ty.head?.bind fun (name, types) => (Family.all.lookup name).bind (·.shape? types)

theorem wrapped?_eq_some_iff : ty.wrapped? = some shape ↔ ∃ name types family,
    ty.head? = some (name, types) ∧ (name, family) ∈ Family.all ∧
      family.shape? types = some shape := by
  simp only [wrapped?, Option.bind_eq_some_iff, Prod.exists, Family.lookup_all, exists_and_left]

/-! The tests. -/

/-- What a type is tested for, one after the other. -/
def tests : List (Ty → Option Shape) :=
  [optionInner?, mapInner?, setInner?, listInner?]

theorem typeArguments?_eq_some_iff :
    ty.typeArguments? wrapper = some types ↔ ty.head? = some (wrapper, types) := by
  cases ty with
  | path path =>
      obtain ⟨leading, front, ⟨name, arguments⟩⟩ := path
      by_cases same : name = wrapper <;> cases arguments <;>
        simp [typeArguments?, head?, Path.last, Segment.name, Segment.arguments, same]
  | bound | other => simp [typeArguments?, head?]

/-- What is found under a name for wrappers of this kind. -/
def find? (family : Family) (wrapper : String) (ty : Ty) : Option Shape :=
  (ty.typeArguments? wrapper).bind family.shape?

theorem find?_eq_some_iff : find? family wrapper ty = some shape ↔
    ∃ types, ty.head? = some (wrapper, types) ∧ family.shape? types = some shape := by
  simp [find?, Option.bind_eq_some_iff, typeArguments?_eq_some_iff]

theorem wrapped?_of_find? (mem : (wrapper, family) ∈ Family.all)
    (found : find? family wrapper ty = some shape) : ty.wrapped? = some shape := by
  obtain ⟨types, head, made⟩ := find?_eq_some_iff.1 found
  exact wrapped?_eq_some_iff.2 ⟨wrapper, types, family, head, mem, made⟩

theorem optionInner?_eq (ty : Ty) : ty.optionInner? = find? .optional "Option" ty := by
  unfold optionInner? oneArgument? find?
  cases ty.typeArguments? "Option" with
  | none => rfl
  | some types => cases types <;> rfl

/-- Both traversals stop at one name. -/
theorem order_of_head? (head : ty.head? = some (name, types)) : ty.order = Family.orderOf name := by
  unfold head? at head
  split at head
  · cases head
    rfl
  · cases head

theorem mapInner?_eq (ty : Ty) :
    ty.mapInner? = maps.findSome? fun name => find? (.map (Family.orderOf name)) name ty := by
  unfold mapInner? twoArguments? find?
  congr 1
  funext name
  cases found : ty.typeArguments? name with
  | none => rfl
  | some types =>
      rw [order_of_head? (typeArguments?_eq_some_iff.1 found)]
      cases types with
      | nil => rfl
      | cons key rest => cases rest <;> rfl

theorem setInner?_eq (ty : Ty) :
    ty.setInner? = sets.findSome? fun name => find? (.set (Family.orderOf name)) name ty := by
  unfold setInner? oneArgument? find?
  congr 1
  funext name
  cases found : ty.typeArguments? name with
  | none => rfl
  | some types =>
      rw [order_of_head? (typeArguments?_eq_some_iff.1 found)]
      cases types <;> rfl

theorem listInner?_eq (ty : Ty) :
    ty.listInner? = lists.findSome? fun name => find? .list name ty := by
  unfold listInner? oneArgument? find?
  congr 1
  funext name
  cases ty.typeArguments? name with
  | none => rfl
  | some types => cases types <;> rfl

theorem wrapped?_of_test {test : Ty → Option Shape} (mem : test ∈ tests)
    (found : test ty = some shape) : ty.wrapped? = some shape := by
  simp only [tests, List.mem_cons, List.not_mem_nil, or_false] at mem
  obtain rfl | rfl | rfl | rfl := mem
  · rw [optionInner?_eq] at found
    exact wrapped?_of_find? (by decide) found
  · rw [mapInner?_eq] at found
    obtain ⟨name, named, found⟩ := List.exists_of_findSome?_eq_some found
    exact wrapped?_of_find? (Family.mem_maps.2 ⟨named, rfl⟩) found
  · rw [setInner?_eq] at found
    obtain ⟨name, named, found⟩ := List.exists_of_findSome?_eq_some found
    exact wrapped?_of_find? (Family.mem_sets.2 ⟨named, rfl⟩) found
  · rw [listInner?_eq] at found
    obtain ⟨name, named, found⟩ := List.exists_of_findSome?_eq_some found
    exact wrapped?_of_find? (Family.mem_lists.2 named) found

theorem exists_test_of_wrapped? (wrapped : ty.wrapped? = some shape) :
    ∃ test ∈ tests, (test ty).isSome = true := by
  obtain ⟨name, types, family, head, mem, made⟩ := wrapped?_eq_some_iff.1 wrapped
  have found : (find? family name ty).isSome = true := by
    rw [find?_eq_some_iff.2 ⟨types, head, made⟩]
    rfl
  cases family with
  | optional =>
      obtain rfl : name = "Option" := by simpa [Family.all] using mem
      exact ⟨optionInner?, by simp [tests], optionInner?_eq ty ▸ found⟩
  | map order =>
      refine ⟨mapInner?, by simp [tests], ?_⟩
      rw [mapInner?_eq, List.findSome?_isSome_iff]
      obtain ⟨named, rfl⟩ := Family.mem_maps.1 mem
      exact ⟨name, named, found⟩
  | set order =>
      refine ⟨setInner?, by simp [tests], ?_⟩
      rw [setInner?_eq, List.findSome?_isSome_iff]
      obtain ⟨named, rfl⟩ := Family.mem_sets.1 mem
      exact ⟨name, named, found⟩
  | list =>
      refine ⟨listInner?, by simp [tests], ?_⟩
      rw [listInner?_eq, List.findSome?_isSome_iff]
      exact ⟨name, Family.mem_lists.1 mem, found⟩

/-- Tests in any order find what the last segment stands for. -/
theorem findSome?_tests {order : List (Ty → Option Shape)} (perm : order.Perm tests) :
    order.findSome? (· ty) = ty.wrapped? := by
  have sound {found : Shape} (first : order.findSome? (· ty) = some found) :
      ty.wrapped? = some found := by
    obtain ⟨test, mem, answer⟩ := List.exists_of_findSome?_eq_some first
    exact wrapped?_of_test (perm.mem_iff.1 mem) answer
  cases first : order.findSome? (· ty) with
  | some found => exact (sound first).symm
  | none =>
      cases wrapped : ty.wrapped? with
      | none => rfl
      | some shape =>
          obtain ⟨test, mem, answer⟩ := exists_test_of_wrapped? wrapped
          rw [List.findSome?_eq_none_iff.1 first test (perm.mem_iff.2 mem)] at answer
          cases answer

theorem shape_eq (ty : Ty) : ty.shape = ty.wrapped?.getD .scalar := by
  rw [← findSome?_tests (.refl tests)]
  unfold shape tests
  simp only [List.findSome?_cons, List.findSome?_nil]
  cases ty.optionInner? <;> cases ty.mapInner? <;> cases ty.setInner? <;>
    cases ty.listInner? <;> rfl

theorem wrapped?_of_shape (container : ty.shape ≠ .scalar) : ty.wrapped? = some ty.shape := by
  rw [shape_eq] at container ⊢
  cases wrapped : ty.wrapped? with
  | none => exact absurd (by rw [wrapped]; rfl) container
  | some shape => rfl

theorem isSorted_iff (container : ty.shape ≠ .scalar) : ty.shape.isSorted = true ↔
    ∃ leading front name arguments, ty = .path (.mk leading front (.mk name arguments)) ∧
      (name = "BTreeMap" ∨ name = "BTreeSet") := by
  obtain ⟨name, types, family, head, mem, made⟩ :=
    wrapped?_eq_some_iff.1 (wrapped?_of_shape container)
  rw [Family.isSorted_iff mem made]
  unfold head? at head
  split at head
  · cases head
    constructor
    · exact fun named => ⟨_, _, _, _, rfl, named⟩
    · rintro ⟨_, _, _, _, same, named⟩
      cases same
      exact named
  · cases head

/-- The order is found in a traversal of its own, which agrees with the one for the shape. -/
theorem isSorted_eq (container : ty.shape ≠ .scalar) :
    ty.shape.isSorted = ty.isSortedContainer := by
  rw [Bool.eq_iff_iff, isSorted_iff container]
  cases ty with
  | path path =>
      obtain ⟨leading, front, ⟨name, arguments⟩⟩ := path
      have named : (Ty.path (.mk leading front (.mk name arguments))).isSortedContainer = true ↔
          name = "BTreeMap" ∨ name = "BTreeSet" := by
        simp [isSortedContainer, endsIn, sortedWrappers, Path.last, Segment.name]
      rw [named]
      constructor
      · rintro ⟨_, _, _, _, same, sorted⟩
        cases same
        exact sorted
      · exact fun sorted => ⟨_, _, _, _, rfl, sorted⟩
  | bound | other => simp [isSortedContainer, endsIn]

/-! Changes that classification does not see. -/

/-- A path is written differently: it leads elsewhere, or its last segment gets one more
argument that is no type. -/
inductive Respelled : Ty → Ty → Prop where
  | rerouted {leading leading' : Bool} {front front' : List Segment} {last : Segment} :
      Respelled (.path (.mk leading front last)) (.path (.mk leading' front' last))
  | inserted {leading turbofish trailing : Bool} {front : List Segment} {name : String}
      {before after : List Argument} {argument : Argument} (untyped : argument.type? = none) :
      Respelled
        (.path (.mk leading front (.mk name (.angled turbofish (before ++ after) trailing))))
        (.path (.mk leading front
          (.mk name (.angled turbofish (before ++ argument :: after) trailing))))

/-- A path is written differently, or its last segment gets one more type behind all others. -/
inductive Edited : Ty → Ty → Prop where
  | respelled {ty other : Ty} (respelled : Respelled ty other) : Edited ty other
  | appended {leading turbofish trailing : Bool} {front : List Segment} {name : String}
      {before after : List Argument} {more : Ty} (last : after.filterMap Argument.type? = []) :
      Edited (.path (.mk leading front (.mk name (.angled turbofish (before ++ after) trailing))))
        (.path (.mk leading front
          (.mk name (.angled turbofish (before ++ .type more :: after) trailing))))

theorem Respelled.head? (respelled : Respelled ty other) : other.head? = ty.head? := by
  cases respelled with
  | @rerouted _ _ _ _ last =>
      obtain ⟨name, arguments⟩ := last
      cases arguments <;> rfl
  | inserted untyped => simp [Ty.head?, untyped]

theorem Edited.head? (edited : Edited ty other) (head : ty.head? = some (name, types)) :
    ∃ more, other.head? = some (name, types ++ more) := by
  cases edited with
  | respelled respelled => exact ⟨[], by rw [respelled.head?, head, List.append_nil]⟩
  | @appended _ _ _ _ _ before after more last =>
      simp only [Ty.head?, List.filterMap_append, last, Option.some.injEq, Prod.mk.injEq] at head
      obtain ⟨rfl, rfl⟩ := head
      exact ⟨[more], by simp [Ty.head?, Argument.type?, last]⟩

theorem Edited.wrapped? (edited : Edited ty other) (wrapped : ty.wrapped? = some shape) :
    other.wrapped? = some shape := by
  obtain ⟨name, types, family, head, mem, made⟩ := wrapped?_eq_some_iff.1 wrapped
  obtain ⟨more, head⟩ := edited.head? head
  exact wrapped?_eq_some_iff.2
    ⟨name, types ++ more, family, head, mem, Family.shape?_append made more⟩

theorem head?_of_respelled (respelled : Relation.ReflTransGen Respelled ty other) :
    other.head? = ty.head? := by
  induction respelled with
  | refl => rfl
  | tail _ last ih => exact last.head?.trans ih

theorem wrapped?_of_edited (edited : Relation.ReflTransGen Edited ty other)
    (wrapped : ty.wrapped? = some shape) : other.wrapped? = some shape := by
  induction edited with
  | refl => exact wrapped
  | tail _ last ih => exact last.wrapped? ih

end Ty

/-! Qualified paths. -/

namespace Grammar

theorem atPunct_opening {trees : Trees} (opening : atPunct "<" trees = true) :
    ∃ gap spelling rest, trees = .leaf gap spelling (.punct '<') :: rest := by
  obtain _ | ⟨⟨gap, spelling, leaf⟩ | _, rest⟩ := trees
  · cases opening
  · cases leaf with
    | punct c =>
        by_cases same : '<' = c
        · subst same
          exact ⟨gap, spelling, rest, rfl⟩
        · simp [atPunct, punctRest?, same] at opening
    | _ => cases opening
  · cases opening

theorem type_of_opening (rules : Rules) (plus : Bool) {trees : Trees} (stray : Bool)
    (opening : atPunct "<" trees = true) : type rules plus ⟨trees, stray⟩ =
      (qualifiedPath rules .plain ⟨trees, stray⟩).map fun (code, left) => (.other code, left) := by
  obtain ⟨gap, spelling, rest, rfl⟩ := atPunct_opening opening
  have first : type rules plus ⟨.leaf gap spelling (.punct '<') :: rest, stray⟩ =
      quantified rules plus ⟨.leaf gap spelling (.punct '<') :: rest, stray⟩ := rfl
  have second : pathType rules plus [] ⟨.leaf gap spelling (.punct '<') :: rest, stray⟩ =
      (qualifiedPath rules .plain ⟨.leaf gap spelling (.punct '<') :: rest, stray⟩).map
        fun (code, left) => (.other code, left) := by
    change (qualifiedPath rules .plain _).bind (fun (code, left) => some (Ty.other code, left)) = _
    cases qualifiedPath rules .plain _ <;> rfl
  rw [first, ← second]
  change ((pathType rules plus [] _).bind _ |>.map _).bind _ = _
  cases pathType rules plus [] ⟨.leaf gap spelling (.punct '<') :: rest, stray⟩ <;> rfl

end Grammar

namespace Ty

/-- The last segment of a path settles the shape of a type. -/
structure Shallow (ty : Ty) : Prop where
  shape : ty.shape = ((head? ty).bind fun (name, types) =>
    (Family.all.lookup name).bind (·.shape? types)).getD .scalar
  sorted : ty.shape ≠ .scalar → (ty.shape.isSorted = true ↔
    ∃ leading front name arguments, ty = .path (.mk leading front (.mk name arguments)) ∧
      (name = "BTreeMap" ∨ name = "BTreeSet"))
  traversals : ty.shape ≠ .scalar → ty.shape.isSorted = ty.isSortedContainer
  respelled : ∀ other, Relation.ReflTransGen Respelled ty other → other.shape = ty.shape
  edited : ∀ other, Relation.ReflTransGen Edited ty other → ty.shape ≠ .scalar →
    other.shape = ty.shape
  unordered : ∀ order : List (Ty → Option Shape), order.Perm tests →
    (order.findSome? (· ty)).getD .scalar = ty.shape
  /-- A path with a qualification in front is kept as code. -/
  qualified : ∀ rules plus trees stray left, Grammar.atPunct "<" trees = true →
    Grammar.type rules plus ⟨trees, stray⟩ = some (ty, left) → ty.shape = .scalar

/-- Classification looks at the outermost container only, and no test gets in the way of
another. -/
theorem shallow (ty : Ty) : ty.Shallow where
  shape := shape_eq ty
  sorted := isSorted_iff
  traversals := isSorted_eq
  respelled other steps := by
    rw [shape_eq, shape_eq, wrapped?, wrapped?, head?_of_respelled steps]
  edited other steps container := by
    rw [shape_eq other, wrapped?_of_edited steps (wrapped?_of_shape container), Option.getD_some]
  unordered order perm := by
    rw [findSome?_tests perm, shape_eq]
  qualified rules plus trees stray left opening read := by
    rw [Grammar.type_of_opening rules plus stray opening] at read
    obtain ⟨⟨code, _⟩, -, same⟩ := Option.map_eq_some_iff.1 read
    cases same
    rfl

end Ty
end StructBuilder
