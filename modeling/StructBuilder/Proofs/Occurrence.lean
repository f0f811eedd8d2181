import Mathlib.Data.List.Basic
import Mathlib.Order.Bounds.Defs
import StructBuilder.Text.Occurrence

/-!
Occurrences of one text in another. Resuming behind each occurrence misses nothing: of any
occurrences that keep apart, at most one begins inside the first that the count takes, and all
others lie behind it. Whatever white space a text has, it is searched like the text without it.
-/

namespace StructBuilder.Text

/-! Occurrences that keep apart. -/

/-- The needle stands at each of these places of the text, and no two of them overlap. -/
structure Apart (needle text : List Char) (places : List Nat) : Prop where
  occurs : ∀ place ∈ places, needle <+: text.drop place
  apart : places.Pairwise fun one other =>
    one + needle.length ≤ other ∨ other + needle.length ≤ one

section

variable {needle text : List Char} {places : List Nat} {n : Nat}

theorem Apart.raised (here : Apart needle (text.drop n) places) :
    Apart needle text (places.map (· + n)) := by
  refine ⟨fun place mem => ?_, ?_⟩
  · obtain ⟨behind, found, rfl⟩ := List.mem_map.1 mem
    rw [Nat.add_comm, ← List.drop_drop]
    exact here.occurs behind found
  · rw [List.pairwise_map]
    exact here.apart.imp fun {one other} apart => by omega

theorem Apart.lowered (here : Apart needle text places) (n : Nat) :
    Apart needle (text.drop n) ((places.filter (n ≤ ·)).map (· - n)) := by
  refine ⟨fun place mem => ?_, ?_⟩
  · obtain ⟨other, found, rfl⟩ := List.mem_map.1 mem
    rw [List.mem_filter, decide_eq_true_iff] at found
    rw [List.drop_drop, Nat.add_sub_cancel' found.2]
    exact here.occurs other found.1
  · rw [List.pairwise_map]
    refine (here.apart.filter _).imp_of_mem fun {one other} first second apart => ?_
    rw [List.mem_filter, decide_eq_true_iff] at first second
    omega

theorem Apart.preceded (occurs : needle <+: text)
    (here : Apart needle (text.drop needle.length) places) :
    Apart needle text (0 :: places.map (· + needle.length)) := by
  refine ⟨List.forall_mem_cons.2 ⟨occurs, here.raised.occurs⟩,
    List.pairwise_cons.2 ⟨fun other mem => ?_, here.raised.apart⟩⟩
  obtain ⟨behind, -, rfl⟩ := List.mem_map.1 mem
  exact .inl (by omega)

/-- Of places that keep apart, one at most is before the end of an occurrence at the front. -/
theorem Apart.length_filter_le (here : Apart needle text places) :
    (places.filter fun place => !decide (needle.length ≤ place)).length ≤ 1 := by
  have crowded : (places.filter fun place => !decide (needle.length ≤ place)).Pairwise
      fun _ _ => False := by
    refine (here.apart.filter _).imp_of_mem fun {one other} first second apart => ?_
    rw [List.mem_filter, Bool.not_eq_true', decide_eq_false_iff_not] at first second
    omega
  match found : places.filter fun place => !decide (needle.length ≤ place) with
  | [] => exact Nat.zero_le 1
  | [_] => exact Nat.le_refl 1
  | one :: other :: rest =>
      rw [found] at crowded
      exact (List.rel_of_pairwise_cons crowded List.mem_cons_self).elim

end

section

variable {first : Char} {others text : List Char} {places : List Nat}

theorem exists_apart (first : Char) (others text : List Char) :
    ∃ places, Apart (first :: others) text places ∧
      places.length = countFrom first others text := by
  fun_induction countFrom first others text with
  | case1 => exact ⟨[], ⟨nofun, .nil⟩, rfl⟩
  | case2 c rest occurs ih =>
      obtain ⟨places, apart, length⟩ := ih
      exact ⟨_, .preceded (List.isPrefixOf_iff_prefix.1 occurs) apart, by simp [length]⟩
  | case3 c rest _ ih =>
      obtain ⟨places, apart, length⟩ := ih
      exact ⟨_, Apart.raised (n := 1) apart, by simp [length]⟩

theorem Apart.length_le (here : Apart (first :: others) text places) :
    places.length ≤ countFrom first others text := by
  fun_induction countFrom first others text generalizing places with
  | case1 =>
      rcases places with _ | ⟨place, rest⟩
      · exact Nat.le_refl 0
      · have occurs := here.occurs place List.mem_cons_self
        simp at occurs
  | case2 c rest occurs ih =>
      have behind := ih (here.lowered (others.length + 1))
      rw [List.length_map] at behind
      have inside := here.length_filter_le
      calc places.length
        _ = (places.filter (others.length + 1 ≤ ·)).length +
              (places.filter fun place => !decide (others.length + 1 ≤ place)).length :=
            List.length_eq_length_filter_add _
        _ ≤ countFrom first others (rest.drop others.length) + 1 := Nat.add_le_add behind inside
  | case3 c rest absent ih =>
      have all : places.filter (1 ≤ ·) = places := by
        rw [List.filter_eq_self]
        rintro (_ | place) mem
        · exact absurd (List.isPrefixOf_iff_prefix.2 (here.occurs 0 mem)) absent
        · simp
      have behind := ih (here.lowered 1)
      rwa [all, List.length_map] at behind

theorem isGreatest_countFrom (first : Char) (others text : List Char) :
    IsGreatest {number | ∃ places, Apart (first :: others) text places ∧ places.length = number}
      (countFrom first others text) := by
  refine ⟨exists_apart first others text, ?_⟩
  rintro _ ⟨places, apart, rfl⟩
  exact apart.length_le

theorem occursIn_eq_decide (first : Char) (others text : List Char) :
    occursIn (first :: others) text = decide (1 ≤ countFrom first others text) := by
  fun_induction countFrom first others text with
  | case1 => rfl
  | case2 c rest occurs ih => simp [occursIn, occurs]
  | case3 c rest absent ih => rw [occursIn, ih, Bool.eq_false_iff.2 absent, Bool.false_or]

end

theorem occursIn_iff (needle text : List Char) :
    occursIn needle text = true ↔ 1 ≤ count needle text := by
  cases needle with
  | nil => cases text <;> simp [occursIn, count]
  | cons first others => rw [occursIn_eq_decide, decide_eq_true_iff, count]

/-! White space. -/

/-- White space is put in or taken out, a character at a time. -/
inductive Respaced (text : List Char) : List Char → Prop
  | refl : Respaced text text
  | insert {before after : List Char} {c : Char} (blank : Unicode.isWhitespace c = true) :
      Respaced text (before ++ after) → Respaced text (before ++ c :: after)
  | delete {before after : List Char} {c : Char} (blank : Unicode.isWhitespace c = true) :
      Respaced text (before ++ c :: after) → Respaced text (before ++ after)

theorem squeeze_insert {c : Char} (blank : Unicode.isWhitespace c = true)
    (before after : List Char) :
    squeeze (before ++ c :: after) = squeeze (before ++ after) := by
  simp [squeeze, blank]

theorem Respaced.squeeze {text other : List Char} (respaced : Respaced text other) :
    squeeze other = Text.squeeze text := by
  induction respaced with
  | refl => rfl
  | insert blank _ ih => exact (squeeze_insert blank _ _).trans ih
  | delete blank _ ih => exact (squeeze_insert blank _ _).symm.trans ih

theorem countOccurrences_respaced {haystack needle spread sought : String}
    (around : Respaced haystack.toList spread.toList)
    (within : Respaced needle.toList sought.toList) :
    countOccurrences spread sought = countOccurrences haystack needle := by
  rw [countOccurrences, around.squeeze, within.squeeze, countOccurrences]

/-! Searches. -/

theorem ensureContains_eq (haystack needle : String) : ensureContains haystack needle =
    if 1 ≤ countOccurrences haystack needle then .ok () else .error (.absent needle) :=
  if_congr (occursIn_iff _ _) rfl rfl

theorem ensureLacks_eq (haystack needle : String) : ensureLacks haystack needle =
    if countOccurrences haystack needle = 0 then .ok () else .error (.present needle) := by
  have lacking : countOccurrences haystack needle = 0 ↔
      ¬occursIn (squeeze needle.toList) (squeeze haystack.toList) = true := by
    rw [occursIn_iff, countOccurrences]
    omega
  rw [ensureLacks, if_congr lacking rfl rfl, ite_not]

theorem isGreatest_countOccurrences {haystack needle : String}
    (solid : ∃ c ∈ needle.toList, Unicode.isWhitespace c = false) :
    IsGreatest {number | ∃ places,
        Apart (normalize needle).toList (normalize haystack).toList places ∧
          places.length = number}
      (countOccurrences haystack needle) := by
  obtain ⟨c, mem, solid⟩ := solid
  simp only [normalize, String.toList_ofList, countOccurrences]
  cases found : squeeze needle.toList with
  | nil =>
      have kept : c ∈ squeeze needle.toList := List.mem_filter.2 ⟨mem, by rw [solid]; rfl⟩
      rw [found] at kept
      cases kept
  | cons first others => exact isGreatest_countFrom first others _

/-- What a search finds of one text in another. -/
structure Searched (haystack needle : String) : Prop where
  greatest : (∃ c ∈ needle.toList, Unicode.isWhitespace c = false) →
    IsGreatest {number | ∃ places,
        Apart (normalize needle).toList (normalize haystack).toList places ∧
          places.length = number}
      (countOccurrences haystack needle)
  contained : ensureContains haystack needle =
    if 1 ≤ countOccurrences haystack needle then .ok () else .error (.absent needle)
  lacking : ensureLacks haystack needle =
    if countOccurrences haystack needle = 0 then .ok () else .error (.present needle)
  respaced : ∀ spread sought : String, Respaced haystack.toList spread.toList →
    Respaced needle.toList sought.toList →
      countOccurrences spread sought = countOccurrences haystack needle ∧
        (ensureContains spread sought).isOk = (ensureContains haystack needle).isOk ∧
          (ensureLacks spread sought).isOk = (ensureLacks haystack needle).isOk

/-- The count is the most that can be found without overlap, the two checks agree with it, and
none of the three sees white space. -/
theorem searched (haystack needle : String) : Searched haystack needle where
  greatest := isGreatest_countOccurrences
  contained := ensureContains_eq haystack needle
  lacking := ensureLacks_eq haystack needle
  respaced spread sought around within := by
    have same := countOccurrences_respaced around within
    refine ⟨same, ?_, ?_⟩
    · rw [ensureContains_eq, ensureContains_eq, same]
      split <;> rfl
    · rw [ensureLacks_eq, ensureLacks_eq, same]
      split <;> rfl

example : countOccurrences "a ba ba ba" "a b a" = 2 := by cbv

end StructBuilder.Text
