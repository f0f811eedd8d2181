import Mathlib.Algebra.Group.Nat.Defs
import Mathlib.Tactic.Common
import StructBuilder.Unicode.CaseMap
import StructBuilder.Unicode.Identifier

/-!
Case mappings against character classes. The tables are compared range by range: no letter
has an underscore or a small letter as its capital, and what may stand inside an identifier
may stand there in both cases.
-/

namespace StructBuilder.Unicode

/-- A character has one image, several ones, or itself. -/
theorem mapCase_cases (shifts : Shifts) (sequences : List (Nat × List Nat)) (c : Char) :
    (∃ n, shifts.image? c.toNat = some n ∧ mapCase shifts sequences c = [Char.ofNat n]) ∨
    (∃ images, (c.toNat, images) ∈ sequences ∧
      mapCase shifts sequences c = images.map Char.ofNat) ∨
    shifts.image? c.toNat = none ∧ mapCase shifts sequences c = [c] := by
  unfold mapCase
  cases image : shifts.image? c.toNat with
  | some n => exact .inl ⟨n, rfl, rfl⟩
  | none =>
      cases found : sequences.lookup c.toNat with
      | none => exact .inr (.inr ⟨rfl, rfl⟩)
      | some images =>
          obtain ⟨before, after, split, _⟩ := List.lookup_eq_some_iff.1 found
          exact .inr (.inl ⟨images, by simp [split], rfl⟩)

theorem toNat_ofNat (n : Nat) : (Char.ofNat n).toNat = n ∨ (Char.ofNat n).toNat = 0 := by
  by_cases valid : n.isValidChar
  · rw [Char.ofNat, dif_pos valid]
    exact .inl rfl
  · rw [Char.ofNat, dif_neg valid]
    exact .inr rfl

/-! Characters that are no image. -/

/-- No member of the runs is shifted to one of these code points. -/
def Shifts.avoids (low high : Nat) (shifts : Shifts) : Bool :=
  shifts.all fun (first, last, _, image) => high < image || image + (last - first) < low

theorem Shifts.outside_image? {low high n m : Nat} {shifts : Shifts}
    (avoids : shifts.avoids low high = true) (image : shifts.image? n = some m) :
    m < low ∨ high < m := by
  induction shifts with
  | nil => cases image
  | cons entry rest ih =>
      obtain ⟨first, last, step, start⟩ := entry
      simp only [Shifts.avoids, List.all_cons, Bool.and_eq_true, Bool.or_eq_true,
        decide_eq_true_eq] at avoids
      simp only [Shifts.image?] at image
      split at image
      · cases image
      · split at image
        · next within =>
          simp only [Bool.and_eq_true, decide_eq_true_eq] at within
          cases image
          omega
        · exact ih avoids.2 image

/-- No image is one of these code points, unless a character is its own image. -/
structure Avoided (low high : Nat) (shifts : Shifts) (sequences : List (Nat × List Nat)) : Prop where
  shifts : shifts.avoids low high = true
  sequences : ∀ entry ∈ sequences, ∀ n ∈ entry.2, n < low ∨ high < n

theorem outside_mapCase {low high : Nat} (positive : 0 < low) {shifts : Shifts}
    {sequences : List (Nat × List Nat)} (avoided : Avoided low high shifts sequences) {c : Char}
    (unmapped : shifts.image? c.toNat = none → c.toNat < low ∨ high < c.toNat) {d : Char}
    (mem : d ∈ mapCase shifts sequences c) : d.toNat < low ∨ high < d.toNat := by
  have settled {n : Nat} (outside : n < low ∨ high < n) :
      (Char.ofNat n).toNat < low ∨ high < (Char.ofNat n).toNat := by
    have := toNat_ofNat n
    omega
  rcases mapCase_cases shifts sequences c with ⟨n, image, eq⟩ | ⟨images, entry, eq⟩ | ⟨none, eq⟩
  · rw [eq, List.mem_singleton] at mem
    exact mem ▸ settled (Shifts.outside_image? avoided.shifts image)
  · rw [eq] at mem
    obtain ⟨n, inside, rfl⟩ := List.mem_map.1 mem
    exact settled (avoided.sequences _ entry n inside)
  · rw [eq, List.mem_singleton] at mem
    exact mem ▸ unmapped none

theorem ne_underscore_iff {c : Char} : c ≠ '_' ↔ c.toNat < 95 ∨ 95 < c.toNat := by
  have same : c = '_' ↔ c.toNat = 95 := ⟨fun eq => eq ▸ rfl, fun eq => Char.toNat_inj.1 eq⟩
  rw [ne_eq, same]
  omega

/-! Classes that are closed under images. -/

/-- The members of a table as the bits of a number. -/
def Ranges.mask : Ranges → Nat
  | [] => 0
  | (first, last) :: rest =>
      ((2 ^ (last + 1 - first) - 1) ||| (Ranges.mask rest >>> first)) <<< first

theorem Ranges.testBit_mask (ranges : Ranges) (n : Nat) :
    ranges.mask.testBit n = ranges.mem n := by
  induction ranges with
  | nil => exact Nat.zero_testBit n
  | cons range rest ih =>
      obtain ⟨first, last⟩ := range
      simp only [mask, mem, Nat.testBit_shiftLeft, Nat.testBit_or, Nat.testBit_two_pow_sub_one,
        Nat.testBit_shiftRight]
      split
      · next below => rw [decide_eq_false (Nat.not_le.2 below), Bool.false_and]
      · next above =>
          have within : n - first < last + 1 - first ↔ n ≤ last := by omega
          rw [Nat.add_sub_cancel' (Nat.le_of_not_lt above), ih, decide_eq_decide.2 within,
            decide_eq_true (Nat.le_of_not_lt above), Bool.true_and]

/-- The number is in one of the tables. -/
def inAny (tables : List Ranges) (n : Nat) : Bool :=
  tables.any (·.mem n)

def maskOf (tables : List Ranges) : Nat :=
  tables.foldr (fun table mask => table.mask ||| mask) 0

theorem testBit_maskOf (tables : List Ranges) (n : Nat) :
    (maskOf tables).testBit n = inAny tables n := by
  induction tables with
  | nil => exact Nat.zero_testBit n
  | cons table rest ih =>
      rw [maskOf, List.foldr_cons, Nat.testBit_or, Ranges.testBit_mask]
      exact congrArg (table.mem n || ·) ih

/-- Members are shifted to members: all those between the ends of a run, or else all images
are looked up. -/
def Shifts.stays (mask : Nat) (shifts : Shifts) : Bool :=
  shifts.all fun (first, last, step, image) =>
    ((mask >>> first) % 2 ^ (last + 1 - first)) &&& (mask >>> image) ==
      (mask >>> first) % 2 ^ (last + 1 - first) ||
      (List.range ((last - first) / step + 1)).all fun k => mask.testBit (image + k * step)

theorem Shifts.inAny_image? {tables : List Ranges} {shifts : Shifts} {n m : Nat}
    (stays : shifts.stays (maskOf tables) = true) (member : inAny tables n = true)
    (image : shifts.image? n = some m) : inAny tables m = true := by
  induction shifts with
  | nil => cases image
  | cons entry rest ih =>
      obtain ⟨first, last, step, start⟩ := entry
      simp only [Shifts.stays, List.all_cons, Bool.and_eq_true] at stays
      simp only [Shifts.image?] at image
      split at image
      · cases image
      · split at image
        · next low within =>
          simp only [Bool.and_eq_true, decide_eq_true_eq, beq_iff_eq] at within
          cases image
          rcases Bool.or_eq_true_iff.1 stays.1 with between | single
          · have bit : ((maskOf tables >>> first) % 2 ^ (last + 1 - first)).testBit (n - first) =
                true := by
              rw [Nat.testBit_mod_two_pow, Nat.testBit_shiftRight,
                Nat.add_sub_cancel' (Nat.le_of_not_lt low), testBit_maskOf, member,
                decide_eq_true (by omega), Bool.and_self]
            rw [← eq_of_beq between, Nat.testBit_and, Nat.testBit_shiftRight, testBit_maskOf] at bit
            exact (Bool.and_eq_true_iff.1 bit).2
          · have factor : step * ((n - first) / step) = n - first :=
              Nat.mul_div_cancel' (Nat.dvd_of_mod_eq_zero within.2)
            have bound : (n - first) / step < (last - first) / step + 1 :=
              Nat.lt_succ_of_le (Nat.div_le_div_right (by omega))
            have bit := List.all_eq_true.1 single _ (List.mem_range.2 bound)
            rwa [testBit_maskOf, Nat.mul_comm, factor] at bit
        · exact ih stays.2 image

/-- All members of the tables are characters. -/
def valid (tables : List Ranges) : Bool :=
  tables.all (·.all fun (first, last) =>
    Nat.blt last 0xd800 || (Nat.blt 0xdfff first && Nat.blt last 0x110000))

theorem Ranges.exists_of_mem {ranges : Ranges} {n : Nat} (holds : ranges.mem n = true) :
    ∃ first last, (first, last) ∈ ranges ∧ first ≤ n ∧ n ≤ last := by
  induction ranges with
  | nil => cases holds
  | cons range rest ih =>
      obtain ⟨first, last⟩ := range
      simp only [Ranges.mem] at holds
      split at holds
      · cases holds
      · rcases Bool.or_eq_true_iff.1 holds with here | later
        · exact ⟨first, last, .head _, by omega, of_decide_eq_true here⟩
        · obtain ⟨low, high, mem, bounds⟩ := ih later
          exact ⟨low, high, .tail _ mem, bounds⟩

theorem toNat_ofNat_of_inAny {tables : List Ranges} {n : Nat} (valid' : valid tables = true)
    (member : inAny tables n = true) : (Char.ofNat n).toNat = n := by
  obtain ⟨table, mem, holds⟩ := List.any_eq_true.1 member
  obtain ⟨first, last, range, above, below⟩ := Ranges.exists_of_mem holds
  have bounds := List.all_eq_true.1 (List.all_eq_true.1 valid' table mem) _ range
  simp only [Bool.or_eq_true, Bool.and_eq_true, Nat.blt_eq] at bounds
  have character : n.isValidChar := by
    unfold Nat.isValidChar
    omega
  rw [Char.ofNat, dif_pos character]
  rfl

/-- Tables that no case mapping leads out of. -/
structure Closed (tables : List Ranges) (shifts : Shifts) (sequences : List (Nat × List Nat)) :
    Prop where
  valid : valid tables = true
  stays : shifts.stays (maskOf tables) = true
  sequences : (sequences.all (·.2.all (maskOf tables).testBit)) = true

theorem Closed.inAny_of_mem {tables : List Ranges} {shifts : Shifts}
    {sequences : List (Nat × List Nat)} (closed : Closed tables shifts sequences) {c d : Char}
    (member : inAny tables c.toNat = true) (mem : d ∈ mapCase shifts sequences c) :
    inAny tables d.toNat = true := by
  have settled {n : Nat} (holds : inAny tables n = true) :
      inAny tables (Char.ofNat n).toNat = true := by
    rwa [toNat_ofNat_of_inAny closed.valid holds]
  rcases mapCase_cases shifts sequences c with ⟨n, image, eq⟩ | ⟨images, entry, eq⟩ | ⟨_, eq⟩
  · rw [eq, List.mem_singleton] at mem
    exact mem ▸ settled (Shifts.inAny_image? closed.stays member image)
  · rw [eq] at mem
    obtain ⟨n, inside, rfl⟩ := List.mem_map.1 mem
    have bit := List.all_eq_true.1 (List.all_eq_true.1 closed.sequences _ entry) n inside
    exact settled (testBit_maskOf tables n ▸ bit)
  · rw [eq, List.mem_singleton] at mem
    exact mem ▸ member

def partTables : List Ranges :=
  [identifierStartRanges, identifierPartRanges]

theorem inAny_partTables (c : Char) : inAny partTables c.toNat = isIdentifierPart c := by
  simp [inAny, partTables, isIdentifierPart]

/-! The tables. -/

/-- What is found by going through the tables. -/
structure Tabulated : Prop where
  upperUnderscore : Avoided 95 95 upperShifts upperSequences
  lowerUnderscore : Avoided 95 95 lowerShifts lowerSequences
  upperSmall : Avoided 97 122 upperShifts upperSequences
  mapped : ∀ k < 26, (upperShifts.image? (97 + k)).isSome = true
  filled : ∀ entry ∈ upperSequences, entry.2 ≠ []
  upperParts : Closed partTables upperShifts upperSequences
  lowerParts : Closed partTables lowerShifts lowerSequences
  validStarts : valid [identifierStartRanges] = true
  upperStarts : upperShifts.stays (maskOf [identifierStartRanges]) = true
  heads : (upperSequences.all (·.2.head?.all (maskOf [identifierStartRanges]).testBit)) = true
  underscore : isIdentifierPart '_' = true
  digits : ∀ k < 10, isIdentifierPart (Char.ofNat (48 + k)) = true
  sigma : isIdentifierPart 'ς' = true
  prefixed : isIdentifierStart 'P' = true
  self : isIdentifierStart 'S' = true

theorem tabulated : Tabulated where
  upperUnderscore := ⟨by decide +kernel, by decide +kernel⟩
  lowerUnderscore := ⟨by decide +kernel, by decide +kernel⟩
  upperSmall := ⟨by decide +kernel, by decide +kernel⟩
  mapped := by decide +kernel
  filled := by decide +kernel
  upperParts := ⟨by decide +kernel, by decide +kernel, by decide +kernel⟩
  lowerParts := ⟨by decide +kernel, by decide +kernel, by decide +kernel⟩
  validStarts := by decide +kernel
  upperStarts := by decide +kernel
  heads := by decide +kernel
  underscore := by decide +kernel
  digits := by decide +kernel
  sigma := by decide +kernel
  prefixed := by decide +kernel
  self := by decide +kernel

theorem underscore_not_mem_toUpper {c : Char} (plain : c ≠ '_') : '_' ∉ toUpper c :=
  fun mem => ne_underscore_iff.2 (outside_mapCase (by decide) tabulated.upperUnderscore
    (fun _ => ne_underscore_iff.1 plain) mem) rfl

theorem underscore_not_mem_toLower {c : Char} (plain : c ≠ '_') : '_' ∉ toLower c :=
  fun mem => ne_underscore_iff.2 (outside_mapCase (by decide) tabulated.lowerUnderscore
    (fun _ => ne_underscore_iff.1 plain) mem) rfl

/-- No capital is a small letter from `a` to `z`. -/
theorem not_small_of_mem_toUpper {c d : Char} (mem : d ∈ toUpper c) :
    d.toNat < 97 ∨ 122 < d.toNat := by
  refine outside_mapCase (by decide) tabulated.upperSmall (fun none => ?_) mem
  by_contra small
  have := tabulated.mapped (c.toNat - 97) (by omega)
  rw [show 97 + (c.toNat - 97) = c.toNat by omega, none] at this
  cases this

theorem toUpper_ne_nil (c : Char) : toUpper c ≠ [] := by
  rw [toUpper]
  rcases mapCase_cases upperShifts upperSequences c with ⟨_, _, eq⟩ | ⟨_, entry, eq⟩ | ⟨_, eq⟩
  · exact eq ▸ List.cons_ne_nil _ _
  · exact eq ▸ fun nil => tabulated.filled _ entry (List.map_eq_nil_iff.1 nil)
  · exact eq ▸ List.cons_ne_nil _ _

theorem isIdentifierPart_of_mem_toUpper {c d : Char} (part : isIdentifierPart c = true)
    (mem : d ∈ toUpper c) : isIdentifierPart d = true := by
  rw [← inAny_partTables] at part ⊢
  exact tabulated.upperParts.inAny_of_mem part mem

theorem isIdentifierPart_of_mem_toLower {c d : Char} (part : isIdentifierPart c = true)
    (mem : d ∈ toLower c) : isIdentifierPart d = true := by
  rw [← inAny_partTables] at part ⊢
  exact tabulated.lowerParts.inAny_of_mem part mem

/-- The capital of what may begin an identifier begins with what may begin one. -/
theorem isIdentifierStart_of_head?_toUpper {c d : Char} (start : isIdentifierStart c = true)
    (first : (toUpper c).head? = some d) : isIdentifierStart d = true := by
  have same (c : Char) : inAny [identifierStartRanges] c.toNat = isIdentifierStart c := by
    simp [inAny, isIdentifierStart]
  have settled {n : Nat} (holds : inAny [identifierStartRanges] n = true) :
      isIdentifierStart (Char.ofNat n) = true := by
    rwa [← same, toNat_ofNat_of_inAny tabulated.validStarts holds]
  rcases mapCase_cases upperShifts upperSequences c with
    ⟨n, image, eq⟩ | ⟨images, entry, eq⟩ | ⟨_, eq⟩
  · rw [toUpper, eq] at first
    cases first
    exact settled (Shifts.inAny_image? tabulated.upperStarts ((same c).trans start) image)
  · rw [toUpper, eq, List.head?_map] at first
    obtain ⟨n, head, rfl⟩ := Option.map_eq_some_iff.1 first
    have bit := List.all_eq_true.1 tabulated.heads _ entry
    rw [head] at bit
    exact settled (testBit_maskOf [identifierStartRanges] n ▸ bit)
  · rw [toUpper, eq] at first
    cases first
    exact start

end StructBuilder.Unicode
