import Mathlib.Data.List.NodupEquivFin
import StructBuilder.Proofs.CaseTables
import StructBuilder.Property.Marker

/-!
Markers of one builder are distinct. No camel case form contains an underscore: words
are made of letters and digits, and no letter has an underscore in its other case. So
a suffixed marker gives back both the marker and the position it was made from, and
no marker without a suffix is equal to it.
-/

namespace StructBuilder

namespace Text

/-! Characters of a capital form. -/

theorem flatten_chunks (letters : List Char) :
    (chunks letters).flatten = letters.filter Unicode.isAlphanumeric := by
  induction letters with
  | nil => rfl
  | cons c rest ih =>
      rw [chunks, List.filter_cons]
      split
      · split <;> simp_all
      · exact ih

theorem flatten_cutAtCase {run : Run} {word letters : List Char} (nonempty : letters ≠ []) :
    (cutAtCase run word letters).flatten = word.reverse ++ letters := by
  fun_induction cutAtCase run word letters with
  | case1 => exact absurd rfl nonempty
  | case2 => simp
  | case3 | case4 | case5 => simp_all

/-- The words of a name are made of its letters and digits, in order. -/
theorem flatten_words (name : String) :
    ((chunks name.toList).flatMap (cutAtCase .fresh [])).flatten =
      name.toList.filter Unicode.isAlphanumeric := by
  rw [← flatten_chunks]
  induction chunks name.toList with
  | nil => rfl
  | cons chunk rest ih =>
      rw [List.flatMap_cons, List.flatten_append, ih, List.flatten_cons]
      cases chunk with
      | nil => rfl
      | cons c chunk => rw [flatten_cutAtCase (List.cons_ne_nil c chunk)]; rfl

section

variable {holds : Char → Prop} (upper : ∀ {c}, holds c → ∀ d ∈ Unicode.toUpper c, holds d)
  (lower : ∀ {c}, holds c → ∀ d ∈ Unicode.toLower c, holds d) (sigma : holds 'ς')

include lower sigma

theorem forall_mem_toLowerWord {word : List Char} (all : ∀ c ∈ word, holds c) :
    ∀ d ∈ toLowerWord word, holds d := by
  fun_induction toLowerWord word with
  | case1 => exact nofun
  | case2 =>
      intro d mem
      cases List.mem_singleton.1 mem
      exact sigma
  | case3 c _ => exact lower (all c List.mem_cons_self)
  | case4 c rest _ ih =>
      obtain ⟨first, others⟩ := List.forall_mem_cons.1 all
      intro d mem
      exact (List.mem_append.1 mem).elim (lower first d) (ih others d)

include upper

/-- What both case mappings keep, and what holds of the final sigma, holds of every character
of a form if it holds of the letters and digits of the name. -/
theorem forall_mem_upperCamel {name : String}
    (all : ∀ c ∈ name.toList, Unicode.isAlphanumeric c = true → holds c) :
    ∀ d ∈ (upperCamel name).toList, holds d := by
  have words : ∀ word ∈ (chunks name.toList).flatMap (cutAtCase .fresh []), ∀ c ∈ word, holds c := by
    intro word mem c inside
    have letter := List.mem_flatten_of_mem mem inside
    rw [flatten_words, List.mem_filter] at letter
    exact all c letter.1 letter.2
  intro d mem
  rw [upperCamel, String.toList_ofList] at mem
  obtain ⟨word, mem, inside⟩ := List.mem_flatMap.1 mem
  have all := words word mem
  cases word with
  | nil => cases inside
  | cons c rest =>
      obtain ⟨first, others⟩ := List.forall_mem_cons.1 all
      exact (List.mem_append.1 inside).elim (upper first d)
        (forall_mem_toLowerWord lower sigma others d)

end

theorem underscore_not_mem_upperCamel (name : String) : '_' ∉ (upperCamel name).toList := by
  have plain : ∀ c ∈ name.toList, Unicode.isAlphanumeric c = true → c ≠ '_' := by
    rintro _ - alphanumeric rfl
    exact absurd alphanumeric (by decide +kernel)
  intro mem
  refine @forall_mem_upperCamel (· ≠ '_') ?_ ?_ (by decide) name plain '_' mem rfl
  · rintro c plain _ image rfl
    exact Unicode.underscore_not_mem_toUpper plain image
  · rintro c plain _ image rfl
    exact Unicode.underscore_not_mem_toLower plain image

/-- What stands before the first mark. -/
theorem takeWhile_append_cons {mark : Char} {front : List Char} (plain : mark ∉ front)
    (rest : List Char) : (front ++ mark :: rest).takeWhile (· != mark) = front := by
  have all : ∀ c ∈ front, (c != mark) = true := by
    intro c hc
    exact bne_iff_ne.2 fun eq => plain (eq ▸ hc)
  simp [List.takeWhile_append_of_pos all]

end Text

namespace Marker

theorem underscore_not_mem_ofName (name : String) : '_' ∉ (ofName name).toList := by
  have h := Text.underscore_not_mem_upperCamel name
  simp only [ofName]
  split
  · simpa using h
  · exact h

/-- The text before the only underscore is the marker. -/
theorem toList_takeWhile_suffixed {marker : String} (h : '_' ∉ marker.toList) (position : Nat) :
    (suffixed marker position).toList.takeWhile (· != '_') = marker.toList := by
  simp [suffixed, Text.takeWhile_append_cons h]

theorem suffixed_ne {marker other : String} (h : '_' ∉ other.toList) (position : Nat) :
    suffixed marker position ≠ other := by
  intro eq
  apply h
  simp [← eq, suffixed]

theorem suffixed_inj {left right : String} {i j : Nat} (hl : '_' ∉ left.toList)
    (hr : '_' ∉ right.toList) (h : suffixed left i = suffixed right j) : i = j := by
  have same : left.toList = right.toList := by
    rw [← toList_takeWhile_suffixed hl i, h, toList_takeWhile_suffixed hr]
  have digits : Nat.toDigits 10 i = Nat.toDigits 10 j := by
    have := congrArg String.toList h
    simpa [suffixed, same] using this
  rw [← Nat.ofDigitChars_ten_toDigits (n := i), digits, Nat.ofDigitChars_ten_toDigits]

@[simp] theorem length_disambiguate (markers : List String) :
    (disambiguate markers).length = markers.length := by
  simp [disambiguate]

/-- Markers that share their camel case form differ in their positions, all others in
the form itself. -/
theorem nodup_disambiguate {markers : List String} (h : ∀ marker ∈ markers, '_' ∉ marker.toList) :
    (disambiguate markers).Nodup := by
  rw [List.nodup_iff_getElem?_ne_getElem?]
  intro i j hij hj eq
  rw [length_disambiguate] at hj
  have hi : i < markers.length := Nat.lt_trans hij hj
  have plainI := h _ (List.getElem_mem hi)
  have plainJ := h _ (List.getElem_mem hj)
  simp only [disambiguate, List.getElem?_mapIdx, List.getElem?_eq_getElem hi,
    List.getElem?_eq_getElem hj, Option.map_some, Option.some.injEq] at eq
  split at eq <;> split at eq
  · exact Nat.ne_of_lt hij (suffixed_inj plainI plainJ eq)
  · exact suffixed_ne plainJ _ eq
  · exact suffixed_ne plainI _ eq.symm
  · rename_i once _
    exact once (List.duplicate_iff_two_le_count.1
      (List.duplicate_iff_exists_distinct_get.2 ⟨⟨i, hi⟩, ⟨j, hj⟩, hij, rfl, eq⟩))

end Marker
end StructBuilder
