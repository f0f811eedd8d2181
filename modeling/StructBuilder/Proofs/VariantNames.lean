import Mathlib.Data.List.TakeWhile
import StructBuilder.Grammar.Reader
import StructBuilder.Proofs.OptionFolds
import StructBuilder.Proofs.Variants

/-!
Which markers can name variants. All characters of a marker may stand inside an identifier,
as those of the field's name do, and no marker is a reserved word. But the letter in front is
only put before what is not alphabetic, and an alphabetic character need not be one that an
identifier may begin with: where such a character begins the form, derivation stops.
-/

namespace StructBuilder

namespace Text

/-- The form begins with the capital of the first letter or digit. -/
theorem head?_upperCamel (name : String) : (upperCamel name).toList.head? =
    (name.toList.find? Unicode.isAlphanumeric).bind fun c => (Unicode.toUpper c).head? := by
  have capitalized (words : List (List Char)) : (words.flatMap capitalize).head? =
      words.flatten.head?.bind fun c => (Unicode.toUpper c).head? := by
    induction words with
    | nil => rfl
    | cons word rest ih =>
        cases word with
        | nil => exact ih
        | cons c letters =>
            obtain ⟨d, more, upper⟩ := List.exists_cons_of_ne_nil (Unicode.toUpper_ne_nil c)
            simp [capitalize, upper]
  rw [upperCamel, String.toList_ofList, capitalized, flatten_words, List.head?_filter]

theorem isIdentifierPart_upperCamel {name : String}
    (parts : ∀ c ∈ name.toList, Unicode.isIdentifierPart c = true) :
    ∀ d ∈ (upperCamel name).toList, Unicode.isIdentifierPart d = true :=
  forall_mem_upperCamel (fun part _ => Unicode.isIdentifierPart_of_mem_toUpper part)
    (fun part _ => Unicode.isIdentifierPart_of_mem_toLower part) Unicode.tabulated.sigma
    fun c mem _ => parts c mem

end Text

namespace Unicode

theorem isIdentifier_iff {text : String} : isIdentifier text = true ↔
    ∃ c rest, text.toList = c :: rest ∧ (isIdentifierStart c = true ∨ c = '_') ∧
      ∀ d ∈ rest, isIdentifierPart d = true := by
  rw [isIdentifier]
  cases text.toList with
  | nil => simp
  | cons c rest => simp

theorem isIdentifierPart_of_isIdentifierStart {c : Char} (start : isIdentifierStart c = true) :
    isIdentifierPart c = true :=
  Bool.or_eq_true_iff.2 (.inl start)

theorem isIdentifierPart_of_isIdentifier {text : String} (identifier : isIdentifier text = true) :
    ∀ c ∈ text.toList, isIdentifierPart c = true := by
  obtain ⟨c, rest, eq, first, parts⟩ := isIdentifier_iff.1 identifier
  rw [eq]
  refine List.forall_mem_cons.2 ⟨?_, parts⟩
  rcases first with start | rfl
  · exact isIdentifierPart_of_isIdentifierStart start
  · exact tabulated.underscore

theorem isIdentifierPart_of_isDigit {c : Char} (digit : c.isDigit = true) :
    isIdentifierPart c = true := by
  simp only [Char.isDigit, Bool.and_eq_true, decide_eq_true_eq] at digit
  have above : 48 ≤ c.toNat := digit.1
  have below : c.toNat ≤ 57 := digit.2
  have holds := tabulated.digits (c.toNat - 48) (by omega)
  rwa [Nat.add_sub_cancel' above, Char.ofNat_toNat] at holds

end Unicode

namespace Marker

/-- The form of the name begins with an alphabetic character that begins no identifier. -/
def Misled (name : String) : Prop :=
  ∃ c d, name.toList.find? Unicode.isAlphanumeric = some c ∧
    (Unicode.toUpper c).head? = some d ∧ Unicode.isAlphabetic d = true ∧
    Unicode.isIdentifierStart d = false

instance (name : String) : Decidable (Misled name) :=
  decidable_of_iff ((name.toList.find? Unicode.isAlphanumeric).any fun c =>
    (Unicode.toUpper c).head?.any fun d =>
      Unicode.isAlphabetic d && !Unicode.isIdentifierStart d) (by
    simp [Misled, Option.any_eq_true])

/-- What may begin an identifier does so as a capital as well. -/
theorem not_misled_of_isIdentifierStart {name : String} {c : Char}
    (found : name.toList.find? Unicode.isAlphanumeric = some c)
    (start : Unicode.isIdentifierStart c = true) : ¬Misled name := by
  rintro ⟨_, d, found', upper, -, other⟩
  cases found.symm.trans found'
  cases (Unicode.isIdentifierStart_of_head?_toUpper start upper).symm.trans other

/-- A form gets a letter in front, or it begins with an alphabetic character. -/
theorem ofName_cases (name : String) :
    (ofName name = "P" ++ Text.upperCamel name ∧ (Text.upperCamel name = "Self" ∨
      ∀ d, (Text.upperCamel name).toList.head? = some d → Unicode.isAlphabetic d = false)) ∨
    (ofName name = Text.upperCamel name ∧ Text.upperCamel name ≠ "Self" ∧
      ∃ d, (Text.upperCamel name).toList.head? = some d ∧ Unicode.isAlphabetic d = true) := by
  simp only [ofName]
  generalize Text.upperCamel name = camel
  split
  · next letter =>
    refine .inl ⟨rfl, (Bool.or_eq_true_iff.1 letter).imp eq_of_beq fun other d head => ?_⟩
    simpa [head] using other
  · next other =>
    rw [Bool.or_eq_true_iff, not_or, beq_iff_eq, Bool.not_eq_true', Bool.not_eq_false,
      Option.any_eq_true] at other
    exact .inr ⟨rfl, other⟩

theorem isIdentifier_ofName_iff {name : String} (identifier : Unicode.isIdentifier name = true) :
    Unicode.isIdentifier (ofName name) = true ↔ ¬Misled name := by
  have parts := Text.isIdentifierPart_upperCamel (Unicode.isIdentifierPart_of_isIdentifier identifier)
  have head := Text.head?_upperCamel name
  have plain := Text.underscore_not_mem_upperCamel name
  rcases ofName_cases name with ⟨eq, letter⟩ | ⟨eq, -, d, first, alphabetic⟩
  · refine iff_of_true ?_ ?_
    · rw [eq]
      exact Unicode.isIdentifier_iff.2
        ⟨'P', _, String.toList_append.trans rfl, .inl Unicode.tabulated.prefixed, parts⟩
    · rintro ⟨c, d, found, upper, alphabetic, other⟩
      have first : (Text.upperCamel name).toList.head? = some d := by
        rw [head, found]
        exact upper
      rcases letter with self | none
      · rw [self] at first
        cases first
        exact Bool.noConfusion (other.symm.trans Unicode.tabulated.self)
      · cases alphabetic.symm.trans (none d first)
  · have camel := first
    rw [head, Option.bind_eq_some_iff] at first
    obtain ⟨c, found, upper⟩ := first
    obtain ⟨rest, text⟩ := List.head?_eq_some_iff.1 camel
    have misled : Misled name ↔ Unicode.isIdentifierStart d = false := by
      constructor
      · rintro ⟨_, _, found', upper', -, other⟩
        cases found.symm.trans found'
        cases upper.symm.trans upper'
        exact other
      · exact fun other => ⟨c, d, found, upper, alphabetic, other⟩
    rw [text] at parts plain
    rw [eq, misled, Bool.not_eq_false, Unicode.isIdentifier_iff]
    constructor
    · rintro ⟨_, _, text', start, -⟩
      cases text.symm.trans text'
      exact start.resolve_right fun same => plain (same ▸ List.mem_cons_self)
    · exact fun start => ⟨d, rest, text, .inl start, (List.forall_mem_cons.1 parts).2⟩

theorem isIdentifier_suffixed_iff {marker : String} (nonempty : marker.toList ≠ [])
    (position : Nat) : Unicode.isIdentifier (suffixed marker position) = true ↔
      Unicode.isIdentifier marker = true := by
  obtain ⟨c, rest, text⟩ := List.exists_cons_of_ne_nil nonempty
  have suffix : (suffixed marker position).toList =
      c :: (rest ++ '_' :: (toString position).toList) := by
    simp [suffixed, text]
  have digits : ∀ d ∈ '_' :: (toString position).toList, Unicode.isIdentifierPart d = true := by
    refine List.forall_mem_cons.2 ⟨Unicode.tabulated.underscore, fun d mem => ?_⟩
    rw [Nat.toString_eq_repr, Nat.toList_repr] at mem
    exact Unicode.isIdentifierPart_of_isDigit
      (Nat.isDigit_of_mem_toDigits (by decide) (by decide) mem)
  rw [Unicode.isIdentifier_iff, Unicode.isIdentifier_iff, suffix, text]
  constructor
  · rintro ⟨_, _, ⟨⟩, start, parts⟩
    exact ⟨c, rest, rfl, start, fun d mem => parts d (List.mem_append_left _ mem)⟩
  · rintro ⟨_, _, ⟨⟩, start, parts⟩
    exact ⟨c, _, rfl, start, fun d mem => (List.mem_append.1 mem).elim (parts d) (digits d)⟩

/-! Reserved words. -/

theorem not_reserved_of_head {text : String} {d : Char} (first : text.toList.head? = some d)
    (large : d.toNat < 97 ∨ 122 < d.toNat) (plain : d ≠ '_') (other : text ≠ "Self") :
    text ∉ Grammar.reservedWords := by
  have heads : ∀ word ∈ Grammar.reservedWords, word = "Self" ∨ word.toList.head? = some '_' ∨
      word.toList.head?.any (fun c => 97 ≤ c.toNat && c.toNat ≤ 122) = true := by
    decide +kernel
  intro mem
  rcases heads text mem with self | underscore | small
  · exact other self
  · exact plain (Option.some.inj (first.symm.trans underscore))
  · rw [first, Option.any_some, Bool.and_eq_true, decide_eq_true_iff, decide_eq_true_iff] at small
    omega

theorem exists_head_ofName (name : String) : ∃ d, (ofName name).toList.head? = some d ∧
    (d.toNat < 97 ∨ 122 < d.toNat) ∧ d ≠ '_' := by
  rcases ofName_cases name with ⟨eq, -⟩ | ⟨eq, -, d, first, -⟩
  · exact ⟨'P', by rw [eq, String.toList_append]; rfl, by decide, by decide⟩
  · have camel := first
    rw [Text.head?_upperCamel, Option.bind_eq_some_iff] at first
    obtain ⟨c, -, upper⟩ := first
    refine ⟨d, eq ▸ camel, Unicode.not_small_of_mem_toUpper (List.mem_of_head? upper), ?_⟩
    rintro rfl
    exact Text.underscore_not_mem_upperCamel name (List.mem_of_head? camel)

theorem not_reserved (name : String) : ofName name ∉ Grammar.reservedWords ∧
    ∀ position, suffixed (ofName name) position ∉ Grammar.reservedWords := by
  obtain ⟨d, first, large, plain⟩ := exists_head_ofName name
  refine ⟨not_reserved_of_head first large plain fun self => ?_, fun position => ?_⟩
  · rcases ofName_cases name with ⟨eq, -⟩ | ⟨eq, other, -⟩
    · have letter := congrArg (·.toList.head?) (eq.symm.trans self)
      simp at letter
    · exact other (eq.symm.trans self)
  · obtain ⟨rest, text⟩ := List.head?_eq_some_iff.1 first
    refine not_reserved_of_head (d := d) ?_ large plain (suffixed_ne (by decide) position)
    simp [suffixed, text]

end Marker

/-! Names as they are read. -/

namespace Source

/-- The text as a whole is one identifier. -/
def Names (name : String) : Prop :=
  leaf? name.toList = some (.ident name, name.toList.length)

instance (name : String) : Decidable (Names name) :=
  inferInstanceAs (Decidable (_ = _))

theorem docComment?_ne {text : List Char} {name : String} {length : Nat} :
    docComment? text ≠ some (.ident name, length) := by
  have docs (inner : Bool) (comment : List Char) (n : Nat) :
      doc? inner comment n ≠ some (.ident name, length) := by
    rw [doc?]
    split <;> simp
  unfold docComment?
  split
  · split
    · exact docs _ _ _
    · exact nofun
  · split
    · simp [Option.bind_eq_some_iff, docs]
    · exact nofun
  · exact nofun

theorem anyIdentLength?_of_leaf? {text : List Char} {name : String} {length : Nat}
    (read : leaf? text = some (.ident name, length)) : anyIdentLength? text = some length := by
  simp only [leaf?, Option.orElse_eq_some, docComment?_ne, stringLeaf?, Option.map_eq_some_iff,
    Option.bind_eq_some_iff, Prod.mk.injEq, reduceCtorEq, false_and, and_false, exists_false,
    false_or] at read
  obtain ⟨-, -, -, -, -, -, read | ⟨-, read⟩⟩ := read
  · rw [identLeaf?] at read
    split at read
    · cases read
    · obtain ⟨n, found, eq⟩ := Option.map_eq_some_iff.1 read
      cases eq
      exact found
  · rw [faultyLeaf?] at read
    split at read <;> cases read

theorem isIdentifier_of_identLength? {chars : List Char}
    (whole : identLength? chars = some chars.length) :
    Unicode.isIdentifier (String.ofList chars) = true := by
  cases chars with
  | nil => cases whole
  | cons c rest =>
      rw [identLength?] at whole
      split at whole
      · next first =>
        have same := (List.takeWhile_prefix Unicode.isIdentifierPart).eq_of_length
          (Nat.succ.inj (Option.some.inj whole))
        rw [Bool.or_eq_true, beq_iff_eq] at first
        exact Unicode.isIdentifier_iff.2 ⟨c, rest, String.toList_ofList, first,
          List.takeWhile_eq_self_iff.1 same⟩
      · cases whole

theorem isIdentifier_plainName {name : String} (lexed : Names name) :
    Unicode.isIdentifier (plainName name) = true := by
  have whole := anyIdentLength?_of_leaf? lexed
  unfold plainName
  split
  · next rest text =>
    rw [text, anyIdentLength?, Option.bind_eq_bind, Option.bind_eq_some_iff] at whole
    obtain ⟨n, read, whole⟩ := whole
    split at whole
    · cases whole
    · refine isIdentifier_of_identLength? (read.trans ?_)
      simpa using whole
  · next plain =>
    rw [← String.ofList_toList (s := name)]
    unfold anyIdentLength? at whole
    split at whole
    · next rest text => cases plain rest text
    · exact isIdentifier_of_identLength? whole

end Source

/-! Declarations. -/

theorem Property.unnameable?_eq_some_iff {fields : List Field} {marker : String} :
    Property.unnameable? fields = some marker ↔ ∃ before field after property,
      fields = before ++ field :: after ∧
      (∀ earlier ∈ before, ∃ named, Property.read earlier = .ok named ∧
        Unicode.isIdentifier named.marker = true) ∧
      Property.read field = .ok property ∧ Unicode.isIdentifier property.marker = false ∧
      property.marker = marker := by
  induction fields with
  | nil => simp [unnameable?]
  | cons head rest ih =>
      rw [unnameable?]
      constructor
      · intro stops
        split at stops
        · cases stops
        · next property read =>
          split at stops
          · next legal =>
            obtain ⟨before, field, after, last, rfl, all, others⟩ := ih.1 stops
            exact ⟨head :: before, field, after, last, rfl,
              List.forall_mem_cons.2 ⟨⟨property, read, legal⟩, all⟩, others⟩
          · next illegal =>
            exact ⟨[], head, rest, property, rfl, nofun, read, Bool.eq_false_iff.2 illegal,
              Option.some.inj stops⟩
      · rintro ⟨before, field, after, property, split, all, read, illegal, eq⟩
        cases before with
        | nil =>
            cases split
            simp [read, illegal, ← eq]
        | cons first before =>
            cases split
            obtain ⟨⟨named, accepted, legal⟩, all⟩ := List.forall_mem_cons.1 all
            simp only [accepted, legal, if_true]
            exact ih.2 ⟨before, field, after, property, rfl, all, read, illegal, eq⟩

theorem Property.isIdentifier_marker {fields : List Field} {properties : List Property}
    (all : List.Forall₂ (fun field property => Property.read field = .ok property) fields properties)
    (goes : unnameable? fields = none) :
    ∀ property ∈ properties, Unicode.isIdentifier property.marker = true := by
  induction all with
  | nil => exact nofun
  | cons read _ ih =>
      simp only [unnameable?, read] at goes
      split at goes
      · next legal => exact List.forall_mem_cons.2 ⟨legal, ih goes⟩
      · cases goes

namespace Marker

/-- Alone and with any suffix, the marker is an identifier and no reserved word. -/
structure Legal (marker : String) : Prop where
  identifier : Unicode.isIdentifier marker = true
  suffixed (position : Nat) : Unicode.isIdentifier (suffixed marker position) = true
  word : marker ∉ Grammar.reservedWords
  suffixedWord (position : Nat) : Marker.suffixed marker position ∉ Grammar.reservedWords

theorem legal_ofName_iff (name : String) :
    Legal (ofName name) ↔ Unicode.isIdentifier (ofName name) = true := by
  obtain ⟨d, first, -, -⟩ := exists_head_ofName name
  have nonempty : (ofName name).toList ≠ [] := fun empty => by simp [empty] at first
  obtain ⟨word, suffixedWord⟩ := not_reserved name
  exact ⟨Legal.identifier, fun identifier => ⟨identifier, fun position =>
    (isIdentifier_suffixed_iff nonempty position).2 identifier, word, suffixedWord⟩⟩

/-- With its position where it is needed, each marker is a name. -/
theorem legal_disambiguate {markers : List String} (legal : ∀ marker ∈ markers, Legal marker) :
    ∀ marker ∈ disambiguate markers, Unicode.isIdentifier marker = true ∧
      marker ∉ Grammar.reservedWords := by
  intro marker mem
  obtain ⟨i, found⟩ := List.mem_iff_getElem?.1 mem
  rw [getElem?_disambiguate, Option.map_eq_some_iff] at found
  obtain ⟨form, found, rfl⟩ := found
  have legal := legal form (List.mem_of_getElem? found)
  split
  · exact ⟨legal.suffixed i, legal.suffixedWord i⟩
  · exact ⟨legal.identifier, legal.word⟩

end Marker

namespace Content

/-- The fields of a structure that names them. -/
def named? : Content → Option (List Field)
  | .namedFields fields => some fields
  | _ => none

theorem named?_eq_some_iff {content : Content} {fields : List Field} :
    content.named? = some fields ↔ content = .namedFields fields := by
  cases content <;> simp [named?]

end Content

namespace Blueprint

theorem unnameable?_eq_some_iff {item : Item} {fields : List Field} {marker : String}
    (content : item.content = .namedFields fields) : unnameable? item = some marker ↔
      (∃ options, StructOptions.read item.attributes = .ok options) ∧
        Property.unnameable? fields = some marker := by
  rw [unnameable?, content]
  cases StructOptions.read item.attributes <;> simp

/-- Where the derivation does not stop, the variants have names. -/
theorem legal_of_ofItem {item : Item} {blueprint : Blueprint}
    (accepted : ofItem item = .ok blueprint) (goes : unnameable? item = none) :
    ∀ property ∈ blueprint.properties, Unicode.isIdentifier property.marker = true ∧
      property.marker ∉ Grammar.reservedWords := by
  obtain ⟨options, fields, properties, stated, content, read, rfl⟩ := ofItem_eq_ok_iff.1 accepted
  have none : Property.unnameable? fields = none := by
    simpa [unnameable?, stated, content] using goes
  have legal : ∀ marker ∈ properties.map (·.marker), Marker.Legal marker := by
    intro marker mem
    obtain ⟨property, member, rfl⟩ := List.mem_map.1 mem
    have identifier := Property.isIdentifier_marker (mapM_eq_ok_iff.1 read) none property member
    obtain ⟨field, -, known⟩ := exists_of_mem_mapM read member
    rw [(Property.named_of_read known).2] at identifier ⊢
    exact (Marker.legal_ofName_iff _).2 identifier
  intro property mem
  refine Marker.legal_disambiguate legal _ ?_
  rw [← Property.map_marker_disambiguate]
  exact List.mem_map_of_mem mem

/-- The marker of a name that is read is legal, alone and with a suffix, unless the form of
the name is misled, which it is not if an identifier may begin like that. The derivation stops at the first such name, if all is well up to there;
otherwise the variants have names. -/
theorem legal_variants_iff (item : Item) (fields : List Field) :
    (∀ name, Source.Names name →
      (Marker.Legal (Marker.ofName (plainName name)) ↔ ¬Marker.Misled (plainName name)) ∧
      ∀ c, (plainName name).toList.find? Unicode.isAlphanumeric = some c →
        Unicode.isIdentifierStart c = true → ¬Marker.Misled (plainName name)) ∧
    (item.content = .namedFields fields →
      (∀ name ∈ fields.filterMap (·.name), Source.Names name) →
      (∀ marker, unnameable? item = some marker ↔
        (∃ options, StructOptions.read item.attributes = .ok options) ∧
        ∃ before field after property, fields = before ++ field :: after ∧
          (∀ earlier ∈ before, ∃ named, Property.read earlier = .ok named ∧
            ¬Marker.Misled named.baseName) ∧
          Property.read field = .ok property ∧ Marker.Misled property.baseName ∧
          property.marker = marker) ∧
      ∀ blueprint, ofItem item = .ok blueprint → unnameable? item = none →
        ∀ property ∈ blueprint.properties, Unicode.isIdentifier property.marker = true ∧
          property.marker ∉ Grammar.reservedWords) := by
  refine ⟨fun name lexed => ⟨?_, fun c => Marker.not_misled_of_isIdentifierStart⟩,
    fun content lexed => ⟨fun marker => ?_, fun blueprint => legal_of_ofItem⟩⟩
  · rw [Marker.legal_ofName_iff,
      Marker.isIdentifier_ofName_iff (Source.isIdentifier_plainName lexed)]
  · have legal {field : Field} {property : Property} (mem : field ∈ fields)
        (read : Property.read field = .ok property) :
        Unicode.isIdentifier property.marker = true ↔ ¬Marker.Misled property.baseName := by
      obtain ⟨named, marked⟩ := Property.named_of_read read
      have lexed := lexed property.name (List.mem_filterMap.2 ⟨field, mem, named⟩)
      rw [marked]
      exact Marker.isIdentifier_ofName_iff (Source.isIdentifier_plainName lexed)
    rw [unnameable?_eq_some_iff content, Property.unnameable?_eq_some_iff]
    refine and_congr_right fun _ => exists_congr fun before => exists_congr fun field =>
      exists_congr fun after => exists_congr fun property => and_congr_right fun split => ?_
    subst split
    refine and_congr (forall₂_congr fun earlier mem => exists_congr fun named =>
      and_congr_right fun read => legal (List.mem_append_left _ mem) read)
      (and_congr_right fun read => and_congr_left fun _ => ?_)
    rw [← Bool.not_eq_true, legal (List.mem_append_right _ List.mem_cons_self) read, not_not]

/-- A name with a prefix and one that begins with no letter are fine. A sign that is
alphabetic, but begins no identifier, stops the derivation. -/
theorem legal_variants_of_odd_names :
    Marker.Legal (Marker.ofName (plainName "r#type")) ∧
    Marker.Legal (Marker.ofName (plainName "_1")) ∧
    ∃ item before field after property,
      Item.read? "struct S \x7b r#type: u8, _\u0903: u8, _1: u8 \x7d" = some item ∧
      item.content = .namedFields (before ++ field :: after) ∧
      Property.read field = .ok property ∧ Marker.Misled property.baseName ∧
      property.marker = "\u0903" := by
  have names : ∀ name ∈ ["r#type", "_\u0903", "_1"], Source.Names name := by decide +kernel
  have stops : ((Item.read? "struct S \x7b r#type: u8, _\u0903: u8, _1: u8 \x7d").bind
      fun item => item.content.named?.map fun fields =>
        (fields.filterMap (·.name), unnameable? item)) =
      some (["r#type", "_\u0903", "_1"], some "\u0903") := by
    decide +kernel
  obtain ⟨item, read, stops⟩ := Option.bind_eq_some_iff.1 stops
  obtain ⟨fields, content, stops⟩ := Option.map_eq_some_iff.1 stops
  have content := Content.named?_eq_some_iff.1 content
  obtain ⟨named, stops⟩ := Prod.mk.inj stops
  obtain ⟨legal, stopped⟩ := legal_variants_iff item fields
  obtain ⟨-, before, field, after, property, rfl, -, accepted, misled, marked⟩ :=
    ((stopped content (named ▸ names)).1 _).1 stops
  exact ⟨(legal _ (names _ (by decide))).1.2 (by decide +kernel),
    (legal _ (names _ (by decide))).1.2 (by decide +kernel),
    item, before, field, after, property, read, content, accepted, misled, marked⟩

/-- No builder is derived for a structure with a field that is called so. -/
theorem derivation_stops_at_sign :
    Source.Names "_\u0903" ∧ Unicode.isIdentifier (Marker.ofName (plainName "_\u0903")) = false ∧
    Blueprint.read "struct S \x7b _\u0903: u8 \x7d" =
      .error (.refused (.noIdentifier "\u0903") none) :=
  ⟨by decide +kernel, by decide +kernel, refusalOf_eq_some_iff.1 (by decide +kernel)⟩

end Blueprint

end StructBuilder
