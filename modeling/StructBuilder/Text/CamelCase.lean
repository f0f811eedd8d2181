import StructBuilder.Unicode.CaseMap
import StructBuilder.Unicode.Letter

/-!
Upper camel case. A name is cut into words at characters that are neither letters
nor digits and where its case changes; each word is written with a capital and
small letters after it, and the words are joined.
-/

namespace StructBuilder.Text

/-- The case of the letters since the last cut, where digits keep what was before. -/
inductive Run where
  | fresh
  | lower
  | upper
  deriving DecidableEq, Repr

def Run.extend (run : Run) (c : Char) : Run :=
  if Unicode.isLowercase c then .lower
  else if Unicode.isUppercase c then .upper
  else run

/-- Cuts between a small letter and a capital, and before the last of several
capitals that a small letter follows. `word` holds the open word backwards. -/
def cutAtCase (run : Run) (word : List Char) : List Char → List (List Char)
  | [] => []
  | [c] => [(c :: word).reverse]
  | c :: next :: rest =>
      if run.extend c = .lower ∧ Unicode.isUppercase next then
        (c :: word).reverse :: cutAtCase .fresh [] (next :: rest)
      else if run = .upper ∧ Unicode.isUppercase c ∧ Unicode.isLowercase next then
        word.reverse :: cutAtCase .fresh [c] (next :: rest)
      else cutAtCase (run.extend c) (c :: word) (next :: rest)

def chunks : List Char → List (List Char)
  | [] => [[]]
  | c :: rest =>
      if Unicode.isAlphanumeric c then
        match chunks rest with
        | [] => [[c]]
        | chunk :: others => (c :: chunk) :: others
      else [] :: chunks rest

/-- Small letters, where a sigma that ends the word takes its final form. -/
def toLowerWord : List Char → List Char
  | [] => []
  | [c] => if c == 'Σ' then ['ς'] else Unicode.toLower c
  | c :: rest => Unicode.toLower c ++ toLowerWord rest

def capitalize : List Char → List Char
  | [] => []
  | c :: rest => Unicode.toUpper c ++ toLowerWord rest

def upperCamel (name : String) : String :=
  String.ofList (((chunks name.toList).flatMap (cutAtCase .fresh [])).flatMap capitalize)

end StructBuilder.Text
