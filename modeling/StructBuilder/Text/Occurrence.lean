import StructBuilder.Unicode.Blank

/-!
Searching code text regardless of its spacing. Both texts lose their white space
before they are compared; occurrences are counted from the left without overlap,
and the empty text occurs before, between and after all characters.
-/

namespace StructBuilder.Text

def squeeze (text : List Char) : List Char :=
  text.filter (!Unicode.isWhitespace ·)

/-- The text without its white space. -/
def normalize (text : String) : String :=
  String.ofList (squeeze text.toList)

def occursIn (needle : List Char) : List Char → Bool
  | [] => needle.isEmpty
  | c :: rest => needle.isPrefixOf (c :: rest) || occursIn needle rest

/-- Occurrences of a nonempty text found by resuming behind each one. -/
def countFrom (first : Char) (others : List Char) : List Char → Nat
  | [] => 0
  | c :: rest =>
      if (first :: others).isPrefixOf (c :: rest) then
        countFrom first others (rest.drop others.length) + 1
      else countFrom first others rest
termination_by text => text.length
decreasing_by all_goals simp only [List.length_cons, List.length_drop]; omega

def count (needle haystack : List Char) : Nat :=
  match needle with
  | [] => haystack.length + 1
  | first :: others => countFrom first others haystack

def countOccurrences (haystack needle : String) : Nat :=
  count (squeeze needle.toList) (squeeze haystack.toList)

/-- Why a text was not as expected; both carry the text that was looked for. -/
inductive Surprise where
  | absent (needle : String)
  | present (needle : String)
  deriving DecidableEq, Repr

def Surprise.message : Surprise → String
  | .absent needle => "expected expansion to contain `" ++ needle ++ "`"
  | .present needle => "expected expansion not to contain `" ++ needle ++ "`"

def ensureContains (haystack needle : String) : Except Surprise Unit :=
  if occursIn (squeeze needle.toList) (squeeze haystack.toList) then .ok ()
  else .error (.absent needle)

def ensureLacks (haystack needle : String) : Except Surprise Unit :=
  if occursIn (squeeze needle.toList) (squeeze haystack.toList) then .error (.present needle)
  else .ok ()

end StructBuilder.Text
