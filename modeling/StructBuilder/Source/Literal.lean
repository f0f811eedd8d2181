import StructBuilder.Unicode.Identifier
import StructBuilder.Unicode.Blank

/-!
The lengths of the tokens a source text can begin with. Each function measures one
class of tokens and answers nothing if the text does not begin with it. String
literals are checked against the escapes their class allows, and decoded here.
-/

namespace StructBuilder.Source

/-- The length of an identifier that is not raw. -/
def identLength? : List Char → Option Nat
  | [] => none
  | c :: rest =>
      if Unicode.isIdentifierStart c || c == '_' then
        some ((rest.takeWhile Unicode.isIdentifierPart).length + 1)
      else none

/-- Names that cannot be made plain identifiers by `r#`. -/
def neverRaw : List String :=
  ["_", "super", "self", "Self", "crate"]

def anyIdentLength? : List Char → Option Nat
  | 'r' :: '#' :: rest => do
      let n ← identLength? rest
      if neverRaw.contains (String.ofList (rest.take n)) then none else some (n + 2)
  | text => identLength? text

def lifetimeLength? : List Char → Option Nat
  | '\'' :: rest => do
      let n ← anyIdentLength? rest
      match rest.drop n with
      | '\'' :: _ => none
      | '#' :: _ => if rest.take 2 == ['r', '#'] then some (n + 1) else none
      | _ => some (n + 1)
  | _ => none

def isPunct (c : Char) : Bool :=
  "~!@#$%^&*-=+|;:,<.>/?".toList.contains c

def punctLength? : List Char → Option Nat
  | '/' :: '/' :: _ => none
  | '/' :: '*' :: _ => none
  | c :: _ => if isPunct c then some 1 else none
  | [] => none

def suffixLength (text : List Char) : Nat :=
  (identLength? text).getD 0

def isHex (c : Char) : Bool :=
  c.isDigit || ('a' ≤ c && c ≤ 'f') || ('A' ≤ c && c ≤ 'F')

def hexValue (c : Char) : Nat :=
  if c.isDigit then c.toNat - '0'.toNat
  else if 'a' ≤ c then c.toNat - 'a'.toNat + 10
  else c.toNat - 'A'.toNat + 10

/-- The digits of `\u\x7b…\x7d` after the opening brace: value and length with the
closing brace. At most six digits, and they must name a character. -/
private def codePoint? (value digits length : Nat) : List Char → Option (Char × Nat)
  | [] => none
  | c :: rest =>
      if isHex c then
        if digits == 6 then none
        else codePoint? (16 * value + hexValue c) (digits + 1) (length + 1) rest
      else if digits == 0 then none
      else if c == '_' then codePoint? value digits (length + 1) rest
      else if c == '\x7d' && value.isValidChar then some (Char.ofNat value, length + 1)
      else none

/-- What the escapes of a literal may denote. -/
inductive Encoding where
  | unicode
  | bytes
  | nonzero
  deriving DecidableEq, Repr

/-- Characters that a literal of this encoding cannot contain as they are. -/
def Encoding.excludes (encoding : Encoding) (c : Char) : Bool :=
  match encoding with
  | .unicode => false
  | .bytes => c.toNat ≥ 128
  | .nonzero => c == '\x00'

/-- The length of the escape after a backslash. -/
private def escapeLength? (encoding : Encoding) : List Char → Option Nat
  | 'x' :: a :: b :: _ =>
      if !isHex a || !isHex b then none
      else match encoding with
        | .unicode => if a ≤ '7' then some 3 else none
        | .bytes => some 3
        | .nonzero => if a == '0' && b == '0' then none else some 3
  | 'u' :: '\x7b' :: rest =>
      match encoding with
      | .bytes => none
      | .unicode => (codePoint? 0 0 0 rest).map (·.2 + 2)
      | .nonzero => (codePoint? 0 0 0 rest).bind fun (c, n) => if c == '\x00' then none else some (n + 2)
  | '0' :: _ => if encoding == .nonzero then none else some 1
  | c :: _ => if "nrt\\'\"".toList.contains c then some 1 else none
  | [] => none

/-- Blanks that a backslash at the end of a line joins over. -/
def joinsLines (c : Char) : Bool :=
  c == ' ' || c == '\t' || c == '\n' || c == '\r'

/-- The length of the blanks behind a backslash at the end of a line; a carriage
return stands only before a line feed. -/
private def continuation? : List Char → Option Nat
  | [] => none
  | '\r' :: '\n' :: rest => (continuation? rest).map (· + 2)
  | '\r' :: _ => none
  | c :: rest =>
      if joinsLines c then (continuation? rest).map (· + 1) else some 0

/-- The length of the rest of a string literal behind its opening quote. -/
private def cookedLength? (encoding : Encoding) (text : List Char) : Option Nat :=
  match text with
  | [] => none
  | '"' :: _ => some 1
  | '\r' :: '\n' :: rest => (cookedLength? encoding rest).map (· + 2)
  | '\r' :: _ => none
  | '\\' :: rest =>
      match escapeLength? encoding rest with
      | some n => (cookedLength? encoding (rest.drop n)).map (· + n + 1)
      | none =>
          if rest.head?.any fun c => c == '\n' || c == '\r' then
            match continuation? rest with
            | some n => (cookedLength? encoding (rest.drop n)).map (· + n + 1)
            | none => none
          else none
  | c :: rest =>
      if encoding.excludes c then none
      else (cookedLength? encoding rest).map (· + 1)
termination_by text.length
decreasing_by all_goals simp only [List.length_cons, List.length_drop]; omega

private def rawBodyLength? (encoding : Encoding) (hashes : List Char) : List Char → Option Nat
  | [] => none
  | '\r' :: '\n' :: rest => (rawBodyLength? encoding hashes rest).map (· + 2)
  | '\r' :: _ => none
  | c :: rest =>
      if c == '"' && hashes.isPrefixOf rest then some (hashes.length + 1)
      else if encoding.excludes c then none
      else (rawBodyLength? encoding hashes rest).map (· + 1)

/-- The length of a raw literal behind its `r`. -/
private def rawLength? (encoding : Encoding) (text : List Char) : Option Nat :=
  let hashes := text.takeWhile (· == '#')
  match text.drop hashes.length with
  | '"' :: body =>
      if hashes.length > 255 then none
      else (rawBodyLength? encoding hashes body).map (· + hashes.length + 1)
  | _ => none

/-- The length of a quoted character or byte behind its opening quote. -/
private def charLength? (encoding : Encoding) : List Char → Option Nat
  | '\\' :: rest => do
      let n ← escapeLength? encoding rest
      if rest[n]? == some '\'' then some (n + 2) else none
  | c :: '\'' :: _ => if encoding.excludes c then none else some 2
  | _ => none

/-- A literal of this length together with the identifier right behind it. -/
def withSuffix (text : List Char) (length : Nat) : Nat :=
  length + suffixLength (text.drop length)

/-- The length of a string literal without its suffix. -/
def stringLength? : List Char → Option Nat
  | '"' :: rest => (cookedLength? .unicode rest).map (· + 1)
  | 'r' :: rest => (rawLength? .unicode rest).map (· + 1)
  | _ => none

/-- The length of a literal that is neither a string nor a number. -/
def opaqueLength? (text : List Char) : Option Nat :=
  (match text with
    | 'b' :: '"' :: rest => (cookedLength? .bytes rest).map (· + 2)
    | 'b' :: 'r' :: rest => (rawLength? .bytes rest).map (· + 2)
    | 'c' :: '"' :: rest => (cookedLength? .nonzero rest).map (· + 2)
    | 'c' :: 'r' :: rest => (rawLength? .nonzero rest).map (· + 2)
    | 'b' :: '\'' :: rest => (charLength? .bytes rest).map (· + 2)
    | '\'' :: rest => (charLength? .unicode rest).map (· + 1)
    | _ => none).map (withSuffix text)

/-- A number must not run into a further letter or digit. -/
private def wordBreak? (text : List Char) (length : Nat) : Option Nat :=
  let length := withSuffix text length
  match text.drop length with
  | c :: _ => if Unicode.isIdentifierPart c then none else some length
  | [] => some length

/-- The length of an exponent behind its letter, if it holds a digit. One sign may
stand anywhere before the first digit. -/
private def exponentLength? (signed valued : Bool) : List Char → Option Nat
  | [] => if valued then some 0 else none
  | c :: rest =>
      if c.isDigit then (exponentLength? signed true rest).map (· + 1)
      else if c == '_' then (exponentLength? signed valued rest).map (· + 1)
      else if valued then some 0
      else if (c == '+' || c == '-') && !signed then (exponentLength? true valued rest).map (· + 1)
      else none

private def floatLength? (text : List Char) : Option Nat := do
  guard (text.head?.any Char.isDigit)
  let whole := (text.takeWhile fun c => c.isDigit || c == '_').length
  let (mantissa, pointed) ← match text.drop whole with
    | '.' :: rest =>
        if rest.head?.any fun c => c == '.' || c == '_' || Unicode.isIdentifierStart c then none
        else some (whole + 1 + (rest.takeWhile fun c => c.isDigit || c == '_').length, true)
    | _ => some (whole, false)
  match text.drop mantissa with
  | c :: rest =>
      if c == 'e' || c == 'E' then
        match exponentLength? false false rest with
        | some n => some (mantissa + 1 + n)
        | none => if pointed then some mantissa else none
      else if pointed then some mantissa else none
  | [] => if pointed then some mantissa else none

private def radix : List Char → Nat × Nat
  | '0' :: 'x' :: _ => (2, 16)
  | '0' :: 'o' :: _ => (2, 8)
  | '0' :: 'b' :: _ => (2, 2)
  | _ => (0, 10)

private def digitsLength? (base : Nat) (seen : Bool) : List Char → Option Nat
  | c :: rest =>
      if c.isDigit then
        if hexValue c < base then (digitsLength? base true rest).map (· + 1) else none
      else if isHex c && base == 16 then (digitsLength? base true rest).map (· + 1)
      else if c == '_' then
        if !seen && base == 10 then none else (digitsLength? base seen rest).map (· + 1)
      else if seen then some 0 else none
  | [] => if seen then some 0 else none

def numberLength? (text : List Char) : Option Nat :=
  match (floatLength? text).bind (wordBreak? text) with
  | some n => some n
  | none =>
      let (skip, base) := radix text
      (digitsLength? base false (text.drop skip)).bind fun n => wordBreak? text (skip + n)

/-- The value between the quotes of a checked string literal. -/
private def decodeCooked (text : List Char) : List Char :=
  match text with
  | [] => []
  | '\r' :: '\n' :: rest => '\n' :: decodeCooked rest
  | '\\' :: 'n' :: rest => '\n' :: decodeCooked rest
  | '\\' :: 'r' :: rest => '\r' :: decodeCooked rest
  | '\\' :: 't' :: rest => '\t' :: decodeCooked rest
  | '\\' :: '0' :: rest => '\x00' :: decodeCooked rest
  | '\\' :: 'x' :: a :: b :: rest => Char.ofNat (16 * hexValue a + hexValue b) :: decodeCooked rest
  | '\\' :: 'u' :: '\x7b' :: rest =>
      match codePoint? 0 0 0 rest with
      | some (c, n) => c :: decodeCooked (rest.drop n)
      | none => []
  | '\\' :: c :: rest =>
      if c == '\n' || c == '\r' then
        decodeCooked (rest.drop (rest.takeWhile joinsLines).length)
      else c :: decodeCooked rest
  | c :: rest => c :: decodeCooked rest
termination_by text.length
decreasing_by all_goals simp only [List.length_cons, List.length_drop]; omega

/-- The value of a string literal without suffix. -/
def decodeString : List Char → List Char
  | 'r' :: rest =>
      let hashes := (rest.takeWhile (· == '#')).length
      (rest.drop (hashes + 1)).take (rest.length - 2 * hashes - 2)
  | _ :: body => decodeCooked body.dropLast
  | [] => []

end StructBuilder.Source
