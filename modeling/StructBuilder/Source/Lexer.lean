import StructBuilder.Source.Literal
import StructBuilder.Source.Tree

/-!
Reading a text into token trees. Blanks and comments that document nothing go into
the gap before a token; delimiters must balance. Every token takes at least one
character, so reading ends with the text.
-/

namespace StructBuilder.Source

private def lineLength : List Char → Nat
  | [] => 0
  | '\n' :: _ => 0
  | '\r' :: '\n' :: _ => 0
  | _ :: rest => lineLength rest + 1

/-- The length of a block comment behind its opening; block comments nest. -/
private def blockLength? (depth : Nat) : List Char → Option Nat
  | [] => none
  | '*' :: '/' :: rest =>
      match depth with
      | 0 => some 2
      | depth + 1 => (blockLength? depth rest).map (· + 2)
  | '/' :: '*' :: rest => (blockLength? (depth + 1) rest).map (· + 2)
  | _ :: rest => (blockLength? depth rest).map (· + 1)

/-- The length of a comment that is not documentation, 0 if there is none. -/
private def commentLength : List Char → Nat
  | '/' :: '/' :: rest =>
      match rest with
      | '!' :: _ => 0
      | '/' :: '/' :: _ => lineLength rest + 2
      | '/' :: _ => 0
      | _ => lineLength rest + 2
  | '/' :: '*' :: rest =>
      match rest with
      | '!' :: _ => 0
      | '*' :: '/' :: _ => 4
      | '*' :: '*' :: _ => ((blockLength? 0 rest).map (· + 2)).getD 0
      | '*' :: _ => 0
      | _ => ((blockLength? 0 rest).map (· + 2)).getD 0
  | _ => 0

/-- The length of the blanks and comments that a text begins with. -/
def gapLength (text : List Char) : Nat :=
  match text with
  | [] => 0
  | c :: rest =>
      match commentLength text with
      | n + 1 => gapLength (rest.drop n) + n + 1
      | 0 => if Unicode.isBlank c then gapLength rest + 1 else 0
termination_by text.length
decreasing_by all_goals simp only [List.length_cons, List.length_drop]; omega

private def bareReturn : List Char → Bool
  | [] => false
  | '\r' :: '\n' :: rest => bareReturn rest
  | '\r' :: _ => true
  | _ :: rest => bareReturn rest

def doc? (inner : Bool) (comment : List Char) (length : Nat) : Option (Leaf × Nat) :=
  if bareReturn comment then none else some (.doc (String.ofList comment) inner, length)

/-- A documentation comment with its length. -/
def docComment? : List Char → Option (Leaf × Nat)
  | '/' :: '/' :: mark :: rest =>
      if mark == '!' || (mark == '/' && rest.head? != some '/') then
        doc? (mark == '!') (rest.take (lineLength rest)) (lineLength rest + 3)
      else none
  | '/' :: '*' :: mark :: rest =>
      if mark == '!' || (mark == '*' && rest.head? != some '*') then do
        let n ← blockLength? 0 (mark :: rest)
        doc? (mark == '!') (rest.take (n - 3)) (n + 2)
      else none
  | _ => none

/-- Spellings that announce a literal and so begin no identifier. -/
def literalOpenings : List (List Char) :=
  ["r\"", "r#\"", "r##", "b\"", "b'", "br\"", "br#", "c\"", "cr\"", "cr#"].map String.toList

def identLeaf? (text : List Char) : Option (Leaf × Nat) :=
  if literalOpenings.any (·.isPrefixOf text) then none
  else (anyIdentLength? text).map fun n => (.ident (String.ofList (text.take n)), n)

def stringLeaf? (text : List Char) : Option (Leaf × Nat) :=
  (stringLength? text).map fun n =>
    let length := withSuffix text n
    (.text (String.ofList (decodeString (text.take n)))
      (String.ofList ((text.take length).drop n)), length)

/-- What stands for an expression or a type that was found faulty before. Although it
looks like a comment in parentheses, it is a literal. -/
def faulty : List Char :=
  "(/*ERROR*/)".toList

def faultyLeaf? (text : List Char) : Option (Leaf × Nat) :=
  if faulty.isPrefixOf text then some (.opaqueLiteral (String.ofList faulty), faulty.length)
  else none

/-- The token that a text begins with and its length. -/
def leaf? (text : List Char) : Option (Leaf × Nat) :=
  docComment? text <|> stringLeaf? text
    <|> (opaqueLength? text).map (fun n => (.opaqueLiteral (String.ofList (text.take n)), n))
    <|> (numberLength? text).map (fun n => (.number (String.ofList (text.take n)), n))
    <|> (lifetimeLength? text).map (fun n => (.lifetime (String.ofList (text.take n)), n))
    <|> (punctLength? text).bind (fun n => text.head?.map fun c => (.punct c, n))
    <|> identLeaf? text <|> faultyLeaf? text

private def opening? : List Char → Option Delimiter
  | '(' :: rest => if faulty.isPrefixOf ('(' :: rest) then none else some .paren
  | '[' :: _ => some .bracket
  | '\x7b' :: _ => some .brace
  | _ => none

private def closing? : Char → Option Delimiter
  | ')' => some .paren
  | ']' => some .bracket
  | '\x7d' => some .brace
  | _ => none

/-- A group that is not closed yet, with the trees before it, last one first. -/
private structure Opened where
  gap : String
  delimiter : Delimiter
  before : List Tree

private def assemble (opened : List Opened) (done : List Tree) (text : List Char) :
    Option (List Tree) :=
  let gap := String.ofList (text.take (gapLength text))
  match h : text.drop (gapLength text) with
  | [] => if opened.isEmpty then some done.reverse else none
  | c :: rest =>
      have : rest.length < text.length := by
        have := congrArg List.length h
        simp only [List.length_drop, List.length_cons] at this
        omega
      match opening? (c :: rest), closing? c with
      | some delimiter, _ => assemble (⟨gap, delimiter, done⟩ :: opened) [] rest
      | none, some delimiter =>
          match opened with
          | [] => none
          | group :: outer =>
              if group.delimiter = delimiter then
                assemble outer (.group group.gap delimiter done.reverse gap :: group.before) rest
              else none
      | none, none =>
          match leaf? (c :: rest) with
          | none => none
          | some (leaf, length) =>
              assemble opened
                (.leaf gap (String.ofList ((c :: rest).take length)) leaf :: done)
                (rest.drop (length - 1))
termination_by text.length
decreasing_by all_goals (try simp only [List.length_drop]); omega

/-- The token trees of a text, which may begin with a byte order mark. -/
def read? (text : String) : Option (List Tree) :=
  match text.toList with
  | '\ufeff' :: rest => assemble [] [] rest
  | chars => assemble [] [] chars

end StructBuilder.Source
