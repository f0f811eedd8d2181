import StructBuilder.Grammar.Generics
import StructBuilder.Grammar.Type

/-!
Signatures of functions. Only the first parameter may be a receiver, and only the last
may stand for any number of values.
-/

namespace StructBuilder.Grammar

open Reader

private def receiver (rules : Rules) : Reader Code := do
  let reference ← whenSees (atPunct "&") (inTurn [punct "&", whenSees atLifetime anything])
  let self ← inTurn [optionalWord "mut", word "self"]
  let type ← whenSees (fun trees => reference.isEmpty && atPunct ":" trees)
    (inTurn [punct ":", rules.typeCode true])
  return reference ++ self ++ type

/-- A parameter that is no receiver, without its attributes, and whether it is the last
one. A generic type may stand alone, as if it had a name that nobody uses. -/
private def typedParameter (rules : Rules) : Reader (Code × Bool) := do
  if ← sees (atPunct "...") then
    return (← inTurn [punct "...", commaBefore List.isEmpty], true)
  if ← sees fun trees => atIdent trees && atPunct "<" (second trees) then
    let type ← rules.typeCode true
    return (Code.phrase "_ :" ++ type ++ (← commaBefore List.isEmpty), false)
  let name := (← rules.pattern).code ++ (← punct ":")
  let last ← sees (atPunct "...")
  let type ← if last then punct "..." else rules.typeCode true
  return (name ++ type ++ (← commaBefore List.isEmpty), last)

private def functionParameters (rules : Rules) : Reader Code :=
  repeated (fun before => do
    if ← atEnd then return (before, false)
    let attributes ← attributesCode rules
    match ← attempt (receiver rules) with
    | some self =>
        guard before.isEmpty
        return (attributes ++ self ++ (← commaBefore List.isEmpty), true)
    | none =>
        let (code, last) ← typedParameter rules
        return (before ++ attributes ++ code, !last)) []

private def behindWord (text : String) (trees : Trees) : Trees :=
  if atWord text trees then second trees else trees

private def behindConvention (trees : Trees) : Trees :=
  if !atWord "extern" trees then trees
  else if atText (second trees) then third trees
  else second trees

private def behindModes (trees : Trees) : Trees :=
  behindWord "async" (behindWord "const" trees)

/-- A function from elsewhere that is called safe. -/
def isCalledSafe (trees : Trees) : Bool :=
  atWord "safe" (behindModes trees)

/-- A function is declared here. Where it comes from elsewhere, it may be called safe. -/
def startsSignature (foreign : Bool) (trees : Trees) : Bool :=
  let trust := if foreign && isCalledSafe trees then "safe" else "unsafe"
  atWord "fn" (behindConvention (behindWord trust (behindModes trees)))

/-- What a function is declared with before its body. -/
def signature (rules : Rules) (foreign : Bool) : Reader Code :=
  inTurn [optionalWord "const", optionalWord "async",
    do if foreign && (← sees (atWord "safe")) then anything else optionalWord "unsafe",
    convention, word "fn", ident, parametersCode rules, group .paren (functionParameters rules),
    whenSees (atPunct "->") (inTurn [punct "->", rules.typeCode true]), whereCode rules]

end StructBuilder.Grammar
