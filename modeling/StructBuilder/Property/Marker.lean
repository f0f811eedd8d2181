import StructBuilder.Text.CamelCase

/-!
Markers name the properties of one builder as variants of an enumeration. A marker
is the camel case form of a field name; where several fields share one, each of
them gets its position as a suffix, which no camel case form contains.
-/

namespace StructBuilder.Marker

/-- Names that begin with no letter, and the name `Self`, take a `P` in front. -/
def ofName (name : String) : String :=
  let camel := Text.upperCamel name
  if camel == "Self" || !(camel.toList.head?.any Unicode.isAlphabetic) then "P" ++ camel else camel

def suffixed (marker : String) (position : Nat) : String :=
  marker ++ "_" ++ toString position

/-- Each marker, with its position as suffix if it occurs more than once. -/
def disambiguate (markers : List String) : List String :=
  markers.mapIdx fun position marker =>
    if markers.count marker > 1 then suffixed marker position else marker

end StructBuilder.Marker
