/-!
How compound values are shown: items in brackets or parentheses, and records by the
names of their fields. What the parts look like is up to the caller.
-/

namespace StructBuilder.Text

def listing (items : List String) : String :=
  "[" ++ ", ".intercalate items ++ "]"

def applied (constructor argument : String) : String :=
  constructor ++ "(" ++ argument ++ ")"

def pair (first second : String) : String :=
  "(" ++ first ++ ", " ++ second ++ ")"

def record (name : String) (fields : List (String × String)) : String :=
  name ++ " \x7b " ++ ", ".intercalate (fields.map fun (field, value) => field ++ ": " ++ value)
    ++ " \x7d"

end StructBuilder.Text
