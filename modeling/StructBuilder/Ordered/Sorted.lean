/-!
Sequences of distinct keys in strictly ascending order, as sorted containers hold
them. An entry whose key is present takes the place of the old one.
-/

namespace StructBuilder.Sorted

variable {α κ : Type} [Ord κ]

/-- Puts an item where its key belongs. -/
def insert (key : α → κ) (item : α) : List α → List α
  | [] => [item]
  | first :: rest =>
      match compare (key item) (key first) with
      | .lt => item :: first :: rest
      | .eq => item :: rest
      | .gt => first :: insert key item rest

/-- All items by ascending key; of those with the same key the last is kept. -/
def ofList (key : α → κ) (items : List α) : List α :=
  items.foldl (fun sorted item => insert key item sorted) []

end StructBuilder.Sorted
