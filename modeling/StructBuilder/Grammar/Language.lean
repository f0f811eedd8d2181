import StructBuilder.Grammar.Declared
import StructBuilder.Grammar.Statement

/-!
The grammar as a whole: its categories stacked. Each level of nesting takes at least one
token, and a text has fewer tokens than there are places in it, which are numbers of 32
bits; so the levels are stacked once, for every text. A level is made when it is used.
-/

namespace StructBuilder.Grammar

/-- One more level of nesting. -/
def Rules.deepen (rules : Unit → Rules) : Rules where
  type plus rest := Grammar.type (rules ()) plus rest
  bound constant rest := Grammar.bound (rules ()) constant rest
  expression structs least rest := Grammar.expression (rules ()) structs least rest
  right structs operator rest := Grammar.right (rules ()) structs operator rest
  pattern rest := Grammar.pattern (rules ()) rest
  statement rest := Grammar.statement (rules ()) rest
  block inner rest := Grammar.block (rules ()) inner rest
  item rest := Grammar.item (rules ()) rest
  fields rest := Grammar.namedFields (rules ()) rest
  names root rest := Grammar.names (rules ()) root rest

def Rules.ofDepth : Nat → Rules
  | 0 => Rules.none
  | depth + 1 => Rules.deepen fun _ => Rules.ofDepth depth

/-- Rules deep enough for any text. -/
def Rules.all : Rules :=
  Rules.ofDepth UInt32.size

end StructBuilder.Grammar
