/-!
# YAML values

A document is a tree of scalars, sequences and mappings. What a scalar stands for is decided by its reader, who only
has to know whether it is written plainly: a quoted scalar is a text and nothing else.
-/

namespace Blotter

/-- A YAML value. -/
inductive Yaml where
  | scalar (plain : Bool) (text : String)
  | sequence (items : List Yaml)
  /-- The entries as written: a key may be any value, and may occur more than once. -/
  | mapping (entries : List (Yaml × Yaml))
deriving Repr, Inhabited

namespace Yaml

/-- What stands where nothing is written. -/
def absent : Yaml := .scalar true ""

end Yaml

end Blotter
