import Blotter.Binary64

/-!
# JSON values

An object is the list of its members in the order of the text, repeated names included, because a reader of records
has to notice a repeated name. Integers that fit 64 bits stay integers; every other number is a binary
floating-point number.
-/

namespace Blotter

/-- A JSON number. -/
inductive JsonNumber where
  /-- An integer from 0 up to `2 ^ 64 - 1`. -/
  | natural (n : Nat)
  /-- The integer `-n` below zero, down to `-2 ^ 63`. -/
  | negative (n : Nat)
  /-- Any other number: `-0`, a larger integer, or one with a fraction or an exponent. -/
  | float (negative : Bool) (magnitude : Binary64)
deriving DecidableEq, Repr

/-- A JSON value. -/
inductive Json where
  | null
  | bool (b : Bool)
  | number (n : JsonNumber)
  | string (s : String)
  | array (elements : List Json)
  | object (members : List (String × Json))
  /-- A well-formed text that denotes no value: a string with half of a surrogate pair, a number beyond the floating
  point range, an object with such a string as a name. It may stand where a reader looks away. -/
  | unusable

namespace Json

instance : Inhabited Json := ⟨.null⟩

mutual
/-- Whether every part of the value denotes something. -/
def isUsable : Json → Bool
  | .array xs => areUsable xs
  | .object ms => membersAreUsable ms
  | .unusable => false
  | _ => true

/-- Whether every part of the values denotes something. -/
def areUsable : List Json → Bool
  | [] => true
  | x :: xs => x.isUsable && areUsable xs

/-- Whether every part of the members denotes something. -/
def membersAreUsable : List (String × Json) → Bool
  | [] => true
  | (_, x) :: ms => x.isUsable && membersAreUsable ms
end

mutual
/-- How many arrays and objects are nested in each other. -/
def depth : Json → Nat
  | .array xs => depthOfAll xs + 1
  | .object ms => depthOfMembers ms + 1
  | _ => 0

/-- The largest nesting depth among the values. -/
def depthOfAll : List Json → Nat
  | [] => 0
  | x :: xs => Nat.max x.depth (depthOfAll xs)

/-- The largest nesting depth among the members. -/
def depthOfMembers : List (String × Json) → Nat
  | [] => 0
  | (_, x) :: ms => Nat.max x.depth (depthOfMembers ms)
end

end Json

end Blotter
