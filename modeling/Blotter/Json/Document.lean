import Blotter.Document
import Blotter.Json.Parser
import Blotter.Json.Printer

/-!
# JSON as a document format

An object whose known members are there at most once is a record, and so is an array of at most as many elements. An
alternative is its name, or an object of that name whose value is null.
-/

namespace Blotter

namespace Json

/-- Whether no name occurs twice. -/
def namesAreDistinct : List (String × Json) → Bool
  | [] => true
  | (name, _) :: ms => !(ms.any (·.1 == name)) && namesAreDistinct ms

/-- The known members of an object. -/
def objectMembers? (names : List String) : Json → Option (List (String × Json))
  | .object ms =>
    let known := ms.filter fun m => names.contains m.1
    if namesAreDistinct known then some known else none
  | _ => none

/-- The known members of an object, or the elements of an array under the names. -/
def recordMembers? (names : List String) : Json → Option (List (String × Json))
  | .array xs => if xs.length ≤ names.length then some (names.zip xs) else none
  | v => objectMembers? names v

/-- Whether the value is null. -/
def isNull : Json → Bool
  | .null => true
  | _ => false

/-- The text of a string. -/
def text? : Json → Option String
  | .string s => some s
  | _ => none

/-- The truth value. -/
def bool? : Json → Option Bool
  | .bool b => some b
  | _ => none

/-- An integer within bounds. -/
def integer? (least most : Int) : Json → Option Int
  | .number (.natural n) => if least ≤ n && (n : Int) ≤ most then some n else none
  | .number (.negative n) => if least ≤ -(n : Int) && -(n : Int) ≤ most then some (-(n : Int)) else none
  | _ => none

/-- The text of a floating-point number, read as a decimal. -/
def decimalOfFloat? (negative : Bool) (x : Binary64) : Option Decimal :=
  (Decimal.parseChars (if negative then '-' :: x.text else x.text)).toOption

/-- A decimal: a text, or a number. -/
def decimal? : Json → Option Decimal
  | .string s => Decimal.ofText? s
  | .number (.natural n) => Decimal.ofInt? n
  | .number (.negative n) => Decimal.ofInt? (-(n : Int))
  | .number (.float negative x) => decimalOfFloat? negative x
  | _ => none

/-- The name of an alternative. -/
def variant? : Json → Option String
  | .string s => some s
  | .object [(name, .null)] => some name
  | _ => none

instance : Document Json where
  members? := recordMembers?
  isNull := isNull
  text? := text?
  bool? := bool?
  integer? := integer?
  decimal? := decimal?
  variant? := variant?

/-! ## Building values -/

/-- A natural number. -/
def ofNat (n : Nat) : Json := .number (.natural n)

/-- An integer. -/
def ofInt (i : Int) : Json := if i < 0 then .number (.negative i.natAbs) else .number (.natural i.toNat)

/-- A decimal is written as a string, so that its scale is kept. -/
def ofDecimal (d : Decimal) : Json := .string d.text

/-- An instant is written as a string. -/
def ofInstant (t : Instant) : Json := .string t.text

/-- A value that may be missing. -/
def ofOption {α : Type} (write : α → Json) : Option α → Json
  | none => .null
  | some a => write a

end Json

end Blotter
