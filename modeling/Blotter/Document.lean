import Blotter.Decimal.Text
import Blotter.Instant.Text

/-!
# Reading documents

What a reader of records needs to know about a document format: how a value shows its members, and what it is as a
text, a number and so on. `Members.required`, `Members.optional` and `Members.orElse` read one member with a reader of
its own; a record is read member by member.
-/

namespace Blotter

/-- A format whose values records are read from. -/
class Document (δ : Type) where
  /-- The members with the given names, in any order and none twice; other members are left out. A list of values
  stands for the first members in the order of the names. -/
  members? : List String → δ → Option (List (String × δ))
  /-- The value of a member that may be missing: whether it says that there is none. -/
  isNull : δ → Bool
  text? : δ → Option String
  bool? : δ → Option Bool
  /-- An integer within the given bounds. -/
  integer? : (least most : Int) → δ → Option Int
  decimal? : δ → Option Decimal
  /-- The name of an alternative that carries no data. -/
  variant? : δ → Option String

/-- The members of a record under their names. -/
structure Members (δ : Type) where
  entries : List (String × δ)

namespace Members

variable {δ α : Type}

/-- The member with the given name. -/
def get? (m : Members δ) (name : String) : Option δ := m.entries.lookup name

/-- Reads a member that has to be there. -/
def required (m : Members δ) (name : String) (read : δ → Option α) : Option α := m.get? name >>= read

/-- Reads a member that may be missing or null. -/
def optional [Document δ] (m : Members δ) (name : String) (read : δ → Option α) : Option (Option α) :=
  match m.get? name with
  | none => some none
  | some v => if Document.isNull v then some none else (read v).map some

/-- Reads a member that has a default. -/
def orElse (m : Members δ) (name : String) (default : α) (read : δ → Option α) : Option α :=
  match m.get? name with
  | none => some default
  | some v => read v

end Members

namespace Document

variable {δ α : Type} [Document δ]

/-- The members of a record with the given member names. -/
def record? (names : List String) (v : δ) : Option (Members δ) := (members? names v).map Members.mk

/-- A natural number below `2 ^ 64`. -/
def word64? (v : δ) : Option Nat := (integer? 0 18446744073709551615 v).map Int.toNat

/-- A natural number below `2 ^ 32`. -/
def word32? (v : δ) : Option Nat := (integer? 0 4294967295 v).map Int.toNat

/-- An integer of 32 bits with sign. -/
def int32? (v : δ) : Option Int := integer? (-2147483648) 2147483647 v

/-- An instant, written as a text. -/
def instant? (v : δ) : Option Instant := text? v >>= Instant.parse

/-- One of several alternatives by name. -/
def named? (ofName? : String → Option α) (v : δ) : Option α := variant? v >>= ofName?

end Document

end Blotter
