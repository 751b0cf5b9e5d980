/-!
# Tables

A table keeps at most one row under each key. Its rows stand in the order of the keys, so two tables with the same rows
are equal.
-/

namespace Blotter

/-- Rows under keys, in the order of the keys. -/
structure Table (κ ρ : Type) where
  entries : List (κ × ρ)
deriving DecidableEq

namespace Table

variable {κ ρ : Type} [Ord κ]

/-- The table without rows. -/
def empty : Table κ ρ := ⟨[]⟩

instance : Inhabited (Table κ ρ) := ⟨empty⟩

/-- The row under a key in a list of rows. -/
def findIn (k : κ) : List (κ × ρ) → Option ρ
  | [] => none
  | (k', r) :: rest => if compare k k' == .eq then some r else findIn k rest

/-- The row under a key. -/
def find? (t : Table κ ρ) (k : κ) : Option ρ := findIn k t.entries

/-- Whether there is a row under a key. -/
def contains (t : Table κ ρ) (k : κ) : Bool := (t.find? k).isSome

/-- Puts a row at its place in a list of rows, over the row with the same key. -/
def insertIn (k : κ) (r : ρ) : List (κ × ρ) → List (κ × ρ)
  | [] => [(k, r)]
  | (k', r') :: rest =>
    match compare k k' with
    | .lt => (k, r) :: (k', r') :: rest
    | .eq => (k, r) :: rest
    | .gt => (k', r') :: insertIn k r rest

/-- The table with a row under a key, in place of the one that was there. -/
def insert (t : Table κ ρ) (k : κ) (r : ρ) : Table κ ρ := ⟨insertIn k r t.entries⟩

/-- The table without the row under a key. -/
def erase (t : Table κ ρ) (k : κ) : Table κ ρ := ⟨t.entries.filter fun e => compare k e.1 != .eq⟩

/-- The rows in the order of their keys. -/
def rows (t : Table κ ρ) : List ρ := t.entries.map (·.2)

end Table

end Blotter
