/-!
# Variables in settings

A text may refer to variables of the environment: `${NAME}`, or `${NAME:-default}` with what to use where the variable
is not set or empty. `Piece.ofChars` splits a text into references and single characters from left to right, and
`Environment.interpolate` writes the value of each reference in its place. What is written is not looked at again.
-/

namespace Blotter

/-- The variables that are set. One whose value is no text counts as not set. -/
structure Environment where
  entries : List (String × String) := []

namespace Environment

/-- The value of a variable that is set and not empty. -/
def get? (env : Environment) (name : String) : Option String := (env.entries.lookup name).filter (· != "")

end Environment

/-- A reference to a variable. -/
structure Reference where
  name : List Char
  /-- What stands for a variable that is not set. -/
  default : Option (List Char) := none
deriving DecidableEq, Repr

namespace Reference

/-- Characters that a name starts with. -/
def isNameStart (c : Char) : Bool := c.isAlpha || c == '_'

/-- Characters of names. -/
def isNameChar (c : Char) : Bool := c.isAlphanum || c == '_'

/-- The text that a reference stands for. -/
def value (env : Environment) (r : Reference) : List Char :=
  match env.get? (String.ofList r.name) with
  | some v => v.toList
  | none => r.default.getD []

/-- Reads what stands behind the name of a reference, and gives the default and the rest. -/
def readDefault? : List Char → Option (Option (List Char) × List Char)
  | '}' :: rest => some (none, rest)
  | ':' :: '-' :: rest =>
    match rest.dropWhile (· != '}') with
    | _ :: behind => some (some (rest.takeWhile (· != '}')), behind)
    | [] => none
  | _ => none

/-- Reads the reference in front of a text, and gives the rest. -/
def read? : List Char → Option (Reference × List Char)
  | '$' :: '{' :: rest =>
    if rest.head?.any isNameStart then
      (readDefault? (rest.dropWhile isNameChar)).map fun (default, behind) =>
        (⟨rest.takeWhile isNameChar, default⟩, behind)
    else none
  | _ => none

theorem length_lt_of_readDefault? {cs rest : List Char} {default : Option (List Char)}
    (h : readDefault? cs = some (default, rest)) : rest.length < cs.length := by
  unfold readDefault? at h
  split at h
  · obtain ⟨-, rfl⟩ := by simpa using h
    simp
  · next tail =>
    have := (tail.dropWhile_sublist (· != '}')).length_le
    split at h
    · next behind hd =>
      obtain ⟨-, rfl⟩ := by simpa using h
      rw [hd] at this
      simp at this ⊢
      omega
    · simp at h
  · simp at h

/-- A reference takes at least one character. -/
theorem length_lt_of_read? {cs rest : List Char} {r : Reference} (h : read? cs = some (r, rest)) :
    rest.length < cs.length := by
  unfold read? at h
  split at h
  · next tail =>
    split at h
    · obtain ⟨⟨default, behind⟩, hd, he⟩ := Option.map_eq_some_iff.1 h
      obtain ⟨-, rfl⟩ := by simpa using he
      have := length_lt_of_readDefault? hd
      have := (tail.dropWhile_sublist isNameChar).length_le
      simp
      omega
    · simp at h
  · simp at h

end Reference

/-- A piece of a text with references. -/
inductive Piece where
  | char (c : Char)
  | reference (r : Reference)
deriving DecidableEq, Repr

namespace Piece

/-- The pieces of a text. -/
def ofChars : List Char → List Piece
  | [] => []
  | c :: cs =>
    match _ : Reference.read? (c :: cs) with
    | some (r, rest) => .reference r :: ofChars rest
    | none => .char c :: ofChars cs
termination_by cs => cs.length
decreasing_by
  · exact Reference.length_lt_of_read? (by assumption)
  · simp

/-- The text that a piece stands for. -/
def value (env : Environment) : Piece → List Char
  | .char c => [c]
  | .reference r => r.value env

end Piece

/-- Writes the values of variables in place of the references to them. -/
def Environment.interpolate (env : Environment) (s : String) : String :=
  String.ofList ((Piece.ofChars s.toList).flatMap (Piece.value env))

end Blotter
