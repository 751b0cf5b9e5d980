import Mathlib
import Blotter.Settings.Environment

/-!
# Texts with references to variables

A text is put together from literal segments and references (`Segment.text`). It can be read back if the literal
segments do not contain the start of a reference and no two of them meet (`AreReadable`).

- A reference is read back from its text, whatever follows it (`Reference.read?_text`).
- A literal segment gives its characters, one by one, if no brace follows it that would make a start of a reference
  together with its last character (`Piece.ofChars_literal`).
- So a text gives the pieces of its segments (`Piece.ofChars_text`), and what is written in the place of the references
  is what the environment and the defaults say, as it is (`Environment.interpolate_text`).
-/

namespace Blotter

/-! ## References -/

namespace Reference

/-- Whether a reference can be written down: its name is a letter or an underscore and then letters, digits and
underscores, and its default does not contain the brace that would end it. -/
structure IsReadable (r : Reference) : Prop where
  name : ∃ c cs, r.name = c :: cs ∧ (c.isAlpha = true ∨ c = '_') ∧ ∀ d ∈ cs, d.isAlphanum = true ∨ d = '_'
  default : ∀ cs, r.default = some cs → '}' ∉ cs

/-- What stands behind the name of a reference. -/
def tail : Option (List Char) → List Char
  | none => ['}']
  | some cs => ':' :: '-' :: cs ++ ['}']

/-- The text of a reference. -/
def text (r : Reference) : List Char := '$' :: '{' :: r.name ++ tail r.default

/-- Names are made of the characters of names. -/
theorem IsReadable.isNameChar {r : Reference} (h : r.IsReadable) : ∀ c ∈ r.name, isNameChar c = true := by
  obtain ⟨c, cs, name, first, others⟩ := h.name
  intro d hd
  rw [name] at hd
  rcases List.mem_cons.mp hd with rfl | hd
  · rcases first with letter | rfl
    · simp [Reference.isNameChar, Char.isAlphanum, letter]
    · rfl
  · rcases others d hd with alphanum | rfl
    · simp [Reference.isNameChar, alphanum]
    · rfl

/-- The name ends where the rest of the reference begins. -/
theorem not_isNameChar_tail (default : Option (List Char)) (rest : List Char) :
    ∃ c cs, tail default ++ rest = c :: cs ∧ isNameChar c = false := by
  cases default with
  | none => exact ⟨'}', rest, rfl, rfl⟩
  | some cs => exact ⟨':', _, rfl, rfl⟩

theorem readDefault?_tail {default : Option (List Char)} (h : ∀ cs, default = some cs → '}' ∉ cs) (rest : List Char) :
    readDefault? (tail default ++ rest) = some (default, rest) := by
  cases default with
  | none => rfl
  | some cs =>
    have inside : ∀ c ∈ cs, (c != '}') = true := fun c hc => bne_iff_ne.mpr fun same => h cs rfl (same ▸ hc)
    have split : tail (some cs) ++ rest = ':' :: '-' :: (cs ++ '}' :: rest) := by simp [tail]
    rw [split, readDefault?, List.dropWhile_append_of_pos inside, List.takeWhile_append_of_pos inside]
    simp

/-- A reference is read back from its text, and what follows is left. -/
theorem read?_text {r : Reference} (h : r.IsReadable) (rest : List Char) : read? (r.text ++ rest) = some (r, rest) := by
  obtain ⟨c, cs, name, first, -⟩ := h.name
  obtain ⟨d, ds, behind, stops⟩ := not_isNameChar_tail r.default rest
  have starts : isNameStart c = true := by
    rcases first with letter | rfl
    · simp [isNameStart, letter]
    · rfl
  have split : r.text ++ rest = '$' :: '{' :: (r.name ++ (tail r.default ++ rest)) := by simp [text]
  rw [split, read?, if_pos (by simp [name, starts]), List.dropWhile_append_of_pos h.isNameChar,
    List.takeWhile_append_of_pos h.isNameChar, behind, List.dropWhile_cons_of_neg (by simp [stops]),
    List.takeWhile_cons_of_neg (by simp [stops]), ← behind, readDefault?_tail h.default]
  simp

/-- A text that does not begin with a dollar sign and a brace does not begin with a reference. -/
theorem read?_eq_none {cs : List Char} (h : ¬['$', '{'] <+: cs) : read? cs = none := by
  unfold read?
  split
  · exact absurd ⟨_, rfl⟩ h
  · rfl

end Reference

/-! ## Segments -/

/-- A segment of a text. -/
inductive Segment where
  | literal (cs : List Char)
  | reference (r : Reference)

namespace Segment

/-- The text of a segment. -/
def text : Segment → List Char
  | literal cs => cs
  | reference r => r.text

/-- What a segment amounts to: a literal segment to itself, a reference to the value of the variable if that is set and
not empty, else to the default if there is one, else to nothing. -/
def filled (env : Environment) : Segment → List Char
  | literal cs => cs
  | reference r =>
    match env.entries.lookup (String.ofList r.name) with
    | some v => if v ≠ "" then v.toList else r.default.getD []
    | none => r.default.getD []

/-- The pieces that a segment is read as. -/
def pieces : Segment → List Piece
  | literal cs => cs.map .char
  | reference r => [.reference r]

theorem flatMap_value_pieces (env : Environment) (s : Segment) :
    s.pieces.flatMap (Piece.value env) = s.filled env := by
  cases s with
  | literal cs =>
    show (cs.map Piece.char).flatMap (Piece.value env) = cs
    rw [List.flatMap_map]
    exact List.flatMap_singleton' cs
  | reference r =>
    rw [pieces, List.flatMap_singleton, Piece.value, Reference.value, Environment.get?, filled]
    cases found : env.entries.lookup (String.ofList r.name) with
    | none => rfl
    | some v =>
      by_cases empty : v = ""
      · simp [empty, Option.filter]
      · simp [empty, Option.filter]

/-- Whether the segments can be read back from their text: the start of a reference is not in the literal ones, no two
of which meet, and the references can be written down. -/
structure AreReadable (segments : List Segment) : Prop where
  literal : ∀ cs, .literal cs ∈ segments → ¬['$', '{'] <:+: cs
  reference : ∀ r, .reference r ∈ segments → r.IsReadable
  apart : segments.IsChain fun s t => ∀ cs ds, ¬(s = .literal cs ∧ t = .literal ds)

theorem AreReadable.of_cons {s : Segment} {segments : List Segment} (h : AreReadable (s :: segments)) :
    AreReadable segments where
  literal cs hcs := h.literal cs (List.mem_cons_of_mem _ hcs)
  reference r hr := h.reference r (List.mem_cons_of_mem _ hr)
  apart := h.apart.of_cons

/-- What follows a literal segment does not begin with a brace. -/
theorem AreReadable.head?_ne {cs : List Char} {segments : List Segment} (h : AreReadable (.literal cs :: segments)) :
    (segments.flatMap text).head? ≠ some '{' := by
  cases segments with
  | nil => simp
  | cons s segments =>
    cases s with
    | literal ds => exact absurd ⟨rfl, rfl⟩ ((List.isChain_cons_cons.mp h.apart).1 cs ds)
    | reference r =>
      rw [List.flatMap_cons]
      intro brace
      exact absurd (Option.some.inj brace) (by decide)

end Segment

open Segment

/-! ## Reading -/

namespace Piece

theorem ofChars_nil : ofChars [] = [] := by
  rw [ofChars]

/-- A reference in front of a text is the first piece. -/
theorem ofChars_reference {r : Reference} (h : r.IsReadable) (rest : List Char) :
    ofChars (r.text ++ rest) = .reference r :: ofChars rest := by
  have found := Reference.read?_text h rest
  have split : r.text ++ rest = '$' :: ('{' :: r.name ++ Reference.tail r.default ++ rest) := rfl
  rw [split] at found ⊢
  rw [ofChars]
  split
  · rename_i r' rest' found'
    obtain ⟨rfl, rfl⟩ := Prod.mk.inj (Option.some.inj (found.symm.trans found'))
    rfl
  · rename_i none
    rw [found] at none
    cases none

/-- A character that does not start a reference is a piece of its own. -/
theorem ofChars_char {c : Char} {cs : List Char} (h : ¬['$', '{'] <+: c :: cs) :
    ofChars (c :: cs) = .char c :: ofChars cs := by
  rw [ofChars]
  split
  · rename_i found
    rw [Reference.read?_eq_none h] at found
    cases found
  · rfl

/-- A literal segment in front of a text gives its characters. -/
theorem ofChars_literal {cs rest : List Char} (h : ¬['$', '{'] <:+: cs) (stops : rest.head? ≠ some '{') :
    ofChars (cs ++ rest) = cs.map .char ++ ofChars rest := by
  induction cs with
  | nil => rfl
  | cons c cs ih =>
    have later : ¬['$', '{'] <:+: cs := fun inside => h (inside.trans (List.suffix_cons c cs).isInfix)
    have begins : ¬['$', '{'] <+: c :: (cs ++ rest) := by
      rintro ⟨behind, start⟩
      simp only [List.cons_append, List.nil_append, List.cons.injEq] at start
      obtain ⟨rfl, start⟩ := start
      cases cs with
      | nil =>
        -- the brace would be the first character of what follows
        rw [List.nil_append] at start
        exact stops (by rw [← start, List.head?_cons])
      | cons d cs =>
        obtain ⟨rfl, -⟩ := List.cons.inj start
        exact h ⟨[], cs, rfl⟩
    rw [List.cons_append, ofChars_char begins, ih later, List.map_cons, List.cons_append]

/-- A text gives the pieces of its segments. -/
theorem ofChars_text {segments : List Segment} (h : AreReadable segments) :
    ofChars (segments.flatMap Segment.text) = segments.flatMap pieces := by
  induction segments with
  | nil => exact ofChars_nil
  | cons s segments ih =>
    rw [List.flatMap_cons, List.flatMap_cons, ← ih h.of_cons]
    cases s with
    | literal cs => exact ofChars_literal (h.literal cs List.mem_cons_self) h.head?_ne
    | reference r => exact ofChars_reference (h.reference r List.mem_cons_self) _

end Piece

/-- Writing the values of variables into a text leaves its literal segments as they are and puts in the place of each
reference the value of the variable if that is set and not empty, else the default, else nothing. These are not looked
at again, whatever they contain and whatever they stand beside. -/
theorem Environment.interpolate_text (env : Environment) {segments : List Segment} (h : AreReadable segments) :
    env.interpolate (String.ofList (segments.flatMap Segment.text)) =
      String.ofList (segments.flatMap (Segment.filled env)) := by
  have read : Piece.ofChars (String.ofList (segments.flatMap Segment.text)).toList = segments.flatMap pieces := by
    rw [String.toList_ofList]
    exact Piece.ofChars_text h
  rw [interpolate, read, List.flatMap_assoc]
  exact congrArg String.ofList (List.flatMap_congr fun s _ => flatMap_value_pieces env s)

/-- Segments of which the second makes the start of a reference together with the first, and whose defaults and values
look like references. -/
def exampleSegments : List Segment :=
  [.literal ['a', ':', '$'], .reference ⟨['O', 'P', 'E', 'N'], none⟩, .reference ⟨['H', '1'], some ['x']⟩,
    .literal ['\n', 'b', ':'], .reference ⟨['_'], some ['$', '{', 'P']⟩, .literal ['}'], .reference ⟨['N'], none⟩]

/-- Variables with values that look like references. -/
def exampleEnvironment : Environment :=
  ⟨[("OPEN", "\x7bP\x7d"), ("H1", "$\x7bP\x7d"), ("_", ""), ("P", "9")]⟩

theorem Environment.interpolate_text_exampleSegments :
    AreReadable exampleSegments ∧
      exampleEnvironment.interpolate
          "a:$$\x7bOPEN\x7d$\x7bH1:-x\x7d\nb:$\x7b_:-$\x7bP\x7d\x7d$\x7bN\x7d" =
        "a:$\x7bP\x7d$\x7bP\x7d\nb:$\x7bP\x7d" := by
  have readable : AreReadable exampleSegments := by
    refine ⟨?_, ?_, ?_⟩
    · intro cs hcs
      simp only [exampleSegments, List.mem_cons, List.not_mem_nil, Segment.literal.injEq, reduceCtorEq, or_false,
        false_or] at hcs
      rcases hcs with rfl | rfl | rfl
      · decide
      · decide
      · decide
    · intro r hr
      simp only [exampleSegments, List.mem_cons, List.not_mem_nil, Segment.reference.injEq, reduceCtorEq, or_false,
        false_or] at hr
      rcases hr with rfl | rfl | rfl | rfl
      all_goals exact ⟨⟨_, _, rfl, by decide, by simp [Char.isAlphanum, Char.isAlpha, Char.isUpper]⟩, by simp⟩
    · simp [exampleSegments]
  refine ⟨readable, ?_⟩
  calc exampleEnvironment.interpolate _
    _ = exampleEnvironment.interpolate (String.ofList (exampleSegments.flatMap Segment.text)) := by rfl
    _ = String.ofList (exampleSegments.flatMap (Segment.filled exampleEnvironment)) :=
      interpolate_text exampleEnvironment readable
    _ = _ := by rfl

end Blotter
