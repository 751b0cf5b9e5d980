/-!
# A place in a text

A cursor holds the characters that are left together with the line, the column and the index of the first of them.
Where a line ends is decided here: a carriage return and the line feed behind it are one break, and the breaks of other
scripts count as well.
-/

namespace Blotter.Yaml

/-- A place in a text. -/
structure Cursor where
  rest : List Char
  index : Nat := 0
  line : Nat := 0
  column : Nat := 0

/-- A space or a tab. -/
def isBlank (c : Char) : Bool := c == ' ' || c == '\t'

/-- A character that ends a line. -/
def isBreak (c : Char) : Bool :=
  c == '\n' || c == '\r' || c == '\u0085' || c == '\u2028' || c == '\u2029'

/-- A character that cannot stand inside a word. -/
def isGap (c : Char) : Bool := isBlank c || isBreak c

/-- Whether a word ends in front of the given characters. -/
def atGap : List Char → Bool
  | [] => true
  | c :: _ => isGap c

/-- Characters that a document may hold. -/
def isAllowed (c : Char) : Bool :=
  let n := c.toNat
  n == 0x09 || n == 0x0A || n == 0x0D || (0x20 ≤ n && n ≤ 0x7E) || n == 0x85 || (0xA0 ≤ n && n ≤ 0xFFFD) ||
    0x10000 ≤ n

namespace Cursor

/-- The place `n` characters further on the same line. -/
def advance (n : Nat) (c : Cursor) : Cursor :=
  { c with rest := c.rest.drop n, index := c.index + n, column := c.column + n }

/-- The next character. -/
def peek (c : Cursor) : Option Char := c.rest.head?

/-- Whether the next character is the given one. -/
def starts (x : Char) (c : Cursor) : Bool := c.peek == some x

/-- The characters in front that satisfy a condition, and the place behind them. -/
def takeWhile (p : Char → Bool) (c : Cursor) : List Char × Cursor :=
  let run := c.rest.takeWhile p
  (run, c.advance run.length)

/-- The place behind the characters in front that satisfy a condition. -/
def skipWhile (p : Char → Bool) (c : Cursor) : Cursor := (c.takeWhile p).2

/-- Whether the line ends here and another one follows. -/
def atBreak (c : Cursor) : Bool := c.peek.any isBreak

/-- Whether the line ends here. -/
def atLineEnd (c : Cursor) : Bool := c.peek.all isBreak

/-- The place at the start of the next line, `n` characters on. -/
def newLine (n : Nat) (c : Cursor) : Cursor :=
  { rest := c.rest.drop n, index := c.index + n, line := c.line + 1, column := 0 }

/-- Takes the line break in front and gives the character that it counts as. -/
def takeBreak (c : Cursor) : List Char × Cursor :=
  match c.rest with
  | '\r' :: '\n' :: _ => (['\n'], c.newLine 2)
  | x :: _ =>
    if x == '\u2028' || x == '\u2029' then ([x], c.newLine 1)
    else if isBreak x then (['\n'], c.newLine 1)
    else ([], c)
  | [] => ([], c)

/-- Skips a comment, which goes to the end of the line. -/
def skipComment (c : Cursor) : Cursor := if c.starts '#' then c.skipWhile (!isBreak ·) else c

/-- Whether a line starts here with the given mark, which stands alone. -/
def atMark (mark : List Char) (c : Cursor) : Bool :=
  c.column == 0 && mark.isPrefixOf c.rest && atGap (c.rest.drop mark.length)

/-- The mark in front of a document. -/
def startMark : List Char := ['-', '-', '-']

/-- The mark behind a document. -/
def endMark : List Char := ['.', '.', '.']

/-- Whether a document ends or starts here. -/
def atBoundary (c : Cursor) : Bool := c.atMark startMark || c.atMark endMark

/-- Line breaks with blanks behind each of them: the breaks, and the place of what follows. There may be no tab left
of the column `indent`. -/
def takeBreaks (indent : Nat) : Nat → Cursor → Option (List Char × Cursor)
  | 0, _ => none
  | fuel + 1, c =>
    if c.atBreak then
      let (b, c) := c.takeBreak
      if (c.skipWhile (· == ' ')).starts '\t' && (c.skipWhile (· == ' ')).column < indent then none
      else
        (takeBreaks indent fuel (c.skipWhile isBlank)).map fun (bs, c) => (b ++ bs, c)
    else some ([], c)

end Cursor

/-- What blanks and line breaks between two words stand for: a line break becomes a space, unless there are more. -/
def foldGap (blanks breaks : List Char) : List Char :=
  match breaks with
  | [] => blanks
  | ['\n'] => [' ']
  | '\n' :: more => more
  | other => other

end Blotter.Yaml
