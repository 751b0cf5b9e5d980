import Blotter.Text.Numeral
import Blotter.Yaml.Cursor

/-!
# Scalars

The four ways to write a text: plain, in single or double quotes, and as a block below its header. Every reader takes
the place where the scalar starts and gives the text and the place behind it. The recursion is bounded by the number of
characters that are left.
-/

namespace Blotter.Yaml

/-! ## Quoted scalars -/

/-- The character behind the backslash of a short escape. -/
def shortEscape? : Char → Option Char
  | '0' => some '\x00'
  | 'a' => some '\x07'
  | 'b' => some '\x08'
  | 't' | '\t' => some '\t'
  | 'n' => some '\n'
  | 'v' => some '\x0B'
  | 'f' => some '\x0C'
  | 'r' => some '\r'
  | 'e' => some '\x1B'
  | ' ' => some ' '
  | '"' => some '"'
  | '/' => some '/'
  | '\\' => some '\\'
  | 'N' => some '\u0085'
  | '_' => some '\u00A0'
  | 'L' => some '\u2028'
  | 'P' => some '\u2029'
  | _ => none

/-- How many hexadecimal digits follow the letter of a long escape. -/
def escapeLength? : Char → Option Nat
  | 'x' => some 2
  | 'u' => some 4
  | 'U' => some 8
  | _ => none

/-- The character with the given code point; half of a surrogate pair is none. -/
def ofCodePoint? (n : Nat) : Option Char :=
  if n < 0xD800 || (0xDFFF < n && n < 0x110000) then some (Char.ofNat n) else none

/-- Reads an escape behind its backslash. -/
def escape? (c : Cursor) : Option (Char × Cursor) := do
  let letter ← c.peek
  match escapeLength? letter with
  | none => some (← shortEscape? letter, c.advance 1)
  | some n =>
    let digits := (c.rest.drop 1).take n
    if digits.length < n then none
    else some (← ofCodePoint? (← Numeral.valueIn? 16 digits), c.advance (1 + n))

/-- Reads up to the closing quote. No document may end or start inside. -/
def quotedRest (quote : Char) : Nat → Cursor → Option (List Char × Cursor)
  | 0, _ => none
  | fuel + 1, c =>
    let continueWith (text : List Char) (c : Cursor) := (quotedRest quote fuel c).map fun (more, c) => (text ++ more, c)
    if c.atBoundary then none
    else match c.rest with
      | [] => none
      | x :: rest =>
        if x == quote then
          if quote == '\'' && rest.head? == some quote then continueWith [quote] (c.advance 2)
          else some ([], c.advance 1)
        else if x == '\\' && quote == '"' then
          let next := c.advance 1
          if next.atBreak then do
            -- The backslash takes away the break behind it; empty lines below stay.
            let (breaks, c) ← (next.takeBreak.2.skipWhile isBlank).takeBreaks 0 fuel
            continueWith breaks c
          else do
            let (y, c) ← escape? next
            continueWith [y] c
        else if isGap x then do
          let (blanks, c) := c.takeWhile isBlank
          let (breaks, c) ← c.takeBreaks 0 (fuel + 1)
          continueWith (foldGap blanks breaks) c
        else continueWith [x] (c.advance 1)

/-- Reads a quoted scalar. -/
def quoted (quote : Char) (c : Cursor) : Option (String × Cursor) :=
  (quotedRest quote (c.rest.length + 1) (c.advance 1)).map fun (text, c) => (String.ofList text, c)

/-! ## Plain scalars -/

/-- The brackets and the comma, which end a word inside a flow collection. -/
def isFlowMark (c : Char) : Bool := c == ',' || c == '[' || c == ']' || c == '{' || c == '}'

/-- The word in front. A colon ends it if a gap follows; inside a flow collection the collection's marks end it, and a
colon may not stand before one of them. -/
def word? (inFlow : Bool) : List Char → Option (List Char)
  | [] => some []
  | c :: rest =>
    if isGap c then some []
    else if c == ':' && inFlow && rest.head?.any (fun d => isFlowMark d || d == '?') then none
    else if c == ':' && atGap rest then some []
    else if inFlow && isFlowMark c then some []
    else (word? inFlow rest).map (c :: ·)

/-- Reads the words of a plain scalar. In a block, lines that are indented less than `indent` do not belong to it. The
second part of the answer says whether the next thing starts on a line of its own. -/
def plainWords (inFlow : Bool) (indent : Nat) : Nat → Cursor → Option (List Char × Bool × Cursor)
  | 0, _ => none
  | fuel + 1, c => do
    let word ← word? inFlow c.rest
    let (blanks, gap) := (c.advance word.length).takeWhile isBlank
    let (breaks, next) ← gap.takeBreaks indent (fuel + 1)
    let ends := (blanks.isEmpty && breaks.isEmpty) || (!inFlow && next.column < indent) || next.atBoundary ||
      next.starts '#'
    if ends || word? inFlow next.rest == some [] then some (word, !breaks.isEmpty, next)
    else
      let (more, onNewLine, c) ← plainWords inFlow indent fuel next
      some (word ++ foldGap blanks breaks ++ more, onNewLine, c)

/-- Reads a plain scalar. -/
def plain (inFlow : Bool) (indent : Nat) (c : Cursor) : Option (String × Bool × Cursor) :=
  (plainWords inFlow indent (c.rest.length + 1) c).map fun (text, rest) => (String.ofList text, rest)

/-! ## Block scalars -/

/-- What becomes of the line breaks at the end of a block. -/
inductive Chomping where
  | strip
  | clip
  | keep
deriving DecidableEq, Repr

/-- The header of a block scalar. -/
structure BlockHeader where
  /-- Whether line breaks stay as they are, or are folded. -/
  literal : Bool
  chomping : Chomping := .clip
  /-- The indentation, where it is given. -/
  increment : Option Nat := none

namespace BlockHeader

/-- Reads the indicator of what becomes of the last line breaks. -/
def readChomping (h : BlockHeader) (c : Cursor) : BlockHeader × Cursor :=
  if c.starts '+' then ({ h with chomping := .keep }, c.advance 1)
  else if c.starts '-' then ({ h with chomping := .strip }, c.advance 1)
  else (h, c)

/-- Reads the digit of the indentation, which is not zero. -/
def readIncrement? (h : BlockHeader) (c : Cursor) : Option (BlockHeader × Cursor) :=
  match c.peek with
  | some d =>
    if d == '0' then none
    else if d.isDigit then some ({ h with increment := some (d.toNat - 48) }, c.advance 1)
    else some (h, c)
  | none => some (h, c)

/-- Reads a header to the end of its line. Its two indicators come in any order. -/
def read? (literal : Bool) (c : Cursor) : Option (BlockHeader × Cursor) := do
  let (h, afterChomping) := readChomping ⟨literal, .clip, none⟩ c
  let (h, c') ← h.readIncrement? afterChomping
  let (h, c') := if afterChomping.index == c.index then h.readChomping c' else (h, c')
  let line := (c'.skipWhile isBlank).skipComment
  if line.atLineEnd then some (h, line.takeBreak.2) else none

/-- What the line breaks between two lines of a block stand for. Lines are folded unless one of them starts with a
blank. -/
def joint (h : BlockHeader) (betweenBlanks : Bool) (last empty : List Char) : List Char :=
  if !h.literal && last == ['\n'] && !betweenBlanks then (if empty.isEmpty then [' '] else empty)
  else last ++ empty

/-- What is left of the line breaks at the end of a block. -/
def ending (h : BlockHeader) (last empty : List Char) : List Char :=
  match h.chomping with
  | .strip => []
  | .clip => last
  | .keep => last ++ empty

end BlockHeader

/-- Skips empty lines and the indentation of the next line: the breaks, the widest indentation seen and the place. With
no indentation given all spaces count. -/
def blockGap (indent : Option Nat) : Nat → Cursor → Option (List Char × Nat × Cursor)
  | 0, _ => none
  | fuel + 1, c =>
    let spaces := (c.rest.takeWhile (· == ' ')).length
    let c := c.advance ((indent.map fun n => Nat.min spaces (n - c.column)).getD spaces)
    if c.starts '\t' && indent.all (c.column < ·) then none
    else if c.atBreak then
      let (b, next) := c.takeBreak
      (blockGap indent fuel next).map fun (bs, widest, next) => (b ++ bs, Nat.max c.column widest, next)
    else some ([], c.column, c)

/-- Reads the lines of a block that are indented by `indent`. Before the first of them stand the break `last` of the
line above and the breaks of empty lines. -/
def blockLines (h : BlockHeader) (indent : Nat) :
    Nat → Bool → (last empty : List Char) → Cursor → Option (List Char × Cursor)
  | 0, _, _, _, _ => none
  | fuel + 1, afterBlank, last, empty, c =>
    if c.column == indent && !c.rest.isEmpty then do
      let startsBlank := c.peek.any isBlank
      let (line, lineEnd) := c.takeWhile (!isBreak ·)
      let (b, next) := lineEnd.takeBreak
      let (bs, _, next) ← blockGap (some indent) (fuel + 1) next
      let (more, c) ← blockLines h indent fuel startsBlank b bs next
      some (h.joint (afterBlank || startsBlank) last empty ++ line ++ more, c)
    else some (h.ending last empty, c)

/-- Reads a block scalar behind its indicator, in a block whose content is at column `parent`; there is no such column
at the outermost level. -/
def block (literal : Bool) (parent : Option Nat) (c : Cursor) : Option (String × Cursor) := do
  let fuel := c.rest.length + 1
  let (h, c) ← BlockHeader.read? literal c
  let given := h.increment.map (· + parent.getD 0)
  let (empty, widest, c) ← blockGap given fuel c
  let indent := given.getD (Nat.max widest ((parent.map (· + 1)).getD 1))
  let (text, c) ← blockLines h indent fuel false [] empty c
  some (String.ofList text, c)

end Blotter.Yaml
