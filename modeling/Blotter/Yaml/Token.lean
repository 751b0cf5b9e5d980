import Blotter.Yaml.Scalar

/-!
# Tokens

The marks and scalars of a text, with the structure of its blocks made explicit: a block starts where a line is indented
more than the block around it, and ends where a line is indented less. Whether a scalar is the key of a mapping shows
only at the colon behind it, so the token of a key is inserted afterwards. Everything that may turn out to be a key is
kept as a candidate until its line ends.
-/

namespace Blotter.Yaml

/-- A token. -/
inductive Token where
  /-- A directive, with the tag handle that it declares. -/
  | directive (handle : Option (List Char))
  | documentStart
  | documentEnd
  | blockSequenceStart
  | blockMappingStart
  | blockEnd
  | flowSequenceStart
  | flowSequenceEnd
  | flowMappingStart
  | flowMappingEnd
  | flowEntry
  | blockEntry
  | key
  | value
  | alias (name : List Char)
  | anchor (name : List Char)
  /-- A tag with the handle of its shorthand. -/
  | tag (handle : List Char)
  | scalar (plain : Bool) (text : String)
deriving Repr, DecidableEq

/-- Where a key may have started. -/
structure Candidate where
  /-- How many tokens stand in front of it. -/
  position : Nat
  /-- Whether nothing but a key can stand there. -/
  required : Bool
  index : Nat
  line : Nat
  column : Nat

/-- A text being split into tokens. -/
structure Scanner where
  cursor : Cursor
  /-- The tokens so far, the newest first. -/
  tokens : List Token := []
  /-- The columns of the open blocks, the innermost first. -/
  columns : List Nat := []
  /-- The candidate within the innermost flow collection, or outside of all of them. -/
  candidate : Option Candidate := none
  /-- The candidates around the open flow collections, the innermost first. -/
  outer : List (Option Candidate) := []
  /-- Whether a key may start here. -/
  mayStartKey : Bool := true

namespace Scanner

/-- Whether a flow collection is open. -/
def inFlow (s : Scanner) : Bool := !s.outer.isEmpty

/-- Adds a token. -/
def push (t : Token) (s : Scanner) : Scanner := { s with tokens := t :: s.tokens }

/-- Adds a token of `n` characters. -/
def mark (n : Nat) (t : Token) (s : Scanner) : Scanner := { s.push t with cursor := s.cursor.advance n }

/-- Inserts a token behind the first `position` ones. -/
def insert (position : Nat) (t : Token) (s : Scanner) : Scanner :=
  { s with tokens := s.tokens.insertIdx (s.tokens.length - position) t }

/-! ## Candidates -/

/-- Gives up a candidate that nothing but a key can replace only with an error. -/
def release : Option Candidate → Option Unit
  | some k => if k.required then none else some ()
  | none => some ()

/-- Gives up the candidate. -/
def dropCandidate (s : Scanner) : Option Scanner := (release s.candidate).map fun _ => { s with candidate := none }

/-- Makes this place the candidate, if a key may start here. -/
def saveCandidate (s : Scanner) : Option Scanner :=
  if s.mayStartKey then do
    let s ← s.dropCandidate
    let c := s.cursor
    some { s with candidate := some {
      position := s.tokens.length
      required := !s.inFlow && s.columns.head? == some c.column
      index := c.index
      line := c.line
      column := c.column } }
  else some s

/-- A key stands on one line and is not too long. -/
def isStale (c : Cursor) (k : Candidate) : Bool := k.line < c.line || k.index + 1024 < c.index

/-- Gives up a candidate that can no longer be a key. -/
def refresh (c : Cursor) : Option Candidate → Option (Option Candidate)
  | some k => if isStale c k then (release (some k)).map fun _ => none else some (some k)
  | none => some none

/-- Gives up the candidates that can no longer be keys. -/
def dropStale (s : Scanner) : Option Scanner := do
  some { s with candidate := ← refresh s.cursor s.candidate, outer := ← s.outer.mapM (refresh s.cursor) }

/-! ## Blocks -/

/-- Opens a block at a column that is further in than the block around it. -/
def openBlock (column position : Nat) (t : Token) (s : Scanner) : Scanner :=
  if !s.inFlow && s.columns.head?.all (· < column) then
    { s.insert position t with columns := column :: s.columns }
  else s

/-- Ends the open blocks that satisfy a condition on their columns. -/
def closeBlocks (ends : Nat → Bool) (s : Scanner) : Scanner :=
  if s.inFlow then s
  else
    let count := (s.columns.takeWhile ends).length
    { s with columns := s.columns.drop count, tokens := List.replicate count .blockEnd ++ s.tokens }

/-! ## Marks -/

/-- A mark between documents. -/
def boundary (t : Token) (s : Scanner) : Option Scanner := do
  let s ← (s.closeBlocks fun _ => true).dropCandidate
  some { s.mark 3 t with mayStartKey := false }

/-- An opening bracket. -/
def openFlow (t : Token) (s : Scanner) : Option Scanner := do
  let s ← s.saveCandidate
  some { s.mark 1 t with candidate := none, outer := s.candidate :: s.outer, mayStartKey := true }

/-- A closing bracket. -/
def closeFlow (t : Token) (s : Scanner) : Option Scanner := do
  let s ← s.dropCandidate
  some { s.mark 1 t with candidate := s.outer.head?.join, outer := s.outer.tail, mayStartKey := false }

/-- A comma. -/
def flowEntry (s : Scanner) : Option Scanner := do
  some { (← s.dropCandidate).mark 1 .flowEntry with mayStartKey := true }

/-- The dash of an item. -/
def blockEntry (s : Scanner) : Option Scanner := do
  if !s.inFlow && !s.mayStartKey then none
  else
    let s ← (s.openBlock s.cursor.column s.tokens.length .blockSequenceStart).dropCandidate
    some { s.mark 1 .blockEntry with mayStartKey := true }

/-- The mark in front of a key. -/
def keyMark (s : Scanner) : Option Scanner := do
  if !s.inFlow && !s.mayStartKey then none
  else
    let s ← (s.openBlock s.cursor.column s.tokens.length .blockMappingStart).dropCandidate
    some { s.mark 1 .key with mayStartKey := !s.inFlow }

/-- The colon in front of a value. With a candidate, that one is a key, and a block starts there. -/
def valueMark (s : Scanner) : Option Scanner :=
  match s.candidate with
  | some k =>
    let s := (s.insert k.position .key).openBlock k.column k.position .blockMappingStart
    some { s.mark 1 .value with candidate := none, mayStartKey := false }
  | none =>
    if !s.inFlow && !s.mayStartKey then none
    else
      let s := s.openBlock s.cursor.column s.tokens.length .blockMappingStart
      some { s.mark 1 .value with mayStartKey := !s.inFlow }

/-! ## Names -/

/-- The characters of names. -/
def isNameChar (c : Char) : Bool := c.isAlphanum || c == '_' || c == '-'

/-- The characters of tags. -/
def isTagChar (c : Char) : Bool := isNameChar c || ";/?:@&=+$,.!~*()[]%".toList.contains c || c == '\''

/-- An anchor or an alias. -/
def reference (make : List Char → Token) (s : Scanner) : Option Scanner := do
  let s ← s.saveCandidate
  let (name, next) := (s.cursor.advance 1).takeWhile isNameChar
  let ends := atGap next.rest || next.peek.any ("?:,]\x7d%@`".toList.contains ·)
  if name.isEmpty || !ends then none
  else some { s.push (make name) with cursor := next, mayStartKey := false }

/-- The handle of a tag written in short: up to the second exclamation mark, or the first one alone. -/
def handleOf (tag : List Char) : List Char :=
  match tag with
  | '!' :: rest =>
    let name := rest.takeWhile isNameChar
    if (rest.drop name.length).head? == some '!' then '!' :: name ++ ['!'] else ['!']
  | _ => []

/-- A tag: an address in angle brackets, or a handle and a name. -/
def tag (s : Scanner) : Option Scanner := do
  let s ← s.saveCandidate
  let start := s.cursor
  if (start.advance 1).starts '<' then
    let (address, close) := (start.advance 2).takeWhile isTagChar
    if address.isEmpty || !close.starts '>' || !atGap (close.advance 1).rest then none
    else some { s.push (.tag []) with cursor := close.advance 1, mayStartKey := false }
  else
    let isShort (c : Char) : Bool := isTagChar c && c != ',' && c != '[' && c != ']'
    let (text, next) := start.takeWhile isShort
    let handle := handleOf text
    let ends := atGap next.rest || (s.inFlow && next.starts ',')
    if !ends || (handle.length == text.length && 1 < text.length) then none
    else some { s.push (.tag handle) with cursor := next, mayStartKey := false }

/-- Reads a directive behind its name: the version of the language, or the handle that is declared. -/
def directiveBody? (name : List Char) (c : Cursor) : Option (Option (List Char) × Cursor) :=
  let c := c.skipWhile isBlank
  if name == "YAML".toList then
    let (version, next) := c.takeWhile (!isGap ·)
    if version == "1.1".toList || version == "1.2".toList then some (none, next) else none
  else if name == "TAG".toList then
    let (handle, next) := c.takeWhile (!isGap ·)
    let (address, next) := (next.skipWhile isBlank).takeWhile isTagChar
    if handle.head? != some '!' || address.isEmpty then none else some (some handle, next)
  else none

/-- A line with a directive. -/
def directive (s : Scanner) : Option Scanner := do
  let s ← (s.closeBlocks fun _ => true).dropCandidate
  let (name, next) := (s.cursor.advance 1).takeWhile isNameChar
  if name.isEmpty || !atGap next.rest then none
  else
    let (handle, next) ← directiveBody? name next
    let next := (next.skipWhile isBlank).skipComment
    if next.atLineEnd then
      some { s.push (.directive handle) with cursor := next.takeBreak.2, mayStartKey := false }
    else none

/-! ## Scalars -/

/-- A quoted scalar. -/
def quotedScalar (quote : Char) (s : Scanner) : Option Scanner := do
  let s ← s.saveCandidate
  let (text, next) ← quoted quote s.cursor
  some { s.push (.scalar false text) with cursor := next, mayStartKey := false }

/-- A plain scalar. -/
def plainScalar (s : Scanner) : Option Scanner := do
  let s ← s.saveCandidate
  let (text, onNewLine, next) ← plain s.inFlow ((s.columns.head?.map (· + 1)).getD 0) s.cursor
  some { s.push (.scalar true text) with cursor := next, mayStartKey := onNewLine }

/-- A block scalar. -/
def blockScalar (literal : Bool) (s : Scanner) : Option Scanner := do
  let s ← s.dropCandidate
  let (text, next) ← block literal s.columns.head? (s.cursor.advance 1)
  some { s.push (.scalar false text) with cursor := next, mayStartKey := true }

/-! ## The next token -/

/-- Skips blanks, comments and line breaks. Outside of flow collections a line may start with a key, and a tab may not
stand where a key may start. -/
def skipGap : Nat → Scanner → Scanner
  | 0, s => s
  | fuel + 1, s =>
    let skips (c : Char) : Bool := c == ' ' || (c == '\t' && (s.inFlow || !s.mayStartKey))
    let c := (s.cursor.skipWhile skips).skipComment
    if c.atBreak then
      skipGap fuel { s with cursor := c.takeBreak.2, mayStartKey := s.mayStartKey || !s.inFlow }
    else { s with cursor := c }

/-- Characters that no plain scalar starts with. -/
def isMark (c : Char) : Bool := "-?:,[]\x7b\x7d#&*!|>'\"%@`".toList.contains c

/-- Reads the token that starts with `x` in front of `rest`. -/
def token (x : Char) (rest : List Char) (s : Scanner) : Option Scanner :=
  let alone := atGap rest
  if s.cursor.column == 0 && x == '%' then s.directive
  else if s.cursor.atMark Cursor.startMark then s.boundary .documentStart
  else if s.cursor.atMark Cursor.endMark then s.boundary .documentEnd
  else if x == '[' then s.openFlow .flowSequenceStart
  else if x == '{' then s.openFlow .flowMappingStart
  else if x == ']' then s.closeFlow .flowSequenceEnd
  else if x == '}' then s.closeFlow .flowMappingEnd
  else if x == ',' then s.flowEntry
  else if x == '-' && alone then s.blockEntry
  else if x == '?' && (s.inFlow || alone) then s.keyMark
  else if x == ':' && (s.inFlow || alone) then s.valueMark
  else if x == '*' then s.reference .alias
  else if x == '&' then s.reference .anchor
  else if x == '!' then s.tag
  else if x == '|' && !s.inFlow then s.blockScalar true
  else if x == '>' && !s.inFlow then s.blockScalar false
  else if x == '\'' || x == '"' then s.quotedScalar x
  else if !(isGap x || isMark x) || x == '-' || x == '?' || x == ':' then s.plainScalar
  else none

/-- Reads all tokens. At the end of the text all blocks end. -/
def run : Nat → Scanner → Option (List Token)
  | 0, _ => none
  | fuel + 1, s => do
    let s ← (skipGap (s.cursor.rest.length + 1) s).dropStale
    let s := s.closeBlocks (s.cursor.column < ·)
    match s.cursor.rest with
    | [] => (s.closeBlocks fun _ => true).dropCandidate.map (·.tokens.reverse)
    | x :: rest => run fuel (← s.token x rest)

end Scanner

/-- The tokens of a text. A mark of the byte order in front is no part of it. -/
def tokens? (text : String) : Option (List Token) :=
  let cs := match text.toList with
    | '\uFEFF' :: rest => rest
    | cs => cs
  if cs.all isAllowed then Scanner.run (cs.length + 1) { cursor := { rest := cs } } else none

end Blotter.Yaml
