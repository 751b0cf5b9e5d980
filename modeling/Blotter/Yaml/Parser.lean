import Blotter.Yaml.Basic
import Blotter.Yaml.Token

/-!
# Reading YAML

`parse` puts the tokens of a text together to a tree. A text holds at most one document; the empty text holds an absent
value. A value with an anchor can be used again further on, where its name stands as an alias. Tags are read and do not
matter. The recursion is bounded by the number of tokens: every collection takes one to open it and every entry one to
start it.
-/

namespace Blotter.Yaml

/-- The tokens that are left and the values that aliases stand for. -/
structure Composer where
  tokens : List Token
  anchors : List (List Char × Yaml) := []
  /-- The handles of tags that a directive declares. -/
  handles : List (List Char) := []

/-- A step of reading that may fail. -/
abbrev Compose (α : Type) := StateT Composer Option α

namespace Compose

/-- The next token. -/
def peek : Compose (Option Token) := return (← get).tokens.head?

/-- Skips a token. -/
def skip : Compose Unit := modify fun s => { s with tokens := s.tokens.tail }

/-- Skips the next token if it is the given one, and says whether it was. -/
def accept (t : Token) : Compose Bool := do
  if (← peek) == some t then
    skip
    return true
  else return false

/-- Whether nothing is written in front of one of the given tokens. -/
def isAbsentBefore (ends : List Token) : Compose Bool := do
  match ← peek with
  | none => return true
  | some t => return ends.contains t

/-- The value that an alias stands for. -/
def lookup (name : List Char) : Compose Yaml := fun s => (s.anchors.lookup name).map (·, s)

/-- Reads a tag, whose handle has to be known. -/
def readTag : Compose Bool := do
  match ← peek with
  | some (.tag handle) =>
    let known := handle.isEmpty || handle == ['!'] || handle == ['!', '!'] || (← get).handles.contains handle
    if known then
      skip
      return true
    else failure
  | _ => return false

/-- Reads an anchor. -/
def readAnchor : Compose (Option (List Char)) := do
  match ← peek with
  | some (.anchor name) =>
    skip
    return some name
  | _ => return none

/-- Reads the anchor and the tag in front of a value, in any order: the anchor, and whether there is any of the two. -/
def properties : Compose (Option (List Char) × Bool) := do
  match ← readAnchor with
  | some name =>
    let _ ← readTag
    return (some name, true)
  | none =>
    if ← readTag then return (← readAnchor, true)
    else return (none, false)

mutual

/-- A value. Within a block, blocks may follow, and as the value of a mapping also a sequence that is not indented. -/
def node (inBlock unindented : Bool) : Nat → Compose Yaml
  | 0 => failure
  | fuel + 1 => do
    match ← peek with
    | some (.alias name) =>
      skip
      lookup name
    | _ =>
      let (anchor, hasProperties) ← properties
      let v ← content inBlock unindented hasProperties fuel
      modify fun s => { s with anchors := (anchor.map (·, v)).toList ++ s.anchors }
      return v

/-- A value without its anchor and tag. -/
def content (inBlock unindented hasProperties : Bool) : Nat → Compose Yaml
  | 0 => failure
  | fuel + 1 => do
    match ← peek, inBlock with
    | some (.scalar isPlain text), _ =>
      skip
      return .scalar isPlain text
    | some .flowSequenceStart, _ =>
      skip
      .sequence <$> flowItems true fuel
    | some .flowMappingStart, _ =>
      skip
      .mapping <$> flowEntries true fuel
    | some .blockSequenceStart, true =>
      skip
      .sequence <$> blockItems fuel
    | some .blockMappingStart, true =>
      skip
      .mapping <$> blockEntries fuel
    | some .blockEntry, _ =>
      if unindented then .sequence <$> unindentedItems fuel
      else if hasProperties then return absent
      else failure
    | _, _ => if hasProperties then return absent else failure

/-- A value, or an absent one in front of the given tokens. -/
def orAbsent (inBlock unindented : Bool) (ends : List Token) : Nat → Compose Yaml
  | 0 => failure
  | fuel + 1 => do
    if ← isAbsentBefore ends then return absent else node inBlock unindented fuel

/-- The items of a block sequence up to its end. -/
def blockItems : Nat → Compose (List Yaml)
  | 0 => failure
  | fuel + 1 => do
    if ← accept .blockEntry then
      let item ← orAbsent true false [.blockEntry, .blockEnd] fuel
      return item :: (← blockItems fuel)
    else if ← accept .blockEnd then return []
    else failure

/-- The items of a sequence that is not indented; it ends where no further item follows. -/
def unindentedItems : Nat → Compose (List Yaml)
  | 0 => failure
  | fuel + 1 => do
    if ← accept .blockEntry then
      let item ← orAbsent true false [.blockEntry, .key, .value, .blockEnd] fuel
      return item :: (← unindentedItems fuel)
    else return []

/-- The entries of a block mapping up to its end. -/
def blockEntries : Nat → Compose (List (Yaml × Yaml))
  | 0 => failure
  | fuel + 1 => do
    let ends := [.key, .value, .blockEnd]
    if ← accept .key then
      let key ← orAbsent true true ends fuel
      let value ← if ← accept .value then orAbsent true true ends fuel else pure absent
      return (key, value) :: (← blockEntries fuel)
    else if ← accept .blockEnd then return []
    else failure

/-- The items of a flow sequence up to its bracket. An item with a colon is a mapping of one entry. -/
def flowItems (isFirst : Bool) : Nat → Compose (List Yaml)
  | 0 => failure
  | fuel + 1 => do
    if ← accept .flowSequenceEnd then return []
    else if !isFirst && !(← accept .flowEntry) then failure
    else if ← accept .flowSequenceEnd then return []
    else
      let ends := [.flowEntry, .flowSequenceEnd]
      let item ← if ← accept .key then do
          let key ← orAbsent false false (.value :: ends) fuel
          let value ← if ← accept .value then orAbsent false false ends fuel else pure absent
          pure (.mapping [(key, value)])
        else node false false fuel
      return item :: (← flowItems false fuel)

/-- The entries of a flow mapping up to its brace. An item without a colon is a key. -/
def flowEntries (isFirst : Bool) : Nat → Compose (List (Yaml × Yaml))
  | 0 => failure
  | fuel + 1 => do
    if ← accept .flowMappingEnd then return []
    else if !isFirst && !(← accept .flowEntry) then failure
    else if ← accept .flowMappingEnd then return []
    else
      let ends := [.flowEntry, .flowMappingEnd]
      let entry ← if ← accept .key then do
          let key ← orAbsent false false (.value :: ends) fuel
          let value ← if ← accept .value then orAbsent false false ends fuel else pure absent
          pure (key, value)
        else do
          let key ← node false false fuel
          pure (key, absent)
      return entry :: (← flowEntries false fuel)

end

/-- Reads the directives in front of a document: whether there are any. -/
def directives : Nat → Compose Bool
  | 0 => return false
  | fuel + 1 => do
    match ← peek with
    | some (.directive handle) =>
      skip
      modify fun s => { s with handles := handle.toList ++ s.handles }
      let _ ← directives fuel
      return true
    | _ => return false

/-- Skips marks behind a document. -/
def skipEnds : Nat → Compose Unit
  | 0 => return
  | fuel + 1 => do
    if ← accept .documentEnd then skipEnds fuel

/-- The one document of a text. After directives its start is marked; behind that mark it may be absent. -/
def document : Compose Yaml := do
  let count := (← get).tokens.length
  let fuel := 4 * count + 4
  if count == 0 then return absent
  let hasDirectives ← directives count
  let v ← if ← accept .documentStart then
      orAbsent true false [.directive none, .documentStart, .documentEnd] fuel
    else if hasDirectives then failure
    else node true false fuel
  skipEnds count
  if (← peek).isNone then return v else failure

end Compose

/-- Reads a text with at most one document. -/
def parse (text : String) : Option Yaml := do
  let tokens ← tokens? text
  return (← Compose.document.run { tokens }).1

end Blotter.Yaml
