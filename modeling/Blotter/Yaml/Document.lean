import Blotter.Document
import Blotter.Binary64
import Blotter.Power
import Blotter.Yaml.Integer
import Blotter.Yaml.Parser

/-!
# YAML as a document format

A mapping without a repeated key is a record, and so is a value that is absent or null. What a plain scalar is depends
on what is wanted: `42` is a number and a text. A mapping takes over the entries of the mappings under `<<` that it does
not have itself.
-/

namespace Blotter.Yaml

/-! ## Mappings -/

/-- The entries of a mapping with their keys as texts; a key that is not a scalar has none. -/
def textKeys? (entries : List (Yaml × Yaml)) : Option (List (String × Yaml)) :=
  entries.mapM fun
    | (.scalar _ key, v) => some (key, v)
    | _ => none

/-- The entries of a mapping. -/
def entries? : Yaml → Option (List (Yaml × Yaml))
  | .mapping entries => some entries
  | _ => none

/-- The entries that a value under `<<` brings in: those of a mapping, or of all mappings in a sequence. -/
def mergedEntries? : Yaml → Option (List (Yaml × Yaml))
  | .sequence items => (items.mapM entries?).map List.flatten
  | v => entries? v

/-- The entry of a mapping that brings in other mappings. -/
def isMerge : Yaml × Yaml → Bool
  | (.scalar true "<<", _) => true
  | _ => false

/-- Adds an entry unless there is one with its key. -/
def addMissing (entries : List (String × Yaml)) (entry : String × Yaml) : List (String × Yaml) :=
  if entries.any (·.1 == entry.1) then entries else entries ++ [entry]

/-- Whether no key occurs twice. -/
def keysAreDistinct : List (String × Yaml) → Bool
  | [] => true
  | (key, _) :: entries => !entries.any (·.1 == key) && keysAreDistinct entries

/-- The entries of a mapping with those that it takes over behind its own. -/
def entriesOf? (entries : List (Yaml × Yaml)) : Option (List (String × Yaml)) := do
  let own ← textKeys? (entries.filter (!isMerge ·))
  if !keysAreDistinct own then none
  else
    let merged ← (entries.filter isMerge).mapM fun entry => mergedEntries? entry.2
    some ((← textKeys? merged.flatten).foldl addMissing own)

/-! ## Scalars -/

/-- The spellings of null. -/
def isNullText (s : String) : Bool := s == "" || s == "~" || s == "null" || s == "Null" || s == "NULL"

/-- The spellings of the truth values. -/
def boolOfText? (s : String) : Option Bool :=
  if s == "true" || s == "True" || s == "TRUE" then some true
  else if s == "false" || s == "False" || s == "FALSE" then some false
  else none

/-- Whether nothing is there. -/
def isNull : Yaml → Bool
  | .scalar true s => isNullText s
  | _ => false

/-- The members of a record. -/
def members? (names : List String) : Yaml → Option (List (String × Yaml))
  | .mapping entries => (entriesOf? entries).map fun known => known.filter fun m => names.contains m.1
  | v => if isNull v then some [] else none

/-- The text of a scalar, however it is written. -/
def text? : Yaml → Option String
  | .scalar _ s => some s
  | _ => none

/-- A truth value. -/
def bool? : Yaml → Option Bool
  | .scalar true s => boolOfText? s
  | _ => none

/-- An integer within bounds. -/
def boundedInteger? (least most : Int) : Yaml → Option Int
  | .scalar true s =>
    -- A number that cannot be negative has no minus sign, not even in front of zero.
    if 0 ≤ least && s.toList.head? == some '-' then none
    else (integer? s.toList).filter fun i => least ≤ i && i ≤ most
  | _ => none

/-! ## Decimals -/

/-- The parts of a decimal numeral: the digits before and behind the point, of which there is at least one, and the
exponent. -/
def numeral? (cs : List Char) : Option (List Char × List Char × Int) := do
  let whole := cs.takeWhile Char.isDigit
  let behind := cs.drop whole.length
  let (fraction, behind) := match behind with
    | '.' :: rest => (rest.takeWhile Char.isDigit, rest.dropWhile Char.isDigit)
    | rest => ([], rest)
  if whole.isEmpty && fraction.isEmpty then none
  else match behind with
    | [] => some (whole, fraction, 0)
    | e :: rest =>
      if e != 'e' && e != 'E' then none
      else
        let (isNegative, ds) := match rest with
          | '-' :: ds => (true, ds)
          | '+' :: ds => (false, ds)
          | ds => (false, ds)
        let n ← Numeral.value? ds
        some (whole, fraction, if isNegative then -(n : Int) else n)

/-- The magnitude nearest to `digits * 10 ^ e`. Beyond the range of exponents only the side matters. -/
def nearest? (digits : List Char) (e : Int) : Option Binary64 :=
  let n := Numeral.value digits
  if n == 0 then some ⟨0, Binary64.lowestExponent⟩
  else if 400 < e then none
  else if e < -(400 + (digits.length : Int)) then some ⟨0, Binary64.lowestExponent⟩
  else if 0 ≤ e then Binary64.nearest? (n * tenTo e.toNat) 1
  else Binary64.nearest? n (tenTo (-e).toNat)

/-- The sign and the magnitude of a binary number. -/
def float? (cs : List Char) : Option (Bool × Binary64) := do
  let (isNegative, cs) := match cs with
    | '-' :: cs => (true, cs)
    | '+' :: cs => (false, cs)
    | cs => (false, cs)
  let (whole, fraction, e) ← numeral? cs
  some (isNegative, ← nearest? (whole ++ fraction) (e - fraction.length))

/-- A decimal written plainly: an integer of 64 bits, or else a binary number, whose shortest text is read. A text that
is no number in YAML may still be a decimal. -/
def plainDecimal? (s : String) : Option Decimal :=
  let cs := s.toList
  let unsigned := if cs.head? == some '-' || cs.head? == some '+' then cs.tail else cs
  match integer? cs with
  | some i => if -9223372036854775808 ≤ i && i ≤ 18446744073709551615 then Decimal.ofInt? i else none
  | none =>
    match (if hasLeadingZero unsigned then none else float? cs) with
    | some (isNegative, x) => (Decimal.parseChars (if isNegative then '-' :: x.text else x.text)).toOption
    | none => Decimal.ofText? s

/-- A decimal. A quoted one is read from its text. -/
def decimal? : Yaml → Option Decimal
  | .scalar true s => if isNullText s || (boolOfText? s).isSome then none else plainDecimal? s
  | .scalar false s => Decimal.ofText? s
  | _ => none

instance : Document Yaml where
  members? := members?
  isNull := isNull
  text? := text?
  bool? := bool?
  integer? := boundedInteger?
  decimal? := decimal?
  variant? := text?

end Blotter.Yaml
