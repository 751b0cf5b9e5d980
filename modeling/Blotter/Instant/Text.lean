import Blotter.Instant.Basic
import Blotter.Power
import Blotter.Text.Blank

/-!
# Instants as text

An instant is written in the style of RFC 3339 with 0, 3, 6 or 9 fraction digits, whichever is the least exact number,
and either `Z` or `+00:00` at the end. `parse` reads the same style with some freedom: one-digit fields, blanks between
the parts, signed years, any offset. `parseStrict` reads RFC 3339 and nothing else.
-/

namespace Blotter

namespace Instant

open Numeral Text

/-! ## Writing -/

/-- The fraction of a second, none if it is zero. -/
def fractionChars (nano : Nat) : List Char :=
  if nano == 0 then []
  else if nano % 1000000 == 0 then '.' :: padded 3 (nano / 1000000)
  else if nano % 1000 == 0 then '.' :: padded 6 (nano / 1000)
  else '.' :: padded 9 nano

/-- Date, time and fraction; a leap second is written as second 60. -/
def toChars (t : Instant) : List Char :=
  let leap := 1000000000 ≤ t.nano
  let second := if leap then t.second % 60 + 1 else t.second % 60
  let nano := if leap then t.nano - 1000000000 else t.nano
  t.date.toChars ++ 'T' :: padded 2 (t.second / 3600) ++ ':' :: padded 2 (t.second / 60 % 60) ++
    ':' :: padded 2 second ++ fractionChars nano

/-- The text that ends in `Z`. -/
def text (t : Instant) : String := String.ofList (t.toChars ++ ['Z'])

/-- The text that ends in the offset `+00:00`. -/
def offsetText (t : Instant) : String := String.ofList (t.toChars ++ "+00:00".toList)

/-! ## Reading -/

/-- Reads at least `least` and at most `most` digits. -/
def number? (least most : Nat) (cs : List Char) : Option (Nat × List Char) :=
  let ds := (cs.take most).takeWhile Char.isDigit
  if ds.length < least then none else some (value ds, cs.drop ds.length)

/-- Reads one given character. -/
def expect? (c : Char) : List Char → Option (List Char)
  | d :: rest => if c == d then some rest else none
  | [] => none

/-- Reads a fraction: nothing, or a point and at least one digit. Digits after the ninth are dropped. -/
def fraction? : List Char → Option (Nat × List Char)
  | '.' :: rest => do
    let (n, after) ← number? 1 9 rest
    let width := (rest.take 9).takeWhile Char.isDigit |>.length
    some (n * tenTo (9 - width), after.dropWhile Char.isDigit)
  | cs => some (0, cs)

/-- Reads the hours, the separator and the minutes of an offset, in seconds. -/
def offsetDigits? (separator : List Char → Option (List Char)) (cs : List Char) : Option (Nat × List Char) := do
  let (hours, cs) ← number? 2 2 cs
  let cs ← separator cs
  let (minutes, cs) ← number? 2 2 cs
  if hours ≤ 23 && minutes ≤ 59 then some (hours * 3600 + minutes * 60, cs) else none

/-- Reads an offset from UTC, in seconds to the east. -/
def offset? (separator : List Char → Option (List Char)) : List Char → Option (Int × List Char)
  | 'Z' :: rest | 'z' :: rest => some (0, rest)
  | '+' :: rest => do
    let (n, rest) ← offsetDigits? separator rest
    some ((n : Int), rest)
  | '-' :: rest | '\u2212' :: rest => do
    let (n, rest) ← offsetDigits? separator rest
    some (-(n : Int), rest)
  | _ => none

/-- The fields of a written instant. -/
structure Fields where
  year : Int
  month : Nat
  day : Nat
  hour : Nat
  minute : Nat
  second : Nat
  nano : Nat
  offset : Int

/-- The instant that the fields denote. The local date has to lie in the calendar's range too. -/
def ofFields? (f : Fields) : Option Instant :=
  let date : Date := ⟨f.year, f.month, f.day⟩
  if date.isValid && f.hour ≤ 23 && f.minute ≤ 59 && f.second ≤ 60 && -262143 ≤ f.year && f.year ≤ 262142 then
    let leap := f.second == 60
    let second : Int := f.hour * 3600 + f.minute * 60 + (if leap then 59 else f.second) - f.offset
    let nano := if leap then f.nano + 1000000000 else f.nano
    ofParts? (date.toDay + second / 86400) (second % 86400).toNat nano
  else none

/-- Reads a year: with a sign any number of digits, without one at most four. -/
def year? : List Char → Option (Int × List Char)
  | '-' :: rest => (number? 1 rest.length rest).map fun (n, rest) => (-(n : Int), rest)
  | '+' :: rest => (number? 1 rest.length rest).map fun (n, rest) => ((n : Int), rest)
  | cs => (number? 1 4 cs).map fun (n, rest) => ((n : Int), rest)

/-- Reads a field of one or two digits behind blanks. -/
def field? (cs : List Char) : Option (Nat × List Char) := number? 1 2 (skipBlanks cs)

/-- Reads blanks and a separator. -/
def separator? (c : Char) (cs : List Char) : Option (List Char) := expect? c (skipBlanks cs)

/-- Reads the end of a time: `UTC` in any case, or an offset whose parts may be separated by colons and blanks. -/
def zone? : List Char → Option (Int × List Char)
  | u :: t :: c :: rest =>
    if [u, t, c].map Char.toUpper == ['U', 'T', 'C'] then some (0, rest)
    else offset? (fun cs => some (cs.dropWhile fun c => c == ':' || isBlank c)) (u :: t :: c :: rest)
  | cs => offset? (fun cs => some (cs.dropWhile fun c => c == ':' || isBlank c)) cs

/-- Reads an instant in the relaxed style. -/
def parseChars (cs : List Char) : Option Instant := do
  let (year, cs) ← year? (skipBlanks cs)
  let cs ← separator? '-' cs
  let (month, cs) ← field? cs
  let cs ← separator? '-' cs
  let (day, cs) ← field? cs
  let cs ← match cs with
    | 'T' :: rest | 't' :: rest | ' ' :: rest => some rest
    | _ => none
  let (hour, cs) ← field? cs
  let cs ← separator? ':' cs
  let (minute, cs) ← field? cs
  let cs ← separator? ':' cs
  let (second, cs) ← field? cs
  let (nano, cs) ← fraction? cs
  let (offset, cs) ← zone? (skipBlanks cs)
  if (skipBlanks cs).isEmpty then ofFields? ⟨year, month, day, hour, minute, second, nano, offset⟩ else none

/-- Reads an instant in the relaxed style. -/
def parse (s : String) : Option Instant := parseChars s.toList

/-- Reads an instant in the style of RFC 3339: all fields in full width. -/
def parseStrictChars (cs : List Char) : Option Instant := do
  let (year, cs) ← number? 4 4 cs
  let cs ← expect? '-' cs
  let (month, cs) ← number? 2 2 cs
  let cs ← expect? '-' cs
  let (day, cs) ← number? 2 2 cs
  let cs ← match cs with
    | 'T' :: rest | 't' :: rest | ' ' :: rest => some rest
    | _ => none
  let (hour, cs) ← number? 2 2 cs
  let cs ← expect? ':' cs
  let (minute, cs) ← number? 2 2 cs
  let cs ← expect? ':' cs
  let (second, cs) ← number? 2 2 cs
  let (nano, cs) ← fraction? cs
  let (offset, cs) ← offset? (expect? ':') cs
  if cs.isEmpty then ofFields? ⟨year, month, day, hour, minute, second, nano, offset⟩ else none

/-- Reads an instant in the style of RFC 3339. -/
def parseStrict (s : String) : Option Instant := parseStrictChars s.toList

end Instant

namespace Date

open Numeral Instant

/-- Reads year, month and day, separated by hyphens. -/
def parse (s : String) : Option Date := do
  let (year, cs) ← year? s.toList
  let cs ← expect? '-' cs
  let (month, cs) ← number? 1 2 cs
  let cs ← expect? '-' cs
  let (day, cs) ← number? 1 2 cs
  let date : Date := ⟨year, month, day⟩
  if cs.isEmpty && date.isValid then some date else none

end Date

end Blotter
