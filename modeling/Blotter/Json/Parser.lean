import Blotter.Json.Number

/-!
# Reading JSON

`parse` reads a text that holds one value and blanks around it. The readers take the characters that are left and
return the rest behind what they read. The recursion is bounded by the length of the text; every array and every
object takes at least one character.
-/

namespace Blotter.Json

namespace Scan

/-- The blanks of JSON. -/
def isBlank (c : Char) : Bool := c == ' ' || c == '\n' || c == '\t' || c == '\r'

/-- The text without the blanks in front. -/
def skipBlanks (cs : List Char) : List Char := cs.dropWhile isBlank

/-! ## Strings -/

/-- The character behind the backslash of a short escape. -/
def shortEscape? : Char → Option Nat
  | '"' => some 0x22
  | '\\' => some 0x5C
  | '/' => some 0x2F
  | 'b' => some 0x08
  | 'f' => some 0x0C
  | 'n' => some 0x0A
  | 'r' => some 0x0D
  | 't' => some 0x09
  | _ => none

/-- Reads the code points of a string up to the closing quote. An escape may write half of a surrogate pair. -/
def codePoints? : List Char → Option (List Nat × List Char)
  | [] => none
  | '"' :: rest => some ([], rest)
  | '\\' :: 'u' :: a :: b :: c :: d :: rest => do
    let n ← Blotter.Numeral.valueIn? 16 [a, b, c, d]
    let (ns, rest) ← codePoints? rest
    some (n :: ns, rest)
  | '\\' :: c :: rest => do
    let n ← shortEscape? c
    let (ns, rest) ← codePoints? rest
    some (n :: ns, rest)
  | c :: rest => do
    if c.toNat < 0x20 || c == '\\' then none
    else
      let (ns, rest) ← codePoints? rest
      some (c.toNat :: ns, rest)

/-- Whether a code point is the first half of a surrogate pair. -/
def isHighHalf (n : Nat) : Bool := 0xD800 ≤ n && n ≤ 0xDBFF

/-- Whether a code point is the second half of a surrogate pair. -/
def isLowHalf (n : Nat) : Bool := 0xDC00 ≤ n && n ≤ 0xDFFF

/-- The characters of the code points: two halves in a row are one character, a half on its own is none. -/
def joinHalves? : List Nat → Option (List Char)
  | [] => some []
  | [n] => if isHighHalf n || isLowHalf n then none else some [Char.ofNat n]
  | n :: m :: rest =>
    if isHighHalf n && isLowHalf m then do
      some (Char.ofNat (0x10000 + (n - 0xD800) * 0x400 + (m - 0xDC00)) :: (← joinHalves? rest))
    else if isHighHalf n || isLowHalf n then none
    else do some (Char.ofNat n :: (← joinHalves? (m :: rest)))

/-- Reads a string behind its opening quote. The text of a string with half of a surrogate pair is `none`. -/
def string? (cs : List Char) : Option (Option String × List Char) := do
  let (ns, rest) ← codePoints? cs
  some ((joinHalves? ns).map String.ofList, rest)

/-! ## Values -/

/-- Reads the word `w`. -/
def word? (w : List Char) (cs : List Char) : Option (List Char) :=
  if w.isPrefixOf cs then some (cs.drop w.length) else none

/-- The object with the given members, unless one of the names denotes no text. -/
def ofMembers (ms : List (Option String × Json)) : Json :=
  match ms.mapM fun (name, v) => name.map (·, v) with
  | some ms => .object ms
  | none => .unusable

mutual
/-- Reads a value behind blanks. -/
def value? : Nat → List Char → Option (Json × List Char)
  | 0, _ => none
  | fuel + 1, cs =>
    match skipBlanks cs with
    | '{' :: rest =>
      match skipBlanks rest with
      | '}' :: rest => some (.object [], rest)
      | rest => do
        let (ms, rest) ← members? fuel rest
        some (ofMembers ms, rest)
    | '[' :: rest =>
      match skipBlanks rest with
      | ']' :: rest => some (.array [], rest)
      | rest => do
        let (xs, rest) ← elements? fuel rest
        some (.array xs, rest)
    | '"' :: rest => do
      let (s, rest) ← string? rest
      some (s.elim .unusable .string, rest)
    | 'n' :: rest => (word? "ull".toList rest).map (.null, ·)
    | 't' :: rest => (word? "rue".toList rest).map (.bool true, ·)
    | 'f' :: rest => (word? "alse".toList rest).map (.bool false, ·)
    | cs => do
      let (n, rest) ← Numeral.scan? cs
      some (n.toNumber?.elim .unusable .number, rest)

/-- Reads the elements of an array, one at least, and the closing bracket. -/
def elements? : Nat → List Char → Option (List Json × List Char)
  | 0, _ => none
  | fuel + 1, cs => do
    let (x, rest) ← value? fuel cs
    match skipBlanks rest with
    | ',' :: rest => do
      let (xs, rest) ← elements? fuel rest
      some (x :: xs, rest)
    | ']' :: rest => some ([x], rest)
    | _ => none

/-- Reads the members of an object, one at least, and the closing brace. -/
def members? : Nat → List Char → Option (List (Option String × Json) × List Char)
  | 0, _ => none
  | fuel + 1, cs =>
    match skipBlanks cs with
    | '"' :: rest => do
      let (name, rest) ← string? rest
      match skipBlanks rest with
      | ':' :: rest => do
        let (x, rest) ← value? fuel rest
        match skipBlanks rest with
        | ',' :: rest => do
          let (ms, rest) ← members? fuel rest
          some ((name, x) :: ms, rest)
        | '}' :: rest => some ([(name, x)], rest)
        | _ => none
      | _ => none
    | _ => none
end

end Scan

/-- Reads a text that holds exactly one value. -/
def parseChars (cs : List Char) : Option Json :=
  match Scan.value? (2 * cs.length + 2) cs with
  | some (v, rest) => if (Scan.skipBlanks rest).isEmpty then some v else none
  | none => none

/-- Reads a text that holds exactly one value. -/
def parse (s : String) : Option Json := parseChars s.toList

end Blotter.Json
