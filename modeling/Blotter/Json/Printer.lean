import Blotter.Json.Basic

/-!
# Writing JSON

The text of a value has no blanks. In a string the quote, the backslash and the control characters are escaped, the
five common ones with a letter and the others with four hexadecimal digits; every other character stands for itself.
-/

namespace Blotter.Json

/-- A character as it is written in a string. -/
def escape (c : Char) : List Char :=
  if c == '"' then ['\\', '"']
  else if c == '\\' then ['\\', '\\']
  else if 0x20 ≤ c.toNat then [c]
  else if c.toNat == 0x08 then ['\\', 'b']
  else if c.toNat == 0x0C then ['\\', 'f']
  else if c == '\n' then ['\\', 'n']
  else if c == '\r' then ['\\', 'r']
  else if c == '\t' then ['\\', 't']
  else ['\\', 'u', '0', '0', Numeral.hexDigit (c.toNat / 16), Numeral.hexDigit (c.toNat % 16)]

/-- A string with its quotes. -/
def quote (s : String) : List Char := '"' :: s.toList.flatMap escape ++ ['"']

/-- A number. -/
def numberChars : JsonNumber → List Char
  | .natural n => Blotter.Numeral.digits n
  | .negative n => '-' :: Blotter.Numeral.digits n
  | .float negative x => if negative then '-' :: x.text else x.text

mutual
/-- The characters of a value. -/
def toChars : Json → List Char
  | .null | .unusable => "null".toList
  | .bool b => if b then "true".toList else "false".toList
  | .number n => numberChars n
  | .string s => quote s
  | .array [] => ['[', ']']
  | .array (x :: xs) => '[' :: x.toChars ++ elementChars xs
  | .object [] => ['\x7b', '\x7d']
  | .object ((name, x) :: ms) => '\x7b' :: quote name ++ ':' :: x.toChars ++ memberChars ms

/-- The elements behind the first one, each behind a comma, and the closing bracket. -/
def elementChars : List Json → List Char
  | [] => [']']
  | x :: xs => ',' :: x.toChars ++ elementChars xs

/-- The members behind the first one, each behind a comma, and the closing brace. -/
def memberChars : List (String × Json) → List Char
  | [] => ['\x7d']
  | (name, x) :: ms => ',' :: quote name ++ ':' :: x.toChars ++ memberChars ms
end

/-- The text of a value. -/
def text (v : Json) : String := String.ofList v.toChars

end Blotter.Json
