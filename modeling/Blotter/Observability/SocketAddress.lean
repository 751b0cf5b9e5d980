import Blotter.Text.Numeral

/-!
# Socket addresses

An IP address of version 4 or 6 with the number of a service on it, the place where metrics are offered. A version 6
address is written in the shortest way: lower case, no leading zeros, the first of the longest runs of two or more zero
groups as `::`, and the address of a mapped version 4 host with its four octets.
-/

namespace Blotter

/-- An IP address with the number of a service. -/
inductive SocketAddress where
  /-- Four octets. -/
  | v4 (octets : List Nat) (service : Nat)
  /-- Eight groups of 16 bits, and the number of the zone. -/
  | v6 (groups : List Nat) (zone service : Nat)
deriving DecidableEq, Repr

namespace SocketAddress

open Numeral

/-! ## Writing -/

/-- The hexadecimal numeral of a group. -/
def groupChars (n : Nat) : List Char :=
  let ds := [n / 4096 % 16, n / 256 % 16, n / 16 % 16, n % 16].map hexDigit
  match ds.dropWhile (· == '0') with
  | [] => ['0']
  | ds => ds

/-- Texts with a separator between them. -/
def joined (separator : Char) : List (List Char) → List Char
  | [] => []
  | [cs] => cs
  | cs :: rest => cs ++ separator :: joined separator rest

/-- The octets of a version 4 address. -/
def octetChars (octets : List Nat) : List Char := joined '.' (octets.map digits)

/-- Start and length of the first of the longest runs of zero groups. `at'` is the number of the first group, and
`best` the longest run so far. -/
def longestRun (at' : Nat) (best : Nat × Nat) : List Nat → Nat × Nat
  | [] => best
  | g :: rest =>
    let run := ((g :: rest).takeWhile (· == 0)).length
    longestRun (at' + 1) (if best.2 < run then (at', run) else best) rest

/-- A version 6 address. -/
def groupsChars (groups : List Nat) : List Char :=
  match groups with
  | [0, 0, 0, 0, 0, 0xffff, a, b] => "::ffff:".toList ++ octetChars [a / 256, a % 256, b / 256, b % 256]
  | _ =>
    let (start, length) := longestRun 0 (0, 0) groups
    if 1 < length then
      joined ':' ((groups.take start).map groupChars) ++ "::".toList ++
        joined ':' ((groups.drop (start + length)).map groupChars)
    else joined ':' (groups.map groupChars)

/-- The text of an address. -/
def text : SocketAddress → String
  | .v4 octets service => String.ofList (octetChars octets ++ ':' :: digits service)
  | .v6 groups zone service =>
    let zoneChars := if zone == 0 then [] else '%' :: digits zone
    String.ofList ('[' :: groupsChars groups ++ zoneChars ++ ']' :: ':' :: digits service)

/-! ## Reading -/

/-- A number in decimal notation that is not larger than `most`. -/
def bounded? (most : Nat) (cs : List Char) : Option Nat := do
  let n ← value? cs
  if n ≤ most then some n else none

/-- An octet has one to three digits and no leading zero. -/
def octet? (cs : List Char) : Option Nat :=
  if cs.length ≤ 3 && (cs.length == 1 || cs.head? != some '0') then bounded? 255 cs else none

/-- A version 4 address. -/
def octets? (cs : List Char) : Option (List Nat) := do
  let octets ← (cs.splitOnP (· == '.')).mapM octet?
  if octets.length == 4 then some octets else none

/-- A group has one to four hexadecimal digits. -/
def group? (cs : List Char) : Option Nat := if 4 < cs.length then none else valueIn? 16 cs

/-- Groups between colons; a version 4 address may stand for the last two. -/
def groupList? : List (List Char) → Option (List Nat)
  | [] => some []
  | [cs] =>
    if cs.contains '.' then (octets? cs).bind fun
      | [a, b, c, d] => some [a * 256 + b, c * 256 + d]
      | _ => none
    else (group? cs).map ([·])
  | cs :: rest => do
    let g ← group? cs
    some (g :: (← groupList? rest))

/-- The pieces of a part of a version 6 address. -/
def part? (cs : List Char) : Option (List Nat) := if cs.isEmpty then some [] else groupList? (cs.splitOnP (· == ':'))

/-- Splits at the first `::`. -/
def splitAtGap : List Char → Option (List Char × List Char)
  | ':' :: ':' :: rest => some ([], rest)
  | c :: rest => (splitAtGap rest).map fun (front, back) => (c :: front, back)
  | [] => none

/-- A version 6 address. -/
def groups? (cs : List Char) : Option (List Nat) :=
  match splitAtGap cs with
  | none => do
    let groups ← part? cs
    if groups.length == 8 then some groups else none
  | some (front, back) => do
    let front' ← part? front
    let back ← part? back
    if front.contains '.' || 7 < front'.length + back.length then none
    else some (front' ++ List.replicate (8 - front'.length - back.length) 0 ++ back)

/-- The number of a service behind a colon. -/
def service? : List Char → Option Nat
  | ':' :: cs => bounded? 65535 cs
  | _ => none

/-- Reads an address with the number of a service. -/
def parse (s : String) : Option SocketAddress :=
  match s.toList with
  | '[' :: cs => do
    let inside := cs.takeWhile (· != ']')
    let service ← service? ((cs.dropWhile (· != ']')).drop 1)
    let address := inside.takeWhile (· != '%')
    let zone ← match inside.dropWhile (· != '%') with
      | [] => some 0
      | _ :: ds => bounded? 4294967295 ds
    some (.v6 (← groups? address) zone service)
  | cs => do
    let octets ← octets? (cs.takeWhile (· != ':'))
    some (.v4 octets (← service? (cs.dropWhile (· != ':'))))

end SocketAddress

end Blotter
