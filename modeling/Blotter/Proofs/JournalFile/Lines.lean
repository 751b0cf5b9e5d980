import Mathlib
import Blotter.JournalFile.Basic
import Blotter.Proofs.Json.Prefix
import Blotter.Proofs.Record.Codec
import Blotter.Proofs.Text.Utf8

/-!
# The lines of a journal file

- The line of a record is read as the record (`recordOfLine?_line`), and a torn one is read as nothing
  (`recordOfLine?_front`).
- What follows the end of a line is read on its own (`recordsOfBytes_append`), and a single byte is read as nothing
  (`recordsOfBytes_short`).
- Whatever front of the lines of records gets onto the disk, it is read as the first of the records
  (`recordsOfBytes_front`).
-/

namespace Blotter.JournalFile

/-! ## One line -/

/-- The bytes of a record without the end of the line. -/
def lineFront (r : Record) : List UInt8 := r.line.toUTF8.toList

theorem lineFront_eq (r : Record) : lineFront r = Text.bytes r.toJson.toChars := by
  rw [lineFront, Text.toUTF8_toList, Record.line, Json.text, String.toList_ofList]

theorem lineBreak_notMem_lineFront {r : Record} (h : r.FitsWords) : lineBreak ∉ lineFront r := by
  rw [lineFront_eq]
  exact Text.lineBreak_notMem_bytes (Json.lineBreak_notMem_toChars (Record.isExact_toJson h))

/-- What is read on a line is the value of its text. -/
theorem recordOfLine?_of_text {line : List UInt8} {text : String} (h : String.fromUTF8? ⟨line.toArray⟩ = some text) :
    recordOfLine? line = Json.parse text >>= Record.ofJson? := by
  rw [recordOfLine?, h]
  rfl

/-- The line of a record is read as the record. -/
theorem recordOfLine?_line {r : Record} (h : r.FitsWords) : recordOfLine? (lineFront r) = some r.withPlainZeros := by
  rw [recordOfLine?, lineFront, Text.toUTF8_toList, Text.fromUTF8?_bytes]
  exact Record.ofLine?_line h

/-- A line that is torn before its end is no record. -/
theorem recordOfLine?_front {r : Record} (h : r.FitsWords) {front ext : List UInt8} (hf : front ++ ext = lineFront r)
    (he : ext ≠ []) : recordOfLine? front = none := by
  rw [lineFront_eq] at hf
  cases hs : String.fromUTF8? ⟨front.toArray⟩ with
  | none =>
    rw [recordOfLine?, hs]
    rfl
  | some s =>
    obtain ⟨hfront, rest, hrest⟩ := Text.fromUTF8?_prefix hf hs
    have more : rest ≠ [] := by
      rintro rfl
      rw [List.append_nil] at hrest
      rw [← hrest, ← hfront] at hf
      exact he (List.append_right_eq_self.mp hf)
    have torn := Json.parseChars_prefix (Record.isExact_toJson h) hrest more
    rw [recordOfLine?_of_text hs, Json.parse, torn]
    rfl

/-- A record takes more than one byte. -/
theorem recordOfLine?_short {line : List UInt8} (short : line.length ≤ 1) : recordOfLine? line = none := by
  cases utf8 : String.fromUTF8? ⟨line.toArray⟩ with
  | none =>
    rw [recordOfLine?, utf8]
    rfl
  | some s =>
    rw [recordOfLine?_of_text utf8]
    refine Option.eq_none_iff_forall_ne_some.mpr fun r read => ?_
    obtain ⟨v, parsed, read⟩ := Option.bind_eq_some_iff.mp read
    obtain ⟨-, ms, members, -⟩ := Record.ofJson?_eq_some_iff.mp read
    obtain ⟨all, rfl, -⟩ := Json.objectMembers?_eq_some_iff.mp members
    have few : s.toList.length ≤ 1 := by
      rw [Text.eq_bytes_of_fromUTF8? utf8] at short
      exact (Text.length_le_bytes s.toList).trans short
    rw [Json.parse] at parsed
    rcases chars : s.toList with _ | ⟨c, _ | ⟨_, _⟩⟩
    · rw [chars] at parsed
      cases parsed
    · rw [chars] at parsed
      exact Json.parseChars_single_ne_object c all parsed
    · rw [chars, List.length_cons, List.length_cons] at few
      omega

/-! ## Many lines -/

theorem recordsOfBytes_nil : recordsOfBytes [] = [] := by
  have none : recordOfLine? [] = none := recordOfLine?_short (Nat.zero_le 1)
  rw [recordsOfBytes, List.splitOnP_nil, List.filterMap_cons, none]
  rfl

theorem recordsOfBytes_lineBreak (a b : List UInt8) :
    recordsOfBytes (a ++ lineBreak :: b) = recordsOfBytes a ++ recordsOfBytes b := by
  rw [recordsOfBytes, List.splitOnP_append_cons a b (by simp), List.filterMap_append]
  rfl

/-- A text without line breaks is one line. -/
theorem recordsOfBytes_single {line : List UInt8} (h : lineBreak ∉ line) :
    recordsOfBytes line = (recordOfLine? line).toList := by
  have whole : line.splitOnP (· == lineBreak) = [line] := by
    apply List.splitOnP_eq_singleton
    intro b hb
    rw [beq_eq_false_iff_ne]
    rintro rfl
    exact h hb
  rw [recordsOfBytes, whole]
  cases hr : recordOfLine? line <;> simp [hr]

/-- The end of a line that may be torn adds nothing. -/
theorem recordsOfBytes_mended (a : List UInt8) : recordsOfBytes (a ++ [lineBreak]) = recordsOfBytes a := by
  rw [recordsOfBytes_lineBreak, recordsOfBytes_nil, List.append_nil]

theorem isTorn_mended (a : List UInt8) : isTorn (a ++ [lineBreak]) = false := by
  simp [isTorn]

theorem isTorn_append {a b : List UInt8} (ha : isTorn a = false) (hb : isTorn b = false) : isTorn (a ++ b) = false := by
  cases b with
  | nil => rwa [List.append_nil]
  | cons c cs => rwa [isTorn, List.getLast?_append_of_ne_nil _ (by simp), ← isTorn]

/-- What follows the end of a line is read on its own. -/
theorem recordsOfBytes_append {a : List UInt8} (h : isTorn a = false) (b : List UInt8) :
    recordsOfBytes (a ++ b) = recordsOfBytes a ++ recordsOfBytes b := by
  rcases List.eq_nil_or_concat a with rfl | ⟨front, last, rfl⟩
  · rw [List.nil_append, recordsOfBytes_nil, List.nil_append]
  · have hlast : last = lineBreak := by simpa [isTorn] using h
    rw [hlast, List.concat_eq_append, List.append_assoc, List.singleton_append, recordsOfBytes_lineBreak,
      recordsOfBytes_mended]

/-- The lines of records. -/
def linesOf (rs : List Record) : List UInt8 := rs.flatMap lineBytes

theorem lineBytes_eq (r : Record) : lineBytes r = lineFront r ++ [lineBreak] := rfl

theorem linesOf_cons (r : Record) (rs : List Record) : linesOf (r :: rs) = lineFront r ++ lineBreak :: linesOf rs := by
  rw [linesOf, List.flatMap_cons, lineBytes_eq, List.append_assoc]
  rfl

theorem isTorn_linesOf (rs : List Record) : isTorn (linesOf rs) = false := by
  rcases List.eq_nil_or_concat rs with rfl | ⟨front, last, rfl⟩
  · rfl
  · rw [linesOf, List.concat_eq_append, List.flatMap_append, List.flatMap_singleton, lineBytes_eq, ← List.append_assoc]
    exact isTorn_mended _

/-- The records as they are read back. -/
def plain (rs : List Record) : List Record := rs.map Record.withPlainZeros

/-- The lines of records are read as the records. -/
theorem recordsOfBytes_linesOf {rs : List Record} (h : ∀ r ∈ rs, r.FitsWords) :
    recordsOfBytes (linesOf rs) = plain rs := by
  induction rs with
  | nil => exact recordsOfBytes_nil
  | cons r rs ih =>
    have hr := h r (by simp)
    rw [linesOf_cons, recordsOfBytes_lineBreak, ih fun s hs => h s (by simp [hs]),
      recordsOfBytes_single (lineBreak_notMem_lineFront hr), recordOfLine?_line hr]
    rfl

/-- Any front of the lines of records is read as the first of the records. -/
theorem recordsOfBytes_front {rs : List Record} (h : ∀ r ∈ rs, r.FitsWords) {front : List UInt8}
    (hf : front <+: linesOf rs) : ∃ k ≤ rs.length, recordsOfBytes front = plain (rs.take k) := by
  induction rs generalizing front with
  | nil =>
    obtain rfl : front = [] := List.prefix_nil.mp hf
    exact ⟨0, Nat.le_refl 0, recordsOfBytes_nil⟩
  | cons r rs ih =>
    have hr := h r (by simp)
    rw [linesOf_cons] at hf
    have one : recordsOfBytes (lineFront r) = plain ((r :: rs).take 1) := by
      rw [recordsOfBytes_single (lineBreak_notMem_lineFront hr), recordOfLine?_line hr]
      rfl
    -- The front ends inside of the first line, at the end of what it holds, or behind it.
    rcases List.prefix_or_prefix_of_prefix hf (List.prefix_append (lineFront r) _) with ⟨ext, inside⟩ | ⟨tail, rfl⟩
    · by_cases he : ext = []
      · rw [he, List.append_nil] at inside
        rw [inside]
        exact ⟨1, by simp, one⟩
      · have noBreak : lineBreak ∉ front := fun hb =>
          lineBreak_notMem_lineFront hr (inside ▸ List.mem_append_left ext hb)
        refine ⟨0, Nat.zero_le _, ?_⟩
        rw [recordsOfBytes_single noBreak, recordOfLine?_front hr inside he]
        rfl
    · rw [List.prefix_append_right_inj] at hf
      cases tail with
      | nil =>
        rw [List.append_nil]
        exact ⟨1, by simp, one⟩
      | cons b tail =>
        obtain ⟨rfl, behind⟩ := List.cons_prefix_cons.mp hf
        obtain ⟨k, hk, read⟩ := ih (fun s hs => h s (by simp [hs])) behind
        refine ⟨k + 1, by simpa using hk, ?_⟩
        rw [recordsOfBytes_lineBreak, one, read]
        rfl

end Blotter.JournalFile
