import Mathlib
import Blotter.Proofs.JournalFile.Lines
import Blotter.Proofs.JournalFile.Order

/-!
# Reading arbitrary bytes

A journal is read whatever is in its files (`records_of_any_bytes`): the records come in strictly increasing order,
their numbers are those of the lines that hold a record on their own, and under each number stands the first of these
lines, those of the backup before those of the current file (`StandFor`). A line that holds no record (`Unreadable`:
blank, torn, no UTF-8, no JSON, of no known kind) can stand anywhere without a change.
-/

namespace Blotter

open Document

/-- The codes of the blanks: tabulator, line break, form feed, carriage return and space. -/
def Text.blanks : List Nat := [9, 10, 12, 13, 32]

/-- A text of blanks is no JSON. The form feed is no blank of JSON, but it does not begin a value either. -/
theorem Json.parseChars_blanks {cs : List Char} (h : ∀ c ∈ cs, c.toNat ∈ Text.blanks) : parseChars cs = none := by
  have none : Scan.value? (2 * cs.length + 2) cs = none := by
    cases start : Scan.skipBlanks cs with
    | nil => simp [Scan.value?, start, Numeral.scan?, Numeral.scanUnsigned?, Numeral.digits]
    | cons c tail =>
      have left : cs.dropWhile Scan.isBlank = c :: tail := start
      have code := h c ((List.dropWhile_sublist _).subset (left ▸ List.mem_cons_self))
      have nonblank : Scan.isBlank c = false := by
        have head := List.head?_dropWhile_not Scan.isBlank cs
        rw [left] at head
        exact head
      obtain rfl : c = '\x0c' := by
        rw [← Char.ofNat_toNat c] at nonblank ⊢
        simp only [Text.blanks, List.mem_cons, List.not_mem_nil, or_false] at code
        rcases code with code | code | code | code | code <;> rw [code] at nonblank ⊢ <;> first | rfl | cases nonblank
      simp [Scan.value?, start, Numeral.scan?, Numeral.scanUnsigned?, Numeral.digits]
  rw [parseChars, none]

/-- An object with a kind that is not known is no record. -/
theorem Record.ofJson?_unknownKind {members : List (String × Json)} {kind : Json} (named : ("kind", kind) ∈ members)
    (unknown : named? EventKind.ofName? kind = none) : Record.ofJson? (.object members) = none := by
  refine Option.eq_none_iff_forall_ne_some.mpr fun r read => ?_
  obtain ⟨-, ms, known, -, -, -, event⟩ := Record.ofJson?_eq_some_iff.mp read
  obtain ⟨k, hk, -⟩ := Event.ofMembers?_eq_some_iff.mp event
  have kept : (Members.mk ms).get? "kind" = some kind :=
    (Json.lookup_objectMembers? known (by simp [Record.memberNames])).mpr named
  rw [Members.required_of_get? kept, unknown] at hk
  cases hk

namespace JournalFile

/-! ## Lines without a record -/

/-- The lines that a file can have besides those of records. -/
inductive Unreadable (line : List UInt8) : Prop where
  | blank (blank : ∀ b ∈ line, b.toNat ∈ Text.blanks)
  | notUtf8 (none : String.fromUTF8? ⟨line.toArray⟩ = none)
  | notJson {text : String} (utf8 : String.fromUTF8? ⟨line.toArray⟩ = some text) (none : Json.parse text = none)
  /-- The front of the line of a record, cut by a crash. -/
  | torn {r : Record} {ext : List UInt8} (fits : r.FitsWords) (front : line ++ ext = lineFront r) (cut : ext ≠ [])
  | unknownKind {text : String} {members : List (String × Json)} {kind : Json}
      (utf8 : String.fromUTF8? ⟨line.toArray⟩ = some text) (object : Json.parse text = some (.object members))
      (named : ("kind", kind) ∈ members) (unknown : named? EventKind.ofName? kind = none)

theorem recordOfLine?_blank {line : List UInt8} (h : ∀ b ∈ line, b.toNat ∈ Text.blanks) :
    recordOfLine? line = none := by
  cases utf8 : String.fromUTF8? ⟨line.toArray⟩ with
  | none =>
    rw [recordOfLine?, utf8]
    rfl
  | some s =>
    rw [Text.eq_bytes_of_fromUTF8? utf8] at h
    have small : ∀ b ∈ Text.bytes s.toList, b.toNat < 128 := by
      intro b hb
      have code := h b hb
      simp only [Text.blanks, List.mem_cons, List.not_mem_nil, or_false] at code
      omega
    have none : Json.parse s = none := Json.parseChars_blanks fun c hc => by
      obtain ⟨b, hb, same⟩ := Text.exists_byte_of_mem small hc
      exact same ▸ h b hb
    rw [recordOfLine?_of_text utf8, none]
    rfl

theorem recordOfLine?_unreadable {line : List UInt8} (h : Unreadable line) : recordOfLine? line = none := by
  cases h with
  | blank blank => exact recordOfLine?_blank blank
  | notUtf8 none =>
    rw [recordOfLine?, none]
    rfl
  | notJson utf8 none =>
    rw [recordOfLine?_of_text utf8, none]
    rfl
  | torn fits front cut => exact recordOfLine?_front fits front cut
  | unknownKind utf8 object named unknown =>
    rw [recordOfLine?_of_text utf8, object]
    exact Record.ofJson?_unknownKind named unknown

/-! ## The lines of a file -/

/-- The lines of a file. -/
def lines (data : List UInt8) : List (List UInt8) := data.splitOnP (· == lineBreak)

theorem recordsOfBytes_eq (data : List UInt8) : recordsOfBytes data = (lines data).filterMap recordOfLine? := rfl

/-- A line without a record changes nothing, wherever it is. -/
theorem recordsOfBytes_insert {line : List UInt8} (h : recordOfLine? line = none) {data more : List UInt8}
    {before after : List (List UInt8)} (hd : lines data = before ++ after) (hm : lines more = before ++ line :: after) :
    recordsOfBytes more = recordsOfBytes data := by
  rw [recordsOfBytes_eq, recordsOfBytes_eq, hd, hm, List.filterMap_append, List.filterMap_append,
    List.filterMap_cons_none h]

/-- The first line with a record of a number: the record and where it stands. -/
theorem find?_filterMap_recordOfLine? {ls : List (List UInt8)} {n : Nat} {r : Record}
    (h : (ls.filterMap recordOfLine?).find? (·.seq == n) = some r) :
    ∃ before line after, ls = before ++ line :: after ∧ recordOfLine? line = some r ∧
      ∀ l ∈ before, ∀ s, recordOfLine? l = some s → s.seq ≠ n := by
  rw [List.find?_filterMap] at h
  obtain ⟨line, first, read⟩ := Option.bind_eq_some_iff.mp h
  obtain ⟨-, before, after, split, others⟩ := List.find?_eq_some_iff_append.mp first
  refine ⟨before, line, after, split, read, ?_⟩
  intro l hl s hs same
  have other := others l hl
  simp [hs, same] at other

/-- What a list of records has to be to stand for lines, in whatever order their numbers are. -/
structure StandFor (ls : List (List UInt8)) (rs : List Record) : Prop where
  increasing : rs.Pairwise fun r s => r.seq < s.seq
  numbers : ∀ n, (∃ r ∈ rs, r.seq = n) ↔ ∃ line ∈ ls, ∃ r, recordOfLine? line = some r ∧ r.seq = n
  first : ∀ r ∈ rs, ∃ before line after, ls = before ++ line :: after ∧ recordOfLine? line = some r ∧
    ∀ l ∈ before, ∀ s, recordOfLine? l = some s → s.seq ≠ r.seq

theorem standFor_inOrder (ls : List (List UInt8)) : StandFor ls (inOrder (ls.filterMap recordOfLine?)) where
  increasing := pairwise_inOrder _
  numbers n := by
    constructor
    · rintro ⟨r, hr, same⟩
      obtain ⟨line, hl, read⟩ := List.mem_filterMap.mp (mem_of_mem_inOrder hr)
      exact ⟨line, hl, r, read, same⟩
    · rintro ⟨line, hl, r, read, same⟩
      obtain ⟨s, hs, seq⟩ := exists_mem_inOrder (List.mem_filterMap.mpr ⟨line, hl, read⟩)
      exact ⟨s, hs, seq.trans same⟩
  first r hr := find?_filterMap_recordOfLine? (mem_inOrder_iff.mp hr)

/-! ## The files of a journal -/

/-- The lines of a backup and a current file, where each of them may be missing. -/
def linesOfFiles (backup current : Option (List UInt8)) : List (List UInt8) :=
  backup.elim [] lines ++ current.elim [] lines

theorem contents_of_read {d : Disk} {path : String} {data : Option (List UInt8)}
    (h : d.read path = data.elim (.error .notFound) .ok) : contents d path = .ok (data.getD []) := by
  rw [contents, h]
  cases data <;> rfl

theorem recordsOfBytes_getD (data : Option (List UInt8)) :
    recordsOfBytes (data.getD []) = (data.elim [] lines).filterMap recordOfLine? := by
  cases data with
  | none => exact recordsOfBytes_nil
  | some data => rfl

/-- A journal is read whatever bytes its files hold. Unsorted and repeated numbers are put in order, and the first line
of a number counts. A line without a record takes nothing from the others, and neither does what stands before a line
break from what stands behind it. -/
theorem records_of_any_bytes {d : Disk} {path : String} {backup current : Option (List UInt8)}
    (readBackup : d.read (Path.backup path) = backup.elim (.error .notFound) .ok)
    (readCurrent : d.read path = current.elim (.error .notFound) .ok) :
    (∃ rs, records d path = .ok rs ∧ StandFor (linesOfFiles backup current) rs ∧
      rs = inOrder (recordsOfBytes (backup.getD []) ++ recordsOfBytes (current.getD []))) ∧
    (∀ line, Unreadable line → recordOfLine? line = none) ∧
    (∀ line, recordOfLine? line = none → ∀ data more before after, lines data = before ++ after →
      lines more = before ++ line :: after → recordsOfBytes more = recordsOfBytes data) ∧
    ∀ a b, recordsOfBytes (a ++ lineBreak :: b) = recordsOfBytes a ++ recordsOfBytes b := by
  refine ⟨⟨_, ?_, standFor_inOrder _, ?_⟩, fun _ => recordOfLine?_unreadable,
    fun _ none _ _ _ _ => recordsOfBytes_insert none, recordsOfBytes_lineBreak⟩
  · rw [records, contents_of_read readBackup, contents_of_read readCurrent]
    simp only [recordsOfContents, linesOfFiles, List.filterMap_append, recordsOfBytes_getD]
  · rw [linesOfFiles, List.filterMap_append, recordsOfBytes_getD, recordsOfBytes_getD]

/-- A record of counters. -/
def exampleRecord (seq : Nat) (component : String) : Record :=
  ⟨seq, .epoch, true, .messagingStats ⟨component, 1, 2, 0, .epoch⟩⟩

/-- A backup that is not sorted. -/
def exampleBackup : List UInt8 := linesOf [exampleRecord 3 "a", exampleRecord 1 "b"]

/-- A file with a line of another hand and a number that the backup has too. -/
def exampleCurrent : List UInt8 :=
  Text.bytes "not json".toList ++ lineBreak :: linesOf [exampleRecord 1 "c", exampleRecord 2 "d"]

/-- A disk with these two files. -/
def exampleDisk : Disk :=
  ⟨[(["work", Path.backup "j"], .file 0), (["work", "j"], .file 1)],
    [⟨.bytes exampleBackup, false⟩, ⟨.bytes exampleCurrent, false⟩]⟩

theorem read_exampleDisk : exampleDisk.read (Path.backup "j") = .ok exampleBackup ∧
    exampleDisk.read "j" = .ok exampleCurrent := by
  have backup : exampleDisk.node (Path.backup "j") = .ok (.file 0) := by decide +kernel
  have current : exampleDisk.node "j" = .ok (.file 1) := by decide +kernel
  rw [Disk.read, Disk.read, backup, current]
  exact ⟨rfl, rfl⟩

theorem records_of_any_bytes_exampleDisk : (exampleDisk.read (Path.backup "j") = .ok exampleBackup ∧
    exampleDisk.read "j" = .ok exampleCurrent) ∧
    records exampleDisk "j" = .ok [exampleRecord 1 "b", exampleRecord 2 "d", exampleRecord 3 "a"] := by
  obtain ⟨backup, current⟩ := read_exampleDisk
  obtain ⟨⟨rs, read, -, rfl⟩, unreadable, -, behind⟩ :=
    @records_of_any_bytes exampleDisk "j" (some exampleBackup) (some exampleCurrent) backup current
  refine ⟨⟨backup, current⟩, read.trans ?_⟩
  have fits (seq : Nat) (component : String) (h : seq ≤ 18446744073709551615) :
      (exampleRecord seq component).FitsWords := ⟨h, ⟨by simp, by simp, by simp⟩⟩
  have scribble : recordsOfBytes (Text.bytes "not json".toList) = [] := by
    have none := unreadable _ (.notJson (Text.fromUTF8?_bytes "not json") (by decide +kernel))
    rw [recordsOfBytes_single (Text.lineBreak_notMem_bytes (by decide)), none]
    rfl
  have first : recordsOfBytes exampleBackup = [exampleRecord 3 "a", exampleRecord 1 "b"] :=
    recordsOfBytes_linesOf (by simp [fits])
  have second : recordsOfBytes exampleCurrent = [exampleRecord 1 "c", exampleRecord 2 "d"] := by
    rw [exampleCurrent, behind, scribble, List.nil_append]
    exact recordsOfBytes_linesOf (by simp [fits])
  rw [Option.getD_some, Option.getD_some, first, second]
  simp [inOrder, dropRepeated, List.mergeSort, List.MergeSort.Internal.splitInTwo, exampleRecord]

end JournalFile

end Blotter
