import Mathlib
import Blotter.Proofs.Database.Attempts
import Blotter.Proofs.Database.Replay
import Blotter.Proofs.Journal.Lifecycle
import Blotter.Proofs.JournalFile.Order
import Blotter.Proofs.Replay.Reference

/-!
# Results larger than every decimal

Neither a recovery nor the database comes to an end if a position is larger than every decimal, and nothing else brings
them down.

- Whatever is in the files of a journal, its replay ends well unless the fills of a position lead nowhere
  (`settledBy_load`).
- The tables of a database book the fills of the records that were stored first under their numbers (`Books`,
  `bookedFills`). A record that is stored keeps that unless its fill leads nowhere (`Books.putEvent`), and so do records
  one after the other (`writeTimed_cases`), in whatever batches (`settledBy_writeAll`).
-/

namespace Blotter

/-- Whether an operation ends well and the fills of every position lead somewhere, or it is brought down by the fills of
a position that lead nowhere. -/
def SettledBy {ε α : Type} (fills : List Fill) (result : Except (Failure ε) α) : Prop :=
  ((∃ a, result = .ok a) ∧ ∀ key, ∃ p, Position.ofFills key fills = .ok p) ∨
    ∃ o key, result = .error (.overflow o) ∧ Position.ofFills key fills = .error o

/-- The replay of a journal that can be read. -/
theorem settledBy_load {d : Disk} {path : String} {rs : List Record} (read : JournalFile.records d path = .ok rs) :
    SettledBy (Replay.firstFills (rs.map (·.event))) (Replay.load d path) := by
  have increasing := JournalFile.pairwise_of_records read
  rw [Replay.load, read]
  rcases Replay.ofRecords_cases increasing with ⟨s, replayed, meets⟩ | ⟨o, key, failed, nowhere⟩
  · refine .inl ⟨⟨s, ?_⟩, fun key => ⟨_, meets.fills ▸ meets.positions key⟩⟩
    simp only [replayed, Failure.ofOverflow]
  · refine .inr ⟨o, key, ?_, nowhere⟩
    simp only [failed, Failure.ofOverflow]

namespace Database

/-! ## Fills that are booked -/

/-- Whether the tables of a database book fills: each execution has a row, and the row of a position is where its fills
lead to. -/
structure Books (fills : List Fill) (t : Tables) : Prop where
  executions : ∀ id, t.fills.contains id = fills.any (·.execId == id)
  positions : ∀ m key, ∃ p, Position.ofFills key fills = .ok p ∧ t.position m key = .ok p.withPlainZeros

variable {fills : List Fill} {t t' : Tables} {es : List Event} {e : Event}

theorem books_empty : Books [] .empty := ⟨fun _ => rfl, fun _ key => ⟨.flat key, rfl, rfl⟩⟩

/-- Only the rows of fills and positions matter. -/
theorem Books.congr (h : Books fills t) (sameFills : t'.fills = t.fills) (samePositions : t'.positions = t.positions) :
    Books fills t' := by
  refine ⟨fun id => ?_, fun m key => ?_⟩
  · rw [sameFills, h.executions]
  · rw [Tables.position, samePositions]
    exact h.positions m key

theorem Books.putOrder (h : Books fills t) (row : OrderRow) : Books fills (t.putOrder row) := by
  rw [Tables.putOrder]
  split
  · exact h.congr rfl rfl
  · split
    · exact h.congr rfl rfl
    · exact h

theorem Books.putSession (h : Books fills t) (row : SessionRow) : Books fills (t.putSession row) := by
  rw [Tables.putSession]
  split
  · exact h.congr rfl rfl
  · split
    · exact h.congr rfl rfl
    · exact h

/-- The signs of zeros that a row has lost do not matter to a fill. -/
theorem applyFill_withPlainZeros_cases (p : Position) (f : Fill) :
    (∃ q q', p.withPlainZeros.applyFill f = .ok q ∧ p.applyFill f = .ok q' ∧ q.withPlainZeros = q'.withPlainZeros) ∨
      ∃ o, p.withPlainZeros.applyFill f = .error o ∧ p.applyFill f = .error o := by
  -- both sides fail alike, or both are booked
  have same := Position.map_apply_withPlainZeros p f.side f.quantity f.price
  rw [Position.applyFill, Position.applyFill]
  cases plain : p.withPlainZeros.apply f.side f.quantity f.price with
  | error o =>
    cases booked : p.apply f.side f.quantity f.price with
    | error o' =>
      rw [plain, booked] at same
      exact .inr ⟨o, rfl, congrArg Except.error (Except.error.inj same).symm⟩
    | ok q' =>
      rw [plain, booked] at same
      cases same
  | ok q =>
    cases booked : p.apply f.side f.quantity f.price with
    | error o' =>
      rw [plain, booked] at same
      cases same
    | ok q' =>
      rw [plain, booked] at same
      exact .inl ⟨q, q', rfl, rfl, Except.ok.inj same⟩

/-- The tables with a fill and the position after it. -/
def book (t : Tables) (n : Nat) (f : Fill) (p : Position) : Tables := { t with
  fills := t.fills.insert f.execId (.ofFill n f)
  positions := t.positions.insert f.positionKey (.ofPosition n p) }

theorem putFill_new {n : Nat} {f : Fill} {p : Position} (unknown : t.fills.contains f.execId = false)
    (found : t.position n f.positionKey = .ok p) :
    t.putFill n f = Failure.ofOverflow (p.applyFill f) >>= fun q => .ok (book t n f q) := by
  rw [Tables.putFill, unknown, if_neg (by simp), found]
  rfl

/-- A position is read back without the signs of its zeros. -/
theorem position_book (t : Tables) (n m : Nat) (f : Fill) (p : Position) (key : PositionKey) :
    (book t n f p).position m key = if key = f.positionKey then .ok p.withPlainZeros else t.position m key := by
  rw [Tables.position, book]
  by_cases own : key = f.positionKey
  · rw [if_pos own, own, Table.find?_insert_self]
    exact toPosition_ofPosition n m p
  · rw [if_neg own, Table.find?_insert_ne own, Tables.position]

/-- A fill is booked, or it leads nowhere. -/
theorem Books.putFill (h : Books fills t) (n : Nat) (f : Fill) :
    (∃ t', t.putFill n f = .ok t' ∧ Books (Fill.keep fills f) t') ∨
      ∃ o, t.putFill n f = .error (.overflow o) ∧
        Position.ofFills f.positionKey (Fill.keep fills f) = .error o := by
  have executions := h.executions f.execId
  rw [Fill.keep]
  cases known : fills.any (·.execId == f.execId) with
  | true =>
    rw [known] at executions
    rw [Tables.putFill, executions]
    exact .inl ⟨t, rfl, h⟩
  | false =>
    rw [known] at executions
    obtain ⟨p, led, found⟩ := h.positions n f.positionKey
    have next := Position.ofFills_concat_self fills f
    rw [led] at next
    rw [if_neg (by simp), putFill_new executions found]
    rcases applyFill_withPlainZeros_cases p f with ⟨q, q', plain, booked, same⟩ | ⟨o, plain, failed⟩
    · refine .inl ⟨book t n f q, by rw [plain]; rfl, fun id => ?_, fun m key => ?_⟩
      · rw [book, Table.contains_insert, h.executions, List.any_append, List.any_cons, List.any_nil, Bool.or_false]
      · rw [position_book]
        split
        · rename_i own
          exact ⟨q', own ▸ next.trans booked, congrArg Except.ok same⟩
        · rename_i other
          rw [Position.ofFills_concat_ne (Ne.symm other)]
          exact h.positions m key
    · exact .inr ⟨o, by rw [plain]; rfl, next.trans failed⟩

/-- An event is stored, or it is a fill that leads nowhere. -/
theorem Books.putEvent (h : Books (Replay.firstFills es) t) (now : Instant) (n : Nat) (e : Event) :
    (∃ t', t.putEvent now n e = .ok t' ∧ Books (Replay.firstFills (es ++ [e])) t') ∨
      ∃ o key, t.putEvent now n e = .error (.overflow o) ∧
        Position.ofFills key (Replay.firstFills (es ++ [e])) = .error o := by
  cases e with
  | fill f =>
    rw [Replay.firstFills_concat_fill, Tables.putEvent]
    exact (h.putFill n f).imp_right fun ⟨o, failed⟩ => ⟨o, _, failed⟩
  | order o =>
    rw [Replay.firstFills_concat_of_none es rfl]
    exact .inl ⟨_, rfl, h.putOrder _⟩
  | orderReject o r =>
    rw [Replay.firstFills_concat_of_none es rfl]
    exact .inl ⟨_, rfl, h.putOrder _⟩
  | sessionState state =>
    rw [Replay.firstFills_concat_of_none es rfl]
    exact .inl ⟨_, rfl, h.putSession _⟩
  | _ =>
    rw [Replay.firstFills_concat_of_none es rfl]
    exact .inl ⟨t, rfl, h⟩

/-! ## Records that are stored -/

/-- The writes that are the first ones under their numbers, as a column holds these. -/
def firstRows (ws : List (Instant × Record)) : List (Instant × Record) :=
  ws.eraseDupsBy fun w v => toColumn w.2.seq == toColumn v.2.seq

/-- The fills that writes book. -/
def bookedFills (ws : List (Instant × Record)) : List Fill :=
  Replay.firstFills ((firstRows ws).map (·.2.event))

theorem bookedFills_concat (ws : List (Instant × Record)) (w : Instant × Record) :
    bookedFills (ws ++ [w]) = if ws.any (toColumn ·.2.seq == toColumn w.2.seq) then bookedFills ws
      else Replay.firstFills ((firstRows ws).map (·.2.event) ++ [w.2.event]) := by
  have rows := eraseDupsBy_concat (fun w : Instant × Record => toColumn w.2.seq) ws w
  rw [bookedFills, firstRows, rows]
  split
  · rfl
  · rw [List.map_append]
    rfl

/-- What is booked stays so. -/
theorem exists_bookedFills_concat (ws : List (Instant × Record)) (w : Instant × Record) :
    ∃ more, bookedFills (ws ++ [w]) = bookedFills ws ++ more := by
  rw [bookedFills_concat]
  split
  · exact ⟨[], (List.append_nil _).symm⟩
  · exact Replay.exists_firstFills_append _ _

/-- A record is stored, unless its number is taken, or it is a fill that leads nowhere. -/
theorem write_cases {ws : List (Instant × Record)}
    (numbers : ∀ k, t.events.contains k = ws.any (toColumn ·.2.seq == k)) (h : Books (bookedFills ws) t)
    (w : Instant × Record) :
    (∃ t', t.write w.1 w.2 = .ok t' ∧ (∀ k, t'.events.contains k = (ws ++ [w]).any (toColumn ·.2.seq == k)) ∧
        Books (bookedFills (ws ++ [w])) t') ∨
      ∃ o key, t.write w.1 w.2 = .error (.overflow o) ∧
        Position.ofFills key (bookedFills (ws ++ [w])) = .error o := by
  have row : (EventRow.ofRecord w.2).seq = toColumn w.2.seq := rfl
  rw [bookedFills_concat, Tables.write, row, numbers]
  cases taken : ws.any (toColumn ·.2.seq == toColumn w.2.seq) with
  | true =>
    refine .inl ⟨t, rfl, fun k => ?_, h⟩
    rw [numbers, List.any_append, List.any_cons, List.any_nil, Bool.or_false]
    cases same : toColumn w.2.seq == k with
    | true => rw [← beq_iff_eq.mp same, taken, Bool.true_or]
    | false => rw [Bool.or_false]
  | false =>
    rw [if_neg (by simp), if_neg (by simp)]
    -- the event row alone books nothing
    have here : Books (bookedFills ws)
        { t with events := t.events.insert (toColumn w.2.seq) (.ofRecord w.2) } := h.congr rfl rfl
    rcases here.putEvent w.1 w.2.seq w.2.event with ⟨t', put, books⟩ | failed
    · refine .inl ⟨t', put, fun k => ?_, books⟩
      rw [events_putEvent put, Table.contains_insert, numbers, List.any_append, List.any_cons, List.any_nil,
        Bool.or_false]
    · exact .inr failed

/-- Records are stored one after the other, or the fills of a position lead nowhere. -/
theorem writeTimed_cases (ws : List (Instant × Record)) :
    (∃ t, Tables.empty.writeTimed ws = .ok t ∧
        (∀ k, t.events.contains k = ws.any (toColumn ·.2.seq == k)) ∧ Books (bookedFills ws) t) ∨
      ∃ o key, Tables.empty.writeTimed ws = .error (.overflow o) ∧
        Position.ofFills key (bookedFills ws) = .error o := by
  induction ws using List.reverseRecOn with
  | nil => exact .inl ⟨.empty, rfl, fun _ => rfl, books_empty⟩
  | append_singleton ws w ih =>
    rw [Tables.writeTimed_append]
    rcases ih with ⟨t, stored, numbers, books⟩ | ⟨o, key, failed, nowhere⟩
    · have one : t.writeTimed [w] = t.write w.1 w.2 := by
        rw [Tables.writeTimed_cons]
        exact bind_pure _
      have step := write_cases numbers books w
      rw [← one] at step
      rw [stored]
      exact step
    · obtain ⟨more, kept⟩ := exists_bookedFills_concat ws w
      refine .inr ⟨o, key, by rw [failed]; rfl, ?_⟩
      rw [kept]
      exact Position.ofFills_append_error nowhere more

/-- Batches end as their records do. -/
theorem Store.fst_writeAll {s : Store} {d : Disk} (isOpen : s.IsOpen d) (batches : List (Instant × List Record)) :
    (s.writeAll batches d).1 = ((s.tables d).writeTimed (timed batches)).map fun _ => () := by
  induction batches generalizing s d with
  | nil => rfl
  | cons batch rest ih =>
    have split : timed (batch :: rest) = batch.2.map (batch.1, ·) ++ timed rest := rfl
    rw [split, Tables.writeTimed_append, Tables.writeTimed_map, writeAll, writeBatch]
    cases (s.tables d).writeBatch batch.1 batch.2 with
    | error e => rfl
    | ok t =>
      obtain ⟨opened, tables⟩ := isOpen.tables_setTables t
      have later := ih opened
      rw [tables] at later
      exact later

/-- Batches that are stored in a database after earlier writes. -/
theorem settledBy_writeAll {s : Store} {d : Disk} {ws : List (Instant × Record)} (isOpen : s.IsOpen d)
    (earlier : Tables.empty.writeTimed ws = .ok (s.tables d)) (batches : List (Instant × List Record)) :
    SettledBy (bookedFills (ws ++ Store.timed batches)) (s.writeAll batches d).1 := by
  have all : Tables.empty.writeTimed (ws ++ Store.timed batches) =
      (s.tables d).writeTimed (Store.timed batches) := by
    rw [Tables.writeTimed_append, earlier]
    rfl
  rw [Store.fst_writeAll isOpen, ← all]
  rcases writeTimed_cases (ws ++ Store.timed batches) with ⟨t, stored, -, books⟩ | ⟨o, key, failed, nowhere⟩
  · rw [stored]
    refine .inl ⟨⟨(), rfl⟩, fun key => ?_⟩
    obtain ⟨p, led, -⟩ := books.positions 0 key
    exact ⟨p, led⟩
  · rw [failed]
    exact .inr ⟨o, key, rfl, nowhere⟩

end Database

/-! ## Recovery and database -/

section

open JournalFile Database

/-- A journal whose files can be read is replayed, and batches are stored in a database after earlier writes, unless the
fills of a position lead nowhere; then the overflow brings them down. The fills are those of the records that are read,
or of those that are stored first under their numbers, each execution once. -/
theorem settled_by_fills {d e₀ e : Disk} {path : String} {backup current : List UInt8} {target : DatabaseTarget}
    {store : Store} {ws : List (Instant × Record)} (readBackup : contents d (Path.backup path) = .ok backup)
    (read : contents d path = .ok current) (wf : e₀.WellFormed) (opened : Store.openAt e₀ target = (.ok store, e))
    (earlier : Tables.empty.writeTimed ws = .ok (store.tables e)) (batches : List (Instant × List Record)) :
    SettledBy (Replay.firstFills ((recordsOfContents backup current).map (·.event))) (Replay.load d path) ∧
      SettledBy (bookedFills (ws ++ Store.timed batches)) (store.writeAll batches e).1 := by
  refine ⟨settledBy_load ?_, settledBy_writeAll (Store.isOpen_of_openAt wf opened) earlier batches⟩
  rw [records, readBackup, read]

/-- The record of a fill that cannot be booked. -/
def boundlessRecord : Record := ⟨1, .epoch, true, .fill (Replay.boundlessFill "A" "e")⟩

/-- A disk with that record in the file `j`. -/
def boundlessDisk : Disk := ⟨[(["work", "j"], .file 0)], [⟨.bytes (linesOf [boundlessRecord]), false⟩]⟩

theorem contents_boundlessDisk : contents boundlessDisk (Path.backup "j") = .ok [] ∧
    contents boundlessDisk "j" = .ok (linesOf [boundlessRecord]) := by
  have place : boundlessDisk.place "j" = .ok ["work", "j"] := by decide +kernel
  have node : boundlessDisk.nodeAt? ["work", "j"] = some (.file 0) := by decide +kernel
  refine ⟨by decide +kernel, ?_⟩
  rw [contents_of_place place, node]
  rfl

theorem recordsOfContents_boundlessDisk : recordsOfContents [] (linesOf [boundlessRecord]) = [boundlessRecord] := by
  have fits : ∀ r ∈ [boundlessRecord], r.FitsWords := by
    intro r hr
    obtain rfl := List.mem_singleton.mp hr
    exact ⟨by decide, trivial⟩
  rw [recordsOfContents, recordsOfBytes_nil, List.nil_append, recordsOfBytes_linesOf fits]
  exact inOrder_of_pairwise (List.pairwise_singleton _ _)

/-- A fill of one unit. -/
def unitRecord : Record := ⟨1, .epoch, true, .fill (Replay.oneFill "A" "o" "e")⟩

/-- The replay of this disk is brought down, and a fill of one unit is stored. -/
theorem settled_by_fills_boundlessDisk :
    (∃ o, Replay.load boundlessDisk "j" = .error (.overflow o)) ∧
      ((Store.memory .empty).writeAll [(.epoch, [unitRecord])] .empty).1 = .ok () := by
  obtain ⟨backup, current⟩ := contents_boundlessDisk
  have opened : Store.openAt .empty .memory = (.ok (.memory .empty), .empty) := rfl
  have new : Tables.empty.writeTimed [] = .ok .empty := rfl
  obtain ⟨replay, database⟩ :=
    settled_by_fills backup current Disk.wellFormed_empty opened new [(.epoch, [unitRecord])]
  rw [recordsOfContents_boundlessDisk] at replay
  constructor
  · rcases replay with ⟨-, booked⟩ | ⟨o, key, failed, -⟩
    · obtain ⟨p, led⟩ := booked (Replay.boundlessFill "A" "e").positionKey
      have nowhere : (Position.ofFills (Replay.boundlessFill "A" "e").positionKey
          (Replay.firstFills ([boundlessRecord].map (·.event)))).isOk = false := by decide +kernel
      rw [led] at nowhere
      cases nowhere
    · exact ⟨o, failed⟩
  · rcases database with ⟨⟨_, stored⟩, -⟩ | ⟨o, key, -, nowhere⟩
    · exact stored
    · have booked : bookedFills ([] ++ Store.timed [(.epoch, [unitRecord])]) = [Replay.oneFill "A" "o" "e"] := by
        decide +kernel
      rw [booked] at nowhere
      by_cases own : (Replay.oneFill "A" "o" "e").positionKey = key
      · have led : (Position.ofFills (Replay.oneFill "A" "o" "e").positionKey
            [Replay.oneFill "A" "o" "e"]).isOk = true := by decide +kernel
        rw [own, nowhere] at led
        cases led
      · have led := Position.ofFills_of_forall_ne (List.forall_mem_singleton.mpr own)
        cases nowhere.symm.trans led

/-- A journal accepts such a fill, which brings down the replay of its file and the database. -/
theorem accepted_fill_overflows :
    (Journal.Course.exampleStart.step (.call (.persist boundlessRecord.event true))).persisted = [boundlessRecord] ∧
      records boundlessDisk "j" = .ok [boundlessRecord] ∧
      Replay.load boundlessDisk "j" = .error (.overflow .multiplication) ∧
      ((Store.memory .empty).writeAll [(.epoch, [boundlessRecord])] .empty).1 =
        .error (.overflow .multiplication) := by
  obtain ⟨backup, current⟩ := contents_boundlessDisk
  have read : records boundlessDisk "j" = .ok [boundlessRecord] := by
    rw [records, backup, current]
    simp only [recordsOfContents_boundlessDisk]
  have failed : Replay.ofRecords [boundlessRecord] = .error .multiplication := by decide +kernel
  refine ⟨by decide +kernel, read, ?_, by decide +kernel⟩
  rw [Replay.load, read]
  simp only [failed, Failure.ofOverflow]

end

end Blotter
