import Blotter.Journal.Running

/-!
# What a trading desk needs of a journal

A desk persists events, asks whether new orders are admitted and stops the journal in the end. A journal does that
together with the world around it; a scripted one does what its owner tells it.
-/

namespace Blotter

/-- Journals with states of type `ω`. -/
class JournalAccess (ω : Type) where
  /-- Journals an event and tells its number. -/
  persist : Event → (toBus : Bool) → ω → Except JournalError Nat × ω
  canPersist : ω → Bool
  canPersistToDatabase : ω → Bool
  state : ω → JournalState
  stop : ω → ω

/-- A journal and the world around it. -/
structure LiveJournal where
  journal : Journal
  world : World
deriving DecidableEq

namespace LiveJournal

/-- Lets the workers come to rest. -/
def settle (l : LiveJournal) : LiveJournal :=
  let (journal, world) := l.journal.settle l.world
  ⟨journal, world⟩

/-- Stops the journal. -/
def stop (l : LiveJournal) : LiveJournal :=
  let (journal, world) := l.journal.stop l.world
  ⟨journal, world⟩

/-- The workers come to rest after every record. -/
instance : JournalAccess LiveJournal where
  persist event toBus l :=
    let (result, journal, world) := l.journal.persist event toBus l.world
    (result, settle ⟨journal, world⟩)
  canPersist l := l.journal.canPersist
  canPersistToDatabase l := l.journal.canPersistToDatabase
  state l := l.journal.state
  stop := stop

end LiveJournal

/-- Either of two journals. -/
instance {ω ω' : Type} [JournalAccess ω] [JournalAccess ω'] : JournalAccess (ω ⊕ ω') where
  persist event toBus
    | .inl j => (JournalAccess.persist event toBus j).map id .inl
    | .inr j => (JournalAccess.persist event toBus j).map id .inr
  canPersist := Sum.elim JournalAccess.canPersist JournalAccess.canPersist
  canPersistToDatabase := Sum.elim JournalAccess.canPersistToDatabase JournalAccess.canPersistToDatabase
  state := Sum.elim JournalAccess.state JournalAccess.state
  stop := Sum.map JournalAccess.stop JournalAccess.stop

/-! ## A scripted journal -/

/-- A journal that does what its owner tells it and keeps what it is given. -/
structure ScriptedJournal where
  state : JournalState := .started
  /-- Whether the gate of the file is closed. -/
  fileFull : Bool := false
  /-- Whether the gate of the database is closed. -/
  databaseFull : Bool := false
  /-- How many more events are taken, if that is limited. -/
  budget : Option Nat := none
  /-- Why an event is not taken. -/
  error : JournalError := .stopped
  /-- The events and whether observers are told about them. -/
  kept : List (Event × Bool) := []
deriving DecidableEq

namespace ScriptedJournal

/-- Takes an event while the budget lasts. -/
def persist (event : Event) (toBus : Bool) (j : ScriptedJournal) : Except JournalError Nat × ScriptedJournal :=
  if j.budget == some 0 then (.error j.error, j)
  else
    (.ok (j.kept.length + 1), { j with kept := j.kept ++ [(event, toBus)], budget := j.budget.map (· - 1) })

instance : JournalAccess ScriptedJournal where
  persist := persist
  canPersist j := !j.fileFull
  canPersistToDatabase j := !j.databaseFull
  state := ScriptedJournal.state
  stop j := { j with state := .stopped }

end ScriptedJournal

end Blotter
