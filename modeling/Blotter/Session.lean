import Blotter.Instant.Basic

/-!
# FIX sessions

A session between two parties lasts a calendar week; its sequence numbers start again with the next one. The state of
a session and the raw messages are journaled.
-/

namespace Blotter

/-- What tells one session from another: the parties and the week. -/
structure SessionKey where
  senderCompId : String
  targetCompId : String
  year : Int
  week : Nat
deriving DecidableEq, Repr

instance : Ord SessionKey where
  compare a b := (compare a.senderCompId b.senderCompId).then <| (compare a.targetCompId b.targetCompId).then <|
    (compare a.year b.year).then (compare a.week b.week)

/-- The key of the session that an instant lies in. -/
def SessionKey.ofInstant (sender target : String) (t : Instant) : SessionKey :=
  let (year, week) := Calendar.isoWeek t.day
  ⟨sender, target, year, week⟩

/-- The next sequence numbers of a session. -/
structure SessionState where
  senderCompId : String
  targetCompId : String
  year : Int
  week : Nat
  nextSenderSeq : Nat
  nextTargetSeq : Nat
  updatedAt : Instant
deriving DecidableEq

/-- The session that a state belongs to. -/
def SessionState.key (s : SessionState) : SessionKey := ⟨s.senderCompId, s.targetCompId, s.year, s.week⟩

/-- Which way a message went. -/
inductive MessageDirection where
  | inbound
  | outbound
deriving DecidableEq, Repr

namespace MessageDirection

/-- All directions. -/
def all : List MessageDirection := [.inbound, .outbound]

/-- The name of a direction. -/
def name : MessageDirection → String
  | .inbound => "INBOUND"
  | .outbound => "OUTBOUND"

/-- The direction with the given name. -/
def ofName? (s : String) : Option MessageDirection := all.find? (·.name == s)

end MessageDirection

/-- A raw message of a session. -/
structure SessionMessage where
  senderCompId : String
  targetCompId : String
  direction : MessageDirection
  seqNum : Nat
  body : String
  loggedAt : Instant
deriving DecidableEq

end Blotter
