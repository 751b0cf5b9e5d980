import Blotter.Event

/-!
# The item pool

Records wait for the sinks in the slots of a pool. A record is held through handles; when its last handle is released
its slot becomes free again. A pool starts with a number of slots and either grows when all of them are in use or
refuses. Slots that were never used are only counted: `spare` says how many there are.
-/

namespace Blotter

/-- A place for one record. -/
structure Slot where
  /-- How many handles hold the record. -/
  holders : Nat
  record : Option Record
deriving DecidableEq

instance : Inhabited Slot := ⟨⟨0, none⟩⟩

/-- A claim on a record in a pool: the number of the slot and the record that was put there. -/
structure Handle where
  slot : Nat
  record : Record
deriving DecidableEq

/-- A pool of slots. -/
structure ItemPool where
  /-- How many slots there were at the beginning. -/
  capacity : Nat
  allowGrowth : Bool
  /-- The slots that have been in use. -/
  slots : List Slot
  /-- The numbers of the slots that are free again, the one freed last in front. -/
  freed : List Nat
  /-- How many slots have never been in use. -/
  spare : Nat
deriving DecidableEq

namespace ItemPool

/-- A pool with the given number of free slots. -/
def new (capacity : Nat) (allowGrowth : Bool) : ItemPool := ⟨capacity, allowGrowth, [], [], capacity⟩

/-- How many slots are free. -/
def available (p : ItemPool) : Nat := p.freed.length + p.spare

/-- How many slots there are. -/
def allocated (p : ItemPool) : Nat := p.slots.length + p.spare

/-- The slot with a number. -/
def slot (p : ItemPool) (i : Nat) : Slot := p.slots.getD i default

/-- Takes a free slot, or a new one if the pool may grow: its number and the pool without it among the free ones. -/
def takeSlot? (p : ItemPool) : Option (Nat × ItemPool) :=
  match p.freed with
  | i :: rest => some (i, { p with freed := rest })
  | [] =>
    let fresh := (p.slots.length, { p with slots := p.slots ++ [default], spare := p.spare - 1 })
    if p.spare != 0 || p.allowGrowth then some fresh else none

/-- Puts a record into a free slot. `none` if all slots are in use and the pool may not grow. -/
def obtain? (p : ItemPool) (r : Record) : Option (Handle × ItemPool) :=
  p.takeSlot?.map fun (i, p) => (⟨i, r⟩, { p with slots := p.slots.set i ⟨1, some r⟩ })

/-- Adds a second handle for the same record. -/
def share (p : ItemPool) (h : Handle) : ItemPool :=
  let s := p.slot h.slot
  { p with slots := p.slots.set h.slot { s with holders := s.holders + 1 } }

/-- Gives a handle back. The last one empties the slot and frees it. -/
def release (p : ItemPool) (h : Handle) : ItemPool :=
  let s := p.slot h.slot
  if s.holders == 1 then { p with slots := p.slots.set h.slot ⟨0, none⟩, freed := h.slot :: p.freed }
  else { p with slots := p.slots.set h.slot { s with holders := s.holders - 1 } }

/-- The record behind a handle. -/
def read? (p : ItemPool) (h : Handle) : Option Record := (p.slot h.slot).record

end ItemPool

end Blotter
