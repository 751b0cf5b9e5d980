import Blotter.Disk

/-!
# Media

What becomes of writing to an open file depends on the medium below it. A medium takes all bytes, or it reports an error
and has taken some of the first ones; nothing else on the disk changes. The sound medium fails only where the disk
itself refuses, the cut one after a fixed number of bytes.
-/

namespace Blotter.Disk

/-- How open files are written. -/
structure Medium where
  /-- Appends bytes: the outcome and what is on the disk then. -/
  append : Disk → Handle → List UInt8 → Except IoError Unit × Disk
  /-- Brings an open file to stable storage. -/
  sync : Disk → Handle → Except IoError Unit
  /-- A file takes all bytes, or the first ones if there is an error. -/
  append_file : ∀ d id data, append d (.file id) data = (.ok (), d.extend id data) ∨
    ∃ e taken, taken <+: data ∧ append d (.file id) data = (.error e, d.extend id taken)

namespace Medium

/-- The medium without faults of its own. -/
def sound : Medium where
  append d h data :=
    match d.append h data with
    | .ok d => (.ok (), d)
    | .error e => (.error e, d)
  sync _ h := Disk.sync h
  append_file _ _ _ := .inl rfl

/-- The medium that takes so many bytes at a time and fails on the next one. -/
def cut (limit : Nat) : Medium where
  append d h data :=
    match h with
    | .file id =>
      if data.length ≤ limit then (.ok (), d.extend id data) else (.error .noSpace, d.extend id (data.take limit))
    | h => sound.append d h data
  sync _ h := Disk.sync h
  append_file d id data := by
    by_cases fits : data.length ≤ limit
    · exact .inl (if_pos fits)
    · exact .inr ⟨.noSpace, data.take limit, List.take_prefix limit data, if_neg fits⟩

end Medium

end Blotter.Disk
