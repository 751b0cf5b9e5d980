import Mathlib
import Blotter.Proofs.Journal.Opening
import Blotter.Proofs.Journal.Runtime

/-!
# Calls

What the owner of a journal may ask of it (`Journal.Call`). All that comes of a call is said once (`call_effect`), and
what calls keep is proved from their effects.
-/

namespace Blotter

/-- Whether a journal refuses a call with this error, without a try. -/
def JournalError.isRefusal : JournalError → Bool
  | .poolExhausted _ => true
  | e => e.isMisuse

namespace Journal

/-- What the owner of a journal may ask of it. -/
inductive Call where
  | init (settings : JournalSettings) (custom : Bool)
  | start
  /-- The first half of a stop. -/
  | stop
  | persist (event : Event) (toBus : Bool)
  | observe (observer : String)
  | rotate (backup : Bool)

/-- The outcome of a call, with a number if an event was persisted. -/
def call (j : Journal) (w : World) : Call → Outcome (Option Nat)
  | .init s custom =>
    match j.init s custom w with
    | (result, j, w) => (result.map fun _ => none, j, w)
  | .start =>
    match j.start with
    | (result, j) => (result.map fun _ => none, j, w)
  | .stop => (.ok none, j.beginStop, w)
  | .persist event toBus =>
    match j.persist event toBus w with
    | (result, j, w) => (result.map some, j, w)
  | .observe observer =>
    match j.observe observer with
    | (result, j) => (result.map fun _ => none, j, w)
  | .rotate backup =>
    match j.rotate backup w with
    | (result, j, w) => (result.map fun _ => none, j, w)

/-- The record that a call left, with the time and the number at which an event was persisted. -/
def Call.records (now : Instant) : Call → Except JournalError (Option Nat) → List Record
  | .persist event toBus, .ok (some seq) => [⟨seq, now, toBus, event⟩]
  | _, _ => []

theorem Call.records_error (now : Instant) (k : Call) (e : JournalError) : k.records now (.error e) = [] := by
  cases k <;> rfl

/-! ## Errors that are no refusals -/

theorem openDatabase_error {s : DatabaseSettings} {custom : Bool} {d d' : Disk} {e : JournalError}
    (h : openDatabase s custom d = (.error e, d')) : e.isRefusal = false := by
  rw [openDatabase] at h
  split at h
  · exact absurd (Prod.mk.inj h).1 (by simp)
  · split at h
    · split at h
      · exact Except.error.inj (Prod.mk.inj h).1 ▸ rfl
      · split at h
        · exact Except.error.inj (Prod.mk.inj h).1 ▸ rfl
        · exact absurd (Prod.mk.inj h).1 (by simp)
    · exact absurd (Prod.mk.inj h).1 (by simp)

/-- Settings that are not valid and sinks that cannot be opened are no refusals. -/
theorem openRuntime_error {s : JournalSettings} {custom : Bool} {w' : World} {e : JournalError}
    (h : openRuntime s custom w = (.error e, w')) : e.isRefusal = false := by
  rw [openRuntime] at h
  split at h
  · exact Except.error.inj (Prod.mk.inj h).1 ▸ rfl
  · split at h
    · exact Except.error.inj (Prod.mk.inj h).1 ▸ rfl
    · split at h
      · exact Except.error.inj (Prod.mk.inj h).1 ▸ rfl
      · split at h
        · rename_i failed
          exact Except.error.inj (Prod.mk.inj h).1 ▸ openDatabase_error failed
        · simp only at h
          split at h
          · exact Except.error.inj (Prod.mk.inj h).1 ▸ rfl
          · exact absurd (Prod.mk.inj h).1 (by simp)

/-! ## Effects -/

/-- What a call to a journal may come to: nothing is done, or it does what it should, and only an initialization and a
rotation may fail halfway. -/
inductive Call.Effect (j : Journal) (w : World) : Call → Outcome (Option Nat) → Prop where
  | nothing (k : Call) (e : JournalError) : Effect j w k (.error e, j, w)
  | initialized (s : JournalSettings) (custom : Bool) (r : Runtime) (w' : World) (fresh : j.state = .uninitialized)
      (opened : openRuntime (effective s custom) custom w = (.ok r, w')) :
      Effect j w (.init s custom) (.ok none, { j with state := .initialized, runtime := some r }, w')
  | notInitialized (s : JournalSettings) (custom : Bool) (e : JournalError) (w' : World)
      (fresh : j.state = .uninitialized) (honest : e.isRefusal = false) (grows : w.disk.Grows w'.disk) :
      Effect j w (.init s custom) (.error e, j, w')
  | started (ready : j.state = .initialized) :
      Effect j w .start (.ok none, { j with state := .started, runtime := j.runtime.map startWorkers }, w)
  | stopped : Effect j w .stop (.ok none, j.beginStop, w)
  | persisted (event : Event) (toBus : Bool) (r r' : Runtime) (w' : World) (runtime : j.runtime = some r)
      (isOpen : j.state.isOpen = true) (taken : Runtime.persist r event toBus w = (.ok r.sequence.next, r', w')) :
      Effect j w (.persist event toBus) (.ok (some r.sequence.next), { j with runtime := some r' }, w')
  | observed (observer : String) :
      Effect j w (.observe observer) (.ok none, { j with observers := j.observers ++ [observer] }, w)
  | rotated (backup : Bool) (r : Runtime) (f : JournalFile) (d : Disk) (runtime : j.runtime = some r) :
      Effect j w (.rotate backup) (.ok none, { j with runtime := some { r with file := f } }, { w with disk := d })
  | notRotated (backup : Bool) (r : Runtime) (f : JournalFile) (d : Disk) (e : JournalError)
      (runtime : j.runtime = some r) (honest : e.isRefusal = false) :
      Effect j w (.rotate backup) (.error e, { j with runtime := some { r with file := f } }, { w with disk := d })

variable {j : Journal} {w : World} {k : Call} {x : Outcome (Option Nat)}

/-- An initialization opens the sinks, if the journal is new. -/
theorem init_effect (j : Journal) (w : World) (s : JournalSettings) (custom : Bool) :
    Call.Effect j w (.init s custom) (j.call w (.init s custom)) := by
  by_cases fresh : j.state = .uninitialized
  · have begins : (j.state != .uninitialized) = false := by rw [fresh]; rfl
    have grows := grows_openRuntime (effective s custom) custom w
    cases opened : openRuntime (effective s custom) custom w with
    | mk result w' =>
      have opened' := opened
      rw [effective] at opened'
      simp only [call, init, begins, if_neg Bool.false_ne_true, opened']
      cases result with
      | error e =>
        rw [opened] at grows
        exact .notInitialized s custom e w' fresh (openRuntime_error opened) grows
      | ok r => exact .initialized s custom r w' fresh opened
  · have refused : (j.state != .uninitialized) = true := by simpa using fresh
    simp only [call, init, if_pos refused]
    exact .nothing _ _

/-- A journal that is open hands an event to its runtime, which takes it or leaves everything as it is. -/
theorem persist_effect (j : Journal) (w : World) (event : Event) (toBus : Bool) :
    Call.Effect j w (.persist event toBus) (j.call w (.persist event toBus)) := by
  obtain ⟨state, observers, runtime⟩ := j
  cases runtime with
  | none => cases state <;> exact .nothing _ _
  | some r =>
    have tried (isOpen : state = .initialized ∨ state = .started) :
        Call.Effect ⟨state, observers, some r⟩ w (.persist event toBus)
          (call ⟨state, observers, some r⟩ w (.persist event toBus)) := by
      have called : (⟨state, observers, some r⟩ : Journal).persist event toBus w =
          ((Runtime.persist r event toBus w).1, ⟨state, observers, some (Runtime.persist r event toBus w).2.1⟩,
            (Runtime.persist r event toBus w).2.2) := by
        rcases isOpen with rfl | rfl <;> rfl
      rw [call, called]
      rcases Runtime.persist_cases r event toBus w with ⟨e, refused⟩ | ⟨h, r', w', taken, -⟩
      · rw [refused]
        exact .nothing _ e
      · rw [taken]
        exact .persisted event toBus r r' w' rfl (by rcases isOpen with rfl | rfl <;> rfl) taken
    cases state with
    | initialized => exact tried (.inl rfl)
    | started => exact tried (.inr rfl)
    | _ => exact .nothing _ _

/-- Only an initialized and a stopped journal come to a rotation. -/
theorem rotate_effect (j : Journal) (w : World) (backup : Bool) :
    Call.Effect j w (.rotate backup) (j.call w (.rotate backup)) := by
  obtain ⟨state, observers, runtime⟩ := j
  cases runtime with
  | none => cases state <;> exact .nothing _ _
  | some r =>
    have tried (reached : state = .initialized ∨ state = .stopped) :
        Call.Effect ⟨state, observers, some r⟩ w (.rotate backup)
          (call ⟨state, observers, some r⟩ w (.rotate backup)) := by
      rcases attempt : r.file.rotate backup w.disk with ⟨result, f, d⟩
      cases result with
      | error e =>
        have called : rotate ⟨state, observers, some r⟩ backup w =
            (.error (.sink (.io e)), ⟨state, observers, some { r with file := f }⟩, { w with disk := d }) := by
          rcases reached with rfl | rfl <;> simp only [rotate, attempt]
        rw [call, called]
        exact .notRotated backup r f d _ rfl rfl
      | ok =>
        have called : rotate ⟨state, observers, some r⟩ backup w =
            (.ok (), ⟨state, observers, some { r with file := f }⟩, { w with disk := d }) := by
          rcases reached with rfl | rfl <;> simp only [rotate, attempt]
        rw [call, called]
        exact .rotated backup r f d rfl
    cases state with
    | initialized => exact tried (.inl rfl)
    | stopped => exact tried (.inr rfl)
    | _ => exact .nothing _ _

/-- What a call comes to is one of its effects. -/
theorem call_effect (j : Journal) (w : World) (k : Call) : Call.Effect j w k (j.call w k) := by
  cases k with
  | init s custom => exact j.init_effect w s custom
  | start =>
    obtain ⟨state, observers, runtime⟩ := j
    cases state with
    | initialized => exact .started rfl
    | _ => exact .nothing _ _
  | stop => exact .stopped
  | persist event toBus => exact j.persist_effect w event toBus
  | observe observer =>
    obtain ⟨state, observers, runtime⟩ := j
    cases state with
    | uninitialized => exact .observed observer
    | initialized => exact .observed observer
    | _ => exact .nothing _ _
  | rotate backup => exact j.rotate_effect w backup

end Journal

end Blotter
