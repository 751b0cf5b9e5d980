import Mathlib
import Blotter.Proofs.Database.Replay
import Blotter.Proofs.Database.Store
import Blotter.Proofs.JournalFile.Opening
import Blotter.Proofs.JournalFile.Order

/-!
# Recovery from either side

Records that were appended to a new journal file and stored in a new database are recovered alike: what the replay of
the file answers to any question is what the tables of the database answer (`readers_agree`). The batches of the two
sides need not be the same, and the database gets only the records that it stores.
-/

namespace Blotter

/-- Whether records can be recovered alike: they are in order, no text or column is too small for them, an order is
always of one account, and no zero has a sign. -/
structure Recoverable (rs : List Record) : Prop where
  increasing : rs.Pairwise fun r q => r.seq < q.seq
  seq_pos : ∀ r ∈ rs, 0 < r.seq
  seq_le : ∀ r ∈ rs, r.seq ≤ 9223372036854775807
  fitsWords : ∀ r ∈ rs, r.FitsWords
  plain : ∀ r ∈ rs, r.withPlainZeros = r
  account_eq : ∀ r ∈ rs, ∀ q ∈ rs, ∀ o o', r.event.snapshot? = some o → q.event.snapshot? = some o' →
    o.orderId = o'.orderId → o.account = o'.account
  fitsColumns : ∀ r ∈ rs, ∀ state, r.event = .sessionState state → state.FitsColumns

namespace Recoverable

variable {rs : List Record}

/-- Every order has an account. -/
theorem exists_owner (h : Recoverable rs) :
    ∃ owner : OrderId → AccountId, ∀ r ∈ rs, ∀ o, r.event.snapshot? = some o → o.account = owner o.orderId := by
  have account : ∀ k, ∃ a : AccountId, ∀ r ∈ rs, ∀ o, r.event.snapshot? = some o → o.orderId = k → o.account = a := by
    intro k
    by_cases known : ∃ r ∈ rs, ∃ o, r.event.snapshot? = some o ∧ o.orderId = k
    · obtain ⟨q, hq, o', snapshot', rfl⟩ := known
      exact ⟨o'.account, fun r hr o snapshot same => h.account_eq r hr q hq o o' snapshot snapshot' same⟩
    · exact ⟨default, fun r hr o snapshot same => absurd ⟨r, hr, o, snapshot, same⟩ known⟩
  choose owner owned using account
  exact ⟨owner, fun r hr o snapshot => owned o.orderId r hr o snapshot rfl⟩

/-- The records are stored, and the rows answer as the replay does. -/
theorem exists_tables (h : Recoverable rs) {s : Replay} (replayed : Replay.ofRecords rs = .ok s)
    {writes : List (Instant × Record)} (stored : writes.map (·.2) = rs.filter (·.kind.isStored)) :
    ∃ t, writes.foldlM (fun t w => t.write w.1 w.2) Database.Tables.empty = .ok t ∧
      RecoveryReader.ofTables t = RecoveryReader.ofReplay s := by
  obtain ⟨owner, owned⟩ := h.exists_owner
  have storable : ∀ r ∈ rs, Database.Storable owner r := fun r hr =>
    ⟨h.seq_le r hr, h.plain r hr, owned r hr, h.fitsColumns r hr⟩
  obtain ⟨bound, t, run, ⟨numbered, shows⟩, -, -⟩ :=
    Database.inStep_empty.run storable h.seq_pos h.increasing replayed stored
  refine ⟨t, run, ?_⟩
  rw [RecoveryReader.ofTables, RecoveryReader.ofReplay]
  congr
  · exact funext shows.openOrders
  · exact funext shows.openPositions
  · exact funext fun account => funext (shows.fillsOn account)
  · exact funext shows.session?

end Recoverable

section

open JournalFile Database

/-- A new journal file and a new database that are given the same records recover alike. -/
theorem readers_agree {d₀ d e₀ e : Disk} {path : String} {policy : SyncPolicy} {f : JournalFile} {id : Nat}
    {target : DatabaseTarget} {store : Store} {rs : List Record} {s : Replay} {batches : List (List Record)}
    {writes : List (Instant × List Record)}
    (wf : d₀.WellFormed) (opened : openAt d₀ path policy = (.ok f, d)) (isFile : f.handle = .file id)
    (current : (d.fileAt id).content = .bytes []) (backup : contents d (Path.backup path) = .ok [])
    (wf' : e₀.WellFormed) (opened' : Store.openAt e₀ target = (.ok store, e)) (empty : store.tables e = .empty)
    (recoverable : Recoverable rs) (replayed : Replay.ofRecords rs = .ok s)
    (appended : batches.flatten = rs) (stored : writes.flatMap (·.2) = rs.filter (·.kind.isStored)) :
    ∃ g d' store' e', appendAll batches f d = (.ok (), g, d') ∧ store.writeAll writes e = (.ok (), store', e') ∧
      Replay.load d' path = .ok s ∧ RecoveryReader.ofTables (store'.tables e') = RecoveryReader.ofReplay s := by
  obtain ⟨site, isOpen, rfl, -⟩ := isOpen_of_openAt wf opened isFile current backup
  have fits : ∀ r ∈ batches.flatten, r.FitsWords := fun r hr => recoverable.fitsWords r (appended ▸ hr)
  obtain ⟨g, d', after, appends, isOpen', samePath, read⟩ := appendAll_spec isOpen fits
  obtain ⟨t, writes', answers⟩ := recoverable.exists_tables replayed ((Store.map_timed writes).trans stored)
  rw [← empty] at writes'
  obtain ⟨store', e', storing, tables⟩ := Store.writeAll_of_foldlM (Store.isOpen_of_openAt wf' opened') writes'
  refine ⟨g, d', store', e', appends, storing, ?_, tables ▸ answers⟩
  have plain : plain batches.flatten = rs := by
    rw [appended, JournalFile.plain]
    exact (List.map_congr_left fun r hr => recoverable.plain r hr).trans (List.map_id rs)
  have records := isOpen'.records
  rw [samePath, read, recordsOfBytes_nil, List.nil_append, List.nil_append, plain,
    inOrder_of_pairwise recoverable.increasing] at records
  rw [Replay.load, records]
  simp only [replayed, Failure.ofOverflow]

/-- An order, a fill of it, the state of a session and a message, which the database does not store. -/
def exampleRecords : List Record :=
  let one : Decimal := ⟨false, 1, 0, Decimal.one_lt_limit, Decimal.zero_le_maxScale⟩
  let order := Order.limit ⟨"o"⟩ ⟨"A"⟩ ⟨"S"⟩ ⟨"I"⟩ .buy one one .epoch
  [⟨1, .epoch, true, .order order⟩, ⟨2, .epoch, true, .fill (.ofOrder order ⟨"e"⟩ one one .epoch)⟩,
    ⟨4, .epoch, false, .sessionState ⟨"A", "B", 1970, 1, 2, 3, .epoch⟩⟩,
    ⟨5, .epoch, false, .sessionMessage ⟨"A", "B", .inbound, 1, "x", .epoch⟩⟩]

theorem recoverable_exampleRecords : Recoverable exampleRecords where
  increasing := by decide
  seq_pos := by decide
  seq_le := by decide
  fitsWords := by
    simp only [exampleRecords, List.forall_mem_cons]
    exact ⟨⟨by decide, trivial⟩, ⟨by decide, trivial⟩,
      ⟨by decide, by decide, by decide, by decide, by decide, by decide⟩, ⟨by decide, Nat.one_le_ofNat⟩, by simp⟩
  plain := by decide
  account_eq := by simp [exampleRecords, Event.snapshot?]
  fitsColumns := by
    simp only [exampleRecords, List.forall_mem_cons]
    refine ⟨by simp, by simp, ?_, by simp, by simp⟩
    rintro state same
    obtain rfl := Event.sessionState.inj same
    exact ⟨by decide, by decide, by decide⟩

theorem readers_agree_exampleRecords : ∃ g d' store' e' s,
    appendAll [exampleRecords.take 3, [], exampleRecords.drop 3] ⟨"j", .file 0, .batch, false⟩
      (openAt Disk.empty "j" .batch).2 = (.ok (), g, d') ∧
    (Store.memory .empty).writeAll [(.epoch, exampleRecords.take 1), (.epoch, (exampleRecords.take 3).drop 1)]
      Disk.empty = (.ok (), store', e') ∧
    Replay.load d' "j" = .ok s ∧ RecoveryReader.ofTables (store'.tables e') = RecoveryReader.ofReplay s := by
  have opened : openAt Disk.empty "j" .batch =
      (.ok ⟨"j", .file 0, .batch, false⟩, (openAt Disk.empty "j" .batch).2) := by decide +kernel
  have content : ((openAt Disk.empty "j" .batch).2.fileAt 0).content = .bytes [] := by decide +kernel
  have backup : contents (openAt Disk.empty "j" .batch).2 (Path.backup "j") = .ok [] := by decide +kernel
  have opened' : Store.openAt Disk.empty .memory = (.ok (.memory .empty), Disk.empty) := rfl
  have appended : [exampleRecords.take 3, [], exampleRecords.drop 3].flatten = exampleRecords := by decide
  have stored : [(Instant.epoch, exampleRecords.take 1), (.epoch, (exampleRecords.take 3).drop 1)].flatMap (·.2) =
      exampleRecords.filter (·.kind.isStored) := by decide
  cases replayed : Replay.ofRecords exampleRecords with
  | error o =>
    have ok : (Replay.ofRecords exampleRecords).isOk = true := by decide +kernel
    rw [replayed] at ok
    exact absurd ok (by simp [Except.isOk, Except.toBool])
  | ok s =>
    obtain ⟨g, d', store', e', agreement⟩ := readers_agree Disk.wellFormed_empty opened rfl content backup
      Disk.wellFormed_empty opened' rfl recoverable_exampleRecords replayed appended stored
    exact ⟨g, d', store', e', s, agreement⟩

end

end Blotter
