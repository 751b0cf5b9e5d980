import Mathlib
import Blotter.Proofs.Journal.Lifecycle
import Blotter.Proofs.Repeats

/-!
# The items of a pool

Whoever obtains items from a pool holds handles for them, may hand on more handles for the same item and gives them back
one by one (`Custody`). Items are told apart by the order in which they were obtained, not by their slots or records.

- Slots are either free or hold the record of one item, with as many holders as there are handles for it (`Accounts`).
  Taking a slot, sharing it and giving it back keep that (`Accounts.obtain`, `Accounts.share`, `Accounts.release`), so
  every run does (`Custody.isSound_run`).
- So free slots and live items make up the slots (`Accounts.available_add_live`), and the pool has as many slots as it
  had at the beginning, or as many as there have been live items at a time (`Custody.allocated_run`).
- All that is put together in `Custody.items_accounted`. A journal does nothing else with its pool when it takes an
  event (`Journal.Runtime.persist_moves`).
-/

namespace Blotter

/-! ## What is done to the slots -/

/-- A slot after one of its handles was given back. -/
def Slot.leave (s : Slot) : Slot := if s.holders = 1 then ⟨0, none⟩ else { s with holders := s.holders - 1 }

namespace ItemPool

variable {p p' : ItemPool} {r : Record} {h : Handle}

theorem getD_set (slots : List Slot) (i j : Nat) (s : Slot) :
    (slots.set i s).getD j default = if j = i ∧ i < slots.length then s else slots.getD j default := by
  grind

/-- What happens to a pool that supplies an item: a slot that was freed is used again, or one more slot comes into use,
which is made if no spare one is left. -/
theorem obtain?_cases (freed_lt : ∀ i ∈ p.freed, i < p.slots.length) (ho : p.obtain? r = some (h, p')) :
    h.record = r ∧ (∀ j, p'.slot j = if j = h.slot then ⟨1, some r⟩ else p.slot j) ∧
      p'.capacity = p.capacity ∧ p'.allowGrowth = p.allowGrowth ∧
      ((p.freed = h.slot :: p'.freed ∧ p'.slots.length = p.slots.length ∧ p'.spare = p.spare) ∨
        (p.freed = [] ∧ p'.freed = [] ∧ h.slot = p.slots.length ∧ p'.slots.length = p.slots.length + 1 ∧
          p'.spare = p.spare - 1 ∧ (p.spare = 0 → p.allowGrowth = true))) := by
  obtain ⟨capacity, allowGrowth, slots, freed, spare⟩ := p
  obtain ⟨⟨i, p₁⟩, taken, given⟩ := Option.map_eq_some_iff.mp ho
  obtain ⟨rfl, rfl⟩ := Prod.mk.inj given
  simp only [takeSlot?] at taken
  cases freed with
  | cons k rest =>
    obtain ⟨rfl, rfl⟩ := Prod.mk.inj (Option.some.inj taken)
    have lt : k < slots.length := freed_lt k List.mem_cons_self
    refine ⟨rfl, fun j => ?_, rfl, rfl, .inl ⟨rfl, List.length_set .., rfl⟩⟩
    simp only [slot, getD_set, lt, and_true]
  | nil =>
    simp only at taken
    split at taken
    · rename_i supplied
      obtain ⟨rfl, rfl⟩ := Prod.mk.inj (Option.some.inj taken)
      refine ⟨rfl, fun j => ?_, rfl, rfl, .inr ⟨rfl, rfl, rfl, by simp, rfl, fun used => ?_⟩⟩
      · simp only [slot, getD_set]
        grind
      · change spare = 0 at used
        simpa [used] using supplied
    · cases taken

/-- A slot is made only if none is free, and then it is in use. -/
theorem allocated_obtain? (freed_lt : ∀ i ∈ p.freed, i < p.slots.length) (ho : p.obtain? r = some (h, p')) :
    p'.allocated = p.allocated ∨
      p.available = 0 ∧ p.allowGrowth = true ∧ p'.available = 0 ∧ p'.allocated = p.allocated + 1 := by
  obtain ⟨-, -, -, -, ⟨-, length, spare⟩ | ⟨nothing, still, -, length, spare, grows⟩⟩ := obtain?_cases freed_lt ho
  · exact .inl (by rw [allocated, allocated, length, spare])
  · simp only [allocated, available, nothing, still, length, spare, List.length_nil]
    by_cases left : p.spare = 0
    · exact .inr ⟨by omega, grows left, by omega, by omega⟩
    · exact .inl (by omega)

/-- The slot that is supplied is not free any more; nothing else changes about that. -/
theorem mem_freed_obtain? (nodup : p.freed.Nodup) (freed_lt : ∀ i ∈ p.freed, i < p.slots.length)
    (ho : p.obtain? r = some (h, p')) (i : Nat) : i ∈ p'.freed ↔ i ∈ p.freed ∧ i ≠ h.slot := by
  obtain ⟨-, -, -, -, ⟨freed, -⟩ | ⟨nothing, still, -⟩⟩ := obtain?_cases freed_lt ho
  · rw [freed] at nodup ⊢
    have other : h.slot ∉ p'.freed := (List.nodup_cons.mp nodup).1
    rw [List.mem_cons]
    constructor
    · intro hi
      exact ⟨.inr hi, fun same => other (same ▸ hi)⟩
    · rintro ⟨same | hi, ne⟩
      · exact absurd same ne
      · exact hi
  · simp [nothing, still]

/-- The slot that is supplied is among the slots then, which there are no others of. -/
theorem lt_length_obtain? (freed_lt : ∀ i ∈ p.freed, i < p.slots.length) (ho : p.obtain? r = some (h, p')) (i : Nat) :
    i < p'.slots.length ↔ i < p.slots.length ∨ i = h.slot := by
  obtain ⟨-, -, -, -, ⟨freed, length, -⟩ | ⟨-, -, slot, length, -⟩⟩ := obtain?_cases freed_lt ho
  · have lt : h.slot < p.slots.length := freed_lt h.slot (by rw [freed]; exact List.mem_cons_self)
    omega
  · omega

theorem slot_share (p : ItemPool) (h : Handle) (j : Nat) : (p.share h).slot j =
    if j = h.slot ∧ h.slot < p.slots.length then
      { p.slot h.slot with holders := (p.slot h.slot).holders + 1 }
    else p.slot j := by
  rw [slot, share, getD_set]
  rfl

/-- Giving a handle back changes its slot, and frees it if the handle is the last one. -/
theorem release_eq (p : ItemPool) (h : Handle) : p.release h = { p with
    slots := p.slots.set h.slot (p.slot h.slot).leave
    freed := if (p.slot h.slot).holders = 1 then h.slot :: p.freed else p.freed } := by
  rw [release, Slot.leave]
  by_cases last : (p.slot h.slot).holders = 1
  · rw [if_pos (beq_iff_eq.mpr last), if_pos last, if_pos last]
  · rw [if_neg (by simpa using last), if_neg last, if_neg last]

theorem slot_release (p : ItemPool) (h : Handle) (j : Nat) : (p.release h).slot j =
    if j = h.slot ∧ h.slot < p.slots.length then (p.slot h.slot).leave else p.slot j := by
  rw [release_eq, slot, getD_set]
  rfl

theorem length_slots_release (p : ItemPool) (h : Handle) : (p.release h).slots.length = p.slots.length := by
  rw [release_eq, List.length_set]

theorem freed_release (p : ItemPool) (h : Handle) :
    (p.release h).freed = if (p.slot h.slot).holders = 1 then h.slot :: p.freed else p.freed := by
  rw [release_eq]

theorem mem_freed_release (p : ItemPool) (h : Handle) (i : Nat) :
    i ∈ (p.release h).freed ↔ i ∈ p.freed ∨ i = h.slot ∧ (p.slot h.slot).holders = 1 := by
  rw [freed_release]
  split
  · rename_i last
    rw [List.mem_cons, or_comm, and_iff_left last]
  · rename_i more
    rw [or_iff_left fun both => more both.2]

theorem allocated_release (p : ItemPool) (h : Handle) : (p.release h).allocated = p.allocated := by
  rw [allocated, allocated, length_slots_release, release_eq]

theorem length_slots_share (p : ItemPool) (h : Handle) : (p.share h).slots.length = p.slots.length := List.length_set ..

theorem allocated_share (p : ItemPool) (h : Handle) : (p.share h).allocated = p.allocated := by
  rw [allocated, allocated, length_slots_share]
  rfl

end ItemPool

/-! ## Items and their handles -/

/-- A handle that somebody holds, with the number of the item that it is for. -/
structure HeldHandle where
  item : Nat
  handle : Handle

/-- How many handles for a slot are held. -/
def holdersOf (held : List HeldHandle) (i : Nat) : Nat := held.countP (·.handle.slot == i)

/-- How many items are live: those that handles are held for. -/
def liveItems (held : List HeldHandle) : Nat := (held.map (·.item)).dedup.length

theorem holdersOf_cons (x : HeldHandle) (held : List HeldHandle) (i : Nat) :
    holdersOf (x :: held) i = holdersOf held i + if x.handle.slot = i then 1 else 0 := by
  rw [holdersOf, List.countP_cons, holdersOf]
  simp only [beq_iff_eq]

theorem holdersOf_eq_zero_iff {held : List HeldHandle} {i : Nat} :
    holdersOf held i = 0 ↔ ∀ x ∈ held, x.handle.slot ≠ i := by
  simp [holdersOf, List.countP_eq_zero]

/-- The slots of a pool match the handles that are held: the free ones are those that nobody holds a handle for, and any
other holds the record of its one item, with its holders counted. -/
structure Accounts (p : ItemPool) (issued : List Record) (held : List HeldHandle) : Prop where
  nodup_freed : p.freed.Nodup
  mem_freed : ∀ i, i ∈ p.freed ↔ i < p.slots.length ∧ ∀ x ∈ held, x.handle.slot ≠ i
  held_lt : ∀ x ∈ held, x.handle.slot < p.slots.length
  slot_eq : ∀ x ∈ held, p.slot x.handle.slot = ⟨holdersOf held x.handle.slot, some x.handle.record⟩
  issued : ∀ x ∈ held, issued[x.item]? = some x.handle.record
  same_iff : ∀ x ∈ held, ∀ y ∈ held, x.handle.slot = y.handle.slot ↔ x.item = y.item

namespace Accounts

variable {p p' : ItemPool} {issued : List Record} {held : List HeldHandle} {r : Record} {h : Handle} {x : HeldHandle}

theorem new (capacity : Nat) (allowGrowth : Bool) : Accounts (.new capacity allowGrowth) [] [] where
  nodup_freed := .nil
  mem_freed i := by simp [ItemPool.new]
  held_lt _ hx := absurd hx List.not_mem_nil
  slot_eq _ hx := absurd hx List.not_mem_nil
  issued _ hx := absurd hx List.not_mem_nil
  same_iff _ hx := absurd hx List.not_mem_nil

theorem freed_lt (a : Accounts p issued held) : ∀ i ∈ p.freed, i < p.slots.length :=
  fun i hi => ((a.mem_freed i).mp hi).1

/-- The order of the handles does not matter. -/
theorem perm {held' : List HeldHandle} (a : Accounts p issued held) (h : held.Perm held') :
    Accounts p issued held' where
  nodup_freed := a.nodup_freed
  mem_freed i := by simpa only [h.mem_iff] using a.mem_freed i
  held_lt x hx := a.held_lt x (h.mem_iff.mpr hx)
  slot_eq x hx := by
    rw [a.slot_eq x (h.mem_iff.mpr hx), holdersOf, holdersOf, h.countP_eq]
  issued x hx := a.issued x (h.mem_iff.mpr hx)
  same_iff x hx y hy := a.same_iff x (h.mem_iff.mpr hx) y (h.mem_iff.mpr hy)

/-- A slot that is supplied was not held before. -/
theorem vacant (a : Accounts p issued held) (ho : p.obtain? r = some (h, p')) :
    ∀ x ∈ held, x.handle.slot ≠ h.slot := by
  obtain ⟨-, -, -, -, reused | fresh⟩ := ItemPool.obtain?_cases a.freed_lt ho
  · refine ((a.mem_freed h.slot).mp ?_).2
    rw [reused.1]
    exact List.mem_cons_self
  · intro x hx
    have lt := a.held_lt x hx
    have slot := fresh.2.2.1
    omega

theorem item_lt (a : Accounts p issued held) (hx : x ∈ held) : x.item < issued.length :=
  (List.getElem?_eq_some_iff.mp (a.issued x hx)).1

/-- An item that is obtained gets a slot of its own. -/
theorem obtain (a : Accounts p issued held) (ho : p.obtain? r = some (h, p')) :
    Accounts p' (issued ++ [r]) (⟨issued.length, h⟩ :: held) where
  nodup_freed := by
    obtain ⟨-, -, -, -, ⟨freed, -⟩ | ⟨-, still, -⟩⟩ := ItemPool.obtain?_cases a.freed_lt ho
    · exact (List.nodup_cons.mp (freed ▸ a.nodup_freed)).2
    · rw [still]
      exact .nil
  mem_freed i := by
    rw [ItemPool.mem_freed_obtain? a.nodup_freed a.freed_lt ho, a.mem_freed, ItemPool.lt_length_obtain? a.freed_lt ho,
      List.forall_mem_cons]
    constructor
    · rintro ⟨⟨lt, nobody⟩, other⟩
      exact ⟨.inl lt, Ne.symm other, nobody⟩
    · rintro ⟨lt, other, nobody⟩
      exact ⟨⟨lt.resolve_right (Ne.symm other), nobody⟩, Ne.symm other⟩
  held_lt := by
    rw [List.forall_mem_cons]
    exact ⟨(ItemPool.lt_length_obtain? a.freed_lt ho _).mpr (.inr rfl),
      fun x hx => (ItemPool.lt_length_obtain? a.freed_lt ho _).mpr (.inl (a.held_lt x hx))⟩
  slot_eq := by
    obtain ⟨record, slots, -⟩ := ItemPool.obtain?_cases a.freed_lt ho
    have vacant := a.vacant ho
    have none : holdersOf held h.slot = 0 := holdersOf_eq_zero_iff.mpr vacant
    rw [List.forall_mem_cons]
    constructor
    · rw [slots, if_pos rfl, holdersOf_cons, none, if_pos rfl, record]
    · intro x hx
      rw [slots, if_neg (vacant x hx), a.slot_eq x hx, holdersOf_cons, if_neg (Ne.symm (vacant x hx)), Nat.add_zero]
  issued := by
    obtain ⟨record, -⟩ := ItemPool.obtain?_cases a.freed_lt ho
    rw [List.forall_mem_cons]
    constructor
    · rw [List.getElem?_concat_length, record]
    · intro x hx
      rw [List.getElem?_append_left (a.item_lt hx)]
      exact a.issued x hx
  same_iff := by
    have vacant := a.vacant ho
    rw [List.forall_mem_cons]
    constructor
    · rw [List.forall_mem_cons]
      refine ⟨⟨fun _ => rfl, fun _ => rfl⟩, fun y hy => ?_⟩
      exact ⟨fun same => absurd same.symm (vacant y hy), fun same => absurd same (a.item_lt hy).ne'⟩
    · intro x hx
      rw [List.forall_mem_cons]
      exact ⟨⟨fun same => absurd same (vacant x hx), fun same => absurd same (a.item_lt hx).ne⟩, a.same_iff x hx⟩

theorem mem_of_mem_share (hx : x ∈ held) {y : HeldHandle} (hy : y ∈ x :: held) : y ∈ held := by
  rcases List.mem_cons.mp hy with rfl | hy
  · exact hx
  · exact hy

/-- A second handle for an item counts as one more holder of its slot. -/
theorem share (a : Accounts p issued held) (hx : x ∈ held) : Accounts (p.share x.handle) issued (x :: held) where
  nodup_freed := a.nodup_freed
  mem_freed i := by
    rw [ItemPool.length_slots_share, List.forall_mem_cons]
    refine (a.mem_freed i).trans (and_congr_right fun _ => ?_)
    exact ⟨fun nobody => ⟨nobody x hx, nobody⟩, And.right⟩
  held_lt y hy := by
    rw [ItemPool.length_slots_share]
    exact a.held_lt y (mem_of_mem_share hx hy)
  slot_eq y hy := by
    have before := a.slot_eq y (mem_of_mem_share hx hy)
    rw [ItemPool.slot_share, holdersOf_cons]
    by_cases same : y.handle.slot = x.handle.slot
    · rw [if_pos ⟨same, a.held_lt x hx⟩, if_pos same.symm, ← same, before]
    · rw [if_neg fun other => same other.1, if_neg (Ne.symm same), before, Nat.add_zero]
  issued y hy := a.issued y (mem_of_mem_share hx hy)
  same_iff y hy z hz := a.same_iff y (mem_of_mem_share hx hy) z (mem_of_mem_share hx hz)

/-- A handle is the last one for its slot exactly if it is the only one that is held. -/
theorem last_iff (a : Accounts p issued (x :: held)) :
    (p.slot x.handle.slot).holders = 1 ↔ ∀ y ∈ held, y.handle.slot ≠ x.handle.slot := by
  have count : (p.slot x.handle.slot).holders = holdersOf held x.handle.slot + 1 := by
    rw [a.slot_eq x List.mem_cons_self, holdersOf_cons, if_pos rfl]
  rw [count, ← holdersOf_eq_zero_iff]
  omega

/-- A handle that is given back counts as one holder less; the last one frees the slot. -/
theorem release (a : Accounts p issued (x :: held)) : Accounts (p.release x.handle) issued held where
  nodup_freed := by
    have taken : x.handle.slot ∉ p.freed := fun free => ((a.mem_freed _).mp free).2 x List.mem_cons_self rfl
    rw [ItemPool.freed_release]
    split
    · exact List.nodup_cons.mpr ⟨taken, a.nodup_freed⟩
    · exact a.nodup_freed
  mem_freed i := by
    have free := a.mem_freed i
    rw [List.forall_mem_cons] at free
    rw [ItemPool.mem_freed_release, ItemPool.length_slots_release, free, a.last_iff]
    constructor
    · rintro (⟨lt, -, nobody⟩ | ⟨rfl, nobody⟩)
      · exact ⟨lt, nobody⟩
      · exact ⟨a.held_lt x List.mem_cons_self, nobody⟩
    · rintro ⟨lt, nobody⟩
      by_cases same : i = x.handle.slot
      · exact .inr ⟨same, same ▸ nobody⟩
      · exact .inl ⟨lt, Ne.symm same, nobody⟩
  held_lt y hy := by
    rw [ItemPool.length_slots_release]
    exact a.held_lt y (List.mem_cons_of_mem x hy)
  slot_eq y hy := by
    have before := a.slot_eq y (List.mem_cons_of_mem x hy)
    rw [holdersOf_cons] at before
    rw [ItemPool.slot_release]
    by_cases same : y.handle.slot = x.handle.slot
    · have more : ¬(p.slot y.handle.slot).holders = 1 := by
        rw [same]
        exact fun last => a.last_iff.mp last y hy same
      rw [if_pos ⟨same, a.held_lt x List.mem_cons_self⟩, ← same, Slot.leave, if_neg more, before, if_pos same.symm]
      rfl
    · rw [if_neg fun other => same other.1, before, if_neg (Ne.symm same), Nat.add_zero]
  issued y hy := a.issued y (List.mem_cons_of_mem x hy)
  same_iff y hy z hz := a.same_iff y (List.mem_cons_of_mem x hy) z (List.mem_cons_of_mem x hz)

/-- The slots that handles are held for and the free ones are all slots. -/
theorem perm_range (a : Accounts p issued held) :
    ((held.map (·.handle.slot)).dedup ++ p.freed).Perm (List.range p.slots.length) := by
  have apart : ((held.map (·.handle.slot)).dedup ++ p.freed).Nodup := by
    refine List.nodup_append.mpr ⟨List.nodup_dedup _, a.nodup_freed, ?_⟩
    rintro i hi j free rfl
    obtain ⟨x, hx, slot⟩ := List.mem_map.mp (List.mem_dedup.mp hi)
    exact ((a.mem_freed i).mp free).2 x hx slot
  refine (List.perm_ext_iff_of_nodup apart List.nodup_range).mpr fun i => ?_
  rw [List.mem_append, List.mem_dedup, List.mem_map, a.mem_freed, List.mem_range]
  constructor
  · rintro (⟨x, hx, rfl⟩ | ⟨lt, -⟩)
    · exact a.held_lt x hx
    · exact lt
  · intro lt
    by_cases taken : ∃ x ∈ held, x.handle.slot = i
    · exact .inl taken
    · exact .inr ⟨lt, fun x hx same => taken ⟨x, hx, same⟩⟩

/-- Each slot is either free or the one of a live item. -/
theorem available_add_live (a : Accounts p issued held) : p.available + liveItems held = p.allocated := by
  have slots := a.perm_range.length_eq
  have items : liveItems held = (held.map (·.handle.slot)).dedup.length :=
    length_dedup_map fun x hx y hy => (a.same_iff x hx y hy).symm
  rw [List.length_append, List.length_range] at slots
  rw [ItemPool.available, ItemPool.allocated, items]
  omega

end Accounts

/-! ## Runs of a pool -/

/-- A pool and the source of its numbers, the records of the items that were obtained from it, and the handles that are
held. -/
structure Custody where
  pool : ItemPool
  sequence : Sequence
  issued : List Record
  held : List HeldHandle

/-- What can be done with a pool and its handles. Handles are named by their place among those that are held. -/
inductive PoolMove where
  | obtain (event : Event) (toBus : Bool) (now : Instant)
  | clone (i : Nat)
  | drop (i : Nat)

namespace Custody

/-- A pool that nothing was obtained from; the next number follows `last`. -/
def new (capacity : Nat) (allowGrowth : Bool) (last : Nat) : Custody :=
  ⟨.new capacity allowGrowth, .startingAfter last, [], []⟩

/-- Obtains an item for an event, under the next number. -/
def obtain (c : Custody) (event : Event) (toBus : Bool) (now : Instant) : Except JournalError Handle × Custody :=
  let record : Record := ⟨c.sequence.next, now, toBus, event⟩
  match c.pool.obtain? record with
  | none => (.error (.poolExhausted c.pool.capacity), c)
  | some (h, pool) =>
    (.ok h, ⟨pool, c.sequence.advance, c.issued ++ [record], ⟨c.issued.length, h⟩ :: c.held⟩)

/-- The pool and the handles after a move. -/
def move (c : Custody) : PoolMove → Custody
  | .obtain event toBus now => (c.obtain event toBus now).2
  | .clone i =>
    match c.held[i]? with
    | some x => { c with pool := c.pool.share x.handle, held := x :: c.held }
    | none => c
  | .drop i =>
    match c.held[i]? with
    | some x => { c with pool := c.pool.release x.handle, held := c.held.eraseIdx i }
    | none => c

/-- The pool and the handles after moves. -/
def run (c : Custody) (ms : List PoolMove) : Custody := ms.foldl move c

/-- How many items are live. -/
def live (c : Custody) : Nat := liveItems c.held

/-- The largest number of items that are live at a time in a run. -/
def peak (c : Custody) : List PoolMove → Nat
  | [] => c.live
  | m :: ms => max c.live ((c.move m).peak ms)

/-- Whether the slots of the pool match the handles. -/
def IsSound (c : Custody) : Prop := Accounts c.pool c.issued c.held

variable {c : Custody} {m : PoolMove}

theorem IsSound.move (a : c.IsSound) (m : PoolMove) : (c.move m).IsSound := by
  cases m with
  | obtain event toBus now =>
    rw [Custody.move, Custody.obtain]
    cases supplied : c.pool.obtain? ⟨c.sequence.next, now, toBus, event⟩ with
    | none => exact a
    | some x => exact Accounts.obtain a supplied
  | clone i =>
    rw [Custody.move]
    cases found : c.held[i]? with
    | none => exact a
    | some x => exact Accounts.share a (List.mem_of_getElem? found)
  | drop i =>
    rw [Custody.move]
    cases found : c.held[i]? with
    | none => exact a
    | some x =>
      obtain ⟨lt, rfl⟩ := List.getElem?_eq_some_iff.mp found
      exact Accounts.release (Accounts.perm a (List.getElem_cons_eraseIdx_perm lt).symm)

theorem isSound_run (a : c.IsSound) (ms : List PoolMove) : (c.run ms).IsSound := by
  induction ms generalizing c with
  | nil => exact a
  | cons m ms ih => exact ih (a.move m)

/-- A move changes neither how many slots there were at the beginning nor whether the pool may grow. -/
theorem IsSound.settings_move (a : c.IsSound) (m : PoolMove) :
    (c.move m).pool.capacity = c.pool.capacity ∧ (c.move m).pool.allowGrowth = c.pool.allowGrowth := by
  cases m with
  | obtain event toBus now =>
    rw [Custody.move, Custody.obtain]
    cases supplied : c.pool.obtain? ⟨c.sequence.next, now, toBus, event⟩ with
    | none => exact ⟨rfl, rfl⟩
    | some x =>
      obtain ⟨-, -, capacity, allowGrowth, -⟩ := ItemPool.obtain?_cases a.freed_lt supplied
      exact ⟨capacity, allowGrowth⟩
  | clone i =>
    rw [Custody.move]
    cases c.held[i]? with
    | none => exact ⟨rfl, rfl⟩
    | some x => exact ⟨rfl, rfl⟩
  | drop i =>
    rw [Custody.move]
    cases c.held[i]? with
    | none => exact ⟨rfl, rfl⟩
    | some x =>
      show (c.pool.release x.handle).capacity = _ ∧ (c.pool.release x.handle).allowGrowth = _
      rw [ItemPool.release_eq]
      exact ⟨rfl, rfl⟩

/-- A move makes a slot only if none is free and the pool may grow, and then it is in use. -/
theorem IsSound.allocated_move (a : c.IsSound) (m : PoolMove) : (c.move m).pool.allocated = c.pool.allocated ∨
    c.pool.available = 0 ∧ c.pool.allowGrowth = true ∧ (c.move m).pool.available = 0 ∧
      (c.move m).pool.allocated = c.pool.allocated + 1 := by
  cases m with
  | obtain event toBus now =>
    rw [Custody.move, Custody.obtain]
    cases supplied : c.pool.obtain? ⟨c.sequence.next, now, toBus, event⟩ with
    | none => exact .inl rfl
    | some x => exact ItemPool.allocated_obtain? a.freed_lt supplied
  | clone i =>
    rw [Custody.move]
    cases c.held[i]? with
    | none => exact .inl rfl
    | some x => exact .inl (c.pool.allocated_share x.handle)
  | drop i =>
    rw [Custody.move]
    cases c.held[i]? with
    | none => exact .inl rfl
    | some x => exact .inl (c.pool.allocated_release x.handle)

theorem live_le_peak (c : Custody) (ms : List PoolMove) : c.live ≤ c.peak ms := by
  cases ms with
  | nil => exact le_refl _
  | cons m ms => exact le_max_left ..

/-- After a run there are as many slots as before, or as many as items were live at a time. -/
theorem allocated_run (a : c.IsSound) (ms : List PoolMove) :
    (c.run ms).pool.allocated = max c.pool.allocated (c.peak ms) := by
  induction ms generalizing c with
  | nil =>
    have total : c.pool.available + c.live = c.pool.allocated := Accounts.available_add_live a
    show c.pool.allocated = max c.pool.allocated c.live
    omega
  | cons m ms ih =>
    have before : c.pool.available + c.live = c.pool.allocated := Accounts.available_add_live a
    have after : (c.move m).pool.available + (c.move m).live = (c.move m).pool.allocated :=
      Accounts.available_add_live (a.move m)
    have later := (c.move m).live_le_peak ms
    show ((c.move m).run ms).pool.allocated = max c.pool.allocated (max c.live ((c.move m).peak ms))
    rw [ih (a.move m)]
    rcases a.allocated_move m with same | ⟨-, -, full, grown⟩
    · omega
    · omega

/-- A run keeps how many slots there were at the beginning and whether the pool may grow, and makes no slots unless it
may. -/
theorem settings_run (a : c.IsSound) (ms : List PoolMove) :
    (c.run ms).pool.capacity = c.pool.capacity ∧ (c.run ms).pool.allowGrowth = c.pool.allowGrowth ∧
      (c.pool.allowGrowth = false → (c.run ms).pool.allocated = c.pool.allocated) := by
  induction ms generalizing c with
  | nil => exact ⟨rfl, rfl, fun _ => rfl⟩
  | cons m ms ih =>
    obtain ⟨capacity, allowGrowth⟩ := a.settings_move m
    obtain ⟨later_capacity, later_growth, later⟩ := ih (a.move m)
    refine ⟨later_capacity.trans capacity, later_growth.trans allowGrowth, fun fixed => ?_⟩
    refine (later (allowGrowth.trans fixed)).trans ?_
    rcases a.allocated_move m with same | ⟨-, grows, -⟩
    · exact same
    · rw [fixed] at grows
      cases grows

/-- An item is obtained under the next number, unless no slot is free and the pool may not grow. -/
theorem obtain_eq (c : Custody) (event : Event) (toBus : Bool) (now : Instant) :
    (c.pool.canSupply = false ∧ c.obtain event toBus now = (.error (.poolExhausted c.pool.capacity), c)) ∨
      c.pool.canSupply = true ∧ ∃ h pool, c.obtain event toBus now =
        (.ok h, ⟨pool, c.sequence.advance, c.issued ++ [⟨c.sequence.next, now, toBus, event⟩],
          ⟨c.issued.length, h⟩ :: c.held⟩) := by
  have supplied := c.pool.isSome_obtain? ⟨c.sequence.next, now, toBus, event⟩
  rw [Custody.obtain]
  cases found : c.pool.obtain? ⟨c.sequence.next, now, toBus, event⟩ with
  | none =>
    rw [found] at supplied
    exact .inl ⟨supplied.symm, rfl⟩
  | some x =>
    rw [found] at supplied
    exact .inr ⟨supplied.symm, x.1, x.2, rfl⟩

theorem isSound_new (capacity : Nat) (allowGrowth : Bool) (last : Nat) : (new capacity allowGrowth last).IsSound :=
  Accounts.new capacity allowGrowth

/-- After any moves of a new pool: each handle reads the record that its item was obtained with; handles have the same
slot exactly if they are for the same item; the free slots and the live items make up all slots, of which there are as
many as at the beginning, or as many as items were live at a time, and none is made while one is free. An item is
refused exactly if the pool may not grow and as many items are live as there were slots at the beginning; that changes
nothing, and any other item is obtained under the next number. -/
theorem items_accounted (capacity : Nat) (allowGrowth : Bool) (last : Nat) (ms : List PoolMove) :
    let c := (new capacity allowGrowth last).run ms
    (∀ x ∈ c.held, ∃ r, c.issued[x.item]? = some r ∧ c.pool.read? x.handle = some r) ∧
    (∀ x ∈ c.held, ∀ y ∈ c.held, x.handle.slot = y.handle.slot ↔ x.item = y.item) ∧
    c.pool.available + c.live = c.pool.allocated ∧
    c.pool.allocated = max capacity ((new capacity allowGrowth last).peak ms) ∧
    (∀ m, 0 < c.pool.available → (c.move m).pool.allocated = c.pool.allocated) ∧
    ∀ event toBus now,
      (allowGrowth = false ∧ c.live = capacity →
        c.obtain event toBus now = (.error (.poolExhausted capacity), c)) ∧
      (¬(allowGrowth = false ∧ c.live = capacity) → ∃ h pool, c.obtain event toBus now =
        (.ok h, ⟨pool, c.sequence.advance, c.issued ++ [⟨c.sequence.next, now, toBus, event⟩],
          ⟨c.issued.length, h⟩ :: c.held⟩)) := by
  intro c
  have start := isSound_new capacity allowGrowth last
  have sound : c.IsSound := isSound_run start ms
  have total : c.pool.available + c.live = c.pool.allocated := Accounts.available_add_live sound
  have slots : (new capacity allowGrowth last).pool.allocated = capacity := Nat.zero_add capacity
  obtain ⟨settings, growth, fixed⟩ := settings_run start ms
  rw [slots] at fixed
  have supplies : c.pool.canSupply = false ↔ allowGrowth = false ∧ c.live = capacity := by
    rw [ItemPool.canSupply, growth, Bool.or_eq_false_iff, and_comm]
    refine and_congr_right fun still => ?_
    have same : c.pool.allocated = capacity := fixed still
    rw [bne_eq_false_iff_eq]
    omega
  refine ⟨fun x hx => ⟨_, sound.issued x hx, ?_⟩, sound.same_iff, total, ?_, fun m free => ?_,
    fun event toBus now => ?_⟩
  · rw [ItemPool.read?, sound.slot_eq x hx]
  · rw [allocated_run start ms, slots]
  · exact (sound.allocated_move m).resolve_right fun grown => by omega
  · rcases c.obtain_eq event toBus now with ⟨refuses, refused⟩ | ⟨can, obtained⟩
    · rw [settings] at refused
      exact ⟨fun _ => refused, fun other => absurd (supplies.mp refuses) other⟩
    · refine ⟨fun full => ?_, fun _ => obtained⟩
      rw [supplies.mpr full] at can
      cases can

end Custody

/-- A journal that takes an event obtains an item for it, and a second handle if its database stores it: the answer, the
pool and the source of its numbers are the ones after these moves. -/
theorem Journal.Runtime.persist_moves (r : Runtime) (event : Event) (toBus : Bool) (w : World) (issued : List Record)
    (held : List HeldHandle) :
    let c : Custody := ⟨r.pool, r.sequence, issued, held⟩
    let taken := Runtime.persist r event toBus w
    taken.1 = (c.obtain event toBus w.now).1.map (·.record.seq) ∧
      ∃ shared : List PoolMove, (shared = [] ∨ shared = [.clone 0]) ∧
        (c.run (.obtain event toBus w.now :: shared)).pool = taken.2.1.pool ∧
        (c.run (.obtain event toBus w.now :: shared)).sequence = taken.2.1.sequence := by
  simp only [Runtime.persist, Custody.run, List.foldl_cons, Custody.move, Custody.obtain]
  cases supplied : r.pool.obtain? ⟨r.sequence.next, w.now, toBus, event⟩ with
  | none => exact ⟨rfl, [], .inl rfl, rfl, rfl⟩
  | some x =>
    have number : x.1.record.seq = r.sequence.next := by rw [ItemPool.record_of_obtain? supplied]
    simp only
    split
    · exact ⟨congrArg Except.ok number.symm, [.clone 0], .inr rfl, rfl, rfl⟩
    · exact ⟨congrArg Except.ok number.symm, [], .inl rfl, rfl, rfl⟩

end Blotter
