import Mathlib
import Blotter.Proofs.Json.Members
import Blotter.Record.Codec

/-!
# Values written by a later version

A later version may write the members of an object in another order and add members of its own. `Edit` is one such
change anywhere inside of a value; where members can be added depends on what a reader knows there (`Shape`). A changed
value is kept as well as the old one (`Edit.isKeepable`), and a reader that looks for its members finds the old ones,
one of them changed at most (`Edit.objectMembers?`, `Edit.record?`).
-/

namespace Blotter

open Document

/-! ## Keepable values -/

namespace Json

theorem areUsable_iff {xs : List Json} : areUsable xs = true ↔ ∀ x ∈ xs, x.isUsable = true := by
  induction xs with
  | nil => simp [areUsable]
  | cons x xs ih => simp [areUsable, ih]

theorem depthOfAll_le_iff {xs : List Json} {n : Nat} : depthOfAll xs ≤ n ↔ ∀ x ∈ xs, x.depth ≤ n := by
  induction xs with
  | nil => simp [depthOfAll]
  | cons x xs ih =>
    rw [depthOfAll, List.forall_mem_cons, ← ih]
    exact Nat.max_le

theorem membersAreUsable_eq (ms : List (String × Json)) : membersAreUsable ms = areUsable (ms.map Prod.snd) := by
  induction ms with
  | nil => rfl
  | cons m ms ih => rw [membersAreUsable, ih, List.map_cons, areUsable]

theorem depthOfMembers_eq (ms : List (String × Json)) : depthOfMembers ms = depthOfAll (ms.map Prod.snd) := by
  induction ms with
  | nil => rfl
  | cons m ms ih => rw [depthOfMembers, ih, List.map_cons, depthOfAll]

end Json

namespace Event

open Json

variable {outer : Nat}

theorem isKeepable_iff {v : Json} : isKeepable outer v = true ↔ v.isUsable = true ∧ outer + v.depth ≤ nestingLimit := by
  rw [isKeepable, Bool.and_eq_true, decide_eq_true_eq]

/-- An array can be kept if it is not too deep inside and its elements can be kept inside of it. -/
theorem isKeepable_array {xs : List Json} :
    isKeepable outer (.array xs) = true ↔ outer < nestingLimit ∧ ∀ x ∈ xs, isKeepable (outer + 1) x = true := by
  have depth : outer + (Json.array xs).depth ≤ nestingLimit ↔
      outer < nestingLimit ∧ ∀ x ∈ xs, x.depth ≤ nestingLimit - (outer + 1) := by
    rw [Json.depth, ← depthOfAll_le_iff]
    omega
  rw [isKeepable_iff, isUsable, areUsable_iff, depth]
  simp only [isKeepable_iff]
  constructor
  · rintro ⟨usable, room, flat⟩
    refine ⟨room, fun x hx => ⟨usable x hx, ?_⟩⟩
    have := flat x hx
    omega
  · rintro ⟨room, kept⟩
    refine ⟨fun x hx => (kept x hx).1, room, fun x hx => ?_⟩
    have := (kept x hx).2
    omega

/-- An object can be kept if the array of its values can. -/
theorem isKeepable_object {ms : List (String × Json)} :
    isKeepable outer (.object ms) = true ↔ outer < nestingLimit ∧ ∀ m ∈ ms, isKeepable (outer + 1) m.2 = true := by
  have array : isKeepable outer (.object ms) = isKeepable outer (.array (ms.map Prod.snd)) := by
    rw [isKeepable, isKeepable, isUsable, isUsable, membersAreUsable_eq, Json.depth, Json.depth, depthOfMembers_eq]
  rw [array, isKeepable_array, List.forall_mem_map]

end Event

namespace Json

/-! ## Shapes and edits -/

/-- How a reader looks at a value: as a whole, or at its known members one by one. -/
inductive Shape where
  | value
  | record (fields : List (String × Shape))

namespace Shape

/-- A record whose members are looked at as a whole. -/
def flat (names : List String) : Shape := .record (names.map (·, .value))

/-- The known members. -/
def fields : Shape → List (String × Shape)
  | .value => []
  | .record fields => fields

/-- How a reader looks at the member of a name. Where it does not look, any value may stand. -/
def member (s : Shape) (name : String) : Shape := (s.fields.lookup name).getD .value

/-- How a reader looks at an element of an array, which stands for the members in their order. -/
def element (s : Shape) (i : Nat) : Shape := (s.fields[i]?.map Prod.snd).getD .value

end Shape

variable {outer : Nat} {s : Shape} {fields : List (String × Shape)} {names : List String} {x x' : Json}
  {ms : List (String × Json)}

/-- One change to a value inside of `outer` objects and arrays: the members of an object in another order, a new member
with a name that is not known there, or a change further inside. -/
inductive Edit : Nat → Shape → Json → Json → Prop where
  | permute {outer : Nat} {s : Shape} {ms ms' : List (String × Json)} (order : ms.Perm ms') :
      Edit outer s (.object ms) (.object ms')
  | insert {outer : Nat} {fields : List (String × Shape)} {before after : List (String × Json)} {name : String}
      {x : Json} (unknown : name ∉ fields.map Prod.fst) (keepable : Event.isKeepable (outer + 1) x = true) :
      Edit outer (.record fields) (.object (before ++ after)) (.object (before ++ (name, x) :: after))
  | member {outer : Nat} {s : Shape} {before after : List (String × Json)} {name : String} {x x' : Json}
      (inside : Edit (outer + 1) (s.member name) x x') :
      Edit outer s (.object (before ++ (name, x) :: after)) (.object (before ++ (name, x') :: after))
  | element {outer : Nat} {s : Shape} {before after : List Json} {x x' : Json}
      (inside : Edit (outer + 1) (s.element before.length) x x') :
      Edit outer s (.array (before ++ x :: after)) (.array (before ++ x' :: after))

/-- A changed value can be kept if the old one can. -/
theorem Edit.isKeepable (e : Edit outer s x x') (h : Event.isKeepable outer x = true) :
    Event.isKeepable outer x' = true := by
  induction e with
  | permute order =>
    obtain ⟨room, kept⟩ := Event.isKeepable_object.mp h
    exact Event.isKeepable_object.mpr ⟨room, fun m hm => kept m (order.mem_iff.mpr hm)⟩
  | insert unknown keepable =>
    obtain ⟨room, kept⟩ := Event.isKeepable_object.mp h
    refine Event.isKeepable_object.mpr ⟨room, ?_⟩
    simp only [List.forall_mem_append, List.forall_mem_cons] at kept ⊢
    exact ⟨kept.1, keepable, kept.2⟩
  | member inside ih =>
    obtain ⟨room, kept⟩ := Event.isKeepable_object.mp h
    refine Event.isKeepable_object.mpr ⟨room, ?_⟩
    simp only [List.forall_mem_append, List.forall_mem_cons] at kept ⊢
    exact ⟨kept.1, ih kept.2.1, kept.2.2⟩
  | element inside ih =>
    obtain ⟨room, kept⟩ := Event.isKeepable_array.mp h
    refine Event.isKeepable_array.mpr ⟨room, ?_⟩
    simp only [List.forall_mem_append, List.forall_mem_cons] at kept ⊢
    exact ⟨kept.1, ih kept.2.1, kept.2.2⟩

/-! ## Known members of changed values -/

/-- The known members of a changed record: each one is as before, or changed itself. -/
def Kept (outer : Nat) (fields : List (String × Shape)) (m m' : Members Json) : Prop :=
  ∀ name s, fields.lookup name = some s → m'.get? name = m.get? name ∨
    ∃ x x', m.get? name = some x ∧ m'.get? name = some x' ∧ Edit (outer + 1) s x x'

theorem Kept.of_lookup {ms ms' : List (String × Json)} (h : ∀ name, ms'.lookup name = ms.lookup name) :
    Kept outer fields ⟨ms⟩ ⟨ms'⟩ := fun name _ _ => .inl (h name)

/-- One member is changed. -/
theorem Kept.replace {before after : List (String × Json)} {name : String}
    (inside : Edit (outer + 1) ((Shape.record fields).member name) x x') :
    Kept outer fields ⟨before ++ (name, x) :: after⟩ ⟨before ++ (name, x') :: after⟩ := by
  intro other s hs
  rw [Members.get?, Members.get?, List.lookup_append, List.lookup_append, List.lookup_cons, List.lookup_cons]
  cases before.lookup other with
  | some v => exact .inl rfl
  | none =>
    by_cases same : other = name
    · rw [Shape.member, Shape.fields, ← same, hs, Option.getD_some] at inside
      simp only [beq_iff_eq.mpr same, Option.none_or]
      exact .inr ⟨x, x', rfl, rfl, inside⟩
    · simp only [beq_eq_false_iff_ne.mpr same, true_or]

/-- The known members of a changed object. -/
theorem Edit.objectMembers? (e : Edit outer (.record fields) x x') (hf : fields.map Prod.fst = names)
    (h : objectMembers? names x = some ms) :
    ∃ ms', objectMembers? names x' = some ms' ∧ Kept outer fields ⟨ms⟩ ⟨ms'⟩ := by
  obtain ⟨all, rfl, rfl, distinct⟩ := objectMembers?_eq_some_iff.mp h
  cases e with
  | permute order =>
    have kept := order.filter fun m => names.contains m.1
    refine ⟨_, objectMembers?_eq_some_iff.mpr ⟨_, rfl, rfl, (kept.map _).nodup_iff.mp distinct⟩, ?_⟩
    exact Kept.of_lookup fun name => lookup_perm distinct kept
  | @insert _ _ before after name y unknown _ =>
    rw [hf] at unknown
    refine ⟨_, objectMembers?_eq_some_iff.mpr ⟨_, rfl, ?_, distinct⟩, Kept.of_lookup fun _ => rfl⟩
    rw [List.filter_append, List.filter_append, List.filter_cons_of_neg (by simpa using unknown)]
  | @member _ _ before after name y y' inside =>
    rw [List.filter_append, List.filter_cons] at distinct ⊢
    by_cases known : names.contains name = true
    · rw [if_pos known] at distinct ⊢
      refine ⟨_, objectMembers?_eq_some_iff.mpr ⟨_, rfl, rfl, ?_⟩, ?_⟩
      · rw [List.filter_append, List.filter_cons, if_pos known]
        simpa using distinct
      · rw [List.filter_append, List.filter_cons, if_pos known]
        exact Kept.replace inside
    · rw [if_neg known] at distinct ⊢
      refine ⟨_, objectMembers?_eq_some_iff.mpr ⟨_, rfl, ?_, distinct⟩, Kept.of_lookup fun _ => rfl⟩
      rw [List.filter_append, List.filter_cons_of_neg (by simpa using known)]

/-- The elements of an array under the names, one of them changed. -/
theorem Edit.zip {before after : List Json} (hf : fields.map Prod.fst = names) (distinct : names.Nodup)
    (short : (before ++ x :: after).length ≤ names.length)
    (inside : Edit (outer + 1) ((Shape.record fields).element before.length) x x') :
    Kept outer fields ⟨names.zip (before ++ x :: after)⟩ ⟨names.zip (before ++ x' :: after)⟩ := by
  subst hf
  simp only [List.length_append, List.length_cons, List.length_map] at short
  have bound : before.length < fields.length := by omega
  -- The field at the place of the element, between those in front of it and those behind it.
  obtain ⟨front, ⟨name, s⟩, back, rfl, length⟩ : ∃ front field back, fields = front ++ field :: back ∧
      front.length = before.length :=
    ⟨fields.take before.length, fields[before.length], fields.drop (before.length + 1), by simp, by simp; omega⟩
  have shape : (Shape.record (front ++ (name, s) :: back)).element before.length =
      (Shape.record (front ++ (name, s) :: back)).member name := by
    have looked : (front ++ (name, s) :: back).lookup name = some s := (lookup_eq_some_iff distinct).mpr (by simp)
    simp [Shape.element, Shape.member, Shape.fields, looked, ← length]
  rw [shape] at inside
  have split (y : Json) : ((front ++ (name, s) :: back).map Prod.fst).zip (before ++ y :: after) =
      (front.map Prod.fst).zip before ++ (name, y) :: (back.map Prod.fst).zip after := by
    rw [List.map_append, List.zip_append (by simpa using length), List.map_cons, List.zip_cons_cons]
  rw [split, split]
  exact Kept.replace inside

/-- The known members of a changed record. -/
theorem Edit.record? (e : Edit outer (.record fields) x x') (hf : fields.map Prod.fst = names) (distinct : names.Nodup)
    {m : Members Json} (h : record? names x = some m) : ∃ m', record? names x' = some m' ∧ Kept outer fields m m' := by
  obtain ⟨ms, read, rfl⟩ := Option.map_eq_some_iff.mp h
  cases x with
  | object all =>
    obtain ⟨ms', read', kept⟩ := e.objectMembers? hf read
    refine ⟨⟨ms'⟩, Option.map_eq_some_iff.mpr ⟨ms', ?_, rfl⟩, kept⟩
    cases e <;> exact read'
  | array xs =>
    cases e with
    | @element _ _ before after y y' inside =>
      simp only [Document.members?, recordMembers?] at read
      split at read
      · rename_i short
        obtain rfl := Option.some.inj read
        refine ⟨_, ?_, Edit.zip hf distinct short inside⟩
        simp only [record?, Document.members?, recordMembers?]
        rw [if_pos (by simpa using short)]
        rfl
      · cases read
  | _ => cases e

end Json

end Blotter
