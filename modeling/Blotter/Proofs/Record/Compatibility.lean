import Mathlib
import Blotter.Proofs.Record.Codec
import Blotter.Proofs.Record.Edits

/-!
# Lines of a later version

A line of the journal is read as the same record after any number of changes that a later version may make
(`Record.ofLine?_edited`): members in another order, and members of unknown names in the record, in its content and in
the order, reject or fill inside of the content.

A reader survives the changes of a shape if it reads a changed value as the old one (`Survives`). The readers of single
values do because an object or an array is nothing that they read; a record does because its members do.
-/

namespace Blotter

open Document

namespace Json

variable {α β : Type} {outer : Nat} {s : Shape} {fields : List (String × Shape)} {names : List String}
  {m m' : Members Json} {name : String} {x x' : Json}

/-- A reading that has the result of another one, if that has one. -/
def Follows (c c' : Option α) : Prop := ∀ a, c = some a → c' = some a

theorem Follows.refl (c : Option α) : Follows c c := fun _ h => h

theorem Follows.bind {c c' : Option α} {k k' : α → Option β} (h : Follows c c') (hk : ∀ a, Follows (k a) (k' a)) :
    Follows (c >>= k) (c' >>= k') := by
  intro b read
  obtain ⟨a, ha, hb⟩ := Option.bind_eq_some_iff.mp read
  exact Option.bind_eq_some_iff.mpr ⟨a, h a ha, hk a b hb⟩

theorem Follows.map {c c' : Option α} (h : Follows c c') (f : α → β) : Follows (c.map f) (c'.map f) := by
  intro b read
  obtain ⟨a, ha, hb⟩ := Option.map_eq_some_iff.mp read
  exact Option.map_eq_some_iff.mpr ⟨a, h a ha, hb⟩

/-- A reader that reads a changed value as the old one. -/
def Survives (outer : Nat) (s : Shape) (read : Json → Option α) : Prop :=
  ∀ x x', Edit outer s x x' → Follows (read x) (read x')

theorem Survives.map {read : Json → Option α} (h : Survives outer s read) (f : α → β) :
    Survives outer s fun x => (read x).map f := fun x x' e => (h x x' e).map f

/-! ## Single values -/

/-- A reader that reads no object and no array. -/
theorem survives_of_scalar {read : Json → Option α} (object : ∀ ms, read (.object ms) = none)
    (array : ∀ xs, read (.array xs) = none) : Survives outer s read := by
  intro x x' e a h
  cases e <;> simp only [object, array] at h <;> cases h

theorem survives_text? : Survives outer s (Document.text? : Json → Option String) :=
  survives_of_scalar (fun _ => rfl) fun _ => rfl

theorem survives_bool? : Survives outer s (Document.bool? : Json → Option Bool) :=
  survives_of_scalar (fun _ => rfl) fun _ => rfl

theorem survives_decimal? : Survives outer s (Document.decimal? : Json → Option Decimal) :=
  survives_of_scalar (fun _ => rfl) fun _ => rfl

theorem survives_instant? : Survives outer s (instant? : Json → Option Instant) :=
  survives_of_scalar (fun _ => rfl) fun _ => rfl

theorem survives_word64? : Survives outer s (word64? : Json → Option Nat) :=
  survives_of_scalar (fun _ => rfl) fun _ => rfl

theorem survives_word32? : Survives outer s (word32? : Json → Option Nat) :=
  survives_of_scalar (fun _ => rfl) fun _ => rfl

theorem survives_int32? : Survives outer s (int32? : Json → Option Int) :=
  survives_of_scalar (fun _ => rfl) fun _ => rfl

/-- An object that is the name of an alternative. -/
theorem eq_of_variant?_object {ms : List (String × Json)} (h : Json.variant? (.object ms) = some name) :
    ms = [(name, .null)] := by
  rw [Json.variant?.eq_def] at h
  split at h
  · rename_i no
    cases no
  · rename_i same
    rw [Json.object.inj same, Option.some.inj h]
  · cases h

/-- Such an object has no room for a change. -/
theorem survives_variant? : Survives outer .value (Document.variant? : Json → Option String) := by
  intro x x' e a h
  cases e with
  | permute order =>
    rw [eq_of_variant?_object h] at order
    rw [List.perm_singleton.mp order.symm]
    rfl
  | @member _ _ before after name y y' inside =>
    have single := eq_of_variant?_object h
    have null : (name, y) = (a, .null) := List.mem_singleton.mp (single ▸ (by simp))
    rw [(Prod.mk.inj null).2] at inside
    cases inside
  | element inside => cases h

theorem survives_named? (ofName? : String → Option α) : Survives outer .value (named? ofName? : Json → Option α) :=
  fun x x' e => (survives_variant? x x' e).bind fun _ => Follows.refl _

/-! ## Members -/

namespace Kept

theorem required (kept : Kept outer fields m m') (known : fields.lookup name = some s) {read : Json → Option α}
    (h : Survives (outer + 1) s read) : Follows (m.required name read) (m'.required name read) := by
  rw [Members.required, Members.required]
  rcases kept name s known with same | ⟨x, x', old, new, e⟩
  · rw [same]
    exact Follows.refl _
  · rw [old, new]
    exact h x x' e

theorem optional (kept : Kept outer fields m m') (known : fields.lookup name = some s) {read : Json → Option α}
    (h : Survives (outer + 1) s read) : Follows (m.optional name read) (m'.optional name read) := by
  rw [Members.optional, Members.optional]
  rcases kept name s known with same | ⟨x, x', old, new, e⟩
  · rw [same]
    exact Follows.refl _
  · have there : Document.isNull x = false ∧ Document.isNull x' = false := by cases e <;> exact ⟨rfl, rfl⟩
    simp only [old, new, there, Bool.false_eq_true, if_false]
    exact (h x x' e).map some

theorem orElse (kept : Kept outer fields m m') (known : fields.lookup name = some s) {read : Json → Option α}
    (h : Survives (outer + 1) s read) (default : α) :
    Follows (m.orElse name default read) (m'.orElse name default read) := by
  rw [Members.orElse, Members.orElse]
  rcases kept name s known with same | ⟨x, x', old, new, e⟩
  · rw [same]
    exact Follows.refl _
  · simp only [old, new]
    exact h x x' e

end Kept

/-- The members of an object are read one by one. -/
theorem survives_objectMembers? {fields : List (String × Shape)} (hf : fields.map Prod.fst = names)
    {k : List (String × Json) → Option α} (hk : ∀ ms ms', Kept outer fields ⟨ms⟩ ⟨ms'⟩ → Follows (k ms) (k ms')) :
    Survives outer (.record fields) fun x => x.objectMembers? names >>= k := by
  intro x x' e a h
  obtain ⟨ms, hm, ha⟩ := Option.bind_eq_some_iff.mp h
  obtain ⟨ms', hm', kept⟩ := e.objectMembers? hf hm
  exact Option.bind_eq_some_iff.mpr ⟨ms', hm', hk ms ms' kept a ha⟩

/-- So are those of a record, which may be an array. -/
theorem survives_record? {fields : List (String × Shape)} (hf : fields.map Prod.fst = names) (distinct : names.Nodup)
    {k : Members Json → Option α} (hk : ∀ m m', Kept outer fields m m' → Follows (k m) (k m')) :
    Survives outer (.record fields) fun x => record? names x >>= k := by
  intro x x' e a h
  obtain ⟨m, hm, ha⟩ := Option.bind_eq_some_iff.mp h
  obtain ⟨m', hm', kept⟩ := e.record? hf distinct hm
  exact Option.bind_eq_some_iff.mpr ⟨m', hm', hk m m' kept a ha⟩

end Json

open Json

variable {outer : Nat} {x x' : Json}

/-! ## Orders, fills and the like -/

/-- What a reader of an order knows. -/
def Order.shape : Shape := .flat memberNames

theorem Order.survives_ofJson? : Survives outer shape ofJson? :=
  survives_record? rfl (by simp [memberNames]) fun _ _ kept =>
    (kept.required rfl survives_text?).bind fun _ =>
    (kept.required rfl survives_text?).bind fun _ =>
    (kept.required rfl survives_text?).bind fun _ =>
    (kept.required rfl survives_text?).bind fun _ =>
    (kept.required rfl (survives_named? _)).bind fun _ =>
    (kept.required rfl (survives_named? _)).bind fun _ =>
    (kept.required rfl survives_decimal?).bind fun _ =>
    (kept.optional rfl survives_decimal?).bind fun _ =>
    (kept.orElse rfl survives_decimal? _).bind fun _ =>
    (kept.optional rfl survives_decimal?).bind fun _ =>
    (kept.required rfl (survives_named? _)).bind fun _ =>
    (kept.required rfl survives_instant?).bind fun _ => Follows.refl _

/-- What a reader of a reject knows. -/
def Reject.shape : Shape := .flat memberNames

theorem Reject.survives_ofJson? : Survives outer shape ofJson? :=
  survives_record? rfl (by simp [memberNames]) fun _ _ kept =>
    (kept.required rfl survives_text?).bind fun _ =>
    (kept.required rfl survives_text?).bind fun _ =>
    (kept.required rfl survives_text?).bind fun _ =>
    (kept.required rfl survives_text?).bind fun _ =>
    (kept.required rfl (survives_named? _)).bind fun _ =>
    (kept.required rfl survives_instant?).bind fun _ => Follows.refl _

/-- What a reader of a fill knows. -/
def Fill.shape : Shape := .flat memberNames

theorem Fill.survives_ofJson? : Survives outer shape ofJson? :=
  survives_record? rfl (by simp [memberNames]) fun _ _ kept =>
    (kept.required rfl survives_text?).bind fun _ =>
    (kept.required rfl survives_text?).bind fun _ =>
    (kept.required rfl survives_text?).bind fun _ =>
    (kept.required rfl survives_text?).bind fun _ =>
    (kept.required rfl survives_text?).bind fun _ =>
    (kept.required rfl (survives_named? _)).bind fun _ =>
    (kept.required rfl survives_decimal?).bind fun _ =>
    (kept.required rfl survives_decimal?).bind fun _ =>
    (kept.required rfl survives_instant?).bind fun _ => Follows.refl _

/-- What a reader of a copied fill knows. -/
def FillCopy.shape : Shape := .record [("fill", Fill.shape), ("source", .value)]

theorem FillCopy.survives_ofJson? : Survives outer shape ofJson? :=
  survives_record? rfl (by simp) fun _ _ kept =>
    (kept.required rfl Fill.survives_ofJson?).bind fun _ =>
    (kept.required rfl survives_text?).bind fun _ => Follows.refl _

/-- What a reader of a command knows. -/
def Command.shape : Shape := .flat memberNames

theorem Command.survives_ofJson? : Survives outer shape ofJson? :=
  survives_record? rfl (by simp [memberNames]) fun _ _ kept =>
    (kept.required rfl survives_text?).bind fun _ =>
    (kept.required rfl survives_text?).bind fun _ =>
    (kept.required rfl survives_text?).bind fun _ =>
    (kept.required rfl (survives_named? _)).bind fun _ =>
    (kept.optional rfl survives_decimal?).bind fun _ =>
    (kept.optional rfl survives_decimal?).bind fun _ =>
    (kept.required rfl survives_instant?).bind fun _ => Follows.refl _

/-- What a reader of a session state knows. -/
def SessionState.shape : Shape := .flat memberNames

theorem SessionState.survives_ofJson? : Survives outer shape ofJson? :=
  survives_record? rfl (by simp [memberNames]) fun _ _ kept =>
    (kept.required rfl survives_text?).bind fun _ =>
    (kept.required rfl survives_text?).bind fun _ =>
    (kept.required rfl survives_int32?).bind fun _ =>
    (kept.required rfl survives_word32?).bind fun _ =>
    (kept.required rfl survives_word64?).bind fun _ =>
    (kept.required rfl survives_word64?).bind fun _ =>
    (kept.required rfl survives_instant?).bind fun _ => Follows.refl _

/-- What a reader of a session message knows. -/
def SessionMessage.shape : Shape := .flat memberNames

theorem SessionMessage.survives_ofJson? : Survives outer shape ofJson? :=
  survives_record? rfl (by simp [memberNames]) fun _ _ kept =>
    (kept.required rfl survives_text?).bind fun _ =>
    (kept.required rfl survives_text?).bind fun _ =>
    (kept.required rfl (survives_named? _)).bind fun _ =>
    (kept.required rfl survives_word64?).bind fun _ =>
    (kept.required rfl survives_text?).bind fun _ =>
    (kept.required rfl survives_instant?).bind fun _ => Follows.refl _

/-- What a reader of a profit and loss snapshot knows. -/
def PnlSnapshot.shape : Shape := .flat memberNames

theorem PnlSnapshot.survives_ofJson? : Survives outer shape ofJson? :=
  survives_record? rfl (by simp [memberNames]) fun _ _ kept =>
    (kept.required rfl survives_text?).bind fun _ =>
    (kept.required rfl survives_text?).bind fun _ =>
    (kept.required rfl survives_text?).bind fun _ =>
    (kept.required rfl survives_decimal?).bind fun _ =>
    (kept.required rfl survives_decimal?).bind fun _ =>
    (kept.required rfl survives_decimal?).bind fun _ =>
    (kept.required rfl survives_instant?).bind fun _ => Follows.refl _

/-- What a reader of messaging counters knows. -/
def MessagingStats.shape : Shape := .flat memberNames

theorem MessagingStats.survives_ofJson? : Survives outer shape ofJson? :=
  survives_record? rfl (by simp [memberNames]) fun _ _ kept =>
    (kept.required rfl survives_text?).bind fun _ =>
    (kept.required rfl survives_word64?).bind fun _ =>
    (kept.required rfl survives_word64?).bind fun _ =>
    (kept.required rfl survives_word64?).bind fun _ =>
    (kept.required rfl survives_instant?).bind fun _ => Follows.refl _

/-! ## Events and records -/

/-- What a reader of the content of an event knows. -/
def EventKind.shape : EventKind → Shape
  | .command => Command.shape
  | .order => Order.shape
  | .orderReject => .record [("order", Order.shape), ("reject", Reject.shape)]
  | .fill => Fill.shape
  | .sessionState => SessionState.shape
  | .sessionMessage => SessionMessage.shape
  | .fillCopy => FillCopy.shape
  | .pnlSnapshot => PnlSnapshot.shape
  | .messagingStats => MessagingStats.shape

theorem Event.survives_ofContent? (kind : EventKind) : Survives outer kind.shape (ofContent? kind) := by
  cases kind with
  | command => exact Command.survives_ofJson?.map _
  | order => exact Order.survives_ofJson?.map _
  | orderReject =>
    exact survives_objectMembers? rfl fun _ _ kept =>
      (kept.required rfl Order.survives_ofJson?).bind fun _ =>
      (kept.required rfl Reject.survives_ofJson?).bind fun _ => Follows.refl _
  | fill => exact Fill.survives_ofJson?.map _
  | sessionState => exact SessionState.survives_ofJson?.map _
  | sessionMessage => exact SessionMessage.survives_ofJson?.map _
  | fillCopy => exact FillCopy.survives_ofJson?.map _
  | pnlSnapshot => exact PnlSnapshot.survives_ofJson?.map _
  | messagingStats => exact MessagingStats.survives_ofJson?.map _

/-- The content of an event is read as an event of its kind. -/
theorem Event.kind_of_ofContent? {kind : EventKind} {e : Event} (h : ofContent? kind x = some e) : e.kind = kind := by
  cases kind with
  | orderReject =>
    obtain ⟨_, -, h⟩ := Option.bind_eq_some_iff.mp h
    obtain ⟨_, -, h⟩ := Option.bind_eq_some_iff.mp h
    obtain ⟨_, -, h⟩ := Option.bind_eq_some_iff.mp h
    obtain rfl := Option.some.inj h
    rfl
  | _ =>
    obtain ⟨_, -, rfl⟩ := Option.map_eq_some_iff.mp h
    rfl

namespace Record

/-- What a reader of a record with an event of the given kind knows. -/
def shape (kind : EventKind) : Shape := .record
  [("seq", .value), ("recorded_at", .value), ("send_to_bus", .value), ("kind", .value), ("payload", kind.shape)]

/-- One change to the value of a record. -/
theorem ofJson?_edit {r : Record} (e : Edit 0 (shape r.event.kind) x x') (h : ofJson? x = some r) :
    ofJson? x' = some r := by
  obtain ⟨keepable, ms, known, seq, recordedAt, toBus, event⟩ := ofJson?_eq_some_iff.mp h
  obtain ⟨kind, named, content⟩ := Event.ofMembers?_eq_some_iff.mp event
  obtain ⟨payload, there, read⟩ := Option.bind_eq_some_iff.mp content
  obtain rfl : r.event.kind = kind := Event.kind_of_ofContent? read
  obtain ⟨ms', known', kept⟩ := e.objectMembers? rfl known
  refine ofJson?_eq_some_iff.mpr ⟨e.isKeepable keepable, ms', known', kept.required rfl survives_word64? _ seq,
    kept.required rfl survives_instant? _ recordedAt, kept.orElse rfl survives_bool? _ _ toBus, ?_⟩
  exact Event.ofMembers?_eq_some_iff.mpr ⟨_, kept.required rfl (survives_named? _) _ named,
    kept.required rfl (Event.survives_ofContent? _) _ content⟩

theorem ofJson?_edits {r : Record} (edits : Relation.ReflTransGen (Edit 0 (shape r.event.kind)) x x')
    (h : ofJson? x = some r) : ofJson? x' = some r := by
  induction edits with
  | refl => exact h
  | tail _ edit ih => exact ofJson?_edit edit ih

/-- A line is read as the same record after any number of changes. -/
theorem ofLine?_edited {line line' : String} {r : Record} {v v' : Json} (h : ofLine? line = some r)
    (parsed : Json.parse line = some v) (parsed' : Json.parse line' = some v')
    (edits : Relation.ReflTransGen (Edit 0 (shape r.event.kind)) v v') : ofLine? line' = some r := by
  rw [ofLine?, parsed] at h
  rw [ofLine?, parsed']
  exact ofJson?_edits edits h

/-- One unit. -/
def exampleUnit : Decimal := ⟨false, 1, 0, Decimal.one_lt_limit, Decimal.zero_le_maxScale⟩

/-- A copied fill. -/
def exampleCopy : Record := ⟨7, .epoch, true,
  .fillCopy ⟨⟨⟨"e"⟩, ⟨"o"⟩, ⟨"a"⟩, ⟨"s"⟩, ⟨"i"⟩, .buy, exampleUnit, exampleUnit, .epoch⟩, "drop"⟩⟩

/-- The members of its fill. -/
def exampleFill : List (String × Json) := [
  ("exec_id", .string "e"), ("order_id", .string "o"), ("account", .string "a"), ("strategy_id", .string "s"),
  ("instrument", .string "i"), ("side", .string Side.buy.name), ("quantity", .ofDecimal exampleUnit),
  ("price", .ofDecimal exampleUnit), ("executed_at", .ofInstant .epoch)]

/-- The members of the record in front of the content. -/
def exampleFront : List (String × Json) := [
  ("seq", .ofNat 7), ("recorded_at", .ofInstant .epoch), ("send_to_bus", .bool true),
  ("kind", .string "fill_drop_copy")]

/-- The content from a later version, with the source in front of the fill and new members in both objects. -/
def laterContent : Json := .object [
  ("source", .string "drop"), ("fees", .array [.null, .object []]),
  ("fill", .object (("venue", .string "x") :: exampleFill))]

/-- The record from a later version, with the content in front and a new member. -/
def exampleLater : Json := .object (("payload", laterContent) :: ("schema", .ofNat 2) :: exampleFront)

theorem edits_laterContent : Relation.ReflTransGen (Edit 1 FillCopy.shape)
    (.object [("fill", .object exampleFill), ("source", .string "drop")]) laterContent := by
  have order : Edit 1 FillCopy.shape (.object [("fill", .object exampleFill), ("source", .string "drop")])
      (.object [("source", .string "drop"), ("fill", .object exampleFill)]) := .permute (.swap _ _ _)
  have fees : Edit 1 FillCopy.shape (.object [("source", .string "drop"), ("fill", .object exampleFill)])
      (.object [("source", .string "drop"), ("fees", .array [.null, .object []]), ("fill", .object exampleFill)]) :=
    @Edit.insert _ _ [_] [_] _ _ (by decide) (by decide)
  have venue : Edit 2 Fill.shape (.object exampleFill) (.object (("venue", .string "x") :: exampleFill)) :=
    @Edit.insert _ _ [] _ _ _ (by decide) (by decide)
  exact .tail (.tail (.single order) fees) (@Edit.member _ _ [_, _] [] "fill" _ _ venue)

theorem edits_exampleLater : Relation.ReflTransGen (Edit 0 (shape .fillCopy)) exampleCopy.toJson exampleLater := by
  have content := edits_laterContent.lift (fun content => Json.object (exampleFront ++ [("payload", content)]))
    fun _ _ e => @Edit.member 0 (shape .fillCopy) exampleFront [] "payload" _ _ e
  have order : Edit 0 (shape .fillCopy) (.object (exampleFront ++ [("payload", laterContent)]))
      (.object (("payload", laterContent) :: exampleFront)) := .permute List.perm_append_comm
  have schema : Edit 0 (shape .fillCopy) (.object (("payload", laterContent) :: exampleFront)) exampleLater :=
    @Edit.insert _ _ [_] _ _ _ (by decide) (by decide)
  exact (content.tail order).tail schema

theorem ofLine?_edited_exampleLater : ofLine? exampleCopy.line = some exampleCopy ∧
    ofLine? exampleLater.text = some exampleCopy := by
  have fits : exampleCopy.FitsWords := ⟨by decide, trivial⟩
  have read : ofLine? exampleCopy.line = some exampleCopy := (ofLine?_line fits).trans (by rfl)
  exact ⟨read, ofLine?_edited read (parse_text (isExact_toJson fits)) (parse_text (by decide)) edits_exampleLater⟩

end Record

end Blotter
