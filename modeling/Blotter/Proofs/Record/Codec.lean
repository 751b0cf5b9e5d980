import Mathlib
import Blotter.Proofs.Decimal.Text
import Blotter.Proofs.Instant.Text
import Blotter.Proofs.Json.Members
import Blotter.Proofs.Json.Text
import Blotter.Record.Codec

/-!
# Records read back

- What is written for a record is read as the record again (`Record.ofLine?_line`). Decimals keep their scale; only a
  negative zero comes back without its sign (`Record.withPlainZeros`).
- The same holds for an order and a fill on their own (`Order.ofJson?_toJson`, `Fill.ofJson?_toJson`).

Numbers have to fit the words that they are written as (`Record.FitsWords`).
-/

namespace Blotter

open Document

/-! ## Single members -/

namespace Json

theorem text?_string (s : String) : text? (Json.string s) = some s := rfl

theorem decimal?_ofDecimal (d : Decimal) : Document.decimal? (ofDecimal d) = some d.withPlainZero :=
  Decimal.ofText?_text d

theorem instant?_ofInstant (t : Instant) : instant? (ofInstant t) = some t := by
  have read : (Document.text? (ofInstant t) : Option String) = some t.text := rfl
  rw [instant?, read, Option.bind_eq_bind, Option.bind_some, Instant.parse_text]

theorem named?_string {α : Type} {ofName? : String → Option α} {name : String} {a : α} (h : ofName? name = some a) :
    named? ofName? (Json.string name) = some a := by
  rw [named?]
  exact h

theorem word64?_ofNat {n : Nat} (h : n ≤ 18446744073709551615) : word64? (ofNat n) = some n := by
  have : (n : Int) ≤ 18446744073709551615 := by omega
  simp [word64?, Document.integer?, integer?, ofNat, this]

theorem word32?_ofNat {n : Nat} (h : n ≤ 4294967295) : word32? (ofNat n) = some n := by
  have : (n : Int) ≤ 4294967295 := by omega
  simp [word32?, Document.integer?, integer?, ofNat, this]

theorem int32?_ofInt {i : Int} (h : -2147483648 ≤ i) (h' : i ≤ 2147483647) : int32? (ofInt i) = some i := by
  rw [ofInt]
  split
  · have abs : -(i.natAbs : Int) = i := by omega
    simp only [int32?, Document.integer?, integer?, abs]
    simp [h, h']
  · have nat : (i.toNat : Int) = i := by omega
    simp [int32?, Document.integer?, integer?, nat, h, h']

/-- An object whose members are exactly the known ones is taken as it is. -/
theorem objectMembers?_object (names : List String) {ms : List (String × Json)} (h : ms.map Prod.fst = names)
    (hn : names.Nodup) : objectMembers? names (.object ms) = some ms := by
  subst h
  have known : ms.filter (fun m => (ms.map Prod.fst).contains m.1) = ms := by
    rw [List.filter_eq_self]
    intro m hm
    rw [List.contains_iff_mem]
    exact List.mem_map_of_mem hm
  simp only [objectMembers?, known, namesAreDistinct_iff.mpr hn, if_true]

theorem record?_object (names : List String) {ms : List (String × Json)} (h : ms.map Prod.fst = names)
    (hn : names.Nodup) : record? names (Json.object ms) = some ⟨ms⟩ := by
  have read : (Document.members? names (Json.object ms) : Option (List (String × Json))) = some ms :=
    objectMembers?_object names h hn
  rw [record?, read]
  rfl

/-- A decimal that may be missing is read as it was written. -/
theorem optional_ofDecimal (d : Option Decimal) :
    (if Document.isNull (ofOption ofDecimal d) = true then some none
      else (Document.decimal? (ofOption ofDecimal d)).map some) = some (d.map Decimal.withPlainZero) := by
  cases d with
  | none => rfl
  | some d =>
    simp only [ofOption, decimal?_ofDecimal]
    rfl

end Json

namespace Members

variable {α β : Type} {m : Members Json} {name : String} {v : Json} {read : Json → Option α} {a : α} {k : α → Option β}
  {r : β}

theorem required_of_get? (h : m.get? name = some v) : m.required name read = read v := by
  rw [required, h]
  rfl

/-- A member that has to be there is read, and the rest after it. -/
theorem required_bind (h : m.get? name = some v) (hv : read v = some a) (hk : k a = some r) :
    (m.required name read >>= k) = some r := by
  simp only [required, h, Option.bind_eq_bind, Option.bind_some, hv]
  exact hk

/-- A member with a default is read, and the rest after it. -/
theorem orElse_bind {default : α} (h : m.get? name = some v) (hv : read v = some a) (hk : k a = some r) :
    (m.orElse name default read >>= k) = some r := by
  rw [orElse, h]
  simp only [hv]
  exact hk

/-- A decimal that may be missing is read, and the rest after it. -/
theorem optional_bind {d : Option Decimal} {k : Option Decimal → Option β}
    (h : m.get? name = some (Json.ofOption Json.ofDecimal d)) (hk : k (d.map Decimal.withPlainZero) = some r) :
    (m.optional name decimal? >>= k) = some r := by
  rw [optional, h]
  simp only [Json.optional_ofDecimal]
  exact hk

end Members

/-! ## Alternatives -/

theorem Side.ofName?_name (s : Side) : Side.ofName? s.name = some s := by cases s <;> decide

theorem OrderType.ofName?_name (t : OrderType) : OrderType.ofName? t.name = some t := by cases t <;> decide

theorem OrderStatus.ofName?_name (s : OrderStatus) : OrderStatus.ofName? s.name = some s := by cases s <;> decide

theorem RejectSource.ofName?_name (s : RejectSource) : RejectSource.ofName? s.name = some s := by cases s <;> decide

theorem CommandAction.ofName?_name (a : CommandAction) : CommandAction.ofName? a.name = some a := by
  cases a <;> decide

theorem MessageDirection.ofName?_name (d : MessageDirection) : MessageDirection.ofName? d.name = some d := by
  cases d <;> decide

theorem EventKind.ofName?_name (k : EventKind) : EventKind.ofName? k.name = some k := by cases k <;> decide

/-! ## Orders, fills and the like -/

open Members Json

/-- The order with plain zeros. -/
def Order.withPlainZeros (o : Order) : Order := { o with
  quantity := o.quantity.withPlainZero
  limitPrice := o.limitPrice.map Decimal.withPlainZero
  filledQuantity := o.filledQuantity.withPlainZero
  avgFillPrice := o.avgFillPrice.map Decimal.withPlainZero }

theorem Order.ofJson?_toJson (o : Order) : Order.ofJson? o.toJson = some o.withPlainZeros := by
  rw [ofJson?, toJson, record?_object memberNames rfl (by simp [memberNames]), Option.bind_eq_bind, Option.bind_some]
  exact required_bind rfl (text?_string _) <|
    required_bind rfl (text?_string _) <|
    required_bind rfl (text?_string _) <|
    required_bind rfl (text?_string _) <|
    required_bind rfl (named?_string (Side.ofName?_name _)) <|
    required_bind rfl (named?_string (OrderType.ofName?_name _)) <|
    required_bind rfl (decimal?_ofDecimal _) <|
    optional_bind rfl <|
    orElse_bind rfl (decimal?_ofDecimal _) <|
    optional_bind rfl <|
    required_bind rfl (named?_string (OrderStatus.ofName?_name _)) <|
    required_bind rfl (instant?_ofInstant _) rfl

theorem Reject.ofJson?_toJson (r : Reject) : Reject.ofJson? r.toJson = some r := by
  rw [ofJson?, toJson, record?_object memberNames rfl (by simp [memberNames]), Option.bind_eq_bind, Option.bind_some]
  exact required_bind rfl (text?_string _) <|
    required_bind rfl (text?_string _) <|
    required_bind rfl (text?_string _) <|
    required_bind rfl (text?_string _) <|
    required_bind rfl (named?_string (RejectSource.ofName?_name _)) <|
    required_bind rfl (instant?_ofInstant _) rfl

/-- The fill with plain zeros. -/
def Fill.withPlainZeros (f : Fill) : Fill := { f with
  quantity := f.quantity.withPlainZero
  price := f.price.withPlainZero }

theorem Fill.ofJson?_toJson (f : Fill) : Fill.ofJson? f.toJson = some f.withPlainZeros := by
  rw [ofJson?, toJson, record?_object memberNames rfl (by simp [memberNames]), Option.bind_eq_bind, Option.bind_some]
  exact required_bind rfl (text?_string _) <|
    required_bind rfl (text?_string _) <|
    required_bind rfl (text?_string _) <|
    required_bind rfl (text?_string _) <|
    required_bind rfl (text?_string _) <|
    required_bind rfl (named?_string (Side.ofName?_name _)) <|
    required_bind rfl (decimal?_ofDecimal _) <|
    required_bind rfl (decimal?_ofDecimal _) <|
    required_bind rfl (instant?_ofInstant _) rfl

/-- The copied fill with plain zeros. -/
def FillCopy.withPlainZeros (c : FillCopy) : FillCopy := { c with fill := c.fill.withPlainZeros }

theorem FillCopy.ofJson?_toJson (c : FillCopy) : FillCopy.ofJson? c.toJson = some c.withPlainZeros := by
  rw [ofJson?, toJson, record?_object memberNames rfl (by simp [memberNames]), Option.bind_eq_bind, Option.bind_some]
  exact required_bind rfl (Fill.ofJson?_toJson _) <| required_bind rfl (text?_string _) rfl

/-- The command with plain zeros. -/
def Command.withPlainZeros (c : Command) : Command := { c with
  quantity := c.quantity.map Decimal.withPlainZero
  limitPrice := c.limitPrice.map Decimal.withPlainZero }

theorem Command.ofJson?_toJson (c : Command) : Command.ofJson? c.toJson = some c.withPlainZeros := by
  rw [ofJson?, toJson, record?_object memberNames rfl (by simp [memberNames]), Option.bind_eq_bind, Option.bind_some]
  exact required_bind rfl (text?_string _) <|
    required_bind rfl (text?_string _) <|
    required_bind rfl (text?_string _) <|
    required_bind rfl (named?_string (CommandAction.ofName?_name _)) <|
    optional_bind rfl <|
    optional_bind rfl <|
    required_bind rfl (instant?_ofInstant _) rfl

/-- Whether the numbers of a session state fit the words that they are written as. -/
structure SessionState.FitsWords (s : SessionState) : Prop where
  least_le_year : -2147483648 ≤ s.year
  year_le : s.year ≤ 2147483647
  week_le : s.week ≤ 4294967295
  nextSenderSeq_le : s.nextSenderSeq ≤ 18446744073709551615
  nextTargetSeq_le : s.nextTargetSeq ≤ 18446744073709551615

theorem SessionState.ofJson?_toJson {s : SessionState} (h : s.FitsWords) : SessionState.ofJson? s.toJson = some s := by
  rw [ofJson?, toJson, record?_object memberNames rfl (by simp [memberNames]), Option.bind_eq_bind, Option.bind_some]
  exact required_bind rfl (text?_string _) <|
    required_bind rfl (text?_string _) <|
    required_bind rfl (int32?_ofInt h.least_le_year h.year_le) <|
    required_bind rfl (word32?_ofNat h.week_le) <|
    required_bind rfl (word64?_ofNat h.nextSenderSeq_le) <|
    required_bind rfl (word64?_ofNat h.nextTargetSeq_le) <|
    required_bind rfl (instant?_ofInstant _) rfl

theorem SessionMessage.ofJson?_toJson {m : SessionMessage} (h : m.seqNum ≤ 18446744073709551615) :
    SessionMessage.ofJson? m.toJson = some m := by
  rw [ofJson?, toJson, record?_object memberNames rfl (by simp [memberNames]), Option.bind_eq_bind, Option.bind_some]
  exact required_bind rfl (text?_string _) <|
    required_bind rfl (text?_string _) <|
    required_bind rfl (named?_string (MessageDirection.ofName?_name _)) <|
    required_bind rfl (word64?_ofNat h) <|
    required_bind rfl (text?_string _) <|
    required_bind rfl (instant?_ofInstant _) rfl

/-- The profit and loss snapshot with plain zeros. -/
def PnlSnapshot.withPlainZeros (p : PnlSnapshot) : PnlSnapshot := { p with
  position := p.position.withPlainZero
  realizedPnl := p.realizedPnl.withPlainZero
  unrealizedPnl := p.unrealizedPnl.withPlainZero }

theorem PnlSnapshot.ofJson?_toJson (p : PnlSnapshot) : PnlSnapshot.ofJson? p.toJson = some p.withPlainZeros := by
  rw [ofJson?, toJson, record?_object memberNames rfl (by simp [memberNames]), Option.bind_eq_bind, Option.bind_some]
  exact required_bind rfl (text?_string _) <|
    required_bind rfl (text?_string _) <|
    required_bind rfl (text?_string _) <|
    required_bind rfl (decimal?_ofDecimal _) <|
    required_bind rfl (decimal?_ofDecimal _) <|
    required_bind rfl (decimal?_ofDecimal _) <|
    required_bind rfl (instant?_ofInstant _) rfl

/-- Whether the counters fit 64 bits. -/
structure MessagingStats.FitsWords (s : MessagingStats) : Prop where
  sent_le : s.sent ≤ 18446744073709551615
  received_le : s.received ≤ 18446744073709551615
  dropped_le : s.dropped ≤ 18446744073709551615

theorem MessagingStats.ofJson?_toJson {s : MessagingStats} (h : s.FitsWords) :
    MessagingStats.ofJson? s.toJson = some s := by
  rw [ofJson?, toJson, record?_object memberNames rfl (by simp [memberNames]), Option.bind_eq_bind, Option.bind_some]
  exact required_bind rfl (text?_string _) <|
    required_bind rfl (word64?_ofNat h.sent_le) <|
    required_bind rfl (word64?_ofNat h.received_le) <|
    required_bind rfl (word64?_ofNat h.dropped_le) <|
    required_bind rfl (instant?_ofInstant _) rfl

/-! ## Exact values -/

namespace Json

@[simp] theorem isExact_ofDecimal (d : Decimal) : (ofDecimal d).isExact = true := rfl

@[simp] theorem isExact_ofInstant (t : Instant) : (ofInstant t).isExact = true := rfl

@[simp] theorem isExact_ofOption_ofDecimal (d : Option Decimal) : (ofOption ofDecimal d).isExact = true := by
  cases d <;> rfl

theorem isExact_ofNat {n : Nat} (h : n ≤ 18446744073709551615) : (ofNat n).isExact = true := by
  simpa [ofNat, isExact, JsonNumber.isExact] using h

theorem isExact_ofInt {i : Int} (h : -2147483648 ≤ i) (h' : i ≤ 2147483647) : (ofInt i).isExact = true := by
  rw [ofInt]
  split
  · simp only [isExact, JsonNumber.isExact, Bool.and_eq_true, decide_eq_true_eq]
    omega
  · simp only [isExact, JsonNumber.isExact, decide_eq_true_eq]
    omega

@[simp] theorem depth_ofDecimal (d : Decimal) : (ofDecimal d).depth = 0 := rfl

@[simp] theorem depth_ofInstant (t : Instant) : (ofInstant t).depth = 0 := rfl

@[simp] theorem depth_ofNat (n : Nat) : (ofNat n).depth = 0 := rfl

@[simp] theorem depth_ofInt (i : Int) : (ofInt i).depth = 0 := by
  rw [ofInt]
  split <;> rfl

@[simp] theorem depth_ofOption_ofDecimal (d : Option Decimal) : (ofOption ofDecimal d).depth = 0 := by
  cases d <;> rfl

end Json

theorem Order.isExact_toJson (o : Order) : o.toJson.isExact = true := by
  simp [toJson, isExact, membersAreExact]

theorem Fill.isExact_toJson (f : Fill) : f.toJson.isExact = true := by
  simp [toJson, isExact, membersAreExact]

/-! ## Events and records -/

namespace Event

/-- What an event is read from. -/
theorem ofMembers?_eq_some_iff {m : Members Json} {e : Event} : ofMembers? m = some e ↔
    ∃ kind, m.required "kind" (named? EventKind.ofName?) = some kind ∧
      m.required "payload" (ofContent? kind) = some e := by
  rw [ofMembers?, Option.bind_eq_bind, Option.bind_eq_some_iff]

/-- The event with plain zeros. -/
def withPlainZeros : Event → Event
  | .command c => .command c.withPlainZeros
  | .order o => .order o.withPlainZeros
  | .orderReject o r => .orderReject o.withPlainZeros r
  | .fill f => .fill f.withPlainZeros
  | .sessionState s => .sessionState s
  | .sessionMessage m => .sessionMessage m
  | .fillCopy c => .fillCopy c.withPlainZeros
  | .pnlSnapshot p => .pnlSnapshot p.withPlainZeros
  | .messagingStats s => .messagingStats s

/-- Whether the numbers of an event fit the words that they are written as. -/
def FitsWords : Event → Prop
  | .sessionState s => s.FitsWords
  | .sessionMessage m => m.seqNum ≤ 18446744073709551615
  | .messagingStats s => s.FitsWords
  | _ => True

/-- The content of an event is read as the event of its kind. -/
theorem ofContent?_contentJson {e : Event} (h : e.FitsWords) :
    ofContent? e.kind e.contentJson = some e.withPlainZeros := by
  cases e with
  | command c => simp only [ofContent?, kind, contentJson, Command.ofJson?_toJson]; rfl
  | order o => simp only [ofContent?, kind, contentJson, Order.ofJson?_toJson]; rfl
  | orderReject o r =>
    have members : (Json.object [("order", o.toJson), ("reject", r.toJson)]).objectMembers? ["order", "reject"] =
        some [("order", o.toJson), ("reject", r.toJson)] := objectMembers?_object _ rfl (by simp)
    simp only [ofContent?, kind, contentJson, members, Option.bind_eq_bind, Option.bind_some]
    exact required_bind rfl (Order.ofJson?_toJson _) <| required_bind rfl (Reject.ofJson?_toJson _) rfl
  | fill f => simp only [ofContent?, kind, contentJson, Fill.ofJson?_toJson]; rfl
  | sessionState s => simp only [ofContent?, kind, contentJson, SessionState.ofJson?_toJson h]; rfl
  | sessionMessage m => simp only [ofContent?, kind, contentJson, SessionMessage.ofJson?_toJson h]; rfl
  | fillCopy c => simp only [ofContent?, kind, contentJson, FillCopy.ofJson?_toJson]; rfl
  | pnlSnapshot p => simp only [ofContent?, kind, contentJson, PnlSnapshot.ofJson?_toJson]; rfl
  | messagingStats s => simp only [ofContent?, kind, contentJson, MessagingStats.ofJson?_toJson h]; rfl

/-- The content of an event consists of exact values. -/
theorem isExact_contentJson {e : Event} (h : e.FitsWords) : e.contentJson.isExact = true := by
  cases e with
  | command c => simp [contentJson, Command.toJson, isExact, membersAreExact]
  | order o => exact Order.isExact_toJson o
  | orderReject o r =>
    simp [contentJson, Reject.toJson, isExact, membersAreExact, Order.isExact_toJson]
  | fill f => exact Fill.isExact_toJson f
  | sessionState s =>
    simp [contentJson, SessionState.toJson, isExact, membersAreExact, isExact_ofInt h.least_le_year h.year_le,
      isExact_ofNat (h.week_le.trans (by decide)), isExact_ofNat h.nextSenderSeq_le, isExact_ofNat h.nextTargetSeq_le]
  | sessionMessage m => simp [contentJson, SessionMessage.toJson, isExact, membersAreExact, isExact_ofNat h]
  | fillCopy c => simp [contentJson, FillCopy.toJson, isExact, membersAreExact, Fill.isExact_toJson]
  | pnlSnapshot p => simp [contentJson, PnlSnapshot.toJson, isExact, membersAreExact]
  | messagingStats s =>
    simp [contentJson, MessagingStats.toJson, isExact, membersAreExact, isExact_ofNat h.sent_le,
      isExact_ofNat h.received_le, isExact_ofNat h.dropped_le]

/-- The content of an event is three objects deep at most. -/
theorem depth_contentJson (e : Event) : e.contentJson.depth ≤ 3 := by
  cases e <;>
    simp [contentJson, Command.toJson, Order.toJson, Reject.toJson, Fill.toJson, SessionState.toJson,
      SessionMessage.toJson, FillCopy.toJson, PnlSnapshot.toJson, MessagingStats.toJson, depth, depthOfMembers]

end Event

namespace Record

/-- What a record is read from. -/
theorem ofJson?_eq_some_iff {v : Json} {r : Record} : ofJson? v = some r ↔
    Event.isKeepable 0 v = true ∧ ∃ ms, v.objectMembers? memberNames = some ms ∧
      (Members.mk ms).required "seq" word64? = some r.seq ∧
      (Members.mk ms).required "recorded_at" instant? = some r.recordedAt ∧
      (Members.mk ms).orElse "send_to_bus" false Document.bool? = some r.toBus ∧
      Event.ofMembers? ⟨ms⟩ = some r.event := by
  rw [ofJson?]
  cases Event.isKeepable 0 v with
  | false => simp
  | true =>
    simp only [Bool.not_true, Bool.false_eq_true, if_false, Option.bind_eq_bind, Option.bind_eq_some_iff, true_and]
    refine exists_congr fun ms => and_congr_right fun _ => ?_
    constructor
    · rintro ⟨_, hseq, _, hrecorded, _, hbus, _, hevent, ⟨⟩⟩
      exact ⟨hseq, hrecorded, hbus, hevent⟩
    · rintro ⟨hseq, hrecorded, hbus, hevent⟩
      exact ⟨_, hseq, _, hrecorded, _, hbus, _, hevent, rfl⟩

/-- The record with plain zeros. -/
def withPlainZeros (r : Record) : Record := { r with event := r.event.withPlainZeros }

/-- Whether the numbers of a record fit the words that they are written as. -/
structure FitsWords (r : Record) : Prop where
  seq_le : r.seq ≤ 18446744073709551615
  event_fitsWords : r.event.FitsWords

theorem isExact_toJson {r : Record} (h : r.FitsWords) : r.toJson.isExact = true := by
  simp [toJson, Event.members, isExact, membersAreExact, isExact_ofNat h.seq_le,
    Event.isExact_contentJson h.event_fitsWords]

theorem isKeepable_toJson {r : Record} (h : r.FitsWords) : Event.isKeepable 0 r.toJson = true := by
  have usable := isUsable_of_isExact (isExact_toJson h)
  have depth : r.toJson.depth ≤ 4 := by
    have := Event.depth_contentJson r.event
    simp [toJson, Event.members, depth, depthOfMembers]
    omega
  rw [Event.isKeepable, usable, Bool.true_and, decide_eq_true_eq, Event.nestingLimit]
  omega

theorem ofJson?_toJson {r : Record} (h : r.FitsWords) : ofJson? r.toJson = some r.withPlainZeros := by
  refine ofJson?_eq_some_iff.mpr ⟨isKeepable_toJson h, _, objectMembers?_object memberNames rfl (by simp [memberNames]),
    (required_of_get? rfl).trans (word64?_ofNat h.seq_le), (required_of_get? rfl).trans (instant?_ofInstant _), rfl, ?_⟩
  exact Event.ofMembers?_eq_some_iff.mpr ⟨_, (required_of_get? rfl).trans (named?_string (EventKind.ofName?_name _)),
    (required_of_get? rfl).trans (Event.ofContent?_contentJson h.event_fitsWords)⟩

/-- The line of a record is read as the record. -/
theorem ofLine?_line {r : Record} (h : r.FitsWords) : ofLine? r.line = some r.withPlainZeros := by
  rw [ofLine?, line, parse_text (isExact_toJson h)]
  exact ofJson?_toJson h

end Record

end Blotter
