import Fexma.Matcher.Codec

/-! The grammar of version 2 payloads (`WAL_PAYLOAD_FORMAT.md`) against what the decoders
accept. The document gives bodies to three commands and three events that the payload types
have no fields for. -/
namespace Fexma

open ByteLayout

/-- What a field may hold. -/
inductive FieldRule where
  | any
  | exactly (value : ℕ)
  | atMost (value : ℕ)
  deriving DecidableEq, Repr

def FieldRule.Allows : FieldRule → ℕ → Prop
  | any, _ => True
  | exactly value, field => field = value
  | atMost value, field => field ≤ value

/-- Consecutive fields: widths and rules. -/
abbrev Layout := List (ℕ × FieldRule)

structure Layout.Describes (layout : Layout) (bytes : List UInt8) : Prop where
  length : (layout.map Prod.fst).sum = bytes.length
  fields : List.Forall₂ FieldRule.Allows (layout.map Prod.snd)
    (fields bytes 0 (layout.map Prod.fst))

def zero (width : ℕ) : ℕ × FieldRule := (width, .exactly 0)

def u64 : ℕ × FieldRule := (8, .any)

def u32 : ℕ × FieldRule := (4, .any)

/-- `client_id`, `CommandType` and seven reserved bytes. -/
def commandHeaderLayout (tag : ℕ) : Layout := [u64, (1, .exactly tag), zero 7]

/-- The bodies of the documented commands, by tag. -/
def documentedCommandBodies : List (ℕ × Layout) :=
  [(1, [u64, u64, (1, .atMost 1), zero 3, u32, u32, zero 4]),
    (2, [u64, u64, zero 16]),
    (3, [u64, u64, zero 16]),
    (4, [zero 32]),
    (5, [u64, u64, u64, u64]),
    (6, [u64, zero 24])]

/-- `client_id`, `caused_by_command_sequence`, `index_in_command`, `is_last_for_command`,
`EventType` and two reserved bytes. -/
def eventHeaderLayout (tag : ℕ) : Layout :=
  [u64, u64, u32, (1, .atMost 1), (1, .exactly tag), zero 2]

/-- The bodies of the documented events, by tag. -/
def documentedEventBodies : List (ℕ × Layout) :=
  [(1, [u64, zero 32]),
    (2, [u64, (1, .atMost 3), zero 31]),
    (3, [u64, u64, u64, u64, u32, u32]),
    (4, [u64, u64, (1, .atMost 1), zero 3, u32, u32, zero 12]),
    (5, [u64, zero 32]),
    (6, [u64, u64, zero 24]),
    (7, [u64, u64, zero 24]),
    (8, [zero 40]),
    (9, [(1, .atMost 10), zero 7, u64, u64, zero 16]),
    (10, [u64, u64, u64, u64, zero 8]),
    (11, [u64, zero 32])]

/-- The bytes are a header and the body of its tag. -/
def Conforms (header : ℕ → Layout) (bodies : List (ℕ × Layout)) (bytes : List UInt8) : Prop :=
  ∃ entry ∈ bodies, Layout.Describes (header entry.1 ++ entry.2) bytes

/-- The bodies with zeros for some of the tags. -/
def withZeroBodies (width : ℕ) (tags : List ℕ) (bodies : List (ℕ × Layout)) : List (ℕ × Layout) :=
  bodies.map fun entry => if entry.1 ∈ tags then (entry.1, [zero width]) else entry

/-- `SaveSnapshot`, `StartReplay` and `StopReplay` have nothing in their bodies. -/
def commandBodies : List (ℕ × Layout) := withZeroBodies 32 [2, 5, 6] documentedCommandBodies

def eventBodies : List (ℕ × Layout) := withZeroBodies 40 [6, 10, 11] documentedEventBodies

section Fields
variable {bytes : List UInt8} {offset : ℕ}

theorem readU64_toNat (inside : offset + 8 ≤ bytes.length) :
    (readU64 bytes offset).toNat = get bytes offset 8 := by
  rw [readU64, UInt64.toNat_ofNat']
  exact Nat.mod_eq_of_lt (get_lt inside)

theorem readU32_toNat (inside : offset + 4 ≤ bytes.length) :
    (readU32 bytes offset).toNat = get bytes offset 4 := by
  rw [readU32, UInt32.toNat_ofNat']
  exact Nat.mod_eq_of_lt (get_lt inside)

theorem readByte_toNat (inside : offset + 1 ≤ bytes.length) :
    (readByte bytes offset).toNat = get bytes offset 1 := by
  rw [readByte, UInt8.toNat_ofNat']
  exact Nat.mod_eq_of_lt (get_lt inside)

end Fields

/-- Bytes that hold a table are described by a layout of its widths that allows its numbers. -/
theorem Layout.describes_of_holds {table : List (ℕ × ℕ)} {size : ℕ} {bytes : List UInt8}
    {layout : Layout} (holds : Holds table size bytes) (full : (table.map Prod.fst).sum = size)
    (widths : layout.map Prod.fst = table.map Prod.fst)
    (allowed : List.Forall₂ FieldRule.Allows (layout.map Prod.snd) (table.map Prod.snd)) :
    layout.Describes bytes := by
  refine ⟨?_, ?_⟩
  · rw [widths, full, holds.length]
  · rw [widths, holds.fields]
    exact allowed

section Commands
variable {bytes : List UInt8}

/-- Every persisted command has a layout. -/
theorem command_conforms {payload : RawCommandWalPayload} (persisted : payload.message.persistedV2)
    (holds : Holds payload.table 48 bytes) : Conforms commandHeaderLayout commandBodies bytes := by
  have full := payload.table_sum
  obtain ⟨clientId, message⟩ := payload
  cases message with
  | newLimit order =>
    have side : order.side.toNat ≤ 1 := by
      simpa [RawCommand.persistedV2, RawCommand.persisted, RawCommand.type, validSide,
        UInt8.le_iff_toNat_le] using persisted
    refine ⟨(1, [u64, u64, (1, .atMost 1), zero 3, u32, u32, zero 4]), by decide,
      Layout.describes_of_holds holds full rfl ?_⟩
    simpa [commandHeaderLayout, u64, u32, zero, FieldRule.Allows, RawCommandWalPayload.table,
      RawCommand.body, RawCommand.type] using side
  | saveSnapshot =>
    refine ⟨(2, [zero 32]), by decide, Layout.describes_of_holds holds full rfl ?_⟩
    simp [commandHeaderLayout, u64, zero, FieldRule.Allows, RawCommandWalPayload.table,
      RawCommand.body, RawCommand.type]
  | loadSnapshot command =>
    refine ⟨(3, [u64, u64, zero 16]), by decide, Layout.describes_of_holds holds full rfl ?_⟩
    simp [commandHeaderLayout, u64, zero, FieldRule.Allows, RawCommandWalPayload.table,
      RawCommand.body, RawCommand.type]
  | shutdown =>
    refine ⟨(4, [zero 32]), by decide, Layout.describes_of_holds holds full rfl ?_⟩
    simp [commandHeaderLayout, u64, zero, FieldRule.Allows, RawCommandWalPayload.table,
      RawCommand.body, RawCommand.type]
  | startReplay =>
    refine ⟨(5, [zero 32]), by decide, Layout.describes_of_holds holds full rfl ?_⟩
    simp [commandHeaderLayout, u64, zero, FieldRule.Allows, RawCommandWalPayload.table,
      RawCommand.body, RawCommand.type]
  | stopReplay =>
    refine ⟨(6, [zero 32]), by decide, Layout.describes_of_holds holds full rfl ?_⟩
    simp [commandHeaderLayout, u64, zero, FieldRule.Allows, RawCommandWalPayload.table,
      RawCommand.body, RawCommand.type]
  | none => cases persisted
  | unknown tag outside =>
    have known : tag = 5 ∨ tag = 6 := by
      simp only [RawCommand.persistedV2, RawCommand.persisted, RawCommand.type, Bool.false_or,
        Bool.or_eq_true] at persisted
      exact persisted.imp of_decide_eq_true of_decide_eq_true
    rcases known with rfl | rfl
    · exact absurd outside (by decide)
    · exact absurd outside (by decide)

/-- Every layout is the table of a persisted command. -/
theorem exists_command (sized : bytes.length = 48)
    (conforms : Conforms commandHeaderLayout commandBodies bytes) :
    ∃ payload : RawCommandWalPayload, payload.message.persistedV2 ∧ Holds payload.table 48 bytes := by
  obtain ⟨⟨tag, body⟩, listed, -, allowed⟩ := conforms
  have u64_at {offset : ℕ} (inside : offset + 8 ≤ 48) :
      (readU64 bytes offset).toNat = get bytes offset 8 := readU64_toNat (by omega)
  have u32_at {offset : ℕ} (inside : offset + 4 ≤ 48) :
      (readU32 bytes offset).toNat = get bytes offset 4 := readU32_toNat (by omega)
  have bodies : (tag, body) ∈ [(1, [u64, u64, (1, .atMost 1), zero 3, u32, u32, zero 4]),
      (2, [zero 32]), (3, [u64, u64, zero 16]), (4, [zero 32]), (5, [zero 32]), (6, [zero 32])] := listed
  simp only [List.mem_cons, List.not_mem_nil, or_false, Prod.mk.injEq] at bodies
  rcases bodies with ⟨rfl, rfl⟩ | ⟨rfl, rfl⟩ | ⟨rfl, rfl⟩ | ⟨rfl, rfl⟩ | ⟨rfl, rfl⟩ | ⟨rfl, rfl⟩
  · simp only [commandHeaderLayout, u64, u32, zero, List.cons_append, List.nil_append, List.map_cons,
      List.map_nil, fields, List.forall₂_cons, FieldRule.Allows, true_and] at allowed
    obtain ⟨tag, reserved, side, gap, tail, -⟩ := allowed
    have side_at : (readByte bytes 32).toNat = get bytes 32 1 := readByte_toNat (by omega)
    refine ⟨⟨readU64 bytes 0, .newLimit ⟨readU64 bytes 16, readU64 bytes 24, readByte bytes 32,
      readU32 bytes 36, readU32 bytes 40⟩⟩, ?_, sized, ?_⟩
    · simpa [RawCommand.persistedV2, RawCommand.persisted, RawCommand.type, validSide,
        UInt8.le_iff_toNat_le, side_at] using side
    · simp [RawCommandWalPayload.table, RawCommand.body, RawCommand.type, fields, u64_at, u32_at,
        side_at, tag, reserved, gap, tail]
  · simp only [commandHeaderLayout, u64, zero, List.cons_append, List.nil_append, List.map_cons,
      List.map_nil, fields, List.forall₂_cons, FieldRule.Allows, true_and] at allowed
    obtain ⟨tag, reserved, tail, -⟩ := allowed
    refine ⟨⟨readU64 bytes 0, .saveSnapshot⟩, rfl, sized, ?_⟩
    simp [RawCommandWalPayload.table, RawCommand.body, RawCommand.type, fields, u64_at, tag,
      reserved, tail]
  · simp only [commandHeaderLayout, u64, zero, List.cons_append, List.nil_append, List.map_cons,
      List.map_nil, fields, List.forall₂_cons, FieldRule.Allows, true_and] at allowed
    obtain ⟨tag, reserved, tail, -⟩ := allowed
    refine ⟨⟨readU64 bytes 0, .loadSnapshot ⟨readU64 bytes 16, readU64 bytes 24⟩⟩, rfl, sized, ?_⟩
    simp [RawCommandWalPayload.table, RawCommand.body, RawCommand.type, fields, u64_at, tag,
      reserved, tail]
  · simp only [commandHeaderLayout, u64, zero, List.cons_append, List.nil_append, List.map_cons,
      List.map_nil, fields, List.forall₂_cons, FieldRule.Allows, true_and] at allowed
    obtain ⟨tag, reserved, tail, -⟩ := allowed
    refine ⟨⟨readU64 bytes 0, .shutdown⟩, rfl, sized, ?_⟩
    simp [RawCommandWalPayload.table, RawCommand.body, RawCommand.type, fields, u64_at, tag,
      reserved, tail]
  · simp only [commandHeaderLayout, u64, zero, List.cons_append, List.nil_append, List.map_cons,
      List.map_nil, fields, List.forall₂_cons, FieldRule.Allows, true_and] at allowed
    obtain ⟨tag, reserved, tail, -⟩ := allowed
    refine ⟨⟨readU64 bytes 0, .startReplay⟩, rfl, sized, ?_⟩
    simp [RawCommandWalPayload.table, RawCommand.body, RawCommand.type, fields, u64_at, tag,
      reserved, tail]
  · simp only [commandHeaderLayout, u64, zero, List.cons_append, List.nil_append, List.map_cons,
      List.map_nil, fields, List.forall₂_cons, FieldRule.Allows, true_and] at allowed
    obtain ⟨tag, reserved, tail, -⟩ := allowed
    refine ⟨⟨readU64 bytes 0, .stopReplay⟩, rfl, sized, ?_⟩
    simp [RawCommandWalPayload.table, RawCommand.body, RawCommand.type, fields, u64_at, tag,
      reserved, tail]

end Commands

section Events
variable {bytes : List UInt8}

/-- Every persisted event has a layout. -/
theorem event_conforms {payload : RawEventWalPayload} (persisted : payload.message.persistedV2)
    (holds : Holds payload.table 64 bytes) : Conforms eventHeaderLayout eventBodies bytes := by
  have full := payload.table_sum
  obtain ⟨clientId, causedByCommandSequence, indexInCommand, isLastForCommand, message⟩ := payload
  have flag : isLastForCommand.toNat ≤ 1 := isLastForCommand.toNat_le
  cases message with
  | accepted id =>
    refine ⟨(1, [u64, zero 32]), by decide, Layout.describes_of_holds holds full rfl ?_⟩
    simpa [eventHeaderLayout, u64, u32, zero, FieldRule.Allows, RawEventWalPayload.table,
      RawEvent.body, RawEvent.type] using flag
  | rejected id reason =>
    have inside : reason.toNat ≤ 3 := by
      simpa [RawEvent.persistedV2, RawEvent.persisted, RawEvent.type, validRejectReason,
        UInt8.le_iff_toNat_le] using persisted
    refine ⟨(2, [u64, (1, .atMost 3), zero 31]), by decide,
      Layout.describes_of_holds holds full rfl ?_⟩
    simpa [eventHeaderLayout, u64, u32, zero, FieldRule.Allows, RawEventWalPayload.table,
      RawEvent.body, RawEvent.type] using And.intro flag inside
  | trade executed =>
    refine ⟨(3, [u64, u64, u64, u64, u32, u32]), by decide,
      Layout.describes_of_holds holds full rfl ?_⟩
    simpa [eventHeaderLayout, u64, u32, zero, FieldRule.Allows, RawEventWalPayload.table,
      RawEvent.body, RawEvent.type] using flag
  | rested order =>
    have side : order.side.toNat ≤ 1 := by
      simpa [RawEvent.persistedV2, RawEvent.persisted, RawEvent.type, validSide,
        UInt8.le_iff_toNat_le] using persisted
    refine ⟨(4, [u64, u64, (1, .atMost 1), zero 3, u32, u32, zero 12]), by decide,
      Layout.describes_of_holds holds full rfl ?_⟩
    simpa [eventHeaderLayout, u64, u32, zero, FieldRule.Allows, RawEventWalPayload.table,
      RawEvent.body, RawEvent.type] using And.intro flag side
  | done id =>
    refine ⟨(5, [u64, zero 32]), by decide, Layout.describes_of_holds holds full rfl ?_⟩
    simpa [eventHeaderLayout, u64, u32, zero, FieldRule.Allows, RawEventWalPayload.table,
      RawEvent.body, RawEvent.type] using flag
  | saveSnapshot =>
    refine ⟨(6, [zero 40]), by decide, Layout.describes_of_holds holds full rfl ?_⟩
    simpa [eventHeaderLayout, u64, u32, zero, FieldRule.Allows, RawEventWalPayload.table,
      RawEvent.body, RawEvent.type] using flag
  | loadSnapshot saveSnapshotCommandSequence snapshotEpochId =>
    refine ⟨(7, [u64, u64, zero 24]), by decide, Layout.describes_of_holds holds full rfl ?_⟩
    simpa [eventHeaderLayout, u64, u32, zero, FieldRule.Allows, RawEventWalPayload.table,
      RawEvent.body, RawEvent.type] using flag
  | shutdown =>
    refine ⟨(8, [zero 40]), by decide, Layout.describes_of_holds holds full rfl ?_⟩
    simpa [eventHeaderLayout, u64, u32, zero, FieldRule.Allows, RawEventWalPayload.table,
      RawEvent.body, RawEvent.type] using flag
  | fatal reason offendingOrderId lastOrderId =>
    have inside : reason.toNat ≤ 10 := by
      simpa [RawEvent.persistedV2, RawEvent.persisted, RawEvent.type, validFatalReason,
        UInt8.le_iff_toNat_le] using persisted
    refine ⟨(9, [(1, .atMost 10), zero 7, u64, u64, zero 16]), by decide,
      Layout.describes_of_holds holds full rfl ?_⟩
    simpa [eventHeaderLayout, u64, u32, zero, FieldRule.Allows, RawEventWalPayload.table,
      RawEvent.body, RawEvent.type] using And.intro flag inside
  | startReplay =>
    refine ⟨(10, [zero 40]), by decide, Layout.describes_of_holds holds full rfl ?_⟩
    simpa [eventHeaderLayout, u64, u32, zero, FieldRule.Allows, RawEventWalPayload.table,
      RawEvent.body, RawEvent.type] using flag
  | stopReplay =>
    refine ⟨(11, [zero 40]), by decide, Layout.describes_of_holds holds full rfl ?_⟩
    simpa [eventHeaderLayout, u64, u32, zero, FieldRule.Allows, RawEventWalPayload.table,
      RawEvent.body, RawEvent.type] using flag
  | none => cases persisted
  | unknown tag outside =>
    have known : tag = 10 ∨ tag = 11 := by
      simp only [RawEvent.persistedV2, RawEvent.persisted, RawEvent.type, Bool.false_or,
        Bool.or_eq_true] at persisted
      exact persisted.imp of_decide_eq_true of_decide_eq_true
    rcases known with rfl | rfl
    · exact absurd outside (by decide)
    · exact absurd outside (by decide)

/-- A header with a body that holds the table of an event is an event. -/
theorem exists_event_of_body (sized : bytes.length = 64) {message : RawEvent} {body : Layout}
    (persisted : message.persistedV2)
    (allowed : List.Forall₂ FieldRule.Allows
      ((eventHeaderLayout message.type.toNat ++ body).map Prod.snd)
      (fields bytes 0 ((eventHeaderLayout message.type.toNat ++ body).map Prod.fst)))
    (held : fields bytes 24 (message.body.map Prod.fst) = message.body.map Prod.snd) :
    ∃ payload : RawEventWalPayload, payload.message.persistedV2 ∧ Holds payload.table 64 bytes := by
  simp only [eventHeaderLayout, u64, u32, zero, List.cons_append, List.nil_append, List.map_cons,
    fields, List.forall₂_cons, FieldRule.Allows, true_and] at allowed
  obtain ⟨flag, tag, reserved, -⟩ := allowed
  have client : (readU64 bytes 0).toNat = get bytes 0 8 := readU64_toNat (by omega)
  have caused : (readU64 bytes 8).toNat = get bytes 8 8 := readU64_toNat (by omega)
  have index : (readU32 bytes 16).toNat = get bytes 16 4 := readU32_toNat (by omega)
  have last : (decide (get bytes 20 1 = 1)).toNat = get bytes 20 1 := by
    simp only [Nat.zero_add, Nat.reduceAdd] at flag
    by_cases one : get bytes 20 1 = 1
    · rw [one]
      rfl
    · rw [decide_eq_false one]
      change 0 = _
      omega
  refine ⟨⟨readU64 bytes 0, readU64 bytes 8, readU32 bytes 16, get bytes 20 1 = 1, message⟩,
    persisted, sized, ?_⟩
  simp only [Nat.zero_add, Nat.reduceAdd] at tag reserved
  simp only [RawEventWalPayload.table, List.map_cons, fields, client, caused, index, last,
    Nat.zero_add, Nat.reduceAdd, tag, reserved, held]

/-- Every layout is the table of a persisted event. -/
theorem exists_event (sized : bytes.length = 64)
    (conforms : Conforms eventHeaderLayout eventBodies bytes) :
    ∃ payload : RawEventWalPayload, payload.message.persistedV2 ∧ Holds payload.table 64 bytes := by
  obtain ⟨⟨tag, body⟩, listed, -, allowed⟩ := conforms
  have u64_at {offset : ℕ} (inside : offset + 8 ≤ 64) :
      (readU64 bytes offset).toNat = get bytes offset 8 := readU64_toNat (by omega)
  have u32_at {offset : ℕ} (inside : offset + 4 ≤ 64) :
      (readU32 bytes offset).toNat = get bytes offset 4 := readU32_toNat (by omega)
  have byte_at {offset : ℕ} (inside : offset + 1 ≤ 64) :
      (readByte bytes offset).toNat = get bytes offset 1 := readByte_toNat (by omega)
  have bodies : (tag, body) ∈ [(1, [u64, zero 32]), (2, [u64, (1, .atMost 3), zero 31]),
      (3, [u64, u64, u64, u64, u32, u32]),
      (4, [u64, u64, (1, .atMost 1), zero 3, u32, u32, zero 12]), (5, [u64, zero 32]),
      (6, [zero 40]), (7, [u64, u64, zero 24]), (8, [zero 40]),
      (9, [(1, .atMost 10), zero 7, u64, u64, zero 16]), (10, [zero 40]), (11, [zero 40])] := listed
  simp only [List.mem_cons, List.not_mem_nil, or_false, Prod.mk.injEq] at bodies
  rcases bodies with ⟨rfl, rfl⟩ | ⟨rfl, rfl⟩ | ⟨rfl, rfl⟩ | ⟨rfl, rfl⟩ | ⟨rfl, rfl⟩ | ⟨rfl, rfl⟩ |
    ⟨rfl, rfl⟩ | ⟨rfl, rfl⟩ | ⟨rfl, rfl⟩ | ⟨rfl, rfl⟩ | ⟨rfl, rfl⟩
  · have rules := allowed
    simp only [eventHeaderLayout, u64, u32, zero, List.cons_append, List.nil_append, List.map_cons,
      List.map_nil, fields, List.forall₂_cons, FieldRule.Allows, true_and] at rules
    refine @exists_event_of_body bytes sized (.accepted (readU64 bytes 24)) _ rfl allowed ?_
    simp [RawEvent.body, fields, u64_at, rules]
  · have rules := allowed
    simp only [eventHeaderLayout, u64, u32, zero, List.cons_append, List.nil_append, List.map_cons,
      List.map_nil, fields, List.forall₂_cons, FieldRule.Allows, true_and] at rules
    refine @exists_event_of_body bytes sized (.rejected (readU64 bytes 24) (readByte bytes 32)) _ ?_ allowed ?_
    · simp [RawEvent.persistedV2, RawEvent.persisted, RawEvent.type, validRejectReason,
        UInt8.le_iff_toNat_le, byte_at, rules]
    · simp [RawEvent.body, fields, u64_at, byte_at, rules]
  · refine @exists_event_of_body bytes sized (.trade ⟨readU64 bytes 24, readU64 bytes 32, readU64 bytes 40, readU64 bytes 48,
      readU32 bytes 56, readU32 bytes 60⟩) _ rfl allowed ?_
    simp [RawEvent.body, fields, u64_at, u32_at]
  · have rules := allowed
    simp only [eventHeaderLayout, u64, u32, zero, List.cons_append, List.nil_append, List.map_cons,
      List.map_nil, fields, List.forall₂_cons, FieldRule.Allows, true_and] at rules
    refine @exists_event_of_body bytes sized (.rested ⟨readU64 bytes 24, readU64 bytes 32, readByte bytes 40, readU32 bytes 44,
      readU32 bytes 48⟩) _ ?_ allowed ?_
    · simp [RawEvent.persistedV2, RawEvent.persisted, RawEvent.type, validSide,
        UInt8.le_iff_toNat_le, byte_at, rules]
    · simp [RawEvent.body, fields, u64_at, u32_at, byte_at, rules]
  · have rules := allowed
    simp only [eventHeaderLayout, u64, u32, zero, List.cons_append, List.nil_append, List.map_cons,
      List.map_nil, fields, List.forall₂_cons, FieldRule.Allows, true_and] at rules
    refine @exists_event_of_body bytes sized (.done (readU64 bytes 24)) _ rfl allowed ?_
    simp [RawEvent.body, fields, u64_at, rules]
  · have rules := allowed
    simp only [eventHeaderLayout, u64, u32, zero, List.cons_append, List.nil_append, List.map_cons,
      List.map_nil, fields, List.forall₂_cons, FieldRule.Allows, true_and] at rules
    refine @exists_event_of_body bytes sized (.saveSnapshot) _ rfl allowed ?_
    simp [RawEvent.body, fields, rules]
  · have rules := allowed
    simp only [eventHeaderLayout, u64, u32, zero, List.cons_append, List.nil_append, List.map_cons,
      List.map_nil, fields, List.forall₂_cons, FieldRule.Allows, true_and] at rules
    refine @exists_event_of_body bytes sized (.loadSnapshot (readU64 bytes 24) (readU64 bytes 32)) _ rfl allowed ?_
    simp [RawEvent.body, fields, u64_at, rules]
  · have rules := allowed
    simp only [eventHeaderLayout, u64, u32, zero, List.cons_append, List.nil_append, List.map_cons,
      List.map_nil, fields, List.forall₂_cons, FieldRule.Allows, true_and] at rules
    refine @exists_event_of_body bytes sized (.shutdown) _ rfl allowed ?_
    simp [RawEvent.body, fields, rules]
  · have rules := allowed
    simp only [eventHeaderLayout, u64, u32, zero, List.cons_append, List.nil_append, List.map_cons,
      List.map_nil, fields, List.forall₂_cons, FieldRule.Allows, true_and] at rules
    refine @exists_event_of_body bytes sized (.fatal (readByte bytes 24) (readU64 bytes 32) (readU64 bytes 40)) _ ?_ allowed ?_
    · simp [RawEvent.persistedV2, RawEvent.persisted, RawEvent.type, validFatalReason,
        UInt8.le_iff_toNat_le, byte_at, rules]
    · simp [RawEvent.body, fields, u64_at, byte_at, rules]
  · have rules := allowed
    simp only [eventHeaderLayout, u64, u32, zero, List.cons_append, List.nil_append, List.map_cons,
      List.map_nil, fields, List.forall₂_cons, FieldRule.Allows, true_and] at rules
    refine @exists_event_of_body bytes sized (.startReplay) _ rfl allowed ?_
    simp [RawEvent.body, fields, rules]
  · have rules := allowed
    simp only [eventHeaderLayout, u64, u32, zero, List.cons_append, List.nil_append, List.map_cons,
      List.map_nil, fields, List.forall₂_cons, FieldRule.Allows, true_and] at rules
    refine @exists_event_of_body bytes sized (.stopReplay) _ rfl allowed ?_
    simp [RawEvent.body, fields, rules]

end Events

/-- The version 2 decoders accept exactly the documented grammar in which `SaveSnapshot`,
`StartReplay` and `StopReplay` have empty bodies, and nothing they accept is lost. -/
theorem decoders_accept_format :
    (∀ bytes output, bytes.length = commandWalPayloadSize →
      ((decodeCommandWalPayloadV2 bytes output).1 = .ok ↔
        Conforms commandHeaderLayout commandBodies bytes) ∧
      ((decodeCommandWalPayloadV2 bytes output).1 = .ok → ∀ buffer,
        buffer.length = commandWalPayloadSize →
        encodeCommandWalPayloadV2 (decodeCommandWalPayloadV2 bytes output).2 buffer = (.ok, bytes))) ∧
    ∀ bytes output, bytes.length = eventWalPayloadSize →
      ((decodeEventWalPayloadV2 bytes output).1 = .ok ↔
        Conforms eventHeaderLayout eventBodies bytes) ∧
      ((decodeEventWalPayloadV2 bytes output).1 = .ok → ∀ buffer,
        buffer.length = eventWalPayloadSize →
        encodeEventWalPayloadV2 (decodeEventWalPayloadV2 bytes output).2 buffer = (.ok, bytes)) := by
  constructor
  · intro bytes output sized
    have decoded (ok : (decodeCommandWalPayloadV2 bytes output).1 = .ok) :=
      (decodeCommandV2_iff sized).mp (Prod.ext ok rfl)
    refine ⟨⟨fun ok => command_conforms (decoded ok).1 (decoded ok).2, fun conforms => ?_⟩,
      fun ok buffer fits => (commandV2_encodes.iff fits).mpr (decoded ok)⟩
    obtain ⟨payload, good⟩ := exists_command sized conforms
    exact congrArg Prod.fst ((@decodeCommandV2_iff payload bytes output sized).mpr good)
  · intro bytes output sized
    have decoded (ok : (decodeEventWalPayloadV2 bytes output).1 = .ok) :=
      (decodeEventV2_iff sized).mp (Prod.ext ok rfl)
    refine ⟨⟨fun ok => event_conforms (decoded ok).1 (decoded ok).2, fun conforms => ?_⟩,
      fun ok buffer fits => (eventV2_encodes.iff fits).mpr (decoded ok)⟩
    obtain ⟨payload, good⟩ := exists_event sized conforms
    exact congrArg Prod.fst ((@decodeEventV2_iff payload bytes output sized).mpr good)

/-- The document lets a `SaveSnapshot` name its snapshot; the decoder refuses the bytes. -/
theorem save_snapshot_id_refused :
    let bytes := writeByte (writeByte (List.replicate 48 0) 8 2) 16 1
    Conforms commandHeaderLayout documentedCommandBodies bytes ∧
      (decodeCommandWalPayloadV2 bytes {}).1 = .nonCanonicalBytes := by
  refine ⟨⟨(2, [u64, u64, zero 16]), by decide, rfl, ?_⟩, by decide +kernel⟩
  have fields : ByteLayout.fields (writeByte (writeByte (List.replicate 48 0) 8 2) 16 1) 0
      [8, 1, 7, 8, 8, 16] = [0, 2, 0, 1, 0, 0] := by decide +kernel
  change List.Forall₂ FieldRule.Allows [.any, .exactly 2, .exactly 0, .any, .any, .exactly 0]
    (ByteLayout.fields _ 0 [8, 1, 7, 8, 8, 16])
  rw [fields]
  simp [FieldRule.Allows]

end Fexma
