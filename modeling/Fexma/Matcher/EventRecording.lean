import Fexma.Matcher.AcceptedRun
import Fexma.Matcher.EventComparator

/-! The events of a matcher in a log: each of them is encoded, and the comparator with the log,
as the writer of a matcher that publishes them again, accepts them one after the other. -/
namespace Fexma

open Wal EventWalComparator

/-! ### Events as they lie in memory -/

def RejectReason.byte : RejectReason → UInt8
  | none => 0
  | invalidQuantity => 1
  | bookInsertFailed => 2
  | unknownCommand => 3

def FatalReason.byte : FatalReason → UInt8
  | none => 0
  | commandReaderFatal => 1
  | eventWriterFatal => 2
  | commandProducedNoEvent => 3
  | nonMonotonicOrderId => 4
  | bookEraseFailedAfterExecution => 5
  | bookUpdateFailedAfterExecution => 6
  | bookInsertFailedAfterExecution => 7
  | snapshotCaptureFailed => 8
  | snapshotLoadUnavailable => 9
  | snapshotLoadInvalid => 10

def Event.raw : Event → RawEvent
  | none => .none
  | accepted id => .accepted id
  | rejected id reason => .rejected id reason.byte
  | trade executed => .trade executed
  | rested order => .rested
    { id := order.id
      ownerId := order.ownerId
      side := order.side.byte
      price := order.price
      remaining := order.remaining }
  | done id => .done id
  | saveSnapshot => .saveSnapshot
  | loadSnapshot saveSnapshotCommandSequence snapshotEpochId =>
    .loadSnapshot saveSnapshotCommandSequence snapshotEpochId
  | shutdown => .shutdown
  | fatal reason offendingOrderId lastOrderId => .fatal reason.byte offendingOrderId lastOrderId
  | startReplay => .startReplay
  | stopReplay => .stopReplay

def EventWalPayload.raw (payload : EventWalPayload) : RawEventWalPayload :=
  { clientId := payload.clientId
    causedByCommandSequence := payload.causedByCommandSequence
    indexInCommand := payload.indexInCommand
    isLastForCommand := payload.isLastForCommand
    message := payload.message.raw }

def EventEnvelope.raw (envelope : EventEnvelope) : RawEventEnvelope :=
  ⟨envelope.eventSequence, envelope.payload.raw⟩

/-- The enumerators are in their ranges. -/
theorem Event.raw_persistedV2 {event : Event} (named : event ≠ .none) : event.raw.persistedV2 := by
  cases event with
  | none => exact absurd rfl named
  | rejected id reason => cases reason <;> rfl
  | rested order =>
    obtain ⟨_, _, side, _, _⟩ := order
    cases side <;> rfl
  | fatal reason offendingOrderId lastOrderId => cases reason <;> rfl
  | _ => rfl

/-- The record of an event. -/
def eventRecord (event : EventEnvelope) : List UInt8 :=
  (encodeEventWalPayloadV2 event.payload.raw (List.replicate eventWalPayloadSize 0)).2

section Events
variable {event : EventEnvelope} {events : List EventEnvelope}

/-- Every event but none at all is encoded, and its record decodes. -/
theorem eventRecord_spec (named : event.payload.message ≠ .none) :
    encodeEventWalPayloadV2 event.payload.raw (List.replicate eventWalPayloadSize 0) =
        (.ok, eventRecord event) ∧
      (eventRecord event).length = eventWalPayloadSize ∧
      (decodeEventWalPayloadV2 (eventRecord event) {}).1 = .ok := by
  have persisted : event.payload.raw.message.persistedV2 = true := Event.raw_persistedV2 named
  have fits : (List.replicate eventWalPayloadSize (0 : UInt8)).length = 64 := List.length_replicate
  have written := eventV2_encodes.writes event.payload.raw _ fits
  rw [if_pos persisted] at written
  obtain ⟨bytes, encoded, holds⟩ := written
  have same : eventRecord event = bytes := congrArg Prod.snd encoded
  refine ⟨encoded.trans (congrArg _ same.symm), ?_, ?_⟩
  · rw [same]
    exact holds.length
  · rw [same]
    exact congrArg Prod.fst ((@decodeEventV2_iff event.payload.raw bytes {} holds.length).mpr
      ⟨persisted, holds⟩)

/-! ### The numbers of a run -/

/-- The matcher has published named events only, numbered from one on. -/
structure Numbered {ω σ : Type} (matcher : Matcher ω σ) : Prop where
  named : ∀ event ∈ matcher.published, event.payload.message ≠ .none
  sequence : ∀ i (event : EventEnvelope), matcher.published[i]? = some event →
    event.eventSequence = 1 + .ofNat i
  next : matcher.nextEventSequence = 1 + .ofNat matcher.published.length

theorem named_singleton {event : Event} (named : event ≠ .none) :
    ∀ other ∈ [event], other ≠ .none := by
  intro other member
  rwa [List.mem_singleton.mp member]

theorem fill_named (incoming : NewLimitOrder) (remaining : Quantity) (makers : List OrderView)
    (book : PriceTimeBook) : ∀ event ∈ (fill incoming remaining makers book).steps.events,
      event ≠ .none := by
  induction makers generalizing remaining book with
  | nil =>
    rw [fill_nil]
    exact List.forall_mem_nil _
  | cons maker makers ih =>
    by_cases stops : remaining = 0 ∨ ¬ Matcher.crosses incoming.side incoming.price maker.price
    · rw [fill_stop stops]
      exact List.forall_mem_nil _
    obtain ⟨left, crossing⟩ := not_or.mp stops
    rw [not_not] at crossing
    by_cases whole : maker.remaining ≤ remaining
    · rw [fill_whole left crossing whole]
      exact List.forall_mem_cons.mpr ⟨by simp [tradeWith],
        List.forall_mem_cons.mpr ⟨by simp, ih _ _⟩⟩
    · rw [fill_part left crossing (UInt32.not_le.mp whole)]
      exact named_singleton (by simp [tradeWith])

theorem newLimitPlan_named {σ : Type} (incoming : NewLimitOrder) (book : PriceTimeBook)
    (lastOrderId : OrderId) (snapshotStore : σ) :
    ∀ event ∈ (newLimitPlan incoming book lastOrderId snapshotStore).steps.events,
      event ≠ .none := by
  have settled (fills : Fills) :
      ∀ event ∈ (settlePlan incoming fills snapshotStore).steps.events, event ≠ .none := by
    unfold settlePlan
    dsimp only
    split_ifs
    · exact named_singleton (by simp)
    · exact named_singleton (by simp)
    · exact named_singleton (by simp)
    · exact named_singleton (by simp)
  unfold newLimitPlan
  split_ifs
  · exact named_singleton (by simp)
  · exact named_singleton (by simp)
  · intro event member
    rw [Plan.after, Trace.events_append, Trace.events_cons, List.cons_append] at member
    rcases List.mem_cons.mp member with rfl | member
    · simp
    rcases List.mem_append.mp member with filled | behind
    · exact fill_named _ _ _ _ event filled
    · exact settled _ event behind

end Events

section Run
variable {ω σ : Type} [EventWriter ω] [SnapshotStore σ] {matcher : Matcher ω σ}
variable {envelope : CommandEnvelope} {envelopes : List CommandEnvelope}

omit [EventWriter ω] in
/-- No command announces an event without a type. -/
theorem plan_named (matcher : Matcher ω σ) (envelope : CommandEnvelope) :
    ∀ event ∈ (matcher.plan envelope).steps.events, event ≠ .none := by
  rw [Matcher.plan]
  cases message : envelope.payload.message with
  | newLimit order => exact newLimitPlan_named _ _ _ _
  | saveSnapshot =>
    simp only [Matcher.saveSnapshotPlan]
    split
    · exact named_singleton (by simp)
    · exact named_singleton (by simp)
  | loadSnapshot command =>
    simp only [Matcher.loadSnapshotPlan]
    split
    · split
      · exact named_singleton (by simp)
      · split
        · exact named_singleton (by simp)
        · exact named_singleton (by simp)
    · exact named_singleton (by simp)
  | _ => exact named_singleton (by simp)

/-- A command of a replay keeps the numbers. -/
theorem Numbered.process (numbered : Numbered matcher) (idle : matcher.Idle)
    (replayable : envelope.Replayable) (alive : (matcher.process envelope).2.fatal = false) :
    Numbered (matcher.process envelope).2 := by
  obtain ⟨completed, -⟩ := Matcher.completed_of_alive idle alive
  have keeps : (matcher.plan envelope).eventSequence = 0 := by
    by_contra switches
    obtain ⟨-, command, load, -⟩ := (plan_shaped matcher envelope).switches switches
    rcases replayable with ⟨order, message⟩ | message | message
    all_goals
      rw [message] at load
      cases load
  have length : (closedGroup matcher.nextEventSequence envelope
      (matcher.plan envelope).steps.events).length = (matcher.plan envelope).steps.length := by
    rw [closedGroup, List.length_mapIdx, Trace.events, List.length_map]
  refine ⟨?_, ?_, ?_⟩
  · intro event member
    rw [completed.published] at member
    rcases List.mem_append.mp member with before | new
    · exact numbered.named event before
    · obtain ⟨index, inside, rfl⟩ := List.mem_mapIdx.mp new
      exact plan_named matcher envelope _ (List.getElem_mem inside)
  · intro i event there
    rw [completed.published] at there
    by_cases before : i < matcher.published.length
    · rw [List.getElem?_append_left before] at there
      exact numbered.sequence i event there
    · rw [List.getElem?_append_right (Nat.le_of_not_lt before), closedGroup, List.getElem?_mapIdx,
        Option.map_eq_some_iff] at there
      obtain ⟨message, -, rfl⟩ := there
      obtain ⟨offset, rfl⟩ := Nat.exists_eq_add_of_le (Nat.le_of_not_lt before)
      rw [Nat.add_sub_cancel_left, frame, numbered.next, UInt64.ofNat_add, ← UInt64.add_assoc]
  · rw [completed.nextEventSequence, if_neg (not_not.mpr keeps), numbered.next, completed.published,
      List.length_append, length, UInt64.ofNat_add, UInt64.add_assoc]

/-- A run of a replay keeps the numbers. -/
theorem Numbered.processAll (numbered : Numbered matcher) (idle : matcher.Idle)
    (replayable : ∀ envelope ∈ envelopes, envelope.Replayable)
    (alive : (matcher.processAll envelopes).fatal = false) :
    Numbered (matcher.processAll envelopes) := by
  induction envelopes generalizing matcher with
  | nil => exact numbered
  | cons envelope envelopes ih =>
    obtain ⟨first, rest⟩ := List.forall_mem_cons.mp replayable
    exact ih (numbered.process idle first (Matcher.alive_before alive)) (idle.process envelope) rest alive

/-- Every command publishes something. -/
theorem processAll_publishes (idle : matcher.Idle) (some_command : envelopes ≠ [])
    (alive : (matcher.processAll envelopes).fatal = false) :
    (matcher.processAll envelopes).published ≠ [] := by
  cases envelopes with
  | nil => exact absurd rfl some_command
  | cons envelope envelopes =>
    obtain ⟨completed, -⟩ := Matcher.completed_of_alive idle (Matcher.alive_before alive)
    obtain ⟨groups, grouped⟩ := exists_grouped (idle.process envelope) envelopes
    rw [Matcher.processAll_cons, grouped.published, completed.published]
    intro none
    have empty := (List.append_eq_nil_iff.mp (List.append_eq_nil_iff.mp none).1).2
    rw [closedGroup, List.mapIdx_eq_nil_iff, Trace.events, List.map_eq_nil_iff] at empty
    exact (plan_shaped matcher envelope).nonempty empty

end Run

/-! ### Logs -/

/-- A file with the log of a stream of version 2 that starts with sequence one. -/
structure StreamLog (config : WalConfig) (kind : StreamKind) (size : ℕ) (file : Option DiskFile)
    (payloads : List (List UInt8)) : Prop where
  readable : Readable config
  kind : config.streamKind = kind
  version : config.payloadSchemaVersion = 2
  size : config.payloadSize.toNat = size
  first : config.firstSequence = 1
  records : Records config file payloads

section Logs
variable {config : WalConfig} {kind : StreamKind} {size : ℕ} {file : Option DiskFile}
variable {payloads : List (List UInt8)}

theorem length_le_fileImage : payloads.length ≤ (fileImage config payloads).length := by
  have framed (sequence : UInt64) :
      payloads.length ≤ (recordFrames config sequence payloads).flatten.length := by
    induction payloads generalizing sequence with
    | nil => exact Nat.zero_le _
    | cons payload payloads ih =>
      have some_bytes := List.length_pos_iff.mpr
        (@recordFrame_ne_nil config payload sequence)
      have later := ih (sequence + 1)
      rw [recordFrames, List.flatten_cons, List.length_append, List.length_cons]
      omega
  rw [fileImage, List.length_append]
  exact (framed config.firstSequence).trans (Nat.le_add_left _ _)

/-- The log that is all of its file. -/
theorem StreamLog.image (valid : Valid config) (version : config.payloadSchemaVersion = 2)
    (first : config.firstSequence = 1) (few : payloads.length < 2 ^ 63)
    (sizes : ∀ payload ∈ payloads, payload.length = config.payloadSize.toNat)
    (room : (fileImage config payloads).length ≤ maxFileSize) :
    StreamLog config config.streamKind config.payloadSize.toNat
      (some ⟨fileImage config payloads, room⟩) payloads := by
  have one : (1 : UInt64).toNat = 1 := rfl
  have loggable : Loggable config payloads := by
    refine ⟨sizes, ?_⟩
    rw [first, one]
    omega
  exact ⟨valid.single, rfl, version, rfl, first, records_image loggable rfl⟩

/-- The records of a file fit its size. -/
theorem StreamLog.few (log : StreamLog config kind size file payloads) :
    payloads.length < 2 ^ 63 := by
  obtain ⟨-, disk, tail, -, content, -⟩ := log.records
  have bounded := disk.bounded
  have inside := @length_le_fileImage config payloads
  rw [content, List.length_append, maxFileSize] at bounded
  omega

theorem toNat_count (few : payloads.length < 2 ^ 63) :
    (UInt64.ofNat payloads.length).toNat = payloads.length := by
  have wide : UInt64.size = 2 ^ 64 := rfl
  exact UInt64.toNat_ofNat_of_lt' (by omega)

/-- The comparator is opened over the whole stream. -/
theorem StreamLog.exists_comparator
    (log : StreamLog config .event eventWalPayloadSize file payloads) (some_event : payloads ≠ []) :
    ∃ comparator,
      ({} : EventWalComparator).open file config 1 (.ofNat payloads.length) = (.ok, comparator) ∧
      Comparing config payloads (.ofNat payloads.length) 1 comparator := by
  have few := log.few
  have count := toNat_count few
  refine EventWalComparator.exists_open_first log.readable log.records log.kind log.version log.size log.first ?_ ?_
  · rw [count]
    exact List.length_pos_iff.mpr some_event
  · rw [Ne, ← UInt64.toNat_inj, count, maxUInt64_toNat]
    omega

end Logs

/-! ### The comparator as a writer -/

instance : EventWriter EventWalComparator where
  publish comparator envelope := comparator.publish envelope.raw

section Writer
variable {config : WalConfig} {payloads : List (List UInt8)} {lastSequence : EventSequence}
variable {comparator : EventWalComparator} {events : List EventEnvelope} {sequence : ℕ}

/-- The comparator takes the events that the log goes on with. -/
theorem EventWalComparator.Comparing.accepts (readable : Readable config)
    (size : config.payloadSize.toNat = eventWalPayloadSize)
    (comparing : Comparing config payloads lastSequence sequence comparator)
    (follows : Follows config payloads sequence (events.map EventEnvelope.raw))
    (inside : sequence + events.length ≤ lastSequence.toNat + 1) :
    Accepts (Comparing config payloads lastSequence (sequence + events.length)) comparator events := by
  induction events generalizing sequence comparator with
  | nil => exact comparing
  | cons event events ih =>
    obtain ⟨here, later⟩ := follows_cons.mp follows
    rw [List.length_cons] at inside ⊢
    rcases comparing.publish readable size event.raw with ⟨-, -, ok, next⟩ | ⟨other, -⟩
    · refine ⟨ok, ?_⟩
      rw [show sequence + (events.length + 1) = sequence + 1 + events.length by omega]
      exact ih next later (by omega)
    · exact absurd ⟨by omega, here⟩ other

/-- A comparator that goes on accepting has not failed. -/
theorem status_of_accepts {ends : EventWalComparator → Prop}
    (ended : ∀ comparator, ends comparator → comparator.result.status = .ok)
    (accepts : Accepts ends comparator events) : comparator.result.status = .ok := by
  cases events with
  | nil => exact ended comparator accepts
  | cons event events =>
    by_contra failed
    have fatal : (comparator.publish event.raw).1 = .fatal := by
      rw [publish, if_pos (by simp [failed])]
      rfl
    have ok : (comparator.publish event.raw).1 = .ok := accepts.1
    rw [fatal] at ok
    cases ok

/-- The records of a numbered run are its events. -/
theorem Numbered.follows {ω σ : Type} {matcher : Matcher ω σ} (numbered : Numbered matcher)
    (first : config.firstSequence = 1) (few : matcher.published.length < 2 ^ 63) :
    Follows config (matcher.published.map eventRecord) 1 (matcher.published.map EventEnvelope.raw) := by
  intro i raw there
  rw [List.getElem?_map, Option.map_eq_some_iff] at there
  obtain ⟨event, there, rfl⟩ := there
  obtain ⟨inside, -⟩ := List.getElem?_eq_some_iff.mp there
  obtain ⟨encoded, -, decoded⟩ := eventRecord_spec
    (numbered.named event (List.mem_of_getElem? there))
  have one : (1 : UInt64).toNat = 1 := rfl
  refine ⟨eventRecord event, ?_, decoded, ?_, encoded⟩
  · rw [first, one, Nat.add_sub_cancel_left, List.getElem?_map, there]
    rfl
  · have place : (UInt64.ofNat i).toNat = i :=
      UInt64.toNat_ofNat_of_lt' (by have wide : UInt64.size = 2 ^ 64 := rfl; omega)
    change event.eventSequence.toNat = 1 + i
    rw [numbered.sequence i event there, UInt64.toNat_add, place, one]
    exact Nat.mod_eq_of_lt (by omega)

end Writer

end Fexma
