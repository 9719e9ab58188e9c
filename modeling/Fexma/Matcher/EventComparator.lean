import Fexma.Matcher.ReplaySource

/-! The comparator of a replayed event stream with the event log (`EventWalComparator` in
`replay.cpp`). It accepts the recorded run and nothing else, and its first failure stays. -/
namespace Fexma

open Wal Transducer

def currentEventSchemaVersion : UInt32 := 2

/-- An event in memory, with any bytes in its enumerations. -/
structure RawEventEnvelope where
  eventSequence : EventSequence := 0
  payload : RawEventWalPayload := {}

structure EventWalComparator where
  reader : WalReader := {}
  expectedBytes : List UInt8 := List.replicate eventWalPayloadSize 0
  actualBytes : List UInt8 := List.replicate eventWalPayloadSize 0
  firstSequence : EventSequence := 0
  lastSequence : EventSequence := 0
  nextSequence : EventSequence := 0
  result : ReplayResult := ⟨.invalidConfig, 0⟩
  isOpen : Bool := false

namespace EventWalComparator

def «open» (comparator : EventWalComparator) (file : Option DiskFile) (expected : WalConfig)
    (firstSequence lastSequence : EventSequence) : ReplayStatus × EventWalComparator :=
  if firstSequence = 0 || lastSequence < firstSequence || lastSequence = maxUInt64 ||
      firstSequence < expected.firstSequence ||
      expected.payloadSchemaVersion ≠ currentEventSchemaVersion ||
      expected.payloadSize.toNat ≠ eventWalPayloadSize || expected.streamKind ≠ .event then
    (.invalidConfig, comparator)
  else
    let (opened, reader) := comparator.reader.open_ file expected
    if opened.status ≠ .ok then (.walOpenFailed, { comparator with reader })
    else
      let (status, reader, expectedBytes) :=
        skipRecords firstSequence.toNat firstSequence reader comparator.expectedBytes
      let comparator := { comparator with reader, expectedBytes, firstSequence, lastSequence }
      if status ≠ .ok then (status, comparator)
      else
        (.ok, { comparator with
          nextSequence := firstSequence, result := ⟨.ok, 0⟩, isOpen := true })

/-- How every failure of `publish` ends. -/
def stop (comparator : EventWalComparator) (status : ReplayStatus) (event : RawEventEnvelope) :
    PublishStatus × EventWalComparator :=
  (.fatal, { comparator with result := ⟨status, event.eventSequence⟩ })

def publish (comparator : EventWalComparator) (event : RawEventEnvelope) :
    PublishStatus × EventWalComparator :=
  if !comparator.isOpen || comparator.result.status ≠ .ok ||
      comparator.nextSequence > comparator.lastSequence then
    comparator.stop .unexpectedEvent event
  else
    let (read, expectedBytes, reader) := comparator.reader.readNext comparator.expectedBytes
    let comparator := { comparator with reader, expectedBytes }
    if read.status ≠ .record then comparator.stop .expectedEventMissing event
    else if (decodeEventWalPayloadV2 expectedBytes {}).1 ≠ .ok then
      comparator.stop .eventMismatch event
    else
      let (encoded, actualBytes) := encodeEventWalPayloadV2 event.payload comparator.actualBytes
      let comparator := { comparator with actualBytes }
      if encoded ≠ .ok || read.sequence ≠ event.eventSequence || actualBytes ≠ expectedBytes then
        comparator.stop .eventMismatch event
      else
        (.ok, { comparator with
          result := { comparator.result with sequence := event.eventSequence }
          nextSequence := comparator.nextSequence + 1 })

def finish (comparator : EventWalComparator) : ReplayStatus × EventWalComparator :=
  if !comparator.isOpen || comparator.result.status ≠ .ok then (comparator.result.status, comparator)
  else if comparator.nextSequence ≠ comparator.lastSequence + 1 then
    (.expectedEventMissing,
      { comparator with result := ⟨.expectedEventMissing, comparator.nextSequence⟩ })
  else (.complete, { comparator with result := { comparator.result with status := .complete } })

end EventWalComparator

/-! ### Calls in any order -/

inductive ComparatorCall where
  | publish (event : RawEventEnvelope)
  | finish

inductive ComparatorAnswer where
  | published (status : PublishStatus)
  | finished (status : ReplayStatus)
  deriving DecidableEq, Repr

def ComparatorAnswer.failed : ComparatorAnswer → Bool
  | published status => status ≠ .ok
  | finished status => status ≠ .complete

def EventWalComparator.call (comparator : EventWalComparator) :
    ComparatorCall → ComparatorAnswer × EventWalComparator
  | .publish event => (.published (comparator.publish event).1, (comparator.publish event).2)
  | .finish => (.finished comparator.finish.1, comparator.finish.2)

/-- An event that is the record of a sequence: its payload encodes to the bytes of the record,
and these decode. -/
def EventAt (config : WalConfig) (payloads : List (List UInt8)) (sequence : ℕ)
    (event : RawEventEnvelope) : Prop :=
  ∃ bytes, payloads[sequence - config.firstSequence.toNat]? = some bytes ∧
    (decodeEventWalPayloadV2 bytes {}).1 = .ok ∧ event.eventSequence.toNat = sequence ∧
    encodeEventWalPayloadV2 event.payload (List.replicate eventWalPayloadSize 0) = (.ok, bytes)

/-- The events are the records from a sequence on. -/
def Follows (config : WalConfig) (payloads : List (List UInt8)) (sequence : ℕ)
    (events : List RawEventEnvelope) : Prop :=
  ∀ i event, events[i]? = some event → EventAt config payloads (sequence + i) event

/-- The events are the records of a range, all of them. -/
structure Recorded (config : WalConfig) (payloads : List (List UInt8))
    (firstSequence lastSequence : EventSequence) (events : List RawEventEnvelope) : Prop where
  number : firstSequence.toNat + events.length = lastSequence.toNat + 1
  follows : Follows config payloads firstSequence.toNat events

/-- What `finish` says behind some calls. -/
def EventWalComparator.verdict (comparator : EventWalComparator) (requests : List ComparatorCall) :
    ReplayStatus :=
  (final EventWalComparator.call comparator requests).finish.1

section Comparison
variable {config : WalConfig} {payloads : List (List UInt8)} {file : Option DiskFile}
variable {firstSequence lastSequence : EventSequence} {sequence : ℕ}
variable {comparator : EventWalComparator} {event : RawEventEnvelope}
variable {events : List RawEventEnvelope} {request : ComparatorCall} {requests : List ComparatorCall}

theorem follows_nil : Follows config payloads sequence [] := by
  intro i event there
  cases there

theorem follows_cons : Follows config payloads sequence (event :: events) ↔
    EventAt config payloads sequence event ∧ Follows config payloads (sequence + 1) events := by
  constructor
  · intro follows
    refine ⟨follows 0 event rfl, fun i other there => ?_⟩
    have later := follows (i + 1) other there
    rwa [show sequence + (i + 1) = sequence + 1 + i by omega] at later
  · rintro ⟨first, later⟩ i other there
    cases i with
    | zero =>
      obtain rfl : event = other := Option.some.inj there
      exact first
    | succ i =>
      have here := later i other there
      rwa [show sequence + 1 + i = sequence + (i + 1) by omega] at here

/-- What is encoded does not depend on what the buffer held. -/
theorem encodeEventV2_buffer {payload : RawEventWalPayload} {buffer other bytes : List UInt8}
    (fits : buffer.length = 64) (fits' : other.length = 64) :
    encodeEventWalPayloadV2 payload buffer = (.ok, bytes) ↔
      encodeEventWalPayloadV2 payload other = (.ok, bytes) := by
  rw [eventV2_encodes.iff fits, eventV2_encodes.iff fits']

/-! ### A failure stays -/

namespace EventWalComparator

/-- The result is neither that of a comparison that goes on nor that of a complete one. -/
structure Failed (comparator : EventWalComparator) : Prop where
  isOpen : comparator.isOpen = true
  unfinished : comparator.result.status ≠ .ok
  incomplete : comparator.result.status ≠ .complete

theorem Failed.call (failed : comparator.Failed) (request : ComparatorCall) :
    (comparator.call request).1.failed = true ∧ (comparator.call request).2.Failed := by
  obtain ⟨isOpen, unfinished, incomplete⟩ := failed
  cases request with
  | publish event =>
    rw [EventWalComparator.call, publish, if_pos (by simp [unfinished]), stop]
    exact ⟨rfl, isOpen, nofun, nofun⟩
  | finish =>
    rw [EventWalComparator.call, finish, if_pos (by simp [unfinished])]
    exact ⟨decide_eq_true incomplete, isOpen, unfinished, incomplete⟩

theorem Failed.answers (failed : comparator.Failed) :
    (∀ answer ∈ outputs EventWalComparator.call comparator requests, answer.failed = true) ∧
      (final EventWalComparator.call comparator requests).Failed := by
  induction requests generalizing comparator with
  | nil => exact ⟨nofun, failed⟩
  | cons request requests ih =>
    obtain ⟨first, behind⟩ := failed.call request
    obtain ⟨later, last⟩ := ih behind
    exact ⟨List.forall_mem_cons.mpr ⟨first, later⟩, last⟩

/-- An answer that is a failure leaves one behind. -/
theorem failed_of_answer (isOpen : comparator.isOpen = true) (request : ComparatorCall) :
    (comparator.call request).2.isOpen = true ∧
      ((comparator.call request).1.failed = true → (comparator.call request).2.Failed) := by
  have closed : (!comparator.isOpen) = false := by rw [isOpen, Bool.not_true]
  cases request with
  | publish event =>
    unfold EventWalComparator.call publish stop
    dsimp only
    split_ifs
    · exact ⟨isOpen, fun _ => ⟨isOpen, nofun, nofun⟩⟩
    · exact ⟨isOpen, fun _ => ⟨isOpen, nofun, nofun⟩⟩
    · exact ⟨isOpen, fun _ => ⟨isOpen, nofun, nofun⟩⟩
    · exact ⟨isOpen, fun _ => ⟨isOpen, nofun, nofun⟩⟩
    · exact ⟨isOpen, nofun⟩
  | finish =>
    unfold EventWalComparator.call finish
    rw [closed, Bool.false_or]
    split_ifs with ended missing
    · refine ⟨isOpen, fun failed => ⟨isOpen, ?_, of_decide_eq_true failed⟩⟩
      exact of_decide_eq_true ended
    · exact ⟨isOpen, fun _ => ⟨isOpen, nofun, nofun⟩⟩
    · exact ⟨isOpen, nofun⟩

/-- Behind a failure everything fails. -/
theorem failures_stay (isOpen : comparator.isOpen = true) :
    (outputs call comparator requests).Pairwise fun earlier later =>
      earlier.failed = true → later.failed = true := by
  induction requests generalizing comparator with
  | nil => exact .nil
  | cons request requests ih =>
    obtain ⟨stays, failure⟩ := failed_of_answer isOpen request
    refine .cons (fun later member failed => ?_) (ih stays)
    exact (failure failed).answers.1 later member

/-! ### The comparison -/

/-- Every event in front of a sequence was the recorded one. -/
structure Comparing (config : WalConfig) (payloads : List (List UInt8))
    (lastSequence : EventSequence) (sequence : ℕ) (comparator : EventWalComparator) : Prop where
  isOpen : comparator.isOpen = true
  status : comparator.result.status = .ok
  last : comparator.lastSequence = lastSequence
  next : comparator.nextSequence.toNat = sequence
  room : lastSequence.toNat + 1 < 2 ^ 64
  inside : sequence ≤ lastSequence.toNat + 1
  expected : comparator.expectedBytes.length = config.payloadSize.toNat
  actual : comparator.actualBytes.length = eventWalPayloadSize
  start : config.firstSequence.toNat ≤ sequence
  ahead : WalReader.Ahead config sequence
    (payloads.drop (sequence - config.firstSequence.toNat)) comparator.reader

theorem exists_comparing
    (accepted : ({} : EventWalComparator).open file config firstSequence lastSequence =
      (.ok, comparator)) :
    Readable config ∧ config.payloadSize.toNat = eventWalPayloadSize ∧
      firstSequence.toNat ≤ lastSequence.toNat ∧ ∃ payloads, Records config file payloads ∧
      Comparing config payloads lastSequence firstSequence.toNat comparator := by
  unfold EventWalComparator.open at accepted
  split_ifs at accepted with refused
  · cases congrArg Prod.fst accepted
  simp only [Bool.or_eq_true, decide_eq_true_eq, not_or, not_not, UInt64.lt_iff_toNat_lt,
    Nat.not_lt] at refused
  obtain ⟨⟨⟨⟨⟨⟨positive, ordered⟩, room⟩, start⟩, -⟩, size⟩, -⟩ := refused
  dsimp only at accepted
  split_ifs at accepted with failed unread
  · cases congrArg Prod.fst accepted
  · exact absurd (congrArg Prod.fst accepted) unread
  obtain ⟨readable, payloads, records⟩ := exists_records_of_open (not_not.mp failed)
  obtain ⟨reader, opened, sequence, ahead⟩ := records.opened readable
  rw [opened] at accepted unread
  have small := config.firstSequence.toNat_lt
  have within : min config.firstSequence.toNat (2 ^ 64 - 1) = config.firstSequence.toNat := by omega
  have below : lastSequence.toNat + 1 < 2 ^ 64 := by
    rw [← UInt64.toNat_inj, maxUInt64_toNat] at room
    have := lastSequence.toNat_lt
    omega
  obtain ⟨ahead, fits⟩ := skipRecords_spec readable ahead
    (by rw [sequence, within, UInt64.ofNat_toNat]) start (Nat.le_add_left _ _)
    (List.length_replicate.trans size.symm) (not_not.mp unread)
  refine ⟨readable, size, ordered, payloads, records, ?_⟩
  rw [← (Prod.mk.inj accepted).2]
  exact ⟨rfl, rfl, rfl, rfl, below, ordered.trans (Nat.le_succ _), fits, List.length_replicate,
    start, ahead⟩

/-- A log of events that starts with sequence one is opened there. -/
theorem exists_open_first {payloads : List (List UInt8)} (readable : Readable config)
    (records : Records config file payloads) (kind : config.streamKind = .event)
    (version : config.payloadSchemaVersion = currentEventSchemaVersion)
    (size : config.payloadSize.toNat = eventWalPayloadSize) (first : config.firstSequence = 1)
    (ordered : 1 ≤ lastSequence.toNat) (room : lastSequence ≠ maxUInt64) :
    ∃ comparator, ({} : EventWalComparator).open file config 1 lastSequence = (.ok, comparator) ∧
      Comparing config payloads lastSequence 1 comparator := by
  obtain ⟨reader, opened, sequence, -⟩ := records.opened readable
  have within : ¬ lastSequence < 1 := by
    rw [UInt64.lt_iff_toNat_lt]
    exact Nat.not_lt.mpr ordered
  have accepted : ({} : EventWalComparator).open file config 1 lastSequence = (.ok,
      { reader
        firstSequence := 1
        lastSequence
        nextSequence := 1
        result := ⟨.ok, 0⟩
        isOpen := true }) := by
    rw [EventWalComparator.open, if_neg (by simp [within, room, first, version, size, kind]), opened]
    dsimp only
    rw [if_neg (not_not.mpr rfl), skipRecords_first (sequence.trans first)]
    rfl
  obtain ⟨-, -, -, others, same, comparing⟩ := exists_comparing accepted
  obtain rfl := same.unique readable records
  exact ⟨_, accepted, comparing⟩

/-- The recorded event is accepted, and no other. -/
theorem Comparing.publish (readable : Readable config)
    (size : config.payloadSize.toNat = eventWalPayloadSize)
    (comparing : Comparing config payloads lastSequence sequence comparator)
    (event : RawEventEnvelope) :
    (sequence ≤ lastSequence.toNat ∧ EventAt config payloads sequence event ∧
      (comparator.publish event).1 = .ok ∧
      Comparing config payloads lastSequence (sequence + 1) (comparator.publish event).2) ∨
    (¬ (sequence ≤ lastSequence.toNat ∧ EventAt config payloads sequence event) ∧
      (comparator.publish event).1 = .fatal) := by
  obtain ⟨isOpen, status, last, next, room, inside, expected, actual, start, ahead⟩ := comparing
  unfold EventWalComparator.publish stop
  by_cases past : comparator.nextSequence > comparator.lastSequence
  · rw [if_pos (by simp [past])]
    rw [last, gt_iff_lt, UInt64.lt_iff_toNat_lt, next] at past
    exact .inr ⟨fun ⟨within, _⟩ => by omega, rfl⟩
  rw [if_neg (by simp [isOpen, status, past])]
  rw [last, gt_iff_lt, UInt64.lt_iff_toNat_lt, next, Nat.not_lt] at past
  rcases read_at readable start ahead expected with ⟨missing, failed, -⟩ |
    ⟨bytes, behind, record, fits, small, read, later⟩
  · dsimp only
    rw [if_pos failed]
    refine .inr ⟨fun ⟨_, bytes, record, _⟩ => ?_, rfl⟩
    rw [missing] at record
    cases record
  have place : (UInt64.ofNat sequence).toNat = sequence := UInt64.toNat_ofNat_of_lt' small
  have encoded {other : List UInt8} :
      encodeEventWalPayloadV2 event.payload comparator.actualBytes = (.ok, other) ↔
        encodeEventWalPayloadV2 event.payload (List.replicate eventWalPayloadSize 0) =
          (.ok, other) := encodeEventV2_buffer actual List.length_replicate
  rw [read]
  dsimp only
  rw [if_neg (not_not.mpr rfl)]
  by_cases decoded : (decodeEventWalPayloadV2 bytes {}).1 = .ok
  swap
  · rw [if_pos decoded]
    refine .inr ⟨fun ⟨_, other, record', decodes, _⟩ => ?_, rfl⟩
    obtain rfl := Option.some.inj (record.symm.trans record')
    exact decoded decodes
  rw [if_neg (not_not.mpr decoded)]
  by_cases same : encodeEventWalPayloadV2 event.payload comparator.actualBytes = (.ok, bytes) ∧
      UInt64.ofNat sequence = event.eventSequence
  · obtain ⟨result, same⟩ := same
    rw [result]
    dsimp only
    rw [if_neg (by simp [same])]
    refine .inl ⟨past, ⟨bytes, record, decoded, by rw [← same, place], encoded.mp result⟩, rfl,
      isOpen, status, last, ?_, room, by omega, fits, fits.trans size, start.trans (Nat.le_succ _),
      later⟩
    exact toNat_succ next (by omega)
  · have other : ((decide ((encodeEventWalPayloadV2 event.payload comparator.actualBytes).1 ≠ .ok) ||
        decide (UInt64.ofNat sequence ≠ event.eventSequence) ||
        decide ((encodeEventWalPayloadV2 event.payload comparator.actualBytes).2 ≠ bytes)) =
        true) := by
      by_contra equal
      simp only [Bool.or_eq_true, decide_eq_true_eq, not_or, not_not] at equal
      exact same ⟨Prod.ext equal.1.1 equal.2, equal.1.2⟩
    rw [if_pos other]
    refine .inr ⟨fun ⟨_, other, record', _, number, result⟩ => ?_, rfl⟩
    obtain rfl := Option.some.inj (record.symm.trans record')
    exact same ⟨encoded.mpr result, UInt64.toNat_inj.mp (place.trans number.symm)⟩

/-! ### Runs -/

theorem Failed.verdict (failed : comparator.Failed) : comparator.verdict requests ≠ .complete := by
  obtain ⟨-, last⟩ := @Failed.answers comparator requests failed
  have answer := (last.call .finish).1
  exact of_decide_eq_true answer

/-- All events were the recorded ones, and `finish` has said so. -/
structure Complete (comparator : EventWalComparator) : Prop where
  isOpen : comparator.isOpen = true
  status : comparator.result.status = .complete

/-- A complete comparison stays so until another event comes. -/
theorem Complete.verdict_iff (complete : comparator.Complete) :
    comparator.verdict requests = .complete ↔ ∃ n, requests = List.replicate n .finish := by
  have finished : comparator.finish = (.complete, comparator) := by
    rw [finish, complete.status, if_pos (by simp)]
  induction requests with
  | nil =>
    rw [EventWalComparator.verdict, final, finished]
    exact iff_of_true rfl ⟨0, rfl⟩
  | cons request requests ih =>
    cases request with
    | publish event =>
      have refused : (comparator.call (.publish event)).1.failed = true := by
        rw [call, publish, if_pos (by simp [complete.status]), stop]
        rfl
      have failed := (failed_of_answer complete.isOpen (.publish event)).2 refused
      refine iff_of_false failed.verdict ?_
      rintro ⟨n, same⟩
      cases n <;> cases same
    | finish =>
      have same : comparator.verdict (.finish :: requests) = comparator.verdict requests := by
        rw [EventWalComparator.verdict, final, call, finished]
        rfl
      rw [same]
      refine ih.trans ⟨?_, ?_⟩
      · rintro ⟨n, rfl⟩
        exact ⟨n + 1, rfl⟩
      · rintro ⟨n, same⟩
        cases n with
        | zero => cases same
        | succ n => exact ⟨n, (List.cons.inj same).2⟩

theorem Comparing.finish (comparing : Comparing config payloads lastSequence sequence comparator) :
    (sequence = lastSequence.toNat + 1 ∧ comparator.finish.1 = .complete ∧
      comparator.finish.2.Complete) ∨
    (sequence ≠ lastSequence.toNat + 1 ∧ comparator.finish.1 ≠ .complete) := by
  have one_more : (lastSequence + 1).toNat = lastSequence.toNat + 1 :=
    toNat_succ rfl comparing.room
  unfold EventWalComparator.finish
  rw [if_neg (by simp [comparing.isOpen, comparing.status]), comparing.last]
  by_cases whole : comparator.nextSequence = lastSequence + 1
  · rw [if_neg (not_not.mpr whole)]
    rw [← UInt64.toNat_inj, comparing.next, one_more] at whole
    exact .inl ⟨whole, rfl, comparing.isOpen, rfl⟩
  · rw [if_pos whole]
    rw [← UInt64.toNat_inj, comparing.next, one_more] at whole
    exact .inr ⟨whole, nofun⟩

/-- A comparison becomes complete by the rest of the records, and then by nothing but `finish`. -/
theorem Comparing.verdict_iff (readable : Readable config)
    (size : config.payloadSize.toNat = eventWalPayloadSize)
    (comparing : Comparing config payloads lastSequence sequence comparator) :
    comparator.verdict requests = .complete ↔ ∃ events n,
      requests = events.map .publish ++ List.replicate n .finish ∧
      sequence + events.length = lastSequence.toNat + 1 ∧
      Follows config payloads sequence events := by
  induction requests generalizing sequence comparator with
  | nil =>
    rw [EventWalComparator.verdict, final]
    rcases comparing.finish with ⟨whole, complete, -⟩ | ⟨partly, incomplete⟩
    · exact iff_of_true complete ⟨[], 0, rfl, whole, follows_nil⟩
    · refine iff_of_false incomplete ?_
      rintro ⟨events, n, same, number, -⟩
      obtain ⟨none, -⟩ := List.append_eq_nil_iff.mp same.symm
      rw [List.map_eq_nil_iff.mp none] at number
      exact partly number
  | cons request requests ih =>
    have behind : comparator.verdict (request :: requests) =
        (comparator.call request).2.verdict requests := rfl
    rw [behind]
    cases request with
    | publish event =>
      rcases comparing.publish readable size event with ⟨-, here, -, next⟩ | ⟨other, fatal⟩
      · refine (ih next).trans ⟨?_, ?_⟩
        · rintro ⟨events, n, rfl, number, later⟩
          refine ⟨event :: events, n, rfl, ?_, follows_cons.mpr ⟨here, later⟩⟩
          rw [List.length_cons]
          omega
        · rintro ⟨events, n, same, number, follows⟩
          cases events with
          | nil => cases n <;> cases same
          | cons first events =>
            obtain ⟨first, same⟩ := List.cons.inj same
            rw [List.length_cons] at number
            exact ⟨events, n, same, by omega, (follows_cons.mp follows).2⟩
      · have refused : (comparator.call (.publish event)).1.failed = true := by
          rw [call, fatal]
          rfl
        have failed := (failed_of_answer comparing.isOpen (.publish event)).2 refused
        refine iff_of_false failed.verdict ?_
        rintro ⟨events, n, same, number, follows⟩
        cases events with
        | nil => cases n <;> cases same
        | cons first events =>
          obtain ⟨same, -⟩ := List.cons.inj same
          obtain rfl := ComparatorCall.publish.inj same
          rw [List.length_cons] at number
          exact other ⟨by omega, (follows_cons.mp follows).1⟩
    | finish =>
      rcases comparing.finish with ⟨whole, -, complete⟩ | ⟨partly, incomplete⟩
      · have verdict := @Complete.verdict_iff _ requests complete
        refine verdict.trans ⟨?_, ?_⟩
        · rintro ⟨n, rfl⟩
          exact ⟨[], n + 1, rfl, whole, follows_nil⟩
        · rintro ⟨events, n, same, -, -⟩
          cases events with
          | cons first events => cases same
          | nil =>
            cases n with
            | zero => cases same
            | succ n => exact ⟨n, (List.cons.inj same).2⟩
      · have refused : (comparator.call .finish).1.failed = true := decide_eq_true incomplete
        have failed := (failed_of_answer comparing.isOpen .finish).2 refused
        refine iff_of_false failed.verdict ?_
        rintro ⟨events, n, same, number, -⟩
        cases events with
        | nil => exact partly number
        | cons first events => cases same

theorem publish_only {events others : List RawEventEnvelope} {n : ℕ}
    (same : events.map ComparatorCall.publish = others.map .publish ++ List.replicate n .finish) :
    events = others := by
  induction events generalizing others with
  | nil =>
    obtain ⟨none, -⟩ := List.append_eq_nil_iff.mp same.symm
    exact (List.map_eq_nil_iff.mp none).symm
  | cons event events ih =>
    cases others with
    | nil => cases n <;> cases same
    | cons other others =>
      obtain ⟨first, rest⟩ := List.cons.inj same
      rw [ComparatorCall.publish.inj first, ih rest]

end EventWalComparator

end Comparison

/-- For every range that is accepted the comparison is complete exactly if the events are the
recorded ones, whenever `finish` is called, and a failure is the first of failures only. -/
theorem comparator_accepts_recorded_run (config : WalConfig) (file : Option DiskFile)
    (firstSequence lastSequence : EventSequence) (comparator : EventWalComparator)
    (accepted : ({} : EventWalComparator).open file config firstSequence lastSequence =
      (.ok, comparator)) :
    ∃ payloads, Records config file payloads ∧
      (∀ events, comparator.verdict (events.map .publish) = .complete ↔
        Recorded config payloads firstSequence lastSequence events) ∧
      (∀ requests, comparator.verdict requests = .complete ↔ ∃ events n,
        requests = events.map .publish ++ List.replicate n .finish ∧
        Recorded config payloads firstSequence lastSequence events) ∧
      ∀ requests, (outputs EventWalComparator.call comparator requests).Pairwise
        fun earlier later => earlier.failed = true → later.failed = true := by
  obtain ⟨readable, size, -, payloads, records, comparing⟩ :=
    EventWalComparator.exists_comparing accepted
  have verdict (requests : List ComparatorCall) : comparator.verdict requests = .complete ↔
      ∃ events n, requests = events.map .publish ++ List.replicate n .finish ∧
        Recorded config payloads firstSequence lastSequence events := by
    rw [comparing.verdict_iff readable size]
    constructor
    · rintro ⟨events, n, same, number, follows⟩
      exact ⟨events, n, same, number, follows⟩
    · rintro ⟨events, n, same, number, follows⟩
      exact ⟨events, n, same, number, follows⟩
  refine ⟨payloads, records, fun events => ?_, verdict, fun requests =>
    EventWalComparator.failures_stay comparing.isOpen⟩
  rw [verdict]
  constructor
  · rintro ⟨others, n, same, recorded⟩
    rw [EventWalComparator.publish_only same]
    exact recorded
  · intro recorded
    exact ⟨events, 0, (List.append_nil _).symm, recorded⟩

/-- A stream of events. -/
def eventConfig : WalConfig :=
  { payloadSize := 64, capacity := 1, alignment := 8, payloadSchemaVersion := 2
    streamKind := .event, streamId := 2, epochId := 1, manifestId := 1 }

/-- The event log of a Shutdown accepts that event. -/
theorem comparator_accepts_recorded_run_shutdown : ∃ file comparator,
    ({} : EventWalComparator).open file eventConfig 1 1 = (.ok, comparator) ∧
      comparator.verdict [.publish ⟨1, { message := .shutdown }⟩] = .complete := by
  have valid : Valid eventConfig := validConfig_iff.mp (by decide)
  have loggable : Loggable eventConfig [List.replicate 21 0 ++ 8 :: List.replicate 42 0] :=
    ⟨by simp [eventConfig], by decide⟩
  have room : (fileImage eventConfig [List.replicate 21 0 ++ 8 :: List.replicate 42 0]).length ≤
      maxFileSize := by
    rw [length_fileImage valid loggable.sizes]
    decide
  have records := @records_image _ _ ⟨fileImage eventConfig _, room⟩ loggable rfl
  obtain ⟨comparator, accepted, -⟩ := @EventWalComparator.exists_open_first _ _ 1 _ valid.single records
    rfl rfl rfl rfl le_rfl (by decide)
  obtain ⟨payloads, records', iff, -⟩ := comparator_accepts_recorded_run _ _ _ _ _ accepted
  obtain rfl := records'.unique valid.single records
  refine ⟨_, _, accepted, (iff [⟨1, { message := .shutdown }⟩]).mpr ⟨rfl, ?_⟩⟩
  exact follows_cons.mpr ⟨⟨_, rfl, by decide, rfl, by decide⟩, follows_nil⟩

end Fexma
