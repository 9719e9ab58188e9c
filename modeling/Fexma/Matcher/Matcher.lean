import Fexma.Matcher.Types
import Fexma.OrderBook.Book
import Fexma.Library.Transducer

/-! The matcher (`matcher.hpp`): one command at a time against one book, its
events published one behind the other with the last one of a command marked. -/
namespace Fexma

/-- Where events go; it may fail at any publication. -/
class EventWriter (ω : Type) where
  publish : ω → EventEnvelope → PublishStatus × ω

/-- A writer that accepts everything. -/
instance : EventWriter (List EventEnvelope) where
  publish events envelope := (.ok, events ++ [envelope])

/-- What a snapshot store is shown at a SaveSnapshot. -/
structure MatcherSnapshotView where
  saveSnapshotCommandSequence : CommandSequence
  lastOrderId : OrderId
  nextEventSequence : EventSequence
  bookConfig : OrderBookConfig
  book : Book

class SnapshotStore (σ : Type) where
  capture : σ → MatcherSnapshotView → SnapshotOperationStatus × σ
  load : σ → LoadSnapshotCommand → SnapshotOperationStatus × MatcherSnapshotImage × σ

/-- The store of a matcher that has none: it keeps nothing and has nothing to load. -/
structure NullSnapshotStore where

instance : SnapshotStore NullSnapshotStore where
  capture store _ := (.ok, store)
  load store _ := (.unavailable, {}, store)

structure Matcher (ω σ : Type) where
  eventWriter : ω
  snapshotStore : σ
  bookConfig : OrderBookConfig
  book : Book
  lastOrderId : OrderId := 0
  nextEventSequence : EventSequence := 1
  liveResumeEventSequence : EventSequence := 0
  deferredEventSequence : EventSequence := 0
  replayMode : ReplayMode := .live
  deferredMode : Option ReplayMode := none
  deferredStartReplay : Bool := false
  running : Bool := true
  fatal : Bool := false
  fatalReason : FatalReason := .none
  /-- The envelopes the writer has accepted. The code keeps no such list. -/
  published : List EventEnvelope := []

structure CommandEventBatch where
  clientId : ClientId
  commandSequence : CommandSequence
  pending : Event := .none
  pendingIndex : EventIndex := 0
  nextIndex : EventIndex := 0
  hasPending : Bool := false
  failed : Bool := false
  deriving DecidableEq, Repr

/-- The matcher and its batch during one command. -/
structure Processing (ω σ : Type) where
  matcher : Matcher ω σ
  events : CommandEventBatch

variable {ω σ : Type} [EventWriter ω] [SnapshotStore σ]

namespace Matcher

def create (eventWriter : ω) (snapshotStore : σ) (bookConfig : OrderBookConfig)
    (firstEventSequence : EventSequence := 1) : Option (Matcher ω σ) :=
  (Book.create bookConfig).map fun book =>
    { eventWriter, snapshotStore, bookConfig, book, nextEventSequence := firstEventSequence }

def transitionToFatalState (matcher : Matcher ω σ) (reason : FatalReason) : Matcher ω σ :=
  { matcher with fatal := true, running := false, fatalReason := reason }

def publishEvent (matcher : Matcher ω σ) (envelope : EventEnvelope) : Bool × Matcher ω σ :=
  let (status, eventWriter) := EventWriter.publish matcher.eventWriter envelope
  if status ≠ .ok then
    (false, { matcher with eventWriter }.transitionToFatalState .eventWriterFatal)
  else
    (true, { matcher with
      eventWriter
      nextEventSequence := matcher.nextEventSequence + 1
      published := matcher.published ++ [envelope] })

/-- The deferred mode is applied behind a deferred start. -/
def applyDeferredReplayTransition (matcher : Matcher ω σ) : Matcher ω σ :=
  let matcher :=
    if matcher.deferredStartReplay then
      { matcher with
        liveResumeEventSequence := matcher.nextEventSequence
        replayMode := .replay
        deferredStartReplay := false }
    else matcher
  let matcher :=
    if matcher.deferredEventSequence ≠ 0 then
      { matcher with
        nextEventSequence := matcher.deferredEventSequence, deferredEventSequence := 0 }
    else matcher
  match matcher.deferredMode with
  | some replayMode => { matcher with replayMode, deferredMode := none }
  | none => matcher

def withBook (matcher : Matcher ω σ) (book : Book) : Matcher ω σ := { matcher with book }

def oppositeSide : Side → Side
  | .bid => .ask
  | .ask => .bid

def crosses (incomingSide : Side) (incomingPrice restingPrice : PriceTick) : Bool :=
  match incomingSide with
  | .bid => restingPrice ≤ incomingPrice
  | .ask => incomingPrice ≤ restingPrice

def sameConfig (lhs rhs : OrderBookConfig) : Bool :=
  lhs.minPriceTick == rhs.minPriceTick && lhs.maxPriceTick == rhs.maxPriceTick &&
    lhs.maxOrders == rhs.maxOrders

end Matcher

namespace Processing

def publishPending (s : Processing ω σ) (isLastForCommand : Bool) : Bool × Processing ω σ :=
  let envelope : EventEnvelope :=
    { eventSequence := s.matcher.nextEventSequence
      payload :=
        { clientId := s.events.clientId
          causedByCommandSequence := s.events.commandSequence
          indexInCommand := s.events.pendingIndex
          isLastForCommand
          message := s.events.pending } }
  match s.matcher.publishEvent envelope with
  | (false, matcher) => (false, { matcher, events := { s.events with failed := true } })
  | (true, matcher) => (true, { matcher, events := { s.events with hasPending := false } })

/-- Publish the event that waits and let the new one wait in its place. -/
def add (s : Processing ω σ) (payload : Event) : Bool × Processing ω σ :=
  let (ok, s) := if s.events.hasPending then s.publishPending false else (true, s)
  if !ok then (false, s)
  else (true, { s with
    events := { s.events with
      pending := payload
      pendingIndex := s.events.nextIndex
      nextIndex := s.events.nextIndex + 1
      hasPending := true } })

def finish (s : Processing ω σ) : Bool × Processing ω σ :=
  if s.events.hasPending then s.publishPending true else (false, s)

/-- The handlers' `if (!events.add(event)) return Fatal;` in front of what follows. -/
def emit (s : Processing ω σ) (event : Event)
    (andThen : Processing ω σ → ProcessResult × Processing ω σ) :
    ProcessResult × Processing ω σ :=
  match s.add event with
  | (false, s) => ({ status := .fatal, fatalReason := s.matcher.fatalReason }, s)
  | (true, s) => andThen s

/-- `return {ProcessStatus::Continue};` -/
def proceed (s : Processing ω σ) : ProcessResult × Processing ω σ := ({ status := .continue }, s)

def withBook (s : Processing ω σ) (book : Book) : Processing ω σ :=
  { s with matcher := s.matcher.withBook book }

def enterFatalProcess (s : Processing ω σ) (reason : FatalReason)
    (offendingOrderId lastOrderId : OrderId) : ProcessResult × Processing ω σ :=
  let stop (s : Processing ω σ) : ProcessResult × Processing ω σ :=
    let matcher := s.matcher.transitionToFatalState reason
    ({ status := .fatal, fatalReason := matcher.fatalReason }, { s with matcher })
  if reason ≠ .eventWriterFatal then s.emit (.fatal reason offendingOrderId lastOrderId) stop
  else stop s

def processSaveSnapshot (s : Processing ω σ) (commandSequence : CommandSequence) :
    ProcessResult × Processing ω σ :=
  let snapshot : MatcherSnapshotView :=
    { saveSnapshotCommandSequence := commandSequence
      lastOrderId := s.matcher.lastOrderId
      nextEventSequence := s.matcher.nextEventSequence + 1
      bookConfig := s.matcher.bookConfig
      book := s.matcher.book }
  let (captured, snapshotStore) := SnapshotStore.capture s.matcher.snapshotStore snapshot
  let s := { s with matcher := { s.matcher with snapshotStore } }
  if captured ≠ .ok then
    s.enterFatalProcess .snapshotCaptureFailed 0 s.matcher.lastOrderId
  else s.emit .saveSnapshot proceed

def processLoadSnapshot (s : Processing ω σ) (command : LoadSnapshotCommand) :
    ProcessResult × Processing ω σ :=
  let (loaded, snapshot, snapshotStore) := SnapshotStore.load s.matcher.snapshotStore command
  let s := { s with matcher := { s.matcher with snapshotStore } }
  if loaded ≠ .ok then
    s.enterFatalProcess
      (if loaded = .unavailable then .snapshotLoadUnavailable else .snapshotLoadInvalid)
      0 s.matcher.lastOrderId
  else if !Matcher.sameConfig snapshot.bookConfig s.matcher.bookConfig ||
      snapshot.saveSnapshotCommandSequence ≠ command.saveSnapshotCommandSequence ||
      snapshot.epochId ≠ command.snapshotEpochId then
    s.enterFatalProcess .snapshotLoadInvalid 0 s.matcher.lastOrderId
  else
    let (restored, book) := s.matcher.book.restore snapshot.orders
    let s := s.withBook book
    if restored.status ≠ .ok then
      s.enterFatalProcess .snapshotLoadInvalid 0 s.matcher.lastOrderId
    else
      let matcher := { s.matcher with lastOrderId := snapshot.lastOrderId }
      let matcher := match matcher.replayMode with
        | .replay => { matcher with deferredEventSequence := snapshot.nextEventSequence }
        | .restoring =>
          { matcher with
            deferredEventSequence := matcher.liveResumeEventSequence, deferredMode := some .live }
        | .live => matcher
      { s with matcher }.emit
        (.loadSnapshot command.saveSnapshotCommandSequence command.snapshotEpochId) proceed

/-- What follows the matching loop. -/
def settle (incoming : NewLimitOrder) (remaining : Quantity) (s : Processing ω σ) :
    ProcessResult × Processing ω σ :=
  if remaining = 0 then s.emit (.done incoming.id) proceed
  else
    let (inserted, book) := s.matcher.book.insert
      { id := incoming.id, ownerId := incoming.ownerId, side := incoming.side
        price := incoming.price, quantity := remaining }
    let s := s.withBook book
    if inserted ≠ .ok then
      if remaining = incoming.quantity then
        s.emit (.rejected incoming.id .bookInsertFailed) proceed
      else
        s.enterFatalProcess .bookInsertFailedAfterExecution incoming.id s.matcher.lastOrderId
    else
      s.emit (.rested ⟨incoming.id, incoming.ownerId, incoming.side, incoming.price, remaining⟩)
        proceed

/-- The matching loop. Every turn executes at least one unit, so the quantity of
the order is enough fuel for it. -/
def matchLoop (incoming : NewLimitOrder) :
    ℕ → Quantity → Processing ω σ → ProcessResult × Processing ω σ
  | 0, remaining, s => settle incoming remaining s
  | fuel + 1, remaining, s =>
    if remaining = 0 then settle incoming remaining s
    else match s.matcher.book.best (Matcher.oppositeSide incoming.side) with
      | none => settle incoming remaining s
      | some resting =>
        if !Matcher.crosses incoming.side incoming.price resting.price then
          settle incoming remaining s
        else
          let executed := min remaining resting.remaining
          s.emit (.trade ⟨incoming.id, resting.id, incoming.ownerId, resting.ownerId,
              resting.price, executed⟩) fun s =>
            let remaining := remaining - executed
            let restingRemaining := resting.remaining - executed
            if restingRemaining = 0 then
              let (erased, book) := s.matcher.book.erase resting.id
              let s := s.withBook book
              if erased.status ≠ .ok then
                s.enterFatalProcess .bookEraseFailedAfterExecution incoming.id
                  s.matcher.lastOrderId
              else s.emit (.done resting.id) fun s => matchLoop incoming fuel remaining s
            else
              let (changed, book) := s.matcher.book.setRemaining resting.id restingRemaining
              let s := s.withBook book
              if changed.status ≠ .ok then
                s.enterFatalProcess .bookUpdateFailedAfterExecution incoming.id
                  s.matcher.lastOrderId
              else matchLoop incoming fuel remaining s

def processNewLimit (s : Processing ω σ) (incoming : NewLimitOrder) :
    ProcessResult × Processing ω σ :=
  if incoming.id ≤ s.matcher.lastOrderId then
    s.enterFatalProcess .nonMonotonicOrderId incoming.id s.matcher.lastOrderId
  else
    let s := { s with matcher := { s.matcher with lastOrderId := incoming.id } }
    if incoming.quantity = 0 then
      s.emit (.rejected incoming.id .invalidQuantity) proceed
    else
      s.emit (.accepted incoming.id) fun s =>
        matchLoop incoming incoming.quantity.toNat incoming.quantity s

def applyDeferredReplayTransition (s : Processing ω σ) : Processing ω σ :=
  { s with matcher := s.matcher.applyDeferredReplayTransition }

/-- `events.finish()`, unless a publication has failed, and the deferred transition. -/
def finishCommand (processed : ProcessResult) (s : Processing ω σ) :
    ProcessResult × Processing ω σ :=
  if s.events.failed then (processed, s.applyDeferredReplayTransition)
  else match s.finish with
    | (false, s) => ({ status := .fatal, fatalReason := s.matcher.fatalReason }, s)
    | (true, s) => (processed, s.applyDeferredReplayTransition)

/-- What follows the branches of `process`. -/
def conclude (processed : ProcessResult) (s : Processing ω σ) : ProcessResult × Processing ω σ :=
  if !s.events.failed && !s.events.hasPending then
    s.emit (.fatal .commandProducedNoEvent 0 s.matcher.lastOrderId) fun s =>
      finishCommand { status := .fatal, fatalReason := .commandProducedNoEvent }
        { s with matcher := s.matcher.transitionToFatalState .commandProducedNoEvent }
  else finishCommand processed s

/-- The branches of `process`. -/
def dispatch (s : Processing ω σ) (commandSequence : CommandSequence) :
    Command → ProcessResult × Processing ω σ
  | .none | .unknown _ => s.emit (.rejected 0 .unknownCommand) fun s => s.conclude {}
  | .newLimit order =>
    let (processed, s) := s.processNewLimit order
    s.conclude processed
  | .saveSnapshot =>
    let (processed, s) := s.processSaveSnapshot commandSequence
    s.conclude processed
  | .loadSnapshot command =>
    let (processed, s) := s.processLoadSnapshot command
    s.conclude processed
  | .shutdown => s.emit .shutdown fun s =>
      { s with matcher := { s.matcher with running := false } }.conclude { status := .stop }
  | .startReplay => s.emit .startReplay fun s =>
      (if s.matcher.replayMode = .live then
        { s with matcher := { s.matcher with deferredStartReplay := true } }
      else s).conclude {}
  | .stopReplay => s.emit .stopReplay fun s =>
      (if s.matcher.replayMode = .replay then
        { s with matcher := { s.matcher with deferredMode := some .restoring } }
      else s).conclude {}

end Processing

/-- The batch of a command before its first event. -/
def CommandEventBatch.start (envelope : CommandEnvelope) : CommandEventBatch :=
  { clientId := envelope.payload.clientId, commandSequence := envelope.commandSequence }

namespace Matcher

def process (matcher : Matcher ω σ) (envelope : CommandEnvelope) :
    ProcessResult × Matcher ω σ :=
  if matcher.fatal then ({ status := .fatal, fatalReason := matcher.fatalReason }, matcher)
  else
    let s : Processing ω σ := { matcher, events := .start envelope }
    let (processed, s) := s.dispatch envelope.commandSequence envelope.payload.message
    (processed, s.matcher)

/-- The matcher behind a sequence of commands. -/
def processAll (matcher : Matcher ω σ) (envelopes : List CommandEnvelope) : Matcher ω σ :=
  Transducer.final process matcher envelopes

end Matcher

end Fexma
