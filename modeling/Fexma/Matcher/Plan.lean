import Fexma.Matcher.Matcher

/-! What a command does when every publication succeeds, told on the abstract
book: its events in order, each with the book at the moment it is announced, and
the state behind the last one. -/
namespace Fexma

/-- Events, each with the book at its announcement. -/
abbrev Trace := List (PriceTimeBook × Event)

def Trace.books (trace : Trace) : List PriceTimeBook := trace.map Prod.fst

def Trace.events (trace : Trace) : List Event := trace.map Prod.snd

section Trace
variable (step : PriceTimeBook × Event) (trace more : Trace)

@[simp] theorem Trace.books_nil : Trace.books [] = [] := rfl
@[simp] theorem Trace.events_nil : Trace.events [] = [] := rfl

@[simp] theorem Trace.books_cons : Trace.books (step :: trace) = step.1 :: trace.books := rfl
@[simp] theorem Trace.events_cons : Trace.events (step :: trace) = step.2 :: trace.events := rfl

@[simp] theorem Trace.books_append : Trace.books (trace ++ more) = trace.books ++ more.books :=
  List.map_append

@[simp] theorem Trace.events_append :
    Trace.events (trace ++ more) = trace.events ++ more.events := List.map_append

end Trace

/-- The matching of one order against a side of the book. -/
structure Fills where
  steps : Trace
  /-- What is left of the incoming order. -/
  remaining : Quantity
  book : PriceTimeBook

def tradeWith (incoming : NewLimitOrder) (maker : OrderView) (executed : Quantity) : Event :=
  .trade ⟨incoming.id, maker.id, incoming.ownerId, maker.ownerId, maker.price, executed⟩

/-- Trade down a priority list as long as it crosses and quantity is left. -/
def fill (incoming : NewLimitOrder) : Quantity → List OrderView → PriceTimeBook → Fills
  | remaining, [], book => ⟨[], remaining, book⟩
  | remaining, maker :: makers, book =>
    if remaining = 0 ∨ ¬ Matcher.crosses incoming.side incoming.price maker.price then
      ⟨[], remaining, book⟩
    else if maker.remaining ≤ remaining then
      let rest := fill incoming (remaining - maker.remaining) makers (book.drop maker.id)
      ⟨(book, tradeWith incoming maker maker.remaining) ::
        (book.drop maker.id, .done maker.id) :: rest.steps, rest.remaining, rest.book⟩
    else if partly : maker.remaining - remaining ≠ 0 then
      ⟨[(book, tradeWith incoming maker remaining)], 0,
        book.update maker.id (maker.remaining - remaining) partly⟩
    else ⟨[], remaining, book⟩

section Fill
variable {incoming : NewLimitOrder} {remaining : Quantity} {maker : OrderView}
variable {makers : List OrderView} {book : PriceTimeBook}

theorem sub_ne_zero {executed available : Quantity} (less : executed < available) :
    available - executed ≠ 0 := by
  intro zero
  have gap := congrArg UInt32.toNat zero
  have below := UInt32.lt_iff_toNat_lt.mp less
  rw [UInt32.toNat_sub_of_le _ _ (UInt32.le_of_lt less), UInt32.toNat_zero] at gap
  omega

theorem fill_nil : fill incoming remaining [] book = ⟨[], remaining, book⟩ := by rw [fill]

theorem fill_stop (stops : remaining = 0 ∨
      ¬ Matcher.crosses incoming.side incoming.price maker.price) :
    fill incoming remaining (maker :: makers) book = ⟨[], remaining, book⟩ := by
  rw [fill, if_pos stops]

theorem fill_whole (some_left : remaining ≠ 0)
    (crossing : Matcher.crosses incoming.side incoming.price maker.price)
    (enough : maker.remaining ≤ remaining) :
    fill incoming remaining (maker :: makers) book =
      let behind := fill incoming (remaining - maker.remaining) makers (book.drop maker.id)
      ⟨(book, tradeWith incoming maker maker.remaining) ::
        (book.drop maker.id, .done maker.id) :: behind.steps, behind.remaining, behind.book⟩ := by
  rw [fill, if_neg (not_or.mpr ⟨some_left, not_not.mpr crossing⟩), if_pos enough]

theorem fill_part (some_left : remaining ≠ 0)
    (crossing : Matcher.crosses incoming.side incoming.price maker.price)
    (more : remaining < maker.remaining) :
    fill incoming remaining (maker :: makers) book =
      ⟨[(book, tradeWith incoming maker remaining)], 0,
        book.update maker.id (maker.remaining - remaining) (sub_ne_zero more)⟩ := by
  rw [fill, if_neg (not_or.mpr ⟨some_left, not_not.mpr crossing⟩),
    if_neg (UInt32.not_le.mpr more), dif_pos (sub_ne_zero more)]

end Fill

/-- A command's whole effect. -/
structure Plan (σ : Type) where
  steps : Trace
  book : PriceTimeBook
  lastOrderId : OrderId
  snapshotStore : σ
  result : ProcessResult := {}
  startReplay : Bool := false
  /-- The event sequence to go on with, if not zero. -/
  eventSequence : EventSequence := 0
  mode : Option ReplayMode := none

/-- The plan of a command that stops the matcher with one event. -/
def Plan.stopping {σ : Type} (reason : FatalReason) (offendingOrderId lastOrderId : OrderId)
    (book : PriceTimeBook) (snapshotStore : σ) : Plan σ :=
  { steps := [(book, .fatal reason offendingOrderId lastOrderId)]
    book, lastOrderId, snapshotStore
    result := { status := .fatal, fatalReason := reason } }

/-- The order as it comes to rest. -/
def NewLimitOrder.resting (incoming : NewLimitOrder) (remaining : Quantity) : RestingOrderData :=
  { id := incoming.id, ownerId := incoming.ownerId, side := incoming.side
    price := incoming.price, quantity := remaining }

/-- What becomes of the remainder of an order. -/
def settlePlan {σ : Type} (incoming : NewLimitOrder) (fills : Fills) (snapshotStore : σ) : Plan σ :=
  let closing (event : Event) (book : PriceTimeBook) : Plan σ :=
    { steps := [(book, event)], book, lastOrderId := incoming.id, snapshotStore }
  if fills.remaining = 0 then closing (.done incoming.id) fills.book
  else
    let inserted := fills.book.insert (incoming.resting fills.remaining)
    if inserted.1 = .ok then
      closing (.rested ⟨incoming.id, incoming.ownerId, incoming.side, incoming.price,
        fills.remaining⟩) inserted.2
    else if fills.remaining = incoming.quantity then
      closing (.rejected incoming.id .bookInsertFailed) fills.book
    else .stopping .bookInsertFailedAfterExecution incoming.id incoming.id fills.book snapshotStore

theorem settlePlan_lastOrderId {σ : Type} (incoming : NewLimitOrder) (fills : Fills)
    (snapshotStore : σ) : (settlePlan incoming fills snapshotStore).lastOrderId = incoming.id := by
  simp only [settlePlan]
  split_ifs <;> rfl

/-- The plan with steps in front of its own. -/
def Plan.after {σ : Type} (steps : Trace) (plan : Plan σ) : Plan σ :=
  { plan with steps := steps ++ plan.steps }

def newLimitPlan {σ : Type} (incoming : NewLimitOrder) (book : PriceTimeBook)
    (lastOrderId : OrderId) (snapshotStore : σ) : Plan σ :=
  if incoming.id ≤ lastOrderId then
    .stopping .nonMonotonicOrderId incoming.id lastOrderId book snapshotStore
  else if incoming.quantity = 0 then
    { steps := [(book, .rejected incoming.id .invalidQuantity)]
      book, lastOrderId := incoming.id, snapshotStore }
  else
    let fills := fill incoming incoming.quantity (book.orders (Matcher.oppositeSide incoming.side))
      book
    (settlePlan incoming fills snapshotStore).after ((book, .accepted incoming.id) :: fills.steps)

namespace Matcher

variable {ω σ : Type} [SnapshotStore σ] (matcher : Matcher ω σ)

/-- The plan of a command that announces one event and keeps the book. -/
def announcing (event : Event) : Plan σ :=
  { steps := [(matcher.book.contents, event)]
    book := matcher.book.contents
    lastOrderId := matcher.lastOrderId
    snapshotStore := matcher.snapshotStore }

/-- What the store is shown at a SaveSnapshot. -/
def snapshotView (commandSequence : CommandSequence) : MatcherSnapshotView :=
  { saveSnapshotCommandSequence := commandSequence
    lastOrderId := matcher.lastOrderId
    nextEventSequence := matcher.nextEventSequence + 1
    bookConfig := matcher.bookConfig
    book := matcher.book }

def saveSnapshotPlan (commandSequence : CommandSequence) : Plan σ :=
  match SnapshotStore.capture matcher.snapshotStore (matcher.snapshotView commandSequence) with
  | (.ok, snapshotStore) => { matcher.announcing .saveSnapshot with snapshotStore }
  | (_, snapshotStore) =>
    .stopping .snapshotCaptureFailed 0 matcher.lastOrderId matcher.book.contents snapshotStore

/-- The image names the configuration of the matcher and the snapshot asked for. -/
def acceptsImage (command : LoadSnapshotCommand) (snapshot : MatcherSnapshotImage) : Bool :=
  sameConfig snapshot.bookConfig matcher.bookConfig &&
    snapshot.saveSnapshotCommandSequence == command.saveSnapshotCommandSequence &&
    snapshot.epochId == command.snapshotEpochId

def loadSnapshotPlan (command : LoadSnapshotCommand) : Plan σ :=
  let stopping (reason : FatalReason) : PriceTimeBook → σ → Plan σ :=
    .stopping reason 0 matcher.lastOrderId
  match SnapshotStore.load matcher.snapshotStore command with
  | (.ok, snapshot, snapshotStore) =>
    if !matcher.acceptsImage command snapshot then
      stopping .snapshotLoadInvalid matcher.book.contents snapshotStore
    else
      let restored := matcher.book.contents.restore snapshot.orders
      if restored.1.status ≠ .ok then stopping .snapshotLoadInvalid restored.2 snapshotStore
      else
        { steps := [(restored.2,
            .loadSnapshot command.saveSnapshotCommandSequence command.snapshotEpochId)]
          book := restored.2, snapshotStore
          lastOrderId := snapshot.lastOrderId
          eventSequence := match matcher.replayMode with
            | .replay => snapshot.nextEventSequence
            | .restoring => matcher.liveResumeEventSequence
            | .live => 0
          mode := if matcher.replayMode = .restoring then some .live else none }
  | (status, _, snapshotStore) =>
    stopping (if status = .unavailable then .snapshotLoadUnavailable else .snapshotLoadInvalid)
      matcher.book.contents snapshotStore

def plan (envelope : CommandEnvelope) : Plan σ :=
  match envelope.payload.message with
  | .none | .unknown _ => matcher.announcing (.rejected 0 .unknownCommand)
  | .newLimit order =>
    newLimitPlan order matcher.book.contents matcher.lastOrderId matcher.snapshotStore
  | .saveSnapshot => matcher.saveSnapshotPlan envelope.commandSequence
  | .loadSnapshot command => matcher.loadSnapshotPlan command
  | .shutdown => { matcher.announcing .shutdown with result := { status := .stop } }
  | .startReplay =>
    { matcher.announcing .startReplay with startReplay := matcher.replayMode = .live }
  | .stopReplay =>
    { matcher.announcing .stopReplay with
      mode := if matcher.replayMode = .replay then some .restoring else none }

end Matcher

end Fexma
