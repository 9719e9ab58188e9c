import Fexma.Matcher.Matching

/-! `process` carries out the plan of its command. It either publishes all the
events of the plan, framed as one group, or a publication is refused and it stops
with the events in front of the refused one published. -/
namespace Fexma

open PriceTimeBook

/-- The envelope of the event at a position in its command. -/
def frame (first : EventSequence) (envelope : CommandEnvelope) (last : Bool) (index : ℕ)
    (event : Event) : EventEnvelope :=
  { eventSequence := first + .ofNat index
    payload :=
      { clientId := envelope.payload.clientId
        causedByCommandSequence := envelope.commandSequence
        indexInCommand := .ofNat index
        isLastForCommand := last
        message := event } }

/-- The envelopes of a command that is not finished yet. -/
def openGroup (first : EventSequence) (envelope : CommandEnvelope) (events : List Event) :
    List EventEnvelope :=
  events.mapIdx (frame first envelope false)

/-- The envelopes of a finished command: the last one is marked. -/
def closedGroup (first : EventSequence) (envelope : CommandEnvelope) (events : List Event) :
    List EventEnvelope :=
  events.mapIdx fun index => frame first envelope (index + 1 = events.length) index

section Groups
variable {first : EventSequence} {envelope : CommandEnvelope} {events : List Event} {event : Event}

@[simp] theorem openGroup_nil : openGroup first envelope [] = [] := rfl

theorem openGroup_concat : openGroup first envelope (events ++ [event]) =
    openGroup first envelope events ++ [frame first envelope false events.length event] :=
  List.mapIdx_concat

@[simp] theorem length_openGroup : (openGroup first envelope events).length = events.length :=
  List.length_mapIdx

@[simp] theorem length_closedGroup : (closedGroup first envelope events).length = events.length :=
  List.length_mapIdx

theorem closedGroup_concat : closedGroup first envelope (events ++ [event]) =
    openGroup first envelope events ++ [frame first envelope true events.length event] := by
  rw [closedGroup, List.mapIdx_concat]
  congr 1
  · refine List.mapIdx_eq_mapIdx_iff.mpr fun index inside => ?_
    simp [inside.ne]
  · simp

theorem closedGroup_messages :
    (closedGroup first envelope events).map (fun event => event.payload.message) = events := by
  refine List.ext_getElem (by simp) fun index inside bound => ?_
  simp [closedGroup, frame]

end Groups

variable {ω σ : Type} [EventWriter ω]

namespace Matcher

/-- The matcher with the events of an unfinished command published. -/
def sent (matcher : Matcher ω σ) (envelope : CommandEnvelope) (eventWriter : ω)
    (events : List Event) : Matcher ω σ :=
  { matcher with
    eventWriter
    nextEventSequence := matcher.nextEventSequence + .ofNat events.length
    published := matcher.published ++ openGroup matcher.nextEventSequence envelope events }

/-- The matcher with a whole command published. -/
def closed (matcher : Matcher ω σ) (envelope : CommandEnvelope) (eventWriter : ω)
    (events : List Event) : Matcher ω σ :=
  { matcher with
    eventWriter
    nextEventSequence := matcher.nextEventSequence + .ofNat events.length
    published := matcher.published ++ closedGroup matcher.nextEventSequence envelope events }

/-- The last thing the writer did was to refuse an envelope. -/
def HasRefused (eventWriter : ω) : Prop :=
  ∃ before envelope, (EventWriter.publish before envelope).1 ≠ .ok ∧
    (EventWriter.publish before envelope).2 = eventWriter

/-- The writer accepts every envelope in every state. -/
def HealthyWriter (ω : Type) [EventWriter ω] : Prop :=
  ∀ (eventWriter : ω) (envelope : EventEnvelope), (EventWriter.publish eventWriter envelope).1 = .ok

end Matcher

namespace Processing

/-- All events but the last one are published, the last one waits. -/
def announced (matcher : Matcher ω σ) (envelope : CommandEnvelope) (eventWriter : ω)
    (events : List Event) : Processing ω σ where
  matcher := matcher.sent envelope eventWriter events.dropLast
  events :=
    { CommandEventBatch.start envelope with
      pending := events.getLast?.getD .none
      pendingIndex := .ofNat (events.length - 1)
      nextIndex := .ofNat events.length
      hasPending := !events.isEmpty }

/-- A publication was refused with a proper part of the events published, the
matcher being otherwise one of `bases`. -/
def Refused (bases : Matcher ω σ → Prop) (envelope : CommandEnvelope) (events : List Event)
    (s : Processing ω σ) : Prop :=
  ∃ base eventWriter count, bases base ∧ count < events.length ∧ Matcher.HasRefused eventWriter ∧
    s.matcher = (base.sent envelope eventWriter (events.take count)).transitionToFatalState
      .eventWriterFatal ∧ s.events.failed

section Batch
variable {matcher : Matcher ω σ} {bases bases' : Matcher ω σ → Prop} {envelope : CommandEnvelope}
variable {eventWriter eventWriter' : ω} {events events' : List Event} {event : Event}
variable {s : Processing ω σ}

theorem Refused.mono (refused : Refused bases envelope events s)
    (more : ∀ base, bases base → bases' base) (longer : events <+: events') :
    Refused bases' envelope events' s := by
  obtain ⟨base, eventWriter, count, allowed, inside, fails, stopped, failed⟩ := refused
  obtain ⟨rest, rfl⟩ := longer
  refine ⟨base, eventWriter, count, more base allowed, ?_, fails, ?_, failed⟩
  · rw [List.length_append]
    omega
  · rw [List.take_append_of_le_length inside.le]
    exact stopped

omit [EventWriter ω] in
theorem announced_nil : announced matcher envelope eventWriter [] =
    { matcher := { matcher with eventWriter }, events := .start envelope } := by
  simp [announced, Matcher.sent, CommandEventBatch.start]

theorem publishPending_ok (accepted : EventWriter.publish eventWriter
      (frame matcher.nextEventSequence envelope false events.length event) = (.ok, eventWriter')) :
    (announced matcher envelope eventWriter (events ++ [event])).publishPending false =
      (true, { matcher := matcher.sent envelope eventWriter' (events ++ [event])
               events := { (announced matcher envelope eventWriter (events ++ [event])).events with
                 hasPending := false } }) := by
  simp only [frame] at accepted
  simp [publishPending, announced, Matcher.publishEvent, Matcher.sent, CommandEventBatch.start,
    accepted, openGroup_concat, frame, UInt64.ofNat_add, UInt64.add_assoc]

theorem publishPending_closes (accepted : EventWriter.publish eventWriter
      (frame matcher.nextEventSequence envelope true events.length event) = (.ok, eventWriter')) :
    (announced matcher envelope eventWriter (events ++ [event])).publishPending true =
      (true, { matcher := matcher.closed envelope eventWriter' (events ++ [event])
               events := { (announced matcher envelope eventWriter (events ++ [event])).events with
                 hasPending := false } }) := by
  simp only [frame] at accepted
  simp [publishPending, announced, Matcher.publishEvent, Matcher.sent, Matcher.closed,
    CommandEventBatch.start, accepted, closedGroup_concat, frame, UInt64.ofNat_add,
    UInt64.add_assoc]

theorem publishPending_refused {last : Bool} (refused : EventWriter.publish eventWriter
      (frame matcher.nextEventSequence envelope last events.length event) = (.fatal, eventWriter')) :
    (announced matcher envelope eventWriter (events ++ [event])).publishPending last =
      (false, { matcher :=
                  (matcher.sent envelope eventWriter' events).transitionToFatalState
                    .eventWriterFatal
                events := { (announced matcher envelope eventWriter (events ++ [event])).events with
                  failed := true } }) := by
  simp only [frame] at refused
  simp [publishPending, announced, Matcher.publishEvent, Matcher.sent, CommandEventBatch.start,
    refused]

/-- An emitted event waits behind the others, unless the one in front of it is refused. -/
theorem emit_cases (matcher : Matcher ω σ) {andThen : Processing ω σ → ProcessResult × Processing ω σ}
    (Q : ProcessResult × Processing ω σ → Prop)
    (refused : ∀ s, Refused (· = matcher) envelope events s →
      Q ({ status := .fatal, fatalReason := .eventWriterFatal }, s))
    (added : ∀ eventWriter', Q (andThen (announced matcher envelope eventWriter' (events ++ [event])))) :
    Q ((announced matcher envelope eventWriter events).emit event andThen) := by
  rcases List.eq_nil_or_concat events with rfl | ⟨before, last, rfl⟩
  · have start : (announced matcher envelope eventWriter []).add event =
        (true, announced matcher envelope eventWriter [event]) := by
      simp [add, announced]
    rw [emit, start]
    exact added eventWriter
  · rw [List.concat_eq_append] at refused added ⊢
    have pending : (announced matcher envelope eventWriter (before ++ [last])).events.hasPending =
        true := by simp [announced]
    cases published : EventWriter.publish eventWriter
      (frame matcher.nextEventSequence envelope false before.length last) with
    | mk status eventWriter' =>
    cases status with
    | ok =>
      have next : (announced matcher envelope eventWriter (before ++ [last])).add event =
          (true, announced matcher envelope eventWriter' (before ++ [last] ++ [event])) := by
        rw [add, if_pos pending, publishPending_ok published]
        simp [announced, UInt32.ofNat_add, UInt32.add_assoc]
      rw [emit, next]
      exact added eventWriter'
    | fatal =>
      have stop : (announced matcher envelope eventWriter (before ++ [last])).add event =
          (announced matcher envelope eventWriter (before ++ [last])).publishPending false := by
        rw [add, if_pos pending, publishPending_refused published]
        rfl
      rw [emit, stop, publishPending_refused published]
      refine refused _ ⟨matcher, eventWriter', before.length, rfl, by simp, ?_, ?_, rfl⟩
      · exact ⟨eventWriter, _, by rw [published]; exact PublishStatus.noConfusion, by rw [published]⟩
      · rw [List.take_left]

end Batch

/-! ### The matching loop -/

/-- The matcher with another book of those listed. -/
def Rebooked (matcher : Matcher ω σ) (books : List PriceTimeBook) (base : Matcher ω σ) : Prop :=
  ∃ book, base = matcher.withBook book ∧ book.contents ∈ books

section Loop
variable {envelope : CommandEnvelope} {incoming : NewLimitOrder}

theorem matchLoop_settles {makers : List OrderView} {fuel : ℕ} {remaining : Quantity}
    {s : Processing ω σ}
    (listed : s.matcher.book.contents.orders (Matcher.oppositeSide incoming.side) = makers)
    (enough : remaining.toNat ≤ fuel)
    (stops : remaining = 0 ∨ ∀ maker ∈ makers.head?,
      ¬ Matcher.crosses incoming.side incoming.price maker.price) :
    matchLoop incoming fuel remaining s = settle incoming remaining s := by
  cases fuel with
  | zero => rfl
  | succ fuel =>
    rw [matchLoop]
    split
    · rfl
    · rename_i left
      rw [Book.best_eq, PriceTimeBook.best, listed]
      cases makers with
      | nil => rfl
      | cons maker makers =>
        have apart := stops.resolve_left left maker rfl
        simp [apart]

theorem min_of_le {a b : Quantity} (le : b ≤ a) : min a b = b := by
  have choice : min a b = if a ≤ b then a else b := rfl
  rw [choice]
  split
  · rename_i ge
    exact UInt32.le_antisymm ge le
  · rfl

theorem min_of_not_le {a b : Quantity} (less : ¬ b ≤ a) : min a b = a := by
  have le : a ≤ b := UInt32.le_of_lt (UInt32.not_le.mp less)
  have choice : min a b = if a ≤ b then a else b := rfl
  rw [choice, if_pos le]

theorem erase_found {book : Book} {order : OrderView} {id : OrderId}
    (found : book.contents.find id = some order) :
    (book.erase id).1.status = .ok ∧ (book.erase id).2.contents = book.contents.drop id := by
  rw [Book.erase_status, Book.erase_contents, PriceTimeBook.erase, found]
  exact ⟨rfl, rfl⟩

theorem setRemaining_found {book : Book} {order : OrderView} {id : OrderId}
    {newRemaining : Quantity} (found : book.contents.find id = some order)
    (positive : newRemaining ≠ 0) :
    (book.setRemaining id newRemaining).1.status = .ok ∧
      (book.setRemaining id newRemaining).2.contents =
        book.contents.update id newRemaining positive := by
  rw [Book.setRemaining_status, Book.setRemaining_contents, PriceTimeBook.setRemaining,
    dif_neg positive, found]
  exact ⟨rfl, rfl⟩

/-- What a turn does behind its trade. -/
def afterTrade (incoming : NewLimitOrder) (fuel : ℕ) (remaining : Quantity) (resting : OrderView)
    (executed : Quantity) (s : Processing ω σ) : ProcessResult × Processing ω σ :=
  if resting.remaining - executed = 0 then
    if (s.matcher.book.erase resting.id).1.status ≠ .ok then
      (s.withBook (s.matcher.book.erase resting.id).2).enterFatalProcess
        .bookEraseFailedAfterExecution incoming.id s.matcher.lastOrderId
    else (s.withBook (s.matcher.book.erase resting.id).2).emit (.done resting.id) fun s =>
      matchLoop incoming fuel (remaining - executed) s
  else
    if (s.matcher.book.setRemaining resting.id (resting.remaining - executed)).1.status ≠ .ok then
      (s.withBook (s.matcher.book.setRemaining resting.id
          (resting.remaining - executed)).2).enterFatalProcess
        .bookUpdateFailedAfterExecution incoming.id s.matcher.lastOrderId
    else matchLoop incoming fuel (remaining - executed)
      (s.withBook (s.matcher.book.setRemaining resting.id (resting.remaining - executed)).2)

theorem matchLoop_turn {fuel : ℕ} {remaining : Quantity} {maker : OrderView}
    {s : Processing ω σ} (left : remaining ≠ 0)
    (best : s.matcher.book.best (Matcher.oppositeSide incoming.side) = some maker)
    (crossing : Matcher.crosses incoming.side incoming.price maker.price) :
    matchLoop incoming (fuel + 1) remaining s =
      s.emit (tradeWith incoming maker (min remaining maker.remaining))
        (afterTrade incoming fuel remaining maker (min remaining maker.remaining)) := by
  simp only [matchLoop, left, best, crossing, ↓reduceIte, Bool.not_true, Bool.false_eq_true]
  rfl

theorem afterTrade_whole {fuel : ℕ} {remaining : Quantity} {maker : OrderView}
    {s : Processing ω σ} (erased : (s.matcher.book.erase maker.id).1.status = .ok) :
    afterTrade incoming fuel remaining maker maker.remaining s =
      (s.withBook (s.matcher.book.erase maker.id).2).emit (.done maker.id)
        (matchLoop incoming fuel (remaining - maker.remaining)) := by
  rw [afterTrade, if_pos (UInt32.sub_self _), if_neg (not_not.mpr erased)]

theorem afterTrade_partly {fuel : ℕ} {remaining executed : Quantity} {maker : OrderView}
    {s : Processing ω σ} (partly : maker.remaining - executed ≠ 0)
    (changed : (s.matcher.book.setRemaining maker.id (maker.remaining - executed)).1.status = .ok) :
    afterTrade incoming fuel remaining maker executed s =
      matchLoop incoming fuel (remaining - executed)
        (s.withBook (s.matcher.book.setRemaining maker.id (maker.remaining - executed)).2) := by
  rw [afterTrade, if_neg partly, if_neg (not_not.mpr changed)]

/-- The loop announces the steps of `fill` and leaves its book, or is cut short
by a refusal. -/
theorem matchLoop_cases (matcher : Matcher ω σ) (Q : ProcessResult × Processing ω σ → Prop)
    (makers : List OrderView) {fuel : ℕ} {remaining : Quantity} {eventWriter : ω}
    {events : List Event} {fills : Fills}
    (listed : matcher.book.contents.orders (Matcher.oppositeSide incoming.side) = makers)
    (enough : remaining.toNat ≤ fuel)
    (planned : fill incoming remaining makers matcher.book.contents = fills)
    (refused : ∀ s, Refused (Rebooked matcher fills.steps.books) envelope
        (events ++ fills.steps.events) s →
      Q ({ status := .fatal, fatalReason := .eventWriterFatal }, s))
    (settled : ∀ eventWriter' book, book.contents = fills.book →
      Q (settle incoming fills.remaining
        (announced (matcher.withBook book) envelope eventWriter' (events ++ fills.steps.events)))) :
    Q (matchLoop incoming fuel remaining (announced matcher envelope eventWriter events)) := by
  induction makers generalizing fuel remaining matcher eventWriter events fills with
  | nil =>
    rw [matchLoop_settles (s := announced matcher envelope eventWriter events) listed enough
      (.inr (by simp))]
    rw [fill_nil] at planned
    subst planned
    have last := settled eventWriter matcher.book rfl
    rwa [Trace.events_nil, List.append_nil] at last
  | cons maker makers ih =>
    by_cases stops : remaining = 0 ∨ ¬ Matcher.crosses incoming.side incoming.price maker.price
    · rw [matchLoop_settles (s := announced matcher envelope eventWriter events) listed enough
        (stops.imp id (by simp))]
      rw [fill_stop stops] at planned
      subst planned
      have last := settled eventWriter matcher.book rfl
      rwa [Trace.events_nil, List.append_nil] at last
    obtain ⟨left, crossing⟩ := not_or.mp stops
    rw [not_not] at crossing
    obtain ⟨fuel, rfl⟩ : ∃ more, fuel = more + 1 := by
      have positive : remaining.toNat ≠ 0 := fun zero => left (UInt32.toNat_inj.mp zero)
      exact ⟨fuel - 1, by omega⟩
    have best : matcher.book.best (Matcher.oppositeSide incoming.side) = some maker := by
      rw [Book.best_eq, PriceTimeBook.best, listed]
      rfl
    have resting : maker ∈ matcher.book.contents.orders (Matcher.oppositeSide incoming.side) := by
      rw [listed]
      exact List.mem_cons_self
    have found : matcher.book.contents.find maker.id = some maker :=
      find_eq_some.mpr ⟨mem_all_of_mem resting, rfl⟩
    rw [matchLoop_turn (s := announced matcher envelope eventWriter events) left best crossing]
    by_cases whole : maker.remaining ≤ remaining
    · rw [fill_whole left crossing whole] at planned
      obtain ⟨erased, dropped⟩ := erase_found found
      rw [min_of_le whole]
      let trade := tradeWith incoming maker maker.remaining
      let erasedBook := (matcher.book.erase maker.id).2
      let rest := fill incoming (remaining - maker.remaining) makers erasedBook.contents
      have steps : fills.steps =
          (matcher.book.contents, trade) :: (erasedBook.contents, .done maker.id) :: rest.steps := by
        rw [← planned, ← dropped]
      have left' : fills.remaining = rest.remaining := by rw [← planned, ← dropped]
      have book' : fills.book = rest.book := by rw [← planned, ← dropped]
      refine emit_cases _ Q (fun s stopped => refused s (stopped.mono ?_ ?_)) fun eventWriter₁ => ?_
      · rintro base rfl
        exact ⟨base.book, rfl, by rw [steps]; exact List.mem_cons_self⟩
      · exact List.prefix_append _ _
      rw [afterTrade_whole (s := announced matcher envelope eventWriter₁ (events ++ [trade])) erased]
      refine emit_cases (matcher.withBook erasedBook) Q
        (fun s stopped => refused s (stopped.mono ?_ ?_)) fun eventWriter₂ => ?_
      · rintro base rfl
        exact ⟨erasedBook, rfl, by rw [steps]; simp⟩
      · rw [steps]
        exact ⟨_, by simp; rfl⟩
      have positive := matcher.book.contents.positive _ maker resting
      have listed' : erasedBook.contents.orders (Matcher.oppositeSide incoming.side) = makers := by
        rw [dropped]
        exact drop_front listed
      have enough' : (remaining - maker.remaining).toNat ≤ fuel := by
        have some_left : maker.remaining.toNat ≠ 0 := fun zero => positive (UInt32.toNat_inj.mp zero)
        rw [UInt32.toNat_sub_of_le _ _ whole]
        omega
      have events' : events ++ fills.steps.events =
          events ++ [trade] ++ [.done maker.id] ++ rest.steps.events := by
        rw [steps]
        simp
      refine ih (matcher.withBook erasedBook) listed' enough' rfl
        (fun s stopped => refused s (stopped.mono ?_ ?_)) fun eventWriter₃ book after => ?_
      · rintro base ⟨book, rfl, member⟩
        exact ⟨book, rfl, by rw [steps]; exact .tail _ (.tail _ member)⟩
      · rw [events']
        exact List.prefix_rfl
      · have last := settled eventWriter₃ book (after.trans book'.symm)
        rwa [left', events'] at last
    · have more := UInt32.not_le.mp whole
      have partly := sub_ne_zero more
      rw [fill_part left crossing more] at planned
      obtain ⟨changed, updated⟩ := setRemaining_found found partly
      rw [min_of_not_le whole]
      let trade := tradeWith incoming maker remaining
      let changedBook := (matcher.book.setRemaining maker.id (maker.remaining - remaining)).2
      have steps : fills.steps = [(matcher.book.contents, trade)] := by rw [← planned]
      refine emit_cases _ Q (fun s stopped => refused s (stopped.mono ?_ ?_)) fun eventWriter' => ?_
      · rintro base rfl
        exact ⟨base.book, rfl, by rw [steps]; exact List.mem_cons_self⟩
      · exact List.prefix_append _ _
      have halted : matchLoop incoming fuel 0 (announced (matcher.withBook changedBook) envelope
            eventWriter' (events ++ [trade])) =
          settle incoming 0 (announced (matcher.withBook changedBook) envelope eventWriter'
            (events ++ [trade])) := matchLoop_settles rfl (by simp) (.inl rfl)
      rw [afterTrade_partly (s := announced matcher envelope eventWriter' (events ++ [trade])) partly
        changed, UInt32.sub_self]
      refine (congrArg Q halted).mpr ?_
      have last := settled eventWriter' changedBook (updated.trans (by rw [← planned]))
      rwa [steps, ← planned] at last

end Loop

/-! ### A new order -/

/-- The matcher as a handler with this result leaves it. -/
def stoppedBy (matcher : Matcher ω σ) (result : ProcessResult) : Matcher ω σ :=
  if result.status = .fatal then matcher.transitionToFatalState result.fatalReason else matcher

section NewLimit
variable {matcher : Matcher ω σ} {envelope : CommandEnvelope} {incoming : NewLimitOrder}
variable {eventWriter : ω} {events : List Event}

theorem enterFatalProcess_cases (matcher : Matcher ω σ) {reason : FatalReason} {offendingOrderId lastOrderId : OrderId}
    (Q : ProcessResult × Processing ω σ → Prop) (other : reason ≠ .eventWriterFatal)
    (refused : ∀ s, Refused (· = matcher) envelope events s →
      Q ({ status := .fatal, fatalReason := .eventWriterFatal }, s))
    (stopped : ∀ eventWriter', Q ({ status := .fatal, fatalReason := reason },
      announced (matcher.transitionToFatalState reason) envelope eventWriter'
        (events ++ [.fatal reason offendingOrderId lastOrderId]))) :
    Q ((announced matcher envelope eventWriter events).enterFatalProcess reason offendingOrderId
      lastOrderId) := by
  rw [enterFatalProcess, if_pos other]
  exact emit_cases _ Q refused stopped

theorem settle_left {remaining : Quantity} {s : Processing ω σ} (left : remaining ≠ 0) :
    settle incoming remaining s =
      let inserted := s.matcher.book.insert (incoming.resting remaining)
      let s := s.withBook inserted.2
      if inserted.1 = .ok then
        s.emit (.rested ⟨incoming.id, incoming.ownerId, incoming.side, incoming.price, remaining⟩)
          proceed
      else if remaining = incoming.quantity then
        s.emit (.rejected incoming.id .bookInsertFailed) proceed
      else
        s.enterFatalProcess .bookInsertFailedAfterExecution incoming.id s.matcher.lastOrderId := by
  rw [settle, if_neg left]
  by_cases inserted : (s.matcher.book.insert (incoming.resting remaining)).1 = .ok
  · rw [if_pos inserted]
    exact if_neg (not_not.mpr inserted)
  · rw [if_neg inserted]
    exact if_pos inserted

/-- The remainder of an order goes where the plan says. -/
theorem settle_cases (matcher : Matcher ω σ) (Q : ProcessResult × Processing ω σ → Prop)
    {fills : Fills}
    {plan : Plan σ} {snapshotStore : σ} (planned : settlePlan incoming fills snapshotStore = plan)
    (held : matcher.book.contents = fills.book) (last : matcher.lastOrderId = incoming.id)
    (refused : ∀ s, Refused (Rebooked matcher plan.steps.books) envelope
        (events ++ plan.steps.events) s →
      Q ({ status := .fatal, fatalReason := .eventWriterFatal }, s))
    (settled : ∀ eventWriter' book, book.contents = plan.book →
      Q (plan.result, announced (stoppedBy (matcher.withBook book) plan.result) envelope
        eventWriter' (events ++ plan.steps.events))) :
    Q (settle incoming fills.remaining (announced matcher envelope eventWriter events)) := by
  rw [settlePlan] at planned
  by_cases none_left : fills.remaining = 0
  · rw [if_pos none_left] at planned
    rw [settle, if_pos none_left]
    subst planned
    refine emit_cases _ Q (fun s stop => refused s (stop.mono ?_ (List.prefix_append _ _)))
      fun eventWriter' => settled eventWriter' matcher.book held
    rintro base rfl
    exact ⟨base.book, rfl, by rw [held]; exact List.mem_cons_self⟩
  rw [if_neg none_left] at planned
  rw [settle_left none_left]
  let order := incoming.resting fills.remaining
  let insertedBook := (matcher.book.insert order).2
  have status : (matcher.book.insert order).1 = (fills.book.insert order).1 := by
    rw [Book.insert_status, held]
  have contents : insertedBook.contents = (fills.book.insert order).2 :=
    (Book.insert_contents _ _).trans (by rw [held])
  -- the event behind the insertion, whatever it is, waits in front of a changed book only
  have emitted {event : Event} {book : PriceTimeBook} (contents : insertedBook.contents = book)
      (closing : plan = { steps := [(book, event)], book, lastOrderId := incoming.id, snapshotStore }) :
      Q ((announced (matcher.withBook insertedBook) envelope eventWriter events).emit event
        proceed) := by
    subst closing
    refine emit_cases _ Q (fun s stop => refused s (stop.mono ?_ (List.prefix_append _ _)))
      fun eventWriter' => settled eventWriter' insertedBook contents
    rintro base rfl
    exact ⟨insertedBook, rfl, by rw [contents]; exact List.mem_cons_self⟩
  by_cases inserted : (fills.book.insert order).1 = .ok
  · have accepted : (matcher.book.insert order).1 = .ok := status.trans inserted
    rw [if_pos inserted] at planned
    exact (congrArg Q (if_pos accepted)).mpr (emitted contents planned.symm)
  have kept : insertedBook.contents = fills.book := contents.trans (insert_failed inserted)
  have rejected : (matcher.book.insert order).1 ≠ .ok := fun ok => inserted (status.symm.trans ok)
  rw [if_neg inserted] at planned
  refine (congrArg Q (if_neg rejected)).mpr ?_
  by_cases untouched : fills.remaining = incoming.quantity
  · rw [if_pos untouched] at planned ⊢
    exact emitted kept planned.symm
  · rw [if_neg untouched] at planned ⊢
    subst planned
    refine enterFatalProcess_cases (matcher.withBook insertedBook) Q (by decide)
      (fun s stop => refused s (stop.mono ?_ (List.prefix_append _ _)))
      fun eventWriter' => ?_
    · rintro base rfl
      exact ⟨insertedBook, rfl, by rw [kept]; exact List.mem_cons_self⟩
    · have stopped (lastOrderId : OrderId) (same : lastOrderId = incoming.id) :
          Q ({ status := .fatal, fatalReason := .bookInsertFailedAfterExecution },
            announced ((matcher.withBook insertedBook).transitionToFatalState
                .bookInsertFailedAfterExecution) envelope eventWriter'
              (events ++ [.fatal .bookInsertFailedAfterExecution incoming.id lastOrderId])) := by
        rw [same]
        exact settled eventWriter' insertedBook kept
      exact stopped _ last

/-- A new order is handled as planned, or up to a refusal. -/
theorem processNewLimit_cases (Q : ProcessResult × Processing ω σ → Prop) {plan : Plan σ}
    (planned : newLimitPlan incoming matcher.book.contents matcher.lastOrderId
      matcher.snapshotStore = plan)
    (refused : ∀ s, Refused (Rebooked { matcher with lastOrderId := plan.lastOrderId }
        plan.steps.books) envelope plan.steps.events s →
      Q ({ status := .fatal, fatalReason := .eventWriterFatal }, s))
    (settled : ∀ eventWriter' book, book.contents = plan.book →
      Q (plan.result, announced (stoppedBy { matcher with book, lastOrderId := plan.lastOrderId }
        plan.result) envelope eventWriter' plan.steps.events)) :
    Q ((announced matcher envelope eventWriter []).processNewLimit incoming) := by
  rw [newLimitPlan] at planned
  by_cases stale : incoming.id ≤ matcher.lastOrderId
  · rw [if_pos stale] at planned
    subst planned
    have stops : (announced matcher envelope eventWriter []).processNewLimit incoming =
        (announced matcher envelope eventWriter []).enterFatalProcess .nonMonotonicOrderId
          incoming.id matcher.lastOrderId := by
      rw [processNewLimit]
      exact if_pos stale
    rw [stops]
    refine enterFatalProcess_cases _ Q (by decide)
      (fun s stop => refused s (stop.mono ?_ (List.nil_prefix)))
      fun eventWriter' => settled eventWriter' matcher.book rfl
    rintro base rfl
    exact ⟨base.book, rfl, List.mem_cons_self⟩
  rw [if_neg stale] at planned
  let started : Matcher ω σ := { matcher with lastOrderId := incoming.id }
  by_cases zero : incoming.quantity = 0
  · rw [if_pos zero] at planned
    subst planned
    have rejects : (announced matcher envelope eventWriter []).processNewLimit incoming =
        (announced started envelope eventWriter []).emit (.rejected incoming.id .invalidQuantity)
          proceed := by
      rw [processNewLimit]
      exact (if_neg stale).trans (if_pos zero)
    rw [rejects]
    refine emit_cases _ Q (fun s stop => refused s (stop.mono ?_ (List.nil_prefix)))
      fun eventWriter' => settled eventWriter' matcher.book rfl
    rintro base rfl
    exact ⟨matcher.book, rfl, List.mem_cons_self⟩
  rw [if_neg zero] at planned
  dsimp only at planned
  generalize filled : fill incoming incoming.quantity
    (matcher.book.contents.orders (Matcher.oppositeSide incoming.side))
    matcher.book.contents = fills at planned
  generalize rest : settlePlan incoming fills matcher.snapshotStore = remainder at planned
  have lastOrderId : remainder.lastOrderId = incoming.id := by
    rw [← rest]
    exact settlePlan_lastOrderId incoming fills matcher.snapshotStore
  subst planned
  simp only [Plan.after, lastOrderId] at refused settled
  have accepts : (announced matcher envelope eventWriter []).processNewLimit incoming =
      (announced started envelope eventWriter []).emit (.accepted incoming.id) fun s =>
        matchLoop incoming incoming.quantity.toNat incoming.quantity s := by
    rw [processNewLimit]
    exact (if_neg stale).trans (if_neg zero)
  rw [accepts]
  refine emit_cases _ Q (fun s stop => refused s (stop.mono ?_ (List.nil_prefix)))
    fun eventWriter₁ => ?_
  · rintro base rfl
    exact ⟨matcher.book, rfl, List.mem_cons_self⟩
  refine matchLoop_cases started Q _ rfl le_rfl filled
    (fun s stop => refused s (stop.mono ?_ ?_)) fun eventWriter₂ book held => ?_
  · rintro base ⟨book, rfl, member⟩
    refine ⟨book, rfl, ?_⟩
    rw [List.cons_append, Trace.books_cons, Trace.books_append]
    exact .tail _ (List.mem_append_left _ member)
  · exact ⟨remainder.steps.events, by simp⟩
  refine settle_cases (started.withBook book) Q rest held rfl
    (fun s stop => refused s (stop.mono ?_ ?_)) fun eventWriter₃ book' held' => ?_
  · rintro base ⟨book', rfl, member⟩
    refine ⟨book', rfl, ?_⟩
    rw [List.cons_append, Trace.books_cons, Trace.books_append]
    exact .tail _ (List.mem_append_right _ member)
  · exact ⟨[], by simp⟩
  · have last := settled eventWriter₃ book' held'
    rw [List.cons_append, Trace.events_cons, Trace.events_append] at last
    exact last

/-- The last event of a command is published with its mark, or refused. -/
theorem conclude_cases {processed : ProcessResult} (Q : ProcessResult × Processing ω σ → Prop)
    (nonempty : events ≠ [])
    (refused : ∀ s, Refused (· = matcher) envelope events s →
      Q ({ status := .fatal, fatalReason := .eventWriterFatal }, s))
    (finished : ∀ eventWriter' s, s.matcher =
        (matcher.closed envelope eventWriter' events).applyDeferredReplayTransition →
      Q (processed, s)) :
    Q (conclude processed (announced matcher envelope eventWriter events)) := by
  obtain ⟨before, last, rfl⟩ := (List.eq_nil_or_concat events).resolve_left nonempty
  rw [List.concat_eq_append] at refused finished ⊢
  have pending : (announced matcher envelope eventWriter (before ++ [last])).events.hasPending =
      true := by simp [announced]
  have alive : (announced matcher envelope eventWriter (before ++ [last])).events.failed = false := rfl
  rw [conclude, if_neg (by simp [pending]), finishCommand, if_neg (by simp [alive]), finish,
    if_pos pending]
  cases published : EventWriter.publish eventWriter
    (frame matcher.nextEventSequence envelope true before.length last) with
  | mk status eventWriter' =>
  cases status with
  | ok =>
    rw [publishPending_closes published]
    exact finished eventWriter' _ rfl
  | fatal =>
    rw [publishPending_refused published]
    refine refused _ ⟨matcher, eventWriter', before.length, rfl, by simp, ?_, ?_, rfl⟩
    · exact ⟨eventWriter, _, by rw [published]; exact PublishStatus.noConfusion, by rw [published]⟩
    · rw [List.take_left]

end NewLimit

end Processing

namespace Matcher

open Processing

/-- No replay transition is pending. It is so between commands. -/
structure Settled (matcher : Matcher ω σ) : Prop where
  startReplay : matcher.deferredStartReplay = false
  eventSequence : matcher.deferredEventSequence = 0
  mode : matcher.deferredMode = none

/-- The plan is carried out and its events are published as one finished group. -/
structure Completed (matcher after : Matcher ω σ) (envelope : CommandEnvelope) (plan : Plan σ) :
    Prop where
  published : after.published =
    matcher.published ++ closedGroup matcher.nextEventSequence envelope plan.steps.events
  nextEventSequence : after.nextEventSequence =
    if plan.eventSequence ≠ 0 then plan.eventSequence
    else matcher.nextEventSequence + .ofNat plan.steps.length
  liveResume : after.liveResumeEventSequence =
    if plan.startReplay then matcher.nextEventSequence + .ofNat plan.steps.length
    else matcher.liveResumeEventSequence
  replayMode : after.replayMode =
    plan.mode.getD (if plan.startReplay then .replay else matcher.replayMode)
  contents : after.book.contents = plan.book
  lastOrderId : after.lastOrderId = plan.lastOrderId
  snapshotStore : after.snapshotStore = plan.snapshotStore
  bookConfig : after.bookConfig = matcher.bookConfig
  fatal : after.fatal = (plan.result.status = .fatal : Bool)
  fatalReason : plan.result.status = .fatal → after.fatalReason = plan.result.fatalReason
  settled : after.Settled

/-- The writer refuses an event: the events in front of it are published and the
matcher stops on one of the books of the plan. -/
structure Interrupted (matcher after : Matcher ω σ) (envelope : CommandEnvelope) (plan : Plan σ) :
    Prop where
  published : ∃ count < plan.steps.length,
    after.published = matcher.published ++
      openGroup matcher.nextEventSequence envelope (plan.steps.events.take count) ∧
    after.nextEventSequence = matcher.nextEventSequence + .ofNat count
  fails : HasRefused after.eventWriter
  replayMode : after.replayMode = matcher.replayMode
  contents : after.book.contents ∈ plan.steps.books ++ [plan.book]
  lastOrderId : after.lastOrderId = plan.lastOrderId
  bookConfig : after.bookConfig = matcher.bookConfig
  fatal : after.fatal
  fatalReason : after.fatalReason = .eventWriterFatal

section Spec
variable {matcher base after : Matcher ω σ} {envelope : CommandEnvelope} {plan : Plan σ}
variable {eventWriter : ω}

/-- The handler has done what the plan says and its last event waits. -/
structure Prepared (matcher base : Matcher ω σ) (plan : Plan σ) : Prop where
  published : base.published = matcher.published
  nextEventSequence : base.nextEventSequence = matcher.nextEventSequence
  liveResume : base.liveResumeEventSequence = matcher.liveResumeEventSequence
  replayMode : base.replayMode = matcher.replayMode
  contents : base.book.contents = plan.book
  lastOrderId : base.lastOrderId = plan.lastOrderId
  snapshotStore : base.snapshotStore = plan.snapshotStore
  bookConfig : base.bookConfig = matcher.bookConfig
  fatal : base.fatal = (plan.result.status = .fatal : Bool)
  fatalReason : plan.result.status = .fatal → base.fatalReason = plan.result.fatalReason
  startReplay : base.deferredStartReplay = plan.startReplay
  eventSequence : base.deferredEventSequence = plan.eventSequence
  mode : base.deferredMode = plan.mode

section Transition
omit [EventWriter ω]

/-- The deferred transition touches the sequence, its live value and the mode only. -/
theorem applyDeferredReplayTransition_eq (matcher : Matcher ω σ) :
    matcher.applyDeferredReplayTransition =
      { matcher with
        liveResumeEventSequence :=
          if matcher.deferredStartReplay then matcher.nextEventSequence
          else matcher.liveResumeEventSequence
        nextEventSequence :=
          if matcher.deferredEventSequence ≠ 0 then matcher.deferredEventSequence
          else matcher.nextEventSequence
        replayMode := matcher.deferredMode.getD
          (if matcher.deferredStartReplay then .replay else matcher.replayMode)
        deferredStartReplay := false
        deferredEventSequence := 0
        deferredMode := none } := by
  obtain ⟨writer, store, config, book, last, next, resume, sequence, replayMode, mode, start⟩ := matcher
  cases start <;> cases mode <;> by_cases zero : sequence = 0 <;>
    simp [applyDeferredReplayTransition, zero]

theorem Prepared.completed (prepared : Prepared matcher base plan) :
    Completed matcher (base.closed envelope eventWriter plan.steps.events).applyDeferredReplayTransition
      envelope plan := by
  have length : plan.steps.events.length = plan.steps.length := List.length_map _
  rw [applyDeferredReplayTransition_eq]
  refine ⟨?_, ?_, ?_, ?_, prepared.contents, prepared.lastOrderId, prepared.snapshotStore,
    prepared.bookConfig, prepared.fatal, prepared.fatalReason, ⟨rfl, rfl, rfl⟩⟩
  · simp only [closed, prepared.published, prepared.nextEventSequence]
  · simp only [closed, prepared.eventSequence, prepared.nextEventSequence, length]
  · simp only [closed, prepared.startReplay, prepared.nextEventSequence, prepared.liveResume, length]
  · simp only [closed, prepared.mode, prepared.startReplay, prepared.replayMode]

end Transition

/-- A refusal during the command, the matcher being otherwise as `base` allows. -/
theorem interrupted_of_refused {bases : Matcher ω σ → Prop} {s : Processing ω σ}
    (refused : Refused bases envelope plan.steps.events s)
    (allowed : ∀ base, bases base → base.published = matcher.published ∧
      base.nextEventSequence = matcher.nextEventSequence ∧ base.replayMode = matcher.replayMode ∧
      base.book.contents ∈ plan.steps.books ++ [plan.book] ∧
      base.lastOrderId = plan.lastOrderId ∧ base.bookConfig = matcher.bookConfig) :
    Interrupted matcher s.matcher envelope plan := by
  obtain ⟨base, eventWriter, count, member, inside, fails, stopped, -⟩ := refused
  obtain ⟨published, next, replayMode, contents, lastOrderId, bookConfig⟩ := allowed base member
  have length : plan.steps.events.length = plan.steps.length := List.length_map _
  have taken : (plan.steps.events.take count).length = count := by
    rw [List.length_take]
    omega
  rw [stopped]
  refine ⟨⟨count, length ▸ inside, ?_, ?_⟩, fails, replayMode, contents, lastOrderId, bookConfig,
    rfl, rfl⟩
  · simp only [transitionToFatalState, sent, published, next]
  · simp only [transitionToFatalState, sent, next, taken]

omit [EventWriter ω] in
theorem Settled.apply_eq (settled : matcher.Settled) :
    matcher.applyDeferredReplayTransition = matcher := by
  obtain ⟨start, sequence, mode⟩ := settled
  cases matcher
  subst start sequence mode
  rfl

/-- What `process` comes to: the plan of its command, or a part of it. -/
def Outcome (matcher : Matcher ω σ) (envelope : CommandEnvelope) (plan : Plan σ)
    (processed : ProcessResult) (after : Matcher ω σ) : Prop :=
  (Completed matcher after envelope plan ∧ processed = plan.result) ∨
    (Interrupted matcher after envelope plan ∧
      processed = { status := .fatal, fatalReason := .eventWriterFatal })

/-- What a handler leaves is concluded to the outcome of a plan. -/
def Concludes (matcher : Matcher ω σ) (envelope : CommandEnvelope) (plan : Plan σ)
    (handled : ProcessResult × Processing ω σ) : Prop :=
  Outcome matcher envelope plan (handled.2.conclude handled.1).1
    (handled.2.conclude handled.1).2.matcher

theorem Prepared.concludes (prepared : Prepared matcher base plan) (nonempty : plan.steps ≠ []) :
    Concludes matcher envelope plan
      (plan.result, announced base envelope eventWriter plan.steps.events) := by
  have some_event : plan.steps.events ≠ [] := fun none => nonempty (List.map_eq_nil_iff.mp none)
  refine conclude_cases
    (fun out => Outcome matcher envelope plan out.1 out.2.matcher) some_event
    (fun s refused => ?_) fun eventWriter s finished => ?_
  · refine .inr ⟨interrupted_of_refused refused ?_, rfl⟩
    rintro base rfl
    exact ⟨prepared.published, prepared.nextEventSequence, prepared.replayMode,
      by rw [prepared.contents]; simp, prepared.lastOrderId, prepared.bookConfig⟩
  · refine .inl ⟨?_, rfl⟩
    rw [finished]
    exact prepared.completed

/-- The first event of a command always waits. -/
theorem emit_first {event : Event} {andThen : Processing ω σ → ProcessResult × Processing ω σ} :
    (announced matcher envelope eventWriter []).emit event andThen =
      andThen (announced matcher envelope eventWriter [event]) := by
  simp [emit, Processing.add, announced]

theorem enterFatalProcess_first {reason : FatalReason} {offendingOrderId lastOrderId : OrderId}
    (other : reason ≠ .eventWriterFatal) :
    (announced matcher envelope eventWriter []).enterFatalProcess reason offendingOrderId
        lastOrderId =
      ({ status := .fatal, fatalReason := reason },
        announced (matcher.transitionToFatalState reason) envelope eventWriter
          [.fatal reason offendingOrderId lastOrderId]) := by
  rw [enterFatalProcess, if_pos other, emit_first]
  rfl

omit [EventWriter ω] in
/-- A new order leaves the store and the replay state alone. -/
theorem newLimitPlan_quiet {order : NewLimitOrder} {book : PriceTimeBook} {lastOrderId : OrderId}
    {snapshotStore : σ} (planned : newLimitPlan order book lastOrderId snapshotStore = plan) :
    plan.snapshotStore = snapshotStore ∧ plan.startReplay = false ∧ plan.eventSequence = 0 ∧
      plan.mode = none ∧ plan.steps ≠ [] := by
  subst planned
  simp only [newLimitPlan, settlePlan, Plan.after, Plan.stopping]
  split_ifs <;> simp

omit [EventWriter ω] in
theorem stoppedBy_eq (result : ProcessResult) (live : matcher.fatal = false) :
    stoppedBy matcher result =
      { matcher with
        fatal := result.status = .fatal
        running := if result.status = .fatal then false else matcher.running
        fatalReason := if result.status = .fatal then result.fatalReason
          else matcher.fatalReason } := by
  cases matcher
  subst live
  by_cases stops : result.status = .fatal <;> simp [stoppedBy, stops, transitionToFatalState]

section Commands
variable (live : matcher.fatal = false) (settled : matcher.Settled)
include live settled

theorem newLimit_concludes {order : NewLimitOrder} (planned : newLimitPlan order
      matcher.book.contents matcher.lastOrderId matcher.snapshotStore = plan) :
    Concludes matcher envelope plan
      ((announced matcher envelope eventWriter []).processNewLimit order) := by
  refine processNewLimit_cases (Concludes matcher envelope plan) planned (fun s refused => ?_)
    fun eventWriter' book held => ?_
  · have failed : s.events.failed = true := by
      obtain ⟨_, _, _, _, _, _, _, failed⟩ := refused
      exact failed
    have idle : s.matcher.Settled := by
      obtain ⟨_, _, _, ⟨book, rfl, _⟩, _, _, stopped, _⟩ := refused
      rw [stopped]
      exact ⟨settled.startReplay, settled.eventSequence, settled.mode⟩
    have kept : s.conclude { status := .fatal, fatalReason := .eventWriterFatal } =
        ({ status := .fatal, fatalReason := .eventWriterFatal }, s) := by
      rw [conclude, if_neg (by simp [failed]), finishCommand, if_pos failed]
      simp only [Processing.applyDeferredReplayTransition, idle.apply_eq]
    rw [Concludes, kept]
    refine .inr ⟨interrupted_of_refused refused ?_, rfl⟩
    rintro base ⟨book, rfl, member⟩
    exact ⟨rfl, rfl, rfl, List.mem_append_left _ member, rfl, rfl⟩
  · obtain ⟨store, start, sequence, mode, nonempty⟩ := newLimitPlan_quiet planned
    have alive : ({ matcher with book, lastOrderId := plan.lastOrderId } : Matcher ω σ).fatal =
      false := live
    rw [stoppedBy_eq _ alive]
    refine Prepared.concludes ⟨rfl, rfl, rfl, rfl, held, rfl, store.symm, rfl, rfl, ?_,
      settled.startReplay.trans start.symm, settled.eventSequence.trans sequence.symm,
      settled.mode.trans mode.symm⟩ nonempty
    exact fun stops => if_pos stops

omit live in
theorem stopping_concludes {reason : FatalReason} (other : reason ≠ .eventWriterFatal)
    {book : Book} {snapshotStore : σ} :
    Concludes matcher envelope
      (.stopping reason 0 matcher.lastOrderId book.contents snapshotStore)
      ((announced { matcher with book, snapshotStore } envelope eventWriter []).enterFatalProcess
        reason 0 matcher.lastOrderId) := by
  rw [enterFatalProcess_first other]
  have prepared : Prepared matcher
      ({ matcher with book, snapshotStore }.transitionToFatalState reason)
      (.stopping reason 0 matcher.lastOrderId book.contents snapshotStore) :=
    ⟨rfl, rfl, rfl, rfl, rfl, rfl, rfl, rfl, rfl, fun _ => rfl, settled.startReplay,
      settled.eventSequence, settled.mode⟩
  exact prepared.concludes (List.cons_ne_nil _ _)

variable [SnapshotStore σ]

theorem saveSnapshot_concludes (commandSequence : CommandSequence) :
    Concludes matcher envelope (matcher.saveSnapshotPlan commandSequence)
      ((announced matcher envelope matcher.eventWriter []).processSaveSnapshot commandSequence) := by
  rw [announced_nil, saveSnapshotPlan]
  rcases captured : SnapshotStore.capture matcher.snapshotStore
    (matcher.snapshotView commandSequence) with ⟨status, snapshotStore⟩
  let base : Matcher ω σ := { matcher with snapshotStore }
  have handled : ({ matcher, events := .start envelope } : Processing ω σ).processSaveSnapshot
        commandSequence =
      if status ≠ .ok then (announced base envelope base.eventWriter []).enterFatalProcess
        .snapshotCaptureFailed 0 matcher.lastOrderId
      else (announced base envelope base.eventWriter []).emit .saveSnapshot proceed := by
    rw [announced_nil, processSaveSnapshot]
    rw [snapshotView] at captured
    simp only [captured]
    rfl
  rw [handled]
  by_cases ok : status = .ok
  · subst ok
    rw [if_neg (by simp), emit_first]
    have prepared : Prepared matcher base
        { matcher.announcing .saveSnapshot with snapshotStore } :=
      ⟨rfl, rfl, rfl, rfl, rfl, rfl, rfl, rfl, live, (fun stops => by cases stops),
        settled.startReplay, settled.eventSequence, settled.mode⟩
    exact prepared.concludes (List.cons_ne_nil _ _)
  · rw [if_pos ok]
    cases status with
    | ok => exact absurd rfl ok
    | _ => exact stopping_concludes settled (by decide)

theorem loadSnapshot_concludes (command : LoadSnapshotCommand) :
    Concludes matcher envelope (matcher.loadSnapshotPlan command)
      ((announced matcher envelope matcher.eventWriter []).processLoadSnapshot command) := by
  rw [announced_nil, loadSnapshotPlan]
  rcases loaded : SnapshotStore.load matcher.snapshotStore command with
    ⟨status, snapshot, snapshotStore⟩
  let stopping (book : Book) (reason : FatalReason) : ProcessResult × Processing ω σ :=
    (announced { matcher with book, snapshotStore } envelope matcher.eventWriter
      []).enterFatalProcess reason 0 matcher.lastOrderId
  let restored := matcher.book.restore snapshot.orders
  have handled : ({ matcher, events := .start envelope } : Processing ω σ).processLoadSnapshot
        command =
      if status ≠ .ok then stopping matcher.book
        (if status = .unavailable then .snapshotLoadUnavailable else .snapshotLoadInvalid)
      else if !matcher.acceptsImage command snapshot then
        stopping matcher.book .snapshotLoadInvalid
      else if restored.1.status ≠ .ok then stopping restored.2 .snapshotLoadInvalid
      else (announced { matcher with
          snapshotStore
          book := restored.2
          lastOrderId := snapshot.lastOrderId
          deferredEventSequence :=
            if matcher.replayMode = .replay then snapshot.nextEventSequence
            else if matcher.replayMode = .restoring then matcher.liveResumeEventSequence
            else matcher.deferredEventSequence
          deferredMode := if matcher.replayMode = .restoring then some .live
            else matcher.deferredMode } envelope matcher.eventWriter []).emit
        (.loadSnapshot command.saveSnapshotCommandSequence command.snapshotEpochId) proceed := by
    have accepts : (!sameConfig snapshot.bookConfig matcher.bookConfig ||
          decide (snapshot.saveSnapshotCommandSequence ≠ command.saveSnapshotCommandSequence) ||
          decide (snapshot.epochId ≠ command.snapshotEpochId)) =
        !matcher.acceptsImage command snapshot := by
      simp [acceptsImage, Bool.not_and, Bool.beq_eq_decide_eq]
    simp only [stopping, announced_nil]
    rw [processLoadSnapshot, loaded]
    simp only [accepts]
    refine if_congr Iff.rfl rfl (if_congr Iff.rfl rfl (if_congr Iff.rfl rfl ?_))
    cases mode : matcher.replayMode <;> rfl
  rw [handled]
  by_cases ok : status = .ok
  swap
  · rw [if_pos ok]
    cases status with
    | ok => exact absurd rfl ok
    | _ =>
      refine stopping_concludes settled ?_
      decide
  subst ok
  rw [if_neg (not_not.mpr rfl)]
  cases accepted : matcher.acceptsImage command snapshot with
  | false =>
    simp only [accepted, Bool.not_false, ↓reduceIte]
    refine stopping_concludes settled ?_
    decide
  | true =>
    simp only [accepted, Bool.not_true, Bool.false_eq_true, ↓reduceIte]
    have status : restored.1 = (matcher.book.contents.restore snapshot.orders).1 :=
      Book.restore_status _ _
    have contents : restored.2.contents = (matcher.book.contents.restore snapshot.orders).2 :=
      Book.restore_contents _ _
    rw [← status, ← contents]
    by_cases fits : restored.1.status = .ok
    · rw [if_neg (not_not.mpr fits), if_neg (not_not.mpr fits), emit_first]
      refine Prepared.concludes ⟨rfl, rfl, rfl, rfl, rfl, rfl, rfl, rfl, live,
        (fun stops => by cases stops), settled.startReplay, ?_, ?_⟩ (List.cons_ne_nil _ _)
      · cases mode : matcher.replayMode
        · exact settled.eventSequence
        · rfl
        · rfl
      · simp only [settled.mode]
    · rw [if_pos fits, if_pos fits]
      refine stopping_concludes settled ?_
      decide

end Commands

/-- One command from a settled matcher: its plan is carried out, or part of it is. -/
theorem process_spec [SnapshotStore σ] (matcher : Matcher ω σ) (envelope : CommandEnvelope)
    (live : matcher.fatal = false) (settled : matcher.Settled) :
    Outcome matcher envelope (matcher.plan envelope) (matcher.process envelope).1
      (matcher.process envelope).2 := by
  have start : ({ matcher, events := .start envelope } : Processing ω σ) =
      announced matcher envelope matcher.eventWriter [] := announced_nil.symm
  have entered : ¬ matcher.fatal = true := by simp [live]
  let s := announced matcher envelope matcher.eventWriter []
  have dispatched : matcher.process envelope =
      ((s.dispatch envelope.commandSequence envelope.payload.message).1,
        (s.dispatch envelope.commandSequence envelope.payload.message).2.matcher) := by
    rw [process, if_neg entered, start]
  -- the branches that announce one event whatever the state
  have announces (base : Matcher ω σ) (event : Event) {plan : Plan σ} {command : Command}
      (prepared : Prepared matcher base plan) (steps : plan.steps = [(matcher.book.contents, event)])
      (branch : s.dispatch envelope.commandSequence command =
        (announced base envelope matcher.eventWriter [event]).conclude plan.result) :
      Outcome matcher envelope plan (s.dispatch envelope.commandSequence command).1
        (s.dispatch envelope.commandSequence command).2.matcher := by
    have last : Concludes matcher envelope plan
        (plan.result, announced base envelope matcher.eventWriter plan.steps.events) :=
      prepared.concludes (by rw [steps]; exact List.cons_ne_nil _ _)
    rw [steps] at last
    rw [branch]
    exact last
  have rejects (command : Command) (branch : s.dispatch envelope.commandSequence command =
        s.emit (.rejected 0 .unknownCommand) fun s => s.conclude {}) :
      Outcome matcher envelope (matcher.announcing (.rejected 0 .unknownCommand))
        (s.dispatch envelope.commandSequence command).1
        (s.dispatch envelope.commandSequence command).2.matcher :=
    announces matcher (.rejected 0 .unknownCommand)
      ⟨rfl, rfl, rfl, rfl, rfl, rfl, rfl, rfl, live, (fun stops => by cases stops),
        settled.startReplay, settled.eventSequence, settled.mode⟩ rfl
      (branch.trans emit_first)
  rw [dispatched, plan]
  cases envelope.payload.message with
  | none => exact rejects .none rfl
  | unknown tag => exact rejects (.unknown tag) rfl
  | newLimit order => exact newLimit_concludes live settled rfl
  | saveSnapshot => exact saveSnapshot_concludes live settled envelope.commandSequence
  | loadSnapshot command => exact loadSnapshot_concludes live settled command
  | shutdown =>
    refine announces { matcher with running := false } .shutdown
      ⟨rfl, rfl, rfl, rfl, rfl, rfl, rfl, rfl, live, (fun stops => by cases stops),
        settled.startReplay, settled.eventSequence, settled.mode⟩ rfl ?_
    rw [dispatch, emit_first]
    rfl
  | startReplay =>
    refine announces { matcher with deferredStartReplay := matcher.replayMode = .live } .startReplay
      ⟨rfl, rfl, rfl, rfl, rfl, rfl, rfl, rfl, live, (fun stops => by cases stops), rfl,
        settled.eventSequence, settled.mode⟩ rfl ?_
    rw [dispatch, emit_first]
    congr 1
    by_cases mode : matcher.replayMode = .live
    · rw [decide_eq_true mode]
      exact if_pos mode
    · have idle : decide (matcher.replayMode = .live) = matcher.deferredStartReplay := by
        rw [settled.startReplay, decide_eq_false mode]
      simp only [idle]
      exact if_neg mode
  | stopReplay =>
    refine announces { matcher with
        deferredMode := if matcher.replayMode = .replay then some .restoring else none } .stopReplay
      ⟨rfl, rfl, rfl, rfl, rfl, rfl, rfl, rfl, live, (fun stops => by cases stops),
        settled.startReplay, settled.eventSequence, rfl⟩ rfl ?_
    rw [dispatch, emit_first]
    congr 1
    by_cases mode : matcher.replayMode = .replay
    · rw [if_pos mode]
      exact if_pos mode
    · rw [if_neg mode, ← settled.mode]
      exact if_neg mode

/-- With a healthy writer the plan is always carried out. -/
theorem process_completed [SnapshotStore σ] (envelope : CommandEnvelope) (healthy : HealthyWriter ω)
    (live : matcher.fatal = false) (settled : matcher.Settled) :
    Completed matcher (matcher.process envelope).2 envelope (matcher.plan envelope) ∧
      (matcher.process envelope).1 = (matcher.plan envelope).result := by
  rcases process_spec matcher envelope live settled with completed | ⟨interrupted, -⟩
  · exact completed
  · obtain ⟨eventWriter, refused, fails, -⟩ := interrupted.fails
    exact absurd (healthy eventWriter refused) fails

end Spec

end Matcher

end Fexma
