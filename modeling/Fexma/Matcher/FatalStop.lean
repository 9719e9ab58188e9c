import Fexma.Matcher.Execution
import Fexma.Matcher.Runs

/-! When a new order stops the matcher: the orders and states behind which nothing but a
remainder that is out of range can do so. -/
namespace Fexma

open PriceTimeBook Processing

section Executes
variable {incoming : NewLimitOrder} {remaining left : Quantity}
variable {makers rest : List OrderView} {executions : List (OrderView × Quantity)}

/-- With quantity left every maker that traded is gone. -/
theorem Executes.length_rest (executes : Executes incoming remaining makers executions left rest)
    (some_left : left ≠ 0) : rest.length + executions.length = makers.length := by
  induction executes with
  | stop => rfl
  | whole _ _ _ _ ih =>
    have behind := ih some_left
    rw [List.length_cons, List.length_cons]
    omega
  | part => exact absurd rfl some_left

/-- Something is executed as soon as one trade is made. -/
theorem Executes.traded_iff (executes : Executes incoming remaining makers executions left rest)
    (resting : ∀ maker ∈ makers, maker.remaining ≠ 0) : executions ≠ [] ↔ left ≠ remaining := by
  have total := executes.left_eq
  have positive := executes.positive resting
  constructor
  · intro some_trade same
    cases executions with
    | nil => exact some_trade rfl
    | cons execution executions =>
      have first := positive execution List.mem_cons_self
      have nonzero : execution.2.toNat ≠ 0 := fun zero => first (UInt32.toNat_inj.mp zero)
      rw [same] at total
      simp only [executedTotal, List.map_cons, List.sum_cons] at total
      omega
  · rintro less rfl
    apply less
    apply UInt32.toNat_inj.mp
    simpa [executedTotal] using total

end Executes

section Remainder
variable {incoming : NewLimitOrder} {book : PriceTimeBook}

/-- Behind a trade the remainder of a fresh order finds a slot and an unused id. -/
theorem remainder_fits {lastOrderId : OrderId} (known : ∀ order ∈ book.all, order.id ≤ lastOrderId)
    (fresh : lastOrderId < incoming.id) {fills : Fills}
    (filled : fill incoming incoming.quantity (book.orders (Matcher.oppositeSide incoming.side))
      book = fills)
    (some_left : fills.remaining ≠ 0) (touched : fills.remaining ≠ incoming.quantity) :
    fills.book.find incoming.id = none ∧
      fills.book.all.length < fills.book.config.maxOrders.toNat := by
  obtain ⟨executions, executes, -, own, config⟩ :=
    fill_executes incoming incoming.quantity book rfl
  have shrinks := (fill_shrinks incoming incoming.quantity
    (book.orders (Matcher.oppositeSide incoming.side)) book).2
  rw [filled] at executes own config shrinks
  refine ⟨shrinks.find_fresh known fresh, ?_⟩
  have gone := executes.length_rest some_left
  have traded := List.length_pos_of_ne_nil ((executes.traded_iff (book.positive _)).mpr touched)
  have before := all_length_sides book incoming.side
  have fits : book.all.length ≤ book.config.maxOrders.toNat := book.fits
  rw [all_length_sides fills.book incoming.side, own, config]
  omega

end Remainder

/-- A loop that no writer interrupts ends in the settling of what is left. -/
theorem matchLoop_settle {ω σ : Type} [EventWriter ω] (healthy : Matcher.HealthyWriter ω)
    (matcher : Matcher ω σ) {incoming : NewLimitOrder} {envelope : CommandEnvelope}
    {eventWriter : ω} {events : List Event} {remaining : Quantity} {fills : Fills}
    (filled : fill incoming remaining
      (matcher.book.contents.orders (Matcher.oppositeSide incoming.side)) matcher.book.contents =
        fills) :
    ∃ s, matchLoop incoming remaining.toNat remaining
        (announced matcher envelope eventWriter events) = settle incoming fills.remaining s ∧
      s.matcher.book.contents = fills.book := by
  apply matchLoop_cases matcher
    (fun result => ∃ s, result = settle incoming fills.remaining s ∧
      s.matcher.book.contents = fills.book) _ rfl le_rfl filled
  · rintro s ⟨_, _, _, _, _, ⟨before, refused, fails, -⟩, -⟩
    exact absurd (healthy before refused) fails
  · intro eventWriter' book held
    exact ⟨_, rfl, held⟩

/-- The reasons of failed updates of a maker behind its trade. -/
def FatalReason.OfMaker (reason : FatalReason) : Prop :=
  reason = .bookEraseFailedAfterExecution ∨ reason = .bookUpdateFailedAfterExecution

section Reasons
variable {ω σ : Type} [SnapshotStore σ] {matcher : Matcher ω σ}

omit [SnapshotStore σ] in
theorem newLimitPlan_reason (incoming : NewLimitOrder) (book : PriceTimeBook) (lastOrderId : OrderId)
    (snapshotStore : σ) :
    ¬ (newLimitPlan incoming book lastOrderId snapshotStore).result.fatalReason.OfMaker := by
  simp only [newLimitPlan, Plan.after, settlePlan, Plan.stopping]
  split_ifs <;> rintro (same | same) <;> cases same

/-- No plan stops over a maker. -/
theorem Matcher.plan_reason (envelope : CommandEnvelope) :
    ¬ (matcher.plan envelope).result.fatalReason.OfMaker := by
  rw [plan]
  cases envelope.payload.message with
  | newLimit order => exact newLimitPlan_reason _ _ _ _
  | saveSnapshot =>
    simp only [saveSnapshotPlan, Plan.stopping, announcing]
    split <;> rintro (same | same) <;> cases same
  | loadSnapshot command =>
    simp only [loadSnapshotPlan, Plan.stopping]
    split
    · split_ifs <;> rintro (same | same) <;> cases same
    · dsimp only
      split_ifs <;> rintro (same | same) <;> cases same
  | _ => rintro (same | same) <;> cases same

variable [EventWriter ω]

/-- Nor does a command, from a state that has not stopped so. -/
theorem Matcher.process_reason (envelope : CommandEnvelope) (idle : matcher.Idle)
    (before : ¬ (matcher.fatal = true ∧ matcher.fatalReason.OfMaker)) :
    ¬ (matcher.process envelope).1.fatalReason.OfMaker ∧
      ¬ ((matcher.process envelope).2.fatal = true ∧
        (matcher.process envelope).2.fatalReason.OfMaker) := by
  cases alive : matcher.fatal with
  | true =>
    have stuck : matcher.process envelope =
        ({ status := .fatal, fatalReason := matcher.fatalReason }, matcher) := by
      rw [process, if_pos alive]
    rw [stuck]
    exact ⟨fun stops => before ⟨alive, stops⟩, before⟩
  | false =>
    rcases process_spec matcher envelope alive (idle alive) with ⟨completed, result⟩ |
      ⟨interrupted, result⟩
    · rw [result]
      refine ⟨plan_reason envelope, ?_⟩
      rintro ⟨fatal, stops⟩
      rw [completed.fatal, decide_eq_true_eq] at fatal
      rw [completed.fatalReason fatal] at stops
      exact plan_reason envelope stops
    · rw [result, interrupted.fatalReason]
      constructor
      · rintro (same | same) <;> cases same
      · rintro ⟨-, same | same⟩ <;> cases same

end Reasons

theorem Reachable.reason {ω σ : Type} {writer : EventWriter ω} {store : SnapshotStore σ}
    {config : OrderBookConfig} {matcher : Matcher ω σ}
    (reachable : Reachable config ω σ writer store matcher) :
    ¬ (matcher.fatal = true ∧ matcher.fatalReason.OfMaker) := by
  induction reachable with
  | create created =>
    obtain ⟨book, -, rfl⟩ := Option.map_eq_some_iff.mp created
    rintro ⟨fatal, -⟩
    cases fatal
  | process reachable envelope _ ih =>
    exact (Matcher.process_reason envelope reachable.invariant.settled ih).2
  | load reachable _ envelope _ _ ih _ =>
    exact (Matcher.process_reason envelope reachable.invariant.settled ih).2

/-- Trades are announced exactly if there are executions. -/
theorem announced_trade {incoming : NewLimitOrder} {executions : List (OrderView × Quantity)}
    {closing : Event} (closes : closing.isTrade = false) :
    (∃ event ∈ .accepted incoming.id :: (announcements incoming executions ++ [closing]),
      event.isTrade = true) ↔ executions ≠ [] := by
  have opens : (Event.accepted incoming.id).isTrade = false := rfl
  have trades := announcements_trades incoming executions
  constructor
  · rintro ⟨event, member, isTrade⟩ rfl
    simp only [announcements, List.flatMap_nil, List.nil_append, List.mem_cons,
      List.not_mem_nil, or_false] at member
    rcases member with rfl | rfl
    · rw [opens] at isTrade
      cases isTrade
    · rw [closes] at isTrade
      cases isTrade
  · intro some_trade
    have listed : (announcements incoming executions).filter Event.isTrade ≠ [] := by
      rw [trades]
      exact fun none => some_trade (List.map_eq_nil_iff.mp none)
    obtain ⟨event, member⟩ := List.exists_mem_of_ne_nil _ listed
    obtain ⟨among, isTrade⟩ := List.mem_filter.mp member
    exact ⟨event, List.mem_cons_of_mem _ (List.mem_append_left _ among), isTrade⟩

/-- What settling stops for. -/
theorem Settles.stops_iff {incoming : NewLimitOrder} {fills : Fills} {event : Event}
    {after : PriceTimeBook} {result : ProcessResult} (settles : Settles incoming fills event after result)
    (room : fills.remaining ≠ 0 → fills.remaining ≠ incoming.quantity →
      fills.book.all.length < fills.book.config.maxOrders.toNat) :
    (result.status = .fatal ↔ fills.remaining ≠ incoming.quantity ∧ fills.remaining ≠ 0 ∧
        ¬ fills.book.config.contains incoming.price) ∧
      (result.status = .fatal → result.fatalReason = .bookInsertFailedAfterExecution) := by
  cases settles with
  | done none_left =>
    exact ⟨⟨nofun, fun stops => absurd none_left stops.2.1⟩, nofun⟩
  | rested some_left inside =>
    exact ⟨⟨nofun, fun stops => absurd inside stops.2.2⟩, nofun⟩
  | rejected some_left refused untouched =>
    exact ⟨⟨nofun, fun stops => absurd untouched stops.1⟩, nofun⟩
  | stopped some_left refused touched =>
    refine ⟨⟨fun _ => ⟨touched, some_left, fun inside => ?_⟩, fun _ => rfl⟩, fun _ => rfl⟩
    exact refused ⟨inside, room some_left touched⟩

/-- A fresh order stops a healthy matcher exactly if it trades, wants more than what crosses it
offers, and has a price out of range. Behind a trade the insertion of the remainder never fails
for a slot or for its id, and no command ever stops over a maker. -/
theorem fatal_stop_iff {ω σ : Type} {writer : EventWriter ω} {store : SnapshotStore σ}
    {config : OrderBookConfig} {matcher : Matcher ω σ}
    (reachable : Reachable config ω σ writer store matcher) (alive : matcher.fatal = false)
    (healthy : Matcher.HealthyWriter ω) {incoming : NewLimitOrder} (envelope : CommandEnvelope)
    (message : envelope.payload.message = .newLimit incoming)
    (fresh : matcher.lastOrderId < incoming.id) (positive : incoming.quantity ≠ 0) :
    let processed := matcher.process envelope
    let liquidity := ((crossingOrders incoming (matcher.book.contents.orders
      (Matcher.oppositeSide incoming.side))).map fun maker => maker.remaining.toNat).sum
    (∃ group, processed.2.published = matcher.published ++ group ∧
      (processed.1.status = .fatal ↔
        (∃ event ∈ group, event.payload.message.isTrade) ∧ liquidity < incoming.quantity.toNat ∧
          ¬ config.contains incoming.price)) ∧
    (processed.1.status = .fatal →
      processed.1.fatalReason = .bookInsertFailedAfterExecution ∧ processed.2.fatal = true ∧
        processed.2.fatalReason = .bookInsertFailedAfterExecution) ∧
    (∀ other, ¬ (matcher.process other).1.fatalReason.OfMaker) ∧
    ∀ eventWriter, ∃ left s,
      matchLoop incoming incoming.quantity.toNat incoming.quantity
          (announced { matcher with lastOrderId := incoming.id } envelope eventWriter
            [.accepted incoming.id]) = settle incoming left s ∧
        (left ≠ 0 → left ≠ incoming.quantity →
          (s.matcher.book.insert (incoming.resting left)).1 = .ok ∨
            (s.matcher.book.insert (incoming.resting left)).1 = .priceOutOfRange) := by
  have invariant := reachable.invariant
  obtain ⟨completed, result⟩ :=
    Matcher.process_completed envelope healthy alive (invariant.settled alive)
  have planned : matcher.plan envelope = newLimitPlan incoming matcher.book.contents
      matcher.lastOrderId matcher.snapshotStore := by
    rw [Matcher.plan, message]
  obtain ⟨executions, executes, events, -, bookConfig⟩ :=
    fill_executes incoming incoming.quantity matcher.book.contents rfl
  obtain ⟨closing, announced, settles⟩ :=
    newLimitPlan_settles matcher.snapshotStore invariant.book.known fresh positive
  have fits := @remainder_fits incoming _ _ invariant.book.known fresh _ rfl
  have total := executes.total (prioritized incoming matcher.book.contents)
  have left := executes.left_eq
  have traded := executes.traded_iff (matcher.book.contents.positive _)
  have settle {eventWriter : ω} {fills : Fills} :=
    @matchLoop_settle ω σ _ healthy { matcher with lastOrderId := incoming.id } incoming envelope
      eventWriter [.accepted incoming.id] incoming.quantity fills
  dsimp only at announced settles settle
  rw [← planned] at announced settles
  generalize fill incoming incoming.quantity (matcher.book.contents.orders
    (Matcher.oppositeSide incoming.side)) matcher.book.contents = fills at *
  rw [invariant.book.config] at bookConfig
  have room (some_left : fills.remaining ≠ 0) (touched : fills.remaining ≠ incoming.quantity) :=
    (fits some_left touched).2
  obtain ⟨stops, reason⟩ := settles.stops_iff room
  rw [bookConfig] at stops
  refine ⟨⟨_, completed.published, ?_⟩, ?_, ?_, ?_⟩
  · have group : (∃ event ∈ closedGroup matcher.nextEventSequence envelope
          (matcher.plan envelope).steps.events, event.payload.message.isTrade = true) ↔
        ∃ event ∈ (matcher.plan envelope).steps.events, event.isTrade = true := by
      have messages := @closedGroup_messages matcher.nextEventSequence envelope
        (matcher.plan envelope).steps.events
      conv_rhs => rw [← messages]
      simp only [List.mem_map, exists_exists_and_eq_and]
    have some_left : fills.remaining ≠ 0 ↔ fills.remaining.toNat ≠ 0 :=
      not_congr UInt32.toNat_inj.symm
    rw [group, announced, events, announced_trade settles.not_trade, traded, result, stops, some_left]
    refine and_congr_right fun touched => and_congr_left' ?_
    omega
  · intro fatal
    rw [result] at fatal ⊢
    rw [completed.fatal, completed.fatalReason fatal]
    exact ⟨reason fatal, decide_eq_true fatal, reason fatal⟩
  · exact fun other => (Matcher.process_reason other invariant.settled reachable.reason).1
  · intro eventWriter
    obtain ⟨s, looped, held⟩ := settle rfl
    refine ⟨_, s, looped, fun some_left touched => ?_⟩
    obtain ⟨unused, free⟩ := fits some_left touched
    rw [Book.insert_status, held]
    by_cases inside : fills.book.config.contains incoming.price
    · exact .inl (insert_ok_iff.mpr ⟨some_left, inside, unused, free⟩)
    · refine .inr ?_
      have quantity : (incoming.resting fills.remaining).quantity ≠ 0 := some_left
      have price : ¬ fills.book.config.contains (incoming.resting fills.remaining).price := inside
      rw [PriceTimeBook.insert, dif_neg quantity, dif_neg price]

/-- An ask below the range takes a bid and wants more. -/
theorem fatal_stop_iff_out_of_range :
    ∃ matcher : Matcher (List EventEnvelope) NullSnapshotStore,
      Matcher.create [] {} ⟨100, 200, 2⟩ = some matcher ∧
      let before := (matcher.process ⟨1, 17, .newLimit ⟨1, 5, .bid, 150, 5⟩⟩).2
      let processed := before.process ⟨2, 17, .newLimit ⟨2, 6, .ask, 90, 7⟩⟩
      ∃ group, processed.2.published = before.published ++ group ∧
        (processed.1.status = .fatal ↔ (∃ event ∈ group, event.payload.message.isTrade) ∧
          ((crossingOrders ⟨2, 6, .ask, 90, 7⟩ (before.book.contents.orders .bid)).map
            fun maker => maker.remaining.toNat).sum < 7 ∧
          ¬ (⟨100, 200, 2⟩ : OrderBookConfig).contains 90) := by
  obtain ⟨matcher, created⟩ := Matcher.exists_create ([] : List EventEnvelope)
    ({} : NullSnapshotStore) ⟨100, 200, 2⟩ 1 (by decide)
  have runs : ((Matcher.create ([] : List EventEnvelope) ({} : NullSnapshotStore)
      ⟨100, 200, 2⟩).map fun matcher =>
        let before := (matcher.process ⟨1, 17, .newLimit ⟨1, 5, .bid, 150, 5⟩⟩).2
        (before.fatal, before.lastOrderId)) = some (false, 1) := by decide +kernel
  rw [created, Option.map_some, Option.some_inj, Prod.mk.injEq] at runs
  have reachable : Reachable ⟨100, 200, 2⟩ (List EventEnvelope) NullSnapshotStore inferInstance
      inferInstance (matcher.process ⟨1, 17, .newLimit ⟨1, 5, .bid, 150, 5⟩⟩).2 :=
    .process (.create created) _ nofun
  have fresh : (matcher.process ⟨1, 17, .newLimit ⟨1, 5, .bid, 150, 5⟩⟩).2.lastOrderId < 2 := by
    rw [runs.2]
    decide
  have stops := fatal_stop_iff reachable runs.1 (fun _ _ => rfl)
    ⟨2, 17, .newLimit ⟨2, 6, .ask, 90, 7⟩⟩ rfl fresh (by decide)
  exact ⟨matcher, created, stops.1⟩

end Fexma
