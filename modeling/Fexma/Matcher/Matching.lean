import Fexma.Matcher.Plan

/-! The matching loop as a greedy allocation: makers are taken from the front of
the priority list, each gives all it has but possibly the last one, and the book
changes at the front of one side only. -/
namespace Fexma

open PriceTimeBook StableOrder

/-- What `remaining` units of the incoming order take from a priority list: each
maker with what it gives, what is left of the order and what is left of the list. -/
inductive Executes (incoming : NewLimitOrder) :
    Quantity → List OrderView → List (OrderView × Quantity) → Quantity → List OrderView → Prop
  | stop {remaining makers} (stops : remaining = 0 ∨ ∀ maker ∈ makers.head?,
      ¬ Matcher.crosses incoming.side incoming.price maker.price) :
    Executes incoming remaining makers [] remaining makers
  | whole {remaining maker makers executions left rest} (some_left : remaining ≠ 0)
      (crossing : Matcher.crosses incoming.side incoming.price maker.price)
      (enough : maker.remaining ≤ remaining)
      (behind : Executes incoming (remaining - maker.remaining) makers executions left rest) :
    Executes incoming remaining (maker :: makers) ((maker, maker.remaining) :: executions) left rest
  | part {remaining maker makers} (some_left : remaining ≠ 0)
      (crossing : Matcher.crosses incoming.side incoming.price maker.price)
      (more : remaining < maker.remaining) :
    Executes incoming remaining (maker :: makers) [(maker, remaining)] 0
      ({ maker with remaining := maker.remaining - remaining } :: makers)

variable {incoming : NewLimitOrder} {remaining left : Quantity} {maker order : OrderView}
variable {makers rest : List OrderView} {book : PriceTimeBook} {side : Side}

/-! ### The front of a side -/

theorem oppositeSide_ne (side : Side) : Matcher.oppositeSide side ≠ side := by
  cases side <;> decide

theorem orders_sublist (book : PriceTimeBook) (side : Side) :
    (book.orders side).Sublist book.all := by
  cases side
  · exact List.sublist_append_left _ _
  · exact List.sublist_append_right _ _

/-- No other order of the side carries the id of the first one. -/
theorem behind_ne (listed : book.orders side = maker :: makers) :
    ∀ order ∈ makers, order.id ≠ maker.id := by
  intro order member same
  have distinct : ((book.orders side).map OrderView.id).Nodup :=
    book.distinct.sublist ((orders_sublist book side).map _)
  rw [listed, List.map_cons, List.nodup_cons] at distinct
  exact distinct.1 (List.mem_map.mpr ⟨order, member, same⟩)

/-- Nor does an order of the other side. -/
theorem across_ne (member : maker ∈ book.orders side) {other : Side} (apart : other ≠ side) :
    ∀ order ∈ book.orders other, order.id ≠ maker.id := by
  intro order member' same
  have unique := eq_of_id (mem_all_of_mem member') (mem_all_of_mem member) same
  apply apart
  rw [← book.sided other order member', ← book.sided side maker member, unique]

theorem drop_front (listed : book.orders side = maker :: makers) :
    (book.drop maker.id).orders side = makers := by
  have dropped : (book.drop maker.id).orders side =
      (book.orders side).filter (·.id ≠ maker.id) := rfl
  rw [dropped, listed, List.filter_cons_of_neg (by simp), List.filter_eq_self]
  exact fun order member => decide_eq_true (behind_ne listed order member)

theorem drop_across (member : maker ∈ book.orders side) {other : Side} (apart : other ≠ side) :
    (book.drop maker.id).orders other = book.orders other := by
  have dropped : (book.drop maker.id).orders other =
      (book.orders other).filter (·.id ≠ maker.id) := rfl
  rw [dropped, List.filter_eq_self]
  exact fun order member' => decide_eq_true (across_ne member apart order member')

theorem map_withRemaining {orders : List OrderView} {id : OrderId} {newRemaining : Quantity}
    (others : ∀ order ∈ orders, order.id ≠ id) :
    orders.map (withRemaining id newRemaining) = orders := by
  refine (List.map_congr_left fun order member => ?_).trans (List.map_id orders)
  exact if_neg (others order member)

theorem update_front {newRemaining : Quantity} {positive : newRemaining ≠ 0}
    (listed : book.orders side = maker :: makers) :
    (book.update maker.id newRemaining positive).orders side =
      { maker with remaining := newRemaining } :: makers := by
  have updated : (book.update maker.id newRemaining positive).orders side =
      (book.orders side).map (withRemaining maker.id newRemaining) := rfl
  rw [updated, listed, List.map_cons, map_withRemaining (behind_ne listed), withRemaining,
    if_pos rfl]

theorem update_across {newRemaining : Quantity} (positive : newRemaining ≠ 0)
    (member : maker ∈ book.orders side) {other : Side} (apart : other ≠ side) :
    (book.update maker.id newRemaining positive).orders other = book.orders other :=
  map_withRemaining (across_ne member apart)

/-! ### The greedy allocation -/

/-- The events of an allocation: a trade for each maker, and its end if it gave all. -/
def announcements (incoming : NewLimitOrder) (executions : List (OrderView × Quantity)) :
    List Event :=
  executions.flatMap fun (maker, executed) => tradeWith incoming maker executed ::
    if executed = maker.remaining then [.done maker.id] else []

/-- The loop is the greedy allocation on the other side of the book. -/
theorem fill_executes (incoming : NewLimitOrder) (remaining : Quantity) (book : PriceTimeBook)
    (listed : book.orders (Matcher.oppositeSide incoming.side) = makers) :
    ∃ executions, Executes incoming remaining makers executions
        (fill incoming remaining makers book).remaining
        ((fill incoming remaining makers book).book.orders (Matcher.oppositeSide incoming.side)) ∧
      (fill incoming remaining makers book).steps.events = announcements incoming executions ∧
      (fill incoming remaining makers book).book.orders incoming.side = book.orders incoming.side ∧
      (fill incoming remaining makers book).book.config = book.config := by
  induction makers generalizing remaining book with
  | nil =>
    rw [fill_nil, listed]
    exact ⟨[], .stop (.inr (by simp)), rfl, rfl, rfl⟩
  | cons maker makers ih =>
    by_cases stops : remaining = 0 ∨ ¬ Matcher.crosses incoming.side incoming.price maker.price
    · rw [fill_stop stops, listed]
      exact ⟨[], .stop (stops.imp id (by simp)), rfl, rfl, rfl⟩
    obtain ⟨some_left, crossing⟩ := not_or.mp stops
    rw [not_not] at crossing
    have here : maker ∈ book.orders (Matcher.oppositeSide incoming.side) := by
      rw [listed]
      exact List.mem_cons_self
    have apart := (oppositeSide_ne incoming.side).symm
    by_cases enough : maker.remaining ≤ remaining
    · obtain ⟨executions, executes, events, own, config⟩ :=
        ih _ _ (drop_front listed)
      rw [fill_whole some_left crossing enough]
      refine ⟨_, .whole some_left crossing enough executes, ?_, own.trans (drop_across here apart),
        config⟩
      rw [announcements, List.flatMap_cons, ← announcements, ← events]
      simp
    · have more := UInt32.not_le.mp enough
      have other : remaining ≠ maker.remaining := by
        rintro rfl
        exact UInt32.lt_irrefl _ more
      rw [fill_part some_left crossing more, update_front listed]
      refine ⟨_, .part some_left crossing more, ?_, update_across (sub_ne_zero more) here apart, rfl⟩
      simp [announcements, other]

/-! ### Where the loop ends -/

/-- An order crosses what ranks no worse than its own limit on the other side. -/
theorem crosses_iff {side : Side} {limit price : PriceTick} : Matcher.crosses side limit price ↔
    rank (Matcher.oppositeSide side) price ≤ rank (Matcher.oppositeSide side) limit := by
  cases side with
  | bid =>
    simp only [Matcher.crosses, decide_eq_true_eq, UInt32.le_iff_toNat_le, Matcher.oppositeSide, rank]
    omega
  | ask =>
    simp only [Matcher.crosses, decide_eq_true_eq, UInt32.le_iff_toNat_le, Matcher.oppositeSide, rank]
    omega

variable {executions : List (OrderView × Quantity)}

/-- The allocation ends with the order or in front of a maker it does not cross. -/
theorem Executes.exit (executes : Executes incoming remaining makers executions left rest) :
    left = 0 ∨ ∀ maker ∈ rest.head?,
      ¬ Matcher.crosses incoming.side incoming.price maker.price := by
  induction executes with
  | stop stops => exact stops
  | whole _ _ _ _ ih => exact ih
  | part => exact .inl rfl

/-- If the best order does not cross, no order does. -/
theorem none_crosses (front : ∀ maker ∈ (book.orders (Matcher.oppositeSide incoming.side)).head?,
      ¬ Matcher.crosses incoming.side incoming.price maker.price) :
    ∀ order ∈ book.orders (Matcher.oppositeSide incoming.side),
      ¬ Matcher.crosses incoming.side incoming.price order.price := by
  intro order member crossing
  have ordered := book.ordered (Matcher.oppositeSide incoming.side)
  cases listed : book.orders (Matcher.oppositeSide incoming.side) with
  | nil =>
    rw [listed] at member
    cases member
  | cons best behind =>
    rw [listed] at front ordered member
    apply front best rfl
    rw [crosses_iff] at crossing ⊢
    rcases List.mem_cons.mp member with rfl | later
    · exact crossing
    · have ahead : viewRank (Matcher.oppositeSide incoming.side) best ≤
        viewRank (Matcher.oppositeSide incoming.side) order :=
        List.rel_of_pairwise_cons ordered later
      exact ahead.trans crossing

/-! ### Matching only takes away -/

/-- Every order of one book rests in another under the same id at the same price. -/
def Shrinks (before after : PriceTimeBook) : Prop :=
  after.config = before.config ∧ ∀ side, ∀ order ∈ after.orders side,
    ∃ old ∈ before.orders side, old.id = order.id ∧ old.price = order.price

theorem Shrinks.refl (book : PriceTimeBook) : Shrinks book book :=
  ⟨rfl, fun _ order member => ⟨order, member, rfl, rfl⟩⟩

theorem Shrinks.trans {first second third : PriceTimeBook} (early : Shrinks first second)
    (late : Shrinks second third) : Shrinks first third := by
  refine ⟨late.1.trans early.1, fun side order member => ?_⟩
  obtain ⟨middle, held, sameId, samePrice⟩ := late.2 side order member
  obtain ⟨old, listed, oldId, oldPrice⟩ := early.2 side middle held
  exact ⟨old, listed, oldId.trans sameId, oldPrice.trans samePrice⟩

/-- An id above all that rest stays unknown. -/
theorem Shrinks.find_fresh {before after : PriceTimeBook} {lastOrderId id : OrderId}
    (shrinks : Shrinks before after) (known : ∀ order ∈ before.all, order.id ≤ lastOrderId)
    (fresh : lastOrderId < id) : after.find id = none := by
  refine find_eq_none.mpr fun order member same => ?_
  obtain ⟨old, listed, sameId, -⟩ := shrinks.2 order.side order (mem_all.mp member)
  have bounded := known old (mem_all_of_mem listed)
  rw [sameId, same] at bounded
  exact UInt64.not_le.mpr fresh bounded

theorem shrinks_drop (book : PriceTimeBook) (id : OrderId) : Shrinks book (book.drop id) :=
  ⟨rfl, fun _ order member => ⟨order, List.mem_of_mem_filter member, rfl, rfl⟩⟩

theorem shrinks_update (book : PriceTimeBook) (id : OrderId) {newRemaining : Quantity}
    (positive : newRemaining ≠ 0) : Shrinks book (book.update id newRemaining positive) := by
  refine ⟨rfl, fun side order member => ?_⟩
  obtain ⟨old, listed, rfl⟩ := List.mem_map.mp member
  exact ⟨old, listed, by simp, by simp⟩

/-- All books shown during the matching, and the one behind it, have shrunk. -/
theorem fill_shrinks (incoming : NewLimitOrder) (remaining : Quantity) (makers : List OrderView)
    (book : PriceTimeBook) :
    (∀ shown ∈ (fill incoming remaining makers book).steps.books, Shrinks book shown) ∧
      Shrinks book (fill incoming remaining makers book).book := by
  induction makers generalizing remaining book with
  | nil =>
    rw [fill_nil]
    exact ⟨by simp, .refl book⟩
  | cons maker makers ih =>
    by_cases stops : remaining = 0 ∨ ¬ Matcher.crosses incoming.side incoming.price maker.price
    · rw [fill_stop stops]
      exact ⟨by simp, .refl book⟩
    obtain ⟨some_left, crossing⟩ := not_or.mp stops
    rw [not_not] at crossing
    by_cases enough : maker.remaining ≤ remaining
    · have first := shrinks_drop book maker.id
      obtain ⟨shown, last⟩ :=
        ih (remaining - maker.remaining) (book.drop maker.id)
      rw [fill_whole some_left crossing enough]
      refine ⟨?_, first.trans last⟩
      simp only [Trace.books_cons, List.forall_mem_cons]
      exact ⟨.refl book, first, fun after member => first.trans (shown after member)⟩
    · have more := UInt32.not_le.mp enough
      rw [fill_part some_left crossing more]
      refine ⟨?_, shrinks_update book _ (sub_ne_zero more)⟩
      simp only [Trace.books_cons, Trace.books_nil, List.forall_mem_cons]
      exact ⟨.refl book, by simp⟩

/-! ### The remainder -/

/-- What becomes of an order behind its executions: the closing event, the book and
the result. -/
inductive Settles (incoming : NewLimitOrder) (fills : Fills) :
    Event → PriceTimeBook → ProcessResult → Prop
  | done (none_left : fills.remaining = 0) :
    Settles incoming fills (.done incoming.id) fills.book {}
  | rested {after : PriceTimeBook} (some_left : fills.remaining ≠ 0)
      (inside : fills.book.config.contains incoming.price)
      (room : fills.book.all.length < fills.book.config.maxOrders.toNat)
      (added : after.orders = addTo fills.book.orders (incoming.resting fills.remaining).view)
      (config : after.config = fills.book.config) :
    Settles incoming fills
      (.rested ⟨incoming.id, incoming.ownerId, incoming.side, incoming.price, fills.remaining⟩)
      after {}
  | rejected (some_left : fills.remaining ≠ 0)
      (refused : ¬ (fills.book.config.contains incoming.price ∧
        fills.book.all.length < fills.book.config.maxOrders.toNat))
      (untouched : fills.remaining = incoming.quantity) :
    Settles incoming fills (.rejected incoming.id .bookInsertFailed) fills.book {}
  | stopped (some_left : fills.remaining ≠ 0)
      (refused : ¬ (fills.book.config.contains incoming.price ∧
        fills.book.all.length < fills.book.config.maxOrders.toNat))
      (touched : fills.remaining ≠ incoming.quantity) :
    Settles incoming fills (.fatal .bookInsertFailedAfterExecution incoming.id incoming.id)
      fills.book { status := .fatal, fatalReason := .bookInsertFailedAfterExecution }

theorem settlePlan_settles {σ : Type} {fills : Fills} (snapshotStore : σ)
    (fresh : fills.book.find incoming.id = none) :
    let plan := settlePlan incoming fills snapshotStore
    ∃ event, plan.steps = [(plan.book, event)] ∧
      Settles incoming fills event plan.book plan.result := by
  by_cases none_left : fills.remaining = 0
  · simp only [settlePlan, none_left, ↓reduceIte]
    exact ⟨_, rfl, .done none_left⟩
  by_cases inserted : (fills.book.insert (incoming.resting fills.remaining)).1 = .ok
  · obtain ⟨-, inside, -, room⟩ := insert_ok_iff.mp inserted
    obtain ⟨added, config⟩ := insert_orders inserted
    simp only [settlePlan, none_left, inserted, ↓reduceIte]
    exact ⟨_, rfl, .rested none_left inside room added config⟩
  have refused : ¬ (fills.book.config.contains incoming.price ∧
      fills.book.all.length < fills.book.config.maxOrders.toNat) :=
    fun fits => inserted (insert_ok_iff.mpr ⟨none_left, fits.1, fresh, fits.2⟩)
  by_cases untouched : fills.remaining = incoming.quantity
  · have resting := none_left
    rw [untouched] at inserted resting
    simp only [settlePlan, untouched, resting, inserted, ↓reduceIte]
    exact ⟨_, rfl, .rejected none_left refused untouched⟩
  · simp only [settlePlan, Plan.stopping, untouched, none_left, inserted, ↓reduceIte]
    exact ⟨_, rfl, .stopped none_left refused untouched⟩

/-- A fresh order is accepted, matched and settled. -/
theorem newLimitPlan_settles {σ : Type} (snapshotStore : σ) {lastOrderId : OrderId}
    (known : ∀ order ∈ book.all, order.id ≤ lastOrderId) (fresh : lastOrderId < incoming.id)
    (positive : incoming.quantity ≠ 0) :
    let fills := fill incoming incoming.quantity
      (book.orders (Matcher.oppositeSide incoming.side)) book
    let plan := newLimitPlan incoming book lastOrderId snapshotStore
    ∃ closing, plan.steps.events = .accepted incoming.id :: (fills.steps.events ++ [closing]) ∧
      Settles incoming fills closing plan.book plan.result := by
  have shrinks := (fill_shrinks incoming incoming.quantity
    (book.orders (Matcher.oppositeSide incoming.side)) book).2
  obtain ⟨closing, step, settles⟩ :=
    settlePlan_settles snapshotStore (shrinks.find_fresh known fresh)
  rw [newLimitPlan, if_neg (UInt64.not_le.mpr fresh), if_neg positive]
  refine ⟨closing, ?_, settles⟩
  simp [Plan.after, step]

end Fexma
