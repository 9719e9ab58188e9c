import Fexma.Matcher.Reachable

/-! A new order is matched in price-time priority: who trades, at which price, how
much, and what the book holds behind it. -/
namespace Fexma

open PriceTimeBook StableOrder

def Event.isTrade : Event → Bool
  | .trade _ => true
  | _ => false

/-- Units executed in all. -/
def executedTotal (executions : List (OrderView × Quantity)) : ℕ :=
  (executions.map fun execution => execution.2.toNat).sum

/-- A maker behind its execution: gone if it gave all, else reduced in place. -/
def reduced (executions : List (OrderView × Quantity)) (order : OrderView) : Option OrderView :=
  match executions.find? (fun execution => execution.1.id = order.id) with
  | none => some order
  | some (_, executed) =>
    if executed = order.remaining then none
    else some { order with remaining := order.remaining - executed }

/-- The orders of a side that an incoming order crosses. -/
def crossingOrders (incoming : NewLimitOrder) (makers : List OrderView) : List OrderView :=
  makers.filter fun maker => Matcher.crosses incoming.side incoming.price maker.price

section Executes
variable {incoming : NewLimitOrder} {remaining left : Quantity}
variable {makers rest : List OrderView} {executions : List (OrderView × Quantity)}

/-- Earlier in the list is at least as good. -/
def Prioritized (incoming : NewLimitOrder) (makers : List OrderView) : Prop :=
  makers.Pairwise fun first second =>
    Matcher.crosses incoming.side incoming.price second.price →
      Matcher.crosses incoming.side incoming.price first.price

theorem crossingOrders_cons {maker : OrderView}
    (crossing : Matcher.crosses incoming.side incoming.price maker.price) :
    crossingOrders incoming (maker :: makers) = maker :: crossingOrders incoming makers :=
  List.filter_cons_of_pos crossing

theorem Executes.in_priority (executes : Executes incoming remaining makers executions left rest) :
    executions.map Prod.fst <+: crossingOrders incoming makers := by
  induction executes with
  | stop => exact List.nil_prefix
  | whole some_left crossing enough behind ih =>
    rw [crossingOrders_cons crossing, List.map_cons]
    exact List.prefix_cons_inj _ |>.mpr ih
  | part some_left crossing more =>
    rw [crossingOrders_cons crossing]
    exact List.prefix_cons_inj _ |>.mpr List.nil_prefix

/-- What is left is what was not executed. -/
theorem Executes.left_eq (executes : Executes incoming remaining makers executions left rest) :
    left.toNat + executedTotal executions = remaining.toNat := by
  induction executes with
  | stop => rfl
  | whole some_left crossing enough behind ih =>
    have fewer := UInt32.le_iff_toNat_le.mp enough
    rw [UInt32.toNat_sub_of_le _ _ enough] at ih
    simp only [executedTotal, List.map_cons, List.sum_cons] at ih ⊢
    omega
  | part => simp [executedTotal]

/-- The total is all that crosses, or all of the order. -/
theorem Executes.total (executes : Executes incoming remaining makers executions left rest)
    (prioritized : Prioritized incoming makers) :
    executedTotal executions = min remaining.toNat
      ((crossingOrders incoming makers).map fun maker => maker.remaining.toNat).sum := by
  induction executes with
  | stop stops =>
    rename_i remaining makers
    rcases stops with rfl | front
    · simp [executedTotal]
    · have nothing : crossingOrders incoming makers = [] := by
        refine List.filter_eq_nil_iff.mpr fun maker member crossing => ?_
        cases makers with
        | nil => cases member
        | cons best behind =>
          rcases List.mem_cons.mp member with rfl | later
          · exact front maker rfl crossing
          · exact front best rfl ((List.pairwise_cons.mp prioritized).1 maker later crossing)
      simp [nothing, executedTotal]
  | whole some_left crossing enough behind ih =>
    have fewer := UInt32.le_iff_toNat_le.mp enough
    have behind := ih (List.pairwise_cons.mp prioritized).2
    rw [UInt32.toNat_sub_of_le _ _ enough] at behind
    rw [crossingOrders_cons crossing]
    simp only [executedTotal, List.map_cons, List.sum_cons] at behind ⊢
    omega
  | part some_left crossing more =>
    have less := UInt32.lt_iff_toNat_lt.mp more
    rw [crossingOrders_cons crossing]
    simp only [executedTotal, List.map_cons, List.map_nil, List.sum_cons, List.sum_nil]
    omega

/-- Every trade takes the lesser of what is left on either side. -/
theorem Executes.quantities (executes : Executes incoming remaining makers executions left rest)
    {ahead behind : List (OrderView × Quantity)} {maker : OrderView} {executed : Quantity}
    (split : executions = ahead ++ (maker, executed) :: behind) :
    executed.toNat = min (remaining.toNat - executedTotal ahead) maker.remaining.toNat := by
  induction executes generalizing ahead with
  | stop => simp at split
  | whole some_left crossing enough rest ih =>
    have fewer := UInt32.le_iff_toNat_le.mp enough
    cases ahead with
    | nil =>
      simp only [List.nil_append, List.cons.injEq, Prod.mk.injEq] at split
      obtain ⟨⟨rfl, rfl⟩, -⟩ := split
      simp only [executedTotal, List.map_nil, List.sum_nil]
      omega
    | cons first ahead =>
      simp only [List.cons_append, List.cons.injEq] at split
      obtain ⟨rfl, split⟩ := split
      have taken := ih split
      rw [UInt32.toNat_sub_of_le _ _ enough] at taken
      simp only [executedTotal, List.map_cons, List.sum_cons] at taken ⊢
      omega
  | part some_left crossing more =>
    have less := UInt32.lt_iff_toNat_lt.mp more
    cases ahead with
    | nil =>
      simp only [List.nil_append, List.cons.injEq, Prod.mk.injEq] at split
      obtain ⟨⟨rfl, rfl⟩, -⟩ := split
      simp only [executedTotal, List.map_nil, List.sum_nil]
      omega
    | cons first ahead => simp at split

/-- All makers but possibly the last one give everything. -/
theorem Executes.whole_but_last
    (executes : Executes incoming remaining makers executions left rest)
    {ahead behind : List (OrderView × Quantity)} {execution next : OrderView × Quantity}
    (split : executions = ahead ++ execution :: next :: behind) :
    execution.2 = execution.1.remaining := by
  induction executes generalizing ahead with
  | stop => simp at split
  | whole some_left crossing enough rest ih =>
    cases ahead with
    | nil =>
      simp only [List.nil_append, List.cons.injEq] at split
      obtain ⟨rfl, -⟩ := split
      rfl
    | cons first ahead =>
      simp only [List.cons_append, List.cons.injEq] at split
      exact ih split.2
  | part =>
    cases ahead with
    | nil => simp at split
    | cons first ahead => simp at split

theorem reduced_other {order : OrderView} (others : ∀ execution ∈ executions,
    execution.1.id ≠ order.id) : reduced executions order = some order := by
  have absent : executions.find? (fun execution => execution.1.id = order.id) = none := by
    simpa using others
  rw [reduced, absent]

/-- The makers behind the allocation, one by one. -/
theorem Executes.rest_eq (executes : Executes incoming remaining makers executions left rest)
    (distinct : (makers.map OrderView.id).Nodup) : rest = makers.filterMap (reduced executions) := by
  induction executes with
  | stop => exact List.filterMap_some.symm
  | whole some_left crossing enough behind ih =>
    rename_i remaining maker makers executions left rest
    obtain ⟨apart, distinct⟩ := List.nodup_cons.mp distinct
    have gone : reduced ((maker, maker.remaining) :: executions) maker = none := by
      simp [reduced]
    rw [List.filterMap_cons_none gone, ih distinct]
    refine List.filterMap_congr fun order member => ?_
    have other : ¬ maker.id = order.id := fun same =>
      apart (List.mem_map.mpr ⟨order, member, same.symm⟩)
    simp [reduced, other]
  | part some_left crossing more =>
    rename_i remaining maker makers
    obtain ⟨apart, distinct⟩ := List.nodup_cons.mp distinct
    have partly : remaining ≠ maker.remaining := by
      rintro rfl
      exact UInt32.lt_irrefl _ more
    have kept : reduced [(maker, remaining)] maker =
        some { maker with remaining := maker.remaining - remaining } := by
      simp [reduced, partly]
    rw [List.filterMap_cons_some kept]
    congr 1
    refine (List.filterMap_some.symm.trans ?_)
    refine List.filterMap_congr fun order member => ?_
    refine (reduced_other ?_).symm
    intro execution only
    rw [List.mem_singleton.mp only]
    exact fun same => apart (List.mem_map.mpr ⟨order, member, same.symm⟩)

end Executes

/-- The queue at a price. -/
def PriceTimeBook.level (book : PriceTimeBook) (side : Side) (price : PriceTick) :
    List OrderView :=
  (book.orders side).filter fun order => order.price = price

/-- The greedy price-time match of an order: its executions and the book behind them. -/
structure PriceTimeMatch (incoming : NewLimitOrder) (before after : PriceTimeBook)
    (executions : List (OrderView × Quantity)) : Prop where
  /-- The makers are the first of the crossing orders, best price and oldest first. -/
  inPriority : executions.map Prod.fst <+:
    crossingOrders incoming (before.orders (Matcher.oppositeSide incoming.side))
  quantities : ∀ ahead maker executed behind, executions = ahead ++ (maker, executed) :: behind →
    executed ≠ 0 ∧
      executed.toNat = min (incoming.quantity.toNat - executedTotal ahead) maker.remaining.toNat
  wholeButLast : ∀ ahead execution next behind, executions = ahead ++ execution :: next :: behind →
    execution.2 = execution.1.remaining
  total : executedTotal executions = min incoming.quantity.toNat
    ((crossingOrders incoming (before.orders (Matcher.oppositeSide incoming.side))).map
      fun maker => maker.remaining.toNat).sum
  config : after.config = before.config
  opposite : after.orders (Matcher.oppositeSide incoming.side) =
    (before.orders (Matcher.oppositeSide incoming.side)).filterMap (reduced executions)
  /-- The remainder joins the tail of its level if its price is in range and a slot is free. -/
  own : ∀ price, after.level incoming.side price = before.level incoming.side price ++
    if incoming.quantity.toNat - executedTotal executions ≠ 0 ∧
        before.config.contains incoming.price ∧
        (before.orders incoming.side).length +
            ((before.orders (Matcher.oppositeSide incoming.side)).filterMap
              (reduced executions)).length < before.config.maxOrders.toNat ∧
        price = incoming.price then
      [{ id := incoming.id, ownerId := incoming.ownerId, side := incoming.side, price
         remaining := .ofNat (incoming.quantity.toNat - executedTotal executions) }]
    else []

section Match
variable {incoming : NewLimitOrder} {book : PriceTimeBook} {fills : Fills} {σ : Type}
variable {snapshotStore : σ} {executions : List (OrderView × Quantity)}

theorem prioritized (incoming : NewLimitOrder) (book : PriceTimeBook) :
    Prioritized incoming (book.orders (Matcher.oppositeSide incoming.side)) := by
  refine (book.ordered (Matcher.oppositeSide incoming.side)).imp fun ahead crossing => ?_
  rw [crosses_iff] at crossing ⊢
  exact ahead.trans crossing

theorem level_eq_group (book : PriceTimeBook) (side : Side) (price : PriceTick) :
    book.level side price = group (viewRank side) (rank side price) (book.orders side) := by
  refine List.filter_congr fun order _ => decide_eq_decide.mpr ?_
  exact (rank_injective side).eq_iff.symm

/-- The two sides hold all orders of a book. -/
theorem all_length_sides (book : PriceTimeBook) (side : Side) : book.all.length =
    (book.orders side).length + (book.orders (Matcher.oppositeSide side)).length := by
  rw [PriceTimeBook.all, List.length_append]
  cases side
  · rfl
  · exact Nat.add_comm _ _

/-- What settling leaves in the book: the other side as it is, and the remainder if
it finds range and room. -/
theorem Settles.leaves {event : Event} {after : PriceTimeBook} {result : ProcessResult}
    (settles : Settles incoming fills event after result) :
    after.config = fills.book.config ∧
      after.orders (Matcher.oppositeSide incoming.side) =
        fills.book.orders (Matcher.oppositeSide incoming.side) ∧
      after.orders incoming.side =
        if fills.remaining ≠ 0 ∧ fills.book.config.contains incoming.price ∧
            fills.book.all.length < fills.book.config.maxOrders.toNat then
          insertLast (viewRank incoming.side) (incoming.resting fills.remaining).view
            (fills.book.orders incoming.side)
        else fills.book.orders incoming.side := by
  cases settles with
  | done none_left => exact ⟨rfl, rfl, (if_neg fun rests => rests.1 none_left).symm⟩
  | rested some_left inside room added config =>
    refine ⟨config, ?_, ?_⟩
    · rw [added]
      exact Function.update_of_ne (oppositeSide_ne incoming.side) _ _
    · rw [added, if_pos ⟨some_left, inside, room⟩]
      exact Function.update_self _ _ _
  | rejected some_left refused => exact ⟨rfl, rfl, (if_neg fun rests => refused rests.2).symm⟩
  | stopped some_left refused => exact ⟨rfl, rfl, (if_neg fun rests => refused rests.2).symm⟩

theorem Settles.not_trade {event : Event} {after : PriceTimeBook} {result : ProcessResult}
    (settles : Settles incoming fills event after result) : event.isTrade = false := by
  cases settles <;> rfl

theorem announcements_trades (incoming : NewLimitOrder)
    (executions : List (OrderView × Quantity)) :
    (announcements incoming executions).filter Event.isTrade =
      executions.map fun (maker, executed) => tradeWith incoming maker executed := by
  induction executions with
  | nil => rfl
  | cons execution executions ih =>
    have ends : (if execution.2 = execution.1.remaining then [Event.done execution.1.id]
        else []).filter Event.isTrade = [] := by
      split <;> rfl
    rw [announcements, List.flatMap_cons, ← announcements, List.filter_append,
      List.filter_cons_of_pos rfl, ends, ih]
    rfl

/-- Makers that rest have quantity, so each of their trades has. -/
theorem Executes.positive {remaining left : Quantity} {makers rest : List OrderView}
    (executes : Executes incoming remaining makers executions left rest)
    (resting : ∀ maker ∈ makers, maker.remaining ≠ 0) :
    ∀ execution ∈ executions, execution.2 ≠ 0 := by
  induction executes with
  | stop => simp
  | whole some_left crossing enough behind ih =>
    simp only [List.forall_mem_cons] at resting ⊢
    exact ⟨resting.1, ih resting.2⟩
  | part some_left => simpa using some_left

/-- The plan of a fresh order is its price-time match. -/
theorem newLimitPlan_matches (snapshotStore : σ) {before : PriceTimeBook} {lastOrderId : OrderId}
    (fresh : lastOrderId < incoming.id) (known : ∀ order ∈ before.all, order.id ≤ lastOrderId)
    (positive : incoming.quantity ≠ 0) :
    let plan := newLimitPlan incoming before lastOrderId snapshotStore
    ∃ executions, plan.steps.events.filter Event.isTrade =
        executions.map (fun (maker, executed) => tradeWith incoming maker executed) ∧
      PriceTimeMatch incoming before plan.book executions := by
  let opposite := before.orders (Matcher.oppositeSide incoming.side)
  obtain ⟨executions, executes, events, own, config⟩ :=
    fill_executes incoming incoming.quantity before rfl
  obtain ⟨closing, announced, settles⟩ := newLimitPlan_settles snapshotStore known fresh positive
  dsimp only at announced settles ⊢
  generalize fill incoming incoming.quantity opposite before = fills at *
  generalize newLimitPlan incoming before lastOrderId snapshotStore = plan at *
  obtain ⟨sameConfig, across, along⟩ := settles.leaves
  have distinct : (opposite.map OrderView.id).Nodup :=
    before.distinct.sublist ((orders_sublist before _).map _)
  have left := executes.left_eq
  have rest := executes.rest_eq distinct
  refine ⟨executions, ?_, executes.in_priority, fun ahead maker executed behind split => ⟨?_, ?_⟩,
    fun ahead execution next behind split => executes.whole_but_last split,
    executes.total (prioritized incoming before), sameConfig.trans config, across.trans rest, ?_⟩
  · have opening : (Event.accepted incoming.id).isTrade = false := rfl
    rw [announced, events, List.filter_cons_of_neg (by simp [opening]), List.filter_append, announcements_trades,
      List.filter_cons_of_neg (by simp [settles.not_trade]), List.filter_nil, List.append_nil]
  · exact executes.positive (before.positive _) (maker, executed) (by rw [split]; simp)
  · exact executes.quantities split
  · intro price
    have remaining : fills.remaining.toNat = incoming.quantity.toNat - executedTotal executions := by
      omega
    have occupied : fills.book.all.length = (before.orders incoming.side).length +
        (opposite.filterMap (reduced executions)).length := by
      rw [all_length_sides fills.book incoming.side, own, rest]
    have rests : (fills.remaining ≠ 0 ∧ fills.book.config.contains incoming.price ∧
          fills.book.all.length < fills.book.config.maxOrders.toNat) ↔
        (incoming.quantity.toNat - executedTotal executions ≠ 0 ∧
          before.config.contains incoming.price ∧
          (before.orders incoming.side).length + (opposite.filterMap (reduced executions)).length <
            before.config.maxOrders.toNat) := by
      rw [config, occupied, ← remaining]
      exact and_congr_left' (not_congr UInt32.toNat_inj.symm)
    rw [own] at along
    rw [level_eq_group, level_eq_group, along]
    by_cases joins : fills.remaining ≠ 0 ∧ fills.book.config.contains incoming.price ∧
      fills.book.all.length < fills.book.config.maxOrders.toNat
    · obtain ⟨some_left, inside, room⟩ := rests.mp joins
      have key : viewRank incoming.side (incoming.resting fills.remaining).view =
          rank incoming.side price ↔ price = incoming.price :=
        (rank_injective incoming.side).eq_iff.trans eq_comm
      rw [if_pos joins, group_insertLast (before.ordered incoming.side)]
      by_cases here : price = incoming.price
      · rw [if_pos (key.mpr here), if_pos ⟨some_left, inside, room, here⟩, ← remaining, here,
          UInt32.ofNat_toNat]
        rfl
      · rw [if_neg fun same => here (key.mp same), if_neg fun all => here all.2.2.2, List.append_nil]
    · rw [if_neg joins, if_neg fun all => joins (rests.mpr ⟨all.1, all.2.1, all.2.2.1⟩),
        List.append_nil]

end Match

/-- With a healthy writer a fresh order is matched in price-time priority: its trades,
in order, are those of the match, and the book is the one behind it. -/
theorem new_limit_matches {ω σ : Type} {writer : EventWriter ω} {store : SnapshotStore σ}
    {config : OrderBookConfig} {matcher : Matcher ω σ}
    (reachable : Reachable config ω σ writer store matcher) (alive : matcher.fatal = false)
    (healthy : Matcher.HealthyWriter ω) {incoming : NewLimitOrder} (envelope : CommandEnvelope)
    (message : envelope.payload.message = .newLimit incoming)
    (fresh : matcher.lastOrderId < incoming.id) (positive : incoming.quantity ≠ 0) :
    let after := (matcher.process envelope).2
    ∃ group executions, after.published = matcher.published ++ group ∧
      (group.map fun event => event.payload.message).filter Event.isTrade =
        executions.map (fun (maker, executed) => tradeWith incoming maker executed) ∧
      PriceTimeMatch incoming matcher.book.contents after.book.contents executions := by
  have invariant := reachable.invariant
  have completed := (Matcher.process_completed envelope healthy alive (invariant.settled alive)).1
  have planned : matcher.plan envelope = newLimitPlan incoming matcher.book.contents
      matcher.lastOrderId matcher.snapshotStore := by
    rw [Matcher.plan, message]
  obtain ⟨executions, trades, isMatch⟩ := newLimitPlan_matches matcher.snapshotStore fresh
    invariant.book.known positive
  refine ⟨_, executions, completed.published, ?_, ?_⟩
  · rw [closedGroup_messages, planned]
    exact trades
  · rw [completed.contents, planned]
    exact isMatch

/-- A resting bid and an ask for more than it holds. -/
theorem new_limit_matches_partial_taker :
    ∃ matcher : Matcher (List EventEnvelope) NullSnapshotStore,
      Matcher.create [] {} ⟨100, 200, 2⟩ = some matcher ∧
      let before := (matcher.process ⟨1, 17, .newLimit ⟨1, 5, .bid, 150, 5⟩⟩).2
      let after := (before.process ⟨2, 17, .newLimit ⟨2, 6, .ask, 140, 7⟩⟩).2
      ∃ group executions, after.published = before.published ++ group ∧
        (group.map fun event => event.payload.message).filter Event.isTrade =
          executions.map (fun (maker, executed) => tradeWith ⟨2, 6, .ask, 140, 7⟩ maker executed) ∧
        PriceTimeMatch ⟨2, 6, .ask, 140, 7⟩ before.book.contents after.book.contents
          executions := by
  obtain ⟨matcher, created⟩ := Matcher.exists_create ([] : List EventEnvelope)
    ({} : NullSnapshotStore) ⟨100, 200, 2⟩ 1 (by decide)
  have runs : ((Matcher.create ([] : List EventEnvelope) ({} : NullSnapshotStore)
      ⟨100, 200, 2⟩).map fun matcher =>
        let before := (matcher.process ⟨1, 17, .newLimit ⟨1, 5, .bid, 150, 5⟩⟩).2
        (before.fatal, before.lastOrderId)) = some (false, 1) := by decide +kernel
  rw [created, Option.map_some, Option.some_inj, Prod.mk.injEq] at runs
  have reachable : Reachable ⟨100, 200, 2⟩ (List EventEnvelope) NullSnapshotStore inferInstance
      inferInstance (matcher.process ⟨1, 17, .newLimit ⟨1, 5, .bid, 150, 5⟩⟩).2 :=
    .process (.create created) _ nofun
  have fresh : (matcher.process ⟨1, 17, .newLimit ⟨1, 5, .bid, 150, 5⟩⟩).2.lastOrderId < 2 := by
    rw [runs.2]
    decide
  exact ⟨matcher, created, new_limit_matches reachable runs.1 (fun _ _ => rfl) _ rfl fresh
    (by decide)⟩

end Fexma
