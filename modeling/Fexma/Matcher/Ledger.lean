import Fexma.Matcher.OrderLife
import Fexma.Matcher.Runs

/-! The ledger of a run of new orders: the events tell the life of every order, and
every unit of it is traded, rests in the book or was handed back. -/
namespace Fexma

open PriceTimeBook Transducer

/-! ### The book between commands -/

/-- Where an order stands that some command has brought. -/
def PriceTimeBook.standing (book : PriceTimeBook) (id : OrderId) : Stage :=
  match book.find id with
  | some order => .resting order.remaining.toNat
  | none => .ended

namespace PriceTimeBook

variable {book after : PriceTimeBook} {order : OrderView} {id other : OrderId}

theorem standing_rests (member : order ∈ book.all) :
    book.standing order.id = .resting order.remaining.toNat := by
  rw [standing, find_eq_some.mpr ⟨member, rfl⟩]

theorem standing_absent (absent : book.find id = none) : book.standing id = .ended := by
  rw [standing, absent]

/-- Between commands no order has nothing left and is not done. -/
theorem standing_over (book : PriceTimeBook) (id : OrderId) :
    book.standing id ≠ .taking 0 ∧ book.standing id ≠ .resting 0 := by
  unfold standing
  cases found : book.find id with
  | none => exact ⟨Stage.noConfusion, Stage.noConfusion⟩
  | some order =>
    refine ⟨Stage.noConfusion, fun same => ?_⟩
    have member := mem_all.mp (find_eq_some.mp found).1
    exact book.positive _ order member (UInt32.toNat_inj.mp (Stage.resting.inj same))

/-- What rests under an id. -/
def heldUnder (book : PriceTimeBook) (id : OrderId) : ℕ :=
  match book.find id with
  | some order => order.remaining.toNat
  | none => 0

theorem standing_left (book : PriceTimeBook) (order : NewLimitOrder) :
    (book.standing order.id).left order = book.heldUnder order.id := by
  unfold standing heldUnder
  cases book.find order.id <;> rfl

theorem standing_congr (same : ∀ order, order.id = id → (order ∈ after.all ↔ order ∈ book.all)) :
    after.standing id = book.standing id := by
  have found : after.find id = book.find id := by
    refine Option.ext fun order => ?_
    rw [find_eq_some, find_eq_some]
    exact and_congr_left (same order)
  unfold standing
  rw [found]

theorem standing_drop_self (book : PriceTimeBook) (id : OrderId) :
    (book.drop id).standing id = .ended := by
  refine standing_absent (find_eq_none.mpr fun order member => ?_)
  simpa using (List.mem_filter.mp (mem_all.mp member)).2

theorem standing_drop (apart : other ≠ id) : (book.drop id).standing other = book.standing other := by
  refine standing_congr fun order same => ?_
  have kept : order.id ≠ id := same ▸ apart
  rw [mem_all, mem_all]
  exact List.mem_filter.trans (and_iff_left (decide_eq_true kept))

theorem standing_update {newRemaining : Quantity} (positive : newRemaining ≠ 0)
    (apart : other ≠ id) :
    (book.update id newRemaining positive).standing other = book.standing other := by
  refine standing_congr fun order same => ?_
  rw [mem_all, mem_all]
  refine List.mem_map.trans ⟨?_, fun member => ⟨order, member, if_neg (same ▸ apart)⟩⟩
  rintro ⟨old, member, rfl⟩
  have sameId : old.id = other := (withRemaining_id newRemaining).symm.trans same
  have kept : withRemaining id newRemaining old = old := if_neg (sameId ▸ apart)
  rw [kept] at member ⊢
  exact member

theorem standing_update_self {newRemaining : Quantity} (positive : newRemaining ≠ 0)
    (member : order ∈ book.all) :
    (book.update order.id newRemaining positive).standing order.id =
      .resting newRemaining.toNat := by
  let changed : OrderView := { order with remaining := newRemaining }
  have listed : changed ∈ (book.update order.id newRemaining positive).orders order.side :=
    List.mem_map.mpr ⟨order, mem_all.mp member, if_pos rfl⟩
  exact standing_rests (mem_all_of_mem listed)

theorem mem_all_added (added : after.orders = addTo book.orders order) {old : OrderView} :
    old ∈ after.all ↔ old = order ∨ old ∈ book.all := by
  rw [mem_all, added, mem_addTo, mem_all]
  exact or_congr_left (and_iff_left_of_imp fun same => by rw [same])

theorem standing_added (added : after.orders = addTo book.orders order) (apart : id ≠ order.id) :
    after.standing id = book.standing id := by
  refine standing_congr fun old same => (mem_all_added added).trans (or_iff_right ?_)
  rintro rfl
  exact apart same.symm

end PriceTimeBook

section Plans
variable {incoming order : NewLimitOrder} {book after : PriceTimeBook} {fills : Fills}
variable {event : Event} {result : ProcessResult} {remaining : Quantity} {makers : List OrderView}

/-- An order that is not mentioned stands where it stood. -/
theorem Life.unmentioned {book : PriceTimeBook} (unrelated : ¬ event.Names order.id) :
    Stage.Step order (book.standing order.id) event (book.standing order.id) :=
  .other unrelated (fun due => absurd due (book.standing_over order.id).1)
    (book.standing_over order.id).2

/-- The loop tells the life of every order of the book. -/
theorem fill_life (incoming : NewLimitOrder) (remaining : Quantity) (apart : order.id ≠ incoming.id)
    (listed : book.orders (Matcher.oppositeSide incoming.side) = makers) :
    Life order (book.standing order.id) (fill incoming remaining makers book).steps.events
      ((fill incoming remaining makers book).book.standing order.id) := by
  induction makers generalizing remaining book with
  | nil =>
    rw [fill_nil]
    exact .nil _
  | cons maker makers ih =>
    by_cases stops : remaining = 0 ∨ ¬ Matcher.crosses incoming.side incoming.price maker.price
    · rw [fill_stop stops]
      exact .nil _
    obtain ⟨left, crossing⟩ := not_or.mp stops
    rw [not_not] at crossing
    have here : maker ∈ book.orders (Matcher.oppositeSide incoming.side) := by
      rw [listed]
      exact List.mem_cons_self
    have resting := mem_all_of_mem here
    have some_held := book.positive _ maker here
    by_cases whole : maker.remaining ≤ remaining
    · have behind := ih (remaining - maker.remaining) (drop_front listed)
      rw [fill_whole left crossing whole]
      simp only [Trace.events_cons]
      by_cases own : maker.id = order.id
      · rw [← own, standing_drop_self] at behind
        rw [← own, standing_rests resting]
        refine .cons (.give own apart.symm some_held le_rfl) ?_
        refine .cons ?_ behind
        rw [Nat.sub_self, own]
        exact .empty
      · rw [standing_drop (Ne.symm own)] at behind
        refine .cons (Life.unmentioned (not_or.mpr ⟨apart.symm, own⟩)) ?_
        exact .cons (Life.unmentioned own) behind
    · have more := UInt32.not_le.mp whole
      rw [fill_part left crossing more]
      simp only [Trace.events_cons, Trace.events_nil]
      by_cases own : maker.id = order.id
      · rw [← own, standing_rests resting, standing_update_self _ resting]
        rw [UInt32.toNat_sub_of_le _ _ (UInt32.le_of_lt more)]
        refine .cons (.give own apart.symm left ?_) (.nil _)
        exact UInt32.le_iff_toNat_le.mp (UInt32.le_of_lt more)
      · rw [standing_update _ (Ne.symm own)]
        exact .cons (Life.unmentioned (not_or.mpr ⟨apart.symm, own⟩)) (.nil _)

/-- The loop tells the life of the incoming order. -/
theorem fill_taking (incoming : NewLimitOrder) (remaining : Quantity) (book : PriceTimeBook)
    (others : ∀ maker ∈ makers, maker.id ≠ incoming.id)
    (held : ∀ maker ∈ makers, maker.remaining ≠ 0) :
    Life incoming (.taking remaining.toNat) (fill incoming remaining makers book).steps.events
      (.taking (fill incoming remaining makers book).remaining.toNat) := by
  induction makers generalizing remaining book with
  | nil =>
    rw [fill_nil]
    exact .nil _
  | cons maker makers ih =>
    by_cases stops : remaining = 0 ∨ ¬ Matcher.crosses incoming.side incoming.price maker.price
    · rw [fill_stop stops]
      exact .nil _
    obtain ⟨left, crossing⟩ := not_or.mp stops
    rw [not_not] at crossing
    obtain ⟨apart, others⟩ := List.forall_mem_cons.mp others
    obtain ⟨some_held, held⟩ := List.forall_mem_cons.mp held
    by_cases whole : maker.remaining ≤ remaining
    · have behind := ih (remaining - maker.remaining) (book.drop maker.id) others held
      rw [UInt32.toNat_sub_of_le _ _ whole] at behind
      rw [fill_whole left crossing whole]
      simp only [Trace.events_cons]
      refine .cons (.take rfl apart some_held (UInt32.le_iff_toNat_le.mp whole)) ?_
      exact .cons (.other apart (fun _ => ⟨maker.id, rfl⟩) Stage.noConfusion) behind
    · have more := UInt32.not_le.mp whole
      rw [fill_part left crossing more]
      have last : Life incoming (.taking (remaining.toNat - remaining.toNat)) [] (.taking 0) := by
        rw [Nat.sub_self]
        exact .nil _
      exact .cons (.take rfl apart left le_rfl) last

/-- Settling tells the life of the other orders. -/
theorem Settles.life (settles : Settles incoming fills event after result)
    (apart : order.id ≠ incoming.id) (alive : result.status ≠ .fatal) :
    Stage.Step order (fills.book.standing order.id) event (after.standing order.id) := by
  cases settles with
  | done => exact Life.unmentioned apart.symm
  | rested some_left inside room added =>
    rw [standing_added added apart]
    exact Life.unmentioned apart.symm
  | rejected => exact Life.unmentioned apart.symm
  | stopped => exact absurd rfl alive

/-- Settling tells the life of the incoming order. -/
theorem Settles.taking (settles : Settles incoming fills event after result)
    (absent : fills.book.find incoming.id = none) (positive : incoming.quantity ≠ 0)
    (alive : result.status ≠ .fatal) :
    Stage.Step incoming (.taking fills.remaining.toNat) event (after.standing incoming.id) := by
  cases settles with
  | done none_left =>
    rw [standing_absent absent, none_left]
    exact .fill
  | rested some_left inside room added =>
    have rests := standing_rests ((mem_all_added added).mpr (.inl rfl))
    refine Eq.mpr (congrArg _ rests) ?_
    exact .rest some_left
  | rejected some_left refused untouched =>
    rw [standing_absent absent, untouched]
    exact .reject positive
  | stopped => exact absurd rfl alive

/-- The loop announces trades with makers of its list and their ends. -/
theorem fill_events (incoming : NewLimitOrder) (remaining : Quantity) (makers : List OrderView)
    (book : PriceTimeBook) : ∀ event ∈ (fill incoming remaining makers book).steps.events, ∃ maker ∈ makers,
      (∃ executed, event = tradeWith incoming maker executed) ∨ event = .done maker.id := by
  induction makers generalizing remaining book with
  | nil =>
    rw [fill_nil]
    exact fun event member => nomatch member
  | cons maker makers ih =>
    have here : maker ∈ maker :: makers := List.mem_cons_self
    by_cases stops : remaining = 0 ∨ ¬ Matcher.crosses incoming.side incoming.price maker.price
    · rw [fill_stop stops]
      exact fun event member => nomatch member
    obtain ⟨left, crossing⟩ := not_or.mp stops
    rw [not_not] at crossing
    by_cases whole : maker.remaining ≤ remaining
    · rw [fill_whole left crossing whole]
      simp only [Trace.events_cons, List.forall_mem_cons]
      refine ⟨⟨maker, here, .inl ⟨_, rfl⟩⟩, ⟨maker, here, .inr rfl⟩, fun event member => ?_⟩
      obtain ⟨other, listed, shape⟩ := ih _ _ event member
      exact ⟨other, List.mem_cons_of_mem _ listed, shape⟩
    · rw [fill_part left crossing (UInt32.not_le.mp whole)]
      simp only [Trace.events_cons, Trace.events_nil, List.forall_mem_cons]
      exact ⟨⟨maker, here, .inl ⟨_, rfl⟩⟩, fun event member => nomatch member⟩

/-- Settling mentions the incoming order only. -/
theorem Settles.names (settles : Settles incoming fills event after result)
    (alive : result.status ≠ .fatal) {id : OrderId} (names : event.Names id) : id = incoming.id := by
  cases settles with
  | stopped => exact absurd rfl alive
  | _ => exact names.symm

/-- An order is announced at rest with what the book holds. -/
theorem Settles.rests (settles : Settles incoming fills event after result)
    {rested : OrderRestedEvent} (rests : event = .rested rested) :
    after.find rested.id =
      some ⟨rested.id, rested.ownerId, rested.side, rested.price, rested.remaining⟩ := by
  cases settles with
  | rested some_left inside room added =>
    cases rests
    exact find_eq_some.mpr ⟨(mem_all_added added).mpr (.inl rfl), rfl⟩
  | _ => cases rests

/-- Settling adds the incoming order at most. -/
theorem Settles.all (settles : Settles incoming fills event after result) {view : OrderView}
    (member : view ∈ after.all) : view.id = incoming.id ∨ view ∈ fills.book.all := by
  cases settles with
  | rested some_left inside room added =>
    exact ((mem_all_added added).mp member).imp (fun same => congrArg OrderView.id same) id
  | _ => exact .inr member

end Plans

/-! ### Whole runs -/

/-- The orders that commands bring. -/
def ordersOf (envelopes : List CommandEnvelope) : List NewLimitOrder :=
  envelopes.filterMap fun envelope =>
    match envelope.payload.message with
    | .newLimit order => some order
    | _ => none

/-- The events tell the lives of the orders brought so far, and of no others. -/
structure Ledger (orders : List NewLimitOrder) (lastOrderId : OrderId) (events : List Event)
    (book : PriceTimeBook) : Prop where
  lives : ∀ order ∈ orders, Life order .unseen events (book.standing order.id)
  bounded : ∀ order ∈ orders, order.id ≤ lastOrderId
  increasing : orders.Pairwise fun first second => first.id < second.id
  mentioned : ∀ event ∈ events, ∀ id, event.Names id → ∃ order ∈ orders, order.id = id
  resting : ∀ view ∈ book.all, ∃ order ∈ orders, order.id = view.id

section Runs
variable {orders : List NewLimitOrder} {lastOrderId : OrderId} {events : List Event}
variable {book : PriceTimeBook} {incoming : NewLimitOrder} {σ : Type} {snapshotStore : σ}

/-- An id above all others is not mentioned yet. -/
theorem Ledger.unseen (ledger : Ledger orders lastOrderId events book)
    (fresh : lastOrderId < incoming.id) : Life incoming .unseen events .unseen := by
  refine Path.stays fun event member => .other (fun names => ?_) Stage.noConfusion Stage.noConfusion
  obtain ⟨order, listed, same⟩ := ledger.mentioned event member _ names
  have bounded := ledger.bounded order listed
  rw [same] at bounded
  exact UInt64.not_le.mpr fresh bounded

/-- The ledger with one more order. -/
theorem Ledger.extend {more : List Event} {after : PriceTimeBook}
    (ledger : Ledger orders lastOrderId events book) (fresh : lastOrderId < incoming.id)
    (others : ∀ order : NewLimitOrder, order.id ≠ incoming.id →
      Life order (book.standing order.id) more (after.standing order.id))
    (own : Life incoming .unseen more (after.standing incoming.id))
    (mentioned : ∀ event ∈ more, ∀ id, event.Names id →
      id = incoming.id ∨ ∃ view ∈ book.all, view.id = id)
    (resting : ∀ view ∈ after.all, view.id = incoming.id ∨ ∃ old ∈ book.all, old.id = view.id) :
    Ledger (orders ++ [incoming]) incoming.id (events ++ more) after := by
  have below (order : NewLimitOrder) (listed : order ∈ orders) : order.id < incoming.id :=
    UInt64.lt_of_le_of_lt (ledger.bounded order listed) fresh
  have known {id : OrderId} (known : id = incoming.id ∨ ∃ view ∈ book.all, view.id = id) :
      ∃ order ∈ orders ++ [incoming], order.id = id := by
    rcases known with rfl | ⟨view, rests, rfl⟩
    · exact ⟨incoming, by simp, rfl⟩
    · obtain ⟨order, listed, same⟩ := ledger.resting view rests
      exact ⟨order, by simp [listed], same⟩
  refine ⟨fun order member => ?_, fun order member => ?_, ?_, fun event member id names => ?_,
    fun view member => ?_⟩
  · rcases List.mem_append.mp member with listed | last
    · exact (ledger.lives order listed).append (others order (UInt64.ne_of_lt (below order listed)))
    · obtain rfl := List.mem_singleton.mp last
      exact (ledger.unseen fresh).append own
  · rcases List.mem_append.mp member with listed | last
    · exact UInt64.le_of_lt (below order listed)
    · rw [List.mem_singleton.mp last]
      exact UInt64.le_refl _
  · refine List.pairwise_append.mpr ⟨ledger.increasing, List.pairwise_singleton _ _, ?_⟩
    intro order listed last member
    rw [List.mem_singleton.mp member]
    exact below order listed
  · rcases List.mem_append.mp member with early | late
    · obtain ⟨order, listed, same⟩ := ledger.mentioned event early id names
      exact ⟨order, by simp [listed], same⟩
    · exact known (mentioned event late id names)
  · exact known (resting view member)

/-- The ledger behind a new order that does not stop the matcher. -/
theorem Ledger.newLimit (ledger : Ledger orders lastOrderId events book)
    (known : ∀ order ∈ book.all, order.id ≤ lastOrderId)
    (alive : (newLimitPlan incoming book lastOrderId snapshotStore).result.status ≠ .fatal) :
    let plan := newLimitPlan incoming book lastOrderId snapshotStore
    Ledger (orders ++ [incoming]) plan.lastOrderId (events ++ plan.steps.events) plan.book := by
  by_cases stale : incoming.id ≤ lastOrderId
  · rw [newLimitPlan, if_pos stale] at alive
    exact absurd rfl alive
  have fresh := UInt64.not_le.mp stale
  by_cases zero : incoming.quantity = 0
  · rw [newLimitPlan, if_neg stale, if_pos zero]
    have absent : book.standing incoming.id = .ended :=
      standing_absent ((Shrinks.refl book).find_fresh known fresh)
    refine ledger.extend fresh (fun order apart => ?_) ?_ ?_ fun view rests => .inr ⟨view, rests, rfl⟩
    · exact .cons (Life.unmentioned apart.symm) (.nil _)
    · rw [absent]
      exact .cons (.refuse zero) (.nil _)
    · intro event member id names
      rw [List.mem_singleton.mp member] at names
      exact .inl names.symm
  have lastId : (newLimitPlan incoming book lastOrderId snapshotStore).lastOrderId = incoming.id := by
    rw [newLimitPlan, if_neg stale, if_neg zero]
    exact settlePlan_lastOrderId _ _ _
  obtain ⟨closing, announced, settles⟩ := newLimitPlan_settles snapshotStore known fresh zero
  let makers := book.orders (Matcher.oppositeSide incoming.side)
  have shrinks := (fill_shrinks incoming incoming.quantity makers book).2
  have absent := shrinks.find_fresh known fresh
  have others : ∀ maker ∈ makers, maker.id ≠ incoming.id := by
    intro maker listed same
    have bounded := known maker (mem_all_of_mem listed)
    rw [same] at bounded
    exact stale bounded
  have taking := fill_taking incoming incoming.quantity book others (book.positive _)
  have kinds := fill_events incoming incoming.quantity makers book
  dsimp only
  rw [lastId, announced]
  refine ledger.extend fresh (fun order apart => ?_) ?_ ?_ ?_
  · refine .cons (Life.unmentioned apart.symm) ?_
    exact (fill_life incoming incoming.quantity apart rfl).concat (settles.life apart alive)
  · exact .cons (.accept zero) (taking.concat (settles.taking absent zero alive))
  · refine List.forall_mem_cons.mpr ⟨fun id names => .inl names.symm, fun event member id names => ?_⟩
    rcases List.mem_append.mp member with during | last
    · obtain ⟨maker, listed, ⟨executed, rfl⟩ | rfl⟩ := kinds event during
      · rcases names with taker | rfl
        · exact .inl taker.symm
        · exact .inr ⟨maker, mem_all_of_mem listed, rfl⟩
      · exact .inr ⟨maker, mem_all_of_mem listed, names⟩
    · rw [List.mem_singleton.mp last] at names
      exact .inl (settles.names alive names)
  · intro view rests
    refine (settles.all rests).imp id fun held => ?_
    obtain ⟨old, listed, same, -⟩ := shrinks.2 view.side view (mem_all.mp held)
    exact ⟨old, mem_all_of_mem listed, same⟩

end Runs

/-- What holds of an order and the events of a whole run. -/
structure OrderAccount (order : NewLimitOrder) (events : List Event) (book : PriceTimeBook) :
    Prop where
  /-- Every unit was traded, rests, or was handed back by a rejection. -/
  conserved : order.quantity.toNat = takenBy order.id events + givenBy order.id events +
    book.heldUnder order.id + handedBack order events
  doneOnce : events.count (.done order.id) ≤ 1
  doneWhenFilled : ∀ ahead behind, events = ahead ++ .done order.id :: behind →
    takenBy order.id ahead + givenBy order.id ahead = order.quantity.toNat
  filledThenDone : ∀ ahead trade behind, events = ahead ++ .trade trade :: behind →
    (Event.trade trade).Names order.id → takenBy order.id (ahead ++ [.trade trade]) +
      givenBy order.id (ahead ++ [.trade trade]) = order.quantity.toNat →
    ∃ others rest, behind = others ++ .done order.id :: rest ∧
      ∀ other ∈ others, ∃ maker, other = .done maker
  restedOnce : ∀ ahead event behind, events = ahead ++ event :: behind → event.Rests order.id →
    (∃ remaining : Quantity, remaining.toNat + takenBy order.id ahead + givenBy order.id ahead =
        order.quantity.toNat ∧
        event = .rested ⟨order.id, order.ownerId, order.side, order.price, remaining⟩) ∧
      ∀ later ∈ behind, ¬ later.Rests order.id
  silent : ∀ ahead event behind, events = ahead ++ event :: behind → event.Ends order.id →
    ∀ later ∈ behind, ¬ later.Names order.id
  rejectedUntraded : ∀ reason trade, .rejected order.id reason ∈ events →
    .trade trade ∈ events → ¬ (Event.trade trade).Names order.id

theorem Life.account {order : NewLimitOrder} {events : List Event} {book : PriceTimeBook}
    (life : Life order .unseen events (book.standing order.id)) : OrderAccount order events book where
  conserved := by
    have balance := Life.balance life
    rw [standing_left, Stage.left] at balance
    omega
  doneOnce := Life.done_once life
  doneWhenFilled ahead behind split := Life.done_when_filled (split ▸ life)
  filledThenDone ahead trade behind split :=
    Life.filled_then_done (split ▸ life) (book.standing_over order.id)
  restedOnce ahead event behind split := Life.rests (split ▸ life)
  silent ahead event behind split := Life.silent (split ▸ life)
  rejectedUntraded reason trade rejected traded := Life.rejected_untraded life rejected traded

section Matcher
variable {ω σ : Type} [EventWriter ω] [SnapshotStore σ] {matcher : Matcher ω σ}
variable {config : OrderBookConfig} {eventWriter : ω} {snapshotStore : σ}
variable {firstEventSequence : EventSequence} {envelopes : List CommandEnvelope}

/-- All commands of the run bring new orders. -/
def NewLimits (envelopes : List CommandEnvelope) : Prop :=
  ∀ envelope ∈ envelopes, ∃ order, envelope.payload.message = .newLimit order

theorem NewLimits.noLoad (newLimits : NewLimits envelopes) : Matcher.NoLoad envelopes := by
  intro envelope member command load
  obtain ⟨order, message⟩ := newLimits envelope member
  rw [message] at load
  cases load

theorem run_ledger
    (created : Matcher.create eventWriter snapshotStore config firstEventSequence = some matcher)
    (healthy : Matcher.HealthyWriter ω) (newLimits : NewLimits envelopes)
    (alive : (matcher.processAll envelopes).fatal = false) :
    Ledger (ordersOf envelopes) (matcher.processAll envelopes).lastOrderId
      (matcher.processAll envelopes).messages (matcher.processAll envelopes).book.contents := by
  induction envelopes using List.reverseRecOn with
  | nil =>
    obtain ⟨-, published, -, contents, -⟩ := Matcher.create_spec created
    rw [Matcher.processAll_nil, Matcher.messages, published, contents]
    exact ⟨List.forall_mem_nil _, List.forall_mem_nil _, .nil, List.forall_mem_nil _,
      by simp [PriceTimeBook.all, PriceTimeBook.empty]⟩
  | append_singleton ahead envelope ih =>
    have earlier : NewLimits ahead := fun envelope member => newLimits envelope (by simp [member])
    obtain ⟨incoming, message⟩ := newLimits envelope (by simp)
    have invariant := (Matcher.reachable_run created earlier.noLoad).invariant
    have brought : ordersOf (ahead ++ [envelope]) = ordersOf ahead ++ [incoming] := by
      simp [ordersOf, message]
    rw [Matcher.processAll_append, Matcher.processAll_cons, Matcher.processAll_nil] at alive ⊢
    have before := Matcher.alive_step alive
    have ledger := ih earlier before
    generalize matcher.processAll ahead = middle at *
    have completed :=
      (Matcher.process_completed envelope healthy before (invariant.settled before)).1
    have planned : middle.plan envelope = newLimitPlan incoming middle.book.contents
        middle.lastOrderId middle.snapshotStore := by
      rw [Matcher.plan, message]
    have going : (middle.plan envelope).result.status ≠ .fatal := by
      intro stops
      rw [completed.fatal, stops] at alive
      cases alive
    rw [planned] at completed going
    rw [brought, completed.lastOrderId, completed.messages, completed.contents]
    exact ledger.newLimit invariant.book.known going

omit [SnapshotStore σ] in
/-- What a new order announces at rest is in the book behind its command. -/
theorem rested_held {incoming : NewLimitOrder} {book : PriceTimeBook} {lastOrderId : OrderId}
    (known : ∀ order ∈ book.all, order.id ≤ lastOrderId) {rested : OrderRestedEvent}
    (announces : .rested rested ∈
      (newLimitPlan incoming book lastOrderId snapshotStore).steps.events) :
    (newLimitPlan incoming book lastOrderId snapshotStore).book.find rested.id =
      some ⟨rested.id, rested.ownerId, rested.side, rested.price, rested.remaining⟩ := by
  by_cases stale : incoming.id ≤ lastOrderId
  · rw [newLimitPlan, if_pos stale] at announces
    simp [Plan.stopping] at announces
  by_cases zero : incoming.quantity = 0
  · rw [newLimitPlan, if_neg stale, if_pos zero] at announces
    simp at announces
  obtain ⟨closing, announced, settles⟩ :=
    newLimitPlan_settles snapshotStore known (UInt64.not_le.mp stale) zero
  rw [announced] at announces
  rcases List.mem_cons.mp announces with first | behind
  · cases first
  rcases List.mem_append.mp behind with during | last
  · obtain ⟨maker, listed, ⟨executed, trade⟩ | done⟩ := fill_events _ _ _ _ _ during
    · cases trade
    · cases done
  · exact settles.rests (List.mem_singleton.mp last).symm

/-- With a healthy writer, in every run of new orders that does not stop fatally: every
order has its account, no event mentions any other id, every trade is of some units of two
orders, and an order announced at rest is in the book with just that quantity. -/
theorem order_ledger
    (created : Matcher.create eventWriter snapshotStore config firstEventSequence = some matcher)
    (healthy : Matcher.HealthyWriter ω) (newLimits : NewLimits envelopes)
    (alive : (matcher.processAll envelopes).fatal = false) :
    let after := matcher.processAll envelopes
    (∀ order ∈ ordersOf envelopes, OrderAccount order after.messages after.book.contents) ∧
      (ordersOf envelopes).Pairwise (fun first second => first.id < second.id) ∧
      (∀ event ∈ after.messages, ∀ id, event.Names id → ∃ order ∈ ordersOf envelopes, order.id = id) ∧
      (∀ trade, .trade trade ∈ after.messages →
        trade.quantity ≠ 0 ∧ trade.takerOrderId ≠ trade.makerOrderId) ∧
      ∀ ahead envelope behind, envelopes = ahead ++ envelope :: behind →
        let before := matcher.processAll ahead
        let next := (before.process envelope).2
        ∃ group, next.messages = before.messages ++ group ∧ ∀ rested, .rested rested ∈ group →
          next.book.contents.find rested.id =
            some ⟨rested.id, rested.ownerId, rested.side, rested.price, rested.remaining⟩ := by
  have ledger := run_ledger created healthy newLimits alive
  refine ⟨fun order member => Life.account (ledger.lives order member), ledger.increasing,
    ledger.mentioned, fun trade member => ?_, ?_⟩
  · obtain ⟨order, listed, same⟩ := ledger.mentioned _ member trade.takerOrderId (.inl rfl)
    obtain ⟨front, rest, split⟩ := List.append_of_mem member
    have life := ledger.lives order listed
    rw [split] at life
    exact Life.trade_shape life (.inl same.symm)
  · rintro ahead envelope behind rfl
    have earlier : NewLimits ahead := fun envelope member => newLimits envelope (by simp [member])
    obtain ⟨incoming, message⟩ := newLimits envelope (by simp)
    have invariant := (Matcher.reachable_run created earlier.noLoad).invariant
    rw [Matcher.processAll_append] at alive
    generalize matcher.processAll ahead = before at *
    have live := Matcher.alive_before alive
    have completed := (Matcher.process_completed envelope healthy live (invariant.settled live)).1
    have planned : before.plan envelope = newLimitPlan incoming before.book.contents
        before.lastOrderId before.snapshotStore := by
      rw [Matcher.plan, message]
    refine ⟨_, completed.messages, fun rested announced => ?_⟩
    rw [planned] at announced
    rw [completed.contents, planned]
    exact rested_held invariant.book.known announced

end Matcher

/-- A bid, and an ask that takes it and rests. -/
theorem order_ledger_taken_bid :
    ∃ matcher : Matcher (List EventEnvelope) NullSnapshotStore,
      Matcher.create [] {} ⟨100, 200, 2⟩ = some matcher ∧
      let after := matcher.processAll
        [⟨1, 17, .newLimit ⟨1, 5, .bid, 150, 5⟩⟩, ⟨2, 17, .newLimit ⟨2, 6, .ask, 140, 7⟩⟩]
      OrderAccount ⟨1, 5, .bid, 150, 5⟩ after.messages after.book.contents := by
  obtain ⟨matcher, created⟩ := Matcher.exists_create ([] : List EventEnvelope)
    ({} : NullSnapshotStore) ⟨100, 200, 2⟩ 1 (by decide)
  have runs : ((Matcher.create ([] : List EventEnvelope) ({} : NullSnapshotStore)
      ⟨100, 200, 2⟩).map fun matcher => (matcher.processAll
        [⟨1, 17, .newLimit ⟨1, 5, .bid, 150, 5⟩⟩, ⟨2, 17, .newLimit ⟨2, 6, .ask, 140, 7⟩⟩]).fatal) =
      some false := by decide +kernel
  rw [created, Option.map_some, Option.some_inj] at runs
  exact ⟨matcher, created, (order_ledger created (fun _ _ => rfl) (by simp [NewLimits]) runs).1 _
    (by simp [ordersOf])⟩

end Fexma
