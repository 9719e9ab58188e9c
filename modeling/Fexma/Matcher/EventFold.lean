import Fexma.Matcher.Execution
import Fexma.Matcher.Runs

/-! The events describe the book: an observer that folds them over an empty book
holds what the matcher holds, behind every command. -/
namespace Fexma

open PriceTimeBook StableOrder

/-- The resting orders an observer of the events knows of, oldest first. -/
abbrev ObservedBook := List OrderView

namespace ObservedBook

/-- The queue at a price. -/
def level (book : ObservedBook) (side : Side) (price : PriceTick) : List OrderView :=
  book.filter fun order => order.side = side ∧ order.price = price

/-- What an event does to the observed book. There is no answer to a trade with a
maker that does not rest or for more than it has. -/
def apply (book : ObservedBook) : Event → Option ObservedBook
  | .rested order => some (book ++ [⟨order.id, order.ownerId, order.side, order.price, order.remaining⟩])
  | .trade trade =>
    match book.find? fun order => order.id = trade.makerOrderId with
    | some maker =>
      if trade.quantity ≤ maker.remaining then
        some (book.map (withRemaining maker.id (maker.remaining - trade.quantity)))
      else none
    | none => none
  | .done id => some (book.filter (·.id ≠ id))
  | _ => some book

def fold (book : ObservedBook) (events : List Event) : Option ObservedBook := events.foldlM apply book

/-- The observed book has the queues of a book. -/
def Describes (book : ObservedBook) (contents : PriceTimeBook) : Prop :=
  ∀ side price, book.level side price = contents.level side price

variable {book : ObservedBook} {contents : PriceTimeBook} {order maker : OrderView}
variable {id : OrderId} {side : Side} {price : PriceTick} {events more : List Event}

theorem fold_nil : book.fold [] = some book := rfl

theorem fold_cons (event : Event) :
    book.fold (event :: events) = (book.apply event).bind fun next => fold next events := rfl

theorem fold_append : book.fold (events ++ more) = (book.fold events).bind fun next => fold next more :=
  List.foldlM_append

/-! ### The queues -/

theorem mem_level_own : order ∈ book.level order.side order.price ↔ order ∈ book := by
  simp [level]

theorem mem_contents_level : order ∈ contents.level order.side order.price ↔ order ∈ contents.all := by
  rw [PriceTimeBook.level, List.mem_filter, mem_all]
  simp

/-- All orders of a side and price make up its queue. -/
theorem all_filter (contents : PriceTimeBook) (side : Side) (price : PriceTick) :
    contents.all.filter (fun order => order.side = side ∧ order.price = price) =
      contents.level side price := by
  have own (along : Side) : (contents.orders along).filter
      (fun order => order.side = side ∧ order.price = price) =
        if along = side then contents.level side price else [] := by
    by_cases same : along = side
    · subst same
      rw [if_pos rfl, PriceTimeBook.level]
      refine List.filter_congr fun order member => ?_
      simp [contents.sided along order member]
    · rw [if_neg same, List.filter_eq_nil_iff]
      intro order member
      simp [contents.sided along order member, same]
  unfold PriceTimeBook.all
  rw [List.filter_append, own, own]
  cases side <;> simp

namespace Describes

variable (describes : book.Describes contents)
include describes

theorem mem_iff : order ∈ book ↔ order ∈ contents.all := by
  rw [← mem_level_own, describes, mem_contents_level]

/-- The observer finds what rests. -/
theorem find_eq (member : maker ∈ contents.all) :
    book.find? (fun order => order.id = maker.id) = some maker := by
  have listed := describes.mem_iff.mpr member
  cases found : book.find? fun order => order.id = maker.id with
  | none =>
    have absent := List.find?_eq_none.mp found maker listed
    simp at absent
  | some other =>
    have same : other.id = maker.id := by simpa using List.find?_some found
    have known := describes.mem_iff.mp (List.mem_of_find?_eq_some found)
    rw [eq_of_id known member same]

/-- The same orders, each once. -/
theorem perm : book.Perm contents.all := by
  refine List.perm_iff_count.mpr fun order => ?_
  have observed : book.count order = (book.level order.side order.price).count order := by
    unfold level
    rw [List.count_filter]
    simp
  have held : contents.all.count order = (contents.level order.side order.price).count order := by
    rw [← all_filter, List.count_filter]
    simp
  rw [observed, held, describes]

/-- An order leaves. -/
theorem drop (id : OrderId) : Describes (book.filter (·.id ≠ id)) (contents.drop id) := by
  intro side price
  have observed : level (book.filter (·.id ≠ id)) side price =
      (book.level side price).filter (·.id ≠ id) := List.filter_comm _ _ _
  have held : (contents.drop id).level side price =
      (contents.level side price).filter (·.id ≠ id) := List.filter_comm _ _ _
  rw [observed, held, describes]

/-- An order is reduced in place. -/
theorem update {newRemaining : Quantity} (positive : newRemaining ≠ 0) :
    Describes (book.map (withRemaining id newRemaining))
      (contents.update id newRemaining positive) := by
  intro side price
  have observed : level (book.map (withRemaining id newRemaining)) side price =
      (book.level side price).map (withRemaining id newRemaining) := by
    unfold level
    rw [List.filter_map]
    simp [Function.comp_def]
  have held : (contents.update id newRemaining positive).level side price =
      (contents.level side price).map (withRemaining id newRemaining) := by
    unfold PriceTimeBook.level PriceTimeBook.update
    rw [List.filter_map]
    simp [Function.comp_def]
  rw [observed, held, describes]

/-- An order comes to rest behind its equals. -/
theorem add {after : PriceTimeBook} (added : after.orders = addTo contents.orders order) :
    Describes (book ++ [order]) after := by
  intro side price
  have observed : level (book ++ [order]) side price = book.level side price ++
      if order.side = side ∧ order.price = price then [order] else [] := by
    unfold level
    rw [List.filter_append]
    congr 1
    by_cases here : order.side = side ∧ order.price = price <;> simp [here]
  have held : after.level side price = contents.level side price ++
      if order.side = side ∧ order.price = price then [order] else [] := by
    rw [level_eq_group, level_eq_group, added]
    by_cases own : order.side = side
    · subst own
      have key : viewRank order.side order = rank order.side price ↔ order.price = price :=
        (rank_injective order.side).eq_iff
      rw [addTo, Function.update_self, group_insertLast (contents.ordered order.side)]
      by_cases here : order.price = price
      · rw [if_pos (key.mpr here), if_pos ⟨rfl, here⟩]
      · rw [if_neg fun same => here (key.mp same), if_neg fun both => here both.2, List.append_nil]
    · rw [addTo, Function.update_of_ne (Ne.symm own), if_neg fun both => own both.1, List.append_nil]
  rw [observed, held, describes]

end Describes

/-! ### One command -/

section Command
variable {incoming : NewLimitOrder} {executed remaining : Quantity} {makers : List OrderView}
variable {σ : Type} {snapshotStore : σ} {lastOrderId : OrderId}

theorem apply_trade (describes : book.Describes contents) (member : maker ∈ contents.all)
    (enough : executed ≤ maker.remaining) :
    book.apply (tradeWith incoming maker executed) =
      some (book.map (withRemaining maker.id (maker.remaining - executed))) := by
  simp only [apply, tradeWith]
  rw [describes.find_eq member]
  exact if_pos enough

theorem filter_reduced (book : ObservedBook) (newRemaining : Quantity) :
    (book.map (withRemaining id newRemaining)).filter (·.id ≠ id) = book.filter (·.id ≠ id) := by
  induction book with
  | nil => rfl
  | cons order book ih =>
    by_cases same : order.id = id
    · rw [List.map_cons, List.filter_cons_of_neg (by simp [same]),
        List.filter_cons_of_neg (by simp [same]), ih]
    · have kept : withRemaining id newRemaining order = order := if_neg same
      rw [List.map_cons, kept, List.filter_cons_of_pos (by simp [same]),
        List.filter_cons_of_pos (by simp [same]), ih]

/-- The observer follows the matching loop. -/
theorem fold_fill (incoming : NewLimitOrder) (remaining : Quantity)
    (describes : book.Describes contents)
    (listed : contents.orders (Matcher.oppositeSide incoming.side) = makers) :
    ∃ after, book.fold (fill incoming remaining makers contents).steps.events = some after ∧
      after.Describes (fill incoming remaining makers contents).book := by
  induction makers generalizing remaining book contents with
  | nil =>
    rw [fill_nil]
    exact ⟨book, rfl, describes⟩
  | cons maker makers ih =>
    by_cases stops : remaining = 0 ∨ ¬ Matcher.crosses incoming.side incoming.price maker.price
    · rw [fill_stop stops]
      exact ⟨book, rfl, describes⟩
    obtain ⟨left, crossing⟩ := not_or.mp stops
    rw [not_not] at crossing
    have resting : maker ∈ contents.all := by
      apply mem_all_of_mem
      rw [listed]
      exact List.mem_cons_self
    by_cases whole : maker.remaining ≤ remaining
    · obtain ⟨after, folded, describes'⟩ := ih (remaining - maker.remaining)
        (describes.drop maker.id) (drop_front listed)
      refine ⟨after, ?_, ?_⟩
      · rw [fill_whole left crossing whole]
        simp only [Trace.events_cons]
        rw [fold_cons, apply_trade describes resting (UInt32.le_refl _), Option.bind_some,
          fold_cons, apply, filter_reduced, Option.bind_some]
        exact folded
      · rw [fill_whole left crossing whole]
        exact describes'
    · have more := UInt32.not_le.mp whole
      rw [fill_part left crossing more]
      refine ⟨_, ?_, describes.update (sub_ne_zero more)⟩
      simp only [Trace.events_cons, Trace.events_nil]
      rw [fold_cons, apply_trade describes resting (UInt32.le_of_lt more), Option.bind_some,
        fold_nil]

/-- The observer follows a new order. -/
theorem fold_newLimit (describes : book.Describes contents)
    (known : ∀ order ∈ contents.all, order.id ≤ lastOrderId) :
    let plan := newLimitPlan incoming contents lastOrderId snapshotStore
    ∃ after, book.fold plan.steps.events = some after ∧ after.Describes plan.book := by
  by_cases stale : incoming.id ≤ lastOrderId
  · rw [newLimitPlan, if_pos stale]
    exact ⟨book, rfl, describes⟩
  by_cases zero : incoming.quantity = 0
  · rw [newLimitPlan, if_neg stale, if_pos zero]
    exact ⟨book, rfl, describes⟩
  obtain ⟨during, folded, describes'⟩ := fold_fill incoming incoming.quantity describes rfl
  obtain ⟨closing, announced, settles⟩ :=
    newLimitPlan_settles snapshotStore known (UInt64.not_le.mp stale) zero
  have unknown := (fill_shrinks incoming incoming.quantity
    (contents.orders (Matcher.oppositeSide incoming.side)) contents).2.find_fresh known
      (UInt64.not_le.mp stale)
  dsimp only at announced settles ⊢
  generalize fill incoming incoming.quantity
    (contents.orders (Matcher.oppositeSide incoming.side)) contents = fills at *
  generalize newLimitPlan incoming contents lastOrderId snapshotStore = plan at *
  have opened : book.fold plan.steps.events = during.apply closing := by
    have opening : book.apply (.accepted incoming.id) = some book := rfl
    rw [announced, fold_cons, opening, Option.bind_some, fold_append, folded, Option.bind_some,
      fold_cons]
    exact Option.bind_fun_some _
  rw [opened]
  generalize plan.book = after, plan.result = result at *
  cases settles with
  | done none_left =>
    refine ⟨_, rfl, ?_⟩
    have absent : during.filter (·.id ≠ incoming.id) = during := by
      refine List.filter_eq_self.mpr fun order member => ?_
      simpa using find_eq_none.mp unknown order (describes'.mem_iff.mp member)
    rwa [absent]
  | rested some_left inside room added config => exact ⟨_, rfl, describes'.add added⟩
  | rejected => exact ⟨_, rfl, describes'⟩
  | stopped => exact ⟨_, rfl, describes'⟩

end Command

end ObservedBook

section Runs
variable {ω σ : Type} [EventWriter ω] [SnapshotStore σ] {config : OrderBookConfig}
variable {matcher : Matcher ω σ} {envelope : CommandEnvelope} {book : ObservedBook}

open ObservedBook

omit [EventWriter ω] in
/-- The observer follows every command but a load. -/
theorem fold_plan (describes : book.Describes matcher.book.contents)
    (known : ∀ order ∈ matcher.book.contents.all, order.id ≤ matcher.lastOrderId)
    (noLoad : ∀ command, envelope.payload.message ≠ .loadSnapshot command) :
    ∃ after, book.fold (matcher.plan envelope).steps.events = some after ∧
      after.Describes (matcher.plan envelope).book := by
  rw [Matcher.plan]
  cases message : envelope.payload.message with
  | newLimit order => exact fold_newLimit describes known
  | loadSnapshot command => exact absurd message (noLoad command)
  | saveSnapshot =>
    simp only [Matcher.saveSnapshotPlan]
    split
    · exact ⟨book, rfl, describes⟩
    · exact ⟨book, rfl, describes⟩
  | _ => exact ⟨book, rfl, describes⟩

/-- With a healthy writer, in every run without loads, also one that stops fatally:
the fold of the events never meets a trade it cannot apply, and it holds the orders of
the matcher's book with the same queue at every price. -/
theorem events_describe_book {eventWriter : ω} {snapshotStore : σ}
    {firstEventSequence : EventSequence}
    (created : Matcher.create eventWriter snapshotStore config firstEventSequence = some matcher)
    (healthy : Matcher.HealthyWriter ω) (envelopes : List CommandEnvelope)
    (noLoad : Matcher.NoLoad envelopes) :
    ∃ folded, ObservedBook.fold [] (matcher.processAll envelopes).messages = some folded ∧
      folded.Perm (matcher.processAll envelopes).book.contents.all ∧
      ∀ side price, folded.level side price =
        (matcher.processAll envelopes).book.contents.level side price := by
  suffices followed : ∃ folded,
      ObservedBook.fold [] (matcher.processAll envelopes).messages = some folded ∧
        folded.Describes (matcher.processAll envelopes).book.contents by
    obtain ⟨folded, same, describes⟩ := followed
    exact ⟨folded, same, describes.perm, describes⟩
  induction envelopes using List.reverseRecOn with
  | nil =>
    obtain ⟨-, published, -, contents, -⟩ := Matcher.create_spec created
    rw [Matcher.processAll_nil, Matcher.messages, published, contents]
    exact ⟨[], rfl, fun _ _ => rfl⟩
  | append_singleton ahead envelope ih =>
    have earlier : Matcher.NoLoad ahead := fun envelope member => noLoad envelope (by simp [member])
    obtain ⟨folded, same, describes⟩ := ih earlier
    have invariant := (Matcher.reachable_run created earlier).invariant
    rw [Matcher.processAll_append, Matcher.processAll_cons, Matcher.processAll_nil]
    generalize matcher.processAll ahead = before at *
    cases alive : before.fatal with
    | true =>
      rw [Matcher.process_fatal alive]
      exact ⟨folded, same, describes⟩
    | false =>
      obtain ⟨completed, -⟩ :=
        Matcher.process_completed envelope healthy alive (invariant.settled alive)
      obtain ⟨after, next, describes'⟩ :=
        fold_plan describes invariant.book.known (noLoad envelope (by simp))
      refine ⟨after, ?_, ?_⟩
      · rw [completed.messages, fold_append, same]
        exact next
      · rw [completed.contents]
        exact describes'

end Runs

/-- A bid, an ask that takes it and rests, and a stale id that stops the matcher. -/
theorem events_describe_book_stale_id :
    ∃ matcher : Matcher (List EventEnvelope) NullSnapshotStore,
      Matcher.create [] {} ⟨100, 200, 2⟩ = some matcher ∧
      let after := matcher.processAll
        [⟨1, 17, .newLimit ⟨1, 5, .bid, 150, 5⟩⟩, ⟨2, 17, .newLimit ⟨2, 6, .ask, 140, 7⟩⟩,
          ⟨3, 17, .newLimit ⟨2, 6, .bid, 140, 1⟩⟩]
      ∃ folded, ObservedBook.fold [] after.messages = some folded ∧
        folded.Perm after.book.contents.all ∧
        ∀ side price, folded.level side price = after.book.contents.level side price := by
  obtain ⟨matcher, created⟩ := Matcher.exists_create ([] : List EventEnvelope)
    ({} : NullSnapshotStore) ⟨100, 200, 2⟩ 1 (by decide)
  exact ⟨matcher, created, events_describe_book created (fun _ _ => rfl) _ (by simp [Matcher.NoLoad])⟩

end Fexma
