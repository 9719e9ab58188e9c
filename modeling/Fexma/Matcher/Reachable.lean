import Fexma.Matcher.ProcessSpec

/-! The book of the matcher is never crossed, whatever the commands and wherever
the writer fails. -/
namespace Fexma

open PriceTimeBook

namespace PriceTimeBook

/-- Every bid lies below every ask. -/
def Uncrossed (book : PriceTimeBook) : Prop :=
  ∀ bid ∈ book.orders .bid, ∀ ask ∈ book.orders .ask, bid.price < ask.price

variable {before after book : PriceTimeBook}

theorem Uncrossed.shrinks (uncrossed : before.Uncrossed) (shrinks : Shrinks before after) :
    after.Uncrossed := by
  intro bid bids ask asks
  obtain ⟨oldBid, listedBid, -, sameBid⟩ := shrinks.2 .bid bid bids
  obtain ⟨oldAsk, listedAsk, -, sameAsk⟩ := shrinks.2 .ask ask asks
  rw [← sameBid, ← sameAsk]
  exact uncrossed oldBid listedBid oldAsk listedAsk

theorem empty_uncrossed (config : OrderBookConfig) : (PriceTimeBook.empty config).Uncrossed := by
  intro bid bids
  cases bids

/-- An order that crosses nothing may come to rest. -/
theorem Uncrossed.added {order : OrderView} (uncrossed : before.Uncrossed)
    (added : after.orders = addTo before.orders order)
    (clear : ∀ other ∈ before.orders (Matcher.oppositeSide order.side),
      ¬ Matcher.crosses order.side order.price other.price) : after.Uncrossed := by
  intro bid bids ask asks
  rw [added] at bids asks
  rcases mem_addTo.mp bids with ⟨rfl, atBid⟩ | oldBid
  · rcases mem_addTo.mp asks with ⟨-, atAsk⟩ | oldAsk
    · rw [← atBid] at atAsk
      cases atAsk
    · rw [← atBid] at clear
      have apart := clear ask oldAsk
      simpa [Matcher.crosses] using apart
  · rcases mem_addTo.mp asks with ⟨rfl, atAsk⟩ | oldAsk
    · rw [← atAsk] at clear
      have apart := clear bid oldBid
      simpa [Matcher.crosses] using apart
    · exact uncrossed bid oldBid ask oldAsk

end PriceTimeBook

/-- What a matcher of a configuration keeps of its book. -/
structure Sound (config : OrderBookConfig) (lastOrderId : OrderId) (book : PriceTimeBook) :
    Prop where
  config : book.config = config
  uncrossed : book.Uncrossed
  known : ∀ order ∈ book.all, order.id ≤ lastOrderId

section Plans
variable {incoming : NewLimitOrder} {book after : PriceTimeBook} {σ : Type} {snapshotStore : σ}
variable {fills : Fills} {lastOrderId newId : OrderId} {config : OrderBookConfig}

theorem Sound.shrinks (sound : Sound config lastOrderId book) (shrinks : Shrinks book after) :
    Sound config lastOrderId after := by
  refine ⟨shrinks.1.trans sound.config, sound.uncrossed.shrinks shrinks, fun order member => ?_⟩
  obtain ⟨old, listed, sameId, -⟩ := shrinks.2 order.side order (mem_all.mp member)
  rw [← sameId]
  exact sound.known old (mem_all_of_mem listed)

theorem Sound.later (sound : Sound config lastOrderId book) (le : lastOrderId ≤ newId) :
    Sound config newId book :=
  ⟨sound.config, sound.uncrossed, fun order member => UInt64.le_trans (sound.known order member) le⟩

/-- What is left of an order comes to rest only in front of orders it does not cross. -/
theorem settlePlan_sound (sound : Sound config incoming.id fills.book)
    (exit : fills.remaining = 0 ∨
      ∀ maker ∈ (fills.book.orders (Matcher.oppositeSide incoming.side)).head?,
        ¬ Matcher.crosses incoming.side incoming.price maker.price) :
    let plan := settlePlan incoming fills snapshotStore
    ∀ shown ∈ plan.steps.books ++ [plan.book], Sound config incoming.id shown := by
  simp only [settlePlan, Plan.stopping]
  split_ifs with none_left inserted untouched
  · simpa using sound
  · obtain ⟨added, same⟩ := insert_orders inserted
    have clear := none_crosses (exit.resolve_left none_left)
    have rests : Sound config incoming.id
        (fills.book.insert (incoming.resting fills.remaining)).2 := by
      refine ⟨same.trans sound.config, sound.uncrossed.added added clear, fun order member => ?_⟩
      rw [mem_all, added, mem_addTo] at member
      rcases member with ⟨rfl, -⟩ | old
      · exact UInt64.le_refl _
      · exact sound.known order (mem_all_of_mem old)
    simpa using rests
  · simpa using sound
  · simpa using sound

theorem newLimitPlan_sound (sound : Sound config lastOrderId book) :
    let plan := newLimitPlan incoming book lastOrderId snapshotStore
    ∀ shown ∈ plan.steps.books ++ [plan.book], Sound config plan.lastOrderId shown := by
  simp only [newLimitPlan]
  split_ifs with stale zero
  · simpa [Plan.stopping] using sound
  · have later := sound.later (UInt64.le_of_lt (UInt64.not_le.mp stale))
    simpa using later
  · have later := sound.later (UInt64.le_of_lt (UInt64.not_le.mp stale))
    obtain ⟨shown, last⟩ := fill_shrinks incoming incoming.quantity
      (book.orders (Matcher.oppositeSide incoming.side)) book
    obtain ⟨executions, executes, -⟩ := fill_executes incoming incoming.quantity book rfl
    have settled := @settlePlan_sound incoming σ snapshotStore _ config (later.shrinks last)
      executes.exit
    have lastId := settlePlan_lastOrderId incoming (fill incoming incoming.quantity
      (book.orders (Matcher.oppositeSide incoming.side)) book) snapshotStore
    intro after member
    simp only [Plan.after, List.cons_append, Trace.books_cons, Trace.books_append,
      List.mem_cons, List.mem_append, List.append_assoc] at member
    simp only [Plan.after, lastId]
    rcases member with rfl | during | behind
    · exact later
    · exact later.shrinks (shown after during)
    · exact settled after (by simpa using behind)

end Plans

/-! ### Runs -/

/-- The image a store keeps of what it is shown, under some epoch. -/
structure MatcherSnapshotView.CapturedAs (view : MatcherSnapshotView)
    (image : MatcherSnapshotImage) : Prop where
  commandSequence : image.saveSnapshotCommandSequence = view.saveSnapshotCommandSequence
  lastOrderId : image.lastOrderId = view.lastOrderId
  nextEventSequence : image.nextEventSequence = view.nextEventSequence
  bookConfig : image.bookConfig = view.bookConfig
  orders : ∃ room, view.book.snapshotInto room = (.ok, image.orders)

/-- The states some sequence of commands leads to, with any writer and any store.
A snapshot that is loaded was captured from a reachable matcher of the same
configuration, or its load fails. -/
inductive Reachable (config : OrderBookConfig) : (ω σ : Type) → EventWriter ω →
    SnapshotStore σ → Matcher ω σ → Prop
  | create {ω σ : Type} [writer : EventWriter ω] [store : SnapshotStore σ]
      {eventWriter : ω} {snapshotStore : σ} {firstEventSequence : EventSequence}
      {matcher : Matcher ω σ}
      (created : Matcher.create eventWriter snapshotStore config firstEventSequence =
        some matcher) :
      Reachable config ω σ writer store matcher
  | process {ω σ : Type} [writer : EventWriter ω] [store : SnapshotStore σ]
      {matcher : Matcher ω σ} (reachable : Reachable config ω σ writer store matcher)
      (envelope : CommandEnvelope)
      (noLoad : ∀ command, envelope.payload.message = .loadSnapshot command →
        (SnapshotStore.load matcher.snapshotStore command).1 ≠ .ok) :
      Reachable config ω σ writer store (matcher.process envelope).2
  | load {ω σ ω' σ' : Type} [writer : EventWriter ω] [store : SnapshotStore σ]
      [writer' : EventWriter ω'] [store' : SnapshotStore σ']
      {matcher : Matcher ω σ} {source : Matcher ω' σ'}
      (reachable : Reachable config ω σ writer store matcher)
      (saved : Reachable config ω' σ' writer' store' source) (envelope : CommandEnvelope)
      {command : LoadSnapshotCommand} {saveSequence : CommandSequence}
      (message : envelope.payload.message = .loadSnapshot command)
      (captured : (source.snapshotView saveSequence).CapturedAs
        (SnapshotStore.load matcher.snapshotStore command).2.1) :
      Reachable config ω σ writer store (matcher.process envelope).2

/-- What every reachable matcher keeps. -/
structure Matcher.Invariant {ω σ : Type} (config : OrderBookConfig) (matcher : Matcher ω σ) :
    Prop where
  bookConfig : matcher.bookConfig = config
  book : Sound config matcher.lastOrderId matcher.book.contents
  settled : matcher.fatal = false → matcher.Settled

section Invariant
variable {ω σ : Type} [EventWriter ω] [SnapshotStore σ] {config : OrderBookConfig}
variable {matcher : Matcher ω σ} {envelope : CommandEnvelope}

omit [EventWriter ω] in
/-- A captured image holds the book it was taken from. -/
theorem restore_captured {ω' σ' : Type} {source : Matcher ω' σ'} {image : MatcherSnapshotImage}
    {saveSequence : CommandSequence} (book : PriceTimeBook)
    (captured : (source.snapshotView saveSequence).CapturedAs image)
    (same : book.config = source.book.contents.config) :
    book.restore image.orders =
      ({ status := .ok, restored := UInt32.ofNat source.book.contents.all.length },
        source.book.contents) := by
  obtain ⟨room, copied⟩ := captured.orders
  rw [Matcher.snapshotView, Book.snapshotInto_eq] at copied
  split at copied
  · cases copied
  · have orders : source.book.contents.snapshot = image.orders := congrArg Prod.snd copied
    rw [← orders]
    exact restore_snapshot same

/-- If all books of the plan are sound, the invariant outlives the command. -/
theorem Matcher.Invariant.process (invariant : matcher.Invariant config)
    (sound : ∀ shown ∈ (matcher.plan envelope).steps.books ++ [(matcher.plan envelope).book],
      Sound config (matcher.plan envelope).lastOrderId shown) :
    (matcher.process envelope).2.Invariant config := by
  cases alive : matcher.fatal with
  | true =>
    have stuck : (matcher.process envelope).2 = matcher := by
      rw [Matcher.process, if_pos alive]
    rw [stuck]
    exact invariant
  | false =>
    rcases Matcher.process_spec matcher envelope alive (invariant.settled alive) with
      ⟨completed, -⟩ | ⟨interrupted, -⟩
    · refine ⟨completed.bookConfig.trans invariant.bookConfig, ?_, fun _ => completed.settled⟩
      rw [completed.lastOrderId]
      exact sound _ (by rw [completed.contents]; simp)
    · refine ⟨interrupted.bookConfig.trans invariant.bookConfig, ?_, fun live => ?_⟩
      · rw [interrupted.lastOrderId]
        exact sound _ interrupted.contents
      · rw [interrupted.fatal] at live
        cases live

omit [EventWriter ω] [SnapshotStore σ] in
/-- An announcement shows the book as it stands. -/
theorem Matcher.Invariant.announcing (invariant : matcher.Invariant config) (event : Event) :
    ∀ shown ∈ (matcher.announcing event).steps.books ++ [(matcher.announcing event).book],
      Sound config matcher.lastOrderId shown := by
  simpa [Matcher.announcing] using invariant.book

omit [EventWriter ω] in
/-- All books of a plan are sound if the book a load restores is. -/
theorem Matcher.Invariant.plan (invariant : matcher.Invariant config)
    (restores : ∀ command, envelope.payload.message = .loadSnapshot command →
      (SnapshotStore.load matcher.snapshotStore command).1 = .ok →
      let image := (SnapshotStore.load matcher.snapshotStore command).2.1
      let restored := matcher.book.contents.restore image.orders
      restored.1.status = .ok ∧ Sound config image.lastOrderId restored.2) :
    ∀ shown ∈ (matcher.plan envelope).steps.books ++ [(matcher.plan envelope).book],
      Sound config (matcher.plan envelope).lastOrderId shown := by
  rw [Matcher.plan]
  cases message : envelope.payload.message with
  | none => exact invariant.announcing _
  | unknown tag => exact invariant.announcing _
  | newLimit order => exact newLimitPlan_sound invariant.book
  | shutdown => exact invariant.announcing .shutdown
  | startReplay => exact invariant.announcing .startReplay
  | stopReplay => exact invariant.announcing .stopReplay
  | saveSnapshot =>
    simp only [Matcher.saveSnapshotPlan]
    split
    · exact invariant.announcing .saveSnapshot
    · simpa [Plan.stopping] using invariant.book
  | loadSnapshot command =>
    have restore := restores command message
    simp only [Matcher.loadSnapshotPlan]
    split
    · rename_i image store loaded
      rw [loaded] at restore
      obtain ⟨ok, sound⟩ := restore rfl
      split
      · simpa [Plan.stopping] using invariant.book
      · rw [if_neg (not_not.mpr ok)]
        simpa using sound
    · simpa [Plan.stopping] using invariant.book

end Invariant

section Runs
variable {ω σ : Type} {writer : EventWriter ω} {store : SnapshotStore σ}
variable {config : OrderBookConfig} {matcher : Matcher ω σ}

/-- The invariant holds along every run. -/
theorem Reachable.invariant (reachable : Reachable config ω σ writer store matcher) : matcher.Invariant config := by
  induction reachable with
  | create created =>
    rename_i matcher
    obtain ⟨book, made, rfl⟩ := Option.map_eq_some_iff.mp created
    refine ⟨rfl, ?_, fun _ => ⟨rfl, rfl, rfl⟩⟩
    rw [Book.create_contents made]
    exact ⟨rfl, empty_uncrossed config, by simp [PriceTimeBook.all, PriceTimeBook.empty]⟩
  | process reachable envelope noLoad ih =>
    refine ih.process (ih.plan fun command message loaded => ?_)
    exact absurd loaded (noLoad command message)
  | load reachable saved envelope message captured ih source =>
    refine ih.process (ih.plan fun other message' loaded => ?_)
    obtain rfl : _ = other := Command.loadSnapshot.inj (message.symm.trans message')
    have same := ih.book.config.trans source.book.config.symm
    dsimp only
    rw [restore_captured _ captured same, captured.lastOrderId]
    exact ⟨rfl, source.book⟩

/-- In every reachable state one side is empty or the best bid lies below the best ask. -/
theorem matcher_never_crossed (reachable : Reachable config ω σ writer store matcher) :
    match matcher.book.best .bid, matcher.book.best .ask with
    | some bid, some ask => bid.price < ask.price
    | _, _ => True := by
  rw [Book.best_eq, Book.best_eq, PriceTimeBook.best, PriceTimeBook.best]
  have uncrossed := reachable.invariant.book.uncrossed
  cases bids : matcher.book.contents.orders .bid with
  | nil => trivial
  | cons bid behindBid =>
    cases asks : matcher.book.contents.orders .ask with
    | nil => trivial
    | cons ask behindAsk =>
      exact uncrossed bid (by rw [bids]; exact List.mem_cons_self) ask
        (by rw [asks]; exact List.mem_cons_self)

end Runs

/-- Within the slot limit a matcher can be constructed. -/
theorem Matcher.exists_create {ω σ : Type} (eventWriter : ω) (snapshotStore : σ)
    (config : OrderBookConfig) (firstEventSequence : EventSequence)
    (small : config.maxOrders ≤ OrderPool.maxCapacity) :
    ∃ matcher, Matcher.create eventWriter snapshotStore config firstEventSequence = some matcher := by
  obtain ⟨book, made⟩ := Book.exists_create small
  exact ⟨_, by rw [Matcher.create, made]; rfl⟩

/-- A bid and an ask that crosses it. -/
theorem matcher_never_crossed_crossing_orders :
    ∃ matcher : Matcher (List EventEnvelope) NullSnapshotStore,
      Matcher.create [] {} ⟨100, 200, 2⟩ = some matcher ∧
      let after := matcher.processAll
        [⟨1, 17, .newLimit ⟨1, 5, .bid, 150, 5⟩⟩, ⟨2, 17, .newLimit ⟨2, 6, .ask, 140, 7⟩⟩]
      match after.book.best .bid, after.book.best .ask with
      | some bid, some ask => bid.price < ask.price
      | _, _ => True := by
  obtain ⟨matcher, created⟩ := Matcher.exists_create ([] : List EventEnvelope)
    ({} : NullSnapshotStore) ⟨100, 200, 2⟩ 1 (by decide)
  have reachable : Reachable ⟨100, 200, 2⟩ (List EventEnvelope) NullSnapshotStore inferInstance
      inferInstance (matcher.processAll
        [⟨1, 17, .newLimit ⟨1, 5, .bid, 150, 5⟩⟩, ⟨2, 17, .newLimit ⟨2, 6, .ask, 140, 7⟩⟩]) :=
    .process (.process (.create created) _ nofun) _ nofun
  exact ⟨matcher, created, matcher_never_crossed reachable⟩

end Fexma
