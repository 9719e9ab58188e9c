import Fexma.Matcher.Runs
import Fexma.OrderBook.Calls

/-! Replay: behind a snapshot that is loaded in replay mode, the commands that followed
it the first time publish the same envelopes and lead to the same book. -/
namespace Fexma

open PriceTimeBook Transducer

/-- No sequence of calls tells the books apart. -/
def Book.Indistinguishable (book other : Book) : Prop :=
  ∀ calls, outputs OrderBook.call book.facade calls = outputs OrderBook.call other.facade calls

theorem Book.indistinguishable {book other : Book} (same : book.contents = other.contents) :
    book.Indistinguishable other := by
  intro calls
  rw [order_book_simulates.outputs book.represents, order_book_simulates.outputs other.represents,
    same]

/-- The commands a replay repeats. -/
def CommandEnvelope.Replayable (envelope : CommandEnvelope) : Prop :=
  (∃ order, envelope.payload.message = .newLimit order) ∨
    envelope.payload.message = .saveSnapshot ∨ envelope.payload.message = .none

/-- A plan that leaves the replay state alone. -/
structure Plan.Quiet {σ : Type} (plan : Plan σ) : Prop where
  startReplay : plan.startReplay = false
  eventSequence : plan.eventSequence = 0

/-- Plans that differ in the store only. -/
structure Plan.Agrees {σ σ' : Type} (plan : Plan σ) (other : Plan σ') : Prop where
  steps : plan.steps = other.steps
  book : plan.book = other.book
  lastOrderId : plan.lastOrderId = other.lastOrderId
  result : plan.result = other.result
  quiet : plan.Quiet
  quietOther : other.Quiet

theorem newLimitPlan_agrees {σ σ' : Type} (incoming : NewLimitOrder) (book : PriceTimeBook)
    (lastOrderId : OrderId) (snapshotStore : σ) (otherStore : σ') :
    (newLimitPlan incoming book lastOrderId snapshotStore).Agrees
      (newLimitPlan incoming book lastOrderId otherStore) := by
  simp only [newLimitPlan, settlePlan, Plan.after, Plan.stopping]
  split_ifs <;> exact ⟨rfl, rfl, rfl, rfl, ⟨rfl, rfl⟩, ⟨rfl, rfl⟩⟩

section Replay
variable {ω σ ω' σ' : Type} [EventWriter ω] [SnapshotStore σ] [EventWriter ω'] [SnapshotStore σ']
variable {live : Matcher ω σ} {replaying : Matcher ω' σ'} {envelope : CommandEnvelope}
variable {envelopes : List CommandEnvelope} {config : OrderBookConfig}

/-- Two running matchers that go on alike. -/
structure Alike (live : Matcher ω σ) (replaying : Matcher ω' σ') : Prop where
  contents : replaying.book.contents = live.book.contents
  lastOrderId : replaying.lastOrderId = live.lastOrderId
  nextEventSequence : replaying.nextEventSequence = live.nextEventSequence
  settled : live.Settled
  settled' : replaying.Settled
  alive : live.fatal = false
  alive' : replaying.fatal = false

/-- The store of the matcher takes the snapshot of the command. -/
def Matcher.Captures (matcher : Matcher ω σ) (envelope : CommandEnvelope) : Prop :=
  (SnapshotStore.capture matcher.snapshotStore
    (matcher.snapshotView envelope.commandSequence)).1 = .ok

omit [EventWriter ω] in
theorem saveSnapshotPlan_ok {commandSequence : CommandSequence}
    (captured : (SnapshotStore.capture live.snapshotStore
      (live.snapshotView commandSequence)).1 = .ok) :
    ∃ snapshotStore, live.saveSnapshotPlan commandSequence =
      { live.announcing .saveSnapshot with snapshotStore } := by
  rcases stored : SnapshotStore.capture live.snapshotStore (live.snapshotView commandSequence) with
    ⟨status, snapshotStore⟩
  rw [stored] at captured
  obtain rfl : status = .ok := captured
  exact ⟨snapshotStore, by simp only [Matcher.saveSnapshotPlan, stored]⟩

omit [EventWriter ω] in
/-- A capture that fails stops the matcher. -/
theorem saveSnapshotPlan_captures {commandSequence : CommandSequence}
    (alive : (live.saveSnapshotPlan commandSequence).result.status ≠ .fatal) :
    (SnapshotStore.capture live.snapshotStore (live.snapshotView commandSequence)).1 = .ok := by
  rcases stored : SnapshotStore.capture live.snapshotStore (live.snapshotView commandSequence) with
    ⟨status, snapshotStore⟩
  cases status with
  | ok => rfl
  | _ =>
    simp only [Matcher.saveSnapshotPlan, stored] at alive
    exact absurd rfl alive

omit [EventWriter ω] [EventWriter ω'] in
/-- Matchers that go on alike plan alike. -/
theorem Alike.plan (alike : Alike live replaying) (replayable : envelope.Replayable)
    (alive : (live.plan envelope).result.status ≠ .fatal)
    (captures : envelope.payload.message = .saveSnapshot → replaying.Captures envelope) :
    (live.plan envelope).Agrees (replaying.plan envelope) := by
  simp only [Matcher.plan] at alive ⊢
  rcases replayable with ⟨order, message⟩ | message | message
  · rw [message]
    dsimp only
    rw [alike.contents, alike.lastOrderId]
    exact newLimitPlan_agrees _ _ _ _ _
  · rw [message] at alive ⊢
    obtain ⟨snapshotStore, planned⟩ := saveSnapshotPlan_ok (saveSnapshotPlan_captures alive)
    obtain ⟨otherStore, planned'⟩ := saveSnapshotPlan_ok (captures message)
    dsimp only
    rw [planned, planned']
    simp only [Matcher.announcing, alike.contents, alike.lastOrderId]
    exact ⟨rfl, rfl, rfl, rfl, ⟨rfl, rfl⟩, ⟨rfl, rfl⟩⟩
  · rw [message]
    simp only [Matcher.announcing, alike.contents, alike.lastOrderId]
    exact ⟨rfl, rfl, rfl, rfl, ⟨rfl, rfl⟩, ⟨rfl, rfl⟩⟩

omit [EventWriter ω] [SnapshotStore σ] in
/-- What a quiet plan leaves of the event sequence. -/
theorem Matcher.Completed.quiet_next {after : Matcher ω σ} {plan : Plan σ}
    (completed : Matcher.Completed live after envelope plan) (quiet : plan.Quiet) :
    after.nextEventSequence = live.nextEventSequence + .ofNat plan.steps.length := by
  rw [completed.nextEventSequence, quiet.eventSequence]
  exact if_neg (not_not.mpr rfl)

/-- One command, processed alike. -/
theorem Alike.process (alike : Alike live replaying) (healthy : Matcher.HealthyWriter ω)
    (healthy' : Matcher.HealthyWriter ω') (replayable : envelope.Replayable)
    (alive : (live.process envelope).2.fatal = false)
    (captures : envelope.payload.message = .saveSnapshot → replaying.Captures envelope) :
    Alike (live.process envelope).2 (replaying.process envelope).2 ∧
      ∃ group, (live.process envelope).2.published = live.published ++ group ∧
        (replaying.process envelope).2.published = replaying.published ++ group := by
  have completed := (Matcher.process_completed envelope healthy alike.alive alike.settled).1
  have completed' := (Matcher.process_completed envelope healthy' alike.alive' alike.settled').1
  have going : (live.plan envelope).result.status ≠ .fatal := by
    intro stops
    rw [completed.fatal, stops] at alive
    cases alive
  have agrees := alike.plan replayable going captures
  refine ⟨⟨?_, ?_, ?_, completed.settled, completed'.settled, alive, ?_⟩, _, completed.published, ?_⟩
  · rw [completed.contents, completed'.contents, agrees.book]
  · rw [completed.lastOrderId, completed'.lastOrderId, agrees.lastOrderId]
  · rw [completed.quiet_next agrees.quiet, completed'.quiet_next agrees.quietOther,
      alike.nextEventSequence, agrees.steps]
  · rw [completed'.fatal, ← agrees.result, decide_eq_false going]
  · rw [completed'.published, alike.nextEventSequence, agrees.steps]

/-- The captures of a run succeed. -/
def Matcher.CapturesAll (matcher : Matcher ω σ) (envelopes : List CommandEnvelope) : Prop :=
  ∀ ahead envelope behind, envelopes = ahead ++ envelope :: behind →
    envelope.payload.message = .saveSnapshot → (matcher.processAll ahead).Captures envelope

theorem Matcher.CapturesAll.tail (captures : live.CapturesAll (envelope :: envelopes)) :
    (live.process envelope).2.CapturesAll envelopes := by
  rintro ahead later behind rfl saves
  exact captures (envelope :: ahead) later behind rfl saves

/-- A whole list of commands, processed alike. -/
theorem Alike.processAll (alike : Alike live replaying) (healthy : Matcher.HealthyWriter ω)
    (healthy' : Matcher.HealthyWriter ω')
    (replayable : ∀ envelope ∈ envelopes, envelope.Replayable)
    (alive : (live.processAll envelopes).fatal = false) (captures : replaying.CapturesAll envelopes) :
    Alike (live.processAll envelopes) (replaying.processAll envelopes) ∧
      ∃ group, (live.processAll envelopes).published = live.published ++ group ∧
        (replaying.processAll envelopes).published = replaying.published ++ group := by
  induction envelopes generalizing live replaying with
  | nil => exact ⟨alike, [], (List.append_nil _).symm, (List.append_nil _).symm⟩
  | cons envelope envelopes ih =>
    obtain ⟨first, replayable⟩ := List.forall_mem_cons.mp replayable
    obtain ⟨next, group, published, published'⟩ := alike.process healthy healthy' first
      (Matcher.alive_before alive) fun saves => captures [] envelope envelopes rfl saves
    obtain ⟨last, more, later, later'⟩ := ih next replayable alive captures.tail
    refine ⟨last, group ++ more, ?_, ?_⟩
    · rw [Matcher.processAll_cons, later, published, List.append_assoc]
    · rw [Matcher.processAll_cons, later', published', List.append_assoc]

omit [EventWriter ω] in
/-- The plan of a load that succeeds. -/
theorem loadSnapshotPlan_ok {command : LoadSnapshotCommand} {image : MatcherSnapshotImage}
    {snapshotStore : σ}
    (loaded : SnapshotStore.load live.snapshotStore command = (.ok, image, snapshotStore))
    (accepted : live.acceptsImage command image)
    (fits : (live.book.contents.restore image.orders).1.status = .ok) :
    live.loadSnapshotPlan command =
      { steps := [((live.book.contents.restore image.orders).2,
          .loadSnapshot command.saveSnapshotCommandSequence command.snapshotEpochId)]
        book := (live.book.contents.restore image.orders).2, snapshotStore
        lastOrderId := image.lastOrderId
        eventSequence := match live.replayMode with
          | .replay => image.nextEventSequence
          | .restoring => live.liveResumeEventSequence
          | .live => 0
        mode := if live.replayMode = .restoring then some .live else none } := by
  cases mode : live.replayMode
  all_goals simp [Matcher.loadSnapshotPlan, loaded, accepted, fits, mode]

omit [SnapshotStore σ] [EventWriter ω] [EventWriter ω'] [SnapshotStore σ'] in
/-- A matcher of the same configuration accepts the image asked for. -/
theorem acceptsImage_captured {image : MatcherSnapshotImage} {command : LoadSnapshotCommand}
    (captured : (live.snapshotView command.saveSnapshotCommandSequence).CapturedAs image)
    (same : replaying.bookConfig = live.bookConfig) (epoch : image.epochId = command.snapshotEpochId) :
    replaying.acceptsImage command image := by
  unfold Matcher.acceptsImage
  have config : image.bookConfig = replaying.bookConfig := captured.bookConfig.trans same.symm
  rw [config, captured.commandSequence, epoch]
  simp [Matcher.sameConfig, Matcher.snapshotView]

/-- Behind StartReplay and the load of its snapshot, a matcher goes on like the one that
took the snapshot. -/
theorem loaded_alike (invariant : live.Invariant config) (healthy : Matcher.HealthyWriter ω)
    {save : CommandEnvelope} (saves : save.payload.message = .saveSnapshot)
    (alive : (live.process save).2.fatal = false) (below : live.nextEventSequence + 1 ≠ 0)
    (later : replaying.Invariant config) (healthy' : Matcher.HealthyWriter ω')
    (alive' : replaying.fatal = false) (mode : replaying.replayMode = .live)
    {start load : CommandEnvelope} (starts : start.payload.message = .startReplay)
    {command : LoadSnapshotCommand} (loads : load.payload.message = .loadSnapshot command)
    (sequence : command.saveSnapshotCommandSequence = save.commandSequence)
    {image : MatcherSnapshotImage}
    (captured : (live.snapshotView save.commandSequence).CapturedAs image)
    (epoch : image.epochId = command.snapshotEpochId) {snapshotStore : σ'}
    (returned : SnapshotStore.load (replaying.process start).2.snapshotStore command =
      (.ok, image, snapshotStore)) :
    Alike (live.process save).2 ((replaying.process start).2.process load).2 := by
  have running := Matcher.alive_step alive
  have saved := (Matcher.process_completed save healthy running (invariant.settled running)).1
  have started := (Matcher.process_completed start healthy' alive' (later.settled alive')).1
  have savedPlan : live.plan save = live.saveSnapshotPlan save.commandSequence := by
    rw [Matcher.plan, saves]
  have startedPlan : replaying.plan start =
      { replaying.announcing .startReplay with startReplay := true } := by
    rw [Matcher.plan, starts]
    simp only [mode, decide_true]
  have going : (live.saveSnapshotPlan save.commandSequence).result.status ≠ .fatal := by
    intro stops
    rw [saved.fatal, savedPlan, stops] at alive
    cases alive
  obtain ⟨keptStore, kept⟩ := saveSnapshotPlan_ok (saveSnapshotPlan_captures going)
  rw [savedPlan, kept] at saved
  rw [startedPlan] at started
  generalize (live.process save).2 = savedMatcher at *
  generalize (replaying.process start).2 = startedMatcher at *
  have started_alive : startedMatcher.fatal = false := started.fatal
  have replay : startedMatcher.replayMode = .replay := started.replayMode
  have sameConfig : startedMatcher.bookConfig = live.bookConfig :=
    started.bookConfig.trans (later.bookConfig.trans invariant.bookConfig.symm)
  have sameBook : startedMatcher.book.contents.config = live.book.contents.config := by
    rw [started.contents]
    exact later.book.config.trans invariant.book.config.symm
  rw [← sequence] at captured
  have restored := restore_captured startedMatcher.book.contents captured sameBook
  have accepted := acceptsImage_captured captured sameConfig epoch
  have loaded := (Matcher.process_completed load healthy' started_alive started.settled).1
  have loadedPlan : startedMatcher.plan load = startedMatcher.loadSnapshotPlan command := by
    rw [Matcher.plan, loads]
  rw [loadedPlan, loadSnapshotPlan_ok returned accepted (by rw [restored]), restored, replay]
    at loaded
  refine ⟨?_, ?_, ?_, saved.settled, loaded.settled, alive, loaded.fatal⟩
  · rw [loaded.contents, saved.contents]
    rfl
  · rw [loaded.lastOrderId, saved.lastOrderId, captured.lastOrderId]
    rfl
  · have next : image.nextEventSequence = live.nextEventSequence + 1 := captured.nextEventSequence
    have goesOn : savedMatcher.nextEventSequence = live.nextEventSequence + 1 :=
      saved.nextEventSequence.trans (if_neg (not_not.mpr rfl))
    have switched : image.nextEventSequence ≠ 0 := next ▸ below
    rw [goesOn, ← next]
    exact loaded.nextEventSequence.trans (if_pos switched)

end Replay

/-- A snapshot and the commands behind it, and their replay: any matcher of the same
configuration that is live, behind StartReplay and a load of that snapshot, publishes for
these commands the envelopes of the live run, and ends with a book that cannot be told
apart, the same last order id and the same next event sequence. Neither run is stopped: the
live one stays alive, and the store of the other one takes the snapshots it is asked for. -/
theorem replay_reproduces_live_run {ω σ ω' σ' : Type} [EventWriter ω] [SnapshotStore σ]
    [EventWriter ω'] [SnapshotStore σ'] {config : OrderBookConfig}
    {live : Matcher ω σ} (reachable : Reachable config ω σ inferInstance inferInstance live)
    (healthy : Matcher.HealthyWriter ω)
    {save : CommandEnvelope} (saves : save.payload.message = .saveSnapshot)
    (below : live.nextEventSequence.toNat < 2 ^ 64 - 1)
    (envelopes : List CommandEnvelope) (replayable : ∀ envelope ∈ envelopes, envelope.Replayable)
    (alive : ((live.process save).2.processAll envelopes).fatal = false)
    {later : Matcher ω' σ'} (reachable' : Reachable config ω' σ' inferInstance inferInstance later)
    (healthy' : Matcher.HealthyWriter ω') (alive' : later.fatal = false)
    (mode : later.replayMode = .live) {start load : CommandEnvelope}
    (starts : start.payload.message = .startReplay) {epoch : EpochId}
    (loads : load.payload.message = .loadSnapshot ⟨save.commandSequence, epoch⟩)
    {image : MatcherSnapshotImage}
    (captured : (live.snapshotView save.commandSequence).CapturedAs image)
    (kept : image.epochId = epoch) {snapshotStore : σ'}
    (returned : SnapshotStore.load (later.process start).2.snapshotStore
      ⟨save.commandSequence, epoch⟩ = (.ok, image, snapshotStore))
    (captures : ((later.process start).2.process load).2.CapturesAll envelopes) :
    let saved := (live.process save).2
    let loaded := ((later.process start).2.process load).2
    let ended := saved.processAll envelopes
    let replayed := loaded.processAll envelopes
    (∃ group, ended.published = saved.published ++ group ∧
        replayed.published = loaded.published ++ group) ∧
      replayed.book.Indistinguishable ended.book ∧
      replayed.book.contents = ended.book.contents ∧ replayed.lastOrderId = ended.lastOrderId ∧
      replayed.nextEventSequence = ended.nextEventSequence ∧ replayed.fatal = false := by
  have some_next : live.nextEventSequence + 1 ≠ 0 := by
    intro wrapped
    have total := congrArg UInt64.toNat wrapped
    rw [UInt64.toNat_add, Nat.mod_eq_of_lt (by simpa using Nat.add_lt_of_lt_sub below)] at total
    simp at total
  have begun := loaded_alike reachable.invariant healthy saves (Matcher.alive_before alive) some_next
    reachable'.invariant healthy' alive' mode starts loads rfl captured kept returned
  obtain ⟨alike, published⟩ := begun.processAll healthy healthy' replayable alive captures
  exact ⟨published, Book.indistinguishable alike.contents, alike.contents, alike.lastOrderId,
    alike.nextEventSequence, alike.alive'⟩

/-- The store of the tests: it keeps the last snapshot in memory. -/
structure MemorySnapshotStore where
  image : MatcherSnapshotImage := {}
  failCapture : Bool := false
  failLoad : Bool := false
  epochId : EpochId := 3
  deriving DecidableEq

instance : SnapshotStore MemorySnapshotStore where
  capture store snapshot :=
    if store.failCapture then (.fatal, store)
    else
      let image : MatcherSnapshotImage :=
        { saveSnapshotCommandSequence := snapshot.saveSnapshotCommandSequence
          epochId := store.epochId
          lastOrderId := snapshot.lastOrderId
          nextEventSequence := snapshot.nextEventSequence
          bookConfig := snapshot.bookConfig
          orders := store.image.orders }
      match snapshot.book.snapshotInto snapshot.book.facade.orderCount.toNat with
      | (.ok, orders) => (.ok, { store with image := { image with orders } })
      | _ => (.capacityExceeded, { store with image })
  load store command :=
    if store.failLoad then (.unavailable, {}, store)
    else if store.image.saveSnapshotCommandSequence ≠ command.saveSnapshotCommandSequence ||
        store.image.epochId ≠ command.snapshotEpochId then (.unavailable, {}, store)
    else (.ok, store.image, store)

/-- A bid rests when the snapshot is taken, and the replayed ask takes part of it. -/
theorem replay_reproduces_live_run_partial_fill :
    ∃ matcher : Matcher (List EventEnvelope) MemorySnapshotStore,
      Matcher.create [] {} ⟨100, 200, 2⟩ = some matcher ∧
      let live := (matcher.process ⟨1, 17, .newLimit ⟨1, 5, .bid, 150, 5⟩⟩).2
      let saved := (live.process ⟨2, 17, .saveSnapshot⟩).2
      let ended := saved.processAll [⟨3, 17, .newLimit ⟨2, 6, .ask, 140, 3⟩⟩]
      let loaded := ((ended.process ⟨4, 17, .startReplay⟩).2.process
        ⟨5, 17, .loadSnapshot ⟨2, 3⟩⟩).2
      let replayed := loaded.processAll [⟨3, 17, .newLimit ⟨2, 6, .ask, 140, 3⟩⟩]
      (∃ group, ended.published = saved.published ++ group ∧
          replayed.published = loaded.published ++ group) ∧
        replayed.book.Indistinguishable ended.book ∧
        replayed.book.contents = ended.book.contents ∧ replayed.lastOrderId = ended.lastOrderId ∧
        replayed.nextEventSequence = ended.nextEventSequence ∧ replayed.fatal = false := by
  obtain ⟨matcher, created⟩ := Matcher.exists_create ([] : List EventEnvelope)
    ({} : MemorySnapshotStore) ⟨100, 200, 2⟩ 1 (by decide)
  have first : ((Matcher.create ([] : List EventEnvelope) ({} : MemorySnapshotStore)
      ⟨100, 200, 2⟩).map fun matcher =>
        let live := (matcher.process ⟨1, 17, .newLimit ⟨1, 5, .bid, 150, 5⟩⟩).2
        (live.lastOrderId, live.nextEventSequence, live.bookConfig, live.book.snapshotInto 2)) =
      some (1, 3, ⟨100, 200, 2⟩, .ok, [⟨1, 5, .bid, 150, 5⟩]) := by
    decide +kernel
  have rest : ((Matcher.create ([] : List EventEnvelope) ({} : MemorySnapshotStore)
      ⟨100, 200, 2⟩).map fun matcher =>
        let ended := matcher.processAll [⟨1, 17, .newLimit ⟨1, 5, .bid, 150, 5⟩⟩,
          ⟨2, 17, .saveSnapshot⟩, ⟨3, 17, .newLimit ⟨2, 6, .ask, 140, 3⟩⟩]
        (ended.fatal, ended.replayMode, (ended.process ⟨4, 17, .startReplay⟩).2.snapshotStore)) =
      some (false, .live, { image := ⟨2, 3, 1, 4, ⟨100, 200, 2⟩, [⟨1, 5, .bid, 150, 5⟩]⟩ }) := by
    decide +kernel
  rw [created, Option.map_some, Option.some_inj] at first rest
  simp only [Prod.mk.injEq] at first rest
  obtain ⟨lastOrderId, next, config, copied⟩ := first
  obtain ⟨alive, mode, store⟩ := rest
  let live := (matcher.process ⟨1, 17, .newLimit ⟨1, 5, .bid, 150, 5⟩⟩).2
  let ended := (live.process ⟨2, 17, .saveSnapshot⟩).2.processAll
    [⟨3, 17, .newLimit ⟨2, 6, .ask, 140, 3⟩⟩]
  have reachable : Reachable ⟨100, 200, 2⟩ (List EventEnvelope) MemorySnapshotStore inferInstance
      inferInstance live := .process (.create created) ⟨1, 17, .newLimit ⟨1, 5, .bid, 150, 5⟩⟩ nofun
  have reachable' : Reachable ⟨100, 200, 2⟩ (List EventEnvelope) MemorySnapshotStore inferInstance
      inferInstance ended :=
    .process (.process reachable ⟨2, 17, .saveSnapshot⟩ nofun)
      ⟨3, 17, .newLimit ⟨2, 6, .ask, 140, 3⟩⟩ nofun
  have captured : (live.snapshotView 2).CapturedAs
      ⟨2, 3, 1, 4, ⟨100, 200, 2⟩, [⟨1, 5, .bid, 150, 5⟩]⟩ := by
    refine ⟨rfl, lastOrderId.symm, ?_, config.symm, 2, copied⟩
    change (4 : UInt64) = live.nextEventSequence + 1
    rw [next]
    rfl
  have returned : SnapshotStore.load (ended.process ⟨4, 17, .startReplay⟩).2.snapshotStore ⟨2, 3⟩ =
      (.ok, ⟨2, 3, 1, 4, ⟨100, 200, 2⟩, [⟨1, 5, .bid, 150, 5⟩]⟩,
        (ended.process ⟨4, 17, .startReplay⟩).2.snapshotStore) := by
    have kept : (ended.process ⟨4, 17, .startReplay⟩).2.snapshotStore =
      { image := ⟨2, 3, 1, 4, ⟨100, 200, 2⟩, [⟨1, 5, .bid, 150, 5⟩]⟩ } := store
    rw [kept]
    rfl
  refine ⟨matcher, created, replay_reproduces_live_run reachable (fun _ _ => rfl) rfl ?_ _ ?_ alive
    reachable' (fun _ _ => rfl) alive mode rfl rfl captured rfl returned ?_⟩
  · rw [next]
    decide
  · simp [CommandEnvelope.Replayable]
  · intro ahead envelope behind split saves
    have member : envelope ∈ ahead ++ envelope :: behind := by simp
    rw [← split] at member
    rw [List.mem_singleton.mp member] at saves
    cases saves

end Fexma
