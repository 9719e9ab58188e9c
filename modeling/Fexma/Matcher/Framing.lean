import Fexma.Matcher.Runs

/-! The published envelopes fall into one group for each command, numbered without a
gap, and only the last envelope of a group is marked. -/
namespace Fexma

open PriceTimeBook

/-- The frame of the envelopes of one command. The counters are machine words. -/
structure Framed (first : EventSequence) (envelope : CommandEnvelope)
    (group : List EventEnvelope) : Prop where
  clientId : ∀ event ∈ group, event.payload.clientId = envelope.payload.clientId
  commandSequence : ∀ event ∈ group,
    event.payload.causedByCommandSequence = envelope.commandSequence
  index : group.map (fun event => event.payload.indexInCommand) =
    (List.range group.length).map fun index => .ofNat index
  sequence : group.map (fun event => event.eventSequence) =
    (List.range group.length).map fun index => first + .ofNat index
  /-- No envelope in front of the last one is marked. -/
  marks : ∀ event ∈ group.dropLast, event.payload.isLastForCommand = false

/-- The last envelope is marked as the last one of its command. -/
def Closed (group : List EventEnvelope) : Prop :=
  ∃ ahead last, group = ahead ++ [last] ∧ last.payload.isLastForCommand

/-- No envelope is marked. -/
def Unfinished (group : List EventEnvelope) : Prop :=
  ∀ event ∈ group, event.payload.isLastForCommand = false

section Groups
variable {first : EventSequence} {envelope : CommandEnvelope} {events : List Event}

theorem unfinished_openGroup : Unfinished (openGroup first envelope events) := by
  intro event member
  obtain ⟨index, inside, rfl⟩ := List.mem_mapIdx.mp member
  rfl

theorem closed_closedGroup (nonempty : events ≠ []) : Closed (closedGroup first envelope events) := by
  obtain ⟨ahead, last, rfl⟩ := (List.eq_nil_or_concat events).resolve_left nonempty
  rw [List.concat_eq_append, closedGroup_concat]
  exact ⟨_, _, rfl, rfl⟩

/-- Whatever the marks, the positions give the numbers. -/
theorem framed_mapIdx {mark : ℕ → Bool} (front : ∀ event ∈ (events.mapIdx fun index =>
      frame first envelope (mark index) index).dropLast, event.payload.isLastForCommand = false) :
    Framed first envelope (events.mapIdx fun index => frame first envelope (mark index) index) := by
  refine ⟨fun event member => ?_, fun event member => ?_, ?_, ?_, front⟩
  · obtain ⟨index, inside, rfl⟩ := List.mem_mapIdx.mp member
    rfl
  · obtain ⟨index, inside, rfl⟩ := List.mem_mapIdx.mp member
    rfl
  · refine List.ext_getElem (by simp) fun index inside bound => ?_
    simp [frame]
  · refine List.ext_getElem (by simp) fun index inside bound => ?_
    simp [frame]

theorem framed_openGroup : Framed first envelope (openGroup first envelope events) :=
  framed_mapIdx fun event member => unfinished_openGroup event (List.mem_of_mem_dropLast member)

theorem framed_closedGroup : Framed first envelope (closedGroup first envelope events) := by
  refine framed_mapIdx fun event member => ?_
  rcases List.eq_nil_or_concat events with rfl | ⟨ahead, last, rfl⟩
  · cases member
  · rw [← closedGroup, List.concat_eq_append, closedGroup_concat, List.dropLast_concat] at member
    exact unfinished_openGroup event member

end Groups

/-! ### Plans -/

section Plans
variable {incoming : NewLimitOrder} {book : PriceTimeBook} {σ : Type} {lastOrderId : OrderId}

theorem length_fill (incoming : NewLimitOrder) (remaining : Quantity) (makers : List OrderView)
    (book : PriceTimeBook) :
    (fill incoming remaining makers book).steps.length ≤ 2 * makers.length := by
  induction makers generalizing remaining book with
  | nil =>
    rw [fill_nil]
    exact Nat.zero_le _
  | cons maker makers ih =>
    by_cases stops : remaining = 0 ∨ ¬ Matcher.crosses incoming.side incoming.price maker.price
    · rw [fill_stop stops]
      exact Nat.zero_le _
    obtain ⟨left, crossing⟩ := not_or.mp stops
    rw [not_not] at crossing
    by_cases whole : maker.remaining ≤ remaining
    · have behind := ih (remaining - maker.remaining) (book.drop maker.id)
      rw [fill_whole left crossing whole]
      simp only [List.length_cons]
      omega
    · rw [fill_part left crossing (UInt32.not_le.mp whole)]
      simp only [List.length_cons, List.length_nil]
      omega

theorem length_settlePlan (incoming : NewLimitOrder) (fills : Fills) (snapshotStore : σ) :
    (settlePlan incoming fills snapshotStore).steps.length = 1 := by
  simp only [settlePlan, Plan.stopping]
  split_ifs <;> rfl

theorem length_newLimitPlan (snapshotStore : σ) :
    (newLimitPlan incoming book lastOrderId snapshotStore).steps.length ≤
      2 * book.config.maxOrders.toNat + 2 := by
  simp only [newLimitPlan, Plan.stopping]
  split_ifs
  · simp
  · simp
  · have filled := length_fill incoming incoming.quantity
      (book.orders (Matcher.oppositeSide incoming.side)) book
    have listed := (orders_sublist book (Matcher.oppositeSide incoming.side)).length_le
    have fits : book.all.length ≤ book.config.maxOrders.toNat := book.fits
    simp only [Plan.after, List.length_append, List.length_cons, length_settlePlan]
    omega

end Plans

section Command
variable {ω σ : Type} [EventWriter ω] [SnapshotStore σ] {matcher : Matcher ω σ}
variable {envelope : CommandEnvelope}

/-- A load switches the event sequence: in replay to the cursor of its image, while restoring
to the one to resume with. A cursor of zero switches nothing. -/
def Matcher.SwitchesTo (matcher : Matcher ω σ) (envelope : CommandEnvelope)
    (cursor : EventSequence) : Prop :=
  cursor ≠ 0 ∧ ∃ command, envelope.payload.message = .loadSnapshot command ∧
    (matcher.replayMode = .replay ∧
        cursor = (SnapshotStore.load matcher.snapshotStore command).2.1.nextEventSequence ∨
      matcher.replayMode = .restoring ∧ cursor = matcher.liveResumeEventSequence)

/-- The shape of a plan: some events, but not many, and the event sequence is switched
by a load outside live mode only. -/
structure Plan.Shaped (matcher : Matcher ω σ) (envelope : CommandEnvelope) (plan : Plan σ) :
    Prop where
  nonempty : plan.steps ≠ []
  short : plan.steps.length ≤ 2 * matcher.book.contents.config.maxOrders.toNat + 2
  switches : plan.eventSequence ≠ 0 → matcher.SwitchesTo envelope plan.eventSequence

omit [EventWriter ω] in
/-- The plan of one event. -/
theorem Plan.Shaped.single {plan : Plan σ} {step : PriceTimeBook × Event}
    (steps : plan.steps = [step]) (keeps : plan.eventSequence = 0) : plan.Shaped matcher envelope := by
  refine ⟨?_, ?_, fun switches => absurd keeps switches⟩
  · rw [steps]
    exact List.cons_ne_nil _ _
  · rw [steps, List.length_singleton]
    omega

omit [EventWriter ω] in
theorem plan_shaped (matcher : Matcher ω σ) (envelope : CommandEnvelope) :
    (matcher.plan envelope).Shaped matcher envelope := by
  rw [Matcher.plan]
  cases message : envelope.payload.message with
  | newLimit order =>
    obtain ⟨-, -, keeps, -, nonempty⟩ := Matcher.newLimitPlan_quiet
      (Eq.refl (newLimitPlan order matcher.book.contents matcher.lastOrderId matcher.snapshotStore))
    exact ⟨nonempty, length_newLimitPlan _, fun switches => absurd keeps switches⟩
  | saveSnapshot =>
    simp only [Matcher.saveSnapshotPlan]
    split
    · exact .single rfl rfl
    · exact .single rfl rfl
  | loadSnapshot command =>
    simp only [Matcher.loadSnapshotPlan]
    split
    · rename_i image _ loaded
      split
      · exact .single rfl rfl
      · split
        · exact .single rfl rfl
        · refine ⟨List.cons_ne_nil _ _, ?_, fun switches => ⟨switches, command, message, ?_⟩⟩
          · rw [List.length_singleton]
            omega
          · cases mode : matcher.replayMode with
            | live =>
              simp only [mode] at switches
              exact absurd rfl switches
            | replay =>
              have same : (SnapshotStore.load matcher.snapshotStore command).2.1 = image :=
                congrArg (fun answer => answer.2.1) loaded
              exact .inl ⟨rfl, congrArg MatcherSnapshotImage.nextEventSequence same.symm⟩
            | restoring => exact .inr ⟨rfl, rfl⟩
    · exact .single rfl rfl
  | _ => exact .single rfl rfl

/-- What one command adds to the stream. -/
structure CommandFraming (before after : Matcher ω σ) (envelope : CommandEnvelope)
    (group : List EventEnvelope) : Prop where
  published : after.published = before.published ++ group
  framed : Framed before.nextEventSequence envelope group
  /-- With fewer than 2^31 slots no index within a command wraps. -/
  short : group.length ≤ 2 * before.book.contents.config.maxOrders.toNat + 2
  stopped : before.fatal → group = [] ∧ after = before
  running : before.fatal = false → Closed group ∨
    Unfinished group ∧ after.fatal ∧ after.fatalReason = .eventWriterFatal ∧
      Matcher.HasRefused after.eventWriter
  next : after.nextEventSequence = before.nextEventSequence + .ofNat group.length ∨
    Closed group ∧ before.SwitchesTo envelope after.nextEventSequence

theorem process_framing (idle : matcher.Idle) (envelope : CommandEnvelope) :
    ∃ group, CommandFraming matcher (matcher.process envelope).2 envelope group := by
  cases alive : matcher.fatal with
  | true =>
    rw [Matcher.process_fatal alive]
    refine ⟨[], (List.append_nil _).symm, ⟨nofun, nofun, rfl, rfl, nofun⟩, Nat.zero_le _,
      fun _ => ⟨rfl, rfl⟩, fun live => ?_, .inl (UInt64.add_zero _).symm⟩
    rw [alive] at live
    cases live
  | false =>
    have shaped := plan_shaped matcher envelope
    have length : (matcher.plan envelope).steps.events.length = (matcher.plan envelope).steps.length :=
      List.length_map _
    rcases Matcher.process_spec matcher envelope alive (idle alive) with
      ⟨completed, -⟩ | ⟨interrupted, -⟩
    · have some_event : (matcher.plan envelope).steps.events ≠ [] :=
        fun none => shaped.nonempty (List.map_eq_nil_iff.mp none)
      have closed : Closed (closedGroup matcher.nextEventSequence envelope _) :=
        closed_closedGroup some_event
      refine ⟨_, completed.published, framed_closedGroup, ?_, fun fatal => ?_, fun _ => .inl closed, ?_⟩
      · rw [length_closedGroup, length]
        exact shaped.short
      · rw [alive] at fatal
        cases fatal
      · by_cases switches : (matcher.plan envelope).eventSequence = 0
        · refine .inl ?_
          rw [completed.nextEventSequence, if_neg (not_not.mpr switches), length_closedGroup, length]
        · refine .inr ⟨closed, ?_⟩
          rw [completed.nextEventSequence, if_pos switches]
          exact shaped.switches switches
    · obtain ⟨count, inside, published, next⟩ := interrupted.published
      have taken : ((matcher.plan envelope).steps.events.take count).length = count := by
        rw [List.length_take, length]
        omega
      refine ⟨_, published, framed_openGroup, ?_, fun fatal => ?_, fun _ => .inr
        ⟨unfinished_openGroup, interrupted.fatal, interrupted.fatalReason, interrupted.fails⟩, .inl ?_⟩
      · rw [length_openGroup, taken]
        exact inside.le.trans shaped.short
      · rw [alive] at fatal
        cases fatal
      · rw [next, length_openGroup, taken]

/-! ### Whole runs -/

theorem Framed.sequence_at {first : EventSequence} {ahead behind : List EventEnvelope}
    {event : EventEnvelope} (framed : Framed first envelope (ahead ++ event :: behind)) :
    event.eventSequence = first + .ofNat ahead.length := by
  have numbered := congrArg (fun numbers => numbers[ahead.length]?) framed.sequence
  simpa using numbered

/-- One framed group for each command. -/
inductive Grouped : Matcher ω σ → List CommandEnvelope → List (List EventEnvelope) → Prop
  | nil (matcher : Matcher ω σ) : Grouped matcher [] []
  | cons {matcher : Matcher ω σ} {envelope : CommandEnvelope} {envelopes : List CommandEnvelope}
      {group : List EventEnvelope} {groups : List (List EventEnvelope)}
      (framing : CommandFraming matcher (matcher.process envelope).2 envelope group)
      (rest : Grouped (matcher.process envelope).2 envelopes groups) :
    Grouped matcher (envelope :: envelopes) (group :: groups)

theorem exists_grouped (idle : matcher.Idle) (envelopes : List CommandEnvelope) :
    ∃ groups, Grouped matcher envelopes groups := by
  induction envelopes generalizing matcher with
  | nil => exact ⟨[], .nil matcher⟩
  | cons envelope envelopes ih =>
    obtain ⟨group, framing⟩ := process_framing idle envelope
    obtain ⟨groups, rest⟩ := ih (idle.process envelope)
    exact ⟨group :: groups, .cons framing rest⟩

/-- The groups make up the stream. -/
theorem Grouped.published {envelopes : List CommandEnvelope} {groups : List (List EventEnvelope)}
    (grouped : Grouped matcher envelopes groups) :
    (matcher.processAll envelopes).published = matcher.published ++ groups.flatten := by
  induction grouped with
  | nil => exact (List.append_nil _).symm
  | cons framing rest ih =>
    rw [Matcher.processAll_cons, ih, framing.published, List.flatten_cons, List.append_assoc]

/-- The stream up to here ends with a load that has switched the event sequence. -/
def Switched (matcher : Matcher ω σ) (envelopes : List CommandEnvelope)
    (published : List EventEnvelope) : Prop :=
  ∃ ahead envelope behind, envelopes = ahead ++ envelope :: behind ∧
    (matcher.processAll ahead).SwitchesTo envelope
      (matcher.processAll (ahead ++ [envelope])).nextEventSequence ∧
    (matcher.processAll (ahead ++ [envelope])).published = published

theorem Switched.later {envelopes : List CommandEnvelope} {published : List EventEnvelope}
    (switched : Switched matcher envelopes published) :
    Switched matcher (envelopes ++ [envelope]) published := by
  obtain ⟨ahead, load, behind, rfl, switches, same⟩ := switched
  exact ⟨ahead, load, behind ++ [envelope], by simp, switches, same⟩

/-- The next event goes on from the last one. -/
def GoesOn (matcher : Matcher ω σ) (envelopes : List CommandEnvelope) : Prop :=
  ∀ early last, (matcher.processAll envelopes).published = early ++ [last] →
    (matcher.processAll envelopes).nextEventSequence = last.eventSequence + 1 ∨
      Switched matcher envelopes (early ++ [last])

/-- Each event goes on from the one in front of it. -/
def Consecutive (matcher : Matcher ω σ) (envelopes : List CommandEnvelope) : Prop :=
  ∀ early first second late,
    (matcher.processAll envelopes).published = early ++ first :: second :: late →
    second.eventSequence = first.eventSequence + 1 ∨ Switched matcher envelopes (early ++ [first])

section Step
variable {ahead : List CommandEnvelope} {group : List EventEnvelope}
variable (framing : CommandFraming (matcher.processAll ahead)
  (matcher.processAll (ahead ++ [envelope])) envelope group)
include framing

theorem GoesOn.step (goesOn : GoesOn matcher ahead) : GoesOn matcher (ahead ++ [envelope]) := by
  intro early last split
  rcases framing.next with next | ⟨-, switches⟩
  · have published := framing.published.symm.trans split
    rcases List.eq_nil_or_concat group with rfl | ⟨front, final, rfl⟩
    · rw [List.append_nil] at published
      rw [next, List.length_nil]
      refine (goesOn early last published).imp (fun same => ?_) Switched.later
      rw [← same]
      exact UInt64.add_zero _
    · rw [List.concat_eq_append, ← List.append_assoc] at published
      obtain ⟨-, same⟩ := List.append_inj' published rfl
      obtain rfl := List.singleton_inj.mp same
      have framed := framing.framed
      rw [List.concat_eq_append] at framed
      rw [next, framed.sequence_at, List.length_concat, UInt64.ofNat_add, ← UInt64.add_assoc]
      exact .inl rfl
  · exact .inr ⟨ahead, envelope, [], rfl, switches, split⟩

theorem Consecutive.step (consecutive : Consecutive matcher ahead) (goesOn : GoesOn matcher ahead) :
    Consecutive matcher (ahead ++ [envelope]) := by
  intro early first second late split
  have inGroup (front : List EventEnvelope) (same : group = front ++ first :: second :: late) :
      second.eventSequence = first.eventSequence + 1 := by
    have framed := framing.framed
    rw [same] at framed
    have one := framed.sequence_at
    rw [List.append_cons] at framed
    rw [framed.sequence_at, one, List.length_append, List.length_singleton, UInt64.ofNat_add,
      ← UInt64.add_assoc]
    rfl
  rw [framing.published] at split
  rcases List.append_eq_append_iff.mp split with ⟨front, -, same⟩ | ⟨rest, published, same⟩
  · exact .inl (inGroup front same)
  cases rest with
  | nil => exact .inl (inGroup [] same.symm)
  | cons _ rest =>
    obtain ⟨rfl, behind⟩ := List.cons.inj same
    cases rest with
    | nil =>
      have opened : group = [] ++ second :: late := behind.symm
      have framed := framing.framed
      rw [opened] at framed
      refine (goesOn early first published).imp (fun next => ?_) Switched.later
      rw [framed.sequence_at, ← next]
      exact UInt64.add_zero _
    | cons _ rest =>
      obtain ⟨rfl, -⟩ := List.cons.inj behind
      exact (consecutive early first second rest published).imp id Switched.later

end Step

/-- From a fresh matcher, whatever the commands and wherever the writer fails: the stream
is made of one group for each command, each event goes on from the one in front of it but
across a load that has switched the sequence, and a matcher that has stopped fatally does
nothing any more. -/
theorem event_framing {eventWriter : ω} {snapshotStore : σ} {config : OrderBookConfig}
    {firstEventSequence : EventSequence}
    (created : Matcher.create eventWriter snapshotStore config firstEventSequence = some matcher)
    (envelopes : List CommandEnvelope) :
    (∃ groups, Grouped matcher envelopes groups ∧
        (matcher.processAll envelopes).published = groups.flatten) ∧
      Consecutive matcher envelopes ∧
      ∀ more, (matcher.processAll envelopes).fatal →
        matcher.processAll (envelopes ++ more) = matcher.processAll envelopes := by
  obtain ⟨-, nothing, -, -, -, -, settled⟩ := Matcher.create_spec created
  have idle : matcher.Idle := fun _ => settled
  refine ⟨?_, ?_, fun more fatal => ?_⟩
  · obtain ⟨groups, grouped⟩ := exists_grouped idle envelopes
    refine ⟨groups, grouped, ?_⟩
    rw [grouped.published, nothing, List.nil_append]
  · suffices both : Consecutive matcher envelopes ∧ GoesOn matcher envelopes from both.1
    induction envelopes using List.reverseRecOn with
    | nil =>
      refine ⟨fun early first second late split => ?_, fun early last split => ?_⟩
      · rw [Matcher.processAll_nil, nothing] at split
        simp at split
      · rw [Matcher.processAll_nil, nothing] at split
        simp at split
    | append_singleton ahead envelope ih =>
      obtain ⟨group, framing⟩ := process_framing (idle.processAll ahead) envelope
      have framing : CommandFraming (matcher.processAll ahead)
          (matcher.processAll (ahead ++ [envelope])) envelope group := by
        rw [Matcher.processAll_append]
        exact framing
      exact ⟨ih.1.step framing ih.2, ih.2.step framing⟩
  · rw [Matcher.processAll_append]
    exact Matcher.processAll_fatal fatal more

end Command

/-- The writer of the tests: it keeps up to 64 envelopes and can be told to fail. -/
structure CollectingEventWriter where
  events : List EventEnvelope := []
  failAfter : Option ℕ := none

instance : EventWriter CollectingEventWriter where
  publish writer event :=
    if writer.failAfter.any (· ≤ writer.events.length) || writer.events.length = 64 then
      (.fatal, writer)
    else (.ok, { writer with events := writer.events ++ [event] })

/-- The writer takes the first event of an order and refuses the second one. -/
theorem event_framing_refused_event :
    ∃ matcher : Matcher CollectingEventWriter NullSnapshotStore,
      Matcher.create { failAfter := some 1 } {} ⟨100, 200, 2⟩ = some matcher ∧
      let envelopes : List CommandEnvelope := [⟨1, 17, .newLimit ⟨1, 5, .bid, 150, 5⟩⟩, ⟨2, 17, .none⟩]
      (∃ groups, Grouped matcher envelopes groups ∧
          (matcher.processAll envelopes).published = groups.flatten) ∧
        Consecutive matcher envelopes ∧
        ∀ more, (matcher.processAll envelopes).fatal →
          matcher.processAll (envelopes ++ more) = matcher.processAll envelopes := by
  obtain ⟨matcher, created⟩ := Matcher.exists_create ({ failAfter := some 1 } : CollectingEventWriter)
    ({} : NullSnapshotStore) ⟨100, 200, 2⟩ 1 (by decide)
  exact ⟨matcher, created, event_framing created _⟩

end Fexma
