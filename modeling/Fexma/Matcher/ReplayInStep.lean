import Fexma.Matcher.ReplaySource

/-! When the replay source neither skips nor repeats a command. A record that does not decode
is dropped, and the call behind it goes on with the next one. -/
namespace Fexma

open Wal Transducer WalFileReplaySource

section InStep
variable {config : WalConfig} {payloads : List (List UInt8)} {file : Option DiskFile}
variable {firstSequence lastSequence : CommandSequence} {sequence count : ℕ}
variable {source : WalFileReplaySource} {pipeline : CommandPipeline}
variable {pipelines : List CommandPipeline} {calls : List PublishCall} {call : PublishCall}

theorem commandAt_sequence {command : CommandEnvelope}
    (there : commandAt config payloads sequence = some command) :
    command.commandSequence = .ofNat sequence := by
  rw [commandAt, Option.bind_eq_some_iff] at there
  obtain ⟨bytes, -, decoded⟩ := there
  split_ifs at decoded
  cases decoded
  rfl

theorem commandAt_inside (sequences : config.firstSequence.toNat + payloads.length ≤ 2 ^ 64)
    (start : config.firstSequence.toNat ≤ sequence)
    (there : (commandAt config payloads sequence).isSome) : sequence < 2 ^ 64 := by
  obtain ⟨command, there⟩ := Option.isSome_iff_exists.mp there
  rw [commandAt, Option.bind_eq_some_iff] at there
  obtain ⟨bytes, record, -⟩ := there
  have inside := (List.getElem?_eq_some_iff.mp record).1
  omega

/-- Where a run is that has published the commands in front of `sequence`. -/
inductive Phase (config : WalConfig) (payloads : List (List UInt8)) (lastSequence : CommandSequence) :
    ℕ → WalFileReplaySource → Prop
  | standing {sequence : ℕ} {source : WalFileReplaySource} (inside : sequence ≤ lastSequence.toNat)
      (standing : Standing config payloads lastSequence sequence source) :
    Phase config payloads lastSequence sequence source
  | holding {sequence : ℕ} {source : WalFileReplaySource} (inside : sequence ≤ lastSequence.toNat)
      (holding : Holding config payloads lastSequence sequence source) :
    Phase config payloads lastSequence sequence source
  | complete {source : WalFileReplaySource} (done : source.complete = true) :
    Phase config payloads lastSequence (lastSequence.toNat + 1) source
  | dropped {sequence passed : ℕ} {source : WalFileReplaySource}
      (none : ∀ later, passed ≤ later → later ≤ lastSequence.toNat →
        commandAt config payloads later = none)
      (ended : payloads.length ≤ lastSequence.toNat + 1 - config.firstSequence.toNat)
      (standing : Standing config payloads lastSequence passed source) :
    Phase config payloads lastSequence sequence source

/-- A call that publishes the command of a sequence. -/
structure Publishes (config : WalConfig) (payloads : List (List UInt8))
    (lastSequence : CommandSequence) (sequence : ℕ) (call : PublishCall) : Prop where
  inside : sequence ≤ lastSequence.toNat
  result : call.result = ⟨.ok, .ofNat sequence⟩
  carried : ∃ command, commandAt config payloads sequence = some command ∧
    call.after = { call.before.setSlotAt call.before.head { command } with
      head := call.before.head + 1 }

/-- A call publishes the next command, or publishes nothing. -/
inductive Stepped (config : WalConfig) (payloads : List (List UInt8))
    (lastSequence : CommandSequence) (sequence : ℕ) : PublishCall × WalFileReplaySource → Prop
  | published {answer : PublishCall × WalFileReplaySource}
      (publishes : Publishes config payloads lastSequence sequence answer.1)
      (phase : Phase config payloads lastSequence (sequence + 1) answer.2) :
    Stepped config payloads lastSequence sequence answer
  | refused {answer : PublishCall × WalFileReplaySource} (refused : answer.1.ok = false)
      (same : answer.1.after = answer.1.before)
      (complete : answer.1.result.status = .complete → sequence = lastSequence.toNat + 1)
      (phase : Phase config payloads lastSequence sequence answer.2) :
    Stepped config payloads lastSequence sequence answer

theorem Stepped.of_holding (sequences : config.firstSequence.toNat + payloads.length ≤ 2 ^ 64)
    (inside : sequence ≤ lastSequence.toNat)
    (holding : Holding config payloads lastSequence sequence source) :
    Stepped config payloads lastSequence sequence
      (⟨(source.publishPending pipeline).1, pipeline, (source.publishPending pipeline).2.2⟩,
        (source.publishPending pipeline).2.1) := by
  have place := commandAt_sequence holding.command
  have small := commandAt_inside sequences holding.start (Option.isSome_of_mem holding.command)
  have value : (UInt64.ofNat sequence).toNat = sequence := UInt64.toNat_ofNat_of_lt' small
  rcases holding.publish pipeline with ⟨refused, incomplete, same⟩ | ⟨result, carried, moved⟩
  · rw [same]
    refine .refused (decide_eq_false refused) rfl (fun complete => absurd complete incomplete) ?_
    exact .holding inside holding
  · refine .published ⟨inside, by rw [result, place], _, holding.command, carried⟩ ?_
    simp only [place, ne_eq, ← UInt64.toNat_inj, value] at moved
    rcases moved with ⟨rfl, done⟩ | ⟨before, standing⟩
    · exact .complete done
    · exact .standing (by omega) standing

/-- One call. -/
theorem Phase.stepped (readable : Readable config)
    (sequences : config.firstSequence.toNat + payloads.length ≤ 2 ^ 64)
    (decodes : DecodesThroughout config payloads firstSequence lastSequence)
    (inside : firstSequence.toNat ≤ sequence)
    (phase : Phase config payloads lastSequence sequence source) (pipeline : CommandPipeline) :
    Stepped config payloads lastSequence sequence (source.call pipeline) := by
  unfold WalFileReplaySource.call publishNext
  cases phase with
  | complete done =>
    rw [if_pos done]
    exact .refused rfl rfl (fun _ => rfl) (.complete done)
  | holding within holding =>
    rw [if_neg (by simp [holding.incomplete]), if_pos holding.held]
    exact .of_holding sequences within holding
  | standing within standing =>
    rw [if_neg (by simp [standing.incomplete]), if_neg (by simp [standing.idle])]
    have fetched := standing.fetch readable
    cases answer : source.fetch with
    | mk result behind =>
      rw [answer] at fetched
      cases fetched with
      | unread missing same standing =>
        cases same
        exact .refused rfl rfl nofun (.standing within standing)
      | complete record past same done => omega
      | undecoded within command same standing' =>
        cases same
        refine .refused rfl rfl nofun (.dropped ?_ ?_ standing')
        · intro later behind within
          by_contra decoded
          have here := decodes sequence later inside behind
            (.inl ⟨within, Option.isSome_iff_ne_none.mpr decoded⟩)
          rw [command] at here
          cases here
        · by_contra more
          have here := decodes sequence _ inside (Nat.lt_succ_of_le within)
            (.inr ⟨rfl, by omega⟩)
          rw [command] at here
          cases here
      | command within same holding =>
        cases same
        exact .of_holding sequences within holding
  | dropped none ended standing =>
    rw [if_neg (by simp [standing.incomplete]), if_neg (by simp [standing.idle])]
    have fetched := standing.fetch readable
    cases answer : source.fetch with
    | mk result behind =>
      rw [answer] at fetched
      cases fetched with
      | unread missing same standing =>
        cases same
        exact .refused rfl rfl nofun (.dropped none ended standing)
      | complete record past same done => omega
      | undecoded within command same standing =>
        cases same
        refine .refused rfl rfl nofun (.dropped ?_ ended standing)
        exact fun later behind within => none later (Nat.le_of_succ_le behind) within
      | command within same holding =>
        have command := holding.command
        rw [none _ (Nat.le_refl _) within] at command
        cases command

/-- What a run publishes from a sequence on. -/
structure PublishesFrom (config : WalConfig) (payloads : List (List UInt8))
    (lastSequence : CommandSequence) (sequence : ℕ) (calls : List PublishCall) : Prop where
  published : ∀ i call, (calls.filter PublishCall.ok)[i]? = some call →
    Publishes config payloads lastSequence (sequence + i) call
  unpublished : ∀ call ∈ calls, call.ok = false → call.after = call.before
  complete : ∀ early call late, calls = early ++ call :: late → call.result.status = .complete →
    sequence + (early.filter PublishCall.ok).length = lastSequence.toNat + 1

theorem PublishesFrom.nil : PublishesFrom config payloads lastSequence sequence [] := by
  refine ⟨?_, ?_, ?_⟩
  · intro i call there
    rw [List.filter_nil, List.getElem?_nil] at there
    cases there
  · intro call member
    cases member
  · intro early call late split
    cases early <;> cases split

theorem PublishesFrom.publish (publishes : Publishes config payloads lastSequence sequence call)
    (rest : PublishesFrom config payloads lastSequence (sequence + 1) calls) :
    PublishesFrom config payloads lastSequence sequence (call :: calls) := by
  have ok : call.ok = true := by simp [PublishCall.ok, publishes.result]
  refine ⟨?_, ?_, ?_⟩
  · intro i other there
    rw [List.filter_cons_of_pos ok] at there
    cases i with
    | zero =>
      obtain rfl : call = other := Option.some.inj there
      exact publishes
    | succ i =>
      have later := rest.published i other there
      rwa [Nat.add_right_comm] at later
  · intro other member refused
    rcases List.mem_cons.mp member with rfl | member
    · rw [ok] at refused
      cases refused
    · exact rest.unpublished other member refused
  · intro early other late split complete
    cases early with
    | nil =>
      cases split
      rw [publishes.result] at complete
      cases complete
    | cons first early =>
      obtain ⟨rfl, behind⟩ := List.cons.inj split
      have all := rest.complete early other late behind complete
      rw [List.filter_cons_of_pos ok, List.length_cons]
      omega

theorem PublishesFrom.refuse (refused : call.ok = false) (same : call.after = call.before)
    (complete : call.result.status = .complete → sequence = lastSequence.toNat + 1)
    (rest : PublishesFrom config payloads lastSequence sequence calls) :
    PublishesFrom config payloads lastSequence sequence (call :: calls) := by
  have skipped : ¬ call.ok = true := by simp [refused]
  refine ⟨?_, ?_, ?_⟩
  · rw [List.filter_cons_of_neg skipped]
    exact rest.published
  · intro other member refused
    rcases List.mem_cons.mp member with rfl | member
    · exact same
    · exact rest.unpublished other member refused
  · intro early other late split done
    cases early with
    | nil =>
      cases split
      exact complete done
    | cons first early =>
      obtain ⟨rfl, behind⟩ := List.cons.inj split
      rw [List.filter_cons_of_neg skipped]
      exact rest.complete early other late behind done

/-- A run. -/
theorem Phase.run (readable : Readable config)
    (sequences : config.firstSequence.toNat + payloads.length ≤ 2 ^ 64)
    (decodes : DecodesThroughout config payloads firstSequence lastSequence)
    (inside : firstSequence.toNat ≤ sequence)
    (phase : Phase config payloads lastSequence sequence source) :
    PublishesFrom config payloads lastSequence sequence (source.calls pipelines) := by
  induction pipelines generalizing sequence source with
  | nil => exact .nil
  | cons pipeline pipelines ih =>
    have step := phase.stepped readable sequences decodes inside pipeline
    cases step with
    | published publishes phase => exact .publish publishes (ih (by omega) phase)
    | refused refused same complete phase => exact .refuse refused same complete (ih inside phase)

theorem PublishesFrom.inStep (ordered : firstSequence.toNat ≤ lastSequence.toNat)
    (run : PublishesFrom config payloads lastSequence firstSequence.toNat calls) :
    InStep config payloads firstSequence lastSequence calls := by
  have place {sequence : ℕ} (inside : sequence ≤ lastSequence.toNat) :
      (UInt64.ofNat sequence).toNat = sequence :=
    UInt64.toNat_ofNat_of_lt' (Nat.lt_of_le_of_lt inside lastSequence.toNat_lt)
  refine ⟨?_, run.unpublished, ?_⟩
  · intro i call there
    obtain ⟨inside, result, carried⟩ := run.published i call there
    exact ⟨inside, by rw [result]; exact place inside, carried⟩
  · intro early call late split complete
    have all := run.complete early call late split complete
    have some_ok : (early.filter PublishCall.ok).length - 1 < (early.filter PublishCall.ok).length := by
      omega
    have there := List.getElem?_eq_getElem some_ok
    have whole : (calls.filter PublishCall.ok)[(early.filter PublishCall.ok).length - 1]? =
        some (early.filter PublishCall.ok)[(early.filter PublishCall.ok).length - 1] := by
      rw [split, List.filter_append, List.getElem?_append_left some_ok, there]
    obtain ⟨inside, result, -⟩ := run.published _ _ whole
    obtain ⟨member, ok⟩ := List.mem_filter.mp (List.getElem_mem some_ok)
    refine ⟨_, member, ok, UInt64.toNat_inj.mp ?_⟩
    rw [result, place inside]
    omega

/-! ### A run that nothing holds up -/

/-- An open pipeline with a free slot. -/
def readyPipeline : CommandPipeline := { config := { capacity := 1 }, isOpen := true }

theorem readyPipeline_takes {command : CommandEnvelope} (positive : command.commandSequence ≠ 0) :
    (readyPipeline.tryReplay command).1.status = .ok := by
  rw [CommandPipeline.tryReplay, if_neg (by decide), if_neg (by decide), if_neg positive,
    CommandPipeline.tryPublishEnvelope, if_neg (by decide), if_neg (by decide), if_neg (by decide)]

/-- A call with room in front of a record of the range publishes it or drops it. -/
theorem WalFileReplaySource.Standing.ready (readable : Readable config)
    (positive : 0 < sequence) (inside : sequence ≤ lastSequence.toNat)
    (record : sequence - config.firstSequence.toNat < payloads.length)
    (standing : Standing config payloads lastSequence sequence source) :
    ((source.call readyPipeline).1.ok = (commandAt config payloads sequence).isSome) ∧
      ((source.call readyPipeline).1.ok = true →
        (source.call readyPipeline).1.result.sequence.toNat = sequence) ∧
      (Standing config payloads lastSequence (sequence + 1) (source.call readyPipeline).2 ∨
        sequence = lastSequence.toNat ∧ (source.call readyPipeline).2.complete = true) := by
  have start := standing.start
  have value : (UInt64.ofNat sequence).toNat = sequence :=
    UInt64.toNat_ofNat_of_lt' (Nat.lt_of_le_of_lt inside lastSequence.toNat_lt)
  unfold WalFileReplaySource.call publishNext
  rw [if_neg (by simp [standing.incomplete]), if_neg (by simp [standing.idle])]
  have fetched := standing.fetch readable
  cases answer : source.fetch with
  | mk result behind =>
    rw [answer] at fetched
    cases fetched with
    | unread missing same standing =>
      rw [List.getElem?_eq_none_iff] at missing
      omega
    | complete record past same done => omega
    | undecoded within command same standing =>
      cases same
      rw [command]
      exact ⟨rfl, nofun, .inl standing⟩
    | command within same holding =>
      cases same
      have holding : Holding config payloads lastSequence sequence behind := holding
      have place := commandAt_sequence holding.command
      have some_sequence : behind.pending.commandSequence ≠ 0 := by
        rw [place, ne_eq, ← UInt64.toNat_inj, value]
        exact Nat.ne_of_gt positive
      have taken := readyPipeline_takes some_sequence
      rw [holding.command]
      rcases holding.publish readyPipeline with ⟨refused, -, -⟩ | ⟨published, -, moved⟩
      · unfold publishPending at refused
        dsimp only at refused
        rw [if_neg (by rw [taken]; exact nofun), if_neg (not_not.mpr taken)] at refused
        exact absurd rfl refused
      · simp only [place, ne_eq, ← UInt64.toNat_inj, value] at moved
        refine ⟨by simp [PublishCall.ok, published], fun _ => ?_, ?_⟩
        · simp only [published, place]
          exact value
        · exact moved.elim .inr fun going => .inl going.2

/-- Behind the range a record ends the run, published or not. -/
theorem WalFileReplaySource.Standing.past (readable : Readable config)
    (behind : lastSequence.toNat < sequence)
    (record : sequence - config.firstSequence.toNat < payloads.length)
    (standing : Standing config payloads lastSequence sequence source) :
    (source.call pipeline).1.result.status = .complete := by
  unfold WalFileReplaySource.call publishNext
  rw [if_neg (by simp [standing.incomplete]), if_neg (by simp [standing.idle])]
  have fetched := standing.fetch readable
  cases answer : source.fetch with
  | mk result later =>
    rw [answer] at fetched
    cases fetched with
    | unread missing same standing =>
      rw [List.getElem?_eq_none_iff] at missing
      omega
    | complete record past same done =>
      cases same
      rfl
    | undecoded within command same standing => omega
    | command within same holding => omega

/-- The run that is never held up comes to every record, and each record that does not decode
leaves it with a command less. -/
theorem WalFileReplaySource.Opened.ready (opened : Opened config file firstSequence lastSequence payloads source)
    {n : ℕ} (inside : firstSequence.toNat + n ≤ lastSequence.toNat + 1)
    (records : firstSequence.toNat + n ≤ config.firstSequence.toNat + payloads.length) :
    (Standing config payloads lastSequence (firstSequence.toNat + n)
        (final WalFileReplaySource.call source (List.replicate n readyPipeline)) ∨
      firstSequence.toNat + n = lastSequence.toNat + 1 ∧
        (final WalFileReplaySource.call source (List.replicate n readyPipeline)).complete = true) ∧
      ((source.calls (List.replicate n readyPipeline)).filter PublishCall.ok).length ≤ n ∧
      ∀ i < n, commandAt config payloads (firstSequence.toNat + i) = none →
        ((source.calls (List.replicate n readyPipeline)).filter PublishCall.ok).length < n := by
  induction n with
  | zero => exact ⟨.inl opened.standing, Nat.le_refl 0, nofun⟩
  | succ n ih =>
    obtain ⟨before, few, fewer⟩ := ih (by omega) (by omega)
    have standing := before.resolve_right fun ⟨done, _⟩ => by omega
    have start := opened.standing.start
    have positive := opened.positive
    obtain ⟨ok, -, behind⟩ := standing.ready opened.readable
      (by omega) (by omega) (by omega)
    rw [calls, List.replicate_succ', outputs_append, final_append, List.filter_append,
      List.length_append]
    refine ⟨behind.imp id fun ⟨last, done⟩ => ⟨by omega, done⟩, ?_, ?_⟩
    · have one := List.length_filter_le PublishCall.ok (outputs WalFileReplaySource.call
        (final WalFileReplaySource.call source (List.replicate n readyPipeline)) [readyPipeline])
      have single : (outputs WalFileReplaySource.call (final WalFileReplaySource.call source
        (List.replicate n readyPipeline)) [readyPipeline]).length = 1 := rfl
      rw [calls] at few
      omega
    · intro i within missing
      rw [calls] at few fewer
      rw [outputs, outputs]
      rcases Nat.lt_succ_iff_lt_or_eq.mp within with earlier | rfl
      · have less := fewer i earlier missing
        have one := List.length_filter_le PublishCall.ok [(WalFileReplaySource.call
          (final WalFileReplaySource.call source (List.replicate n readyPipeline)) readyPipeline).1]
        rw [List.length_singleton] at one
        omega
      · rw [missing] at ok
        rw [List.filter_cons_of_neg (by simp [ok]), List.filter_nil, List.length_nil]
        omega

/-- A run with too few commands by then shows it at the next command or at the end. -/
theorem WalFileReplaySource.Opened.decodesThroughout
    (opened : Opened config file firstSequence lastSequence payloads source)
    (inStep : ∀ pipelines, InStep config payloads firstSequence lastSequence (source.calls pipelines)) :
    DecodesThroughout config payloads firstSequence lastSequence := by
  intro sequence later behind before comes
  by_contra dropped
  rw [Option.not_isSome_iff_eq_none] at dropped
  have start := opened.standing.start
  have positive := opened.positive
  obtain ⟨i, rfl⟩ := Nat.exists_eq_add_of_le behind
  obtain ⟨n, rfl⟩ := Nat.exists_eq_add_of_le (behind.trans before.le)
  have record : firstSequence.toNat + n - config.firstSequence.toNat < payloads.length := by
    rcases comes with ⟨-, decodes⟩ | ⟨-, there⟩
    · obtain ⟨command, decodes⟩ := Option.isSome_iff_exists.mp decodes
      rw [commandAt, Option.bind_eq_some_iff] at decodes
      obtain ⟨bytes, there, -⟩ := decodes
      exact (List.getElem?_eq_some_iff.mp there).1
    · exact there
  obtain ⟨reached, -, fewer⟩ := opened.ready (n := n) (by omega) (by omega)
  have few := fewer i (by omega) dropped
  have run := inStep (List.replicate n readyPipeline ++ [readyPipeline])
  have split : source.calls (List.replicate n readyPipeline ++ [readyPipeline]) =
      source.calls (List.replicate n readyPipeline) ++
        [(WalFileReplaySource.call (final WalFileReplaySource.call source
          (List.replicate n readyPipeline)) readyPipeline).1] := outputs_append
  rw [split] at run
  rcases comes with ⟨inside, decodes⟩ | ⟨past, -⟩
  · -- The next call publishes a sequence that is ahead of its turn.
    have standing := reached.resolve_right (by omega)
    obtain ⟨ok, sequence, -⟩ := standing.ready opened.readable (by omega) inside record
    rw [decodes] at ok
    have place := run.published _ _ (by
      rw [List.filter_append, List.filter_cons_of_pos ok, List.filter_nil]
      exact List.getElem?_concat_length)
    rw [sequence ok] at place
    omega
  · -- The next call finds the end of the range, and its last command was never published.
    have complete : (WalFileReplaySource.call (final WalFileReplaySource.call source
        (List.replicate n readyPipeline)) readyPipeline).1.result.status = .complete := by
      rcases reached with standing | ⟨-, done⟩
      · exact standing.past opened.readable (by omega) record
      · rw [WalFileReplaySource.call, publishNext, if_pos done]
    obtain ⟨last, member, ok, sequence⟩ := run.complete _ _ [] rfl complete
    obtain ⟨k, inside, there⟩ := List.getElem_of_mem (List.mem_filter.mpr ⟨member, ok⟩)
    have place := run.published k last (by
      rw [List.filter_append, List.getElem?_append_left inside, List.getElem?_eq_getElem inside, there])
    rw [sequence] at place
    omega

end InStep

/-- Of every range that is accepted, the commands are published in step, whatever the calls
meet, exactly if no record that does not decode stands in front of one that counts. -/
theorem replay_source_in_step (config : WalConfig) (file : Option DiskFile)
    (firstSequence lastSequence : CommandSequence) (source : WalFileReplaySource)
    (accepted : ({} : WalFileReplaySource).open file config firstSequence lastSequence =
      (.ok, source)) :
    ∃ payloads, Records config file payloads ∧
      ((∀ pipelines, InStep config payloads firstSequence lastSequence (source.calls pipelines)) ↔
        DecodesThroughout config payloads firstSequence lastSequence) := by
  obtain ⟨payloads, opened⟩ := WalFileReplaySource.exists_opened accepted
  refine ⟨payloads, opened.records, opened.decodesThroughout, fun decodes pipelines => ?_⟩
  have phase := Phase.standing opened.ordered opened.standing
  exact (phase.run opened.readable opened.records.loggable.sequences decodes (Nat.le_refl _)).inStep
    opened.ordered

/-! ### A record that is dropped -/

/-- A stream of commands. -/
def commandConfig : WalConfig :=
  { payloadSize := 48, capacity := 1, alignment := 8, payloadSchemaVersion := 2
    streamKind := .command, streamId := 1, epochId := 1, manifestId := 1 }

/-- The payload of a Shutdown. -/
def shutdownBytes : List UInt8 := List.replicate 8 0 ++ 4 :: List.replicate 39 0

/-- A complete log of commands is opened at its first record. -/
theorem exists_open_commandConfig {payloads : List (List UInt8)} {lastSequence : CommandSequence}
    (loggable : Loggable commandConfig payloads)
    (room : (fileImage commandConfig payloads).length ≤ maxFileSize)
    (ordered : 1 ≤ lastSequence.toNat) : ∃ source,
    ({} : WalFileReplaySource).open (some ⟨fileImage commandConfig payloads, room⟩) commandConfig 1
        lastSequence = (.ok, source) ∧
      Opened commandConfig (some ⟨fileImage commandConfig payloads, room⟩) 1 lastSequence payloads
        source := by
  have valid : Valid commandConfig := validConfig_iff.mp (by decide)
  exact exists_open_first valid.single (records_image loggable rfl) rfl rfl rfl rfl ordered

/-- Behind a record that no command has, the next one is published out of turn. -/
theorem replay_source_skips : ∃ file source,
    ({} : WalFileReplaySource).open file commandConfig 1 2 = (.ok, source) ∧
      Records commandConfig file [List.replicate 48 0, shutdownBytes] ∧
      ((source.calls [readyPipeline, readyPipeline]).filter PublishCall.ok).map
        (·.result.sequence.toNat) = [2] ∧
      ¬ InStep commandConfig [List.replicate 48 0, shutdownBytes] 1 2
        (source.calls [readyPipeline, readyPipeline]) := by
  have valid : Valid commandConfig := validConfig_iff.mp (by decide)
  have loggable : Loggable commandConfig [List.replicate 48 0, shutdownBytes] :=
    ⟨by simp [shutdownBytes, commandConfig], by decide⟩
  have room : (fileImage commandConfig [List.replicate 48 0, shutdownBytes]).length ≤ maxFileSize := by
    rw [length_fileImage valid loggable.sizes]
    decide
  obtain ⟨source, accepted, opened⟩ := @exists_open_commandConfig _ 2 loggable room (by decide)
  obtain ⟨dropped, -, behind⟩ := opened.standing.ready opened.readable (by decide) (by decide) (by decide)
  have standing := behind.resolve_right fun ⟨last, _⟩ => absurd last (by decide)
  obtain ⟨taken, sequence, -⟩ := standing.ready opened.readable (by decide) (by decide) (by decide)
  rw [show (commandAt commandConfig [List.replicate 48 0, shutdownBytes]
    (UInt64.toNat 1)).isSome = false by decide] at dropped
  rw [show (commandAt commandConfig [List.replicate 48 0, shutdownBytes]
    (UInt64.toNat 1 + 1)).isSome = true by decide] at taken
  have oks : (source.calls [readyPipeline, readyPipeline]).filter PublishCall.ok =
      [((source.call readyPipeline).2.call readyPipeline).1] := by
    rw [calls, outputs, outputs, outputs, List.filter_cons_of_neg (by simp [dropped]),
      List.filter_cons_of_pos taken, List.filter_nil]
  refine ⟨_, source, accepted, opened.records, ?_, fun inStep => ?_⟩
  · rw [oks, List.map_singleton, sequence taken]
    rfl
  · have place := (inStep.published 0 _ (by rw [oks]; rfl)).2.1
    rw [sequence taken] at place
    exact absurd place (by decide)

/-- Two Shutdowns are published in step. -/
theorem replay_source_in_step_shutdowns : ∃ file source,
    ({} : WalFileReplaySource).open file commandConfig 1 2 = (.ok, source) ∧
      ∀ pipelines, InStep commandConfig [shutdownBytes, shutdownBytes] 1 2 (source.calls pipelines) := by
  have valid : Valid commandConfig := validConfig_iff.mp (by decide)
  have loggable : Loggable commandConfig [shutdownBytes, shutdownBytes] :=
    ⟨by simp [shutdownBytes, commandConfig], by decide⟩
  have room : (fileImage commandConfig [shutdownBytes, shutdownBytes]).length ≤ maxFileSize := by
    rw [length_fileImage valid loggable.sizes]
    decide
  obtain ⟨source, accepted, opened⟩ := @exists_open_commandConfig _ 2 loggable room (by decide)
  obtain ⟨payloads, records, iff⟩ := replay_source_in_step _ _ _ _ _ accepted
  obtain rfl := records.unique opened.readable opened.records
  refine ⟨_, source, accepted, iff.mpr ?_⟩
  intro sequence later behind before comes
  have two : later ≤ 3 := comes.elim (fun ⟨within, _⟩ => within.trans (by decide))
    fun ⟨past, _⟩ => past.trans_le (by decide)
  have last : sequence = 1 ∨ sequence = 2 := by
    have one : UInt64.toNat 1 = 1 := rfl
    omega
  rcases last with rfl | rfl
  · decide
  · decide

end Fexma
