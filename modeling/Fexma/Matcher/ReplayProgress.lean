import Fexma.Matcher.ReplayPath

/-! A fair replay carries out every command of the log: each role moves its own frontier of the
pipeline and no other, and while a command is left one of them has something due. -/
namespace Fexma

open Wal Transducer WalFileReplaySource EventWalComparator

/-! ### Roles -/

inductive ReplayRole where
  | source
  | persistence
  | risk
  | reserve
  | matcher
  deriving DecidableEq, Repr

def ReplayTurn.role : ReplayTurn → ReplayRole
  | source => .source
  | persistence _ => .persistence
  | risk _ => .risk
  | reserve _ => .reserve
  | matcher => .matcher

/-- The frontier that a role moves. -/
def CommandPipeline.frontier (pipeline : CommandPipeline) : ReplayRole → UInt64
  | .source => pipeline.head
  | .persistence => pipeline.durable
  | .risk => pipeline.riskChecked
  | .reserve => pipeline.reserveChecked
  | .matcher => pipeline.tail

/-- There is something for the role to do, as long as `total` commands are not published. -/
def CommandPipeline.Due (pipeline : CommandPipeline) (total : ℕ) : ReplayRole → Prop
  | .source => pipeline.head.toNat < total ∧
      pipeline.head - pipeline.tail ≠ pipeline.config.capacity.toUInt64
  | .persistence => pipeline.durable ≠ pipeline.head
  | .risk => pipeline.riskChecked ≠ pipeline.durable
  | .reserve => pipeline.reserveChecked ≠ pipeline.riskChecked
  | .matcher => pipeline.tail ≠ pipeline.reserveChecked

variable {σ : Type} [SnapshotStore σ]

omit [SnapshotStore σ] in
/-- A turn in which the role does what is due: a stage publishes a result that is none pending,
persistence publishes no more than what is there. -/
def ReplayRole.Serves (role : ReplayRole) (system : ReplaySystem σ) (turn : ReplayTurn) : Prop :=
  turn.role = role ∧ match turn with
    | .persistence count => count ≠ 0 ∧ (system.pipeline.durable = system.pipeline.head ∨
        ¬ system.pipeline.head - system.pipeline.durable < count.toUInt64)
    | .risk result => result.decision ≠ .pending
    | .reserve result => result.decision ≠ .pending
    | .source | .matcher => True

/-- How far the roles have come together. -/
def CommandPipeline.passed (pipeline : CommandPipeline) : ℕ :=
  pipeline.head.toNat + pipeline.durable.toNat + pipeline.riskChecked.toNat +
    pipeline.reserveChecked.toNat + pipeline.tail.toNat

/-! ### What a turn does to the frontiers -/

/-- The pipeline behind a turn of a role. -/
structure Advances (role : ReplayRole) (due : Prop) (before after : CommandPipeline) : Prop where
  config : after.config = before.config
  others : ∀ other, other ≠ role → after.frontier other = before.frontier other
  onward : (before.frontier role).toNat ≤ (after.frontier role).toNat
  served : due → (before.frontier role).toNat < (after.frontier role).toNat

theorem Advances.still {role : ReplayRole} {due : Prop} {pipeline : CommandPipeline}
    (idle : ¬due) : Advances role due pipeline pipeline :=
  ⟨rfl, fun _ _ => rfl, le_rfl, fun here => absurd here idle⟩

theorem Advances.raised {role : ReplayRole} {due : Prop} {before after : CommandPipeline}
    (config : after.config = before.config)
    (others : ∀ other, other ≠ role → after.frontier other = before.frontier other)
    (raised : (before.frontier role).toNat < (after.frontier role).toNat) :
    Advances role due before after :=
  ⟨config, others, raised.le, fun _ => raised⟩

section Advances
variable {role : ReplayRole} {due : Prop} {before after : CommandPipeline}
variable (advances : Advances role due before after)
include advances

/-- No role falls behind. -/
theorem Advances.frontier_le (other : ReplayRole) :
    (before.frontier other).toNat ≤ (after.frontier other).toNat := by
  by_cases own : other = role
  · rw [own]
    exact advances.onward
  · rw [advances.others other own]

theorem Advances.passed_le : before.passed ≤ after.passed := by
  have head := advances.frontier_le .source
  have durable := advances.frontier_le .persistence
  have risk := advances.frontier_le .risk
  have reserve := advances.frontier_le .reserve
  have tail := advances.frontier_le .matcher
  unfold CommandPipeline.frontier at head durable risk reserve tail
  dsimp only at head durable risk reserve tail
  unfold CommandPipeline.passed
  omega

theorem Advances.passed_lt (here : due) : before.passed < after.passed := by
  have head := advances.frontier_le .source
  have durable := advances.frontier_le .persistence
  have risk := advances.frontier_le .risk
  have reserve := advances.frontier_le .reserve
  have tail := advances.frontier_le .matcher
  have served := advances.served here
  unfold CommandPipeline.frontier at head durable risk reserve tail served
  dsimp only at head durable risk reserve tail
  unfold CommandPipeline.passed
  cases role with
  | _ =>
    dsimp only at served
    omega

/-- A pipeline that has come no further has the same frontiers. -/
theorem Advances.due_iff (still : after.passed = before.passed) (total : ℕ) (other : ReplayRole) :
    after.Due total other ↔ before.Due total other := by
  have head := advances.frontier_le .source
  have durable := advances.frontier_le .persistence
  have risk := advances.frontier_le .risk
  have reserve := advances.frontier_le .reserve
  have tail := advances.frontier_le .matcher
  unfold CommandPipeline.frontier at head durable risk reserve tail
  unfold CommandPipeline.passed at still
  dsimp only at head durable risk reserve tail
  have same_head : after.head = before.head := UInt64.toNat_inj.mp (by omega)
  have same_durable : after.durable = before.durable := UInt64.toNat_inj.mp (by omega)
  have same_risk : after.riskChecked = before.riskChecked := UInt64.toNat_inj.mp (by omega)
  have same_reserve : after.reserveChecked = before.reserveChecked := UInt64.toNat_inj.mp (by omega)
  have same_tail : after.tail = before.tail := UInt64.toNat_inj.mp (by omega)
  unfold CommandPipeline.Due
  rw [same_head, same_durable, same_risk, same_reserve, same_tail, advances.config]

end Advances

section Turn
variable {ω σ' : Type} [EventWriter ω] [SnapshotStore σ'] {live : Matcher ω σ'}
variable {config : WalConfig} {records : List (List UInt8)} {commands : List CommandEnvelope}
variable {pipelineConfig : CommandPipelineConfig} {ends : EventWalComparator → Prop}
variable {system : ReplaySystem σ} {history : PipelineHistory}
variable (log : CommandLog config records commands)
variable (replaying : Replaying config records commands pipelineConfig ends live history system)
include log replaying

/-- Each role moves its own frontier, and does when something is due and its turn is of use. -/
theorem Replaying.advances (turn : ReplayTurn) :
    Advances turn.role
      (system.pipeline.Due commands.length turn.role ∧ turn.role.Serves system turn)
      system.pipeline (system.turn turn).pipeline := by
  have few := log.few
  have invariant := replaying.invariant
  have inside := replaying.published_le
  cases turn with
  | source =>
    have fed := log.publishNext replaying.feeding invariant.isOpen replaying.healthy
    change Advances .source _ system.pipeline (system.source.publishNext system.pipeline).2.2
    generalize (system.source.publishNext system.pipeline).2 = answer at fed
    cases fed with
    | held stopped feeding =>
      refine .still ?_
      rintro ⟨⟨before, room⟩, -⟩
      rcases stopped with whole | full
      · rw [invariant.head, whole] at before
        exact absurd before (Nat.lt_irrefl _)
      · exact room full
    | published next room feeding =>
      have below := (List.getElem?_eq_some_iff.mp next).1
      have moved : (system.pipeline.head + 1).toNat = history.published.length + 1 :=
        toNat_succ invariant.head (by omega)
      have raised : system.pipeline.head.toNat < (system.pipeline.head + 1).toNat := by
        rw [moved, invariant.head]
        exact Nat.lt_succ_self _
      refine .raised rfl (fun other apart => ?_) raised
      cases other with
      | source => exact absurd rfl apart
      | _ => rfl
  | persistence count =>
    change Advances .persistence _ system.pipeline (system.pipeline.publishDurable count).2
    rcases system.pipeline.publishDurable_cases count with ⟨refused, same⟩ | ⟨-, some_count, due, moved⟩
    · rw [same]
      refine .still ?_
      rintro ⟨pending, -, some_count, served⟩
      refine refused ?_
      have enough := served.resolve_left pending
      rw [CommandPipeline.publishDurable, if_neg (by simp [invariant.isOpen]),
        if_neg (by simp [replaying.healthy]), if_neg some_count, if_neg enough]
    · rw [moved]
      refine .raised rfl (fun other apart => ?_) ?_
      · cases other with
        | persistence => exact absurd rfl apart
        | _ => rfl
      · have positive : 0 < count.toNat :=
          Nat.pos_of_ne_zero fun zero => some_count (UInt32.toNat_inj.mp zero)
        change system.pipeline.durable.toNat < (system.pipeline.durable + count.toUInt64).toNat
        rw [(invariant.durable_toNat due).2]
        exact Nat.lt_add_of_pos_right positive
  | risk result =>
    change Advances .risk _ system.pipeline (system.pipeline.publishRisk result).2
    rcases system.pipeline.publishRisk_cases result with ⟨refused, same⟩ | ⟨-, decided, due, moved⟩
    · rw [same]
      refine .still ?_
      rintro ⟨due, -, decided⟩
      exact refused (CommandPipeline.publishRisk_ok invariant.isOpen decided due)
    · have after := (invariant.publishRisk decided due).risk
      rw [List.length_append, ← invariant.risk] at after
      rw [moved]
      refine .raised rfl (fun other apart => ?_) (Nat.lt_of_lt_of_eq (Nat.lt_succ_self _) after.symm)
      cases other with
      | risk => exact absurd rfl apart
      | _ => rfl
  | reserve result =>
    change Advances .reserve _ system.pipeline (system.pipeline.publishReserve result).2
    rcases system.pipeline.publishReserve_cases result with
      ⟨refused, same⟩ | ⟨-, decided, due, moved⟩
    · rw [same]
      refine .still ?_
      rintro ⟨due, -, decided⟩
      exact refused (CommandPipeline.publishReserve_ok invariant.isOpen decided due)
    · have after := (invariant.publishReserve decided due).reserve
      rw [List.length_append, ← invariant.reserve] at after
      rw [moved]
      refine .raised rfl (fun other apart => ?_) (Nat.lt_of_lt_of_eq (Nat.lt_succ_self _) after.symm)
      cases other with
      | reserve => exact absurd rfl apart
      | _ => rfl
  | matcher =>
    change Advances .matcher _ system.pipeline system.consume.pipeline
    unfold ReplaySystem.consume
    rcases system.pipeline.tryConsume_cases with idle | ⟨due, moved⟩
    · rw [idle]
      refine .still ?_
      rintro ⟨due, -⟩
      rw [CommandPipeline.tryConsume_ok invariant.isOpen due] at idle
      cases idle
    · have after := (invariant.consume due).tail
      rw [List.length_append, ← invariant.tail] at after
      rw [moved]
      refine .raised rfl (fun other apart => ?_) (Nat.lt_of_lt_of_eq (Nat.lt_succ_self _) after.symm)
      cases other with
      | matcher => exact absurd rfl apart
      | _ => rfl

omit log in
/-- While a command is left, some role has something due. -/
theorem Replaying.some_due (capacity : pipelineConfig.capacity ≠ 0)
    (left : system.consumed ≠ commands) : ∃ role, system.pipeline.Due commands.length role := by
  have invariant := replaying.invariant
  by_contra idle
  push Not at idle
  have matcher : system.pipeline.tail = system.pipeline.reserveChecked := not_not.mp (idle .matcher)
  have reserve : system.pipeline.reserveChecked = system.pipeline.riskChecked :=
    not_not.mp (idle .reserve)
  have risk : system.pipeline.riskChecked = system.pipeline.durable := not_not.mp (idle .risk)
  have persistence : system.pipeline.durable = system.pipeline.head := not_not.mp (idle .persistence)
  have empty : system.pipeline.tail = system.pipeline.head :=
    matcher.trans (reserve.trans (risk.trans persistence))
  have consumed : history.consumed.length = history.published.length := by
    rw [← invariant.tail, ← invariant.head, empty]
  refine idle .source ⟨?_, ?_⟩
  · refine lt_of_le_of_ne (invariant.head ▸ replaying.published_le) fun whole => left ?_
    rw [replaying.consumed, consumed, ← invariant.head, whole, List.take_length]
  · rw [empty, UInt64.sub_self, invariant.config, Ne, ← UInt64.toNat_inj, UInt32.toNat_toUInt64]
    exact fun none => capacity (UInt32.toNat_inj.mp none.symm)

omit log replaying in
/-- What has been consumed stays consumed. -/
theorem ReplaySystem.consumed_grows (system : ReplaySystem σ) (turn : ReplayTurn) :
    system.consumed <+: (system.turn turn).consumed := by
  cases turn with
  | matcher =>
    change system.consumed <+: system.consume.consumed
    unfold ReplaySystem.consume
    split
    · exact List.prefix_rfl
    · exact List.prefix_append _ _
  | _ => exact List.prefix_rfl

omit log in
/-- There is room for no more than five frontiers at the end of the log. -/
theorem Replaying.passed_le : system.pipeline.passed ≤ 5 * commands.length := by
  have invariant := replaying.invariant
  have inside := replaying.published_le
  have tail := invariant.tail_le
  have reserve := invariant.reserve_le
  have risk := invariant.risk_le
  have durable := invariant.durable_le
  rw [CommandPipeline.passed, invariant.head, invariant.risk, invariant.reserve, invariant.tail]
  omega

end Turn

section Fair
variable {ω σ' : Type} [EventWriter ω] [SnapshotStore σ'] {live : Matcher ω σ'}
variable {config : WalConfig} {records : List (List UInt8)} {commands : List CommandEnvelope}
variable {pipelineConfig : CommandPipelineConfig} {ends : EventWalComparator → Prop}
variable (log : CommandLog config records commands)
variable (replayable : ∀ command ∈ commands, command.Replayable)
variable (alive : (live.processAll commands).fatal = false)
include log replayable alive

/-- The roles of a replay bring it to its end. -/
theorem CommandLog.progress (capacity : pipelineConfig.capacity ≠ 0) :
    FairRun.Progress (@ReplaySystem.turn σ _)
      (fun system => ∃ history,
        Replaying config records commands pipelineConfig ends live history system)
      (fun system => system.consumed = commands)
      (fun role system => system.pipeline.Due commands.length role)
      ReplayRole.Serves (fun system => system.pipeline.passed) (5 * commands.length) := by
  constructor
  · rintro system turn ⟨history, replaying⟩
    exact replaying.turn log replayable alive turn
  · rintro system ⟨history, replaying⟩
    exact replaying.passed_le
  · rintro system turn ⟨history, replaying⟩
    exact (replaying.advances log turn).passed_le
  · rintro system ⟨history, replaying⟩ left
    exact replaying.some_due capacity left
  · rintro role system turn ⟨history, replaying⟩ due still
    exact ((replaying.advances log turn).due_iff still _ role).mpr due
  · rintro role system turn ⟨history, replaying⟩ due serves
    obtain rfl := serves.1
    exact (replaying.advances log turn).passed_lt ⟨due, serves⟩

/-- A fair replay consumes the whole log, and that stays so. -/
theorem CommandLog.consumes_all (capacity : pipelineConfig.capacity ≠ 0) {system : ReplaySystem σ}
    (begins : ∃ history, Replaying config records commands pipelineConfig ends live history system)
    (ended : ∀ comparator, ends comparator → comparator.result.status = .ok)
    {schedule : ℕ → ReplayTurn}
    (fair : FairRun.Fair ReplayRole.Serves ReplaySystem.turn system schedule) :
    ∃ k, ∀ j ≥ k, (FairRun.stateAt ReplaySystem.turn system schedule j).consumed = commands := by
  have progress := @CommandLog.progress σ _ _ _ _ _ live config records commands pipelineConfig ends
    log replayable alive capacity
  refine progress.settles fair begins fun state turn here whole => ?_
  obtain ⟨history, replaying⟩ := progress.keeps state turn here
  obtain ⟨-, -, within, -⟩ := replaying.sound ended
  have grows := state.consumed_grows turn
  rw [whole] at grows
  exact within.eq_of_length_le grows.length_le

end Fair

/-! ### A fair schedule -/

/-- The roles have their turns one behind the other. -/
def roundRobin (k : ℕ) : ReplayTurn :=
  match k % 5 with
  | 0 => .source
  | 1 => .persistence 1
  | 2 => .risk { decision := .accepted }
  | 3 => .reserve { decision := .accepted }
  | _ => .matcher

theorem roundRobin_fair (start : ReplaySystem σ) :
    FairRun.Fair ReplayRole.Serves ReplaySystem.turn start roundRobin := by
  intro role k
  have turn (i : ℕ) : roundRobin (5 * k + i) = roundRobin i := by
    rw [roundRobin, Nat.mul_add_mod, roundRobin]
  have later (i : ℕ) : k ≤ 5 * k + i := by omega
  have one : (1 : UInt32).toUInt64.toNat = 1 := rfl
  have none_between {head durable : UInt64} (none : head - durable = 0) : durable = head := by grind
  cases role with
  | source =>
    refine ⟨5 * k, later 0, ?_⟩
    rw [← Nat.add_zero (5 * k), turn]
    exact ⟨rfl, trivial⟩
  | persistence =>
    refine ⟨5 * k + 1, later 1, ?_⟩
    rw [turn]
    refine ⟨rfl, by decide, ?_⟩
    refine or_iff_not_imp_right.mpr fun fewer => ?_
    rw [not_not, UInt64.lt_iff_toNat_lt, one, Nat.lt_one_iff] at fewer
    exact none_between (UInt64.toNat_inj.mp fewer)
  | risk =>
    refine ⟨5 * k + 2, later 2, ?_⟩
    rw [turn]
    exact ⟨rfl, fun pending => (by cases pending)⟩
  | reserve =>
    refine ⟨5 * k + 3, later 3, ?_⟩
    rw [turn]
    exact ⟨rfl, fun pending => (by cases pending)⟩
  | matcher =>
    refine ⟨5 * k + 4, later 4, ?_⟩
    rw [turn]
    exact ⟨rfl, trivial⟩

end Fexma
