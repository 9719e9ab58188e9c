import Fexma.Matcher.CommandPipeline
import Mathlib.Algebra.Group.Nat.Defs
import Mathlib.Order.Nat

/-! Safety of the command pipeline: whatever the order of the calls, the frontiers keep
their order, and the slots between them hold what was published at their positions. -/
namespace Fexma

open Transducer

namespace PipelineHistory

/-- What was published at a position, a result that is still due being empty. -/
structure Holds (history : PipelineHistory) (position : ℕ) (slot : CommandRingSlot) : Prop where
  command : history.published[position]? = some slot.command
  risk : slot.risk = history.risks[position]?.getD {}
  reserve : slot.reserve = history.reserves[position]?.getD {}

/-- A slot that left the pipeline has all that was published at its position. -/
structure Completes (history : PipelineHistory) (position : ℕ) (slot : CommandRingSlot) : Prop where
  command : history.published[position]? = some slot.command
  risk : history.risks[position]? = some slot.risk
  reserve : history.reserves[position]? = some slot.reserve

end PipelineHistory

/-- The frontiers count the history, and the live slots hold it. -/
structure PipelineInvariant (config : CommandPipelineConfig) (pipeline : CommandPipeline)
    (history : PipelineHistory) : Prop where
  isOpen : pipeline.isOpen
  config : pipeline.config = config
  head : pipeline.head.toNat = history.published.length
  risk : pipeline.riskChecked.toNat = history.risks.length
  reserve : pipeline.reserveChecked.toNat = history.reserves.length
  tail : pipeline.tail.toNat = history.consumed.length
  tail_le : history.consumed.length ≤ history.reserves.length
  reserve_le : history.reserves.length ≤ history.risks.length
  risk_le : history.risks.length ≤ pipeline.durable.toNat
  durable_le : pipeline.durable.toNat ≤ history.published.length
  window : history.published.length ≤ history.consumed.length + pipeline.config.capacity.toNat
  holds : ∀ position, history.consumed.length ≤ position → position < history.published.length →
    history.Holds position (SlotRing.read pipeline.config.capacity.toNat pipeline.slots position)
  consumed : ∀ position slot, history.consumed[position]? = some slot →
    history.Completes position slot
  risks : ∀ risk ∈ history.risks, risk.decision ≠ .pending
  reserves : ∀ reserve ∈ history.reserves, reserve.decision ≠ .pending

section Steps
variable {config : CommandPipelineConfig} {pipeline : CommandPipeline} {history : PipelineHistory}

theorem toNat_succ {frontier : UInt64} {count : ℕ} (same : frontier.toNat = count)
    (fits : count + 1 < 2 ^ 64) : (frontier + 1).toNat = count + 1 := by
  rw [UInt64.toNat_add, same]
  exact Nat.mod_eq_of_lt fits

/-- Appending leaves the entries in front alone. -/
theorem getElem?_concat_of_ne {α : Type} {entries : List α} {entry : α} {position : ℕ}
    (apart : position ≠ entries.length) : (entries ++ [entry])[position]? = entries[position]? := by
  rcases Nat.lt_or_gt_of_ne apart with before | behind
  · exact List.getElem?_append_left before
  · rw [List.getElem?_append_right behind.le, List.getElem?_eq_none behind.le,
      List.getElem?_eq_none (by simp; omega)]

theorem getElem?_concat_some {α : Type} {entries : List α} {entry found : α} {position : ℕ}
    (there : entries[position]? = some found) : (entries ++ [entry])[position]? = some found := by
  have inside := (List.getElem?_eq_some_iff.mp there).1
  rw [List.getElem?_append_left inside, there]

/-- A publication takes the slot of the head, which no live position has. -/
theorem PipelineInvariant.publish (invariant : PipelineInvariant config pipeline history)
    (command : CommandEnvelope)
    (room : pipeline.head - pipeline.tail ≠ pipeline.config.capacity.toUInt64)
    (fits : history.published.length + 1 < 2 ^ 64) :
    PipelineInvariant config { pipeline.setSlotAt pipeline.head { command } with head := pipeline.head + 1 }
      { history with published := history.published ++ [command] } := by
  have free : history.published.length < history.consumed.length + pipeline.config.capacity.toNat := by
    refine lt_of_le_of_ne invariant.window fun full => room ?_
    have ordered : pipeline.tail ≤ pipeline.head := by
      rw [UInt64.le_iff_toNat_le, invariant.tail, invariant.head]
      have := invariant.tail_le
      have := invariant.reserve_le
      have := invariant.risk_le
      have := invariant.durable_le
      omega
    apply UInt64.toNat_inj.mp
    rw [UInt64.toNat_sub_of_le _ _ ordered, invariant.head, invariant.tail, UInt32.toNat_toUInt64]
    omega
  have early : history.risks.length ≤ history.published.length :=
    invariant.risk_le.trans invariant.durable_le
  refine ⟨invariant.isOpen, invariant.config, ?_, invariant.risk, invariant.reserve, invariant.tail,
    invariant.tail_le, invariant.reserve_le, invariant.risk_le, ?_, ?_, ?_, ?_, invariant.risks,
    invariant.reserves⟩
  · rw [List.length_append, List.length_singleton]
    exact toNat_succ invariant.head fits
  · rw [List.length_append]
    exact invariant.durable_le.trans (Nat.le_add_right _ _)
  · rw [List.length_append, List.length_singleton]
    exact free
  · intro position live below
    rw [List.length_append, List.length_singleton] at below
    simp only [CommandPipeline.setSlotAt, invariant.head]
    rcases Nat.lt_or_ge position history.published.length with old | new
    · have kept := invariant.holds position live old
      rw [SlotRing.read_write_ne ⟨invariant.tail_le.trans (invariant.reserve_le.trans early), free⟩
        ⟨live, old.trans free⟩ old.ne]
      exact ⟨getElem?_concat_some kept.command, kept.risk, kept.reserve⟩
    · obtain rfl : position = history.published.length := by omega
      rw [SlotRing.read_write]
      refine ⟨List.getElem?_concat_length, ?_, ?_⟩
      · rw [List.getElem?_eq_none early]
        rfl
      · rw [List.getElem?_eq_none (invariant.reserve_le.trans early)]
        rfl
  · intro position slot there
    have complete := invariant.consumed position slot there
    exact ⟨getElem?_concat_some complete.command, complete.risk, complete.reserve⟩

theorem PipelineInvariant.durable_le_head (invariant : PipelineInvariant config pipeline history) :
    pipeline.durable ≤ pipeline.head := by
  rw [UInt64.le_iff_toNat_le, invariant.head]
  exact invariant.durable_le

/-- A durable publication stays within what is published. -/
theorem PipelineInvariant.durable_toNat (invariant : PipelineInvariant config pipeline history)
    {count : UInt32} (due : ¬ pipeline.head - pipeline.durable < count.toUInt64) :
    pipeline.durable.toNat + count.toNat ≤ history.published.length ∧
      (pipeline.durable + count.toUInt64).toNat = pipeline.durable.toNat + count.toNat := by
  have pending : pipeline.durable.toNat + count.toNat ≤ history.published.length := by
    rw [UInt64.lt_iff_toNat_lt, UInt64.toNat_sub_of_le _ _ invariant.durable_le_head,
      UInt32.toNat_toUInt64, invariant.head] at due
    have := invariant.durable_le
    omega
  have bound := pipeline.head.toNat_lt
  rw [invariant.head] at bound
  refine ⟨pending, ?_⟩
  rw [UInt64.toNat_add, UInt32.toNat_toUInt64]
  exact Nat.mod_eq_of_lt (Nat.lt_of_le_of_lt pending bound)

/-- A durable publication moves over positions that are published. -/
theorem PipelineInvariant.durable_moves (invariant : PipelineInvariant config pipeline history)
    {count : UInt32} (due : ¬ pipeline.head - pipeline.durable < count.toUInt64) :
    PipelineInvariant config { pipeline with durable := pipeline.durable + count.toUInt64 } history := by
  obtain ⟨pending, moved⟩ := invariant.durable_toNat due
  refine ⟨invariant.isOpen, invariant.config, invariant.head, invariant.risk, invariant.reserve, invariant.tail,
    invariant.tail_le, invariant.reserve_le, ?_, ?_, invariant.window, invariant.holds,
    invariant.consumed, invariant.risks, invariant.reserves⟩
  · rw [moved]
    exact invariant.risk_le.trans (Nat.le_add_right _ _)
  · rw [moved]
    exact pending

/-- A live position is read as it was published. -/
theorem PipelineInvariant.slotAt (invariant : PipelineInvariant config pipeline history)
    {frontier : UInt64} {position : ℕ} (same : frontier.toNat = position)
    (live : history.consumed.length ≤ position) (below : position < history.published.length) :
    history.Holds position (pipeline.slotAt frontier) := by
  rw [CommandPipeline.slotAt, same]
  exact invariant.holds position live below

/-- A risk result takes the slot at its frontier. -/
theorem PipelineInvariant.publishRisk (invariant : PipelineInvariant config pipeline history)
    {risk : RiskResult} (decided : risk.decision ≠ .pending)
    (some_due : pipeline.riskChecked ≠ pipeline.durable) :
    PipelineInvariant config
      { pipeline.setSlotAt pipeline.riskChecked
          { pipeline.slotAt pipeline.riskChecked with risk } with
        riskChecked := pipeline.riskChecked + 1 }
      { history with risks := history.risks ++ [risk] } := by
  have due : history.risks.length < pipeline.durable.toNat := by
    refine lt_of_le_of_ne invariant.risk_le fun same => some_due (UInt64.toNat_inj.mp ?_)
    rw [invariant.risk, same]
  have below : history.risks.length < history.published.length := due.trans_le invariant.durable_le
  have live := invariant.tail_le.trans invariant.reserve_le
  have room := invariant.window
  have old := invariant.slotAt invariant.risk live below
  refine ⟨invariant.isOpen, invariant.config, invariant.head, ?_, invariant.reserve, invariant.tail, invariant.tail_le,
    ?_, ?_, invariant.durable_le, invariant.window, ?_, ?_, ?_, invariant.reserves⟩
  · rw [List.length_append, List.length_singleton]
    exact toNat_succ invariant.risk (Nat.lt_of_le_of_lt due pipeline.durable.toNat_lt)
  · rw [List.length_append]
    exact invariant.reserve_le.trans (Nat.le_add_right _ _)
  · rw [List.length_append, List.length_singleton]
    exact due
  · intro position live' below'
    dsimp only at live' below'
    simp only [CommandPipeline.setSlotAt, invariant.risk]
    by_cases here : position = history.risks.length
    · subst here
      rw [SlotRing.read_write]
      refine ⟨old.command, ?_, old.reserve⟩
      rw [List.getElem?_concat_length]
      rfl
    · have kept := invariant.holds position live' below'
      rw [SlotRing.read_write_ne ⟨live, by omega⟩ ⟨live', by omega⟩ here]
      exact ⟨kept.command, kept.risk.trans (by rw [getElem?_concat_of_ne here]), kept.reserve⟩
  · intro position slot there
    have complete := invariant.consumed position slot there
    exact ⟨complete.command, getElem?_concat_some complete.risk, complete.reserve⟩
  · simpa [or_imp, forall_and] using And.intro invariant.risks decided

/-- A reserve result takes the slot at its frontier. -/
theorem PipelineInvariant.publishReserve (invariant : PipelineInvariant config pipeline history)
    {reserve : ReserveResult} (decided : reserve.decision ≠ .pending)
    (some_due : pipeline.reserveChecked ≠ pipeline.riskChecked) :
    PipelineInvariant config
      { pipeline.setSlotAt pipeline.reserveChecked
          { pipeline.slotAt pipeline.reserveChecked with reserve } with
        reserveChecked := pipeline.reserveChecked + 1 }
      { history with reserves := history.reserves ++ [reserve] } := by
  have due : history.reserves.length < history.risks.length := by
    refine lt_of_le_of_ne invariant.reserve_le fun same => some_due (UInt64.toNat_inj.mp ?_)
    rw [invariant.reserve, invariant.risk, same]
  have checked := invariant.risk_le.trans invariant.durable_le
  have live := invariant.tail_le
  have room := invariant.window
  have old := invariant.slotAt invariant.reserve live (due.trans_le checked)
  refine ⟨invariant.isOpen, invariant.config, invariant.head, invariant.risk, ?_, invariant.tail, ?_, ?_,
    invariant.risk_le, invariant.durable_le, invariant.window, ?_, ?_, invariant.risks, ?_⟩
  · rw [List.length_append, List.length_singleton]
    have bound := pipeline.riskChecked.toNat_lt
    rw [invariant.risk] at bound
    exact toNat_succ invariant.reserve (Nat.lt_of_le_of_lt due bound)
  · rw [List.length_append]
    exact invariant.tail_le.trans (Nat.le_add_right _ _)
  · rw [List.length_append, List.length_singleton]
    exact due
  · intro position live' below'
    dsimp only at live' below'
    simp only [CommandPipeline.setSlotAt, invariant.reserve]
    by_cases here : position = history.reserves.length
    · subst here
      rw [SlotRing.read_write]
      refine ⟨old.command, old.risk, ?_⟩
      rw [List.getElem?_concat_length]
      rfl
    · have kept := invariant.holds position live' below'
      rw [SlotRing.read_write_ne ⟨live, by omega⟩ ⟨live', by omega⟩ here]
      exact ⟨kept.command, kept.risk, kept.reserve.trans (by rw [getElem?_concat_of_ne here])⟩
  · intro position slot there
    have complete := invariant.consumed position slot there
    exact ⟨complete.command, complete.risk, getElem?_concat_some complete.reserve⟩
  · simpa [or_imp, forall_and] using And.intro invariant.reserves decided

/-- A consumed slot has all results, and its position is free again. -/
theorem PipelineInvariant.consume (invariant : PipelineInvariant config pipeline history)
    (some_due : pipeline.tail ≠ pipeline.reserveChecked) :
    PipelineInvariant config { pipeline with tail := pipeline.tail + 1 }
      { history with consumed := history.consumed ++ [pipeline.slotAt pipeline.tail] } := by
  have due : history.consumed.length < history.reserves.length := by
    refine lt_of_le_of_ne invariant.tail_le fun same => some_due (UInt64.toNat_inj.mp ?_)
    rw [invariant.tail, invariant.reserve, same]
  have checked := invariant.risk_le.trans invariant.durable_le
  have risked := due.trans_le invariant.reserve_le
  have old := invariant.slotAt invariant.tail le_rfl (risked.trans_le checked)
  refine ⟨invariant.isOpen, invariant.config, invariant.head, invariant.risk, invariant.reserve, ?_, ?_,
    invariant.reserve_le, invariant.risk_le, invariant.durable_le, ?_, ?_, ?_, invariant.risks,
    invariant.reserves⟩
  · rw [List.length_append, List.length_singleton]
    have bound := pipeline.reserveChecked.toNat_lt
    rw [invariant.reserve] at bound
    exact toNat_succ invariant.tail (Nat.lt_of_le_of_lt due bound)
  · rw [List.length_append, List.length_singleton]
    exact due
  · rw [List.length_append, List.length_singleton]
    have window := invariant.window
    dsimp only
    omega
  · intro position live below
    rw [List.length_append, List.length_singleton] at live
    have kept := invariant.holds position (by omega) below
    exact ⟨kept.command, kept.risk, kept.reserve⟩
  · intro position slot there
    by_cases last : position = history.consumed.length
    · subst last
      rw [List.getElem?_concat_length, Option.some_inj] at there
      subst there
      refine ⟨old.command, ?_, ?_⟩
      · rw [old.risk, List.getElem?_eq_getElem risked]
        rfl
      · rw [old.reserve, List.getElem?_eq_getElem due]
        rfl
    · rw [getElem?_concat_of_ne last] at there
      have complete := invariant.consumed position slot there
      exact ⟨complete.command, complete.risk, complete.reserve⟩

/-- The live cursor and the failure flag are no part of it. -/
theorem PipelineInvariant.cursor (invariant : PipelineInvariant config pipeline history)
    (nextLiveSequence : CommandSequence) (sequenceExhausted persistenceFailed : Bool) :
    PipelineInvariant config { pipeline with nextLiveSequence, sequenceExhausted, persistenceFailed }
      history :=
  ⟨invariant.isOpen, invariant.config, invariant.head, invariant.risk, invariant.reserve, invariant.tail,
    invariant.tail_le, invariant.reserve_le, invariant.risk_le, invariant.durable_le,
    invariant.window, invariant.holds, invariant.consumed, invariant.risks, invariant.reserves⟩

end Steps

/-! ### What a call does -/

namespace CommandPipeline
variable (pipeline : CommandPipeline)

/-- A publication is refused and changes nothing, or takes the head's slot. -/
theorem tryPublishEnvelope_cases (command : CommandEnvelope) :
    ((pipeline.tryPublishEnvelope command).1.status ≠ .ok ∧
      (pipeline.tryPublishEnvelope command).2 = pipeline) ∨
    (pipeline.head - pipeline.tail ≠ pipeline.config.capacity.toUInt64 ∧
      pipeline.tryPublishEnvelope command =
        ({ status := .ok, sequence := command.commandSequence, frontier := pipeline.head + 1 },
          { pipeline.setSlotAt pipeline.head { command } with head := pipeline.head + 1 })) := by
  unfold tryPublishEnvelope
  split_ifs with closed failed full
  · exact .inl ⟨nofun, rfl⟩
  · exact .inl ⟨nofun, rfl⟩
  · exact .inl ⟨nofun, rfl⟩
  · exact .inr ⟨full, rfl⟩

theorem tryReplay_cases (command : CommandEnvelope) :
    ((pipeline.tryReplay command).1.status ≠ .ok ∧ (pipeline.tryReplay command).2 = pipeline) ∨
    (pipeline.head - pipeline.tail ≠ pipeline.config.capacity.toUInt64 ∧
      pipeline.tryReplay command =
        ({ status := .ok, sequence := command.commandSequence, frontier := pipeline.head + 1 },
          { pipeline.setSlotAt pipeline.head { command } with head := pipeline.head + 1 })) := by
  unfold tryReplay
  split_ifs
  · exact .inl ⟨nofun, rfl⟩
  · exact .inl ⟨nofun, rfl⟩
  · exact .inl ⟨nofun, rfl⟩
  · exact pipeline.tryPublishEnvelope_cases command

/-- A live publication also moves the live cursor. -/
theorem tryPublish_cases (payload : CommandWalPayload) :
    ((pipeline.tryPublish payload).1.status ≠ .ok ∧ (pipeline.tryPublish payload).2 = pipeline) ∨
    (pipeline.head - pipeline.tail ≠ pipeline.config.capacity.toUInt64 ∧
      ∃ nextLiveSequence sequenceExhausted,
        pipeline.tryPublish payload =
          ({ status := .ok, sequence := pipeline.nextLiveSequence, frontier := pipeline.head + 1 },
            { pipeline.setSlotAt pipeline.head { command := ⟨pipeline.nextLiveSequence, payload⟩ } with
              head := pipeline.head + 1, nextLiveSequence, sequenceExhausted })) := by
  unfold tryPublish
  split_ifs with closed failed exhausted
  · exact .inl ⟨nofun, rfl⟩
  · exact .inl ⟨nofun, rfl⟩
  · exact .inl ⟨nofun, rfl⟩
  · rcases pipeline.tryPublishEnvelope_cases ⟨pipeline.nextLiveSequence, payload⟩ with
      ⟨refused, same⟩ | ⟨room, published⟩
    · left
      simp only [refused, same, ne_eq, not_false_eq_true, if_true, and_self]
    · refine .inr ⟨room, ?_⟩
      simp only [published, ne_eq, not_true_eq_false, if_false]
      split_ifs
      · exact ⟨_, _, rfl⟩
      · exact ⟨_, _, rfl⟩

theorem publishDurable_cases (count : UInt32) :
    ((pipeline.publishDurable count).1.status ≠ .ok ∧
      (pipeline.publishDurable count).2 = pipeline) ∨
    (¬ pipeline.persistenceFailed ∧ count ≠ 0 ∧
      ¬ pipeline.head - pipeline.durable < count.toUInt64 ∧
      (pipeline.publishDurable count).2 =
        { pipeline with durable := pipeline.durable + count.toUInt64 }) := by
  unfold publishDurable
  split_ifs with closed failed zero beyond
  · exact .inl ⟨nofun, rfl⟩
  · exact .inl ⟨nofun, rfl⟩
  · exact .inl ⟨nofun, rfl⟩
  · exact .inl ⟨nofun, rfl⟩
  · exact .inr ⟨failed, zero, beyond, rfl⟩

theorem publishRisk_cases (risk : RiskResult) :
    ((pipeline.publishRisk risk).1.status ≠ .ok ∧ (pipeline.publishRisk risk).2 = pipeline) ∨
    ((pipeline.publishRisk risk).1.status = .ok ∧ risk.decision ≠ .pending ∧
      pipeline.riskChecked ≠ pipeline.durable ∧
      (pipeline.publishRisk risk).2 =
        { pipeline.setSlotAt pipeline.riskChecked
            { pipeline.slotAt pipeline.riskChecked with risk } with
          riskChecked := pipeline.riskChecked + 1 }) := by
  unfold publishRisk
  split_ifs with closed pending none_due
  · exact .inl ⟨nofun, rfl⟩
  · exact .inl ⟨nofun, rfl⟩
  · exact .inl ⟨nofun, rfl⟩
  · exact .inr ⟨rfl, pending, none_due, rfl⟩

theorem publishReserve_cases (reserve : ReserveResult) :
    ((pipeline.publishReserve reserve).1.status ≠ .ok ∧
      (pipeline.publishReserve reserve).2 = pipeline) ∨
    ((pipeline.publishReserve reserve).1.status = .ok ∧ reserve.decision ≠ .pending ∧
      pipeline.reserveChecked ≠ pipeline.riskChecked ∧
      (pipeline.publishReserve reserve).2 =
        { pipeline.setSlotAt pipeline.reserveChecked
            { pipeline.slotAt pipeline.reserveChecked with reserve } with
          reserveChecked := pipeline.reserveChecked + 1 }) := by
  unfold publishReserve
  split_ifs with closed pending none_due
  · exact .inl ⟨nofun, rfl⟩
  · exact .inl ⟨nofun, rfl⟩
  · exact .inl ⟨nofun, rfl⟩
  · exact .inr ⟨rfl, pending, none_due, rfl⟩

theorem tryConsume_cases :
    pipeline.tryConsume.2 = (none, pipeline) ∨
    (pipeline.tail ≠ pipeline.reserveChecked ∧
      pipeline.tryConsume.2 =
        (some (pipeline.slotAt pipeline.tail), { pipeline with tail := pipeline.tail + 1 })) := by
  unfold tryConsume
  split_ifs with closed none_due
  · exact .inl rfl
  · exact .inl rfl
  · exact .inr ⟨none_due, rfl⟩

end CommandPipeline

/-- Publications are never taken back. -/
theorem PipelineHistory.published_grows (history : PipelineHistory) (call : PipelineCall)
    (answer : PipelineAnswer) :
    history.published.length ≤ (history.note call answer).published.length := by
  unfold PipelineHistory.note
  split
  all_goals first | rfl | split_ifs
  all_goals simp

/-- Every call keeps the invariant. -/
theorem PipelineInvariant.call {config : CommandPipelineConfig} {noted : NotedPipeline}
    (invariant : PipelineInvariant config noted.pipeline noted.history) (call : PipelineCall)
    (fits : (noted.call call).2.history.published.length < 2 ^ 64) :
    PipelineInvariant config (noted.call call).2.pipeline (noted.call call).2.history := by
  obtain ⟨pipeline, history⟩ := noted
  cases call with
  | «open» config allocated =>
    have opened : pipeline.open config allocated = (.alreadyOpen, pipeline) := by
      rw [CommandPipeline.open, if_pos invariant.isOpen]
    simp only [NotedPipeline.call, CommandPipeline.call, opened]
    exact invariant
  | tryPublish payload =>
    rcases pipeline.tryPublish_cases payload with ⟨refused, same⟩ | ⟨room, _, _, published⟩
    · simp only [NotedPipeline.call, CommandPipeline.call, PipelineHistory.note, refused, same,
        if_false]
      exact invariant
    · simp only [NotedPipeline.call, CommandPipeline.call, PipelineHistory.note, published,
        if_true, List.length_append, List.length_singleton] at fits ⊢
      exact (invariant.publish _ room fits).cursor _ _ _
  | tryReplay command =>
    rcases pipeline.tryReplay_cases command with ⟨refused, same⟩ | ⟨room, published⟩
    · simp only [NotedPipeline.call, CommandPipeline.call, PipelineHistory.note, refused, same,
        if_false]
      exact invariant
    · simp only [NotedPipeline.call, CommandPipeline.call, PipelineHistory.note, published,
        if_true, List.length_append, List.length_singleton] at fits ⊢
      exact invariant.publish _ room fits
  | restoreLiveSequence nextSequence =>
    simp only [NotedPipeline.call, CommandPipeline.call, CommandPipeline.restoreLiveSequence]
    split_ifs
    · exact invariant
    · exact invariant
    · exact invariant.cursor _ _ _
  | copyPendingForPersistence batchOffset => exact invariant
  | publishDurable count =>
    rcases pipeline.publishDurable_cases count with ⟨_, same⟩ | ⟨_, _, due, moved⟩
    · simp only [NotedPipeline.call, CommandPipeline.call, same]
      exact invariant
    · simp only [NotedPipeline.call, CommandPipeline.call, moved]
      exact invariant.durable_moves due
  | failPersistence =>
    simp only [NotedPipeline.call, CommandPipeline.call, CommandPipeline.failPersistence]
    split_ifs
    · exact invariant
    · exact invariant.cursor _ _ _
  | tryReadForRisk => exact invariant
  | publishRisk risk =>
    rcases pipeline.publishRisk_cases risk with ⟨refused, same⟩ | ⟨accepted, decided, due, moved⟩
    · simp only [NotedPipeline.call, CommandPipeline.call, PipelineHistory.note, refused, same,
        if_false]
      exact invariant
    · simp only [NotedPipeline.call, CommandPipeline.call, PipelineHistory.note, accepted, moved,
        if_true]
      exact invariant.publishRisk decided due
  | tryReadForReserve => exact invariant
  | publishReserve reserve =>
    rcases pipeline.publishReserve_cases reserve with
      ⟨refused, same⟩ | ⟨accepted, decided, due, moved⟩
    · simp only [NotedPipeline.call, CommandPipeline.call, PipelineHistory.note, refused, same,
        if_false]
      exact invariant
    · simp only [NotedPipeline.call, CommandPipeline.call, PipelineHistory.note, accepted, moved,
        if_true]
      exact invariant.publishReserve decided due
  | tryConsume =>
    rcases pipeline.tryConsume_cases with same | ⟨due, moved⟩
    · simp only [NotedPipeline.call, CommandPipeline.call, PipelineHistory.note, same]
      exact invariant
    · simp only [NotedPipeline.call, CommandPipeline.call, PipelineHistory.note, moved]
      exact invariant.consume due

/-! ### Runs -/

/-- A pipeline that could be opened starts with nothing published. -/
theorem PipelineInvariant.opened {config : CommandPipelineConfig} {allocated : Bool}
    {pipeline : CommandPipeline}
    (opened : ({} : CommandPipeline).open config allocated = (.ok, pipeline)) :
    PipelineInvariant config pipeline {} := by
  rw [CommandPipeline.open, if_neg Bool.false_ne_true] at opened
  split_ifs at opened
  all_goals cases opened
  refine ⟨rfl, rfl, rfl, rfl, rfl, rfl, le_rfl, le_rfl, le_rfl, le_rfl, Nat.zero_le _,
    ?_, ?_, nofun, nofun⟩
  · intro position _ below
    exact absurd below (Nat.not_lt_zero _)
  · intro position slot there
    cases there

/-- The invariant holds along every run that publishes fewer than `2 ^ 64` commands. -/
theorem PipelineInvariant.run {config : CommandPipelineConfig} {noted : NotedPipeline}
    {calls : List PipelineCall} (invariant : PipelineInvariant config noted.pipeline noted.history)
    (fits : (final NotedPipeline.call noted calls).history.published.length < 2 ^ 64) :
    PipelineInvariant config (final NotedPipeline.call noted calls).pipeline
      (final NotedPipeline.call noted calls).history := by
  refine final_invariant (P := fun noted : NotedPipeline =>
    noted.history.published.length < 2 ^ 64 →
      PipelineInvariant config noted.pipeline noted.history) ?_ (fun _ => invariant) fits
  intro noted call kept fits
  exact (kept (Nat.lt_of_le_of_lt (noted.history.published_grows call _) fits)).call call fits

theorem NotedPipeline.published_grows (noted : NotedPipeline) (calls : List PipelineCall) :
    noted.history.published.length ≤
      (final NotedPipeline.call noted calls).history.published.length :=
  final_invariant (P := fun after : NotedPipeline =>
      noted.history.published.length ≤ after.history.published.length)
    (fun after call grown => grown.trans (after.history.published_grows call _)) le_rfl

/-- What a state of the pipeline promises its roles. -/
structure PipelineSafe (config : CommandPipelineConfig) (pipeline : CommandPipeline)
    (history : PipelineHistory) : Prop where
  ordered : pipeline.tail ≤ pipeline.reserveChecked ∧
    pipeline.reserveChecked ≤ pipeline.riskChecked ∧ pipeline.riskChecked ≤ pipeline.durable ∧
    pipeline.durable ≤ pipeline.head
  bounded : pipeline.head - pipeline.tail ≤ config.capacity.toUInt64
  counted : pipeline.head.toNat = history.published.length ∧
    pipeline.riskChecked.toNat = history.risks.length ∧
    pipeline.reserveChecked.toNat = history.reserves.length ∧
    pipeline.tail.toNat = history.consumed.length
  consumed : ∀ position slot, history.consumed[position]? = some slot →
    history.Completes position slot
  decided : ∀ slot ∈ history.consumed,
    slot.risk.decision ≠ .pending ∧ slot.reserve.decision ≠ .pending
  pending : ∀ offset, ¬ pipeline.persistenceFailed →
    ((pipeline.copyPendingForPersistence offset).1.status = .ok ↔
      pipeline.durable.toNat + offset.toNat < history.published.length) ∧
    (pipeline.copyPendingForPersistence offset).2 =
      history.published[pipeline.durable.toNat + offset.toNat]?
  forRisk : ∀ command, pipeline.tryReadForRisk.2 = some command →
    history.published[history.risks.length]? = some command
  forReserve : ∀ command risk, pipeline.tryReadForReserve.2 = some (command, risk) →
    history.published[history.reserves.length]? = some command ∧
      history.risks[history.reserves.length]? = some risk

section Safe
variable {config : CommandPipelineConfig} {pipeline : CommandPipeline} {history : PipelineHistory}

/-- Persistence copies what was published behind the durable frontier. -/
theorem PipelineInvariant.pending (invariant : PipelineInvariant config pipeline history)
    (offset : UInt32) (healthy : ¬ pipeline.persistenceFailed) :
    ((pipeline.copyPendingForPersistence offset).1.status = .ok ↔
      pipeline.durable.toNat + offset.toNat < history.published.length) ∧
    (pipeline.copyPendingForPersistence offset).2 =
      history.published[pipeline.durable.toNat + offset.toNat]? := by
  have bound := pipeline.head.toNat_lt
  have closed : ¬ (!pipeline.isOpen) := by simp [invariant.isOpen]
  have position : (pipeline.durable + offset.toUInt64).toNat =
      (pipeline.durable.toNat + offset.toNat) % 2 ^ 64 := by
    rw [UInt64.toNat_add, UInt32.toNat_toUInt64]
  by_cases inside : pipeline.durable.toNat + offset.toNat < history.published.length
  · have live : history.consumed.length ≤ pipeline.durable.toNat + offset.toNat :=
      ((invariant.tail_le.trans invariant.reserve_le).trans invariant.risk_le).trans
        (Nat.le_add_right _ _)
    rw [Nat.mod_eq_of_lt (by rw [invariant.head] at bound; omega)] at position
    have held := invariant.slotAt position live inside
    have there : ¬ (decide (pipeline.durable + offset.toUInt64 < pipeline.durable) ||
        decide (pipeline.head ≤ pipeline.durable + offset.toUInt64)) := by
      simp only [Bool.or_eq_true, decide_eq_true_eq, UInt64.lt_iff_toNat_lt,
        UInt64.le_iff_toNat_le, position, invariant.head]
      omega
    unfold CommandPipeline.copyPendingForPersistence
    rw [if_neg closed, if_neg healthy, if_neg there]
    exact ⟨⟨fun _ => inside, fun _ => rfl⟩, held.command.symm⟩
  · have beyond : decide (pipeline.durable + offset.toUInt64 < pipeline.durable) ||
        decide (pipeline.head ≤ pipeline.durable + offset.toUInt64) := by
      have := offset.toNat_lt
      have := pipeline.durable.toNat_lt
      simp only [Bool.or_eq_true, decide_eq_true_eq, UInt64.lt_iff_toNat_lt,
        UInt64.le_iff_toNat_le, position, invariant.head]
      omega
    unfold CommandPipeline.copyPendingForPersistence
    rw [if_neg closed, if_neg healthy, if_pos beyond]
    refine ⟨⟨nofun, fun below => absurd below inside⟩, ?_⟩
    rw [List.getElem?_eq_none (Nat.le_of_not_lt inside)]

/-- The risk stage reads the next command that has no risk result. -/
theorem PipelineInvariant.forRisk (invariant : PipelineInvariant config pipeline history)
    {command : CommandEnvelope} (read : pipeline.tryReadForRisk.2 = some command) :
    history.published[history.risks.length]? = some command := by
  unfold CommandPipeline.tryReadForRisk at read
  split_ifs at read with closed none_due
  have due : history.risks.length < pipeline.durable.toNat := by
    refine lt_of_le_of_ne invariant.risk_le fun same => none_due (UInt64.toNat_inj.mp ?_)
    rw [invariant.risk, same]
  cases read
  exact (invariant.slotAt invariant.risk (invariant.tail_le.trans invariant.reserve_le)
    (due.trans_le invariant.durable_le)).command

/-- The reserve stage reads the next command that has a risk result only. -/
theorem PipelineInvariant.forReserve (invariant : PipelineInvariant config pipeline history)
    {command : CommandEnvelope} {risk : RiskResult}
    (read : pipeline.tryReadForReserve.2 = some (command, risk)) :
    history.published[history.reserves.length]? = some command ∧
      history.risks[history.reserves.length]? = some risk := by
  unfold CommandPipeline.tryReadForReserve at read
  split_ifs at read with closed none_due
  have due : history.reserves.length < history.risks.length := by
    refine lt_of_le_of_ne invariant.reserve_le fun same => none_due (UInt64.toNat_inj.mp ?_)
    rw [invariant.reserve, invariant.risk, same]
  have held := invariant.slotAt invariant.reserve invariant.tail_le
    (due.trans_le (invariant.risk_le.trans invariant.durable_le))
  cases read
  refine ⟨held.command, ?_⟩
  rw [held.risk, List.getElem?_eq_getElem due]
  rfl

/-- The invariant is what the roles rely on. -/
theorem PipelineInvariant.safe (invariant : PipelineInvariant config pipeline history) :
    PipelineSafe config pipeline history := by
  have tail_le := invariant.tail_le
  have reserve_le := invariant.reserve_le
  have risk_le := invariant.risk_le
  have durable_le := invariant.durable_le
  have window := invariant.window
  refine ⟨?_, ?_, ⟨invariant.head, invariant.risk, invariant.reserve, invariant.tail⟩,
    invariant.consumed, ?_, invariant.pending, fun _ => invariant.forRisk,
    fun _ _ => invariant.forReserve⟩
  · simp only [UInt64.le_iff_toNat_le, invariant.head, invariant.risk, invariant.reserve,
      invariant.tail]
    exact ⟨tail_le, reserve_le, risk_le, durable_le⟩
  · rw [UInt64.le_iff_toNat_le, UInt64.toNat_sub_of_le, invariant.head, invariant.tail,
      UInt32.toNat_toUInt64, ← invariant.config]
    · omega
    · rw [UInt64.le_iff_toNat_le, invariant.head, invariant.tail]
      omega
  · intro slot member
    obtain ⟨position, _, there⟩ := List.mem_iff_getElem.mp member
    have complete := invariant.consumed position slot (List.getElem?_eq_some_iff.mpr ⟨_, there⟩)
    exact ⟨invariant.risks _ (List.mem_of_getElem? complete.risk),
      invariant.reserves _ (List.mem_of_getElem? complete.reserve)⟩

end Safe

/-! ### A persistence failure -/

/-- The producer and persistence get no further. -/
structure CommandPipeline.Refuses (pipeline : CommandPipeline) : Prop where
  tryPublish : ∀ payload, pipeline.tryPublish payload = ({ status := .persistenceFailed }, pipeline)
  tryReplay : ∀ command, pipeline.tryReplay command = ({ status := .persistenceFailed }, pipeline)
  copyPending : ∀ offset,
    pipeline.copyPendingForPersistence offset = ({ status := .persistenceFailed }, none)
  publishDurable : ∀ count,
    pipeline.publishDurable count = ({ status := .persistenceFailed }, pipeline)

theorem CommandPipeline.refuses {pipeline : CommandPipeline} (isOpen : pipeline.isOpen)
    (failed : pipeline.persistenceFailed) : pipeline.Refuses := by
  have closed : ¬ (!pipeline.isOpen) := by simp [isOpen]
  constructor
  · intro payload
    rw [CommandPipeline.tryPublish, if_neg closed, if_pos failed]
  · intro command
    rw [CommandPipeline.tryReplay, if_neg closed, if_pos failed]
  · intro offset
    rw [CommandPipeline.copyPendingForPersistence, if_neg closed, if_pos failed]
  · intro count
    rw [CommandPipeline.publishDurable, if_neg closed, if_pos failed]

/-- The failure stays, and with it what was published and what is durable. -/
structure NotedPipeline.Stopped (before after : NotedPipeline) : Prop where
  isOpen : after.pipeline.isOpen
  failed : after.pipeline.persistenceFailed
  head : after.pipeline.head = before.pipeline.head
  durable : after.pipeline.durable = before.pipeline.durable
  published : after.history.published = before.history.published

/-- No call of any role ends a failure. -/
theorem NotedPipeline.Stopped.call {before after : NotedPipeline} (stopped : before.Stopped after)
    (call : PipelineCall) : before.Stopped (after.call call).2 := by
  obtain ⟨pipeline, history⟩ := after
  obtain ⟨isOpen, failed, head, durable, published⟩ := stopped
  have refuses := CommandPipeline.refuses isOpen failed
  cases call with
  | «open» config allocated =>
    have opened : pipeline.open config allocated = (.alreadyOpen, pipeline) := by
      rw [CommandPipeline.open, if_pos isOpen]
    simp only [NotedPipeline.call, CommandPipeline.call, opened]
    exact ⟨isOpen, failed, head, durable, published⟩
  | tryPublish payload =>
    simp only [NotedPipeline.call, CommandPipeline.call, refuses.tryPublish]
    exact ⟨isOpen, failed, head, durable, published⟩
  | tryReplay command =>
    simp only [NotedPipeline.call, CommandPipeline.call, refuses.tryReplay]
    exact ⟨isOpen, failed, head, durable, published⟩
  | restoreLiveSequence nextSequence =>
    simp only [NotedPipeline.call, CommandPipeline.call, CommandPipeline.restoreLiveSequence]
    split_ifs
    all_goals exact ⟨isOpen, failed, head, durable, published⟩
  | copyPendingForPersistence batchOffset => exact ⟨isOpen, failed, head, durable, published⟩
  | publishDurable count =>
    simp only [NotedPipeline.call, CommandPipeline.call, refuses.publishDurable]
    exact ⟨isOpen, failed, head, durable, published⟩
  | failPersistence =>
    simp only [NotedPipeline.call, CommandPipeline.call, CommandPipeline.failPersistence]
    split_ifs
    · exact ⟨isOpen, failed, head, durable, published⟩
    · exact ⟨isOpen, rfl, head, durable, published⟩
  | tryReadForRisk => exact ⟨isOpen, failed, head, durable, published⟩
  | publishRisk risk =>
    rcases pipeline.publishRisk_cases risk with ⟨refused, same⟩ | ⟨accepted, _, _, moved⟩
    · simp only [NotedPipeline.call, CommandPipeline.call, PipelineHistory.note, refused, same,
        if_false]
      exact ⟨isOpen, failed, head, durable, published⟩
    · simp only [NotedPipeline.call, CommandPipeline.call, PipelineHistory.note, accepted, moved,
        if_true]
      exact ⟨isOpen, failed, head, durable, published⟩
  | tryReadForReserve => exact ⟨isOpen, failed, head, durable, published⟩
  | publishReserve reserve =>
    rcases pipeline.publishReserve_cases reserve with ⟨refused, same⟩ | ⟨accepted, _, _, moved⟩
    · simp only [NotedPipeline.call, CommandPipeline.call, PipelineHistory.note, refused, same,
        if_false]
      exact ⟨isOpen, failed, head, durable, published⟩
    · simp only [NotedPipeline.call, CommandPipeline.call, PipelineHistory.note, accepted, moved,
        if_true]
      exact ⟨isOpen, failed, head, durable, published⟩
  | tryConsume =>
    rcases pipeline.tryConsume_cases with same | ⟨_, moved⟩
    · simp only [NotedPipeline.call, CommandPipeline.call, PipelineHistory.note, same]
      exact ⟨isOpen, failed, head, durable, published⟩
    · simp only [NotedPipeline.call, CommandPipeline.call, PipelineHistory.note, moved]
      exact ⟨isOpen, failed, head, durable, published⟩

theorem NotedPipeline.Stopped.run {before after : NotedPipeline} (stopped : before.Stopped after)
    (calls : List PipelineCall) : before.Stopped (final NotedPipeline.call after calls) :=
  final_invariant (fun _ call stopped => NotedPipeline.Stopped.call stopped call) stopped

/-- The failure starts with the call, whatever came before it. -/
theorem NotedPipeline.Stopped.start {noted : NotedPipeline} (isOpen : noted.pipeline.isOpen) :
    noted.Stopped (noted.call .failPersistence).2 := by
  have closed : ¬ (!noted.pipeline.isOpen) := by simp [isOpen]
  simp only [NotedPipeline.call, CommandPipeline.call, CommandPipeline.failPersistence,
    if_neg closed]
  exact ⟨isOpen, rfl, rfl, rfl, rfl⟩

/-- The three roles behind persistence. -/
def drainCalls (risk : RiskResult) (reserve : ReserveResult) : List PipelineCall :=
  [.publishRisk risk, .publishReserve reserve, .tryConsume]

/-- The durable commands that are not consumed yet leave the pipeline in three steps each. -/
def NotedPipeline.due (noted : NotedPipeline) : ℕ :=
  3 * noted.pipeline.durable.toNat -
    (noted.history.risks.length + noted.history.reserves.length + noted.history.consumed.length)

theorem CommandPipeline.publishRisk_ok {pipeline : CommandPipeline} {risk : RiskResult}
    (isOpen : pipeline.isOpen) (decided : risk.decision ≠ .pending)
    (some_due : pipeline.riskChecked ≠ pipeline.durable) :
    (pipeline.publishRisk risk).1.status = .ok := by
  rw [CommandPipeline.publishRisk, if_neg (by simp [isOpen]), if_neg decided, if_neg some_due]

theorem CommandPipeline.publishReserve_ok {pipeline : CommandPipeline} {reserve : ReserveResult}
    (isOpen : pipeline.isOpen) (decided : reserve.decision ≠ .pending)
    (some_due : pipeline.reserveChecked ≠ pipeline.riskChecked) :
    (pipeline.publishReserve reserve).1.status = .ok := by
  rw [CommandPipeline.publishReserve, if_neg (by simp [isOpen]), if_neg decided, if_neg some_due]

theorem CommandPipeline.tryConsume_ok {pipeline : CommandPipeline} (isOpen : pipeline.isOpen)
    (some_due : pipeline.tail ≠ pipeline.reserveChecked) :
    pipeline.tryConsume.2 =
      (some (pipeline.slotAt pipeline.tail), { pipeline with tail := pipeline.tail + 1 }) := by
  rw [CommandPipeline.tryConsume, if_neg (by simp [isOpen]), if_neg some_due]

section Drain
variable {config : CommandPipelineConfig} {noted : NotedPipeline} {risk : RiskResult}
  {reserve : ReserveResult}

/-- While a durable command is left, one of the three roles gets further. -/
theorem PipelineInvariant.drain_step
    (invariant : PipelineInvariant config noted.pipeline noted.history)
    (risk_decided : risk.decision ≠ .pending) (reserve_decided : reserve.decision ≠ .pending)
    (left : noted.pipeline.tail ≠ noted.pipeline.durable) :
    ∃ call ∈ drainCalls risk reserve,
      (noted.call call).2.pipeline.durable = noted.pipeline.durable ∧
      (noted.call call).2.history.published = noted.history.published ∧
      (noted.call call).2.due < noted.due := by
  obtain ⟨pipeline, history⟩ := noted
  have tail_le := invariant.tail_le
  have reserve_le := invariant.reserve_le
  have risk_le := invariant.risk_le
  by_cases risk_due : pipeline.riskChecked = pipeline.durable
  · by_cases reserve_due : pipeline.reserveChecked = pipeline.riskChecked
    · have tail_due : pipeline.tail ≠ pipeline.reserveChecked := by
        rw [reserve_due, risk_due]
        exact left
      have consumes := CommandPipeline.tryConsume_ok invariant.isOpen tail_due
      refine ⟨.tryConsume, by simp [drainCalls], ?_⟩
      have some_left : history.consumed.length < pipeline.durable.toNat := by
        refine lt_of_le_of_ne (by dsimp only at *; omega) fun same => left (UInt64.toNat_inj.mp ?_)
        rw [invariant.tail, ← same]
      simp only [NotedPipeline.due, NotedPipeline.call, CommandPipeline.call, PipelineHistory.note,
        consumes, List.length_append, List.length_singleton, true_and]
      dsimp only at *
      omega
    · have accepted := CommandPipeline.publishReserve_ok invariant.isOpen reserve_decided reserve_due
      rcases pipeline.publishReserve_cases reserve with ⟨refused, _⟩ | ⟨_, _, _, moved⟩
      · exact absurd accepted refused
      · refine ⟨.publishReserve reserve, by simp [drainCalls], ?_⟩
        have some_left : history.reserves.length < history.risks.length := by
          refine lt_of_le_of_ne reserve_le fun same => reserve_due (UInt64.toNat_inj.mp ?_)
          exact invariant.reserve.trans (same.trans invariant.risk.symm)
        simp only [NotedPipeline.due, NotedPipeline.call, CommandPipeline.call,
          PipelineHistory.note, accepted, moved, if_true, List.length_append,
          List.length_singleton, CommandPipeline.setSlotAt, true_and]
        dsimp only at *
        omega
  · have accepted := CommandPipeline.publishRisk_ok invariant.isOpen risk_decided risk_due
    rcases pipeline.publishRisk_cases risk with ⟨refused, _⟩ | ⟨_, _, _, moved⟩
    · exact absurd accepted refused
    · refine ⟨.publishRisk risk, by simp [drainCalls], ?_⟩
      have some_left : history.risks.length < pipeline.durable.toNat := by
        refine lt_of_le_of_ne risk_le fun same => risk_due (UInt64.toNat_inj.mp ?_)
        exact invariant.risk.trans same
      simp only [NotedPipeline.due, NotedPipeline.call, CommandPipeline.call, PipelineHistory.note,
        accepted, moved, if_true, List.length_append, List.length_singleton,
        CommandPipeline.setSlotAt, true_and]
      dsimp only at *
      omega

/-- The three roles alone empty the pipeline up to the durable frontier. -/
theorem PipelineInvariant.drain
    (invariant : PipelineInvariant config noted.pipeline noted.history)
    (fits : noted.history.published.length < 2 ^ 64)
    (risk_decided : risk.decision ≠ .pending) (reserve_decided : reserve.decision ≠ .pending) :
    ∃ calls, (∀ call ∈ calls, call ∈ drainCalls risk reserve) ∧
      (final NotedPipeline.call noted calls).pipeline.tail = noted.pipeline.durable := by
  induction due : noted.due using Nat.strong_induction_on generalizing noted with
  | _ count ih =>
    by_cases left : noted.pipeline.tail = noted.pipeline.durable
    · exact ⟨[], nofun, left⟩
    · obtain ⟨call, drains, durable, published, fewer⟩ :=
        invariant.drain_step risk_decided reserve_decided left
      have fits_after : (noted.call call).2.history.published.length < 2 ^ 64 := by
        rw [published]
        exact fits
      obtain ⟨calls, all_drain, drained⟩ :=
        ih _ (due ▸ fewer) (invariant.call call fits_after) fits_after rfl
      exact ⟨call :: calls, List.forall_mem_cons.mpr ⟨drains, all_drain⟩, drained.trans durable⟩

end Drain

/-- What holds behind a call of `failPersistence` for the rest of the run. -/
structure NotedPipeline.Terminal (before after : NotedPipeline) : Prop where
  stopped : before.Stopped after
  refuses : after.pipeline.Refuses
  drains : ∀ risk reserve, risk.decision ≠ .pending → reserve.decision ≠ .pending →
    ∃ calls, (∀ call ∈ calls, call ∈ drainCalls risk reserve) ∧
      (final NotedPipeline.call after calls).pipeline.tail = before.pipeline.durable

/-- Every run of the roles, in any order, keeps the pipeline safe, and a failure of
persistence is terminal while the durable commands still leave. -/
theorem command_pipeline_safe {config : CommandPipelineConfig} {allocated : Bool}
    {pipeline : CommandPipeline}
    (opened : ({} : CommandPipeline).open config allocated = (.ok, pipeline))
    (calls : List PipelineCall)
    (fits : (final NotedPipeline.call { pipeline } calls).history.published.length < 2 ^ 64) :
    PipelineSafe config (final NotedPipeline.call { pipeline } calls).pipeline
        (final NotedPipeline.call { pipeline } calls).history ∧
      ∀ earlier later, calls = earlier ++ .failPersistence :: later →
        (final NotedPipeline.call { pipeline } earlier).Terminal
          (final NotedPipeline.call { pipeline } calls) := by
  have opens : PipelineInvariant config ({ pipeline } : NotedPipeline).pipeline {} :=
    .opened opened
  have reached := opens.run fits
  refine ⟨reached.safe, ?_⟩
  rintro earlier later rfl
  rw [final_append] at reached fits ⊢
  have before := opens.run (Nat.lt_of_le_of_lt (NotedPipeline.published_grows _ _) fits)
  have stopped := (NotedPipeline.Stopped.start before.isOpen).run later
  refine ⟨stopped, CommandPipeline.refuses stopped.isOpen stopped.failed, ?_⟩
  intro risk reserve risk_decided reserve_decided
  rw [← stopped.durable]
  exact reached.drain fits risk_decided reserve_decided

/-- One slot, used twice: its second command is durable when persistence fails. -/
def oneSlotCalls : List PipelineCall :=
  [.tryPublish { message := .saveSnapshot }, .publishDurable 1,
    .publishRisk { decision := .accepted }, .publishReserve { decision := .accepted }, .tryConsume,
    .tryReplay ⟨7, { message := .saveSnapshot }⟩, .publishDurable 1, .failPersistence,
    .tryPublish { message := .saveSnapshot }]

theorem command_pipeline_safe_one_slot :
    PipelineSafe { capacity := 1 }
        (final NotedPipeline.call { pipeline := (({} : CommandPipeline).open { capacity := 1 } true).2 }
          oneSlotCalls).pipeline
        (final NotedPipeline.call { pipeline := (({} : CommandPipeline).open { capacity := 1 } true).2 }
          oneSlotCalls).history ∧
      ((final NotedPipeline.call { pipeline := (({} : CommandPipeline).open { capacity := 1 } true).2 }
        oneSlotCalls).history.published.map (·.commandSequence)) = [1, 7] :=
  have opened : ({} : CommandPipeline).open { capacity := 1 } true =
    (.ok, (({} : CommandPipeline).open { capacity := 1 } true).2) := rfl
  ⟨(command_pipeline_safe opened oneSlotCalls (by decide)).1, by decide⟩

end Fexma
