import Fexma.Matcher.PipelineInterleaving

/-! The calls of the command pipeline on their threads. Each program is proved against what the
other roles may do between two of its accesses; together they are safe in every interleaving. -/
namespace Fexma

open Interleaving Transducer

namespace SharedPipeline

/-! ### What a role may do sooner -/

section Sooner
variable {before after : SharedPipeline} {role : PipelineRole} {position frontier : UInt64}
variable {written : CommandRingSlot}

theorem owns_write {place : ℕ} :
    ({ before with pipeline := before.pipeline.setSlotAt position written } : SharedPipeline).Owns
      role place ↔ before.Owns role place := by
  cases role <;> rfl

theorem Rely.write (rely : Rely role before after) :
    Rely role { before with pipeline := before.pipeline.setSlotAt position written }
      { after with pipeline := after.pipeline.setSlotAt position written } := by
  constructor
  case config => exact rely.config
  case frontier =>
    have same := rely.frontier
    cases role <;> exact same
  case seen => exact rely.seen
  case slot =>
    intro place owns
    have here := rely.slot place (owns_write.mp owns)
    by_cases same : place % before.pipeline.config.capacity.toNat =
        position.toNat % before.pipeline.config.capacity.toNat
    · rw [slot_write same, slot_write (by rw [rely.config]; exact same)]
    · rw [slot_write_ne same, slot_write_ne (by rw [rely.config]; exact same), here]
  case cursor => exact rely.cursor
  case failed => exact rely.failed
  case published => exact rely.published
  case consumed => exact rely.consumed
  case risks => exact rely.risks
  case own_published => exact rely.own_published
  case own_risks => exact rely.own_risks
  case own_reserves => exact rely.own_reserves
  case own_consumed => exact rely.own_consumed

/-- What the slot at the frontier holds is the role's own. -/
theorem Rely.slotAt (rely : Rely role before after) (owns : before.Owns role position.toNat) :
    after.pipeline.slotAt position = before.pipeline.slotAt position :=
  rely.slot position.toNat owns

theorem Rely.store (rely : Rely role before after)
    (owns : before.Owns role (role.frontier before.pipeline).toNat)
    (later : (role.frontier before.pipeline).toNat ≤ frontier.toNat) :
    Rely role (before.perform role (.storeOwn frontier)).2
      (after.perform role (.storeOwn frontier)).2 := by
  have own : after.pipeline.slotAt (role.frontier after.pipeline) =
      before.pipeline.slotAt (role.frontier before.pipeline) := by
    rw [rely.frontier]
    exact rely.slotAt owns
  have published : role = .producer →
      (role.note after).published = (role.note before).published := by
    rintro rfl
    exact congrArg₂ (· ++ [·]) (rely.own_published rfl) (congrArg (·.command) own)
  have risks : role = .risk → (role.note after).risks = (role.note before).risks := by
    rintro rfl
    exact congrArg₂ (· ++ [·]) (rely.own_risks rfl) (congrArg (·.risk) own)
  have consumed : role = .matcher →
      (role.note after).consumed = (role.note before).consumed := by
    rintro rfl
    exact congrArg₂ (· ++ [·]) (rely.own_consumed rfl) own
  have inside {place : ℕ} (owned : ((before.perform role (.storeOwn frontier)).2).Owns role place) :
      before.Owns role place := by
    refine ⟨later.trans (Eq.trans_le ?_ owned.1), owned.2.trans_eq ?_⟩
    · exact congrArg _ PipelineRole.frontier_withFrontier.symm
    · cases role <;> rfl
  have slots (place : ℕ) (shared : SharedPipeline) :
      ((shared.perform role (.storeOwn frontier)).2).slot place = shared.slot place := by
    cases role <;> rfl
  constructor
  case config =>
    have same := rely.config
    cases role <;> exact same
  case frontier =>
    exact PipelineRole.frontier_withFrontier.trans PipelineRole.frontier_withFrontier.symm
  case seen => exact rely.seen
  case slot =>
    intro place owned
    rw [slots, slots]
    exact rely.slot place (inside owned)
  case cursor =>
    have same := rely.cursor
    cases role <;> exact same
  case failed =>
    have same := rely.failed
    cases role <;> exact same
  case own_published => exact published
  case own_risks => exact risks
  case own_reserves =>
    rintro rfl
    exact congrArg₂ (· ++ [·]) (rely.own_reserves rfl) (congrArg (·.reserve) own)
  case own_consumed => exact consumed
  case published =>
    cases role with
    | producer => exact ⟨[], (List.append_nil _).trans (published rfl).symm⟩
    | _ => exact rely.published
  case consumed =>
    cases role with
    | matcher => exact ⟨[], (List.append_nil _).trans (consumed rfl).symm⟩
    | _ => exact rely.consumed
  case risks =>
    cases role with
    | risk => exact ⟨[], (List.append_nil _).trans (risks rfl).symm⟩
    | _ => exact rely.risks

theorem Rely.few (rely : Rely role before after)
    (few : (role.note after).published.length < 2 ^ 64) :
    (role.note before).published.length < 2 ^ 64 := by
  apply Nat.lt_of_le_of_lt ?_ few
  cases role with
  | producer =>
    dsimp only [PipelineRole.note]
    rw [rely.own_published rfl, List.length_append, List.length_append]
    exact le_rfl
  | _ => exact rely.published.length_le

theorem Rely.passed (rely : Rely role before after) :
    after.Passed role position ↔ before.Passed role position := by
  unfold Passed
  rw [rely.frontier]

theorem Guard.later {access : PipelineAccess} (guarded : Guard role before access)
    (rely : Rely role before after) : Guard role after access := by
  cases access with
  | readCommand position => exact rely.owns.mpr guarded
  | readRisk position => exact rely.owns.mpr guarded
  | readReserve position => exact rely.owns.mpr guarded
  | readSequence position => exact guarded.imp rely.owns.mpr rely.passed.mpr
  | writeCommand position command =>
    exact ⟨guarded.1, guarded.2.1.trans rely.frontier.symm, rely.owns.mpr guarded.2.2⟩
  | writeRisk position risk =>
    exact ⟨guarded.1, guarded.2.1.trans rely.frontier.symm, rely.owns.mpr guarded.2.2⟩
  | writeReserve position reserve =>
    exact ⟨guarded.1, guarded.2.1.trans rely.frontier.symm, rely.owns.mpr guarded.2.2⟩
  | storeOwn frontier =>
    intro few
    obtain ⟨later, room, own⟩ := guarded (rely.few few)
    have owns : before.Owns role (role.frontier before.pipeline).toNat :=
      ⟨le_rfl, later.trans_le room⟩
    have limited : after.limit role = before.limit role := by
      rw [limit, limit, rely.seen, rely.config]
    have same := rely.frontier
    have slot := rely.slotAt owns
    refine ⟨Eq.trans_lt (congrArg _ same) later, room.trans_eq limited.symm, ?_⟩
    cases role with
    | producer =>
      dsimp only [PipelineRole.frontier] at same slot own ⊢
      rw [same, slot]
      exact own
    | persistence =>
      dsimp only [PipelineRole.frontier] at same own ⊢
      rw [same, rely.failed rfl]
      exact own
    | risk =>
      dsimp only [PipelineRole.frontier] at same slot own ⊢
      rw [same, slot]
      exact own
    | reserve =>
      dsimp only [PipelineRole.frontier] at same slot own ⊢
      rw [same, slot]
      exact own
    | matcher => exact own.trans (congrArg (· + 1) same.symm)
  | _ => exact guarded

end Sooner

/-! ### The accesses of a program -/

section Rules
variable {config : CommandPipelineConfig} {opened : CommandPipeline} {role : PipelineRole}
variable {memory : SharedPipeline} {α : Type} {post : α → SharedPipeline → Prop}
variable {position : UInt64}

theorem safe_loadFailed {next : Bool → PipelineProgram α}
    (goes : ∀ failed, (role = .persistence → failed = memory.pipeline.persistenceFailed) →
      (sharing config opened).Safe role post (next failed) memory) :
    (sharing config opened).Safe role post (.access .loadFailed next) memory := by
  intro current kept meanwhile
  refine ⟨trivial, fun failed after does => ?_⟩
  obtain ⟨-, own, rfl⟩ := does
  refine (goes failed fun here => ?_).mono meanwhile
  exact (own here).trans (meanwhile.failed here)

theorem safe_loadOwn {next : UInt64 → PipelineProgram α}
    (goes : (sharing config opened).Safe role post (next (role.frontier memory.pipeline)) memory) :
    (sharing config opened).Safe role post (.access .loadOwn next) memory := by
  refine Sharing.Safe.read
    (fun current kept meanwhile => ⟨trivial, fun answer after does => ?_⟩) goes
  obtain ⟨rfl, rfl⟩ := Prod.mk.inj does
  exact ⟨meanwhile.frontier, rfl⟩

theorem safe_loadUpstream {next : UInt64 → PipelineProgram α}
    (goes : ∀ upstream after, Invariant config opened after → after.seen role = upstream →
      role.frontier after.pipeline = role.frontier memory.pipeline →
      (role = .persistence →
        after.pipeline.persistenceFailed = memory.pipeline.persistenceFailed) →
      (sharing config opened).Safe role post (next upstream) after) :
    (sharing config opened).Safe role post (.access .loadUpstream next) memory := by
  intro current kept meanwhile
  refine ⟨trivial, fun upstream after does => ?_⟩
  obtain ⟨later, there, rfl⟩ := does
  exact goes upstream _ (kept.load later there).1 (Function.update_self _ _ _) meanwhile.frontier
    meanwhile.failed

theorem safe_loadCursor {next : CommandSequence × Bool → PipelineProgram α}
    (goes : ∀ exhausted, (sharing config opened).Safe .producer post
      (next (memory.pipeline.nextLiveSequence, exhausted)) memory) :
    (sharing config opened).Safe .producer post (.access .loadCursor next) memory := by
  intro current kept meanwhile
  refine ⟨trivial, fun answer after does => ?_⟩
  obtain ⟨rfl, rfl⟩ := Prod.mk.inj does
  rw [meanwhile.cursor rfl]
  exact (goes _).mono meanwhile

theorem safe_readCommand {next : CommandEnvelope → PipelineProgram α}
    (owns : memory.Owns role position.toNat)
    (goes : (sharing config opened).Safe role post
      (next (memory.pipeline.slotAt position).command) memory) :
    (sharing config opened).Safe role post (.access (.readCommand position) next) memory := by
  refine Sharing.Safe.read
    (fun current kept meanwhile => ⟨meanwhile.owns.mpr owns, fun answer after does => ?_⟩) goes
  obtain ⟨rfl, rfl⟩ := Prod.mk.inj does
  exact ⟨congrArg (·.command) (meanwhile.slotAt owns), rfl⟩

theorem safe_readRisk {next : RiskResult → PipelineProgram α}
    (owns : memory.Owns role position.toNat)
    (goes : (sharing config opened).Safe role post
      (next (memory.pipeline.slotAt position).risk) memory) :
    (sharing config opened).Safe role post (.access (.readRisk position) next) memory := by
  refine Sharing.Safe.read
    (fun current kept meanwhile => ⟨meanwhile.owns.mpr owns, fun answer after does => ?_⟩) goes
  obtain ⟨rfl, rfl⟩ := Prod.mk.inj does
  exact ⟨congrArg (·.risk) (meanwhile.slotAt owns), rfl⟩

theorem safe_readReserve {next : ReserveResult → PipelineProgram α}
    (owns : memory.Owns role position.toNat)
    (goes : (sharing config opened).Safe role post
      (next (memory.pipeline.slotAt position).reserve) memory) :
    (sharing config opened).Safe role post (.access (.readReserve position) next) memory := by
  refine Sharing.Safe.read
    (fun current kept meanwhile => ⟨meanwhile.owns.mpr owns, fun answer after does => ?_⟩) goes
  obtain ⟨rfl, rfl⟩ := Prod.mk.inj does
  exact ⟨congrArg (·.reserve) (meanwhile.slotAt owns), rfl⟩

theorem safe_readSequence {next : CommandSequence → PipelineProgram α}
    (owns : memory.Owns role position.toNat)
    (goes : (sharing config opened).Safe role post
      (next (memory.pipeline.slotAt position).command.commandSequence) memory) :
    (sharing config opened).Safe role post (.access (.readSequence position) next) memory := by
  refine Sharing.Safe.read (fun current kept meanwhile =>
    ⟨.inl (meanwhile.owns.mpr owns), fun answer after does => ?_⟩) goes
  obtain ⟨rfl, rfl⟩ := Prod.mk.inj does
  exact ⟨congrArg (·.command.commandSequence) (meanwhile.slotAt owns), rfl⟩

/-- The sequence of a slot that may have a later command by now. -/
theorem safe_readSequence_late {next : CommandSequence → PipelineProgram α}
    (passed : memory.Passed role position)
    (goes : ∀ current, Invariant config opened current → Rely role memory current →
      (sharing config opened).Safe role post
        (next (current.pipeline.slotAt position).command.commandSequence) current) :
    (sharing config opened).Safe role post (.access (.readSequence position) next) memory := by
  intro current kept meanwhile
  refine ⟨.inr (meanwhile.passed.mpr passed), fun answer after does => ?_⟩
  obtain ⟨rfl, rfl⟩ := Prod.mk.inj does
  exact goes _ kept meanwhile

/-- An access that answers nothing and comes to the same before what the other roles did. -/
theorem safe_change {access : PipelineAccess} {next : access.Answer → PipelineProgram α}
    (kept : Invariant config opened memory) (guarded : Guard role memory access)
    (moves : ∀ current answer after, Rely role memory current →
      current.Does role access answer after → ∃ first,
        memory.Does role access answer first ∧ Rely role first after)
    (goes : ∀ answer first, Invariant config opened first → memory.Does role access answer first →
      (sharing config opened).Safe role post (next answer) first) :
    (sharing config opened).Safe role post (.access access next) memory := by
  apply Sharing.Safe.sooner
  · intro current _ meanwhile
    refine ⟨guarded.later meanwhile, fun answer after does => ?_⟩
    exact moves current answer after meanwhile does
  · intro answer first does
    exact goes answer first (kept.keeps guarded does).1 does

theorem safe_writeCommand {command : CommandEnvelope} {next : Unit → PipelineProgram α}
    (kept : Invariant config opened memory)
    (guarded : Guard role memory (.writeCommand position command))
    (goes : Invariant config opened (memory.perform role (.writeCommand position command)).2 →
      (sharing config opened).Safe role post (next ())
        (memory.perform role (.writeCommand position command)).2) :
    (sharing config opened).Safe role post (.access (.writeCommand position command) next)
      memory := by
  apply safe_change kept guarded
  · intro current answer after meanwhile does
    obtain rfl : after = _ := congrArg Prod.snd does
    refine ⟨_, rfl, ?_⟩
    dsimp only [perform]
    rw [meanwhile.slotAt guarded.2.2]
    exact meanwhile.write
  · intro answer first kept does
    obtain rfl : first = _ := congrArg Prod.snd does
    exact goes kept

theorem safe_writeRisk {risk : RiskResult} {next : Unit → PipelineProgram α}
    (kept : Invariant config opened memory)
    (guarded : Guard role memory (.writeRisk position risk))
    (goes : Invariant config opened (memory.perform role (.writeRisk position risk)).2 →
      (sharing config opened).Safe role post (next ())
        (memory.perform role (.writeRisk position risk)).2) :
    (sharing config opened).Safe role post (.access (.writeRisk position risk) next) memory := by
  apply safe_change kept guarded
  · intro current answer after meanwhile does
    obtain rfl : after = _ := congrArg Prod.snd does
    refine ⟨_, rfl, ?_⟩
    dsimp only [perform]
    rw [meanwhile.slotAt guarded.2.2]
    exact meanwhile.write
  · intro answer first kept does
    obtain rfl : first = _ := congrArg Prod.snd does
    exact goes kept

theorem safe_writeReserve {reserve : ReserveResult} {next : Unit → PipelineProgram α}
    (kept : Invariant config opened memory)
    (guarded : Guard role memory (.writeReserve position reserve))
    (goes : Invariant config opened (memory.perform role (.writeReserve position reserve)).2 →
      (sharing config opened).Safe role post (next ())
        (memory.perform role (.writeReserve position reserve)).2) :
    (sharing config opened).Safe role post (.access (.writeReserve position reserve) next)
      memory := by
  apply safe_change kept guarded
  · intro current answer after meanwhile does
    obtain rfl : after = _ := congrArg Prod.snd does
    refine ⟨_, rfl, ?_⟩
    dsimp only [perform]
    rw [meanwhile.slotAt guarded.2.2]
    exact meanwhile.write
  · intro answer first kept does
    obtain rfl : first = _ := congrArg Prod.snd does
    exact goes kept

theorem safe_storeOwn {frontier : UInt64} {next : Unit → PipelineProgram α}
    (kept : Invariant config opened memory) (guarded : Guard role memory (.storeOwn frontier))
    (goes : Invariant config opened (memory.perform role (.storeOwn frontier)).2 →
      (sharing config opened).Safe role post (next ())
        (memory.perform role (.storeOwn frontier)).2) :
    (sharing config opened).Safe role post (.access (.storeOwn frontier) next) memory := by
  apply safe_change kept guarded
  · intro current answer after meanwhile does
    obtain ⟨rfl, few⟩ := does
    have sooner := meanwhile.few few
    obtain ⟨later, room, -⟩ := guarded sooner
    exact ⟨_, ⟨rfl, sooner⟩, meanwhile.store ⟨le_rfl, later.trans_le room⟩ later.le⟩
  · intro answer first kept does
    obtain ⟨rfl, few⟩ := does
    exact goes kept

theorem safe_storeFailed {next : Unit → PipelineProgram α}
    (kept : Invariant config opened memory)
    (goes : (sharing config opened).Safe .persistence post (next ())
        (memory.perform .persistence .storeFailed).2) :
    (sharing config opened).Safe .persistence post (.access .storeFailed next) memory := by
  have guarded : Guard .persistence memory .storeFailed := rfl
  apply safe_change kept guarded
  · intro current answer after meanwhile does
    obtain rfl : after = _ := congrArg Prod.snd does
    exact ⟨_, rfl, { meanwhile with failed := fun _ => rfl }⟩
  · intro answer first kept does
    obtain rfl : first = _ := congrArg Prod.snd does
    exact goes

theorem safe_storeCursor {nextLiveSequence : CommandSequence} {sequenceExhausted : Bool}
    {next : Unit → PipelineProgram α} (kept : Invariant config opened memory)
    (numbered : nextLiveSequence ≠ 0)
    (goes : (sharing config opened).Safe .producer post (next ())
        (memory.perform .producer (.storeCursor nextLiveSequence sequenceExhausted)).2) :
    (sharing config opened).Safe .producer post
      (.access (.storeCursor nextLiveSequence sequenceExhausted) next) memory := by
  have guarded : Guard .producer memory (.storeCursor nextLiveSequence sequenceExhausted) :=
    ⟨rfl, numbered⟩
  apply safe_change kept guarded
  · intro current answer after meanwhile does
    obtain rfl : after = _ := congrArg Prod.snd does
    exact ⟨_, rfl, { meanwhile with cursor := fun _ => rfl }⟩
  · intro answer first kept does
    obtain rfl : first = _ := congrArg Prod.snd does
    exact goes

/-- The first two accesses of most calls. -/
theorem safe_loads {next : UInt64 → UInt64 → PipelineProgram α}
    (goes : ∀ after, Invariant config opened after →
      (role = .persistence →
        after.pipeline.persistenceFailed = memory.pipeline.persistenceFailed) →
      (sharing config opened).Safe role post
        (next (role.frontier after.pipeline) (after.seen role)) after) :
    (sharing config opened).Safe role post
      (.access .loadOwn fun own => .access .loadUpstream fun upstream => next own upstream)
      memory := by
  apply safe_loadOwn
  apply safe_loadUpstream
  rintro upstream after kept rfl same failed
  rw [← same]
  exact goes after kept failed

end Rules

/-! ### What an ended call has found or done -/

/-- An answer, as the memory bears it out when the call has ended. The sequence that the risk and
the reserve stage report is read behind the publication, when the ring may have come around. -/
def Answered (shared : SharedPipeline) : PipelineCall → PipelineAnswer → Prop
  | .tryPublish payload, .result result => result.status = .ok →
    shared.history.published.getLast? = some ⟨result.sequence, payload⟩ ∧
      result.frontier = shared.pipeline.head
  | .tryReplay command, .result result => result.status = .ok →
    shared.history.published.getLast? = some command ∧
      result.sequence = command.commandSequence ∧ result.frontier = shared.pipeline.head
  | .copyPendingForPersistence batchOffset, .command result command => ∀ envelope ∈ command,
    shared.history.published[shared.pipeline.durable.toNat + batchOffset.toNat]? = some envelope ∧
      result.sequence = envelope.commandSequence
  | .publishDurable _, .result result => result.status = .ok →
    shared.pipeline.persistenceFailed = false ∧ result.frontier = shared.pipeline.durable ∧
      ∃ command, shared.history.published[shared.pipeline.durable.toNat - 1]? = some command ∧
        result.sequence = command.commandSequence
  | .tryReadForRisk, .command result command => ∀ envelope ∈ command,
    shared.history.published[shared.history.risks.length]? = some envelope ∧
      result.sequence = envelope.commandSequence
  | .publishRisk risk, .result result => result.status = .ok →
    shared.history.risks.getLast? = some risk ∧ result.frontier = shared.pipeline.riskChecked ∧
      (shared.history.published.length + 1 <
          shared.history.risks.length + shared.pipeline.config.capacity.toNat →
        ∃ command, shared.history.published[shared.history.risks.length - 1]? = some command ∧
          result.sequence = command.commandSequence)
  | .tryReadForReserve, .checked result found => ∀ command risk, found = some (command, risk) →
    shared.history.published[shared.history.reserves.length]? = some command ∧
      shared.history.risks[shared.history.reserves.length]? = some risk ∧
      result.sequence = command.commandSequence
  | .publishReserve reserve, .result result => result.status = .ok →
    shared.history.reserves.getLast? = some reserve ∧
      result.frontier = shared.pipeline.reserveChecked ∧
      (shared.history.published.length + 1 <
          shared.history.reserves.length + shared.pipeline.config.capacity.toNat →
        ∃ command, shared.history.published[shared.history.reserves.length - 1]? = some command ∧
          result.sequence = command.commandSequence)
  | .tryConsume, .slot result found => ∀ slot ∈ found,
    shared.history.consumed.getLast? = some slot ∧ result.frontier = shared.pipeline.tail ∧
      result.sequence = slot.command.commandSequence
  | _, _ => True

theorem getElem?_of_prefix {α : Type} {entries more : List α} {entry : α} {position : ℕ}
    (grown : entries <+: more) (there : entries[position]? = some entry) :
    more[position]? = some entry := by
  obtain ⟨inside, rfl⟩ := List.getElem?_eq_some_iff.mp there
  exact List.prefix_iff_getElem?.mp grown position inside

section Programs
open PipelineProgram
variable {config : CommandPipelineConfig} {opened : CommandPipeline} {role : PipelineRole}
variable {memory current : SharedPipeline} {position : ℕ}

/-- A slot that a role behind the producer owns has what was published for it. -/
theorem Invariant.found (kept : Invariant config opened current)
    (meanwhile : Rely role memory current) (owns : memory.Owns role position)
    (follows : role ≠ .producer) : Stored current.history position (memory.slot position) := by
  have owns' := meanwhile.owns.mpr owns
  have below := kept.owns_lt owns'
  obtain ⟨head, risk, reserve, tail, tail_le, reserve_le, risk_le, durable_le, -⟩ := kept.counts
  rw [← meanwhile.slot position owns]
  apply kept.stored position (kept.owns_inside owns').1
  rw [if_neg follows] at below
  cases role with
  | producer => exact absurd rfl follows
  | _ =>
    simp only [PipelineRole.ahead, PipelineRole.frontier] at below
    omega

/-- A role has its next position, unless it has seen no further than itself. -/
theorem Invariant.owns_next (kept : Invariant config opened memory) (follows : role ≠ .producer)
    (due : role.frontier memory.pipeline ≠ memory.seen role) :
    memory.Owns role (role.frontier memory.pipeline).toNat := by
  have below := kept.frontier_le role
  unfold Owns limit at *
  rw [if_neg follows] at *
  apply And.intro le_rfl
  exact Nat.lt_of_le_of_ne below fun same => due (UInt64.toNat_inj.mp same)

theorem safe_tryReadForRisk :
    (sharing config opened).Safe .risk
      (fun answer shared => shared.Answered .tryReadForRisk (.command answer.1 answer.2))
      tryReadForRisk memory := by
  apply safe_loads
  intro after kept _
  split_ifs with none_due
  · intro current kept' meanwhile envelope found
    cases found
  · have owns := kept.owns_next (by decide) none_due
    apply safe_readCommand owns
    intro current kept' meanwhile envelope found
    cases found
    have stored := kept'.found meanwhile owns (by decide)
    have same : after.pipeline.riskChecked = current.pipeline.riskChecked := meanwhile.frontier.symm
    rw [← kept'.counts.risk, ← same]
    exact ⟨stored.command, rfl⟩

theorem safe_tryReadForReserve :
    (sharing config opened).Safe .reserve
      (fun answer shared => shared.Answered .tryReadForReserve (.checked answer.1 answer.2))
      tryReadForReserve memory := by
  apply safe_loads
  intro after kept _
  split_ifs with none_due
  · intro current kept' meanwhile command risk found
    cases found
  · have owns := kept.owns_next (by decide) none_due
    apply safe_readCommand owns
    apply safe_readRisk owns
    intro current kept' meanwhile command risk found
    cases found
    have stored := kept'.found meanwhile owns (by decide)
    have same : current.pipeline.reserveChecked = after.pipeline.reserveChecked :=
      meanwhile.frontier
    have below := kept'.owns_lt (meanwhile.owns.mpr owns)
    have checked : after.pipeline.reserveChecked.toNat < current.history.risks.length := by
      rw [← kept'.counts.risk]
      exact below
    rw [← kept'.counts.reserve, same]
    exact ⟨stored.command, stored.risk checked, rfl⟩

theorem safe_copyPendingForPersistence {batchOffset : UInt32} :
    (sharing config opened).Safe .persistence
      (fun answer shared =>
        shared.Answered (.copyPendingForPersistence batchOffset) (.command answer.1 answer.2))
      (copyPendingForPersistence batchOffset) memory := by
  apply safe_loadFailed
  intro failed _
  split_ifs
  · intro current kept' meanwhile envelope found
    cases found
  apply safe_loads
  intro after kept _
  split_ifs with outside
  · intro current kept' meanwhile envelope found
    cases found
  · simp only [PipelineRole.frontier, Bool.or_eq_true, decide_eq_true_eq, not_or,
      UInt64.lt_iff_toNat_lt, UInt64.le_iff_toNat_le, UInt64.toNat_add, UInt32.toNat_toUInt64,
      Nat.not_lt, Nat.not_le] at outside
    have small := batchOffset.toNat_lt
    have bound := (after.seen .persistence).toNat_lt
    have start := after.pipeline.durable.toNat_lt
    have place : (after.pipeline.durable + batchOffset.toUInt64).toNat =
        after.pipeline.durable.toNat + batchOffset.toNat := by
      rw [UInt64.toNat_add, UInt32.toNat_toUInt64]
      omega
    have owns : after.Owns .persistence (after.pipeline.durable + batchOffset.toUInt64).toNat := by
      unfold Owns limit
      rw [place]
      simp only [PipelineRole.frontier, reduceCtorEq, if_false]
      omega
    apply safe_readCommand owns
    intro current kept' meanwhile envelope found
    cases found
    have stored := kept'.found meanwhile owns (by decide)
    have same : current.pipeline.durable = after.pipeline.durable := meanwhile.frontier
    rw [same, ← place]
    exact ⟨stored.command, rfl⟩

theorem safe_publishDurable {count : UInt32} :
    (sharing config opened).Safe .persistence
      (fun result shared => shared.Answered (.publishDurable count) (.result result))
      (publishDurable count) memory := by
  apply safe_loadFailed
  intro failed own
  split_ifs with refused zero
  · intro current kept' meanwhile accepted
    cases accepted
  · intro current kept' meanwhile accepted
    cases accepted
  apply safe_loads
  intro after kept same_failed
  have healthy : after.pipeline.persistenceFailed = false := by
    rw [same_failed rfl, ← own rfl]
    exact eq_false_of_ne_true refused
  split_ifs with beyond
  · intro current kept' meanwhile accepted
    cases accepted
  · have below : after.pipeline.durable.toNat ≤ (after.seen .persistence).toNat :=
      kept.frontier_le .persistence
    simp only [PipelineRole.frontier] at beyond ⊢
    rw [UInt64.lt_iff_toNat_lt, UInt64.toNat_sub_of_le _ _ (UInt64.le_iff_toNat_le.mpr below),
      UInt32.toNat_toUInt64] at beyond
    have bound := (after.seen .persistence).toNat_lt
    have counted : 0 < count.toNat :=
      Nat.pos_of_ne_zero fun none_left => zero (UInt32.toNat_inj.mp none_left)
    have next : (after.pipeline.durable + count.toUInt64).toNat =
        after.pipeline.durable.toNat + count.toNat := by
      rw [UInt64.toNat_add, UInt32.toNat_toUInt64]
      omega
    have last : (after.pipeline.durable + count.toUInt64 - 1).toNat =
        after.pipeline.durable.toNat + count.toNat - 1 := by
      have one_le : (1 : UInt64) ≤ after.pipeline.durable + count.toUInt64 := by
        rw [UInt64.le_iff_toNat_le, next, UInt64.toNat_one]
        omega
      rw [UInt64.toNat_sub_of_le _ _ one_le, next, UInt64.toNat_one]
    have owns : after.Owns .persistence (after.pipeline.durable + count.toUInt64 - 1).toNat := by
      unfold Owns limit
      rw [last]
      simp only [PipelineRole.frontier, reduceCtorEq, if_false]
      omega
    have guarded : Guard .persistence after
        (.storeOwn (after.pipeline.durable + count.toUInt64)) := by
      intro _
      refine ⟨?_, ?_, healthy, count, rfl⟩
      · rw [next]
        simp only [PipelineRole.frontier]
        omega
      · unfold limit
        rw [next, if_neg (by decide)]
        omega
    apply safe_readSequence owns
    apply safe_storeOwn kept guarded
    intro stored current kept' meanwhile accepted
    have moved : current.pipeline.durable = after.pipeline.durable + count.toUInt64 :=
      meanwhile.frontier
    have behind := (kept.found .refl owns (by decide)).command
    refine ⟨(meanwhile.failed rfl).trans healthy, moved.symm, _, ?_, rfl⟩
    rw [moved, next, ← last]
    exact getElem?_of_prefix meanwhile.published behind

/-- A slot keeps its command until the producer is about to come around to it. -/
theorem Invariant.sequence (kept : Invariant config opened current) {place : UInt64}
    {more : List CommandEnvelope} (published : place.toNat < current.history.published.length)
    (grown : current.history.published <+: more)
    (near : more.length < place.toNat + config.capacity.toNat) :
    more[place.toNat]? = some (current.pipeline.slotAt place).command := by
  apply getElem?_of_prefix grown
  apply kept.recent place.toNat published
  rw [kept.config]
  exact Nat.lt_of_le_of_lt grown.length_le near

theorem safe_publishRisk {risk : RiskResult} :
    (sharing config opened).Safe .risk
      (fun result shared => shared.Answered (.publishRisk risk) (.result result))
      (publishRisk risk) memory := by
  unfold publishRisk
  split_ifs with pending
  · intro current kept' meanwhile accepted
    cases accepted
  apply safe_loads
  intro after kept _
  split_ifs with none_due
  · intro current kept' meanwhile accepted
    cases accepted
  · have owns := kept.owns_next (by decide) none_due
    have next : (after.pipeline.riskChecked + 1).toNat = after.pipeline.riskChecked.toNat + 1 :=
      toNat_succ rfl (Nat.lt_of_le_of_lt owns.2 (after.seen .risk).toNat_lt)
    apply safe_writeRisk kept ⟨.inr rfl, rfl, owns⟩
    intro kept
    have guarded : Guard .risk
        (after.perform .risk (.writeRisk after.pipeline.riskChecked risk)).2
        (.storeOwn (after.pipeline.riskChecked + 1)) := by
      intro _
      refine ⟨(Nat.lt_succ_self _).trans_eq next.symm, next.trans_le owns.2, rfl, ?_⟩
      dsimp only [perform, CommandPipeline.setSlotAt_riskChecked]
      rw [CommandPipeline.slotAt_setSlotAt]
      exact pending
    apply safe_storeOwn kept guarded
    intro kept
    apply safe_readSequence_late ⟨.inl rfl, next.symm⟩
    intro reading kept_reading until_reading current kept_current until_end accepted
    have moved := until_reading.trans until_end
    have frontier : current.pipeline.riskChecked = after.pipeline.riskChecked + 1 := moved.frontier
    have read : reading.pipeline.riskChecked = after.pipeline.riskChecked + 1 :=
      until_reading.frontier
    refine ⟨?_, frontier.symm, fun near => ?_⟩
    · rw [moved.own_risks rfl]
      dsimp only [perform, PipelineRole.note, PipelineRole.frontier,
        CommandPipeline.setSlotAt_riskChecked]
      rw [CommandPipeline.slotAt_setSlotAt, List.getLast?_concat]
    · have counted := kept_current.counts.risk
      rw [frontier, next] at counted
      obtain ⟨-, risk, -, -, -, -, risk_le, durable_le, -⟩ := kept_reading.counts
      rw [read, next] at risk
      rw [kept_current.config, ← counted] at near
      rw [← counted, Nat.add_sub_cancel]
      exact ⟨_, kept_reading.sequence (by omega) until_end.published (by omega), rfl⟩

theorem safe_publishReserve {reserve : ReserveResult} :
    (sharing config opened).Safe .reserve
      (fun result shared => shared.Answered (.publishReserve reserve) (.result result))
      (publishReserve reserve) memory := by
  unfold publishReserve
  split_ifs with pending
  · intro current kept' meanwhile accepted
    cases accepted
  apply safe_loads
  intro after kept _
  split_ifs with none_due
  · intro current kept' meanwhile accepted
    cases accepted
  · have owns := kept.owns_next (by decide) none_due
    have next : (after.pipeline.reserveChecked + 1).toNat =
        after.pipeline.reserveChecked.toNat + 1 :=
      toNat_succ rfl (Nat.lt_of_le_of_lt owns.2 (after.seen .reserve).toNat_lt)
    apply safe_writeReserve kept ⟨.inr rfl, rfl, owns⟩
    intro kept
    have guarded : Guard .reserve
        (after.perform .reserve (.writeReserve after.pipeline.reserveChecked reserve)).2
        (.storeOwn (after.pipeline.reserveChecked + 1)) := by
      intro _
      refine ⟨(Nat.lt_succ_self _).trans_eq next.symm, next.trans_le owns.2, rfl, ?_⟩
      dsimp only [perform, CommandPipeline.setSlotAt_reserveChecked]
      rw [CommandPipeline.slotAt_setSlotAt]
      exact pending
    apply safe_storeOwn kept guarded
    intro kept
    apply safe_readSequence_late ⟨.inr rfl, next.symm⟩
    intro reading kept_reading until_reading current kept_current until_end accepted
    have moved := until_reading.trans until_end
    have frontier : current.pipeline.reserveChecked = after.pipeline.reserveChecked + 1 :=
      moved.frontier
    have read : reading.pipeline.reserveChecked = after.pipeline.reserveChecked + 1 :=
      until_reading.frontier
    refine ⟨?_, frontier.symm, fun near => ?_⟩
    · rw [moved.own_reserves rfl]
      dsimp only [perform, PipelineRole.note, PipelineRole.frontier,
        CommandPipeline.setSlotAt_reserveChecked]
      rw [CommandPipeline.slotAt_setSlotAt, List.getLast?_concat]
    · have counted := kept_current.counts.reserve
      rw [frontier, next] at counted
      obtain ⟨-, -, reserve, -, -, reserve_le, risk_le, durable_le, -⟩ := kept_reading.counts
      rw [read, next] at reserve
      rw [kept_current.config, ← counted] at near
      rw [← counted, Nat.add_sub_cancel]
      exact ⟨_, kept_reading.sequence (by omega) until_end.published (by omega), rfl⟩

theorem safe_tryConsume :
    (sharing config opened).Safe .matcher
      (fun answer shared => shared.Answered .tryConsume (.slot answer.1 answer.2))
      tryConsume memory := by
  apply safe_loads
  intro after kept _
  split_ifs with none_due
  · intro current kept' meanwhile slot found
    cases found
  · have owns := kept.owns_next (by decide) none_due
    have next : (after.pipeline.tail + 1).toNat = after.pipeline.tail.toNat + 1 :=
      toNat_succ rfl (Nat.lt_of_le_of_lt owns.2 (after.seen .matcher).toNat_lt)
    have guarded : Guard .matcher after (.storeOwn (after.pipeline.tail + 1)) := by
      intro _
      exact ⟨(Nat.lt_succ_self _).trans_eq next.symm, next.trans_le owns.2, rfl⟩
    apply safe_readCommand owns
    apply safe_readRisk owns
    apply safe_readReserve owns
    apply safe_storeOwn kept guarded
    intro kept current kept' meanwhile slot found
    cases found
    refine ⟨?_, meanwhile.frontier.symm, rfl⟩
    rw [meanwhile.own_consumed rfl]
    exact List.getLast?_concat

/-- The producer has the head's position, unless the ring has looked full. -/
theorem Invariant.owns_head (kept : Invariant config opened memory)
    (room : memory.pipeline.head - memory.seen .producer ≠ config.capacity.toUInt64) :
    memory.Owns .producer memory.pipeline.head.toNat := by
  have below := kept.frontier_le .producer
  have seen := UInt64.le_iff_toNat_le.mp (kept.seen_le .producer)
  obtain ⟨head, -, -, tail, tail_le, reserve_le, risk_le, durable_le, -⟩ := kept.counts
  unfold Owns limit at *
  rw [if_pos rfl, kept.config] at *
  simp only [PipelineRole.frontier, PipelineRole.ahead] at seen below ⊢
  apply And.intro le_rfl
  apply Nat.lt_of_le_of_ne below
  intro same
  apply room
  have ordered : memory.seen .producer ≤ memory.pipeline.head := by
    rw [UInt64.le_iff_toNat_le]
    omega
  rw [← UInt64.toNat_inj, UInt64.toNat_sub_of_le _ _ ordered, UInt32.toNat_toUInt64]
  omega

/-- A publication, for what the producer goes on to do with its answer. -/
theorem safe_tryPublishEnvelope {command : CommandEnvelope}
    {post : CommandPipelineResult → SharedPipeline → Prop} (numbered : command.commandSequence ≠ 0)
    (refused : ∀ result current, Invariant config opened current → result.status ≠ .ok →
      post result current)
    (taken : ∀ result current, Invariant config opened current →
      result.sequence = command.commandSequence → result.frontier = current.pipeline.head →
      current.history.published.getLast? = some command → post result current) :
    (sharing config opened).Safe .producer post (tryPublishEnvelope config command) memory := by
  apply safe_loadFailed
  intro failed _
  split_ifs
  · exact fun current kept' _ => refused _ current kept' (by decide)
  apply safe_loads
  intro after kept _
  split_ifs with full
  · exact fun current kept' _ => refused _ current kept' (by decide)
  · have owns := kept.owns_head full
    have head := kept.counts.head
    apply safe_writeCommand kept ⟨rfl, rfl, owns⟩
    intro kept
    apply safe_writeRisk kept ⟨.inl rfl, rfl, owns⟩
    intro kept
    apply safe_writeReserve kept ⟨.inl rfl, rfl, owns⟩
    intro kept
    have guarded : Guard .producer (perform .producer (perform .producer (perform .producer after
        (.writeCommand after.pipeline.head command)).2 (.writeRisk after.pipeline.head {})).2
        (.writeReserve after.pipeline.head {})).2 (.storeOwn (after.pipeline.head + 1)) := by
      intro few
      have next : (after.pipeline.head + 1).toNat = after.pipeline.head.toNat + 1 := by
        simp only [perform, PipelineRole.note, List.length_append, List.length_singleton] at few
        exact toNat_succ rfl (by omega)
      refine ⟨(Nat.lt_succ_self _).trans_eq next.symm, next.trans_le owns.2, rfl, ?_⟩
      simp only [perform, CommandPipeline.slotAt_setSlotAt, CommandPipeline.setSlotAt_head]
      exact numbered
    apply safe_storeOwn kept guarded
    intro kept current kept' meanwhile
    apply taken _ current kept' rfl meanwhile.frontier.symm
    rw [meanwhile.own_published rfl]
    simp only [perform, PipelineRole.note, PipelineRole.frontier,
      CommandPipeline.slotAt_setSlotAt, CommandPipeline.setSlotAt_head, List.getLast?_concat]

theorem safe_tryReplay {command : CommandEnvelope} :
    (sharing config opened).Safe .producer
      (fun result shared => shared.Answered (.tryReplay command) (.result result))
      (tryReplay config command) memory := by
  apply safe_loadFailed
  intro failed _
  split_ifs with _ numbered
  · intro current kept' meanwhile accepted
    cases accepted
  · intro current kept' meanwhile accepted
    cases accepted
  · apply safe_tryPublishEnvelope numbered
    · intro result current _ refused accepted
      exact absurd accepted refused
    · intro result current _ sequence frontier published _
      exact ⟨published, sequence, frontier⟩

/-- The sequence behind one that is not the last is no zero. -/
theorem succ_ne_zero {sequence : CommandSequence} (last : sequence ≠ CommandPipeline.maxSequence) :
    sequence + 1 ≠ 0 := by
  intro zero
  apply last
  have wrapped := congrArg UInt64.toNat zero
  have bound := sequence.toNat_lt
  rw [UInt64.toNat_add, UInt64.toNat_one, UInt64.toNat_zero] at wrapped
  have last_one : CommandPipeline.maxSequence.toNat = 2 ^ 64 - 1 := rfl
  apply UInt64.toNat_inj.mp
  omega

theorem safe_tryPublish {payload : CommandWalPayload} (kept : Invariant config opened memory) :
    (sharing config opened).Safe .producer
      (fun result shared => shared.Answered (.tryPublish payload) (.result result))
      (tryPublish config payload) memory := by
  have numbered := kept.cursor
  apply safe_loadFailed
  intro failed _
  split_ifs
  · intro current kept' meanwhile accepted
    cases accepted
  apply safe_loadCursor
  intro exhausted
  by_cases stop : exhausted = true
  · dsimp only
    rw [if_pos stop]
    intro current kept' meanwhile accepted
    cases accepted
  dsimp only
  rw [if_neg stop]
  apply Sharing.Safe.bind ?_ kept
  apply safe_tryPublishEnvelope numbered
  · intro result current _ refused
    rw [if_pos refused]
    intro later _ _ accepted
    exact absurd accepted refused
  · intro result current kept' sequence frontier published
    have answered {later : SharedPipeline}
        (same : later.history.published = current.history.published)
        (head : later.pipeline.head = current.pipeline.head) :
        later.Answered (.tryPublish payload) (.result result) := by
      intro _
      rw [same, published, sequence, frontier]
      exact ⟨rfl, head.symm⟩
    split_ifs with refused last
    · exact fun later _ meanwhile => answered (meanwhile.own_published rfl) meanwhile.frontier
    · apply safe_storeCursor kept' numbered
      exact fun later _ meanwhile => answered (meanwhile.own_published rfl) meanwhile.frontier
    · apply safe_storeCursor kept' (succ_ne_zero last)
      exact fun later _ meanwhile => answered (meanwhile.own_published rfl) meanwhile.frontier

/-- Every call of a role is safe from any memory that the invariant holds of. -/
theorem safe_ofCall (kept : Invariant config opened memory) (call : PipelineCall) :
    (sharing config opened).Safe call.role (fun answer shared => shared.Answered call answer)
      (ofCall config call) memory := by
  cases call with
  | «open» config allocated => exact fun _ _ _ => trivial
  | tryPublish payload => exact .map kept (safe_tryPublish kept)
  | tryReplay command => exact .map kept safe_tryReplay
  | restoreLiveSequence nextSequence =>
    apply Sharing.Safe.map kept
    unfold restoreLiveSequence
    split_ifs with zero
    · exact fun _ _ _ => trivial
    · exact safe_storeCursor kept zero fun _ _ _ => trivial
  | copyPendingForPersistence batchOffset => exact .map kept safe_copyPendingForPersistence
  | publishDurable count => exact .map kept safe_publishDurable
  | failPersistence => exact .map kept (safe_storeFailed kept fun _ _ _ => trivial)
  | tryReadForRisk => exact .map kept safe_tryReadForRisk
  | publishRisk result => exact .map kept safe_publishRisk
  | tryReadForReserve => exact .map kept safe_tryReadForReserve
  | publishReserve result => exact .map kept safe_publishReserve
  | tryConsume => exact .map kept safe_tryConsume

end Programs

end SharedPipeline
end Fexma
