import Fexma.Matcher.PipelineAccesses

/-! The roles of the command pipeline on threads of their own. Whatever the order of their memory
accesses, no two roles ever work on one slot, and what has been published and consumed is what
some order of whole calls publishes and consumes. -/
namespace Fexma

open Interleaving Transducer

attribute [ext] CommandRingSlot

/-- The ring is not full while a position of it is free. -/
theorem PipelineInvariant.room {config : CommandPipelineConfig} {pipeline : CommandPipeline}
    {history : PipelineHistory} (invariant : PipelineInvariant config pipeline history)
    (free : history.published.length < history.consumed.length + config.capacity.toNat) :
    pipeline.head - pipeline.tail ≠ pipeline.config.capacity.toUInt64 := by
  obtain ⟨-, sized, head, -, -, tail, tail_le, reserve_le, risk_le, durable_le, -⟩ := invariant
  have ordered : pipeline.tail ≤ pipeline.head := by
    rw [UInt64.le_iff_toNat_le]
    omega
  rw [Ne, ← UInt64.toNat_inj, UInt64.toNat_sub_of_le _ _ ordered, UInt32.toNat_toUInt64, sized]
  omega

namespace PipelineRole
variable {pipeline : CommandPipeline} {frontier : UInt64} {role other : PipelineRole}

@[simp] theorem frontier_withFrontier :
    role.frontier (role.withFrontier pipeline frontier) = frontier := by
  cases role <;> rfl

/-- A role moves no frontier but its own. -/
theorem frontier_withFrontier_ne (distinct : other ≠ role) :
    other.frontier (role.withFrontier pipeline frontier) = other.frontier pipeline := by
  cases other <;> cases role <;> first | rfl | exact absurd rfl distinct

end PipelineRole

namespace SharedPipeline

/-- The position up to which a role may work: what it has seen of the frontier ahead of it, which
is a whole ring further for the producer. -/
def limit (shared : SharedPipeline) (role : PipelineRole) : ℕ :=
  if role = .producer then (shared.seen role).toNat + shared.pipeline.config.capacity.toNat
  else (shared.seen role).toNat

/-- The positions between a role's frontier and its limit are its own. -/
def Owns (shared : SharedPipeline) (role : PipelineRole) (position : ℕ) : Prop :=
  (role.frontier shared.pipeline).toNat ≤ position ∧ position < shared.limit role

/-- The slot of a position. -/
def slot (shared : SharedPipeline) (position : ℕ) : CommandRingSlot :=
  SlotRing.read shared.pipeline.config.capacity.toNat shared.pipeline.slots position

/-- What has been published for a position is in its slot. -/
structure Stored (history : PipelineHistory) (position : ℕ) (slot : CommandRingSlot) : Prop where
  command : history.published[position]? = some slot.command
  risk : position < history.risks.length → history.risks[position]? = some slot.risk
  reserve : position < history.reserves.length → history.reserves[position]? = some slot.reserve

/-- A pipeline of whole calls that has published and consumed the same. -/
structure Matches (noted : NotedPipeline) (shared : SharedPipeline) : Prop where
  history : noted.history = shared.history
  frontier : ∀ role : PipelineRole,
    role.frontier noted.pipeline = role.frontier shared.pipeline
  healthy : noted.pipeline.persistenceFailed = false

/-- What every access keeps. -/
structure Invariant (config : CommandPipelineConfig) (opened : CommandPipeline)
    (shared : SharedPipeline) : Prop where
  start : ({} : CommandPipeline).open config true = (.ok, opened)
  serial : ∃ calls, Matches (final NotedPipeline.call { pipeline := opened } calls) shared
  config : shared.pipeline.config = config
  isOpen : shared.pipeline.isOpen = true
  few : shared.history.published.length < 2 ^ 64
  cursor : shared.pipeline.nextLiveSequence ≠ 0
  seen_le : ∀ role : PipelineRole, shared.seen role ≤ role.ahead.frontier shared.pipeline
  frontier_le : ∀ role : PipelineRole, (role.frontier shared.pipeline).toNat ≤ shared.limit role
  stored : ∀ position, shared.history.consumed.length ≤ position →
    position < shared.history.published.length →
    Stored shared.history position (shared.slot position)
  recent : ∀ position, position < shared.history.published.length →
    shared.history.published.length < position + shared.pipeline.config.capacity.toNat →
    shared.history.published[position]? = some (shared.slot position).command

/-- The role has just published its result for a position, which others may work on already. -/
def Passed (shared : SharedPipeline) (role : PipelineRole) (position : UInt64) : Prop :=
  (role = .risk ∨ role = .reserve) ∧
    position.toNat + 1 = (role.frontier shared.pipeline).toNat

/-- What an access has to keep to. The sequence of a slot may also be read by a role that has
passed it. -/
def Guard (role : PipelineRole) (shared : SharedPipeline) : PipelineAccess → Prop
  | .storeFailed => role = .persistence
  | .storeCursor nextLiveSequence _ => role = .producer ∧ nextLiveSequence ≠ 0
  | .readCommand position | .readRisk position | .readReserve position =>
    shared.Owns role position.toNat
  | .readSequence position => shared.Owns role position.toNat ∨ shared.Passed role position
  | .writeCommand position _ =>
    role = .producer ∧ position = role.frontier shared.pipeline ∧ shared.Owns role position.toNat
  | .writeRisk position _ =>
    (role = .producer ∨ role = .risk) ∧ position = role.frontier shared.pipeline ∧
      shared.Owns role position.toNat
  | .writeReserve position _ =>
    (role = .producer ∨ role = .reserve) ∧ position = role.frontier shared.pipeline ∧
      shared.Owns role position.toNat
  | .storeOwn frontier => (role.note shared).published.length < 2 ^ 64 →
    (role.frontier shared.pipeline).toNat < frontier.toNat ∧ frontier.toNat ≤ shared.limit role ∧
      match role with
      | .producer => frontier = shared.pipeline.head + 1 ∧
          (shared.pipeline.slotAt shared.pipeline.head).command.commandSequence ≠ 0
      | .persistence => shared.pipeline.persistenceFailed = false ∧
          ∃ count : UInt32, frontier = shared.pipeline.durable + count.toUInt64
      | .risk => frontier = shared.pipeline.riskChecked + 1 ∧
          (shared.pipeline.slotAt shared.pipeline.riskChecked).risk.decision ≠ .pending
      | .reserve => frontier = shared.pipeline.reserveChecked + 1 ∧
          (shared.pipeline.slotAt shared.pipeline.reserveChecked).reserve.decision ≠ .pending
      | .matcher => frontier = shared.pipeline.tail + 1
  | .loadFailed | .loadOwn | .loadUpstream | .loadCursor => True

/-- What the other roles leave to a role. -/
structure Rely (role : PipelineRole) (before after : SharedPipeline) : Prop where
  config : after.pipeline.config = before.pipeline.config
  frontier : role.frontier after.pipeline = role.frontier before.pipeline
  seen : after.seen role = before.seen role
  slot : ∀ position, before.Owns role position → after.slot position = before.slot position
  cursor : role = .producer →
    after.pipeline.nextLiveSequence = before.pipeline.nextLiveSequence
  failed : role = .persistence →
    after.pipeline.persistenceFailed = before.pipeline.persistenceFailed
  published : before.history.published <+: after.history.published
  consumed : before.history.consumed <+: after.history.consumed
  risks : before.history.risks <+: after.history.risks
  own_published : role = .producer → after.history.published = before.history.published
  own_risks : role = .risk → after.history.risks = before.history.risks
  own_reserves : role = .reserve → after.history.reserves = before.history.reserves
  own_consumed : role = .matcher → after.history.consumed = before.history.consumed

/-! ### The frontiers -/

/-- The frontiers count the history and keep their order. -/
structure Counts (shared : SharedPipeline) : Prop where
  head : shared.pipeline.head.toNat = shared.history.published.length
  risk : shared.pipeline.riskChecked.toNat = shared.history.risks.length
  reserve : shared.pipeline.reserveChecked.toNat = shared.history.reserves.length
  tail : shared.pipeline.tail.toNat = shared.history.consumed.length
  tail_le : shared.history.consumed.length ≤ shared.history.reserves.length
  reserve_le : shared.history.reserves.length ≤ shared.history.risks.length
  risk_le : shared.history.risks.length ≤ shared.pipeline.durable.toNat
  durable_le : shared.pipeline.durable.toNat ≤ shared.history.published.length
  window : shared.history.published.length ≤
    shared.history.consumed.length + shared.pipeline.config.capacity.toNat

section Frontiers
variable {config : CommandPipelineConfig} {opened : CommandPipeline} {calls : List PipelineCall}
variable {shared : SharedPipeline} {role other : PipelineRole} {position position' : ℕ}

/-- The pipeline of whole calls, and that it stays one behind another call. -/
theorem Invariant.matched (kept : Invariant config opened shared) : ∃ noted,
    Matches noted shared ∧ PipelineInvariant config noted.pipeline shared.history ∧
      ∀ call after, Matches (noted.call call).2 after →
        ∃ calls, Matches (final NotedPipeline.call { pipeline := opened } calls) after := by
  obtain ⟨calls, serial⟩ := kept.serial
  have begins : PipelineInvariant config ({ pipeline := opened } : NotedPipeline).pipeline {} :=
    .opened kept.start
  refine ⟨_, serial, ?_, fun call after moved => ⟨calls ++ [call], ?_⟩⟩
  · have few := kept.few
    rw [← serial.history] at few ⊢
    exact begins.run few
  · rw [final_append]
    exact moved

theorem Invariant.counts (kept : Invariant config opened shared) : Counts shared := by
  obtain ⟨noted, serial, whole, -⟩ := kept.matched
  have durable : noted.pipeline.durable = shared.pipeline.durable := serial.frontier .persistence
  constructor
  case head => exact (congrArg _ (serial.frontier .producer)).symm.trans whole.head
  case risk => exact (congrArg _ (serial.frontier .risk)).symm.trans whole.risk
  case reserve => exact (congrArg _ (serial.frontier .reserve)).symm.trans whole.reserve
  case tail => exact (congrArg _ (serial.frontier .matcher)).symm.trans whole.tail
  case tail_le => exact whole.tail_le
  case reserve_le => exact whole.reserve_le
  case risk_le => exact durable ▸ whole.risk_le
  case durable_le => exact durable ▸ whole.durable_le
  case window =>
    rw [kept.config, ← whole.config]
    exact whole.window

/-- What a role owns lies behind what the role ahead of it has passed. -/
theorem Invariant.owns_lt (kept : Invariant config opened shared)
    (owns : shared.Owns role position) :
    position < (role.ahead.frontier shared.pipeline).toNat +
      if role = .producer then shared.pipeline.config.capacity.toNat else 0 := by
  have seen := UInt64.le_iff_toNat_le.mp (kept.seen_le role)
  have below := owns.2
  unfold limit at below
  split_ifs at below ⊢
  · omega
  · omega

/-- What a role owns is within the ring that begins at the tail. -/
theorem Invariant.owns_inside (kept : Invariant config opened shared)
    (owns : shared.Owns role position) : shared.history.consumed.length ≤ position ∧
      position < shared.history.consumed.length + shared.pipeline.config.capacity.toNat := by
  obtain ⟨head, risk, reserve, tail, tail_le, reserve_le, risk_le, durable_le, window⟩ :=
    kept.counts
  have above := owns.1
  have below := kept.owns_lt owns
  cases role with
  | producer =>
    simp only [PipelineRole.frontier, PipelineRole.ahead, if_true] at above below
    omega
  | _ =>
    simp only [PipelineRole.frontier, PipelineRole.ahead, reduceCtorEq, if_false] at above below
    omega

/-- No two roles own positions of one slot. -/
theorem Invariant.apart (kept : Invariant config opened shared) (distinct : role ≠ other)
    (owns : shared.Owns role position) (owns' : shared.Owns other position') :
    position % shared.pipeline.config.capacity.toNat ≠
      position' % shared.pipeline.config.capacity.toNat := by
  intro same
  obtain rfl := SlotRing.mod_inj (kept.owns_inside owns) (kept.owns_inside owns') same
  obtain ⟨head, risk, reserve, tail, tail_le, reserve_le, risk_le, durable_le, window⟩ :=
    kept.counts
  have above := owns.1
  have below := kept.owns_lt owns
  have above' := owns'.1
  have below' := kept.owns_lt owns'
  cases role <;> cases other <;>
    simp [PipelineRole.frontier, PipelineRole.ahead] at above below above' below' distinct <;> omega

end Frontiers

/-! ### What an access keeps -/

section Accesses
variable {config : CommandPipelineConfig} {opened : CommandPipeline}
variable {shared before after middle : SharedPipeline} {role other : PipelineRole}
variable {position : UInt64}

theorem Rely.refl : Rely role shared shared := by
  constructor
  case slot => exact fun _ _ => rfl
  case published => exact List.prefix_refl _
  case consumed => exact List.prefix_refl _
  case risks => exact List.prefix_refl _
  all_goals first | rfl | exact fun _ => rfl

theorem Rely.owns {position : ℕ} (rely : Rely role before after) :
    after.Owns role position ↔ before.Owns role position := by
  unfold Owns limit
  rw [rely.frontier, rely.seen, rely.config]

theorem Rely.trans (first : Rely role before middle) (second : Rely role middle after) :
    Rely role before after := by
  constructor
  case config => exact second.config.trans first.config
  case frontier => exact second.frontier.trans first.frontier
  case seen => exact second.seen.trans first.seen
  case slot =>
    intro position owns
    exact (second.slot position (first.owns.mpr owns)).trans (first.slot position owns)
  case cursor => exact fun producer => (second.cursor producer).trans (first.cursor producer)
  case failed => exact fun here => (second.failed here).trans (first.failed here)
  case published => exact first.published.trans second.published
  case consumed => exact first.consumed.trans second.consumed
  case risks => exact first.risks.trans second.risks
  case own_published =>
    exact fun producer => (second.own_published producer).trans (first.own_published producer)
  case own_risks => exact fun here => (second.own_risks here).trans (first.own_risks here)
  case own_reserves => exact fun here => (second.own_reserves here).trans (first.own_reserves here)
  case own_consumed => exact fun here => (second.own_consumed here).trans (first.own_consumed here)

section Write
variable {place place' : ℕ} {written : CommandRingSlot}

theorem slot_congr (here : place % shared.pipeline.config.capacity.toNat =
    place' % shared.pipeline.config.capacity.toNat) : shared.slot place = shared.slot place' :=
  congrArg shared.pipeline.slots here

theorem slot_write (here : place % shared.pipeline.config.capacity.toNat =
      position.toNat % shared.pipeline.config.capacity.toNat) :
    ({ shared with pipeline := shared.pipeline.setSlotAt position written } : SharedPipeline).slot
      place = written := by
  refine (congrArg (shared.pipeline.setSlotAt position written).slots here).trans ?_
  exact Function.update_self _ _ _

theorem slot_write_ne (apart : place % shared.pipeline.config.capacity.toNat ≠
      position.toNat % shared.pipeline.config.capacity.toNat) :
    ({ shared with pipeline := shared.pipeline.setSlotAt position written } : SharedPipeline).slot
      place = shared.slot place :=
  Function.update_of_ne apart _ _

/-- A slot is written to by its owner. -/
theorem Invariant.write (kept : Invariant config opened before)
    (owns : before.Owns role position.toNat)
    (same : position.toNat < before.history.published.length →
      written.command = (before.slot position.toNat).command ∧
      (position.toNat < before.history.risks.length →
        written.risk = (before.slot position.toNat).risk) ∧
      (position.toNat < before.history.reserves.length →
        written.reserve = (before.slot position.toNat).reserve))
    (behind : written.command = (before.slot position.toNat).command ∨
      position.toNat = before.history.published.length) :
    Invariant config opened
        { before with pipeline := before.pipeline.setSlotAt position written } ∧
      ∀ other, other ≠ role →
        Rely other before
          { before with pipeline := before.pipeline.setSlotAt position written } := by
  constructor
  · constructor
    case start => exact kept.start
    case serial =>
      obtain ⟨calls, serial⟩ := kept.serial
      refine ⟨calls, serial.history, fun role => ?_, serial.healthy⟩
      rw [serial.frontier role]
      cases role <;> rfl
    case config => exact kept.config
    case isOpen => exact kept.isOpen
    case few => exact kept.few
    case cursor => exact kept.cursor
    case seen_le =>
      intro role
      refine (kept.seen_le role).trans_eq ?_
      cases role <;> rfl
    case frontier_le =>
      intro role
      refine Eq.trans_le ?_ (kept.frontier_le role)
      cases role <;> rfl
    case stored =>
      intro place live published
      have stored := kept.stored place live published
      by_cases here : place % before.pipeline.config.capacity.toNat =
          position.toNat % before.pipeline.config.capacity.toNat
      · have inside := Nat.lt_of_lt_of_le published kept.counts.window
        obtain rfl := SlotRing.mod_inj ⟨live, inside⟩ (kept.owns_inside owns) here
        obtain ⟨command, risk, reserve⟩ := same published
        rw [slot_write here]
        constructor
        · rw [command]
          exact stored.command
        · intro checked
          rw [risk checked]
          exact stored.risk checked
        · intro checked
          rw [reserve checked]
          exact stored.reserve checked
      · rw [slot_write_ne here]
        exact stored
    case recent =>
      intro place published near
      have recent := kept.recent place published near
      by_cases here : place % before.pipeline.config.capacity.toNat =
          position.toNat % before.pipeline.config.capacity.toNat
      · rw [slot_write here]
        rcases behind with same | next
        · rw [same, ← slot_congr here]
          exact recent
        · -- the ring has not come around to the place yet
          rw [next] at here
          have distinct := SlotRing.mod_inj ⟨le_rfl, by dsimp only at *; omega⟩
            ⟨published.le, near⟩ here
          exact absurd distinct (Nat.ne_of_lt published)
      · rw [slot_write_ne here]
        exact recent
  · intro other distinct
    constructor
    case config => rfl
    case frontier => cases other <;> rfl
    case seen => rfl
    case slot => exact fun place owned => slot_write_ne (kept.apart distinct owned owns)
    case published => exact List.prefix_refl _
    case consumed => exact List.prefix_refl _
    case risks => exact List.prefix_refl _
    all_goals exact fun _ => rfl

end Write

/-- One more whole call does what the store of a frontier publishes. -/
theorem Matches.step {noted after : NotedPipeline} {frontier : UInt64}
    (matches_before : Matches noted before) (history : after.history = role.note before)
    (own : role.frontier after.pipeline = frontier)
    (others : ∀ other : PipelineRole, other ≠ role →
      other.frontier after.pipeline = other.frontier noted.pipeline)
    (healthy : after.pipeline.persistenceFailed = noted.pipeline.persistenceFailed) :
    Matches after (before.perform role (.storeOwn frontier)).2 := by
  constructor
  case history => exact history
  case frontier =>
    intro other
    by_cases same : other = role
    · subst same
      refine own.trans ?_
      cases other <;> rfl
    · refine (others other same).trans ((matches_before.frontier other).trans ?_)
      cases other <;> cases role <;> first | rfl | exact absurd rfl same
  case healthy => exact healthy.trans matches_before.healthy

section Store
variable (kept : Invariant config opened before)
include kept

/-- The command in the slot of the head could have been published by one call. -/
theorem Invariant.serial_producer (numbered :
      (before.pipeline.slotAt before.pipeline.head).command.commandSequence ≠ 0)
    (room : before.pipeline.head.toNat < before.limit .producer) :
    ∃ calls, Matches (final NotedPipeline.call { pipeline := opened } calls)
      (before.perform .producer (.storeOwn (before.pipeline.head + 1))).2 := by
  obtain ⟨noted, serial, whole, onward⟩ := kept.matched
  have head : noted.pipeline.head = before.pipeline.head := serial.frontier .producer
  have free : noted.pipeline.head - noted.pipeline.tail ≠ config.capacity.toUInt64 := by
    have seen := UInt64.le_iff_toNat_le.mp (kept.seen_le .producer)
    rw [limit, if_pos rfl, kept.config] at room
    rw [← whole.config]
    apply whole.room
    have published := kept.counts.head
    have consumed := kept.counts.tail
    simp only [PipelineRole.frontier, PipelineRole.ahead] at seen
    omega
  refine onward (.tryReplay (before.pipeline.slotAt before.pipeline.head).command) _ ?_
  rcases noted.pipeline.tryReplay_cases (before.pipeline.slotAt before.pipeline.head).command with
    ⟨refused, -⟩ | ⟨-, taken⟩
  · refine absurd ?_ refused
    rw [CommandPipeline.tryReplay, if_neg (by simp [whole.isOpen]),
      if_neg (by simp [serial.healthy]), if_neg numbered, CommandPipeline.tryPublishEnvelope,
      if_neg (by simp [whole.isOpen]), if_neg (by simp [serial.healthy]), whole.config,
      if_neg free]
  · simp only [NotedPipeline.call, CommandPipeline.call, PipelineHistory.note, taken, if_true,
      serial.history]
    refine serial.step rfl (congrArg (· + 1) head) ?_ rfl
    intro other distinct
    cases other <;> first | rfl | exact absurd rfl distinct

/-- The commands in front of the frontier could have been published as durable by one call. -/
theorem Invariant.serial_persistence {count : UInt32}
    (later : before.pipeline.durable.toNat < (before.pipeline.durable + count.toUInt64).toNat)
    (room : (before.pipeline.durable + count.toUInt64).toNat ≤ before.limit .persistence) :
    ∃ calls, Matches (final NotedPipeline.call { pipeline := opened } calls)
      (before.perform .persistence (.storeOwn (before.pipeline.durable + count.toUInt64))).2 := by
  obtain ⟨noted, serial, whole, onward⟩ := kept.matched
  have head : noted.pipeline.head = before.pipeline.head := serial.frontier .producer
  have durable : noted.pipeline.durable = before.pipeline.durable := serial.frontier .persistence
  have below : (before.pipeline.durable + count.toUInt64).toNat ≤ before.pipeline.head.toNat :=
    room.trans (UInt64.le_iff_toNat_le.mp (kept.seen_le .persistence))
  rw [UInt64.toNat_add, UInt32.toNat_toUInt64] at later below
  have bound := before.pipeline.durable.toNat_lt
  have small := count.toNat_lt
  have counted : count ≠ 0 := by
    rintro rfl
    rw [UInt32.toNat_zero] at later
    omega
  have due : ¬ noted.pipeline.head - noted.pipeline.durable < count.toUInt64 := by
    rw [UInt64.lt_iff_toNat_lt, UInt64.toNat_sub_of_le _ _ whole.durable_le_head,
      UInt32.toNat_toUInt64, head, durable]
    omega
  refine onward (.publishDurable count) _ ?_
  rcases noted.pipeline.publishDurable_cases count with ⟨refused, -⟩ | ⟨-, -, -, moved⟩
  · refine absurd ?_ refused
    rw [CommandPipeline.publishDurable, if_neg (by simp [whole.isOpen]),
      if_neg (by simp [serial.healthy]), if_neg counted, if_neg due]
  · simp only [NotedPipeline.call, CommandPipeline.call, PipelineHistory.note, moved]
    refine serial.step serial.history (congrArg (· + count.toUInt64) durable) ?_ rfl
    intro other distinct
    cases other <;> first | rfl | exact absurd rfl distinct

/-- The risk result in the slot of the frontier could have been published by one call. -/
theorem Invariant.serial_risk
    (decided : (before.pipeline.slotAt before.pipeline.riskChecked).risk.decision ≠ .pending)
    (room : before.pipeline.riskChecked.toNat < before.limit .risk) :
    ∃ calls, Matches (final NotedPipeline.call { pipeline := opened } calls)
      (before.perform .risk (.storeOwn (before.pipeline.riskChecked + 1))).2 := by
  obtain ⟨noted, serial, whole, onward⟩ := kept.matched
  have checked : noted.pipeline.riskChecked = before.pipeline.riskChecked := serial.frontier .risk
  have durable : noted.pipeline.durable = before.pipeline.durable := serial.frontier .persistence
  have due : noted.pipeline.riskChecked ≠ noted.pipeline.durable := by
    rw [checked, durable]
    intro same
    have seen := UInt64.le_iff_toNat_le.mp (kept.seen_le .risk)
    rw [same] at room
    exact absurd seen (Nat.not_le_of_lt room)
  refine onward (.publishRisk (before.pipeline.slotAt before.pipeline.riskChecked).risk) _ ?_
  rcases noted.pipeline.publishRisk_cases
      (before.pipeline.slotAt before.pipeline.riskChecked).risk with
    ⟨refused, -⟩ | ⟨accepted, -, -, moved⟩
  · exact absurd (CommandPipeline.publishRisk_ok whole.isOpen decided due) refused
  · simp only [NotedPipeline.call, CommandPipeline.call, PipelineHistory.note, accepted, moved,
      if_true, serial.history]
    refine serial.step rfl (congrArg (· + 1) checked) ?_ rfl
    intro other distinct
    cases other <;> first | rfl | exact absurd rfl distinct

/-- The reserve result in the slot of the frontier could have been published by one call. -/
theorem Invariant.serial_reserve
    (decided : (before.pipeline.slotAt before.pipeline.reserveChecked).reserve.decision ≠ .pending)
    (room : before.pipeline.reserveChecked.toNat < before.limit .reserve) :
    ∃ calls, Matches (final NotedPipeline.call { pipeline := opened } calls)
      (before.perform .reserve (.storeOwn (before.pipeline.reserveChecked + 1))).2 := by
  obtain ⟨noted, serial, whole, onward⟩ := kept.matched
  have reserved : noted.pipeline.reserveChecked = before.pipeline.reserveChecked :=
    serial.frontier .reserve
  have checked : noted.pipeline.riskChecked = before.pipeline.riskChecked := serial.frontier .risk
  have due : noted.pipeline.reserveChecked ≠ noted.pipeline.riskChecked := by
    rw [reserved, checked]
    intro same
    have seen := UInt64.le_iff_toNat_le.mp (kept.seen_le .reserve)
    rw [same] at room
    exact absurd seen (Nat.not_le_of_lt room)
  refine onward
    (.publishReserve (before.pipeline.slotAt before.pipeline.reserveChecked).reserve) _ ?_
  rcases noted.pipeline.publishReserve_cases
      (before.pipeline.slotAt before.pipeline.reserveChecked).reserve with
    ⟨refused, -⟩ | ⟨accepted, -, -, moved⟩
  · exact absurd (CommandPipeline.publishReserve_ok whole.isOpen decided due) refused
  · simp only [NotedPipeline.call, CommandPipeline.call, PipelineHistory.note, accepted, moved,
      if_true, serial.history]
    refine serial.step rfl (congrArg (· + 1) reserved) ?_ rfl
    intro other distinct
    cases other <;> first | rfl | exact absurd rfl distinct

/-- The slot of the tail could have been consumed by one call. -/
theorem Invariant.serial_matcher
    (room : before.pipeline.tail.toNat < before.limit .matcher) :
    ∃ calls, Matches (final NotedPipeline.call { pipeline := opened } calls)
      (before.perform .matcher (.storeOwn (before.pipeline.tail + 1))).2 := by
  obtain ⟨noted, serial, whole, onward⟩ := kept.matched
  obtain ⟨head, risk, reserve, tail, tail_le, reserve_le, risk_le, durable_le, -⟩ := kept.counts
  have consumed : noted.pipeline.tail = before.pipeline.tail := serial.frontier .matcher
  have reserved : noted.pipeline.reserveChecked = before.pipeline.reserveChecked :=
    serial.frontier .reserve
  have due : before.pipeline.tail.toNat < before.pipeline.reserveChecked.toNat :=
    room.trans_le (UInt64.le_iff_toNat_le.mp (kept.seen_le .matcher))
  have some_due : noted.pipeline.tail ≠ noted.pipeline.reserveChecked := by
    rw [consumed, reserved]
    exact fun same => Nat.ne_of_lt due (congrArg UInt64.toNat same)
  have same : noted.pipeline.slotAt noted.pipeline.tail =
      before.pipeline.slotAt before.pipeline.tail := by
    rw [consumed]
    have held := whole.slotAt tail le_rfl (by omega)
    have stored := kept.stored _ le_rfl (by omega)
    rw [← tail] at stored held
    have risked := stored.risk (by omega)
    have checked := stored.reserve (by omega)
    have command := Option.some.inj (held.command.symm.trans stored.command)
    have result := held.risk
    have reservation := held.reserve
    rw [risked] at result
    rw [checked] at reservation
    exact CommandRingSlot.ext command result reservation
  refine onward .tryConsume _ ?_
  rw [NotedPipeline.call, CommandPipeline.call,
    CommandPipeline.tryConsume_ok whole.isOpen some_due, same]
  refine serial.step ?_ (congrArg (· + 1) consumed) ?_ rfl
  · rw [serial.history]
    rfl
  · intro other distinct
    cases other <;> first | rfl | exact absurd rfl distinct

/-- What a store makes visible is in the slots. -/
theorem Invariant.stored_behind (position : ℕ)
    (live : (role.note before).consumed.length ≤ position)
    (published : position < (role.note before).published.length) :
    Stored (role.note before) position (before.slot position) := by
  obtain ⟨head, risk, reserve, tail, tail_le, reserve_le, risk_le, durable_le, -⟩ := kept.counts
  cases role with
  | producer =>
    simp only [PipelineRole.note, List.length_append, List.length_singleton] at live published ⊢
    by_cases last : position = before.history.published.length
    · subst last
      have early := risk_le.trans durable_le
      refine ⟨?_, fun checked => absurd checked (Nat.not_lt_of_le early),
        fun checked => absurd checked (Nat.not_lt_of_le (reserve_le.trans early))⟩
      rw [List.getElem?_concat_length, ← head]
      rfl
    · have stored := kept.stored position live (by omega)
      exact ⟨getElem?_concat_some stored.command, stored.risk, stored.reserve⟩
  | persistence => exact kept.stored position live published
  | risk =>
    simp only [PipelineRole.note] at live published ⊢
    have stored := kept.stored position live published
    refine ⟨stored.command, fun checked => ?_, stored.reserve⟩
    by_cases last : position = before.history.risks.length
    · subst last
      dsimp only
      rw [List.getElem?_concat_length, ← risk]
      rfl
    · dsimp only at checked ⊢
      rw [List.length_append, List.length_singleton] at checked
      exact getElem?_concat_some (stored.risk (by omega))
  | reserve =>
    simp only [PipelineRole.note] at live published ⊢
    have stored := kept.stored position live published
    refine ⟨stored.command, stored.risk, fun checked => ?_⟩
    by_cases last : position = before.history.reserves.length
    · subst last
      dsimp only
      rw [List.getElem?_concat_length, ← reserve]
      rfl
    · dsimp only at checked ⊢
      rw [List.length_append, List.length_singleton] at checked
      exact getElem?_concat_some (stored.reserve (by omega))
  | matcher =>
    simp only [PipelineRole.note, List.length_append, List.length_singleton] at live published ⊢
    have stored := kept.stored position (by omega) published
    exact ⟨stored.command, stored.risk, stored.reserve⟩

theorem Invariant.recent_behind (position : ℕ)
    (published : position < (role.note before).published.length)
    (near : (role.note before).published.length <
      position + before.pipeline.config.capacity.toNat) :
    (role.note before).published[position]? = some (before.slot position).command := by
  cases role with
  | producer =>
    simp only [PipelineRole.note, List.length_append, List.length_singleton] at published near ⊢
    by_cases last : position = before.history.published.length
    · subst last
      rw [List.getElem?_concat_length, ← kept.counts.head]
      rfl
    · exact getElem?_concat_some (kept.recent position (by omega) (by omega))
  | _ => exact kept.recent position published near

/-- A frontier is moved over what its role owns. -/
theorem Invariant.store {frontier : UInt64} {answer : Unit}
    (guarded : Guard role before (.storeOwn frontier))
    (does : before.Does role (.storeOwn frontier) answer after) :
    Invariant config opened after ∧ ∀ other, other ≠ role → Rely other before after := by
  obtain ⟨rfl, few⟩ := does
  obtain ⟨later, room, own⟩ := guarded few
  constructor
  · constructor
    case start => exact kept.start
    case serial =>
      have inside := later.trans_le room
      cases role with
      | producer =>
        obtain ⟨rfl, numbered⟩ := own
        exact kept.serial_producer numbered inside
      | persistence =>
        obtain ⟨-, count, rfl⟩ := own
        exact kept.serial_persistence later room
      | risk =>
        obtain ⟨rfl, decided⟩ := own
        exact kept.serial_risk decided inside
      | reserve =>
        obtain ⟨rfl, decided⟩ := own
        exact kept.serial_reserve decided inside
      | matcher =>
        subst own
        exact kept.serial_matcher inside
    case config =>
      refine Eq.trans ?_ kept.config
      cases role <;> rfl
    case isOpen =>
      refine Eq.trans ?_ kept.isOpen
      cases role <;> rfl
    case few => exact few
    case cursor =>
      refine (Eq.trans_ne ?_ kept.cursor)
      cases role <;> rfl
    case seen_le =>
      intro other
      by_cases same : other.ahead = role
      · subst same
        have seen := UInt64.le_iff_toNat_le.mp (kept.seen_le other)
        refine UInt64.le_iff_toNat_le.mpr ((seen.trans later.le).trans_eq ?_)
        exact congrArg _ PipelineRole.frontier_withFrontier.symm
      · exact (kept.seen_le other).trans_eq (PipelineRole.frontier_withFrontier_ne same).symm
    case frontier_le =>
      intro other
      have limited : ((before.perform role (.storeOwn frontier)).2).limit other =
          before.limit other := by
        cases role <;> rfl
      rw [limited]
      by_cases same : other = role
      · subst same
        refine Eq.trans_le ?_ room
        exact congrArg _ PipelineRole.frontier_withFrontier
      · refine Eq.trans_le ?_ (kept.frontier_le other)
        exact congrArg _ (PipelineRole.frontier_withFrontier_ne same)
    case stored =>
      intro position live published
      have untouched : ((before.perform role (.storeOwn frontier)).2).slot position =
          before.slot position := by
        cases role <;> rfl
      rw [untouched]
      exact kept.stored_behind position live published
    case recent =>
      intro position published near
      have untouched : ((before.perform role (.storeOwn frontier)).2).slot position =
          before.slot position := by
        cases role <;> rfl
      have sized : ((before.perform role (.storeOwn frontier)).2).pipeline.config =
          before.pipeline.config := by
        cases role <;> rfl
      rw [untouched]
      rw [sized] at near
      exact kept.recent_behind position published near
  · intro other distinct
    constructor
    case config => cases role <;> rfl
    case frontier => exact PipelineRole.frontier_withFrontier_ne distinct
    case seen => rfl
    case slot =>
      intro position _
      cases role <;> rfl
    case cursor =>
      intro _
      cases role <;> rfl
    case failed =>
      intro _
      cases role <;> rfl
    case published =>
      cases role with
      | producer => exact List.prefix_append _ _
      | _ => exact List.prefix_refl _
    case consumed =>
      cases role with
      | matcher => exact List.prefix_append _ _
      | _ => exact List.prefix_refl _
    case risks =>
      cases role with
      | risk => exact List.prefix_append _ _
      | _ => exact List.prefix_refl _
    case own_published =>
      rintro rfl
      cases role <;> first | rfl | exact absurd rfl distinct
    case own_risks =>
      rintro rfl
      cases role <;> first | rfl | exact absurd rfl distinct
    case own_reserves =>
      rintro rfl
      cases role <;> first | rfl | exact absurd rfl distinct
    case own_consumed =>
      rintro rfl
      cases role <;> first | rfl | exact absurd rfl distinct

end Store

/-- An access that leaves the slots, the frontiers and the history alone. -/
theorem Invariant.untouched (kept : Invariant config opened before)
    (history : after.history = before.history)
    (frontier : ∀ role : PipelineRole, role.frontier after.pipeline = role.frontier before.pipeline)
    (slots : after.pipeline.slots = before.pipeline.slots)
    (sized : after.pipeline.config = before.pipeline.config)
    (isOpen : after.pipeline.isOpen = before.pipeline.isOpen)
    (cursor : after.pipeline.nextLiveSequence ≠ 0)
    (later : ∀ role, before.seen role ≤ after.seen role)
    (there : ∀ role : PipelineRole, after.seen role ≤ role.ahead.frontier before.pipeline) :
    Invariant config opened after := by
  have same (position : ℕ) : after.slot position = before.slot position := by
    unfold SharedPipeline.slot
    rw [sized, slots]
  constructor
  case start => exact kept.start
  case serial =>
    obtain ⟨calls, serial⟩ := kept.serial
    refine ⟨calls, serial.history.trans history.symm, fun role => ?_, serial.healthy⟩
    exact (serial.frontier role).trans (frontier role).symm
  case config => exact sized.trans kept.config
  case isOpen => exact isOpen.trans kept.isOpen
  case few =>
    rw [history]
    exact kept.few
  case cursor => exact cursor
  case seen_le => exact fun role => (there role).trans_eq (frontier role.ahead).symm
  case frontier_le =>
    intro role
    have grown := UInt64.le_iff_toNat_le.mp (later role)
    rw [frontier]
    refine (kept.frontier_le role).trans ?_
    unfold limit
    rw [sized]
    split_ifs
    · exact Nat.add_le_add_right grown _
    · exact grown
  case stored =>
    rw [history]
    intro position live published
    rw [same]
    exact kept.stored position live published
  case recent =>
    rw [history, sized]
    intro position published near
    rw [same]
    exact kept.recent position published near

/-- To have seen more of the frontier ahead of it takes nothing from the other roles. -/
theorem Invariant.load (kept : Invariant config opened before) {upstream : UInt64}
    (later : before.seen role ≤ upstream)
    (there : upstream ≤ role.ahead.frontier before.pipeline) :
    Invariant config opened { before with seen := Function.update before.seen role upstream } ∧
      ∀ other, other ≠ role →
        Rely other before { before with seen := Function.update before.seen role upstream } := by
  constructor
  · refine kept.untouched rfl (fun _ => rfl) rfl rfl rfl kept.cursor ?_ ?_
    · intro other
      dsimp only
      by_cases same : other = role
      · rw [same, Function.update_self]
        exact later
      · rw [Function.update_of_ne same]
        exact UInt64.le_refl _
    · intro other
      dsimp only
      by_cases same : other = role
      · rw [same, Function.update_self]
        exact there
      · rw [Function.update_of_ne same]
        exact kept.seen_le other
  · intro other distinct
    constructor
    case seen => exact Function.update_of_ne distinct _ _
    case slot => exact fun _ _ => rfl
    case published => exact List.prefix_refl _
    case consumed => exact List.prefix_refl _
    case risks => exact List.prefix_refl _
    all_goals first | rfl | exact fun _ => rfl

/-- A change of the failure flag or of the live cursor, which is the producer's. -/
theorem Invariant.aside (kept : Invariant config opened before) {nextLiveSequence : CommandSequence}
    {sequenceExhausted persistenceFailed : Bool} (cursor : nextLiveSequence ≠ 0)
    (own : role ≠ .producer → nextLiveSequence = before.pipeline.nextLiveSequence)
    (own' : role ≠ .persistence → persistenceFailed = before.pipeline.persistenceFailed) :
    Invariant config opened { before with pipeline :=
        { before.pipeline with nextLiveSequence, sequenceExhausted, persistenceFailed } } ∧
      ∀ other, other ≠ role → Rely other before { before with pipeline :=
        { before.pipeline with nextLiveSequence, sequenceExhausted, persistenceFailed } } := by
  constructor
  · refine kept.untouched rfl (fun other => ?_) rfl rfl rfl cursor (fun _ => ?_) kept.seen_le
    · cases other <;> rfl
    · exact UInt64.le_refl _
  · intro other distinct
    constructor
    case frontier => cases other <;> rfl
    case slot => exact fun _ _ => rfl
    case published => exact List.prefix_refl _
    case consumed => exact List.prefix_refl _
    case risks => exact List.prefix_refl _
    case cursor =>
      rintro rfl
      exact own distinct.symm
    case failed =>
      rintro rfl
      exact own' distinct.symm
    all_goals first | rfl | exact fun _ => rfl

theorem Invariant.keeps (kept : Invariant config opened before) {access : PipelineAccess}
    {answer : access.Answer} (guarded : Guard role before access)
    (does : before.Does role access answer after) :
    Invariant config opened after ∧ ∀ other, other ≠ role → Rely other before after := by
  have reads (same : after = before) :
      Invariant config opened after ∧ ∀ other, other ≠ role → Rely other before after := by
    subst same
    exact ⟨kept, fun _ _ => .refl⟩
  have head := kept.counts.head
  have risk := kept.counts.risk
  have reserve := kept.counts.reserve
  have early := kept.counts.risk_le.trans kept.counts.durable_le
  have early' := kept.counts.reserve_le
  cases access with
  | loadFailed => exact reads does.2.2
  | loadOwn => exact reads (congrArg Prod.snd does)
  | loadCursor => exact reads (congrArg Prod.snd does)
  | readCommand position => exact reads (congrArg Prod.snd does)
  | readRisk position => exact reads (congrArg Prod.snd does)
  | readReserve position => exact reads (congrArg Prod.snd does)
  | readSequence position => exact reads (congrArg Prod.snd does)
  | loadUpstream =>
    obtain ⟨later, there, rfl⟩ := does
    exact kept.load later there
  | storeOwn frontier => exact kept.store guarded does
  | storeFailed =>
    obtain rfl : after = _ := congrArg Prod.snd does
    exact kept.aside kept.cursor (fun _ => rfl) fun other => absurd guarded other
  | storeCursor nextLiveSequence sequenceExhausted =>
    obtain rfl : after = _ := congrArg Prod.snd does
    exact kept.aside guarded.2 (fun other => absurd guarded.1 other) fun _ => rfl
  | writeCommand position command =>
    obtain rfl : after = _ := congrArg Prod.snd does
    obtain ⟨rfl, rfl, owns⟩ := guarded
    refine kept.write owns (fun published => ?_) (.inr head)
    exact absurd head (Nat.ne_of_lt published)
  | writeRisk position result =>
    obtain rfl : after = _ := congrArg Prod.snd does
    obtain ⟨writer, rfl, owns⟩ := guarded
    refine kept.write owns (fun published => ⟨rfl, fun checked => ?_, fun _ => rfl⟩) (.inl rfl)
    rcases writer with rfl | rfl
    · exact absurd head (Nat.ne_of_lt published)
    · exact absurd risk (Nat.ne_of_lt checked)
  | writeReserve position result =>
    obtain rfl : after = _ := congrArg Prod.snd does
    obtain ⟨writer, rfl, owns⟩ := guarded
    refine kept.write owns (fun published => ⟨rfl, fun _ => rfl, fun checked => ?_⟩) (.inl rfl)
    rcases writer with rfl | rfl
    · exact absurd head (Nat.ne_of_lt published)
    · exact absurd reserve (Nat.ne_of_lt checked)

end Accesses

/-- The memory that the roles share. -/
def sharing (config : CommandPipelineConfig) (opened : CommandPipeline) :
    Sharing PipelineRole SharedPipeline PipelineAccess PipelineAccess.Answer where
  does := SharedPipeline.Does
  invariant := Invariant config opened
  guard := Guard
  rely := Rely
  rely_refl := fun _ _ => .refl
  rely_trans := fun _ _ _ _ => .trans
  keeps := fun _ _ _ _ _ kept guarded does => kept.keeps guarded does

end SharedPipeline
end Fexma
