import Fexma.Matcher.PipelineThreads

/-! The interleavings of the five roles of the command pipeline, access by access: what holds of
all of them, and one in which a role reports the sequence of another command. -/
namespace Fexma

open Interleaving Transducer

namespace SharedPipeline

/-! ### All roles -/

/-- The thread of a role makes one call of the role after the other, and keeps the last answer. -/
def Starts (config : CommandPipelineConfig) (role : PipelineRole)
    (program : PipelineProgram (Option (PipelineCall × PipelineAnswer))) : Prop :=
  ∃ call : PipelineCall, call.role = role ∧
    program = (PipelineProgram.ofCall config call).map fun answer => some (call, answer)

/-- The memory and the threads behind any interleaving of their accesses. -/
def Reached (config : CommandPipelineConfig) (opened : CommandPipeline) :
    SharedPipeline →
      (PipelineRole → PipelineProgram (Option (PipelineCall × PipelineAnswer))) → Prop :=
  (sharing config opened).Reaches (Starts config) none { pipeline := opened }

/-- What the last answer of a role comes to. -/
def Kept (role : PipelineRole) (last : Option (PipelineCall × PipelineAnswer))
    (shared : SharedPipeline) : Prop :=
  ∀ call answer, last = some (call, answer) → call.role = role ∧ shared.Answered call answer

section Reached
variable {config : CommandPipelineConfig} {opened : CommandPipeline} {shared : SharedPipeline}
variable {threads : PipelineRole → PipelineProgram (Option (PipelineCall × PipelineAnswer))}

theorem each : (sharing config opened).Each (Starts config) none Kept := by
  constructor
  case idle =>
    intro role shared _ call answer none_yet
    cases none_yet
  case safe =>
    rintro role program memory kept ⟨call, rfl, rfl⟩
    apply Sharing.Safe.map kept
    apply (safe_ofCall kept call).imp
    rintro answer shared answered _ _ ⟨rfl⟩
    exact ⟨rfl, answered⟩

theorem opened_eq (start : ({} : CommandPipeline).open config true = (.ok, opened)) :
    opened = { config, nextLiveSequence := config.firstSequence, isOpen := true } ∧
      config.capacity ≠ 0 ∧ config.firstSequence ≠ 0 := by
  rw [CommandPipeline.open, if_neg Bool.false_ne_true] at start
  split_ifs at start with invalid
  all_goals cases start
  rw [Bool.or_eq_true, decide_eq_true_eq, decide_eq_true_eq, not_or] at invalid
  exact ⟨rfl, invalid⟩

theorem Invariant.begins (start : ({} : CommandPipeline).open config true = (.ok, opened)) :
    Invariant config opened { pipeline := opened } := by
  obtain ⟨same, -, numbered⟩ := opened_eq start
  have nothing (role : PipelineRole) : (role.frontier opened).toNat = 0 := by
    rw [same]
    cases role <;> rfl
  constructor
  case start => exact start
  case serial => exact ⟨[], rfl, fun _ => rfl, congrArg (·.persistenceFailed) same⟩
  case config => exact congrArg (·.config) same
  case isOpen => exact congrArg (·.isOpen) same
  case few => exact Nat.two_pow_pos 64
  case cursor =>
    apply Eq.trans_ne (congrArg (·.nextLiveSequence) same)
    exact numbered
  case seen_le => exact fun _ => UInt64.le_iff_toNat_le.mpr (Nat.zero_le _)
  case frontier_le => exact fun role => (nothing role).trans_le (Nat.zero_le _)
  case stored => exact fun position _ below => absurd below (Nat.not_lt_zero _)
  case recent => exact fun position below _ => absurd below (Nat.not_lt_zero _)

end Reached

/-- The positions of what has been published are no more than a frontier counts. -/
def Few (shared : SharedPipeline) : Prop := shared.history.published.length < 2 ^ 64

section WholeCalls
variable {config : CommandPipelineConfig} {opened : CommandPipeline} {shared : SharedPipeline}
variable {threads : PipelineRole → PipelineProgram (Option (PipelineCall × PipelineAnswer))}

/-- A store may reach the other roles at once. -/
theorem does_perform (role : PipelineRole) (kept : Invariant config opened shared)
    (access : PipelineAccess)
    (few : (shared.perform role access).2.Few) :
    shared.Does role access (shared.perform role access).1 (shared.perform role access).2 := by
  cases access with
  | loadFailed => exact ⟨id, fun _ => rfl, rfl⟩
  | loadUpstream => exact ⟨kept.seen_le role, UInt64.le_refl _, rfl⟩
  | storeOwn frontier => exact ⟨rfl, few⟩
  | _ => rfl

theorem perform_few (role : PipelineRole) (access : PipelineAccess)
    (few : (shared.perform role access).2.Few) :
    shared.Few := by
  cases access with
  | storeOwn frontier =>
    apply Nat.lt_of_le_of_lt ?_ few
    cases role with
    | producer => exact (List.prefix_append _ _).length_le
    | _ => exact le_rfl
  | _ => exact few

/-- A whole call of an idle role is an interleaving. -/
theorem reached_call (start : ({} : CommandPipeline).open config true = (.ok, opened))
    (reached : Reached config opened shared threads) (call : PipelineCall)
    (idle : ∃ last, threads call.role = .done last)
    (few : (shared.history.note call (shared.pipeline.call call).1).published.length < 2 ^ 64) :
    ∃ seen, Reached config opened
      { pipeline := (shared.pipeline.call call).2,
        history := shared.history.note call (shared.pipeline.call call).1, seen }
      (Function.update threads call.role (.done (some (call, (shared.pipeline.call call).1)))) := by
  have begins := Invariant.begins start
  have kept := (reached.safe each begins).1
  obtain ⟨last, idle⟩ := idle
  obtain ⟨seen, agrees⟩ := PipelineProgram.ofCall_alone kept.isOpen call
  rw [kept.config] at agrees
  have asked := reached.next idle ⟨call, rfl, rfl⟩
  have alone : ((PipelineProgram.ofCall config call).map fun answer => some (call, answer)).alone
      (perform call.role) shared = (some (call, (shared.pipeline.call call).1),
        { pipeline := (shared.pipeline.call call).2,
          history := shared.history.note call (shared.pipeline.call call).1, seen }) := by
    rw [Program.map, Program.alone_bind, agrees]
    rfl
  have goes := asked.alone each begins (fun _ access kept => does_perform call.role kept access)
    fun _ => perform_few call.role
  rw [Function.update_self, alone, Function.update_idem] at goes
  exact ⟨seen, goes few⟩

/-- Whole calls of idle roles, one after the other, are an interleaving. The other roles may be
anywhere. -/
theorem reached_calls (start : ({} : CommandPipeline).open config true = (.ok, opened))
    (noted : NotedPipeline) (calls : List PipelineCall) {seen : PipelineRole → UInt64}
    (reached : Reached config opened
      { pipeline := noted.pipeline, history := noted.history, seen } threads)
    (idle : ∀ call ∈ calls, ∃ last, threads call.role = .done last)
    (few : (final NotedPipeline.call noted calls).history.published.length < 2 ^ 64) :
    ∃ seen threads', Reached config opened
        { pipeline := (final NotedPipeline.call noted calls).pipeline,
          history := (final NotedPipeline.call noted calls).history, seen } threads' ∧
      (∀ role, (∃ last, threads role = .done last) → ∃ last, threads' role = .done last) ∧
      ∀ role, (∀ call ∈ calls, call.role ≠ role) → threads' role = threads role := by
  induction calls generalizing noted seen threads with
  | nil => exact ⟨seen, threads, reached, fun _ => id, fun _ _ => rfl⟩
  | cons call calls ih =>
    have grown := (noted.call call).2.published_grows calls
    obtain ⟨seen, goes⟩ := reached_call start reached call (idle call (List.mem_cons_self ..))
      (Nat.lt_of_le_of_lt grown few)
    have stays (role : PipelineRole) (before : ∃ last, threads role = .done last) :
        ∃ last, Function.update threads call.role
          (.done (some (call, (noted.pipeline.call call).1))) role = .done last := by
      by_cases same : role = call.role
      · subst same
        exact ⟨_, Function.update_self _ _ _⟩
      · rw [Function.update_of_ne same]
        exact before
    have idle' : ∀ next ∈ calls, ∃ last, Function.update threads call.role
        (.done (some (call, (noted.pipeline.call call).1))) next.role = .done last :=
      fun next member => stays next.role (idle next (List.mem_cons_of_mem _ member))
    obtain ⟨seen', threads', reached', ended, others⟩ := ih _ goes idle' few
    refine ⟨seen', threads', reached', fun role before => ended role (stays role before), ?_⟩
    intro role apart
    rw [others role fun next member => apart next (List.mem_cons_of_mem _ member)]
    exact Function.update_of_ne (apart call (List.mem_cons_self ..)).symm _ _

end WholeCalls

/-! ### Accesses to one slot -/

inductive SlotPart where
  | command
  | risk
  | reserve
  deriving DecidableEq, Repr

/-- The position whose slot an access works on. -/
def place : PipelineAccess → Option UInt64
  | .readCommand position | .readRisk position | .readReserve position
  | .readSequence position => some position
  | .writeCommand position _ | .writeRisk position _ | .writeReserve position _ => some position
  | .loadFailed | .storeFailed | .loadOwn | .loadUpstream | .storeOwn _ | .loadCursor
  | .storeCursor _ _ => none

/-- The part of the slot that it reads or writes; the sequence is in the command. -/
def part : PipelineAccess → Option SlotPart
  | .readCommand _ | .readSequence _ | .writeCommand _ _ => some .command
  | .readRisk _ | .writeRisk _ _ => some .risk
  | .readReserve _ | .writeReserve _ _ => some .reserve
  | .loadFailed | .storeFailed | .loadOwn | .loadUpstream | .storeOwn _ | .loadCursor
  | .storeCursor _ _ => none

def writes : PipelineAccess → Bool
  | .writeCommand _ _ | .writeRisk _ _ | .writeReserve _ _ => true
  | _ => false

/-- Two accesses work on one slot. -/
def SameSlot (config : CommandPipelineConfig) (access access' : PipelineAccess) : Prop :=
  ∃ position ∈ place access, ∃ position' ∈ place access',
    position.toNat % config.capacity.toNat = position'.toNat % config.capacity.toNat

/-- The risk or the reserve stage reads the sequence of the slot that it has just published its
result in. -/
def ReadsLate (shared : SharedPipeline) (role : PipelineRole) (access : PipelineAccess) : Prop :=
  ∃ position, access = .readSequence position ∧ shared.Passed role position

/-- The slot that a role works on is its own, unless it reads late. -/
theorem Guard.owns {shared : SharedPipeline} {role : PipelineRole} {access : PipelineAccess}
    {position : UInt64} (guarded : Guard role shared access) (works : position ∈ place access) :
    shared.Owns role position.toNat ∨ shared.ReadsLate role access := by
  cases access with
  | readCommand _ | readRisk _ | readReserve _ =>
    obtain rfl := Option.some.inj works
    exact .inl guarded
  | writeCommand _ _ | writeRisk _ _ | writeReserve _ _ =>
    obtain rfl := Option.some.inj works
    exact .inl guarded.2.2
  | readSequence _ =>
    obtain rfl := Option.some.inj works
    exact guarded.imp_right fun passed => ⟨_, rfl, passed⟩
  | _ => cases works

section OneSlot
variable {config : CommandPipelineConfig} {opened : CommandPipeline} {shared : SharedPipeline}
variable {role other : PipelineRole} {access access' : PipelineAccess}

theorem Invariant.apart_or_late (kept : Invariant config opened shared) (distinct : role ≠ other)
    (guarded : Guard role shared access) (guarded' : Guard other shared access')
    (slot : SameSlot config access access') :
    shared.ReadsLate role access ∨ shared.ReadsLate other access' := by
  obtain ⟨position, works, position', works', same⟩ := slot
  rw [← kept.config] at same
  rcases Guard.owns guarded works with owns | late
  · rcases Guard.owns guarded' works' with owns' | late
    · exact absurd same (kept.apart distinct owns owns')
    · exact .inr late
  · exact .inl late

/-- While a role reads late, the head is at most a ring ahead of its position. -/
theorem Invariant.ring_ahead (kept : Invariant config opened shared) {position : UInt64}
    (passed : shared.Passed role position)
    (owns : shared.Owns .producer shared.pipeline.head.toNat)
    (same : shared.pipeline.head.toNat % config.capacity.toNat =
      position.toNat % config.capacity.toNat) :
    shared.pipeline.head.toNat = position.toNat + config.capacity.toNat := by
  obtain ⟨head, risk, reserve, tail, tail_le, reserve_le, risk_le, durable_le, -⟩ := kept.counts
  have inside := (kept.owns_inside owns).2
  obtain ⟨stage, published⟩ := passed
  rw [kept.config] at inside
  have ahead : position.toNat + 1 ≤ shared.pipeline.head.toNat ∧
      shared.pipeline.head.toNat < position.toNat + 1 + config.capacity.toNat := by
    rcases stage with rfl | rfl <;> simp only [PipelineRole.frontier] at published <;> omega
  have around : position.toNat + 1 ≤ position.toNat + config.capacity.toNat ∧
      position.toNat + config.capacity.toNat < position.toNat + 1 + config.capacity.toNat := by
    omega
  apply SlotRing.mod_inj ahead around
  rw [same, Nat.add_mod_right]

/-- A role writes to a part of a slot that another role works on only where the producer comes
around to a slot that is still read late. -/
theorem Invariant.race (kept : Invariant config opened shared) (distinct : role ≠ other)
    (guarded : Guard role shared access) (guarded' : Guard other shared access')
    (slot : SameSlot config access access') (parts : part access = part access')
    (written : writes access = true) :
    role = .producer ∧ ∃ position position' command,
      access = .writeCommand position command ∧ access' = .readSequence position' ∧
      shared.Passed other position' ∧
      position.toNat = position'.toNat + config.capacity.toNat := by
  have late := kept.apart_or_late distinct guarded guarded' slot
  obtain ⟨position, works, position', works', same⟩ := slot
  rcases late with ⟨_, rfl, -⟩ | ⟨_, rfl, passed⟩
  · cases written
  obtain rfl := Option.some.inj works'
  cases access with
  | writeCommand _ command =>
    obtain rfl := Option.some.inj works
    obtain ⟨rfl, rfl, owns⟩ := guarded
    exact ⟨rfl, _, _, command, rfl, rfl, passed, kept.ring_ahead passed owns same⟩
  | writeRisk _ _ | writeReserve _ _ => cases parts
  | _ => cases written

end OneSlot

/-- What any interleaving comes to: the order of whole calls behind it, the accesses that two roles
may be about to make to one slot, the only race among them, and the answers. -/
structure SharedSafe (config : CommandPipelineConfig) (opened : CommandPipeline)
    (shared : SharedPipeline)
    (threads : PipelineRole → PipelineProgram (Option (PipelineCall × PipelineAnswer))) : Prop where
  serial : ∃ calls,
    (final NotedPipeline.call { pipeline := opened } calls).history = shared.history ∧
    (∀ role : PipelineRole,
      role.frontier (final NotedPipeline.call { pipeline := opened } calls).pipeline =
        role.frontier shared.pipeline) ∧
    PipelineSafe config (final NotedPipeline.call { pipeline := opened } calls).pipeline
      shared.history
  apart : ∀ role other access next access' next', role ≠ other →
    threads role = .access access next → threads other = .access access' next' →
    SameSlot config access access' →
    shared.ReadsLate role access ∨ shared.ReadsLate other access'
  race : ∀ role other access next access' next', role ≠ other →
    threads role = .access access next → threads other = .access access' next' →
    SameSlot config access access' → part access = part access' → writes access = true →
    role = .producer ∧ ∃ position position' command,
      access = .writeCommand position command ∧ access' = .readSequence position' ∧
      shared.Passed other position' ∧ position.toNat = position'.toNat + config.capacity.toNat
  answered : ∀ role call answer, threads role = .done (some (call, answer)) →
    call.role = role ∧ shared.Answered call answer

end SharedPipeline

section Safe
open SharedPipeline
variable {config : CommandPipelineConfig} {opened : CommandPipeline} {shared : SharedPipeline}
variable {threads : PipelineRole → PipelineProgram (Option (PipelineCall × PipelineAnswer))}

/-- Whatever the order of the accesses of the five roles, and however late a store reaches another
role: what has been published and consumed is what some order of whole calls publishes and consumes,
the roles keep to slots of their own up to the sequences that are read late, and the answers are
true. -/
theorem pipeline_accesses_safe
    (start : ({} : CommandPipeline).open config true = (.ok, opened))
    (reached : Reached config opened shared threads) :
    SharedSafe config opened shared threads := by
  have kept := (reached.safe each (Invariant.begins start)).1
  constructor
  case serial =>
    obtain ⟨calls, serial⟩ := kept.serial
    have begins : PipelineInvariant config ({ pipeline := opened } : NotedPipeline).pipeline {} :=
      .opened start
    have few := kept.few
    rw [← serial.history] at few ⊢
    exact ⟨calls, rfl, serial.frontier, (begins.run few).safe⟩
  case apart =>
    intro role other access next access' next' distinct here here'
    apply kept.apart_or_late distinct
    · exact reached.guarded each (Invariant.begins start) here
    · exact reached.guarded each (Invariant.begins start) here'
  case race =>
    intro role other access next access' next' distinct here here'
    apply kept.race distinct
    · exact reached.guarded each (Invariant.begins start) here
    · exact reached.guarded each (Invariant.begins start) here'
  case answered =>
    intro role call answer ended
    exact reached.ended each (Invariant.begins start) ended call answer rfl

theorem pipeline_accesses_safe_one_slot : ∃ shared threads,
    shared.history.published.map (·.commandSequence) = [1, 7] ∧
      SharedSafe { capacity := 1 } (({} : CommandPipeline).open { capacity := 1 } true).2 shared
        threads := by
  have start : ({} : CommandPipeline).open { capacity := 1 } true =
    (.ok, (({} : CommandPipeline).open { capacity := 1 } true).2) := rfl
  have idle : Reached { capacity := 1 } (({} : CommandPipeline).open { capacity := 1 } true).2
    { pipeline := (({} : CommandPipeline).open { capacity := 1 } true).2, history := {} }
    fun _ => .done none := .start
  obtain ⟨seen, threads, reached, -⟩ := reached_calls start
    { pipeline := (({} : CommandPipeline).open { capacity := 1 } true).2 } oneSlotCalls idle
    (fun _ _ => ⟨none, rfl⟩) (by decide)
  have published : (final NotedPipeline.call
      { pipeline := (({} : CommandPipeline).open { capacity := 1 } true).2 }
      oneSlotCalls).history.published.map (·.commandSequence) = [1, 7] := by decide
  exact ⟨_, threads, published, pipeline_accesses_safe start reached⟩

end Safe

/-! ### A sequence read too late -/

namespace SharedPipeline

section LateRead
variable {config : CommandPipelineConfig} {opened : CommandPipeline} {shared : SharedPipeline}
variable {noted : NotedPipeline} {command : CommandEnvelope}
variable {threads : PipelineRole → PipelineProgram (Option (PipelineCall × PipelineAnswer))}

theorem does_readSequence {role : PipelineRole} {position : UInt64} :
    shared.Does role (.readSequence position)
      (shared.pipeline.slotAt position).command.commandSequence shared :=
  rfl

/-- The next access of a thread, with what is there now. -/
theorem reached_perform (start : ({} : CommandPipeline).open config true = (.ok, opened))
    {role : PipelineRole} {access : PipelineAccess}
    {next : access.Answer → PipelineProgram (Option (PipelineCall × PipelineAnswer))}
    (reached : Reached config opened shared (Function.update threads role (.access access next)))
    (few : (shared.perform role access).2.Few) :
    Reached config opened (shared.perform role access).2
      (Function.update threads role (next (shared.perform role access).1)) := by
  have kept := (reached.safe each (Invariant.begins start)).1
  have goes := reached.access (Function.update_self _ _ _) (does_perform role kept access few)
  rw [Function.update_idem] at goes
  exact goes

/-- The producer fills the room that is left. -/
theorem final_tryReplay (invariant : PipelineInvariant config noted.pipeline noted.history)
    (healthy : noted.pipeline.persistenceFailed = false) (numbered : command.commandSequence ≠ 0)
    {count : ℕ} (room : noted.history.published.length + count ≤
      noted.history.consumed.length + config.capacity.toNat)
    (few : noted.history.published.length + count < 2 ^ 64) :
    (final NotedPipeline.call noted (List.replicate count (.tryReplay command))).history =
      { noted.history with
        published := noted.history.published ++ List.replicate count command } := by
  induction count generalizing noted with
  | zero => simp [final]
  | succ count ih =>
    have taken : (noted.call (.tryReplay command)).2 =
        { pipeline := { noted.pipeline.setSlotAt noted.pipeline.head { command } with
            head := noted.pipeline.head + 1 },
          history := { noted.history with
            published := noted.history.published ++ [command] } } := by
      rcases noted.pipeline.tryReplay_cases command with ⟨refused, -⟩ | ⟨-, taken⟩
      · refine absurd ?_ refused
        rw [CommandPipeline.tryReplay, if_neg (by simp [invariant.isOpen]),
          if_neg (by simp [healthy]), if_neg numbered, CommandPipeline.tryPublishEnvelope,
          if_neg (by simp [invariant.isOpen]), if_neg (by simp [healthy]),
          if_neg (invariant.room (by omega))]
      · simp only [NotedPipeline.call, CommandPipeline.call, PipelineHistory.note, taken, if_true]
    have grown : (noted.call (.tryReplay command)).2.history.published.length =
        noted.history.published.length + 1 := by
      rw [taken, List.length_append, List.length_singleton]
    have kept := invariant.call (.tryReplay command) (by omega)
    rw [List.replicate_succ, final, ih kept (by rw [taken]; exact healthy) ?_ (by omega), taken]
    · simp [List.replicate_succ]
    · rw [grown, taken]
      dsimp only
      omega

/-- A risk result has been published, and the sequence is still to be read. -/
theorem reached_unread (start : ({} : CommandPipeline).open config true = (.ok, opened))
    (reached : Reached config opened shared threads) (idle : ∃ last, threads .risk = .done last)
    {risk : RiskResult} (decided : risk.decision ≠ .pending)
    (due : shared.pipeline.riskChecked ≠ shared.pipeline.durable) (few : shared.Few) :
    ∃ seen, Reached config opened
      { pipeline := (shared.pipeline.publishRisk risk).2,
        history := { shared.history with risks := shared.history.risks ++ [risk] }, seen }
      (Function.update threads .risk
        (.access (.readSequence shared.pipeline.riskChecked) fun sequence =>
          .done (some (.publishRisk risk, .result
            { status := .ok, sequence, frontier := shared.pipeline.riskChecked + 1 })))) := by
  have isOpen := (reached.safe each (Invariant.begins start)).1.isOpen
  obtain ⟨last, idle⟩ := idle
  have asked := reached.next idle ⟨.publishRisk risk, rfl, rfl⟩
  have program : ((PipelineProgram.ofCall config (.publishRisk risk)).map fun answer =>
      some (PipelineCall.publishRisk risk, answer)) =
      .access .loadOwn fun checked => .access .loadUpstream fun durable =>
        if checked = durable then .done (some (.publishRisk risk, .result { status := .empty }))
        else
          .access (.writeRisk checked risk) fun _ => .access (.storeOwn (checked + 1)) fun _ =>
          .access (.readSequence checked) fun sequence =>
          .done (some (.publishRisk risk,
            .result { status := .ok, sequence, frontier := checked + 1 })) := by
    rw [PipelineProgram.ofCall, PipelineProgram.publishRisk, if_neg decided]
    simp only [Program.map, Program.bind]
    apply congrArg (Program.access PipelineAccess.loadOwn)
    funext checked
    apply congrArg (Program.access PipelineAccess.loadUpstream)
    funext durable
    split_ifs <;> rfl
  rw [program] at asked
  have loaded := reached_perform start (reached_perform start asked few) few
  simp only [perform, PipelineRole.frontier, PipelineRole.ahead, due, if_false] at loaded
  have stored := reached_perform start (reached_perform start loaded few) few
  have moved : (shared.pipeline.publishRisk risk).2 =
      { shared.pipeline.setSlotAt shared.pipeline.riskChecked
          { shared.pipeline.slotAt shared.pipeline.riskChecked with risk } with
        riskChecked := shared.pipeline.riskChecked + 1 } := by
    rw [CommandPipeline.publishRisk, if_neg (by simp [isOpen]), if_neg decided, if_neg due]
  rw [moved]
  dsimp only [perform, PipelineRole.note, PipelineRole.withFrontier] at stored
  rw [CommandPipeline.setSlotAt_riskChecked, CommandPipeline.slotAt_setSlotAt] at stored
  exact ⟨_, stored⟩

/-- The first command is durable. -/
def durableCalls (first : CommandEnvelope) : List PipelineCall :=
  [.tryReplay first, .publishDurable 1]

/-- The first command leaves the ring, and the producer fills it. -/
def laterCalls (config : CommandPipelineConfig) (later : CommandEnvelope) : List PipelineCall :=
  [.publishReserve { decision := .accepted }, .tryConsume] ++
    List.replicate config.capacity.toNat (.tryReplay later)

section Calls
variable (start : ({} : CommandPipeline).open config true = (.ok, opened)) {risk : RiskResult}
variable (decided : risk.decision ≠ .pending) {first later : CommandEnvelope}
variable (numbered : first.commandSequence ≠ 0) (numbered' : later.commandSequence ≠ 0)
include start

theorem some_room : 0 ≠ config.capacity.toUInt64 := by
  rw [Ne, ← UInt64.toNat_inj, UInt32.toNat_toUInt64]
  exact fun none_there => (opened_eq start).2.1 (UInt32.toNat_inj.mp none_there.symm)

include numbered

theorem durableCalls_spec (ready : final NotedPipeline.call { pipeline := opened }
      (durableCalls first) = noted) :
    noted.pipeline.isOpen ∧ noted.pipeline.riskChecked = 0 ∧ noted.pipeline.durable = 1 ∧
      noted.history = { published := [first] } := by
  rw [← ready, (opened_eq start).1]
  simp [durableCalls, final, NotedPipeline.call, CommandPipeline.call, CommandPipeline.tryReplay,
    numbered, CommandPipeline.tryPublishEnvelope, some_room start, CommandPipeline.publishDurable,
    PipelineHistory.note, CommandPipeline.setSlotAt]

include decided

theorem handledCalls_spec (handled : final NotedPipeline.call { pipeline := opened }
      (durableCalls first ++ [.publishRisk risk, .publishReserve { decision := .accepted },
        .tryConsume]) = noted) :
    noted.pipeline.persistenceFailed = false ∧
      ∃ slot, noted.history = ⟨[first], [risk], [{ decision := .accepted }], [slot]⟩ := by
  rw [← handled, (opened_eq start).1]
  simp [durableCalls, final, NotedPipeline.call, CommandPipeline.call, CommandPipeline.tryReplay,
    numbered, CommandPipeline.tryPublishEnvelope, some_room start, CommandPipeline.publishDurable,
    CommandPipeline.publishRisk, decided, CommandPipeline.publishReserve,
    CommandPipeline.tryConsume, PipelineHistory.note, CommandPipeline.setSlotAt]

include numbered'

theorem laterCalls_spec (ready : final NotedPipeline.call { pipeline := opened }
      (durableCalls first) = noted) :
    ∃ slot, (final NotedPipeline.call (noted.call (.publishRisk risk)).2
        (laterCalls config later)).history =
      ⟨first :: List.replicate config.capacity.toNat later, [risk], [{ decision := .accepted }],
        [slot]⟩ := by
  generalize handled : final NotedPipeline.call { pipeline := opened } (durableCalls first ++
    [.publishRisk risk, .publishReserve { decision := .accepted }, .tryConsume]) = filling
  obtain ⟨healthy, slot, gone⟩ := handledCalls_spec start decided numbered handled
  have whole : final NotedPipeline.call (noted.call (.publishRisk risk)).2
      (laterCalls config later) =
      final NotedPipeline.call filling
        (List.replicate config.capacity.toNat (.tryReplay later)) := by
    rw [← handled, final_append, ready, laterCalls, final_append]
    rfl
  have begins : PipelineInvariant config ({ pipeline := opened } : NotedPipeline).pipeline {} :=
    .opened start
  have one : filling.history.published.length = 1 := by rw [gone]; rfl
  have free : filling.history.consumed.length = 1 := by rw [gone]; rfl
  have small := config.capacity.toNat_lt
  have kept : PipelineInvariant config filling.pipeline filling.history := by
    rw [← handled]
    apply begins.run
    rw [handled]
    omega
  refine ⟨slot, ?_⟩
  rw [whole, final_tryReplay kept healthy numbered' (by omega) (by omega), gone]
  rfl

end Calls

/-- The slot of the first command has a later one, where the producer has come around to it. -/
theorem Invariant.around (kept : Invariant config opened shared) {first later : CommandEnvelope}
    (filled : shared.history.published = first :: List.replicate config.capacity.toNat later)
    (gone : shared.history.consumed.length = 1) : (shared.pipeline.slotAt 0).command = later := by
  have positive : config.capacity.toNat ≠ 0 :=
    fun none_there => (opened_eq kept.start).2.1 (UInt32.toNat_inj.mp none_there)
  have last : config.capacity.toNat < shared.history.published.length := by
    rw [filled, List.length_cons, List.length_replicate]
    exact Nat.lt_succ_self _
  have stored := (kept.stored config.capacity.toNat (by omega) last).command
  have ring : config.capacity.toNat % shared.pipeline.config.capacity.toNat =
      0 % shared.pipeline.config.capacity.toNat := by
    rw [kept.config, Nat.mod_self, Nat.zero_mod]
  rw [slot_congr ring, filled, List.getElem?_cons, if_neg positive,
    List.getElem?_replicate_of_lt (by omega), Option.some_inj] at stored
  exact stored.symm

/-- The ring comes around to a slot between the publication of its risk result and the reading of
its sequence: the call that publishes the result reports the sequence of a later command. -/
theorem publish_risk_reports_another
    (start : ({} : CommandPipeline).open config true = (.ok, opened)) {risk : RiskResult}
    (decided : risk.decision ≠ .pending) {first later : CommandEnvelope}
    (numbered : first.commandSequence ≠ 0) (numbered' : later.commandSequence ≠ 0) :
    ∃ shared threads, Reached config opened shared threads ∧
      shared.history.published[0]? = some first ∧ shared.history.risks = [risk] ∧
      threads .risk = .done (some (.publishRisk risk,
        .result { status := .ok, sequence := later.commandSequence, frontier := 1 })) := by
  generalize ready : final NotedPipeline.call { pipeline := opened } (durableCalls first) = noted
  obtain ⟨isOpen, unchecked, durable, published⟩ := durableCalls_spec start numbered ready
  obtain ⟨slot, filled⟩ := laterCalls_spec start decided numbered numbered' ready
  have due : noted.pipeline.riskChecked ≠ noted.pipeline.durable := by
    rw [unchecked, durable]
    decide
  have few : noted.history.published.length < 2 ^ 64 := by
    rw [published]
    exact Nat.one_lt_two_pow (by decide)
  have small := config.capacity.toNat_lt
  -- the first command is durable
  have idle : Reached config opened { pipeline := opened, history := {} } fun _ => .done none :=
    .start
  obtain ⟨seen, threads, reached, ended, -⟩ := reached_calls start { pipeline := opened }
    (durableCalls first) idle (fun _ _ => ⟨none, rfl⟩) (by rw [ready]; exact few)
  rw [ready] at reached
  -- its risk result is published
  obtain ⟨seen, unread⟩ := reached_unread start reached (ended .risk ⟨none, rfl⟩) decided due few
  have checked : (noted.call (.publishRisk risk)).2 =
      { pipeline := (noted.pipeline.publishRisk risk).2,
        history := { noted.history with risks := noted.history.risks ++ [risk] } } := by
    simp only [NotedPipeline.call, CommandPipeline.call, PipelineHistory.note,
      CommandPipeline.publishRisk_ok isOpen decided due, if_true]
  rw [checked] at filled
  -- the ring comes around
  have others : ∀ call ∈ laterCalls config later, call.role ≠ .risk := by
    simp [laterCalls, PipelineCall.role]
  have still (program : PipelineProgram (Option (PipelineCall × PipelineAnswer))) :
      ∀ call ∈ laterCalls config later, ∃ last,
        Function.update threads .risk program call.role = .done last := by
    intro call member
    rw [Function.update_of_ne (others call member)]
    exact ended call.role ⟨none, rfl⟩
  obtain ⟨seen, threads, around, -, untouched⟩ := reached_calls start _ (laterCalls config later)
    unread (still _) (by
      rw [filled, List.length_cons, List.length_replicate]
      omega)
  have here := (untouched .risk others).trans (Function.update_self _ _ _)
  rw [filled] at around
  have kept := (around.safe each (Invariant.begins start)).1
  have read := kept.around rfl rfl
  rw [unchecked] at here
  refine ⟨_, _, around.access here does_readSequence, rfl, rfl, ?_⟩
  rw [Function.update_self, read]
  rfl

theorem publish_risk_reports_another_nine : ∃ shared threads,
    Reached { capacity := 2 } (({} : CommandPipeline).open { capacity := 2 } true).2 shared
        threads ∧
      shared.history.published[0]? = some ⟨1, { message := .saveSnapshot }⟩ ∧
      shared.history.risks = [{ decision := .accepted }] ∧
      threads .risk = .done (some (.publishRisk { decision := .accepted },
        .result { status := .ok, sequence := 9, frontier := 1 })) :=
  @publish_risk_reports_another _ _ rfl { decision := .accepted } (by decide)
    ⟨1, { message := .saveSnapshot }⟩ ⟨9, { message := .saveSnapshot }⟩ (by decide) (by decide)

end LateRead

end SharedPipeline

end Fexma
