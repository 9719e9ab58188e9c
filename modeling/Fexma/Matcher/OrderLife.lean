import Fexma.Matcher.Types
import Fexma.Library.Transducer
import Mathlib.Tactic.Ring

/-! The life of an order in the event stream. It is accepted, takes, comes to rest
and gives, and ends when nothing is left of it or with a rejection. -/
namespace Fexma

open Transducer

/-- The event mentions the order. -/
def Event.Names (id : OrderId) : Event → Prop
  | .accepted other => other = id
  | .rejected other _ => other = id
  | .trade execution => execution.takerOrderId = id ∨ execution.makerOrderId = id
  | .rested order => order.id = id
  | .done other => other = id
  | .fatal _ offendingOrderId lastOrderId => offendingOrderId = id ∨ lastOrderId = id
  | _ => False

/-- The units an event trades for an order, as taker. -/
def Event.taken (id : OrderId) : Event → ℕ
  | .trade execution => if execution.takerOrderId = id then execution.quantity.toNat else 0
  | _ => 0

/-- The units an event trades for an order, as maker. -/
def Event.given (id : OrderId) : Event → ℕ
  | .trade execution => if execution.makerOrderId = id then execution.quantity.toNat else 0
  | _ => 0

def takenBy (id : OrderId) (events : List Event) : ℕ := (events.map (Event.taken id)).sum

def givenBy (id : OrderId) (events : List Event) : ℕ := (events.map (Event.given id)).sum

def Event.Rests (id : OrderId) (event : Event) : Prop :=
  ∃ order : OrderRestedEvent, event = .rested order ∧ order.id = id

/-- Where an order stands, with what is left of it. -/
inductive Stage where
  | unseen
  | taking (left : ℕ)
  | resting (left : ℕ)
  | ended

/-- The life of an order, event by event. When nothing is left its end comes next,
behind the end of a maker at most. -/
inductive Stage.Step (order : NewLimitOrder) : Stage → Event → Stage → Prop
  | accept (positive : order.quantity ≠ 0) :
    Step order .unseen (.accepted order.id) (.taking order.quantity.toNat)
  | refuse (zero : order.quantity = 0) :
    Step order .unseen (.rejected order.id .invalidQuantity) .ended
  | take {left : ℕ} {trade : TradeEvent} (taker : trade.takerOrderId = order.id)
      (apart : trade.makerOrderId ≠ order.id) (positive : trade.quantity ≠ 0)
      (enough : trade.quantity.toNat ≤ left) :
    Step order (.taking left) (.trade trade) (.taking (left - trade.quantity.toNat))
  | fill : Step order (.taking 0) (.done order.id) .ended
  | rest {remaining : Quantity} (positive : remaining ≠ 0) :
    Step order (.taking remaining.toNat)
      (.rested ⟨order.id, order.ownerId, order.side, order.price, remaining⟩)
      (.resting remaining.toNat)
  | reject (positive : order.quantity ≠ 0) :
    Step order (.taking order.quantity.toNat) (.rejected order.id .bookInsertFailed) .ended
  | give {left : ℕ} {trade : TradeEvent} (maker : trade.makerOrderId = order.id)
      (apart : trade.takerOrderId ≠ order.id) (positive : trade.quantity ≠ 0)
      (enough : trade.quantity.toNat ≤ left) :
    Step order (.resting left) (.trade trade) (.resting (left - trade.quantity.toNat))
  | empty : Step order (.resting 0) (.done order.id) .ended
  | other {stage : Stage} {event : Event} (unrelated : ¬ event.Names order.id)
      (taking : stage = .taking 0 → ∃ maker, event = .done maker) (resting : stage ≠ .resting 0) :
    Step order stage event stage

/-- The events tell a life of the order that leads to a stage. -/
abbrev Life (order : NewLimitOrder) : Stage → List Event → Stage → Prop := Path (Stage.Step order)

/-- What is left of the order at a stage. -/
def Stage.left (order : NewLimitOrder) : Stage → ℕ
  | .unseen => order.quantity.toNat
  | .taking left => left
  | .resting left => left
  | .ended => 0

section Life
variable {order : NewLimitOrder} {events ahead behind : List Event} {event : Event}
variable {stage first last : Stage}

@[simp] theorem takenBy_cons (id : OrderId) :
    takenBy id (event :: events) = event.taken id + takenBy id events := rfl

@[simp] theorem givenBy_cons (id : OrderId) :
    givenBy id (event :: events) = event.given id + givenBy id events := rfl

@[simp] theorem takenBy_append (id : OrderId) :
    takenBy id (ahead ++ behind) = takenBy id ahead + takenBy id behind := by
  simp [takenBy]

@[simp] theorem givenBy_append (id : OrderId) :
    givenBy id (ahead ++ behind) = givenBy id ahead + givenBy id behind := by
  simp [givenBy]

/-- An event that does not mention the order trades nothing of it. -/
theorem untraded {id : OrderId} (unrelated : ¬ event.Names id) :
    event.taken id = 0 ∧ event.given id = 0 := by
  cases event with
  | trade trade =>
    obtain ⟨taker, maker⟩ := not_or.mp unrelated
    exact ⟨if_neg taker, if_neg maker⟩
  | _ => exact ⟨rfl, rfl⟩

theorem ne_rejected {id : OrderId} {reason : RejectReason} (unrelated : ¬ event.Names id) :
    event ≠ .rejected id reason := by
  rintro rfl
  exact unrelated rfl

/-- The units of the order that a rejection hands back. -/
def handedBack (order : NewLimitOrder) (events : List Event) : ℕ :=
  if .rejected order.id .bookInsertFailed ∈ events then order.quantity.toNat else 0

/-- A rejection hands the order back whole, any other event leaves that as it is. -/
theorem handedBack_cons : handedBack order (event :: events) =
    if event = .rejected order.id .bookInsertFailed then order.quantity.toNat
    else handedBack order events := by
  by_cases rejection : event = .rejected order.id .bookInsertFailed
  · simp [handedBack, rejection]
  · simp [handedBack, rejection, Ne.symm rejection]

/-- Every unit of the order is left, traded or handed back. -/
theorem Life.balance (life : Life order first events last) :
    last.left order + takenBy order.id events + givenBy order.id events +
      handedBack order events = first.left order := by
  induction life with
  | nil => simp [takenBy, givenBy, handedBack]
  | cons step rest ih =>
    rw [takenBy_cons, givenBy_cons, handedBack_cons]
    cases step with
    | accept => simpa [Stage.left, Event.taken, Event.given] using ih
    | refuse zero =>
      rw [Stage.left, zero]
      simpa [Stage.left, Event.taken, Event.given] using ih
    | take taker apart positive enough =>
      rw [Event.taken, if_pos taker, Event.given, if_neg apart, if_neg (by simp)]
      simp only [Stage.left] at ih ⊢
      omega
    | fill => simpa [Stage.left, Event.taken, Event.given] using ih
    | rest => simpa [Stage.left, Event.taken, Event.given] using ih
    | reject =>
      simp only [Stage.left, Event.taken, Event.given, ↓reduceIte] at ih ⊢
      omega
    | give maker apart positive enough =>
      rw [Event.taken, if_neg apart, Event.given, if_pos maker, if_neg (by simp)]
      simp only [Stage.left] at ih ⊢
      omega
    | empty => simpa [Stage.left, Event.taken, Event.given] using ih
    | other unrelated =>
      obtain ⟨taken, given⟩ := untraded unrelated
      rw [taken, given, if_neg (ne_rejected unrelated)]
      omega

/-- The end of the order, one way or the other. -/
def Event.Ends (id : OrderId) (event : Event) : Prop :=
  event = .done id ∨ ∃ reason, event = .rejected id reason

theorem Event.Ends.names {id : OrderId} (ends : event.Ends id) : event.Names id := by
  rcases ends with rfl | ⟨reason, rfl⟩
  · exact rfl
  · exact rfl

/-- No event mentions an order that has ended. -/
theorem Life.ended (life : Life order .ended events last) :
    ∀ event ∈ events, ¬ event.Names order.id := by
  generalize start : Stage.ended = first at life
  induction life with
  | nil => exact fun event member => nomatch member
  | cons step rest ih =>
    subst start
    cases step with
    | other unrelated => exact List.forall_mem_cons.mpr ⟨unrelated, ih rfl⟩

theorem Stage.Step.ends (step : Stage.Step order first event last) (ends : event.Ends order.id) :
    last = .ended := by
  cases step with
  | refuse => rfl
  | fill => rfl
  | reject => rfl
  | empty => rfl
  | other unrelated => exact absurd ends.names unrelated
  | _ => rcases ends with same | ⟨reason, same⟩ <;> cases same

/-- Behind its end the order is not mentioned again. -/
theorem Life.silent (life : Life order first (ahead ++ event :: behind) last)
    (ends : event.Ends order.id) : ∀ later ∈ behind, ¬ later.Names order.id := by
  obtain ⟨before, after, -, step, late⟩ := life.split_at
  obtain rfl := step.ends ends
  exact Life.ended late

/-- The order is done at most once. -/
theorem Life.done_once (life : Life order first events last) :
    events.count (.done order.id) ≤ 1 := by
  by_cases member : .done order.id ∈ events
  · obtain ⟨ahead, behind, rfl, first⟩ := List.eq_append_cons_of_mem member
    have silent := Life.silent life (.inl rfl)
    rw [List.count_append, List.count_cons_self, List.count_eq_zero_of_not_mem first,
      List.count_eq_zero_of_not_mem fun again => silent (.done order.id) again rfl]
  · rw [List.count_eq_zero_of_not_mem member]
    exact Nat.zero_le 1

/-- Nothing is handed back in front of an event that mentions the order. -/
theorem Life.kept (life : Life order first (ahead ++ event :: behind) last)
    (names : event.Names order.id) : handedBack order ahead = 0 := by
  refine if_neg fun rejected => ?_
  obtain ⟨front, rest, rfl⟩ := List.append_of_mem rejected
  rw [List.append_assoc, List.cons_append] at life
  exact Life.silent life (.inr ⟨_, rfl⟩) event (by simp) names

/-- An order done has been traded to the last unit, and not before. -/
theorem Life.done_when_filled (life : Life order .unseen (ahead ++ .done order.id :: behind) last) :
    takenBy order.id ahead + givenBy order.id ahead = order.quantity.toNat := by
  obtain ⟨before, after, early, step, -⟩ := life.split_at
  have balance := Life.balance early
  have nothing_left : before.left order = 0 := by
    cases step with
    | fill => rfl
    | empty => rfl
    | other unrelated => exact absurd rfl unrelated
  rw [nothing_left, life.kept rfl] at balance
  simpa [Stage.left] using balance

/-- An order with nothing left is done next, behind other orders that are done. -/
theorem Life.done_next (life : Life order first events last)
    (due : first = .taking 0 ∨ first = .resting 0) (gone : last ≠ .taking 0 ∧ last ≠ .resting 0) :
    ∃ others rest, events = others ++ .done order.id :: rest ∧
      ∀ other ∈ others, ∃ maker, other = .done maker := by
  induction life with
  | nil => exact absurd due (not_or.mpr gone)
  | cons step rest ih =>
    cases step with
    | fill => exact ⟨[], _, rfl, fun other member => nomatch member⟩
    | empty => exact ⟨[], _, rfl, fun other member => nomatch member⟩
    | take taker apart positive enough =>
      rename_i left trade
      have none_left : left = 0 := by simpa using due
      have some_traded : trade.quantity.toNat ≠ 0 := fun zero => positive (UInt32.toNat_inj.mp zero)
      omega
    | give maker apart positive enough =>
      rename_i left trade
      have none_left : left = 0 := by simpa using due
      have some_traded : trade.quantity.toNat ≠ 0 := fun zero => positive (UInt32.toNat_inj.mp zero)
      omega
    | rest positive =>
      exact absurd (UInt32.toNat_inj.mp (by simpa using due)) positive
    | reject positive =>
      exact absurd (UInt32.toNat_inj.mp (by simpa using due)) positive
    | other unrelated taking resting =>
      obtain ⟨maker, rfl⟩ := taking (due.resolve_right resting)
      obtain ⟨others, behind, rfl, ends⟩ := ih due gone
      exact ⟨.done maker :: others, behind, rfl, List.forall_mem_cons.mpr ⟨⟨maker, rfl⟩, ends⟩⟩
    | _ => simp at due

theorem Life.trade_shape {trade : TradeEvent}
    (life : Life order first (ahead ++ .trade trade :: behind) last)
    (names : (Event.trade trade).Names order.id) :
    trade.quantity ≠ 0 ∧ trade.takerOrderId ≠ trade.makerOrderId := by
  obtain ⟨before, after, -, step, -⟩ := life.split_at
  cases step with
  | take taker apart positive => exact ⟨positive, fun same => apart (same.symm.trans taker)⟩
  | give maker apart positive => exact ⟨positive, fun same => apart (same.trans maker)⟩
  | other unrelated => exact absurd names unrelated

/-- Behind the trade of its last unit the order is done next. -/
theorem Life.filled_then_done {trade : TradeEvent}
    (life : Life order .unseen (ahead ++ .trade trade :: behind) last)
    (gone : last ≠ .taking 0 ∧ last ≠ .resting 0) (names : (Event.trade trade).Names order.id)
    (filled : takenBy order.id (ahead ++ [.trade trade]) +
      givenBy order.id (ahead ++ [.trade trade]) = order.quantity.toNat) :
    ∃ others rest, behind = others ++ .done order.id :: rest ∧
      ∀ other ∈ others, ∃ maker, other = .done maker := by
  obtain ⟨before, after, early, step, late⟩ := life.split_at
  have balance := Life.balance (early.concat step)
  have nothing_left : after.left order = 0 := by
    rw [Stage.left] at balance
    omega
  refine Life.done_next late ?_ gone
  cases step with
  | take => exact .inl (congrArg Stage.taking nothing_left)
  | give => exact .inr (congrArg Stage.resting nothing_left)
  | other unrelated => exact absurd names unrelated

/-- An order that rests has come to rest before. -/
theorem Life.rested_before (life : Life order first events last)
    (rested : first = .ended ∨ ∃ left, first = .resting left) :
    ∀ event ∈ events, ¬ event.Rests order.id := by
  induction life with
  | nil => exact fun event member => nomatch member
  | cons step rest ih =>
    refine List.forall_mem_cons.mpr ?_
    cases step with
    | fill => simp at rested
    | give => exact ⟨by simp [Event.Rests], ih (.inr ⟨_, rfl⟩)⟩
    | empty => exact ⟨by simp [Event.Rests], ih (.inl rfl)⟩
    | other unrelated =>
      refine ⟨?_, ih rested⟩
      rintro ⟨order, rfl, same⟩
      exact unrelated same
    | _ => simp at rested

/-- An order comes to rest once, with all of it that is not traded. -/
theorem Life.rests (life : Life order .unseen (ahead ++ event :: behind) last)
    (rests : event.Rests order.id) :
    (∃ remaining : Quantity, remaining.toNat + takenBy order.id ahead + givenBy order.id ahead =
        order.quantity.toNat ∧
        event = .rested ⟨order.id, order.ownerId, order.side, order.price, remaining⟩) ∧
      ∀ later ∈ behind, ¬ later.Rests order.id := by
  obtain ⟨before, after, early, step, late⟩ := life.split_at
  have balance := Life.balance early
  obtain ⟨rested, rfl, same⟩ := rests
  rw [life.kept same] at balance
  cases step with
  | rest => exact ⟨⟨_, balance, rfl⟩, Life.rested_before late (.inr ⟨_, rfl⟩)⟩
  | other unrelated => exact absurd same unrelated

/-- No unit of a rejected order is traded. -/
theorem Life.rejected_untraded {reason : RejectReason} (life : Life order .unseen events last)
    (rejected : .rejected order.id reason ∈ events) {trade : TradeEvent}
    (traded : .trade trade ∈ events) : ¬ (Event.trade trade).Names order.id := by
  intro names
  obtain ⟨ahead, behind, rfl⟩ := List.append_of_mem rejected
  obtain ⟨before, after, early, step, -⟩ := life.split_at
  have balance := Life.balance early
  have untouched : before.left order = order.quantity.toNat := by
    cases step with
    | refuse => rfl
    | reject => rfl
    | other unrelated => exact absurd rfl unrelated
  rcases List.mem_append.mp traded with inFront | rest
  · obtain ⟨front, between, rfl⟩ := List.append_of_mem inFront
    have positive := (Life.trade_shape early names).1
    have some_traded : trade.quantity.toNat ≠ 0 := fun zero => positive (UInt32.toNat_inj.mp zero)
    have counted : (Event.trade trade).taken order.id + (Event.trade trade).given order.id ≠ 0 := by
      rcases names with taker | maker
      · simp [Event.taken, taker, some_traded]
      · simp [Event.given, maker, some_traded]
    rw [untouched] at balance
    simp only [takenBy_append, takenBy_cons, givenBy_append, givenBy_cons, Stage.left] at balance
    omega
  · rcases List.mem_cons.mp rest with same | late
    · cases same
    · exact Life.silent life (.inr ⟨_, rfl⟩) _ late names

end Life

end Fexma
