import Mathlib.Data.List.Pairwise
import Mathlib.Data.Nat.Notation

/-! Deliveries in order. A source offers its positions one after the other; a refused position
is offered again before the next one. -/
namespace Fexma.DeliveryTrail

structure Offer where
  position : ℕ
  accepted : Bool
  deriving DecidableEq, Repr

/-- The offers that lead from one position to another. -/
inductive Trail : ℕ → List Offer → ℕ → Prop where
  | here (position : ℕ) : Trail position [] position
  | accepted {position last : ℕ} {offers : List Offer} (rest : Trail (position + 1) offers last) :
    Trail position (⟨position, true⟩ :: offers) last
  | refused {position last : ℕ} {offers : List Offer} (rest : Trail position offers last) :
    Trail position (⟨position, false⟩ :: offers) last

/-- An accepted position is behind every later offer, a refused one may come again. -/
def Offer.Precedes (first second : Offer) : Prop :=
  if first.accepted then first.position < second.position else first.position ≤ second.position

variable {first middle last : ℕ} {offers more : List Offer}

/-- Trails join where one ends and the next one begins, so the trail of a run is made of those of
its calls. -/
theorem Trail.append (trail : Trail first offers middle) (onward : Trail middle more last) :
    Trail first (offers ++ more) last := by
  induction trail with
  | here => exact onward
  | accepted _ ih => exact .accepted (ih onward)
  | refused _ ih => exact .refused (ih onward)

theorem Trail.le (trail : Trail first offers last) : first ≤ last := by
  induction trail with
  | here => exact Nat.le_refl _
  | accepted _ ih => exact Nat.le_of_succ_le ih
  | refused _ ih => exact ih

theorem Trail.offered_from (trail : Trail first offers last) {offer : Offer}
    (offered : offer ∈ offers) : first ≤ offer.position := by
  induction trail with
  | here => cases offered
  | accepted _ ih =>
    rcases List.mem_cons.mp offered with rfl | later
    · exact Nat.le_refl _
    · exact Nat.le_of_succ_le (ih later)
  | refused _ ih =>
    rcases List.mem_cons.mp offered with rfl | later
    · exact Nat.le_refl _
    · exact ih later

/-- No position comes back behind its acceptance, and a refused one comes back before any later
one. -/
theorem Trail.ordered (trail : Trail first offers last) : offers.Pairwise Offer.Precedes := by
  induction trail with
  | here => exact .nil
  | accepted rest ih => exact .cons (fun _ later => rest.offered_from later) ih
  | refused rest ih => exact .cons (fun _ later => rest.offered_from later) ih

/-- The accepted positions are all positions on the way, each once and in order. -/
theorem Trail.accepted_positions (trail : Trail first offers last) :
    (offers.filter Offer.accepted).map Offer.position = List.range' first (last - first) := by
  induction trail with
  | here position => rw [Nat.sub_self]; rfl
  | @accepted position last _ rest ih =>
    have count : last - position = last - (position + 1) + 1 := by
      have := rest.le
      omega
    rw [List.filter_cons_of_pos rfl, List.map_cons, ih, count, List.range'_succ]
  | refused _ ih =>
    rw [List.filter_cons_of_neg Bool.false_ne_true]
    exact ih

/-- What is offered first is where the trail starts. -/
theorem Trail.head (trail : Trail first offers last) {offer : Offer}
    (leads : offers.head? = some offer) : offer.position = first := by
  cases trail with
  | here => cases leads
  | accepted => cases leads; rfl
  | refused => cases leads; rfl

end Fexma.DeliveryTrail
