import Mathlib.Algebra.BigOperators.Group.List.Basic
import Mathlib.Data.Rat.Floor
import Mathlib.Tactic.FieldSimp
import Mathlib.Tactic.Linarith
import Mathlib.Tactic.Positivity
import SpatialComputer.Device.Basic

/-!
# Clone countdowns

Clone requests are decided by three numbers of a device, and these depend on nothing but the times of its rounds and on when it asks. So they make a countdown of their own, which can be read over any numbers that can be rounded down: over doubles it is what devices do, over the rationals what they would do if nothing was rounded.

Over the rationals every grant is paid for. What the requests were charged with and what the timer still holds are together at least one delay for each grant and one to begin with; the timer never holds more than one delay; and no time between two rounds is charged twice.
-/

namespace SpatialComputer

/-- Numbers that can be rounded down to a whole number. -/
class Floored (α : Type) where
  floor : α → α

instance : Floored Float := ⟨Binary64.floor⟩

instance : Floored ℚ := ⟨fun x => ⌊x⌋⟩

/-- The clone timer of a device, the time between its two latest rounds that the timer was not yet charged with, and the time of its latest round. -/
@[ext]
structure Countdown (α : Type) where
  timer : α
  elapsed : α
  last : Option α

namespace Countdown

section

variable {α : Type} [OfNat α 0] [OfNat α 1] [Add α] [Sub α] [Neg α] [Mul α] [Div α] [LT α]
  [DecidableLT α] [LE α] [DecidableLE α] [Floored α]

def fresh (delay : α) : Countdown α := ⟨delay, 0, none⟩

def round (time : α) (c : Countdown α) : Countdown α where
  timer := c.timer
  elapsed := match c.last with
    | some last => time - last
    | none => 0
  last := some time

/-- What a request charges the timer with. A timer that has run out already is not charged. -/
def charge (c : Countdown α) : α := if 0 < c.timer then c.elapsed else 0

def charged (c : Countdown α) : α := if 0 < c.timer then c.timer - c.elapsed else c.timer

/-- A timer that ran out, raised by the whole number of delays that brings it above zero. -/
def rearmed (delay timer : α) : α := timer + delay * (Floored.floor (-timer / delay) + 1)

/-- Whether a request is granted, and the countdown after it. -/
def request (delay : α) (c : Countdown α) : Bool × Countdown α :=
  if delay ≤ 0 then (true, c)
  else if 0 < c.charged then (false, ⟨c.charged, 0, c.last⟩)
  else (true, ⟨rearmed delay c.charged, 0, c.last⟩)

end

inductive Action (α : Type) where
  | round (time : α)
  | request

def Action.time? {α : Type} : Action α → Option α
  | round time => some time
  | request => none

def times {α : Type} (actions : List (Action α)) : List α := actions.filterMap Action.time?

/-- A countdown with a record of its requests: how many were granted, and what each of them charged. -/
structure Ledger (α : Type) extends Countdown α where
  granted : Nat := 0
  charges : List α := []

section

variable {α : Type} [OfNat α 0] [OfNat α 1] [Add α] [Sub α] [Neg α] [Mul α] [Div α] [LT α]
  [DecidableLT α] [LE α] [DecidableLE α] [Floored α]

def Ledger.enter (delay : α) (l : Ledger α) : Action α → Ledger α
  | .round time => { l with toCountdown := l.toCountdown.round time }
  | .request =>
    { toCountdown := (l.toCountdown.request delay).2
      granted := l.granted + (l.toCountdown.request delay).1.toNat
      charges := l.charges ++ [l.toCountdown.charge] }

def ledger (delay : α) (actions : List (Action α)) : Ledger α :=
  actions.foldl (Ledger.enter delay) { toCountdown := .fresh delay }

theorem ledger_append_singleton (delay : α) (actions : List (Action α)) (action : Action α) :
    ledger delay (actions ++ [action]) = (ledger delay actions).enter delay action := by
  rw [ledger, List.foldl_append]
  rfl

end

/-! ### The countdown of a device -/

end Countdown

namespace Device

variable {U : Type}

def countdown (d : Device U) : Countdown Float := ⟨d.cloneTimer, d.roundElapsed, d.lastCompute⟩

theorem countdown_runRound {P : Type} [Processor U P] (time : Float) (d : Device U) :
    (d.runRound time).countdown = d.countdown.round time := by
  cases hlast : d.lastCompute <;> simp only [runRound, countdown, Countdown.round, hlast]

theorem countdown_settleCloneTimer (delay : Float) (d : Device U) :
    (d.settleCloneTimer delay).1 = (d.countdown.request delay).1 ∧
      (d.settleCloneTimer delay).2.countdown = (d.countdown.request delay).2 := by
  have hcharged : d.countdown.charged =
      if 0 < d.cloneTimer then d.cloneTimer - d.roundElapsed else d.cloneTimer := rfl
  unfold settleCloneTimer Countdown.request
  dsimp only
  rw [← hcharged]
  by_cases hnone : delay ≤ 0
  · rw [if_pos hnone, if_pos hnone]
    exact ⟨rfl, rfl⟩
  · rw [if_neg hnone, if_neg hnone]
    split <;> exact ⟨rfl, rfl⟩

end Device

namespace Countdown

/-! ### Without rounding -/

def span (times : List ℚ) : ℚ := times.getLastD 0 - times.headD 0

theorem times_append_round (actions : List (Action ℚ)) (time : ℚ) :
    times (actions ++ [.round time]) = times actions ++ [time] := by
  simp [times, Action.time?]

theorem times_append_request (actions : List (Action ℚ)) :
    times (actions ++ [.request]) = times actions := by
  simp [times, Action.time?]

private theorem span_append_of_last {times : List ℚ} {last : ℚ} (hlast : times.getLast? = some last)
    (time : ℚ) : span (times ++ [time]) = span times + (time - last) := by
  cases times with
  | nil => cases hlast
  | cons first rest =>
    have hget : (first :: rest).getLastD 0 = last := by
      rw [List.getLastD_eq_getLast?, hlast, Option.getD_some]
    rw [span, span, hget, List.getLastD_concat, List.cons_append, List.headD_cons, List.headD_cons]
    ring

variable {delay : ℚ}

/-- Armed again, a timer that ran out holds more than nothing and no more than one delay, and has gained a delay at least. -/
theorem rearmed_bounds (hdelay : 0 < delay) {timer : ℚ} (hout : timer ≤ 0) :
    0 < rearmed delay timer ∧ rearmed delay timer ≤ delay ∧ timer + delay ≤ rearmed delay timer := by
  have hquotient : delay * (-timer / delay) = -timer := mul_div_cancel₀ _ hdelay.ne'
  have hlow : (⌊-timer / delay⌋ : ℚ) ≤ -timer / delay := Int.floor_le _
  have hhigh : -timer / delay < ⌊-timer / delay⌋ + 1 := Int.lt_floor_add_one _
  have hnonneg : (0 : ℚ) ≤ ⌊-timer / delay⌋ := by
    exact_mod_cast Int.floor_nonneg.mpr (div_nonneg (neg_nonneg.mpr hout) hdelay.le)
  have hrearmed : rearmed delay timer = timer + delay * (⌊-timer / delay⌋ + 1) := rfl
  have hlow := mul_le_mul_of_nonneg_left hlow hdelay.le
  have hhigh := mul_lt_mul_of_pos_left hhigh hdelay
  have hnonneg := mul_nonneg hdelay.le hnonneg
  rw [hquotient] at hlow hhigh
  rw [hrearmed]
  refine ⟨by linarith, by linarith, by linarith⟩

theorem charged_eq (c : Countdown ℚ) : c.charged = c.timer - c.charge := by
  unfold charged charge
  split
  · rfl
  · rw [sub_zero]

/-- How a ledger stands after actions with rounds at the given times. -/
structure Solvent (delay : ℚ) (times : List ℚ) (l : Ledger ℚ) : Prop where
  last : l.last = times.getLast?
  timer_pos : 0 < l.timer
  timer_le : l.timer ≤ delay
  elapsed_nonneg : 0 ≤ l.elapsed
  once : l.charges.sum + l.elapsed ≤ span times
  paid : delay * (l.granted + 1) ≤ l.charges.sum + l.timer

namespace Solvent

variable {times : List ℚ} {l : Ledger ℚ}

private theorem fresh (hdelay : 0 < delay) : Solvent delay [] { toCountdown := .fresh delay } where
  last := rfl
  timer_pos := hdelay
  timer_le := le_rfl
  elapsed_nonneg := le_rfl
  once := by simp [Countdown.fresh, span]
  paid := by simp [Countdown.fresh]

private theorem round (solvent : Solvent delay times l) {time : ℚ}
    (hlater : ∀ last, times.getLast? = some last → last ≤ time) :
    Solvent delay (times ++ [time]) (l.enter delay (.round time)) := by
  have honce := solvent.once
  have helapsed := solvent.elapsed_nonneg
  cases hlast : times.getLast? with
  | none =>
    obtain rfl := List.getLast?_eq_none_iff.mp hlast
    have hfirst : (l.toCountdown.round time).elapsed = 0 := by
      rw [Countdown.round, solvent.last, hlast]
    refine ⟨List.getLast?_concat.symm, solvent.timer_pos, solvent.timer_le, hfirst.ge, ?_, solvent.paid⟩
    show l.charges.sum + (l.toCountdown.round time).elapsed ≤ _
    have hspan : span [time] = span [] := by simp [span]
    rw [hfirst, List.nil_append, hspan]
    linarith
  | some last =>
    have hgap : (l.toCountdown.round time).elapsed = time - last := by
      rw [Countdown.round, solvent.last, hlast]
    have hnonneg := sub_nonneg.mpr (hlater last hlast)
    refine ⟨List.getLast?_concat.symm, solvent.timer_pos, solvent.timer_le, hgap ▸ hnonneg, ?_,
      solvent.paid⟩
    show l.charges.sum + (l.toCountdown.round time).elapsed ≤ _
    rw [hgap, span_append_of_last hlast]
    linarith

private theorem charge_eq (solvent : Solvent delay times l) : l.toCountdown.charge = l.elapsed :=
  if_pos solvent.timer_pos

private theorem request (hdelay : 0 < delay) (solvent : Solvent delay times l) :
    Solvent delay times (l.enter delay .request) := by
  have hcharged : l.toCountdown.charged = l.timer - l.elapsed := by
    rw [charged_eq, solvent.charge_eq]
  have honce := solvent.once
  have hpaid := solvent.paid
  have htimer := solvent.timer_le
  have helapsed := solvent.elapsed_nonneg
  -- Granted or not, a request moves the elapsed time to the charges.
  have hsum : (l.charges ++ [l.toCountdown.charge]).sum = l.charges.sum + l.elapsed := by
    rw [List.sum_append, List.sum_singleton, solvent.charge_eq]
  rw [Ledger.enter]
  unfold Countdown.request
  rw [if_neg (not_le.mpr hdelay)]
  split
  · rename_i hleft
    refine ⟨solvent.last, hleft, ?_, le_rfl, ?_, ?_⟩
    · show l.toCountdown.charged ≤ delay
      linarith
    · rw [hsum]
      linarith
    · simp only [hsum, hcharged, Bool.toNat_false, Nat.add_zero]
      linarith
  · rename_i hout
    obtain ⟨hpos, hle, hgain⟩ := rearmed_bounds hdelay (not_lt.mp hout)
    refine ⟨solvent.last, hpos, hle, le_rfl, ?_, ?_⟩
    · rw [hsum]
      linarith
    · simp only [hsum, Bool.toNat_true, Nat.cast_add, Nat.cast_one]
      linarith

end Solvent

/-- What every action passes on holds after all of them. -/
theorem solvent_ledger (hdelay : 0 < delay) (actions : List (Action ℚ)) :
    (times actions).Pairwise (· ≤ ·) → Solvent delay (times actions) (ledger delay actions) := by
  induction actions using List.reverseRecOn with
  | nil => exact fun _ => .fresh hdelay
  | append_singleton actions action ih =>
    intro hsorted
    rw [ledger_append_singleton]
    cases action with
    | round time =>
      rw [times_append_round] at hsorted ⊢
      obtain ⟨hbefore, -, hlater⟩ := List.pairwise_append.mp hsorted
      refine (ih hbefore).round fun last hlast => ?_
      exact hlater last (List.mem_of_getLast? hlast) time List.mem_cons_self
    | request =>
      rw [times_append_request] at hsorted ⊢
      exact (ih hsorted).request hdelay

theorem request_again (hdelay : 0 < delay) {actions : List (Action ℚ)}
    (hsorted : (times actions).Pairwise (· ≤ ·)) :
    let l := ledger delay (actions ++ [.request])
    l.toCountdown.charge = 0 ∧ l.toCountdown.request delay = (false, l.toCountdown) := by
  intro l
  have solvent : Solvent delay (times (actions ++ [.request])) l :=
    solvent_ledger hdelay _ (by rwa [times_append_request])
  have helapsed : l.elapsed = 0 := by
    show (ledger delay (actions ++ [.request])).elapsed = 0
    rw [ledger_append_singleton, Ledger.enter]
    unfold Countdown.request
    rw [if_neg (not_le.mpr hdelay)]
    split <;> rfl
  have hcharge : l.toCountdown.charge = 0 := solvent.charge_eq.trans helapsed
  have hcharged : l.toCountdown.charged = l.timer := by rw [charged_eq, hcharge, sub_zero]
  refine ⟨hcharge, ?_⟩
  rw [Countdown.request, if_neg (not_le.mpr hdelay), hcharged, if_pos solvent.timer_pos, ← helapsed]

end Countdown

end SpatialComputer
