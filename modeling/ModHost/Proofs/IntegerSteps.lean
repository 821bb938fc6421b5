import Mathlib.Algebra.Order.Floor.Div
import Mathlib.Logic.Function.Iterate
import ModHost.Binding

set_option autoImplicit false

/-!
# Steps of an integer toward a target

A step adds or subtracts, and stops at the target. It is computed on integers without bound and cut
to 64 bits only then. Steps of at least one never pass the target, and as many of them reach it as
the distance has parts of a step's size.
-/

namespace ModHost.Binding

open Script (Value)

def nearest64 (n : Int) : Int := max (-2 ^ 63) (min n (2 ^ 63 - 1))

def exactStep (current target inc dec : Int) : Int :=
  if current < target then min (current + inc) target else max (current - dec) target

theorem toInt_bounds (x : Int64) : -2 ^ 63 ≤ x.toInt ∧ x.toInt ≤ 2 ^ 63 - 1 :=
  ⟨x.le_toInt, Int.le_sub_one_of_lt x.toInt_lt⟩

theorem toInt_saturate (n : Int) : (saturate n).toInt = nearest64 n := by
  have least : Int64.minValue.toInt = -2 ^ 63 := rfl
  have greatest : Int64.maxValue.toInt = 2 ^ 63 - 1 := rfl
  unfold saturate nearest64
  rw [least, greatest]
  split
  · omega
  · split
    · omega
    · rw [Int64.toInt_ofInt_of_le (by omega) (by omega)]
      omega

theorem toInt_approachInt (current target inc dec : Int64) :
    (approachInt current target inc dec).toInt =
      nearest64 (exactStep current.toInt target.toInt inc.toInt dec.toInt) := by
  have bounds := toInt_bounds target
  unfold approachInt exactStep
  dsimp only
  simp only [Int64.lt_iff_toInt_lt]
  split
  · have sum := toInt_saturate (current.toInt + inc.toInt)
    unfold nearest64 at sum ⊢
    split <;> omega
  · have difference := toInt_saturate (current.toInt - dec.toInt)
    unfold nearest64 at difference ⊢
    split <;> omega

section Positive

variable {current target inc dec : Int64}

theorem toInt_approachInt_below (up : 1 ≤ inc.toInt) (below : current.toInt < target.toInt) :
    (approachInt current target inc dec).toInt =
      min (current.toInt + inc.toInt) target.toInt := by
  have low := toInt_bounds current
  have high := toInt_bounds target
  rw [toInt_approachInt, exactStep, if_pos below, nearest64]
  omega

theorem toInt_approachInt_above (down : 1 ≤ dec.toInt) (above : target.toInt ≤ current.toInt) :
    (approachInt current target inc dec).toInt =
      max (current.toInt - dec.toInt) target.toInt := by
  have low := toInt_bounds target
  have high := toInt_bounds current
  rw [toInt_approachInt, exactStep, if_neg (Int.not_lt.2 above), nearest64]
  omega

/-- The next value is on the same side of the target, and no farther. -/
structure Nears (current target next : Int) : Prop where
  below : current ≤ target → next ≤ target
  above : target ≤ current → target ≤ next
  near : (target - next).natAbs ≤ (target - current).natAbs

theorem nears_approachInt (up : 1 ≤ inc.toInt) (down : 1 ≤ dec.toInt) :
    Nears current.toInt target.toInt (approachInt current target inc dec).toInt := by
  rcases Int.lt_or_le current.toInt target.toInt with below | above
  · rw [toInt_approachInt_below up below]
    exact ⟨by omega, by omega, by omega⟩
  · rw [toInt_approachInt_above down above]
    exact ⟨by omega, by omega, by omega⟩

theorem toInt_iterate_below (up : 1 ≤ inc.toInt) (down : 1 ≤ dec.toInt)
    (below : current.toInt ≤ target.toInt) (n : Nat) :
    ((approachInt · target inc dec)^[n] current).toInt =
      min (current.toInt + inc.toInt * n) target.toInt := by
  induction n with
  | zero => simpa using below
  | succ n ih =>
    rw [Function.iterate_succ_apply', Nat.cast_succ, mul_add_one]
    generalize (approachInt · target inc dec)^[n] current = reached at ih ⊢
    rcases Int.lt_or_le reached.toInt target.toInt with short | there
    · rw [toInt_approachInt_below up short]
      omega
    · rw [toInt_approachInt_above down there]
      omega

theorem toInt_iterate_above (down : 1 ≤ dec.toInt)
    (above : target.toInt ≤ current.toInt) (n : Nat) :
    ((approachInt · target inc dec)^[n] current).toInt =
      max (current.toInt - dec.toInt * n) target.toInt := by
  induction n with
  | zero => simpa using above
  | succ n ih =>
    rw [Function.iterate_succ_apply', Nat.cast_succ, mul_add_one]
    generalize (approachInt · target inc dec)^[n] current = reached at ih ⊢
    have there : target.toInt ≤ reached.toInt := by omega
    rw [toInt_approachInt_above down there]
    omega

/-- The number of steps to the target: parts of a step's size that the distance has, the last one
counted whole. -/
def stepsTo (current target inc dec : Int) : Nat :=
  if current < target then (target - current).toNat ⌈/⌉ inc.toNat
  else (current - target).toNat ⌈/⌉ dec.toNat

theorem ceilDiv_toNat_le {distance step : Int} (positive : 1 ≤ step) (n : Nat) :
    distance.toNat ⌈/⌉ step.toNat ≤ n ↔ distance ≤ step * n := by
  rw [ceilDiv_le_iff_le_mul (by omega), Int.toNat_le, Nat.cast_mul, Int.toNat_of_nonneg (by omega)]

theorem iterate_eq_target (up : 1 ≤ inc.toInt) (down : 1 ≤ dec.toInt) (n : Nat) :
    (approachInt · target inc dec)^[n] current = target ↔
      stepsTo current.toInt target.toInt inc.toInt dec.toInt ≤ n := by
  rw [← Int64.toInt_inj, stepsTo]
  split
  · next below =>
    rw [toInt_iterate_below up down (Int.le_of_lt below), ceilDiv_toNat_le up]
    omega
  · next above =>
    rw [toInt_iterate_above down (Int.not_lt.1 above), ceilDiv_toNat_le down]
    omega

end Positive

def again (b : Binding) (others : List Value) : Nat → Value → Except String Value
  | 0, v => .ok v
  | n + 1, v =>
    match b.call (v :: others) with
    | .ok next => again b others n next
    | .error message => .error message

theorem again_approachS32 (target inc dec : Int64) (n : Nat) (current : Int64) :
    approachS32.again [.int target, .int inc, .int dec] n (.int current) =
      .ok (.int ((approachInt · target inc dec)^[n] current)) := by
  induction n generalizing current with
  | zero => rfl
  | succ n ih => exact ih (approachInt current target inc dec)

/-- The stock binding answers the exact step, cut to 64 bits. With steps of at least one it nears
the target, is there after the steps that the distance takes and no earlier, and stays. -/
theorem integer_steps_reach (current target inc dec : Int64) :
    ∃ b next, BindingTable.stock.find? "approach_s32" 4 = some b ∧
      b.call [.int current, .int target, .int inc, .int dec] = .ok (.int next) ∧
      next.toInt =
        nearest64 (exactStep current.toInt target.toInt inc.toInt dec.toInt) ∧
      (1 ≤ inc.toInt → 1 ≤ dec.toInt →
        Nears current.toInt target.toInt next.toInt ∧
        ∀ n, ∃ reached,
          b.again [.int target, .int inc, .int dec] n (.int current) = .ok (.int reached) ∧
          (reached = target ↔
            stepsTo current.toInt target.toInt inc.toInt dec.toInt ≤ n)) := by
  refine ⟨approachS32, approachInt current target inc dec, rfl, rfl,
    toInt_approachInt current target inc dec, ?_⟩
  intro up down
  exact ⟨nears_approachInt up down, fun n =>
    ⟨_, again_approachS32 target inc dec n current, iterate_eq_target up down n⟩⟩

/-- From one end of the range to the other, a distance of more than 63 bits. -/
theorem whole_range_in_three : ∃ b, BindingTable.stock.find? "approach_s32" 4 = some b ∧
    ∀ n, ∃ reached,
      b.again [.int Int64.maxValue, .int Int64.maxValue, .int 1] n (.int Int64.minValue) =
        .ok (.int reached) ∧ (reached = Int64.maxValue ↔ 3 ≤ n) := by
  obtain ⟨b, next, stock, -, -, many⟩ :=
    integer_steps_reach Int64.minValue Int64.maxValue Int64.maxValue 1
  exact ⟨b, stock, (many (by decide) (by decide)).2⟩

end ModHost.Binding
