import ClockedFormula.Proofs.Quantity.Rational
import ClockedFormula.Signal
import Mathlib.Tactic.Positivity
import Mathlib.Tactic.Ring

namespace ClockedFormula

namespace Signal

open Quantity

/-!
# The windows of a pulse

A pulse is meant to be on in windows that last equally long.  The first one begins at the start, and with a
positive interval another one begins after each interval.  What decides is a single age, that of the window
that began last.  Where windows last longer than the interval, the time lies in earlier ones as well, and
their ages are not looked at.  They need not be: the remainder of the time since the start is the least age of
all windows that have begun, so if any of them is still open, the latest one is.
-/

variable {time start width interval deltaTime elapsed : ℚ}

/-! ## Ages of windows -/

/-- How long ago the windows have begun, of those that have begun some time after the start. -/
def ages (interval elapsed : ℚ) : Set ℚ :=
  {age | 0 ≤ age ∧ ∃ turn : ℕ, (interval ≤ 0 → turn = 0) ∧ turn * interval + age = elapsed}

/-- The age by which a pulse goes. -/
def phase (interval elapsed : ℚ) : ℚ := if 0 < interval then elapsed % interval else elapsed

theorem ages_of_pos (repeats : 0 < interval) :
    ages interval elapsed = {age | 0 ≤ age ∧ ∃ turn : ℕ, turn * interval + age = elapsed} := by
  simp [ages, not_le.mpr repeats]

/-- Without a positive interval there is a single window. -/
theorem ages_of_nonpos (single : interval ≤ 0) (begun : 0 ≤ elapsed) :
    ages interval elapsed = {elapsed} := by
  apply Set.eq_singleton_iff_unique_mem.mpr
  constructor
  · exact ⟨begun, 0, fun _ => rfl, by simp⟩
  · rintro age ⟨-, turn, first, rfl⟩
    simp [first single]

/-- No window begins before the start. -/
theorem elapsed_nonneg_of_mem_ages {age : ℚ} (member : age ∈ ages interval elapsed) : 0 ≤ elapsed := by
  obtain ⟨nonneg, turn, first, rfl⟩ := member
  have later : 0 ≤ turn * interval := by
    rcases le_or_gt interval 0 with single | repeats
    · simp [first single]
    · positivity
  exact add_nonneg later nonneg

/-- No window has begun after the one by which a pulse goes. -/
theorem phase_isLeast (begun : 0 ≤ elapsed) : IsLeast (ages interval elapsed) (phase interval elapsed) := by
  by_cases repeats : 0 < interval
  · rw [ages_of_pos repeats, phase, if_pos repeats]
    exact mod_isLeast begun repeats
  · rw [ages_of_nonpos (not_lt.mp repeats) begun, phase, if_neg repeats]
    exact isLeast_singleton

/-! ## Pulses -/

theorem pulseWidth_rat : pulseWidth width deltaTime = if 0 < width then width else deltaTime := by
  simp only [pulseWidth, atMost_rat, ofNat_rat, Nat.cast_zero, decide_eq_true_eq, ← not_lt, ite_not]

theorem pulse_iff_phase_lt :
    pulse time start width interval deltaTime = true ↔
      start ≤ time ∧ phase interval (time - start) < pulseWidth width deltaTime := by
  simp only [pulse, phase, less_rat, ofNat_rat, Nat.cast_zero, decide_eq_true_eq]
  by_cases early : time < start
  · simp [early, not_le.mpr early]
  · simp [early, not_lt.mp early]

/-- A pulse is on if and only if some window that has begun is still open. -/
theorem pulse_iff_exists_age_lt :
    pulse time start width interval deltaTime = true ↔
      ∃ age ∈ ages interval (time - start), age < pulseWidth width deltaTime := by
  rw [pulse_iff_phase_lt]
  by_cases begun : start ≤ time
  · rw [← isGLB_lt_iff (phase_isLeast (sub_nonneg.mpr begun)).isGLB]
    exact and_iff_right begun
  · refine iff_of_false (fun on => begun on.1) ?_
    rintro ⟨age, member, -⟩
    exact begun (sub_nonneg.mp (elapsed_nonneg_of_mem_ages member))

/-- A pulse is on exactly in its windows, which contain the time at which they begin and not the one at which
they end. -/
theorem pulse_on_iff_in_window (time start width interval deltaTime : ℚ) :
    pulse time start width interval deltaTime = true ↔
      ∃ turn : ℕ, (interval ≤ 0 → turn = 0) ∧
        start + turn * interval ≤ time ∧
        time < start + turn * interval + if 0 < width then width else deltaTime := by
  rw [pulse_iff_exists_age_lt, pulseWidth_rat]
  constructor
  · rintro ⟨age, ⟨nonneg, turn, first, total⟩, short⟩
    exact ⟨turn, first, by linarith, by linarith⟩
  · rintro ⟨turn, first, begun, unfinished⟩
    exact ⟨time - start - turn * interval, ⟨by linarith, turn, first, by ring⟩, by linarith⟩

/-- Windows that last five begin at two and at six, and both contain six and a half.  A window that lasts no
time does not even contain its beginning. -/
example : pulse (13 / 2 : ℚ) 2 5 4 1 = true ∧ pulse (2 : ℚ) 2 0 4 0 = false := by decide +kernel

end Signal

end ClockedFormula
