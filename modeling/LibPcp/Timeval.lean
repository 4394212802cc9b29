import Mathlib.Tactic.Ring
import Mathlib.Tactic.Linarith

/-!
# LibPcp.Timeval

`struct timeval` and its arithmetic (`pcp_utils.h`). The C functions take pointers and normalise
their arguments in place; here each returns the new values next to its result. `Timeval.us` is the
instant a value stands for, in microseconds, and `Timeval.zero` is the sentinel for "no timer".

* `timevalComp_fst`: the comparison is the one of the instants.
* `timevalSubtractInto_fst`: subtraction fails exactly when the minuend is not later.
* `timevalSubtractInto_left`: otherwise it leaves the difference of the instants.
-/

namespace LibPcp

structure Timeval where
  tvSec : Int
  tvUsec : Int
  deriving DecidableEq, Repr, Inhabited

namespace Timeval

/-- The instant in microseconds. -/
def us (t : Timeval) : Int := t.tvSec * 1000000 + t.tvUsec

def zero : Timeval := ⟨0, 0⟩

/-- The test `tv_sec == 0 && tv_usec == 0`. -/
def isZero (t : Timeval) : Bool := t.tvSec == 0 && t.tvUsec == 0

/-- Microseconds in range, as `gettimeofday` returns them. -/
def Normal (t : Timeval) : Prop := 0 ≤ t.tvUsec ∧ t.tvUsec < 1000000

/-- `t += ms` as the handlers write it: seconds and microseconds separately, no carry. -/
def addMs (t : Timeval) (ms : Nat) : Timeval :=
  ⟨t.tvSec + ms / 1000, t.tvUsec + (ms % 1000 : Nat) * 1000⟩

def addSec (t : Timeval) (s : Int) : Timeval := ⟨t.tvSec + s, t.tvUsec⟩

@[simp] theorem isZero_zero : zero.isZero = true := rfl

theorem normal_zero : zero.Normal := ⟨by decide, by decide⟩

theorem isZero_iff {t : Timeval} : t.isZero = true ↔ t = zero := by
  obtain ⟨s, u⟩ := t
  simp [isZero, zero]

@[simp] theorem us_addMs (t : Timeval) (ms : Nat) : (t.addMs ms).us = t.us + ms * 1000 := by
  simp only [addMs, us]
  omega

@[simp] theorem us_addSec (t : Timeval) (s : Int) : (t.addSec s).us = t.us + s * 1000000 := by
  simp only [addSec, us]
  omega

end Timeval

/-- `timeval_align`: C division truncates towards zero, so a negative remainder is repaired. -/
def timevalAlign (x : Timeval) : Timeval :=
  let x : Timeval := ⟨x.tvSec + x.tvUsec.tdiv 1000000, x.tvUsec.tmod 1000000⟩
  if x.tvUsec < 0 then ⟨x.tvSec - 1, 1000000 + x.tvUsec⟩ else x

/-- `timeval_comp`: the result, and both arguments as they are left. -/
def timevalComp (x y : Timeval) : Int × Timeval × Timeval :=
  let x := timevalAlign x
  let y := timevalAlign y
  (if x.tvSec < y.tvSec then -1
    else if x.tvSec > y.tvSec then 1
    else if x.tvUsec < y.tvUsec then -1
    else if x.tvUsec > y.tvUsec then 1
    else 0, x, y)

/-- `timeval_subtract(&y, &x, &y)`: the result is stored over the subtrahend, which is how
`check_flow_timeout` and `hserver_iter` call it. Returns the C result, the new `x` and the object
that was `y`. -/
def timevalSubtractInto (x y : Timeval) : Bool × Timeval × Timeval :=
  let ret := (timevalComp x y).1
  let x := (timevalComp x y).2.1
  let y := (timevalComp x y).2.2
  if ret ≤ 0 then (true, x, Timeval.zero)
  else
    let y := if x.tvUsec < y.tvUsec then
        let nsec := (y.tvUsec - x.tvUsec).tdiv 1000000 + 1
        (⟨y.tvSec + nsec, y.tvUsec - 1000000 * nsec⟩ : Timeval)
      else y
    (false, x, timevalAlign ⟨x.tvSec - y.tvSec, x.tvUsec - y.tvUsec⟩)

theorem tdiv_add_tmod (u : Int) : u.tdiv 1000000 * 1000000 + u.tmod 1000000 = u := by
  have := Int.mul_tdiv_add_tmod u 1000000
  omega

theorem tmod_bounds (u : Int) : -1000000 < u.tmod 1000000 ∧ u.tmod 1000000 < 1000000 := by
  have h1 := Int.tmod_lt_of_pos u (show (0 : Int) < 1000000 by omega)
  have h2 := Int.lt_tmod_of_pos u (show (0 : Int) < 1000000 by omega)
  exact ⟨by omega, h1⟩

@[simp] theorem us_timevalAlign (x : Timeval) : (timevalAlign x).us = x.us := by
  obtain ⟨s, u⟩ := x
  have h := tdiv_add_tmod u
  simp only [timevalAlign, Timeval.us]
  split <;> simp only [] <;> omega

theorem timevalAlign_normal (x : Timeval) : (timevalAlign x).Normal := by
  obtain ⟨s, u⟩ := x
  have h := tmod_bounds u
  simp only [timevalAlign, Timeval.Normal]
  split <;> simp only [] <;> omega

/-- A normal value is fixed by its instant. -/
theorem Timeval.Normal.ext {x y : Timeval} (hx : x.Normal) (hy : y.Normal) (h : x.us = y.us) :
    x = y := by
  obtain ⟨s, u⟩ := x
  obtain ⟨s', u'⟩ := y
  simp only [Timeval.Normal, Timeval.us] at *
  have h1 : s = s' := by omega
  have h2 : u = u' := by omega
  rw [h1, h2]

theorem timevalAlign_of_normal {x : Timeval} (h : x.Normal) : timevalAlign x = x :=
  (timevalAlign_normal x).ext h (us_timevalAlign x)

/-- The zero test looks at the instant of a normal value. -/
theorem Timeval.Normal.isZero_iff {x : Timeval} (h : x.Normal) : x.isZero = true ↔ x.us = 0 := by
  obtain ⟨s, u⟩ := x
  simp only [Timeval.Normal, Timeval.us, Timeval.isZero, Bool.and_eq_true, beq_iff_eq] at *
  omega

theorem Timeval.not_isZero_of_pos {t : Timeval} (h : 0 < t.us) : t.isZero = false := by
  cases hz : t.isZero with
  | false => rfl
  | true =>
    rw [Timeval.isZero_iff.mp hz] at h
    cases h

@[simp] theorem timevalComp_snd (x y : Timeval) :
    (timevalComp x y).2 = (timevalAlign x, timevalAlign y) := rfl

/-- The comparison is the one of the instants. -/
theorem timevalComp_fst (x y : Timeval) :
    (timevalComp x y).1 = if x.us < y.us then -1 else if y.us < x.us then 1 else 0 := by
  have hx := timevalAlign_normal x
  have hy := timevalAlign_normal y
  rw [← us_timevalAlign x, ← us_timevalAlign y]
  simp only [timevalComp, Timeval.us, Timeval.Normal] at *
  split_ifs
  all_goals omega

theorem timevalComp_lt (x y : Timeval) : (timevalComp x y).1 < 0 ↔ x.us < y.us := by
  rw [timevalComp_fst]
  split_ifs
  all_goals omega

theorem timevalComp_le (x y : Timeval) : (timevalComp x y).1 ≤ 0 ↔ x.us ≤ y.us := by
  rw [timevalComp_fst]
  split_ifs
  all_goals omega

theorem timevalSubtractInto_fst (x y : Timeval) :
    (timevalSubtractInto x y).1 = true ↔ x.us ≤ y.us := by
  rw [← timevalComp_le]
  by_cases h : (timevalComp x y).1 ≤ 0 <;> simp [timevalSubtractInto, h]

@[simp] theorem timevalSubtractInto_x (x y : Timeval) :
    (timevalSubtractInto x y).2.1 = timevalAlign x := by
  by_cases h : (timevalComp x y).1 ≤ 0 <;> simp [timevalSubtractInto, h]

theorem timevalSubtractInto_over {x y : Timeval} (h : x.us ≤ y.us) :
    (timevalSubtractInto x y).2.2 = .zero := by
  have hcmp : (timevalComp x y).1 ≤ 0 := (timevalComp_le x y).mpr h
  simp [timevalSubtractInto, hcmp]

/-- What is left is the difference of the instants. -/
theorem timevalSubtractInto_left {x y : Timeval} (h : y.us < x.us) :
    (timevalSubtractInto x y).2.2.us = x.us - y.us ∧ (timevalSubtractInto x y).2.2.Normal := by
  have hcmp : ¬ (timevalComp x y).1 ≤ 0 := by
    rw [timevalComp_le]
    omega
  have hx := us_timevalAlign x
  have hy := us_timevalAlign y
  refine ⟨?_, ?_⟩
  · simp only [timevalSubtractInto, hcmp, if_false, timevalComp_snd, us_timevalAlign]
    by_cases hcarry : (timevalAlign x).tvUsec < (timevalAlign y).tvUsec
    all_goals
      simp only [hcarry, if_true, if_false, Timeval.us] at *
      omega
  · simp only [timevalSubtractInto, hcmp, if_false]
    exact timevalAlign_normal _

theorem timevalSubtractInto_align (x y : Timeval) :
    timevalSubtractInto (timevalAlign x) y = timevalSubtractInto x y := by
  have h : timevalAlign (timevalAlign x) = timevalAlign x :=
    timevalAlign_of_normal (timevalAlign_normal x)
  simp only [timevalSubtractInto, timevalComp, h]

end LibPcp
