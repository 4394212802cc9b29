import LibPcp.Cells
import LibPcp.Timeval

/-!
# LibPcp.InPlace

`timeval_align`, `timeval_comp` and `timeval_subtract` (`pcp_utils.h`) as they are written: on objects
behind pointers, which are normalised where they stand and may be the same. The seconds are of a signed
type of `w` bits, the microseconds of one of `u` bits.

`Aligns` and `NoOverflow` say of the values that no number of seconds overflows on the way.

* `timevalAlign_eq`, `timevalComp_eq`, `timevalSubtract_spec`: the functions on values of
  `LibPcp.Timeval` are what the code does, whichever pointers are equal.
* `timevalSubtract_isSome_iff`: `NoOverflow` is exactly what is needed.
* `timeval_exact`: the arithmetic is that of the instants.
-/

namespace LibPcp
namespace InPlace

open Cells

/-! ## The code -/

section Code

variable {ι : Type} [DecidableEq ι]

/-- `p->tv_sec = z`. -/
def setSec (w : Nat) : ι → Int → Mem ι Timeval → Option (Mem ι Timeval) :=
  assign w fun z t => ⟨z, t.tvUsec⟩

/-- `p->tv_usec = z`. -/
def setUsec (u : Nat) : ι → Int → Mem ι Timeval → Option (Mem ι Timeval) :=
  assign u fun z t => ⟨t.tvSec, z⟩

/-- `timeval_align`. -/
def timevalAlign (w u : Nat) (x : ι) (m : Mem ι Timeval) : Option (Mem ι Timeval) := do
  let m ← setSec w x ((m x).tvSec + (m x).tvUsec.tdiv 1000000) m
  let m ← setUsec u x ((m x).tvUsec.tmod 1000000) m
  if (m x).tvUsec < 0 then
    let m ← setUsec u x (1000000 + (m x).tvUsec) m
    setSec w x ((m x).tvSec - 1) m
  else some m

/-- `timeval_comp`: the result and the memory. -/
def timevalComp (w u : Nat) (x y : ι) (m : Mem ι Timeval) : Option (Int × Mem ι Timeval) := do
  let m ← timevalAlign w u x m
  let m ← timevalAlign w u y m
  some (if (m x).tvSec < (m y).tvSec then -1
    else if (m x).tvSec > (m y).tvSec then 1
    else if (m x).tvUsec < (m y).tvUsec then -1
    else if (m x).tvUsec > (m y).tvUsec then 1
    else 0, m)

/-- The carry of `timeval_subtract`; `nsec` is an `int`, and so is its product with the constant. -/
def carry (w u : Nat) (x y : ι) (m : Mem ι Timeval) : Option (Mem ι Timeval) :=
  if (m x).tvUsec < (m y).tvUsec then do
    let diff ← checked u ((m y).tvUsec - (m x).tvUsec)
    let sum ← checked u (diff.tdiv 1000000 + 1)
    let nsec := sum.bmod (2 ^ 32)
    let usec ← checked 32 (1000000 * nsec)
    let m ← setUsec u y ((m y).tvUsec - usec) m
    setSec w y ((m y).tvSec + nsec) m
  else some m

/-- The end of `timeval_subtract`. -/
def storeDifference (w u : Nat) (result x y : ι) (m : Mem ι Timeval) : Option (Mem ι Timeval) := do
  let m ← setSec w result ((m x).tvSec - (m y).tvSec) m
  let m ← setUsec u result ((m x).tvUsec - (m y).tvUsec) m
  timevalAlign w u result m

/-- `timeval_subtract`: the result and the memory. -/
def timevalSubtract (w u : Nat) (result x y : ι) (m : Mem ι Timeval) : Option (Int × Mem ι Timeval) := do
  let (ret, m) ← timevalComp w u x y m
  if ret ≤ 0 then
    let m ← setSec w result 0 m
    let m ← setUsec u result 0 m
    some (1, m)
  else
    let m ← carry w u x y m
    let m ← storeDifference w u result x y m
    some (if ret ≤ 0 then 1 else 0, m)

end Code

/-! ## Alignment -/

/-- The seconds of the value do not overflow when it is aligned. -/
def Aligns (w : Nat) (t : Timeval) : Prop :=
  Fits w (t.tvSec + t.tvUsec.tdiv 1000000) ∧ Fits w (t.us / 1000000)

instance (w : Nat) (t : Timeval) : Decidable (Aligns w t) := inferInstanceAs (Decidable (_ ∧ _))

/-- The seconds of an aligned value are those of its instant, rounded down. -/
theorem timevalAlign_tvSec (t : Timeval) : (LibPcp.timevalAlign t).tvSec = t.us / 1000000 := by
  have hn := timevalAlign_normal t
  have hus := us_timevalAlign t
  simp only [Timeval.Normal, Timeval.us] at *
  omega

theorem Timeval.Normal.tvSec {t : Timeval} (h : t.Normal) : t.us / 1000000 = t.tvSec := by
  rw [← timevalAlign_tvSec, timevalAlign_of_normal h]

/-- A normal value is aligned already. -/
theorem aligns_of_normal {w : Nat} {t : Timeval} (h : t.Normal) (hs : Fits w t.tvSec) : Aligns w t := by
  have hzero : t.tvUsec.tdiv 1000000 = 0 := Int.tdiv_eq_zero_of_lt h.1 h.2
  rw [Aligns, hzero, Int.add_zero, Timeval.Normal.tvSec h]
  exact ⟨hs, hs⟩

section Align

variable {ι : Type} [DecidableEq ι] {w u : Nat} {m : Mem ι Timeval} {x y p : ι} {z : Int}

theorem setSec_of_fits (h : Fits w z) :
    setSec w p z m = some (Function.update m p ⟨z, (m p).tvUsec⟩) := assign_of_fits h

theorem setUsec_of_fits (h : Fits u z) :
    setUsec u p z m = some (Function.update m p ⟨(m p).tvSec, z⟩) := assign_of_fits h

theorem setSec_of_not_fits (h : ¬ Fits w z) : setSec w p z m = none := assign_of_not_fits h

/-- Microseconds never overflow. -/
theorem fits_usec (hu : 32 ≤ u) (hlo : -2000000 ≤ z) (hhi : z ≤ 2000000) : Fits u z :=
  Fits.mono hu ⟨by norm_num; omega, by norm_num; omega⟩

/-- What `timeval_align` does, and when it overflows. -/
theorem timevalAlign_eq (hu : 32 ≤ u) (x : ι) (m : Mem ι Timeval) :
    timevalAlign w u x m =
      if Aligns w (m x) then some (Function.update m x (LibPcp.timevalAlign (m x))) else none := by
  have hsec := timevalAlign_tvSec (m x)
  obtain ⟨hlo, hhi⟩ := tmod_bounds (m x).tvUsec
  unfold timevalAlign
  by_cases hfirst : Fits w ((m x).tvSec + (m x).tvUsec.tdiv 1000000)
  · have hrest : Fits u ((m x).tvUsec.tmod 1000000) := fits_usec hu (by omega) (by omega)
    rw [setSec_of_fits hfirst, Option.bind_eq_bind, Option.bind_some]
    simp only [Function.update_self, setUsec_of_fits hrest, Function.update_idem, Option.bind_some]
    by_cases hneg : (m x).tvUsec.tmod 1000000 < 0
    · have hpos : Fits u (1000000 + (m x).tvUsec.tmod 1000000) := fits_usec hu (by omega) (by omega)
      have hvalue : LibPcp.timevalAlign (m x) =
          ⟨(m x).tvSec + (m x).tvUsec.tdiv 1000000 - 1, 1000000 + (m x).tvUsec.tmod 1000000⟩ := by
        simp only [LibPcp.timevalAlign, if_pos hneg]
      rw [hvalue] at hsec
      rw [if_pos hneg, setUsec_of_fits hpos, Option.bind_some]
      simp only [Function.update_self, Function.update_idem]
      by_cases hlast : Fits w ((m x).us / 1000000)
      · rw [if_pos ⟨hfirst, hlast⟩, hvalue]
        rw [← hsec] at hlast
        rw [setSec_of_fits hlast]
        simp only [Function.update_self, Function.update_idem]
      · rw [if_neg fun h => hlast h.2]
        rw [← hsec] at hlast
        exact setSec_of_not_fits hlast
    · have hvalue : LibPcp.timevalAlign (m x) =
          ⟨(m x).tvSec + (m x).tvUsec.tdiv 1000000, (m x).tvUsec.tmod 1000000⟩ := by
        simp only [LibPcp.timevalAlign, if_neg hneg]
      rw [hvalue] at hsec
      rw [if_neg hneg, if_pos ⟨hfirst, hsec ▸ hfirst⟩, hvalue]
  · rw [setSec_of_not_fits hfirst, if_neg fun h => hfirst h.1]
    rfl

/-- An object that is aligned, or was so before, is aligned once more without effect. -/
theorem timevalAlign_aligned (hu : 32 ≤ u) (hx : Aligns w (m x)) (y : ι) :
    timevalAlign w u y (Function.update m x (LibPcp.timevalAlign (m x))) =
      if Aligns w (m y) then
        some (Function.update (Function.update m x (LibPcp.timevalAlign (m x))) y
          (LibPcp.timevalAlign (m y)))
      else none := by
  rw [timevalAlign_eq hu]
  by_cases hxy : y = x
  · subst hxy
    have hn := timevalAlign_normal (m y)
    have hagain : Aligns w (LibPcp.timevalAlign (m y)) :=
      aligns_of_normal hn (timevalAlign_tvSec (m y) ▸ hx.2)
    rw [Function.update_self, if_pos hagain, if_pos hx, timevalAlign_of_normal hn]
  · rw [Function.update_of_ne hxy]

end Align

/-! ## Comparison -/

section Compare

variable {ι : Type} [DecidableEq ι] {w u : Nat} {m : Mem ι Timeval} {x y p : ι}

/-- The memory after a comparison. -/
def alignBoth (m : Mem ι Timeval) (x y : ι) : Mem ι Timeval :=
  Function.update (Function.update m x (LibPcp.timevalAlign (m x))) y (LibPcp.timevalAlign (m y))

theorem alignBoth_right (m : Mem ι Timeval) (x y : ι) :
    alignBoth m x y y = LibPcp.timevalAlign (m y) := Function.update_self ..

theorem alignBoth_left (m : Mem ι Timeval) (x y : ι) : alignBoth m x y x = LibPcp.timevalAlign (m x) := by
  by_cases hxy : x = y
  · subst hxy
    exact alignBoth_right m x x
  · rw [alignBoth, Function.update_of_ne hxy, Function.update_self]

theorem alignBoth_other (hx : p ≠ x) (hy : p ≠ y) : alignBoth m x y p = m p := by
  rw [alignBoth, Function.update_of_ne hy, Function.update_of_ne hx]

/-- Every object keeps its instant. -/
theorem alignBoth_us (m : Mem ι Timeval) (x y p : ι) : (alignBoth m x y p).us = (m p).us := by
  by_cases hx : p = x
  · rw [hx, alignBoth_left, us_timevalAlign]
  · by_cases hy : p = y
    · rw [hy, alignBoth_right, us_timevalAlign]
    · rw [alignBoth_other hx hy]

/-- What `timeval_comp` does, and when it overflows. -/
theorem timevalComp_eq (hu : 32 ≤ u) (x y : ι) (m : Mem ι Timeval) :
    timevalComp w u x y m =
      if Aligns w (m x) ∧ Aligns w (m y) then
        some ((LibPcp.timevalComp (m x) (m y)).1, alignBoth m x y)
      else none := by
  unfold timevalComp
  rw [timevalAlign_eq hu]
  by_cases hx : Aligns w (m x)
  · rw [if_pos hx, Option.bind_eq_bind, Option.bind_some, timevalAlign_aligned hu hx]
    by_cases hy : Aligns w (m y)
    · rw [if_pos hy, if_pos ⟨hx, hy⟩, Option.bind_some]
      have hl := alignBoth_left m x y
      have hr := alignBoth_right m x y
      unfold alignBoth at hl hr
      rw [hl, hr]
      rfl
    · rw [if_neg hy, if_neg fun h => hy h.2]
      rfl
  · rw [if_neg hx, if_neg fun h => hx h.1]
    rfl

end Compare

/-! ## Subtraction -/

/-- No number of seconds overflows in a subtraction. -/
def NoOverflow (w : Nat) (x y : Timeval) : Prop :=
  Aligns w x ∧ Aligns w y ∧ (y.us < x.us → Fits w ((x.us - y.us) / 1000000))

instance (w : Nat) (x y : Timeval) : Decidable (NoOverflow w x y) := inferInstanceAs (Decidable (_ ∧ _))

section Subtract

variable {ι : Type} [DecidableEq ι] {w u : Nat} {m : Mem ι Timeval} {r x y p : ι}

/-- The memory after the carry, if there is one. -/
def carried (x y : ι) (m : Mem ι Timeval) : Mem ι Timeval :=
  if (m x).tvUsec < (m y).tvUsec then
    Function.update m y ⟨(m y).tvSec + 1, (m y).tvUsec - 1000000⟩
  else m

theorem carried_us (x y : ι) (m : Mem ι Timeval) (p : ι) : (carried x y m p).us = (m p).us := by
  unfold carried
  split
  · by_cases hp : p = y
    · subst hp
      simp only [Function.update_self, Timeval.us]
      omega
    · rw [Function.update_of_ne hp]
  · rfl

theorem carried_other (hp : p ≠ y) : carried x y m p = m p := by
  unfold carried
  split
  · exact Function.update_of_ne hp ..
  · rfl

/-- Then the microseconds can be subtracted. -/
theorem carried_usec (hx : (m x).Normal) (hy : (m y).Normal) :
    (carried x y m y).tvUsec ≤ (m x).tvUsec ∧ (m x).tvUsec - (carried x y m y).tvUsec < 1000000 := by
  obtain ⟨hx₀, hx₁⟩ := hx
  obtain ⟨hy₀, hy₁⟩ := hy
  unfold carried
  split
  · rw [Function.update_self]
    dsimp only
    omega
  · omega

/-- The carry is one second. -/
theorem carry_eq (hu : 32 ≤ u) (hx : (m x).Normal) (hy : (m y).Normal)
    (hs : (m x).tvUsec < (m y).tvUsec → Fits w ((m y).tvSec + 1)) :
    carry w u x y m = some (carried x y m) := by
  by_cases hlt : (m x).tvUsec < (m y).tvUsec
  swap
  · rw [carry, carried, if_neg hlt, if_neg hlt]
  obtain ⟨hx₀, hx₁⟩ := hx
  obtain ⟨hy₀, hy₁⟩ := hy
  have hdiff : Fits u ((m y).tvUsec - (m x).tvUsec) := fits_usec hu (by omega) (by omega)
  have hquot : ((m y).tvUsec - (m x).tvUsec).tdiv 1000000 = 0 :=
    Int.tdiv_eq_zero_of_lt (by omega) (by omega)
  have hone : Fits u 1 := fits_usec hu (by omega) (by omega)
  have hnsec : (1 : Int).bmod (2 ^ 32) = 1 := by decide
  have hproduct : Fits 32 1000000 := by decide
  have husec : Fits u ((m y).tvUsec - 1000000) := fits_usec hu (by omega) (by omega)
  unfold carry carried
  rw [if_pos hlt, if_pos hlt, checked_of_fits hdiff]
  simp only [Option.bind_eq_bind, Option.bind_some, hquot, Int.zero_add, checked_of_fits hone, hnsec,
    Int.mul_one, checked_of_fits hproduct, setUsec_of_fits husec, Function.update_self]
  rw [setSec_of_fits (hs hlt)]
  simp only [Function.update_self, Function.update_idem]

/-- The difference of two objects, field by field. -/
def difference (x y : ι) (m : Mem ι Timeval) : Timeval :=
  ⟨(m x).tvSec - (m y).tvSec, (m x).tvUsec - (m y).tvUsec⟩

omit [DecidableEq ι] in
theorem difference_us (x y : ι) (m : Mem ι Timeval) :
    (difference x y m).us = (m x).us - (m y).us := by
  simp only [difference, Timeval.us]
  omega

/-- The two fields are read before they are written, also when the result is stored in an operand. -/
theorem storeDifference_eq (hu : 32 ≤ u) (r : ι) (hn : (difference x y m).Normal) :
    storeDifference w u r x y m =
      if Fits w (difference x y m).tvSec then some (Function.update m r (difference x y m)) else none := by
  unfold storeDifference
  by_cases hs : Fits w (difference x y m).tvSec
  · have hs' : Fits w ((m x).tvSec - (m y).tvSec) := hs
    have husec : ∀ q, (Function.update m r ⟨(m x).tvSec - (m y).tvSec, (m r).tvUsec⟩ q).tvUsec =
        (m q).tvUsec := by
      intro q
      by_cases hq : q = r
      · rw [hq, Function.update_self]
      · rw [Function.update_of_ne hq]
    have hfits : Fits u ((m x).tvUsec - (m y).tvUsec) :=
      fits_usec hu (Int.le_trans (by omega) hn.1) (Int.le_trans (Int.le_of_lt hn.2) (by omega))
    rw [setSec_of_fits hs', if_pos hs]
    simp only [Option.bind_eq_bind, Option.bind_some, husec, setUsec_of_fits hfits, timevalAlign_eq hu,
      Function.update_self, Function.update_idem]
    have hstored : ⟨(m x).tvSec - (m y).tvSec, (m x).tvUsec - (m y).tvUsec⟩ = difference x y m := rfl
    rw [hstored, if_pos (aligns_of_normal hn hs), timevalAlign_of_normal hn]
  · have hs' : ¬ Fits w ((m x).tvSec - (m y).tvSec) := hs
    rw [setSec_of_not_fits hs', if_neg hs]
    rfl

/-- Nothing to subtract: the result is zero. -/
theorem timevalSubtract_of_le (hu : 32 ≤ u) (hx : Aligns w (m x)) (hy : Aligns w (m y))
    (hle : (m x).us ≤ (m y).us) (r : ι) :
    timevalSubtract w u r x y m = some (1, Function.update (alignBoth m x y) r .zero) := by
  have husec : Fits u 0 := .zero u
  have hsec : Fits w 0 := .zero w
  have hret : (LibPcp.timevalComp (m x) (m y)).1 ≤ 0 := (timevalComp_le _ _).mpr hle
  unfold timevalSubtract
  rw [timevalComp_eq hu, if_pos ⟨hx, hy⟩]
  simp only [Option.bind_eq_bind, Option.bind_some, if_pos hret, setSec_of_fits hsec,
    setUsec_of_fits husec, Function.update_self, Function.update_idem]
  rfl

omit [DecidableEq ι] in
/-- Objects of different instants are not the same. -/
theorem ne_of_us_lt (hlt : (m y).us < (m x).us) : x ≠ y := by
  rintro rfl
  exact Int.lt_irrefl _ hlt

/-- The carry does not overflow, because the later instant has more seconds then. -/
theorem carry_alignBoth (hu : 32 ≤ u) (hx : Aligns w (m x)) (hy : Aligns w (m y))
    (hlt : (m y).us < (m x).us) :
    carry w u x y (alignBoth m x y) = some (carried x y (alignBoth m x y)) := by
  have hl := alignBoth_left m x y
  have hr := alignBoth_right m x y
  refine carry_eq hu (hl ▸ timevalAlign_normal _) (hr ▸ timevalAlign_normal _) fun hless => ?_
  have hfx : Fits w (alignBoth m x y x).tvSec := by
    rw [hl, timevalAlign_tvSec]
    exact hx.2
  have hfy : Fits w (alignBoth m x y y).tvSec := by
    rw [hr, timevalAlign_tvSec]
    exact hy.2
  have hsec : (alignBoth m x y y).tvSec + 1 ≤ (alignBoth m x y x).tvSec := by
    rw [← alignBoth_us m x y x, ← alignBoth_us m x y y] at hlt
    simp only [Timeval.us] at hlt
    omega
  exact hfy.between hfx (by omega) hsec

/-- The difference that is stored. -/
theorem difference_eq (hlt : (m y).us < (m x).us) :
    difference x y (carried x y (alignBoth m x y)) = (timevalSubtractInto (m x) (m y)).2.2 ∧
      (difference x y (carried x y (alignBoth m x y))).Normal := by
  obtain ⟨hus, hn⟩ := timevalSubtractInto_left hlt
  have hl := alignBoth_left m x y
  have hr := alignBoth_right m x y
  obtain ⟨hle, hlt'⟩ := carried_usec (m := alignBoth m x y) (hl ▸ timevalAlign_normal (m x))
    (hr ▸ timevalAlign_normal (m y))
  rw [← carried_other (x := x) (m := alignBoth m x y) (ne_of_us_lt hlt)] at hle hlt'
  have hd : (difference x y (carried x y (alignBoth m x y))).Normal := ⟨Int.sub_nonneg.mpr hle, hlt'⟩
  refine ⟨hd.ext hn ?_, hd⟩
  rw [difference_us, carried_us, carried_us, alignBoth_us, alignBoth_us, hus]

/-- Something to subtract: the difference is stored, if its seconds do not overflow. -/
theorem timevalSubtract_of_lt (hu : 32 ≤ u) (hx : Aligns w (m x)) (hy : Aligns w (m y))
    (hlt : (m y).us < (m x).us) (r : ι) :
    timevalSubtract w u r x y m = if Fits w (((m x).us - (m y).us) / 1000000) then
        some (0, Function.update (carried x y (alignBoth m x y)) r
          (timevalSubtractInto (m x) (m y)).2.2)
      else none := by
  have hret : ¬ (LibPcp.timevalComp (m x) (m y)).1 ≤ 0 := by
    rw [timevalComp_le]
    omega
  obtain ⟨hd, hn⟩ := difference_eq hlt
  have hsec : (difference x y (carried x y (alignBoth m x y))).tvSec =
      ((m x).us - (m y).us) / 1000000 := by
    rw [← Timeval.Normal.tvSec hn, difference_us, carried_us, carried_us, alignBoth_us, alignBoth_us]
  unfold timevalSubtract
  rw [timevalComp_eq hu, if_pos ⟨hx, hy⟩]
  simp only [Option.bind_eq_bind, Option.bind_some, if_neg hret, carry_alignBoth hu hx hy hlt,
    storeDifference_eq hu r hn, hsec]
  by_cases hs : Fits w (((m x).us - (m y).us) / 1000000)
  · rw [if_pos hs, if_pos hs, hd]
    rfl
  · rw [if_neg hs, if_neg hs]
    rfl

/-- What `timeval_subtract` leaves behind, wherever the result goes. -/
theorem timevalSubtract_spec (hu : 32 ≤ u) (h : NoOverflow w (m x) (m y)) (r : ι) :
    ∃ m', timevalSubtract w u r x y m = some (if (m x).us ≤ (m y).us then 1 else 0, m') ∧
      m' r = (timevalSubtractInto (m x) (m y)).2.2 ∧ (∀ p, p ≠ r → (m' p).us = (m p).us) ∧
      (x ≠ r → m' x = LibPcp.timevalAlign (m x)) := by
  obtain ⟨hx, hy, hfits⟩ := h
  by_cases hle : (m x).us ≤ (m y).us
  · refine ⟨Function.update (alignBoth m x y) r .zero, ?_, ?_, fun p hp => ?_, fun hxr => ?_⟩
    · rw [if_pos hle]
      exact timevalSubtract_of_le hu hx hy hle r
    · rw [Function.update_self, timevalSubtractInto_over hle]
    · rw [Function.update_of_ne hp, alignBoth_us]
    · rw [Function.update_of_ne hxr, alignBoth_left]
  · have hlt : (m y).us < (m x).us := Int.not_le.mp hle
    refine ⟨Function.update (carried x y (alignBoth m x y)) r (timevalSubtractInto (m x) (m y)).2.2,
      ?_, ?_, fun p hp => ?_, fun hxr => ?_⟩
    · rw [if_neg hle, timevalSubtract_of_lt hu hx hy hlt r, if_pos (hfits hlt)]
    · rw [Function.update_self]
    · rw [Function.update_of_ne hp, carried_us, alignBoth_us]
    · rw [Function.update_of_ne hxr, carried_other (ne_of_us_lt hlt), alignBoth_left]

/-- The condition is exactly that the run is defined. -/
theorem timevalSubtract_isSome_iff (hu : 32 ≤ u) (r x y : ι) (m : Mem ι Timeval) :
    (timevalSubtract w u r x y m).isSome = true ↔ NoOverflow w (m x) (m y) := by
  constructor
  · intro hsome
    by_cases hboth : Aligns w (m x) ∧ Aligns w (m y)
    · refine ⟨hboth.1, hboth.2, fun hlt => ?_⟩
      by_contra hs
      rw [timevalSubtract_of_lt hu hboth.1 hboth.2 hlt, if_neg hs] at hsome
      cases hsome
    · unfold timevalSubtract at hsome
      rw [timevalComp_eq hu, if_neg hboth] at hsome
      cases hsome
  · intro h
    obtain ⟨m', hrun, -⟩ := timevalSubtract_spec hu h r
    rw [hrun]
    rfl

/-- `timevalSubtractInto` is the call that stores the result over the subtrahend. -/
theorem timevalSubtract_into (hu : 32 ≤ u) (hxy : x ≠ y) (h : NoOverflow w (m x) (m y)) :
    ∃ m', timevalSubtract w u y x y m =
        some (if (timevalSubtractInto (m x) (m y)).1 then 1 else 0, m') ∧
      m' x = (timevalSubtractInto (m x) (m y)).2.1 ∧ m' y = (timevalSubtractInto (m x) (m y)).2.2 := by
  obtain ⟨m', hrun, hy, -, hx⟩ := timevalSubtract_spec hu h y
  refine ⟨m', ?_, ?_, hy⟩
  · rw [hrun]
    simp only [timevalSubtractInto_fst]
  · rw [hx hxy, timevalSubtractInto_x]

end Subtract

/-! ## The arithmetic of the instants -/

/-- `ret` compares the instants. -/
structure CompareResult (ret : Int) (x y : Timeval) : Prop where
  less : ret = -1 ↔ x.us < y.us
  equal : ret = 0 ↔ x.us = y.us
  greater : ret = 1 ↔ y.us < x.us

/-- `v` is what is left of `x` after `y`, and `ret` says that nothing is. -/
structure SubtractResult (ret : Int) (v x y : Timeval) : Prop where
  nothing : ret = 1 ∧ v = .zero ↔ x.us ≤ y.us
  left : y.us < x.us → ret = 0 ∧ v.Normal ∧ v.us = x.us - y.us

theorem compareResult (x y : Timeval) : CompareResult (LibPcp.timevalComp x y).1 x y := by
  rw [timevalComp_fst]
  obtain hlt | heq | hgt := Int.lt_trichotomy x.us y.us
  · rw [if_pos hlt]
    exact ⟨iff_of_true rfl hlt, iff_of_false (by decide) (by omega), iff_of_false (by decide) (by omega)⟩
  · rw [if_neg (by omega), if_neg (by omega)]
    exact ⟨iff_of_false (by decide) (by omega), iff_of_true rfl heq, iff_of_false (by decide) (by omega)⟩
  · rw [if_neg (by omega), if_pos hgt]
    exact ⟨iff_of_false (by decide) (by omega), iff_of_false (by decide) (by omega), iff_of_true rfl hgt⟩

theorem subtractResult (x y : Timeval) :
    SubtractResult (if x.us ≤ y.us then 1 else 0) (timevalSubtractInto x y).2.2 x y := by
  by_cases hle : x.us ≤ y.us
  · rw [if_pos hle, timevalSubtractInto_over hle]
    exact ⟨⟨fun _ => hle, fun _ => ⟨rfl, rfl⟩⟩, fun hlt => absurd hle (Int.not_le.mpr hlt)⟩
  · obtain ⟨hus, hn⟩ := timevalSubtractInto_left (Int.not_le.mp hle)
    rw [if_neg hle]
    exact ⟨⟨fun h => absurd h.1 (by decide), fun h => absurd h hle⟩, fun _ => ⟨rfl, hn, hus⟩⟩

/-- Without an overflow of seconds `timeval_align` keeps the instant and normalises, `timeval_comp`
compares the instants, and `timeval_subtract` subtracts them. All objects but the result keep their
instants, and what is returned and stored is the same for every place of the result, the operands
included. -/
theorem timeval_exact {ι : Type} [DecidableEq ι] {w u : Nat} (hu : 32 ≤ u) (m : Mem ι Timeval)
    (x y : ι) :
    (Aligns w (m x) → ∃ m', timevalAlign w u x m = some m' ∧ (m' x).us = (m x).us ∧ (m' x).Normal ∧
      ∀ p, p ≠ x → m' p = m p) ∧
    (Aligns w (m x) → Aligns w (m y) → ∃ ret m', timevalComp w u x y m = some (ret, m') ∧
      CompareResult ret (m x) (m y) ∧ ∀ p, (m' p).us = (m p).us) ∧
    (NoOverflow w (m x) (m y) → ∃ ret v, SubtractResult ret v (m x) (m y) ∧
      ∀ r, ∃ m', timevalSubtract w u r x y m = some (ret, m') ∧ m' r = v ∧
        ∀ p, p ≠ r → (m' p).us = (m p).us) := by
  refine ⟨fun hx => ?_, fun hx hy => ?_, fun h => ?_⟩
  · refine ⟨Function.update m x (LibPcp.timevalAlign (m x)), ?_, ?_, ?_, fun p hp => ?_⟩
    · rw [timevalAlign_eq hu, if_pos hx]
    · rw [Function.update_self, us_timevalAlign]
    · rw [Function.update_self]
      exact timevalAlign_normal (m x)
    · exact Function.update_of_ne hp ..
  · refine ⟨(LibPcp.timevalComp (m x) (m y)).1, alignBoth m x y, ?_, compareResult (m x) (m y),
      alignBoth_us m x y⟩
    rw [timevalComp_eq hu, if_pos ⟨hx, hy⟩]
  · refine ⟨_, _, subtractResult (m x) (m y), fun r => ?_⟩
    obtain ⟨m', hrun, hr, hother, -⟩ := timevalSubtract_spec hu h r
    exact ⟨m', hrun, hr, hother⟩

/-- The two objects of `check_flow_timeout`. -/
inductive Timer where
  | timeout
  | ctv
  deriving DecidableEq

/-- 4.1 and 2.25 seconds, neither of them normal. -/
def timers : Mem Timer Timeval
  | .timeout => ⟨5, -900000⟩
  | .ctv => ⟨1, 1250000⟩

theorem timeval_exact_ctv :
    (∃ m', timevalAlign 64 32 Timer.timeout timers = some m' ∧ m' .timeout = ⟨4, 100000⟩) ∧
    (∃ m', timevalComp 64 32 Timer.timeout .ctv timers = some (1, m')) ∧
    ∃ m', timevalSubtract 64 32 Timer.ctv .timeout .ctv timers = some (0, m') ∧
      m' .ctv = ⟨1, 850000⟩ := by
  have hu : 32 ≤ 32 := by decide
  have hno : NoOverflow 64 (timers .timeout) (timers .ctv) := by decide
  obtain ⟨halign, hcomp, hsub⟩ := timeval_exact hu timers .timeout .ctv
  refine ⟨?_, ?_, ?_⟩
  · obtain ⟨m', hm, hus, hn, -⟩ := halign hno.1
    exact ⟨m', hm, hn.ext ⟨by decide, by decide⟩ (hus.trans (by decide))⟩
  · obtain ⟨ret, m', hm, hret, -⟩ := hcomp hno.1 hno.2.1
    have hone : ret = 1 := hret.greater.mpr (by decide)
    exact ⟨m', hone ▸ hm⟩
  · obtain ⟨ret, v, hres, hrun⟩ := hsub hno
    obtain ⟨rfl, hn, hus⟩ := hres.left (by decide)
    obtain ⟨m', hm, hv, -⟩ := hrun .ctv
    have hvalue : v = ⟨1, 850000⟩ := hn.ext ⟨by decide, by decide⟩ (hus.trans (by decide))
    exact ⟨m', hm, hv.trans hvalue⟩

end InPlace
end LibPcp
