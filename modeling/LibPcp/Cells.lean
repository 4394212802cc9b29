import Mathlib.Logic.Function.Basic
import Mathlib.Tactic.NormNum

/-!
# LibPcp.Cells

Objects behind pointers, and fields of a signed type in them.

A memory gives every pointer its object, so two pointers may share one, and what is stored through the
first is read through the second. A number that the type cannot hold is an overflow; there a run ends
(`none`), because what the program does next is not defined.

* `Fits w`: the numbers of a signed type of `w` bits.
* `checked_of_fits`: a number that is computed.
* `assign_of_fits`, `assign_of_not_fits`: a number that is stored.
-/

namespace Cells

/-- The object behind every pointer. -/
abbrev Mem (ι α : Type*) := ι → α

/-- A signed type of `w` bits holds the number. -/
def Fits (w : Nat) (z : Int) : Prop := -2 ^ (w - 1) ≤ z ∧ z < 2 ^ (w - 1)

instance (w : Nat) (z : Int) : Decidable (Fits w z) := inferInstanceAs (Decidable (_ ∧ _))

/-- The value of an expression of the type. -/
def checked (w : Nat) (z : Int) : Option Int := if Fits w z then some z else none

/-- `p->field = z`, where `set` sets the field of an object. -/
def assign {ι α : Type*} [DecidableEq ι] (w : Nat) (set : Int → α → α) (p : ι) (z : Int)
    (m : Mem ι α) : Option (Mem ι α) :=
  if Fits w z then some (Function.update m p (set z (m p))) else none

section Numbers

variable {v w : Nat} {a b z : Int}

theorem Fits.zero (w : Nat) : Fits w 0 := by
  have hpow : (0 : Int) < 2 ^ (w - 1) := pow_pos (by norm_num) _
  exact ⟨by omega, hpow⟩

/-- A wider type holds more numbers. -/
theorem Fits.mono (hvw : v ≤ w) (h : Fits v z) : Fits w z := by
  have hpow : (2 : Int) ^ (v - 1) ≤ 2 ^ (w - 1) := pow_le_pow_right₀ (by norm_num) (by omega)
  obtain ⟨hlo, hhi⟩ := h
  exact ⟨by omega, by omega⟩

/-- What lies between two numbers of the type is one too. -/
theorem Fits.between (ha : Fits w a) (hb : Fits w b) (haz : a ≤ z) (hzb : z ≤ b) : Fits w z :=
  ⟨Int.le_trans ha.1 haz, Int.lt_of_le_of_lt hzb hb.2⟩

theorem checked_of_fits (h : Fits w z) : checked w z = some z := if_pos h

end Numbers

section Assign

variable {ι α : Type*} [DecidableEq ι] {w : Nat} {set : Int → α → α} {p : ι} {z : Int} {m : Mem ι α}

theorem assign_of_fits (h : Fits w z) : assign w set p z m = some (Function.update m p (set z (m p))) :=
  if_pos h

theorem assign_of_not_fits (h : ¬ Fits w z) : assign w set p z m = none := if_neg h

end Assign

end Cells
