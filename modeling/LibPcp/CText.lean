import Mathlib.Data.List.TakeWhile
import Mathlib.Tactic.NormNum

/-!
# LibPcp.CText

Text as C programs handle it. A string is the list of its characters up to the terminator, and a
pointer into it is what is left of the string from there on, so moving a pointer forward is taking
characters off the front and the terminator is the empty list.

* `ptrDiff p q`: the distance of two pointers.
* `strndup`: the text between two pointers (`strndup_ptrDiff`).
* `skipTo c`: forward to the first `c`, or to the end (`skipTo_append`, `skipTo_eq_nil`).
* `atoi`: the number at the start of a text, as a 32-bit `int`.
-/

namespace CText

/-- A string from some position on. -/
abbrev Text := List Char

/-- `isspace` in the C locale. -/
def isspace (c : Char) : Bool := c == ' ' || (9 ≤ c.toNat && c.toNat ≤ 13)

/-- `while (isspace(*p)) ++p`. -/
def skipSpace (p : Text) : Text := p.dropWhile isspace

/-- `while (*p && *p != c) ++p`. -/
def skipTo (c : Char) (p : Text) : Text := p.dropWhile (· != c)

/-- `p - q`, with `p` not before `q`. -/
def ptrDiff (p q : Text) : Nat := q.length - p.length

def strndup (p : Text) (n : Nat) : Text := p.take n

/-- What a buffer of `n` bytes keeps of the text written to it. -/
def snprintf (n : Nat) (t : Text) : Text := t.take (n - 1)

/-- `%d` of a number that is not negative. -/
def decimal (n : Nat) : Text := Nat.toDigits 10 n

/-- `%d` of any number. -/
def signed (n : Int) : Text := if n < 0 then '-' :: decimal n.natAbs else decimal n.natAbs

/-- `strtol` to base 10 with a 64-bit `long`, which stops at the bounds of the type. -/
def strtol (p : Text) : Int :=
  let number (t : Text) : Int := Nat.ofDigitChars 10 (t.takeWhile Char.isDigit) 0
  match skipSpace p with
  | '-' :: t => max (-number t) (-2 ^ 63)
  | '+' :: t => min (number t) (2 ^ 63 - 1)
  | t => min (number t) (2 ^ 63 - 1)

/-- The `long` narrowed to an `int`. -/
def atoi (p : Text) : Int := (strtol p).bmod (2 ^ 32)

section Pointers

variable {c : Char} {t u v : Text}

@[simp] theorem ptrDiff_append (u v : Text) : ptrDiff v (u ++ v) = u.length := by
  simp [ptrDiff]

@[simp] theorem ptrDiff_append_cons (u v : Text) : ptrDiff v (u ++ c :: v) = u.length + 1 := by
  rw [List.append_cons, ptrDiff_append]
  simp

/-- The text between two pointers. -/
@[simp] theorem strndup_ptrDiff (u v : Text) : strndup (u ++ v) (ptrDiff v (u ++ v)) = u := by
  simp [strndup]

theorem skipTo_eq_nil (h : c ∉ t) : skipTo c t = [] :=
  List.dropWhile_eq_nil_iff.mpr fun _ hd => bne_iff_ne.mpr fun hdc => h (hdc ▸ hd)

theorem skipTo_append (h : c ∉ u) : skipTo c (u ++ c :: v) = c :: v := by
  have hu : ∀ d ∈ u, (d != c) = true := fun _ hd => bne_iff_ne.mpr fun hdc => h (hdc ▸ hd)
  unfold skipTo
  rw [List.dropWhile_append_of_pos hu]
  simp

/-- A text with a `c`, taken apart at the last one. -/
theorem last_split (h : c ∈ t) : ∃ u v, t = u ++ c :: v ∧ c ∉ v := by
  obtain ⟨v, u, hrev, hv⟩ := List.eq_append_cons_of_mem (List.mem_reverse.mpr h)
  refine ⟨u.reverse, v.reverse, ?_, fun hc => hv (List.mem_reverse.mp hc)⟩
  simpa using congrArg List.reverse hrev

theorem skipSpace_cons (h : isspace c = false) : skipSpace (c :: t) = c :: t := by
  simp [skipSpace, h]

end Pointers

section Numbers

theorem decimal_ne_nil {n : Nat} : decimal n ≠ [] := Nat.toDigits_ne_nil

theorem decimal_isDigit {n : Nat} {c : Char} (h : c ∈ decimal n) : c.isDigit = true :=
  Nat.isDigit_of_mem_toDigits (by decide) (by decide) h

theorem decimal_length_le {n k : Nat} (hk : 0 < k) (h : n < 10 ^ k) : (decimal n).length ≤ k :=
  (Nat.length_toDigits_le_iff (by decide) hk).mpr h

theorem isspace_of_isDigit {c : Char} (h : c.isDigit = true) : isspace c = false := by
  have hle : 48 ≤ c.toNat := by
    simp only [Char.isDigit, Bool.and_eq_true, decide_eq_true_eq] at h
    exact UInt32.le_iff_toNat_le.mp h.1
  have hne : c ≠ ' ' := by
    rintro rfl
    exact absurd hle (by decide)
  have hlt : ¬ c.toNat ≤ 13 := by omega
  simp [isspace, hne, hlt]

theorem ofDigitChars_decimal (n : Nat) : Nat.ofDigitChars 10 ((decimal n).takeWhile Char.isDigit) 0 = n := by
  rw [List.takeWhile_eq_self_iff.mpr fun _ hc => decimal_isDigit hc]
  exact Nat.ofDigitChars_ten_toDigits

/-- What is printed is read back. -/
theorem strtol_signed {n : Int} (hmin : -2 ^ 63 ≤ n) (hmax : n < 2 ^ 63) : strtol (signed n) = n := by
  unfold signed
  split
  · rename_i hneg
    rw [strtol, skipSpace_cons (by decide)]
    simp only [ofDigitChars_decimal]
    omega
  · rename_i hpos
    cases hd : decimal n.natAbs with
    | nil => exact absurd hd decimal_ne_nil
    | cons c t =>
      have hdigit : c.isDigit = true := decimal_isDigit (hd ▸ List.mem_cons_self)
      rw [strtol, skipSpace_cons (isspace_of_isDigit hdigit)]
      split
      · rename_i heq
        cases heq
        exact absurd hdigit (by decide)
      · rename_i heq
        cases heq
        exact absurd hdigit (by decide)
      · simp only
        rw [← hd, ofDigitChars_decimal]
        omega

theorem atoi_signed {n : Int} (hmin : -2 ^ 31 ≤ n) (hmax : n < 2 ^ 31) : atoi (signed n) = n := by
  rw [atoi, strtol_signed (by omega) (by omega), Int.bmod_eq_of_le] <;> omega

end Numbers

end CText
