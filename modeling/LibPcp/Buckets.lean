import Mathlib.Data.List.Basic
import Mathlib.Data.List.Nodup
import Mathlib.Logic.Function.Basic

/-!
# LibPcp.Buckets

Chained buckets as a way to store a list.

A table keeps the elements of a list by the value of a hash function, each bucket in the order of the
list (`bucket`). Appending to and erasing from the list are the same operations on the one bucket the
element belongs to, and a search that only accepts elements of one bucket gives the same result on the
bucket and on the whole list (`find?_bucket`).
-/

namespace HashBuckets

variable {α : Type} (h : α → Nat) (l : List α)

/-- The elements with hash `b`, in order. -/
def bucket (b : Nat) : List α := l.filter fun x => h x = b

variable {h l}

theorem mem_bucket {x : α} {b : Nat} : x ∈ bucket h l b ↔ x ∈ l ∧ h x = b := by
  simp [bucket]

theorem bucket_append_self (x : α) : bucket h (l ++ [x]) (h x) = bucket h l (h x) ++ [x] := by
  simp [bucket]

theorem bucket_append_of_ne {x : α} {b : Nat} (hb : b ≠ h x) :
    bucket h (l ++ [x]) b = bucket h l b := by
  simp [bucket, Ne.symm hb]

theorem bucket_erase [DecidableEq α] (x : α) (b : Nat) :
    bucket h (l.erase x) b = (bucket h l b).erase x := by
  simp [bucket, List.erase_filter]

theorem bucket_congr {g : α → Nat} (hg : ∀ x ∈ l, g x = h x) (b : Nat) :
    bucket g l b = bucket h l b := by
  refine List.filter_congr fun x hx => ?_
  rw [hg x hx]

theorem find?_bucket {p : α → Bool} {b : Nat} (hp : ∀ x, p x = true → h x = b) :
    (bucket h l b).find? p = l.find? p := by
  rw [bucket, List.find?_filter]
  congr 1
  funext x
  cases hx : p x with
  | false => simp
  | true => simp [hp x hx]

/-- How many elements all buckets hold when one of them is replaced. -/
theorem length_flatMap_update (t : Nat → List α) (x : List α) {b n : Nat} (hb : b < n) :
    ((List.range n).flatMap (Function.update t b x)).length + (t b).length =
      ((List.range n).flatMap t).length + x.length := by
  induction n with
  | zero => exact absurd hb (Nat.not_lt_zero b)
  | succ n ih =>
    simp only [List.range_succ, List.flatMap_append, List.flatMap_singleton, List.length_append]
    by_cases hbn : b = n
    · subst hbn
      have hbefore : (List.range b).flatMap (Function.update t b x) = (List.range b).flatMap t := by
        refine List.flatMap_congr fun i hi => ?_
        rw [Function.update_of_ne (Nat.ne_of_lt (List.mem_range.mp hi))]
      rw [hbefore, Function.update_self]
      omega
    · have hrest := ih (by omega)
      rw [Function.update_of_ne (Ne.symm hbn)]
      omega

end HashBuckets
