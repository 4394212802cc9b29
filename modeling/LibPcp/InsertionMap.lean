import Mathlib.Data.List.Induction
import Mathlib.Data.List.Nodup

/-!
# LibPcp.InsertionMap

A map kept as a list of pairs, in the order in which the keys were first put in.

`put` replaces the value of a key where it stands or adds the pair at the end, as a program does that
searches an array for the key. `summary` says what a sequence of puts amounts to without going through
the list: the distinct keys in the order of their first occurrence, each with the last value given for
it.

* `put_of_findIdx?`: the search with an index, as a program does it.
* `puts_nil`: putting the pairs one by one gives their summary.
-/

namespace InsertionMap

variable {α β : Type*} [DecidableEq α]

/-- Set the value of a key. -/
def put (k : α) (v : β) : List (α × β) → List (α × β)
  | [] => [(k, v)]
  | p :: l => if p.1 = k then (k, v) :: l else p :: put k v l

/-- Set the values of several keys, one after the other. -/
def puts (ps l : List (α × β)) : List (α × β) := ps.foldl (fun l p => put p.1 p.2 l) l

/-- The last value given for a key, or `d`. -/
def lastValue (d : β) (ps : List (α × β)) (k : α) : β :=
  ps.foldl (fun v p => if p.1 = k then p.2 else v) d

/-- The distinct keys with their last values. -/
def summary (d : β) (ps : List (α × β)) : List (α × β) :=
  (ps.map Prod.fst).eraseDups.map fun k => (k, lastValue d ps k)

section Put

variable {k : α} {v : β} {l : List (α × β)}

/-- A new key goes to the end. -/
theorem put_of_not_mem (h : ∀ p ∈ l, p.1 ≠ k) : put k v l = l ++ [(k, v)] := by
  induction l with
  | nil => rfl
  | cons p l ih =>
    obtain ⟨hp, hl⟩ := List.forall_mem_cons.mp h
    rw [put, if_neg hp, ih hl]
    rfl

/-- The pair at the index that a search finds is replaced. -/
theorem put_of_findIdx? {i : Nat} (h : l.findIdx? (fun p => p.1 = k) = some i) :
    put k v l = l.set i (k, v) := by
  induction l generalizing i with
  | nil => simp at h
  | cons p l ih =>
    rw [List.findIdx?_cons] at h
    by_cases hp : p.1 = k
    · rw [if_pos (decide_eq_true hp)] at h
      cases h
      rw [put, if_pos hp, List.set_cons_zero]
    · rw [if_neg (by simpa using hp), Option.map_eq_some_iff] at h
      obtain ⟨j, hj, rfl⟩ := h
      rw [put, if_neg hp, List.set_cons_succ, ih hj]

/-- A key that is there keeps its place. -/
theorem put_of_mem {ks : List α} {f : α → β} (hnodup : ks.Nodup) (h : k ∈ ks) :
    put k v (ks.map fun j => (j, f j)) = ks.map fun j => (j, if k = j then v else f j) := by
  induction ks with
  | nil => cases h
  | cons j ks ih =>
    obtain ⟨hj, hks⟩ := List.nodup_cons.mp hnodup
    rw [List.map_cons, List.map_cons, put]
    by_cases hjk : j = k
    · subst hjk
      have hrest : (ks.map fun i => (i, f i)) = ks.map fun i => (i, if j = i then v else f i) :=
        List.map_congr_left fun i hi => by
          have hji : j ≠ i := fun hji => hj (hji ▸ hi)
          rw [if_neg hji]
      rw [if_pos rfl, if_pos rfl, hrest]
    · have hk : k ∈ ks := (List.mem_cons.mp h).resolve_left (Ne.symm hjk)
      rw [if_neg hjk, if_neg (Ne.symm hjk), ih hks hk]

end Put

section Summary

variable {d : β} {ps : List (α × β)} {k : α} {v : β}

theorem nodup_eraseDups (l : List α) : l.eraseDups.Nodup := by
  induction l using List.reverseRecOn with
  | nil => exact List.nodup_nil
  | append_singleton l a ih =>
    rw [List.eraseDups_append]
    by_cases ha : a ∈ l
    · simpa [List.removeAll, ha] using ih
    · have hnew : ([a].removeAll l).eraseDups = [a] := by
        simp only [List.removeAll, List.filter_singleton, List.elem_eq_mem, ha]
        rfl
      rw [hnew, ← List.concat_eq_append]
      exact List.Nodup.concat (fun hmem => ha (List.mem_eraseDups.mp hmem)) ih

theorem lastValue_concat (j : α) :
    lastValue d (ps ++ [(k, v)]) j = if k = j then v else lastValue d ps j := by
  simp [lastValue]

/-- One more put. -/
theorem summary_concat : summary d (ps ++ [(k, v)]) = put k v (summary d ps) := by
  have hnodup := nodup_eraseDups (ps.map Prod.fst)
  unfold summary
  rw [List.map_append, List.map_singleton, List.eraseDups_append]
  simp only [lastValue_concat]
  by_cases hk : k ∈ ps.map Prod.fst
  · have hnone : ([k].removeAll (ps.map Prod.fst)).eraseDups = [] := by
      simp only [List.removeAll, List.filter_singleton, List.elem_eq_mem, hk]
      rfl
    rw [hnone, List.append_nil, put_of_mem hnodup (List.mem_eraseDups.mpr hk)]
  · have hone : ([k].removeAll (ps.map Prod.fst)).eraseDups = [k] := by
      simp only [List.removeAll, List.filter_singleton, List.elem_eq_mem, hk]
      rfl
    have hne : ∀ j ∈ (ps.map Prod.fst).eraseDups, j ≠ k := fun j hj hjk =>
      hk (List.mem_eraseDups.mp (hjk ▸ hj))
    have hold : ((ps.map Prod.fst).eraseDups.map fun j => (j, if k = j then v else lastValue d ps j)) =
        (ps.map Prod.fst).eraseDups.map fun j => (j, lastValue d ps j) :=
      List.map_congr_left fun j hj => by rw [if_neg (Ne.symm (hne j hj))]
    rw [hone, List.map_append, List.map_singleton, if_pos rfl, hold, put_of_not_mem]
    intro p hp
    obtain ⟨j, hj, rfl⟩ := List.mem_map.mp hp
    exact hne j hj

theorem puts_nil (d : β) (ps : List (α × β)) : puts ps [] = summary d ps := by
  induction ps using List.reverseRecOn with
  | nil => rfl
  | append_singleton ps p ih =>
    rw [puts, List.foldl_append, List.foldl_cons, List.foldl_nil, summary_concat, ← ih]
    rfl

/-- The keys are those of the puts. -/
theorem mem_keys_summary : k ∈ (summary d ps).map Prod.fst ↔ k ∈ ps.map Prod.fst := by
  simp [summary, List.mem_eraseDups]

end Summary

end InsertionMap
