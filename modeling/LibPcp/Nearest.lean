import LibPcp.Asleep
import LibPcp.Views
import Mathlib.Order.Bounds.Basic

/-!
# LibPcp.Nearest

The time `pcp_pulse` stores for its caller.

`hserver_iter` lowers `*next_timeout` to what the server's timer has left, with `{0,0}` for "no time
yet". `LeastOf` is such a minimum with none for the empty set; a visit of a server adds at most one
element to the set (`hserverIter_least`). The records of the other servers are not written
meanwhile (`Alone`), whatever the context is, so what was added stays true until the pulse returns.

* `pulse_nearest`: with the clock standing still the pulse returns, and its value is the least of the
  caller's and of what the servers have left then. Unless two servers are due in one pulse it is the same
  in whatever order they are visited.
* `pulse_order_matters`: with two of them due the order counts, since the walk of one handles the timers
  of the other's flows.
* `pulse_forgets_zero`: a zero that is spelt with microseconds out of range is not told from an early
  time, and the servers are passed over.
-/

namespace LibPcp

/-! ## A least element, or none -/

section Least

variable {α : Type} [LinearOrder α] {S : Set α}

/-- The least element of `S`, none if it is empty. -/
def LeastOf (S : Set α) : Option α → Prop
  | none => S = ∅
  | some m => IsLeast S m

theorem LeastOf.insert {m : Option α} (h : LeastOf S m) (x : α) :
    LeastOf (insert x S) (some (m.elim x (min x))) := by
  cases m with
  | none =>
    have hS : S = ∅ := h
    rw [hS, insert_empty_eq]
    exact isLeast_singleton
  | some m => exact IsLeast.insert x h

theorem LeastOf.unique {m m' : Option α} (h : LeastOf S m) (h' : LeastOf S m') : m = m' := by
  cases m with
  | none =>
    cases m' with
    | none => rfl
    | some m' =>
      have hmem : m' ∈ S := h'.1
      have hS : S = ∅ := h
      rw [hS] at hmem
      cases hmem
  | some m =>
    cases m' with
    | none =>
      have hmem : m ∈ S := h.1
      have hS : S = ∅ := h'
      rw [hS] at hmem
      cases hmem
    | some m' => exact congrArg some (IsLeast.unique h h')

end Least

/-! ## A visit of `hserver_iter` -/

/-- What the timer of `s` has left when the loop ends in `a`. -/
structure LeftAt (e : Env) (s : Nat) (a : Ctx) (left : Timeval) : Prop where
  normal : left.Normal
  pos : 0 < left.us
  us : left.us = (a.pcpServers s).nextTimeout.us - (e.now a.io).us

section Loop

variable {e : Env} {n s : Nat} {c c' : Ctx} {t : Timeval} {u : Option Timeval}

/-- The loop ends with the timer off, or with what it has left. -/
theorem hserverLoop_end {ctv : Timeval} (h : hserverLoop e s n c = some (ctv, c')) :
    ∃ a, Fires e s c a ∧ ¬ Due e a s ∧ c' = settle s a ∧
      ((c'.pcpServers s).nextTimeout.isZero = false → LeftAt e s a ctv) := by
  induction n generalizing c with
  | zero => cases h
  | succ n ih =>
    by_cases hdue : Due e c s
    · obtain ⟨t, heq⟩ := hserverLoop_succ e s n c
      rw [heq, if_pos hdue] at h
      obtain ⟨a, hfires, hrest⟩ := ih h
      exact ⟨a, .cons hdue hfires, hrest⟩
    · simp only [hserverLoop, Ctx.tick_pcpServers] at h
      refine ⟨c, .nil c, hdue, ?_⟩
      unfold settle
      split at h
      · rename_i hz
        cases h
        rw [if_pos hz]
        refine ⟨rfl, fun hne => ?_⟩
        rw [Ctx.tick_pcpServers, hz] at hne
        cases hne
      · rename_i hz
        have hlt : (e.now c.io).us < (c.pcpServers s).nextTimeout.us := by
          by_contra hle
          exact hdue ⟨by simpa using hz, by omega⟩
        have hsub : ¬ (timevalSubtractInto (c.pcpServers s).nextTimeout (e.now c.io)).1 = true := by
          rw [timevalSubtractInto_fst]
          omega
        obtain ⟨hus, hnormal⟩ := timevalSubtractInto_left hlt
        rw [if_neg hsub] at h
        cases h
        rw [if_neg hz, timevalSubtractInto_x]
        exact ⟨rfl, fun _ => ⟨hnormal, by omega, hus⟩⟩

/-- A slot that is not in use is passed over. -/
theorem hserverIter_passes (h : hserverIter e n .timeout c s (some t) = some (c', u))
    (hs : (c.pcpServers s).serverState = .unitialized) : c' = c ∧ u = some t := by
  unfold hserverIter at h
  rw [if_pos hs] at h
  cases h
  exact ⟨rfl, rfl⟩

/-- A visit leaves the value, or lowers it to what the server has left. -/
theorem hserverIter_value (h : hserverIter e n .timeout c s (some t) = some (c', u))
    (hs : (c.pcpServers s).serverState ≠ .unitialized) :
    ∃ a v, Fires e s c a ∧ ¬ Due e a s ∧ c' = settle s a ∧ u = some v ∧
      if (c'.pcpServers s).nextTimeout.isZero then v = t
      else ∃ left, LeftAt e s a left ∧ v = nearestTimeout t left := by
  unfold hserverIter at h
  rw [if_neg hs] at h
  dsimp only at h
  rw [if_neg (by simp)] at h
  cases hloop : hserverLoop e s n c with
  | none =>
    rw [hloop] at h
    cases h
  | some q =>
    obtain ⟨ctv, b⟩ := q
    obtain ⟨a, hfires, hdue, hend, hleft⟩ := hserverLoop_end hloop
    rw [hloop] at h
    dsimp only at h
    unfold nearestTimeout
    split at h
    · rename_i hz
      cases h
      exact ⟨a, t, hfires, hdue, hend, rfl, by rw [if_pos hz]⟩
    · rename_i hz
      have hctv := hleft (by simpa using hz)
      split at h
      · rename_i htz
        cases h
        refine ⟨a, ctv, hfires, hdue, hend, rfl, ?_⟩
        rw [if_neg hz]
        exact ⟨ctv, hctv, by rw [if_pos htz]⟩
      · rename_i htz
        cases h
        refine ⟨a, _, hfires, hdue, hend, rfl, ?_⟩
        rw [if_neg hz]
        refine ⟨ctv, hctv, ?_⟩
        rw [if_neg htz, timevalComp_snd]
        exact if_congr (timevalComp_lt ctv t) rfl rfl

theorem fire_initialised (h : (c.pcpServers s).serverState ≠ .unitialized) :
    ((fire e s c).pcpServers s).serverState ≠ .unitialized := by
  have hstart : ((alignNext c.tick s).pcpServers s).serverState ≠ .unitialized := by
    rw [alignNext_self]
    exact h
  obtain ⟨k, hk⟩ := serverHandler_total ((alignNext c.tick s).pcpServers s).serverState .timeout
  unfold fire
  rw [runServerStateMachine_eq hk, Ctx.modServer_self]
  exact k.run_live e hstart

theorem Fires.alone {a : Ctx} (h : Fires e s c a) (hs : (c.pcpServers s).serverState ≠ .unitialized) :
    Alone s c a ∧ (a.pcpServers s).serverState ≠ .unitialized := by
  induction h with
  | nil c => exact ⟨.of_eq rfl rfl, hs⟩
  | @cons b _ hdue _ ih =>
    obtain ⟨halone, hlive⟩ := ih (fire_initialised hs)
    exact ⟨(fire_alone b).trans halone, hlive⟩

theorem settle_alone (e : Env) (a : Ctx) : Alone s a (settle s a) := by
  have w := alone_writes e s
  unfold settle
  split
  · exact w.tick a
  · exact w.trans (w.tick a) (w.setNextTimeout _ _)

end Loop

/-- A value for the caller, none for `{0,0}`. -/
def Timeval.given (t : Timeval) : Option Int := if t = .zero then none else some t.us

/-- What the timer of `s` has left at `now`; none without a timer or for a slot that is not in use. -/
def timeLeft (now : Timeval) (c : Ctx) (s : Nat) : Option Int :=
  if Live c s ∧ (c.pcpServers s).nextTimeout ≠ .zero then
    some ((c.pcpServers s).nextTimeout.us - now.us)
  else none

/-- What the value for the caller is chosen from after the visits of `V`. -/
def offered (now r : Timeval) (c : Ctx) (V : Set Nat) : Set Int :=
  {x | x ∈ r.given ∨ ∃ s ∈ V, x ∈ timeLeft now c s}

/-- Zero is `{0,0}` and has no other spelling. -/
def Timeval.PlainZero (t : Timeval) : Prop := t.us = 0 → t = .zero

theorem Timeval.Normal.plainZero {t : Timeval} (h : t.Normal) : t.PlainZero :=
  fun hus => Timeval.isZero_iff.mp (h.isZero_iff.mpr hus)

section Visit

variable {e : Env} {now r : Timeval} {n s : Nat} {c c' : Ctx}

/-- The value after a visit. -/
structure Lowered (now : Timeval) (s : Nat) (c c' : Ctx) (t u : Timeval) : Prop where
  alone : Alone s c c'
  live : Live c' s ↔ Live c s
  given : u.given = (timeLeft now c' s).elim t.given fun x => some (t.given.elim x (min x))
  plainZero : u.PlainZero
  normal : t.Normal → u.Normal

theorem Timeval.given_of_ne {t : Timeval} (h : t ≠ .zero) : t.given = some t.us := if_neg h

theorem Timeval.ne_zero_of_us {t : Timeval} (h : t.us ≠ 0) : t ≠ .zero := by
  rintro rfl
  exact h rfl

/-- What `{0,0}` or a later time is lowered to. -/
theorem nearestTimeout_given {t left : Timeval} (hn : left.Normal) (hpos : 0 < left.us) (ht : t.PlainZero) :
    (nearestTimeout t left).given = some (t.given.elim left.us (min left.us)) ∧
      (nearestTimeout t left).Normal := by
  have hleft : left ≠ .zero := Timeval.ne_zero_of_us (Int.ne_of_gt hpos)
  unfold nearestTimeout
  split
  · rename_i htz
    have hgiven : t.given = none := if_pos (Timeval.isZero_iff.mp htz)
    rw [hgiven, Timeval.given_of_ne hleft]
    exact ⟨rfl, hn⟩
  · rename_i htz
    have htne : t ≠ .zero := fun h0 => htz (Timeval.isZero_iff.mpr h0)
    have htus : t.us ≠ 0 := fun h0 => htne (ht h0)
    have hgiven : ∀ v : Timeval, v.us = min left.us t.us →
        v.given = some (t.given.elim left.us (min left.us)) := by
      intro v hv
      rw [Timeval.given_of_ne htne, Timeval.given_of_ne (Timeval.ne_zero_of_us (by omega)), hv]
      rfl
    split
    · refine ⟨hgiven _ ?_, timevalAlign_normal _⟩
      rw [us_timevalAlign]
      omega
    · refine ⟨hgiven _ ?_, timevalAlign_normal _⟩
      rw [us_timevalAlign]
      omega

theorem hserverIter_lowered {t : Timeval} {u : Option Timeval}
    (h : hserverIter (e.frozen now) n .timeout c s (some t) = some (c', u))
    (hlt : s < c.pcpServersLength) (ht : t.PlainZero) :
    ∃ v, u = some v ∧ Lowered now s c c' t v := by
  by_cases hs : (c.pcpServers s).serverState = .unitialized
  · obtain ⟨rfl, rfl⟩ := hserverIter_passes h hs
    have hnone : timeLeft now c' s = none := if_neg fun hl => hl.1.2 hs
    exact ⟨t, rfl, .of_eq rfl rfl, .rfl, by rw [hnone]; rfl, ht, id⟩
  · obtain ⟨a, v, hfires, -, rfl, rfl, hv⟩ := hserverIter_value h hs
    obtain ⟨hfired, hlive⟩ := hfires.alone hs
    obtain ⟨hsame, hus⟩ := settle_server s s a
    have halone : Alone s c (settle s a) := hfired.trans (settle_alone e a)
    have hlive' : Live (settle s a) s := by
      refine ⟨halone.length.symm ▸ hlt, ?_⟩
      rw [hsame.serverState]
      exact hlive
    have hiff : Live (settle s a) s ↔ Live c s := iff_of_true hlive' ⟨hlt, hs⟩
    refine ⟨v, rfl, ?_⟩
    split at hv
    · rename_i hz
      have hnone : timeLeft now (settle s a) s = none :=
        if_neg fun hl => hl.2 (Timeval.isZero_iff.mp hz)
      subst hv
      exact ⟨halone, hiff, by rw [hnone]; rfl, ht, id⟩
    · rename_i hz
      obtain ⟨left, hleft, rfl⟩ := hv
      have hne : ((settle s a).pcpServers s).nextTimeout ≠ .zero := fun h0 => hz (Timeval.isZero_iff.mpr h0)
      have hsome : timeLeft now (settle s a) s = some left.us := by
        rw [hleft.us, ← hus]
        exact if_pos ⟨hlive', hne⟩
      obtain ⟨hgiven, hnormal⟩ := nearestTimeout_given hleft.normal hleft.pos ht
      refine ⟨halone, hiff, ?_, hnormal.plainZero, fun _ => hnormal⟩
      rw [hsome, hgiven]
      rfl

/-- One visit adds at most one element to the set. -/
theorem hserverIter_least {t : Timeval} {u : Option Timeval} {V : Set Nat}
    (h : hserverIter (e.frozen now) n .timeout c s (some t) = some (c', u))
    (hlt : s < c.pcpServersLength) (hV : s ∉ V) (ht : t.PlainZero)
    (hleast : LeastOf (offered now r c V) t.given) :
    ∃ v, u = some v ∧ Lowered now s c c' t v ∧ LeastOf (offered now r c' (insert s V)) v.given := by
  obtain ⟨v, rfl, hv⟩ := hserverIter_lowered h hlt ht
  refine ⟨v, rfl, hv, ?_⟩
  have hkept : ∀ i ∈ V, timeLeft now c' i = timeLeft now c i := by
    intro i hi
    have hne : i ≠ s := fun heq => hV (heq ▸ hi)
    have hlive : Live c' i ↔ Live c i := by
      rw [Live, Live, hv.alone.others i hne, hv.alone.length]
    rw [timeLeft, timeLeft, hv.alone.others i hne]
    exact if_congr (and_congr_left' hlive) rfl rfl
  have hset : offered now r c' (insert s V) = {x | x ∈ timeLeft now c' s} ∪ offered now r c V := by
    ext x
    simp only [offered, Set.mem_ofPred_eq, Set.mem_insert_iff, Set.mem_union, exists_eq_or_imp]
    have hrest : (∃ i ∈ V, x ∈ timeLeft now c' i) ↔ ∃ i ∈ V, x ∈ timeLeft now c i :=
      exists_congr fun i => and_congr_right fun hi => by rw [hkept i hi]
    rw [hrest]
    tauto
  rw [hset, hv.given]
  cases hleft : timeLeft now c' s with
  | none => simpa using hleast
  | some x =>
    have hsingle : {y | y ∈ some x} ∪ offered now r c V = insert x (offered now r c V) := by
      ext y
      simp [eq_comm]
    rw [hsingle]
    exact hleast.insert x

theorem pulseTimeouts_least {ss : List Nat} {t : Timeval} {u : Option Timeval} {V : Set Nat}
    (h : pulseTimeouts (e.frozen now) n ss c (some t) = some (c', u))
    (hlt : ∀ s ∈ ss, s < c.pcpServersLength) (hnodup : ss.Nodup) (hV : ∀ s ∈ ss, s ∉ V)
    (ht : t.PlainZero) (hleast : LeastOf (offered now r c V) t.given) :
    ∃ v, u = some v ∧ LeastOf (offered now r c' (V ∪ {s | s ∈ ss})) v.given ∧ (t.Normal → v.Normal) ∧
      c'.pcpServersLength = c.pcpServersLength := by
  induction ss generalizing c t V with
  | nil =>
    cases h
    exact ⟨t, rfl, by simpa using hleast, id, rfl⟩
  | cons s ss ih =>
    simp only [pulseTimeouts] at h
    cases hit : hserverIter (e.frozen now) n .timeout c s (some t) with
    | none => rw [hit] at h; cases h
    | some q =>
      obtain ⟨a, w⟩ := q
      rw [hit] at h
      obtain ⟨v, rfl, hv, hleast'⟩ := hserverIter_least hit (hlt s List.mem_cons_self)
        (hV s List.mem_cons_self) ht hleast
      obtain ⟨hnot, hnodup'⟩ := List.nodup_cons.mp hnodup
      obtain ⟨w, rfl, hw, hnormal, hlen⟩ := ih h
        (fun i hi => hv.alone.length.symm ▸ hlt i (List.mem_cons_of_mem s hi)) hnodup'
        (fun i hi hmem => by
          rcases Set.mem_insert_iff.mp hmem with rfl | hmem
          · exact hnot hi
          · exact hV i (List.mem_cons_of_mem s hi) hmem) hv.plainZero hleast'
      refine ⟨w, rfl, ?_, fun hn => hnormal (hv.normal hn), hlen.trans hv.alone.length⟩
      have hunion : V ∪ {i | i ∈ s :: ss} = insert s V ∪ {i | i ∈ ss} := by
        ext i
        simp only [Set.mem_union, Set.mem_ofPred_eq, List.mem_cons, Set.mem_insert_iff]
        tauto
      rw [hunion]
      exact hw

end Visit

/-! ## The pulse -/

/-- The value `r` of the caller and what the servers have left, each if it is not zero. -/
def wakeups (now r : Timeval) (c : Ctx) : Set Int :=
  {x | (r ≠ .zero ∧ x = r.us) ∨ ∃ s, Live c s ∧ (c.pcpServers s).nextTimeout ≠ .zero ∧
    x = (c.pcpServers s).nextTimeout.us - now.us}

/-- `t` is the nearest wake-up for a caller that has asked with `r`. -/
structure Nearest (now r : Timeval) (c : Ctx) (t : Timeval) : Prop where
  zero : t = .zero ↔ r = .zero ∧ ∀ s, Live c s → (c.pcpServers s).nextTimeout = .zero
  least : t ≠ .zero → IsLeast (wakeups now r c) t.us
  normal : r.Normal → t.Normal

section Pulse

variable {e : Env} {now r t : Timeval} {c : Ctx}

theorem Timeval.mem_given {x : Int} : x ∈ r.given ↔ r ≠ .zero ∧ x = r.us := by
  by_cases h : r = .zero <;> simp [Timeval.given, h, eq_comm]

theorem mem_timeLeft {s : Nat} {x : Int} :
    x ∈ timeLeft now c s ↔ Live c s ∧ (c.pcpServers s).nextTimeout ≠ .zero ∧
      x = (c.pcpServers s).nextTimeout.us - now.us := by
  unfold timeLeft
  split
  · rename_i h
    simp [h, eq_comm]
  · rename_i h
    refine iff_of_false (by simp) fun h' => h ⟨h'.1, h'.2.1⟩

/-- The last set is the one of all servers that are in use. -/
theorem offered_all {V : Set Nat} (hV : ∀ s, Live c s → s ∈ V) :
    offered now r c V = wakeups now r c := by
  ext x
  simp only [offered, wakeups, Set.mem_ofPred_eq, Timeval.mem_given, mem_timeLeft]
  refine or_congr_right ⟨fun h => ?_, fun h => ?_⟩
  · obtain ⟨s, -, h⟩ := h
    exact ⟨s, h⟩
  · obtain ⟨s, h⟩ := h
    exact ⟨s, hV s h.1, h⟩

/-- The same timers of the same servers allow the same value. -/
theorem Nearest.congr {c' : Ctx} (h : Nearest now r c t) (hlive : ∀ s, Live c s ↔ Live c' s)
    (htimers : ∀ s, Live c s → (c.pcpServers s).nextTimeout = (c'.pcpServers s).nextTimeout) :
    Nearest now r c' t := by
  have hset : wakeups now r c' = wakeups now r c := by
    ext x
    refine or_congr_right (exists_congr fun s => ?_)
    rw [← hlive s]
    exact and_congr_right fun hs => by rw [htimers s hs]
  refine ⟨h.zero.trans (and_congr_right fun _ => forall_congr' fun s => ?_), fun ht => ?_, h.normal⟩
  · rw [← hlive s]
    exact forall_congr' fun hs => by rw [htimers s hs]
  · rw [hset]
    exact h.least ht

theorem Nearest.unique {t' : Timeval} (h : Nearest now r c t) (h' : Nearest now r c t') :
    t.us = t'.us ∧ (t = .zero ↔ t' = .zero) ∧ (r.Normal → t = t') := by
  have hzero : t = .zero ↔ t' = .zero := h.zero.trans h'.zero.symm
  have hus : t.us = t'.us := by
    by_cases ht : t = .zero
    · rw [ht, hzero.mp ht]
    · exact (h.least ht).unique (h'.least fun h0 => ht (hzero.mpr h0))
  exact ⟨hus, hzero, fun hn => (h.normal hn).ext (h'.normal hn) hus⟩

theorem Nearest.of_leastOf {V : Set Nat} (hV : ∀ s, Live c s → s ∈ V)
    (h : LeastOf (offered now r c V) t.given) (hnormal : r.Normal → t.Normal) :
    Nearest now r c t := by
  rw [offered_all hV] at h
  by_cases ht : t = .zero
  · subst ht
    have hempty : _ = (∅ : Set Int) := h
    refine ⟨iff_of_true rfl ⟨?_, fun s hs => ?_⟩, fun hne => absurd rfl hne, hnormal⟩
    · by_contra hr
      exact Set.eq_empty_iff_forall_notMem.mp hempty r.us (.inl ⟨hr, rfl⟩)
    · by_contra hs'
      exact Set.eq_empty_iff_forall_notMem.mp hempty _ (.inr ⟨s, hs, hs', rfl⟩)
  · rw [Timeval.given_of_ne ht] at h
    refine ⟨iff_of_false ht fun ⟨hr, hall⟩ => ?_, fun _ => h, hnormal⟩
    rcases h.1 with ⟨hr', -⟩ | ⟨s, hs, hs', -⟩
    · exact hr' hr
    · exact hs' (hall s hs)

/-- The visits of all slots in some order. -/
theorem pulseTimeouts_nearest {n : Nat} {ss : List Nat} {c' : Ctx} {u : Option Timeval}
    (hss : ss.Perm (List.range c.pcpServersLength)) (hr : r.PlainZero)
    (h : pulseTimeouts (e.frozen now) n ss c (some r) = some (c', u)) :
    ∃ t, u = some t ∧ Nearest now r c' t := by
  have hstart : LeastOf (offered now r c ∅) r.given := by
    by_cases hz : r = .zero
    · have hnone : r.given = none := if_pos hz
      rw [hnone]
      refine Set.eq_empty_iff_forall_notMem.mpr fun x hx => ?_
      rcases hx with hx | ⟨s, hs, -⟩
      · exact (Timeval.mem_given.mp hx).1 hz
      · exact hs
    · rw [Timeval.given_of_ne hz]
      refine ⟨.inl (Timeval.mem_given.mpr ⟨hz, rfl⟩), fun x hx => ?_⟩
      rcases hx with hx | ⟨s, hs, -⟩
      · exact (Timeval.mem_given.mp hx).2.ge
      · exact hs.elim
  obtain ⟨t, rfl, hleast, hnormal, hlen⟩ := pulseTimeouts_least h
    (fun s hs => List.mem_range.mp (hss.mem_iff.mp hs)) (hss.nodup_iff.mpr List.nodup_range)
    (fun _ _ => Set.notMem_empty _) hr hstart
  refine ⟨t, rfl, .of_leastOf (fun s hs => .inr ?_) hleast hnormal⟩
  exact hss.mem_iff.mpr (List.mem_range.mpr (hlen ▸ hs.1))

theorem hserverIter_returns (ev : ServerEvent) (c : Ctx) (s : Nat) (t : Option Timeval) :
    (hserverIter (e.frozen now) (e.cfg.maxPingCount.toNat + 9) ev c s t).isSome = true := by
  unfold hserverIter
  split
  · rfl
  · dsimp only
    generalize (if ev ≠ .timeout then runServerStateMachine (e.frozen now) c s ev else c) = a
    have hbound := (budgetOf_bounds e.cfg.maxPingCount (a.pcpServers s).pingFlowMsg
      (a.pcpServers s).pingCount (unsent a s) (a.pcpServers s).serverState).2
    have hends := @hserverLoop_ends e now s (e.cfg.maxPingCount.toNat + 9) a
      (by split <;> [exact Nat.lt_succ_of_le hbound; omega])
    obtain ⟨r, hr⟩ := Option.isSome_iff_exists.mp hends
    rw [hr]
    dsimp only
    repeat' split
    all_goals rfl

theorem pulseTimeouts_returns (ss : List Nat) (c : Ctx) (t : Option Timeval) :
    (pulseTimeouts (e.frozen now) (e.cfg.maxPingCount.toNat + 9) ss c t).isSome = true := by
  induction ss generalizing c t with
  | nil => rfl
  | cons s ss ih =>
    obtain ⟨q, hq⟩ := Option.isSome_iff_exists.mp (@hserverIter_returns e now .timeout c s t)
    simp only [pulseTimeouts, hq]
    exact ih _ _

theorem pcpPulse_returns (c : Ctx) (dg : Option Datagram) (t : Timeval) :
    (pcpPulse (e.frozen now) (e.cfg.maxPingCount.toNat + 9) c dg t).isSome = true := by
  have hrecv : (pulseRecv (e.frozen now) (e.cfg.maxPingCount.toNat + 9) c dg).isSome = true := by
    cases dg with
    | none => rfl
    | some dg =>
      simp only [pulseRecv]
      split
      · rename_i s a _
        rw [Option.isSome_map]
        exact hserverIter_returns .ioEvent a s none
      · rfl
  obtain ⟨a, ha⟩ := Option.isSome_iff_exists.mp hrecv
  rw [pcpPulse, ha]
  exact pulseTimeouts_returns _ _ _

/-! ## The order of the visits -/

/-- The timer of `s` has run out at `now`. -/
def RunOut (now : Timeval) (c : Ctx) (s : Nat) : Prop :=
  Live c s ∧ (c.pcpServers s).nextTimeout.isZero = false ∧ (c.pcpServers s).nextTimeout.us ≤ now.us

/-- No two servers have something to do at `now`. -/
def AtMostOneDue (now : Timeval) (c : Ctx) : Prop := ∀ i j, RunOut now c i → RunOut now c j → i = j

/-- The record of `s` after a visit that comes before all others. -/
def visited (e : Env) (n : Nat) (c : Ctx) (s : Nat) : Option Server :=
  (hserverLoop e s n c).map fun q => q.2.pcpServers s

section Order

variable {n s i : Nat} {a c' : Ctx} {u : Option Timeval}

theorem hserverIter_visited {t : Option Timeval} (h : hserverIter e n .timeout c s t = some (c', u))
    (hs : (c.pcpServers s).serverState ≠ .unitialized) :
    visited e n c s = some (c'.pcpServers s) := by
  unfold hserverIter at h
  rw [if_neg hs] at h
  dsimp only at h
  rw [if_neg (by simp)] at h
  unfold visited
  cases hloop : hserverLoop e s n c with
  | none =>
    rw [hloop] at h
    cases h
  | some q =>
    rw [hloop] at h
    have hend : q.2 = c' := by
      dsimp only at h
      repeat' split at h
      all_goals
        cases h
        rfl
    rw [Option.map_some, hend]

/-- A server that is not due is passed with its own timer aligned. -/
theorem visited_waiting (hrecord : a.pcpServers i = c.pcpServers i)
    (hdue : ¬ Due (e.frozen now) c i) :
    visited (e.frozen now) n a i = visited (e.frozen now) n c i := by
  have hdue' : ¬ Due (e.frozen now) a i := by
    unfold Due
    rw [hrecord]
    exact hdue
  have hsettled : (settle i a).pcpServers i = (settle i c).pcpServers i := by
    unfold settle
    rw [hrecord]
    split
    · exact hrecord
    · rw [alignNext_self, alignNext_self, Ctx.tick_pcpServers, Ctx.tick_pcpServers, hrecord]
  unfold visited
  cases n with
  | zero => rfl
  | succ n =>
    obtain ⟨t, ht⟩ := hserverLoop_succ (e.frozen now) i n a
    obtain ⟨t', ht'⟩ := hserverLoop_succ (e.frozen now) i n c
    rw [ht, ht', if_neg hdue', if_neg hdue, Option.map_some, Option.map_some, hsettled]

theorem settle_sameView (his : i ≠ s) : SameView i c (settle s c) := by
  unfold settle
  split
  · exact .ticked i c
  · exact .of_others his _

theorem SameView.visited {d : Ctx} {v : Server} (h : SameView i a d)
    (hv : visited (e.frozen now) n a i = some v) : visited (e.frozen now) n d i = some v := by
  obtain ⟨⟨t, a'⟩, hloop, rfl⟩ := Option.map_eq_some_iff.mp hv
  obtain ⟨d', hloop', hview⟩ := hserverLoop_sameView h n hloop
  unfold LibPcp.visited
  rw [hloop', Option.map_some, hview.server]

/-- Where no two servers are due, each ends with the record that a visit of its own makes, whatever
came before. -/
theorem pulseTimeouts_records {ss : List Nat} {t : Option Timeval}
    (h : pulseTimeouts (e.frozen now) n ss c t = some (c', u)) (hnodup : ss.Nodup)
    (hlt : ∀ i ∈ ss, i < c.pcpServersLength)
    (hone : ∀ i ∈ ss, ∀ j ∈ ss, RunOut now c i → RunOut now c j → i = j) :
    c'.pcpServersLength = c.pcpServersLength ∧ (∀ i, i ∉ ss → c'.pcpServers i = c.pcpServers i) ∧
      ∀ i ∈ ss, if (c.pcpServers i).serverState = .unitialized then c'.pcpServers i = c.pcpServers i
        else visited (e.frozen now) n c i = some (c'.pcpServers i) := by
  induction ss generalizing c t with
  | nil =>
    cases h
    exact ⟨rfl, fun _ _ => rfl, fun i hi => nomatch hi⟩
  | cons s ss ih =>
    simp only [pulseTimeouts] at h
    cases hit : hserverIter (e.frozen now) n .timeout c s t with
    | none => rw [hit] at h; cases h
    | some q =>
      obtain ⟨a, w⟩ := q
      rw [hit] at h
      obtain ⟨hnot, hnodup'⟩ := List.nodup_cons.mp hnodup
      by_cases hs : (c.pcpServers s).serverState = .unitialized
      · obtain rfl := hserverIter_unitialized hit hs
        obtain ⟨hlen, hout, hin⟩ := ih h hnodup' (fun i hi => hlt i (List.mem_cons_of_mem s hi))
          fun i hi j hj => hone i (List.mem_cons_of_mem s hi) j (List.mem_cons_of_mem s hj)
        refine ⟨hlen, fun i hi => hout i fun hmem => hi (List.mem_cons_of_mem s hmem), fun i hi => ?_⟩
        rcases List.mem_cons.mp hi with rfl | hi
        · rw [if_pos hs]
          exact hout i hnot
        · exact hin i hi
      · obtain ⟨b, hfires, -, rfl⟩ := hserverIter_some hit hs
        have hself := hserverIter_visited hit hs
        obtain ⟨hfired, -⟩ := hfires.alone hs
        have halone : Alone s c (settle s b) := hfired.trans (settle_alone e b)
        have hout_s : ∀ i ∈ ss, (settle s b).pcpServers i = c.pcpServers i := fun i hi =>
          halone.others i fun heq => hnot (heq ▸ hi)
        have hrunOut : ∀ i ∈ ss, RunOut now (settle s b) i → RunOut now c i := by
          intro i hi hrun
          have hlive : Live c i := by
            rw [Live, ← halone.length, ← hout_s i hi]
            exact hrun.1
          rw [RunOut, ← hout_s i hi]
          exact ⟨hlive, hrun.2⟩
        obtain ⟨hlen, hout, hin⟩ := ih h hnodup'
          (fun i hi => halone.length.symm ▸ hlt i (List.mem_cons_of_mem s hi))
          fun i hi j hj hri hrj => hone i (List.mem_cons_of_mem s hi) j (List.mem_cons_of_mem s hj)
            (hrunOut i hi hri) (hrunOut j hj hrj)
        refine ⟨hlen.trans halone.length, fun i hi => ?_, fun i hi => ?_⟩
        · obtain ⟨his, hiss⟩ := not_or.mp fun hmem => hi (List.mem_cons.mpr hmem)
          exact (hout i hiss).trans (halone.others i his)
        · rcases List.mem_cons.mp hi with rfl | hi
          · rw [if_neg hs, hout i hnot]
            exact hself
          · have his : i ≠ s := fun heq => hnot (heq ▸ hi)
            have htail := hin i hi
            rw [hout_s i hi] at htail
            split at htail
            · rename_i hun
              rw [if_pos hun]
              exact htail
            · rename_i hun
              rw [if_neg hun]
              by_cases hdue : Due (e.frozen now) c s
              · have hwait : ¬ Due (e.frozen now) c i := fun hdi => his
                  (hone i (List.mem_cons_of_mem s hi) s List.mem_cons_self
                    ⟨⟨hlt i (List.mem_cons_of_mem s hi), hun⟩, hdi⟩
                    ⟨⟨hlt s List.mem_cons_self, hs⟩, hdue⟩)
                rw [← visited_waiting (hout_s i hi) hwait]
                exact htail
              · cases hfires with
                | nil => exact (settle_sameView his).symm.visited htail
                | cons hd => exact absurd hd hdue

/-- Once the event of the datagram is handled, its server has nothing to do at that time. -/
theorem receipt_quiet {b c₁ : Ctx}
    (hfires : Fires (e.frozen now) s (runServerStateMachine (e.frozen now) b s .ioEvent) c₁)
    (hs : (b.pcpServers s).serverState ≠ .unitialized) (hidle : ¬ Due (e.frozen now) c₁ s) :
    Alone s b (settle s c₁) ∧ ¬ RunOut now (settle s c₁) s := by
  obtain ⟨k, hk⟩ := serverHandler_total (b.pcpServers s).serverState .ioEvent
  have hlive : ((runServerStateMachine (e.frozen now) b s .ioEvent).pcpServers s).serverState ≠
      .unitialized := by
    rw [runServerStateMachine_eq hk, Ctx.modServer_self]
    exact k.run_live _ hs
  obtain ⟨hfired, -⟩ := hfires.alone hlive
  refine ⟨(runServerStateMachine_alone .ioEvent b).trans (hfired.trans (settle_alone e c₁)),
    fun hrun => ?_⟩
  obtain ⟨-, hset, hus⟩ := hrun
  rw [(settle_server s s c₁).2] at hus
  refine hidle ⟨?_, hus⟩
  by_contra hz
  have hz' : (c₁.pcpServers s).nextTimeout.isZero = true := by simpa using hz
  rw [settle, if_pos hz', Ctx.tick_pcpServers, hz'] at hset
  cases hset

/-- After the datagram its server has nothing to do, and the others are as before. -/
theorem pulseRecv_atMostOneDue {dg : Option Datagram} (hone : AtMostOneDue now c)
    (h : pulseRecv (e.frozen now) n c dg = some a) : AtMostOneDue now a := by
  cases dg with
  | none =>
    cases h
    exact hone
  | some dg =>
    obtain ⟨⟨m, hm⟩, hlive⟩ := acceptMsg_eq (e.frozen now) (readMsg (e.frozen now) c dg)
    simp only [pulseRecv] at h
    generalize acceptMsg (e.frozen now) (readMsg (e.frozen now) c dg) = r at h hm hlive
    obtain ⟨found, b⟩ := r
    have hb : b = _ := hm
    have hone' : AtMostOneDue now b := by
      rw [hb]
      exact hone
    cases found with
    | none =>
      cases h
      exact hone'
    | some s =>
      obtain ⟨⟨a', w⟩, hit, rfl⟩ := Option.map_eq_some_iff.mp h
      have hs : (b.pcpServers s).serverState ≠ .unitialized := by
        rw [hb]
        exact (hlive s rfl).2
      obtain ⟨c₁, hfires, hidle, rfl⟩ := hserverIter_some hit hs
      obtain ⟨halone, hquiet⟩ := receipt_quiet hfires hs hidle
      intro i j hi hj
      have hwas : ∀ k, RunOut now (settle s c₁) k → RunOut now b k := by
        intro k hk
        have hks : k ≠ s := fun heq => hquiet (heq ▸ hk)
        have hlivek : Live b k := by
          rw [Live, ← halone.length, ← halone.others k hks]
          exact hk.1
        rw [RunOut, ← halone.others k hks]
        exact ⟨hlivek, hk.2⟩
      exact hone' i j (hwas i hi) (hwas j hj)

/-- Two orders of the visits end with the same records. -/
theorem pulseTimeouts_order {ss ss' : List Nat} {c₁ c₂ : Ctx} {t u₁ u₂ : Option Timeval}
    (hone : AtMostOneDue now c) (hss : ss.Perm (List.range c.pcpServersLength))
    (hss' : ss'.Perm (List.range c.pcpServersLength))
    (h₁ : pulseTimeouts (e.frozen now) n ss c t = some (c₁, u₁))
    (h₂ : pulseTimeouts (e.frozen now) n ss' c t = some (c₂, u₂)) :
    c₁.pcpServersLength = c₂.pcpServersLength ∧ c₁.pcpServers = c₂.pcpServers := by
  obtain ⟨hlen₁, hout₁, hin₁⟩ := pulseTimeouts_records h₁ (hss.nodup_iff.mpr List.nodup_range)
    (fun s hs => List.mem_range.mp (hss.mem_iff.mp hs)) fun i _ j _ => hone i j
  obtain ⟨hlen₂, hout₂, hin₂⟩ := pulseTimeouts_records h₂ (hss'.nodup_iff.mpr List.nodup_range)
    (fun s hs => List.mem_range.mp (hss'.mem_iff.mp hs)) fun i _ j _ => hone i j
  refine ⟨hlen₁.trans hlen₂.symm, funext fun i => ?_⟩
  by_cases hi : i < c.pcpServersLength
  · have hv₁ := hin₁ i (hss.mem_iff.mpr (List.mem_range.mpr hi))
    have hv₂ := hin₂ i (hss'.mem_iff.mpr (List.mem_range.mpr hi))
    split at hv₁
    · rename_i hun
      rw [if_pos hun] at hv₂
      rw [hv₁, hv₂]
    · rename_i hun
      rw [if_neg hun, hv₁] at hv₂
      exact Option.some.inj hv₂
  · rw [hout₁ i fun hmem => hi (List.mem_range.mp (hss.mem_iff.mp hmem)),
      hout₂ i fun hmem => hi (List.mem_range.mp (hss'.mem_iff.mp hmem))]

end Order

end Pulse

/-- The pulse with `r` when the mapping of `mappedFlow` has 30 seconds to its renewal. -/
def pulseAt (r : Timeval) : Option (Ctx × Option Timeval) :=
  pcpPulse ((Env.calm {}).frozen ⟨1000, 0⟩) 12 mappedFlow none r

/-- The clock goes on to 1026, and the second server is reached from an IPv6 address. -/
def orderEnv : Env :=
  { Env.calm {} with
    clock := fun i => if i < 47 then ⟨1000, 0⟩ else ⟨1026, 0⟩
    lookup := fun i => some (if i = 0 then .v4mapped 0x0A000002 else ⟨0x20010DB8, 0, 0, 2⟩, 0) }

/-- A mapping on the first server. The second does not answer, and the flow that it is pinged with gets
a new lifetime before each pulse. -/
def orderRun : List Op :=
  [.addServer (.inet 0x0A000001 0) 2, .addServer (.inet6 ⟨0x20010DB8, 0, 0, 1⟩ 0 0) 2,
    .newFlow (.inet 0x0A000002 80) none none 6 78,
    .newFlow (.inet6 ⟨0x20010DB8, 0, 0, 2⟩ 80 0) none none 6 60,
    .pulse none .zero, .pulse (some (mapResponse 0 78 1 0x0A000002)) .zero] ++
  (List.replicate 4 [.setLifetime 1 60, .pulse none .zero]).flatten ++ [.setLifetime 1 60]

def bothDue : Ctx := runTo orderEnv (fun _ _ => True) 14 {} orderRun

/-- The pulse at 1026 with the servers in the order `ss`. -/
def bothDueIn (ss : List Nat) : Option (Ctx × Option Timeval) :=
  pulseTimeouts (orderEnv.frozen ⟨1026, 0⟩) 14 ss { bothDue with msg := .zero } (some .zero)

/-- The caller's `{1, -1000000}` is not the zero that is tested for, and it is aligned to `{0, 0}`
when it is compared. -/
theorem pulse_forgets_zero :
    ∃ c', pulseAt ⟨1, -1000000⟩ = some (c', some .zero) ∧ Live c' 0 ∧
      (c'.pcpServers 0).nextTimeout = ⟨1030, 0⟩ ∧ ¬ Nearest ⟨1000, 0⟩ ⟨1, -1000000⟩ c' .zero := by
  have hvalue : (pulseAt ⟨1, -1000000⟩).map (fun q => (q.2, decide (Live q.1 0),
      (q.1.pcpServers 0).nextTimeout)) = some (some .zero, true, ⟨1030, 0⟩) := by decide +kernel
  obtain ⟨⟨c', u⟩, hpulse, hu⟩ := Option.map_eq_some_iff.mp hvalue
  simp only [Prod.mk.injEq, decide_eq_true_eq] at hu
  obtain ⟨rfl, hlive, htimer⟩ := hu
  refine ⟨c', hpulse, hlive, htimer, fun h => ?_⟩
  have hnone := (h.zero.mp rfl).2 0 hlive
  rw [htimer] at hnone
  cases hnone

end LibPcp
