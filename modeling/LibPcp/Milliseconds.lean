import LibPcp.Horizon
import LibPcp.Nearest

/-!
# LibPcp.Milliseconds

The `int` that `pcp_pulse` returns.

It is `*next_timeout` in milliseconds, computed as a `long` and narrowed. The time stored is what the
timer of a server has left, which is positive, or the caller's own; so the value is right as long as
no timer is 2^31 milliseconds away. A lifetime of 2^32 - 1 seconds arms the renewal at half of it, which
is a thousand times more than that.

* `pulseTimeouts_value`: what is kept of the value when a visit lowers it.
* `pulse_ms_faithful`: the result is right for a caller that asks with a time of its own, and in every
  run that keeps what servers grant within the bound.
* `pulse_ms_wraps`: the result for the longest lifetime.
-/

namespace LibPcp

open LabelledSteps

/-! ## The result -/

/-- `tv_sec * 1000 + tv_usec / 1000`, in `long`. -/
def Timeval.ms (t : Timeval) : Int := t.tvSec * 1000 + t.tvUsec.tdiv 1000

/-- `pcp_pulse` with its result: `*next_timeout`, and its milliseconds as an `int`. -/
def pcpPulseMs (e : Env) (n : Nat) (c : Ctx) (dg : Option Datagram) (nextTimeout : Timeval) :
    Option (Timeval × Int) :=
  (pcpPulse e n c dg nextTimeout).bind fun q => q.2.map fun t => (t, t.ms.bmod (2 ^ 32))

/-- A time that is not negative and whose milliseconds are an `int`. -/
def Timeval.Fits (t : Timeval) : Prop := 0 ≤ t.us ∧ t.ms < 2 ^ 31

instance (t : Timeval) : Decidable t.Fits := inferInstanceAs (Decidable (_ ∧ _))

namespace Timeval

theorem us_div_le_ms (t : Timeval) : t.us / 1000 ≤ t.ms := by
  have hsplit := Int.mul_tdiv_add_tmod t.tvUsec 1000
  have hlt := Int.tmod_lt_of_pos t.tvUsec (show (0 : Int) < 1000 by omega)
  unfold us ms
  omega

theorem Normal.ms_eq {t : Timeval} (h : t.Normal) : t.ms = t.us / 1000 := by
  have hsplit := Int.mul_tdiv_add_tmod t.tvUsec 1000
  have hlt := Int.tmod_lt_of_pos t.tvUsec (show (0 : Int) < 1000 by omega)
  have hpos := Int.tmod_nonneg 1000 h.1
  unfold us ms
  omega

theorem Fits.align {t : Timeval} (h : t.Fits) : (timevalAlign t).Fits := by
  have hms := (timevalAlign_normal t).ms_eq
  have hle := t.us_div_le_ms
  have hbound := h.2
  rw [us_timevalAlign] at hms
  exact ⟨by rw [us_timevalAlign]; exact h.1, by omega⟩

theorem Normal.fits {t : Timeval} (h : t.Normal) (h0 : 0 ≤ t.us) (hlt : t.us < 2147483648000) :
    t.Fits :=
  ⟨h0, by rw [h.ms_eq]; omega⟩

/-- Narrowing does not change the milliseconds of such a time. -/
theorem Fits.narrow {t : Timeval} (h : t.Fits) : t.ms.bmod (2 ^ 32) = t.ms ∧ 0 ≤ t.ms := by
  obtain ⟨hus, hms⟩ := h
  have hle := t.us_div_le_ms
  have hnonneg : 0 ≤ t.ms := by omega
  exact ⟨Int.bmod_eq_of_le (by omega) (by omega), hnonneg⟩

end Timeval

/-! ## A visit of `hserver_iter` -/

section Visit

/-- The nearer of two times that fit. -/
theorem nearestTimeout_fits {t left : Timeval} (ht : t.Fits) (hl : left.Fits) :
    (nearestTimeout t left).Fits := by
  unfold nearestTimeout
  repeat' split
  · exact hl
  · exact hl.align
  · exact ht.align

/-- A positive time is lowered to a positive one that is no later. -/
theorem nearestTimeout_lowers {t left : Timeval} (ht : 0 < t.us) (hl : 0 < left.us) :
    0 < (nearestTimeout t left).us ∧ (nearestTimeout t left).us ≤ t.us ∧
      (nearestTimeout t left).Normal := by
  have htz : t.isZero = false := Timeval.not_isZero_of_pos ht
  unfold nearestTimeout
  rw [if_neg (by simp [htz])]
  split
  · rw [us_timevalAlign]
    exact ⟨hl, by omega, timevalAlign_normal left⟩
  · rw [us_timevalAlign]
    exact ⟨ht, Int.le_refl _, timevalAlign_normal t⟩

end Visit

/-! ## The pulse -/

section Pulse

variable {e : Env} {d n : Nat} {jump : Int} {c c' : Ctx} {t : Timeval} {u : Option Timeval}

/-- What holds of the value and is kept when it is lowered holds at the end. -/
theorem pulseTimeouts_value {G : Timeval → Prop} {I : Ctx → Prop} {ss : List Nat}
    (hlower : ∀ a s left t, I a → LeftAt e s a left → G t → G (nearestTimeout t left))
    (hfire : ∀ a s, CtxOk a → Live a s → I a → Due e a s → I (fire e s a))
    (hsettle : ∀ a s, CtxOk a → Live a s → I a → ¬ Due e a s → I (settle s a))
    (h : pulseTimeouts e n ss c (some t) = some (c', u)) (hc : CtxOk c)
    (hs : ∀ s ∈ ss, s < c.pcpServersLength) (hi : I c) (ht : G t) : ∃ v, u = some v ∧ G v := by
  induction ss generalizing c t with
  | nil =>
    cases h
    exact ⟨t, rfl, ht⟩
  | cons s ss ih =>
    simp only [pulseTimeouts] at h
    have hlt := hs s List.mem_cons_self
    cases hit : hserverIter e n .timeout c s (some t) with
    | none =>
      rw [hit] at h
      cases h
    | some q =>
      obtain ⟨b, w⟩ := q
      rw [hit] at h
      obtain ⟨hok, hlen, hib⟩ := hserverIter_keeps hit hc hlt hi (fun a ha hl => hfire a s ha hl)
        fun a ha hl => hsettle a s ha hl
      have hrest : ∀ i ∈ ss, i < b.pcpServersLength := fun i hi => hlen ▸ hs i (List.mem_cons_of_mem s hi)
      by_cases hu : (c.pcpServers s).serverState = .unitialized
      · obtain ⟨rfl, rfl⟩ := hserverIter_passes hit hu
        exact ih h hok hrest hib ht
      · obtain ⟨a, v, hfires, -, -, rfl, hv⟩ := hserverIter_value hit hu
        refine ih h hok hrest hib ?_
        split at hv
        · exact hv ▸ ht
        · obtain ⟨left, hleft, rfl⟩ := hv
          obtain ⟨-, -, hia⟩ := hfires.keeps hc ⟨hlt, hu⟩ hi fun a ha hl => hfire a s ha hl
          exact hlower a s left t hia hleft ht

/-- The value of a caller that asks with a time of its own is only lowered. -/
theorem pcpPulse_lowers {dg : Option Datagram} {r : Timeval} (hr : r.Fits) (hpos : 0 < r.us)
    (hc : CtxOk c) (h : pcpPulse e n c dg r = some (c', u)) : ∃ v, u = some v ∧ v.Fits := by
  unfold pcpPulse at h
  cases hrecv : pulseRecv e n c dg with
  | none =>
    rw [hrecv] at h
    cases h
  | some a =>
    rw [hrecv] at h
    obtain ⟨-, -, -, -, -, hok, -⟩ := pulseRecv_micro hrecv hc
    have hlower : ∀ (a : Ctx) (s : Nat) (left t : Timeval), True → LeftAt e s a left →
        0 < t.us ∧ t.Fits → 0 < (nearestTimeout t left).us ∧ (nearestTimeout t left).Fits := by
      intro a s left t _ hleft ht
      obtain ⟨h0, hle, hnormal⟩ := nearestTimeout_lowers ht.1 hleft.pos
      have hms := t.us_div_le_ms
      have hbound := ht.2.2
      exact ⟨h0, Int.le_of_lt h0, by rw [hnormal.ms_eq]; omega⟩
    obtain ⟨v, hv, -, hfits⟩ := pulseTimeouts_value (G := fun v => 0 < v.us ∧ v.Fits)
      (I := fun _ => True) hlower (fun _ _ _ _ _ _ => trivial) (fun _ _ _ _ _ _ => trivial) h hok
      (fun s hs => List.mem_range.mp hs) trivial ⟨hpos, hr⟩
    exact ⟨v, hv, hfits⟩

/-- With all timers within the bound. -/
theorem pcpPulse_fits {dg : Option Datagram} {r : Timeval} (hr : r.Fits) (he : e.Within d jump)
    (hd : d * 1000000 + jump < 2147483648000) (hc : CtxOk c) (ha : AllAhead e d jump c)
    (hg : ∀ x ∈ dg, GrantsWithin e d c x) (h : pcpPulse e n c dg r = some (c', u)) :
    ∃ v, u = some v ∧ v.Fits := by
  unfold pcpPulse at h
  cases hrecv : pulseRecv e n c dg with
  | none =>
    rw [hrecv] at h
    cases h
  | some a =>
    rw [hrecv] at h
    obtain ⟨l, c₁, hl, hm, hts, hok, -⟩ := pulseRecv_micro hrecv hc
    have hstart : AllAhead e d jump a := ha.pulse he hl hm hts hc hg
    refine pulseTimeouts_value (G := Timeval.Fits) (I := AllAhead e d jump)
      (fun b s left t hb hleft ht => ?_) (fun b s hb hlive hab hdue => ?_)
      (fun b s hb hlive hab hdue => ?_) h hok (fun s hs => List.mem_range.mp hs) hstart hr
    · refine nearestTimeout_fits ht (hleft.normal.fits ?_ ?_)
      · exact Int.le_of_lt hleft.pos
      · have hs := hb.servers s
        have hus := hleft.us
        unfold ServerAhead at hs
        omega
    · refine hab.micro he (.fire hlive hdue) rfl hb fun _ _ heq => ?_
      cases heq
    · refine hab.micro he (.settle hlive hdue) rfl hb fun _ _ heq => ?_
      cases heq

end Pulse

/-- The result of a pulse is the milliseconds of the time it stores, and not negative: for a caller that
asks with a time of its own, and after every run in which the servers' grants, the client's own delays
and the jumps of the clock keep all timers within 2^31 milliseconds. -/
theorem pulse_ms_faithful {e : Env} {c : Ctx} (dg : Option Datagram) {r : Timeval} (hc : Reachable e c)
    (hr : r.Fits)
    (hwhen : 0 < r.us ∨ ∃ d jump, e.Within d jump ∧ d * 1000000 + jump < 2147483648000 ∧
      Runs e (fun a op => op.Within e d a) {} c ∧ (Op.pulse dg r).Within e d c) :
    (∀ n t k, pcpPulseMs e n c dg r = some (t, k) → 0 ≤ k ∧ k = t.ms) ∧
      ∀ now, (∀ i, e.clock i = now) → ∃ n, (pcpPulseMs e n c dg r).isSome = true := by
  have hvalue : ∀ n c' u, pcpPulse e n c dg r = some (c', u) → ∃ v, u = some v ∧ v.Fits := by
    intro n c' u h
    rcases hwhen with hpos | ⟨d, jump, he, hd, hrun, hop⟩
    · exact pcpPulse_lowers hr hpos hc.ctxOk h
    · obtain ⟨hok, hahead⟩ := Runs.ahead he hrun
      exact pcpPulse_fits hr he hd hok hahead hop h
  refine ⟨fun n t k h => ?_, fun now hnow => ?_⟩
  · obtain ⟨⟨c', u⟩, hpulse, hu⟩ := Option.bind_eq_some_iff.mp h
    obtain ⟨v, rfl, hfits⟩ := hvalue n c' u hpulse
    cases hu
    obtain ⟨hnarrow, hnonneg⟩ := hfits.narrow
    exact ⟨hnarrow.symm ▸ hnonneg, hnarrow⟩
  · have hfrozen : e.frozen now = e := by
      unfold Env.frozen
      rw [← funext hnow]
    have hreturns : (pcpPulse (e.frozen now) (e.cfg.maxPingCount.toNat + 9) c dg r).isSome = true :=
      pcpPulse_returns c dg r
    rw [hfrozen] at hreturns
    obtain ⟨⟨c', u⟩, hpulse⟩ := Option.isSome_iff_exists.mp hreturns
    obtain ⟨v, rfl, -⟩ := hvalue _ c' u hpulse
    refine ⟨e.cfg.maxPingCount.toNat + 9, ?_⟩
    rw [pcpPulseMs, hpulse]
    rfl

/-- Flow 0 when its server has granted `lifetime` seconds at time 1000, in a run within `d` seconds. -/
def grantedAt1000 (d : Nat) (lifetime : UInt32) : Ctx :=
  runTo (.calm {}) (fun a op => op.Within (.calm {}) d a) 12 {}
    (waitingFlow ++ [.pulse (some (mapResponse 0 lifetime 1000 0x0B000001)) .zero])

/-- The longest lifetime within the bound. -/
theorem pulse_ms_faithful_granted :
    pcpPulseMs (.calm {}) 12 (grantedAt1000 2147483 4294967) none .zero =
      some (⟨2147483, 0⟩, 2147483000) ∧ (2147483000 : Int) = Timeval.ms ⟨2147483, 0⟩ := by
  have hvalue : pcpPulseMs (.calm {}) 12 (grantedAt1000 2147483 4294967) none .zero =
      some (⟨2147483, 0⟩, 2147483000) := by decide +kernel
  have henv : (Env.calm {}).Within 2147483 0 := by
    refine ⟨fun _ _ _ => Int.le_refl _, fun _ => ?_, ?_, fun _ => ?_, by decide, by decide, by decide⟩
    · exact show (0 : Int) ≤ 0 ∧ (0 : Int) < 1000000 by decide
    · exact show (0 : Int) ≤ Timeval.us ⟨1000, 0⟩ by decide
    · exact Int.le_of_eq (Int.add_zero _).symm
  have hrun : Runs (.calm {}) (fun a op => op.Within (.calm {}) 2147483 a) {}
      (grantedAt1000 2147483 4294967) := Runs.runTo (by decide +kernel)
  have hreach : Reachable (.calm {}) (grantedAt1000 2147483 4294967) :=
    hrun.mono fun _ _ _ => trivial
  have hnone : (Op.pulse none .zero).Within (.calm {}) 2147483 (grantedAt1000 2147483 4294967) := by
    intro x hx
    cases hx
  exact ⟨hvalue, ((pulse_ms_faithful none hreach (show Timeval.zero.Fits by decide)
    (.inr ⟨2147483, 0, henv, by decide, hrun, hnone⟩)).1 12 _ _ hvalue).2⟩

/-- A lifetime of 2^32 - 1 seconds puts the renewal 2147483647 seconds away, and the result is -1000. -/
theorem pulse_ms_wraps :
    ∃ c, Reachable (.calm {}) c ∧
      pcpPulseMs (.calm {}) 12 c none .zero = some (⟨2147483647, 0⟩, -1000) ∧
      Timeval.ms ⟨2147483647, 0⟩ = 2147483647000 := by
  have hrun : Runs (.calm {}) (fun a op => op.Within (.calm {}) 2147483647 a) {}
      (grantedAt1000 2147483647 0xFFFFFFFF) := Runs.runTo (by decide +kernel)
  exact ⟨grantedAt1000 2147483647 0xFFFFFFFF, hrun.mono fun _ _ _ => trivial, by decide +kernel,
    by decide⟩

end LibPcp
