import LibPcp.Retries

/-!
# LibPcp.Backoff

How long a flow waits between two retransmissions.

The delay is doubled, kept within its bounds and multiplied by a random factor of about one, an eighth
up or down. `PCP_RT` does this in units of 1/8192 and in 32-bit words: the product wraps around once the
delay has come near its upper bound.

* `pcpRt_toNat`: `PCP_RT` as numbers.
* `pcpRt_inEnvelope_iff`: the factor is what it should be exactly when the product fits.
* `flowStep_paced`: only a retransmission draws a random number.
* `retransmission_inEnvelope_iff`: the same for every retransmission of a run.
-/

namespace LibPcp

open LabelledSteps

/-! ## Delays -/

/-- The random factor, in units of 1/8192. -/
def jitter (r : Nat) : Nat := 9216 - r % 2048

/-- Twice the previous delay, within the bounds. -/
def clampedDelay (cfg : Config) (prev : Nat) : Nat :=
  min (max (2 * prev) cfg.retxIrt.toNat) cfg.retxMrt.toNat

/-- An eighth below and above the delay `c`, by the least and the greatest factor. -/
structure InEnvelope (c delay : Nat) : Prop where
  least : 7169 * c / 8192 ≤ delay
  most : delay ≤ 9216 * c / 8192

theorem jitter_bounds (r : Nat) : 7169 ≤ jitter r ∧ jitter r ≤ 9216 := by
  have h : r % 2048 < 2048 := Nat.mod_lt r (by decide)
  unfold jitter
  omega

theorem shiftLeft_one_toNat (prev : UInt32) : (prev <<< 1).toNat = 2 * prev.toNat % 2 ^ 32 := by
  rw [UInt32.toNat_shiftLeft, Nat.mul_comm]
  exact congrArg (· % 2 ^ 32) (Nat.shiftLeft_eq prev.toNat 1)

/-- The comparisons of `MAX` and `MIN`. -/
theorem clamp_toNat (d lo hi : UInt32) :
    (if (if d > lo then d else lo) < hi then if d > lo then d else lo else hi).toNat =
      min (max d.toNat lo.toNat) hi.toNat := by
  have hmax : (if d > lo then d else lo).toNat = max d.toNat lo.toNat := by
    by_cases h : d > lo
    · rw [if_pos h, Nat.max_eq_left (Nat.le_of_lt (UInt32.lt_iff_toNat_lt.mp h))]
    · rw [if_neg h, Nat.max_eq_right (Nat.le_of_not_lt fun hlt => h (UInt32.lt_iff_toNat_lt.mpr hlt))]
  generalize (if d > lo then d else lo) = b at hmax
  by_cases h : b < hi
  · rw [if_pos h, ← hmax, Nat.min_eq_left (Nat.le_of_lt (UInt32.lt_iff_toNat_lt.mp h))]
  · rw [if_neg h, ← hmax,
      Nat.min_eq_right (Nat.le_of_not_lt fun hlt => h (UInt32.lt_iff_toNat_lt.mpr hlt))]

theorem pcpRt_toNat (cfg : Config) (prev : UInt32) (r : Nat) :
    (pcpRt cfg prev r).toNat =
      jitter r * min (max (2 * prev.toNat % 2 ^ 32) cfg.retxIrt.toNat) cfg.retxMrt.toNat % 2 ^ 32 /
        8192 := by
  have hfactor : (UInt32.ofNat (8192 + 1024 - (r &&& 2047))).toNat = jitter r := by
    have hb := jitter_bounds r
    have hand : r &&& 2047 = r % 2048 := Nat.and_two_pow_sub_one_eq_mod r 11
    rw [hand, UInt32.toNat_ofNat']
    exact Nat.mod_eq_of_lt (Nat.lt_of_le_of_lt hb.2 (by decide))
  unfold pcpRt
  dsimp only
  rw [UInt32.toNat_shiftRight, UInt32.toNat_mul, hfactor, clamp_toNat, shiftLeft_one_toNat]
  exact Nat.shiftRight_eq_div_pow _ 13

/-- The new delay is in its envelope exactly when the product of the factor and the delay fits in 32
bits: what wraps around loses more than the envelope is wide. -/
theorem pcpRt_inEnvelope_iff {cfg : Config} (hirt : cfg.retxIrt = 3000) (hmrt : cfg.retxMrt = 1024000)
    (prev : UInt32) (r : Nat) :
    InEnvelope (clampedDelay cfg prev.toNat) (pcpRt cfg prev r).toNat ↔
      jitter r * clampedDelay cfg prev.toNat < 2 ^ 32 := by
  obtain ⟨hlow, hhigh⟩ := jitter_bounds r
  have hirt' : cfg.retxIrt.toNat = 3000 := by rw [hirt]; rfl
  have hmrt' : cfg.retxMrt.toNat = 1024000 := by rw [hmrt]; rfl
  have hdelay := pcpRt_toNat cfg prev r
  rw [hirt', hmrt'] at hdelay
  have hclamp : clampedDelay cfg prev.toNat = min (max (2 * prev.toNat) 3000) 1024000 := by
    rw [clampedDelay, hirt', hmrt']
  by_cases hdouble : 2 * prev.toNat < 2 ^ 32
  · rw [Nat.mod_eq_of_lt hdouble, ← hclamp] at hdelay
    have hle : clampedDelay cfg prev.toNat ≤ 1024000 := by omega
    generalize clampedDelay cfg prev.toNat = c at hdelay hle
    have hleast : 7169 * c ≤ jitter r * c := Nat.mul_le_mul_right c hlow
    have hmost : jitter r * c ≤ 9216 * c := Nat.mul_le_mul_right c hhigh
    generalize jitter r * c = p at hdelay hleast hmost
    rw [hdelay]
    constructor
    · intro henv
      have hlost := henv.least
      omega
    · intro hfits
      rw [Nat.mod_eq_of_lt hfits]
      exact ⟨Nat.div_le_div_right hleast, Nat.div_le_div_right hmost⟩
  · have hc : clampedDelay cfg prev.toNat = 1024000 := by omega
    rw [hc]
    constructor
    · intro henv
      have hlost := henv.least
      omega
    · intro hfits
      omega

/-! ## Events -/

/-- An event draws no random number, or it retransmits and sets the next delay. -/
inductive Paced (x : FlowEnv) (r r' : Flow × Io) : Prop where
  | steady (rands : r'.2.rands = r.2.rands)
  | backedOff (state : r.1.state = .waitResp) (rands : r'.2.rands = r.2.rands + 1)
      (delay : r'.1.resendTimeout = pcpRt x.env.cfg r.1.resendTimeout (x.env.rand r.2.rands))

section Phases

variable (x : FlowEnv) (f : Flow) (io : Io)

theorem failPhase_delay : (failPhase x f io).1.resendTimeout = f.resendTimeout := by
  unfold failPhase fhndlClearTimeouts
  cases x.msg <;> rfl

theorem waitPhase_delay : (waitPhase x f io).1.resendTimeout = f.resendTimeout ∧
    (waitPhase x f io).2.rands = io.rands := by
  unfold waitPhase fhndlWaitresp
  by_cases hlt : (timevalComp f.timeout (x.env.now io)).1 < 0
  · simp only [hlt, if_true, failPhase_delay, (failPhase_spec x _ _).2.2]
    exact ⟨trivial, rfl⟩
  · simp [hlt, Io.tick]

theorem sendPhase_rands : (sendPhase x f io).2.rands = io.rands := by
  unfold sendPhase
  rcases fhndlSend_cases x { f with state := .send } io with
    ⟨-, h⟩ | ⟨s, -, ⟨-, h⟩ | ⟨-, ⟨⟨f', io'⟩, hsend, h⟩ | ⟨f', io', hsend, h⟩⟩⟩
  all_goals rw [h]
  · exact congrArg Io.rands (failPhase_spec x _ io).2.2
  · rfl
  · obtain ⟨-, -, hrands, -⟩ := pcpFlowSendMsg_counters hsend
    exact (congrArg Io.rands (failPhase_spec x f' io').2.2).trans hrands
  · obtain ⟨-, -, hrands, -⟩ := pcpFlowSendMsg_counters hsend
    exact (waitPhase_delay x _ _).2.trans hrands

theorem renewPhase_rands : (renewPhase x f io).2.rands = io.rands := by
  unfold renewPhase
  rcases fhndlSendRenew_cases x { f with state := .sendRenew } io with
    ⟨-, h⟩ | ⟨s, -, ⟨⟨f', io'⟩, hsend, h⟩ | ⟨f', io', hsend, ⟨-, h⟩ | ⟨-, h⟩⟩⟩
  all_goals rw [h]
  · exact sendPhase_rands x _ io
  all_goals obtain ⟨-, -, hrands, -⟩ := pcpFlowSendMsg_counters hsend
  · exact (sendPhase_rands x f' io').trans hrands
  · exact (sendPhase_rands x _ io'.tick).trans hrands
  · exact hrands

theorem resendPhase_paced (hst : f.state = .waitResp) : Paced x (f, io) (resendPhase x f io) := by
  have hcount : (countRetry x.env.cfg { f with state := .send }).resendTimeout = f.resendTimeout := by
    unfold countRetry
    split <;> rfl
  unfold resendPhase
  rcases fhndlResend_cases x { f with state := .send } io with
    ⟨-, h⟩ | ⟨s, -, ⟨-, h⟩ | ⟨-, ⟨⟨f', io'⟩, hsend, h⟩ | ⟨f', io', hsend, h⟩⟩⟩
  all_goals rw [h]
  · exact .steady (congrArg Io.rands (failPhase_spec x _ io).2.2)
  · exact .steady (congrArg Io.rands (failPhase_spec x _ io).2.2)
  · obtain ⟨-, -, hrands, -⟩ := pcpFlowSendMsg_counters hsend
    exact .steady ((congrArg Io.rands (failPhase_spec x f' io').2.2).trans hrands)
  · obtain ⟨⟨b, l, rfl⟩, -, hrands, -⟩ := pcpFlowSendMsg_counters hsend
    have hval : pcpRt x.env.cfg
        ((countRetry x.env.cfg { f with state := .send }).setMsg b l).resendTimeout
        (x.env.rand io'.rands) = pcpRt x.env.cfg f.resendTimeout (x.env.rand io.rands) := by
      rw [hrands]
      exact congrArg (pcpRt x.env.cfg · _) hcount
    exact .backedOff hst ((waitPhase_delay x _ _).2.trans (congrArg (· + 1) hrands))
      ((waitPhase_delay x _ _).1.trans hval)

/-- Only a retransmission draws a random number. -/
theorem flowStep_paced {ev : FlowEvent} (hev : ev ≠ .msgSent) :
    Paced x (f, io) (flowStep x ev f io) := by
  rw [flowStep_eq x f io hev]
  cases nextState f.state ev with
  | none => exact .steady rfl
  | some next =>
    cases next with
    | idle => exact .steady rfl
    | waitForServerInit => exact .steady rfl
    | send =>
      by_cases hst : f.state = .waitResp
      · simp only [flowPhase, if_pos hst]
        exact resendPhase_paced x f io hst
      · simp only [flowPhase, if_neg hst]
        exact .steady (sendPhase_rands x f io)
    | waitResp => exact .steady (waitPhase_delay x f io).2
    | waitAfterShortLifeError =>
      refine .steady ?_
      simp only [flowPhase, fhndlShortlifeerror]
      cases x.msg <;> rfl
    | waitForLifetimeRenew =>
      refine .steady ?_
      simp only [flowPhase]
      split
      · unfold fhndlReceivedSuccess
        cases x.msg <;> rfl
      · rfl
    | sendRenew => exact .steady (renewPhase_rands x f io)
    | failed => exact .steady (congrArg Io.rands (failPhase_spec x f io).2.2)

end Phases

/-! ## Runs -/

/-- The entries of the log are events of flows. -/
def Logged (e : Env) (c : Ctx) : Prop :=
  ∀ h ∈ c.handled, ∃ a f ev m, ev ≠ .msgSent ∧ h = handledEvent e a f ev m

theorem Reachable.logged {e : Env} {c : Ctx} (h : Reachable e c) : Logged e c := by
  have hkept : KeptByEvents e (Logged e) :=
    { event := fun {c f ev m} hev hi h hm => by
        rw [handleFlowEvent_handled] at hm
        rcases List.mem_cons.mp hm with rfl | hm
        · exact ⟨c, f, ev, m, hev, rfl⟩
        · exact hi h hm
      unheard := fun hu hi h hm => hi h (hu.handled ▸ hm)
      call := fun hlog _ _ hi h hm => hi h (hlog ▸ hm) }
  exact hkept.kept.reachable h fun h hm => nomatch hm

/-- The event drew a random number: it sent the request again and set a new delay. -/
def Handled.Retransmits (h : Handled) : Prop := h.after.rands ≠ h.before.rands

instance (h : Handled) : Decidable h.Retransmits := inferInstanceAs (Decidable (_ ≠ _))

theorem Handled.Retransmits.of_rands {h : Handled} {m n : Nat} (hbefore : h.before.rands = m)
    (hafter : h.after.rands = n) (hne : n ≠ m) : h.Retransmits := by
  unfold Handled.Retransmits
  rw [hbefore, hafter]
  exact hne

/-- In every run a retransmission sets a delay in the envelope of the one before exactly when the
product of the factor and the doubled delay fits in 32 bits. -/
theorem retransmission_inEnvelope_iff {e : Env} {c : Ctx} (hc : Reachable e c)
    (hirt : e.cfg.retxIrt = 3000) (hmrt : e.cfg.retxMrt = 1024000) {h : Handled} (hh : h ∈ c.handled)
    (hr : h.Retransmits) :
    InEnvelope (clampedDelay e.cfg h.old.resendTimeout.toNat) h.new.resendTimeout.toNat ↔
      jitter (e.rand h.before.rands) * clampedDelay e.cfg h.old.resendTimeout.toNat < 2 ^ 32 := by
  obtain ⟨a, f, ev, m, hev, rfl⟩ := hc.logged h hh
  cases flowStep_paced (a.flowEnv e f m) (a.heap f) a.io hev with
  | steady hrands => exact absurd hrands hr
  | backedOff hst hrands hdelay =>
    have hnew : (handledEvent e a f ev m).new.resendTimeout =
        pcpRt e.cfg (a.heap f).resendTimeout (e.rand a.io.rands) := hdelay
    rw [hnew]
    exact pcpRt_inEnvelope_iff hirt hmrt (a.heap f).resendTimeout (e.rand a.io.rands)

/-! ## A server that does not answer any more -/

/-- The clock jumps by more than any delay before each pulse that follows the first ones, and the factor
is always one. There is no limit on the number of retransmissions. -/
def silentEnv : Env :=
  { Env.calm { retxMrc := 0 } with
    clock := fun i => ⟨1000 + 1000 * ((i - 17) / 6 : Nat), 0⟩
    rand := fun _ => 1024 }

/-- A mapping is granted, the application changes its lifetime, and the new request is sent `n` times
more. -/
def retransmitted (n : Nat) : Ctx :=
  runTo silentEnv (fun _ _ => True) 12 {}
    (waitingFlow ++ [.pulse (some (mapResponse 0 60 1000 0x0B000001)) .zero, .setLifetime 0 90,
      .pulse none .zero] ++ List.replicate n (.pulse none .zero))

/-- The delays of an event, and the random numbers drawn before and after it. -/
def Handled.delays (h : Handled) : UInt32 × UInt32 × Nat × Nat :=
  (h.old.resendTimeout, h.new.resendTimeout, h.before.rands, h.after.rands)

theorem retransmission_inEnvelope_iff_first :
    ∃ h ∈ (retransmitted 1).handled, h.delays = (3000, 6000, 0, 1) ∧
      InEnvelope (clampedDelay silentEnv.cfg h.old.resendTimeout.toNat) h.new.resendTimeout.toNat := by
  have hreach : Reachable silentEnv (retransmitted 1) := Runs.runTo (by decide +kernel)
  have hnewest : (retransmitted 1).handled.head?.map Handled.delays = some (3000, 6000, 0, 1) := by
    decide +kernel
  obtain ⟨h, hhead, hval⟩ := Option.map_eq_some_iff.mp hnewest
  have hmem := List.mem_of_head? hhead
  refine ⟨h, hmem, hval, ?_⟩
  simp only [Handled.delays, Prod.mk.injEq] at hval
  obtain ⟨hold, -, hbefore, hafter⟩ := hval
  have hretransmits : h.Retransmits := .of_rands hbefore hafter (by decide)
  refine (retransmission_inEnvelope_iff hreach rfl rfl hmem hretransmits).mpr ?_
  rw [hold, hbefore]
  decide

/-- The eighth retransmission should come after 768 seconds and comes after less than 244. -/
theorem retransmission_too_early :
    ¬ ∀ (e : Env) (c : Ctx), Reachable e c → e.cfg.retxIrt = 3000 → e.cfg.retxMrt = 1024000 →
      e.cfg.retxMrc = 0 → ∀ h ∈ c.handled, h.Retransmits →
      InEnvelope (clampedDelay e.cfg h.old.resendTimeout.toNat) h.new.resendTimeout.toNat := by
  intro hall
  have hnewest : (retransmitted 8).handled.head?.map Handled.delays = some (384000, 243712, 7, 8) := by
    decide +kernel
  obtain ⟨h, hhead, hval⟩ := Option.map_eq_some_iff.mp hnewest
  simp only [Handled.delays, Prod.mk.injEq] at hval
  obtain ⟨hold, hnew, hbefore, hafter⟩ := hval
  have hretransmits : h.Retransmits := .of_rands hbefore hafter (by decide)
  have hleast := (hall silentEnv (retransmitted 8) (Runs.runTo (by decide +kernel)) rfl rfl rfl h
    (List.mem_of_head? hhead) hretransmits).least
  rw [hold, hnew] at hleast
  revert hleast
  decide

end LibPcp
