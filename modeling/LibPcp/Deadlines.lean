import LibPcp.Retries

/-!
# LibPcp.Deadlines

Timers that do not run out while a pulse lasts.

A pulse reads the clock many times. `Env.NotDue` is about one timer and the readings of a pulse,
`Env.Shorter` about the time between them: what is armed in the pulse for longer than that does not run
out in it either (`sendPhase_quiet`, `resendPhase_quiet`).
-/

namespace LibPcp

open LabelledSteps

/-- The timer is off, or later than the clock at the readings `i`, … `j - 1`. -/
def Env.NotDue (e : Env) (i j : Nat) (t : Timeval) : Prop :=
  t.isZero = true ∨ ∀ k, i ≤ k → k < j → (e.clock k).us < t.us

/-- Less than `ms` milliseconds pass between two of the readings `i`, … `j - 1`. -/
def Env.Shorter (e : Env) (i j ms : Nat) : Prop :=
  ∀ k l, i ≤ k → k < l → l < j → (e.clock l).us < (e.clock k).us + (ms * 1000 : Nat)

theorem Env.NotDue.align {e : Env} {i j : Nat} {t : Timeval} (h : e.NotDue i j t) :
    e.NotDue i j (timevalAlign t) := by
  rcases h with h | h
  · rw [Timeval.isZero_iff.mp h]
    exact .inl rfl
  · refine .inr fun k h₁ h₂ => ?_
    rw [us_timevalAlign]
    exact h k h₁ h₂

theorem Env.NotDue.later {e : Env} {i i' j : Nat} {t : Timeval} (h : e.NotDue i j t) (hi : i ≤ i') :
    e.NotDue i' j t :=
  h.imp_right fun h k h₁ h₂ => h k (Nat.le_trans hi h₁) h₂

theorem Env.Shorter.later {e : Env} {i i' j ms : Nat} (h : e.Shorter i j ms) (hi : i ≤ i') :
    e.Shorter i' j ms :=
  fun k l h₁ => h k l (Nat.le_trans hi h₁)

/-! ## Readings of the clock -/

theorem fireTimer_ticks (e : Env) (c : Ctx) (f : FlowId) :
    c.io.ticks < (fireTimer e c f).io.ticks := by
  unfold fireTimer
  split
  · rw [handleFlowEvent_io]
    have hev : FlowEvent.flowTimedout ≠ .msgSent := by simp
    exact (flowStep_moves ((c.tick.modFlow f alignTimer).flowEnv e f none) _ c.tick.io hev).frame.ticks
  · exact Nat.lt_succ_self _

theorem lowerTimeout_io (s : Nat) (c : Ctx) (f : FlowId) (t : Timeval) :
    (lowerTimeout s c f t).io = c.io := by
  unfold lowerTimeout
  split <;> rfl

theorem checkFlowTimeout_ticks (e : Env) (s : Nat) (c : Ctx) (f : FlowId) :
    c.io.ticks ≤ (checkFlowTimeout e s c f).io.ticks := by
  rw [checkFlowTimeout_eq]
  split
  · exact Nat.le_refl _
  · rw [lowerTimeout_io]
    exact Nat.le_of_lt (fireTimer_ticks e c f)

theorem foldl_checkFlowTimeout_ticks (e : Env) (s : Nat) (l : List FlowId) (c : Ctx) :
    c.io.ticks ≤ (l.foldl (checkFlowTimeout e s) c).io.ticks := by
  induction l generalizing c with
  | nil => exact Nat.le_refl _
  | cons f l ih => exact Nat.le_trans (checkFlowTimeout_ticks e s c f) (ih _)

/-- A timeout of a server reads the clock. -/
theorem fire_ticks {e : Env} {s : Nat} {c : Ctx} (hw : Wf c s) (hl : Live c s) :
    c.io.ticks < (fire e s c).io.ticks := by
  have hstart : Acts e s [.own] c (alignNext c.tick s) := fireStart_acts
  have hrun : Acts e s allKinds (alignNext c.tick s) (fire e s c) := by
    refine runServerStateMachine_allKinds .timeout (hstart.wf hw) ?_
    rw [alignNext_state]
    exact hl.2
  exact Nat.lt_of_lt_of_le (Nat.lt_succ_self _) hrun.frame.ticks

/-! ## Failed transmissions -/

section Errors

variable (x : FlowEnv) (f : Flow) (io : Io)

theorem waitPhase_ticks : (waitPhase x f io).2.ticks = io.ticks + 1 := by
  unfold waitPhase fhndlWaitresp
  by_cases hlt : (timevalComp f.timeout (x.env.now io)).1 < 0
  · simp only [hlt, if_true, (failPhase_spec x _ _).2.2]
    rfl
  · simp only [hlt, if_false]
    rfl

theorem afterSend_sent (r : Flow × Io) :
    (afterSend x (.msgSent, r)).2.sendErrs = r.2.sendErrs :=
  (waitPhase_spec x r.1 r.2).2.1

theorem sendPhase_sendErrs : io.sendErrs ≤ (sendPhase x f io).2.sendErrs := by
  unfold sendPhase
  rcases fhndlSend_cases x { f with state := .send } io with
    ⟨-, h⟩ | ⟨s, -, ⟨-, h⟩ | ⟨-, ⟨⟨f', io'⟩, hsend, h⟩ | ⟨f', io', hsend, h⟩⟩⟩
  · rw [h, afterSend, (failPhase_spec x _ io).2.2]
  · rw [h]
    exact Nat.le_refl _
  · obtain ⟨-, -, -, herr⟩ := pcpFlowSendMsg_counters hsend
    rw [h, afterSend, (failPhase_spec x _ io').2.2, herr]
    exact Nat.le_succ _
  · obtain ⟨-, -, -, herr⟩ := pcpFlowSendMsg_counters hsend
    rw [h, afterSend_sent]
    exact Nat.le_of_eq herr.symm

theorem resendPhase_sendErrs : io.sendErrs ≤ (resendPhase x f io).2.sendErrs := by
  unfold resendPhase
  rcases fhndlResend_cases x { f with state := .send } io with
    ⟨-, h⟩ | ⟨s, -, ⟨-, h⟩ | ⟨-, ⟨⟨f', io'⟩, hsend, h⟩ | ⟨f', io', hsend, h⟩⟩⟩
  · rw [h, afterSend, (failPhase_spec x _ io).2.2]
  · rw [h, afterSend, (failPhase_spec x _ io).2.2]
  · obtain ⟨-, -, -, herr⟩ := pcpFlowSendMsg_counters hsend
    rw [h, afterSend, (failPhase_spec x _ io').2.2, herr]
    exact Nat.le_succ _
  · obtain ⟨-, -, -, herr⟩ := pcpFlowSendMsg_counters hsend
    rw [h, afterSend_sent]
    exact Nat.le_of_eq herr.symm

theorem renewPhase_sendErrs : io.sendErrs ≤ (renewPhase x f io).2.sendErrs := by
  unfold renewPhase
  rcases fhndlSendRenew_cases x { f with state := .sendRenew } io with
    ⟨-, h⟩ | ⟨s, -, ⟨⟨f', io'⟩, hsend, h⟩ | ⟨f', io', hsend, ⟨-, h⟩ | ⟨-, h⟩⟩⟩
  · rw [h]
    exact sendPhase_sendErrs x _ io
  · obtain ⟨-, -, -, herr⟩ := pcpFlowSendMsg_counters hsend
    simp only [Bool.false_eq_true, if_false] at herr
    rw [h]
    exact Nat.le_trans (Nat.le_of_lt (by omega)) (sendPhase_sendErrs x f' io')
  · obtain ⟨-, -, -, herr⟩ := pcpFlowSendMsg_counters hsend
    rw [h]
    exact Nat.le_trans (Nat.le_of_eq herr.symm) (sendPhase_sendErrs x _ io'.tick)
  · obtain ⟨-, -, -, herr⟩ := pcpFlowSendMsg_counters hsend
    rw [h]
    exact Nat.le_of_eq herr.symm

theorem flowPhase_sendErrs (cur next : FlowState) :
    io.sendErrs ≤ (flowPhase x cur next f io).2.sendErrs := by
  cases next with
  | idle => exact Nat.le_refl _
  | waitForServerInit => exact Nat.le_refl _
  | send =>
    simp only [flowPhase]
    split
    · exact resendPhase_sendErrs x f io
    · exact sendPhase_sendErrs x f io
  | waitResp => exact Nat.le_of_eq (waitPhase_spec x f io).2.1.symm
  | waitAfterShortLifeError =>
    unfold flowPhase fhndlShortlifeerror
    cases x.msg <;> exact Nat.le_refl _
  | waitForLifetimeRenew =>
    simp only [flowPhase]
    split
    · unfold fhndlReceivedSuccess
      cases x.msg <;> exact Nat.le_refl _
    · exact Nat.le_refl _
  | sendRenew => exact renewPhase_sendErrs x f io
  | failed => exact Nat.le_of_eq (congrArg Io.sendErrs (failPhase_spec x f io).2.2).symm

theorem flowStep_sendErrs {ev : FlowEvent} (hev : ev ≠ .msgSent) :
    io.sendErrs ≤ (flowStep x ev f io).2.sendErrs := by
  rw [flowStep_eq x f io hev]
  split
  · exact Nat.le_refl _
  · exact flowPhase_sendErrs x f io _ _

end Errors

section Acts

variable {e : Env} {s : Nat} {c c' : Ctx}

theorem handleFlowEvent_sendErrs (e : Env) (c : Ctx) (f : FlowId) {ev : FlowEvent}
    (m : Option RecvMsg) (hev : ev ≠ .msgSent) :
    c.io.sendErrs ≤ (handleFlowEvent e c f ev m).io.sendErrs := by
  rw [handleFlowEvent_io]
  exact flowStep_sendErrs _ _ _ hev

theorem checkFlowTimeout_sendErrs (e : Env) (s : Nat) (c : Ctx) (f : FlowId) :
    c.io.sendErrs ≤ (checkFlowTimeout e s c f).io.sendErrs := by
  rw [checkFlowTimeout_eq]
  split
  · exact Nat.le_refl _
  · rw [lowerTimeout_io]
    unfold fireTimer
    split
    · exact handleFlowEvent_sendErrs e (c.tick.modFlow f alignTimer) f none (by simp)
    · exact Nat.le_refl _

theorem Act.sendErrs {k : ActKind} (h : Act e s k c c') : c.io.sendErrs ≤ c'.io.sendErrs := by
  cases h with
  | tick | server | extAddr | version | reveal | reset | putBack | align => exact Nat.le_refl _
  | event c f ev ho hev => exact handleFlowEvent_sendErrs e c f none hev.ne_msgSent
  | expire k c f hk ht =>
    exact handleFlowEvent_sendErrs e (c.tick.modFlow f alignTimer) f none (by simp)
  | response c f ho => exact handleFlowEvent_sendErrs e c f _ (by simp)
  | announce c =>
    rcases createNatpmpAnnMsg_cases e c s with h | ⟨fl, -, -, -, -, -, -, h⟩ <;> rw [h] <;>
      exact Nat.le_refl _

theorem Acts.sendErrs {K : List ActKind} (h : Acts e s K c c') : c.io.sendErrs ≤ c'.io.sendErrs :=
  h.relate (T := fun a b => a.io.sendErrs ≤ b.io.sendErrs) (fun _ => Nat.le_refl _)
    (fun _ _ _ => Nat.le_trans) fun _ _ _ _ hact => hact.sendErrs

end Acts

/-! ## Requests that are sent in time -/

section Quiet

variable (x : FlowEnv) (f : Flow) (io : Io) {n : Nat}

theorem waitPhase_timer (h : (waitPhase x f io).1.state = .waitResp) :
    (waitPhase x f io).1.timeout.us = f.timeout.us := by
  unfold waitPhase fhndlWaitresp at h ⊢
  by_cases hlt : (timevalComp f.timeout (x.env.now io)).1 < 0
  · simp only [hlt, if_true] at h
    rw [failPhase_state] at h
    cases h
  · simp only [hlt, if_false, timevalComp_snd, us_timevalAlign]

/-- A request that is sent for the first time is waited for during `PCP_RETX_IRT`. -/
theorem sendPhase_timer (h : (sendPhase x f io).1.state = .waitResp) :
    (sendPhase x f io).1.timeout.us = (x.env.now io).us + (x.env.cfg.retxIrt.toNat * 1000 : Nat) := by
  unfold sendPhase at h ⊢
  rcases fhndlSend_cases x { f with state := .send } io with
    ⟨-, heq⟩ | ⟨s, -, ⟨-, heq⟩ | ⟨-, ⟨⟨f', io'⟩, -, heq⟩ | ⟨f', io', hsend, heq⟩⟩⟩
  · rw [heq, afterSend, failPhase_state] at h
    cases h
  · rw [heq] at h
    cases h
  · rw [heq, afterSend, failPhase_state] at h
    cases h
  · obtain ⟨-, hticks, -⟩ := pcpFlowSendMsg_counters hsend
    have harm : (armResend x { f' with resendTimeout := x.env.cfg.retxIrt } io').1.timeout.us =
        (x.env.now io).us + (x.env.cfg.retxIrt.toNat * 1000 : Nat) := by
      simp only [armResend, Env.now, Timeval.us_addMs, hticks, Nat.cast_mul, Nat.cast_ofNat]
    rw [heq] at h ⊢
    generalize armResend x { f' with resendTimeout := x.env.cfg.retxIrt } io' = r at h harm ⊢
    exact (waitPhase_timer x r.1 r.2 h).trans harm

/-- The answer is waited for until after the last reading. -/
theorem waitPhase_quiet {k : Nat} (hk : k < io.ticks)
    (htime : ∀ l, k < l → l < n → (x.env.clock l).us < f.timeout.us)
    (hn : (waitPhase x f io).2.ticks ≤ n) :
    (waitPhase x f io).1.state = .waitResp ∧
      x.env.NotDue (waitPhase x f io).2.ticks n (waitPhase x f io).1.timeout := by
  rw [waitPhase_ticks] at hn ⊢
  have hst : (waitPhase x f io).1.state = .waitResp :=
    (waitPhase_spec x f io).2.2 (Int.le_of_lt (htime io.ticks hk hn))
  refine ⟨hst, .inr fun l h₁ h₂ => ?_⟩
  rw [waitPhase_timer x f io hst]
  exact htime l (by omega) h₂

theorem sendPhase_quiet {s : Server} (hs : x.server = some s)
    (hshort : x.env.Shorter io.ticks n x.env.cfg.retxIrt.toNat)
    (herr : (sendPhase x f io).2.sendErrs = io.sendErrs) (hn : (sendPhase x f io).2.ticks ≤ n)
    (ht : x.env.NotDue io.ticks n f.timeout) :
    (sendPhase x f io).1.state ≠ .failed ∧
      x.env.NotDue (sendPhase x f io).2.ticks n (sendPhase x f io).1.timeout := by
  unfold sendPhase at herr hn ⊢
  rcases fhndlSend_cases x { f with state := .send } io with
    ⟨hnone, -⟩ | ⟨s', -, ⟨-, h⟩ | ⟨-, ⟨⟨f', io'⟩, hsend, h⟩ | ⟨f', io', hsend, h⟩⟩⟩
  · rw [hs] at hnone
    cases hnone
  · rw [h]
    exact ⟨by simp [afterSend], ht⟩
  · obtain ⟨-, -, -, herr'⟩ := pcpFlowSendMsg_counters hsend
    rw [h, afterSend, (failPhase_spec x f' io').2.2, herr'] at herr
    simp at herr
  · obtain ⟨-, hticks, -⟩ := pcpFlowSendMsg_counters hsend
    have harm : (armResend x { f' with resendTimeout := x.env.cfg.retxIrt } io').1.timeout.us =
        (x.env.clock io.ticks).us + (x.env.cfg.retxIrt.toNat * 1000 : Nat) := by
      simp only [armResend, Env.now, Timeval.us_addMs, hticks, Nat.cast_mul, Nat.cast_ofNat]
    have htick : (armResend x { f' with resendTimeout := x.env.cfg.retxIrt } io').2.ticks =
        io.ticks + 1 := congrArg (· + 1) hticks
    rw [h] at hn ⊢
    generalize armResend x { f' with resendTimeout := x.env.cfg.retxIrt } io' = r at hn harm htick ⊢
    obtain ⟨hst, hdue⟩ := waitPhase_quiet x r.1 r.2 (k := io.ticks) (by omega)
      (fun l h₁ h₂ => harm ▸ hshort _ l (Nat.le_refl _) h₁ h₂) hn
    exact ⟨by simp [afterSend, hst], hdue⟩

theorem resendPhase_quiet {s : Server} (hs : x.server = some s) (hused : ¬ RetriesUsed x.env.cfg f)
    (hshort : ∀ k, x.env.Shorter io.ticks n (pcpRt x.env.cfg f.resendTimeout (x.env.rand k)).toNat)
    (herr : (resendPhase x f io).2.sendErrs = io.sendErrs) (hn : (resendPhase x f io).2.ticks ≤ n) :
    (resendPhase x f io).1.state ≠ .failed ∧
      x.env.NotDue (resendPhase x f io).2.ticks n (resendPhase x f io).1.timeout := by
  have hcount : RetriesUsed x.env.cfg { f with state := .send } ↔ RetriesUsed x.env.cfg f := by
    unfold RetriesUsed countRetry
    split <;> rfl
  have hrt : ∀ b l, ((countRetry x.env.cfg { f with state := .send }).setMsg b l).resendTimeout =
      f.resendTimeout := by
    intro b l
    unfold countRetry
    split <;> rfl
  unfold resendPhase at herr hn ⊢
  rcases fhndlResend_cases x { f with state := .send } io with
    ⟨hnone, -⟩ | ⟨s', -, ⟨hu, -⟩ | ⟨-, ⟨⟨f', io'⟩, hsend, h⟩ | ⟨f', io', hsend, h⟩⟩⟩
  · rw [hs] at hnone
    cases hnone
  · exact absurd (hcount.mp hu) hused
  · obtain ⟨-, -, -, herr'⟩ := pcpFlowSendMsg_counters hsend
    rw [h, afterSend, (failPhase_spec x f' io').2.2, herr'] at herr
    simp at herr
  · obtain ⟨⟨b, l, rfl⟩, hticks, -⟩ := pcpFlowSendMsg_counters hsend
    rw [h, hrt b l] at hn ⊢
    generalize hfl : ({ (countRetry x.env.cfg { f with state := .send }).setMsg b l with
      resendTimeout := pcpRt x.env.cfg f.resendTimeout (x.env.rand io'.rands) } : Flow) = fl at hn ⊢
    have hdelay : fl.resendTimeout = pcpRt x.env.cfg f.resendTimeout (x.env.rand io'.rands) := by
      subst hfl
      rfl
    have harm : (armResend x fl { io' with rands := io'.rands + 1 }).1.timeout.us =
        (x.env.clock io.ticks).us +
          ((pcpRt x.env.cfg f.resendTimeout (x.env.rand io'.rands)).toNat * 1000 : Nat) := by
      simp only [armResend, Env.now, Timeval.us_addMs, hticks, hdelay, Nat.cast_mul, Nat.cast_ofNat]
    have htick : (armResend x fl { io' with rands := io'.rands + 1 }).2.ticks = io.ticks + 1 :=
      congrArg (· + 1) hticks
    generalize armResend x fl { io' with rands := io'.rands + 1 } = r at hn harm htick ⊢
    obtain ⟨hst, hdue⟩ := waitPhase_quiet x r.1 r.2 (k := io.ticks) (by omega)
      (fun l h₁ h₂ => harm ▸ hshort _ _ l (Nat.le_refl _) h₁ h₂) hn
    exact ⟨by simp [afterSend, hst], hdue⟩

end Quiet

end LibPcp
