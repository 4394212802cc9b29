import LibPcp.Reach

/-!
# LibPcp.Retries

How many retransmissions a request gets.

`retry_count` lives in the flow and only `fhndl_resend` changes it: `fhndl_send`, which starts an
exchange, does not reset it, so an exchange can begin with a part of the budget used up. Events that
are no timeouts also go through `fhndl_resend`. The run theorem says what a flow gets when neither
happens.

* `flowStep_retryCount`: outside of `pfs_wait_resp` an event leaves the counter alone.
* `resendPhase_cases`: the ways a timeout in `pfs_wait_resp` can end.
* `full_budget`: in runs of ordinary exchanges a flow gives up after the full number of timeouts.
-/

namespace LibPcp

open LabelledSteps

/-! ## The counter under one event -/

theorem sendLoop_counters (e : Env) (mk : List UInt8 → Sent) (b : ByteBuffer.Buf) (len n k : Nat) (io : Io) :
    (sendLoop e mk b len n k io).2.sendErrs = io.sendErrs ∧
      (sendLoop e mk b len n k io).2.rands = io.rands := by
  induction n generalizing k io with
  | zero => exact ⟨rfl, rfl⟩
  | succ n ih =>
    simp only [sendLoop]
    split
    · exact ⟨rfl, rfl⟩
    · split
      · exact ⟨rfl, rfl⟩
      · exact ih _ _

theorem pcpFlowSendMsg_counters {e : Env} {id : FlowId} {i : Nat} {s : Server} {f f' : Flow} {io io' : Io}
    {ok : Bool} (h : pcpFlowSendMsg e id i s f io = (ok, f', io')) :
    (∃ b l, f' = f.setMsg b l) ∧ io'.ticks = io.ticks ∧ io'.rands = io.rands ∧
      io'.sendErrs = if ok then io.sendErrs else io.sendErrs + 1 := by
  obtain ⟨hset, hticks, -⟩ := pcpFlowSendMsg_spec e id i s f io
  rw [h] at hset hticks
  refine ⟨hset, hticks, ?_⟩
  obtain ⟨b, l, k, hr⟩ := preparedMsg_eq e s f io
  rw [pcpFlowSendMsg_eq, hr] at h
  cases b with
  | none =>
    cases h
    exact ⟨rfl, rfl⟩
  | some b =>
    generalize sentRecord id i s (f.setMsg (some b) l) = mk at h
    obtain ⟨herr, hrand⟩ := sendLoop_counters e mk b l l l { io with callocs := k }
    simp only [Flow.setMsg] at h
    rcases hl : sendLoop e mk b l l l { io with callocs := k } with ⟨ok', io₁⟩
    rw [hl] at h herr hrand
    cases ok' with
    | true =>
      cases h
      exact ⟨hrand, herr⟩
    | false =>
      cases h
      exact ⟨hrand, congrArg (· + 1) herr⟩

section Phases

variable (x : FlowEnv) (f : Flow) (io : Io)

theorem failPhase_spec :
    (failPhase x f io).1.retryCount = f.retryCount ∧ (failPhase x f io).1.state = .failed ∧
      (failPhase x f io).2 = io := by
  unfold failPhase fhndlClearTimeouts
  cases x.msg with
  | none => exact ⟨rfl, rfl, rfl⟩
  | some m => exact ⟨rfl, rfl, rfl⟩

/-- A request that has been sent is waited for, unless the time for the answer is over already. -/
theorem waitPhase_spec :
    (waitPhase x f io).1.retryCount = f.retryCount ∧ (waitPhase x f io).2.sendErrs = io.sendErrs ∧
      ((x.env.now io).us ≤ f.timeout.us → (waitPhase x f io).1.state = .waitResp) := by
  have hcmp := timevalComp_lt f.timeout (x.env.now io)
  unfold waitPhase fhndlWaitresp
  by_cases hlt : (timevalComp f.timeout (x.env.now io)).1 < 0
  · obtain ⟨h₁, -, h₃⟩ := failPhase_spec x
      { f with state := .waitResp, timeout := (timevalComp f.timeout (x.env.now io)).2.1 } io.tick
    simp only [hlt, if_true]
    refine ⟨h₁, by rw [h₃]; rfl, fun hle => ?_⟩
    have := hcmp.mp hlt
    omega
  · simp [hlt, Io.tick]

theorem sendPhase_retryCount : (sendPhase x f io).1.retryCount = f.retryCount := by
  unfold sendPhase
  rcases fhndlSend_cases x { f with state := .send } io with
    ⟨-, h⟩ | ⟨s, -, ⟨-, h⟩ | ⟨-, ⟨⟨f', io'⟩, hsend, h⟩ | ⟨f', io', hsend, h⟩⟩⟩
  all_goals rw [h]
  · exact (failPhase_spec x _ io).1
  · rfl
  · obtain ⟨⟨b, l, rfl⟩, -⟩ := pcpFlowSendMsg_counters hsend
    exact (failPhase_spec x _ io').1
  · obtain ⟨⟨b, l, rfl⟩, -⟩ := pcpFlowSendMsg_counters hsend
    exact (waitPhase_spec x _ _).1

theorem renewPhase_retryCount : (renewPhase x f io).1.retryCount = f.retryCount := by
  unfold renewPhase
  rcases fhndlSendRenew_cases x { f with state := .sendRenew } io with
    ⟨-, h⟩ | ⟨s, -, ⟨⟨f', io'⟩, hsend, h⟩ | ⟨f', io', hsend, ⟨-, h⟩ | ⟨-, h⟩⟩⟩
  all_goals rw [h]
  · exact sendPhase_retryCount x _ io
  · obtain ⟨⟨b, l, rfl⟩, -⟩ := pcpFlowSendMsg_counters hsend
    exact sendPhase_retryCount x _ io'
  · obtain ⟨⟨b, l, rfl⟩, -⟩ := pcpFlowSendMsg_counters hsend
    exact sendPhase_retryCount x _ _
  · obtain ⟨⟨b, l, rfl⟩, -⟩ := pcpFlowSendMsg_counters hsend
    rfl

theorem takeSuccess_retryCount (cfg : Config) (m : RecvMsg) :
    (takeSuccess cfg m f).retryCount = f.retryCount := by
  unfold takeSuccess
  dsimp only
  repeat' split
  all_goals rfl

theorem flowPhase_retryCount {cur next : FlowState} (h : cur ≠ .waitResp) :
    (flowPhase x cur next f io).1.retryCount = f.retryCount := by
  cases next with
  | idle => rfl
  | waitForServerInit =>
    unfold flowPhase fhndlClearTimeouts
    cases x.msg <;> rfl
  | send =>
    simp only [flowPhase, if_neg h]
    exact sendPhase_retryCount x f io
  | waitResp => exact (waitPhase_spec x f io).1
  | waitAfterShortLifeError =>
    unfold flowPhase fhndlShortlifeerror
    cases x.msg <;> rfl
  | waitForLifetimeRenew =>
    simp only [flowPhase]
    split
    · unfold fhndlReceivedSuccess
      cases x.msg with
      | none => rfl
      | some m => exact takeSuccess_retryCount _ x.env.cfg m
    · rfl
  | sendRenew => exact renewPhase_retryCount x f io
  | failed => exact (failPhase_spec x f io).1

theorem flowStep_retryCount {ev : FlowEvent} (hev : ev ≠ .msgSent) (h : f.state ≠ .waitResp) :
    (flowStep x ev f io).1.retryCount = f.retryCount := by
  rw [flowStep_eq x f io hev]
  split
  · rfl
  · exact flowPhase_retryCount x f io h

/-- The time until the next retransmission, if there is one. -/
def resendDelay (x : FlowEnv) (f : Flow) (io : Io) : Nat :=
  (pcpRt x.env.cfg f.resendTimeout (x.env.rand io.rands)).toNat

/-- A timeout in `pfs_wait_resp`: the budget is used up, the transmission fails, or the flow waits
again unless the clock has jumped over the whole delay. -/
theorem resendPhase_cases (hs : x.server ≠ none) :
    (RetriesUsed x.env.cfg f ∧ (resendPhase x f io).1.state = .failed) ∨
      ((resendPhase x f io).1.state = .failed ∧
        (resendPhase x f io).2.sendErrs = io.sendErrs + 1) ∨
      ((resendPhase x f io).1.retryCount = (countRetry x.env.cfg f).retryCount ∧
        ((x.env.clock (io.ticks + 1)).us ≤
            (x.env.clock io.ticks).us + (resendDelay x f io * 1000 : Nat) →
          (resendPhase x f io).1.state = .waitResp)) := by
  have hcount : ∀ st, (countRetry x.env.cfg { f with state := st }).retryCount =
      (countRetry x.env.cfg f).retryCount ∧
      (countRetry x.env.cfg { f with state := st }).resendTimeout = f.resendTimeout := by
    intro st
    unfold countRetry
    split <;> exact ⟨rfl, rfl⟩
  unfold resendPhase
  rcases fhndlResend_cases x { f with state := .send } io with
    ⟨hn, -⟩ | ⟨s, -, ⟨hused, h⟩ | ⟨-, ⟨⟨f', io'⟩, hsend, h⟩ | ⟨f', io', hsend, h⟩⟩⟩
  · exact absurd hn hs
  · rw [h]
    refine .inl ⟨?_, (failPhase_spec x _ io).2.1⟩
    unfold RetriesUsed at hused ⊢
    rw [(hcount .send).1] at hused
    exact hused
  · obtain ⟨-, -, -, herr⟩ := pcpFlowSendMsg_counters hsend
    rw [h]
    refine .inr (.inl ⟨(failPhase_spec x f' io').2.1, ?_⟩)
    simp only [afterSend, (failPhase_spec x f' io').2.2]
    exact herr
  · obtain ⟨⟨b, l, rfl⟩, hticks, hrands, -⟩ := pcpFlowSendMsg_counters hsend
    have hrt : pcpRt x.env.cfg
        ((countRetry x.env.cfg { f with state := .send }).setMsg b l).resendTimeout
        (x.env.rand io'.rands) = pcpRt x.env.cfg f.resendTimeout (x.env.rand io.rands) := by
      rw [hrands]
      exact congrArg (pcpRt x.env.cfg · _) (hcount .send).2
    rw [h, hrt]
    generalize hfl : ({ (countRetry x.env.cfg { f with state := .send }).setMsg b l with
      resendTimeout := pcpRt x.env.cfg f.resendTimeout (x.env.rand io.rands) } : Flow) = fl
    obtain ⟨h₁, -, h₃⟩ := waitPhase_spec x (armResend x fl { io' with rands := io'.rands + 1 }).1
      (armResend x fl { io' with rands := io'.rands + 1 }).2
    have hret : fl.retryCount = (countRetry x.env.cfg { f with state := .send }).retryCount := by
      subst hfl
      rfl
    have hdelay : fl.resendTimeout.toNat = resendDelay x f io := by
      subst hfl
      rfl
    refine .inr (.inr ⟨(h₁.trans hret).trans (hcount .send).1, fun hclock => h₃ ?_⟩)
    change (x.env.clock (io'.ticks + 1)).us ≤
      ((x.env.clock io'.ticks).addMs fl.resendTimeout.toNat).us
    rw [Timeval.us_addMs, hticks, hdelay]
    omega

def FlowEvent.isRes : FlowEvent → Bool
  | .res _ => true
  | _ => false

/-- An answer with a row in the table ends the wait. -/
theorem flowStep_answered {code : UInt32} (hst : f.state = .waitResp)
    (hrow : nextState .waitResp (.res code) ≠ none) :
    (flowStep x (.res code) f io).1.state ≠ .waitResp := by
  rw [flowStep_eq x f io (by simp), hst]
  cases hn : nextState .waitResp (.res code) with
  | none => exact absurd hn hrow
  | some next =>
    have htable : ∀ r ∈ flowEventsSm, (r.1 = some .waitResp ∨ r.1 = none) → r.2.1.isRes = true →
        r.2.2 = .waitForLifetimeRenew ∨ r.2.2 = .waitForServerInit ∨
          r.2.2 = .waitAfterShortLifeError ∨ r.2.2 = .failed := by
      decide
    obtain ⟨r, hr, hcur, heq⟩ := nextState_row hn
    have hnext := htable r hr hcur (by rw [heq]; rfl)
    rw [heq] at hnext
    rcases hnext with rfl | rfl | rfl | rfl
    · simp only [flowPhase, true_or, if_true]
      unfold fhndlReceivedSuccess
      cases x.msg with
      | none => simp
      | some m =>
        dsimp only
        rw [takeSuccess_state]
        simp
    · unfold flowPhase fhndlClearTimeouts
      cases x.msg <;> simp [Flow.clearMsgBuf]
    · unfold flowPhase fhndlShortlifeerror
      cases x.msg <;> simp
    · simp [flowPhase, (failPhase_spec x f io).2.1]

end Phases

/-! ## Exchanges in a run -/

/-- A request is sent for the first time, by `fhndl_send`. -/
def Handled.Fresh (h : Handled) : Prop := h.old.state ≠ .waitResp ∧ h.new.state = .waitResp

/-- A flow gives up waiting, not for want of sending. -/
structure Handled.GaveUp (h : Handled) : Prop where
  ev : h.ev = .flowTimedout
  old : h.old.state = .waitResp
  new : h.new.state = .failed
  sent : h.after.sendErrs = h.before.sendErrs

/-- An exchange starts with the counter at zero. A flow that waits for an answer gets one the table
knows, or its timer runs out while its server is there and the clock does not jump over the next
delay. -/
structure Handled.Ordinary (e : Env) (h : Handled) : Prop where
  fresh : h.Fresh → h.old.retryCount = 0
  event : h.old.state = .waitResp → h.ev = .flowTimedout ∨ h.ev = .failed ∨
    ∃ code, h.ev = .res code ∧ nextState .waitResp (.res code) ≠ none
  server : h.old.state = .waitResp → h.ev = .flowTimedout → h.server ≠ none
  clock : h.old.state = .waitResp → h.ev = .flowTimedout →
    (e.clock (h.before.ticks + 1)).us ≤ (e.clock h.before.ticks).us +
      ((pcpRt e.cfg h.old.resendTimeout (e.rand h.before.rands)).toNat * 1000 : Nat)

def timeouts (f : FlowId) (l : List Handled) : Nat :=
  l.countP fun h => h.flow = f ∧ h.ev = .flowTimedout

/-- `mid` is the part of the log since the flow's most recent fresh transmission, and in it the flow
has had nothing but timeouts. -/
structure Exchange (f : FlowId) (log mid : List Handled) : Prop where
  split : ∃ g rest, log = mid ++ g :: rest ∧ g.flow = f ∧ g.Fresh
  quiet : ∀ m ∈ mid, m.flow = f → m.ev = .flowTimedout ∧ ¬ m.Fresh

theorem Exchange.other {f : FlowId} {log mid : List Handled} (h : Exchange f log mid) (h₀ : Handled)
    (hne : h₀.flow ≠ f) :
    Exchange f (h₀ :: log) (h₀ :: mid) ∧ timeouts f (h₀ :: mid) = timeouts f mid := by
  obtain ⟨⟨g, rest, hsplit, hg⟩, hquiet⟩ := h
  refine ⟨⟨⟨g, rest, by rw [hsplit]; rfl, hg⟩, fun m hm hf => ?_⟩, ?_⟩
  · rcases List.mem_cons.mp hm with rfl | hm
    · exact absurd hf hne
    · exact hquiet m hm hf
  · simp [timeouts, hne]

theorem Exchange.timeout {f : FlowId} {log mid : List Handled} (h : Exchange f log mid) (h₀ : Handled)
    (hf : h₀.flow = f) (hev : h₀.ev = .flowTimedout) (hold : h₀.old.state = .waitResp) :
    Exchange f (h₀ :: log) (h₀ :: mid) ∧ timeouts f (h₀ :: mid) = timeouts f mid + 1 := by
  obtain ⟨⟨g, rest, hsplit, hg⟩, hquiet⟩ := h
  refine ⟨⟨⟨g, rest, by rw [hsplit]; rfl, hg⟩, fun m hm hf => ?_⟩, ?_⟩
  · rcases List.mem_cons.mp hm with rfl | hm
    · exact ⟨hev, fun hfresh => hfresh.1 hold⟩
    · exact hquiet m hm hf
  · simp [timeouts, hf, hev]

/-- The counter of a flow that waits is covered by the timeouts of its exchange, and so was that of
every flow that gave up. -/
structure Budget (e : Env) (c : Ctx) : Prop where
  waiting : ∀ f, (c.heap f).state = .waitResp →
    ∃ mid, Exchange f c.handled mid ∧ (c.heap f).retryCount.toNat ≤ timeouts f mid
  gaveUp : ∀ post h pre, c.handled = post ++ h :: pre → h.GaveUp →
    ∃ mid, Exchange h.flow pre mid ∧ e.cfg.retxMrc.toNat ≤ timeouts h.flow mid + 1

section Runs

variable {e : Env} {c c' : Ctx}

theorem countRetry_le (cfg : Config) (f : Flow) :
    (countRetry cfg f).retryCount.toNat ≤ f.retryCount.toNat + 1 := by
  unfold countRetry
  split
  · simp only [UInt32.toNat_add]
    exact Nat.le_trans (Nat.mod_le _ _) (by simp)
  · exact Nat.le_succ _

/-- The flow waits again, or gave up for the right reason. -/
theorem timeout_budget {f : FlowId} {m : Option RecvMsg}
    (hold : (c.heap f).state = .waitResp) (ho : (handledEvent e c f .flowTimedout m).Ordinary e)
    {mid : List Handled} (hle : (c.heap f).retryCount.toNat ≤ timeouts f mid) :
    ((handledEvent e c f .flowTimedout m).new.state = .waitResp →
      (handledEvent e c f .flowTimedout m).new.retryCount.toNat ≤ timeouts f mid + 1) ∧
    ((handledEvent e c f .flowTimedout m).GaveUp → e.cfg.retxMrc.toNat ≤ timeouts f mid + 1) := by
  have hstep : flowStep (c.flowEnv e f m) .flowTimedout (c.heap f) c.io =
      resendPhase (c.flowEnv e f m) (c.heap f) c.io := by
    rw [flowStep_eq _ _ _ (by simp), hold]
    rfl
  have hnew : (handledEvent e c f .flowTimedout m).new =
      (resendPhase (c.flowEnv e f m) (c.heap f) c.io).1 := congrArg Prod.fst hstep
  have hafter : (handledEvent e c f .flowTimedout m).after =
      (resendPhase (c.flowEnv e f m) (c.heap f) c.io).2 := congrArg Prod.snd hstep
  have hcount := countRetry_le e.cfg (c.heap f)
  have hserver : (c.flowEnv e f m).server ≠ none := ho.server hold rfl
  rcases resendPhase_cases (c.flowEnv e f m) (c.heap f) c.io hserver with
    ⟨hused, hfail⟩ | ⟨hfail, herr⟩ | ⟨hretry, hwait⟩
  · refine ⟨fun hw => ?_, fun _ => ?_⟩
    · rw [hnew, hfail] at hw
      cases hw
    · have hle' := UInt32.le_iff_toNat_le.mp hused.2
      change e.cfg.retxMrc.toNat ≤ (countRetry e.cfg (c.heap f)).retryCount.toNat at hle'
      omega
  · refine ⟨fun hw => ?_, fun hg => ?_⟩
    · rw [hnew, hfail] at hw
      cases hw
    · have hsent := hg.sent
      rw [hafter, herr] at hsent
      exact absurd hsent (Nat.succ_ne_self _)
  · refine ⟨fun _ => ?_, fun hg => ?_⟩
    · rw [hnew, hretry]
      exact Nat.le_trans hcount (Nat.succ_le_succ hle)
    · have hw := hwait (ho.clock hold rfl)
      rw [← hnew, hg.new] at hw
      cases hw

/-- A waiting flow is still in its exchange after an ordinary event, or waits no longer. -/
theorem event_waiting {f : FlowId} {ev : FlowEvent} {m : Option RecvMsg} (hev : ev ≠ .msgSent)
    (hb : Budget e c) (ho : (handledEvent e c f ev m).Ordinary e)
    (hw : (handledEvent e c f ev m).new.state = .waitResp) :
    ∃ mid, Exchange f (handledEvent e c f ev m :: c.handled) mid ∧
      (handledEvent e c f ev m).new.retryCount.toNat ≤ timeouts f mid := by
  by_cases hold : (c.heap f).state = .waitResp
  · rcases ho.event hold with rfl | rfl | ⟨code, rfl, hrow⟩
    · obtain ⟨mid, hx, hle⟩ := hb.waiting f hold
      obtain ⟨hx', hcount⟩ := hx.timeout (handledEvent e c f .flowTimedout m) rfl rfl hold
      exact ⟨_, hx', hcount ▸ (timeout_budget hold ho hle).1 hw⟩
    · have hfail : (handledEvent e c f .failed m).new = (failPhase (c.flowEnv e f m) (c.heap f) c.io).1 := by
        simp only [handledEvent]
        rw [flowStep_eq _ _ _ (by simp), hold]
        rfl
      rw [hfail, (failPhase_spec _ _ _).2.1] at hw
      cases hw
    · exact absurd hw (flowStep_answered _ _ _ hold hrow)
  · have hfresh : (handledEvent e c f ev m).Fresh := ⟨hold, hw⟩
    refine ⟨[], ⟨⟨_, _, rfl, rfl, hfresh⟩, by simp⟩, ?_⟩
    have hkeep : (handledEvent e c f ev m).new.retryCount = (c.heap f).retryCount :=
      flowStep_retryCount _ _ _ hev hold
    have hzero : (c.heap f).retryCount = 0 := ho.fresh hfresh
    rw [hkeep, hzero]
    exact Nat.zero_le _

theorem handleFlowEvent_budget {f : FlowId} {ev : FlowEvent} {m : Option RecvMsg} (hev : ev ≠ .msgSent)
    (hb : Budget e c) (ho : (handledEvent e c f ev m).Ordinary e) :
    Budget e (handleFlowEvent e c f ev m) := by
  refine ⟨fun g hg => ?_, fun post h pre hsplit hgave => ?_⟩
  · rw [handleFlowEvent_handled]
    rw [handleFlowEvent_heap] at hg ⊢
    by_cases hgf : g = f
    · subst hgf
      rw [Function.update_self] at hg ⊢
      exact event_waiting hev hb ho hg
    · rw [Function.update_of_ne hgf] at hg ⊢
      obtain ⟨mid, hx, hle⟩ := hb.waiting g hg
      obtain ⟨hx', hcount⟩ := hx.other (handledEvent e c f ev m) (Ne.symm hgf)
      exact ⟨_, hx', hcount ▸ hle⟩
  · rw [handleFlowEvent_handled] at hsplit
    cases post with
    | nil =>
      cases hsplit
      have hold : (c.heap f).state = .waitResp := hgave.old
      obtain rfl : ev = .flowTimedout := hgave.ev
      obtain ⟨mid, hx, hle⟩ := hb.waiting f hold
      exact ⟨mid, hx, (timeout_budget hold ho hle).2 hgave⟩
    | cons h' post =>
      obtain ⟨-, hsplit⟩ := List.cons.inj hsplit
      exact hb.gaveUp post h pre hsplit hgave

def BudgetUnless (e : Env) (c : Ctx) : Prop := (∀ h ∈ c.handled, h.Ordinary e) → Budget e c

theorem event_budget {f : FlowId} {ev : FlowEvent} {m : Option RecvMsg} (hev : ev ≠ .msgSent)
    (hb : BudgetUnless e c) : BudgetUnless e (handleFlowEvent e c f ev m) := by
  intro ho
  rw [handleFlowEvent_handled] at ho
  exact handleFlowEvent_budget hev (hb fun h hm => ho h (List.mem_cons_of_mem _ hm))
    (ho _ List.mem_cons_self)

/-- A change outside of `handle_flow_event`: no flow starts to wait, and no counter goes up. -/
theorem BudgetUnless.congr (hb : BudgetUnless e c) (hlog : c'.handled = c.handled)
    (hheap : ∀ f, (c'.heap f).state = .waitResp → (c.heap f).state = .waitResp ∧
      (c'.heap f).retryCount.toNat ≤ (c.heap f).retryCount.toNat) : BudgetUnless e c' := by
  intro ho
  rw [hlog] at ho
  have hb := hb ho
  refine ⟨fun f hf => ?_, fun post h pre hsplit => ?_⟩
  · obtain ⟨hold, hle⟩ := hheap f hf
    obtain ⟨mid, hx, hmid⟩ := hb.waiting f hold
    rw [hlog]
    exact ⟨mid, hx, Nat.le_trans hle hmid⟩
  · rw [hlog] at hsplit
    exact hb.gaveUp post h pre hsplit

theorem Flow.Touched.wait {v w : Flow} (h : v.Touched w) (hw : w.state = .waitResp) :
    v.state = .waitResp ∧ w.retryCount.toNat ≤ v.retryCount.toNat := by
  cases h with
  | same | align => exact ⟨hw, Nat.le_refl _⟩
  | reset => exact ⟨hw, Nat.zero_le _⟩
  | putBack => cases hw
  | announce _ hst hmsg =>
    rw [hst] at hw
    cases hw

theorem Flow.Called.wait {v w : Flow} (h : Flow.Called e c v w) (hw : w.state = .waitResp) :
    v.state = .waitResp ∧ w.retryCount.toNat ≤ v.retryCount.toNat := by
  obtain ⟨b, n, rfl⟩ := h.linked (by rw [hw]; rfl) (by rw [hw]; decide)
  exact ⟨hw, Nat.le_refl _⟩

theorem Reachable.budget (h : Reachable e c) : BudgetUnless e c := by
  have hkept : KeptByEvents e (BudgetUnless e) :=
    { event := fun hev hb => event_budget hev hb
      unheard := fun h hb => hb.congr h.handled fun f => (h.flow f).wait
      call := fun hlog _ hflow hb => hb.congr hlog fun f => (hflow f).wait }
  refine hkept.kept.reachable h fun _ => ⟨fun f hf => ?_, fun post h pre hsplit => ?_⟩
  · cases hf
  · simp at hsplit

end Runs

/-- A flow that gives up has handled `PCP_RETX_MRC` timeouts since its last fresh transmission, and
nothing else, in every run of ordinary exchanges. -/
theorem full_budget {e : Env} {c : Ctx} (hc : Reachable e c) (ho : ∀ h ∈ c.handled, h.Ordinary e)
    {post pre : List Handled} {h : Handled} (hsplit : c.handled = post ++ h :: pre) (hg : h.GaveUp) :
    ∃ mid g rest, pre = mid ++ g :: rest ∧ g.flow = h.flow ∧ g.Fresh ∧
      (∀ m ∈ mid, m.flow = h.flow → m.ev = .flowTimedout ∧ ¬ m.Fresh) ∧
      e.cfg.retxMrc.toNat ≤ timeouts h.flow mid + 1 := by
  obtain ⟨mid, ⟨⟨g, rest, hpre, hflow, hfresh⟩, hquiet⟩, hle⟩ := (hc.budget ho).gaveUp post h pre hsplit hg
  exact ⟨mid, g, rest, hpre, hflow, hfresh, hquiet, hle⟩

/-! ## A flow that gives up, and one that gives up too early -/

/-- The clock moves on by ten seconds at the readings `first`, `second` and `third`. -/
def patientEnv (first second third : Nat) : Env :=
  { Env.calm {} with
    clock := fun i => if i < first then ⟨1000, 0⟩ else if i < second then ⟨1010, 0⟩
      else if i < third then ⟨1020, 0⟩ else ⟨1040, 0⟩ }

/-- The flow's request is sent, and its timer runs out three times. -/
def unanswered : Ctx :=
  runTo (patientEnv 5 9 13) (fun _ _ => True) 12 {}
    (waitingFlow ++ List.replicate 3 (.pulse none .zero))

/-- The timer runs out twice before the answer comes; then the application changes the lifetime, and the
timer of the new request runs out. -/
def answeredLate : Ctx :=
  runTo (patientEnv 5 9 31) (fun _ _ => True) 12 {}
    (waitingFlow ++ List.replicate 2 (.pulse none .zero) ++
      [.pulse (some (mapResponse 0 60 1000 0x0B000001)) .zero, .setLifetime 0 90, .pulse none .zero,
        .pulse none .zero])

/-- What `Handled.Ordinary` asks for, of an event that is no answer. -/
def Handled.timerOnly (e : Env) (h : Handled) : Bool :=
  if h.old.state = .waitResp then
    h.ev = .flowTimedout ∧ h.server.isSome = true ∧
      (e.clock (h.before.ticks + 1)).us ≤ (e.clock h.before.ticks).us +
        ((pcpRt e.cfg h.old.resendTimeout (e.rand h.before.rands)).toNat * 1000 : Nat)
  else h.new.state = .waitResp → h.old.retryCount = 0

theorem Handled.timerOnly_ordinary {e : Env} {h : Handled} (ht : h.timerOnly e = true) :
    h.Ordinary e := by
  unfold Handled.timerOnly at ht
  split at ht
  · rename_i hold
    obtain ⟨hev, hserver, hclock⟩ := of_decide_eq_true ht
    refine ⟨fun hf => absurd hold hf.1, fun _ => .inl hev, fun _ _ => ?_, fun _ _ => hclock⟩
    exact Option.isSome_iff_ne_none.mp hserver
  · rename_i hold
    exact ⟨fun hf => of_decide_eq_true ht hf.2, fun h => absurd h hold, fun h => absurd h hold,
      fun h => absurd h hold⟩

theorem unanswered_ordinary :
    ∀ h ∈ unanswered.handled, h.Ordinary (patientEnv 5 9 13) := by
  have hall : unanswered.handled.all (·.timerOnly (patientEnv 5 9 13)) = true := by decide +kernel
  exact fun h hm => h.timerOnly_ordinary (List.all_eq_true.mp hall h hm)

/-- The last event of the flow before its server is given up. -/
theorem unanswered_newest :
    (unanswered.handled.tail.head?.map fun h => (h.flow, h.ev, h.old.state, h.new.state,
      h.before.sendErrs, h.after.sendErrs)) =
      some (0, .flowTimedout, .waitResp, .failed, 0, 0) := by
  decide +kernel

theorem full_budget_unanswered :
    Reachable (patientEnv 5 9 13) unanswered ∧
      ∃ post h pre mid g rest, unanswered.handled = post ++ h :: pre ∧ h.GaveUp ∧
        pre = mid ++ g :: rest ∧ g.flow = h.flow ∧ g.Fresh ∧ 3 ≤ timeouts h.flow mid + 1 := by
  have hreach : Reachable (patientEnv 5 9 13) unanswered := Runs.runTo (by decide +kernel)
  refine ⟨hreach, ?_⟩
  obtain ⟨h, hhead, hval⟩ := Option.map_eq_some_iff.mp unanswered_newest
  simp only [Prod.mk.injEq] at hval
  obtain ⟨-, hev, hold, hnew, hbefore, hafter⟩ := hval
  have hgave : h.GaveUp := ⟨hev, hold, hnew, hafter.trans hbefore.symm⟩
  obtain ⟨pre, htail⟩ := List.head?_eq_some_iff.mp hhead
  cases hlog : unanswered.handled with
  | nil =>
    rw [hlog] at htail
    cases htail
  | cons h' tail =>
    rw [hlog] at htail
    have hsplit : unanswered.handled = [h'] ++ h :: pre := by rw [hlog, ← htail]; rfl
    obtain ⟨mid, g, rest, hpre, hflow, hfresh, -, hle⟩ :=
      full_budget hreach unanswered_ordinary hsplit hgave
    exact ⟨[h'], h, pre, mid, g, rest, hlog ▸ hsplit, hgave, hpre, hflow, hfresh, hle⟩

theorem answeredLate_newest :
    (answeredLate.handled.head?.map fun h => (h.flow, h.ev, h.old.state, h.new.state,
        h.before.sendErrs, h.after.sendErrs)) = some (0, .flowTimedout, .waitResp, .failed, 0, 0) ∧
      (answeredLate.handled.tail.head?.map fun h => (h.flow, h.old.state, h.new.state)) =
        some (0, .send, .waitResp) := by
  decide +kernel

/-- The new request is given up at its first timeout. -/
theorem budget_used_up :
    Reachable (patientEnv 5 9 31) answeredLate ∧ (patientEnv 5 9 31).cfg.retxMrc = 3 ∧
      ∃ h g rest, answeredLate.handled = h :: g :: rest ∧ h.GaveUp ∧ g.flow = h.flow ∧ g.Fresh := by
  refine ⟨Runs.runTo (by decide +kernel), rfl, ?_⟩
  obtain ⟨hlast, hprev⟩ := answeredLate_newest
  obtain ⟨h, hhead, hval⟩ := Option.map_eq_some_iff.mp hlast
  obtain ⟨g, hhead', hval'⟩ := Option.map_eq_some_iff.mp hprev
  simp only [Prod.mk.injEq] at hval hval'
  obtain ⟨hflow, hev, hold, hnew, hbefore, hafter⟩ := hval
  obtain ⟨hflow', hold', hnew'⟩ := hval'
  obtain ⟨tail, hlog⟩ := List.head?_eq_some_iff.mp hhead
  obtain ⟨rest, htail⟩ := List.head?_eq_some_iff.mp hhead'
  rw [hlog, List.tail_cons] at htail
  refine ⟨h, g, rest, by rw [hlog, htail], ⟨hev, hold, hnew, hafter.trans hbefore.symm⟩,
    hflow'.trans hflow.symm, ?_, hnew'⟩
  rw [hold']
  decide

end LibPcp
