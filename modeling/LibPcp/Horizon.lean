import LibPcp.CallTimers
import LibPcp.Renewal
import LibPcp.Woken
import LibPcp.Writes

/-!
# LibPcp.Horizon

How far in the future a timer can be.

Every timer is set from a reading of the clock: for the time of day, for a retransmission, for half of
a granted lifetime, for the whole lifetime of a short-lived error, for the retry of a server that does
not work. When none of these is more than `d` seconds, no flow's timer is further away than that.
`handle_wait_io_timeout` measures what a flow has left from a reading taken before the flow's event,
and adds it to one taken after the pass; so the timer of a server may be further away, by what the
clock advances during one event.

* `flowStep_ahead`: what one event makes of a flow.
* `run_ahead`: what every handler makes of its server's timer.
* `Runs.ahead`: the bound in every run that keeps the lifetimes within it.
-/

namespace LibPcp

open LabelledSteps

/-! ## The bound -/

/-- The results with which a server refuses a request for a while. -/
def ShortLived (result : UInt32) : Prop :=
  result = resNetworkFailure ∨ result = resNoResources ∨ result = resExcessiveRemotePeers ∨
    result = resUserExQuota

instance (result : UInt32) : Decidable (ShortLived result) := inferInstanceAs (Decidable (_ ∨ _))

/-- The client's own delays are at most `d` seconds, and while it handles one event the clock advances
by at most `jump` microseconds. A retransmission is never more than 2^19 milliseconds away. -/
structure Env.Within (e : Env) (d : Nat) (jump : Int) : Prop where
  mono : e.ClockMono
  normal : e.ClockNormal
  nonneg : 0 ≤ (e.clock 0).us
  steady : ∀ i, (e.clock (i + 2)).us ≤ (e.clock i).us + jump
  retxIrt : e.cfg.retxIrt.toNat ≤ d * 1000
  retryDelay : e.cfg.serverDiscoveryRetryDelay ≤ d
  resend : 525 ≤ d

/-- A mapping for at most `2 * d + 1` seconds, or a refusal for at most `d`. -/
structure RecvMsg.Within (d : Nat) (m : RecvMsg) : Prop where
  success : m.recvResult = resSuccess → m.recvLifetime.toNat ≤ 2 * d + 1
  refusal : ShortLived m.recvResult → m.recvLifetime.toNat ≤ d

instance (d : Nat) (m : RecvMsg) : Decidable (m.Within d) :=
  decidable_of_iff ((m.recvResult = resSuccess → m.recvLifetime.toNat ≤ 2 * d + 1) ∧
    (ShortLived m.recvResult → m.recvLifetime.toNat ≤ d)) ⟨fun h => ⟨h.1, h.2⟩, fun h => ⟨h.1, h.2⟩⟩

/-- At reading `i` of the clock the timer is at most `d` seconds away, and the mapping ends in at most
twice that time. -/
structure Flow.Ahead (e : Env) (d : Nat) (i : Nat) (f : Flow) : Prop where
  timeout : f.timeout.us ≤ (e.clock i).us + d * 1000000
  lifetime : f.recvLifetime ≤ (e.clock i).tvSec + (2 * d + 1)

section Bound

variable {e : Env} {d i j : Nat} {jump : Int} {f : Flow}

theorem Env.Within.jump_nonneg (he : e.Within d jump) : 0 ≤ jump := by
  have hstep := he.mono 0 (0 + 2) (Nat.zero_le _)
  have hsteady := he.steady 0
  omega

theorem Env.Within.clock_nonneg (he : e.Within d jump) (i : Nat) : 0 ≤ (e.clock i).us :=
  Int.le_trans he.nonneg (he.mono 0 i (Nat.zero_le i))

theorem Env.Within.sec_le (he : e.Within d jump) (hij : i ≤ j) :
    (e.clock i).tvSec ≤ (e.clock j).tvSec :=
  (he.normal i).sec_le (he.normal j) (he.mono i j hij)

theorem Flow.Ahead.later (h : f.Ahead e d i) (he : e.Within d jump) (hij : i ≤ j) : f.Ahead e d j := by
  have hus := he.mono i j hij
  have hsec := he.sec_le hij
  exact ⟨by have := h.timeout; omega, by have := h.lifetime; omega⟩

/-- A timer that is off or set anew. -/
theorem Flow.Ahead.set (h : f.Ahead e d i) {g : Flow}
    (ht : g.timeout.us ≤ (e.clock i).us + d * 1000000) (hl : g.recvLifetime = f.recvLifetime) :
    g.Ahead e d i :=
  ⟨ht, hl ▸ h.lifetime⟩

theorem Env.Within.zero_le (he : e.Within d jump) (i : Nat) :
    Timeval.zero.us ≤ (e.clock i).us + d * 1000000 := by
  have hzero : Timeval.zero.us = 0 := rfl
  have hnow := he.clock_nonneg i
  omega

end Bound

/-! ## Events -/

section Event

variable {x : FlowEnv} {d : Nat} {jump : Int} (f : Flow) (io : Io) {i : Nat}

theorem failPhase_ahead (he : x.env.Within d jump) (h : f.Ahead x.env d i) :
    (failPhase x f io).1.Ahead x.env d i := by
  refine h.set ?_ ?_
  · rw [failPhase_timeout]
    exact he.zero_le i
  · unfold failPhase fhndlClearTimeouts
    cases x.msg <;> rfl

theorem waitPhase_ahead (he : x.env.Within d jump) (h : f.Ahead x.env d i) :
    (waitPhase x f io).1.Ahead x.env d i := by
  have hwait : (fhndlWaitresp x { f with state := .waitResp } io).2.1.Ahead x.env d i := by
    refine h.set ?_ rfl
    change (timevalAlign f.timeout).us ≤ _
    rw [us_timevalAlign]
    exact h.timeout
  unfold waitPhase
  split
  · rename_i g io' heq
    rw [heq] at hwait
    exact failPhase_ahead g io' he hwait
  · rename_i r _ heq
    rw [heq] at hwait
    exact hwait

/-- A request is sent at `io` and the timer armed `ms` later. -/
theorem afterSend_ahead (he : x.env.Within d jump) {ms : UInt32} (hms : ms.toNat ≤ d * 1000)
    (h : f.Ahead x.env d io.ticks) :
    (afterSend x (.msgSent, armResend x { f with resendTimeout := ms } io)).1.Ahead x.env d io.ticks := by
  refine waitPhase_ahead _ _ he (h.set ?_ rfl)
  change ((x.env.clock io.ticks).addMs ms.toNat).us ≤ _
  rw [Timeval.us_addMs]
  omega

theorem sendPhase_ahead (he : x.env.Within d jump) (h : f.Ahead x.env d io.ticks) :
    (sendPhase x f io).1.Ahead x.env d io.ticks := by
  have hstart : ({ f with state := .send } : Flow).Ahead x.env d io.ticks := h.set h.timeout rfl
  unfold sendPhase
  rcases fhndlSend_cases x { f with state := .send } io with
    ⟨-, heq⟩ | ⟨s, -, ⟨-, heq⟩ | ⟨-, ⟨⟨f', io'⟩, hsend, heq⟩ | ⟨f', io', hsend, heq⟩⟩⟩
  all_goals rw [heq]
  · exact failPhase_ahead _ _ he hstart
  · exact h.set h.timeout rfl
  · obtain ⟨⟨b, l, rfl⟩, -⟩ := pcpFlowSendMsg_counters hsend
    exact failPhase_ahead _ _ he (h.set h.timeout rfl)
  · obtain ⟨⟨b, l, rfl⟩, hticks, -⟩ := pcpFlowSendMsg_counters hsend
    rw [← hticks] at h ⊢
    exact afterSend_ahead _ io' he he.retxIrt (h.set h.timeout rfl)

theorem pcpRt_lt (cfg : Config) (rtprev : UInt32) (r : Nat) : (pcpRt cfg rtprev r).toNat < 2 ^ 19 := by
  unfold pcpRt
  dsimp only
  generalize (_ : UInt32) * _ = y
  have hy := y.toNat_lt
  rw [UInt32.toNat_shiftRight, Nat.shiftRight_eq_div_pow]
  simp only [UInt32.reduceToNat, Nat.reduceMod, Nat.reducePow] at hy ⊢
  omega

theorem resendPhase_ahead (he : x.env.Within d jump) (h : f.Ahead x.env d io.ticks) :
    (resendPhase x f io).1.Ahead x.env d io.ticks := by
  have hcount : (countRetry x.env.cfg { f with state := .send }).Ahead x.env d io.ticks := by
    unfold countRetry
    split <;> exact h.set h.timeout rfl
  unfold resendPhase
  rcases fhndlResend_cases x { f with state := .send } io with
    ⟨-, heq⟩ | ⟨s, -, ⟨-, heq⟩ | ⟨-, ⟨⟨f', io'⟩, hsend, heq⟩ | ⟨f', io', hsend, heq⟩⟩⟩
  all_goals rw [heq]
  · exact failPhase_ahead _ _ he (h.set h.timeout rfl)
  · exact failPhase_ahead _ _ he hcount
  · obtain ⟨⟨b, l, rfl⟩, -⟩ := pcpFlowSendMsg_counters hsend
    exact failPhase_ahead _ _ he (hcount.set hcount.timeout rfl)
  · obtain ⟨⟨b, l, rfl⟩, hticks, -⟩ := pcpFlowSendMsg_counters hsend
    have hrt := pcpRt_lt x.env.cfg
      (((countRetry x.env.cfg { f with state := .send }).setMsg b l).resendTimeout) (x.env.rand io'.rands)
    have hfloor := he.resend
    have hsent : ((countRetry x.env.cfg { f with state := .send }).setMsg b l).Ahead x.env d io.ticks :=
      hcount.set hcount.timeout rfl
    rw [← hticks] at hsent ⊢
    exact afterSend_ahead _ { io' with rands := io'.rands + 1 } he (by omega) hsent

/-- Half of what is left of a mapping. -/
theorem half_left {t e' : Int} (h : e' ≤ t + (2 * d + 1)) : (e' - t) >>> (1 : Nat) ≤ d := by
  rw [Int.shiftRight_eq_div_pow]
  omega

/-- What one event leaves, by the readings it has taken. -/
def AheadAfter (x : FlowEnv) (d : Nat) (io : Io) (r : Flow × Io) : Prop :=
  r.1.Ahead x.env d io.ticks ∨ (io.ticks < r.2.ticks ∧ r.1.Ahead x.env d (io.ticks + 1))

theorem renewPhase_ahead (he : x.env.Within d jump) (h : f.Ahead x.env d io.ticks) :
    AheadAfter x d io (renewPhase x f io) := by
  have hdelay : ∀ b l {io' : Io}, io'.ticks = io.ticks →
      renewDelay x (({ f with state := .sendRenew } : Flow).setMsg b l) io' ≤ d := by
    intro b l io' hio
    rw [renewDelay, Env.now, hio]
    exact half_left h.lifetime
  unfold renewPhase
  rcases fhndlSendRenew_cases x { f with state := .sendRenew } io with
    ⟨-, heq⟩ | ⟨s, -, ⟨⟨f', io'⟩, hsend, heq⟩ | ⟨f', io', hsend, ⟨-, heq⟩ | ⟨-, heq⟩⟩⟩
  all_goals rw [heq]
  · exact .inl (sendPhase_ahead _ io he (h.set h.timeout rfl))
  · obtain ⟨⟨b, l, rfl⟩, hticks, -⟩ := pcpFlowSendMsg_counters hsend
    left
    dsimp only
    rw [← hticks] at h ⊢
    exact sendPhase_ahead _ io' he (h.set h.timeout rfl)
  · -- nothing is left, and a fresh request is sent at the next reading
    obtain ⟨⟨b, l, rfl⟩, hticks, -⟩ := pcpFlowSendMsg_counters hsend
    have htick : io'.tick.ticks = io.ticks + 1 := congrArg (· + 1) hticks
    have hnow : x.env.now io' = x.env.clock io.ticks := congrArg x.env.clock hticks
    have hlater : f.Ahead x.env d (io.ticks + 1) := h.later he (Nat.le_succ _)
    right
    dsimp only
    refine ⟨?_, ?_⟩
    · refine Nat.lt_of_lt_of_le ?_ (sendPhase_moves x _ io'.tick).frame.ticks
      dsimp only
      omega
    · rw [← htick] at hlater ⊢
      refine sendPhase_ahead _ io'.tick he (hlater.set ?_ rfl)
      have hmono := he.mono io.ticks io'.tick.ticks (by omega)
      dsimp only
      rw [hnow]
      omega
  · obtain ⟨⟨b, l, rfl⟩, hticks, -⟩ := pcpFlowSendMsg_counters hsend
    have hd := hdelay b l hticks
    left
    refine h.set ?_ rfl
    dsimp only
    rw [Timeval.us_addSec, Env.now, hticks]
    omega

theorem fhndlReceivedSuccess_ahead {m : RecvMsg} (hm : x.msg = some m)
    (hlife : m.recvLifetime.toNat ≤ 2 * d + 1)
    (htime : m.receivedTime ≤ (x.env.clock io.ticks).tvSec) (he : x.env.Within d jump) :
    (fhndlReceivedSuccess x f io).2.1.Ahead x.env d io.ticks := by
  have hexpiry : (takeSuccess x.env.cfg m f).recvLifetime ≤
      (x.env.clock io.ticks).tvSec + (2 * d + 1) := by
    rw [takeSuccess_recvLifetime]
    split <;> omega
  unfold fhndlReceivedSuccess
  rw [hm]
  refine ⟨?_, hexpiry⟩
  dsimp only
  split
  · exact he.zero_le _
  · have hhalf := half_left hexpiry
    rw [Timeval.us_addSec, Env.now]
    omega

/-- Only these responses lead to the short-lived error state. -/
theorem nextState_shortLived {cur : FlowState} {code : UInt32}
    (h : nextState cur (.res code) = some .waitAfterShortLifeError) : ShortLived code := by
  rcases nextState_shortLife h with h | h | h | h
  all_goals
    cases h
    decide

/-- Only a success leads to the renewal state, among the responses. -/
theorem nextState_success {cur : FlowState} {code : UInt32}
    (h : nextState cur (.res code) = some .waitForLifetimeRenew) : code = resSuccess := by
  obtain ⟨r, hr, -, heq⟩ := nextState_row h
  have htable : ∀ r ∈ flowEventsSm, r.2.2 = .waitForLifetimeRenew →
      r.2.1 = .res resSuccess ∨ r.2.1 = .msgSent ∨ r.2.1 = .ignored := by
    decide
  have hcase := htable r hr
  rw [heq] at hcase
  rcases hcase rfl with h | h | h
  · cases h
    rfl
  · cases h
  · cases h

/-- The event has no message, or is the response `x.msg`. -/
def Heard (x : FlowEnv) (d : Nat) (ev : FlowEvent) (io : Io) : Prop :=
  x.msg = none ∨ ∃ m, x.msg = some m ∧ ev = .res m.recvResult ∧ m.Within d ∧
    m.receivedTime ≤ (x.env.clock io.ticks).tvSec

/-- An event arms the timer of its flow within the bound. -/
theorem flowStep_ahead {ev : FlowEvent} (he : x.env.Within d jump) (hev : ev ≠ .msgSent)
    (hm : Heard x d ev io) (h : f.Ahead x.env d io.ticks) :
    AheadAfter x d io (flowStep x ev f io) := by
  rw [flowStep_eq x f io hev]
  split
  · exact .inl h
  · rename_i next hn
    cases next with
    | idle => exact .inl (h.set h.timeout rfl)
    | waitResp => exact .inl (waitPhase_ahead f io he h)
    | send =>
      simp only [flowPhase]
      split
      · exact .inl (resendPhase_ahead f io he h)
      · exact .inl (sendPhase_ahead f io he h)
    | sendRenew => exact renewPhase_ahead f io he h
    | failed => exact .inl (failPhase_ahead f io he h)
    | waitForServerInit =>
      left
      simp only [flowPhase, fhndlClearTimeouts]
      refine h.set (he.zero_le _) ?_
      cases x.msg <;> rfl
    | waitAfterShortLifeError =>
      left
      simp only [flowPhase, fhndlShortlifeerror]
      rcases hm with hm | ⟨m, hm, rfl, hwithin, -⟩
      · rw [hm]
        exact h.set h.timeout rfl
      · rw [hm]
        refine h.set ?_ rfl
        have hlife := hwithin.refusal (nextState_shortLived hn)
        dsimp only
        rw [Timeval.us_addSec, Env.now]
        omega
    | waitForLifetimeRenew =>
      left
      simp only [flowPhase]
      split
      · rcases hm with hm | ⟨m, hm, rfl, hwithin, htime⟩
        · simp only [fhndlReceivedSuccess, hm]
          exact h.set h.timeout rfl
        · exact fhndlReceivedSuccess_ahead _ io hm (hwithin.success (nextState_success hn)) htime he
      · exact h.set h.timeout rfl

end Event

/-! ## Acts -/

/-- No flow has a timer that is too far away. -/
def FlowsAhead (e : Env) (d : Nat) (c : Ctx) : Prop := ∀ f, (c.heap f).Ahead e d c.io.ticks

/-- The message has arrived, and what it grants is within the bound. -/
def Arrived (e : Env) (d : Nat) (c : Ctx) : Prop :=
  c.msg.Within d ∧ c.msg.receivedTime ≤ (e.now c.io).tvSec

section Acts

variable {e : Env} {d s : Nat} {jump : Int} {c c' : Ctx}

theorem FlowsAhead.update (h : FlowsAhead e d c) (he : e.Within d jump) {f : FlowId} {v : Flow}
    (hv : v.Ahead e d c'.io.ticks) (hc : c'.heap = Function.update c.heap f v)
    (ht : c.io.ticks ≤ c'.io.ticks) : FlowsAhead e d c' := by
  intro g
  rw [hc]
  by_cases hg : g = f
  · subst hg
    rw [Function.update_self]
    exact hv
  · rw [Function.update_of_ne hg]
    exact (h g).later he ht

theorem FlowsAhead.later (h : FlowsAhead e d c) (he : e.Within d jump) (hc : c'.heap = c.heap)
    (ht : c.io.ticks ≤ c'.io.ticks) : FlowsAhead e d c' := by
  intro g
  rw [hc]
  exact (h g).later he ht

theorem FlowsAhead.edit (h : FlowsAhead e d c) (he : e.Within d jump) (f : FlowId) {v : Flow}
    (ht : v.timeout.us ≤ max (c.heap f).timeout.us 0) (hl : v.recvLifetime = (c.heap f).recvLifetime) :
    FlowsAhead e d (c.setFlow f v) := by
  refine h.update he ((h f).set ?_ hl) rfl (Nat.le_refl _)
  have hold := (h f).timeout
  have hnow := he.clock_nonneg c.io.ticks
  change _ ≤ (e.clock c.io.ticks).us + _
  omega

theorem handleFlowEvent_ticks (e : Env) (c : Ctx) (f : FlowId) {ev : FlowEvent} (m : Option RecvMsg)
    (hev : ev ≠ .msgSent) : c.io.ticks ≤ (handleFlowEvent e c f ev m).io.ticks := by
  rw [handleFlowEvent_io]
  exact (flowStep_moves (c.flowEnv e f m) (c.heap f) c.io hev).frame.ticks

theorem handleFlowEvent_ahead (he : e.Within d jump) (h : FlowsAhead e d c) (f : FlowId)
    {ev : FlowEvent} {m : Option RecvMsg} (hev : ev ≠ .msgSent)
    (hm : Heard (c.flowEnv e f m) d ev c.io) : FlowsAhead e d (handleFlowEvent e c f ev m) := by
  have hticks := handleFlowEvent_ticks e c f m hev
  refine h.update he ?_ (handleFlowEvent_heap e c f ev m) hticks
  rcases flowStep_ahead (c.heap f) c.io he hev hm (h f) with hnow | ⟨hlt, hnext⟩
  · exact hnow.later he hticks
  · refine hnext.later he ?_
    rw [handleFlowEvent_io]
    exact hlt

theorem alignTimer_ahead (he : e.Within d jump) (h : FlowsAhead e d c) (f : FlowId) :
    FlowsAhead e d (c.modFlow f alignTimer) :=
  h.edit he f (by rw [alignTimer, us_timevalAlign]; omega) rfl

/-- Memory the allocator has cleared. -/
theorem Flow.zero_ahead (he : e.Within d jump) (i : Nat) : Flow.zero.Ahead e d i := by
  have hnow := he.clock_nonneg i
  have hnormal := he.normal i
  refine ⟨he.zero_le i, ?_⟩
  change (0 : Int) ≤ _
  simp only [Timeval.us, Timeval.Normal] at hnow hnormal
  omega

theorem createNatpmpAnnMsg_ahead (he : e.Within d jump) (h : FlowsAhead e d c) :
    FlowsAhead e d (createNatpmpAnnMsg e c s).2 := by
  have hzero := Flow.zero_ahead he c.io.ticks
  unfold createNatpmpAnnMsg pcpCreateFlow
  dsimp only
  cases e.calloc c.io.callocs with
  | false => exact h
  | true =>
    intro g
    by_cases hg : g = c.heapTop
    · subst hg
      simp only [pcpDbAddFlow, Ctx.modFlow, Ctx.modServer, Ctx.setFlow_heap, Ctx.setServer_heap,
        Function.update_self, if_true]
      exact hzero.set hzero.timeout rfl
    · simp only [pcpDbAddFlow, Ctx.modFlow, Ctx.modServer, Ctx.setFlow_heap, Ctx.setServer_heap,
        Function.update_of_ne hg, if_true]
      exact h g

theorem Act.flowsAhead {k : ActKind} (h : Act e s k c c') (he : e.Within d jump)
    (hm : k = .response → Arrived e d c) (ha : FlowsAhead e d c) : FlowsAhead e d c' := by
  cases h with
  | tick => exact ha.later he rfl (Nat.le_succ _)
  | server | version | reveal | extAddr => exact ha
  | reset c f r ho => exact ha.edit he f (Int.le_max_left _ _) rfl
  | putBack c f ho => exact ha.edit he f (Int.le_max_right _ _) rfl
  | event c f ev ho hev => exact handleFlowEvent_ahead he ha f hev.ne_msgSent (.inl rfl)
  | align k c f hk ht => exact alignTimer_ahead he ha f
  | expire k c f hk ht =>
    have htick : FlowsAhead e d c.tick := ha.later he rfl (Nat.le_succ _)
    exact handleFlowEvent_ahead he (alignTimer_ahead he htick f) f (by simp) (.inl rfl)
  | response c f ho =>
    obtain ⟨hwithin, htime⟩ := hm rfl
    exact handleFlowEvent_ahead he ha f (by simp) (.inr ⟨_, rfl, rfl, hwithin, htime⟩)
  | announce c => exact createNatpmpAnnMsg_ahead he ha

/-- A handler changes nothing of the message but its external address. -/
theorem Act.arrived {k : ActKind} (h : Act e s k c c') (he : e.Within d jump)
    (hm : Arrived e d c) : Arrived e d c' := by
  have hmsg : c'.msg.recvResult = c.msg.recvResult ∧ c'.msg.recvLifetime = c.msg.recvLifetime ∧
      c'.msg.receivedTime = c.msg.receivedTime := by
    cases h with
    | tick | server | version | reveal | extAddr | reset | putBack | align => exact ⟨rfl, rfl, rfl⟩
    | event c f ev ho hev =>
      rw [handleFlowEvent_msg]
      exact ⟨rfl, rfl, rfl⟩
    | expire k c f hk ht =>
      rw [handleFlowEvent_msg]
      exact ⟨rfl, rfl, rfl⟩
    | response c f ho =>
      rw [handleFlowEvent_msg]
      exact ⟨rfl, rfl, rfl⟩
    | announce c =>
      rcases createNatpmpAnnMsg_cases e c s with h | ⟨fl, -, -, -, -, -, -, h⟩ <;> rw [h] <;>
        exact ⟨rfl, rfl, rfl⟩
  obtain ⟨hresult, hlife, htime⟩ := hmsg
  refine ⟨⟨?_, ?_⟩, ?_⟩
  · rw [hresult, hlife]
    exact hm.1.success
  · rw [hresult, hlife]
    exact hm.1.refusal
  · rw [htime]
    exact Int.le_trans hm.2 (he.sec_le h.frame.ticks)

theorem Acts.flowsAhead {K : List ActKind} (h : Acts e s K c c') (he : e.Within d jump)
    (hm : ActKind.response ∉ K ∨ Arrived e d c) (ha : FlowsAhead e d c) : FlowsAhead e d c' := by
  rcases hm with hK | hm
  · exact h.invariant (I := FlowsAhead e d) (fun _ _ _ ha hk hact =>
      hact.flowsAhead he (fun hkind => absurd (hkind ▸ hk) hK) ha) ha
  · have hinv := h.invariant (I := fun a => Arrived e d a ∧ FlowsAhead e d a)
      (fun _ _ _ ha _ hact => ⟨hact.arrived he ha.1, hact.flowsAhead he (fun _ => ha.1) ha.2⟩) ⟨hm, ha⟩
    exact hinv.2

end Acts

/-! ## Timers of servers -/

/-- The timer of server `s` is not too far away. -/
def ServerAhead (e : Env) (d : Nat) (jump : Int) (c : Ctx) (s : Nat) : Prop :=
  (c.pcpServers s).nextTimeout.us ≤ (e.now c.io).us + d * 1000000 + jump

/-- The timer of `s` is the one that was `t`, is off, or is that of a flow or the time of day. -/
def TimerFrom (e : Env) (s : Nat) (t : Timeval) (c : Ctx) : Prop :=
  (c.pcpServers s).nextTimeout.us = t.us ∨ (c.pcpServers s).nextTimeout = .zero ∨
    (∃ f, (c.pcpServers s).nextTimeout = (c.heap f).timeout) ∨
    ∃ i, i ≤ c.io.ticks ∧ (c.pcpServers s).nextTimeout.us = (e.clock i).us

section Handlers

variable {e : Env} {d s : Nat} {jump : Int} {c c' : Ctx} {t : Timeval}

theorem ServerAhead.later (h : ServerAhead e d jump c s) (he : e.Within d jump)
    (hc : (c'.pcpServers s).nextTimeout.us = (c.pcpServers s).nextTimeout.us)
    (ht : c.io.ticks ≤ c'.io.ticks) : ServerAhead e d jump c' s := by
  have hmono : (e.now c.io).us ≤ (e.now c'.io).us := he.mono _ _ ht
  unfold ServerAhead at h ⊢
  omega

theorem TimerFrom.ahead (h : TimerFrom e s (c.pcpServers s).nextTimeout c') (he : e.Within d jump)
    (hs : ServerAhead e d jump c s) (ht : c.io.ticks ≤ c'.io.ticks) (hf : FlowsAhead e d c') :
    ServerAhead e d jump c' s := by
  have hjump := he.jump_nonneg
  rcases h with h | h | ⟨f, h⟩ | ⟨i, hi, h⟩
  · exact hs.later he h ht
  · have hzero := he.zero_le c'.io.ticks
    rw [ServerAhead, h, Env.now]
    omega
  · have hflow := (hf f).timeout
    rw [ServerAhead, h, Env.now]
    omega
  · have hmono := he.mono i _ hi
    rw [ServerAhead, h, Env.now]
    omega

theorem TimerFrom.of_woken (c : Ctx) : TimerFrom e s t (e.wakeNow c s) := by
  refine .inr (.inr (.inr ⟨c.io.ticks, Nat.le_succ _, ?_⟩))
  rw [Env.wakeNow_self]
  rfl

/-- The other fields of the record do not matter. -/
theorem TimerFrom.modServer {g : Server → Server} (h : TimerFrom e s t c)
    (hg : (g (c.pcpServers s)).nextTimeout = (c.pcpServers s).nextTimeout) :
    TimerFrom e s t (c.modServer s g) := by
  unfold TimerFrom at h ⊢
  rw [Ctx.modServer_self, hg]
  exact h

theorem pingLoop_timer (n : Nat) (c : Ctx) : TimerFrom e s t (pingLoop e s n c).2 := by
  have hoff : ∀ a : Ctx, TimerFrom e s t (a.setNextTimeout s .zero) := by
    intro a
    refine .inr (.inl ?_)
    rw [Ctx.setNextTimeout_self]
  induction n generalizing c with
  | zero => exact hoff c
  | succ n ih =>
    rw [pingLoop_succ]
    rcases getPingMsg c s with ⟨found, a⟩
    cases found with
    | none => exact hoff a
    | some f =>
      dsimp only
      split
      · refine .inr (.inr (.inl ⟨f, ?_⟩))
        rw [Ctx.setNextTimeout_self]
        rfl
      · exact ih _

theorem handleWaitPingRespTimeout_timer (c : Ctx) :
    TimerFrom e s t (handleWaitPingRespTimeout e c s).2 := by
  unfold handleWaitPingRespTimeout
  dsimp only
  split
  · exact .of_woken _
  · split
    · exact .of_woken _
    · rename_i p _
      split
      · exact .of_woken _
      · refine .inr (.inr (.inl ⟨p, ?_⟩))
        rw [Ctx.setNextTimeout_self]
        rfl

theorem handleWaitIoReceiveMsg_timer (c : Ctx) : TimerFrom e s t (handleWaitIoReceiveMsg e c s).2 := by
  rcases handleWaitIoReceiveMsg_cases e c s with
    ⟨-, h⟩ | ⟨-, h⟩ | ⟨-, -, f, c₁, -, ⟨-, c₂, -, h⟩ | ⟨-, h⟩⟩
  all_goals
    rw [h]
    dsimp only
  · exact (TimerFrom.of_woken c).modServer rfl
  · exact .of_woken c
  · exact (TimerFrom.of_woken c₂).modServer rfl
  · exact .of_woken _

theorem negotiationPing_timer {c : Ctx} (p : FlowId) (h : (c.pcpServers s).nextTimeout = t) :
    TimerFrom e s t (negotiationPing e c s p).2 := by
  unfold negotiationPing
  dsimp only
  split
  · left
    rw [handleFlowEvent_pcpServers]
    exact congrArg Timeval.us h
  · refine .inr (.inr (.inl ⟨p, ?_⟩))
    rw [Ctx.setNextTimeout_self]
    rfl

theorem negotiationEnd_timer {r : Option FlowId × Ctx} (h : (r.2.pcpServers s).nextTimeout = t) :
    TimerFrom e s t (negotiationEnd e s r).2 := by
  obtain ⟨p, c⟩ := r
  cases p with
  | some p => exact negotiationPing_timer p h
  | none =>
    have hping : ((getPingMsg c s).2.pcpServers s).nextTimeout = t := by
      rw [getPingMsg_self]
      exact h
    simp only [negotiationEnd]
    generalize getPingMsg c s = r at hping ⊢
    obtain ⟨found, a⟩ := r
    cases found with
    | some q => exact negotiationPing_timer q hping
    | none =>
      refine .inr (.inl ?_)
      rw [Ctx.setNextTimeout_self]

theorem handleVersionNegotiation_timer (c : Ctx) :
    TimerFrom e s (c.pcpServers s).nextTimeout (handleVersionNegotiation e c s).2 := by
  have hlower : ((lowerNextVersion c s).pcpServers s).nextTimeout = (c.pcpServers s).nextTimeout := by
    rw [lowerNextVersion, Ctx.modServer_self]
  have huse : ((useNextVersion (lowerNextVersion c s) s).pcpServers s).nextTimeout =
      (c.pcpServers s).nextTimeout := by
    rw [useNextVersion, Ctx.modServer_self]
    exact hlower
  rw [handleVersionNegotiation_eq]
  split
  · exact .inl (congrArg Timeval.us hlower)
  · refine negotiationEnd_timer ?_
    split
    · exact natpmpPingMsg_nextTimeout.trans huse
    · exact huse

theorem handleServerNotWorking_timer (c : Ctx) :
    TimerFrom e s (c.pcpServers s).nextTimeout (handleServerNotWorking e c s).2 := by
  unfold handleServerNotWorking
  dsimp only
  split
  · split
    · left
      rw [Ctx.setNextTimeout_self, timevalComp_snd]
      exact us_timevalAlign _
    · generalize serverProcessRcvdPcpMsg e _ s = r
      obtain ⟨f, a⟩ := r
      dsimp only
      exact TimerFrom.modServer (.of_woken _) rfl
  · refine .inr (.inr (.inr ⟨c.io.ticks, Nat.le_succ _, ?_⟩))
    rw [Ctx.setNextTimeout_self, timevalComp_snd]
    exact us_timevalAlign _

end Handlers

/-! ### The timer pass -/

section Pass

variable {e : Env} {d s : Nat} {jump : Int} {c : Ctx}

/-- What is left of the flow's timer, from the reading before its event. -/
theorem fireTimer_ahead (he : e.Within d jump) (h : FlowsAhead e d c) (f : FlowId) :
    FlowsAhead e d (fireTimer e c f) ∧
      ((fireTimer e c f).heap f).timeout.us ≤ (e.now c.io).us + d * 1000000 + jump := by
  have hjump := he.jump_nonneg
  have htick : FlowsAhead e d c.tick := h.later he rfl (Nat.le_succ _)
  have halign : FlowsAhead e d (c.tick.modFlow f alignTimer) := alignTimer_ahead he htick f
  have hself : (c.tick.modFlow f alignTimer).heap f = alignTimer (c.heap f) := by simp [Ctx.modFlow]
  unfold fireTimer
  split
  · refine ⟨handleFlowEvent_ahead he halign f (by simp) (.inl rfl), ?_⟩
    -- the event takes its timer from one of the next two readings
    have hsteady := he.steady c.io.ticks
    have hmono := he.mono (c.io.ticks + 1) (c.io.ticks + 2) (Nat.le_succ _)
    rw [handleFlowEvent_heap, Function.update_self]
    have hevent := flowStep_ahead (x := (c.tick.modFlow f alignTimer).flowEnv e f none) _ _ he
      (show FlowEvent.flowTimedout ≠ .msgSent by simp) (.inl rfl) (halign f)
    rcases hevent with hnow | ⟨-, hnext⟩
    · have ht : _ ≤ (e.clock (c.io.ticks + 1)).us + _ := hnow.timeout
      unfold Env.now
      omega
    · have ht : _ ≤ (e.clock (c.io.ticks + 2)).us + _ := hnext.timeout
      unfold Env.now
      omega
  · refine ⟨halign, ?_⟩
    have ht := (h f).timeout
    rw [hself, alignTimer, us_timevalAlign, Env.now]
    omega

/-- In the pass the timer of the server is what is left of the nearest flow's. -/
def PassAhead (e : Env) (d : Nat) (jump : Int) (s : Nat) (c : Ctx) : Prop :=
  FlowsAhead e d c ∧ (c.pcpServers s).nextTimeout.us ≤ d * 1000000 + jump

theorem nearestTimeout_le {tout left : Timeval} {b : Int} (ht : tout.us ≤ b) (hl : left.us ≤ b) :
    (nearestTimeout tout left).us ≤ b := by
  unfold nearestTimeout
  repeat' split
  · exact hl
  · rwa [us_timevalAlign]
  · rwa [us_timevalAlign]

theorem checkFlowTimeout_ahead (he : e.Within d jump) (h : PassAhead e d jump s c) (f : FlowId) :
    PassAhead e d jump s (checkFlowTimeout e s c f) := by
  have hjump := he.jump_nonneg
  rw [checkFlowTimeout_eq]
  split
  · exact h
  · obtain ⟨hflows, hself⟩ := fireTimer_ahead he h.1 f
    have hservers := (fireTimer_servers e c f).2
    unfold lowerTimeout
    split
    · exact ⟨hflows, hservers ▸ h.2⟩
    · refine ⟨alignTimer_ahead he hflows f, ?_⟩
      have hleft := (timerLeft_spec (c := fireTimer e c f) (f := f) (e.now c.io)).2
      rw [Ctx.setNextTimeout_self, hservers]
      exact nearestTimeout_le h.2 (by omega)

theorem handleWaitIoTimeout_ahead (he : e.Within d jump) (h : FlowsAhead e d c) :
    ServerAhead e d jump (handleWaitIoTimeout e c s).2 s := by
  have hjump := he.jump_nonneg
  have hstart : PassAhead e d jump s (c.setNextTimeout s .zero) := by
    refine ⟨h, ?_⟩
    have hzero : Timeval.zero.us = 0 := rfl
    rw [Ctx.setNextTimeout_self]
    dsimp only
    omega
  have hpass := List.foldlRecOn (motive := PassAhead e d jump s) c.allFlows (checkFlowTimeout e s)
    hstart fun a ha f _ => checkFlowTimeout_ahead he ha f
  have hall : (c.setNextTimeout s .zero).allFlows = c.allFlows := rfl
  unfold handleWaitIoTimeout
  simp only [hall]
  generalize c.allFlows.foldl (checkFlowTimeout e s) (c.setNextTimeout s .zero) = a at hpass ⊢
  split
  · have hnow := he.clock_nonneg a.io.ticks
    have hrel := hpass.2
    change (a.pcpServers s).nextTimeout.us ≤ (e.clock a.io.ticks).us + _ + _
    omega
  · have hmono := he.mono a.io.ticks (a.io.ticks + 1) (Nat.le_succ _)
    have hrel := hpass.2
    rw [ServerAhead, Ctx.setNextTimeout_self, us_timevalAlign]
    change _ ≤ (e.clock (a.io.ticks + 1)).us + _ + _
    simp only [Timeval.us, Env.now] at hrel hmono ⊢
    omega

/-- What every handler makes of the timer of its server. -/
theorem run_ahead (h : ServerHandler) (he : e.Within d jump) (hw : Wf c s) (hc : FlowsAhead e d c)
    (hc' : FlowsAhead e d (h.run e c s).2) (hs : ServerAhead e d jump c s) :
    ServerAhead e d jump (h.run e c s).2 s := by
  have hticks := (h.run_acts e hw).frame.ticks
  have hfrom : TimerFrom e s (c.pcpServers s).nextTimeout (h.run e c s).2 →
      ServerAhead e d jump (h.run e c s).2 s := fun hf => hf.ahead he hs hticks hc'
  cases h with
  | terminate | ignoreEvents =>
    refine hfrom (.inr (.inl ?_))
    exact congrArg Server.nextTimeout (Ctx.setNextTimeout_self c s .zero)
  | ping => exact hfrom (pingLoop_timer _ _)
  | waitPingRespTimeout => exact hfrom (handleWaitPingRespTimeout_timer c)
  | waitPingRespRecv =>
    refine hfrom ?_
    simp only [ServerHandler.run, handleWaitPingRespRecv_snd]
    exact handleWaitIoReceiveMsg_timer c
  | versionNegotiation => exact hfrom (handleVersionNegotiation_timer c)
  | sendAllMsgs => exact hfrom (.of_woken _)
  | waitIoReceiveMsg => exact hfrom (handleWaitIoReceiveMsg_timer c)
  | waitIoTimeout => exact handleWaitIoTimeout_ahead he hc
  | restart => exact hfrom (.of_woken _)
  | reping => exact hfrom (.of_woken _)
  | setNotWorking =>
    simp only [ServerHandler.run, handleServerSetNotWorking]
    generalize sendEventAll e s .failed c = a
    have hmono := he.mono a.io.ticks (a.io.ticks + 1) (Nat.le_succ _)
    have hdelay := he.retryDelay
    have hjump := he.jump_nonneg
    rw [ServerAhead, Ctx.tick_pcpServers, Ctx.setNextTimeout_self, Timeval.us_addSec]
    change _ ≤ (e.clock (a.io.ticks + 1)).us + _ + _
    unfold Env.now
    omega
  | notWorking => exact hfrom (handleServerNotWorking_timer c)
  | unexpected => exact hfrom (.of_woken _)

end Pass

/-! ## Runs -/

/-- No timer is too far away. -/
structure AllAhead (e : Env) (d : Nat) (jump : Int) (c : Ctx) : Prop where
  flows : FlowsAhead e d c
  servers : ∀ s, ServerAhead e d jump c s

/-- If `dg` is a response of a server, what it grants is within the bound. -/
def GrantsWithin (e : Env) (d : Nat) (c : Ctx) (dg : Datagram) : Prop :=
  ∀ s a, acceptMsg e (readMsg e c dg) = (some s, a) → a.msg.Within d

instance (e : Env) (d : Nat) (c : Ctx) (dg : Datagram) : Decidable (GrantsWithin e d c dg) :=
  decidable_of_iff ((acceptMsg e (readMsg e c dg)).1 = none ∨
    (acceptMsg e (readMsg e c dg)).2.msg.Within d) <| by
    unfold GrantsWithin
    generalize acceptMsg e (readMsg e c dg) = r
    obtain ⟨s, a⟩ := r
    cases s <;> simp

/-- A call that pulses finds nothing on the socket, or a datagram that grants no more. -/
def Op.Within (e : Env) (d : Nat) (c : Ctx) : Op → Prop
  | .pulse dg _ => ∀ x ∈ dg, GrantsWithin e d c x
  | .closeFlow f dg => ∀ x ∈ dg, GrantsWithin e d (closeChain e c f) x
  | _ => True

instance (e : Env) (d : Nat) (c : Ctx) : (op : Op) → Decidable (op.Within e d c)
  | .pulse dg _ => inferInstanceAs (Decidable (∀ x ∈ dg, GrantsWithin e d c x))
  | .closeFlow f dg => inferInstanceAs (Decidable (∀ x ∈ dg, GrantsWithin e d (closeChain e c f) x))
  | .addServer .. | .addGws .. | .newFlow .. | .learnDscp .. | .setLifetime .. | .set3rdPartyOpt ..
  | .setFilterOpt .. | .setPreferFailureOpt .. | .setUserid .. | .setLocation .. | .setDeviceid ..
  | .addMd .. | .setFlowp .. | .deleteFlow .. | .setFlowChangeCb .. => .isTrue trivial

section Runs

variable {e : Env} {d s n : Nat} {jump : Int} {c c' : Ctx}

/-- Nothing is allocated yet. -/
theorem AllAhead.empty (he : e.Within d jump) : AllAhead e d jump {} := by
  refine ⟨fun _ => Flow.zero_ahead he 0, fun _ => ?_⟩
  have hzero := he.zero_le 0
  have hjump := he.jump_nonneg
  change Timeval.zero.us ≤ (e.clock 0).us + _ + _
  omega

theorem AllAhead.later (ha : AllAhead e d jump c) (he : e.Within d jump) (hheap : c'.heap = c.heap)
    (hserv : ∀ i, (c'.pcpServers i).nextTimeout.us = (c.pcpServers i).nextTimeout.us)
    (hticks : c.io.ticks ≤ c'.io.ticks) : AllAhead e d jump c' :=
  ⟨ha.flows.later he hheap hticks, fun i => (ha.servers i).later he (hserv i) hticks⟩

theorem AllAhead.alignNext (ha : AllAhead e d jump c) (he : e.Within d jump) (s : Nat) :
    AllAhead e d jump (alignNext c s) := by
  refine ha.later he rfl (fun i => ?_) (Nat.le_refl _)
  by_cases hi : i = s
  · subst hi
    rw [alignNext_self, us_timevalAlign]
  · rw [LibPcp.alignNext, Ctx.setNextTimeout, Ctx.modServer, Ctx.setServer_pcpServers,
      Function.update_of_ne hi]

/-- A dispatch that arms the timers of flows within the bound does so for the server. -/
theorem AllAhead.dispatch (ha : AllAhead e d jump c) (he : e.Within d jump) (hw : Wf c s)
    {ev : ServerEvent} (hf : FlowsAhead e d (runServerStateMachine e c s ev)) :
    AllAhead e d jump (runServerStateMachine e c s ev) := by
  refine ⟨hf, fun i => ?_⟩
  obtain ⟨h, hh⟩ := serverHandler_total (c.pcpServers s).serverState ev
  rw [runServerStateMachine_eq hh] at hf ⊢
  have hframe := (h.run_acts e hw).frame
  by_cases hi : i = s
  · subst hi
    refine (run_ahead h he hw ha.flows hf (ha.servers i)).later he ?_ (Nat.le_refl _)
    rw [Ctx.modServer_self]
  · refine (ha.servers i).later he ?_ hframe.ticks
    rw [Ctx.modServer, Ctx.setServer_pcpServers, Function.update_of_ne hi, hframe.others i hi]

theorem accepted_receivedTime {dg : Datagram} (h : acceptMsg e (readMsg e c dg) = (some s, c')) :
    c'.msg.receivedTime = (e.now c.io).tvSec := by
  have horigin := (parseResponse_origin e.cfg (readMsg e c dg).msg).receivedTime
  have hread : (readMsg e c dg).msg.receivedTime = (e.now c.io).tvSec := rfl
  unfold acceptMsg at h
  split at h
  · split at h
    · rename_i m heq
      rw [heq] at horigin
      dsimp only at h
      split at h
      · cases h
        exact horigin.trans hread
      · cases h
    · cases h
  · cases h

theorem AllAhead.micro (ha : AllAhead e d jump c) (he : e.Within d jump) {l : MicroOp}
    (h : Micro e l c c') (hp : l.isPulse = true) (hc : CtxOk c)
    (hg : ∀ dg i, l = .recv dg i → GrantsWithin e d c dg) : AllAhead e d jump c' := by
  cases h with
  | call | close => cases hp
  | quiet => exact ha.later he rfl (fun _ => rfl) (Nat.le_refl _)
  | drop h =>
    obtain ⟨⟨m, rfl⟩, -⟩ := received_eq h
    exact ha.later he rfl (fun _ => rfl) (Nat.le_succ _)
  | @recv dg i c a h =>
    have hwithin := hg dg i rfl i a h
    have htime := accepted_receivedTime h
    have hw := (hc.received h).wf i
    obtain ⟨hacts, -, -⟩ := recv_acts h hc
    obtain ⟨⟨m, rfl⟩, -⟩ := received_eq h
    have hstart : AllAhead e d jump { c.tick with msg := m } :=
      ha.later he rfl (fun _ => rfl) (Nat.le_succ _)
    refine hstart.dispatch he hw (hacts.flowsAhead he (.inr ⟨hwithin, ?_⟩) hstart.flows)
    rw [htime]
    exact he.sec_le (Nat.le_succ _)
  | @fire i c hl hd =>
    have htick : AllAhead e d jump c.tick := ha.later he rfl (fun _ => rfl) (Nat.le_succ _)
    have hstart := htick.alignNext he i
    have hacts : Acts e i [.own] c (LibPcp.alignNext c.tick i) := fireStart_acts
    refine hstart.dispatch he (hacts.wf (hc.wf i)) ?_
    exact (fire_unanswered he.mono (hc.wf i) hl hd).flowsAhead he (.inl (by decide)) ha.flows
  | @settle i c hl hd =>
    unfold LibPcp.settle
    have htick : AllAhead e d jump c.tick := ha.later he rfl (fun _ => rfl) (Nat.le_succ _)
    split
    · exact htick
    · exact htick.alignNext he i

/-- A call keeps the bound. -/
theorem ClockOnly.flowsAhead (h : ClockOnly e c c') (he : e.Within d jump)
    (ha : FlowsAhead e d c) : FlowsAhead e d c' := by
  intro f
  have hold := (ha f).later he h.ticks
  have hzero := Flow.zero_ahead he c'.io.ticks
  constructor
  · rcases h.timeout f with ht | ht | ⟨i, hi, ht⟩
    · rw [ht]
      exact hold.timeout
    · rw [ht]
      exact he.zero_le _
    · have hmono := he.mono i _ hi
      rw [ht]
      omega
  · rcases h.lifetime f with hl | hl
    · rw [hl]
      exact hold.lifetime
    · rw [hl]
      exact hzero.lifetime

theorem ClockOnly.serverAhead (h : ClockOnly e c c') (he : e.Within d jump)
    (hs : ServerAhead e d jump c s) : ServerAhead e d jump c' s := by
  have hmono := he.mono _ _ h.ticks
  have hnow := he.clock_nonneg c'.io.ticks
  have hjump := he.jump_nonneg
  have hzero : Timeval.zero.us = 0 := rfl
  unfold ServerAhead Env.now at hs ⊢
  rcases h.server s with ht | ht | ⟨i, hi, ht⟩
  · rw [ht]
    omega
  · rw [ht]
    omega
  · have hpast := he.mono i _ hi
    rw [ht]
    omega

theorem AllAhead.clockOnly (ha : AllAhead e d jump c) (he : e.Within d jump) (h : ClockOnly e c c') :
    AllAhead e d jump c' :=
  ⟨h.flowsAhead he ha.flows, fun i => h.serverAhead he (ha.servers i)⟩

theorem closeChain_clockOnly (c : Ctx) (f : FlowId) : ClockOnly e c (closeChain e c f) :=
  .foldl (pcpCloseFlowIntern_clockOnly e) _ c

theorem AllAhead.pulse (ha : AllAhead e d jump c) (he : e.Within d jump) {dg : Option Datagram}
    {l : MicroOp} {c₁ : Ctx} (hl : l.Receives dg) (hm : Micro e l c c₁) (ht : TimerSteps e c₁ c')
    (hc : CtxOk c) (hg : ∀ x ∈ dg, GrantsWithin e d c x) : AllAhead e d jump c' := by
  have hfirst : AllAhead e d jump c₁ := by
    refine ha.micro he hm hl.isPulse hc fun x i heq => hg x ?_
    subst heq
    exact hl
  have hinv := ht.invariant (I := fun a => CtxOk a ∧ AllAhead e d jump a) (fun l a b hab hl hm => ?_)
    ⟨hm.ctxOk hl.isPulse hc, hfirst⟩
  · exact hinv.2
  · have hp := MicroOp.isPulse_of_isTimer hl
    refine ⟨hm.ctxOk hp hab.1, hab.2.micro he hm hp hab.1 fun x i heq => ?_⟩
    subst heq
    cases hl

theorem AllAhead.step (ha : AllAhead e d jump c) (he : e.Within d jump) {op : Op}
    (h : Step e c op c') (hc : CtxOk c) (hop : op.Within e d c) : AllAhead e d jump c' := by
  cases (h.cases hc).1 with
  | call hp hstep =>
    obtain ⟨-, hexec⟩ := step_exec hstep
    exact ha.clockOnly he (Op.exec_clockOnly e c hp hexec)
  | close hlive hl hm ht =>
    exact (ha.clockOnly he (closeChain_clockOnly c _)).pulse he hl hm ht
      ((closeChain_acts _).ctxOk hc) hop
  | pulse hl hm ht => exact ha.pulse he hl hm ht hc hop

/-- The bound holds in every run that keeps what is granted within it. -/
theorem Runs.ahead (he : e.Within d jump) (h : Runs e (fun c op => op.Within e d c) {} c) :
    CtxOk c ∧ AllAhead e d jump c := by
  refine h.invariant (I := fun a => CtxOk a ∧ AllAhead e d jump a) (fun op a b ha hop hs => ?_)
    ⟨.empty, .empty he⟩
  exact ⟨(Step.cases hs ha.1).2, ha.2.step he hs ha.1 hop⟩

end Runs

end LibPcp
