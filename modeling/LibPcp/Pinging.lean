import LibPcp.Granted
import LibPcp.Sleepers

/-!
# LibPcp.Pinging

When a server that is being pinged is given up.

`next_timeout` is the timer of the ping, and it is also what `init_flow` and `pcp_flow_updated` write to
wake the server; `handle_wait_ping_resp_timeout` takes the latter for an expired ping. It also does so
after the walk of another server has dealt with the ping flow. The run theorem says how long the server
is waited for, and what is counted, when neither happens.

* `runServerStateMachine_pinged`: the transmission a ping phase starts with.
* `Micro.pingTimer`, `Micro.paired`, `Micro.counted`: the timer of the phase and what is counted, over
  one step.
* `given_up_after_irt`: the timeouts in a ping phase.
-/

namespace LibPcp

open LabelledSteps

/-! ## The first transmission -/

theorem handledEvent_timer {e : Env} {c : Ctx} {f : FlowId} {m : Option RecvMsg}
    (h : (handledEvent e c f .send m).Fresh) :
    (handledEvent e c f .send m).new.timeout.us =
      (e.clock c.io.ticks).us + (e.cfg.retxIrt.toNat * 1000 : Nat) := by
  obtain ⟨hold, hnew⟩ := h
  have hold : (c.heap f).state ≠ .waitResp := hold
  have hstep : flowStep (c.flowEnv e f m) .send (c.heap f) c.io =
      sendPhase (c.flowEnv e f m) (c.heap f) c.io := by
    rw [flowStep_eq _ _ _ (by simp)]
    have hrow : nextState (c.heap f).state .send = some .send := by
      cases (c.heap f).state <;> rfl
    rw [hrow]
    exact if_neg hold
  have hflow : (handledEvent e c f .send m).new = (sendPhase (c.flowEnv e f m) (c.heap f) c.io).1 :=
    congrArg Prod.fst hstep
  rw [hflow] at hnew ⊢
  exact sendPhase_timer _ _ _ hnew

/-! ## The start of a ping phase -/

/-- The last thing that happened is that the ping flow was sent, and the server's timer is its timer. -/
def Pinged (e : Env) (s : Nat) (c : Ctx) : Prop :=
  ∃ c₀ f, c.handled = handledEvent e c₀ f .send none :: c₀.handled ∧
    (c.pcpServers s).nextTimeout = (handledEvent e c₀ f .send none).new.timeout ∧
    (c.pcpServers s).pingFlowMsg = some f ∧ c.heap f = (handledEvent e c₀ f .send none).new

section Start

variable {e : Env} {s : Nat} {c : Ctx}

theorem pinged_event {c : Ctx} {f : FlowId} (hp : (c.pcpServers s).pingFlowMsg = some f) :
    Pinged e s ((handleFlowEvent e c f .send none).setNextTimeout s
      ((handleFlowEvent e c f .send none).heap f).timeout) := by
  have hself : (handleFlowEvent e c f .send none).heap f = (handledEvent e c f .send none).new := by
    rw [handleFlowEvent_heap, Function.update_self]
    rfl
  refine ⟨c, f, handleFlowEvent_handled e c f .send none, ?_, ?_, hself⟩
  · rw [Ctx.setNextTimeout_self, hself]
  · rw [Ctx.setNextTimeout_self, handleFlowEvent_pcpServers]
    exact hp

theorem getPingMsg_ping (c : Ctx) (s : Nat) :
    ((getPingMsg c s).2.pcpServers s).pingFlowMsg = (getPingMsg c s).1 := by
  simp only [getPingMsg, Ctx.modServer_self]

theorem pingLoop_pinged (n : Nat) (h : (pingLoop e s n c).1 = .waitPingResp) :
    Pinged e s (pingLoop e s n c).2 := by
  induction n generalizing c with
  | zero => cases h
  | succ n ih =>
    have hp := getPingMsg_ping c s
    simp only [pingLoop] at h ⊢
    generalize getPingMsg c s = r at h hp ⊢
    obtain ⟨found, c₁⟩ := r
    cases found with
    | none => cases h
    | some f =>
      dsimp only at h ⊢
      split at h
      · rename_i hst
        rw [if_pos hst]
        exact pinged_event hp
      · rename_i hst
        rw [if_neg hst]
        exact ih h

theorem negotiationPing_pinged {p : FlowId} (hp : (c.pcpServers s).pingFlowMsg = some p)
    (h : (negotiationPing e c s p).1 = .waitPingResp) :
    Pinged e s (negotiationPing e c s p).2 := by
  unfold negotiationPing at h ⊢
  dsimp only at h ⊢
  split at h
  · cases h
  · rename_i hst
    rw [if_neg hst]
    exact pinged_event hp

theorem negotiationEnd_pinged {r : Option FlowId × Ctx} (hr : (r.2.pcpServers s).pingFlowMsg = r.1)
    (h : (negotiationEnd e s r).1 = .waitPingResp) : Pinged e s (negotiationEnd e s r).2 := by
  obtain ⟨p, c⟩ := r
  cases p with
  | some p => exact negotiationPing_pinged hr h
  | none =>
    have hp := getPingMsg_ping c s
    simp only [negotiationEnd] at h ⊢
    generalize getPingMsg c s = r at h hp ⊢
    obtain ⟨found, c₁⟩ := r
    cases found with
    | some p => exact negotiationPing_pinged hp h
    | none => cases h

theorem handleVersionNegotiation_pinged (h : (handleVersionNegotiation e c s).1 = .waitPingResp) :
    Pinged e s (handleVersionNegotiation e c s).2 := by
  rw [handleVersionNegotiation_eq] at h ⊢
  split at h
  · cases h
  · rename_i hn
    rw [if_neg hn]
    refine negotiationEnd_pinged ?_ h
    split
    · exact natpmpPingMsg_ping ..
    · rfl

theorem ServerHandler.run_pinged {h : ServerHandler} (hrun : (h.run e c s).1 = .waitPingResp)
    (hst : (c.pcpServers s).serverState ≠ .waitPingResp) (ht : h ≠ .waitPingRespTimeout) :
    Pinged e s (h.run e c s).2 := by
  cases h with
  | ping => exact pingLoop_pinged _ hrun
  | versionNegotiation => exact handleVersionNegotiation_pinged hrun
  | waitPingRespTimeout => exact absurd rfl ht
  | waitPingRespRecv =>
    simp only [ServerHandler.run] at hrun
    rcases handleWaitPingRespRecv_state e c s with h | h | h | h <;> (rw [h] at hrun; cases hrun)
  | waitIoReceiveMsg =>
    simp only [ServerHandler.run] at hrun
    rcases handleWaitIoReceiveMsg_state e c s with h | h | h | h <;> (rw [h] at hrun; cases hrun)
  | notWorking =>
    simp only [ServerHandler.run] at hrun
    rcases handleServerNotWorking_state e c s with h | h | h <;> (rw [h] at hrun; cases hrun)
  | waitIoTimeout =>
    simp only [ServerHandler.run, handleWaitIoTimeout_state] at hrun
    cases hrun
  | ignoreEvents => exact absurd hrun hst
  | terminate | sendAllMsgs | restart | reping | setNotWorking | unexpected => cases hrun

/-- The server enters `pss_wait_ping_resp`. -/
theorem runServerStateMachine_pinged {ev : ServerEvent}
    (hst : (c.pcpServers s).serverState ≠ .waitPingResp)
    (h : ((runServerStateMachine e c s ev).pcpServers s).serverState = .waitPingResp) :
    Pinged e s (runServerStateMachine e c s ev) := by
  obtain ⟨hd, hhd⟩ := serverHandler_total (c.pcpServers s).serverState ev
  have ht : hd ≠ .waitPingRespTimeout := by
    rintro rfl
    revert hhd hst
    cases (c.pcpServers s).serverState <;> cases ev <;> decide
  rw [runServerStateMachine_eq hhd] at h ⊢
  rw [Ctx.modServer_self] at h
  obtain ⟨c₀, f, hlog, htimer, hping, hflow⟩ := hd.run_pinged h hst ht
  refine ⟨c₀, f, hlog, ?_, ?_, hflow⟩
  · rw [Ctx.modServer_self]
    exact htimer
  · rw [Ctx.modServer_self]
    exact hping

end Start

/-! ## The phase -/

/-- The ping phase goes on: the server waits for the answer and is not registered again, and the step
does not wake it. -/
def PingStep (e : Env) (s : Nat) (c : Ctx) (l : MicroOp) : Prop :=
  (c.pcpServers s).serverState = .waitPingResp ∧ l.reregisters c ≠ some s ∧ l.wakes e c s = false

instance (e : Env) (s : Nat) (c : Ctx) (l : MicroOp) : Decidable (PingStep e s c l) :=
  inferInstanceAs (Decidable (_ ∧ _))

/-- The step is an event of a server other than `s`. -/
def MicroOp.foreign (s : Nat) : MicroOp → Bool
  | .recv _ i | .fire i => i != s
  | _ => false

/-- The step is a walk over all flows. -/
def MicroOp.walks (c : Ctx) : MicroOp → Bool
  | .recv _ i => serverHandler (c.pcpServers i).serverState .ioEvent == some .waitIoTimeout
  | .fire i => serverHandler (c.pcpServers i).serverState .timeout == some .waitIoTimeout
  | _ => false

/-- The readings of the clock when the step is over. -/
def MicroOp.readings (e : Env) (c : Ctx) : MicroOp → Nat
  | .recv dg i => (runServerStateMachine e (acceptMsg e (readMsg e c dg)).2 i .ioEvent).io.ticks
  | .fire i => (LibPcp.fire e i c).io.ticks
  | _ => c.io.ticks

/-- The walk of another server may find that the timer of the ping flow of `s` has run out. -/
def MicroOp.firesPing (e : Env) (c : Ctx) (s : Nat) (l : MicroOp) : Prop :=
  l.foreign s = true ∧ l.walks c = true ∧ ∃ p, (c.pcpServers s).pingFlowMsg = some p ∧
    ¬ e.NotDue c.io.ticks (l.readings e c) (c.heap p).timeout

/-- The phase goes on, and no other server deals with the ping flow. -/
def TimedStep (e : Env) (s : Nat) (c : Ctx) (l : MicroOp) : Prop :=
  PingStep e s c l ∧ ¬ l.firesPing e c s

/-- The server's timer is the one of its ping flow. -/
structure Paired (s : Nat) (c : Ctx) : Prop where
  live : Live c s
  timer : (c.pcpServers s).serverState = .waitPingResp → ∀ p, (c.pcpServers s).pingFlowMsg = some p →
    (c.heap p).timeout.us = (c.pcpServers s).nextTimeout.us

/-- The server is not due before the instant `t`, or `t` has passed. -/
structure PingTimer (e : Env) (s : Nat) (t : Int) (c : Ctx) : Prop where
  live : Live c s
  timer : (c.pcpServers s).serverState = .waitPingResp →
    t ≤ (c.pcpServers s).nextTimeout.us ∨ t ≤ (e.now c.io).us

section Phase

variable {e : Env} {s : Nat} {t : Int} {c c' : Ctx} {l : MicroOp}

theorem PingTimer.due (h : PingTimer e s t c) (hst : (c.pcpServers s).serverState = .waitPingResp)
    (hd : Due e c s) : t ≤ (e.now c.io).us := by
  rcases h.timer hst with h | h
  · exact le_trans h hd.2
  · exact h

/-- A received message ends the phase. -/
theorem runServerStateMachine_answered (hst : (c.pcpServers s).serverState = .waitPingResp) :
    ((runServerStateMachine e c s .ioEvent).pcpServers s).serverState ≠ .waitPingResp := by
  have hhd : serverHandler (c.pcpServers s).serverState .ioEvent = some .waitPingRespRecv := by
    rw [hst]
    rfl
  rw [runServerStateMachine_eq hhd, Ctx.modServer_self]
  rcases handleWaitPingRespRecv_state e c s with h | h | h | h <;> simp [ServerHandler.run, h]

theorem Micro.pingTimer (he : e.ClockMono) (h : Micro e l c c') (hc : CtxOk c) (hp : PingStep e s c l)
    (ht : PingTimer e s t c) : PingTimer e s t c' := by
  obtain ⟨hst, hr, hw⟩ := hp
  have hclock : (e.now c.io).us ≤ (e.now c'.io).us := he _ _ (h.ticks hc)
  cases hrun : l.runs s with
  | false =>
    obtain ⟨hsame, hl', htimer⟩ := h.server hc ht.live hrun hr
    refine ⟨hl', fun _ => ?_⟩
    rw [htimer hw]
    exact (ht.timer hst).imp_right fun h => le_trans h hclock
  | true =>
    cases h with
    | call | close | quiet | drop | settle => cases hrun
    | @recv dg i c c₁ h =>
      obtain rfl : i = s := by simpa [MicroOp.runs] using hrun
      obtain ⟨hacts, hl', -⟩ := recv_acts h hc
      obtain ⟨⟨m, rfl⟩, -⟩ := received_eq h
      exact ⟨hacts.frame.live_iff.mpr hl', fun h' => absurd h' (runServerStateMachine_answered hst)⟩
    | @fire i c hl hd =>
      obtain rfl : i = s := by simpa [MicroOp.runs] using hrun
      have hacts := fire_acts (e := e) (hc.wf i) hl.2
      exact ⟨hacts.frame.live_iff.mpr hl, fun _ => .inr (le_trans (ht.due hst hd) hclock)⟩

theorem Micro.pinged (h : Micro e l c c') (hc : CtxOk c) (hrun : l.runs s = true)
    (hst : (c.pcpServers s).serverState ≠ .waitPingResp)
    (hst' : (c'.pcpServers s).serverState = .waitPingResp) : Pinged e s c' ∧ Live c' s := by
  cases h with
  | call | close | quiet | drop | settle => cases hrun
  | @recv dg i c c₁ h =>
    obtain rfl : i = s := by simpa [MicroOp.runs] using hrun
    obtain ⟨hacts, hl', -⟩ := recv_acts h hc
    obtain ⟨⟨m, rfl⟩, -⟩ := received_eq h
    exact ⟨runServerStateMachine_pinged hst hst', hacts.frame.live_iff.mpr hl'⟩
  | @fire i c hl hd =>
    obtain rfl : i = s := by simpa [MicroOp.runs] using hrun
    have hacts := fire_acts (e := e) (hc.wf i) hl.2
    have hst₁ : ((alignNext c.tick i).pcpServers i).serverState ≠ .waitPingResp := by
      rw [alignNext_state]
      exact hst
    exact ⟨runServerStateMachine_pinged hst₁ hst', hacts.frame.live_iff.mpr hl⟩

theorem MicroOp.foreign_of_runs {i : Nat} (hi : i ≠ s) (h : l.runs i = true) : l.foreign s = true := by
  cases l with
  | call | close | quiet | drop | settle => cases h
  | recv | fire =>
    obtain rfl : _ = i := by simpa [MicroOp.runs] using h
    simpa [MicroOp.foreign] using hi

/-- A call that does not wake the server leaves its ping flow as it is. -/
theorem Op.exec_still {op : Op} {n : Nat} {p : FlowId} (hc : CtxOk c) (hpl : op.isPlain = true)
    (h : op.exec e n c = some c') (hw : op.wakes e c s = false) (hp : p < c.heapTop)
    (hps : (c.heap p).pcpServerIndx = s) : (c.heap p).Still (c'.heap p) := by
  refine (Op.exec_acts hc hpl h).still hp (fun hk => ?_) fun hk => ?_
  · have hsetter : ∀ f, op.wakes e c s = ((c.chain f).any fun g => (c.heap g).pcpServerIndx == s) →
        p ∉ c.chain f := by
      intro f hf hm
      rw [hf] at hw
      simp only [List.any_eq_false, beq_iff_eq] at hw
      exact hw p hm hps
    cases op with
    | addServer | addGws | newFlow | learnDscp => exact hk.elim
    | closeFlow | pulse => cases hpl
    | deleteFlow f =>
      obtain ⟨g, -, hg⟩ := hk
      cases hg
    | setFlowChangeCb => cases hk
    | setLifetime f | set3rdPartyOpt f | setFilterOpt f | setPreferFailureOpt f | setUserid f
    | setLocation f | setDeviceid f | addMd f | setFlowp f => exact hsetter f rfl hk
  · cases op with
    | addServer | addGws | newFlow | learnDscp => exact hk.elim
    | closeFlow | pulse => cases hpl
    | deleteFlow f =>
      obtain ⟨g, -, hg⟩ := hk
      cases hg
    | setFlowChangeCb => cases hk
    | setLifetime f | set3rdPartyOpt f | setFilterOpt f | setPreferFailureOpt f | setUserid f
    | setLocation f | setDeviceid f | addMd f | setFlowp f => exact hk.elim

/-- The ping flow of `s` over a step that is not one of `s`. -/
theorem Micro.still {p : FlowId} (h : Micro e l c c') (hc : CtxOk c) (hl : Live c s)
    (hrun : l.runs s = false) (hw : l.wakes e c s = false) (hfires : ¬ l.firesPing e c s)
    (hp : (c.pcpServers s).pingFlowMsg = some p) : (c.heap p).Still (c'.heap p) := by
  obtain ⟨htop, hown⟩ := hc.ping s p hp
  have hps : (c.heap p).pcpServerIndx = s := hown.trans (hc.index hl.2)
  cases h with
  | @call op c c' hpl h => exact Op.exec_still hc hpl (step_exec h).2 hw htop hps
  | @close f c hlive =>
    refine (closeChain_acts (e := e) f).still htop (fun ⟨_, _, hg⟩ => by cases hg) ?_
    rintro ⟨g, hm, hg⟩
    cases hg
    simp only [MicroOp.wakes, List.any_eq_false, beq_iff_eq] at hw
    exact hw p hm hps
  | quiet => exact .refl _
  | drop h =>
    obtain ⟨⟨m, rfl⟩, -⟩ := received_eq h
    exact .refl _
  | @recv dg i c c₁ h =>
    have hi : s ≠ i := fun heq => ne_of_beq_false hrun heq.symm
    have hok := hc.received h
    have hread : (acceptMsg e (readMsg e c dg)).2 = c₁ := congrArg Prod.snd h
    obtain ⟨⟨m, rfl⟩, hlive⟩ := received_eq h
    have hli := hlive i rfl
    have hne : (c.heap p).pcpServerIndx ≠ (c.pcpServers i).index := by
      rw [hps, hc.index hli.2]
      exact hi
    refine runServerStateMachine_sleeper (c := { c.tick with msg := m }) (hok.wf i) hli.2 htop hne fun hh => ?_
    by_contra hnot
    refine hfires ⟨MicroOp.foreign_of_runs (Ne.symm hi) (by simp [MicroOp.runs]), ?_, p, hp, fun hd => hnot ?_⟩
    · simpa [MicroOp.walks] using hh
    · rw [MicroOp.readings, hread] at hd
      exact hd.later (Nat.le_succ _)
  | @fire i c hli hd =>
    have hi : s ≠ i := fun heq => ne_of_beq_false hrun heq.symm
    have hstart : Acts e i [.own] c (alignNext c.tick i) := fireStart_acts
    have hst : ((alignNext c.tick i).pcpServers i).serverState = (c.pcpServers i).serverState :=
      alignNext_state
    have hne : (c.heap p).pcpServerIndx ≠ ((alignNext c.tick i).pcpServers i).index := by
      rw [hstart.frame.same.index, hps, hc.index hli.2]
      exact hi
    refine runServerStateMachine_sleeper (c := alignNext c.tick i) (hstart.wf (hc.wf i)) (hst ▸ hli.2) htop
      hne fun hh => ?_
    by_contra hnot
    refine hfires ⟨MicroOp.foreign_of_runs (Ne.symm hi) (by simp [MicroOp.runs]), ?_, p, hp, fun hd => hnot ?_⟩
    · rw [hst] at hh
      simpa [MicroOp.walks] using hh
    · exact hd.later (Nat.le_succ _)
  | @settle i c hli hd =>
    unfold LibPcp.settle
    split <;> exact .refl _

/-- Only the server itself gets a ping flow. -/
theorem Micro.pingFlowMsg {p : FlowId} (h : Micro e l c c') (hc : CtxOk c) (hrun : l.runs s = false)
    (hp : (c'.pcpServers s).pingFlowMsg = some p) : (c.pcpServers s).pingFlowMsg = some p := by
  have hother : ∀ {i : Nat} {a b : Ctx}, s ≠ i → Frame i a b → a.pcpServers = c.pcpServers →
      (b.pcpServers s).pingFlowMsg = some p → (c.pcpServers s).pingFlowMsg = some p := by
    intro i a b hi hf ha hb
    rwa [hf.others s hi, ha] at hb
  cases h with
  | @call op c c' hpl h => exact (Op.exec_acts hc hpl (step_exec h).2).pingFlowMsg hp
  | @close f c hlive => exact (closeChain_acts (e := e) f).pingFlowMsg hp
  | quiet => exact hp
  | drop h =>
    obtain ⟨⟨m, rfl⟩, -⟩ := received_eq h
    exact hp
  | @recv dg i c c₁ h =>
    have hi : s ≠ i := fun heq => ne_of_beq_false hrun heq.symm
    have hok := hc.received h
    obtain ⟨⟨m, rfl⟩, hlive⟩ := received_eq h
    exact hother hi (runServerStateMachine_allKinds .ioEvent (hok.wf i) (hlive i rfl).2).frame rfl hp
  | @fire i c hli hd =>
    have hi : s ≠ i := fun heq => ne_of_beq_false hrun heq.symm
    exact hother hi (fire_acts (e := e) (hc.wf i) hli.2).frame rfl hp
  | @settle i c hli hd =>
    unfold LibPcp.settle at hp
    split at hp
    · exact hp
    · by_cases hi : s = i
      · subst hi
        rw [alignNext_self] at hp
        exact hp
      · have hsame : (alignNext c.tick i).pcpServers s = c.pcpServers s := Function.update_of_ne hi ..
        rwa [hsame] at hp

/-- A timeout in the phase sends the ping again and takes over its timer. -/
theorem handleWaitPingRespTimeout_paired {p : FlowId}
    (hst : (handleWaitPingRespTimeout e c s).1 = .waitPingResp)
    (hp : ((handleWaitPingRespTimeout e c s).2.pcpServers s).pingFlowMsg = some p) :
    ((handleWaitPingRespTimeout e c s).2.heap p).timeout =
      ((handleWaitPingRespTimeout e c s).2.pcpServers s).nextTimeout := by
  unfold handleWaitPingRespTimeout at hst hp ⊢
  dsimp only at hst hp ⊢
  split at hst
  · cases hst
  · rename_i hcount
    rw [if_neg hcount] at hp ⊢
    split at hst
    · cases hst
    · rename_i q hq
      split at hst
      · cases hst
      · rename_i hfailed
        simp only [hq, if_neg hfailed, Ctx.setNextTimeout_self, handleFlowEvent_pcpServers] at hp ⊢
        cases hp
        rfl

/-- No answer makes a flow count a retransmission. -/
theorem flowStep_answer_retryCount (x : FlowEnv) (f : Flow) (io : Io) (code : UInt32) :
    (flowStep x (.res code) f io).1.retryCount = f.retryCount := by
  by_cases hst : f.state = .waitResp
  · rw [flowStep_eq x f io (by simp), hst]
    cases hn : nextState .waitResp (.res code) with
    | none => rfl
    | some next =>
      have htable : ∀ r ∈ flowEventsSm, (r.1 = some .waitResp ∨ r.1 = none) → r.2.1.isRes = true →
          r.2.2 ≠ .send ∧ r.2.2 ≠ .sendRenew ∧ r.2.2 ≠ .waitResp := by
        decide
      obtain ⟨r, hr, hcur, heq⟩ := nextState_row hn
      obtain ⟨hsend, hrenew, hwait⟩ := htable r hr hcur (by rw [heq]; rfl)
      rw [heq] at hsend hrenew hwait
      cases next with
      | send => exact absurd rfl hsend
      | sendRenew => exact absurd rfl hrenew
      | waitResp => exact absurd rfl hwait
      | idle => rfl
      | failed => exact (failPhase_spec x f io).1
      | waitForServerInit =>
        simp only [flowPhase, fhndlClearTimeouts]
        cases x.msg <;> rfl
      | waitAfterShortLifeError =>
        simp only [flowPhase, fhndlShortlifeerror]
        cases x.msg <;> rfl
      | waitForLifetimeRenew =>
        simp only [flowPhase, true_or, if_true, fhndlReceivedSuccess]
        cases x.msg with
        | none => rfl
        | some m => exact takeSuccess_retryCount { f with state := .waitForLifetimeRenew } x.env.cfg m
  · exact flowStep_retryCount x f io (by simp) hst

theorem serverProcessRcvdPcpMsg_uncounted (e : Env) (c : Ctx) (s : Nat) (p : FlowId) :
    ((serverProcessRcvdPcpMsg e c s).2.pcpServers s).pingCount = (c.pcpServers s).pingCount ∧
      ((serverProcessRcvdPcpMsg e c s).2.heap p).retryCount = (c.heap p).retryCount := by
  obtain ⟨ip, na, hmatch⟩ := matchRcvdMsg_eq c s
  have hheap : (matchRcvdMsg c s).2.heap = c.heap := by
    rw [hmatch]
    rfl
  have hping : ((matchRcvdMsg c s).2.pcpServers s).pingCount = (c.pcpServers s).pingCount := by
    rw [hmatch]
    simp
  unfold serverProcessRcvdPcpMsg
  rcases hm : matchRcvdMsg c s with ⟨found, c₁⟩
  rw [hm] at hheap hping
  dsimp only at hheap hping
  cases found with
  | none => exact ⟨hping, congrArg Flow.retryCount (congrFun hheap p)⟩
  | some f =>
    dsimp only
    refine ⟨by rw [handleFlowEvent_pcpServers]; exact hping, ?_⟩
    rw [handleFlowEvent_heap]
    by_cases hp : p = f
    · subst hp
      rw [Function.update_self, flowStep_answer_retryCount, hheap]
    · rw [Function.update_of_ne hp, hheap]

/-- An answer is counted neither for the server nor for a flow. -/
theorem runServerStateMachine_uncounted {p : FlowId} (hst : (c.pcpServers s).serverState = .waitPingResp) :
    ((runServerStateMachine e c s .ioEvent).pcpServers s).pingCount = (c.pcpServers s).pingCount ∧
      ((runServerStateMachine e c s .ioEvent).heap p).retryCount = (c.heap p).retryCount := by
  have hhd : serverHandler (c.pcpServers s).serverState .ioEvent = some .waitPingRespRecv := by
    rw [hst]
    rfl
  have hrecv : ((handleWaitIoReceiveMsg e c s).2.pcpServers s).pingCount = (c.pcpServers s).pingCount ∧
      ((handleWaitIoReceiveMsg e c s).2.heap p).retryCount = (c.heap p).retryCount := by
    have hproc := serverProcessRcvdPcpMsg_uncounted e c s p
    have hcmp : ∀ m v, (compareEpochs m v).2.pingCount = v.pingCount := by
      intro m v
      unfold compareEpochs
      dsimp only
      split <;> rfl
    unfold handleWaitIoReceiveMsg
    split
    · exact ⟨by simp only [Ctx.modServer_self, Env.wakeNow_self], rfl⟩
    · split
      · exact ⟨by simp only [Env.wakeNow_self], rfl⟩
      · rcases hr : serverProcessRcvdPcpMsg e c s with ⟨f, c₁⟩
        rw [hr] at hproc
        obtain ⟨hping, hretry⟩ := hproc
        dsimp only at hping hretry ⊢
        split
        · refine ⟨?_, hretry⟩
          simp only [Ctx.modServer_self, Env.wakeNow_self, Ctx.setServer_pcpServers, Function.update_self, hcmp]
          exact hping
        · refine ⟨?_, hretry⟩
          simp only [Env.wakeNow_self, Ctx.setServer_pcpServers, Function.update_self, hcmp]
          exact hping
  rw [runServerStateMachine_eq hhd, Ctx.modServer_self]
  simp only [ServerHandler.run, handleWaitPingRespRecv_snd]
  exact hrecv

theorem Micro.paired (h : Micro e l c c') (hc : CtxOk c) (hp : TimedStep e s c l) (ht : Paired s c) :
    Paired s c' := by
  obtain ⟨⟨hst, hr, hw⟩, hfires⟩ := hp
  cases hrun : l.runs s with
  | false =>
    obtain ⟨hsame, hl', htimer⟩ := h.server hc ht.live hrun hr
    refine ⟨hl', fun hst' q hq => ?_⟩
    have hpm := h.pingFlowMsg hc hrun hq
    rw [(h.still hc ht.live hrun hw hfires hpm).timeout, ht.timer hst q hpm, htimer hw]
  | true =>
    cases h with
    | call | close | quiet | drop | settle => cases hrun
    | @recv dg i c c₁ h =>
      obtain rfl : i = s := by simpa [MicroOp.runs] using hrun
      obtain ⟨hacts, hl', -⟩ := recv_acts h hc
      obtain ⟨⟨m, rfl⟩, -⟩ := received_eq h
      exact ⟨hacts.frame.live_iff.mpr hl', fun h' => absurd h' (runServerStateMachine_answered hst)⟩
    | @fire i c hl hd =>
      obtain rfl : i = s := by simpa [MicroOp.runs] using hrun
      have hacts := fire_acts (e := e) (hc.wf i) hl.2
      refine ⟨hacts.frame.live_iff.mpr hl, fun hst' q hq => ?_⟩
      have hh : serverHandler ((alignNext c.tick i).pcpServers i).serverState .timeout =
          some .waitPingRespTimeout := by
        rw [alignNext_state]
        rw [Ctx.tick_pcpServers, hst]
        rfl
      unfold LibPcp.fire at hst' hq ⊢
      rw [runServerStateMachine_eq hh] at hst' hq ⊢
      rw [Ctx.modServer_self] at hst' hq ⊢
      exact congrArg Timeval.us (handleWaitPingRespTimeout_paired hst' hq)

/-- The first transmission of a phase sets the timer. -/
theorem Micro.pingStart {h : Handled} (hm : Micro e l c c') (hc : CtxOk c) (hrun : l.runs s = true)
    (hst : (c.pcpServers s).serverState ≠ .waitPingResp)
    (hst' : (c'.pcpServers s).serverState = .waitPingResp) (hfirst : c'.handled.head? = some h)
    (hfresh : h.Fresh) :
    PingTimer e s ((e.clock h.before.ticks).us + (e.cfg.retxIrt.toNat * 1000 : Nat)) c' ∧
      Paired s c' := by
  obtain ⟨⟨c₀, f, hlog, htimer, hping, hflow⟩, hl⟩ := hm.pinged hc hrun hst hst'
  rw [hlog] at hfirst
  cases hfirst
  refine ⟨⟨hl, fun _ => .inl ?_⟩, hl, fun _ p hp => ?_⟩
  · rw [htimer, handledEvent_timer hfresh]
    exact le_refl _
  · rw [hping] at hp
    cases hp
    rw [hflow, htimer]

/-- What the phase counts, it counts when the timer of the ping flow has run out. -/
theorem Micro.counted {p : FlowId} (h : Micro e l c c') (hc : CtxOk c) (hp : TimedStep e s c l)
    (ht : Paired s c) (hpm : (c.pcpServers s).pingFlowMsg = some p)
    (hcount : (c.pcpServers s).pingCount < (c'.pcpServers s).pingCount ∨
      (c.heap p).retryCount < (c'.heap p).retryCount) :
    (c.heap p).timeout.us ≤ (e.now c.io).us := by
  obtain ⟨⟨hst, hr, hw⟩, hfires⟩ := hp
  cases hrun : l.runs s with
  | false =>
    obtain ⟨hsame, -, -⟩ := h.server hc ht.live hrun hr
    have hping : (c'.pcpServers s).pingCount = (c.pcpServers s).pingCount := by rw [hsame]
    rw [hping, (h.still hc ht.live hrun hw hfires hpm).retryCount] at hcount
    exact absurd hcount (not_or.mpr ⟨UInt32.lt_irrefl _, UInt32.lt_irrefl _⟩)
  | true =>
    cases h with
    | call | close | quiet | drop | settle => cases hrun
    | @recv dg i c c₁ h =>
      obtain rfl : i = s := by simpa [MicroOp.runs] using hrun
      obtain ⟨⟨m, rfl⟩, -⟩ := received_eq h
      obtain ⟨hping, hretry⟩ := runServerStateMachine_uncounted (e := e)
        (c := { c.tick with msg := m }) (p := p) hst
      rw [hping, hretry] at hcount
      exact absurd hcount (not_or.mpr ⟨UInt32.lt_irrefl _, UInt32.lt_irrefl _⟩)
    | @fire i c hl hd =>
      obtain rfl : i = s := by simpa [MicroOp.runs] using hrun
      exact (ht.timer hst p hpm).le.trans hd.2

end Phase

/-- A server that entered `pss_wait_ping_resp` with the first transmission `h` of its ping flow has no
timeout before `PCP_RETX_IRT` has passed, and so is not given up before, as long as no call wakes it. When
besides no other server deals with the ping flow, `ping_count` and the flow's `retry_count` go up only
when the timer of the flow has run out. -/
theorem given_up_after_irt {e : Env} (he : e.ClockMono) {s : Nat} {l : MicroOp} {c₀ c₁ : Ctx}
    {h : Handled} (h₀ : MicroReachable e c₀) (hstart : Micro e l c₀ c₁) (hrun : l.runs s = true)
    (hst₀ : (c₀.pcpServers s).serverState ≠ .waitPingResp)
    (hst₁ : (c₁.pcpServers s).serverState = .waitPingResp) (hfirst : c₁.handled.head? = some h)
    (hfresh : h.Fresh) :
    (∀ c₂ c₃, Micros e (PingStep e s) c₁ c₂ → (c₂.pcpServers s).serverState = .waitPingResp →
      Micro e (.fire s) c₂ c₃ →
        (e.clock h.before.ticks).us + (e.cfg.retxIrt.toNat * 1000 : Nat) ≤ (e.now c₂.io).us) ∧
    (∀ c₂ c₃ k p, Micros e (TimedStep e s) c₁ c₂ → TimedStep e s c₂ k → Micro e k c₂ c₃ →
      (c₂.pcpServers s).pingFlowMsg = some p →
      ((c₂.pcpServers s).pingCount < (c₃.pcpServers s).pingCount ∨
        (c₂.heap p).retryCount < (c₃.heap p).retryCount) →
        (c₂.heap p).timeout.us ≤ (e.now c₂.io).us) := by
  have hok₁ := hstart.keepsOk h₀.ctxOk
  obtain ⟨htimer, hpaired⟩ := hstart.pingStart h₀.ctxOk hrun hst₀ hst₁ hfirst hfresh
  refine ⟨fun c₂ c₃ hphase hst₂ hfire => ?_, fun c₂ c₃ k p hphase hk hmicro hp hcount => ?_⟩
  · have hinv : CtxOk c₂ ∧
        PingTimer e s ((e.clock h.before.ticks).us + (e.cfg.retxIrt.toNat * 1000 : Nat)) c₂ :=
      hphase.invariant
        (I := fun c => CtxOk c ∧
          PingTimer e s ((e.clock h.before.ticks).us + (e.cfg.retxIrt.toNat * 1000 : Nat)) c)
        (fun _ _ _ hi hp hm => ⟨hm.keepsOk hi.1, hm.pingTimer he hi.1 hp hi.2⟩) ⟨hok₁, htimer⟩
    cases hfire with
    | fire hl hd => exact hinv.2.due hst₂ hd
  · have hinv : CtxOk c₂ ∧ Paired s c₂ := hphase.invariant (I := fun c => CtxOk c ∧ Paired s c)
      (fun _ _ _ hi hp hm => ⟨hm.keepsOk hi.1, hm.paired hi.1 hp hi.2⟩) ⟨hok₁, hpaired⟩
    exact hmicro.counted hinv.1 hk hinv.2 hp hcount

/-! ## A server that does not answer, and one that is not waited for -/

/-- The ping is sent in the fourth step. -/
def pingStarted : Ctx :=
  (microsTo (patientEnv 5 9 13) (fun _ _ => True) {}
    [.call (.addServer (.inet 0x0A000001 0) 2), .call (.newFlow (.inet 0x0A000002 80) none none 6 60),
      .quiet]).getD {}

def pingWaiting : Ctx := fire (patientEnv 5 9 13) 0 pingStarted

/-- Two timeouts later. -/
def pingRepeated : Ctx :=
  (microsTo (patientEnv 5 9 13)
    (fun c l => PingStep (patientEnv 5 9 13) 0 c l ∧ l.foreign 0 = false) pingWaiting
    [.settle 0, .quiet, .fire 0, .settle 0, .quiet, .fire 0, .settle 0, .quiet]).getD {}

theorem pinging_states :
    (pingStarted.pcpServers 0).serverState = .ping ∧
      (pingWaiting.pcpServers 0).serverState = .waitPingResp ∧
      (pingRepeated.pcpServers 0).serverState = .waitPingResp ∧
      ((fire (patientEnv 5 9 13) 0 pingRepeated).pcpServers 0).serverState = .setNotWorking := by
  decide +kernel

theorem pingWaiting_first :
    (pingWaiting.handled.head?.map fun h => (h.old.state, h.new.state, h.before.ticks)) =
      some (.waitForServerInit, .waitResp, 2) := by
  decide +kernel

theorem patientEnv_mono (i j k : Nat) : (patientEnv i j k).ClockMono := by
  intro m n hmn
  simp only [patientEnv, Timeval.us]
  repeat' split
  all_goals first | decide | omega

theorem given_up_after_irt_unanswered :
    ∃ h c₃, pingWaiting.handled.head? = some h ∧ h.Fresh ∧
      Micro (patientEnv 5 9 13) (.fire 0) pingRepeated c₃ ∧
      (c₃.pcpServers 0).serverState = .setNotWorking ∧
      ((patientEnv 5 9 13).clock h.before.ticks).us + 3000000 ≤
        ((patientEnv 5 9 13).now pingRepeated.io).us ∧
      (pingRepeated.pcpServers 0).pingCount < (c₃.pcpServers 0).pingCount ∧
      (pingRepeated.heap 0).timeout.us ≤ ((patientEnv 5 9 13).now pingRepeated.io).us := by
  obtain ⟨hst₀, hst₁, hst₂, hst₃⟩ := pinging_states
  obtain ⟨h, hfirst, hval⟩ := Option.map_eq_some_iff.mp pingWaiting_first
  simp only [Prod.mk.injEq] at hval
  obtain ⟨hold, hnew, -⟩ := hval
  have hfresh : h.Fresh := by
    refine ⟨?_, hnew⟩
    rw [hold]
    decide
  have hreach : MicroReachable (patientEnv 5 9 13) pingStarted := Micros.of_microsTo (by decide +kernel)
  have hstart : Micro (patientEnv 5 9 13) (.fire 0) pingStarted pingWaiting :=
    .fire (by decide +kernel) (by decide +kernel)
  have hown : ∀ c l, PingStep (patientEnv 5 9 13) 0 c l ∧ l.foreign 0 = false →
      TimedStep (patientEnv 5 9 13) 0 c l := by
    intro c l hl
    refine ⟨hl.1, fun ⟨hforeign, _⟩ => ?_⟩
    rw [hl.2] at hforeign
    cases hforeign
  have hphase : Micros (patientEnv 5 9 13)
      (fun c l => PingStep (patientEnv 5 9 13) 0 c l ∧ l.foreign 0 = false) pingWaiting pingRepeated :=
    Micros.of_microsTo (by decide +kernel)
  have hfire : Micro (patientEnv 5 9 13) (.fire 0) pingRepeated (fire (patientEnv 5 9 13) 0 pingRepeated) :=
    .fire (by decide +kernel) (by decide +kernel)
  have hne : (pingStarted.pcpServers 0).serverState ≠ .waitPingResp := by
    rw [hst₀]
    decide
  have hcount : (pingRepeated.pcpServers 0).pingCount <
      ((fire (patientEnv 5 9 13) 0 pingRepeated).pcpServers 0).pingCount := by decide +kernel
  have hping : (pingRepeated.pcpServers 0).pingFlowMsg = some 0 := by decide +kernel
  obtain ⟨hafter, hcounted⟩ := given_up_after_irt (patientEnv_mono 5 9 13) hreach hstart rfl hne hst₁
    hfirst hfresh
  exact ⟨h, _, hfirst, hfresh, hfire, hst₃, hafter _ _ (hphase.mono fun _ _ hl => hl.1) hst₂ hfire, hcount,
    hcounted _ _ _ 0 (hphase.mono hown) (hown _ _ ⟨⟨hst₂, by decide +kernel, by decide +kernel⟩, rfl⟩) hfire
      hping (.inl hcount)⟩

/-- A flow is added three times after the ping has been sent, each time followed by a pulse but for the
last; the clock stands still. -/
def pingHurried : Ctx :=
  runTo (.calm {}) (fun _ _ => True) 12 {}
    (waitingFlow ++ [.newFlow (.inet 0x0A000002 81) none none 6 60, .pulse none .zero,
      .newFlow (.inet 0x0A000002 82) none none 6 60, .pulse none .zero,
      .newFlow (.inet 0x0A000002 83) none none 6 60])

/-- The next pulse gives the server up. -/
theorem given_up_at_once :
    Reachable (.calm {}) pingHurried ∧
      ∃ c₂ c₃, Micro (.calm {}) .quiet pingHurried c₂ ∧ Micro (.calm {}) (.fire 0) c₂ c₃ ∧
        (c₂.pcpServers 0).serverState = .waitPingResp ∧
        (c₃.pcpServers 0).serverState = .setNotWorking ∧ c₃.io.sendErrs = 0 ∧
        (Env.calm {}).cfg.retxIrt = 3000 ∧ ∀ i j, (Env.calm {}).clock i = (Env.calm {}).clock j := by
  refine ⟨Runs.runTo (by decide +kernel), { pingHurried with msg := .zero },
    fire (.calm {}) 0 { pingHurried with msg := .zero }, .quiet _, .fire ?_ ?_, ?_, ?_, ?_, rfl,
    fun _ _ => rfl⟩
  all_goals decide +kernel

end LibPcp
