import LibPcp.Deadlines

/-!
# LibPcp.Spoofed

Responses that answer no request.

A response without the nonce of a flow is not matched to a flow, but the server's state machine acts on
its result code and its epoch first: it may give the server up, negotiate the version or send every
request of the server again, and each of these can cost flows their mappings.

* `Server.heard`: the record of the server when it has processed such a response.
* `Spares`: when what follows in that state fails no flow.
* `unmatched_response_spares`: no pulse that finds such a response fails a flow then.
* `unmatched_response_kills`: an `ADDRESS_MISMATCH` response with a foreign nonce fails the flows of
  the server.
-/

namespace LibPcp

open ByteBuffer LabelledSteps

/-! ## A pulse in which nothing is due -/

/-- No timer runs out while the pulse lasts, neither one that was set before nor one that it arms. -/
structure NothingDue (e : Env) (c c' : Ctx) : Prop where
  server : ∀ i, Live c i → e.NotDue c.io.ticks c'.io.ticks (c.pcpServers i).nextTimeout
  flow : ∀ f, (f ∈ c.allFlows ∨ ∃ i, (c.pcpServers i).pingFlowMsg = some f) →
    e.NotDue c.io.ticks c'.io.ticks (c.heap f).timeout
  first : e.Shorter c.io.ticks c'.io.ticks e.cfg.retxIrt.toNat
  again : ∀ rt k, (rt = 0 ∨ ∃ f ∈ c.allFlows, rt = (c.heap f).resendTimeout) →
    e.Shorter c.io.ticks c'.io.ticks (pcpRt e.cfg rt (e.rand k)).toNat
  retry : e.Shorter c.io.ticks c'.io.ticks (e.cfg.serverDiscoveryRetryDelay * 1000)

/-- What `handle_wait_io_receive_msg` leaves of the record, when no flow is found for the message. -/
def Server.answered (m : RecvMsg) (st : ServerState) (v : Server) : Server :=
  if m.recvResult = resUnsuppVersion then
    { v with serverState := .versionNegotiation, nextVersion := m.recvVersion.toUInt8 }
  else if m.recvResult = resAddressMismatch then { v with serverState := .setNotWorking }
  else { v with serverState := if (compareEpochs m v).1 then .serverRestart else st }

/-- The record of the server when it has processed the message, as far as it decides what is next. A server
that is not waiting for a message does what it would have done anyway. -/
def Server.heard (m : RecvMsg) (v : Server) : Server :=
  match v.serverState with
  | .waitIo => v.answered m .waitIoCalcNearestTimeout
  | .waitPingResp => v.answered m .sendAllMsgs
  | .notWorking =>
    if m.recvResult = resUnsuppVersion ∨ m.recvResult = resAddressMismatch then v
    else { v with serverState := .serverRestart }
  | _ => v

/-- The record with the version that is negotiated next. -/
def Server.lowered (v : Server) : Server :=
  { v with nextVersion := if v.nextVersion = v.pcpVersion then v.nextVersion - 1 else v.nextVersion }

/-- The flows of server `s` are failed already, or have a mapping: when the server is given up, those ask
for it again. -/
def GivenUp (c : Ctx) (s : Nat) : Prop :=
  ∀ f ∈ c.allFlows, (c.heap f).pcpServerIndx = s →
    (c.heap f).state ∈ [.failed, .waitForLifetimeRenew, .sendRenew]

/-- What server `s` with record `v` does next fails no flow of `c`: requests that wait for an answer are
not sent again when their budget is used up, and the server is only given up when that costs nothing. -/
def Spares (cfg : Config) (c : Ctx) (s : Nat) (v : Server) : Prop :=
  match v.serverState with
  | .serverRestart | .sendAllMsgs =>
    ∀ f ∈ c.allFlows, (c.heap f).pcpServerIndx = s → (c.heap f).state = .waitResp →
      ¬ RetriesUsed cfg (c.heap f)
  | .setNotWorking => GivenUp c s
  | .versionNegotiation =>
    (NoVersionLeft cfg v.lowered → GivenUp c s) ∧
      (¬ NoVersionLeft cfg v.lowered → v.lowered.nextVersion ≠ 0 → ∀ p, v.pingFlowMsg = some p →
        (c.heap p).state = .waitResp → ¬ RetriesUsed cfg ((c.heap p).resetCount 0))
  | _ => True

/-- An event that does not fail the flow: it does nothing, or sends a request within the budget. -/
structure Flow.Fit (cfg : Config) (ev : FlowEvent) (v : Flow) : Prop where
  next : nextState v.state ev = none ∨ nextState v.state ev = some .send ∨
    (nextState v.state ev = some .failed ∧ v.state = .failed)
  budget : v.state = .waitResp → nextState v.state ev = some .send → ¬ RetriesUsed cfg v

theorem flowStep_quiet {x : FlowEnv} {v : Flow} {io : Io} {n : Nat} {ev : FlowEvent} {s : Server}
    (hev : ev ≠ .msgSent) (hs : x.server = some s) (hfit : v.Fit x.env.cfg ev)
    (hirt : x.env.Shorter io.ticks n x.env.cfg.retxIrt.toNat)
    (hrt : v.state = .waitResp →
      ∀ k, x.env.Shorter io.ticks n (pcpRt x.env.cfg v.resendTimeout (x.env.rand k)).toNat)
    (herr : (flowStep x ev v io).2.sendErrs = io.sendErrs) (hn : (flowStep x ev v io).2.ticks ≤ n)
    (ht : x.env.NotDue io.ticks n v.timeout) :
    ((flowStep x ev v io).1.state = .failed → v.state = .failed ∧ nextState v.state ev ≠ some .send) ∧
      x.env.NotDue (flowStep x ev v io).2.ticks n (flowStep x ev v io).1.timeout := by
  rw [flowStep_eq x v io hev] at herr hn ⊢
  rcases hfit.next with hnext | hnext | ⟨hnext, hfailed⟩
  · rw [hnext]
    exact ⟨fun h => ⟨h, by simp⟩, ht⟩
  · rw [hnext] at herr hn ⊢
    simp only [flowPhase] at herr hn ⊢
    by_cases hw : v.state = .waitResp
    · rw [if_pos hw] at herr hn ⊢
      obtain ⟨hst, hdue⟩ := resendPhase_quiet x v io hs (hfit.budget hw hnext) (hrt hw) herr hn
      exact ⟨fun h => absurd h hst, hdue⟩
    · rw [if_neg hw] at herr hn ⊢
      obtain ⟨hst, hdue⟩ := sendPhase_quiet x v io hs hirt herr hn ht
      exact ⟨fun h => absurd h hst, hdue⟩
  · rw [hnext]
    refine ⟨fun _ => ⟨hfailed, by simp⟩, .inl ?_⟩
    simp only [flowPhase, failPhase, fhndlClearTimeouts]
    rfl

/-- Where a pulse from `c` with events of server `s` has got to: no flow has failed, and neither the timer
of a flow nor that of another server runs out before reading `n` of the clock. -/
structure Unharmed (e : Env) (c : Ctx) (s n : Nat) (a : Ctx) : Prop where
  ticks : c.io.ticks ≤ a.io.ticks
  errs : c.io.sendErrs ≤ a.io.sendErrs
  table : ∀ f ∈ a.allFlows, (a.heap f).state = .failed → f ∈ c.allFlows ∧ (c.heap f).state = .failed
  timer : ∀ f ∈ a.allFlows, e.NotDue a.io.ticks n (a.heap f).timeout
  others : ∀ i, i ≠ s → Live a i → e.NotDue a.io.ticks n (a.pcpServers i).nextTimeout

section Unharmed

variable {e : Env} {c c' a b : Ctx} {s : Nat}

theorem Unharmed.keep {n : Nat} (hu : Unharmed e c s n a) (hflows : b.flows = a.flows)
    (hlen : b.pcpServersLength = a.pcpServersLength)
    (hticks : a.io.ticks ≤ b.io.ticks) (herrs : a.io.sendErrs ≤ b.io.sendErrs)
    (hflow : ∀ f ∈ a.allFlows, (b.heap f).state = .failed → (a.heap f).state = .failed)
    (htimer : ∀ f ∈ a.allFlows, e.NotDue a.io.ticks n (a.heap f).timeout →
      e.NotDue b.io.ticks n (b.heap f).timeout)
    (hserver : ∀ i, i ≠ s → b.pcpServers i = a.pcpServers i) : Unharmed e c s n b := by
  have hall : b.allFlows = a.allFlows := by rw [Ctx.allFlows, hflows, Ctx.allFlows]
  refine ⟨Nat.le_trans hu.ticks hticks, Nat.le_trans hu.errs herrs, fun f hf hst => ?_,
    fun f hf => ?_, fun i hi hl => ?_⟩
  · rw [hall] at hf
    exact hu.table f hf (hflow f hf hst)
  · rw [hall] at hf
    exact htimer f hf (hu.timer f hf)
  · rw [Live, hlen, hserver i hi] at hl
    rw [hserver i hi]
    exact (hu.others i hi hl).later hticks

/-- Nothing happens to the flows. -/
theorem Unharmed.keepFlows {n : Nat} (hu : Unharmed e c s n a) (hflows : b.flows = a.flows)
    (hheap : b.heap = a.heap) (hlen : b.pcpServersLength = a.pcpServersLength)
    (hticks : a.io.ticks ≤ b.io.ticks) (herrs : a.io.sendErrs ≤ b.io.sendErrs)
    (hserver : ∀ i, i ≠ s → b.pcpServers i = a.pcpServers i) : Unharmed e c s n b := by
  refine hu.keep hflows hlen hticks herrs (fun f _ hst => ?_) (fun f _ ht => ?_) hserver
  · rw [hheap] at hst
    exact hst
  · rw [hheap]
    exact ht.later hticks

theorem Unharmed.tick {n : Nat} (hu : Unharmed e c s n a) : Unharmed e c s n a.tick :=
  hu.keepFlows rfl rfl rfl (Nat.le_succ _) (Nat.le_refl _) fun _ _ => rfl

theorem Unharmed.setServer {n : Nat} (hu : Unharmed e c s n a) (v : Server) :
    Unharmed e c s n (a.setServer s v) :=
  hu.keepFlows rfl rfl rfl (Nat.le_refl _) (Nat.le_refl _) fun _ hi => Function.update_of_ne hi ..

theorem Unharmed.setNextTimeout {n : Nat} (hu : Unharmed e c s n a) (t : Timeval) :
    Unharmed e c s n (a.setNextTimeout s t) :=
  hu.setServer _

theorem Unharmed.wakeNow {n : Nat} (hu : Unharmed e c s n a) : Unharmed e c s n (e.wakeNow a s) :=
  (hu.setNextTimeout _).tick

/-- The flow `f` is changed outside of its state and timer. -/
theorem Unharmed.setFlow {n : Nat} (hu : Unharmed e c s n a) {f : FlowId} {v : Flow}
    (hst : v.state = .failed → (a.heap f).state = .failed)
    (ht : e.NotDue a.io.ticks n (a.heap f).timeout → e.NotDue a.io.ticks n v.timeout) :
    Unharmed e c s n (a.setFlow f v) := by
  refine hu.keep rfl rfl (Nat.le_refl _) (Nat.le_refl _) (fun g _ hg => ?_) (fun g _ hg => ?_)
    fun _ _ => rfl
  · by_cases hgf : g = f
    · subst hgf
      rw [Ctx.setFlow_heap, Function.update_self] at hg
      exact hst hg
    · rw [Ctx.setFlow_heap, Function.update_of_ne hgf] at hg
      exact hg
  · by_cases hgf : g = f
    · subst hgf
      rw [Ctx.setFlow_heap, Function.update_self]
      exact ht hg
    · rw [Ctx.setFlow_heap, Function.update_of_ne hgf]
      exact hg

theorem Unharmed.alignTimer {n : Nat} (hu : Unharmed e c s n a) (f : FlowId) :
    Unharmed e c s n (a.modFlow f alignTimer) :=
  hu.setFlow id fun h => h.align

/-! ### Events -/

/-- The pulse from `c` to `c'` is quiet, and has not been over in `a`. -/
structure InPulse (e : Env) (c c' : Ctx) (a : Ctx) : Prop where
  ticks : a.io.ticks ≤ c'.io.ticks
  errs : a.io.sendErrs ≤ c.io.sendErrs

theorem InPulse.before (hw : InPulse e c c' b) (hticks : a.io.ticks ≤ b.io.ticks)
    (herrs : a.io.sendErrs ≤ b.io.sendErrs) : InPulse e c c' a :=
  ⟨Nat.le_trans hticks hw.ticks, Nat.le_trans herrs hw.errs⟩

theorem Acts.inPulse {i : Nat} {K : List ActKind} (h : Acts e i K a b) (hw : InPulse e c c' b) :
    InPulse e c c' a :=
  hw.before h.frame.ticks h.sendErrs

/-- The delay of a retransmission is one the pulse was promised to be shorter than. -/
def KnownDelay (c : Ctx) (v : Flow) : Prop :=
  v.resendTimeout = 0 ∨ ∃ f ∈ c.allFlows, v.resendTimeout = (c.heap f).resendTimeout

theorem Unharmed.event (hd : NothingDue e c c') (hu : Unharmed e c s c'.io.ticks a) {f : FlowId}
    {ev : FlowEvent} (hev : ev ≠ .msgSent) {v : Server}
    (hserver : serverOf a (a.heap f).pcpServerIndx = some v) (hfit : (a.heap f).Fit e.cfg ev)
    (hrt : (a.heap f).state = .waitResp → KnownDelay c (a.heap f))
    (ht : e.NotDue a.io.ticks c'.io.ticks (a.heap f).timeout)
    (hw : InPulse e c c' (handleFlowEvent e a f ev none)) :
    Unharmed e c s c'.io.ticks (handleFlowEvent e a f ev none) ∧
      (((handleFlowEvent e a f ev none).heap f).state = .failed →
        (a.heap f).state = .failed ∧ nextState (a.heap f).state ev ≠ some .send) ∧
      e.NotDue (handleFlowEvent e a f ev none).io.ticks c'.io.ticks
        ((handleFlowEvent e a f ev none).heap f).timeout := by
  have hframe := (flowStep_moves (a.flowEnv e f none) (a.heap f) a.io hev).frame
  have herrs := handleFlowEvent_sendErrs e a f none hev
  have hticks : a.io.ticks ≤ (handleFlowEvent e a f ev none).io.ticks := by
    rw [handleFlowEvent_io]
    exact hframe.ticks
  have herr : (handleFlowEvent e a f ev none).io.sendErrs = a.io.sendErrs :=
    Nat.le_antisymm (Nat.le_trans hw.errs hu.errs) herrs
  have hself : (handleFlowEvent e a f ev none).heap f =
      (flowStep (a.flowEnv e f none) ev (a.heap f) a.io).1 := by
    rw [handleFlowEvent_heap, Function.update_self]
  have hn := hw.ticks
  rw [handleFlowEvent_io] at herr hn
  obtain ⟨hst, hdue⟩ := flowStep_quiet (x := a.flowEnv e f none) hev hserver hfit
    (hd.first.later hu.ticks) (fun hwait k => (hd.again _ k (hrt hwait)).later hu.ticks) herr hn ht
  have hself' : (((handleFlowEvent e a f ev none).heap f).state = .failed →
        (a.heap f).state = .failed ∧ nextState (a.heap f).state ev ≠ some .send) ∧
      e.NotDue (handleFlowEvent e a f ev none).io.ticks c'.io.ticks
        ((handleFlowEvent e a f ev none).heap f).timeout := by
    rw [hself, handleFlowEvent_io]
    exact ⟨hst, hdue⟩
  refine ⟨hu.keep (handleFlowEvent_flows ..) (handleFlowEvent_pcpServersLength ..) hticks herrs
    (fun g _ hg => ?_) (fun g _ hg => ?_) fun _ _ => by rw [handleFlowEvent_pcpServers], hself'⟩
  · by_cases hgf : g = f
    · subst hgf
      exact (hself'.1 hg).1
    · rw [handleFlowEvent_heap, Function.update_of_ne hgf] at hg
      exact hg
  · by_cases hgf : g = f
    · subst hgf
      exact hself'.2
    · rw [handleFlowEvent_heap, Function.update_of_ne hgf]
      exact hg.later hticks

/-- A look at a timer that has not run out. -/
theorem Unharmed.check {n : Nat} (hu : Unharmed e c s n a) {f : FlowId}
    (ht : e.NotDue a.io.ticks n (a.heap f).timeout) (hn : (checkFlowTimeout e s a f).io.ticks ≤ n) :
    Unharmed e c s n (checkFlowTimeout e s a f) := by
  rw [checkFlowTimeout_eq] at hn ⊢
  split
  · exact hu
  · rename_i hz
    rw [if_neg hz, lowerTimeout_io] at hn
    have hlt := Nat.lt_of_lt_of_le (fireTimer_ticks e a f) hn
    have hlate : ¬ (a.heap f).timeout.us ≤ (e.now a.io).us := by
      rcases ht with h₀ | hlate
      · exact absurd h₀ hz
      · exact Int.not_le.mpr (hlate _ (Nat.le_refl _) hlt)
    have hfire : Unharmed e c s n (fireTimer e a f) := by
      rw [fireTimer, if_neg hlate]
      exact hu.tick.alignTimer f
    unfold lowerTimeout
    split
    · exact hfire
    · exact (hfire.alignTimer f).setNextTimeout _

theorem Unharmed.walk {n : Nat} (hu : Unharmed e c s n a) (l : List FlowId)
    (hl : ∀ f ∈ l, f ∈ a.allFlows) (hn : (l.foldl (checkFlowTimeout e s) a).io.ticks ≤ n) :
    Unharmed e c s n (l.foldl (checkFlowTimeout e s) a) := by
  induction l generalizing a with
  | nil => exact hu
  | cons f l ih =>
    have hn₁ := Nat.le_trans (foldl_checkFlowTimeout_ticks e s l _) hn
    have hf := hl f List.mem_cons_self
    refine ih (hu.check (hu.timer f hf) hn₁) (fun g hg => ?_) hn
    rw [Ctx.allFlows, checkFlowTimeout_flows]
    exact hl g (List.mem_cons_of_mem f hg)

/-- The flows are as they were, and so is the ping flow of `s`. -/
structure Untouched (c : Ctx) (s : Nat) (a : Ctx) : Prop where
  heap : a.heap = c.heap
  flows : a.flows = c.flows
  ping : (a.pcpServers s).pingFlowMsg = (c.pcpServers s).pingFlowMsg

theorem Untouched.setServer (h : Untouched c s a) {v : Server}
    (hv : v.pingFlowMsg = (a.pcpServers s).pingFlowMsg) : Untouched c s (a.setServer s v) := by
  refine ⟨h.heap, h.flows, ?_⟩
  rw [Ctx.setServer_pcpServers, Function.update_self, hv]
  exact h.ping

theorem Untouched.modServer (h : Untouched c s a) {g : Server → Server}
    (hg : (g (a.pcpServers s)).pingFlowMsg = (a.pcpServers s).pingFlowMsg) :
    Untouched c s (a.modServer s g) :=
  h.setServer hg

theorem Untouched.tick (h : Untouched c s a) : Untouched c s a.tick := ⟨h.heap, h.flows, h.ping⟩

theorem Untouched.setNextTimeout (h : Untouched c s a) (t : Timeval) :
    Untouched c s (a.setNextTimeout s t) :=
  h.setServer rfl

theorem Untouched.wakeNow (h : Untouched c s a) : Untouched c s (e.wakeNow a s) :=
  (h.setNextTimeout _).tick

/-! ### Passes -/

/-- What a flow of the server is like before a pass with the event `ev`. -/
structure FitOwn (e : Env) (c : Ctx) (s : Nat) (ev : FlowEvent) (v : Flow) : Prop where
  fit : v.pcpServerIndx = s → v.Fit e.cfg ev
  delay : v.state = .waitResp → KnownDelay c v

theorem Unharmed.visit (hd : NothingDue e c c') (hu : Unharmed e c s c'.io.ticks a) {f : FlowId}
    {ev : FlowEvent} (hev : ev ≠ .msgSent) (hl : Live a s) (hix : (a.pcpServers s).index = s)
    (hf : f ∈ a.allFlows) (hfit : FitOwn e c s ev (a.heap f))
    (hw : InPulse e c c' (flowSendEventIter e s ev a f)) :
    Unharmed e c s c'.io.ticks (flowSendEventIter e s ev a f) := by
  unfold flowSendEventIter at hw ⊢
  split
  · rename_i ho
    rw [if_pos ho] at hw
    rw [hix] at ho
    have hserver : serverOf a (a.heap f).pcpServerIndx = some (a.pcpServers s) := by
      rw [ho]
      exact serverOf_of_live hl
    have hflows : (handleFlowEvent e a f ev none).allFlows = a.allFlows := by
      rw [Ctx.allFlows, handleFlowEvent_flows, Ctx.allFlows]
    have hbefore : InPulse e c c' (handleFlowEvent e a f ev none) := by
      refine hw.before (checkFlowTimeout_ticks ..) ?_
      exact checkFlowTimeout_sendErrs ..
    obtain ⟨hu', -, ht⟩ := hu.event hd hev hserver (hfit.fit ho) hfit.delay (hu.timer f hf) hbefore
    exact hu'.check ht hw.ticks
  · exact hu

theorem Unharmed.pass (hd : NothingDue e c c') (hu : Unharmed e c s c'.io.ticks a) {ev : FlowEvent}
    (hev : ev.Plain) (hl : Live a s) (hix : (a.pcpServers s).index = s) (l : List FlowId)
    (hnd : l.Nodup) (hmem : ∀ f ∈ l, f ∈ a.allFlows ∧ f < a.heapTop)
    (hfit : ∀ f ∈ l, FitOwn e c s ev (a.heap f))
    (hw : InPulse e c c' (l.foldl (flowSendEventIter e s ev) a)) :
    Unharmed e c s c'.io.ticks (l.foldl (flowSendEventIter e s ev) a) := by
  induction l generalizing a with
  | nil => exact hu
  | cons f l ih =>
    obtain ⟨hf, hfa⟩ := hmem f List.mem_cons_self
    have hstep : Acts e s [.own] a (flowSendEventIter e s ev a f) := flowSendEventIter_acts hfa hev
    have hrest : Acts e s [.own] (flowSendEventIter e s ev a f)
        (l.foldl (flowSendEventIter e s ev) (flowSendEventIter e s ev a f)) := by
      refine foldl_acts fun b hb g hg => flowSendEventIter_acts ?_ hev
      have hg := (hmem g (List.mem_cons_of_mem f hg)).2
      exact Nat.lt_of_lt_of_le hg (Nat.le_trans hstep.frame.heapTop hb.heapTop)
    have hvisit := hu.visit hd hev.ne_msgSent hl hix hf (hfit f List.mem_cons_self) (hrest.inPulse hw)
    obtain ⟨hnf, hnd'⟩ := List.nodup_cons.mp hnd
    refine ih hvisit (hstep.frame.live_iff.mpr hl) (hstep.frame.same.index.trans hix) hnd'
      (fun g hg => ⟨?_, ?_⟩) (fun g hg => ?_) hw
    · rw [Ctx.allFlows, flowSendEventIter_flows]
      exact (hmem g (List.mem_cons_of_mem f hg)).1
    · exact Nat.lt_of_lt_of_le (hmem g (List.mem_cons_of_mem f hg)).2 hstep.frame.heapTop
    · have hgf : g ≠ f := fun h => hnf (h ▸ hg)
      rw [flowSendEventIter_other e s ev a hgf]
      exact hfit g (List.mem_cons_of_mem f hg)

theorem Unharmed.sendEventAll (hd : NothingDue e c c') (hu : Unharmed e c s c'.io.ticks a)
    {ev : FlowEvent} (hev : ev.Plain) (hok : TableOk a) (hl : Live a s)
    (hix : (a.pcpServers s).index = s) (hsame : Untouched c s a)
    (hfit : ∀ f ∈ c.allFlows, (c.heap f).pcpServerIndx = s → (c.heap f).Fit e.cfg ev)
    (hw : InPulse e c c' (sendEventAll e s ev a)) :
    Unharmed e c s c'.io.ticks (sendEventAll e s ev a) := by
  have hall : a.allFlows = c.allFlows := by rw [Ctx.allFlows, hsame.flows, Ctx.allFlows]
  refine hu.pass hd hev hl hix a.allFlows hok.allFlows_nodup (fun f hf => ⟨hf, ?_⟩) (fun f hf => ?_) hw
  · exact hok.alloc hf
  · rw [hall] at hf
    rw [hsame.heap]
    exact ⟨hfit f hf, fun _ => .inr ⟨f, hf, rfl⟩⟩

/-! ### Handlers -/

theorem fit_restarted {cfg : Config} {v : Flow} (h : v.state = .waitResp → ¬ RetriesUsed cfg v) :
    v.Fit cfg .serverRestarted :=
  ⟨.inr (.inl (by cases v.state <;> rfl)), fun hst _ => h hst⟩

theorem fit_initialized {cfg : Config} {v : Flow} (h : v.state = .waitResp → ¬ RetriesUsed cfg v) :
    v.Fit cfg .serverInitialized := by
  refine ⟨?_, fun hst _ => h hst⟩
  cases v.state with
  | waitForServerInit | waitResp | send => exact .inr (.inl rfl)
  | idle | waitAfterShortLifeError | waitForLifetimeRenew | sendRenew | failed => exact .inl rfl

theorem fit_failed {cfg : Config} {v : Flow}
    (h : v.state ∈ [.failed, .waitForLifetimeRenew, .sendRenew]) : v.Fit cfg .failed := by
  simp only [List.mem_cons, List.not_mem_nil, or_false] at h
  refine ⟨?_, fun hst => ?_⟩
  · rcases h with h | h | h <;> rw [h]
    · exact .inr (.inr ⟨rfl, rfl⟩)
    · exact .inr (.inl rfl)
    · exact .inr (.inl rfl)
  · rcases h with h | h | h <;> rw [h] at hst <;> cases hst

theorem fit_send {cfg : Config} {v : Flow} (h : v.state = .waitResp → ¬ RetriesUsed cfg v) :
    v.Fit cfg .send :=
  ⟨.inr (.inl (by cases v.state <;> rfl)), fun hst _ => h hst⟩

/-- A request is sent to ping the server: it is waited for, and so is the server. -/
theorem Unharmed.ping (hd : NothingDue e c c') (hu : Unharmed e c s c'.io.ticks a) {p : FlowId}
    (hl : Live a s) (hp : (a.heap p).pcpServerIndx = s)
    (hbudget : (a.heap p).state = .waitResp → ¬ RetriesUsed e.cfg (a.heap p) ∧ KnownDelay c (a.heap p))
    (ht : e.NotDue a.io.ticks c'.io.ticks (a.heap p).timeout)
    (hw : InPulse e c c' (handleFlowEvent e a p .send none)) :
    ((handleFlowEvent e a p .send none).heap p).state ≠ .failed ∧
      Unharmed e c s c'.io.ticks (handleFlowEvent e a p .send none) ∧
      e.NotDue (handleFlowEvent e a p .send none).io.ticks c'.io.ticks
        ((handleFlowEvent e a p .send none).heap p).timeout := by
  have hserver : serverOf a (a.heap p).pcpServerIndx = some (a.pcpServers s) := by
    rw [hp]
    exact serverOf_of_live hl
  obtain ⟨hu', hst, hdue⟩ := hu.event hd (by simp) hserver (fit_send fun h => (hbudget h).1)
    (fun h => (hbudget h).2) ht hw
  refine ⟨fun hfail => (hst hfail).2 ?_, hu', hdue⟩
  cases (a.heap p).state <;> rfl

/-- States in which a timeout of the server fails no flow. -/
def ServerState.Patient (st : ServerState) : Prop :=
  st ∈ [.waitIo, .waitIoCalcNearestTimeout, .ping, .serverReping, .allocated]

/-- Where server `s` stands: its next timeout fails nothing, or does not come, or begins with the flows
as they were before the pulse. -/
inductive Phase (e : Env) (c : Ctx) (s n : Nat) (st : ServerState) (a : Ctx) : Prop where
  | patient (h : st.Patient)
  | asleep (h : e.NotDue a.io.ticks n (a.pcpServers s).nextTimeout)
  | pending (h : st ∈ [.serverRestart, .sendAllMsgs, .setNotWorking, .versionNegotiation])
      (hsame : Untouched c s a) (hspares : Spares e.cfg c s { a.pcpServers s with serverState := st })

/-- The result of a handler: the next state of the server, and the context. -/
structure Harmless (e : Env) (c : Ctx) (s n : Nat) (r : ServerState × Ctx) : Prop where
  unharmed : Unharmed e c s n r.2
  phase : Phase e c s n r.1 r.2

theorem Harmless.stored {n : Nat} {r : ServerState × Ctx} (h : Harmless e c s n r) :
    Harmless e c s n (r.1, r.2.modServer s fun v => { v with serverState := r.1 }) := by
  refine ⟨h.unharmed.setServer _, ?_⟩
  cases h.phase with
  | patient h => exact .patient h
  | asleep h => exact .asleep (by rwa [Ctx.modServer_self])
  | pending h hsame hspares =>
    refine .pending h (hsame.setServer rfl) ?_
    rw [Ctx.modServer_self]
    exact hspares

/-- The server is in use and knows its place. -/
structure Ready (a : Ctx) (s : Nat) : Prop where
  live : Live a s
  index : (a.pcpServers s).index = s

theorem Ready.acts {K : List ActKind} (hr : Ready a s) (h : Acts e s K a b) : Ready b s :=
  ⟨h.frame.live_iff.mpr hr.live, h.frame.same.index.trans hr.index⟩

/-- The counters of a request are reset, and it is sent to ping the server. -/
theorem Unharmed.pingReset (hd : NothingDue e c c') (hu : Unharmed e c s c'.io.ticks a) (hr : Ready a s)
    {p : FlowId} (hp : (a.heap p).pcpServerIndx = s) (r : UInt32)
    (hbudget : (a.heap p).state = .waitResp → r = 0 ∧ ¬ RetriesUsed e.cfg ((a.heap p).resetCount r))
    (ht : e.NotDue a.io.ticks c'.io.ticks (a.heap p).timeout)
    (hw : InPulse e c c' (handleFlowEvent e (a.modFlow p (Flow.resetCount r)) p .send none)) :
    ((handleFlowEvent e (a.modFlow p (Flow.resetCount r)) p .send none).heap p).state ≠ .failed ∧
      Unharmed e c s c'.io.ticks (handleFlowEvent e (a.modFlow p (Flow.resetCount r)) p .send none) ∧
      e.NotDue (handleFlowEvent e (a.modFlow p (Flow.resetCount r)) p .send none).io.ticks c'.io.ticks
        ((handleFlowEvent e (a.modFlow p (Flow.resetCount r)) p .send none).heap p).timeout := by
  have hself : (a.modFlow p (Flow.resetCount r)).heap p = (a.heap p).resetCount r :=
    Function.update_self ..
  have hu₁ : Unharmed e c s c'.io.ticks (a.modFlow p (Flow.resetCount r)) := hu.setFlow id id
  refine hu₁.ping hd hr.live ?_ (fun hst => ?_) ?_ hw
  all_goals rw [hself]
  · exact hp
  · rw [hself] at hst
    obtain ⟨hr, hused⟩ := hbudget hst
    exact ⟨hused, .inl hr⟩
  · exact ht

/-- A flow found by `get_ping_msg` belongs to the server and does not wait for an answer. -/
theorem Unharmed.found {n : Nat} (hu : Unharmed e c s n a) (hr : Ready a s) {found : Option FlowId}
    (hg : getPingMsg a s = (found, b)) :
    Unharmed e c s n b ∧ Ready b s ∧ ∀ f, found = some f → (b.heap f).pcpServerIndx = s ∧
      (b.heap f).state ≠ .waitResp ∧ e.NotDue b.io.ticks n (b.heap f).timeout := by
  have hfound : (getPingMsg a s).1 = found := by rw [hg]
  obtain rfl : (getPingMsg a s).2 = b := by rw [hg]
  refine ⟨hu.setServer _, ⟨⟨hr.live.1, ?_⟩, ?_⟩, fun f hf => ?_⟩
  · rw [getPingMsg_self]
    exact hr.live.2
  · rw [getPingMsg_self]
    exact hr.index
  · obtain ⟨hmem, hown, hst⟩ := getPingMsg_found (hfound.trans hf)
    refine ⟨hown.trans hr.index, ?_, hu.timer f hmem⟩
    show (a.heap f).state ≠ .waitResp
    rcases hst with hst | hst | hst <;> rw [hst] <;> decide

theorem handleServerPing_harmless (hd : NothingDue e c c') (hu : Unharmed e c s c'.io.ticks a)
    (hr : Ready a s) (htab : TableOk a) (hw : InPulse e c c' (handleServerPing e a s).2) :
    Harmless e c s c'.io.ticks (handleServerPing e a s) := by
  unfold handleServerPing at hw ⊢
  have hacts : Acts e s [.own] a (a.modServer s fun v => { v with pingCount := 0 }) :=
    modServer_acts _ ⟨⟨rfl, rfl, rfl, rfl, rfl, rfl, rfl, rfl, .rfl⟩, rfl, .inl rfl⟩ rfl
  have hu₁ : Unharmed e c s c'.io.ticks (a.modServer s fun v => { v with pingCount := 0 }) :=
    hu.setServer _
  have hr₁ := hr.acts hacts
  have htab₁ := hacts.tableOk htab
  generalize a.modServer s (fun v => { v with pingCount := 0 }) = a₁ at hu₁ hr₁ htab₁ hw ⊢
  have hacts₁ : Acts e s [.own] a₁ (getPingMsg a₁ s).2 := getPingMsg_acts htab₁
  have hown₁ : ∀ f, (getPingMsg a₁ s).1 = some f → Own (getPingMsg a₁ s).2 s f :=
    fun f => getPingMsg_own htab₁
  rcases hg : getPingMsg a₁ s with ⟨found, a₂⟩
  rw [hg] at hacts₁ hown₁
  obtain ⟨hu₂, hr₂, hfound⟩ := hu₁.found hr₁ hg
  simp only [pingLoop, hg] at hw ⊢
  cases found with
  | none => exact ⟨hu₂.setNextTimeout _, .patient (by simp [ServerState.Patient])⟩
  | some f =>
    obtain ⟨hown, hst, ht⟩ := hfound f rfl
    have hreset : (a₂.modFlow f fun v => { v with retryCount := 0 }) =
        a₂.modFlow f (Flow.resetCount (a₂.heap f).resendTimeout) := rfl
    dsimp only at hw ⊢
    rw [hreset] at hw ⊢
    have hbefore : InPulse e c c' (handleFlowEvent e
        (a₂.modFlow f (Flow.resetCount (a₂.heap f).resendTimeout)) f .send none) := by
      split at hw
      · exact ⟨hw.ticks, hw.errs⟩
      · have hcount : Acts e s [.own] a₂
            (a₂.modFlow f (Flow.resetCount (a₂.heap f).resendTimeout)) := reset_acts _ (hown₁ f rfl)
        have hsend := hcount.trans
          (event_acts f .send (hcount.frame.own (hown₁ f rfl)) trivial)
        refine Acts.inPulse (pingLoop_acts (L := []) _ ?_) hw
        exact (hacts₁.trans hsend).tableOk htab₁
    obtain ⟨hsent, hu₃, hdue⟩ := hu₂.pingReset hd hr₂ hown _ (fun h => absurd h hst) ht hbefore
    rw [if_pos hsent]
    refine ⟨hu₃.setNextTimeout _, .asleep ?_⟩
    rw [Ctx.setNextTimeout_self]
    exact hdue

/-- The end of a negotiation with a message to ping with. -/
theorem negotiationPing_harmless (hd : NothingDue e c c') (hu : Unharmed e c s c'.io.ticks a)
    (hr : Ready a s) {p : FlowId} (hp : (a.heap p).pcpServerIndx = s)
    (hbudget : (a.heap p).state = .waitResp → ¬ RetriesUsed e.cfg ((a.heap p).resetCount 0))
    (ht : e.NotDue a.io.ticks c'.io.ticks (a.heap p).timeout)
    (hw : InPulse e c c' (negotiationPing e a s p).2) :
    Harmless e c s c'.io.ticks (negotiationPing e a s p) := by
  have hreset : (a.modFlow p fun v => { v with retryCount := 0, resendTimeout := 0 }) =
      a.modFlow p (Flow.resetCount 0) := rfl
  unfold negotiationPing at hw ⊢
  dsimp only at hw ⊢
  rw [hreset] at hw ⊢
  have hbefore : InPulse e c c' (handleFlowEvent e (a.modFlow p (Flow.resetCount 0)) p .send none) := by
    split at hw <;> exact ⟨hw.ticks, hw.errs⟩
  obtain ⟨hsent, hu₁, hdue⟩ := hu.pingReset hd hr hp 0 (fun h => ⟨rfl, hbudget h⟩) ht hbefore
  rw [if_neg hsent]
  refine ⟨hu₁.setNextTimeout _, .asleep ?_⟩
  rw [Ctx.setNextTimeout_self]
  exact hdue

theorem negotiationEnd_harmless (hd : NothingDue e c c') (hu : Unharmed e c s c'.io.ticks a)
    (hr : Ready a s) {p : Option FlowId}
    (hp : ∀ q, p = some q → (a.heap q).pcpServerIndx = s ∧
      ((a.heap q).state = .waitResp → ¬ RetriesUsed e.cfg ((a.heap q).resetCount 0)) ∧
      e.NotDue a.io.ticks c'.io.ticks (a.heap q).timeout)
    (hw : InPulse e c c' (negotiationEnd e s (p, a)).2) :
    Harmless e c s c'.io.ticks (negotiationEnd e s (p, a)) := by
  cases p with
  | some q =>
    obtain ⟨hown, hbudget, ht⟩ := hp q rfl
    exact negotiationPing_harmless hd hu hr hown hbudget ht hw
  | none =>
    rcases hg : getPingMsg a s with ⟨found, b⟩
    obtain ⟨hu₁, hr₁, hfound⟩ := hu.found hr hg
    simp only [negotiationEnd, hg] at hw ⊢
    cases found with
    | none => exact ⟨hu₁.setNextTimeout _, .patient (by simp [ServerState.Patient])⟩
    | some q =>
      obtain ⟨hown, hst, ht⟩ := hfound q rfl
      exact negotiationPing_harmless hd hu₁ hr₁ hown (fun h => absurd h hst) ht hw

/-- A new announcement is idle and has no timer. -/
theorem createNatpmpAnnMsg_idle (e : Env) (a : Ctx) (s : Nat) :
    createNatpmpAnnMsg e a s = (none, a.callocCall.modServer s fun v => { v with pingFlowMsg := none }) ∨
      ∃ fl : Flow, fl.pcpServerIndx = (a.pcpServers s).index ∧ fl.state = .idle ∧
        fl.timeout.isZero = true ∧ createNatpmpAnnMsg e a s = (some a.heapTop, pcpDbAddFlow
          (({ a.callocCall.setFlow a.heapTop fl with heapTop := a.heapTop + 1 } : Ctx).modServer s
            fun v => { v with pingFlowMsg := some a.heapTop }) (some a.heapTop)) := by
  unfold createNatpmpAnnMsg pcpCreateFlow
  dsimp only
  cases e.calloc a.io.callocs with
  | false => exact .inl rfl
  | true => exact .inr ⟨_, rfl, rfl, rfl, rfl⟩

/-- An announcement is added to the table. -/
theorem Unharmed.announce {n : Nat} (hu : Unharmed e c s n a) (hr : Ready a s) :
    Unharmed e c s n (createNatpmpAnnMsg e a s).2 ∧
      ∀ q, (createNatpmpAnnMsg e a s).1 = some q →
        ((createNatpmpAnnMsg e a s).2.heap q).pcpServerIndx = s ∧
        ((createNatpmpAnnMsg e a s).2.heap q).state = .idle ∧
        ((createNatpmpAnnMsg e a s).2.heap q).timeout.isZero = true := by
  rcases createNatpmpAnnMsg_idle e a s with h | ⟨fl, hix, hst, hz, h⟩
  · rw [h]
    refine ⟨?_, fun q hq => by cases hq⟩
    exact Unharmed.setServer (a := a.callocCall)
      (hu.keepFlows rfl rfl rfl (Nat.le_refl _) (Nat.le_refl _) fun _ _ => rfl) _
  · rw [h]
    have hheap : ∀ g, (pcpDbAddFlow
        (({ a.callocCall.setFlow a.heapTop fl with heapTop := a.heapTop + 1 } : Ctx).modServer s
          fun v => { v with pingFlowMsg := some a.heapTop }) (some a.heapTop)).heap g =
        if g = a.heapTop then { fl with keyBucket := some (computeFlowKey fl.kd) } else a.heap g := by
      intro g
      by_cases hg : g = a.heapTop
      · subst hg
        simp [pcpDbAddFlow, Ctx.modFlow, Ctx.modServer]
      · simp [pcpDbAddFlow, Ctx.modFlow, Ctx.modServer, hg, Ctx.callocCall]
    have hold : ∀ f, f ∈ (pcpDbAddFlow
        (({ a.callocCall.setFlow a.heapTop fl with heapTop := a.heapTop + 1 } : Ctx).modServer s
          fun v => { v with pingFlowMsg := some a.heapTop }) (some a.heapTop)).allFlows →
        f ≠ a.heapTop → f ∈ a.allFlows := by
      intro f hf hne
      obtain ⟨b, hb, hf⟩ := mem_allFlows.mp hf
      rcases mem_pcpDbAddFlow.mp hf with hf | ⟨rfl, -⟩
      · exact mem_allFlows.mpr ⟨b, hb, hf⟩
      · exact absurd rfl hne
    refine ⟨⟨hu.ticks, hu.errs, fun f hf hfail => ?_, fun f hf => ?_, fun i hi hl => ?_⟩, fun q hq => ?_⟩
    · by_cases hg : f = a.heapTop
      · rw [hheap, if_pos hg, hst] at hfail
        cases hfail
      · rw [hheap, if_neg hg] at hfail
        exact hu.table f (hold f hf hg) hfail
    · by_cases hg : f = a.heapTop
      · rw [hheap, if_pos hg]
        exact .inl hz
      · rw [hheap, if_neg hg]
        exact hu.timer f (hold f hf hg)
    · have hsame : (pcpDbAddFlow
          (({ a.callocCall.setFlow a.heapTop fl with heapTop := a.heapTop + 1 } : Ctx).modServer s
            fun v => { v with pingFlowMsg := some a.heapTop }) (some a.heapTop)).pcpServers i =
          a.pcpServers i := by
        simp [pcpDbAddFlow, Ctx.modFlow, Ctx.modServer, hi, Ctx.callocCall]
      rw [Live, hsame] at hl
      rw [hsame]
      exact hu.others i hi hl
    · obtain rfl := Option.some.inj hq
      rw [hheap, if_pos rfl]
      exact ⟨hix.trans hr.index, hst, hz⟩

/-- The ping flow is put back and replaced by an announcement. -/
theorem Unharmed.natpmp {n : Nat} (hu : Unharmed e c s n a) (hr : Ready a s) :
    Unharmed e c s n (natpmpPingMsg e a s).2 ∧
      ∀ q, (natpmpPingMsg e a s).1 = some q →
        ((natpmpPingMsg e a s).2.heap q).pcpServerIndx = s ∧
        ((natpmpPingMsg e a s).2.heap q).state = .idle ∧
        ((natpmpPingMsg e a s).2.heap q).timeout.isZero = true := by
  unfold natpmpPingMsg
  split
  · exact (hu.setFlow (fun h => by cases h) fun _ => .inl rfl).announce ⟨hr.live, hr.index⟩
  · exact hu.announce hr

theorem handleVersionNegotiation_harmless (hd : NothingDue e c c') (hu : Unharmed e c s c'.io.ticks a)
    (hr : Ready a s) (hwf : Wf a s) (hsame : Untouched c s a)
    (hspares : Spares e.cfg c s { a.pcpServers s with serverState := .versionNegotiation })
    (hping : ∀ p, (a.pcpServers s).pingFlowMsg = some p →
      e.NotDue a.io.ticks c'.io.ticks (a.heap p).timeout)
    (hw : InPulse e c c' (handleVersionNegotiation e a s).2) :
    Harmless e c s c'.io.ticks (handleVersionNegotiation e a s) := by
  have hlowered : (lowerNextVersion a s).pcpServers s = (a.pcpServers s).lowered :=
    Ctx.modServer_self ..
  have hu₁ : Unharmed e c s c'.io.ticks (lowerNextVersion a s) := hu.setServer _
  have hacts : Acts e s [.own, .version, .announce] a (useNextVersion (lowerNextVersion a s) s) :=
    lowerNextVersion_acts.trans ((Act.version _ _).single (by simp))
  have hleft : NoVersionLeft e.cfg ((lowerNextVersion a s).pcpServers s) ↔
      NoVersionLeft e.cfg (Server.lowered { a.pcpServers s with serverState := .versionNegotiation }) := by
    rw [hlowered]
    rfl
  rw [handleVersionNegotiation_eq] at hw ⊢
  by_cases hno : NoVersionLeft e.cfg ((lowerNextVersion a s).pcpServers s)
  · rw [if_pos hno]
    exact ⟨hu₁, .pending (by simp) (hsame.setServer rfl) (hspares.1 (hleft.mp hno))⟩
  · rw [if_neg hno] at hw ⊢
    have hused : (useNextVersion (lowerNextVersion a s) s).pcpServers s =
        { (a.pcpServers s).lowered with pcpVersion := (a.pcpServers s).lowered.nextVersion } := by
      rw [useNextVersion, Ctx.modServer_self, hlowered]
    have hu₂ : Unharmed e c s c'.io.ticks (useNextVersion (lowerNextVersion a s) s) :=
      hu₁.setServer _
    have hr₂ := hr.acts hacts
    dsimp only at hw ⊢
    split at hw
    · rename_i hzero
      rw [if_pos hzero]
      obtain ⟨hu₃, hnew⟩ := hu₂.natpmp (e := e) hr₂
      have hr₃ := hr₂.acts (natpmpPingMsg_acts (e := e) (hacts.wf hwf))
      refine negotiationEnd_harmless hd hu₃ hr₃ (fun q hq => ?_) hw
      obtain ⟨hown, hst, hz⟩ := hnew q hq
      refine ⟨hown, fun hwait => ?_, .inl hz⟩
      rw [hst] at hwait
      cases hwait
    · rename_i hnz
      rw [if_neg hnz]
      refine negotiationEnd_harmless hd hu₂ hr₂ (fun q hq => ?_) hw
      rw [hused] at hq hnz
      refine ⟨(hwf.ping q hq).2.trans hr.index, fun hst => ?_, hping q hq⟩
      have hheap₂ : (useNextVersion (lowerNextVersion a s) s).heap = c.heap := hsame.heap
      rw [hheap₂] at hst ⊢
      exact hspares.2 (fun h => hno (hleft.mpr h)) hnz q hq hst

/-- A pass of the server's state machine over its flows. -/
theorem handleSendAllMsgs_harmless (hd : NothingDue e c c') (hu : Unharmed e c s c'.io.ticks a)
    (hr : Ready a s) (htab : TableOk a) (hsame : Untouched c s a)
    (hspares : Spares e.cfg c s { a.pcpServers s with serverState := .sendAllMsgs })
    (hw : InPulse e c c' (handleSendAllMsgs e a s).2) :
    Harmless e c s c'.io.ticks (handleSendAllMsgs e a s) := by
  have hpass : InPulse e c c' (sendEventAll e s .serverInitialized a) :=
    Acts.inPulse (wakeNow_acts (L := [])) hw
  have hplain : FlowEvent.Plain .serverInitialized := trivial
  have hu₁ := hu.sendEventAll hd hplain htab hr.live hr.index hsame
    (fun f hf ho => fit_initialized (hspares f hf ho)) hpass
  exact ⟨hu₁.wakeNow, .patient (by simp [ServerState.Patient, handleSendAllMsgs])⟩

theorem handleServerRestart_harmless (hd : NothingDue e c c') (hu : Unharmed e c s c'.io.ticks a)
    (hr : Ready a s) (htab : TableOk a) (hsame : Untouched c s a)
    (hspares : Spares e.cfg c s { a.pcpServers s with serverState := .serverRestart })
    (hw : InPulse e c c' (handleServerRestart e a s).2) :
    Harmless e c s c'.io.ticks (handleServerRestart e a s) := by
  have hpass : InPulse e c c' (sendEventAll e s .serverRestarted a) :=
    hw.before (Nat.le_succ _) (Nat.le_refl _)
  have hplain : FlowEvent.Plain .serverRestarted := trivial
  have hu₁ := hu.sendEventAll hd hplain htab hr.live hr.index hsame
    (fun f hf ho => fit_restarted (hspares f hf ho)) hpass
  exact ⟨(hu₁.setServer _).wakeNow, .patient (by simp [ServerState.Patient, handleServerRestart])⟩

theorem handleServerSetNotWorking_harmless (hd : NothingDue e c c')
    (hu : Unharmed e c s c'.io.ticks a) (hr : Ready a s) (htab : TableOk a) (hsame : Untouched c s a) (hspares : GivenUp c s)
    (hw : InPulse e c c' (handleServerSetNotWorking e a s).2) :
    Harmless e c s c'.io.ticks (handleServerSetNotWorking e a s) := by
  have hpass : InPulse e c c' (sendEventAll e s .failed a) := hw.before (Nat.le_succ _) (Nat.le_refl _)
  have hplain : FlowEvent.Plain .failed := trivial
  have hu₁ := hu.sendEventAll hd hplain htab hr.live hr.index hsame
    (fun f hf ho => fit_failed (hspares f hf ho)) hpass
  refine ⟨(hu₁.setNextTimeout _).tick, .asleep (.inr fun k h₁ h₂ => ?_)⟩
  simp only [handleServerSetNotWorking, Ctx.tick_pcpServers, Ctx.setNextTimeout_self]
  have hshort := (hd.retry.later hu₁.ticks) (sendEventAll e s .failed a).io.ticks k (Nat.le_refl _) h₁ h₂
  rw [Timeval.us_addSec]
  have harith : ((e.cfg.serverDiscoveryRetryDelay * 1000 * 1000 : Nat) : Int) =
      (e.cfg.serverDiscoveryRetryDelay : Int) * 1000000 := by
    push_cast
    ring
  rw [harith] at hshort
  exact hshort

theorem handleWaitIoTimeout_harmless (hu : Unharmed e c s c'.io.ticks a)
    (hw : InPulse e c c' (handleWaitIoTimeout e a s).2) :
    Harmless e c s c'.io.ticks (handleWaitIoTimeout e a s) := by
  have hu₁ : Unharmed e c s c'.io.ticks (a.setNextTimeout s .zero) := hu.setNextTimeout _
  unfold handleWaitIoTimeout at hw ⊢
  dsimp only at hw ⊢
  have hn : ((a.setNextTimeout s .zero).allFlows.foldl (checkFlowTimeout e s)
      (a.setNextTimeout s .zero)).io.ticks ≤ c'.io.ticks := by
    split at hw
    · exact hw.ticks
    · exact Nat.le_trans (Nat.le_succ _) hw.ticks
  have hu₂ := hu₁.walk _ (fun f hf => hf) hn
  split
  · exact ⟨hu₂, .patient (by simp [ServerState.Patient])⟩
  · exact ⟨hu₂.tick.setNextTimeout _, .patient (by simp [ServerState.Patient])⟩

theorem handleServerReping_harmless {n : Nat} (hu : Unharmed e c s n a) :
    Harmless e c s n (handleServerReping e a s) :=
  ⟨(hu.setServer _).wakeNow, .patient (by simp [ServerState.Patient, handleServerReping])⟩

/-! ### The message -/

/-- A message of version 2 with a nonce that no flow has belongs to no flow. -/
theorem serverProcessRcvdPcpMsg_unmatched (hv : a.msg.recvVersion = 2)
    (hnonce : ∀ f ∈ a.allFlows, (a.heap f).kd.nonce ≠ a.msg.kd.nonce) :
    serverProcessRcvdPcpMsg e a s = (none, a) := by
  have hnone : pcpGetFlow a a.msg.kd s = none := by
    cases hget : pcpGetFlow a a.msg.kd s with
    | none => rfl
    | some f =>
      obtain ⟨hf, -, hkd⟩ := pcpGetFlow_some hget
      exact absurd (congrArg FlowKeyData.nonce hkd) (hnonce f hf)
  have hmatch : matchRcvdMsg a s = (none, a) := by
    unfold matchRcvdMsg
    dsimp only
    rw [if_neg (by rw [hv]; decide), hnone]
  rw [serverProcessRcvdPcpMsg, hmatch]

/-- A response that belongs to no flow, up to the state `st` for one that changes nothing. -/
theorem receive_harmless {n : Nat} {st : ServerState} (hst : st = .waitIoCalcNearestTimeout ∨ st = .sendAllMsgs)
    (hu : Unharmed e c s n a) (hsame : Untouched c s a) (hunmatched : serverProcessRcvdPcpMsg e a s = (none, a))
    (hspares : Spares e.cfg c s ((a.pcpServers s).answered a.msg st)) :
    Harmless e c s n (if (handleWaitIoReceiveMsg e a s).1 = .waitIoCalcNearestTimeout then st
      else (handleWaitIoReceiveMsg e a s).1, (handleWaitIoReceiveMsg e a s).2) := by
  have hping : (compareEpochs a.msg (a.pcpServers s)).2.pingFlowMsg = (a.pcpServers s).pingFlowMsg :=
    (compareEpochs_keeps a.msg (a.pcpServers s)).2.1
  unfold handleWaitIoReceiveMsg
  unfold Server.answered at hspares
  split
  · rename_i hres
    rw [if_pos hres] at hspares
    refine ⟨hu.wakeNow.setServer _, ?_⟩
    dsimp only
    rw [if_neg (by decide)]
    refine .pending (by simp) (.modServer hsame.wakeNow rfl) ?_
    rw [Ctx.modServer_self, Env.wakeNow, Ctx.tick_pcpServers, Ctx.setNextTimeout_self]
    exact hspares
  · rename_i hres
    rw [if_neg hres] at hspares
    split
    · rename_i hmis
      rw [if_pos hmis] at hspares
      exact ⟨hu.wakeNow, .pending (by simp) hsame.wakeNow hspares⟩
    · rename_i hmis
      rw [if_neg hmis] at hspares
      rw [hunmatched]
      dsimp only
      split
      · rename_i hepoch
        rw [if_pos hepoch] at hspares
        refine ⟨((hu.setServer _).setServer _).wakeNow.setServer _, ?_⟩
        dsimp only
        rw [if_neg (by decide)]
        refine .pending (by simp) ?_ hspares
        exact .modServer (.wakeNow (.modServer (hsame.setServer hping) rfl)) rfl
      · rename_i hepoch
        rw [if_neg hepoch] at hspares
        refine ⟨(hu.setServer _).wakeNow, ?_⟩
        rw [if_pos rfl]
        rcases hst with rfl | rfl
        · exact .patient (by simp [ServerState.Patient])
        · exact .pending (by simp) (hsame.setServer hping).wakeNow hspares

theorem handleWaitIoReceiveMsg_harmless {n : Nat} (hu : Unharmed e c s n a) (hsame : Untouched c s a)
    (hunmatched : serverProcessRcvdPcpMsg e a s = (none, a))
    (hspares : Spares e.cfg c s ((a.pcpServers s).answered a.msg .waitIoCalcNearestTimeout)) :
    Harmless e c s n (handleWaitIoReceiveMsg e a s) := by
  have h := receive_harmless (.inl rfl) hu hsame hunmatched hspares
  have hst : (if (handleWaitIoReceiveMsg e a s).1 = .waitIoCalcNearestTimeout then .waitIoCalcNearestTimeout
      else (handleWaitIoReceiveMsg e a s).1) = (handleWaitIoReceiveMsg e a s).1 := by
    split
    · exact Eq.symm ‹_›
    · rfl
  rwa [hst] at h

theorem handleWaitPingRespRecv_harmless {n : Nat} (hu : Unharmed e c s n a) (hsame : Untouched c s a)
    (hunmatched : serverProcessRcvdPcpMsg e a s = (none, a))
    (hspares : Spares e.cfg c s ((a.pcpServers s).answered a.msg .sendAllMsgs)) :
    Harmless e c s n (handleWaitPingRespRecv e a s) := by
  have h := receive_harmless (.inr rfl) hu hsame hunmatched hspares
  have hst := handleWaitIoReceiveMsg_state e a s
  unfold handleWaitPingRespRecv
  rcases hr : handleWaitIoReceiveMsg e a s with ⟨st, b⟩
  rw [hr] at h hst
  rcases hst with hst | hst | hst | hst <;> simp only at hst <;> subst hst <;> exact h

theorem handleServerNotWorking_harmless {n : Nat} (hu : Unharmed e c s n a)
    (hsame : Untouched c s a) (hunmatched : ∀ t, serverProcessRcvdPcpMsg e (a.tick.setNextTimeout s t) s =
      (none, a.tick.setNextTimeout s t))
    (hdue : e.NotDue a.io.ticks n (a.pcpServers s).nextTimeout)
    (hspares : ¬ (a.msg.recvResult = resUnsuppVersion ∨ a.msg.recvResult = resAddressMismatch) →
      Spares e.cfg c s { a.pcpServers s with serverState := .serverRestart }) :
    Harmless e c s n (handleServerNotWorking e a s) := by
  unfold handleServerNotWorking
  dsimp only
  split
  · split
    · refine ⟨hu.tick.setNextTimeout _, .asleep ?_⟩
      rw [Ctx.setNextTimeout_self, timevalComp_snd]
      exact (hdue.later (Nat.le_succ _)).align
    · rename_i hres
      rw [hunmatched]
      refine ⟨((hu.tick.setNextTimeout _).setServer _).wakeNow.setServer _, ?_⟩
      dsimp only
      refine .pending (by simp) ?_ (hspares hres)
      exact .modServer (.wakeNow (.modServer (hsame.tick.setNextTimeout _) rfl)) rfl
  · exact ⟨(hu.tick.setNextTimeout _).setNextTimeout _, .patient (by simp [ServerState.Patient])⟩

/-! ### Dispatch -/

theorem runServerStateMachine_harmless {n : Nat} {ev : ServerEvent} {h : ServerHandler}
    (hh : serverHandler (a.pcpServers s).serverState ev = some h) (hrun : Harmless e c s n (h.run e a s)) :
    Unharmed e c s n (runServerStateMachine e a s ev) ∧
      Phase e c s n ((runServerStateMachine e a s ev).pcpServers s).serverState
        (runServerStateMachine e a s ev) := by
  rw [runServerStateMachine_eq hh]
  refine ⟨hrun.stored.unharmed, ?_⟩
  have hst : (((h.run e a s).2.modServer s fun v => { v with serverState := (h.run e a s).1 }).pcpServers
      s).serverState = (h.run e a s).1 := by
    rw [Ctx.modServer_self]
  rw [hst]
  exact hrun.stored.phase

/-- A timeout of the server. -/
theorem fire_harmless (hd : NothingDue e c c') (hok : CtxOk a) (hl : Live a s) (hdue : Due e a s)
    (hu : Unharmed e c s c'.io.ticks a) (hp : Phase e c s c'.io.ticks (a.pcpServers s).serverState a)
    (hw : InPulse e c c' (fire e s a)) :
    Unharmed e c s c'.io.ticks (fire e s a) ∧
      Phase e c s c'.io.ticks ((fire e s a).pcpServers s).serverState (fire e s a) := by
  have hstart : Acts e s [.own] a (alignNext a.tick s) := fireStart_acts
  have hok' := hstart.ctxOk hok hl.2
  have hr : Ready (alignNext a.tick s) s :=
    ⟨hstart.frame.live_iff.mpr hl, hok'.index (hstart.frame.live_iff.mpr hl).2⟩
  have hu' : Unharmed e c s c'.io.ticks (alignNext a.tick s) := hu.tick.setNextTimeout _
  have hself : (alignNext a.tick s).pcpServers s =
      { a.pcpServers s with nextTimeout := timevalAlign (a.pcpServers s).nextTimeout } :=
    alignNext_self
  have hst : ((alignNext a.tick s).pcpServers s).serverState = (a.pcpServers s).serverState :=
    alignNext_state
  have hwf := hok'.wf s
  have hn := hw.ticks
  unfold LibPcp.fire at hw ⊢
  obtain ⟨h, hh⟩ := serverHandler_total ((alignNext a.tick s).pcpServers s).serverState .timeout
  refine runServerStateMachine_harmless hh ?_
  rw [runServerStateMachine_eq hh] at hw
  have hw : InPulse e c c' (h.run e (alignNext a.tick s) s).2 := ⟨hw.ticks, hw.errs⟩
  rw [hst] at hh
  cases hp with
  | patient hpat =>
    simp only [ServerState.Patient, List.mem_cons, List.not_mem_nil, or_false] at hpat
    rcases hpat with hpat | hpat | hpat | hpat | hpat <;> rw [hpat] at hh <;>
      obtain rfl := Option.some.inj hh
    · exact handleWaitIoTimeout_harmless hu' hw
    · exact handleWaitIoTimeout_harmless hu' hw
    · exact handleServerPing_harmless hd hu' hr hok'.table hw
    · exact handleServerReping_harmless hu'
    · refine ⟨hu'.setNextTimeout _, .asleep (.inl ?_)⟩
      simp only [ServerHandler.run, LibPcp.ignoreEvents, Ctx.setNextTimeout_self]
      rfl
  | asleep hasleep =>
    rcases hasleep with hz | hlate
    · rw [hdue.1] at hz
      cases hz
    · refine absurd hdue.2 (Int.not_le.mpr (hlate _ (Nat.le_refl _) ?_))
      exact Nat.lt_of_lt_of_le (fire_ticks (hok.wf s) hl) hn
  | pending hpend hsame hspares =>
    have hsame' : Untouched c s (alignNext a.tick s) := hsame.tick.setNextTimeout _
    simp only [List.mem_cons, List.not_mem_nil, or_false] at hpend
    rcases hpend with hpend | hpend | hpend | hpend <;> rw [hpend] at hh hspares <;>
      obtain rfl := Option.some.inj hh
    · exact handleServerRestart_harmless hd hu' hr hok'.table hsame' hspares hw
    · exact handleSendAllMsgs_harmless hd hu' hr hok'.table hsame' hspares hw
    · exact handleServerSetNotWorking_harmless hd hu' hr hok'.table hsame' hspares hw
    · refine handleVersionNegotiation_harmless hd hu' hr hwf hsame' ?_ (fun p hp => ?_) hw
      · rw [hself]
        exact hspares
      · rw [hsame'.heap]
        exact (hd.flow p (.inr ⟨s, hsame'.ping.symm.trans hp⟩)).later hu'.ticks

/-- Before anything is done in the pulse. -/
theorem Unharmed.start (hd : NothingDue e c c') (m : RecvMsg) :
    Unharmed e c s c'.io.ticks { c.tick with msg := m } :=
  ⟨Nat.le_succ _, Nat.le_refl _, fun _ hf hst => ⟨hf, hst⟩,
    fun f hf => (hd.flow f (.inl hf)).later (Nat.le_succ _),
    fun i _ hl => (hd.server i hl).later (Nat.le_succ _)⟩

/-- A response without the nonce of a flow is processed. -/
theorem recv_harmless (hd : NothingDue e c c') (hu : Unharmed e c s c'.io.ticks a)
    (hsame : Untouched c s a) (hok : CtxOk a) (hl : Live a s)
    (hdue : e.NotDue a.io.ticks c'.io.ticks (a.pcpServers s).nextTimeout)
    (hv : a.msg.recvVersion = 2) (hnonce : ∀ f ∈ a.allFlows, (a.heap f).kd.nonce ≠ a.msg.kd.nonce)
    (hspares : Spares e.cfg c s ((a.pcpServers s).heard a.msg))
    (hw : InPulse e c c' (runServerStateMachine e a s .ioEvent)) :
    Unharmed e c s c'.io.ticks (runServerStateMachine e a s .ioEvent) ∧
      Phase e c s c'.io.ticks ((runServerStateMachine e a s .ioEvent).pcpServers s).serverState
        (runServerStateMachine e a s .ioEvent) := by
  have hr : Ready a s := ⟨hl, hok.index hl.2⟩
  have hunmatched := serverProcessRcvdPcpMsg_unmatched (e := e) (s := s) hv hnonce
  have hstored : ∀ st, (a.pcpServers s).serverState = st →
      { a.pcpServers s with serverState := st } = a.pcpServers s := by
    rintro st rfl
    rfl
  obtain ⟨h, hh⟩ := serverHandler_total (a.pcpServers s).serverState .ioEvent
  refine runServerStateMachine_harmless hh ?_
  rw [runServerStateMachine_eq hh] at hw
  have hw : InPulse e c c' (h.run e a s).2 := ⟨hw.ticks, hw.errs⟩
  unfold Server.heard at hspares
  cases hst : (a.pcpServers s).serverState with
  | unitialized => exact absurd hst hl.2
  | allocated =>
    rw [hst] at hh
    obtain rfl := Option.some.inj hh
    refine ⟨hu.setNextTimeout _, .asleep (.inl ?_)⟩
    simp only [ServerHandler.run, LibPcp.ignoreEvents, Ctx.setNextTimeout_self]
    rfl
  | ping =>
    rw [hst] at hh
    obtain rfl := Option.some.inj hh
    exact handleServerPing_harmless hd hu hr hok.table hw
  | waitPingResp =>
    rw [hst] at hh hspares
    obtain rfl := Option.some.inj hh
    exact handleWaitPingRespRecv_harmless hu hsame hunmatched hspares
  | versionNegotiation =>
    rw [hst] at hh hspares
    obtain rfl := Option.some.inj hh
    refine handleVersionNegotiation_harmless hd hu hr (hok.wf s) hsame ?_ (fun p hp => ?_) hw
    · rw [hstored _ hst]
      exact hspares
    · rw [hsame.heap]
      exact (hd.flow p (.inr ⟨s, hsame.ping.symm.trans hp⟩)).later hu.ticks
  | sendAllMsgs =>
    rw [hst] at hh hspares
    obtain rfl := Option.some.inj hh
    refine handleSendAllMsgs_harmless hd hu hr hok.table hsame ?_ hw
    rw [hstored _ hst]
    exact hspares
  | waitIo =>
    rw [hst] at hh hspares
    obtain rfl := Option.some.inj hh
    exact handleWaitIoReceiveMsg_harmless hu hsame hunmatched hspares
  | waitIoCalcNearestTimeout =>
    rw [hst] at hh
    obtain rfl := Option.some.inj hh
    exact handleWaitIoTimeout_harmless hu hw
  | serverRestart =>
    rw [hst] at hh hspares
    obtain rfl := Option.some.inj hh
    refine handleServerRestart_harmless hd hu hr hok.table hsame ?_ hw
    rw [hstored _ hst]
    exact hspares
  | serverReping =>
    rw [hst] at hh
    obtain rfl := Option.some.inj hh
    exact handleServerReping_harmless hu
  | setNotWorking =>
    rw [hst] at hh hspares
    obtain rfl := Option.some.inj hh
    refine handleServerSetNotWorking_harmless hd hu hr hok.table hsame ?_ hw
    rw [Spares, hst] at hspares
    exact hspares
  | notWorking =>
    rw [hst] at hh hspares
    obtain rfl := Option.some.inj hh
    refine handleServerNotWorking_harmless hu hsame (fun t => ?_) hdue (fun hres => ?_)
    · exact serverProcessRcvdPcpMsg_unmatched hv hnonce
    · dsimp only at hspares
      rw [if_neg hres] at hspares
      exact hspares

/-! ### The pulse -/

theorem Unharmed.alignNext {n : Nat} (hu : Unharmed e c s n a) (i : Nat) :
    Unharmed e c s n (alignNext a i) := by
  by_cases hi : i = s
  · subst hi
    exact hu.setNextTimeout _
  · refine ⟨hu.ticks, hu.errs, hu.table, hu.timer, fun j hj hl => ?_⟩
    by_cases hji : j = i
    · subst hji
      have hself : (LibPcp.alignNext a j).pcpServers j =
          { a.pcpServers j with nextTimeout := timevalAlign (a.pcpServers j).nextTimeout } :=
        alignNext_self
      rw [Live, hself] at hl
      rw [hself]
      exact (hu.others j hj hl).align
    · have hsame : (LibPcp.alignNext a i).pcpServers j = a.pcpServers j := Function.update_of_ne hji ..
      rw [Live, hsame] at hl
      rw [hsame]
      exact hu.others j hj hl

theorem Phase.tick {n : Nat} {st : ServerState} (hp : Phase e c s n st a) : Phase e c s n st a.tick := by
  cases hp with
  | patient h => exact .patient h
  | asleep h => exact .asleep (h.later (Nat.le_succ _))
  | pending h hsame hspares => exact .pending h hsame.tick hspares

theorem Phase.alignNext {n : Nat} {st : ServerState} (hp : Phase e c s n st a) (i : Nat) :
    Phase e c s n st (alignNext a i) := by
  by_cases hi : i = s
  · subst hi
    have hself : (LibPcp.alignNext a i).pcpServers i =
        { a.pcpServers i with nextTimeout := timevalAlign (a.pcpServers i).nextTimeout } :=
      alignNext_self
    cases hp with
    | patient h => exact .patient h
    | asleep h =>
      refine .asleep ?_
      rw [hself]
      exact h.align
    | pending h hsame hspares =>
      refine .pending h (hsame.setNextTimeout _) ?_
      rw [hself]
      exact hspares
  · have heq : (LibPcp.alignNext a i).pcpServers s = a.pcpServers s :=
      Function.update_of_ne (Ne.symm hi) ..
    cases hp with
    | patient h => exact .patient h
    | asleep h =>
      refine .asleep ?_
      rw [heq]
      exact h
    | pending h hsame hspares =>
      refine .pending h ⟨hsame.heap, hsame.flows, ?_⟩ ?_
      all_goals rw [heq]
      · exact hsame.ping
      · exact hspares

/-- The look that ends the timeouts of server `i`. -/
theorem settle_harmless {n : Nat} (hu : Unharmed e c s n a) (i : Nat)
    (hp : Live a s → Phase e c s n (a.pcpServers s).serverState a) :
    Unharmed e c s n (settle i a) ∧
      (Live a s → Phase e c s n ((settle i a).pcpServers s).serverState (settle i a)) := by
  unfold settle
  split
  · exact ⟨hu.tick, fun hl => (hp hl).tick⟩
  · refine ⟨hu.tick.alignNext i, fun hl => ?_⟩
    have hst : ((alignNext a.tick i).pcpServers s).serverState = (a.pcpServers s).serverState := by
      by_cases hi : s = i
      · subst hi
        exact alignNext_state
      · rw [alignNext, Ctx.setNextTimeout, Ctx.modServer, Ctx.setServer_pcpServers,
          Function.update_of_ne hi]
        rfl
    rw [hst]
    exact (hp hl).tick.alignNext i

/-- Where a quiet pulse stands, as long as it is not over. -/
def Quiet (e : Env) (c c' : Ctx) (s : Nat) (a : Ctx) : Prop :=
  InPulse e c c' a → Unharmed e c s c'.io.ticks a ∧
    (Live a s → Phase e c s c'.io.ticks (a.pcpServers s).serverState a)

theorem Micro.harmless (hd : NothingDue e c c') {l : MicroOp} (h : Micro e l a b) (hl : l.isTimer)
    (hok : CtxOk a) (hq : Quiet e c c' s a) : Quiet e c c' s b := by
  intro hw
  cases h with
  | @fire i _ hli hdue =>
    have hfire : Acts e i allKinds a (LibPcp.fire e i a) := fire_acts (hok.wf i) hli.2
    obtain ⟨hu, hp⟩ := hq (hfire.inPulse hw)
    by_cases hi : i = s
    · subst hi
      obtain ⟨hu', hp'⟩ := fire_harmless hd hok hli hdue hu (hp hli) hw
      exact ⟨hu', fun _ => hp'⟩
    · rcases hu.others i hi hli with hz | hlate
      · rw [hdue.1] at hz
        cases hz
      · refine absurd hdue.2 (Int.not_le.mpr (hlate _ (Nat.le_refl _) ?_))
        exact Nat.lt_of_lt_of_le (fire_ticks (hok.wf i) hli) hw.ticks
  | @settle i _ hli hdue =>
    have hset : Acts e i [.own] a (LibPcp.settle i a) := settle_acts
    obtain ⟨hu, hp⟩ := hq (hset.inPulse hw)
    obtain ⟨hu', hp'⟩ := settle_harmless hu i hp
    exact ⟨hu', fun hl => hp' (hset.frame.live_iff.mp hl)⟩
  | call | close | quiet | drop | recv => cases hl

end Unharmed

/-- A response of version 2 without the nonce of a flow is found by a pulse in which nothing is due and
nothing fails to be sent: it fails no flow, provided that what the server makes of its result code and its
epoch spares the flows. -/
theorem unmatched_response_spares {e : Env} {c c' : Ctx} {dg : Datagram} {t : Timeval}
    (hc : Reachable e c) (hstep : Step e c (.pulse (some dg) t) c') (hdue : NothingDue e c c')
    (hsent : c'.io.sendErrs = c.io.sendErrs)
    (hdg : ∀ s c₁, acceptMsg e (readMsg e c dg) = (some s, c₁) → c₁.msg.recvVersion = 2 ∧
      (∀ f ∈ c.allFlows, (c.heap f).kd.nonce ≠ c₁.msg.kd.nonce) ∧
      Spares e.cfg c s ((c.pcpServers s).heard c₁.msg)) :
    ∀ f ∈ c'.allFlows, (c'.heap f).state = .failed → f ∈ c.allFlows ∧ (c.heap f).state = .failed := by
  have hok := hc.ctxOk
  have hend : ∀ s c₁, CtxOk c₁ → TimerSteps e c₁ c' → Quiet e c c' s c₁ →
      ∀ f ∈ c'.allFlows, (c'.heap f).state = .failed → f ∈ c.allFlows ∧ (c.heap f).state = .failed := by
    intro s c₁ hok₁ ht hq
    have hinv := ht.invariant (I := fun a => CtxOk a ∧ Quiet e c c' s a)
      (fun l a b hi hl hm => ⟨hm.ctxOk (MicroOp.isPulse_of_isTimer hl) hi.1,
        hm.harmless hdue hl hi.1 hi.2⟩) ⟨hok₁, hq⟩
    exact (hinv.2 ⟨Nat.le_refl _, Nat.le_of_eq hsent⟩).1.table
  cases (hstep.cases hok).1 with
  | call hp => cases hp
  | @pulse _ _ l c₁ _ hl hm ht =>
    have hok₁ := hm.ctxOk hl.isPulse hok
    cases hm with
    | call | close | fire | settle => exact hl.elim
    | quiet => cases hl
    | drop hacc =>
      obtain ⟨⟨m, rfl⟩, -⟩ := received_eq hacc
      refine hend c.pcpServersLength _ hok₁ ht fun _ => ⟨.start hdue m, fun hlive => ?_⟩
      exact absurd hlive.1 (Nat.lt_irrefl _)
    | @recv d s _ c₁ hacc =>
      obtain rfl : dg = d := Option.some.inj hl
      obtain ⟨hv, hnonce, hspares⟩ := hdg s c₁ hacc
      have hrec := hok.received hacc
      obtain ⟨⟨m, rfl⟩, hlive⟩ := received_eq hacc
      refine hend s _ hok₁ ht fun hw => ?_
      obtain ⟨hu, hp⟩ := recv_harmless hdue (.start hdue m) ⟨rfl, rfl, rfl⟩ hrec (hlive s rfl)
        ((hdue.server s (hlive s rfl)).later (Nat.le_succ _)) hv hnonce hspares hw
      exact ⟨hu, fun _ => hp⟩

/-! ## A forged answer -/

/-- An answer to the MAP request of `waitingFlow` by someone who does not know its nonce. -/
def forgedResponse (result : UInt8) : Datagram :=
  { bytes := [2, 0x81, 0, result] ++ be32 60 ++ be32 1000 ++ List.replicate 12 0 ++
      Nonce.bytes ⟨7, 7, 7⟩ ++ [6, 0, 0, 0] ++ be16 80 ++ be16 80 ++ In6Addr.bytes (.v4mapped 0x0B000001)
    src := .inet 0x0A000001 5351, dst := .inet 0x0A000002 0 }

/-- The flow waits for the answer. -/
def requestSent : Ctx := runTo (.calm {}) (fun _ _ => True) 12 {} waitingFlow

def forged (result : UInt8) : Ctx :=
  stepTo (.calm {}) 12 requestSent (.pulse (some (forgedResponse result)) .zero)

theorem requestSent_reachable : Reachable (.calm {}) requestSent := Runs.runTo (by decide +kernel)

/-- The clock stands still, and all timers are later. -/
theorem nothingDue_of_still {e : Env} {c c' : Ctx} (now : Int) (hc : CtxOk c)
    (hnow : ∀ k, (e.clock k).us = now)
    (hserver : ∀ i, i < c.pcpServersLength → Live c i → now < (c.pcpServers i).nextTimeout.us)
    (hflow : ∀ f, f < c.heapTop → now < (c.heap f).timeout.us) (hfirst : 0 < e.cfg.retxIrt.toNat)
    (hagain : ∀ rt k, (rt = 0 ∨ ∃ f ∈ c.allFlows, rt = (c.heap f).resendTimeout) →
      0 < (pcpRt e.cfg rt (e.rand k)).toNat)
    (hretry : 0 < e.cfg.serverDiscoveryRetryDelay * 1000) : NothingDue e c c' := by
  have hshort : ∀ ms, 0 < ms → e.Shorter c.io.ticks c'.io.ticks ms := by
    intro ms hms k l _ _ _
    rw [hnow, hnow]
    omega
  have hlate : ∀ t, now < Timeval.us t → e.NotDue c.io.ticks c'.io.ticks t := by
    intro t ht
    refine .inr fun k _ _ => ?_
    rw [hnow]
    exact ht
  refine ⟨fun i hl => hlate _ (hserver i hl.1 hl), fun f hf => hlate _ (hflow f ?_), hshort _ hfirst,
    fun rt k hrt => hshort _ (hagain rt k hrt), hshort _ hretry⟩
  rcases hf with hf | ⟨i, hi⟩
  · exact hc.alloc hf
  · exact (hc.ping i f hi).1

theorem requestSent_notDue (c' : Ctx) : NothingDue (.calm {}) requestSent c' := by
  refine nothingDue_of_still 1000000000 requestSent_reachable.ctxOk (fun _ => rfl) ?_ ?_ ?_ ?_ ?_
  · decide +kernel
  · decide +kernel
  · decide
  · have hsent : ∀ f ∈ requestSent.allFlows, (requestSent.heap f).resendTimeout = 3000 := by decide +kernel
    have hdelay : ∀ rt : UInt32, (rt = 0 ∨ rt = 3000) → 0 < (pcpRt {} rt 0).toNat := by
      rintro rt (rfl | rfl) <;> decide
    refine fun rt k hrt => hdelay rt (hrt.imp_right ?_)
    rintro ⟨f, hf, h⟩
    exact h.trans (hsent f hf)
  · decide

/-- The message as it is accepted. -/
theorem forged_accepted {result : UInt8} {P : Option Nat × Ctx → Prop} {s : Nat} {c₁ : Ctx}
    (hP : P (acceptMsg (.calm {}) (readMsg (.calm {}) requestSent (forgedResponse result))))
    (h : acceptMsg (.calm {}) (readMsg (.calm {}) requestSent (forgedResponse result)) = (some s, c₁)) :
    P (some s, c₁) := by
  rwa [h] at hP

/-- A forged `SUCCESS` does not stop the waiting. -/
theorem unmatched_response_spares_waiting :
    0 ∈ (forged 0).allFlows ∧ ((forged 0).heap 0).state ≠ .failed := by
  have hmem : 0 ∈ (forged 0).allFlows := by decide +kernel
  have hstep : Step (.calm {}) requestSent (.pulse (some (forgedResponse 0)) .zero) (forged 0) :=
    .stepTo (by decide +kernel)
  have hsent : (forged 0).io.sendErrs = requestSent.io.sendErrs := by decide +kernel
  have hbudget : ∀ f ∈ requestSent.allFlows, (requestSent.heap f).pcpServerIndx = 0 →
      (requestSent.heap f).state = .waitResp → ¬ RetriesUsed {} (requestSent.heap f) := by
    decide +kernel
  have hbefore : ¬ (0 ∈ requestSent.allFlows ∧ (requestSent.heap 0).state = .failed) := by decide +kernel
  refine ⟨hmem, fun hfail => hbefore (unmatched_response_spares requestSent_reachable hstep
    (requestSent_notDue _) hsent (fun s c₁ h => ?_) 0 hmem hfail)⟩
  obtain ⟨hs, hv, hnonce, hst⟩ := forged_accepted (P := fun r => r.1 = some 0 ∧
    r.2.msg.recvVersion = 2 ∧ (∀ f ∈ requestSent.allFlows, (requestSent.heap f).kd.nonce ≠ r.2.msg.kd.nonce) ∧
      ((requestSent.pcpServers 0).heard r.2.msg).serverState = .sendAllMsgs) (by decide +kernel) h
  cases hs
  refine ⟨hv, hnonce, ?_⟩
  rw [Spares, hst]
  exact hbudget

/-- An `ADDRESS_MISMATCH` response with a foreign nonce gives up the server. -/
theorem unmatched_response_kills :
    ¬ ∀ (e : Env) (c c' : Ctx) (dg : Datagram) (t : Timeval), Reachable e c →
      Step e c (.pulse (some dg) t) c' → NothingDue e c c' → c'.io.sendErrs = c.io.sendErrs →
      (∀ s c₁, acceptMsg e (readMsg e c dg) = (some s, c₁) → c₁.msg.recvVersion = 2 ∧
        ∀ f ∈ c.allFlows, (c.heap f).kd.nonce ≠ c₁.msg.kd.nonce) →
      ∀ f ∈ c'.allFlows, (c'.heap f).state = .failed → f ∈ c.allFlows ∧ (c.heap f).state = .failed := by
  intro hall
  have hstep : Step (.calm {}) requestSent (.pulse (some (forgedResponse 12)) .zero) (forged 12) :=
    .stepTo (by decide +kernel)
  have hbefore : (requestSent.heap 0).state = .waitResp := by decide +kernel
  have hafter : 0 ∈ (forged 12).allFlows ∧ ((forged 12).heap 0).state = .failed := by decide +kernel
  have hsent : (forged 12).io.sendErrs = requestSent.io.sendErrs := by decide +kernel
  have hdg : ∀ s c₁, acceptMsg (.calm {}) (readMsg (.calm {}) requestSent (forgedResponse 12)) =
      (some s, c₁) → c₁.msg.recvVersion = 2 ∧
        ∀ f ∈ requestSent.allFlows, (requestSent.heap f).kd.nonce ≠ c₁.msg.kd.nonce := by
    intro s c₁ h
    refine forged_accepted (P := fun r => r.2.msg.recvVersion = 2 ∧
        ∀ f ∈ requestSent.allFlows, (requestSent.heap f).kd.nonce ≠ r.2.msg.kd.nonce) ?_ h
    decide +kernel
  obtain ⟨-, hst⟩ := hall _ _ _ _ _ requestSent_reachable hstep (requestSent_notDue _) hsent hdg 0 hafter.1
    hafter.2
  rw [hbefore] at hst
  cases hst

end LibPcp
