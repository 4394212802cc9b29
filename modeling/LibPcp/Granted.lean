import LibPcp.Settled

/-!
# LibPcp.Granted

How a flow comes to be reported as succeeded.

`pfs_wait_for_lifetime_renew` is entered with a `SUCCESS` response, which brings the external address and
the lifetime. It is also entered when the request of a flow is skipped because its response has revealed a
restart of the server, and then nothing asks what that response was.

* `Act.ungranted`, `Act.mapping`: no act but a response or a revealed restart grants a flow anything or
  changes what has been granted to it.
* `granted_by_response`: without a restart that another response to the flow reveals, the flow has been
  granted what the datagram of the pulse says.
-/

namespace LibPcp

open LabelledSteps

/-! ## Events -/

/-- The states in which a flow is reported as succeeded. -/
def FlowState.Succeeded (st : FlowState) : Prop := st = .waitForLifetimeRenew ∨ st = .sendRenew

instance (st : FlowState) : Decidable st.Succeeded := inferInstanceAs (Decidable (_ ∨ _))

/-- From another state only a success, or a request that is skipped, leads to these. -/
theorem nextState_succeeded {cur next : FlowState} {ev : FlowEvent} (h : nextState cur ev = some next)
    (hcur : ¬ cur.Succeeded) (hnext : next.Succeeded) :
    ev = .ignored ∨ (cur = .waitResp ∧ ev = .res resSuccess) := by
  obtain ⟨r, hr, hfrom, heq⟩ := nextState_row h
  have htable : ∀ r ∈ flowEventsSm, r.2.2.Succeeded → r.2.1 = .ignored ∨
      (r.1 = some .waitResp ∧ r.2.1 = .res resSuccess) ∨ r.1 = some .waitForLifetimeRenew ∨
      r.1 = some .sendRenew := by
    decide
  have hcase := htable r hr
  rw [heq] at hcase
  rcases hcase hnext with h | ⟨h, hev⟩ | h | h
  · exact .inl h
  · rw [h] at hfrom
    simp only [Option.some.injEq, reduceCtorEq, or_false] at hfrom
    exact .inr ⟨hfrom.symm, hev⟩
  · rw [h] at hfrom
    simp only [Option.some.injEq, reduceCtorEq, or_false] at hfrom
    exact absurd (.inl hfrom.symm) hcur
  · rw [h] at hfrom
    simp only [Option.some.injEq, reduceCtorEq, or_false] at hfrom
    exact absurd (.inr hfrom.symm) hcur

theorem flowStep_ungranted {x : FlowEnv} {ev : FlowEvent} {v : Flow} (io : Io) (hev : ev ≠ .msgSent)
    (hig : ev ≠ .ignored) (hst : ¬ v.state.Succeeded) (hsucc : v.state = .waitResp → ev ≠ .res resSuccess)
    (hr : ∀ s, x.server = some s → s.restartFlowMsg ≠ some x.id) :
    ¬ (flowStep x ev v io).1.state.Succeeded := by
  have hother : ∀ {st : FlowState}, st = .waitResp ∨ st = .failed → ¬ st.Succeeded := by
    rintro st (rfl | rfl) <;> decide
  have hsend : ¬ (sendPhase x v io).1.state.Succeeded := by
    rcases sendPhase_state x v io with h | h | ⟨-, s, hs, hskip⟩
    · exact hother (.inl h)
    · exact hother (.inr h)
    · exact absurd hskip (hr s hs)
  rw [flowStep_eq x v io hev]
  cases hn : nextState v.state ev with
  | none => exact hst
  | some next =>
    have hnext : ¬ next.Succeeded := by
      intro hnext
      rcases nextState_succeeded hn hst hnext with h | ⟨h, heq⟩
      · exact hig h
      · exact hsucc h heq
    cases next with
    | idle => exact absurd rfl (nextState_cases hn).1
    | waitForServerInit =>
      have hst : ¬ FlowState.waitForServerInit.Succeeded := by decide
      simp only [flowPhase, fhndlClearTimeouts]
      cases x.msg <;> exact hst
    | send =>
      simp only [flowPhase]
      split
      · exact hother (resendPhase_state x v io)
      · exact hsend
    | waitResp => exact hother (waitPhase_state x v io)
    | waitAfterShortLifeError =>
      have hst : ¬ FlowState.waitAfterShortLifeError.Succeeded := by decide
      simp only [flowPhase, fhndlShortlifeerror]
      cases x.msg <;> exact hst
    | waitForLifetimeRenew => exact absurd (.inl rfl) hnext
    | sendRenew => exact absurd (.inr rfl) hnext
    | failed => exact hother (.inr (failPhase_state x v io))

/-! ## Mappings -/

/-- What the application is told about a mapping: the external address and port, and when it expires. -/
def Flow.mapping (v : Flow) : In6Addr × UInt16 × Int := (v.extIp, v.extPort, v.recvLifetime)

/-- The mapping a success response grants to a MAP or PEER flow. -/
def RecvMsg.grant (m : RecvMsg) : In6Addr × UInt16 × Int :=
  (m.assignedExtIp, m.assignedExtPort,
    if (m.recvLifetime.toNat : Int) > longMax - m.receivedTime then longMax
    else m.receivedTime + m.recvLifetime.toNat)

theorem takeSuccess_mapping (cfg : Config) (m : RecvMsg) {v : Flow}
    (h : v.kd.operation = opcodeMap ∨ v.kd.operation = opcodePeer) :
    (takeSuccess cfg m v).mapping = m.grant := by
  unfold takeSuccess
  dsimp only
  rw [if_pos h]
  rfl

theorem flowStep_granted {x : FlowEnv} {m : RecvMsg} {v : Flow} (io : Io) (hm : x.msg = some m)
    (hop : v.kd.operation = opcodeMap ∨ v.kd.operation = opcodePeer) (hst : v.state = .waitResp) :
    (flowStep x (.res resSuccess) v io).1.mapping = m.grant := by
  rw [flowStep_eq x v io (by simp), hst]
  have hn : nextState .waitResp (.res resSuccess) = some .waitForLifetimeRenew := by decide
  rw [hn]
  simp only [flowPhase, true_or, if_true, fhndlReceivedSuccess, hm]
  exact takeSuccess_mapping x.env.cfg m (v := { v with state := .waitForLifetimeRenew }) hop

/-- Without a message a flow keeps its mapping. -/
theorem flowStep_mapping {x : FlowEnv} {ev : FlowEvent} (v : Flow) (io : Io) (hev : ev ≠ .msgSent)
    (hm : x.msg = none) : (flowStep x ev v io).1.mapping = v.mapping := by
  obtain ⟨h₁, h₂, h₃⟩ := (flowStep_moves x v io hev).ext hm
  rw [Flow.mapping, h₁, h₂, h₃, Flow.mapping]

/-! ## Acts -/

/-- Flow `f` is not reported as succeeded, and no request of it is to be skipped. -/
structure Ungranted (c : Ctx) (f : FlowId) : Prop where
  alloc : f < c.heapTop
  state : ¬ (c.heap f).state.Succeeded
  restart : ∀ i, (c.pcpServers i).restartFlowMsg ≠ some f

section Acts

variable {e : Env} {s : Nat} {c c' : Ctx} {f : FlowId}

/-- Only the flow itself changes. -/
theorem Ungranted.setFlow (h : Ungranted c f) {g : FlowId} {v : Flow}
    (hv : g = f → ¬ v.state.Succeeded) : Ungranted (c.setFlow g v) f := by
  refine ⟨h.alloc, ?_, h.restart⟩
  by_cases hg : f = g
  · subst hg
    rw [Ctx.setFlow_heap, Function.update_self]
    exact hv rfl
  · rw [Ctx.setFlow_heap, Function.update_of_ne hg]
    exact h.state

theorem Ungranted.setServer (h : Ungranted c f) {i : Nat} {v : Server}
    (hv : v.restartFlowMsg ≠ some f) : Ungranted (c.setServer i v) f := by
  refine ⟨h.alloc, h.state, fun j => ?_⟩
  by_cases hj : j = i
  · subst hj
    rw [Ctx.setServer_pcpServers, Function.update_self]
    exact hv
  · rw [Ctx.setServer_pcpServers, Function.update_of_ne hj]
    exact h.restart j

theorem Ungranted.event (h : Ungranted c f) {g : FlowId} {ev : FlowEvent} {m : Option RecvMsg}
    (hev : ev ≠ .msgSent) (hig : ev ≠ .ignored)
    (hsucc : g = f → (c.heap f).state = .waitResp → ev ≠ .res resSuccess) :
    Ungranted (handleFlowEvent e c g ev m) f := by
  refine ⟨by rw [handleFlowEvent_heapTop]; exact h.alloc, ?_, fun i => ?_⟩
  · rw [handleFlowEvent_heap]
    by_cases hg : f = g
    · subst hg
      rw [Function.update_self]
      refine flowStep_ungranted _ hev hig h.state (hsucc rfl) fun v hv => ?_
      obtain ⟨i, hi, rfl⟩ := Option.map_eq_some_iff.mp (show serverOf c _ = some v from hv)
      exact h.restart i
    · rw [Function.update_of_ne hg]
      exact h.state
  · rw [handleFlowEvent_pcpServers]
    exact h.restart i

theorem FlowEvent.Plain.ne_ignored {ev : FlowEvent} (h : ev.Plain) : ev ≠ .ignored := by
  rintro rfl
  exact h

theorem Act.ungranted {k : ActKind} (h : Act e s k c c') (hresp : k ≠ .response) (hrev : k ≠ .reveal)
    (hu : Ungranted c f) : Ungranted c' f := by
  cases h with
  | tick c => exact ⟨hu.alloc, hu.state, hu.restart⟩
  | server c v h hp =>
    refine hu.setServer ?_
    rcases h.restartFlowMsg with h | h <;> rw [h]
    · exact hu.restart s
    · simp
  | reset c g r ho => exact hu.setFlow fun hg => hg ▸ hu.state
  | event c g ev ho hev =>
    exact hu.event hev.ne_msgSent hev.ne_ignored fun _ _ => hev.ne_res _
  | align k c g hk ht => exact hu.setFlow fun hg => hg ▸ hu.state
  | expire k c g hk ht =>
    have hal : Ungranted (c.tick.modFlow g alignTimer) f :=
      Ungranted.setFlow (c := c.tick) ⟨hu.alloc, hu.state, hu.restart⟩ fun hg => hg ▸ hu.state
    exact hal.event (by simp) (by simp) fun _ _ => by simp
  | response | extAddr => exact absurd rfl hresp
  | version c n => exact hu.setServer (hu.restart s)
  | reveal => exact absurd rfl hrev
  | putBack c g ho => exact hu.setFlow fun _ => show ¬ FlowState.waitForServerInit.Succeeded by decide
  | announce c =>
    have hring : (c.pcpServers s).restartFlowMsg ≠ some f := hu.restart s
    rcases createNatpmpAnnMsg_cases e c s with h | ⟨fl, -, -, -, -, -, -, h⟩ <;> rw [h]
    · exact Ungranted.setServer (c := c.callocCall) ⟨hu.alloc, hu.state, hu.restart⟩ hring
    · have hne : f ≠ c.heapTop := Nat.ne_of_lt hu.alloc
      refine ⟨Nat.lt_succ_of_lt hu.alloc, ?_, fun i => ?_⟩
      · simp only [pcpDbAddFlow, Ctx.modFlow, Ctx.modServer, Ctx.setFlow_heap, Ctx.setServer_heap,
          Function.update_of_ne hne]
        exact hu.state
      · by_cases hi : i = s
        · subst hi
          simpa [pcpDbAddFlow, Ctx.modFlow, Ctx.modServer, Ctx.callocCall] using hring
        · simpa [pcpDbAddFlow, Ctx.modFlow, Ctx.modServer, Ctx.callocCall, hi] using hu.restart i

theorem Acts.ungranted {K : List ActKind} (h : Acts e s K c c') (hresp : ActKind.response ∉ K)
    (hrev : ActKind.reveal ∉ K) (hu : Ungranted c f) : Ungranted c' f :=
  h.invariant (I := fun a => Ungranted a f) (fun _ _ _ ha hk hact =>
    hact.ungranted (fun hkind => hresp (hkind ▸ hk)) (fun hkind => hrev (hkind ▸ hk)) ha) hu

theorem handleFlowEvent_mapping (e : Env) (c : Ctx) (f g : FlowId) {ev : FlowEvent} (hev : ev ≠ .msgSent) :
    ((handleFlowEvent e c g ev none).heap f).mapping = (c.heap f).mapping := by
  rw [handleFlowEvent_heap]
  by_cases hg : f = g
  · subst hg
    rw [Function.update_self]
    exact flowStep_mapping _ _ hev rfl
  · rw [Function.update_of_ne hg]

theorem Act.mapping {k : ActKind} (h : Act e s k c c') (hresp : k ≠ .response) (hf : f < c.heapTop) :
    (c'.heap f).mapping = (c.heap f).mapping := by
  have hset : ∀ (a : Ctx) (g : FlowId) (v : Flow), v.mapping = (a.heap g).mapping →
      ((a.setFlow g v).heap f).mapping = (a.heap f).mapping := by
    intro a g v hv
    by_cases hg : f = g
    · subst hg
      rw [Ctx.setFlow_heap, Function.update_self, hv]
    · rw [Ctx.setFlow_heap, Function.update_of_ne hg]
  cases h with
  | tick | server | version | reveal => rfl
  | reset c g r ho => exact hset c g _ rfl
  | putBack c g ho => exact hset c g _ rfl
  | align k c g hk ht => exact hset c g _ rfl
  | event c g ev ho hev => exact handleFlowEvent_mapping e c f g hev.ne_msgSent
  | expire k c g hk ht =>
    exact (handleFlowEvent_mapping e _ f g (by simp)).trans (hset c.tick g _ rfl)
  | response | extAddr => exact absurd rfl hresp
  | announce c =>
    rcases createNatpmpAnnMsg_cases e c s with h | ⟨fl, -, -, -, -, -, -, h⟩ <;> rw [h]
    · rfl
    · have hne : f ≠ c.heapTop := Nat.ne_of_lt hf
      simp only [pcpDbAddFlow, Ctx.modFlow, Ctx.modServer, Ctx.setFlow_heap, Ctx.setServer_heap,
        Function.update_of_ne hne]
      rfl

theorem Acts.mapping {K : List ActKind} (h : Acts e s K c c') (hresp : ActKind.response ∉ K)
    (hf : f < c.heapTop) : (c'.heap f).mapping = (c.heap f).mapping := by
  have hinv := h.invariant
    (I := fun a => c.heapTop ≤ a.heapTop ∧ (a.heap f).mapping = (c.heap f).mapping)
    (fun k a b ha hk hact => ⟨Nat.le_trans ha.1 hact.frame.heapTop,
      (hact.mapping (fun hkind => hresp (hkind ▸ hk)) (Nat.lt_of_lt_of_le hf ha.1)).trans ha.2⟩)
    ⟨Nat.le_refl _, rfl⟩
  exact hinv.2

/-- A timeout of a server is no response. -/
theorem fire_unanswered (he : e.ClockMono) (hw : Wf c s) (hl : Live c s) (hd : Due e c s) :
    Acts e s [.own, .walk, .version, .announce] c (fire e s c) := by
  have hstart : Acts e s [.own, .walk, .version, .announce] c (alignNext c.tick s) := fireStart_acts
  have hw' := hstart.wf hw
  have hst : ((alignNext c.tick s).pcpServers s).serverState = (c.pcpServers s).serverState :=
    alignNext_state
  have hlive : ((alignNext c.tick s).pcpServers s).serverState ≠ .unitialized := hst ▸ hl.2
  obtain ⟨h, hh⟩ := serverHandler_total ((alignNext c.tick s).pcpServers s).serverState .timeout
  have hrun : Acts e s [.own, .walk, .version, .announce] (alignNext c.tick s)
      (h.run e (alignNext c.tick s) s).2 := by
    cases h with
    | notWorking =>
      -- the clock is read again, and does not go back
      refine (handleServerNotWorking_due ?_).2
      rw [alignNext, Ctx.setNextTimeout_self, us_timevalAlign]
      exact Int.le_trans hd.2 (he _ _ (Nat.le_succ _))
    | waitPingRespRecv | waitIoReceiveMsg =>
      exfalso
      revert hh
      cases ((alignNext c.tick s).pcpServers s).serverState <;> decide
    | terminate | ping | waitPingRespTimeout | versionNegotiation | sendAllMsgs | waitIoTimeout | restart
    | reping | setNotWorking | ignoreEvents | unexpected =>
      exact (ServerHandler.run_acts _ e hw').mono fun _ k hk => by revert hk; cases k <;> decide
  unfold LibPcp.fire
  rw [runServerStateMachine_eq hh]
  refine (hstart.trans hrun).trans (storeState_acts ?_ (h.run_live e hlive))
  rw [ne_eq, hrun.frame.same.live]
  exact hlive

/-! ## The message -/

/-- Matching a message fills in its external address and may store that of the server. -/
theorem matchRcvdMsg_eq (c : Ctx) (s : Nat) :
    ∃ ip na, (matchRcvdMsg c s).2 = { c.setServer s { c.pcpServers s with natpmpExtAddr := na } with
      msg := { c.msg with assignedExtIp := ip } } := by
  have hsame : c.setServer s { c.pcpServers s with natpmpExtAddr := (c.pcpServers s).natpmpExtAddr } = c := by
    simp [Ctx.setServer]
  unfold matchRcvdMsg
  dsimp only
  split
  · split
    · refine ⟨c.msg.assignedExtIp, c.msg.assignedExtIp.w3, ?_⟩
      split
      · split <;> rfl
      · rfl
    · refine ⟨.v4mapped (c.pcpServers s).natpmpExtAddr, (c.pcpServers s).natpmpExtAddr, ?_⟩
      rw [hsame]
  · refine ⟨c.msg.assignedExtIp, (c.pcpServers s).natpmpExtAddr, ?_⟩
    rw [hsame]

/-- The comparison looks at no other fields. -/
theorem compareEpochs_congr {m m' : RecvMsg} {v v' : Server} (h₁ : m'.recvEpoch = m.recvEpoch)
    (h₂ : m'.receivedTime = m.receivedTime) (h₃ : v'.epoch = v.epoch) (h₄ : v'.cepoch = v.cepoch) :
    (compareEpochs m' v').1 = (compareEpochs m v).1 := by
  unfold compareEpochs
  rw [h₁, h₂, h₃]
  split
  · rfl
  · dsimp only
    rw [h₃, h₄]

/-- The message is a success that `f` waits for. -/
def Succeeds (c : Ctx) (s : Nat) (f : FlowId) : Prop :=
  c.msg.recvResult = resSuccess ∧ (matchRcvdMsg c s).1 = some f ∧ (c.heap f).state = .waitResp

/-- What has come of the message in `c` for `f` when server `s` has processed it. -/
structure Processed (c : Ctx) (s : Nat) (f : FlowId) (c' : Ctx) : Prop where
  granted : Succeeds c s f → (c'.heap f).mapping = (matchRcvdMsg c s).2.msg.grant
  ungranted : ¬ Succeeds c s f → Ungranted c' f

/-- The message is handed to the flow it is matched to. -/
theorem serverProcessRcvdPcpMsg_processed (hu : Ungranted c f)
    (hop : (c.heap f).kd.operation = opcodeMap ∨ (c.heap f).kd.operation = opcodePeer) :
    Processed c s f (serverProcessRcvdPcpMsg e c s).2 := by
  obtain ⟨ip, na, heq⟩ := matchRcvdMsg_eq c s
  have hu₁ : Ungranted (matchRcvdMsg c s).2 f := by
    have hu' : Ungranted (c.setServer s { c.pcpServers s with natpmpExtAddr := na }) f :=
      hu.setServer (hu.restart s)
    rw [heq]
    exact ⟨hu'.alloc, hu'.state, hu'.restart⟩
  have hheap : (matchRcvdMsg c s).2.heap = c.heap := by rw [heq]; rfl
  have hres : (matchRcvdMsg c s).2.msg.recvResult = c.msg.recvResult := by rw [heq]
  unfold serverProcessRcvdPcpMsg
  refine ⟨fun hs => ?_, fun hs => ?_⟩
  · obtain ⟨hsucc, hmatch, hst⟩ := hs
    rcases hm : matchRcvdMsg c s with ⟨found, c₁⟩
    rw [hm] at hmatch hheap hres
    cases hmatch
    dsimp only at hheap hres ⊢
    rw [hres, hsucc, handleFlowEvent_heap, Function.update_self]
    refine flowStep_granted _ rfl ?_ ?_
    all_goals rw [hheap]
    · exact hop
    · exact hst
  · rcases hm : matchRcvdMsg c s with ⟨found, c₁⟩
    rw [Succeeds, hm] at hs
    rw [hm] at hu₁ hheap hres
    cases found with
    | none => exact hu₁
    | some g =>
      dsimp only at hheap hres ⊢
      refine hu₁.event (by simp) (by simp) fun hg hst hev => hs ⟨?_, congrArg some hg, ?_⟩
      · rw [hres] at hev
        exact FlowEvent.res.inj hev
      · rw [hheap] at hst
        exact hst

/-- The record of the server does not matter to the outcome, as long as no request is to be skipped. -/
theorem Processed.setServer (h : Processed c s f c') {i : Nat} {v : Server}
    (hv : ¬ Succeeds c s f → v.restartFlowMsg ≠ some f) : Processed c s f (c'.setServer i v) :=
  ⟨h.granted, fun hs => (h.ungranted hs).setServer (hv hs)⟩

theorem Processed.tick (h : Processed c s f c') : Processed c s f c'.tick :=
  ⟨h.granted, fun hs => ⟨(h.ungranted hs).alloc, (h.ungranted hs).state, (h.ungranted hs).restart⟩⟩

/-- An update of the record that leaves `restart_flow_msg` alone. -/
theorem Processed.modServer (h : Processed c s f c') {i : Nat} {g : Server → Server}
    (hg : (g (c'.pcpServers i)).restartFlowMsg = (c'.pcpServers i).restartFlowMsg) :
    Processed c s f (c'.modServer i g) :=
  h.setServer fun hs => hg ▸ (h.ungranted hs).restart i

theorem Processed.wakeNow (h : Processed c s f c') (i : Nat) : Processed c s f (e.wakeNow c' i) :=
  Processed.tick (h.modServer rfl)

/-- Processing the message in `c` makes server `s` take it for restarted. -/
def ShowsRestart (e : Env) (c : Ctx) (s : Nat) : Prop :=
  c.msg.recvResult ≠ resUnsuppVersion ∧ c.msg.recvResult ≠ resAddressMismatch ∧
    match (c.pcpServers s).serverState with
    | .waitIo | .waitPingResp => (compareEpochs c.msg (c.pcpServers s)).1 = true
    | .notWorking => (e.now c.io).us < (c.pcpServers s).nextTimeout.us
    | _ => False

/-- What processing leaves for the comparison of the epochs. -/
theorem serverProcessRcvdPcpMsg_epochs :
    (compareEpochs (serverProcessRcvdPcpMsg e c s).2.msg
      ((serverProcessRcvdPcpMsg e c s).2.pcpServers s)).1 =
      (compareEpochs c.msg (c.pcpServers s)).1 ∧
    (serverProcessRcvdPcpMsg e c s).1 = (matchRcvdMsg c s).1 := by
  obtain ⟨ip, na, heq⟩ := matchRcvdMsg_eq c s
  have hself : ((matchRcvdMsg c s).2.pcpServers s) = { c.pcpServers s with natpmpExtAddr := na } := by
    rw [heq]
    exact Function.update_self ..
  have hcmp : (compareEpochs (matchRcvdMsg c s).2.msg ((matchRcvdMsg c s).2.pcpServers s)).1 =
      (compareEpochs c.msg (c.pcpServers s)).1 := by
    rw [hself, heq]
    exact compareEpochs_congr rfl rfl rfl rfl
  unfold serverProcessRcvdPcpMsg
  rcases hm : matchRcvdMsg c s with ⟨found, c₁⟩
  rw [hm] at hcmp
  cases found with
  | none => exact ⟨hcmp, rfl⟩
  | some g =>
    refine ⟨?_, rfl⟩
    dsimp only
    rw [handleFlowEvent_pcpServers, handleFlowEvent_msg]
    exact hcmp

theorem handleWaitIoReceiveMsg_processed (hu : Ungranted c f)
    (hop : (c.heap f).kd.operation = opcodeMap ∨ (c.heap f).kd.operation = opcodePeer)
    (hshown : (matchRcvdMsg c s).1 = some f → c.msg.recvResult ≠ resUnsuppVersion →
      c.msg.recvResult ≠ resAddressMismatch → (compareEpochs c.msg (c.pcpServers s)).1 = true →
      Succeeds c s f) : Processed c s f (handleWaitIoReceiveMsg e c s).2 := by
  have hproc := serverProcessRcvdPcpMsg_processed (e := e) (s := s) hu hop
  obtain ⟨hepochs, hfound⟩ := serverProcessRcvdPcpMsg_epochs (e := e) (c := c) (s := s)
  have hunsucc : c.msg.recvResult = resUnsuppVersion ∨ c.msg.recvResult = resAddressMismatch →
      Processed c s f c := by
    refine fun hres => ⟨fun hs => ?_, fun _ => hu⟩
    rw [hs.1] at hres
    exact absurd hres (by decide)
  rcases handleWaitIoReceiveMsg_cases e c s with
    ⟨hres, h⟩ | ⟨hres, h⟩ | ⟨hun, hmis, g, c₁, hp, ⟨hcmp, c₂, rfl, h⟩ | ⟨hcmp, h⟩⟩
  all_goals
    rw [h]
    dsimp only
  · exact Processed.modServer ((hunsucc (.inl hres)).wakeNow s) rfl
  · exact (hunsucc (.inr hres)).wakeNow s
  · rw [hp] at hproc hepochs hfound
    have hkept := hproc.setServer (i := s) (v := (compareEpochs c₁.msg (c₁.pcpServers s)).2)
      fun hs => (compareEpochs_restart _ _).symm ▸ (hproc.ungranted hs).restart s
    refine Processed.setServer (.wakeNow (.modServer hkept rfl) s) fun hs hg => hs ?_
    exact hshown (hfound.symm.trans hg) hun hmis (hepochs.symm.trans hcmp)
  · rw [hp] at hproc
    exact (hproc.setServer fun hs => (compareEpochs_restart _ _).symm ▸ (hproc.ungranted hs).restart s).wakeNow s

/-- Setting the timer changes nothing for the message. -/
theorem matchRcvdMsg_setNextTimeout (c : Ctx) (s : Nat) (t : Timeval) :
    (matchRcvdMsg (c.tick.setNextTimeout s t) s).1 = (matchRcvdMsg c s).1 ∧
      (matchRcvdMsg (c.tick.setNextTimeout s t) s).2.msg = (matchRcvdMsg c s).2.msg := by
  have hself : (c.tick.setNextTimeout s t).pcpServers s = { c.pcpServers s with nextTimeout := t } :=
    Ctx.setNextTimeout_self c.tick s t
  have hget : ∀ kd, pcpGetFlow (c.tick.setNextTimeout s t) kd s = pcpGetFlow c kd s := by
    intro kd
    unfold pcpGetFlow
    rw [hself]
    rfl
  unfold matchRcvdMsg
  rw [hself]
  dsimp only
  rw [hget]
  have hmsg : (c.tick.setNextTimeout s t).msg = c.msg := rfl
  have hheap : (c.tick.setNextTimeout s t).heap = c.heap := rfl
  rw [hmsg, hheap]
  repeat' split
  all_goals first | exact ⟨rfl, rfl⟩ | contradiction

theorem succeeds_setNextTimeout (t : Timeval) :
    Succeeds (c.tick.setNextTimeout s t) s f ↔ Succeeds c s f := by
  unfold Succeeds
  rw [(matchRcvdMsg_setNextTimeout c s t).1]
  rfl

theorem Processed.of_setNextTimeout {t : Timeval} (h : Processed (c.tick.setNextTimeout s t) s f c') :
    Processed c s f c' := by
  refine ⟨fun hs => ?_, fun hs => h.ungranted fun hs' => hs ((succeeds_setNextTimeout t).mp hs')⟩
  rw [← (matchRcvdMsg_setNextTimeout c s t).2]
  exact h.granted ((succeeds_setNextTimeout t).mpr hs)

/-- The flow has been granted the mapping of a success it waited for, or nothing. -/
def Outcome (c : Ctx) (s : Nat) (f : FlowId) (c' : Ctx) : Prop :=
  Ungranted c' f ∨ (Succeeds c s f ∧ (c'.heap f).mapping = (matchRcvdMsg c s).2.msg.grant)

theorem Processed.outcome (h : Processed c s f c') : Outcome c s f c' := by
  by_cases hs : Succeeds c s f
  · exact .inr ⟨hs, h.granted hs⟩
  · exact .inl (h.ungranted hs)

theorem handleServerNotWorking_outcome (hu : Ungranted c f)
    (hop : (c.heap f).kd.operation = opcodeMap ∨ (c.heap f).kd.operation = opcodePeer)
    (hshown : (matchRcvdMsg c s).1 = some f → c.msg.recvResult ≠ resUnsuppVersion →
      c.msg.recvResult ≠ resAddressMismatch → (e.now c.io).us < (c.pcpServers s).nextTimeout.us →
      Succeeds c s f) : Outcome c s f (handleServerNotWorking e c s).2 := by
  have hu₁ : ∀ t, Ungranted (c.tick.setNextTimeout s t) f := fun t =>
    Ungranted.setServer (c := c.tick) ⟨hu.alloc, hu.state, hu.restart⟩ (hu.restart s)
  unfold handleServerNotWorking
  dsimp only
  split
  · rename_i hlt
    rw [timevalComp_lt] at hlt
    split
    · exact .inl (hu₁ _)
    · rename_i hres
      obtain ⟨hun, hmis⟩ := not_or.mp hres
      have hproc := serverProcessRcvdPcpMsg_processed (e := e) (s := s)
        (hu₁ (timevalComp (e.now c.io) (c.pcpServers s).nextTimeout).2.2) hop
      have hfound := (serverProcessRcvdPcpMsg_epochs (e := e) (s := s)
        (c := c.tick.setNextTimeout s (timevalComp (e.now c.io) (c.pcpServers s).nextTimeout).2.2)).2
      rw [(matchRcvdMsg_setNextTimeout c s _).1] at hfound
      refine Processed.outcome
        (.setServer (.wakeNow (.modServer hproc.of_setNextTimeout rfl) s) fun hs hg => hs ?_)
      exact hshown (hfound.symm.trans hg) hun hmis hlt
  · exact .inl (Ungranted.setServer (hu₁ _) ((hu₁ _).restart s))

/-- A message is dispatched to a server that is not in a transient state. -/
theorem recv_outcome (hok : CtxOk c) (hl : Live c s) (hst : (c.pcpServers s).serverState.Transient = false)
    (hu : Ungranted c f)
    (hop : (c.heap f).kd.operation = opcodeMap ∨ (c.heap f).kd.operation = opcodePeer)
    (hshown : (matchRcvdMsg c s).1 = some f → ShowsRestart e c s → Succeeds c s f) :
    Outcome c s f (runServerStateMachine e c s .ioEvent) := by
  have hstored : ∀ {b : Ctx} {st : ServerState}, Outcome c s f b →
      Outcome c s f (b.modServer s fun v => { v with serverState := st }) := by
    rintro b st (h | h)
    · exact .inl (h.setServer (h.restart s))
    · exact .inr h
  have hw := hok.wf s
  obtain ⟨h, hh⟩ := serverHandler_total (c.pcpServers s).serverState .ioEvent
  rw [runServerStateMachine_eq hh]
  refine hstored ?_
  unfold ShowsRestart at hshown
  cases hstate : (c.pcpServers s).serverState with
  | unitialized => exact absurd hstate hl.2
  | allocated | ping =>
    rw [hstate] at hh
    obtain rfl := Option.some.inj hh
    exact .inl ((ServerHandler.run_acts _ e hw).ungranted (by decide) (by decide) hu)
  | waitPingResp =>
    rw [hstate] at hh hshown
    obtain rfl := Option.some.inj hh
    simp only [ServerHandler.run, handleWaitPingRespRecv_snd]
    exact (handleWaitIoReceiveMsg_processed hu hop fun hm hun hmis hcmp =>
      hshown hm ⟨hun, hmis, hcmp⟩).outcome
  | waitIo =>
    rw [hstate] at hh hshown
    obtain rfl := Option.some.inj hh
    exact (handleWaitIoReceiveMsg_processed hu hop fun hm hun hmis hcmp =>
      hshown hm ⟨hun, hmis, hcmp⟩).outcome
  | notWorking =>
    rw [hstate] at hh hshown
    obtain rfl := Option.some.inj hh
    exact handleServerNotWorking_outcome hu hop fun hm hun hmis hlt => hshown hm ⟨hun, hmis, hlt⟩
  | versionNegotiation | sendAllMsgs | waitIoCalcNearestTimeout | serverRestart | serverReping
  | setNotWorking =>
    rw [hstate] at hst
    cases hst

/-- No step of a pulse after the first is a response. -/
theorem Micro.unanswered {l : MicroOp} (h : Micro e l c c') (hl : l.isTimer) (he : e.ClockMono)
    (hok : CtxOk c) : ∃ i, Acts e i [.own, .walk, .version, .announce] c c' := by
  cases h with
  | @fire i _ hli hd => exact ⟨i, fire_unanswered he (hok.wf i) hli hd⟩
  | @settle i _ hli hd => exact ⟨i, settle_acts⟩
  | call | close | quiet | drop | recv => cases hl

theorem Outcome.acts {a : Ctx} {i : Nat} (h : Outcome c s f a)
    (hacts : Acts e i [.own, .walk, .version, .announce] a c') (hf : f < a.heapTop) :
    Outcome c s f c' := by
  rcases h with h | ⟨hs, hmap⟩
  · exact .inl (hacts.ungranted (by decide) (by decide) h)
  · exact .inr ⟨hs, (hacts.mapping (by decide) hf).trans hmap⟩

theorem TimerSteps.outcome {a : Ctx} (h : TimerSteps e a c') (he : e.ClockMono) (hok : CtxOk a)
    (hout : Outcome c s f a) (hf : f < a.heapTop) : Outcome c s f c' := by
  have hinv := h.invariant (I := fun b => CtxOk b ∧ f < b.heapTop ∧ Outcome c s f b)
    (fun l x y hi hl hm => by
      obtain ⟨i, hacts⟩ := hm.unanswered hl he hi.1
      exact ⟨hm.ctxOk (MicroOp.isPulse_of_isTimer hl) hi.1,
        Nat.lt_of_lt_of_le hi.2.1 hacts.frame.heapTop, hi.2.2.acts hacts hi.2.1⟩)
    ⟨hok, hf, hout⟩
  exact hinv.2.2

theorem TimerSteps.ungranted (h : TimerSteps e c c') (he : e.ClockMono) (hok : CtxOk c)
    (hu : Ungranted c f) : Ungranted c' f := by
  have hinv := h.invariant (I := fun b => CtxOk b ∧ Ungranted b f)
    (fun l x y hi hl hm => by
      obtain ⟨i, hacts⟩ := hm.unanswered hl he hi.1
      exact ⟨hm.ctxOk (MicroOp.isPulse_of_isTimer hl) hi.1,
        hacts.ungranted (by decide) (by decide) hi.2⟩)
    ⟨hok, hu⟩
  exact hinv.2

end Acts

/-! ## Pulses -/

/-- The datagram is matched to `f` and reveals a restart of the server, but is no success that `f` waits
for. -/
def Discloses (e : Env) (c : Ctx) (f : FlowId) : Option Datagram → Prop
  | none => False
  | some dg => ∃ s a, acceptMsg e (readMsg e c dg) = (some s, a) ∧ (matchRcvdMsg a s).1 = some f ∧
      ShowsRestart e a s ∧ ¬ Succeeds a s f

/-- The datagram is a success response that is matched to `f`, and `v` has the mapping it grants. -/
def GrantedBy (e : Env) (c : Ctx) (f : FlowId) (dg : Option Datagram) (v : Flow) : Prop :=
  ∃ d s a, dg = some d ∧ acceptMsg e (readMsg e c d) = (some s, a) ∧ a.msg.recvResult = resSuccess ∧
    (matchRcvdMsg a s).1 = some f ∧ v.mapping = (matchRcvdMsg a s).2.msg.grant

/-- A MAP or PEER flow that is reported as succeeded after a pulse but not before it has been granted the
mapping of the response the pulse has found, provided that no other response matched to it reveals a
restart. -/
theorem granted_by_response {e : Env} {c c' : Ctx} (he : e.ClockMono) (hz : e.ClockNonzero)
    (h : BeforePulse e c) {n : Nat} {dg : Option Datagram} {t : Timeval} {t' : Option Timeval}
    (hp : pcpPulse e n c dg t = some (c', t')) {f : FlowId} (hf : f ∈ c.allFlows)
    (hop : (c.heap f).kd.operation = opcodeMap ∨ (c.heap f).kd.operation = opcodePeer)
    (hbefore : (c.heap f).state ≠ .waitForLifetimeRenew)
    (hafter : (c'.heap f).state = .waitForLifetimeRenew) (hdis : ¬ Discloses e c f dg) :
    GrantedBy e c f dg (c'.heap f) := by
  have hb := h.between he hz
  have hu : Ungranted c f := by
    refine ⟨hb.ok.alloc hf, ?_, fun i => ?_⟩
    · rintro (hst | hst)
      · exact hbefore hst
      · exact (hb.orderly.flow f hf).sendRenew hst
    · rw [hb.orderly.restart_none hb.steady i]
      simp
  have hno : ¬ Ungranted c' f := fun hu' => hu'.state (.inl hafter)
  have hmsg : ∀ m, Ungranted { c.tick with msg := m } f := fun m => ⟨hu.alloc, hu.state, hu.restart⟩
  obtain ⟨l, c₁, hl, hm, ht, -⟩ := pcpPulse_micro hp hb.ok
  have hok₁ := hm.ctxOk hl.isPulse hb.ok
  cases hm with
  | call | close | fire | settle => exact hl.elim
  | quiet =>
    have hu₁ : Ungranted { c with msg := .zero } f := ⟨hu.alloc, hu.state, hu.restart⟩
    exact absurd (ht.ungranted he hok₁ hu₁) hno
  | drop hacc =>
    obtain ⟨⟨m, rfl⟩, -⟩ := received_eq hacc
    exact absurd (ht.ungranted he hok₁ (hmsg m)) hno
  | @recv d s _ a hacc =>
    obtain rfl : dg = some d := hl
    have hok := hb.ok.received hacc
    obtain ⟨⟨m, rfl⟩, hlive⟩ := received_eq hacc
    have hout := recv_outcome (e := e) hok (hlive s rfl) (hb.steady s) (hmsg m) hop fun hmatch hshown => by
      by_contra hs
      exact hdis ⟨s, _, hacc, hmatch, hshown, hs⟩
    have hacts : Acts e s allKinds { c.tick with msg := m }
        (runServerStateMachine e { c.tick with msg := m } s .ioEvent) :=
      runServerStateMachine_allKinds .ioEvent (hok.wf s) (hlive s rfl).2
    rcases ht.outcome he hok₁ hout (Nat.lt_of_lt_of_le hu.alloc hacts.frame.heapTop) with hu' | ⟨hs, hmap⟩
    · exact absurd hu' hno
    · exact ⟨d, s, _, rfl, hacc, hs.1, hs.2.1, hmap⟩

/-! ## An answer, and an answer that comes after the server has been given up -/

/-- The answer to the MAP request of `waitingFlow`. -/
def mapGranted : Datagram := mapResponse 0 60 1000 0x0B000001

/-- The request waits for it. -/
def mapAsked : Ctx := runTo (.calm {}) (fun _ _ => True) 12 {} waitingFlow

/-- The server has been given up for an `ADDRESS_MISMATCH`, and the flow with it. -/
def mapRefused : Ctx :=
  runTo (.calm {}) (fun _ _ => True) 12 {} (waitingFlow ++ [.pulse (some (mapResponse 12 60 1000 0)) .zero])

/-- The context after a pulse with the answer. -/
def afterAnswer (c : Ctx) : Ctx := ((pcpPulse (.calm {}) 12 c (some mapGranted) .zero).map (·.1)).getD c

theorem afterAnswer_pulse {c : Ctx}
    (h : (pcpPulse (.calm {}) 12 c (some mapGranted) .zero).isSome = true) :
    ∃ t, pcpPulse (.calm {}) 12 c (some mapGranted) .zero = some (afterAnswer c, t) := by
  obtain ⟨⟨c', t⟩, hp⟩ := Option.isSome_iff_exists.mp h
  refine ⟨t, ?_⟩
  rw [afterAnswer, hp]
  rfl

theorem calm_clock : (Env.calm {}).ClockMono ∧ (Env.calm {}).ClockNonzero :=
  ⟨fun _ _ _ => Int.le_refl _, fun _ => show Timeval.us ⟨1000, 0⟩ ≠ 0 by decide⟩

theorem granted_by_response_asked :
    GrantedBy (.calm {}) mapAsked 0 (some mapGranted) ((afterAnswer mapAsked).heap 0) := by
  have hreach : Reachable (.calm {}) mapAsked := Runs.runTo (by decide +kernel)
  have hop : (mapAsked.heap 0).kd.operation = opcodeMap := by decide +kernel
  have hmem : 0 ∈ mapAsked.allFlows := by decide +kernel
  have hbefore : (mapAsked.heap 0).state = .waitResp := by decide +kernel
  have hafter : ((afterAnswer mapAsked).heap 0).state = .waitForLifetimeRenew := by decide +kernel
  obtain ⟨t, hp⟩ := afterAnswer_pulse (c := mapAsked) (by decide +kernel)
  refine granted_by_response calm_clock.1 calm_clock.2 (.inl hreach) hp hmem (.inl hop) ?_ hafter ?_
  · rw [hbefore]
    decide
  · rintro ⟨s, a, hacc, hmatch, -, hs⟩
    have hmsg : (acceptMsg (.calm {}) (readMsg (.calm {}) mapAsked mapGranted)).2.msg.recvResult = resSuccess ∧
        ((acceptMsg (.calm {}) (readMsg (.calm {}) mapAsked mapGranted)).2.heap 0).state = .waitResp := by
      decide +kernel
    rw [hacc] at hmsg
    exact hs ⟨hmsg.1, hmatch, hmsg.2⟩

/-- The flow is reported as succeeded without a mapping. -/
theorem granted_nothing :
    ¬ ∀ (e : Env) (c c' : Ctx), e.ClockMono → e.ClockNonzero → BeforePulse e c →
      ∀ (n : Nat) (dg : Option Datagram) (t : Timeval) (t' : Option Timeval),
        pcpPulse e n c dg t = some (c', t') → ∀ f ∈ c.allFlows,
          ((c.heap f).kd.operation = opcodeMap ∨ (c.heap f).kd.operation = opcodePeer) →
          (c.heap f).state ≠ .waitForLifetimeRenew → (c'.heap f).state = .waitForLifetimeRenew →
          GrantedBy e c f dg (c'.heap f) := by
  intro hall
  have hreach : Reachable (.calm {}) mapRefused := Runs.runTo (by decide +kernel)
  have hmem : 0 ∈ mapRefused.allFlows := by decide +kernel
  have hop : (mapRefused.heap 0).kd.operation = opcodeMap := by decide +kernel
  have hbefore : (mapRefused.heap 0).state = .failed := by decide +kernel
  have hafter : ((afterAnswer mapRefused).heap 0).state = .waitForLifetimeRenew := by decide +kernel
  have haccepted : (acceptMsg (.calm {}) (readMsg (.calm {}) mapRefused mapGranted)).1 = some 0 := by
    decide +kernel
  have hmapping : ((afterAnswer mapRefused).heap 0).mapping ≠ (matchRcvdMsg
      (acceptMsg (.calm {}) (readMsg (.calm {}) mapRefused mapGranted)).2 0).2.msg.grant := by
    decide +kernel
  have hne : (mapRefused.heap 0).state ≠ .waitForLifetimeRenew := by
    rw [hbefore]
    decide
  obtain ⟨t, hp⟩ := afterAnswer_pulse (c := mapRefused) (by decide +kernel)
  obtain ⟨d, s, a, hd, hacc, -, -, hmap⟩ := hall _ _ _ calm_clock.1 calm_clock.2 (.inl hreach) _ _ _ _ hp 0
    hmem (.inl hop) hne hafter
  cases hd
  rw [hacc] at haccepted hmapping
  cases haccepted
  exact hmapping hmap

end LibPcp
