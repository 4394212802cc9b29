import LibPcp.Calm

/-!
# LibPcp.Rest

Where a pulse leaves the servers and their flows.

Six states of a server are passed through within a pulse. A handler that enters one of them leaves
the server's timer on and not in the future, so the loop of `hserver_iter` goes on. `Poised` says so
for one server, together with what holds of its flows while it waits for messages: none waits for
the server, and when one is to be sent the server's timer has run out. `Orderly` is this for all
servers, with the timers of the flows that are to be sent.

* `run_poised`: what every handler leaves.
* `runServerStateMachine_orderly`: every dispatch keeps the order.
-/

namespace LibPcp

open LabelledSteps

/-- The states a server does not stay in. -/
def ServerState.Transient : ServerState → Bool
  | .versionNegotiation | .sendAllMsgs | .waitIoCalcNearestTimeout | .serverRestart
  | .serverReping | .setNotWorking => true
  | _ => false

/-- The server waits for messages, or is about to. -/
def ServerState.Listens (st : ServerState) : Prop := st = .waitIo ∨ st = .waitIoCalcNearestTimeout

instance (st : ServerState) : Decidable st.Listens := inferInstanceAs (Decidable (_ ∨ _))

/-- What holds of server `s` when it is in state `st`. -/
structure Poised (e : Env) (c : Ctx) (s : Nat) (st : ServerState) : Prop where
  live : st ≠ .unitialized → s < c.pcpServersLength
  ready : st.Transient = true → Woken e c (c.pcpServers s).nextTimeout
  restart : (c.pcpServers s).restartFlowMsg ≠ none → st = .serverRestart
  init : st.Listens → ∀ f ∈ c.allFlows, Belongs c s f → (c.heap f).state ≠ .waitForServerInit
  send : st.Listens → ∀ f ∈ c.allFlows, Belongs c s f → (c.heap f).state = .send →
    Woken e c (c.pcpServers s).nextTimeout

/-- What holds of a flow of the table. -/
structure FlowOrderly (e : Env) (c : Ctx) (f : FlowId) : Prop where
  idle : (c.heap f).state ≠ .idle
  sendRenew : (c.heap f).state ≠ .sendRenew
  due : SendDue e c f

structure Orderly (e : Env) (c : Ctx) : Prop where
  flow : ∀ f ∈ c.allFlows, FlowOrderly e c f
  slot : ∀ s, Poised e c s (c.pcpServers s).serverState

/-! ## Handlers -/

section Handlers

variable {e : Env} {s : Nat} {c c' : Ctx} {st : ServerState}

/-- A state that asks for nothing but a cleared `restart_flow_msg`. -/
theorem Poised.idle (hl : s < c.pcpServersLength) (ht : st.Transient = false) (hw : st ≠ .waitIo)
    (hr : (c.pcpServers s).restartFlowMsg = none) : Poised e c s st := by
  have hlisten : ¬ st.Listens := by
    rintro (rfl | rfl)
    · exact hw rfl
    · cases ht
  exact ⟨fun _ => hl, by simp [ht], fun h => absurd hr h, fun h => absurd h hlisten,
    fun h => absurd h hlisten⟩

/-- A transient state in which nothing is asked of the flows. -/
theorem Poised.woken (hl : s < c.pcpServersLength) (hw : Woken e c (c.pcpServers s).nextTimeout)
    (hst : ¬ st.Listens) (hr : (c.pcpServers s).restartFlowMsg ≠ none → st = .serverRestart) :
    Poised e c s st :=
  ⟨fun _ => hl, fun _ => hw, hr, fun h => absurd h hst, fun h => absurd h hst⟩

/-- No flow of the server waits for it or for its turn. -/
theorem Poised.quiet (hl : s < c.pcpServersLength)
    (hready : st.Transient = true → Woken e c (c.pcpServers s).nextTimeout)
    (hr : (c.pcpServers s).restartFlowMsg = none)
    (hf : ∀ f ∈ c.allFlows, Belongs c s f →
      (c.heap f).state ≠ .waitForServerInit ∧ (c.heap f).state ≠ .send) : Poised e c s st :=
  ⟨fun _ => hl, hready, fun h => absurd hr h, fun _ f hm hb => (hf f hm hb).1,
    fun _ f hm hb hst => absurd hst (hf f hm hb).2⟩

theorem wakeNow_woken (he : e.ClockMono) (hz : e.ClockNonzero) :
    Woken e (e.wakeNow c s) ((e.wakeNow c s).pcpServers s).nextTimeout := by
  rw [Env.wakeNow_self]
  exact .now he hz (Nat.le_succ _)

/-- Only a revealed restart sets `restart_flow_msg`. -/
theorem Act.restart_none {k : ActKind} (h : Act e s k c c') (hk : k ≠ .reveal)
    (hr : (c.pcpServers s).restartFlowMsg = none) : (c'.pcpServers s).restartFlowMsg = none := by
  cases h with
  | server c v h hp =>
    rw [Ctx.setServer_pcpServers, Function.update_self]
    exact h.restartFlowMsg.elim (fun h => h.trans hr) id
  | version c n =>
    rw [Ctx.modServer_self]
    exact hr
  | reveal => exact absurd rfl hk
  | event | expire | response => simpa [Ctx.modFlow] using hr
  | announce c =>
    rcases createNatpmpAnnMsg_cases e c s with h | ⟨fl, -, -, -, -, -, -, h⟩
    · rw [h]
      simpa [Ctx.modServer, Ctx.callocCall] using hr
    · rw [h]
      simpa [Ctx.modServer, Ctx.modFlow, pcpDbAddFlow, Ctx.callocCall] using hr
  | _ => exact hr

theorem Acts.restart_none {K : List ActKind} (h : Acts e s K c c') (hK : ActKind.reveal ∉ K)
    (hr : (c.pcpServers s).restartFlowMsg = none) : (c'.pcpServers s).restartFlowMsg = none :=
  h.invariant (I := fun b => (b.pcpServers s).restartFlowMsg = none)
    (fun _ _ _ ha hk hact => hact.restart_none (fun hkind => hK (hkind ▸ hk)) ha) hr

theorem handleServerPing_poised (hw : TableOk c) (hl : s < c.pcpServersLength)
    (hr : (c.pcpServers s).restartFlowMsg = none) :
    Poised e (handleServerPing e c s).2 s (handleServerPing e c s).1 := by
  have hacts : Acts e s [.own] c (handleServerPing e c s).2 := handleServerPing_acts hw
  have hl' : s < (handleServerPing e c s).2.pcpServersLength := hacts.frame.length ▸ hl
  have hr' := hacts.restart_none (by simp) hr
  rcases pingLoop_state e s (c.allFlows.length + 1)
    (c.modServer s fun v => { v with pingCount := 0 }) with hst | hst
  · exact .idle hl' (by simp [handleServerPing, hst, ServerState.Transient])
      (by simp [handleServerPing, hst]) hr'
  · exact .idle hl' (by simp [handleServerPing, hst, ServerState.Transient])
      (by simp [handleServerPing, hst]) hr'

theorem handleWaitPingRespTimeout_poised (he : e.ClockMono) (hz : e.ClockNonzero) (hw : Wf c s)
    (hl : s < c.pcpServersLength) (hr : (c.pcpServers s).restartFlowMsg = none) :
    Poised e (handleWaitPingRespTimeout e c s).2 s (handleWaitPingRespTimeout e c s).1 := by
  have hacts : Acts e s [.own] c (handleWaitPingRespTimeout e c s).2 := handleWaitPingRespTimeout_acts hw
  have hst : ¬ ServerState.setNotWorking.Listens := by decide
  have hl' := hacts.frame.length ▸ hl
  have hr' := hacts.restart_none (by simp) hr
  revert hl' hr'
  unfold handleWaitPingRespTimeout
  dsimp only
  split
  · intro hl' hr'
    exact .woken hl' (wakeNow_woken he hz) hst fun h => absurd hr' h
  · split
    · intro hl' hr'
      exact .idle hl' rfl (by simp) hr'
    · split
      · intro hl' hr'
        exact .woken hl' (wakeNow_woken he hz) hst fun h => absurd hr' h
      · intro hl' hr'
        exact .idle hl' rfl (by simp) hr'

/-! ### Received messages -/

theorem matchRcvdMsg_restart (c : Ctx) (s : Nat) :
    ((matchRcvdMsg c s).2.pcpServers s).restartFlowMsg = (c.pcpServers s).restartFlowMsg := by
  unfold matchRcvdMsg
  dsimp only
  repeat' split
  all_goals simp [Ctx.modServer]

theorem serverProcessRcvdPcpMsg_restart (hr : (c.pcpServers s).restartFlowMsg = none) :
    ((serverProcessRcvdPcpMsg e c s).2.pcpServers s).restartFlowMsg = none := by
  have hm := (matchRcvdMsg_restart c s).trans hr
  unfold serverProcessRcvdPcpMsg
  split
  · rename_i heq
    rw [heq] at hm
    exact hm
  · rename_i heq
    rw [heq] at hm
    rw [handleFlowEvent_pcpServers]
    exact hm

theorem compareEpochs_restart (m : RecvMsg) (v : Server) :
    (compareEpochs m v).2.restartFlowMsg = v.restartFlowMsg := by
  unfold compareEpochs
  dsimp only
  split <;> rfl

/-- The three ends of `handle_wait_io_receive_msg`. -/
theorem handleWaitIoReceiveMsg_cases (e : Env) (c : Ctx) (s : Nat) :
    (c.msg.recvResult = resUnsuppVersion ∧ handleWaitIoReceiveMsg e c s =
      (.versionNegotiation, (e.wakeNow c s).modServer s fun v =>
        { v with nextVersion := c.msg.recvVersion.toUInt8 })) ∨
    (c.msg.recvResult = resAddressMismatch ∧
      handleWaitIoReceiveMsg e c s = (.setNotWorking, e.wakeNow c s)) ∨
    (c.msg.recvResult ≠ resUnsuppVersion ∧ c.msg.recvResult ≠ resAddressMismatch ∧
      ∃ f c₁, serverProcessRcvdPcpMsg e c s = (f, c₁) ∧
        (((compareEpochs c₁.msg (c₁.pcpServers s)).1 = true ∧ ∃ c₂ : Ctx,
          c₂ = (c₁.setServer s (compareEpochs c₁.msg (c₁.pcpServers s)).2).modServer s
            (fun v => { v with epoch := c₁.msg.recvEpoch, cepoch := c₁.msg.receivedTime }) ∧
          handleWaitIoReceiveMsg e c s = (.serverRestart,
            (e.wakeNow c₂ s).modServer s fun v => { v with restartFlowMsg := f })) ∨
        ((compareEpochs c₁.msg (c₁.pcpServers s)).1 = false ∧ handleWaitIoReceiveMsg e c s =
          (.waitIoCalcNearestTimeout, e.wakeNow
            (c₁.setServer s (compareEpochs c₁.msg (c₁.pcpServers s)).2) s)))) := by
  unfold handleWaitIoReceiveMsg
  by_cases h₁ : c.msg.recvResult = resUnsuppVersion
  · exact .inl ⟨h₁, if_pos h₁⟩
  · rw [if_neg h₁]
    by_cases h₂ : c.msg.recvResult = resAddressMismatch
    · exact .inr (.inl ⟨h₂, if_pos h₂⟩)
    · rw [if_neg h₂]
      rcases serverProcessRcvdPcpMsg e c s with ⟨f, c₁⟩
      refine .inr (.inr ⟨h₁, h₂, f, c₁, rfl, ?_⟩)
      dsimp only
      cases hcmp : (compareEpochs c₁.msg (c₁.pcpServers s)).1 with
      | true => exact .inl ⟨rfl, _, rfl, if_pos rfl⟩
      | false => exact .inr ⟨rfl, if_neg (by simp)⟩

theorem handleWaitIoReceiveMsg_calm (hw : Wf c s) : Calm c (handleWaitIoReceiveMsg e c s).2 := by
  by_cases h : c.msg.recvResult = resUnsuppVersion
  · rw [handleWaitIoReceiveMsg, if_pos h]
    exact ⟨rfl, fun _ => .refl _⟩
  · exact (handleWaitIoReceiveMsg_acts hw).calm (by simp) fun _ => h

theorem handleWaitIoReceiveMsg_woken (he : e.ClockMono) (hz : e.ClockNonzero) :
    Woken e (handleWaitIoReceiveMsg e c s).2
      ((handleWaitIoReceiveMsg e c s).2.pcpServers s).nextTimeout := by
  have hmod : ∀ (b : Ctx) (g : Server → Server), (∀ v, (g v).nextTimeout = v.nextTimeout) →
      Woken e ((e.wakeNow b s).modServer s g) (((e.wakeNow b s).modServer s g).pcpServers s).nextTimeout := by
    intro b g hg
    rw [Ctx.modServer_self, hg]
    exact wakeNow_woken he hz
  rcases handleWaitIoReceiveMsg_cases e c s with
    ⟨-, h⟩ | ⟨-, h⟩ | ⟨-, -, f, c₁, -, ⟨-, c₂, -, h⟩ | ⟨-, h⟩⟩
  all_goals rw [h]
  · exact hmod c (fun v => { v with nextVersion := c.msg.recvVersion.toUInt8 }) fun _ => rfl
  · exact wakeNow_woken he hz
  · exact hmod c₂ (fun v => { v with restartFlowMsg := f }) fun _ => rfl
  · exact wakeNow_woken he hz

/-- `restart_flow_msg` is set only together with the state that clears it. -/
theorem handleWaitIoReceiveMsg_restart (hr : (c.pcpServers s).restartFlowMsg = none)
    (h : ((handleWaitIoReceiveMsg e c s).2.pcpServers s).restartFlowMsg ≠ none) :
    (handleWaitIoReceiveMsg e c s).1 = .serverRestart := by
  rcases handleWaitIoReceiveMsg_cases e c s with
    ⟨-, heq⟩ | ⟨-, heq⟩ | ⟨-, -, f, c₁, hp, ⟨-, c₂, -, heq⟩ | ⟨-, heq⟩⟩
  all_goals rw [heq] at h ⊢
  · rw [Ctx.modServer_self, Env.wakeNow_self] at h
    exact absurd hr h
  · rw [Env.wakeNow_self] at h
    exact absurd hr h
  · -- processing the message itself only matches it and hands it to the flow
    have hkeep : (c₁.pcpServers s).restartFlowMsg = none := by
      have hproc := serverProcessRcvdPcpMsg_restart (e := e) hr
      rw [hp] at hproc
      exact hproc
    rw [Env.wakeNow_self, Ctx.setServer_pcpServers, Function.update_self] at h
    exact absurd ((compareEpochs_restart c₁.msg (c₁.pcpServers s)).trans hkeep) h

theorem handleWaitIoReceiveMsg_poised (he : e.ClockMono) (hz : e.ClockNonzero) (hw : Wf c s)
    (hl : s < c.pcpServersLength) (hp : Poised e c s .waitIo) :
    Poised e (handleWaitIoReceiveMsg e c s).2 s (handleWaitIoReceiveMsg e c s).1 := by
  have hframe := (handleWaitIoReceiveMsg_acts (e := e) hw).frame
  have hcalm := handleWaitIoReceiveMsg_calm (e := e) hw
  have hwoken := handleWaitIoReceiveMsg_woken (s := s) (c := c) he hz
  have hr : (c.pcpServers s).restartFlowMsg = none := by
    by_contra hne
    cases hp.restart hne
  have hbel : ∀ f ∈ (handleWaitIoReceiveMsg e c s).2.allFlows,
      Belongs (handleWaitIoReceiveMsg e c s).2 s f → f ∈ c.allFlows ∧ Belongs c s f := by
    intro f hf hb
    have hf' : f ∈ c.allFlows := hcalm.allFlows ▸ hf
    exact ⟨hf', Part.belongs ⟨hframe, hcalm⟩ (hw.alloc hf') hb⟩
  refine ⟨fun _ => hframe.length ▸ hl, fun _ => hwoken, handleWaitIoReceiveMsg_restart hr,
    fun _ f hf hb => ?_, fun _ _ _ _ _ => hwoken⟩
  obtain ⟨hf, hb⟩ := hbel f hf hb
  exact (hcalm.flow f).ne (by decide) (hp.init (.inl rfl) f hf hb)

/-- The answer to a ping: the same handler, but then the flows are all sent. -/
theorem handleWaitPingRespRecv_poised (he : e.ClockMono) (hz : e.ClockNonzero) (hw : Wf c s)
    (hl : s < c.pcpServersLength) (hr : (c.pcpServers s).restartFlowMsg = none) :
    Poised e (handleWaitPingRespRecv e c s).2 s (handleWaitPingRespRecv e c s).1 := by
  have hframe := (handleWaitIoReceiveMsg_acts (e := e) hw).frame
  have hwoken := handleWaitIoReceiveMsg_woken (s := s) (c := c) he hz
  have hrestart := handleWaitIoReceiveMsg_restart (e := e) hr
  have hstates := handleWaitPingRespRecv_state e c s
  rw [handleWaitPingRespRecv_snd]
  refine .woken (hframe.length ▸ hl) hwoken ?_ fun h => ?_
  · rcases hstates with h | h | h | h
    all_goals rw [h]; decide
  · have hst := hrestart h
    unfold handleWaitPingRespRecv
    rcases hr : handleWaitIoReceiveMsg e c s with ⟨st, b⟩
    rw [hr] at hst
    simp only at hst
    subst hst
    rfl

theorem handleServerNotWorking_calm (hw : Wf c s) : Calm c (handleServerNotWorking e c s).2 := by
  by_cases h : c.msg.recvResult = resUnsuppVersion
  · unfold handleServerNotWorking
    dsimp only
    split
    · rw [if_pos]
      · exact ⟨rfl, fun _ => .refl _⟩
      · exact .inl h
    · exact ⟨rfl, fun _ => .refl _⟩
  · exact (handleServerNotWorking_acts hw).calm (by simp) fun _ => h

theorem handleServerNotWorking_poised (he : e.ClockMono) (hz : e.ClockNonzero) (hw : Wf c s)
    (hl : s < c.pcpServersLength) (hr : (c.pcpServers s).restartFlowMsg = none) :
    Poised e (handleServerNotWorking e c s).2 s (handleServerNotWorking e c s).1 := by
  have hl' := (handleServerNotWorking_acts (e := e) hw).frame.length ▸ hl
  have hset : ∀ t, ((c.tick.setNextTimeout s t).pcpServers s).restartFlowMsg = none := by
    intro t
    rw [Ctx.setNextTimeout_self]
    exact hr
  revert hl'
  unfold handleServerNotWorking
  dsimp only
  split
  · split
    · intro hl'
      exact .idle hl' rfl (by simp) (hset _)
    · intro hl'
      refine .woken hl' ?_ (show ¬ ServerState.serverRestart.Listens by decide) fun _ => rfl
      rw [Ctx.modServer_self]
      exact wakeNow_woken he hz
  · intro hl'
    refine .woken hl' ?_ (show ¬ ServerState.serverReping.Listens by decide) fun h => ?_
    · rw [Ctx.setNextTimeout_self, timevalComp_snd]
      exact (Woken.now he hz (Nat.le_succ _)).later he (Nat.le_refl _) (us_timevalAlign _)
    · rw [Ctx.setNextTimeout_self, Ctx.setNextTimeout_self] at h
      exact absurd hr h

/-! ### Passes -/

theorem handleSendAllMsgs_poised (he : e.ClockMono) (hz : e.ClockNonzero) (hw : TableOk c)
    (hl : s < c.pcpServersLength) (hr : (c.pcpServers s).restartFlowMsg = none) :
    Poised e (handleSendAllMsgs e c s).2 s (handleSendAllMsgs e c s).1 := by
  obtain ⟨hpart, hall⟩ := sendEventAll_initialized (e := e) (s := s) hw
  have hacts : Acts e s [.own] c (handleSendAllMsgs e c s).2 := handleSendAllMsgs_acts hw
  refine .quiet (hacts.frame.length ▸ hl) (fun _ => wakeNow_woken he hz)
    (hacts.restart_none (by simp) hr) fun f hf hb => ?_
  have hf' : f ∈ c.allFlows := hpart.calm.allFlows ▸ hf
  refine hall f hf' ?_
  rw [Belongs, handleSendAllMsgs, Env.wakeNow_self] at hb
  exact hb

theorem handleServerRestart_poised (he : e.ClockMono) (hz : e.ClockNonzero) (hw : TableOk c)
    (hl : s < c.pcpServersLength) :
    Poised e (handleServerRestart e c s).2 s (handleServerRestart e c s).1 := by
  obtain ⟨hpart, hall⟩ := sendEventAll_restarted (e := e) (s := s) hw
  have hacts : Acts e s [.own] c (handleServerRestart e c s).2 := handleServerRestart_acts hw
  refine .quiet (hacts.frame.length ▸ hl) (fun _ => wakeNow_woken he hz) ?_ fun f hf hb => ?_
  · rw [handleServerRestart, Env.wakeNow_self, Ctx.modServer_self]
  · have hf' : f ∈ c.allFlows := hpart.calm.allFlows ▸ hf
    have ha : ((handleServerRestart e c s).2.heap f).state.Active := by
      refine hall f hf' ?_
      rw [Belongs, handleServerRestart, Env.wakeNow_self, Ctx.modServer_self] at hb
      exact hb
    exact ⟨ha.ne (by decide), ha.ne (by decide)⟩

theorem handleWaitIoTimeout_part (hw : TableOk c) : Part s c (handleWaitIoTimeout e c s).2 :=
  (handleWaitIoTimeout_acts hw).part

theorem handleWaitIoTimeout_poised (he : e.ClockMono) (hw : TableOk c) (hl : s < c.pcpServersLength)
    (hst : st.Listens) (hp : Poised e c s st) (hd : ∀ f ∈ c.allFlows, SendDue e c f) :
    Poised e (handleWaitIoTimeout e c s).2 s (handleWaitIoTimeout e c s).1 := by
  have hpart : Part s c (handleWaitIoTimeout e c s).2 := handleWaitIoTimeout_part hw
  have hacts : Acts e s [.own, .walk] c (handleWaitIoTimeout e c s).2 := handleWaitIoTimeout_acts hw
  have hr : (c.pcpServers s).restartFlowMsg = none := by
    by_contra hne
    have := hp.restart hne
    subst this
    exact absurd hst (by decide)
  have hsent : ∀ f ∈ c.allFlows, ((handleWaitIoTimeout e c s).2.heap f).state ≠ .send := by
    have hpass := (timerPass_sent (s := s) (c := c.setNextTimeout s .zero) he
      ⟨hw.bucket, hw.nodup, hw.fresh⟩ hd).2
    unfold handleWaitIoTimeout
    dsimp only
    split
    · exact hpass
    · exact hpass
  refine .quiet (hpart.frame.length ▸ hl) ?_ (hacts.restart_none (by simp) hr) fun f hf hb => ?_
  · rw [handleWaitIoTimeout_state]
    simp [ServerState.Transient]
  · have hf' : f ∈ c.allFlows := hpart.calm.allFlows ▸ hf
    have hlt : f < c.heapTop := hw.alloc hf'
    exact ⟨(hpart.calm.flow f).ne (by decide) (hp.init hst f hf' (hpart.belongs hlt hb)), hsent f hf'⟩

/-! ### Version negotiation -/

/-- What version negotiation of `s` does to the flows: flows of other servers stay calm, flows of its
own may wait for the server again, and a flow that comes is a flow of `s` that has been sent. -/
structure Renegotiated (s : Nat) (c c' : Ctx) : Prop where
  flow : ∀ f, f < c.heapTop → (c.heap f).Calm (c'.heap f) ∨
    (Belongs c s f ∧ (c'.heap f).state = .waitForServerInit)
  table : ∀ f ∈ c'.allFlows, f ∈ c.allFlows ∨ (c.heapTop ≤ f ∧ Belongs c' s f ∧ (c'.heap f).state.Active)

theorem Calm.renegotiated (h : Calm c c') : Renegotiated s c c' :=
  ⟨fun f _ => .inl (h.flow f), fun _ hf => .inl (h.allFlows ▸ hf)⟩

/-- The flow that pings is in an active state afterwards. -/
theorem negotiationPing_calm (p : FlowId) :
    Calm c (negotiationPing e c s p).2 ∧ ((negotiationPing e c s p).2.heap p).state.Active := by
  have hreset : Calm c (c.modFlow p (Flow.resetCount 0)) :=
    .update (f := p) (v := (c.heap p).resetCount 0) rfl (.inl ⟨rfl, rfl⟩) rfl
  have hev : Calm (c.modFlow p (Flow.resetCount 0))
      (handleFlowEvent e (c.modFlow p (Flow.resetCount 0)) p .send none) :=
    handleFlowEvent_calm e _ p none (by simp) (by simp)
  have hact : ((handleFlowEvent e (c.modFlow p (Flow.resetCount 0)) p .send none).heap p).state.Active := by
    rw [handleFlowEvent_heap, Function.update_self]
    refine flowStep_active _ (by simp) (by simp) ?_
    generalize ((c.modFlow p (Flow.resetCount 0)).heap p).state = cur
    cases cur <;> decide
  have heq : (negotiationPing e c s p).2 =
      handleFlowEvent e (c.modFlow p (Flow.resetCount 0)) p .send none ∨
      ∃ t, (negotiationPing e c s p).2 =
        (handleFlowEvent e (c.modFlow p (Flow.resetCount 0)) p .send none).setNextTimeout s t := by
    unfold negotiationPing
    dsimp only
    split
    · exact .inl rfl
    · exact .inr ⟨_, rfl⟩
  rcases heq with heq | ⟨t, heq⟩
  · rw [heq]
    exact ⟨hreset.trans hev, hact⟩
  · rw [heq]
    exact ⟨(hreset.trans hev).trans ⟨rfl, fun _ => .refl _⟩, hact⟩

theorem negotiationEnd_calm (p : Option FlowId) :
    Calm c (negotiationEnd e s (p, c)).2 ∧
      ∀ q, p = some q → ((negotiationEnd e s (p, c)).2.heap q).state.Active := by
  have hping : Calm c (getPingMsg c s).2 := ⟨rfl, fun _ => .refl _⟩
  cases p with
  | some q =>
    refine ⟨(negotiationPing_calm q).1, fun q' hq => ?_⟩
    cases hq
    exact (negotiationPing_calm q).2
  | none =>
    refine ⟨?_, by simp⟩
    simp only [negotiationEnd]
    rcases hg : getPingMsg c s with ⟨found, c₁⟩
    rw [hg] at hping
    cases found with
    | some q => exact hping.trans (negotiationPing_calm q).1
    | none => exact hping.trans ⟨rfl, fun _ => .refl _⟩

/-- Putting the ping flow back and making an announcement instead. -/
theorem natpmpPingMsg_flows (hw : Wf c s) :
    (∀ f, f < c.heapTop → (c.heap f).Calm ((natpmpPingMsg e c s).2.heap f) ∨
      (Belongs c s f ∧ ((natpmpPingMsg e c s).2.heap f).state = .waitForServerInit)) ∧
    ∀ f ∈ (natpmpPingMsg e c s).2.allFlows, f ∈ c.allFlows ∨
      (c.heapTop ≤ f ∧ (natpmpPingMsg e c s).1 = some f ∧ Belongs (natpmpPingMsg e c s).2 s f) := by
  -- the context in which the announcement is made
  obtain ⟨b, hb, htop, hflows, hserv, hheap⟩ : ∃ b : Ctx,
      natpmpPingMsg e c s = createNatpmpAnnMsg e b s ∧ b.heapTop = c.heapTop ∧ b.flows = c.flows ∧
      b.pcpServers = c.pcpServers ∧ ∀ f, (c.heap f).Calm (b.heap f) ∨
        (Belongs c s f ∧ (b.heap f).state = .waitForServerInit) := by
    unfold natpmpPingMsg
    split
    · rename_i p hp
      refine ⟨_, rfl, rfl, rfl, rfl, fun f => ?_⟩
      by_cases hf : f = p
      · subst hf
        exact .inr ⟨(hw.ping f hp).2, by simp [Ctx.modFlow]⟩
      · refine .inl ?_
        simp only [Ctx.modFlow, Ctx.setFlow_heap, Function.update_of_ne hf]
        exact .refl _
    · exact ⟨c, rfl, rfl, rfl, rfl, fun f => .inl (.refl _)⟩
  rw [hb]
  rcases createNatpmpAnnMsg_cases e b s with h | ⟨fl, hidx, -, -, -, -, -, h⟩
  · rw [h]
    refine ⟨fun f _ => hheap f, fun f hf => .inl ?_⟩
    rw [Ctx.allFlows] at hf ⊢
    rw [← hflows]
    exact hf
  · rw [h]
    constructor
    · intro f hf
      have hne : f ≠ b.heapTop := by rw [htop]; exact Nat.ne_of_lt hf
      have hold : (pcpDbAddFlow (({ b.callocCall.setFlow b.heapTop fl with heapTop := b.heapTop + 1 } :
          Ctx).modServer s fun v => { v with pingFlowMsg := some b.heapTop }) (some b.heapTop)).heap f =
          b.heap f := by
        simp [pcpDbAddFlow, Ctx.modFlow, Ctx.modServer, hne, Ctx.callocCall]
      rw [hold]
      exact hheap f
    · intro f hf
      obtain ⟨k, hk, hm⟩ := mem_allFlows.mp hf
      rcases mem_pcpDbAddFlow.mp hm with hm | ⟨rfl, -⟩
      · exact .inl (mem_allFlows.mpr ⟨k, hk, hflows ▸ hm⟩)
      · refine .inr ⟨Nat.le_of_eq htop.symm, rfl, ?_⟩
        simp [Belongs, pcpDbAddFlow, Ctx.modFlow, Ctx.modServer, Ctx.callocCall, hidx]

theorem handleVersionNegotiation_flows (hw : Wf c s) :
    Renegotiated s c (handleVersionNegotiation e c s).2 := by
  have h₁ : Acts e s [.own, .version, .announce] c (lowerNextVersion c s) :=
    modServer_acts _ ⟨⟨rfl, rfl, rfl, rfl, rfl, rfl, rfl, rfl, .rfl⟩, rfl, .inl rfl⟩ rfl
  have h₂ : Acts e s [.own, .version, .announce] c (useNextVersion (lowerNextVersion c s) s) :=
    h₁.trans ((Act.version _ _).single (by simp))
  have hw₂ := h₂.wf hw
  have hcalm : Calm c (useNextVersion (lowerNextVersion c s) s) := ⟨rfl, fun _ => .refl _⟩
  have hbel : ∀ f, Belongs (useNextVersion (lowerNextVersion c s) s) s f ↔ Belongs c s f := by
    intro f
    rw [Belongs, h₂.frame.same.index]
    exact Iff.rfl
  rw [handleVersionNegotiation_eq]
  dsimp only
  split
  · exact ⟨fun f _ => .inl (.refl _), fun _ hf => .inl hf⟩
  · split
    · obtain ⟨hflow, htable⟩ := natpmpPingMsg_flows (e := e) hw₂
      have hframe := (natpmpPingMsg_acts (e := e) hw₂).frame
      have hw₃ := (natpmpPingMsg_acts (e := e) hw₂).wf hw₂
      rcases hn : natpmpPingMsg e (useNextVersion (lowerNextVersion c s) s) s with ⟨p, c₃⟩
      rw [hn] at hflow htable hframe hw₃
      obtain ⟨hend, hact⟩ := negotiationEnd_calm (e := e) (s := s) (c := c₃) p
      have hendf : Frame s c₃ (negotiationEnd e s (p, c₃)).2 := by
        refine (negotiationEnd_acts (e := e) (L := []) hw₃ fun q hq => hw₃.ping q ?_).frame
        have hping := natpmpPingMsg_ping e (useNextVersion (lowerNextVersion c s) s) s
        rw [hn] at hping
        exact hping.trans hq
      refine ⟨fun f hf => ?_, fun f hf => ?_⟩
      · rcases hflow f hf with h | ⟨hb, hst⟩
        · exact .inl (h.trans (hend.flow f))
        · rcases hend.flow f with ⟨hs, -⟩ | ha
          · exact .inr ⟨(hbel f).mp hb, hs.trans hst⟩
          · exact .inl (.inr ha)
      · rw [hend.allFlows] at hf
        rcases htable f hf with hf | ⟨hle, hp, hb⟩
        · exact .inl hf
        · refine .inr ⟨hle, ?_, hact f hp⟩
          have hlt := hw₃.alloc hf
          rw [Belongs, (hendf.flow f hlt).pcpServerIndx, hendf.same.index]
          exact hb
    · exact (hcalm.trans (negotiationEnd_calm _).1).renegotiated

theorem negotiationPing_nextTimeout {p : FlowId} (h : (negotiationPing e c s p).1 = .setNotWorking) :
    ((negotiationPing e c s p).2.pcpServers s).nextTimeout = (c.pcpServers s).nextTimeout := by
  unfold negotiationPing at h ⊢
  dsimp only at h ⊢
  split
  · rw [handleFlowEvent_pcpServers]
    rfl
  · rename_i hst
    rw [if_neg hst] at h
    cases h

theorem negotiationEnd_nextTimeout {p : Option FlowId}
    (h : (negotiationEnd e s (p, c)).1 = .setNotWorking) :
    ((negotiationEnd e s (p, c)).2.pcpServers s).nextTimeout = (c.pcpServers s).nextTimeout := by
  cases p with
  | some q => exact negotiationPing_nextTimeout h
  | none =>
    have hping : ((getPingMsg c s).2.pcpServers s).nextTimeout = (c.pcpServers s).nextTimeout := by
      rw [getPingMsg_self]
    simp only [negotiationEnd] at h ⊢
    rcases hg : getPingMsg c s with ⟨found, c₁⟩
    rw [hg] at h hping
    cases found with
    | some q => exact (negotiationPing_nextTimeout h).trans hping
    | none => cases h

theorem createNatpmpAnnMsg_nextTimeout :
    ((createNatpmpAnnMsg e c s).2.pcpServers s).nextTimeout = (c.pcpServers s).nextTimeout := by
  rcases createNatpmpAnnMsg_cases e c s with h | ⟨fl, -, -, -, -, -, -, h⟩
  · rw [h]
    simp [Ctx.modServer, Ctx.callocCall]
  · rw [h]
    simp [Ctx.modServer, Ctx.modFlow, pcpDbAddFlow, Ctx.callocCall]

theorem natpmpPingMsg_nextTimeout :
    ((natpmpPingMsg e c s).2.pcpServers s).nextTimeout = (c.pcpServers s).nextTimeout := by
  unfold natpmpPingMsg
  rw [createNatpmpAnnMsg_nextTimeout]
  split <;> rfl

/-- Version negotiation leaves the timer alone when it gives the server up. -/
theorem handleVersionNegotiation_nextTimeout
    (h : (handleVersionNegotiation e c s).1 = .setNotWorking) :
    ((handleVersionNegotiation e c s).2.pcpServers s).nextTimeout = (c.pcpServers s).nextTimeout := by
  have hlower : ((lowerNextVersion c s).pcpServers s).nextTimeout = (c.pcpServers s).nextTimeout := by
    rw [lowerNextVersion, Ctx.modServer_self]
  have huse : ((useNextVersion (lowerNextVersion c s) s).pcpServers s).nextTimeout =
      (c.pcpServers s).nextTimeout := by
    rw [useNextVersion, Ctx.modServer_self]
    exact hlower
  rw [handleVersionNegotiation_eq] at h ⊢
  split
  · exact hlower
  · rename_i hv
    rw [if_neg hv] at h
    dsimp only at h ⊢
    split
    · rename_i hzero
      rw [if_pos hzero] at h
      have hn := natpmpPingMsg_nextTimeout (e := e) (s := s)
        (c := useNextVersion (lowerNextVersion c s) s)
      rcases hp : natpmpPingMsg e (useNextVersion (lowerNextVersion c s) s) s with ⟨p, c₃⟩
      rw [hp] at h hn
      exact (negotiationEnd_nextTimeout h).trans (hn.trans huse)
    · rename_i hzero
      rw [if_neg hzero] at h
      exact (negotiationEnd_nextTimeout h).trans huse

theorem handleVersionNegotiation_poised (he : e.ClockMono) (hw : Wf c s)
    (hl : s < c.pcpServersLength) (hp : Poised e c s .versionNegotiation) :
    Poised e (handleVersionNegotiation e c s).2 s (handleVersionNegotiation e c s).1 := by
  have hacts := handleVersionNegotiation_acts (e := e) hw
  have hl' := hacts.frame.length ▸ hl
  have hr : (c.pcpServers s).restartFlowMsg = none := by
    by_contra hne
    cases hp.restart hne
  have hr' := hacts.restart_none (by simp) hr
  rcases handleVersionNegotiation_state e c s with hst | hst | hst
  · rw [hst]
    refine .woken hl' ?_ (by decide) fun h => absurd hr' h
    refine (hp.ready rfl).later he hacts.frame.ticks ?_
    rw [handleVersionNegotiation_nextTimeout hst]
  · rw [hst]
    exact .idle hl' rfl (by simp) hr'
  · rw [hst]
    exact .idle hl' rfl (by simp) hr'

end Handlers

/-! ## Dispatch -/

section Dispatch

variable {e : Env} {s i : Nat} {c c' : Ctx} {st : ServerState}

/-- A server that is not the one at work only sees its flows move. -/
theorem Poised.other (hp : Poised e c i st) (he : e.ClockMono) (hw : TableOk c) (hf : Frame s c c')
    (hn : Renegotiated s c c') (hi : i ≠ s) (hidx : (c.pcpServers i).index ≠ (c.pcpServers s).index) :
    Poised e c' i st := by
  have hsame : c'.pcpServers i = c.pcpServers i := hf.others i hi
  have hold : ∀ f ∈ c'.allFlows, Belongs c' i f →
      f ∈ c.allFlows ∧ Belongs c i f ∧ (c.heap f).Calm (c'.heap f) := by
    intro f hm hb
    rcases hn.table f hm with hm | ⟨-, hbs, -⟩
    · have hlt := hw.alloc hm
      have hbi : Belongs c i f := by
        rw [Belongs, (hf.flow f hlt).pcpServerIndx, hsame] at hb
        exact hb
      refine ⟨hm, hbi, (hn.flow f hlt).resolve_right fun h => ?_⟩
      exact hidx (hbi.symm.trans h.1)
    · refine absurd ?_ hidx
      rw [← hf.same.index, ← hsame]
      exact Eq.symm (Eq.trans hbs.symm hb)
  refine ⟨fun h => hf.length ▸ hp.live h, fun h => ?_, fun h => ?_, fun h f hm hb => ?_,
    fun h f hm hb hst => ?_⟩
  · exact (hp.ready h).later he hf.ticks (by rw [hsame])
  · rw [hsame] at h
    exact hp.restart h
  · obtain ⟨hm, hb, hcalm⟩ := hold f hm hb
    exact hcalm.ne (by decide) (hp.init h f hm hb)
  · obtain ⟨hm, hb, hcalm⟩ := hold f hm hb
    rcases hcalm with ⟨hs, -⟩ | ha
    · exact (hp.send h f hm hb (hs.symm.trans hst)).later he hf.ticks (by rw [hsame])
    · exact absurd hst (ha.ne (by decide))

theorem FlowState.Active.flowOrderly {f : FlowId} (h : (c.heap f).state.Active) : FlowOrderly e c f :=
  ⟨h.ne (by decide), h.ne (by decide), fun hst => absurd hst (h.ne (by decide))⟩

theorem Renegotiated.flowOrderly (hn : Renegotiated s c c') (he : e.ClockMono) (hw : TableOk c)
    (hf : Frame s c c') (h : ∀ f ∈ c.allFlows, FlowOrderly e c f) :
    ∀ f ∈ c'.allFlows, FlowOrderly e c' f := by
  intro f hm
  rcases hn.table f hm with hm | ⟨-, -, ha⟩
  · rcases hn.flow f (hw.alloc hm) with hcalm | ⟨-, hst⟩
    · refine ⟨hcalm.ne (by decide) (h f hm).idle, hcalm.ne (by decide) (h f hm).sendRenew, ?_⟩
      intro hst
      rcases hcalm with ⟨hs, ht⟩ | ha
      · exact ((h f hm).due (hs.symm.trans hst)).later he hf.ticks ht
      · exact absurd hst (ha.ne (by decide))
    · refine ⟨?_, ?_, fun hsend => ?_⟩
      · rw [hst]
        decide
      · rw [hst]
        decide
      · rw [hst] at hsend
        cases hsend
  · exact ha.flowOrderly

theorem ServerHandler.run_flows {h : ServerHandler} (hw : Wf c s) :
    Renegotiated s c (h.run e c s).2 := by
  cases h with
  | terminate | ignoreEvents | reping | unexpected => exact Calm.renegotiated ⟨rfl, fun _ => .refl _⟩
  | ping => exact (handleServerPing_acts hw.table : Acts e s [.own] c _).own_calm.renegotiated
  | waitPingRespTimeout =>
    exact (handleWaitPingRespTimeout_acts hw : Acts e s [.own] c _).own_calm.renegotiated
  | waitPingRespRecv =>
    simp only [ServerHandler.run, handleWaitPingRespRecv_snd]
    exact (handleWaitIoReceiveMsg_calm hw).renegotiated
  | versionNegotiation => exact handleVersionNegotiation_flows hw
  | sendAllMsgs => exact (handleSendAllMsgs_acts hw.table : Acts e s [.own] c _).own_calm.renegotiated
  | waitIoReceiveMsg => exact (handleWaitIoReceiveMsg_calm hw).renegotiated
  | waitIoTimeout => exact (handleWaitIoTimeout_part hw.table).calm.renegotiated
  | restart => exact (handleServerRestart_acts hw.table : Acts e s [.own] c _).own_calm.renegotiated
  | setNotWorking =>
    exact (handleServerSetNotWorking_acts hw.table : Acts e s [.own] c _).own_calm.renegotiated
  | notWorking => exact (handleServerNotWorking_calm hw).renegotiated

/-- A dispatch leaves the server as its new state asks for. -/
theorem run_poised {ev : ServerEvent} {h : ServerHandler} (he : e.ClockMono) (hz : e.ClockNonzero)
    (hw : Wf c s) (ho : Orderly e c) (hev : ev ≠ .terminate)
    (hl : (c.pcpServers s).serverState ≠ .unitialized)
    (hh : serverHandler (c.pcpServers s).serverState ev = some h) :
    Poised e (h.run e c s).2 s (h.run e c s).1 := by
  have hp := ho.slot s
  have hlt := hp.live hl
  have hr : (c.pcpServers s).serverState ≠ .serverRestart → (c.pcpServers s).restartFlowMsg = none := by
    intro hne
    by_contra hsome
    exact hne (hp.restart hsome)
  have hdue : ∀ f ∈ c.allFlows, SendDue e c f := fun f hf => (ho.flow f hf).due
  have hset : Acts e s [.own] c (handleServerSetNotWorking e c s).2 :=
    handleServerSetNotWorking_acts hw.table
  generalize hst : (c.pcpServers s).serverState = st at hh hp hr hl
  cases st with
  | unitialized => exact absurd rfl hl
  | allocated =>
    obtain rfl : h = .ignoreEvents := by cases ev <;> first | exact absurd rfl hev | cases hh; rfl
    refine .idle hlt ?_ ?_ ?_
    · simp [ServerHandler.run, LibPcp.ignoreEvents, hst, ServerState.Transient]
    · simp [ServerHandler.run, LibPcp.ignoreEvents, hst]
    · simp only [ServerHandler.run, LibPcp.ignoreEvents, Ctx.setNextTimeout_self]
      exact hr (by simp)
  | ping =>
    obtain rfl : h = .ping := by cases ev <;> first | exact absurd rfl hev | cases hh; rfl
    exact handleServerPing_poised hw.table hlt (hr (by simp))
  | waitPingResp =>
    cases ev with
    | terminate => exact absurd rfl hev
    | timeout =>
      cases hh
      exact handleWaitPingRespTimeout_poised he hz hw hlt (hr (by simp))
    | ioEvent =>
      cases hh
      exact handleWaitPingRespRecv_poised he hz hw hlt (hr (by simp))
  | versionNegotiation =>
    obtain rfl : h = .versionNegotiation := by
      cases ev <;> first | exact absurd rfl hev | cases hh; rfl
    exact handleVersionNegotiation_poised he hw hlt hp
  | sendAllMsgs =>
    obtain rfl : h = .sendAllMsgs := by cases ev <;> first | exact absurd rfl hev | cases hh; rfl
    exact handleSendAllMsgs_poised he hz hw.table hlt (hr (by simp))
  | waitIo =>
    cases ev with
    | terminate => exact absurd rfl hev
    | timeout =>
      cases hh
      exact handleWaitIoTimeout_poised he hw.table hlt (.inl rfl) hp hdue
    | ioEvent =>
      cases hh
      exact handleWaitIoReceiveMsg_poised he hz hw hlt hp
  | waitIoCalcNearestTimeout =>
    obtain rfl : h = .waitIoTimeout := by cases ev <;> first | exact absurd rfl hev | cases hh; rfl
    exact handleWaitIoTimeout_poised he hw.table hlt (.inr rfl) hp hdue
  | serverRestart =>
    obtain rfl : h = .restart := by cases ev <;> first | exact absurd rfl hev | cases hh; rfl
    exact handleServerRestart_poised he hz hw.table hlt
  | serverReping =>
    obtain rfl : h = .reping := by cases ev <;> first | exact absurd rfl hev | cases hh; rfl
    refine .idle hlt rfl (by simp [ServerHandler.run, handleServerReping]) ?_
    simp only [ServerHandler.run, handleServerReping, Env.wakeNow_self, Ctx.modServer_self]
    exact hr (by simp)
  | setNotWorking =>
    obtain rfl : h = .setNotWorking := by cases ev <;> first | exact absurd rfl hev | cases hh; rfl
    exact .idle (hset.frame.length ▸ hlt) rfl (by simp [ServerHandler.run, handleServerSetNotWorking])
      (hset.restart_none (by simp) (hr (by simp)))
  | notWorking =>
    obtain rfl : h = .notWorking := by cases ev <;> first | exact absurd rfl hev | cases hh; rfl
    exact handleServerNotWorking_poised he hz hw hlt (hr (by simp))

/-- A slot that is not in use has no `restart_flow_msg`. -/
theorem Poised.unused (h : (c.pcpServers s).restartFlowMsg ≠ none → ServerState.unitialized = .serverRestart) :
    Poised e c s .unitialized :=
  ⟨fun h => absurd rfl h, by simp [ServerState.Transient], h, fun h => absurd h (by decide),
    fun h => absurd h (by decide)⟩

/-- The flows of `c'` are flows of `c`, with the same states, timers and servers. -/
structure SameFlows (c c' : Ctx) : Prop where
  table : ∀ f ∈ c'.allFlows, f ∈ c.allFlows
  flow : ∀ f, (c'.heap f).state = (c.heap f).state ∧
    (c'.heap f).timeout.us = (c.heap f).timeout.us ∧
    (c'.heap f).pcpServerIndx = (c.heap f).pcpServerIndx
  ticks : c.io.ticks ≤ c'.io.ticks

theorem SameFlows.of_eq (hf : c'.flows = c.flows) (hh : c'.heap = c.heap)
    (ht : c.io.ticks ≤ c'.io.ticks) : SameFlows c c' := by
  refine ⟨fun f hm => ?_, fun f => ?_, ht⟩
  · rw [Ctx.allFlows, hf] at hm
    exact hm
  · rw [hh]
    exact ⟨rfl, rfl, rfl⟩

/-- The fields of a record that `Poised` is about. -/
structure Server.Alike (v w : Server) : Prop where
  index : w.index = v.index
  nextTimeout : w.nextTimeout.us = v.nextTimeout.us
  restartFlowMsg : w.restartFlowMsg = v.restartFlowMsg

theorem Poised.alike (hp : Poised e c s st) (he : e.ClockMono) (hf : SameFlows c c')
    (hv : (c.pcpServers s).Alike (c'.pcpServers s)) (hlen : c.pcpServersLength ≤ c'.pcpServersLength) :
    Poised e c' s st := by
  have hbel : ∀ f, Belongs c' s f → Belongs c s f := by
    intro f hb
    rw [Belongs, (hf.flow f).2.2, hv.index] at hb
    exact hb
  refine ⟨fun h => Nat.lt_of_lt_of_le (hp.live h) hlen,
    fun h => (hp.ready h).later he hf.ticks hv.nextTimeout, fun h => ?_, fun h f hm hb => ?_,
    fun h f hm hb hst => ?_⟩
  · rw [hv.restartFlowMsg] at h
    exact hp.restart h
  · rw [(hf.flow f).1]
    exact hp.init h f (hf.table f hm) (hbel f hb)
  · rw [(hf.flow f).1] at hst
    exact (hp.send h f (hf.table f hm) (hbel f hb) hst).later he hf.ticks hv.nextTimeout

theorem FlowOrderly.alike {f : FlowId} (h : FlowOrderly e c f) (he : e.ClockMono)
    (hf : SameFlows c c') : FlowOrderly e c' f := by
  obtain ⟨hst, ht, -⟩ := hf.flow f
  refine ⟨?_, ?_, fun hsend => ?_⟩
  · rw [hst]
    exact h.idle
  · rw [hst]
    exact h.sendRenew
  · rw [hst] at hsend
    exact (h.due hsend).later he hf.ticks ht

theorem runServerStateMachine_orderly {ev : ServerEvent} (he : e.ClockMono) (hz : e.ClockNonzero)
    (hc : CtxOk c) (ho : Orderly e c) (hev : ev ≠ .terminate) (hl : Live c s) :
    Orderly e (runServerStateMachine e c s ev) := by
  have hw := hc.wf s
  obtain ⟨h, hh⟩ := serverHandler_total (c.pcpServers s).serverState ev
  have hacts := h.run_acts e hw
  have hflows : Renegotiated s c (h.run e c s).2 := h.run_flows hw
  rw [runServerStateMachine_eq hh]
  refine ⟨fun f hf => ?_, fun i => ?_⟩
  · have hf' := hflows.flowOrderly he hw.table hacts.frame ho.flow f hf
    exact ⟨hf'.idle, hf'.sendRenew, hf'.due⟩
  · by_cases hi : i = s
    · subst hi
      rw [Ctx.modServer_self]
      refine (run_poised he hz hw ho hev hl.2 hh).alike he (.of_eq rfl rfl (Nat.le_refl _)) ?_
        (Nat.le_refl _)
      rw [Ctx.modServer_self]
      exact ⟨rfl, rfl, rfl⟩
    · have hsame := hacts.frame.others i hi
      rw [Ctx.modServer, Ctx.setServer_pcpServers, Function.update_of_ne hi, hsame]
      have hother : Poised e (h.run e c s).2 i (c.pcpServers i).serverState := by
        by_cases hu : (c.pcpServers i).serverState = .unitialized
        · -- a slot that is not in use
          have hslot := ho.slot i
          rw [hu] at hslot ⊢
          exact .unused fun hr => hslot.restart (hsame ▸ hr)
        · refine (ho.slot i).other he hw.table hacts.frame hflows hi ?_
          rw [hc.index hu, hc.index hl.2]
          exact hi
      refine hother.alike he (.of_eq rfl rfl (Nat.le_refl _)) ?_ (Nat.le_refl _)
      rw [Ctx.setServer_pcpServers, Function.update_of_ne hi]
      exact ⟨rfl, rfl, rfl⟩

/-! ## Steps of a pulse -/

theorem Orderly.alike (ho : Orderly e c) (he : e.ClockMono) (hf : SameFlows c c')
    (hv : ∀ i, (c'.pcpServers i).serverState = (c.pcpServers i).serverState ∧
      (c.pcpServers i).Alike (c'.pcpServers i))
    (hlen : c.pcpServersLength ≤ c'.pcpServersLength) : Orderly e c' := by
  refine ⟨fun f hm => (ho.flow f (hf.table f hm)).alike he hf, fun i => ?_⟩
  rw [(hv i).1]
  exact (ho.slot i).alike he hf (hv i).2 hlen

theorem Orderly.tick (ho : Orderly e c) (he : e.ClockMono) : Orderly e c.tick :=
  ho.alike he (.of_eq rfl rfl (Nat.le_succ _)) (fun _ => ⟨rfl, rfl, rfl, rfl⟩) (Nat.le_refl _)

theorem Orderly.withMsg (ho : Orderly e c) (he : e.ClockMono) (m : RecvMsg) :
    Orderly e { c with msg := m } :=
  ho.alike he (.of_eq rfl rfl (Nat.le_refl _)) (fun _ => ⟨rfl, rfl, rfl, rfl⟩) (Nat.le_refl _)

theorem Orderly.received (ho : Orderly e c) (he : e.ClockMono) {dg : Datagram} {r : Option Nat}
    (h : acceptMsg e (readMsg e c dg) = (r, c')) : Orderly e c' := by
  obtain ⟨⟨m, rfl⟩, -⟩ := received_eq h
  exact (ho.tick he).withMsg he m

theorem Orderly.alignNext (ho : Orderly e c) (he : e.ClockMono) (s : Nat) :
    Orderly e (alignNext c s) := by
  refine ho.alike he (.of_eq rfl rfl (Nat.le_refl _)) (fun i => ?_) (Nat.le_refl _)
  by_cases hi : i = s
  · subst hi
    rw [LibPcp.alignNext, Ctx.setNextTimeout_self]
    exact ⟨rfl, rfl, us_timevalAlign _, rfl⟩
  · rw [LibPcp.alignNext, Ctx.setNextTimeout, Ctx.modServer, Ctx.setServer_pcpServers,
      Function.update_of_ne hi]
    exact ⟨rfl, rfl, rfl, rfl⟩

theorem Orderly.settle (ho : Orderly e c) (he : e.ClockMono) (s : Nat) : Orderly e (settle s c) := by
  unfold LibPcp.settle
  split
  · exact ho.tick he
  · exact (ho.tick he).alignNext he s

theorem Orderly.fire (ho : Orderly e c) (he : e.ClockMono) (hz : e.ClockNonzero) (hc : CtxOk c)
    (hl : Live c s) : Orderly e (fire e s c) := by
  have hstart : Acts e s [.own] c (LibPcp.alignNext c.tick s) := fireStart_acts
  exact runServerStateMachine_orderly he hz (hstart.ctxOk hc hl.2) ((ho.tick he).alignNext he s)
    (by simp) (hstart.frame.live_iff.mpr hl)

end Dispatch

end LibPcp
