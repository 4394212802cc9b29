import LibPcp.Acts

/-!
# LibPcp.Handlers

Every handler of the server state machine as a sequence of acts.

The kinds say what a handler can do beyond work on its own server and flows: only the timer pass of
`handle_wait_io_timeout` walks over flows of other servers, only a received message gives a flow a
response or reveals a restart, only version negotiation and re-ping change the version. Handlers that
use the ping flow need `Wf`.
-/

namespace LibPcp

open LabelledSteps

/-! ## Timers of flows -/

/-- `check_flow_timeout` up to the point where the event has been handled. -/
def fireTimer (e : Env) (c : Ctx) (f : FlowId) : Ctx :=
  if (c.heap f).timeout.us ≤ (e.now c.io).us then
    handleFlowEvent e (c.tick.modFlow f alignTimer) f .flowTimedout none
  else c.tick.modFlow f alignTimer

/-- The smaller of the server's time left and the flow's, where zero is none. -/
def nearestTimeout (tout left : Timeval) : Timeval :=
  if tout.isZero then left
  else if left.us < tout.us then timevalAlign left else timevalAlign tout

/-- What is left of the flow's timer after the event, at the time `ctv`. -/
def timerLeft (c : Ctx) (f : FlowId) (ctv : Timeval) : Timeval :=
  (timevalSubtractInto (c.heap f).timeout (timevalAlign ctv)).2.2

/-- The rest of `check_flow_timeout`. -/
def lowerTimeout (s : Nat) (c : Ctx) (f : FlowId) (ctv : Timeval) : Ctx :=
  if (c.heap f).timeout.isZero then c
  else (c.modFlow f alignTimer).setNextTimeout s
    (nearestTimeout (c.pcpServers s).nextTimeout (timerLeft c f ctv))

theorem fireTimer_comp (e : Env) (c : Ctx) (f : FlowId) :
    (if (timevalComp (c.heap f).timeout (e.now c.io)).1 ≤ 0 then
      handleFlowEvent e (c.tick.modFlow f alignTimer) f .flowTimedout none
      else c.tick.modFlow f alignTimer) = fireTimer e c f := by
  simp only [fireTimer, timevalComp_le]

theorem lowerTimeout_comp (s : Nat) (c : Ctx) (f : FlowId) (ctv : Timeval) :
    (if (c.heap f).timeout.isZero then c
      else
        let sub := timevalSubtractInto (c.heap f).timeout (timevalAlign ctv)
        let c := c.modFlow f fun v => { v with timeout := sub.2.1 }
        let tout := (c.pcpServers s).nextTimeout
        if tout.isZero then c.setNextTimeout s sub.2.2
        else
          let cmp := timevalComp sub.2.2 tout
          c.setNextTimeout s (if cmp.1 < 0 then cmp.2.1 else cmp.2.2)) =
      lowerTimeout s c f ctv := by
  have halign : (c.modFlow f fun v =>
      { v with timeout := (timevalSubtractInto (c.heap f).timeout (timevalAlign ctv)).2.1 }) =
      c.modFlow f alignTimer := by
    rw [timevalSubtractInto_x]
    rfl
  have hserver : (c.modFlow f alignTimer).pcpServers s = c.pcpServers s := rfl
  simp only [lowerTimeout, nearestTimeout, timevalComp_lt, halign, hserver, timevalComp_snd]
  split
  · rfl
  · split <;> rfl

theorem checkFlowTimeout_eq (e : Env) (s : Nat) (c : Ctx) (f : FlowId) :
    checkFlowTimeout e s c f =
      if (c.heap f).timeout.isZero then c
      else lowerTimeout s (fireTimer e c f) f (e.now c.io) := by
  rw [← lowerTimeout_comp, ← fireTimer_comp]
  rfl

theorem checkFlowTimeout_flows (e : Env) (s : Nat) (a : Ctx) (f : FlowId) :
    (checkFlowTimeout e s a f).flows = a.flows := by
  rw [checkFlowTimeout_eq]
  unfold lowerTimeout fireTimer
  repeat' split
  all_goals simp [Ctx.setNextTimeout, Ctx.modServer, Ctx.modFlow]

theorem checkFlowTimeout_other (e : Env) (s : Nat) (a : Ctx) {f g : FlowId} (hg : g ≠ f) :
    (checkFlowTimeout e s a f).heap g = a.heap g := by
  rw [checkFlowTimeout_eq]
  unfold lowerTimeout fireTimer
  repeat' split
  all_goals simp [Ctx.setNextTimeout, Ctx.modServer, Ctx.modFlow, hg]

theorem flowSendEventIter_other (e : Env) (s : Nat) (ev : FlowEvent) (a : Ctx) {f g : FlowId}
    (hg : g ≠ f) : (flowSendEventIter e s ev a f).heap g = a.heap g := by
  unfold flowSendEventIter
  split
  · rw [checkFlowTimeout_other e s _ hg, handleFlowEvent_heap, Function.update_of_ne hg]
  · rfl

theorem flowSendEventIter_flows (e : Env) (s : Nat) (ev : FlowEvent) (a : Ctx) (f : FlowId) :
    (flowSendEventIter e s ev a f).flows = a.flows := by
  unfold flowSendEventIter
  split
  · rw [checkFlowTimeout_flows, handleFlowEvent_flows]
  · rfl

/-! ## Small steps -/

section Basic

variable {e : Env} {s : Nat} {L : List ActKind} {c : Ctx}

theorem Server.Keeps.refl (v : Server) : v.Keeps v := ⟨.refl v, rfl, .inl rfl⟩

theorem tick_acts : Acts e s (.own :: L) c c.tick := (Act.tick c).single List.mem_cons_self

/-- An update of the record that leaves the ping flow alone. -/
theorem modServer_acts (g : Server → Server) (hk : (c.pcpServers s).Keeps (g (c.pcpServers s)))
    (hp : (g (c.pcpServers s)).pingFlowMsg = (c.pcpServers s).pingFlowMsg) :
    Acts e s (.own :: L) c (c.modServer s g) :=
  (Act.server c _ hk fun _ h => .inl (hp ▸ h)).single List.mem_cons_self

theorem setNextTimeout_acts (t : Timeval) : Acts e s (.own :: L) c (c.setNextTimeout s t) :=
  modServer_acts _ ⟨⟨rfl, rfl, rfl, rfl, rfl, rfl, rfl, rfl, .rfl⟩, rfl, .inl rfl⟩ rfl

theorem wakeNow_acts : Acts e s (.own :: L) c (e.wakeNow c s) :=
  (setNextTimeout_acts _).trans tick_acts

theorem event_acts (f : FlowId) (ev : FlowEvent) (ho : Own c s f) (hev : ev.Plain) :
    Acts e s (.own :: L) c (handleFlowEvent e c f ev none) :=
  (Act.event c f ev ho hev).single List.mem_cons_self

theorem reset_acts {f : FlowId} (r : UInt32) (ho : Own c s f) :
    Acts e s (.own :: L) c (c.modFlow f (Flow.resetCount r)) :=
  (Act.reset c f r ho).single List.mem_cons_self

theorem Reaches.mono {k : ActKind} {c' : Ctx} {f : FlowId} (h : Reaches k c s f)
    (hf : Frame s c c') : Reaches k c' s f := by
  rcases h with ⟨hk, ho⟩ | ⟨hk, ho, hm⟩
  · exact .inl ⟨hk, hf.own ho⟩
  · exact .inr ⟨hk, Nat.lt_of_lt_of_le ho hf.heapTop, hf.allFlows hm⟩

theorem fireTimer_acts {k : ActKind} {f : FlowId} (hk : k ∈ ActKind.own :: L) (hr : Reaches k c s f)
    (ht : (c.heap f).timeout.isZero = false) : Acts e s (.own :: L) c (fireTimer e c f) := by
  unfold fireTimer
  split
  · exact (Act.expire k c f hr ht).single hk
  · exact tick_acts.trans ((Act.align k c.tick f hr ht).single hk)

theorem checkFlowTimeout_acts {k : ActKind} {f : FlowId} (hk : k ∈ ActKind.own :: L)
    (hr : Reaches k c s f) : Acts e s (.own :: L) c (checkFlowTimeout e s c f) := by
  rw [checkFlowTimeout_eq]
  split
  · exact .refl
  · rename_i ht
    have hfire : Acts e s (.own :: L) c (fireTimer e c f) :=
      fireTimer_acts hk hr (by simpa using ht)
    refine hfire.trans ?_
    unfold lowerTimeout
    split
    · exact .refl
    · rename_i ht'
      have hr' := hr.mono hfire.frame
      exact ((Act.align k _ f hr' (by simpa using ht')).single hk).trans (setNextTimeout_acts _)

/-- A pass over a list of flows. -/
theorem foldl_acts {g : Ctx → FlowId → Ctx} {l : List FlowId}
    (hg : ∀ c', Frame s c c' → ∀ f ∈ l, Acts e s L c' (g c' f)) : Acts e s L c (l.foldl g c) := by
  induction l generalizing c with
  | nil => exact .refl
  | cons f l ih =>
    have hstep := hg c (.refl c) f List.mem_cons_self
    refine hstep.trans (ih fun c' hf g' hg' => ?_)
    exact hg c' (hstep.frame.trans hf) g' (List.mem_cons_of_mem f hg')

theorem flowSendEventIter_acts {f : FlowId} {ev : FlowEvent} (hf : f < c.heapTop) (hev : ev.Plain) :
    Acts e s (.own :: L) c (flowSendEventIter e s ev c f) := by
  unfold flowSendEventIter
  split
  · rename_i ho
    have h₁ : Acts e s (.own :: L) c (handleFlowEvent e c f ev none) :=
      event_acts f ev ⟨hf, ho⟩ hev
    exact h₁.trans
      (checkFlowTimeout_acts List.mem_cons_self (.inl ⟨rfl, h₁.frame.own ⟨hf, ho⟩⟩))
  · exact .refl

theorem sendEventAll_acts (ev : FlowEvent) (hw : TableOk c) (hev : ev.Plain) :
    Acts e s (.own :: L) c (sendEventAll e s ev c) := by
  refine foldl_acts fun c' hf f hm => flowSendEventIter_acts ?_ hev
  exact Nat.lt_of_lt_of_le (hw.alloc hm) hf.heapTop

theorem getPingMsg_found {f : FlowId} (h : (getPingMsg c s).1 = some f) :
    f ∈ c.allFlows ∧ (c.heap f).pcpServerIndx = (c.pcpServers s).index ∧
      ((c.heap f).state = .idle ∨ (c.heap f).state = .waitForServerInit ∨
        (c.heap f).state = .send) := by
  have hp := List.find?_some h
  simp only [firstFlowCandidate, Bool.and_eq_true, Bool.or_eq_true, beq_iff_eq] at hp
  exact ⟨List.mem_of_find?_eq_some h, hp.1, by tauto⟩

theorem getPingMsg_self : (getPingMsg c s).2.pcpServers s =
    { c.pcpServers s with pingFlowMsg := (getPingMsg c s).1 } := by
  rw [getPingMsg, Ctx.modServer_self]

theorem getPingMsg_acts (hw : TableOk c) : Acts e s (.own :: L) c (getPingMsg c s).2 := by
  have h : Act e s .own c
      (c.setServer s { c.pcpServers s with pingFlowMsg := (getPingMsg c s).1 }) := by
    refine .server c _ ⟨⟨rfl, rfl, rfl, rfl, rfl, rfl, rfl, rfl, .rfl⟩, rfl, .inl rfl⟩ fun p hp => ?_
    obtain ⟨hm, ho, -⟩ := getPingMsg_found hp
    exact .inr ⟨⟨hw.alloc hm, ho⟩, hm⟩
  exact h.single List.mem_cons_self

/-- A candidate found by `get_ping_msg` belongs to the server. -/
theorem getPingMsg_own (hw : TableOk c) {f : FlowId} (h : (getPingMsg c s).1 = some f) :
    Own (getPingMsg c s).2 s f := by
  obtain ⟨hm, ho, -⟩ := getPingMsg_found h
  refine ⟨hw.alloc hm, ?_⟩
  rw [getPingMsg_self]
  exact ho

end Basic

/-! ## Handlers -/

section Handlers

variable {e : Env} {s : Nat} {L : List ActKind} {c : Ctx}

theorem pingLoop_acts (n : Nat) (hw : TableOk c) : Acts e s (.own :: L) c (pingLoop e s n c).2 := by
  induction n generalizing c with
  | zero => exact setNextTimeout_acts _
  | succ n ih =>
    have hping : Acts e s (.own :: L) c (getPingMsg c s).2 := getPingMsg_acts hw
    rcases hg : getPingMsg c s with ⟨found, c₁⟩
    rw [hg] at hping
    simp only [pingLoop, hg]
    cases found with
    | none => exact hping.trans (setNextTimeout_acts _)
    | some f =>
      have ho : Own c₁ s f := by
        have := getPingMsg_own hw (s := s) (f := f) (by rw [hg])
        rwa [hg] at this
      have hedit : Acts e s (.own :: L) c₁ (c₁.modFlow f fun v => { v with retryCount := 0 }) :=
        reset_acts (c₁.heap f).resendTimeout ho
      have hsend := hping.trans (hedit.trans
        (event_acts f .send (hedit.frame.own ho) trivial))
      dsimp only
      split
      · exact hsend.trans (setNextTimeout_acts _)
      · exact hsend.trans (ih (hsend.tableOk hw))

theorem handleServerPing_acts (hw : TableOk c) :
    Acts e s (.own :: L) c (handleServerPing e c s).2 := by
  have h : Acts e s (.own :: L) c (c.modServer s fun v => { v with pingCount := 0 }) :=
    modServer_acts _ ⟨⟨rfl, rfl, rfl, rfl, rfl, rfl, rfl, rfl, .rfl⟩, rfl, .inl rfl⟩ rfl
  exact h.trans (pingLoop_acts _ (h.tableOk hw))

theorem handleWaitPingRespTimeout_acts (hw : Wf c s) :
    Acts e s (.own :: L) c (handleWaitPingRespTimeout e c s).2 := by
  have h : Acts e s (.own :: L) c (c.modServer s fun v => { v with pingCount := v.pingCount + 1 }) :=
    modServer_acts _ ⟨⟨rfl, rfl, rfl, rfl, rfl, rfl, rfl, rfl, .rfl⟩, rfl, .inl rfl⟩ rfl
  unfold handleWaitPingRespTimeout
  dsimp only
  split
  · exact h.trans wakeNow_acts
  · split
    · exact h.trans wakeNow_acts
    · rename_i p hp
      have hev := h.trans (event_acts p .flowTimedout ((h.wf hw).ping p hp) trivial)
      split
      · exact hev.trans wakeNow_acts
      · exact hev.trans (setNextTimeout_acts _)

theorem negotiationPing_acts {p : FlowId} (ho : Own c s p) :
    Acts e s (.own :: L) c (negotiationPing e c s p).2 := by
  have h : Acts e s (.own :: L) c
      (c.modFlow p fun v => { v with retryCount := 0, resendTimeout := 0 }) :=
    reset_acts 0 ho
  have hev := h.trans (event_acts p .send (h.frame.own ho) trivial)
  unfold negotiationPing
  dsimp only
  split
  · exact hev
  · exact hev.trans (setNextTimeout_acts _)

theorem natpmpPingMsg_acts (hw : Wf c s) :
    Acts e s [.own, .version, .announce] c (natpmpPingMsg e c s).2 := by
  unfold natpmpPingMsg
  split
  · rename_i p hp
    have hback := (Act.putBack (e := e) c p (hw.ping p hp)).single
      (show ActKind.announce ∈ [.own, .version, .announce] by simp)
    exact hback.trans ((Act.announce _).single (by simp))
  · exact (Act.announce _).single (by simp)

/-- The announcement is the new ping flow. -/
theorem createNatpmpAnnMsg_ping (e : Env) (c : Ctx) (s : Nat) :
    ((createNatpmpAnnMsg e c s).2.pcpServers s).pingFlowMsg = (createNatpmpAnnMsg e c s).1 := by
  rcases createNatpmpAnnMsg_cases e c s with h | ⟨fl, -, -, -, -, -, -, h⟩
  · rw [h]
    simp [Ctx.modServer]
  · rw [h]
    simp [Ctx.modServer, Ctx.modFlow, pcpDbAddFlow]

theorem natpmpPingMsg_ping (e : Env) (c : Ctx) (s : Nat) :
    ((natpmpPingMsg e c s).2.pcpServers s).pingFlowMsg = (natpmpPingMsg e c s).1 :=
  createNatpmpAnnMsg_ping e _ s

/-- `next_version` is lowered when it names the version in use. -/
def lowerNextVersion (c : Ctx) (s : Nat) : Ctx :=
  c.modServer s fun v =>
    { v with nextVersion := if v.nextVersion = v.pcpVersion then v.nextVersion - 1 else v.nextVersion }

def useNextVersion (c : Ctx) (s : Nat) : Ctx :=
  c.modServer s fun v => { v with pcpVersion := v.nextVersion }

/-- The end of `handle_version_negotiation`. -/
def negotiationEnd (e : Env) (s : Nat) : Option FlowId × Ctx → ServerState × Ctx
  | (some p, c) => negotiationPing e c s p
  | (none, c) =>
    match getPingMsg c s with
    | (some p, c) => negotiationPing e c s p
    | (none, c) => (.ping, c.setNextTimeout s .zero)

/-- No version is left to try. -/
def NoVersionLeft (cfg : Config) (v : Server) : Prop :=
  v.pcpVersion = 0 ∨ (cfg.minSupportedVersion > 0 ∧ v.nextVersion < cfg.minSupportedVersion)

instance (cfg : Config) (v : Server) : Decidable (NoVersionLeft cfg v) :=
  inferInstanceAs (Decidable (_ ∨ _))

theorem handleVersionNegotiation_eq (e : Env) (c : Ctx) (s : Nat) :
    handleVersionNegotiation e c s =
      if NoVersionLeft e.cfg ((lowerNextVersion c s).pcpServers s) then
        (.setNotWorking, lowerNextVersion c s)
      else
        let c := useNextVersion (lowerNextVersion c s) s
        negotiationEnd e s (if (c.pcpServers s).pcpVersion = 0 then natpmpPingMsg e c s
          else ((c.pcpServers s).pingFlowMsg, c)) := rfl

theorem negotiationEnd_acts (hw : Wf c s) {p : Option FlowId} (hp : ∀ q, p = some q → Own c s q) :
    Acts e s (.own :: L) c (negotiationEnd e s (p, c)).2 := by
  cases p with
  | some q => exact negotiationPing_acts (hp q rfl)
  | none =>
    have hping : Acts e s (.own :: L) c (getPingMsg c s).2 := getPingMsg_acts hw.table
    simp only [negotiationEnd]
    rcases hg : getPingMsg c s with ⟨found, c₁⟩
    rw [hg] at hping
    cases found with
    | none => exact hping.trans (setNextTimeout_acts _)
    | some q =>
      have ho := getPingMsg_own hw.table (s := s) (f := q) (by rw [hg])
      rw [hg] at ho
      exact hping.trans (negotiationPing_acts ho)

theorem lowerNextVersion_acts : Acts e s (.own :: L) c (lowerNextVersion c s) :=
  modServer_acts _ ⟨⟨rfl, rfl, rfl, rfl, rfl, rfl, rfl, rfl, .rfl⟩, rfl, .inl rfl⟩ rfl

theorem handleVersionNegotiation_acts (hw : Wf c s) :
    Acts e s [.own, .version, .announce] c (handleVersionNegotiation e c s).2 := by
  have h₁ : Acts e s [.own, .version, .announce] c (lowerNextVersion c s) := lowerNextVersion_acts
  have h₂ : Acts e s [.own, .version, .announce] c (useNextVersion (lowerNextVersion c s) s) :=
    h₁.trans ((Act.version _ _).single (by simp))
  have hw₂ := h₂.wf hw
  rw [handleVersionNegotiation_eq]
  dsimp only
  split
  · exact h₁
  · split
    · have hnat := natpmpPingMsg_acts (e := e) hw₂
      have hw₃ := hnat.wf hw₂
      refine (h₂.trans hnat).trans (negotiationEnd_acts hw₃ fun q hq => ?_)
      exact hw₃.ping q ((natpmpPingMsg_ping e _ s).trans hq)
    · exact h₂.trans (negotiationEnd_acts hw₂ fun q hq => hw₂.ping q hq)

theorem handleSendAllMsgs_acts (hw : TableOk c) :
    Acts e s (.own :: L) c (handleSendAllMsgs e c s).2 :=
  (sendEventAll_acts .serverInitialized hw trivial).trans wakeNow_acts

theorem handleServerRestart_acts (hw : TableOk c) :
    Acts e s (.own :: L) c (handleServerRestart e c s).2 := by
  refine (sendEventAll_acts .serverRestarted hw trivial).trans
    (Acts.trans (modServer_acts _ ?_ rfl) wakeNow_acts)
  exact ⟨⟨rfl, rfl, rfl, rfl, rfl, rfl, rfl, rfl, .rfl⟩, rfl, .inr rfl⟩

theorem handleServerSetNotWorking_acts (hw : TableOk c) :
    Acts e s (.own :: L) c (handleServerSetNotWorking e c s).2 :=
  (sendEventAll_acts .failed hw trivial).trans ((setNextTimeout_acts _).trans tick_acts)

theorem handleServerReping_acts : Acts e s [.own, .version] c (handleServerReping e c s).2 :=
  Acts.trans ((Act.version c _).single (by simp)) wakeNow_acts

theorem handleWaitIoTimeout_acts (hw : TableOk c) :
    Acts e s [.own, .walk] c (handleWaitIoTimeout e c s).2 := by
  have h₁ : Acts e s [.own, .walk] c (c.setNextTimeout s .zero) := setNextTimeout_acts _
  have h₂ : Acts e s [.own, .walk] (c.setNextTimeout s .zero)
      ((c.setNextTimeout s .zero).allFlows.foldl (checkFlowTimeout e s) (c.setNextTimeout s .zero)) := by
    refine foldl_acts fun c' hf f hm =>
      checkFlowTimeout_acts (k := .walk) (by simp) (.inr ⟨rfl, ?_, hf.allFlows hm⟩)
    exact Nat.lt_of_lt_of_le (hw.alloc hm) hf.heapTop
  unfold handleWaitIoTimeout
  dsimp only
  split
  · exact h₁.trans h₂
  · exact (h₁.trans h₂).trans (tick_acts.trans (setNextTimeout_acts _))

theorem matchRcvdMsg_acts (hw : Wf c s) :
    Acts e s [.own, .response, .reveal] c (matchRcvdMsg c s).2 ∧
      ∀ f, (matchRcvdMsg c s).1 = some f → Own (matchRcvdMsg c s).2 s f := by
  have hget : ∀ m : RecvMsg, ∀ f, pcpGetFlow c m.kd s = some f → Own c s f := by
    intro m f h
    obtain ⟨hm, ho, -⟩ := pcpGetFlow_some h
    exact ⟨hw.alloc hm, ho⟩
  unfold matchRcvdMsg
  dsimp only
  split
  · split
    · have h : Acts e s [.own, .response, .reveal] c
          (c.modServer s fun v => { v with natpmpExtAddr := c.msg.assignedExtIp.w3 }) :=
        modServer_acts _ ⟨⟨rfl, rfl, rfl, rfl, rfl, rfl, rfl, rfl, .rfl⟩, rfl, .inl rfl⟩ rfl
      split
      · rename_i p hp
        split
        · exact ⟨h, fun f hf => Option.some.inj hf ▸ h.frame.own (hw.ping p hp)⟩
        · exact ⟨h, by simp⟩
      · exact ⟨h, by simp⟩
    · exact ⟨(Act.extAddr c _).single (by simp), fun f hf => hget c.msg f hf⟩
  · exact ⟨.refl, fun f hf => hget c.msg f hf⟩

theorem serverProcessRcvdPcpMsg_acts (hw : Wf c s) :
    Acts e s [.own, .response, .reveal] c (serverProcessRcvdPcpMsg e c s).2 ∧
      ∀ f, (serverProcessRcvdPcpMsg e c s).1 = some f → Own (serverProcessRcvdPcpMsg e c s).2 s f := by
  obtain ⟨hacts, hown⟩ := matchRcvdMsg_acts (e := e) hw
  unfold serverProcessRcvdPcpMsg
  rcases hm : matchRcvdMsg c s with ⟨found, c₁⟩
  rw [hm] at hacts hown
  cases found with
  | none => exact ⟨hacts, by simp⟩
  | some f =>
    have hresp := hacts.trans ((Act.response c₁ f (hown f rfl)).single (by simp))
    refine ⟨hresp, fun g hg => ?_⟩
    cases hg
    exact (handleFlowEvent_frame e s c₁ _ (hown f rfl).1 (by simp)).own (hown f rfl)

theorem compareEpochs_keeps (m : RecvMsg) (v : Server) :
    v.Keeps (compareEpochs m v).2 ∧ (compareEpochs m v).2.pingFlowMsg = v.pingFlowMsg ∧
      (compareEpochs m v).2.nextTimeout = v.nextTimeout := by
  unfold compareEpochs
  dsimp only
  split
  · exact ⟨⟨⟨rfl, rfl, rfl, rfl, rfl, rfl, rfl, rfl, .rfl⟩, rfl, .inl rfl⟩, rfl, rfl⟩
  · exact ⟨.refl v, rfl, rfl⟩

/-- The end of a handler that has found a restart. -/
theorem revealRestart_acts {f : Option FlowId} (ep : UInt32) (ct : Int)
    (hf : ∀ g, f = some g → Own c s g) :
    Acts e s [.own, .response, .reveal] c
      ((e.wakeNow (c.modServer s fun v => { v with epoch := ep, cepoch := ct }) s).modServer s
        fun v => { v with restartFlowMsg := f }) := by
  have h₁ : Acts e s [.own, .response, .reveal] c
      (c.modServer s fun v => { v with epoch := ep, cepoch := ct }) :=
    modServer_acts _ ⟨⟨rfl, rfl, rfl, rfl, rfl, rfl, rfl, rfl, .rfl⟩, rfl, .inl rfl⟩ rfl
  have h₂ := h₁.trans wakeNow_acts
  exact h₂.trans ((Act.reveal _ f fun g hg => h₂.frame.own (hf g hg)).single (by simp))

theorem handleWaitIoReceiveMsg_acts (hw : Wf c s) :
    Acts e s [.own, .response, .reveal] c (handleWaitIoReceiveMsg e c s).2 := by
  unfold handleWaitIoReceiveMsg
  split
  · have h : Acts e s [.own, .response, .reveal] (e.wakeNow c s) ((e.wakeNow c s).modServer s
        fun v => { v with nextVersion := c.msg.recvVersion.toUInt8 }) :=
      modServer_acts _ ⟨⟨rfl, rfl, rfl, rfl, rfl, rfl, rfl, rfl, .rfl⟩, rfl, .inl rfl⟩ rfl
    exact wakeNow_acts.trans h
  · split
    · exact wakeNow_acts
    · obtain ⟨hacts, hown⟩ := serverProcessRcvdPcpMsg_acts (e := e) hw
      rcases hp : serverProcessRcvdPcpMsg e c s with ⟨f, c₁⟩
      rw [hp] at hacts hown
      dsimp only
      obtain ⟨hk, hping, -⟩ := compareEpochs_keeps c₁.msg (c₁.pcpServers s)
      have hcmp : Acts e s [.own, .response, .reveal] c₁
          (c₁.setServer s (compareEpochs c₁.msg (c₁.pcpServers s)).2) :=
        (Act.server c₁ _ hk fun p h => .inl (hping ▸ h)).single (by simp)
      split
      · exact (hacts.trans hcmp).trans
          (revealRestart_acts _ _ fun g hg => hcmp.frame.own (hown g hg))
      · exact (hacts.trans hcmp).trans wakeNow_acts

theorem handleWaitPingRespRecv_snd (e : Env) (c : Ctx) (s : Nat) :
    (handleWaitPingRespRecv e c s).2 = (handleWaitIoReceiveMsg e c s).2 := by
  unfold handleWaitPingRespRecv
  rcases handleWaitIoReceiveMsg e c s with ⟨st, c'⟩
  cases st <;> rfl

theorem handleServerNotWorking_acts (hw : Wf c s) :
    Acts e s [.own, .response, .reveal] c (handleServerNotWorking e c s).2 := by
  have h₁ : ∀ t, Acts e s [.own, .response, .reveal] c (c.tick.setNextTimeout s t) := fun t =>
    tick_acts.trans (setNextTimeout_acts t)
  unfold handleServerNotWorking
  dsimp only
  split
  · split
    · exact h₁ _
    · obtain ⟨hacts, hown⟩ := serverProcessRcvdPcpMsg_acts (e := e) ((h₁
        (timevalComp (e.now c.io) (c.pcpServers s).nextTimeout).2.2).wf hw)
      exact ((h₁ _).trans hacts).trans (revealRestart_acts _ _ hown)
  · exact (h₁ _).trans (setNextTimeout_acts _)

/-- Once its timer has run out, the server is pinged again whatever was received. -/
theorem handleServerNotWorking_due
    (h : (c.pcpServers s).nextTimeout.us ≤ (e.now c.io).us) :
    (handleServerNotWorking e c s).1 = .serverReping ∧
      Acts e s (.own :: L) c (handleServerNotWorking e c s).2 := by
  have hcmp : ¬ (timevalComp (e.now c.io) (c.pcpServers s).nextTimeout).1 < 0 := by
    rw [timevalComp_lt]
    omega
  unfold handleServerNotWorking
  dsimp only
  rw [if_neg hcmp]
  exact ⟨rfl, (tick_acts.trans (setNextTimeout_acts _)).trans (setNextTimeout_acts _)⟩

end Handlers

/-! ## Dispatch -/

def ServerHandler.kinds : ServerHandler → List ActKind
  | .waitPingRespRecv | .waitIoReceiveMsg | .notWorking => [.own, .response, .reveal]
  | .versionNegotiation => [.own, .version, .announce]
  | .waitIoTimeout => [.own, .walk]
  | .reping => [.own, .version]
  | _ => [.own]

theorem ServerHandler.run_acts (h : ServerHandler) (e : Env) {c : Ctx} {s : Nat} (hw : Wf c s) :
    Acts e s h.kinds c (h.run e c s).2 := by
  cases h with
  | terminate => exact setNextTimeout_acts _
  | ping => exact handleServerPing_acts hw.table
  | waitPingRespTimeout => exact handleWaitPingRespTimeout_acts hw
  | waitPingRespRecv =>
    simp only [ServerHandler.run, handleWaitPingRespRecv_snd]
    exact handleWaitIoReceiveMsg_acts hw
  | versionNegotiation => exact handleVersionNegotiation_acts hw
  | sendAllMsgs => exact handleSendAllMsgs_acts hw.table
  | waitIoReceiveMsg => exact handleWaitIoReceiveMsg_acts hw
  | waitIoTimeout => exact handleWaitIoTimeout_acts hw.table
  | restart => exact handleServerRestart_acts hw.table
  | reping => exact handleServerReping_acts
  | setNotWorking => exact handleServerSetNotWorking_acts hw.table
  | notWorking => exact handleServerNotWorking_acts hw
  | ignoreEvents => exact setNextTimeout_acts _
  | unexpected => exact wakeNow_acts

theorem pingLoop_state (e : Env) (s n : Nat) (c : Ctx) :
    (pingLoop e s n c).1 = .ping ∨ (pingLoop e s n c).1 = .waitPingResp := by
  induction n generalizing c with
  | zero => exact .inl rfl
  | succ n ih =>
    simp only [pingLoop]
    split
    · exact .inl rfl
    · split
      · exact .inr rfl
      · exact ih _

theorem handleWaitPingRespTimeout_state (e : Env) (c : Ctx) (s : Nat) :
    (handleWaitPingRespTimeout e c s).1 = .setNotWorking ∨
      (handleWaitPingRespTimeout e c s).1 = .ping ∨
      (handleWaitPingRespTimeout e c s).1 = .waitPingResp := by
  unfold handleWaitPingRespTimeout
  dsimp only
  split
  · exact .inl rfl
  · split
    · exact .inr (.inl rfl)
    · split
      · exact .inl rfl
      · exact .inr (.inr rfl)

theorem handleWaitIoReceiveMsg_state (e : Env) (c : Ctx) (s : Nat) :
    (handleWaitIoReceiveMsg e c s).1 = .versionNegotiation ∨
      (handleWaitIoReceiveMsg e c s).1 = .setNotWorking ∨
      (handleWaitIoReceiveMsg e c s).1 = .serverRestart ∨
      (handleWaitIoReceiveMsg e c s).1 = .waitIoCalcNearestTimeout := by
  unfold handleWaitIoReceiveMsg
  split
  · exact .inl rfl
  · split
    · exact .inr (.inl rfl)
    · dsimp only
      split
      · exact .inr (.inr (.inl rfl))
      · exact .inr (.inr (.inr rfl))

theorem handleWaitPingRespRecv_state (e : Env) (c : Ctx) (s : Nat) :
    (handleWaitPingRespRecv e c s).1 = .versionNegotiation ∨
      (handleWaitPingRespRecv e c s).1 = .setNotWorking ∨
      (handleWaitPingRespRecv e c s).1 = .serverRestart ∨
      (handleWaitPingRespRecv e c s).1 = .sendAllMsgs := by
  have h := handleWaitIoReceiveMsg_state e c s
  unfold handleWaitPingRespRecv
  rcases hr : handleWaitIoReceiveMsg e c s with ⟨st, c'⟩
  rw [hr] at h
  rcases h with h | h | h | h <;> simp only at h <;> subst h <;> simp

theorem negotiationPing_state (e : Env) (c : Ctx) (s : Nat) (p : FlowId) :
    (negotiationPing e c s p).1 = .setNotWorking ∨ (negotiationPing e c s p).1 = .waitPingResp := by
  unfold negotiationPing
  dsimp only
  split
  · exact .inl rfl
  · exact .inr rfl

theorem negotiationEnd_state (e : Env) (s : Nat) (r : Option FlowId × Ctx) :
    (negotiationEnd e s r).1 = .setNotWorking ∨ (negotiationEnd e s r).1 = .waitPingResp ∨
      (negotiationEnd e s r).1 = .ping := by
  unfold negotiationEnd
  split
  · exact (negotiationPing_state e _ s _).imp_right .inl
  · split
    · exact (negotiationPing_state e _ s _).imp_right .inl
    · exact .inr (.inr rfl)

theorem handleVersionNegotiation_state (e : Env) (c : Ctx) (s : Nat) :
    (handleVersionNegotiation e c s).1 = .setNotWorking ∨
      (handleVersionNegotiation e c s).1 = .waitPingResp ∨
      (handleVersionNegotiation e c s).1 = .ping := by
  rw [handleVersionNegotiation_eq]
  split
  · exact .inl rfl
  · exact negotiationEnd_state e s _

theorem handleWaitIoTimeout_state (e : Env) (c : Ctx) (s : Nat) :
    (handleWaitIoTimeout e c s).1 = .waitIo := by
  unfold handleWaitIoTimeout
  dsimp only
  split <;> rfl

theorem handleServerNotWorking_state (e : Env) (c : Ctx) (s : Nat) :
    (handleServerNotWorking e c s).1 = .notWorking ∨
      (handleServerNotWorking e c s).1 = .serverRestart ∨
      (handleServerNotWorking e c s).1 = .serverReping := by
  unfold handleServerNotWorking
  dsimp only
  split
  · split
    · exact .inl rfl
    · exact .inr (.inl rfl)
  · exact .inr (.inr rfl)

theorem ServerHandler.run_live (h : ServerHandler) (e : Env) {c : Ctx} {s : Nat}
    (hlive : (c.pcpServers s).serverState ≠ .unitialized) : (h.run e c s).1 ≠ .unitialized := by
  cases h with
  | terminate => simp [ServerHandler.run, pcpTerminateServer]
  | ping =>
    rcases pingLoop_state e s (c.allFlows.length + 1)
      (c.modServer s fun v => { v with pingCount := 0 }) with h | h <;>
      simp [ServerHandler.run, handleServerPing, h]
  | waitPingRespTimeout =>
    rcases handleWaitPingRespTimeout_state e c s with h | h | h <;> simp [ServerHandler.run, h]
  | waitPingRespRecv =>
    rcases handleWaitPingRespRecv_state e c s with h | h | h | h <;> simp [ServerHandler.run, h]
  | versionNegotiation =>
    rcases handleVersionNegotiation_state e c s with h | h | h <;> simp [ServerHandler.run, h]
  | sendAllMsgs => simp [ServerHandler.run, handleSendAllMsgs]
  | waitIoReceiveMsg =>
    rcases handleWaitIoReceiveMsg_state e c s with h | h | h | h <;> simp [ServerHandler.run, h]
  | waitIoTimeout => simp [ServerHandler.run, handleWaitIoTimeout_state]
  | restart => simp [ServerHandler.run, handleServerRestart]
  | reping => simp [ServerHandler.run, handleServerReping]
  | setNotWorking => simp [ServerHandler.run, handleServerSetNotWorking]
  | notWorking =>
    rcases handleServerNotWorking_state e c s with h | h | h <;> simp [ServerHandler.run, h]
  | ignoreEvents => exact hlive
  | unexpected => simp [ServerHandler.run, logUnexepectedStateEvent]

/-- The record of `s` after the dispatcher has stored the new state. -/
theorem storeState_acts {e : Env} {s : Nat} {L : List ActKind} {c : Ctx} {st : ServerState}
    (hlive : (c.pcpServers s).serverState ≠ .unitialized) (hst : st ≠ .unitialized) :
    Acts e s (.own :: L) c (c.modServer s fun v => { v with serverState := st }) :=
  modServer_acts _
    ⟨⟨rfl, rfl, rfl, rfl, rfl, rfl, rfl, rfl, iff_of_false hst hlive⟩, rfl, .inl rfl⟩ rfl

theorem runServerStateMachine_eq {e : Env} {c : Ctx} {s : Nat} {ev : ServerEvent} {h : ServerHandler}
    (hh : serverHandler (c.pcpServers s).serverState ev = some h) :
    runServerStateMachine e c s ev =
      (h.run e c s).2.modServer s fun v => { v with serverState := (h.run e c s).1 } := by
  rw [runServerStateMachine, hh]

theorem runServerStateMachine_acts {e : Env} {c : Ctx} {s : Nat} {ev : ServerEvent}
    {h : ServerHandler} (hh : serverHandler (c.pcpServers s).serverState ev = some h) (hw : Wf c s)
    (hlive : (c.pcpServers s).serverState ≠ .unitialized) :
    Acts e s (.own :: h.kinds) c (runServerStateMachine e c s ev) := by
  have hrun : Acts e s (.own :: h.kinds) c (h.run e c s).2 :=
    (h.run_acts e hw).mono fun _ _ hk => List.mem_cons_of_mem _ hk
  rw [runServerStateMachine_eq hh]
  refine hrun.trans (storeState_acts ?_ (h.run_live e hlive))
  rw [ne_eq, hrun.frame.same.live]
  exact hlive

end LibPcp
