import LibPcp.Micro

/-!
# LibPcp.Rejected

Datagrams that are not a response of a registered server have no effect.

A pulse that drops a datagram and a pulse that finds none go on from contexts that differ in the
received message and in how often the clock has been read. While the clock stands still nothing that
runs on a timeout can tell the two apart: `Ctx.Agree` is kept by every handler of a due timer, and
`handle_server_not_working`, the one handler of timeouts that looks at the message, does so only when
its timer is not due.
-/

namespace LibPcp

open ByteBuffer

/-- Two results with the same value and related states. -/
def Alike {α σ : Type} (R : σ → σ → Prop) (r r' : α × σ) : Prop := r.1 = r'.1 ∧ R r.2 r'.2

theorem Alike.cases {α σ : Type} {R : σ → σ → Prop} {r r' : α × σ} (h : Alike R r r') :
    ∃ a s s', r = (a, s) ∧ r' = (a, s') ∧ R s s' :=
  ⟨r.1, r.2, r'.2, rfl, Prod.ext h.1.symm rfl, h.2⟩

/-! ## Flows -/

/-- The same surroundings but for the number of clock readings, while the clock stands at `T`. -/
structure Io.Agree (e : Env) (T : Timeval) (io io' : Io) : Prop where
  left : ∀ i, io.ticks ≤ i → e.clock i = T
  right : ∀ i, io'.ticks ≤ i → e.clock i = T
  eq : io' = { io with ticks := io'.ticks }

section Flows

variable {e : Env} {T : Timeval} {x : FlowEnv} {f : Flow} {io io' : Io}

theorem Io.Agree.now (h : io.Agree e T io') : e.now io = T ∧ e.now io' = T :=
  ⟨h.left _ (Nat.le_refl _), h.right _ (Nat.le_refl _)⟩

theorem Io.Agree.tick (h : io.Agree e T io') : io.tick.Agree e T io'.tick where
  left i hi := h.left i (Nat.le_of_succ_le hi)
  right i hi := h.right i (Nat.le_of_succ_le hi)
  eq := by rw [h.eq]; rfl

/-- Related states after a part that neither reads nor writes the clock. -/
theorem Io.Agree.of_eq (h : io.Agree e T io') {j j' : Io} (hj : j.ticks = io.ticks)
    (hj' : j' = { j with ticks := io'.ticks }) : j.Agree e T j' := by
  refine ⟨fun i hi => h.left i (hj ▸ hi), fun i hi => h.right i ?_, ?_⟩
  · rw [hj'] at hi
    exact hi
  · rw [hj']

theorem sendLoop_withTicks (e : Env) (mk : List UInt8 → Sent) (b : Buf) (len n k : Nat) (io : Io)
    (t : Nat) :
    sendLoop e mk b len n k { io with ticks := t } =
      ((sendLoop e mk b len n k io).1, { (sendLoop e mk b len n k io).2 with ticks := t }) := by
  induction n generalizing k io with
  | zero => rfl
  | succ n ih =>
    simp only [sendLoop]
    split
    · rfl
    · split
      · rfl
      · exact ih _ { io with
          sends := io.sends + 1
          sent := mk (b.slice (len - k) (min (e.sendto io.sends) k).toNat) :: io.sent }

theorem buildPcpMsg_withTicks (e : Env) (s : Option Server) (f : Flow) (io : Io) (t : Nat) :
    buildPcpMsg e s f { io with ticks := t } =
      ((buildPcpMsg e s f io).1, { (buildPcpMsg e s f io).2 with ticks := t }) := by
  unfold buildPcpMsg
  cases s with
  | none => rfl
  | some s =>
    cases f.pcpMsgBuffer with
    | some b => rfl
    | none =>
      dsimp only
      split <;> rfl

theorem pcpFlowSendMsg_withTicks (e : Env) (id : FlowId) (i : Nat) (s : Server) (f : Flow) (io : Io)
    (t : Nat) :
    pcpFlowSendMsg e id i s f { io with ticks := t } =
      ((pcpFlowSendMsg e id i s f io).1, (pcpFlowSendMsg e id i s f io).2.1,
        { (pcpFlowSendMsg e id i s f io).2.2 with ticks := t }) := by
  have hbuild : (if f.pcpMsgBuffer.isNone ∨ f.pcpMsgLen = 0 then
        buildPcpMsg e (some s) f { io with ticks := t } else (f, { io with ticks := t })) =
      ((if f.pcpMsgBuffer.isNone ∨ f.pcpMsgLen = 0 then buildPcpMsg e (some s) f io else (f, io)).1,
        { (if f.pcpMsgBuffer.isNone ∨ f.pcpMsgLen = 0 then buildPcpMsg e (some s) f io
          else (f, io)).2 with ticks := t }) := by
    split
    · exact buildPcpMsg_withTicks e (some s) f io t
    · rfl
  unfold pcpFlowSendMsg
  dsimp only
  rw [hbuild]
  generalize (if f.pcpMsgBuffer.isNone ∨ f.pcpMsgLen = 0 then buildPcpMsg e (some s) f io
    else (f, io)) = r
  cases r.1.pcpMsgBuffer with
  | none => rfl
  | some b =>
    dsimp only
    rw [sendLoop_withTicks]
    rcases sendLoop e _ b r.1.pcpMsgLen r.1.pcpMsgLen r.1.pcpMsgLen r.2 with ⟨ok, j⟩
    cases ok <;> rfl

theorem pcpFlowSendMsg_ticks (e : Env) (id : FlowId) (i : Nat) (s : Server) (f : Flow) (io : Io) :
    (pcpFlowSendMsg e id i s f io).2.2.ticks = io.ticks := by
  have h := congrArg (fun r => r.2.2.ticks) (pcpFlowSendMsg_withTicks e id i s f io io.ticks)
  exact h

theorem pcpFlowSendMsg_agree (id : FlowId) (i : Nat) (s : Server) (h : io.Agree e T io') :
    Alike (Alike (Io.Agree e T)) (pcpFlowSendMsg e id i s f io) (pcpFlowSendMsg e id i s f io') := by
  have heq := pcpFlowSendMsg_withTicks e id i s f io io'.ticks
  rw [← h.eq] at heq
  rw [heq]
  exact ⟨rfl, rfl, h.of_eq (pcpFlowSendMsg_ticks e id i s f io) rfl⟩

theorem armResend_agree (h : io.Agree x.env T io') :
    Alike (Io.Agree x.env T) (armResend x f io) (armResend x f io') := by
  refine ⟨?_, h.tick⟩
  simp only [armResend, h.now]

theorem fhndlSend_agree (h : io.Agree x.env T io') :
    Alike (Alike (Io.Agree x.env T)) (fhndlSend x f io) (fhndlSend x f io') := by
  unfold fhndlSend
  cases x.server with
  | none => exact ⟨rfl, rfl, h⟩
  | some s =>
    dsimp only
    split
    · exact ⟨rfl, rfl, h⟩
    · have hsend := pcpFlowSendMsg_agree (f := f) x.id f.pcpServerIndx s h
      obtain ⟨ok, r, r', hr, hr', h'⟩ := hsend.cases
      obtain ⟨f₁, io₁, io₁', rfl, rfl, hio⟩ := h'.cases
      rw [hr, hr']
      cases ok with
      | false => exact ⟨rfl, rfl, hio⟩
      | true => exact ⟨rfl, armResend_agree hio⟩

theorem fhndlResend_agree (h : io.Agree x.env T io') :
    Alike (Alike (Io.Agree x.env T)) (fhndlResend x f io) (fhndlResend x f io') := by
  rw [fhndlResend_eq, fhndlResend_eq]
  cases x.server with
  | none => exact ⟨rfl, rfl, h⟩
  | some s =>
    dsimp only
    split
    · exact ⟨rfl, rfl, h⟩
    · have hsend := pcpFlowSendMsg_agree (f := countRetry x.env.cfg f) x.id
        (countRetry x.env.cfg f).pcpServerIndx s h
      obtain ⟨ok, r, r', hr, hr', h'⟩ := hsend.cases
      obtain ⟨f₁, io₁, io₁', rfl, rfl, hio⟩ := h'.cases
      rw [hr, hr']
      cases ok with
      | false => exact ⟨rfl, rfl, hio⟩
      | true =>
        have hrands : io₁'.rands = io₁.rands := by rw [hio.eq]
        dsimp only
        rw [hrands]
        exact ⟨rfl, armResend_agree (hio.of_eq rfl (by rw [hio.eq]))⟩

theorem fhndlSendRenew_agree (h : io.Agree x.env T io') :
    Alike (Alike (Io.Agree x.env T)) (fhndlSendRenew x f io) (fhndlSendRenew x f io') := by
  unfold fhndlSendRenew
  cases x.server with
  | none => exact ⟨rfl, rfl, h⟩
  | some s =>
    dsimp only
    have hsend := pcpFlowSendMsg_agree (f := f) x.id f.pcpServerIndx s h
    obtain ⟨ok, r, r', hr, hr', h'⟩ := hsend.cases
    obtain ⟨f₁, io₁, io₁', rfl, rfl, hio⟩ := h'.cases
    rw [hr, hr']
    cases ok with
    | false => exact ⟨rfl, rfl, hio⟩
    | true =>
      simp only [hio.now]
      split
      · exact ⟨rfl, rfl, hio.tick⟩
      · exact ⟨rfl, rfl, hio.tick⟩

theorem FlowHandler.run_agree (k : FlowHandler) (h : io.Agree x.env T io') :
    Alike (Alike (Io.Agree x.env T)) (k.run x f io) (k.run x f io') := by
  cases k with
  | waitresp =>
    simp only [FlowHandler.run, fhndlWaitresp, h.now]
    exact ⟨rfl, rfl, h.tick⟩
  | resend => exact fhndlResend_agree h
  | send => exact fhndlSend_agree h
  | shortlifeerror =>
    simp only [FlowHandler.run, fhndlShortlifeerror, h.now]
    split
    · exact ⟨rfl, rfl, h⟩
    · exact ⟨rfl, rfl, h.tick⟩
  | receivedSuccess =>
    simp only [FlowHandler.run, fhndlReceivedSuccess, h.now]
    split
    · exact ⟨rfl, rfl, h⟩
    · exact ⟨rfl, rfl, h.tick⟩
  | sendRenew => exact fhndlSendRenew_agree h
  | clearTimeouts => exact ⟨rfl, rfl, h⟩

/-- The loop of `handle_flow_event` takes the same way. -/
theorem flowLoop_agree (n : Nat) (cur : FlowState) (ev : FlowEvent) (h : io.Agree x.env T io') :
    (flowLoop x n cur ev f io = none ∧ flowLoop x n cur ev f io' = none) ∨
      ∃ r r', flowLoop x n cur ev f io = some r ∧ flowLoop x n cur ev f io' = some r' ∧
        Alike (Io.Agree x.env T) r r' := by
  induction n generalizing cur ev f io io' with
  | zero => exact .inl ⟨rfl, rfl⟩
  | succ n ih =>
    simp only [flowLoop]
    cases nextState cur ev with
    | none => exact .inr ⟨_, _, rfl, rfl, rfl, h⟩
    | some next =>
      dsimp only
      cases transHandler cur next with
      | none => exact .inr ⟨_, _, rfl, rfl, rfl, h⟩
      | some k =>
        dsimp only
        have hrun := k.run_agree (f := { f with state := next }) h
        obtain ⟨ev', r, r', hr, hr', h'⟩ := hrun.cases
        obtain ⟨f₁, io₁, io₁', rfl, rfl, hio⟩ := h'.cases
        rw [hr, hr']
        cases ev' with
        | none => exact .inr ⟨_, _, rfl, rfl, rfl, hio⟩
        | _ => exact ih _ _ hio

theorem flowStep_agree (ev : FlowEvent) (h : io.Agree x.env T io') :
    Alike (Io.Agree x.env T) (flowStep x ev f io) (flowStep x ev f io') := by
  unfold flowStep
  rcases flowLoop_agree 5 f.state ev h with ⟨h₁, h₂⟩ | ⟨r, r', h₁, h₂, hr⟩
  · rw [h₁, h₂]
    exact ⟨rfl, h⟩
  · rw [h₁, h₂]
    exact hr

end Flows

/-! ## Contexts -/

/-- The same context but for the message, the log of events and the clock readings. -/
def Ctx.Agree (e : Env) (T : Timeval) (c c' : Ctx) : Prop :=
  ∃ m l io', c.io.Agree e T io' ∧ c' = { c with msg := m, handled := l, io := io' }

section Contexts

variable {e : Env} {T : Timeval} {s : Nat} {c c' : Ctx}

namespace Ctx.Agree

theorem io (h : c.Agree e T c') : c.io.Agree e T c'.io := by
  obtain ⟨m, l, io', hio, rfl⟩ := h
  exact hio

theorem pcpServers (h : c.Agree e T c') : c'.pcpServers = c.pcpServers := by
  obtain ⟨m, l, io', -, rfl⟩ := h
  rfl

theorem heap (h : c.Agree e T c') : c'.heap = c.heap := by
  obtain ⟨m, l, io', -, rfl⟩ := h
  rfl

theorem allFlows (h : c.Agree e T c') : c'.allFlows = c.allFlows := by
  obtain ⟨m, l, io', -, rfl⟩ := h
  rfl

theorem tick (h : c.Agree e T c') : c.tick.Agree e T c'.tick := by
  obtain ⟨m, l, io', hio, rfl⟩ := h
  exact ⟨m, l, _, hio.tick, rfl⟩

theorem modFlow (h : c.Agree e T c') (f : FlowId) (g : Flow → Flow) :
    (c.modFlow f g).Agree e T (c'.modFlow f g) := by
  obtain ⟨m, l, io', hio, rfl⟩ := h
  exact ⟨m, l, _, hio, rfl⟩

theorem modServer (h : c.Agree e T c') (s : Nat) (g : Server → Server) :
    (c.modServer s g).Agree e T (c'.modServer s g) := by
  obtain ⟨m, l, io', hio, rfl⟩ := h
  exact ⟨m, l, _, hio, rfl⟩

theorem setNextTimeout (h : c.Agree e T c') (s : Nat) (t : Timeval) :
    (c.setNextTimeout s t).Agree e T (c'.setNextTimeout s t) :=
  h.modServer s _

theorem wakeNow (h : c.Agree e T c') (s : Nat) : (e.wakeNow c s).Agree e T (e.wakeNow c' s) := by
  unfold Env.wakeNow
  rw [h.io.now.1, h.io.now.2]
  exact (h.setNextTimeout s T).tick

end Ctx.Agree

theorem flowChangeNotify_agree (h : c.Agree e T c') (f : FlowId) (st : FState) :
    (flowChangeNotify c f st).Agree e T (flowChangeNotify c' f st) := by
  obtain ⟨m, l, io', hio, rfl⟩ := h
  unfold flowChangeNotify
  cases hcb : c.flowChangeCb with
  | false =>
    simp only [Bool.false_eq_true, if_false]
    exact ⟨m, l, io', hio, by rw [hcb]⟩
  | true =>
    simp only [if_true]
    exact ⟨m, l, io', hio, rfl⟩

theorem handleFlowEvent_agree (h : c.Agree e T c') (f : FlowId) (ev : FlowEvent) :
    (handleFlowEvent e c f ev none).Agree e T (handleFlowEvent e c' f ev none) := by
  obtain ⟨m, l, io', hio, rfl⟩ := h
  obtain ⟨v, j, j', hr, hr', hj⟩ :=
    (flowStep_agree (x := c.flowEnv e f none) (f := c.heap f) ev hio).cases
  have hstep' : flowStep (Ctx.flowEnv { c with msg := m, handled := l, io := io' } e f none) ev
      (c.heap f) io' = (v, j') := hr'
  unfold handleFlowEvent
  generalize handledEvent e c f ev none :: c.handled = l₁
  generalize handledEvent e { c with msg := m, handled := l, io := io' } f ev none :: _ = l₂
  dsimp only
  rw [hr, hstep']
  have hold : pcpEvalFlowState { c with msg := m, handled := l, io := io' } f = pcpEvalFlowState c f :=
    rfl
  have hnew : pcpEvalFlowState
      { Ctx.setFlow { c with msg := m, handled := l, io := io' } f v with io := j', handled := l₂ } f =
      pcpEvalFlowState { c.setFlow f v with io := j, handled := l₁ } f := rfl
  rw [hold, hnew]
  split
  · exact flowChangeNotify_agree ⟨m, l₂, j', hj, rfl⟩ f _
  · exact ⟨m, l₂, j', hj, rfl⟩

/-! ## Handlers of timeouts -/

theorem checkFlowTimeout_agree (h : c.Agree e T c') (s : Nat) (f : FlowId) :
    (checkFlowTimeout e s c f).Agree e T (checkFlowTimeout e s c' f) := by
  have hlower : ∀ {a a' : Ctx}, a.Agree e T a' → ∀ t,
      Ctx.Agree e T (lowerTimeout s a f t) (lowerTimeout s a' f t) := by
    intro a a' ha t
    have hleft : timerLeft a' f t = timerLeft a f t := by rw [timerLeft, timerLeft, ha.heap]
    unfold lowerTimeout
    rw [ha.heap, ha.pcpServers, hleft]
    split
    · exact ha
    · exact (ha.modFlow f _).setNextTimeout s _
  rw [checkFlowTimeout_eq, checkFlowTimeout_eq, h.heap, h.io.now.1, h.io.now.2]
  split
  · exact h
  · refine hlower ?_ T
    unfold fireTimer
    rw [h.io.now.1, h.io.now.2, h.heap]
    have ha := h.tick.modFlow f alignTimer
    split
    · exact handleFlowEvent_agree ha f .flowTimedout
    · exact ha

theorem foldl_agree {g : Ctx → FlowId → Ctx} (l : List FlowId)
    (hg : ∀ {a a' : Ctx} (f : FlowId), a.Agree e T a' → (g a f).Agree e T (g a' f))
    (h : c.Agree e T c') : (l.foldl g c).Agree e T (l.foldl g c') := by
  induction l generalizing c c' with
  | nil => exact h
  | cons f l ih => exact ih (hg f h)

theorem sendEventAll_agree (h : c.Agree e T c') (s : Nat) (ev : FlowEvent) :
    (sendEventAll e s ev c).Agree e T (sendEventAll e s ev c') := by
  unfold sendEventAll
  rw [h.allFlows]
  refine foldl_agree _ (fun {a a'} f ha => ?_) h
  unfold flowSendEventIter
  rw [ha.heap, ha.pcpServers]
  split
  · exact checkFlowTimeout_agree (handleFlowEvent_agree ha f ev) s f
  · exact ha

theorem getPingMsg_agree (h : c.Agree e T c') (s : Nat) :
    Alike (Ctx.Agree e T) (getPingMsg c s) (getPingMsg c' s) := by
  have hfirst : firstFlowCandidate c' s = firstFlowCandidate c s := by
    funext f
    simp only [firstFlowCandidate, h.heap, h.pcpServers]
  unfold getPingMsg
  rw [h.allFlows, hfirst]
  exact ⟨rfl, h.modServer s _⟩

theorem pcpDbAddFlow_agree (h : c.Agree e T c') (f : Option FlowId) :
    (pcpDbAddFlow c f).Agree e T (pcpDbAddFlow c' f) := by
  obtain ⟨m, l, io', hio, rfl⟩ := h
  cases f with
  | none => exact ⟨m, l, io', hio, rfl⟩
  | some f => exact ⟨m, l, io', hio, rfl⟩

theorem pcpCreateFlow_agree (h : c.Agree e T c') (s : Nat) (kd : FlowKeyData) :
    Alike (Ctx.Agree e T) (pcpCreateFlow e c s kd) (pcpCreateFlow e c' s kd) := by
  obtain ⟨m, l, io', hio, rfl⟩ := h
  have hcallocs : io'.callocs = c.io.callocs := by rw [hio.eq]
  have hcall : Io.Agree e T { c.io with callocs := c.io.callocs + 1 }
      { io' with callocs := io'.callocs + 1 } :=
    hio.of_eq rfl (by rw [hio.eq])
  unfold pcpCreateFlow
  simp only [hcallocs]
  rw [hcallocs] at hcall
  split
  · exact ⟨rfl, m, l, _, hcall, by simp only [Ctx.callocCall, hcallocs]; rfl⟩
  · exact ⟨rfl, m, l, _, hcall, by simp only [Ctx.callocCall, hcallocs]⟩

theorem createNatpmpAnnMsg_agree (h : c.Agree e T c') (s : Nat) :
    Alike (Ctx.Agree e T) (createNatpmpAnnMsg e c s) (createNatpmpAnnMsg e c' s) := by
  unfold createNatpmpAnnMsg
  dsimp only
  rw [h.pcpServers]
  obtain ⟨f, a, a', hr, hr', ha⟩ := (pcpCreateFlow_agree h s { FlowKeyData.zero with
    srcIp := (c.pcpServers s).srcIp, pcpServerIp := (c.pcpServers s).pcpIp
    nonce := (c.pcpServers s).nonce, operation := natpmpOpcodeAnnounce }).cases
  rw [hr, hr']
  exact ⟨rfl, pcpDbAddFlow_agree (ha.modServer s _) f⟩

theorem pingLoop_agree (h : c.Agree e T c') (s n : Nat) :
    Alike (Ctx.Agree e T) (pingLoop e s n c) (pingLoop e s n c') := by
  induction n generalizing c c' with
  | zero => exact ⟨rfl, h.setNextTimeout s _⟩
  | succ n ih =>
    simp only [pingLoop]
    obtain ⟨p, a, a', hr, hr', ha⟩ := (getPingMsg_agree h s).cases
    rw [hr, hr']
    cases p with
    | none => exact ⟨rfl, ha.setNextTimeout s _⟩
    | some f =>
      dsimp only
      have hsent := handleFlowEvent_agree (ha.modFlow f fun v => { v with retryCount := 0 }) f .send
      rw [hsent.heap]
      split
      · exact ⟨rfl, hsent.setNextTimeout s _⟩
      · exact ih hsent

theorem handleWaitPingRespTimeout_agree (h : c.Agree e T c') (s : Nat) :
    Alike (Ctx.Agree e T) (handleWaitPingRespTimeout e c s) (handleWaitPingRespTimeout e c' s) := by
  unfold handleWaitPingRespTimeout
  dsimp only
  have ha := h.modServer s fun v => { v with pingCount := v.pingCount + 1 }
  rw [ha.pcpServers]
  split
  · exact ⟨rfl, ha.wakeNow s⟩
  · split
    · exact ⟨rfl, ha.wakeNow s⟩
    · rename_i p _
      have hb := handleFlowEvent_agree ha p .flowTimedout
      rw [hb.heap]
      split
      · exact ⟨rfl, hb.wakeNow s⟩
      · exact ⟨rfl, hb.setNextTimeout s _⟩

theorem negotiationPing_agree (h : c.Agree e T c') (s : Nat) (p : FlowId) :
    Alike (Ctx.Agree e T) (negotiationPing e c s p) (negotiationPing e c' s p) := by
  unfold negotiationPing
  dsimp only
  have ha := handleFlowEvent_agree
    (h.modFlow p fun v => { v with retryCount := 0, resendTimeout := 0 }) p .send
  rw [ha.heap]
  split
  · exact ⟨rfl, ha⟩
  · exact ⟨rfl, ha.setNextTimeout s _⟩

theorem natpmpPingMsg_agree (h : c.Agree e T c') (s : Nat) :
    Alike (Ctx.Agree e T) (natpmpPingMsg e c s) (natpmpPingMsg e c' s) := by
  unfold natpmpPingMsg
  dsimp only
  rw [h.pcpServers]
  split
  · exact createNatpmpAnnMsg_agree (h.modFlow _ _) s
  · exact createNatpmpAnnMsg_agree h s

theorem negotiationEnd_agree (s : Nat) {r r' : Option FlowId × Ctx} (h : Alike (Ctx.Agree e T) r r') :
    Alike (Ctx.Agree e T) (negotiationEnd e s r) (negotiationEnd e s r') := by
  obtain ⟨p, a, a', rfl, rfl, ha⟩ := h.cases
  cases p with
  | some p => exact negotiationPing_agree ha s p
  | none =>
    simp only [negotiationEnd]
    obtain ⟨q, b, b', hr, hr', hb⟩ := (getPingMsg_agree ha s).cases
    rw [hr, hr']
    cases q with
    | some q => exact negotiationPing_agree hb s q
    | none => exact ⟨rfl, hb.setNextTimeout s _⟩

theorem handleVersionNegotiation_agree (h : c.Agree e T c') (s : Nat) :
    Alike (Ctx.Agree e T) (handleVersionNegotiation e c s) (handleVersionNegotiation e c' s) := by
  have hl : (lowerNextVersion c s).Agree e T (lowerNextVersion c' s) := h.modServer s _
  have hu : (useNextVersion (lowerNextVersion c s) s).Agree e T
      (useNextVersion (lowerNextVersion c' s) s) := hl.modServer s _
  rw [handleVersionNegotiation_eq, handleVersionNegotiation_eq, hl.pcpServers]
  split
  · exact ⟨rfl, hl⟩
  · refine negotiationEnd_agree s ?_
    rw [hu.pcpServers]
    split
    · exact natpmpPingMsg_agree hu s
    · exact ⟨rfl, hu⟩

theorem handleWaitIoTimeout_agree (h : c.Agree e T c') (s : Nat) :
    Alike (Ctx.Agree e T) (handleWaitIoTimeout e c s) (handleWaitIoTimeout e c' s) := by
  have ha := h.setNextTimeout s .zero
  have hb := foldl_agree (c.setNextTimeout s .zero).allFlows
    (fun f h => checkFlowTimeout_agree h s f) ha
  unfold handleWaitIoTimeout
  dsimp only
  rw [ha.allFlows, hb.pcpServers, hb.io.now.1, hb.io.now.2]
  split
  · exact ⟨rfl, hb⟩
  · exact ⟨rfl, hb.tick.setNextTimeout s _⟩

theorem handleServerSetNotWorking_agree (h : c.Agree e T c') (s : Nat) :
    Alike (Ctx.Agree e T) (handleServerSetNotWorking e c s) (handleServerSetNotWorking e c' s) := by
  have ha := sendEventAll_agree h s .failed
  unfold handleServerSetNotWorking
  dsimp only
  rw [ha.io.now.1, ha.io.now.2]
  exact ⟨rfl, (ha.setNextTimeout s _).tick⟩

/-- A timer that is due leads to the next ping, whatever message there is. -/
theorem handleServerNotWorking_agree (h : c.Agree e T c')
    (hdue : (c.pcpServers s).nextTimeout.us ≤ T.us) :
    Alike (Ctx.Agree e T) (handleServerNotWorking e c s) (handleServerNotWorking e c' s) := by
  have hcmp : ¬ (timevalComp T (c.pcpServers s).nextTimeout).1 < 0 := by
    rw [timevalComp_lt]
    omega
  unfold handleServerNotWorking
  dsimp only
  rw [h.pcpServers, h.io.now.1, h.io.now.2, if_neg hcmp, if_neg hcmp]
  exact ⟨rfl, (h.tick.setNextTimeout s _).setNextTimeout s _⟩

/-! ## A pulse -/

theorem ServerHandler.run_agree (k : ServerHandler) (h : c.Agree e T c')
    (hk : k ≠ .waitPingRespRecv ∧ k ≠ .waitIoReceiveMsg)
    (hdue : (c.pcpServers s).nextTimeout.us ≤ T.us) :
    Alike (Ctx.Agree e T) (k.run e c s) (k.run e c' s) := by
  cases k with
  | terminate => exact ⟨rfl, h.setNextTimeout s _⟩
  | ping =>
    simp only [ServerHandler.run, handleServerPing]
    rw [h.allFlows]
    exact pingLoop_agree (h.modServer s _) s _
  | waitPingRespTimeout => exact handleWaitPingRespTimeout_agree h s
  | waitPingRespRecv => exact absurd rfl hk.1
  | versionNegotiation => exact handleVersionNegotiation_agree h s
  | sendAllMsgs => exact ⟨rfl, (sendEventAll_agree h s .serverInitialized).wakeNow s⟩
  | waitIoReceiveMsg => exact absurd rfl hk.2
  | waitIoTimeout => exact handleWaitIoTimeout_agree h s
  | restart =>
    exact ⟨rfl, ((sendEventAll_agree h s .serverRestarted).modServer s _).wakeNow s⟩
  | reping => exact ⟨rfl, (h.modServer s _).wakeNow s⟩
  | setNotWorking => exact handleServerSetNotWorking_agree h s
  | notWorking => exact handleServerNotWorking_agree h hdue
  | ignoreEvents =>
    refine ⟨?_, h.setNextTimeout s _⟩
    simp only [ServerHandler.run, LibPcp.ignoreEvents, h.pcpServers]
  | unexpected => exact ⟨rfl, h.wakeNow s⟩

theorem runServerStateMachine_agree (h : c.Agree e T c')
    (hdue : (c.pcpServers s).nextTimeout.us ≤ T.us) :
    (runServerStateMachine e c s .timeout).Agree e T (runServerStateMachine e c' s .timeout) := by
  obtain ⟨k, hk⟩ := serverHandler_total (c.pcpServers s).serverState .timeout
  have hio : ∀ st, serverHandler st .timeout ≠ some .waitPingRespRecv ∧
      serverHandler st .timeout ≠ some .waitIoReceiveMsg := by
    intro st
    cases st <;> decide
  have hne : k ≠ .waitPingRespRecv ∧ k ≠ .waitIoReceiveMsg := by
    obtain ⟨h₁, h₂⟩ := hio (c.pcpServers s).serverState
    rw [hk] at h₁ h₂
    exact ⟨fun h => h₁ (h ▸ rfl), fun h => h₂ (h ▸ rfl)⟩
  have hk' : serverHandler (c'.pcpServers s).serverState .timeout = some k := by
    rw [h.pcpServers]
    exact hk
  obtain ⟨st, a, a', hr, hr', ha⟩ := (k.run_agree h hne hdue).cases
  rw [runServerStateMachine_eq hk, runServerStateMachine_eq hk', hr, hr']
  exact ha.modServer s _

theorem hserverLoop_agree (h : c.Agree e T c') (s n : Nat) :
    (hserverLoop e s n c = none ∧ hserverLoop e s n c' = none) ∨
      ∃ t a a', hserverLoop e s n c = some (t, a) ∧ hserverLoop e s n c' = some (t, a') ∧
        a.Agree e T a' := by
  induction n generalizing c c' with
  | zero => exact .inl ⟨rfl, rfl⟩
  | succ n ih =>
    simp only [hserverLoop, Ctx.tick_pcpServers]
    rw [h.pcpServers, h.io.now.1, h.io.now.2]
    split
    · exact .inr ⟨_, _, _, rfl, rfl, h.tick⟩
    · have ha := h.tick.setNextTimeout s
        (timevalSubtractInto (c.pcpServers s).nextTimeout T).2.1
      split
      · rename_i hdue
        refine ih (runServerStateMachine_agree ha ?_)
        rw [Ctx.setNextTimeout_self, timevalSubtractInto_x, us_timevalAlign]
        exact (timevalSubtractInto_fst _ _).mp hdue
      · exact .inr ⟨_, _, _, rfl, rfl, ha⟩

/-- Neither part of a pulse returns within the bound, or both do with the same result. -/
def AgreeSome (e : Env) (T : Timeval) (r r' : Option (Ctx × Option Timeval)) : Prop :=
  (r = none ∧ r' = none) ∨
    ∃ c c' t, r = some (c, t) ∧ r' = some (c', t) ∧ c.Agree e T c'

theorem hserverIter_agree (h : c.Agree e T c') (s n : Nat) (t : Option Timeval) :
    AgreeSome e T (hserverIter e n .timeout c s t) (hserverIter e n .timeout c' s t) := by
  unfold hserverIter
  rw [h.pcpServers]
  split
  · exact .inr ⟨_, _, _, rfl, rfl, h⟩
  · simp only [ne_eq, not_true_eq_false, if_false]
    rcases hserverLoop_agree h s n with ⟨h₁, h₂⟩ | ⟨ctv, a, a', h₁, h₂, ha⟩
    · rw [h₁, h₂]
      exact .inl ⟨rfl, rfl⟩
    · rw [h₁, h₂]
      dsimp only
      rw [ha.pcpServers]
      cases t with
      | none => exact .inr ⟨_, _, _, rfl, rfl, ha⟩
      | some t =>
        dsimp only
        split
        · exact .inr ⟨_, _, _, rfl, rfl, ha⟩
        · split
          · exact .inr ⟨_, _, _, rfl, rfl, ha⟩
          · exact .inr ⟨_, _, _, rfl, rfl, ha⟩

theorem pulseTimeouts_agree (h : c.Agree e T c') (n : Nat) (ss : List Nat) (t : Option Timeval) :
    AgreeSome e T (pulseTimeouts e n ss c t) (pulseTimeouts e n ss c' t) := by
  induction ss generalizing c c' t with
  | nil => exact .inr ⟨_, _, _, rfl, rfl, h⟩
  | cons s ss ih =>
    simp only [pulseTimeouts]
    rcases hserverIter_agree h s n t with ⟨h₁, h₂⟩ | ⟨a, a', t', h₁, h₂, ha⟩
    · rw [h₁, h₂]
      exact .inl ⟨rfl, rfl⟩
    · rw [h₁, h₂]
      exact ih ha t'

end Contexts

/-- A datagram that is not a valid response, cannot be parsed, or comes from an address at which no
server is registered. -/
def Rejected (e : Env) (c : Ctx) (dg : Datagram) : Prop :=
  let m := (readMsg e c dg).msg
  let src := pcpFillIn6Addr (.any, 0, 0) dg.src
  validatePcpMsg m = false ∨ (parseResponse e.cfg m).1 ≠ .success ∨
    getPcpServerByIp c src.1 src.2.2 = none

instance (e : Env) (c : Ctx) (dg : Datagram) : Decidable (Rejected e c dg) :=
  inferInstanceAs (Decidable (_ ∨ _ ∨ _))

/-- What the outside can see of a context and of the time the application is to wait. -/
structure Observed where
  pcpServersLength : Nat
  pcpServers : Nat → Server
  flowCnt : Nat
  flows : Nat → List FlowId
  heap : FlowId → Flow
  sent : List Sent
  notified : List Notification
  nextTimeout : Option Timeval

def observe (r : Ctx × Option Timeval) : Observed :=
  { pcpServersLength := r.1.pcpServersLength, pcpServers := r.1.pcpServers, flowCnt := r.1.flowCnt
    flows := r.1.flows, heap := r.1.heap, sent := r.1.io.sent, notified := r.1.notified
    nextTimeout := r.2 }

theorem rejected_dropped {e : Env} {c : Ctx} {dg : Datagram} (h : Rejected e c dg) :
    ∃ m, acceptMsg e (readMsg e c dg) = (none, { c.tick with msg := m }) := by
  have hread : readMsg e c dg = { c.tick with msg := (readMsg e c dg).msg } := rfl
  have hsrc : (readMsg e c dg).msg.rcvdFromAddr = dg.src := rfl
  unfold Rejected at h
  dsimp only at h
  generalize (readMsg e c dg).msg = m at h hread hsrc
  have horigin := (parseResponse_origin e.cfg m).rcvdFromAddr
  unfold acceptMsg
  rw [hread]
  dsimp only
  cases hv : validatePcpMsg m with
  | false => exact ⟨m, rfl⟩
  | true =>
    rcases hp : parseResponse e.cfg m with ⟨err, m'⟩
    rw [hp] at h horigin
    cases err with
    | success =>
      rcases h with h | h | h
      · rw [hv] at h
        cases h
      · exact absurd rfl h
      · refine ⟨m', ?_⟩
        have hnone : getPcpServerByIp { c.tick with msg := m' }
            (pcpFillIn6Addr (.any, 0, 0) m'.rcvdFromAddr).1
            (pcpFillIn6Addr (.any, 0, 0) m'.rcvdFromAddr).2.2 = none := by
          rw [horigin, hsrc]
          exact h
        simp only [if_true]
        rw [hnone]
    | _ => exact ⟨m', rfl⟩

/-- While the clock stands still, a pulse that receives a rejected datagram ends as one that finds
nothing to read. -/
theorem rejected_datagram_no_effect {e : Env} {c : Ctx} {dg : Datagram} {T : Timeval}
    (hT : ∀ i, c.io.ticks ≤ i → e.clock i = T) (h : Rejected e c dg) (n : Nat) (t : Timeval) :
    (pcpPulse e n c (some dg) t).map observe = (pcpPulse e n c none t).map observe := by
  obtain ⟨m, hm⟩ := rejected_dropped h
  have hagree : Ctx.Agree e T { c with msg := .zero } { c.tick with msg := m } :=
    ⟨m, c.handled, c.io.tick, ⟨hT, fun i hi => hT i (Nat.le_of_succ_le hi), rfl⟩, rfl⟩
  have hpulse := pulseTimeouts_agree hagree n (List.range c.pcpServersLength) (some t)
  have hdrop : pcpPulse e n c (some dg) t = pulseTimeouts e n (List.range c.pcpServersLength)
      { c.tick with msg := m } (some t) := by
    simp only [pcpPulse, pulseRecv, hm, Ctx.tick_pcpServersLength]
  have hquiet : pcpPulse e n c none t = pulseTimeouts e n (List.range c.pcpServersLength)
      { c with msg := .zero } (some t) := rfl
  rw [hdrop, hquiet]
  rcases hpulse with ⟨h₁, h₂⟩ | ⟨a, a', t', h₁, h₂, m', l', io', hio, rfl⟩
  · rw [h₁, h₂]
  · rw [h₁, h₂]
    have hsent : io'.sent = a.io.sent := by rw [hio.eq]
    simp only [Option.map_some, observe, hsent]

theorem rejected_datagram_no_effect_foreign :
    let c := runTo (.calm {}) (fun _ _ => True) 12 {} waitingFlow
    let dg : Datagram := { announceResponse 0 with src := .inet 0x0A000009 5351 }
    (pcpPulse (.calm {}) 12 c (some dg) .zero).isSome = true ∧
      (pcpPulse (.calm {}) 12 c (some dg) .zero).map observe =
        (pcpPulse (.calm {}) 12 c none .zero).map observe := by
  intro c dg
  have hrej : Rejected (.calm {}) c dg := by decide +kernel
  exact ⟨by decide +kernel,
    rejected_datagram_no_effect (T := ⟨1000, 0⟩) (fun _ _ => rfl) hrej 12 .zero⟩

end LibPcp
