import LibPcp.Rejected
import LibPcp.Writes

/-!
# LibPcp.Views

What a visit of a server depends on while the clock stands still.

`hserver_iter` works on the record of its server, the flows, the message and the answers of the
environment. It does not read the timers of the other servers, and how often the clock was read is of no
account when it always shows the same. `SameView` relates two contexts that differ in nothing else; the
log `handled` is left out, since no code reads it.

* `handleFlowEvent_sameView`: an event does the same to both.
* `ServerHandler.run_alike`: so does every handler that a timeout can lead to.
* `hserverLoop_sameView`: the loop ends in both with the same time and the same record.
-/

namespace LibPcp

open ByteBuffer

/-! ## Two contexts that look the same -/

/-- The counters with `k` readings of the clock. -/
def Io.reread (io : Io) (k : Nat) : Io := { io with ticks := k }

def Server.untimed (v : Server) : Server := { v with nextTimeout := .zero }

/-- The contexts differ in the clock readings, the log and the timers of servers other than `s`. -/
structure SameView (s : Nat) (c d : Ctx) : Prop where
  server : d.pcpServers s = c.pcpServers s
  others : ∀ i, (d.pcpServers i).untimed = (c.pcpServers i).untimed
  io : ∃ k, d.io = c.io.reread k
  rest : d = { c with pcpServers := d.pcpServers, handled := d.handled, io := d.io }

namespace SameView

variable {s : Nat} {c d : Ctx}

theorem record (h : SameView s c d) (i : Nat) :
    d.pcpServers i = { c.pcpServers i with nextTimeout := (d.pcpServers i).nextTimeout } := by
  have hothers := congrArg (fun v : Server => { v with nextTimeout := (d.pcpServers i).nextTimeout })
    (h.others i)
  exact hothers

theorem heap (h : SameView s c d) : d.heap = c.heap := by rw [h.rest]

theorem heapTop (h : SameView s c d) : d.heapTop = c.heapTop := by rw [h.rest]

theorem flows (h : SameView s c d) : d.flows = c.flows := by rw [h.rest]

theorem allFlows (h : SameView s c d) : d.allFlows = c.allFlows := by
  rw [Ctx.allFlows, h.flows]
  rfl

theorem callocs (h : SameView s c d) : d.io.callocs = c.io.callocs := by
  obtain ⟨k, hk⟩ := h.io
  rw [hk]
  rfl

theorem tick (h : SameView s c d) : SameView s c.tick d.tick := by
  obtain ⟨k, hk⟩ := h.io
  refine ⟨h.server, h.others, ⟨k + 1, ?_⟩, ?_⟩
  · rw [Ctx.tick_io, hk]
    rfl
  · rw [h.rest]
    rfl

theorem setFlow (h : SameView s c d) (f : FlowId) (v : Flow) :
    SameView s (c.setFlow f v) (d.setFlow f v) := by
  refine ⟨h.server, h.others, h.io, ?_⟩
  rw [h.rest]
  rfl

theorem modFlow (h : SameView s c d) (f : FlowId) (g : Flow → Flow) :
    SameView s (c.modFlow f g) (d.modFlow f g) := by
  unfold Ctx.modFlow
  rw [h.heap]
  exact h.setFlow f _

theorem setServer (h : SameView s c d) (v : Server) : SameView s (c.setServer s v) (d.setServer s v) := by
  refine ⟨?_, fun i => ?_, h.io, ?_⟩
  · simp
  · by_cases hi : i = s
    · subst hi
      simp
    · simpa [Function.update_of_ne hi] using h.others i
  · rw [h.rest]
    rfl

theorem modServer (h : SameView s c d) (g : Server → Server) :
    SameView s (c.modServer s g) (d.modServer s g) := by
  unfold Ctx.modServer
  rw [h.server]
  exact h.setServer _

theorem setNextTimeout (h : SameView s c d) (t : Timeval) :
    SameView s (c.setNextTimeout s t) (d.setNextTimeout s t) :=
  h.modServer _

theorem callocCall (h : SameView s c d) : SameView s c.callocCall d.callocCall := by
  obtain ⟨k, hk⟩ := h.io
  refine ⟨h.server, h.others, ⟨k, ?_⟩, ?_⟩
  · unfold Ctx.callocCall
    rw [hk]
    rfl
  · rw [h.rest]
    rfl

theorem symm (h : SameView s c d) : SameView s d c := by
  obtain ⟨k, hk⟩ := h.io
  refine ⟨h.server.symm, fun i => (h.others i).symm, ⟨c.io.ticks, ?_⟩, ?_⟩
  · rw [hk]
    rfl
  · rw [h.rest]

theorem ticked (s : Nat) (c : Ctx) : SameView s c c.tick := ⟨rfl, fun _ => rfl, ⟨_, rfl⟩, rfl⟩

/-- Another server has got a timer. -/
theorem of_others {i : Nat} (hi : s ≠ i) (t : Timeval) : SameView s c (c.tick.setNextTimeout i t) := by
  refine ⟨?_, fun j => ?_, ⟨_, rfl⟩, rfl⟩
  · exact Function.update_of_ne hi _ _
  · by_cases hj : j = i
    · subst hj
      rw [Ctx.setNextTimeout_self]
      rfl
    · exact congrArg Server.untimed (Function.update_of_ne hj _ _)

end SameView

/-! ## Flow events -/

section Events

variable {e : Env} {now : Timeval}

theorem pcpFlowSendMsg_reread (id : FlowId) (i : Nat) (v : Server) (t : Timeval) (f : Flow) (io : Io)
    (k : Nat) :
    pcpFlowSendMsg e id i { v with nextTimeout := t } f (io.reread k) =
      ((pcpFlowSendMsg e id i v f io).1, (pcpFlowSendMsg e id i v f io).2.1,
        (pcpFlowSendMsg e id i v f io).2.2.reread k) := by
  have htimer : pcpFlowSendMsg e id i { v with nextTimeout := t } f (io.reread k) =
      pcpFlowSendMsg e id i v f (io.reread k) := rfl
  exact htimer.trans (pcpFlowSendMsg_withTicks e id i v f io k)

/-- The result of a handler but for the clock readings. -/
def SameResult : FlowEvent × Flow × Io → FlowEvent × Flow × Io → Prop :=
  Alike (Alike fun io io' => ∃ k, io' = io.reread k)

/-- The same flow event with another timer at the server. -/
def FlowEnv.retimed (x : FlowEnv) (t : Timeval) : FlowEnv :=
  { x with server := x.server.map fun v => { v with nextTimeout := t } }

theorem FlowHandler.run_sameResult (h : FlowHandler) (x : FlowEnv) (hx : x.env = e.frozen now)
    (t : Timeval) (f : Flow) (io : Io) (k : Nat) :
    SameResult (h.run x f io) (h.run (x.retimed t) f (io.reread k)) := by
  obtain ⟨env, id, server, msg⟩ := x
  obtain rfl : env = e.frozen now := hx
  cases h with
  | waitresp => exact ⟨rfl, rfl, _, rfl⟩
  | shortlifeerror =>
    cases msg with
    | none => exact ⟨rfl, rfl, _, rfl⟩
    | some m => exact ⟨rfl, rfl, _, rfl⟩
  | receivedSuccess =>
    cases msg with
    | none => exact ⟨rfl, rfl, _, rfl⟩
    | some m => exact ⟨rfl, rfl, _, rfl⟩
  | clearTimeouts => exact ⟨rfl, rfl, _, rfl⟩
  | send =>
    cases server with
    | none => exact ⟨rfl, rfl, _, rfl⟩
    | some v =>
      simp only [FlowHandler.run, fhndlSend, FlowEnv.retimed, Option.map_some, pcpFlowSendMsg_reread]
      split
      · exact ⟨rfl, rfl, _, rfl⟩
      · generalize pcpFlowSendMsg (e.frozen now) id f.pcpServerIndx v f io = r
        obtain ⟨ok, g, io₁⟩ := r
        cases ok with
        | false => exact ⟨rfl, rfl, _, rfl⟩
        | true => exact ⟨rfl, rfl, _, rfl⟩
  | resend =>
    cases server with
    | none => exact ⟨rfl, rfl, _, rfl⟩
    | some v =>
      simp only [FlowHandler.run, fhndlResend, FlowEnv.retimed, Option.map_some, pcpFlowSendMsg_reread]
      by_cases hm : (e.frozen now).cfg.retxMrc > 0
      · simp only [hm, if_true, true_and]
        split
        · exact ⟨rfl, rfl, _, rfl⟩
        · generalize pcpFlowSendMsg (e.frozen now) id _ v _ io = r
          obtain ⟨ok, g, io₁⟩ := r
          cases ok with
          | false => exact ⟨rfl, rfl, _, rfl⟩
          | true => exact ⟨rfl, rfl, _, rfl⟩
      · simp only [hm, if_false, false_and]
        generalize pcpFlowSendMsg (e.frozen now) id _ v _ io = r
        obtain ⟨ok, g, io₁⟩ := r
        cases ok with
        | false => exact ⟨rfl, rfl, _, rfl⟩
        | true => exact ⟨rfl, rfl, _, rfl⟩
  | sendRenew =>
    cases server with
    | none => exact ⟨rfl, rfl, _, rfl⟩
    | some v =>
      simp only [FlowHandler.run, fhndlSendRenew, FlowEnv.retimed, Option.map_some, pcpFlowSendMsg_reread]
      generalize pcpFlowSendMsg (e.frozen now) id f.pcpServerIndx v f io = r
      obtain ⟨ok, g, io₁⟩ := r
      cases ok with
      | false => exact ⟨rfl, rfl, _, rfl⟩
      | true =>
        dsimp only
        have hnow : ∀ io, (e.frozen now).now io = now := fun _ => rfl
        simp only [hnow]
        split
        · exact ⟨rfl, rfl, _, rfl⟩
        · exact ⟨rfl, rfl, _, rfl⟩

theorem flowLoop_sameResult (x : FlowEnv) (hx : x.env = e.frozen now) (t : Timeval) (n : Nat)
    (cur : FlowState) (ev : FlowEvent) (f : Flow) (io : Io) (k : Nat) :
    ∃ l, flowLoop (x.retimed t) n cur ev f (io.reread k) =
      (flowLoop x n cur ev f io).map fun r => (r.1, r.2.reread l) := by
  induction n generalizing cur ev f io k with
  | zero => exact ⟨0, rfl⟩
  | succ n ih =>
    unfold flowLoop
    cases nextState cur ev with
    | none => exact ⟨k, rfl⟩
    | some next =>
      dsimp only
      cases transHandler cur next with
      | none => exact ⟨k, rfl⟩
      | some h =>
        obtain ⟨hev, hflow, l, hio⟩ := h.run_sameResult x hx t { f with state := next } io k
        dsimp only
        generalize h.run x { f with state := next } io = p at hev hflow hio
        generalize h.run (x.retimed t) { f with state := next } (io.reread k) = q at hev hflow hio
        obtain ⟨ev', f', io'⟩ := p
        obtain ⟨ev'', f'', io''⟩ := q
        obtain rfl : ev' = ev'' := hev
        obtain rfl : f' = f'' := hflow
        obtain rfl : io'' = io'.reread l := hio
        cases ev' with
        | none => exact ⟨l, rfl⟩
        | _ => exact ih ..

theorem flowStep_sameResult (x : FlowEnv) (hx : x.env = e.frozen now) (t : Timeval) (ev : FlowEvent)
    (f : Flow) (io : Io) (k : Nat) :
    ∃ l, flowStep (x.retimed t) ev f (io.reread k) =
      ((flowStep x ev f io).1, (flowStep x ev f io).2.reread l) := by
  obtain ⟨l, hl⟩ := flowLoop_sameResult x hx t 5 f.state ev f io k
  unfold flowStep
  rw [hl]
  cases flowLoop x 5 f.state ev f io with
  | none => exact ⟨k, rfl⟩
  | some r => exact ⟨l, rfl⟩

variable {s : Nat} {c d : Ctx}

/-- The flow's server is the same but for its timer. -/
theorem SameView.flowEnv (h : SameView s c d) (f : FlowId) (m : Option RecvMsg) :
    ∃ t, d.flowEnv e f m = (c.flowEnv e f m).retimed t := by
  have hlen : d.pcpServersLength = c.pcpServersLength := by rw [h.rest]
  unfold Ctx.flowEnv FlowEnv.retimed serverOf getPcpServer
  rw [h.heap, hlen]
  generalize (c.heap f).pcpServerIndx = i
  have hrecord := h.record i
  have hst : (d.pcpServers i).serverState = (c.pcpServers i).serverState := by rw [hrecord]
  refine ⟨(d.pcpServers i).nextTimeout, ?_⟩
  rw [hst]
  split
  · simp only [Option.map_some, FlowEnv.mk.injEq, Option.some.injEq, true_and, and_true]
    exact hrecord
  · rfl

theorem SameView.evalFlowState (h : SameView s c d) (f : FlowId) :
    pcpEvalFlowState d f = pcpEvalFlowState c f := by
  unfold pcpEvalFlowState Ctx.chain
  rw [h.heap, h.heapTop]

theorem SameView.flowChangeNotify (h : SameView s c d) (f : FlowId) (state : FState) :
    SameView s (flowChangeNotify c f state) (flowChangeNotify d f state) := by
  have hcb : d.flowChangeCb = c.flowChangeCb := by rw [h.rest]
  have hold : d.notified = c.notified := by rw [h.rest]
  unfold LibPcp.flowChangeNotify
  rw [hcb]
  split
  · refine ⟨h.server, h.others, h.io, ?_⟩
    rw [h.heap, hold, h.rest]
  · exact h

theorem handleFlowEvent_sameView (e : Env) (now : Timeval) (h : SameView s c d) (f : FlowId) (ev : FlowEvent)
    (m : Option RecvMsg) :
    SameView s (handleFlowEvent (e.frozen now) c f ev m) (handleFlowEvent (e.frozen now) d f ev m) := by
  obtain ⟨t, hx⟩ := h.flowEnv (e := e.frozen now) f m
  obtain ⟨k, hk⟩ := h.io
  obtain ⟨l, hstep⟩ := flowStep_sameResult (c.flowEnv (e.frozen now) f m) rfl t ev (c.heap f) c.io k
  unfold handleFlowEvent
  dsimp only
  rw [hx, hk, h.heap, hstep]
  generalize handledEvent (e.frozen now) c f ev m = logged
  generalize handledEvent (e.frozen now) d f ev m = logged'
  generalize flowStep (c.flowEnv (e.frozen now) f m) ev (c.heap f) c.io = r
  obtain ⟨v, io⟩ := r
  have hset := h.setFlow f v
  have hleft : SameView s { c.setFlow f v with io := io, handled := logged :: c.handled }
      { d.setFlow f v with io := io.reread l, handled := logged' :: d.handled } := by
    refine ⟨h.server, h.others, ⟨l, rfl⟩, ?_⟩
    rw [h.rest]
    rfl
  dsimp only
  rw [h.evalFlowState, hleft.evalFlowState]
  split
  · exact hleft.flowChangeNotify f _
  · exact hleft

end Events

/-! ## Handlers -/

section Handlers

variable {e : Env} {now : Timeval} {s : Nat} {c d : Ctx}

theorem SameView.wakeNow (h : SameView s c d) :
    SameView s ((e.frozen now).wakeNow c s) ((e.frozen now).wakeNow d s) :=
  (h.setNextTimeout now).tick

theorem checkFlowTimeout_sameView (h : SameView s c d) (f : FlowId) :
    SameView s (checkFlowTimeout (e.frozen now) s c f) (checkFlowTimeout (e.frozen now) s d f) := by
  have hnow : ∀ io, (e.frozen now).now io = now := fun _ => rfl
  have hfired : SameView s (fireTimer (e.frozen now) c f) (fireTimer (e.frozen now) d f) := by
    have hstart := h.tick.modFlow f alignTimer
    unfold fireTimer
    rw [h.heap, hnow, hnow]
    split
    · exact handleFlowEvent_sameView e now hstart f _ _
    · exact hstart
  rw [checkFlowTimeout_eq, checkFlowTimeout_eq, h.heap, hnow, hnow]
  split
  · exact h
  · unfold lowerTimeout timerLeft
    rw [hfired.heap, hfired.server]
    split
    · exact hfired
    · exact (hfired.modFlow f alignTimer).setNextTimeout _

theorem walk_sameView (e : Env) (now : Timeval) (h : SameView s c d) (l : List FlowId) :
    SameView s (l.foldl (checkFlowTimeout (e.frozen now) s) c)
      (l.foldl (checkFlowTimeout (e.frozen now) s) d) := by
  induction l generalizing c d with
  | nil => exact h
  | cons f l ih => exact ih (checkFlowTimeout_sameView h f)

theorem flowSendEventIter_sameView (h : SameView s c d) (ev : FlowEvent) (f : FlowId) :
    SameView s (flowSendEventIter (e.frozen now) s ev c f) (flowSendEventIter (e.frozen now) s ev d f) := by
  unfold flowSendEventIter
  rw [h.heap, h.server]
  split
  · exact checkFlowTimeout_sameView (handleFlowEvent_sameView e now h f ev none) f
  · exact h

theorem sendEventAll_sameView (h : SameView s c d) (ev : FlowEvent) :
    SameView s (sendEventAll (e.frozen now) s ev c) (sendEventAll (e.frozen now) s ev d) := by
  unfold sendEventAll
  rw [h.allFlows]
  generalize c.allFlows = l
  induction l generalizing c d with
  | nil => exact h
  | cons f l ih => exact ih (flowSendEventIter_sameView h ev f)

theorem getPingMsg_alike (h : SameView s c d) : Alike (SameView s) (getPingMsg c s) (getPingMsg d s) := by
  have hfind : firstFlowCandidate d s = firstFlowCandidate c s := by
    funext f
    unfold firstFlowCandidate
    rw [h.heap, h.server]
  unfold getPingMsg
  rw [h.allFlows, hfind]
  exact ⟨rfl, h.modServer fun v =>
    { v with pingFlowMsg := c.allFlows.find? (firstFlowCandidate c s) }⟩

theorem pingLoop_alike (h : SameView s c d) (n : Nat) :
    Alike (SameView s) (pingLoop (e.frozen now) s n c) (pingLoop (e.frozen now) s n d) := by
  induction n generalizing c d with
  | zero => exact ⟨rfl, h.setNextTimeout _⟩
  | succ n ih =>
    obtain ⟨hfound, hping⟩ := getPingMsg_alike h
    unfold pingLoop
    generalize getPingMsg c s = p at hfound hping
    generalize getPingMsg d s = q at hfound hping
    obtain ⟨found, a⟩ := p
    obtain ⟨found', b⟩ := q
    obtain rfl : found = found' := hfound
    cases found with
    | none => exact ⟨rfl, hping.setNextTimeout _⟩
    | some f =>
      have hsent := handleFlowEvent_sameView e now
        (hping.modFlow f fun v => { v with retryCount := 0 }) f .send none
      dsimp only
      rw [hsent.heap]
      split
      · exact ⟨rfl, hsent.setNextTimeout _⟩
      · exact ih hsent

theorem handleWaitPingRespTimeout_alike (h : SameView s c d) :
    Alike (SameView s) (handleWaitPingRespTimeout (e.frozen now) c s)
      (handleWaitPingRespTimeout (e.frozen now) d s) := by
  have hcount := h.modServer fun v => { v with pingCount := v.pingCount + 1 }
  unfold handleWaitPingRespTimeout
  dsimp only
  rw [hcount.server]
  split
  · exact ⟨rfl, hcount.wakeNow⟩
  split
  · exact ⟨rfl, hcount.wakeNow⟩
  · rename_i p _
    have hevent := handleFlowEvent_sameView e now hcount p .flowTimedout none
    rw [hevent.heap]
    split
    · exact ⟨rfl, hevent.wakeNow⟩
    · exact ⟨rfl, hevent.setNextTimeout _⟩

theorem pcpCreateFlow_alike (e : Env) (now : Timeval) (h : SameView s c d) (kd : FlowKeyData) :
    Alike (SameView s) (pcpCreateFlow (e.frozen now) c s kd) (pcpCreateFlow (e.frozen now) d s kd) := by
  unfold pcpCreateFlow
  rw [h.callocs, h.server, h.heapTop]
  split
  · have hset := h.callocCall.setFlow c.heapTop { Flow.zero with
      pcpServerIndx := (c.pcpServers s).index, kd := kd, keyBucket := none }
    refine ⟨rfl, hset.server, hset.others, hset.io, ?_⟩
    rw [h.rest]
    rfl
  · exact ⟨rfl, h.callocCall⟩

theorem pcpDbAddFlow_sameView (h : SameView s c d) (o : Option FlowId) :
    SameView s (pcpDbAddFlow c o) (pcpDbAddFlow d o) := by
  cases o with
  | none => exact h
  | some f =>
    have hflow := h.modFlow f fun v => { v with keyBucket := some (computeFlowKey (c.heap f).kd) }
    have hcnt : d.flowCnt = c.flowCnt := by rw [h.rest]
    unfold pcpDbAddFlow
    dsimp only
    rw [h.heap]
    refine ⟨hflow.server, hflow.others, hflow.io, ?_⟩
    rw [h.rest]
    rfl

theorem createNatpmpAnnMsg_alike (h : SameView s c d) :
    Alike (SameView s) (createNatpmpAnnMsg (e.frozen now) c s) (createNatpmpAnnMsg (e.frozen now) d s) := by
  unfold createNatpmpAnnMsg
  dsimp only
  rw [h.server]
  generalize ({ FlowKeyData.zero with
    srcIp := (c.pcpServers s).srcIp, pcpServerIp := (c.pcpServers s).pcpIp
    nonce := (c.pcpServers s).nonce, operation := natpmpOpcodeAnnounce } : FlowKeyData) = kd
  obtain ⟨hfound, hview⟩ := pcpCreateFlow_alike e now h kd
  generalize pcpCreateFlow (e.frozen now) c s kd = p at hfound hview
  generalize pcpCreateFlow (e.frozen now) d s kd = q at hfound hview
  obtain ⟨found, a⟩ := p
  obtain ⟨found', b⟩ := q
  obtain rfl : found = found' := hfound
  exact ⟨rfl, pcpDbAddFlow_sameView (hview.modServer _) _⟩

theorem natpmpPingMsg_alike (h : SameView s c d) :
    Alike (SameView s) (natpmpPingMsg (e.frozen now) c s) (natpmpPingMsg (e.frozen now) d s) := by
  unfold natpmpPingMsg
  rw [h.server]
  cases (c.pcpServers s).pingFlowMsg with
  | none => exact createNatpmpAnnMsg_alike h
  | some p => exact createNatpmpAnnMsg_alike (h.modFlow p _)

theorem negotiationPing_alike (h : SameView s c d) (p : FlowId) :
    Alike (SameView s) (negotiationPing (e.frozen now) c s p) (negotiationPing (e.frozen now) d s p) := by
  have hsent := handleFlowEvent_sameView e now
    (h.modFlow p fun v => { v with retryCount := 0, resendTimeout := 0 }) p .send none
  unfold negotiationPing
  dsimp only
  rw [hsent.heap]
  split
  · exact ⟨rfl, hsent⟩
  · exact ⟨rfl, hsent.setNextTimeout _⟩

/-- The end of `handle_version_negotiation`, after the search for the message to ping with. -/
theorem negotiationEnd_alike (p q : Option FlowId × Ctx) :
    Alike (SameView s) p q → Alike (SameView s)
      (match p with
        | (some p, c) => negotiationPing (e.frozen now) c s p
        | (none, c) =>
          match getPingMsg c s with
          | (some p, c) => negotiationPing (e.frozen now) c s p
          | (none, c) => (.ping, c.setNextTimeout s .zero))
      (match q with
        | (some p, c) => negotiationPing (e.frozen now) c s p
        | (none, c) =>
          match getPingMsg c s with
          | (some p, c) => negotiationPing (e.frozen now) c s p
          | (none, c) => (.ping, c.setNextTimeout s .zero)) := by
  obtain ⟨found, a⟩ := p
  obtain ⟨found', b⟩ := q
  rintro ⟨hfound, hview⟩
  obtain rfl : found = found' := hfound
  cases found with
  | some f => exact negotiationPing_alike hview f
  | none =>
    obtain ⟨hfound, hping⟩ := getPingMsg_alike hview
    dsimp only
    generalize getPingMsg a s = p at hfound hping
    generalize getPingMsg b s = q at hfound hping
    obtain ⟨found, a⟩ := p
    obtain ⟨found', b⟩ := q
    obtain rfl : found = found' := hfound
    cases found with
    | some f => exact negotiationPing_alike hping f
    | none => exact ⟨rfl, hping.setNextTimeout _⟩

theorem handleVersionNegotiation_alike (h : SameView s c d) :
    Alike (SameView s) (handleVersionNegotiation (e.frozen now) c s)
      (handleVersionNegotiation (e.frozen now) d s) := by
  unfold handleVersionNegotiation
  dsimp only
  have hnext := h.modServer fun v => { v with
    nextVersion := if v.nextVersion = v.pcpVersion then v.nextVersion - 1 else v.nextVersion }
  rw [hnext.server]
  split
  · exact ⟨rfl, hnext⟩
  · have hversion := hnext.modServer fun v => { v with pcpVersion := v.nextVersion }
    refine negotiationEnd_alike _ _ ?_
    rw [hversion.server]
    split
    · exact natpmpPingMsg_alike hversion
    · exact ⟨rfl, hversion⟩

theorem handleWaitIoTimeout_alike (h : SameView s c d) :
    Alike (SameView s) (handleWaitIoTimeout (e.frozen now) c s) (handleWaitIoTimeout (e.frozen now) d s) := by
  have hwalk := walk_sameView e now (h.setNextTimeout .zero) c.allFlows
  have hnow : ∀ io, (e.frozen now).now io = now := fun _ => rfl
  have hflows : ∀ a : Ctx, (a.setNextTimeout s .zero).allFlows = a.allFlows := fun _ => rfl
  unfold handleWaitIoTimeout
  dsimp only
  rw [hflows, hflows, h.allFlows, hwalk.server]
  simp only [hnow]
  split
  · exact ⟨rfl, hwalk⟩
  · exact ⟨rfl, hwalk.tick.setNextTimeout _⟩

/-- Every handler that a timeout can lead to does the same in both contexts. -/
theorem ServerHandler.run_alike (k : ServerHandler) (h : SameView s c d)
    (hk : k ≠ .waitIoReceiveMsg ∧ k ≠ .waitPingRespRecv)
    (hdue : k = .notWorking → (c.pcpServers s).nextTimeout.us ≤ now.us) :
    Alike (SameView s) (k.run (e.frozen now) c s) (k.run (e.frozen now) d s) := by
  cases k with
  | terminate => exact ⟨rfl, h.setNextTimeout _⟩
  | ping =>
    have hstart := h.modServer fun v => { v with pingCount := 0 }
    simp only [ServerHandler.run, handleServerPing]
    rw [h.allFlows]
    exact pingLoop_alike hstart _
  | waitPingRespTimeout => exact handleWaitPingRespTimeout_alike h
  | waitPingRespRecv => exact absurd rfl hk.2
  | versionNegotiation => exact handleVersionNegotiation_alike h
  | sendAllMsgs => exact ⟨rfl, (sendEventAll_sameView h _).wakeNow⟩
  | waitIoReceiveMsg => exact absurd rfl hk.1
  | waitIoTimeout => exact handleWaitIoTimeout_alike h
  | restart => exact ⟨rfl, ((sendEventAll_sameView h _).modServer _).wakeNow⟩
  | reping => exact ⟨rfl, (h.modServer _).wakeNow⟩
  | setNotWorking => exact ⟨rfl, ((sendEventAll_sameView h _).setNextTimeout _).tick⟩
  | notWorking =>
    have hnow : ∀ io, (e.frozen now).now io = now := fun _ => rfl
    have hlate : ¬ (timevalComp now (c.pcpServers s).nextTimeout).1 < 0 := fun hlt =>
      absurd ((timevalComp_lt _ _).mp hlt) (Int.not_lt.mpr (hdue rfl))
    simp only [ServerHandler.run, handleServerNotWorking, hnow]
    rw [h.server, if_neg hlate, if_neg hlate]
    exact ⟨rfl, (h.tick.setNextTimeout _).setNextTimeout _⟩
  | ignoreEvents =>
    simp only [ServerHandler.run, LibPcp.ignoreEvents]
    rw [h.server]
    exact ⟨rfl, h.setNextTimeout _⟩
  | unexpected => exact ⟨rfl, h.wakeNow⟩

theorem serverHandler_timeout (st : ServerState) (k : ServerHandler)
    (h : serverHandler st .timeout = some k) : k ≠ .waitIoReceiveMsg ∧ k ≠ .waitPingRespRecv := by
  cases st <;> (cases h; exact ⟨by decide, by decide⟩)

theorem runServerStateMachine_sameView (h : SameView s c d)
    (hdue : (c.pcpServers s).nextTimeout.us ≤ now.us) :
    SameView s (runServerStateMachine (e.frozen now) c s .timeout)
      (runServerStateMachine (e.frozen now) d s .timeout) := by
  unfold runServerStateMachine
  rw [h.server]
  cases hk : serverHandler (c.pcpServers s).serverState .timeout with
  | none => exact h
  | some k =>
    obtain ⟨hst, hview⟩ := k.run_alike (e := e) h (serverHandler_timeout _ k hk) fun _ => hdue
    dsimp only
    rw [hst]
    exact hview.modServer _

theorem hserverLoop_sameView (h : SameView s c d) (n : Nat) {c' : Ctx} {t : Timeval}
    (hloop : hserverLoop (e.frozen now) s n c = some (t, c')) :
    ∃ d', hserverLoop (e.frozen now) s n d = some (t, d') ∧ SameView s c' d' := by
  have hnow : ∀ io, (e.frozen now).now io = now := fun _ => rfl
  induction n generalizing c d with
  | zero => cases hloop
  | succ n ih =>
    unfold hserverLoop at hloop ⊢
    simp only [hnow] at hloop ⊢
    rw [h.tick.server]
    split at hloop
    · rename_i hz
      rw [if_pos hz]
      cases hloop
      exact ⟨_, rfl, h.tick⟩
    · rename_i hz
      rw [if_neg hz]
      split at hloop
      · rename_i hsub
        rw [if_pos hsub]
        refine ih (runServerStateMachine_sameView (h.tick.setNextTimeout _) ?_) hloop
        rw [Ctx.setNextTimeout_self]
        rw [timevalSubtractInto_fst] at hsub
        rw [timevalSubtractInto_x, us_timevalAlign]
        exact hsub
      · rename_i hsub
        rw [if_neg hsub]
        cases hloop
        exact ⟨_, rfl, h.tick.setNextTimeout _⟩

end Handlers

end LibPcp
