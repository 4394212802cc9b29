import LibPcp.Granted
import LibPcp.Loop

/-!
# LibPcp.Writes

What the handlers of the server state machine write.

A handler is put together from a few kinds of writes: the record of its server, flows, events that
carry no message, a new announcement in the table. It processes the received message at most once
(`ServerHandler.Processes`), with writes of the record before and after it (`RecordWrites.processed`),
and the external address that NAT-PMP has reported is written nowhere else. A preorder on contexts that
has all these writes (`Writes`) therefore has every handler that processes no message (`Writes.quiet`).

* `runServerStateMachine_alone`: the records of the other servers are not written.
-/

namespace LibPcp

/-- A preorder that contains the writes of the handlers of `s`. -/
structure Writes (e : Env) (s : Nat) (T : Ctx → Ctx → Prop) : Prop where
  refl : ∀ a, T a a
  trans : ∀ {a b d}, T a b → T b d → T a d
  tick : ∀ a, T a a.tick
  server : ∀ a v, v.natpmpExtAddr = (a.pcpServers s).natpmpExtAddr → T a (a.setServer s v)
  flow : ∀ a f v, T a (a.setFlow f v)
  event : ∀ a f ev, T a (handleFlowEvent e a f ev none)
  create : ∀ a kd, T a (pcpCreateFlow e a s kd).2
  add : ∀ a f, T a (pcpDbAddFlow a f)

/-- The handler processes the received message. -/
def ServerHandler.Processes (h : ServerHandler) (e : Env) (c : Ctx) (s : Nat) : Prop :=
  c.msg.recvResult ≠ resUnsuppVersion ∧ c.msg.recvResult ≠ resAddressMismatch ∧
    match h with
    | .waitIoReceiveMsg | .waitPingRespRecv => True
    | .notWorking => (e.now c.io).us < (c.pcpServers s).nextTimeout.us
    | _ => False

/-- The context in which it does so. -/
def ServerHandler.start (h : ServerHandler) (e : Env) (c : Ctx) (s : Nat) : Ctx :=
  match h with
  | .notWorking => c.tick.setNextTimeout s (timevalComp (e.now c.io) (c.pcpServers s).nextTimeout).2.2
  | _ => c

theorem compareEpochs_natpmpExtAddr (m : RecvMsg) (v : Server) :
    (compareEpochs m v).2.natpmpExtAddr = v.natpmpExtAddr := by
  unfold compareEpochs
  dsimp only
  split <;> rfl

/-- The context is the one of `handle_wait_io_receive_msg`. -/
theorem handleWaitPingRespRecv_ctx (e : Env) (s : Nat) (a : Ctx) :
    (handleWaitPingRespRecv e a s).2 = (handleWaitIoReceiveMsg e a s).2 := by
  unfold handleWaitPingRespRecv
  generalize handleWaitIoReceiveMsg e a s = r
  obtain ⟨st, b⟩ := r
  cases st <;> rfl

/-- A preorder that contains the writes of the record of `s`. -/
structure RecordWrites (e : Env) (s : Nat) (T : Ctx → Ctx → Prop) : Prop where
  refl : ∀ a, T a a
  trans : ∀ {a b d}, T a b → T b d → T a d
  tick : ∀ a, T a a.tick
  server : ∀ a v, v.natpmpExtAddr = (a.pcpServers s).natpmpExtAddr → T a (a.setServer s v)

theorem Writes.records {e : Env} {s : Nat} {T : Ctx → Ctx → Prop} (w : Writes e s T) :
    RecordWrites e s T :=
  ⟨w.refl, w.trans, w.tick, w.server⟩

/-! ## Records -/

namespace RecordWrites

variable {e : Env} {s : Nat} {T : Ctx → Ctx → Prop} (w : RecordWrites e s T)

include w

theorem modServer (a : Ctx) {g : Server → Server}
    (hg : (g (a.pcpServers s)).natpmpExtAddr = (a.pcpServers s).natpmpExtAddr) :
    T a (a.modServer s g) :=
  w.server a _ hg

theorem setNextTimeout (a : Ctx) (t : Timeval) : T a (a.setNextTimeout s t) := w.modServer a rfl

theorem wakeNow (a : Ctx) : T a (e.wakeNow a s) := w.trans (w.setNextTimeout a _) (w.tick _)

/-- A change of the record, the server's timer, and another change. -/
theorem wakeBetween (a : Ctx) {g g' : Server → Server}
    (hg : ∀ v, (g v).natpmpExtAddr = v.natpmpExtAddr)
    (hg' : ∀ v, (g' v).natpmpExtAddr = v.natpmpExtAddr) :
    T a ((e.wakeNow (a.modServer s g) s).modServer s g') :=
  w.trans (w.trans (w.modServer a (hg _)) (w.wakeNow _)) (w.modServer _ (hg' _))

/-- `handle_wait_io_receive_msg` of a message that is not processed. -/
theorem handleWaitIoReceiveMsg_quiet (a : Ctx)
    (hres : a.msg.recvResult = resUnsuppVersion ∨ a.msg.recvResult = resAddressMismatch) :
    T a (handleWaitIoReceiveMsg e a s).2 := by
  have hwake : T a (e.wakeNow a s) := w.wakeNow a
  unfold handleWaitIoReceiveMsg
  split
  · dsimp only
    exact w.trans hwake (w.modServer _ rfl)
  · rw [if_pos (hres.resolve_left ‹_›)]
    exact hwake

theorem handleWaitIoReceiveMsg_processed (a : Ctx) (h₁ : a.msg.recvResult ≠ resUnsuppVersion)
    (h₂ : a.msg.recvResult ≠ resAddressMismatch) :
    T (serverProcessRcvdPcpMsg e a s).2 (handleWaitIoReceiveMsg e a s).2 := by
  unfold handleWaitIoReceiveMsg
  rw [if_neg h₁, if_neg h₂]
  generalize serverProcessRcvdPcpMsg e a s = r
  obtain ⟨f, b⟩ := r
  have hepoch : T b (b.setServer s (compareEpochs b.msg (b.pcpServers s)).2) :=
    w.server b _ (compareEpochs_natpmpExtAddr _ _)
  dsimp only
  split
  · dsimp only
    exact w.trans hepoch (w.wakeBetween _ (fun _ => rfl) fun _ => rfl)
  · exact w.trans hepoch (w.wakeNow _)

theorem processed (h : ServerHandler) (a : Ctx) (hp : h.Processes e a s) :
    T a (h.start e a s) ∧
      T (serverProcessRcvdPcpMsg e (h.start e a s) s).2 (h.run e a s).2 := by
  obtain ⟨h₁, h₂, hwhich⟩ := hp
  cases h with
  | waitIoReceiveMsg => exact ⟨w.refl a, w.handleWaitIoReceiveMsg_processed a h₁ h₂⟩
  | waitPingRespRecv =>
    refine ⟨w.refl a, ?_⟩
    change T _ (handleWaitPingRespRecv e a s).2
    rw [handleWaitPingRespRecv_ctx]
    exact w.handleWaitIoReceiveMsg_processed a h₁ h₂
  | notWorking =>
    refine ⟨w.trans (w.tick a) (w.setNextTimeout _ _), ?_⟩
    have hlt : (timevalComp (e.now a.io) (a.pcpServers s).nextTimeout).1 < 0 :=
      (timevalComp_lt _ _).mpr hwhich
    simp only [ServerHandler.run, handleServerNotWorking]
    rw [if_pos hlt]
    split
    · rename_i hnot
      exact absurd hnot (not_or.mpr ⟨h₁, h₂⟩)
    · dsimp only
      exact w.wakeBetween _ (fun _ => rfl) fun _ => rfl
  | _ => exact absurd hwhich id

end RecordWrites

/-! ## Handlers -/

namespace Writes

variable {e : Env} {s : Nat} {T : Ctx → Ctx → Prop} (w : Writes e s T)

include w

theorem modServer (a : Ctx) {g : Server → Server}
    (hg : (g (a.pcpServers s)).natpmpExtAddr = (a.pcpServers s).natpmpExtAddr) :
    T a (a.modServer s g) :=
  w.records.modServer a hg

theorem setNextTimeout (a : Ctx) (t : Timeval) : T a (a.setNextTimeout s t) :=
  w.records.setNextTimeout a t

theorem wakeNow (a : Ctx) : T a (e.wakeNow a s) := w.records.wakeNow a

theorem modFlow (a : Ctx) (f : FlowId) (g : Flow → Flow) : T a (a.modFlow f g) := w.flow a f _

theorem foldl {g : Ctx → FlowId → Ctx} (hg : ∀ a f, T a (g a f)) (l : List FlowId) (a : Ctx) :
    T a (l.foldl g a) := by
  induction l generalizing a with
  | nil => exact w.refl a
  | cons f l ih => exact w.trans (hg a f) (ih _)

theorem fireTimer (a : Ctx) (f : FlowId) : T a (fireTimer e a f) := by
  have halign : T a (a.tick.modFlow f alignTimer) := w.trans (w.tick a) (w.modFlow _ f _)
  unfold LibPcp.fireTimer
  split
  · exact w.trans halign (w.event _ f _)
  · exact halign

theorem checkFlowTimeout (a : Ctx) (f : FlowId) : T a (checkFlowTimeout e s a f) := by
  rw [checkFlowTimeout_eq]
  split
  · exact w.refl a
  · unfold lowerTimeout
    split
    · exact w.fireTimer a f
    · exact w.trans (w.trans (w.fireTimer a f) (w.modFlow _ f _)) (w.setNextTimeout _ _)

theorem flowSendEventIter (ev : FlowEvent) (a : Ctx) (f : FlowId) :
    T a (flowSendEventIter e s ev a f) := by
  unfold LibPcp.flowSendEventIter
  split
  · exact w.trans (w.event a f ev) (w.checkFlowTimeout _ f)
  · exact w.refl a

theorem sendEventAll (ev : FlowEvent) (a : Ctx) : T a (sendEventAll e s ev a) :=
  w.foldl (w.flowSendEventIter ev) a.allFlows a

theorem getPingMsg (a : Ctx) : T a (getPingMsg a s).2 := by
  simp only [LibPcp.getPingMsg]
  exact w.modServer a rfl

theorem createNatpmpAnnMsg (a : Ctx) : T a (createNatpmpAnnMsg e a s).2 := by
  unfold LibPcp.createNatpmpAnnMsg
  exact w.trans (w.create a _) (w.trans (w.modServer _ rfl) (w.add _ _))

theorem natpmpPingMsg (a : Ctx) : T a (natpmpPingMsg e a s).2 := by
  unfold LibPcp.natpmpPingMsg
  dsimp only
  split
  · exact w.trans (w.modFlow a _ _) (w.createNatpmpAnnMsg _)
  · exact w.createNatpmpAnnMsg a

theorem pingLoop (n : Nat) (a : Ctx) : T a (pingLoop e s n a).2 := by
  induction n generalizing a with
  | zero => exact w.setNextTimeout a _
  | succ n ih =>
    have hping := w.getPingMsg a
    rw [pingLoop_succ]
    generalize LibPcp.getPingMsg a s = r at hping ⊢
    obtain ⟨found, b⟩ := r
    cases found with
    | none => exact w.trans hping (w.setNextTimeout _ _)
    | some f =>
      have hpinged : T a (pinged e b f) :=
        w.trans hping (w.trans (w.modFlow b f _) (w.event _ f .send))
      dsimp only
      split
      · exact w.trans hpinged (w.setNextTimeout _ _)
      · exact w.trans hpinged (ih _)

theorem negotiationPing (a : Ctx) (p : FlowId) : T a (negotiationPing e a s p).2 := by
  have hevent := w.trans (w.modFlow a p fun v => { v with retryCount := 0, resendTimeout := 0 })
    (w.event _ p .send)
  unfold LibPcp.negotiationPing
  dsimp only
  split
  · exact hevent
  · exact w.trans hevent (w.setNextTimeout _ _)

theorem negotiationEnd (r : Option FlowId × Ctx) : T r.2 (negotiationEnd e s r).2 := by
  obtain ⟨p, a⟩ := r
  cases p with
  | some p => exact w.negotiationPing a p
  | none =>
    have hping := w.getPingMsg a
    simp only [LibPcp.negotiationEnd]
    generalize LibPcp.getPingMsg a s = r at hping ⊢
    obtain ⟨found, b⟩ := r
    cases found with
    | some q => exact w.trans hping (w.negotiationPing b q)
    | none => exact w.trans hping (w.setNextTimeout _ _)

theorem handleVersionNegotiation (a : Ctx) : T a (handleVersionNegotiation e a s).2 := by
  have hlower : T a (lowerNextVersion a s) := w.modServer a rfl
  rw [handleVersionNegotiation_eq]
  split
  · exact hlower
  · have huse : T a (useNextVersion (lowerNextVersion a s) s) := w.trans hlower (w.modServer _ rfl)
    refine w.trans huse (w.trans ?_ (w.negotiationEnd _))
    split
    · exact w.natpmpPingMsg _
    · exact w.refl _

theorem handleWaitPingRespTimeout (a : Ctx) : T a (handleWaitPingRespTimeout e a s).2 := by
  have hcount : T a (a.modServer s fun v => { v with pingCount := v.pingCount + 1 }) :=
    w.modServer a rfl
  simp only [LibPcp.handleWaitPingRespTimeout]
  split
  · exact w.trans hcount (w.wakeNow _)
  split
  · exact w.trans hcount (w.wakeNow _)
  · split
    · exact w.trans hcount (w.trans (w.event _ _ _) (w.wakeNow _))
    · exact w.trans hcount (w.trans (w.event _ _ _) (w.setNextTimeout _ _))

theorem handleWaitIoTimeout (a : Ctx) : T a (handleWaitIoTimeout e a s).2 := by
  have hall : (a.setNextTimeout s .zero).allFlows = a.allFlows := rfl
  have hwalk : T a (a.allFlows.foldl (LibPcp.checkFlowTimeout e s) (a.setNextTimeout s .zero)) :=
    w.trans (w.setNextTimeout a _) (w.foldl w.checkFlowTimeout _ _)
  simp only [LibPcp.handleWaitIoTimeout, hall]
  split
  · exact hwalk
  · exact w.trans hwalk (w.trans (w.tick _) (w.setNextTimeout _ _))

theorem quiet (h : ServerHandler) (a : Ctx) (hq : ¬ h.Processes e a s) : T a (h.run e a s).2 := by
  have hres : (h = .waitIoReceiveMsg ∨ h = .waitPingRespRecv) →
      a.msg.recvResult = resUnsuppVersion ∨ a.msg.recvResult = resAddressMismatch := by
    intro hh
    by_contra hnot
    rw [not_or] at hnot
    refine hq ⟨hnot.1, hnot.2, ?_⟩
    rcases hh with rfl | rfl <;> trivial
  cases h with
  | terminate => exact w.setNextTimeout a _
  | ping => exact w.trans (w.modServer a rfl) (w.pingLoop _ _)
  | waitPingRespTimeout => exact w.handleWaitPingRespTimeout a
  | waitPingRespRecv =>
    change T a (handleWaitPingRespRecv e a s).2
    rw [handleWaitPingRespRecv_ctx]
    exact w.records.handleWaitIoReceiveMsg_quiet a (hres (.inr rfl))
  | versionNegotiation => exact w.handleVersionNegotiation a
  | sendAllMsgs => exact w.trans (w.sendEventAll _ a) (w.wakeNow _)
  | waitIoReceiveMsg => exact w.records.handleWaitIoReceiveMsg_quiet a (hres (.inl rfl))
  | waitIoTimeout => exact w.handleWaitIoTimeout a
  | restart => exact w.trans (w.sendEventAll _ a) (w.trans (w.modServer _ rfl) (w.wakeNow _))
  | reping => exact w.trans (w.modServer a rfl) (w.wakeNow _)
  | setNotWorking =>
    exact w.trans (w.sendEventAll _ a) (w.trans (w.setNextTimeout _ _) (w.tick _))
  | notWorking =>
    have hstart : T a (ServerHandler.notWorking.start e a s) :=
      w.trans (w.tick a) (w.setNextTimeout _ _)
    simp only [ServerHandler.run, handleServerNotWorking]
    split
    · rename_i hlt
      split
      · exact hstart
      · rename_i hnot
        rw [not_or] at hnot
        exact absurd ⟨hnot.1, hnot.2, (timevalComp_lt _ _).mp hlt⟩ hq
    · exact w.trans hstart (w.setNextTimeout _ _)
  | ignoreEvents => exact w.setNextTimeout a _
  | unexpected => exact w.wakeNow a

end Writes

/-! ## The records of the other servers -/

/-- The step from `a` to `b` writes no record but that of `s`. -/
structure Alone (s : Nat) (a b : Ctx) : Prop where
  length : b.pcpServersLength = a.pcpServersLength
  others : ∀ i, i ≠ s → b.pcpServers i = a.pcpServers i

section Others

variable {e : Env} {s : Nat} {a b d : Ctx}

theorem Alone.trans (h₁ : Alone s a b) (h₂ : Alone s b d) : Alone s a d :=
  ⟨h₂.length.trans h₁.length, fun i hi => (h₂.others i hi).trans (h₁.others i hi)⟩

theorem Alone.of_eq (hlen : b.pcpServersLength = a.pcpServersLength)
    (h : b.pcpServers = a.pcpServers) : Alone s a b :=
  ⟨hlen, fun i _ => by rw [h]⟩

theorem alone_writes (e : Env) (s : Nat) : Writes e s (Alone s) where
  refl a := .of_eq rfl rfl
  trans := .trans
  tick a := .of_eq rfl rfl
  server a v _ := ⟨rfl, fun i hi => by rw [Ctx.setServer_pcpServers, Function.update_of_ne hi]⟩
  flow a f v := .of_eq rfl rfl
  event a f ev := .of_eq (handleFlowEvent_pcpServersLength ..) (handleFlowEvent_pcpServers ..)
  create a kd := by
    unfold pcpCreateFlow
    split
    · exact .of_eq rfl rfl
    · exact .of_eq rfl rfl
  add a f := by
    cases f with
    | none => exact .of_eq rfl rfl
    | some f => exact .of_eq rfl rfl

theorem serverProcessRcvdPcpMsg_alone (a : Ctx) : Alone s a (serverProcessRcvdPcpMsg e a s).2 := by
  obtain ⟨ip, na, heq⟩ := matchRcvdMsg_eq a s
  have hmatch : Alone s a (matchRcvdMsg a s).2 := by
    rw [heq]
    exact ((alone_writes e s).server a { a.pcpServers s with natpmpExtAddr := (a.pcpServers s).natpmpExtAddr }
      rfl).trans ⟨rfl, fun i hi => by simp [hi]⟩
  unfold serverProcessRcvdPcpMsg
  generalize matchRcvdMsg a s = r at hmatch ⊢
  obtain ⟨found, b⟩ := r
  cases found with
  | none => exact hmatch
  | some f =>
    exact hmatch.trans (.of_eq (handleFlowEvent_pcpServersLength ..) (handleFlowEvent_pcpServers ..))

theorem runServerStateMachine_alone (ev : ServerEvent) (a : Ctx) :
    Alone s a (runServerStateMachine e a s ev) := by
  have w := alone_writes e s
  obtain ⟨h, hh⟩ := serverHandler_total (a.pcpServers s).serverState ev
  have hrun : Alone s a (h.run e a s).2 := by
    by_cases hp : h.Processes e a s
    · obtain ⟨hstart, hend⟩ := w.records.processed h a hp
      exact hstart.trans ((serverProcessRcvdPcpMsg_alone _).trans hend)
    · exact w.quiet h a hp
  rw [runServerStateMachine_eq hh]
  exact hrun.trans (w.modServer _ rfl)

theorem fire_alone (a : Ctx) : Alone s a (fire e s a) := by
  have w := alone_writes e s
  exact (w.tick a).trans ((w.setNextTimeout _ _).trans (runServerStateMachine_alone _ _))

end Others

end LibPcp
