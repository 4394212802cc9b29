import LibPcp.Reach

/-!
# LibPcp.Calm

How the flows of the table move under the acts of a server.

Outside version negotiation an act leaves a flow's state and timer alone or brings the flow to a state
in which it waits or has failed (`Calm`), and adds no flow. So what has been established for one flow
is not lost while the others are visited. The passes over the table are then read off one visit:

* `sendEventAll_restarted`, `sendEventAll_initialized`: where the two resend passes leave the flows.
* `timerPass_sent`: no flow whose timer has run out is left in `pfs_send`.
-/

namespace LibPcp

open LabelledSteps

/-! ## Flows -/

/-- The flow keeps its state and its timer, or it has got to an active state. -/
def Flow.Calm (v w : Flow) : Prop :=
  (w.state = v.state ∧ w.timeout.us = v.timeout.us) ∨ w.state.Active

namespace Flow.Calm

theorem refl (v : Flow) : v.Calm v := .inl ⟨rfl, rfl⟩

theorem trans {u v w : Flow} (h₁ : u.Calm v) (h₂ : v.Calm w) : u.Calm w := by
  rcases h₂ with ⟨hs, ht⟩ | ha
  · rcases h₁ with ⟨hs₁, ht₁⟩ | ha₁
    · exact .inl ⟨hs.trans hs₁, ht.trans ht₁⟩
    · exact .inr (hs ▸ ha₁)
  · exact .inr ha

/-- A state that is not left for good cannot come back. -/
theorem ne {v w : Flow} (h : v.Calm w) {st : FlowState} (hst : ¬ st.Active) (hv : v.state ≠ st) :
    w.state ≠ st := by
  rcases h with ⟨hs, -⟩ | ha
  · rw [hs]
    exact hv
  · rintro rfl
    exact hst ha

theorem active {v w : Flow} (h : v.Calm w) (hv : v.state.Active) : w.state.Active := by
  rcases h with ⟨hs, -⟩ | ha
  · rw [hs]
    exact hv
  · exact ha

end Flow.Calm

/-- Only the answer that a version is not supported sends a flow back to wait for its server. -/
theorem nextState_init {cur : FlowState} {ev : FlowEvent}
    (h : nextState cur ev = some .waitForServerInit) : ev = .res resUnsuppVersion := by
  obtain ⟨r, hr, -, heq⟩ := nextState_row h
  have htable : ∀ r ∈ flowEventsSm, r.2.2 = .waitForServerInit → r.2.1 = .res resUnsuppVersion := by
    decide
  have hcase := htable r hr
  rw [heq] at hcase
  exact hcase rfl

/-- An event with a row in the table, other than that answer, ends in an active state. -/
theorem flowStep_active {x : FlowEnv} {ev : FlowEvent} {f : Flow} (io : Io) (hev : ev ≠ .msgSent)
    (hun : ev ≠ .res resUnsuppVersion) (h : nextState f.state ev ≠ none) :
    (flowStep x ev f io).1.state.Active := by
  rw [flowStep_eq x f io hev]
  cases hn : nextState f.state ev with
  | none => exact absurd hn h
  | some next =>
    rcases @flowPhase_state x f io f.state next (nextState_cases hn).1 with ha | ⟨rfl, -⟩
    · exact ha
    · exact absurd (nextState_init hn) hun

theorem flowStep_calm {x : FlowEnv} {ev : FlowEvent} {f : Flow} (io : Io) (hev : ev ≠ .msgSent)
    (hun : ev ≠ .res resUnsuppVersion) : f.Calm (flowStep x ev f io).1 := by
  by_cases hn : nextState f.state ev = none
  · rw [flowStep_none io hev hn]
    exact .refl f
  · exact .inr (flowStep_active io hev hun hn)

/-! ## Acts -/

/-- No flow comes or goes, and every flow moves calmly. -/
structure Calm (c c' : Ctx) : Prop where
  flows : c'.flows = c.flows
  flow : ∀ f, (c.heap f).Calm (c'.heap f)

section Acts

variable {e : Env} {s : Nat} {c c' : Ctx}

theorem Calm.refl (c : Ctx) : Calm c c := ⟨rfl, fun _ => .refl _⟩

theorem Calm.trans {c₁ c₂ c₃ : Ctx} (h₁ : Calm c₁ c₂) (h₂ : Calm c₂ c₃) : Calm c₁ c₃ :=
  ⟨h₂.flows.trans h₁.flows, fun f => (h₁.flow f).trans (h₂.flow f)⟩

theorem Calm.allFlows (h : Calm c c') : c'.allFlows = c.allFlows := by
  rw [Ctx.allFlows, h.flows, Ctx.allFlows]

theorem Calm.update {f : FlowId} {v : Flow} (hf : c'.flows = c.flows) (hv : (c.heap f).Calm v)
    (hh : c'.heap = Function.update c.heap f v) : Calm c c' := by
  refine ⟨hf, fun g => ?_⟩
  rw [hh]
  by_cases hg : g = f
  · subst hg
    rw [Function.update_self]
    exact hv
  · rw [Function.update_of_ne hg]
    exact .refl _

theorem alignTimer_calm (v : Flow) : v.Calm (alignTimer v) := .inl ⟨rfl, us_timevalAlign v.timeout⟩

theorem handleFlowEvent_calm (e : Env) (c : Ctx) (f : FlowId) {ev : FlowEvent} (m : Option RecvMsg)
    (hev : ev ≠ .msgSent) (hun : ev ≠ .res resUnsuppVersion) :
    Calm c (handleFlowEvent e c f ev m) :=
  .update (handleFlowEvent_flows e c f ev m) (flowStep_calm c.io hev hun)
    (handleFlowEvent_heap e c f ev m)

theorem FlowEvent.Plain.ne_res {ev : FlowEvent} (h : ev.Plain) (code : UInt32) : ev ≠ .res code := by
  rintro rfl
  exact h

theorem expire_calm (e : Env) (c : Ctx) (f : FlowId) :
    Calm c (handleFlowEvent e (c.tick.modFlow f alignTimer) f .flowTimedout none) := by
  have halign : Calm c (c.tick.modFlow f alignTimer) := .update rfl (alignTimer_calm _) rfl
  exact halign.trans (handleFlowEvent_calm e _ f none (by simp) (by simp))

/-- The acts that add a flow or put one back are those of version negotiation. -/
theorem Act.calm {k : ActKind} (h : Act e s k c c') (hk : k ≠ .announce)
    (hm : k = .response → c.msg.recvResult ≠ resUnsuppVersion) : Calm c c' := by
  cases h with
  | tick | server | extAddr | version | reveal => exact ⟨rfl, fun _ => .refl _⟩
  | reset c f r ho =>
    exact .update (f := f) (v := (c.heap f).resetCount r) rfl (.inl ⟨rfl, rfl⟩) rfl
  | event c f ev ho hev => exact handleFlowEvent_calm e c f none hev.ne_msgSent (hev.ne_res _)
  | align k c f hk ht => exact .update rfl (alignTimer_calm _) rfl
  | expire k c f hk ht => exact expire_calm e c f
  | response c f ho => exact handleFlowEvent_calm e c f _ (by simp) (by simpa using hm rfl)
  | putBack | announce => exact absurd rfl hk

theorem Act.recvResult {k : ActKind} (h : Act e s k c c') :
    c'.msg.recvResult = c.msg.recvResult := by
  cases h with
  | event | expire | response => simp [Ctx.modFlow]
  | announce c =>
    rcases createNatpmpAnnMsg_cases e c s with h | ⟨fl, -, -, -, -, -, -, h⟩
    · rw [h]
      rfl
    · rw [h]
      rfl
  | _ => rfl

theorem Acts.calm {K : List ActKind} (h : Acts e s K c c') (hK : ActKind.announce ∉ K)
    (hm : ActKind.response ∈ K → c.msg.recvResult ≠ resUnsuppVersion) : Calm c c' := by
  have hboth : Calm c c' ∧ c'.msg.recvResult = c.msg.recvResult := by
    refine h.invariant (I := fun b => Calm c b ∧ b.msg.recvResult = c.msg.recvResult)
      (fun k a b ha hk hact => ?_) ⟨.refl c, rfl⟩
    have hstep := hact.calm (fun hkind => hK (hkind ▸ hk)) fun hkind => by
      rw [ha.2]
      exact hm (hkind ▸ hk)
    exact ⟨ha.1.trans hstep, hact.recvResult.trans ha.2⟩
  exact hboth.1

/-- Acts of the server's own keep the flows calm. -/
theorem Acts.own_calm (h : Acts e s [.own] c c') : Calm c c' := h.calm (by simp) (by simp)

theorem Acts.walk_calm (h : Acts e s [.own, .walk] c c') : Calm c c' := h.calm (by simp) (by simp)

end Acts

/-! ## Timers that have run out -/

/-- The timer `t` is on and has run out. -/
def Woken (e : Env) (c : Ctx) (t : Timeval) : Prop := t.us ≠ 0 ∧ t.us ≤ (e.now c.io).us

theorem Woken.isZero {e : Env} {c : Ctx} {t : Timeval} (h : Woken e c t) : t.isZero = false := by
  cases hz : t.isZero with
  | false => rfl
  | true =>
    rw [Timeval.isZero_iff.mp hz] at h
    exact absurd rfl h.1

theorem Woken.later {e : Env} {c c' : Ctx} {t t' : Timeval} (h : Woken e c t) (he : e.ClockMono)
    (hle : c.io.ticks ≤ c'.io.ticks) (ht : t'.us = t.us) : Woken e c' t' := by
  refine ⟨ht ▸ h.1, ?_⟩
  rw [ht]
  exact Int.le_trans h.2 (he _ _ hle)

theorem Woken.due {e : Env} {c : Ctx} {s : Nat} (h : Woken e c (c.pcpServers s).nextTimeout) :
    Due e c s :=
  ⟨h.isZero, h.2⟩

/-- `gettimeofday` into a timer, and one more reading of the clock. -/
theorem Woken.now {e : Env} (he : e.ClockMono) (hz : e.ClockNonzero) {c c' : Ctx}
    (hle : c.io.ticks ≤ c'.io.ticks) : Woken e c' (e.now c.io) :=
  ⟨hz _, he _ _ hle⟩

/-! ## Passes over the table -/

section Passes

variable {e : Env} {s : Nat} {c : Ctx}

/-- One part of a pass: acts of the server under which no flow gets lost. -/
structure Part (s : Nat) (c c' : Ctx) : Prop where
  frame : Frame s c c'
  calm : Calm c c'

theorem Part.refl (c : Ctx) : Part s c c := ⟨.refl c, .refl c⟩

theorem Part.trans {c₁ c₂ c₃ : Ctx} (h₁ : Part s c₁ c₂) (h₂ : Part s c₂ c₃) : Part s c₁ c₃ :=
  ⟨h₁.frame.trans h₂.frame, h₁.calm.trans h₂.calm⟩

theorem Acts.part {c' : Ctx} (h : Acts e s [.own, .walk] c c') : Part s c c' := ⟨h.frame, h.walk_calm⟩

theorem Part.alloc {c' : Ctx} {f : FlowId} (h : Part s c c') (hf : f < c.heapTop) : f < c'.heapTop :=
  Nat.lt_of_lt_of_le hf h.frame.heapTop

/-- The flow is one of the server's. -/
def Belongs (c : Ctx) (s : Nat) (f : FlowId) : Prop :=
  (c.heap f).pcpServerIndx = (c.pcpServers s).index

theorem Part.belongs {c' : Ctx} {f : FlowId} (h : Part s c c') (hf : f < c.heapTop)
    (hb : Belongs c' s f) : Belongs c s f := by
  rw [Belongs, (h.frame.flow f hf).pcpServerIndx, h.frame.same.index] at hb
  exact hb

theorem flowSendEventIter_part {f : FlowId} {ev : FlowEvent} (hf : f < c.heapTop) (hev : ev.Plain) :
    Part s c (flowSendEventIter e s ev c f) :=
  (flowSendEventIter_acts hf hev : Acts e s [.own, .walk] c _).part

/-- What a visit of a flow of the server leaves: the event and the look at the timer are calm. -/
theorem flowSendEventIter_visit {f : FlowId} {ev : FlowEvent} (hf : f < c.heapTop) (hev : ev.Plain)
    (ho : Belongs c s f) :
    ((handleFlowEvent e c f ev none).heap f).Calm ((flowSendEventIter e s ev c f).heap f) := by
  have hown : Own (handleFlowEvent e c f ev none) s f :=
    (handleFlowEvent_frame e s c none hf hev.ne_msgSent).own ⟨hf, ho⟩
  have hcheck : Acts e s [.own] (handleFlowEvent e c f ev none)
      (checkFlowTimeout e s (handleFlowEvent e c f ev none) f) :=
    checkFlowTimeout_acts List.mem_cons_self (.inl ⟨rfl, hown⟩)
  have hvisit : flowSendEventIter e s ev c f = checkFlowTimeout e s (handleFlowEvent e c f ev none) f :=
    if_pos ho
  rw [hvisit]
  exact hcheck.own_calm.flow f

/-- After a pass, the flows of the server have what a visit leaves, if that is kept. -/
theorem sendEventAll_pass {Q : FlowState → Prop} {ev : FlowEvent} (hw : TableOk c) (hev : ev.Plain)
    (hQ : ∀ v w : Flow, v.Calm w → Q v.state → Q w.state)
    (hvisit : ∀ b : Ctx, ∀ f, Q ((handleFlowEvent e b f ev none).heap f).state) :
    Part s c (sendEventAll e s ev c) ∧
      ∀ f ∈ c.allFlows, Belongs (sendEventAll e s ev c) s f → Q ((sendEventAll e s ev c).heap f).state := by
  have halloc : ∀ f ∈ c.allFlows, f < c.heapTop := fun f hf => hw.alloc hf
  have hpass := foldl_pass (a := c) (Part s) (fun b f => f < b.heapTop)
    (fun b f => f < b.heapTop ∧ (Belongs b s f → Q (b.heap f).state))
    (g := flowSendEventIter e s ev) (l := c.allFlows) .refl (fun _ _ _ => .trans)
    (fun a b f hp hf => hp.alloc hf)
    (fun a b f hp hf => ⟨hp.alloc hf.1, fun hb => hQ _ _ (hp.calm.flow f) (hf.2 (hp.belongs hf.1 hb))⟩)
    (fun b hb f hf hlt => ?_) halloc
  · exact ⟨hpass.1, fun f hf => (hpass.2 f hf).2⟩
  · have hpart : Part s b (flowSendEventIter e s ev b f) := flowSendEventIter_part hlt hev
    refine ⟨hpart, hpart.alloc hlt, fun hbel => ?_⟩
    exact hQ _ _ (flowSendEventIter_visit hlt hev (hpart.belongs hlt hbel)) (hvisit b f)

/-- A restart brings every flow of the server to an active state. -/
theorem sendEventAll_restarted (hw : TableOk c) :
    Part s c (sendEventAll e s .serverRestarted c) ∧
      ∀ f ∈ c.allFlows, Belongs (sendEventAll e s .serverRestarted c) s f →
        ((sendEventAll e s .serverRestarted c).heap f).state.Active := by
  refine sendEventAll_pass (Q := FlowState.Active) hw trivial (fun v w h => h.active) fun b f => ?_
  rw [handleFlowEvent_heap, Function.update_self]
  refine flowStep_active _ (by simp) (by simp) ?_
  cases (b.heap f).state <;> decide

/-- Once the server is initialised, no flow of it waits for that or for its turn. -/
theorem sendEventAll_initialized (hw : TableOk c) :
    Part s c (sendEventAll e s .serverInitialized c) ∧
      ∀ f ∈ c.allFlows, Belongs (sendEventAll e s .serverInitialized c) s f →
        ((sendEventAll e s .serverInitialized c).heap f).state ≠ .waitForServerInit ∧
        ((sendEventAll e s .serverInitialized c).heap f).state ≠ .send := by
  refine sendEventAll_pass (Q := fun st => st ≠ .waitForServerInit ∧ st ≠ .send) hw trivial
    (fun v w h hv => ⟨h.ne (by decide) hv.1, h.ne (by decide) hv.2⟩) fun b f => ?_
  rw [handleFlowEvent_heap, Function.update_self]
  by_cases hn : nextState (b.heap f).state .serverInitialized = none
  · rw [flowStep_none _ (by simp) hn]
    constructor
    · intro hst
      rw [hst] at hn
      exact absurd hn (by decide)
    · intro hst
      rw [hst] at hn
      exact absurd hn (by decide)
  · have ha : (flowStep (b.flowEnv e f none) .serverInitialized (b.heap f) b.io).1.state.Active :=
      flowStep_active _ (by simp) (by simp) hn
    exact ⟨ha.ne (by decide), ha.ne (by decide)⟩

theorem sendEventAll_part (ev : FlowEvent) (hw : TableOk c) (hev : ev.Plain) :
    Part s c (sendEventAll e s ev c) :=
  (sendEventAll_acts ev hw hev : Acts e s [.own, .walk] c _).part

/-- A flow in `pfs_send` has a timer that has run out. -/
def SendDue (e : Env) (c : Ctx) (f : FlowId) : Prop :=
  (c.heap f).state = .send → Woken e c (c.heap f).timeout

theorem Calm.sendDue {c' : Ctx} {f : FlowId} (h : Calm c c') (he : e.ClockMono)
    (hle : c.io.ticks ≤ c'.io.ticks) (hd : SendDue e c f) : SendDue e c' f := by
  intro hst
  rcases h.flow f with ⟨hs, ht⟩ | ha
  · exact (hd (hs.symm.trans hst)).later he hle ht
  · exact absurd hst (ha.ne (by decide))

theorem lowerTimeout_state (c : Ctx) (f : FlowId) (t : Timeval) (g : FlowId) :
    ((lowerTimeout s c f t).heap g).state = (c.heap g).state := by
  unfold lowerTimeout
  split
  · rfl
  · by_cases hg : g = f
    · subst hg
      simp [Ctx.setNextTimeout, Ctx.modServer, Ctx.modFlow, alignTimer]
    · simp [Ctx.setNextTimeout, Ctx.modServer, Ctx.modFlow, hg]

/-- A look at the timer of a flow that is due to send makes it send. -/
theorem checkFlowTimeout_sent {f : FlowId} (hd : SendDue e c f) (hcalm : Calm c (checkFlowTimeout e s c f)) :
    ((checkFlowTimeout e s c f).heap f).state ≠ .send := by
  by_cases hst : (c.heap f).state = .send
  · have hwoken := hd hst
    rw [checkFlowTimeout_eq, if_neg (by simp [hwoken.isZero]), lowerTimeout_state, fireTimer,
      if_pos hwoken.2, expire_heap]
    have ha : (flowStep ((c.tick.modFlow f alignTimer).flowEnv e f none) .flowTimedout
        (alignTimer (c.heap f)) c.io.tick).1.state.Active := by
      refine flowStep_active _ (by simp) (by simp) ?_
      change nextState (c.heap f).state .flowTimedout ≠ none
      rw [hst]
      decide
    intro hsend
    rw [hsend] at ha
    exact absurd ha (by decide)
  · exact (hcalm.flow f).ne (by decide) hst

theorem timerPass_sent (he : e.ClockMono) (hw : TableOk c) (hd : ∀ f ∈ c.allFlows, SendDue e c f) :
    Part s c (c.allFlows.foldl (checkFlowTimeout e s) c) ∧
      ∀ f ∈ c.allFlows, ((c.allFlows.foldl (checkFlowTimeout e s) c).heap f).state ≠ .send := by
  have halloc : ∀ f ∈ c.allFlows, f < c.heapTop := fun f hf => hw.alloc hf
  refine foldl_pass (Part s) (fun b f => (f < b.heapTop ∧ f ∈ b.allFlows) ∧ SendDue e b f)
    (fun b f => (b.heap f).state ≠ .send) .refl (fun _ _ _ => .trans) (fun a b f hp hf => ?_)
    (fun a b f hp hf => (hp.calm.flow f).ne (by decide) hf) (fun b hb f hf hpre => ?_)
    fun f hf => ⟨⟨halloc f hf, hf⟩, hd f hf⟩
  · exact ⟨⟨hp.alloc hf.1.1, hp.frame.allFlows hf.1.2⟩, hp.calm.sendDue he hp.frame.ticks hf.2⟩
  · have hpart : Part s b (checkFlowTimeout e s b f) :=
      (checkFlowTimeout_acts (k := .walk) (by simp) (.inr ⟨rfl, hpre.1⟩) :
        Acts e s [.own, .walk] b _).part
    exact ⟨hpart, checkFlowTimeout_sent hpre.2 hpart.calm⟩

end Passes

end LibPcp
