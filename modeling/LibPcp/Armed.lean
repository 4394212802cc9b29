import LibPcp.Reach

/-!
# LibPcp.Armed

No flow waits on a timer that is off.

A flow that waits for an answer, for the end of a short-lived error or for its turn to send relies on
its timer to get on. The zero timeval is the sentinel for "no timer", it is written by the handlers
that give up and by version negotiation, and the application's calls set states of their own. The
invariant is `Flow.Armed` for every flow.

* `flowStep_armed`: what one event keeps.
* `Act.armed`, `CallAct.armed`: what an act of a server and of a call keeps.
-/

namespace LibPcp

open LabelledSteps

/-- The clock counts from the epoch and never reads zero. -/
def Env.ClockPositive (e : Env) : Prop := ∀ i, 0 < (e.clock i).us

/-- The states in which a flow relies on its timer. -/
def FlowState.Waits (st : FlowState) : Prop :=
  st = .send ∨ st = .waitResp ∨ st = .waitAfterShortLifeError

instance (st : FlowState) : Decidable st.Waits := inferInstanceAs (Decidable (_ ∨ _))

def Flow.Armed (f : Flow) : Prop := f.state.Waits → 0 < f.timeout.us

theorem Flow.Armed.of_timeout {f : Flow} (h : 0 < f.timeout.us) : f.Armed := fun _ => h

theorem Flow.Armed.of_state {f : Flow} (h : ¬ f.state.Waits) : f.Armed := fun hw => absurd hw h

/-! ## Events -/

section Event

variable {x : FlowEnv} (f : Flow) (io : Io)

theorem armResend_timeout (he : x.env.ClockPositive) : 0 < (armResend x f io).1.timeout.us := by
  have hclock := he io.ticks
  change 0 < ((x.env.clock io.ticks).addMs f.resendTimeout.toNat).us
  rw [Timeval.us_addMs]
  omega

theorem failPhase_armed : (failPhase x f io).1.Armed := by
  refine .of_state ?_
  rw [failPhase_state]
  decide

theorem waitPhase_armed (h : 0 < f.timeout.us) : (waitPhase x f io).1.Armed := by
  unfold waitPhase
  split
  · exact failPhase_armed _ _
  · rename_i r _ hr
    have hleft : 0 < (fhndlWaitresp x { f with state := .waitResp } io).2.1.timeout.us := by
      change 0 < (timevalAlign f.timeout).us
      rwa [us_timevalAlign]
    rw [hr] at hleft
    exact .of_timeout hleft

/-- A handler entered in `pfs_send` that has sent its request has armed the timer. -/
def ArmedIfSent (r : FlowEvent × Flow × Io) : Prop := r.1 = .msgSent → 0 < r.2.1.timeout.us

theorem afterSend_armed {r : FlowEvent × Flow × Io} (h : ArmedIfSent r) : (afterSend x r).1.Armed := by
  unfold afterSend
  split
  · exact waitPhase_armed _ _ (h rfl)
  · exact failPhase_armed _ _
  · refine .of_state ?_
    change ¬ FlowState.waitForLifetimeRenew.Waits
    decide

theorem fhndlSend_armed (he : x.env.ClockPositive) : ArmedIfSent (fhndlSend x f io) := by
  intro hsent
  rcases fhndlSend_cases x f io with ⟨-, h⟩ | ⟨s, -, ⟨-, h⟩ | ⟨-, ⟨r, -, h⟩ | ⟨f', io', -, h⟩⟩⟩
  all_goals rw [h] at hsent ⊢
  · cases hsent
  · cases hsent
  · cases hsent
  · exact armResend_timeout _ _ he

theorem fhndlResend_armed (he : x.env.ClockPositive) : ArmedIfSent (fhndlResend x f io) := by
  intro hsent
  rcases fhndlResend_cases x f io with ⟨-, h⟩ | ⟨s, -, ⟨-, h⟩ | ⟨-, ⟨r, -, h⟩ | ⟨f', io', -, h⟩⟩⟩
  all_goals rw [h] at hsent ⊢
  · cases hsent
  · cases hsent
  · cases hsent
  · exact armResend_timeout _ _ he

theorem sendPhase_armed (he : x.env.ClockPositive) : (sendPhase x f io).1.Armed :=
  afterSend_armed (fhndlSend_armed _ io he)

theorem resendPhase_armed (he : x.env.ClockPositive) : (resendPhase x f io).1.Armed :=
  afterSend_armed (fhndlResend_armed _ io he)

theorem renewPhase_armed (he : x.env.ClockPositive) : (renewPhase x f io).1.Armed := by
  unfold renewPhase
  split
  · refine .of_state ?_
    change ¬ FlowState.waitForLifetimeRenew.Waits
    decide
  · exact sendPhase_armed _ _ he

theorem fhndlShortlifeerror_armed (he : x.env.ClockPositive) (hm : x.msg.isSome = true) :
    0 < (fhndlShortlifeerror x f io).2.1.timeout.us := by
  obtain ⟨m, hm⟩ := Option.isSome_iff_exists.mp hm
  have hclock := he io.ticks
  unfold fhndlShortlifeerror
  rw [hm]
  change 0 < ((x.env.clock io.ticks).addSec m.recvLifetime.toNat).us
  rw [Timeval.us_addSec]
  omega

theorem flowPhase_armed {cur next : FlowState} (he : x.env.ClockPositive) (hi : next ≠ .idle)
    (hw : next ≠ .waitResp) (hm : next = .waitAfterShortLifeError → x.msg.isSome = true) :
    (flowPhase x cur next f io).1.Armed := by
  cases next with
  | idle => exact absurd rfl hi
  | waitResp => exact absurd rfl hw
  | send =>
    simp only [flowPhase]
    split
    · exact resendPhase_armed f io he
    · exact sendPhase_armed f io he
  | waitAfterShortLifeError => exact .of_timeout (fhndlShortlifeerror_armed _ io he (hm rfl))
  | sendRenew => exact renewPhase_armed f io he
  | failed => exact failPhase_armed f io
  | waitForServerInit =>
    refine .of_state ?_
    simp only [flowPhase, fhndlClearTimeouts]
    cases x.msg <;> exact (by decide : ¬ FlowState.waitForServerInit.Waits)
  | waitForLifetimeRenew =>
    refine .of_state ?_
    simp only [flowPhase]
    split
    · rw [fhndlReceivedSuccess_state]
      exact (by decide : ¬ FlowState.waitForLifetimeRenew.Waits)
    · exact (by decide : ¬ FlowState.waitForLifetimeRenew.Waits)

/-- An event keeps the timer of a waiting flow on. A response comes with its message. -/
theorem flowStep_armed {ev : FlowEvent} (he : x.env.ClockPositive) (hev : ev ≠ .msgSent)
    (hm : ∀ code, ev = .res code → x.msg.isSome = true) (h : f.Armed) :
    (flowStep x ev f io).1.Armed := by
  rw [flowStep_eq x f io hev]
  split
  · exact h
  · rename_i next hn
    obtain ⟨hidle, hwait⟩ := nextState_cases hn
    refine flowPhase_armed f io he hidle (fun hw => hev (hwait hw)) fun hs => ?_
    subst hs
    rcases nextState_shortLife hn with h | h | h | h <;> exact hm _ h

end Event

/-! ## Acts -/

def AllArmed (c : Ctx) : Prop := ∀ f, (c.heap f).Armed

section Acts

variable {e : Env} {c c' : Ctx}

theorem AllArmed.update (h : AllArmed c) {f : FlowId} {v : Flow} (hv : v.Armed)
    (hc : c'.heap = Function.update c.heap f v) : AllArmed c' := by
  intro g
  rw [hc]
  by_cases hg : g = f
  · subst hg
    rw [Function.update_self]
    exact hv
  · rw [Function.update_of_ne hg]
    exact h g

theorem handleFlowEvent_armed (he : e.ClockPositive) (h : AllArmed c) (f : FlowId) {ev : FlowEvent}
    {m : Option RecvMsg} (hev : ev ≠ .msgSent) (hm : ∀ code, ev = .res code → m.isSome = true) :
    AllArmed (handleFlowEvent e c f ev m) :=
  h.update (flowStep_armed (c.heap f) c.io he hev hm (h f)) (handleFlowEvent_heap e c f ev m)

theorem alignTimer_armed {v : Flow} (h : v.Armed) : (alignTimer v).Armed := by
  intro hw
  change 0 < (timevalAlign v.timeout).us
  rw [us_timevalAlign]
  exact h hw

theorem createNatpmpAnnMsg_armed (s : Nat) (h : AllArmed c) : AllArmed (createNatpmpAnnMsg e c s).2 := by
  rcases createNatpmpAnnMsg_cases e c s with heq | ⟨fl, -, -, -, -, hst, -, heq⟩
  · rw [heq]
    exact h
  · rw [heq]
    refine h.update (f := c.heapTop) (v := { fl with keyBucket := some (computeFlowKey fl.kd) }) ?_ ?_
    · refine .of_state ?_
      rw [hst]
      decide
    · funext g
      by_cases hg : g = c.heapTop
      · subst hg
        simp [pcpDbAddFlow, Ctx.modFlow, Ctx.modServer]
      · simp [pcpDbAddFlow, Ctx.modFlow, Ctx.modServer, hg, Ctx.callocCall]

theorem Act.armed {s : Nat} {k : ActKind} (h : Act e s k c c') (he : e.ClockPositive)
    (ha : AllArmed c) : AllArmed c' := by
  have hplain : ∀ {ev : FlowEvent}, ev.Plain → ∀ code, ev = .res code → (none : Option RecvMsg).isSome = true := by
    rintro _ hev code rfl
    exact hev.elim
  cases h with
  | tick | server | extAddr | version | reveal => exact ha
  | reset c f r ho => exact ha.update (f := f) (v := (c.heap f).resetCount r) (ha f) rfl
  | putBack c f ho =>
    exact ha.update (.of_state (by decide : ¬ FlowState.waitForServerInit.Waits)) rfl
  | event c f ev ho hev => exact handleFlowEvent_armed he ha f hev.ne_msgSent (hplain hev)
  | align k c f hk ht => exact ha.update (alignTimer_armed (ha f)) rfl
  | expire k c f hk ht =>
    have hal : AllArmed (c.tick.modFlow f alignTimer) := ha.update (alignTimer_armed (ha f)) rfl
    exact handleFlowEvent_armed he hal f (by simp) (by simp)
  | response c f ho => exact handleFlowEvent_armed he ha f (by simp) fun _ _ => rfl
  | announce c => exact createNatpmpAnnMsg_armed s ha

theorem pcpFlowUpdated_armed (he : e.ClockPositive) (f : FlowId)
    (ha : ∀ g, g ≠ f → (c.heap g).Armed) : AllArmed (pcpFlowUpdated e c f) := by
  intro g
  rw [pcpFlowUpdated_heap]
  by_cases hg : g = f
  · subst hg
    rw [Function.update_self]
    exact .of_timeout (he c.io.ticks)
  · rw [Function.update_of_ne hg]
    exact ha g hg

theorem CallAct.armed {k : CallKind} (h : CallAct e k c c') (he : e.ClockPositive)
    (ha : AllArmed c) : AllArmed c' := by
  have hother : ∀ (f : FlowId) (v : Flow), ∀ g, g ≠ f → ((c.setFlow f v).heap g).Armed := by
    intro f v g hg
    rw [Ctx.setFlow_heap, Function.update_of_ne hg]
    exact ha g
  cases h with
  | env h =>
    rw [h.eq]
    exact ha
  | array | fresh | again => exact ha
  | create c s fl io hl h hs ht =>
    intro g
    rw [addNewFlow_heap]
    split
    · refine .of_timeout ?_
      rw [h.timeout]
      exact he c.io.ticks
    · exact ha g
  | link c p f =>
    exact ha.update (f := p) (v := { c.heap p with nextChild := some f }) (ha p) rfl
  | update c f v h => exact pcpFlowUpdated_armed he f (hother f v)
  | close c f h => exact pcpFlowUpdated_armed he f (hother f _)
  | fail c f h => exact ha.update (.of_state (by decide : ¬ FlowState.failed.Waits)) rfl
  | delete c f =>
    intro g
    obtain ⟨k, hk⟩ := (pcpDeleteFlowIntern_deleted c f).heap g
    rw [hk]
    exact ha g

/-! ## Runs -/

theorem Reachable.armed (he : e.ClockPositive) (h : Reachable e c) : AllArmed c := by
  have hkept : KeptByActs e AllArmed := ⟨fun h => h.armed he, fun h => h.armed he, fun _ ha => ha⟩
  exact hkept.reachable h fun _ => .of_state (by decide : ¬ FlowState.idle.Waits)

end Acts

/-- Whatever was called and received, a flow that waits has its timer on, so a pass over the timers
does not skip it. -/
theorem waiting_flow_has_timer {e : Env} {c : Ctx} (he : e.ClockPositive) (h : Reachable e c)
    {f : FlowId} (hf : (c.heap f).state = .send ∨ (c.heap f).state = .waitResp ∨
      (c.heap f).state = .waitAfterShortLifeError) :
    (c.heap f).timeout.isZero = false ∧
      ∀ s, checkFlowTimeout e s c f = lowerTimeout s (fireTimer e c f) f (e.now c.io) := by
  have hz : (c.heap f).timeout.isZero = false := Timeval.not_isZero_of_pos (h.armed he f hf)
  refine ⟨hz, fun s => ?_⟩
  rw [checkFlowTimeout_eq, if_neg (by simp [hz])]

theorem waiting_flow_has_timer_waiting :
    let c := runTo (.calm {}) (fun _ _ => True) 12 {} waitingFlow
    (c.heap 0).state = .waitResp ∧ (c.heap 0).timeout.isZero = false := by
  intro c
  have hst : (c.heap 0).state = .waitResp := by decide +kernel
  have hclock : (Env.calm {}).ClockPositive := fun _ => show 0 < Timeval.us ⟨1000, 0⟩ by decide
  have hreach : Reachable (.calm {}) c := Runs.runTo (by decide +kernel)
  exact ⟨hst, (waiting_flow_has_timer hclock hreach (f := 0) (.inr (.inl hst))).1⟩

end LibPcp
